import Soak.Proofs.Load.DataSet

/-!
# How containers are filled

A population creates each of its containers and gives it all of its items, without a failure
and with the data that are drawn for it (`Populate.does_container`), provided that there is
memory for what its threads need.
-/

namespace Soak

namespace Populate

/-- There is memory for the list of the partitions, for the value of the items, and for their
attributes if they are random. -/
structure Fits (c : Config.Populate) : Prop where
  partitions : c.threads * Partition.bytes ≤ Job.maxBytes
  value : c.valueLen ≤ Job.maxBytes
  attributes : customItems c.itemsPerContainer c.customPercent < c.itemsPerContainer →
    c.attributeTemplate.isEmpty = false → c.randomAttributeLen ≤ Job.maxBytes

/-- The same report a number of times. -/
def Report.times (n : Nat) (r : Report) : Report :=
  ⟨n * r.containersCreated, n * r.itemsAdded, n * r.failures⟩

lemma Report.times_succ (n : Nat) (r : Report) : r.times (n + 1) = (r.times n).add r := by
  simp only [times, add, Nat.succ_mul]

variable {ι : Type} [DecidableEq ι] {t : Tenant ι} {clock : Reading → Prop}
  {pages : Holdings → Except CallError Json → Prop} {b : Config.Backend} {c : Config.Populate}
  {number : Nat} {h : Container.Handle} {name : String} {x y : Holdings}

/-- A loop each of whose rounds reports the same. -/
lemma does_inTurn {perform : Nat → Generator → Job (Report × Generator)} (one : Report)
    (R : Nat → Generator → Holdings → Prop) {first count : Nat}
    (hperform : ∀ n g y, first ≤ n → n < first + count → R n g y →
      t.Does clock pages (perform n g) y fun r z => r.1 = one ∧ R (n + 1) r.2 z)
    {g : Generator} (hx : R first g x) :
    t.Does clock pages (inTurn perform first count g) x fun r y =>
      r.1 = one.times count ∧ R (first + count) r.2 y := by
  unfold inTurn
  refine (Tenant.does_foldRange (fun n (r : Report × Generator) y =>
    r.1 = one.times (n - first) ∧ R n r.2 y) (fun n r y hn hlt hr => ?_) ⟨?_, hx⟩).mono ?_
  · obtain ⟨report, g⟩ := r
    obtain ⟨hreport, hy⟩ := hr
    refine (hperform n g y hn hlt hy).bind ?_
    rintro ⟨next, g'⟩ z ⟨hnext, hz⟩
    refine Tenant.does_pure ⟨?_, hz⟩
    rw [Nat.succ_sub hn, Report.times_succ, ← hreport, ← hnext]
  · simp [Report.times]
  · rintro r y ⟨hr, hy⟩
    exact ⟨by rw [hr, Nat.add_sub_cancel_left], hy⟩

/-- A container has the first `n` of the items that are drawn for it, and nothing else. -/
def Filled (b : Config.Backend) (c : Config.Populate) (number : Nat) (value : String)
    (g : Generator) (n : Nat) (d : Container) : Prop :=
  d.metadata = "" ∧ d.items = (drawItems b c number value g n).1

/-- An item that is not there yet is added. -/
lemma Filled.add {value : String} {g : Generator} {n : Nat} {d : Container}
    (hd : Filled b c number value g n d) :
    (d.respond (.addItem h b.itemType (Naming.bulkItem number (n + 1)) value
        (drawTags c (n + 1) (drawItems b c number value g n).2).1)).1 = .ok () ∧
      Filled b c number value g (n + 1) (d.respond (.addItem h b.itemType
        (Naming.bulkItem number (n + 1)) value
        (drawTags c (n + 1) (drawItems b c number value g n).2).1)).2 := by
  obtain ⟨hmetadata, hitems⟩ := hd
  have hnew : d.items.contains ⟨b.itemType, Naming.bulkItem number (n + 1)⟩ = false := by
    rw [← Bool.not_eq_true, Std.ExtTreeMap.contains_iff_mem, hitems, mem_drawItems]
    rintro ⟨i, -, hle, hkey⟩
    have heq := Naming.bulkItem_inj_right.1 (Item.Key.mk.inj hkey).2
    omega
  simp only [Container.respond, Container.attempt, hnew]
  exact ⟨rfl, hmetadata, by rw [hitems]; rfl⟩

/-- The next item is added. -/
lemma does_item (hfits : Fits c) (hname : name ∈ t.names) {value : String} {g g' : Generator}
    {n : Nat} (hlt : n + 1 < 1 + c.itemsPerContainer)
    (hg : g' = (drawItems b c number value g n).2)
    (hy : x.Ajar name h (Filled b c number value g n) y) :
    t.Does clock pages (item b c number name value h (n + 1) g') y fun r z =>
      r = (⟨0, 1, 0⟩, (drawItems b c number value g (n + 1)).2) ∧
        x.Ajar name h (Filled b c number value g (n + 1)) z := by
  subst hg
  have hmemory (hrandom : customItems c.itemsPerContainer c.customPercent < n + 1 ∧
      ¬ c.attributeTemplate.isEmpty = true) : c.randomAttributeLen * 1 ≤ Job.maxBytes := by
    exact (Nat.mul_one _).trans_le
      (hfits.attributes (by omega) (eq_false_of_ne_true hrandom.2))
  have hadded : t.Does clock pages (Job.call (.addItem h b.itemType
      (Naming.bulkItem number (n + 1)) value
      (drawTags c (n + 1) (drawItems b c number value g n).2).1)) y fun a z =>
        a = .ok () ∧ x.Ajar name h (Filled b c number value g (n + 1)) z :=
    Tenant.does_within rfl hname hy fun d hd => hd.add
  unfold item
  dsimp only
  split
  case' isTrue hrandom => rw [Job.reserve_of_le (hmemory hrandom), pure_bind]
  all_goals
    refine hadded.bind ?_
    rintro _ z ⟨rfl, hz⟩
    exact Tenant.does_pure ⟨rfl, hz⟩

/-- **A container is created and filled without a failure**, with the data that are drawn for
it. -/
lemma does_container (hread : b.Readable) (hfits : Fits c)
    (hname : Naming.container b.containerPrefix number ∈ t.names)
    (hx : x.container (Naming.container b.containerPrefix number) = none) (g : Generator) :
    t.Does clock pages (container b c number g) x fun r y =>
      r = (⟨1, c.itemsPerContainer, 0⟩, (drawContainer b c number g).2) ∧
        y = x.put (Naming.container b.containerPrefix number)
          (some (drawContainer b c number g).1) := by
  unfold container
  refine (Tenant.does_create hname (Naming.container_ne_empty _ _) hx hread.1 hread.2 _).bind ?_
  rintro _ y ⟨rfl, rfl⟩
  refine (Tenant.does_enter (Filled b c number (g.alphanumeric c.valueLen).1
    (g.alphanumeric c.valueLen).2 0) hname Holdings.put_container_self rfl hread.2
    fun _ => ⟨rfl, rfl⟩).bind ?_
  rintro _ y ⟨h, rfl, hempty⟩
  dsimp only
  rw [Job.reserve_of_le ((Nat.mul_one _).trans_le hfits.value), pure_bind]
  -- before item `n`, the container has the items below it
  refine (does_inTurn ⟨0, 1, 0⟩ (fun n g' y =>
    g' = (drawItems b c number (g.alphanumeric c.valueLen).1 (g.alphanumeric c.valueLen).2
      (n - 1)).2 ∧ Holdings.Ajar _ _ h (Filled b c number (g.alphanumeric c.valueLen).1
        (g.alphanumeric c.valueLen).2 (n - 1)) y) ?_ ⟨rfl, hempty⟩).bind ?_
  · rintro n g' y hn hlt ⟨hg, hy⟩
    obtain ⟨n, rfl⟩ := Nat.exists_eq_add_of_le' hn
    refine (does_item hfits hname hlt hg hy).mono ?_
    rintro _ z ⟨rfl, hz⟩
    exact ⟨rfl, rfl, hz⟩
  rintro ⟨filled, _⟩ y ⟨hfilled, rfl, hajar⟩
  refine (Tenant.does_leave hname hajar).bind ?_
  rintro _ y ⟨rfl, d, ⟨hmetadata, hitems⟩, rfl⟩
  rw [Nat.add_sub_cancel_left] at hitems ⊢
  obtain rfl : filled = _ := hfilled
  refine Tenant.does_pure ⟨?_, ?_⟩
  · simp [Report.add, Report.times, drawContainer]
  · rw [Holdings.put_put, hmetadata, hitems]
    rfl

end Populate

end Soak
