import Soak.Proofs.Load.Books
import Soak.Proofs.Session.Errand

/-!
# What bulk adding adds, and bulk deleting takes away

`Load.Added` says what an action that adds something has made of a container if none of its calls
failed.  What was in the container before does not matter: the numbered items that are added are a
`Container.Surplus` over the others.

The calls of the action may fail, and then nothing is claimed (`Load.does_adding`).  But what has
been added is taken away by `Action.inverse?` without a failure, and leaves no trace
(`Load.does_undoing`).
-/

namespace Soak

/-- The numbered items of `e` are a surplus over those of `d`: they are not in `d`, and apart from
them, there is no difference. -/
structure Container.Surplus (itemType : String) (number : Nat) (items : Finset Nat)
    (d e : Container) : Prop where
  metadata : e.metadata = d.metadata
  fresh : ∀ i ∈ items, ⟨itemType, Naming.bulkItem number i⟩ ∉ d.items
  added : ∀ i ∈ items, ⟨itemType, Naming.bulkItem number i⟩ ∈ e.items
  others : ∀ key : Item.Key, (∀ i ∈ items, key ≠ ⟨itemType, Naming.bulkItem number i⟩) →
    e.items[key]? = d.items[key]?

namespace Container.Surplus

variable {itemType : String} {number n : Nat} {items : Finset Nat} {d e e' : Container}

lemma empty (hmetadata : e.metadata = d.metadata) (hitems : e.items = d.items) :
    Surplus itemType number ∅ d e :=
  ⟨hmetadata, by simp, by simp, fun _ _ => by rw [hitems]⟩

lemma of_items (h : Surplus itemType number items d e) (hmetadata : e'.metadata = e.metadata)
    (hitems : e'.items = e.items) : Surplus itemType number items d e' :=
  ⟨hmetadata.trans h.metadata, h.fresh, hitems ▸ h.added, hitems ▸ h.others⟩

/-- When there is no surplus, the container is as it was. -/
lemma closed_eq (h : Surplus itemType number ∅ d e) (hclosed : d.openHandle = none) :
    { e with openHandle := none } = d := by
  have hitems : e.items = d.items := Std.ExtTreeMap.ext_getElem? fun key => h.others key (by simp)
  rw [h.metadata, hitems, ← hclosed]

lemma key_ne {i j : Nat} (h : i ≠ j) :
    (⟨itemType, Naming.bulkItem number i⟩ : Item.Key) ≠ ⟨itemType, Naming.bulkItem number j⟩ :=
  fun heq => h (Naming.bulkItem_inj_right.1 (Item.Key.mk.inj heq).2)

/-- An item that can be added was not there. -/
lemma add (h : Surplus itemType number items d e) (handle : Container.Handle) (value : String)
    (attributes : Attributes)
    (hok : (e.respond (.addItem handle itemType (Naming.bulkItem number n) value attributes)).1 =
      .ok ()) :
    Surplus itemType number (insert n items) d
      (e.respond (.addItem handle itemType (Naming.bulkItem number n) value attributes)).2 := by
  cases hthere : e.items.contains ⟨itemType, Naming.bulkItem number n⟩ with
  | true => simp [respond, attempt, hthere] at hok
  | false =>
    have hnot : (⟨itemType, Naming.bulkItem number n⟩ : Item.Key) ∉ e.items := by
      rwa [← Std.ExtTreeMap.contains_iff_mem, Bool.not_eq_true]
    have hnew : n ∉ items := fun hn => hnot (h.added n hn)
    have hsame := h.others ⟨itemType, Naming.bulkItem number n⟩
      fun i hi => key_ne fun heq => hnew (heq ▸ hi)
    simp only [respond, attempt, hthere, Bool.false_eq_true, if_false]
    refine ⟨h.metadata, ?_, ?_, fun key hkey => ?_⟩
    · intro i hi
      obtain rfl | hi := Finset.mem_insert.1 hi
      · rw [Std.ExtTreeMap.mem_iff_isSome_getElem?, ← hsame,
          ← Std.ExtTreeMap.mem_iff_isSome_getElem?]
        exact hnot
      · exact h.fresh i hi
    · intro i hi
      rw [Std.ExtTreeMap.mem_insert]
      obtain rfl | hi := Finset.mem_insert.1 hi
      · exact .inl Std.ReflCmp.compare_self
      · exact .inr (h.added i hi)
    · rw [Std.ExtTreeMap.getElem?_insert, if_neg]
      · exact h.others key fun i hi => hkey i (Finset.mem_insert_of_mem hi)
      · rw [Std.LawfulEqCmp.compare_eq_iff_eq]
        exact (hkey n (Finset.mem_insert_self n items)).symm

/-- An item of the surplus can be deleted. -/
lemma delete (h : Surplus itemType number items d e) (hn : n ∈ items) (handle : Container.Handle) :
    (e.respond (.deleteItem handle itemType (Naming.bulkItem number n))).1 = .ok () ∧
      Surplus itemType number (items.erase n) d
        (e.respond (.deleteItem handle itemType (Naming.bulkItem number n))).2 := by
  have hthere : e.items.contains ⟨itemType, Naming.bulkItem number n⟩ = true :=
    Std.ExtTreeMap.contains_iff_mem.2 (h.added n hn)
  simp only [respond, attempt, hthere, if_true, true_and]
  refine ⟨h.metadata, fun i hi => h.fresh i (Finset.mem_of_mem_erase hi), fun i hi => ?_,
    fun key hkey => ?_⟩
  · obtain ⟨hne, hi⟩ := Finset.mem_erase.1 hi
    rw [Std.ExtTreeMap.mem_erase, Ne, Std.LawfulEqCmp.compare_eq_iff_eq]
    exact ⟨key_ne hne.symm, h.added i hi⟩
  · rw [Std.ExtTreeMap.getElem?_erase]
    split
    · next heq =>
      obtain rfl := Std.LawfulEqCmp.compare_eq_iff_eq.1 heq
      exact (getElem?_neg _ _ (h.fresh n hn)).symm
    · next hne =>
      refine h.others key fun i hi heq => ?_
      by_cases hin : i = n
      · exact hne (by rw [heq, hin]; exact Std.ReflCmp.compare_self)
      · exact hkey i (Finset.mem_erase.2 ⟨hin, hi⟩) heq

end Container.Surplus

/-- The action that takes away what an action adds, if it adds containers or items. -/
def Action.inverse? : Action → Option Action
  | addContainer => some deleteContainer
  | addItem => some deleteItem
  | _ => none

@[simp] lemma Action.inverse?_addContainer : inverse? .addContainer = some .deleteContainer := rfl

@[simp] lemma Action.inverse?_addItem : inverse? .addItem = some .deleteItem := rfl

/-- Nothing has failed if nothing of it has. -/
lemma Tally.failures_sum_eq_zero {tallies : List Tally} :
    (Tally.sum tallies).failures = 0 ↔ ∀ t ∈ tallies, t.failures = 0 := by
  induction tallies with
  | nil => simp [Tally.sum]
  | cons t rest ih =>
    rw [Tally.sum_cons, List.forall_mem_cons, ← ih, Tally.add, Nat.add_eq_zero_iff]

namespace Load

open Longevity (namesIn mem_namesIn)

/-- What an action has made of a container if none of its calls failed; the credentials are a JSON
text then. -/
def Added (b : Config.Backend) (items number : Nat) : Action → Option Container →
    Option Container → Prop
  | .addContainer, c, c' => (Json.ofText? b.credentials).isSome ∧ c = none ∧ c' = some .empty
  | .addItem, c, c' => (Json.ofText? b.credentials).isSome ∧ ∃ d e, c = some d ∧
    d.openHandle = none ∧ c' = some e ∧ e.openHandle = none ∧
      Container.Surplus b.itemType number (Finset.Icc 1 items) d e
  | _, _, _ => False

/-- Afterwards there is a container. -/
lemma Added.isSome {b : Config.Backend} {items number : Nat} {action : Action}
    {c c' : Option Container} (h : Added b items number action c c') : c'.isSome := by
  cases action with
  | addContainer =>
    obtain ⟨-, -, rfl⟩ := h
    rfl
  | addItem =>
    obtain ⟨-, d, e, -, -, rfl, -⟩ := h
    rfl
  | _ => exact h.elim

variable {ι : Type} [DecidableEq ι] {t : Tenant ι} {clock : Reading → Prop}
  {pages : Holdings → Except CallError Json → Prop} {c : LoadContext} {number : Nat}
  {h : Container.Handle} {name : String} {x y : Holdings}

/-! ### Adding -/

/-- A call that is not counted as failed has succeeded. -/
lemma does_settle {α : Type} (target : Target) (what : String) (a : Except CallError α) :
    t.Does clock pages (target.settle what a) x fun tally y =>
      (tally.failures = 0 → ∃ v, a = .ok v) ∧ y = x := by
  cases a with
  | ok v => exact Tenant.does_pure ⟨fun _ => ⟨v, rfl⟩, rfl⟩
  | error e => exact (Tenant.does_log _).bind fun _ y hy => hy ▸ Tenant.does_pure ⟨nofun, rfl⟩

/-- Items are added one after another to an open container, which has them all in the end unless
a call has failed. -/
lemma does_addItems (hname : name ∈ t.names) {d : Container}
    (hy : x.Ajar name h (Container.Surplus c.backend.itemType number ∅ d) y) :
    t.Does clock pages (Action.execute c ⟨number, name, some h⟩ .addItem) y fun tally z =>
      x.Ajar name h (fun e => tally.failures = 0 →
        Container.Surplus c.backend.itemType number (Finset.Icc 1 c.items) d e) z := by
  rw [Action.execute, Target.eachItem]
  refine (Tenant.does_collect (fun i tallies => x.Ajar name h fun e =>
    (∀ tally ∈ tallies, tally.failures = 0) →
      Container.Surplus c.backend.itemType number (Finset.Icc 1 (i - 1)) d e)
    (fun i tallies y hi hlt hy => ?_) ?_).bind fun tallies z hz => Tenant.does_pure ?_
  · obtain ⟨e, hopen, hsurplus, rfl⟩ := hy
    refine (Tenant.does_inside rfl hname Holdings.put_container_self hopen).bind ?_
    rintro _ _ ⟨rfl, rfl⟩
    refine (does_settle _ _ _).mono ?_
    rintro tally _ ⟨hok, rfl⟩
    refine ⟨_, by rwa [Container.respond_openHandle], fun hclean => ?_, Holdings.put_put _⟩
    obtain ⟨⟨⟩, hok⟩ := hok (hclean tally (by simp))
    have hnext : insert i (Finset.Icc 1 (i - 1)) = Finset.Icc 1 (i + 1 - 1) := by
      ext j
      simp only [Finset.mem_insert, Finset.mem_Icc]
      omega
    rw [← hnext]
    exact (hsurplus fun u hu => hclean u (List.mem_append_left _ hu)).add h _ _ hok
  · obtain ⟨e, hopen, hsurplus, rfl⟩ := hy
    exact ⟨e, hopen, fun _ => hsurplus, rfl⟩
  · rw [Nat.add_sub_cancel_left] at hz
    obtain ⟨e, hopen, hsurplus, rfl⟩ := hz
    exact ⟨e, hopen, fun hclean => hsurplus (Tally.failures_sum_eq_zero.1 hclean), rfl⟩

/-- A container is created where there was none, or the call has failed. -/
lemma does_addContainer (hname : name ∈ t.names) (hne : name ≠ "") :
    t.Does clock pages (Action.execute c ⟨number, name, none⟩ .addContainer) x fun tally y =>
      ∃ d, y = x.put name d ∧ (tally.failures = 0 →
        Added c.backend c.items number .addContainer (x.container name) d) := by
  rw [Action.execute]
  refine (Tenant.does_create_any hname hne _ _ _).bind ?_
  rintro _ _ (⟨⟨e, rfl⟩, rfl⟩ | ⟨rfl, hread, hnone, rfl⟩)
  · refine (does_settle _ _ _).mono ?_
    rintro tally _ ⟨hok, rfl⟩
    refine ⟨_, (Holdings.put_self rfl).symm, fun hclean => ?_⟩
    obtain ⟨v, ⟨⟩⟩ := hok hclean
  · refine (does_settle _ _ _).mono ?_
    rintro tally _ ⟨-, rfl⟩
    exact ⟨_, rfl, fun _ => ⟨hread, hnone, rfl⟩⟩

/-- **An action that adds something** changes nothing but its container, and has added what it
should unless a call has failed. -/
lemma does_adding {action back : Action} (hback : action.inverse? = some back)
    (hname : Naming.container c.backend.containerPrefix number ∈ t.names) :
    t.Does clock pages (container c action number) x fun share y => ∃ d,
      y = x.put (Naming.container c.backend.containerPrefix number) d ∧
        (share.tally.failures = 0 → Added c.backend c.items number action
          (x.container (Naming.container c.backend.containerPrefix number)) d) := by
  unfold container
  cases action with
  | addContainer =>
    refine (does_perform (does_addContainer hname (Naming.container_ne_empty _ _))).mono ?_
    rintro share y ⟨-, hy⟩
    exact hy
  | addItem =>
    refine (Tenant.does_open_any hname _).bind ?_
    rintro _ y (⟨⟨e, rfl⟩, rfl⟩ | ⟨h, d, rfl, hread, hd, hclosed, rfl⟩)
    · refine (Tenant.does_log _).bind fun _ y hy => hy ▸ Tenant.does_pure ?_
      exact ⟨_, (Holdings.put_self rfl).symm, nofun⟩
    · have hopen : x.Ajar (Naming.container c.backend.containerPrefix number) h
          (Container.Surplus c.backend.itemType number ∅ d)
          (x.put _ (some { d with openHandle := some h.number })) :=
        ⟨{ d with openHandle := some h.number }, rfl, .empty rfl rfl, rfl⟩
      refine (does_perform (does_addItems hname hopen)).bind ?_
      rintro share y ⟨-, hy⟩
      refine (Tenant.does_leave hname hy).bind ?_
      rintro _ y ⟨rfl, e, hsurplus, rfl⟩
      refine Tenant.does_pure ⟨_, rfl, fun hclean => ⟨hread, d, _, hd, hclosed, rfl, rfl, ?_⟩⟩
      exact (hsurplus hclean).of_items rfl rfl
  | _ => cases hback

/-! ### Taking away -/

/-- The items of a surplus are deleted one after another. -/
lemma does_deleteItems (hname : name ∈ t.names) {d : Container}
    (hy : x.Ajar name h (Container.Surplus c.backend.itemType number (Finset.Icc 1 c.items) d) y) :
    t.Does clock pages (Action.execute c ⟨number, name, some h⟩ .deleteItem) y fun tally z =>
      tally = ⟨c.items, 0⟩ ∧ x.Ajar name h (Container.Surplus c.backend.itemType number ∅ d) z := by
  rw [Action.execute]
  -- before item `i`, the items from it on are left
  refine does_eachItem
    (fun i => Container.Surplus c.backend.itemType number (Finset.Icc i c.items) d) hy
    (fun i y hi hlt hy => ?_) fun z hz => ⟨rfl, ?_⟩
  · have hnext : (Finset.Icc i c.items).erase i = Finset.Icc (i + 1) c.items := by
      ext j
      simp only [Finset.mem_erase, Finset.mem_Icc]
      omega
    exact hnext ▸ Tenant.does_within rfl hname hy fun e he =>
      he.delete (Finset.mem_Icc.2 ⟨Nat.le_refl i, by omega⟩) h
  · rwa [Finset.Icc_eq_empty (by omega)] at hz

/-- An empty container is deleted. -/
lemma does_deleteContainer (hread : (Json.ofText? c.backend.credentials).isSome)
    (hname : name ∈ t.names) (hd : x.container name = some .empty) :
    t.Does clock pages (Action.execute c ⟨number, name, none⟩ .deleteContainer) x fun tally y =>
      tally = ⟨1, 0⟩ ∧ y = x.put name none := by
  rw [Action.execute]
  refine does_attempt ((Tenant.does_delete hname _).mono ?_)
  rintro _ y ⟨rfl, rfl⟩
  have hok : Tenant.removal c.backend.credentials name (some .empty) = .ok () := by
    simp [Tenant.removal, hread, Container.empty]
  rw [hd, hok]
  exact ⟨⟨_, rfl⟩, rfl⟩

/-- **What has been added is taken away** without a failure, and nothing is left of it. -/
lemma does_undoing {action back : Action} (hback : action.inverse? = some back)
    (hname : Naming.container c.backend.containerPrefix number ∈ t.names) {d : Option Container}
    (hadded : Added c.backend c.items number action d
      (x.container (Naming.container c.backend.containerPrefix number))) :
    t.Does clock pages (container c back number) x fun share y => share.tally.failures = 0 ∧
      y = x.put (Naming.container c.backend.containerPrefix number) d := by
  unfold container
  cases action with
  | addContainer =>
    obtain rfl := Option.some.inj hback
    obtain ⟨hread, rfl, hd⟩ := hadded
    refine (does_perform (does_deleteContainer hread hname hd)).mono ?_
    rintro share y ⟨-, htally, hy⟩
    exact ⟨congrArg Tally.failures htally, hy⟩
  | addItem =>
    obtain rfl := Option.some.inj hback
    obtain ⟨hread, d, e, rfl, hclosed, he, hclosed', hsurplus⟩ := hadded
    refine (Tenant.does_enter (Container.Surplus c.backend.itemType number (Finset.Icc 1 c.items) d)
      hname he hclosed' hread fun _ => hsurplus.of_items rfl rfl).bind ?_
    rintro _ y ⟨h, rfl, hy⟩
    refine (does_perform (does_deleteItems hname hy)).bind ?_
    rintro share y ⟨-, htally, hy⟩
    refine (Tenant.does_leave hname hy).bind ?_
    rintro _ y ⟨rfl, e', hsurplus', rfl⟩
    rw [hsurplus'.closed_eq hclosed]
    exact Tenant.does_pure ⟨congrArg Tally.failures htally, rfl⟩
  | _ => cases hback

/-! ### Threads -/

variable {first count : Nat} {action back : Action}

/-- A thread that adds to all of its containers. -/
lemma does_containers_adding (hback : action.inverse? = some back)
    (hmemory : count * 16 ≤ Job.maxBytes)
    (hnames : namesIn c.backend first (first + count) ⊆ t.names) (hsearch : x.search = none) :
    t.Does clock pages (containers c action first count) x fun share y => y.search = none ∧
      (share.tally.failures = 0 → ∀ n, first ≤ n → n < first + count →
        Added c.backend c.items n action
          (x.container (Naming.container c.backend.containerPrefix n))
          (y.container (Naming.container c.backend.containerPrefix n))) := by
  unfold containers Job.reserveSpans
  rw [Job.reserve_of_le hmemory]
  refine (Tenant.does_collect (fun n shares y => y.search = none ∧
    (∀ m, n ≤ m → y.container (Naming.container c.backend.containerPrefix m) =
      x.container (Naming.container c.backend.containerPrefix m)) ∧
    ((∀ share ∈ shares, share.tally.failures = 0) → ∀ m, first ≤ m → m < n →
      Added c.backend c.items m action
        (x.container (Naming.container c.backend.containerPrefix m))
        (y.container (Naming.container c.backend.containerPrefix m))))
    (fun n shares y hn hlt hy => ?_)
    ⟨hsearch, fun _ _ => rfl, fun _ m hm hlt => absurd hlt (Nat.not_lt.2 hm)⟩).bind ?_
  · obtain ⟨hsearch', hsame, hadded⟩ := hy
    refine (does_adding hback (hnames (mem_namesIn.2 ⟨hn, hlt⟩))).mono ?_
    rintro share _ ⟨d, rfl, hd⟩
    refine ⟨hsearch', fun m hm => ?_, fun hclean m hm hlt' => ?_⟩
    · rw [Holdings.put_container_of_ne fun h => by rw [Naming.container_inj] at h; omega]
      exact hsame m (by omega)
    · obtain rfl | hne := eq_or_ne m n
      · rw [Holdings.put_container_self, ← hsame m (Nat.le_refl m)]
        exact hd (hclean share (by simp))
      · rw [Holdings.put_container_of_ne fun h => hne (Naming.container_inj.1 h)]
        exact hadded (fun u hu => hclean u (List.mem_append_left _ hu)) m hm (by omega)
  · rintro shares y ⟨hsearch', -, hadded⟩
    refine Tenant.does_pure ⟨hsearch', fun hclean => hadded fun share hshare => ?_⟩
    exact Tally.failures_sum_eq_zero.1 hclean _ (List.mem_map_of_mem hshare)

/-- A thread that takes away from all of its containers what has been added to what there was
`before`. -/
lemma does_containers_undoing (hback : action.inverse? = some back)
    (hmemory : count * 16 ≤ Job.maxBytes)
    (hnames : namesIn c.backend first (first + count) ⊆ t.names) (hsearch : x.search = none)
    {before : Nat → Option Container}
    (hadded : ∀ n, first ≤ n → n < first + count → Added c.backend c.items n action (before n)
      (x.container (Naming.container c.backend.containerPrefix n))) :
    t.Does clock pages (containers c back first count) x fun share y => y.search = none ∧
      share.tally.failures = 0 ∧ ∀ n, first ≤ n → n < first + count →
        y.container (Naming.container c.backend.containerPrefix n) = before n := by
  unfold containers Job.reserveSpans
  rw [Job.reserve_of_le hmemory]
  refine (Tenant.does_mapRange (fun share : Share => share.tally.failures = 0)
    (Holdings.Midway (Naming.container c.backend.containerPrefix)
      (fun n => Added c.backend c.items n action (before n)) (fun n d => d = before n) first count)
    (fun n y hn hlt hy => ?_) (.start hsearch hadded)).bind ?_
  · refine (does_undoing hback (hnames (mem_namesIn.2 ⟨hn, hlt⟩)) (hy.now hn hlt)).mono ?_
    rintro share _ ⟨hclean, rfl⟩
    exact ⟨hclean, hy.next (fun _ _ h => Naming.container_inj.1 h) rfl⟩
  · rintro shares y ⟨-, hclean, hy⟩
    refine Tenant.does_pure ⟨hy.search, ?_, fun n hn hlt => hy.finish hn hlt⟩
    exact Tally.failures_sum_eq_zero.2 (by simpa using hclean)

end Load

end Soak
