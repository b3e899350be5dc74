import Mathlib.Tactic.Common
import Soak.Longevity.Run
import Soak.Proofs.Session.Memory

/-!
# The workers of a run and their shares

A configuration that makes sense shares its containers out evenly and keeps the ceiling of
its policy below the highest regular counter.

No container belongs to two workers: that is what `Crew` says of their views, and what
`Crew.of_split` shows of the partitions that the containers are split into.  A worker never
leaves its share, because the container that it picks lies in it.
-/

namespace Soak

namespace Generator

lemma below_lt {range : Nat} (h : 0 < range) (g : Generator) : (g.below range).1 < range := by
  unfold below
  split
  · exact belowFuel_lt h patience g
  · next hbig =>
    have hword : g.nextLong.1.toNat < 2 ^ 64 := g.nextLong.1.toNat_lt
    show g.nextLong.1.toNat < range
    omega

/-- A draw stays in its range. -/
lemma natIn_mem {low high : Nat} (h : low ≤ high) (g : Generator) :
    low ≤ (g.natIn low high).1 ∧ (g.natIn low high).1 ≤ high := by
  have hlt := below_lt (show 0 < high + 1 - low by omega) g
  show low ≤ low + (g.below (high + 1 - low)).1 ∧ low + (g.below (high + 1 - low)).1 ≤ high
  omega

end Generator

namespace Partition

variable {total workers : Nat} {parts : List Partition}

lemma contains_iff {p : Partition} {n : Nat} : p.contains n = true ↔ p.min ≤ n ∧ n ≤ p.max := by
  simp [contains]

lemma checkEven_eq_ok_iff :
    checkEven total workers = .ok () ↔ workers ≠ 0 ∧ total ≠ 0 ∧ total % workers = 0 := by
  unfold checkEven
  split
  · next h => simp [h]
  · next h =>
    split
    · next h' =>
      simp only [reduceCtorEq, false_iff]
      omega
    · next h' =>
      simp only [true_iff]
      omega

/-- What a split consists of: the shares of the workers, all of the same positive size. -/
lemma split_eq_ok_iff : split total workers = .ok parts ↔
    ∃ share, 0 < share ∧ 0 < workers ∧ total = workers * share ∧
      parts = (List.range workers).map (ofShare share) := by
  unfold split
  constructor
  · intro h
    split at h
    · cases h
    · next hok =>
      obtain ⟨hw, ht, hmod⟩ := checkEven_eq_ok_iff.1 hok
      obtain ⟨share, rfl⟩ := Nat.dvd_of_mod_eq_zero hmod
      have hshare : share ≠ 0 := by
        rintro rfl
        simp at ht
      rw [Nat.mul_div_cancel_left share (Nat.pos_of_ne_zero hw)] at h
      cases h
      exact ⟨share, Nat.pos_of_ne_zero hshare, Nat.pos_of_ne_zero hw, rfl, rfl⟩
  · rintro ⟨share, hshare, hw, rfl, rfl⟩
    have hok : checkEven (workers * share) workers = .ok () :=
      checkEven_eq_ok_iff.2 ⟨by omega, Nat.mul_ne_zero (by omega) (by omega), by simp⟩
    simp only [hok]
    rw [Nat.mul_div_cancel_left share hw]

/-- What can be shared out evenly is shared out. -/
lemma exists_split (h : checkEven total workers = .ok ()) :
    ∃ parts, split total workers = .ok parts := by
  unfold split
  rw [h]
  exact ⟨_, rfl⟩

/-- Containers can be split among any number of workers that divides their number. -/
lemma exists_split_of_dvd (hpos : 0 < total) (hdvd : workers ∣ total) :
    ∃ parts, split total workers = .ok parts := by
  obtain ⟨share, rfl⟩ := hdvd
  exact ⟨_, split_eq_ok_iff.2
    ⟨share, Nat.pos_of_mul_pos_left hpos, Nat.pos_of_mul_pos_right hpos, rfl, rfl⟩⟩

lemma length_of_split (h : split total workers = .ok parts) : parts.length = workers := by
  obtain ⟨share, -, -, -, rfl⟩ := split_eq_ok_iff.1 h
  simp

/-- All shares of a split have the same size. -/
lemma size_of_split (h : split total workers = .ok parts) {p : Partition} (hp : p ∈ parts) :
    p.size = total / workers := by
  obtain ⟨share, hshare, hworkers, rfl, rfl⟩ := split_eq_ok_iff.1 h
  obtain ⟨k, -, rfl⟩ := List.mem_map.1 hp
  have hnext : (k + 1) * share = k * share + share := Nat.succ_mul k share
  rw [Nat.mul_div_cancel_left share hworkers]
  simp only [size, ofShare]
  omega

lemma length_mul_of_split (h : split total workers = .ok parts) :
    parts.length * (total / workers) = total := by
  obtain ⟨share, hshare, hworkers, rfl, rfl⟩ := split_eq_ok_iff.1 h
  rw [Nat.mul_div_cancel_left share hworkers, List.length_map, List.length_range]

/-- Ranges of the same length, one after another, make up one range. -/
lemma flatMap_range' (first share workers : Nat) :
    ((List.range workers).flatMap fun k => List.range' (k * share + first) share) =
      List.range' first (workers * share) := by
  induction workers with
  | zero => simp
  | succ workers ih =>
    rw [List.range_succ, List.flatMap_append, ih, List.flatMap_singleton, Nat.succ_mul,
      Nat.add_comm (workers * share) first, List.range'_append_1]

end Partition

/-- The shares of the workers fit the containers: none is empty, none reaches beyond the
last container, and no container belongs to two of them. -/
structure Crew {ι : Type} (view : ι → Partition) (total : Nat) : Prop where
  ordered : ∀ i, (view i).min ≤ (view i).max
  within : ∀ i, (view i).max < total
  apart : ∀ i j n, (view i).contains n = true → (view j).contains n = true → i = j

lemma Crew.lt_total {ι : Type} {view : ι → Partition} {total : Nat} (h : Crew view total) {i : ι}
    {n : Nat} (hn : (view i).contains n = true) : n < total :=
  Nat.lt_of_le_of_lt (Partition.contains_iff.1 hn).2 (h.within i)

/-- A worker that is alone may have any share of the containers. -/
lemma Crew.of_one {p : Partition} {total : Nat} (hordered : p.min ≤ p.max)
    (hwithin : p.max < total) : Crew (fun _ : Unit => p) total where
  ordered _ := hordered
  within _ := hwithin
  apart _ _ _ _ _ := rfl

/-- The partitions of a split are the shares of a crew. -/
lemma Crew.of_split {total workers : Nat} {parts : List Partition}
    (h : Partition.split total workers = .ok parts) :
    Crew (fun k : Fin parts.length => parts.get k) total := by
  obtain ⟨share, hshare, hw, rfl, rfl⟩ := Partition.split_eq_ok_iff.1 h
  have hnext (k : Nat) : (k + 1) * share = k * share + share := Nat.succ_mul k share
  constructor
  · intro k
    simp only [List.get_eq_getElem, List.getElem_map, List.getElem_range, Partition.ofShare]
    have := hnext k
    omega
  · intro k
    have hk : (k : Nat) + 1 ≤ workers := by
      simpa only [List.length_map, List.length_range] using Nat.succ_le_of_lt k.isLt
    simp only [List.get_eq_getElem, List.getElem_map, List.getElem_range, Partition.ofShare]
    have := Nat.mul_le_mul_right share hk
    have := hnext k
    omega
  · intro i j n hi hj
    simp only [List.get_eq_getElem, List.getElem_map, List.getElem_range, Partition.ofShare,
      Partition.contains_iff] at hi hj
    -- of two shares, the lower one ends before the other begins
    have order : ∀ a b : Nat, a * share ≤ n ∧ n ≤ (a + 1) * share - 1 →
        b * share ≤ n ∧ n ≤ (b + 1) * share - 1 → ¬ a < b := by
      intro a b ha hb hab
      have := Nat.mul_le_mul_right share (show a + 1 ≤ b from hab)
      have := hnext a
      omega
    have h1 := order i j hi hj
    have h2 := order j i hj hi
    exact Fin.ext (by omega)

/-- Every container belongs to a worker. -/
lemma Partition.exists_owner {total workers : Nat} {parts : List Partition}
    (h : split total workers = .ok parts) {n : Nat} (hn : n < total) :
    ∃ k : Fin parts.length, (parts.get k).contains n = true := by
  obtain ⟨share, hshare, hw, rfl, rfl⟩ := split_eq_ok_iff.1 h
  have hlt : n / share < workers := (Nat.div_lt_iff_lt_mul hshare).2 hn
  refine ⟨⟨n / share, by simpa using hlt⟩, ?_⟩
  simp only [List.get_eq_getElem, List.getElem_map, List.getElem_range, ofShare, contains_iff]
  have h1 := Nat.div_mul_le_self n share
  have h2 := Nat.lt_div_mul_add (a := n) hshare
  have h3 : (n / share + 1) * share = n / share * share + share := Nat.succ_mul _ _
  omega

/-! ### The shares by their places

Threads are numbered in the order of the partitions that they work on.
-/

namespace Partition

variable {total workers : Nat} {parts : List Partition} {j k n : Nat} {p q : Partition}

lemma ordered_of_split (h : split total workers = .ok parts) (hp : parts[k]? = some p) :
    p.min ≤ p.max := by
  obtain ⟨hk, rfl⟩ := List.getElem?_eq_some_iff.1 hp
  exact (Crew.of_split h).ordered ⟨k, hk⟩

lemma lt_total_of_split (h : split total workers = .ok parts) (hp : parts[k]? = some p)
    (hn : p.contains n = true) : n < total := by
  obtain ⟨hk, rfl⟩ := List.getElem?_eq_some_iff.1 hp
  exact (Crew.of_split h).lt_total (i := ⟨k, hk⟩) hn

/-- A number has one place. -/
lemma place_unique (h : split total workers = .ok parts) (hp : parts[j]? = some p)
    (hq : parts[k]? = some q) (hn : p.contains n = true) (hn' : q.contains n = true) : j = k := by
  obtain ⟨hj, rfl⟩ := List.getElem?_eq_some_iff.1 hp
  obtain ⟨hk, rfl⟩ := List.getElem?_eq_some_iff.1 hq
  exact Fin.mk.inj_iff.1 ((Crew.of_split h).apart ⟨j, hj⟩ ⟨k, hk⟩ n hn hn')

/-- A number has a place. -/
lemma exists_place (h : split total workers = .ok parts) (hn : n < total) :
    ∃ (k : Nat) (p : Partition), parts[k]? = some p ∧ p.contains n = true := by
  obtain ⟨⟨k, hk⟩, hcontains⟩ := exists_owner h hn
  exact ⟨k, _, List.getElem?_eq_getElem hk, hcontains⟩

end Partition

namespace Longevity

lemma bind_eq_ok {ε α β : Type} {x : Except ε α} {f : α → Except ε β} {b : β} :
    x >>= f = .ok b ↔ ∃ a, x = .ok a ∧ f a = .ok b := by
  cases x with
  | error e => simp [bind, Except.bind]
  | ok a => simp [bind, Except.bind]

/-- What a configuration that makes sense promises. -/
lemma validate_eq_ok {c : Config.Longevity} (h : c.validate = .ok ()) :
    Partition.checkEven c.totalContainers c.workers = .ok () ∧ c.policy.validate = .ok () ∧
      c.policy.ceiling ≤ c.maxItems := by
  obtain ⟨⟨⟩, hshare, h⟩ := bind_eq_ok.1 h
  dsimp only at h
  by_cases hneg : c.maxItems < 0
  · rw [if_pos hneg] at h
    cases h
  · rw [if_neg hneg] at h
    obtain ⟨-, -, h⟩ := bind_eq_ok.1 h
    obtain ⟨⟨⟩, hpolicy, h⟩ := bind_eq_ok.1 h
    by_cases hlow : c.maxItems < c.policy.ceiling
    · rw [if_pos hlow] at h
      cases h
    · exact ⟨hshare, hpolicy, Int.not_lt.1 hlow⟩

variable {b : Config.Backend} {c : Config.Longevity} {parts : List Partition}

/-- The containers of a configuration that makes sense, at least one, can be shared out. -/
lemma exists_split (hvalid : c.validate = .ok ()) :
    ∃ parts, Partition.split c.totalContainers c.workers = .ok parts ∧ 0 < c.totalContainers := by
  obtain ⟨heven, -, -⟩ := validate_eq_ok hvalid
  obtain ⟨parts, hsplit⟩ := Partition.exists_split heven
  obtain ⟨share, hshare, hworkers, htotal, -⟩ := Partition.split_eq_ok_iff.1 hsplit
  exact ⟨parts, hsplit, htotal ▸ Nat.mul_pos hworkers hshare⟩

/-- With memory for the partitions, a configuration that makes sense has a plan. -/
lemma plan_eq_ok (hvalid : c.validate = .ok ())
    (hsplit : Partition.split c.totalContainers c.workers = .ok parts)
    (hmemory : c.workers * Partition.bytes ≤ Job.maxBytes) : plan c = pure (.ok parts) := by
  unfold plan
  rw [hvalid]
  exact Job.split_of_le hsplit hmemory

/-- Without it, a run comes to nothing. -/
lemma run_of_lt {seeds : Seeds} (hvalid : c.validate = .ok ())
    (hmemory : Job.maxBytes < c.workers * Partition.bytes) :
    run b c seeds = .panic "capacity overflow" := by
  obtain ⟨parts, hsplit, -⟩ := exists_split hvalid
  unfold run plan
  rw [hvalid]
  dsimp only
  rw [Job.split_of_lt hsplit hmemory]
  rfl

end Longevity

namespace Worker

/-- The container that a worker works on in its next iteration. -/
def pick (w : Worker) : Nat :=
  (w.rng.natIn w.view.min w.view.max).1

/-- The worker after it has picked a container. -/
def picked (w : Worker) : Worker :=
  { w with rng := (w.rng.natIn w.view.min w.view.max).2 }

lemma iterate_eq (w : Worker) : w.iterate =
    w.picked.attend w.pick >>= fun r => pure (r.1, { w with rng := r.2 }) :=
  rfl

lemma contains_pick {w : Worker} (h : w.view.min ≤ w.view.max) :
    w.view.contains w.pick = true :=
  Partition.contains_iff.2 (w.rng.natIn_mem h)

end Worker

end Soak
