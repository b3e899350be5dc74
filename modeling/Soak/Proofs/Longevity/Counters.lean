import Mathlib.Tactic.Common
import Soak.Policy
import Soak.Registry

/-!
# Counters in their band

`Registry.Within` says that every counter lies between `-1` and a ceiling.  A policy whose
bands are in order never adds above its ceiling and never deletes from an empty container,
so that a worker that follows it keeps the counters there.
-/

namespace Soak

namespace Policy

variable {p : Policy}

lemma validate_eq_ok (h : p.validate = .ok ()) :
    0 ≤ p.alwaysAddMax ∧ p.alwaysAddMax ≤ p.mixedMax := by
  unfold validate at h
  split at h
  · cases h
  · next hneg =>
    split at h
    · cases h
    · next hord => omega

/-- What a policy adds to lies below its ceiling, and what it deletes from is not empty. -/
lemma choose_spec (h : p.validate = .ok ()) (v : Int) (g : Generator) :
    ((p.choose v g).1 = .add ∧ v < p.ceiling) ∨ ((p.choose v g).1 = .delete ∧ 0 < v) := by
  obtain ⟨h0, hord⟩ := validate_eq_ok h
  unfold choose ceiling
  split
  · next hlow => exact .inl ⟨rfl, by omega⟩
  · next hlow =>
    split
    · next hmid =>
      -- the mixed band may go either way
      simp only
      split
      · exact .inl ⟨rfl, by omega⟩
      · exact .inr ⟨rfl, by omega⟩
    · exact .inr ⟨rfl, by omega⟩

lemma ceiling_pos (h : p.validate = .ok ()) : 0 < p.ceiling := by
  obtain ⟨h0, hord⟩ := validate_eq_ok h
  unfold ceiling
  omega

end Policy

namespace Registry

variable {r : Registry} {view : Partition} {n : Nat} {v : Int}

/-- There are `total` counters, all of them between `-1` and a ceiling. -/
structure Within (top : Int) (total : Nat) (r : Registry) : Prop where
  size : r.size = total
  band : ∀ (n : Nat) (v : Int), r.counters[n]? = some v → absent ≤ v ∧ v ≤ top

lemma size_new (total : Nat) : (new total).size = total := by
  simp [size, new]

lemma counters_new {total : Nat} (h : n < total) : (new total).counters[n]? = some absent := by
  simp [new, h]

lemma within_new {top : Int} (h : 0 ≤ top) (total : Nat) : Within top total (new total) where
  size := size_new total
  band n v hv := by
    obtain ⟨hn, rfl⟩ := Array.getElem?_eq_some_iff.1 hv
    simp only [new, Array.getElem_replicate, absent]
    omega

lemma exists_counter (h : n < r.size) : ∃ v, r.counters[n]? = some v :=
  ⟨_, Array.getElem?_eq_getElem h⟩

lemma Within.exists_counter {top : Int} {total : Nat} (hr : Within top total r) (hn : n < total) :
    ∃ v, r.counters[n]? = some v :=
  Registry.exists_counter (hr.size.symm ▸ hn)

lemma get_eq_ok_iff : r.get n = .ok v ↔ r.counters[n]? = some v := by
  unfold get
  split
  · next x hx => simp [hx]
  · next hx => simp [hx]

/-- All counters one after another. -/
lemma filterMap_get (r : Registry) :
    ((List.range r.size).map r.get).filterMap Except.toOption = r.counters.toList := by
  have hget : (List.range r.size).map r.get = r.counters.toList.map .ok := by
    refine List.ext_getElem (by simp [size]) fun n hn hn' => ?_
    have hlt : n < r.counters.size := by simpa [size] using hn
    simp [get, hlt]
  rw [hget, List.filterMap_map]
  exact List.filterMap_some

lemma viewGet_eq (hview : view.contains n = true) (hv : r.counters[n]? = some v) :
    r.viewGet view n = .ok v := by
  simp [viewGet, checkView, hview, get, hv]

/-- Whoever gets to see a counter has it in view. -/
lemma viewGet_eq_ok_iff :
    r.viewGet view n = .ok v ↔ view.contains n = true ∧ r.counters[n]? = some v := by
  constructor
  · intro h
    cases hview : view.contains n with
    | true =>
      rw [viewGet, checkView, if_pos hview] at h
      exact ⟨rfl, get_eq_ok_iff.1 h⟩
    | false =>
      rw [viewGet, checkView, if_neg (by simp [hview])] at h
      cases h
  · rintro ⟨hview, hv⟩
    exact viewGet_eq hview hv

/-- The registry with another value in a slot that exists. -/
def write (r : Registry) (n : Nat) (v : Int) : Registry :=
  ⟨r.counters.setIfInBounds n v⟩

@[simp] lemma size_write : (r.write n v).size = r.size := by
  simp [write, size]

lemma counters_write_self (h : n < r.size) : (r.write n v).counters[n]? = some v := by
  simp only [write, size] at *
  simp [h]

lemma counters_write_of_ne {m : Nat} (h : m ≠ n) :
    (r.write n v).counters[m]? = r.counters[m]? := by
  simp only [write]
  rw [Array.getElem?_setIfInBounds_ne h.symm]

lemma viewSet_eq (hview : view.contains n = true) (h : n < r.size) :
    r.viewSet view n v = .ok (r.write n v) := by
  simp [viewSet, checkView, hview, set, h, write]

lemma Within.write {top : Int} {total : Nat} (hr : Within top total r)
    (hv : absent ≤ v ∧ v ≤ top) (n : Nat) : Within top total (r.write n v) where
  size := by rw [size_write, hr.size]
  band m x hx := by
    by_cases hm : m = n
    · subst hm
      obtain ⟨hlt, -⟩ := Array.getElem?_eq_some_iff.1 hx
      have hlt' : m < r.size := by
        have : m < (r.write m v).size := hlt
        rwa [size_write] at this
      rw [counters_write_self hlt'] at hx
      obtain rfl := Option.some.inj hx
      exact hv
    · rw [counters_write_of_ne hm] at hx
      exact hr.band m x hx

/-- A counter is written as a worker may write it: it moves by one at most, stays in the band
and never becomes that of a container that does not exist. -/
structure Nudged (top : Int) (n : Nat) (x : Int) (r r' : Registry) : Prop where
  eq : r' = r.write n x
  slot : ∃ v, r.counters[n]? = some v ∧ v - 1 ≤ x ∧ x ≤ v + 1 ∧ (0 ≤ v → 0 ≤ x) ∧
    absent ≤ x ∧ x ≤ top

lemma Within.nudged {top : Int} {total : Nat} {x : Int} {r' : Registry}
    (hr : Within top total r) (h : Nudged top n x r r') : Within top total r' := by
  obtain ⟨v, -, -, -, -, hx⟩ := h.slot
  rw [h.eq]
  exact hr.write hx n

/-- A container that exists is never forgotten. -/
lemma Nudged.nonneg {top : Int} {x : Int} {r' : Registry} (h : Nudged top n x r r') {m : Nat}
    (hv : r.counters[m]? = some v) (h0 : 0 ≤ v) : ∃ v', r'.counters[m]? = some v' ∧ 0 ≤ v' := by
  obtain ⟨u, hu, -, -, hsign, -⟩ := h.slot
  rw [h.eq]
  by_cases hm : m = n
  · subst hm
    obtain rfl := Option.some.inj (hu.symm.trans hv)
    obtain ⟨hlt, -⟩ := Array.getElem?_eq_some_iff.1 hv
    exact ⟨x, counters_write_self hlt, hsign h0⟩
  · exact ⟨v, by rwa [counters_write_of_ne hm], h0⟩

end Registry

end Soak
