import Mathlib.Tactic.Common
import Soak.Config.Basic
import Soak.Proofs.Naming.Numbers
import Soak.Registry
import Soak.Store.Basic

/-!
# What a counter says of a container

A counter tells the truth about a container (`Accounts`) if it is `-1` and the container
does not exist, or if it is not negative and the container has the items numbered from one
to the counter and no others (`Holds`).  The next item is then new, the newest one can be
deleted, and both lead to what the next counter says.
-/

namespace Soak

/-- The key of the item with a number. -/
def Config.Backend.itemKey (b : Config.Backend) (k : Int) : Item.Key :=
  ⟨b.itemType, Naming.lifecycleItem b.itemIdPrefix k⟩

lemma Config.Backend.itemKey_inj {b : Config.Backend} {j k : Int} :
    b.itemKey j = b.itemKey k ↔ j = k := by
  simp [itemKey, Naming.lifecycleItem_inj]

/-- The container has the items numbered from one to `v`, and nothing else. -/
structure Holds (b : Config.Backend) (c : Container) (v : Int) : Prop where
  mem_iff : ∀ key, key ∈ c.items ↔ ∃ k, 1 ≤ k ∧ k ≤ v ∧ key = b.itemKey k
  size : (c.items.size : Int) = v

namespace Holds

variable {b : Config.Backend} {c : Container} {v : Int}

lemma empty (b : Config.Backend) : Holds b .empty 0 where
  mem_iff key := by
    simp only [Container.empty, Std.ExtTreeMap.not_mem_empty, false_iff]
    rintro ⟨k, h1, h2, -⟩
    omega
  size := by simp [Container.empty]

lemma nonneg (h : Holds b c v) : 0 ≤ v := by
  have := h.size
  omega

lemma of_items (h : Holds b c v) {d : Container} (hd : d.items = c.items) : Holds b d v where
  mem_iff key := by rw [hd, h.mem_iff]
  size := by rw [hd, h.size]

/-- The next item is new. -/
lemma not_mem_next (h : Holds b c v) : b.itemKey (v + 1) ∉ c.items := by
  rw [h.mem_iff]
  rintro ⟨k, -, hk, heq⟩
  have := Config.Backend.itemKey_inj.1 heq
  omega

/-- Adding the next item. -/
lemma insert (h : Holds b c v) (item : Item) :
    Holds b { c with items := c.items.insert (b.itemKey (v + 1)) item } (v + 1) where
  mem_iff key := by
    have hv := h.nonneg
    rw [Std.ExtTreeMap.mem_insert, Std.LawfulEqCmp.compare_eq_iff_eq, h.mem_iff]
    constructor
    · rintro (rfl | ⟨k, h1, h2, rfl⟩)
      · exact ⟨v + 1, by omega, Int.le_refl _, rfl⟩
      · exact ⟨k, h1, by omega, rfl⟩
    · rintro ⟨k, h1, h2, rfl⟩
      by_cases hk : k = v + 1
      · exact .inl (by rw [hk])
      · exact .inr ⟨k, h1, by omega, rfl⟩
  size := by
    have hsize := h.size
    rw [Std.ExtTreeMap.size_insert, if_neg (mt Std.ExtTreeMap.mem_iff_contains.2 h.not_mem_next)]
    omega

/-- The newest item is there. -/
lemma mem_newest (h : Holds b c v) (hv : 0 < v) : b.itemKey v ∈ c.items :=
  (h.mem_iff _).2 ⟨v, hv, Int.le_refl v, rfl⟩

/-- Deleting the newest item. -/
lemma erase (h : Holds b c v) (hv : 0 < v) :
    Holds b { c with items := c.items.erase (b.itemKey v) } (v - 1) where
  mem_iff key := by
    rw [Std.ExtTreeMap.mem_erase, h.mem_iff]
    constructor
    · rintro ⟨hne, k, h1, h2, rfl⟩
      have hk : k ≠ v := by
        rintro rfl
        exact hne (Std.LawfulEqCmp.compare_eq_iff_eq.2 rfl)
      exact ⟨k, h1, by omega, rfl⟩
    · rintro ⟨k, h1, h2, rfl⟩
      refine ⟨fun heq => ?_, k, h1, by omega, rfl⟩
      have := Config.Backend.itemKey_inj.1 (Std.LawfulEqCmp.compare_eq_iff_eq.1 heq)
      omega
  size := by
    have hsize := h.size
    rw [Std.ExtTreeMap.size_erase, if_pos (Std.ExtTreeMap.mem_iff_contains.1 (h.mem_newest hv))]
    omega

/-- Replacing an item that is there. -/
lemma replace (h : Holds b c v) {key : Item.Key} (hkey : key ∈ c.items) (item : Item) :
    Holds b { c with items := c.items.insert key item } v where
  mem_iff other := by
    rw [Std.ExtTreeMap.mem_insert, Std.LawfulEqCmp.compare_eq_iff_eq, ← h.mem_iff]
    constructor
    · rintro (rfl | hmem)
      · exact hkey
      · exact hmem
    · exact .inr
  size := by
    rw [Std.ExtTreeMap.size_insert, if_pos (Std.ExtTreeMap.mem_iff_contains.1 hkey), h.size]

end Holds

/-- A counter tells the truth about a container that may not exist. -/
def Accounts (b : Config.Backend) (v : Int) : Option Container → Prop
  | none => v = Registry.absent
  | some c => Holds b c v

end Soak
