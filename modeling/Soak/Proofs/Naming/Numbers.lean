import Mathlib.Data.List.Basic
import Soak.Naming
import Std.Data.String.ToInt

/-!
# Numbers in names

A number can be told from the name that ends with it, whatever stands before it, and two
numbers can be told from a name that shows them with a bar in between (`Naming.joined`),
because no digit is a bar.
-/

namespace Soak.Naming

lemma isDigit_of_mem_toString {n : Nat} {c : Char} (h : c ∈ (toString n).toList) :
    c.isDigit = true := by
  rw [Nat.toString_eq_repr, Nat.toList_repr] at h
  exact Nat.isDigit_of_mem_toDigits (by decide) (by decide) h

/-! ### One number -/

lemma container_inj {stem : String} {m n : Nat} : container stem m = container stem n ↔ m = n := by
  constructor
  · intro h
    exact Nat.repr_injective ((String.append_right_inj stem).1 h)
  · rintro rfl
    rfl

lemma container_ne_empty (stem : String) (n : Nat) : container stem n ≠ "" := by
  intro h
  exact Nat.repr_ne_empty (String.append_eq_empty_iff.1 h).2

lemma lifecycleItem_inj {stem : String} {a b : Int} :
    lifecycleItem stem a = lifecycleItem stem b ↔ a = b := by
  constructor
  · intro h
    exact Int.repr_injective ((String.append_right_inj stem).1 h)
  · rintro rfl
    rfl

/-! ### Two numbers -/

/-- Two numbers behind a head, with a bar in between. -/
def joined (head : String) (bar : Char) (a b : Nat) : String :=
  head ++ toString a ++ String.singleton bar ++ toString b

/-- The bar ends the first number, so that both can be told. -/
lemma joined_inj {head : String} {bar : Char} (hbar : bar.isDigit = false) {a b a' b' : Nat} :
    joined head bar a b = joined head bar a' b' ↔ a = a' ∧ b = b' := by
  have hdigits {n : Nat} : bar ∉ (toString n).toList := by
    intro hmem
    rw [isDigit_of_mem_toString hmem] at hbar
    cases hbar
  have hlist (a b : Nat) : (joined head bar a b).toList =
      head.toList ++ ((toString a).toList ++ bar :: (toString b).toList) := by
    simp only [joined, String.toList_append, String.toList_singleton, List.append_assoc,
      List.singleton_append]
  constructor
  · intro h
    have h := congrArg String.toList h
    rw [hlist, hlist, List.append_cancel_left_eq,
      List.append_cons_inj_of_notMem hdigits hdigits] at h
    exact ⟨Nat.repr_injective (String.toList_inj.1 h.1),
      Nat.repr_injective (String.toList_inj.1 h.2.2)⟩
  · rintro ⟨rfl, rfl⟩
    rfl

lemma bulkItem_eq_joined (c i : Nat) : bulkItem c i = joined "item_" '_' c i :=
  rfl

lemma chainContainer_eq_joined (t o : Nat) : chainContainer t o = joined "chain_" '_' t o :=
  rfl

lemma chainItem_eq_joined (t o : Nat) : chainItem t o = joined "item_" '_' t o :=
  rfl

/-- The container and the item can be told from an id in bulk. -/
lemma bulkItem_inj {c i c' i' : Nat} : bulkItem c i = bulkItem c' i' ↔ c = c' ∧ i = i' := by
  rw [bulkItem_eq_joined, bulkItem_eq_joined, joined_inj rfl]

lemma bulkItem_inj_right {c i j : Nat} : bulkItem c i = bulkItem c j ↔ i = j := by
  rw [bulkItem_inj, and_iff_right rfl]

/-- The thread and the operation can be told from the name of a container. -/
lemma chainContainer_inj {t o t' o' : Nat} :
    chainContainer t o = chainContainer t' o' ↔ t = t' ∧ o = o' := by
  rw [chainContainer_eq_joined, chainContainer_eq_joined, joined_inj rfl]

lemma chainContainer_ne_empty (t o : Nat) : chainContainer t o ≠ "" := by
  intro h
  have h := congrArg String.toList h
  simp [chainContainer, String.toList_append] at h

lemma chainItem_inj {t o t' o' : Nat} : chainItem t o = chainItem t' o' ↔ t = t' ∧ o = o' := by
  rw [chainItem_eq_joined, chainItem_eq_joined, joined_inj rfl]

end Soak.Naming
