import Mathlib.Tactic.Common

/-!
# Calculations below a limit

A calculation with numbers that end at a limit is made in steps, and a step whose result would
lie outside has none.
-/

namespace Soak

/-- A number that does not exceed the limit. -/
def upTo? (limit n : Nat) : Option Nat :=
  if n ≤ limit then some n else none

/-- A difference that is not negative. -/
def minus? (m n : Nat) : Option Nat :=
  if n ≤ m then some (m - n) else none

lemma upTo?_of_le {limit n : Nat} (h : n ≤ limit) : upTo? limit n = some n :=
  if_pos h

lemma upTo?_of_lt {limit n : Nat} (h : limit < n) : upTo? limit n = none :=
  if_neg (Nat.not_le.2 h)

lemma minus?_of_le {m n : Nat} (h : n ≤ m) : minus? m n = some (m - n) :=
  if_pos h

/-- If every step for an entry of a list has a result, then so have all of them together. -/
lemma mapM_eq_some_map {α β : Type} {f : α → Option β} {g : α → β} {l : List α}
    (h : ∀ a ∈ l, f a = some (g a)) : l.mapM f = some (l.map g) := by
  induction l with
  | nil => rfl
  | cons a l ih =>
    have hl := ih fun b hb => h b (List.mem_cons_of_mem a hb)
    rw [List.mapM_cons, h a List.mem_cons_self, hl]
    rfl

end Soak
