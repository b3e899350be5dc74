import Mathlib.Order.Basic
import Mathlib.Tactic.Common

/-!
# Texts by their bytes

Texts are ordered by their code points.  Their bytes in UTF-8 are ordered in the same way:
the first byte in which the encodings of two characters differ is smaller for the smaller
character, and neither encoding is the start of the other one.
-/

namespace Soak.Text

/-- The bytes of a text in UTF-8. -/
def bytes (s : String) : List UInt8 :=
  s.toUTF8.data.toList

/-- A text comes before another one in the order of the bytes. -/
def BytesLess (s t : String) : Prop :=
  bytes s < bytes t

lemma bytes_eq_flatMap (s : String) : bytes s = s.toList.flatMap String.utf8EncodeChar := by
  rw [bytes, String.toUTF8_eq_toByteArray, ← String.utf8Encode_toList, List.utf8Encode,
    List.data_toByteArray]

/-- Whatever follows, the encodings of two characters are in the order of the characters. -/
lemma utf8EncodeChar_append_lt {c d : Char} (h : c < d) (x y : List UInt8) :
    String.utf8EncodeChar c ++ x < String.utf8EncodeChar d ++ y := by
  have hlt : c.val.toNat < d.val.toNat := h
  have hmax : d.val.toNat < 0x110000 := by
    have := d.valid
    simp only [UInt32.isValidChar, Nat.isValidChar] at this
    omega
  dsimp only [String.utf8EncodeChar]
  -- one case for each pair of lengths
  split_ifs <;>
    simp (disch := omega) only [List.cons_append, List.nil_append, List.cons_lt_cons_iff,
      UInt8.lt_iff_toNat_lt, ← UInt8.toNat_inj, UInt8.toNat_ofNat', Nat.mod_eq_of_lt] <;>
    omega

lemma flatMap_lt_of_lt {l m : List Char} (h : l < m) :
    l.flatMap String.utf8EncodeChar < m.flatMap String.utf8EncodeChar := by
  induction l generalizing m with
  | nil =>
    cases m with
    | nil => exact absurd h (List.lt_irrefl [])
    | cons d m =>
      obtain ⟨b, bs, hb⟩ := List.exists_cons_of_ne_nil (String.utf8EncodeChar_ne_nil (c := d))
      rw [List.flatMap_cons, hb]
      exact List.nil_lt_cons b _
  | cons c l ih =>
    cases m with
    | nil => exact absurd h (List.not_lt_nil _)
    | cons d m =>
      rw [List.flatMap_cons, List.flatMap_cons]
      rcases List.cons_lt_cons_iff.1 h with hcd | ⟨rfl, hlm⟩
      · exact utf8EncodeChar_append_lt hcd _ _
      · exact List.append_left_lt (ih hlm)

/-- The order of the code points is the order of the bytes. -/
lemma lt_iff_bytesLess {s t : String} : s < t ↔ BytesLess s t := by
  have mono : ∀ {s t : String}, s < t → BytesLess s t := fun {s t} h => by
    rw [BytesLess, bytes_eq_flatMap, bytes_eq_flatMap]
    exact flatMap_lt_of_lt h
  refine ⟨mono, fun h => ?_⟩
  by_contra hst
  by_cases hts : t < s
  · exact absurd h (List.lt_asymm (mono hts))
  · obtain rfl : s = t := String.le_antisymm (String.not_lt.1 hts) (String.not_lt.1 hst)
    exact absurd h (List.lt_irrefl _)

end Soak.Text
