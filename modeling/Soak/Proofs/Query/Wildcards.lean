import Mathlib.Data.Char
import Mathlib.Data.List.Infix
import Soak.Proofs.Text.Bytes
import Soak.Query.Like

/-!
# What patterns match

A pattern is cut at its percent signs.  A text matches if it consists of the segments in their
order with any texts between them; `Fits` says so, and `Woven` says it of the segments behind
the first one.

That each segment may be looked for as far to the left as possible is `afterFirst?_longest`:
the leftmost occurrence leaves the longest rest, and what is found in a rest is found in a
longer one as well (`Woven.of_suffix`).

The same search can be made on the bytes of the texts, cutting them at offsets.  The last part
shows that no cut goes through a character, because no first byte of a character occurs inside
of another one, and that the answer is the same.
-/

namespace Soak

namespace Like

section Fits

variable {text rest segment first last u v : List Char} {segments others : List (List Char)}

/-- The text consists of the segments, each behind a text of its own. -/
def Woven (segments : List (List Char)) (text : List Char) : Prop :=
  ∃ gaps : List (List Char), gaps.length = segments.length ∧
    text = (List.zipWith (· ++ ·) gaps segments).flatten

/-- The text consists of the segments with any texts between them. -/
def Fits (segments : List (List Char)) (text : List Char) : Prop :=
  ∃ gaps : List (List Char), gaps.length + 1 = segments.length ∧
    text = (List.zipWith (· ++ ·) ([] :: gaps) segments).flatten

/-- A pattern is cut at every percent sign. -/
lemma segments_eq_splitOn (pattern : List Char) : Like.segments pattern = pattern.splitOn '%' := by
  induction pattern with
  | nil => rfl
  | cons c rest ih =>
    rw [Like.segments, List.splitOn_cons_eq_if_modifyHead, ih]
    by_cases hc : c = '%'
    · simp [hc]
    · rw [if_neg hc, if_neg (by simpa using hc)]
      obtain ⟨first, others, hsplit⟩ := List.exists_cons_of_ne_nil (List.splitOn_ne_nil '%' rest)
      rw [hsplit]
      rfl

lemma woven_nil : Woven [] text ↔ text = [] := by
  constructor
  · rintro ⟨gaps, hlength, rfl⟩
    rw [List.length_eq_zero_iff.1 hlength]
    rfl
  · rintro rfl
    exact ⟨[], rfl, rfl⟩

lemma woven_cons :
    Woven (segment :: others) text ↔ ∃ u rest, text = u ++ segment ++ rest ∧ Woven others rest := by
  constructor
  · rintro ⟨gaps, hlength, rfl⟩
    cases gaps with
    | nil => simp at hlength
    | cons u gaps => exact ⟨u, _, by simp, gaps, by simpa using hlength, rfl⟩
  · rintro ⟨u, rest, rfl, gaps, hlength, rfl⟩
    exact ⟨u :: gaps, by simpa using hlength, by simp⟩

lemma fits_cons :
    Fits (first :: others) text ↔ ∃ rest, text = first ++ rest ∧ Woven others rest := by
  constructor
  · rintro ⟨gaps, hlength, rfl⟩
    exact ⟨_, by simp, gaps, by simpa using hlength, rfl⟩
  · rintro ⟨rest, rfl, gaps, hlength, rfl⟩
    exact ⟨gaps, by simpa using hlength, by simp⟩

/-- Segments one behind the other lie in texts one behind the other. -/
lemma woven_append {others' : List (List Char)} :
    Woven (others ++ others') text ↔ ∃ u v, text = u ++ v ∧ Woven others u ∧ Woven others' v := by
  induction others generalizing text with
  | nil =>
    simp only [List.nil_append, woven_nil]
    constructor
    · exact fun h => ⟨[], text, rfl, rfl, h⟩
    · rintro ⟨u, v, rfl, rfl, h⟩
      exact h
  | cons segment others ih =>
    simp only [List.cons_append, woven_cons, ih]
    constructor
    · rintro ⟨w, rest, rfl, u, v, rfl, hu, hv⟩
      exact ⟨w ++ segment ++ u, v, by simp, ⟨w, u, rfl, hu⟩, hv⟩
    · rintro ⟨u, v, rfl, ⟨w, rest, rfl, hu⟩, hv⟩
      exact ⟨w, rest ++ v, by simp, rest, v, rfl, hu, hv⟩

/-- What is found in a text is found in a longer one that ends in it. -/
lemma Woven.of_suffix (h : Woven (segment :: others) rest) (hrest : rest <:+ text) :
    Woven (segment :: others) text := by
  obtain ⟨x, rfl⟩ := hrest
  obtain ⟨u, rest', rfl, hothers⟩ := woven_cons.1 h
  exact woven_cons.2 ⟨x ++ u, rest', by simp, hothers⟩

/-- The last segment stands at the end. -/
lemma Woven.last_suffix (h : Woven others text) : others.getLastD [] <:+ text := by
  induction others generalizing text with
  | nil => exact List.nil_suffix
  | cons segment others ih =>
    obtain ⟨u, rest, rfl, hothers⟩ := woven_cons.1 h
    cases others with
    | nil =>
      rw [woven_nil.1 hothers, List.append_nil]
      exact List.suffix_append u segment
    | cons segment' others => exact (ih hothers).trans (List.suffix_append _ rest)

/-! ### The search -/

lemma after?_eq_some_iff : after? segment text = some rest ↔ text = segment ++ rest := by
  induction segment generalizing text with
  | nil => simp [after?, eq_comm]
  | cons c segment ih =>
    cases text with
    | nil => simp [after?]
    | cons d text =>
      by_cases hcd : c = d
      · simp [after?, hcd, ih]
      · simp [after?, hcd, Ne.symm hcd]

lemma after?_eq_none_iff : after? segment text = none ↔ ¬ segment <+: text := by
  rw [← not_iff_not, not_not, ← ne_eq, Option.ne_none_iff_exists']
  exact exists_congr fun rest => after?_eq_some_iff.trans eq_comm

lemma endsIn_iff : endsIn last text = true ↔ last <:+ text := by
  rw [endsIn, Option.isSome_iff_ne_none, ne_eq, after?_eq_none_iff, not_not, List.reverse_prefix]

lemma eq_of_afterFirst? (h : afterFirst? segment text = some rest) :
    ∃ u, text = u ++ segment ++ rest := by
  induction text with
  | nil => exact ⟨[], after?_eq_some_iff.1 h⟩
  | cons c text ih =>
    rw [afterFirst?] at h
    cases hafter : after? segment (c :: text) with
    | some rest' =>
      rw [hafter] at h
      obtain rfl := Option.some.inj h
      exact ⟨[], after?_eq_some_iff.1 hafter⟩
    | none =>
      rw [hafter] at h
      obtain ⟨u, rfl⟩ := ih h
      exact ⟨c :: u, rfl⟩

/-- The leftmost occurrence leaves the longest rest. -/
lemma afterFirst?_longest (h : text = u ++ segment ++ v) :
    ∃ rest, afterFirst? segment text = some rest ∧ v <:+ rest := by
  induction text generalizing u with
  | nil =>
    obtain ⟨rfl, rfl, rfl⟩ : u = [] ∧ segment = [] ∧ v = [] := by simpa using h
    exact ⟨[], rfl, List.suffix_refl []⟩
  | cons c text ih =>
    rw [afterFirst?]
    cases hafter : after? segment (c :: text) with
    | some rest =>
      -- both rests end the text, and the one of this occurrence is not the shorter one
      have heq := after?_eq_some_iff.1 hafter
      have hlength := congrArg List.length (heq.symm.trans h)
      simp only [List.length_append] at hlength
      have hv : v <:+ c :: text := ⟨u ++ segment, h.symm⟩
      have hrest : rest <:+ c :: text := ⟨segment, heq.symm⟩
      exact ⟨rest, rfl, List.suffix_of_suffix_length_le hv hrest (by omega)⟩
    | none =>
      cases u with
      | nil =>
        have hprefix : segment <+: c :: text := ⟨v, h.symm⟩
        exact absurd hprefix (after?_eq_none_iff.1 hafter)
      | cons d u =>
        have htail : text = u ++ segment ++ v := (List.cons.inj h).2
        exact ih htail

/-- Looking for each segment as far to the left as possible never loses a match. -/
lemma matchesRest_iff (hothers : others ≠ []) :
    matchesRest text others = true ↔ Woven others text := by
  induction others generalizing text with
  | nil => exact absurd rfl hothers
  | cons segment others ih =>
    cases others with
    | nil =>
      rw [matchesRest, endsIn_iff, woven_cons]
      simp only [woven_nil, List.IsSuffix, exists_eq_right, List.append_nil, eq_comm]
    | cons segment' others =>
      rw [matchesRest, woven_cons]
      · cases hfirst : afterFirst? segment text with
        | none =>
          refine ⟨fun h => (Bool.false_ne_true h).elim, ?_⟩
          rintro ⟨u, rest, htext, -⟩
          obtain ⟨rest', hrest', -⟩ := afterFirst?_longest htext
          rw [hfirst] at hrest'
          cases hrest'
        | some rest =>
          dsimp only
          rw [ih (List.cons_ne_nil _ _)]
          constructor
          · intro h
            obtain ⟨u, htext⟩ := eq_of_afterFirst? hfirst
            exact ⟨u, rest, htext, h⟩
          · rintro ⟨u, rest', htext, h⟩
            obtain ⟨longest, hlongest, hsuffix⟩ := afterFirst?_longest htext
            obtain rfl := Option.some.inj (hfirst.symm.trans hlongest)
            exact h.of_suffix hsuffix
      · exact List.cons_ne_nil _ _

lemma byteLength_append (s t : List Char) : byteLength (s ++ t) = byteLength s + byteLength t := by
  simp [byteLength]

/-- The early refusal refuses nothing that matches. -/
lemma matchesFrom_iff (hothers : others ≠ []) :
    matchesFrom text first others = true ↔ Fits (first :: others) text := by
  rw [fits_cons, matchesFrom]
  cases hafter : after? first text with
  | none =>
    refine ⟨fun h => (Bool.false_ne_true h).elim, ?_⟩
    rintro ⟨rest, rfl, -⟩
    exact absurd (List.prefix_append first rest) (after?_eq_none_iff.1 hafter)
  | some rest =>
    obtain rfl := after?_eq_some_iff.1 hafter
    simp only [List.append_cancel_left_eq, exists_eq_left', byteLength_append]
    rw [← matchesRest_iff hothers]
    split
    · next hshort =>
      refine ⟨fun h => (Bool.false_ne_true h).elim, fun h => ?_⟩
      obtain ⟨x, hx⟩ := ((matchesRest_iff hothers).1 h).last_suffix
      rw [← hx, byteLength_append] at hshort
      omega
    · rfl

end Fits

/-- A text matches a pattern exactly if it fits the segments of the pattern. -/
lemma like_iff_fits {text pattern : String} :
    like text pattern = true ↔ Fits (pattern.toList.splitOn '%') text.toList := by
  have hsingle {segment : List Char} (h : pattern.toList.splitOn '%' = [segment]) :
      segment = pattern.toList := by
    have hjoined : List.intercalate ['%'] (pattern.toList.splitOn '%') = pattern.toList :=
      List.intercalate_splitOn '%'
    rw [h] at hjoined
    simpa using hjoined
  obtain ⟨first, others, hsplit⟩ :=
    List.exists_cons_of_ne_nil (List.splitOn_ne_nil '%' pattern.toList)
  rw [like, segments_eq_splitOn, hsplit]
  cases others with
  | nil =>
    obtain rfl := hsingle hsplit
    simp [fits_cons, woven_nil, String.toList_inj]
  | cons second others => exact matchesFrom_iff (List.cons_ne_nil _ _)

/-- A percent sign stands for any text between what the two sides match. -/
lemma like_wildcard_iff {text a b : String} : like text (a ++ "%" ++ b) = true ↔
    ∃ u w v, text = u ++ w ++ v ∧ like u a = true ∧ like v b = true := by
  have hpattern : (a ++ "%" ++ b).toList.splitOn '%' =
      a.toList.splitOn '%' ++ b.toList.splitOn '%' := by
    simp [List.splitOn_append_cons_self]
  obtain ⟨first, others, ha⟩ := List.exists_cons_of_ne_nil (List.splitOn_ne_nil '%' a.toList)
  obtain ⟨first', others', hb⟩ := List.exists_cons_of_ne_nil (List.splitOn_ne_nil '%' b.toList)
  simp only [like_iff_fits, hpattern, ha, hb, List.cons_append, fits_cons, woven_append, woven_cons]
  constructor
  · rintro ⟨_, htext, u, _, rfl, hu, w, v, rfl, hv⟩
    refine ⟨.ofList (first ++ u), .ofList w, .ofList (first' ++ v), ?_, ⟨u, by simp, hu⟩,
      v, by simp, hv⟩
    simp [← String.toList_inj, htext]
  · rintro ⟨s, w, t, rfl, ⟨u, hs, hu⟩, v, ht, hv⟩
    exact ⟨u ++ (w.toList ++ first' ++ v), by simp [hs, ht], u, _, rfl, hu, w.toList, v, rfl, hv⟩

/-- A leading percent sign stands for any beginning. -/
lemma like_leading_iff {text b : String} :
    like text ("%" ++ b) = true ↔ ∃ w v, text = w ++ v ∧ like v b = true := by
  have hpattern : "%" ++ b = "" ++ "%" ++ b := by
    simp
  have hnothing (u : String) : like u "" = true ↔ u = "" := by
    simp [like, Like.segments]
  rw [hpattern, like_wildcard_iff]
  constructor
  · rintro ⟨u, w, v, rfl, hu, hv⟩
    obtain rfl := (hnothing u).1 hu
    exact ⟨w, v, by simp, hv⟩
  · rintro ⟨w, v, rfl, hv⟩
    exact ⟨"", w, v, by simp, (hnothing "").2 rfl, hv⟩

/-- Two percent signs next to each other are as good as one. -/
lemma like_wildcards {text : String} (a b : String) :
    like text (a ++ "%%" ++ b) = like text (a ++ "%" ++ b) := by
  have hpattern : a ++ "%%" ++ b = a ++ "%" ++ ("%" ++ b) := by
    simp [← String.toList_inj]
  rw [Bool.eq_iff_iff, hpattern, like_wildcard_iff, like_wildcard_iff]
  simp only [like_leading_iff]
  constructor
  · rintro ⟨u, w, _, rfl, hu, w', v, rfl, hv⟩
    exact ⟨u, w ++ w', v, by simp [String.append_assoc], hu, hv⟩
  · rintro ⟨u, w, v, rfl, hu, hv⟩
    exact ⟨u, w, v, rfl, hu, "", v, by simp, hv⟩

/-! ### The search on bytes -/

section Bytes

variable {text segment s t u v : List Char} {c d : Char} {x y : List UInt8}

/-- The bytes of characters in UTF-8. -/
def encode (text : List Char) : List UInt8 :=
  text.flatMap String.utf8EncodeChar

/-- The percent sign. -/
def wildcard : UInt8 :=
  37

/-- The bytes from an offset on, unless a character would be cut in two: the offset must be the
end or that of the first byte of a character. -/
def cut? (text : List UInt8) (offset : Nat) : Option (List UInt8) :=
  match text.drop offset with
  | [] => if offset = text.length then some [] else none
  | b :: rest => if b.IsUTF8FirstByte then some (b :: rest) else none

/-- The offset of the leftmost occurrence of a segment. -/
def offsetOf? (segment : List UInt8) : List UInt8 → Option Nat
  | [] => if segment.isPrefixOf [] then some 0 else none
  | b :: text =>
    if segment.isPrefixOf (b :: text) then some 0 else (offsetOf? segment text).map (· + 1)

/-- Whether the middle segments occur one behind the other and the last one after them at the
end; `none` if a character is cut in two on the way. -/
def restOnBytes? (text : List UInt8) : List (List UInt8) → Option Bool
  | [] => some text.isEmpty
  | [last] => some (last.isSuffixOf text)
  | segment :: others =>
    match offsetOf? segment text with
    | some offset => (cut? text (offset + segment.length)).bind (restOnBytes? · others)
    | none => some false

/-- Whether a text has a given first segment and, behind it, the others; `none` if a character is
cut in two on the way. -/
def fromOnBytes? (text first : List UInt8) (others : List (List UInt8)) : Option Bool :=
  if first.isPrefixOf text ∧ first.length + (others.getLastD []).length ≤ text.length then
    (cut? text first.length).bind (restOnBytes? · others)
  else some false

/-- Whether the bytes of a text match those of a pattern; `none` if a character is cut in two on
the way. -/
def onBytes? (text pattern : List UInt8) : Option Bool :=
  match pattern.splitOn wildcard with
  | [] | [_] => some (text = pattern)
  | first :: others => fromOnBytes? text first others

lemma encode_append (s t : List Char) : encode (s ++ t) = encode s ++ encode t :=
  List.flatMap_append

lemma encode_cons (c : Char) (t : List Char) :
    encode (c :: t) = String.utf8EncodeChar c ++ encode t :=
  List.flatMap_cons

lemma length_encode (t : List Char) : (encode t).length = byteLength t := by
  induction t with
  | nil => rfl
  | cons c t ih =>
    rw [encode_cons, List.length_append, ih, String.length_utf8EncodeChar]
    rfl

/-- A character begins with its first byte, and has no other one. -/
lemma exists_utf8EncodeChar (c : Char) : ∃ b bs, String.utf8EncodeChar c = b :: bs ∧
    b.IsUTF8FirstByte ∧ ∀ b' ∈ bs, ¬ b'.IsUTF8FirstByte := by
  obtain ⟨b, bs, hc⟩ := List.exists_cons_of_ne_nil (String.utf8EncodeChar_ne_nil (c := c))
  have hbyte (i : Nat) (hi : i < (b :: bs).length) : (b :: bs)[i].IsUTF8FirstByte ↔ i = 0 := by
    simp only [← hc]
    exact UInt8.isUTF8FirstByte_getElem_utf8EncodeChar
  refine ⟨b, bs, hc, (hbyte 0 (Nat.zero_lt_succ _)).2 rfl, fun b' hb' => ?_⟩
  obtain ⟨i, hi, rfl⟩ := List.mem_iff_getElem.1 hb'
  exact fun hfirst => absurd ((hbyte (i + 1) (Nat.succ_lt_succ hi)).1 hfirst) (Nat.succ_ne_zero i)

/-- Whatever follows, the bytes of a character do not begin those of another one. -/
lemma eq_of_utf8EncodeChar_append
    (h : String.utf8EncodeChar c ++ x = String.utf8EncodeChar d ++ y) : c = d := by
  rcases lt_trichotomy c d with hcd | hcd | hcd
  · have hlt := Text.utf8EncodeChar_append_lt hcd x y
    rw [h] at hlt
    exact absurd hlt (List.lt_irrefl _)
  · exact hcd
  · have hlt := Text.utf8EncodeChar_append_lt hcd y x
    rw [h] at hlt
    exact absurd hlt (List.lt_irrefl _)

lemma prefix_encode_iff : encode s <+: encode t ↔ s <+: t := by
  induction s generalizing t with
  | nil => simp [encode]
  | cons c s ih =>
    cases t with
    | nil => simp [encode]
    | cons d t =>
      rw [encode_cons, encode_cons, List.cons_prefix_cons]
      constructor
      · rintro ⟨x, hx⟩
        rw [List.append_assoc] at hx
        obtain rfl := eq_of_utf8EncodeChar_append hx
        exact ⟨rfl, ih.1 ⟨x, List.append_cancel_left hx⟩⟩
      · rintro ⟨rfl, hst⟩
        exact (List.prefix_append_right_inj _).2 (ih.2 hst)

lemma encode_inj : encode s = encode t ↔ s = t := by
  refine ⟨fun h => ?_, congrArg encode⟩
  have hst := prefix_encode_iff.1 (h ▸ List.prefix_refl (encode s) : encode s <+: encode t)
  have hts := prefix_encode_iff.1 (h ▸ List.prefix_refl (encode s) : encode t <+: encode s)
  exact hst.eq_of_length (Nat.le_antisymm hst.length_le hts.length_le)

/-- A text can be cut behind any of its characters. -/
lemma cut?_encode (u v : List Char) : cut? (encode (u ++ v)) (encode u).length = some (encode v) := by
  rw [cut?, encode_append, List.drop_left]
  cases v with
  | nil => simp [encode]
  | cons c v =>
    obtain ⟨b, bs, hc, hb, -⟩ := exists_utf8EncodeChar c
    rw [encode_cons, hc]
    exact if_pos hb

/-- Where a segment begins, no character is cut in two. -/
lemma exists_of_encode_eq_append (h : encode t = x ++ y)
    (hy : ∀ b ∈ y.head?, b.IsUTF8FirstByte) : ∃ u v, t = u ++ v ∧ x = encode u ∧ y = encode v := by
  induction t generalizing x with
  | nil =>
    obtain ⟨rfl, rfl⟩ : x = [] ∧ y = [] := by simpa [encode] using h
    exact ⟨[], [], rfl, rfl, rfl⟩
  | cons c t ih =>
    obtain ⟨b, bs, hc, -, hbs⟩ := exists_utf8EncodeChar c
    cases x with
    | nil => exact ⟨[], c :: t, rfl, rfl, h.symm⟩
    | cons b' x =>
      rw [encode_cons, hc, List.cons_append, List.cons_append, List.cons.injEq] at h
      obtain ⟨rfl, h⟩ := h
      rcases List.append_eq_append_iff.1 h with ⟨z, rfl, ht⟩ | ⟨z, rfl, rfl⟩
      · obtain ⟨u, v, rfl, rfl, hv⟩ := ih ht
        exact ⟨c :: u, v, rfl, by rw [encode_cons, hc, List.cons_append], hv⟩
      · cases z with
        | nil => exact ⟨[c], t, rfl, by simp [encode, hc], rfl⟩
        | cons b'' z =>
          -- the second part would begin inside of the character
          exact absurd (hy b'' rfl) (hbs b'' (by simp))

lemma isSuffixOf_encode (last text : List Char) :
    (encode last).isSuffixOf (encode text) = endsIn last text := by
  rw [Bool.eq_iff_iff, List.isSuffixOf_iff_suffix, endsIn_iff]
  constructor
  · rintro ⟨x, hx⟩
    obtain ⟨u, v, rfl, -, hv⟩ := exists_of_encode_eq_append hx.symm (by
      cases last with
      | nil => simp [encode]
      | cons c last =>
        obtain ⟨b, bs, hc, hb, -⟩ := exists_utf8EncodeChar c
        simpa [encode_cons, hc] using hb)
    rw [encode_inj.1 hv]
    exact List.suffix_append u v
  · rintro ⟨u, rfl⟩
    exact ⟨encode u, (encode_append u last).symm⟩

/-- A segment does not occur inside of a character. -/
lemma offsetOf?_inside (hsegment : segment ≠ []) (hx : ∀ b ∈ x, ¬ b.IsUTF8FirstByte) :
    offsetOf? (encode segment) (x ++ y) =
      (offsetOf? (encode segment) y).map (· + x.length) := by
  induction x with
  | nil => simp
  | cons b x ih =>
    obtain ⟨c, rest, rfl⟩ := List.exists_cons_of_ne_nil hsegment
    obtain ⟨b', bs, hc, hb', -⟩ := exists_utf8EncodeChar c
    have hne : b' ≠ b := by
      rintro rfl
      exact hx b' List.mem_cons_self hb'
    rw [List.cons_append, offsetOf?, if_neg (by simp [encode_cons, hc, hne]),
      ih fun b'' hb'' => hx b'' (List.mem_cons_of_mem b hb''), Option.map_map]
    simp [Function.comp_def, Nat.add_assoc]

/-- The leftmost occurrence among the bytes is the leftmost one among the characters. -/
lemma offsetOf?_encode (segment text : List Char) :
    (afterFirst? segment text = none ∧ offsetOf? (encode segment) (encode text) = none) ∨
      ∃ u rest, text = u ++ segment ++ rest ∧ afterFirst? segment text = some rest ∧
        offsetOf? (encode segment) (encode text) = some (encode u).length := by
  induction text with
  | nil =>
    cases segment with
    | nil => exact .inr ⟨[], [], rfl, rfl, rfl⟩
    | cons c segment =>
      obtain ⟨b, bs, hc, -⟩ := exists_utf8EncodeChar c
      exact .inl ⟨rfl, by simp [encode, hc, offsetOf?]⟩
  | cons c text ih =>
    obtain ⟨b, bs, hc, -, hbs⟩ := exists_utf8EncodeChar c
    have hbytes : encode (c :: text) = b :: (bs ++ encode text) := by
      rw [encode_cons, hc, List.cons_append]
    rw [afterFirst?, hbytes, offsetOf?, ← hbytes]
    cases hafter : after? segment (c :: text) with
    | some rest =>
      have htext := after?_eq_some_iff.1 hafter
      refine .inr ⟨[], rest, htext, rfl, if_pos ?_⟩
      rw [List.isPrefixOf_iff_prefix, prefix_encode_iff]
      exact ⟨rest, htext.symm⟩
    | none =>
      have hno := after?_eq_none_iff.1 hafter
      have hsegment : segment ≠ [] := by
        rintro rfl
        exact hno List.nil_prefix
      rw [if_neg (by rwa [List.isPrefixOf_iff_prefix, prefix_encode_iff]),
        offsetOf?_inside hsegment hbs]
      rcases ih with ⟨hnone, hoffset⟩ | ⟨u, rest, rfl, hsome, hoffset⟩
      · exact .inl ⟨hnone, by rw [hoffset]; rfl⟩
      · refine .inr ⟨c :: u, rest, rfl, hsome, ?_⟩
        rw [hoffset, encode_cons, hc]
        simp [Nat.add_comm, Nat.add_left_comm]

lemma restOnBytes?_encode {others : List (List Char)} (hothers : others ≠ []) (text : List Char) :
    restOnBytes? (encode text) (others.map encode) = some (matchesRest text others) := by
  induction others generalizing text with
  | nil => exact absurd rfl hothers
  | cons segment others ih =>
    cases others with
    | nil => exact congrArg some (isSuffixOf_encode segment text)
    | cons segment' others =>
      rw [List.map_cons, restOnBytes?, matchesRest]
      · rcases offsetOf?_encode segment text with ⟨hnone, hoffset⟩ | ⟨u, rest, rfl, hsome, hoffset⟩
        · rw [hnone, hoffset]
        · rw [hsome, hoffset]
          dsimp only
          rw [← List.length_append, ← encode_append, cut?_encode]
          exact ih (List.cons_ne_nil _ _) rest
      · exact List.cons_ne_nil _ _
      · exact List.cons_ne_nil _ _

/-- No other character has the byte of the percent sign. -/
lemma wildcard_mem_utf8EncodeChar (h : wildcard ∈ String.utf8EncodeChar c) : c = '%' := by
  have hvalue : c.val.toNat = 37 := by
    dsimp only [wildcard, String.utf8EncodeChar] at h
    -- only the first of the four lengths has bytes below 128
    split_ifs at h <;>
      simp only [List.mem_cons, List.not_mem_nil, or_false, ← UInt8.toNat_inj, UInt8.toNat_ofNat',
        UInt8.reduceToNat] at h <;>
      omega
  exact Char.ext (UInt32.toNat_inj.1 hvalue)

/-- Cutting the bytes at percent signs is cutting the characters. -/
lemma splitOn_encode (pattern : List Char) :
    (encode pattern).splitOn wildcard = (pattern.splitOn '%').map encode := by
  have hfree {bs : List UInt8} (h : wildcard ∉ bs) (rest : List UInt8) :
      (bs ++ rest).splitOn wildcard = (rest.splitOn wildcard).modifyHead (bs ++ ·) := by
    induction bs with
    | nil =>
      obtain ⟨first, others, hsplit⟩ := List.exists_cons_of_ne_nil (List.splitOn_ne_nil wildcard rest)
      rw [List.nil_append, hsplit]
      rfl
    | cons b bs ih =>
      rw [List.mem_cons, not_or] at h
      rw [List.cons_append, List.splitOn_cons_eq_if_modifyHead, ih h.2,
        if_neg (by simpa using Ne.symm h.1), List.modifyHead_modifyHead]
      rfl
  induction pattern with
  | nil => rfl
  | cons c rest ih =>
    rw [encode_cons, List.splitOn_cons_eq_if_modifyHead]
    by_cases hc : c = '%'
    · subst hc
      have hbyte : String.utf8EncodeChar '%' = [wildcard] := rfl
      rw [hbyte, List.singleton_append, List.splitOn_cons_eq_if_modifyHead, ih]
      rfl
    · rw [hfree (mt wildcard_mem_utf8EncodeChar hc), ih, if_neg (by simpa using hc)]
      obtain ⟨first, others, hsplit⟩ := List.exists_cons_of_ne_nil (List.splitOn_ne_nil '%' rest)
      simp [hsplit, encode_cons]

lemma fromOnBytes?_encode {first : List Char} {others : List (List Char)} (hothers : others ≠ [])
    (text : List Char) : fromOnBytes? (encode text) (encode first) (others.map encode) =
      some (matchesFrom text first others) := by
  have hlast : (others.map encode).getLastD [] = encode (others.getLastD []) := by
    rw [List.getLastD_eq_getLast?, List.getLastD_eq_getLast?, List.getLast?_map]
    cases others.getLast? <;> rfl
  rw [fromOnBytes?, matchesFrom, hlast]
  simp only [List.isPrefixOf_iff_prefix, prefix_encode_iff, length_encode]
  cases hafter : after? first text with
  | none => exact if_neg fun h => after?_eq_none_iff.1 hafter h.1
  | some rest =>
    obtain rfl := after?_eq_some_iff.1 hafter
    dsimp only
    by_cases hshort :
        byteLength (first ++ rest) < byteLength first + byteLength (others.getLastD [])
    · rw [if_pos hshort, if_neg fun h => Nat.not_lt.2 h.2 hshort]
    · rw [if_neg hshort, if_pos ⟨List.prefix_append first rest, Nat.not_lt.1 hshort⟩,
        ← length_encode first, cut?_encode]
      exact restOnBytes?_encode hothers rest

/-- **No cut goes through a character**, and the search on bytes gives the same answer. -/
lemma onBytes?_encode (text pattern : String) :
    onBytes? (encode text.toList) (encode pattern.toList) = some (like text pattern) := by
  rw [onBytes?, like, segments_eq_splitOn, splitOn_encode]
  obtain ⟨first, others, hsplit⟩ :=
    List.exists_cons_of_ne_nil (List.splitOn_ne_nil '%' pattern.toList)
  rw [hsplit]
  cases others with
  | nil => simp [encode_inj, String.toList_inj]
  | cons second others => exact fromOnBytes?_encode (List.cons_ne_nil _ _) _

end Bytes

end Like

/-- **Patterns match exactly what they stand for.**  Cut a pattern at its percent signs.  A text
matches if and only if it consists of the segments in their order with any texts between them; so
the first and the last segment do not overlap.  Each percent sign stands for any text between what
the two sides of it match, and two of them next to each other are as good as one.

The bytes of the texts can be searched instead, and cut at the offsets that are found: the answer
is the same, and no cut goes through a character. -/
theorem like_exact (text pattern : String) :
    (like text pattern = true ↔ ∃ gaps : List (List Char),
      gaps.length + 1 = (pattern.toList.splitOn '%').length ∧
      text.toList = (List.zipWith (· ++ ·) ([] :: gaps) (pattern.toList.splitOn '%')).flatten) ∧
    (∀ first middle last, pattern.toList.splitOn '%' = first :: middle ++ [last] →
      like text pattern = true → ∃ between, text.toList = first ++ between ++ last) ∧
    (∀ left right : String, pattern = left ++ "%" ++ right → (like text pattern = true ↔
      ∃ u w v, text = u ++ w ++ v ∧ like u left = true ∧ like v right = true)) ∧
    (∀ left right : String, pattern = left ++ "%%" ++ right →
      like text pattern = like text (left ++ "%" ++ right)) ∧
    Like.onBytes? (Text.bytes text) (Text.bytes pattern) = some (like text pattern) := by
  refine ⟨Like.like_iff_fits, fun first middle last hsplit h => ?_, ?_, ?_, ?_⟩
  · rw [Like.like_iff_fits, hsplit, List.cons_append, Like.fits_cons] at h
    obtain ⟨rest, htext, hwoven⟩ := h
    obtain ⟨between, rfl⟩ := hwoven.last_suffix
    exact ⟨between, by simpa using htext⟩
  · rintro left right rfl
    exact Like.like_wildcard_iff
  · rintro left right rfl
    exact Like.like_wildcards left right
  · rw [Text.bytes_eq_flatMap, Text.bytes_eq_flatMap]
    exact Like.onBytes?_encode text pattern

/-- The middle segment occurs twice, and either occurrence shows that the text matches. -/
theorem like_exact_twice : like "aéxéb" "a%é%b" = true ∧
    (∃ between, "aéxéb".toList = ['a'] ++ between ++ ['b']) ∧
    Like.onBytes? (Text.bytes "aéxéb") (Text.bytes "a%é%b") = some true := by
  obtain ⟨hexact, hends, -, -, hbytes⟩ := like_exact "aéxéb" "a%é%b"
  have hlike := hexact.2 ⟨[['é', 'x'], []], rfl, rfl⟩
  exact ⟨hlike, hends ['a'] [['é']] ['b'] rfl hlike, hlike ▸ hbytes⟩

end Soak
