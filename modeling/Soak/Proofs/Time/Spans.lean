import Mathlib.Data.List.Forall2
import Mathlib.Tactic.Common
import Soak.Time.Spans

/-!
# Durations survive being written

A duration is broken down into years, months, days, hours, minutes, seconds and three units
below the second, and each of them that is not zero is written as a number and a unit
(`Duration.spans`).  `Duration.ofSpans?` reads the spans one after the other and adds them up,
in 64 bits.  No sum on the way is larger than the whole, so a duration whose seconds fit 64 bits
is read back exactly (`Duration.ofSpans?_spans`), and no other one can be read
(`Duration.secs_lt_of_ofSpans?`).
-/

namespace Soak

/-! ### Digits -/

namespace Text

/-- No digit is blank. -/
lemma isBlank_of_isDigit {c : Char} (h : c.isDigit = true) : isBlank c = false := by
  obtain ⟨hlow, hhigh⟩ : 48 ≤ c.toNat ∧ c.toNat ≤ 57 := Char.isDigit_iff_toNat.1 h
  simp [isBlank, blankRuns]
  omega

lemma isDigit_of_mem_digits {n : Nat} : ∀ c ∈ Nat.toDigits 10 n, c.isDigit = true :=
  fun _ hc => Nat.isDigit_of_mem_toDigits (by decide) (by decide) hc

end Text

namespace Duration

variable {text : String} {texts : List String} {span : Span} {spans : List Span}
  {d e : Duration} {n : Nat}

/-- Letters of units end a number. -/
lemma isUnitLetter_spec {c : Char} (h : isUnitLetter c = true) :
    c.isDigit = false ∧ Text.isBlank c = false ∧ c ≠ '.' := by
  have hrange : 65 ≤ c.toNat ∧ c.toNat ≤ 90 ∨ 97 ≤ c.toNat ∧ c.toNat ≤ 122 ∨ c.toNat = 181 := by
    obtain hletter | hmicro := Bool.or_eq_true_iff.1 h
    · obtain hupper | hlower := Bool.or_eq_true_iff.1 hletter
      · exact .inl (of_decide_eq_true hupper)
      · obtain ⟨hlow, hhigh⟩ := Bool.and_eq_true_iff.1 hlower
        have hlow : c.val ≥ 'a'.val := of_decide_eq_true hlow
        have hhigh : c.val ≤ 'z'.val := of_decide_eq_true hhigh
        exact .inr (.inl ⟨hlow, hhigh⟩)
    · obtain rfl := of_decide_eq_true hmicro
      exact .inr (.inr rfl)
  refine ⟨eq_false_of_ne_true fun hdigit => ?_, ?_, ?_⟩
  · obtain ⟨hlow, hhigh⟩ : 48 ≤ c.toNat ∧ c.toNat ≤ 57 := Char.isDigit_iff_toNat.1 hdigit
    omega
  · simp [Text.isBlank, Text.blankRuns]
    omega
  · rintro rfl
    simp at hrange

/-- The reader of a number takes in all digits at the start of a text. -/
lemma readDigits_append {digits : List Char} (h : ∀ c ∈ digits, c.isDigit = true)
    (rest : List Char) (n count : Nat) :
    readDigits (digits ++ rest) n count =
      readDigits rest (Nat.ofDigitChars 10 digits n) (count + digits.length) := by
  induction digits generalizing n count with
  | nil => rfl
  | cons c digits ih =>
    rw [List.cons_append, readDigits, if_pos (h c List.mem_cons_self),
      ih fun c hc => h c (List.mem_cons_of_mem _ hc), Nat.ofDigitChars_cons, Nat.mul_comm 10 n,
      List.length_cons, Nat.add_assoc, Nat.add_comm 1]

/-! ### One span -/

/-- A text that writes a whole number of a unit. -/
def Spells (text : String) (span : Span) : Prop :=
  ∃ name : String, text = toString span.whole ++ name ∧ span.fraction = none ∧
    (∀ c ∈ name.toList, isUnitLetter c = true) ∧ TimeUnit.ofName? name = some span.unit

lemma spells_mk {count : Nat} {name : String} {unit : TimeUnit}
    (hname : name.toList.all isUnitLetter = true) (hunit : TimeUnit.ofName? name = some unit) :
    Spells (toString count ++ name) ⟨count, none, unit⟩ :=
  ⟨name, rfl, rfl, List.all_eq_true.1 hname, hunit⟩

/-- The digits and the unit that a span is written with. -/
lemma Spells.exists_letters (h : Spells text span) : ∃ c letters,
    text.toList = Nat.toDigits 10 span.whole ++ c :: letters ∧ span.fraction = none ∧
    (∀ x ∈ c :: letters, isUnitLetter x = true) ∧
    TimeUnit.ofName? (String.ofList (c :: letters)) = some span.unit := by
  obtain ⟨name, rfl, hfraction, hname, hunit⟩ := h
  cases hletters : name.toList with
  | nil =>
    obtain rfl : name = "" := String.toList_eq_nil_iff.1 hletters
    exact absurd hunit (by rw [show TimeUnit.ofName? "" = none from by decide]; exact nofun)
  | cons c letters =>
    refine ⟨c, letters, ?_, hfraction, hletters ▸ hname, ?_⟩
    · rw [String.toList_append, hletters]
      exact congrArg (· ++ c :: letters) Nat.toList_repr
    · rw [← hletters, String.ofList_toList]
      exact hunit

/-- The reader takes in a span that ends the text or is followed by a blank. -/
lemma readSpan_of_spells (h : Spells text span) {rest : List Char}
    (hrest : rest = [] ∨ ∃ after, rest = ' ' :: after) :
    readSpan (text.toList ++ rest) = some (span, rest) := by
  obtain ⟨c, letters, htext, hfraction, hletters, hunit⟩ := h.exists_letters
  obtain ⟨hdigit, hblank, hpoint⟩ := isUnitLetter_spec (hletters c List.mem_cons_self)
  have hnumber : readDigits (text.toList ++ rest) 0 0 =
      (span.whole, (Nat.toDigits 10 span.whole).length, c :: (letters ++ rest)) := by
    rw [htext, List.append_assoc, readDigits_append Text.isDigit_of_mem_digits,
      Nat.ofDigitChars_toDigits (by decide) (by decide), List.cons_append, readDigits,
      if_neg (by simp [hdigit]), if_neg (by simp [hblank]), Nat.zero_add]
  have hstop : rest.takeWhile isUnitLetter = [] ∧ rest.dropWhile isUnitLetter = rest := by
    obtain rfl | ⟨after, rfl⟩ := hrest
    · exact ⟨rfl, rfl⟩
    · have hspace : isUnitLetter ' ' = false := by decide
      simp [hspace]
  have htake : (c :: (letters ++ rest)).takeWhile isUnitLetter = c :: letters := by
    rw [← List.cons_append, List.takeWhile_append_of_pos hletters, hstop.1, List.append_nil]
  have hdrop : (c :: (letters ++ rest)).dropWhile isUnitLetter = rest := by
    rw [← List.cons_append, List.dropWhile_append_of_pos hletters, hstop.2]
  obtain ⟨whole, fraction, unit⟩ := span
  obtain rfl : fraction = none := hfraction
  simp only [readSpan, hnumber]
  split
  · next heq => exact absurd (List.cons.inj heq).1 hpoint
  · simp only [Option.bind_eq_bind, Option.bind_some, htake, hdrop, hunit]
    obtain rfl | ⟨after, rfl⟩ := hrest
    · rfl
    · rfl

/-! ### All spans -/

/-- Blanks between spans do not count. -/
lemma readSpans_space (fuel : Nat) (cs : List Char) :
    readSpans fuel (' ' :: cs) = readSpans fuel cs := by
  have hskip : (' ' :: cs).dropWhile Text.isBlank = cs.dropWhile Text.isBlank := rfl
  unfold readSpans
  rw [hskip]

lemma readSpans_append (h : Spells text span) {rest : List Char}
    (hrest : rest = [] ∨ ∃ after, rest = ' ' :: after) (fuel : Nat) :
    readSpans (fuel + 1) (text.toList ++ rest) = (readSpans fuel rest).map (span :: ·) := by
  have hread := readSpan_of_spells h hrest
  obtain ⟨c, letters, htext, -⟩ := h.exists_letters
  cases hdigits : Nat.toDigits 10 span.whole with
  | nil => exact absurd hdigits Nat.toDigits_ne_nil
  | cons x digits =>
    have hx : x.isDigit = true := Text.isDigit_of_mem_digits x (hdigits ▸ List.mem_cons_self)
    have htext : text.toList ++ rest = x :: (digits ++ c :: letters ++ rest) := by
      rw [htext, hdigits, List.cons_append, List.cons_append]
    rw [htext] at hread ⊢
    rw [readSpans, List.dropWhile_cons_of_neg (by simp [Text.isBlank_of_isDigit hx])]
    simp only [if_pos hx, hread]

/-- The reader takes in spans one after the other. -/
lemma readSpans_of_spells (h : List.Forall₂ Spells texts spans) {fuel : Nat}
    (hfuel : texts.length ≤ fuel) :
    readSpans fuel (String.intercalate " " texts).toList = some spans := by
  induction h generalizing fuel with
  | nil => rw [readSpans.eq_def]; rfl
  | @cons text span texts spans hspells _ ih =>
    obtain ⟨fuel, rfl⟩ : ∃ k, fuel = k + 1 :=
      Nat.exists_eq_add_of_le' (Nat.succ_le_of_lt (Nat.lt_of_lt_of_le (Nat.succ_pos _) hfuel))
    have ih := ih (Nat.le_of_succ_le_succ hfuel)
    cases texts with
    | nil =>
      rw [String.intercalate_singleton, ← List.append_nil text.toList,
        readSpans_append hspells (.inl rfl)]
      exact congrArg (Option.map (span :: ·)) ih
    | cons next texts =>
      rw [String.intercalate_cons_cons, String.toList_append, String.toList_append,
        List.append_assoc]
      refine (readSpans_append hspells (.inr ⟨_, rfl⟩) fuel).trans ?_
      exact congrArg (Option.map (span :: ·)) ((readSpans_space _ _).trans ih)

/-- Every span takes room. -/
lemma length_le_of_spells (h : List.Forall₂ Spells texts spans) :
    texts.length ≤ (String.intercalate " " texts).toList.length := by
  induction h with
  | nil => exact Nat.zero_le _
  | @cons text span texts spans hspells _ ih =>
    have htext : 1 ≤ text.toList.length := by
      obtain ⟨c, letters, htext, -⟩ := hspells.exists_letters
      rw [htext, List.length_append, List.length_cons]
      omega
    cases texts with
    | nil => simpa using htext
    | cons next texts =>
      simp only [String.intercalate_cons_cons, String.toList_append, List.length_append,
        List.length_cons] at ih htext ⊢
      omega

/-! ### The sum of the spans -/

/-- How much time a whole number of a unit is. -/
def Span.nanos (span : Span) : Nat :=
  span.whole * span.unit.nanos

namespace TimeUnit

lemma nanos_pos (unit : TimeUnit) : 0 < unit.nanos := by
  cases unit <;> decide

/-- A unit of at least a second is a number of whole seconds. -/
lemma nanos_div_mul {unit : TimeUnit} (h : ¬ unit.nanos < 1000000000) :
    unit.nanos / 1000000000 * 1000000000 = unit.nanos := by
  cases unit <;> simp [nanos] at h ⊢

end TimeUnit

lemma word?_of_lt (h : n < 2 ^ 64) : word? n = some n :=
  if_pos h

/-- A duration grows by a step as often as it is told to, if it stays in 64 bits. -/
lemma extend?_eq {step count : Nat} (hcount : count < 2 ^ 64)
    (hsmall : step = 1 → d.subsecNanos + count < 2 ^ 64)
    (hsum : (⟨d.nanos + count * step⟩ : Duration).secs < 2 ^ 64) :
    d.extend? step count = some ⟨d.nanos + count * step⟩ := by
  unfold extend?
  rw [word?_of_lt hcount]
  by_cases hstep : step = 1
  · subst hstep
    rw [Nat.mul_one] at hsum ⊢
    simp [word?_of_lt (hsmall rfl), word?_of_lt hsum]
  · simp [hstep, word?_of_lt hsum]

/-- A whole number of a unit is read if the sum fits 64 bits; a number of a unit below the second
has to be less than a second. -/
lemma addSpan?_eq (hwhole : span.fraction = none)
    (hsmall : span.unit.nanos < 1000000000 → span.nanos < 1000000000)
    (hsum : (⟨d.nanos + span.nanos⟩ : Duration).secs < 2 ^ 64) :
    addSpan? d span = some ⟨d.nanos + span.nanos⟩ := by
  obtain ⟨n, fraction, unit⟩ := span
  obtain rfl : fraction = none := hwhole
  simp only [Span.nanos] at hsmall hsum ⊢
  have hsecs : (d.nanos + n * unit.nanos) / 1000000000 < 2 ^ 64 := hsum
  have hsubsec : d.subsecNanos < 1000000000 := d.subsecNanos_lt
  -- nanoseconds are counted, or whole seconds
  by_cases hunit : unit.nanos < 1000000000
  · have hn : n ≤ n * unit.nanos := Nat.le_mul_of_pos_right n unit.nanos_pos
    have hlt := hsmall hunit
    have hextend : d.extend? 1 (n * unit.nanos) = some ⟨d.nanos + n * unit.nanos * 1⟩ :=
      extend?_eq (by omega) (fun _ => by omega) (by rwa [Nat.mul_one])
    have hstep : unit.wholeStep = 1 := if_pos hunit
    simp only [addSpan?, hstep, word?_of_lt (show n < 2 ^ 64 by omega), hextend, Nat.div_one,
      Nat.mul_one, Option.bind_eq_bind, Option.bind_some, Option.pure_def]
  · have hseconds := TimeUnit.nanos_div_mul hunit
    have hn : n ≤ n * (unit.nanos / 1000000000) := Nat.le_mul_of_pos_right n (by omega)
    have hcount : n * (unit.nanos / 1000000000) * 1000000000 = n * unit.nanos := by
      rw [Nat.mul_assoc, hseconds]
    have hextend : d.extend? 1000000000 (n * (unit.nanos / 1000000000)) =
        some ⟨d.nanos + n * (unit.nanos / 1000000000) * 1000000000⟩ :=
      extend?_eq (by omega) (fun h => absurd h (by decide)) (by rwa [hcount])
    have hstep : unit.wholeStep = 1000000000 := if_neg hunit
    simp only [addSpan?, hstep, word?_of_lt (show n < 2 ^ 64 by omega), hextend, hcount,
      Option.bind_eq_bind, Option.bind_some, Option.pure_def]

/-- Spans are added up if their sum fits 64 bits. -/
lemma foldlM_addSpan? (hspans : ∀ s ∈ spans, s.fraction = none ∧
    (s.unit.nanos < 1000000000 → s.nanos < 1000000000))
    (hsum : (⟨d.nanos + (spans.map Span.nanos).sum⟩ : Duration).secs < 2 ^ 64) :
    spans.foldlM addSpan? d = some ⟨d.nanos + (spans.map Span.nanos).sum⟩ := by
  induction spans generalizing d with
  | nil => rfl
  | cons s spans ih =>
    obtain ⟨hwhole, hsmall⟩ := hspans s List.mem_cons_self
    rw [List.map_cons, List.sum_cons, ← Nat.add_assoc] at hsum ⊢
    have hfirst : (⟨d.nanos + s.nanos⟩ : Duration).secs < 2 ^ 64 :=
      Nat.lt_of_le_of_lt (Nat.div_le_div_right (Nat.le_add_right _ _)) hsum
    rw [List.foldlM_cons, addSpan?_eq hwhole hsmall hfirst]
    exact ih (fun s hs => hspans s (List.mem_cons_of_mem _ hs)) hsum

lemma lt_of_word? {m : Nat} (h : word? n = some m) : n < 2 ^ 64 := by
  unfold word? at h
  split at h
  · assumption
  · cases h

lemma secs_lt_of_extend? {step count : Nat} (h : d.extend? step count = some e) :
    e.secs < 2 ^ 64 := by
  unfold extend? at h
  simp only [Option.bind_eq_bind, Option.bind_eq_some_iff] at h
  obtain ⟨k, -, h⟩ := h
  split at h <;> simp only [Option.bind_eq_some_iff] at h <;>
    · obtain ⟨_, _, _, hsecs, hsum⟩ := h
      obtain rfl := Option.some.inj hsum
      exact lt_of_word? hsecs

/-- What is read has seconds that fit 64 bits. -/
lemma secs_lt_of_addSpan? (h : addSpan? d span = some e) : e.secs < 2 ^ 64 := by
  simp only [addSpan?, Option.bind_eq_bind, Option.bind_eq_some_iff] at h
  obtain ⟨whole, -, sum, hsum, h⟩ := h
  split at h
  · obtain rfl := Option.some.inj h
    exact secs_lt_of_extend? hsum
  · simp only [Option.bind_eq_some_iff] at h
    obtain ⟨step, -, denominator, -, numerator, -, product, -, h⟩ := h
    split at h
    · exact secs_lt_of_extend? h
    · cases h

lemma secs_lt_of_foldlM (hd : d.secs < 2 ^ 64) (h : spans.foldlM addSpan? d = some e) :
    e.secs < 2 ^ 64 := by
  induction spans generalizing d with
  | nil =>
    obtain rfl := Option.some.inj h
    exact hd
  | cons s spans ih =>
    rw [List.foldlM_cons, Option.bind_eq_bind, Option.bind_eq_some_iff] at h
    obtain ⟨d', hd', h⟩ := h
    exact ih (secs_lt_of_addSpan? hd') h

/-! ### The spans of a duration -/

/-- A span of a number of a unit, left out if it is zero. -/
def wholeSpan (count : Nat) (unit : TimeUnit) : List Span :=
  if count = 0 then [] else [⟨count, none, unit⟩]

/-- The spans that a duration is broken down into. -/
def breakdown (d : Duration) : List Span :=
  let yearRest := d.secs % 31557600
  let monthRest := yearRest % 2630016
  let dayRest := monthRest % 86400
  let subsec := d.subsecNanos
  wholeSpan (d.secs / 31557600) .year ++ wholeSpan (yearRest / 2630016) .month
    ++ wholeSpan (monthRest / 86400) .day
    ++ wholeSpan (dayRest / 3600) .hour ++ wholeSpan (dayRest % 3600 / 60) .minute
    ++ wholeSpan (dayRest % 60) .second
    ++ wholeSpan (subsec / 1000000) .millisecond ++ wholeSpan (subsec / 1000 % 1000) .microsecond
    ++ wholeSpan (subsec % 1000) .nanosecond

lemma spells_namedSpan {name : String} {unit : TimeUnit}
    (hone : (name ++ "").toList.all isUnitLetter = true)
    (hmany : (name ++ "s").toList.all isUnitLetter = true)
    (hunit : TimeUnit.ofName? (name ++ "") = some unit)
    (hunits : TimeUnit.ofName? (name ++ "s") = some unit) (count : Nat) :
    List.Forall₂ Spells (namedSpan count name) (wholeSpan count unit) := by
  unfold namedSpan wholeSpan
  split_ifs with hzero h
  · exact .nil
  · exact .cons (String.append_assoc ▸ spells_mk hone hunit) .nil
  · exact .cons (String.append_assoc ▸ spells_mk hmany hunits) .nil

lemma spells_shortSpan {name : String} {unit : TimeUnit}
    (hname : name.toList.all isUnitLetter = true) (hunit : TimeUnit.ofName? name = some unit)
    (count : Nat) : List.Forall₂ Spells (shortSpan count name) (wholeSpan count unit) := by
  unfold shortSpan wholeSpan
  split_ifs
  · exact .nil
  · exact .cons (spells_mk hname hunit) .nil

/-- The text of a duration writes the spans that it is broken down into. -/
lemma spells_spanTexts (d : Duration) : List.Forall₂ Spells d.spanTexts d.breakdown := by
  refine List.rel_append (List.rel_append (List.rel_append (List.rel_append (List.rel_append
    (List.rel_append (List.rel_append (List.rel_append ?_ ?_) ?_) ?_) ?_) ?_) ?_) ?_) ?_
  · exact spells_namedSpan (by decide) (by decide) (by decide) (by decide) _
  · exact spells_namedSpan (by decide) (by decide) (by decide) (by decide) _
  · exact spells_namedSpan (by decide) (by decide) (by decide) (by decide) _
  all_goals exact spells_shortSpan (by decide) (by decide) _

@[simp] lemma sum_wholeSpan (count : Nat) (unit : TimeUnit) :
    ((wholeSpan count unit).map Span.nanos).sum = count * unit.nanos := by
  unfold wholeSpan
  split_ifs with hzero
  · simp [hzero]
  · simp [Span.nanos]

/-- The spans make up the duration again. -/
lemma sum_breakdown (d : Duration) : (d.breakdown.map Span.nanos).sum = d.nanos := by
  have hparts : d.nanos = d.secs * 1000000000 + d.subsecNanos :=
    congrArg nanos (ofParts_secs_subsecNanos d).symm
  simp only [breakdown, List.map_append, List.sum_append, sum_wholeSpan, TimeUnit.nanos]
  omega

lemma small_of_mem_wholeSpan {count : Nat} {unit : TimeUnit} (h : span ∈ wholeSpan count unit)
    (hsmall : unit.nanos < 1000000000 → count * unit.nanos < 1000000000) :
    span.fraction = none ∧ (span.unit.nanos < 1000000000 → span.nanos < 1000000000) := by
  unfold wholeSpan at h
  split_ifs at h with hzero
  · cases h
  · obtain rfl := List.mem_singleton.1 h
    exact ⟨rfl, hsmall⟩

/-- Only the last three spans are below the second, and they are less than a second each. -/
lemma small_of_mem_breakdown (h : span ∈ d.breakdown) :
    span.fraction = none ∧ (span.unit.nanos < 1000000000 → span.nanos < 1000000000) := by
  have hsubsec := d.subsecNanos_lt
  simp only [breakdown, List.mem_append, or_assoc] at h
  rcases h with h | h | h | h | h | h | h | h | h
  iterate 6 exact small_of_mem_wholeSpan h fun hunit => absurd hunit (by decide)
  all_goals
    refine small_of_mem_wholeSpan h fun _ => ?_
    simp only [TimeUnit.nanos]
    omega

/-- A duration is broken down into nothing only if it is zero. -/
lemma breakdown_ne_nil (h : d ≠ zero) : d.breakdown ≠ [] := by
  intro hnil
  have hsum := sum_breakdown d
  rw [hnil] at hsum
  exact h (congrArg mk hsum.symm)

/-- **Every duration whose seconds fit 64 bits survives being written and read back.** -/
lemma ofSpans?_spans (h : d.secs < 2 ^ 64) : ofSpans? d.spans = some d := by
  by_cases hzero : d = zero
  · rw [hzero]
    decide +kernel
  · have hspells := spells_spanTexts d
    have hread := readSpans_of_spells hspells (length_le_of_spells hspells)
    have hsum : d.breakdown.foldlM addSpan? zero = some d := by
      have hnanos : zero.nanos + (d.breakdown.map Span.nanos).sum = d.nanos := by
        rw [sum_breakdown]
        exact Nat.zero_add _
      rw [foldlM_addSpan? (fun s hs => small_of_mem_breakdown hs) (hnanos ▸ h), hnanos]
    -- the digit zero alone is no span
    have hbare : d.spans ≠ "0" := by
      intro heq
      rw [spans, if_neg hzero] at heq
      have hnone : readSpans ("0" : String).toList.length ("0" : String).toList = none := by
        decide +kernel
      rw [heq, hnone] at hread
      cases hread
    rw [ofSpans?, if_neg hbare, spans, if_neg hzero, hread]
    split
    · next heq => cases heq
    · next heq => exact absurd (Option.some.inj heq) (breakdown_ne_nil hzero)
    · next heq =>
      obtain rfl := Option.some.inj heq
      exact hsum

/-- No other duration can be read. -/
lemma secs_lt_of_ofSpans? (h : ofSpans? text = some d) : d.secs < 2 ^ 64 := by
  unfold ofSpans? at h
  split at h
  · obtain rfl := Option.some.inj h
    decide
  · split at h
    · cases h
    · cases h
    · exact secs_lt_of_foldlM (by decide) h

end Duration

end Soak
