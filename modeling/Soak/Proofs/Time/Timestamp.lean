import Soak.Proofs.Time.Spans
import Soak.Time.Timestamp

/-!
# Points in time survive being written

A point in time is written with a fixed number of digits for each of its parts and with 0, 3, 6
or 9 digits of its fraction (`Timestamp.toZulu`).  `Timestamp.ofText?` reads it back to the
nanosecond, leap seconds and years outside of 0 to 9999 included (`Timestamp.ofText?_toZulu`),
and whatever text it reads, in whatever zone, is a date and time that exists
(`Timestamp.isValid_of_ofText?`).
-/

namespace Soak.Timestamp

variable {t : Timestamp} {c : Char} {n width : Nat} {digits rest : List Char}

/-! ### Numbers with a width -/

lemma toList_padded (width n : Nat) : (padded width n).toList =
    List.replicate (width - (Nat.toDigits 10 n).length) '0' ++ Nat.toDigits 10 n :=
  String.toList_ofList

lemma isDigit_of_mem_padded (h : c ∈ (padded width n).toList) : c.isDigit = true := by
  rw [toList_padded] at h
  obtain h | h := List.mem_append.1 h
  · rw [List.eq_of_mem_replicate h]
    decide
  · exact Text.isDigit_of_mem_digits c h

lemma padded_ne_nil : (padded width n).toList ≠ [] := by
  simp [toList_padded, Nat.toDigits_ne_nil]

/-- A number that needs no more digits is written with exactly as many as the width. -/
lemma length_padded (hwidth : 0 < width) (h : n < 10 ^ width) :
    (padded width n).toList.length = width := by
  have := (Nat.length_toDigits_le_iff (b := 10) (by decide) hwidth).2 h
  rw [toList_padded, List.length_append, List.length_replicate]
  omega

lemma ofDigitChars_padded : Nat.ofDigitChars 10 (padded width n).toList 0 = n := by
  rw [toList_padded, Nat.ofDigitChars_append, Nat.ofDigitChars_replicate_zero, Nat.mul_zero,
    Nat.ofDigitChars_ten_toDigits]

lemma foldl_digits (n : Nat) : digits.foldl (fun n d => n * 10 + (d.toNat - '0'.toNat)) n =
    Nat.ofDigitChars 10 digits n := by
  simp only [Nat.ofDigitChars_eq_foldl, Nat.mul_comm 10]

lemma skipBlank_cons (h : Text.isBlank c = false) : skipBlank (c :: rest) = c :: rest :=
  List.dropWhile_cons_of_neg (by simp [h])

/-- Nothing is skipped before a digit. -/
lemma skipBlank_digits (hne : digits ≠ []) (hdigits : ∀ c ∈ digits, c.isDigit = true) :
    skipBlank (digits ++ rest) = digits ++ rest := by
  obtain ⟨c, digits, rfl⟩ := List.exists_cons_of_ne_nil hne
  exact skipBlank_cons (Text.isBlank_of_isDigit (hdigits c List.mem_cons_self))

/-- A text that goes on without a digit. -/
def Stops (rest : List Char) : Prop :=
  ∀ c ∈ rest.head?, c.isDigit = false

lemma stops_cons (h : c.isDigit = false) : Stops (c :: rest) := by
  intro x hx
  rw [← Option.some.inj hx]
  exact h

lemma Stops.takeWhile (h : Stops rest) : rest.takeWhile Char.isDigit = [] := by
  cases rest with
  | nil => rfl
  | cons c rest => exact List.takeWhile_cons_of_neg (by simp [h c rfl])

lemma Stops.take (h : Stops rest) (k : Nat) : Stops (rest.take k) := by
  intro c hc
  rw [List.head?_take] at hc
  split at hc
  · cases hc
  · exact h c hc

/-- A number is read if it has as many digits as it may have, or if it is followed by no digit. -/
lemma readNumber_digits (hne : digits ≠ []) (hdigits : ∀ c ∈ digits, c.isDigit = true)
    (hlength : digits.length ≤ width) (hstop : digits.length = width ∨ Stops rest) :
    readNumber width (digits ++ rest) = some (Nat.ofDigitChars 10 digits 0, rest) := by
  have hrest : (rest.take (width - digits.length)).takeWhile Char.isDigit = [] := by
    obtain heq | hstop := hstop
    · rw [heq, Nat.sub_self]
      rfl
    · exact (hstop.take _).takeWhile
  have htaken : ((digits ++ rest).take width).takeWhile Char.isDigit = digits := by
    rw [List.take_append, List.take_of_length_le hlength, List.takeWhile_append_of_pos hdigits,
      hrest, List.append_nil]
  simp only [readNumber, skipBlank_digits hne hdigits, htaken, List.isEmpty_eq_false_iff.2 hne,
    foldl_digits, List.drop_left, Bool.false_eq_true, if_false]

/-- A number that is written with its width is read with it, whatever follows. -/
lemma readNumber_padded (hwidth : 0 < width) (h : n < 10 ^ width) (rest : List Char) :
    readNumber width ((padded width n).toList ++ rest) = some (n, rest) := by
  have hlength := length_padded hwidth h
  rw [readNumber_digits padded_ne_nil (fun _ => isDigit_of_mem_padded) (Nat.le_of_eq hlength)
    (.inl hlength), ofDigitChars_padded]

/-! ### The parts of the text -/

/-- After a sign, a year is read to the last digit. -/
lemma readYear_signed (n : Nat) (hstop : Stops rest) :
    readYear ('-' :: ((padded 4 n).toList ++ rest)) = some (-(n : Int), rest) ∧
      readYear ('+' :: ((padded 4 n).toList ++ rest)) = some ((n : Int), rest) := by
  obtain ⟨c, digits, hdigits⟩ :=
    List.exists_cons_of_ne_nil (padded_ne_nil : (padded 4 n).toList ≠ [])
  have hc : c.isDigit = true := isDigit_of_mem_padded (hdigits ▸ List.mem_cons_self)
  have hread : readNumber ((padded 4 n).toList ++ rest).length ((padded 4 n).toList ++ rest) =
      some (n, rest) := by
    rw [readNumber_digits padded_ne_nil (fun _ => isDigit_of_mem_padded) (by simp) (.inr hstop),
      ofDigitChars_padded]
  rw [hdigits, List.cons_append] at hread ⊢
  have hminus : Text.isBlank '-' = false := by decide
  have hplus : Text.isBlank '+' = false := by decide
  constructor
  · simp only [readYear, skipBlank_cons hminus, if_pos hc, hread]
    simp
  · simp only [readYear, skipBlank_cons hplus, if_pos hc, hread]
    simp

/-- Without a sign, a year has four digits. -/
lemma readYear_unsigned (h : n < 10 ^ 4) (rest : List Char) :
    readYear ((padded 4 n).toList ++ rest) = some ((n : Int), rest) := by
  have hread := readNumber_padded (show 0 < 4 by decide) h rest
  have hskip : skipBlank ((padded 4 n).toList ++ rest) = (padded 4 n).toList ++ rest :=
    skipBlank_digits padded_ne_nil fun _ => isDigit_of_mem_padded
  have hsign {sign : Char} {after : List Char} (hdigit : sign.isDigit = false) :
      (padded 4 n).toList ++ rest ≠ sign :: after := by
    intro heq
    obtain ⟨c, digits, hdigits⟩ :=
      List.exists_cons_of_ne_nil (padded_ne_nil : (padded 4 n).toList ≠ [])
    have hc : c.isDigit = true := isDigit_of_mem_padded (hdigits ▸ List.mem_cons_self)
    rw [hdigits] at heq
    rw [(List.cons.inj heq).1, hdigit] at hc
    cases hc
  simp only [readYear, hskip]
  split
  · next heq => exact absurd heq (hsign (by decide))
  · next heq => exact absurd heq (hsign (by decide))
  · rw [hread]
    rfl

/-- Years are read as they are written, before and after the four-digit ones too. -/
lemma readYear_yearText (year : Int) (hstop : Stops rest) :
    readYear ((yearText year).toList ++ rest) = some (year, rest) := by
  unfold yearText
  split_ifs with hfour hneg
  · rw [readYear_unsigned (by omega), show (year.toNat : Int) = year by omega]
  · rw [String.toList_append, List.append_assoc]
    refine (readYear_signed _ hstop).1.trans ?_
    rw [show (-(year.natAbs : Int)) = year by omega]
  · rw [String.toList_append, List.append_assoc]
    refine (readYear_signed _ hstop).2.trans ?_
    rw [show (year.natAbs : Int) = year by omega]

lemma readMark_cons {mark : Char} (h : Text.isBlank mark = false) :
    readMark mark (mark :: rest) = some rest := by
  simp [readMark, skipBlank_cons h]

/-- Some digits of a fraction are read as the first of nine. -/
lemma readFraction_padded {places : Nat} (hpos : 0 < places) (hplaces : places ≤ 9)
    (h : n < 10 ^ places) (hstop : Stops rest) :
    readFraction ('.' :: ((padded places n).toList ++ rest)) =
      some (n * 10 ^ (9 - places), rest) := by
  have hdigits : ∀ c ∈ (padded places n).toList, c.isDigit = true :=
    fun _ => isDigit_of_mem_padded
  have htaken : ((padded places n).toList ++ rest).takeWhile Char.isDigit =
      (padded places n).toList := by
    rw [List.takeWhile_append_of_pos hdigits, hstop.takeWhile, List.append_nil]
  have hdropped : ((padded places n).toList ++ rest).dropWhile Char.isDigit = rest := by
    rw [List.dropWhile_append_of_pos hdigits]
    cases rest with
    | nil => rfl
    | cons c rest => exact List.dropWhile_cons_of_neg (by simp [hstop c rfl])
  have hnine : ((padded places n).toList ++ List.replicate 9 '0').take 9 =
      (padded places n).toList ++ List.replicate (9 - places) '0' := by
    rw [List.take_append, length_padded hpos h, List.take_replicate,
      List.take_of_length_le (by rwa [length_padded hpos h])]
    congr 2
    omega
  simp only [readFraction, htaken, hdropped, List.isEmpty_eq_false_iff.2 padded_ne_nil,
    Bool.false_eq_true, if_false, hnine, foldl_digits, Nat.ofDigitChars_append,
    ofDigitChars_padded, Nat.ofDigitChars_replicate_zero, Nat.mul_comm]

/-- A fraction is exact in the digits that it is written with. -/
lemma readFraction_fractionText (h : n < 1000000000) :
    readFraction ((fractionText n).toList ++ ['Z']) = some (n, ['Z']) := by
  have hstop : Stops ['Z'] := stops_cons (by decide)
  have hpoint (text : String) : ("." ++ text).toList ++ ['Z'] = '.' :: (text.toList ++ ['Z']) := by
    simp
  unfold fractionText
  split_ifs with hzero hmilli hmicro
  · rw [hzero]
    rfl
  · rw [hpoint, readFraction_padded (by decide) (by decide) (by omega) hstop,
      Nat.div_mul_cancel (Nat.dvd_of_mod_eq_zero hmilli)]
  · rw [hpoint, readFraction_padded (by decide) (by decide) (by omega) hstop,
      Nat.div_mul_cancel (Nat.dvd_of_mod_eq_zero hmicro)]
  · rw [hpoint, readFraction_padded (by decide) (by decide) (by omega) hstop, Nat.mul_one]

/-! ### Dates and times that exist -/

/-- A day of a month. -/
def HasDate (t : Timestamp) : Prop :=
  1 ≤ t.month ∧ t.month ≤ 12 ∧ 1 ≤ t.day ∧ t.day ≤ daysIn t.year t.month

/-- A time of day. -/
def HasTime (t : Timestamp) : Prop :=
  t.hour < 24 ∧ t.minute < 60 ∧ t.second ≤ 60 ∧ t.nano < 1000000000

lemma isValid_iff : t.isValid = true ↔ inCalendar t.year = true ∧ t.HasDate ∧ t.HasTime := by
  simp [isValid, HasDate, HasTime, and_assoc]

lemma daysIn_bounds (year : Int) (month : Nat) :
    28 ≤ daysIn year month ∧ daysIn year month ≤ 31 := by
  unfold daysIn
  split
  · split_ifs <;> decide
  all_goals decide

lemma HasDate.nextDay (h : t.HasDate) : t.nextDay.HasDate := by
  obtain ⟨hmonth, hmonth', hday, hday'⟩ := h
  have hbounds := daysIn_bounds t.year t.month
  unfold Timestamp.nextDay
  split_ifs with hsame hyear
  · exact ⟨hmonth, hmonth', by simp, hsame⟩
  · have := daysIn_bounds t.year (t.month + 1)
    exact ⟨by simp, hyear, Nat.le_refl _, by simp; omega⟩
  · have := daysIn_bounds (t.year + 1) 1
    exact ⟨Nat.le_refl _, by simp, Nat.le_refl _, by simp; omega⟩

lemma HasDate.previousDay (h : t.HasDate) : t.previousDay.HasDate := by
  obtain ⟨hmonth, hmonth', hday, hday'⟩ := h
  unfold Timestamp.previousDay
  split_ifs with hsame hyear
  · exact ⟨hmonth, hmonth', by simp; omega, by simp; omega⟩
  · have := daysIn_bounds t.year (t.month - 1)
    exact ⟨by simp; omega, by simp; omega, by simp; omega, Nat.le_refl _⟩
  · exact ⟨by simp, by simp, by simp, Nat.le_refl _⟩

lemma HasTime.nextDay (h : t.HasTime) : t.nextDay.HasTime := by
  unfold Timestamp.nextDay
  split_ifs <;> exact h

lemma HasTime.previousDay (h : t.HasTime) : t.previousDay.HasTime := by
  unfold Timestamp.previousDay
  split_ifs <;> exact h

/-- A point in time that exists is moved to one that exists, if its year does. -/
lemma isValid_shiftMinutes {minutes : Int} (h : t.isValid = true)
    (hyear : inCalendar (t.shiftMinutes minutes).year = true) :
    (t.shiftMinutes minutes).isValid = true := by
  obtain ⟨-, hdate, hhour, hminute, hsecond, hnano⟩ := isValid_iff.1 h
  refine isValid_iff.2 ⟨hyear, ?_⟩
  generalize hinDay : ((t.hour * 60 + t.minute + minutes) % 1440).toNat = inDay
  have hlt : inDay < 1440 := by omega
  let moved : Timestamp := { t with hour := inDay / 60, minute := inDay % 60 }
  have hmoved : moved.HasDate := hdate
  have htime : moved.HasTime :=
    ⟨Nat.div_lt_of_lt_mul hlt, Nat.mod_lt _ (by decide), hsecond, hnano⟩
  unfold shiftMinutes
  simp only [hinDay]
  split_ifs
  · exact ⟨hmoved.previousDay, htime.previousDay⟩
  · exact ⟨hmoved.nextDay, htime.nextDay⟩
  · exact ⟨hmoved, htime⟩

lemma shiftMinutes_zero (h : t.HasTime) : t.shiftMinutes 0 = t := by
  obtain ⟨hhour, hminute, -⟩ := h
  have htotal : (t.hour * 60 + t.minute + 0 : Int) % 1440 = (t.hour * 60 + t.minute : Nat) := by
    omega
  have hparts : (t.hour * 60 + t.minute) / 60 = t.hour ∧ (t.hour * 60 + t.minute) % 60 = t.minute :=
    by omega
  simp only [shiftMinutes, htotal, Int.toNat_natCast, hparts]
  rw [if_neg (by omega), if_neg (by omega)]

/-! ### Writing and reading -/

/-- **Every point in time survives being written and read back, to the nanosecond.** -/
lemma ofText?_toZulu (h : t.isValid = true) : ofText? t.toZulu = some t := by
  obtain ⟨hyear, ⟨hmonth, hmonth', hday, hday'⟩, htime⟩ := isValid_iff.1 h
  have ⟨hhour, hminute, hsecond, hnano⟩ := htime
  have hdays := daysIn_bounds t.year t.month
  have htext : t.toZulu.toList = (yearText t.year).toList ++ '-' :: ((padded 2 t.month).toList ++
      '-' :: ((padded 2 t.day).toList ++ 'T' :: ((padded 2 t.hour).toList ++
      ':' :: ((padded 2 t.minute).toList ++ ':' :: ((padded 2 t.second).toList ++
      ((fractionText t.nano).toList ++ ['Z'])))))) := by
    simp [toZulu, dateTimeText]
  have hdash : Text.isBlank '-' = false := by decide
  have hcolon : Text.isBlank ':' = false := by decide
  have htwo {n : Nat} (hn : n < 10 ^ 2) (rest : List Char) :
      readNumber 2 ((padded 2 n).toList ++ rest) = some (n, rest) :=
    readNumber_padded (by decide) hn rest
  have hzone : readZone ['Z'] = some (0, []) := by decide
  have hvalue : (⟨t.year, t.month, t.day, t.hour, t.minute, t.second, t.nano⟩ : Timestamp) = t :=
    rfl
  unfold ofText?
  rw [htext]
  -- the readers one after another, each of which takes in its part of the text
  refine Option.bind_eq_some_iff.2 ⟨_, readYear_yearText _ (stops_cons (by decide)), ?_⟩
  refine Option.bind_eq_some_iff.2 ⟨_, readMark_cons hdash, ?_⟩
  refine Option.bind_eq_some_iff.2 ⟨_, htwo (by omega) _, ?_⟩
  refine Option.bind_eq_some_iff.2 ⟨_, readMark_cons hdash, ?_⟩
  refine Option.bind_eq_some_iff.2 ⟨_, htwo (by omega) _, ?_⟩
  refine Option.bind_eq_some_iff.2 ⟨_, if_pos (.inl rfl), ?_⟩
  refine Option.bind_eq_some_iff.2 ⟨_, htwo (by omega) _, ?_⟩
  refine Option.bind_eq_some_iff.2 ⟨_, readMark_cons hcolon, ?_⟩
  refine Option.bind_eq_some_iff.2 ⟨_, htwo (by omega) _, ?_⟩
  refine Option.bind_eq_some_iff.2 ⟨_, readMark_cons hcolon, ?_⟩
  refine Option.bind_eq_some_iff.2 ⟨_, htwo (by omega) _, ?_⟩
  refine Option.bind_eq_some_iff.2 ⟨_, readFraction_fractionText hnano, ?_⟩
  refine Option.bind_eq_some_iff.2 ⟨_, hzone, ?_⟩
  dsimp only
  rw [hvalue, Int.neg_zero, shiftMinutes_zero htime, h, hyear]
  rfl

/-- Every point in time that is read exists. -/
lemma isValid_of_ofText? {text : String} (h : ofText? text = some t) : t.isValid = true := by
  unfold ofText? at h
  obtain ⟨⟨year, _⟩, -, h⟩ := Option.bind_eq_some_iff.1 h
  obtain ⟨_, -, h⟩ := Option.bind_eq_some_iff.1 h
  obtain ⟨⟨month, _⟩, -, h⟩ := Option.bind_eq_some_iff.1 h
  obtain ⟨_, -, h⟩ := Option.bind_eq_some_iff.1 h
  obtain ⟨⟨day, _⟩, -, h⟩ := Option.bind_eq_some_iff.1 h
  obtain ⟨_, -, h⟩ := Option.bind_eq_some_iff.1 h
  obtain ⟨⟨hour, _⟩, -, h⟩ := Option.bind_eq_some_iff.1 h
  obtain ⟨_, -, h⟩ := Option.bind_eq_some_iff.1 h
  obtain ⟨⟨minute, _⟩, -, h⟩ := Option.bind_eq_some_iff.1 h
  obtain ⟨_, -, h⟩ := Option.bind_eq_some_iff.1 h
  obtain ⟨⟨second, _⟩, -, h⟩ := Option.bind_eq_some_iff.1 h
  obtain ⟨⟨nano, _⟩, -, h⟩ := Option.bind_eq_some_iff.1 h
  obtain ⟨⟨offset, _⟩, -, h⟩ := Option.bind_eq_some_iff.1 h
  dsimp only at h
  split at h
  · next hread =>
    obtain rfl := Option.some.inj h
    rw [Bool.and_eq_true, Bool.and_eq_true] at hread
    exact isValid_shiftMinutes hread.1.1 hread.1.2
  · cases h

end Soak.Timestamp
