import Mathlib.Algebra.Order.BigOperators.Group.List
import Mathlib.Data.List.Perm.Basic
import Mathlib.Tactic.Ring
import Soak.Proofs.Limit
import Soak.Summary

/-!
# What a summary says of the spans

A summary counts all spans of all threads, adds them up, and finds the longest
(`Summary.Exact`), and it does not depend on which thread a span was timed in, or when.  The
mean is rounded down to a nanosecond (`Summary.RoundsDown`) as long as 32 bits can count the
spans; of more spans there is no mean, although each of them took some time
(`Summary.ticks_have_no_mean`).

Durations are numbers of nanoseconds here.  `Duration.plusUpTo?` and `Duration.overUpTo?` add
and divide seconds and nanoseconds with a carry, where the seconds end at a limit, and come to
the same as long as the result fits.
-/

namespace Soak

/-! ### Seconds and nanoseconds with a carry -/

namespace Duration

variable {limit n : Nat} {d e : Duration}

attribute [ext] Duration

/-- The two durations one after the other, where the seconds end at a limit. -/
def plusUpTo? (limit : Nat) (d e : Duration) : Option Duration := do
  let secs ← upTo? limit (d.secs + e.secs)
  let nanos := d.subsecNanos + e.subsecNanos
  if nanos < 1000000000 then return .ofParts secs nanos
  else
    let secs ← upTo? limit (secs + 1)
    return .ofParts secs (nanos - 1000000000)

/-- One of `n` equal parts of a duration: what is left of the seconds is divided along with
what is left of the nanoseconds, and has to stay within a limit. -/
def overUpTo? (limit : Nat) (d : Duration) (n : Nat) : Option Duration := do
  let rest ← upTo? limit (d.secs % n * 1000000000 + d.subsecNanos % n)
  return .ofParts (d.secs / n) (d.subsecNanos / n + rest / n)

lemma nanos_eq (d : Duration) : d.nanos = d.secs * 1000000000 + d.subsecNanos :=
  (congrArg nanos (ofParts_secs_subsecNanos d)).symm

lemma plusUpTo?_eq : plusUpTo? limit d e =
    if (d.add e).secs ≤ limit then some (d.add e) else none := by
  have hadd : (d.add e).nanos =
      (d.secs + e.secs) * 1000000000 + (d.subsecNanos + e.subsecNanos) := by
    show d.nanos + e.nanos = _
    rw [nanos_eq d, nanos_eq e]
    omega
  have hd := d.subsecNanos_lt
  have he := e.subsecNanos_lt
  unfold plusUpTo?
  by_cases hcarry : d.subsecNanos + e.subsecNanos < 1000000000
  · have hsecs : (d.add e).secs = d.secs + e.secs := by
      rw [secs, hadd]
      omega
    have hparts : ofParts (d.secs + e.secs) (d.subsecNanos + e.subsecNanos) = d.add e := by
      exact Duration.ext hadd.symm
    rw [hsecs, ← hparts]
    rcases Nat.lt_or_ge limit (d.secs + e.secs) with hover | hle
    · rw [upTo?_of_lt hover, if_neg (Nat.not_le.2 hover)]
      rfl
    · rw [upTo?_of_le hle, if_pos hle]
      exact if_pos hcarry
  · have hsecs : (d.add e).secs = d.secs + e.secs + 1 := by
      rw [secs, hadd]
      omega
    have hparts : ofParts (d.secs + e.secs + 1) (d.subsecNanos + e.subsecNanos - 1000000000) =
        d.add e := by
      refine Duration.ext ?_
      rw [hadd]
      simp only [ofParts]
      omega
    rw [hsecs, ← hparts]
    rcases Nat.lt_or_ge limit (d.secs + e.secs) with hover | hle
    · rw [upTo?_of_lt hover, if_neg (Nat.not_le.2 (Nat.lt_succ_of_lt hover))]
      rfl
    · rw [upTo?_of_le hle, Option.bind_eq_bind, Option.bind_some]
      dsimp only
      rw [if_neg hcarry]
      -- the carry may be what takes the seconds beyond the limit
      rcases Nat.lt_or_ge limit (d.secs + e.secs + 1) with hover | hle
      · rw [upTo?_of_lt hover, if_neg (Nat.not_le.2 hover)]
        rfl
      · rw [upTo?_of_le hle, if_pos hle]
        rfl

lemma overUpTo?_eq (hn : 0 < n) (hlimit : n * 1000000000 ≤ limit) :
    overUpTo? limit d n = some ⟨d.nanos / n⟩ := by
  have hrest : d.secs % n * 1000000000 + d.subsecNanos % n ≤ limit := by
    calc d.secs % n * 1000000000 + d.subsecNanos % n
        ≤ d.secs % n * 1000000000 + 1000000000 :=
          Nat.add_le_add_left ((Nat.mod_le _ n).trans d.subsecNanos_lt.le) _
      _ = (d.secs % n + 1) * 1000000000 := (Nat.succ_mul _ _).symm
      _ ≤ n * 1000000000 := Nat.mul_le_mul_right _ (Nat.mod_lt d.secs hn)
      _ ≤ limit := hlimit
  have hparts : d.nanos = n * (d.secs / n * 1000000000 + d.subsecNanos / n) +
      (d.secs % n * 1000000000 + d.subsecNanos % n) := by
    calc d.nanos
        = (n * (d.secs / n) + d.secs % n) * 1000000000 +
            (n * (d.subsecNanos / n) + d.subsecNanos % n) := by
          rw [Nat.div_add_mod, Nat.div_add_mod, ← nanos_eq]
      _ = _ := by ring
  rw [overUpTo?, upTo?_of_le hrest, hparts, Nat.mul_add_div hn]
  simp only [Option.bind_eq_bind, Option.bind_some, Option.pure_def, ofParts, Nat.add_assoc]

/-! ### The longer of two durations -/

lemma longer_eq_or (d e : Duration) : d.longer e = d ∨ d.longer e = e := by
  rcases Nat.le_total d.nanos e.nanos with h | h
  · exact .inr (Duration.ext (Nat.max_eq_right h))
  · exact .inl (Duration.ext (Nat.max_eq_left h))

instance : RightCommutative longer where
  right_comm d e f := by
    refine Duration.ext ?_
    show max (max d.nanos e.nanos) f.nanos = max (max d.nanos f.nanos) e.nanos
    rw [Nat.max_assoc, Nat.max_comm e.nanos, Nat.max_assoc]

end Duration

namespace Summary

open Duration (plusUpTo? overUpTo?)

variable {limit : Nat} {spans spans' : List Duration} {d e : Duration} {s : Summary}

/-! ### The sum of spans -/

lemma nanos_foldl_add (spans : List Duration) (d : Duration) :
    (spans.foldl Duration.add d).nanos = d.nanos + (spans.map Duration.nanos).sum := by
  induction spans generalizing d with
  | nil => rfl
  | cons e spans ih =>
    rw [List.foldl_cons, ih, List.map_cons, List.sum_cons, Duration.add, Nat.add_assoc]

lemma nanos_total (spans : List Duration) :
    (total spans).nanos = (spans.map Duration.nanos).sum := by
  rw [total, nanos_foldl_add]
  exact Nat.zero_add _

lemma total_eq_of_perm (h : spans.Perm spans') : total spans = total spans' := by
  refine Duration.ext ?_
  rw [nanos_total, nanos_total]
  exact (h.map Duration.nanos).sum_eq

/-- The spans together, added up one after another where the seconds end at a limit. -/
def totalUpTo? (limit : Nat) (spans : List Duration) : Option Duration :=
  spans.foldlM (plusUpTo? limit) .zero

lemma foldlM_plusUpTo? (h : d.secs ≤ limit) : spans.foldlM (plusUpTo? limit) d =
    if (spans.foldl Duration.add d).secs ≤ limit then some (spans.foldl Duration.add d)
    else none := by
  induction spans generalizing d with
  | nil => exact (if_pos h).symm
  | cons e spans ih =>
    rw [List.foldlM_cons, Duration.plusUpTo?_eq, List.foldl_cons]
    by_cases hle : (d.add e).secs ≤ limit
    · rw [if_pos hle]
      exact ih hle
    · -- what has grown beyond the limit never gets back
      have hgrown : (d.add e).secs ≤ (spans.foldl Duration.add (d.add e)).secs := by
        refine Nat.div_le_div_right ?_
        rw [nanos_foldl_add]
        exact Nat.le_add_right _ _
      rw [if_neg hle, if_neg fun hend => hle (hgrown.trans hend)]
      rfl

lemma totalUpTo?_eq : totalUpTo? limit spans =
    if (total spans).secs ≤ limit then some (total spans) else none :=
  foldlM_plusUpTo? (Nat.zero_le limit)

/-! ### The longest of spans -/

lemma foldl_longer_spec (spans : List Duration) (d : Duration) :
    (∀ e ∈ d :: spans, e.nanos ≤ (spans.foldl Duration.longer d).nanos) ∧
    spans.foldl Duration.longer d ∈ d :: spans := by
  induction spans generalizing d with
  | nil => simp
  | cons e spans ih =>
    obtain ⟨hbound, hmem⟩ := ih (d.longer e)
    have hlonger := hbound (d.longer e) List.mem_cons_self
    rw [List.foldl_cons]
    constructor
    · intro f hf
      rcases List.mem_cons.1 hf with rfl | hf
      · exact (Nat.le_max_left _ _).trans hlonger
      · rcases List.mem_cons.1 hf with rfl | hf
        · exact (Nat.le_max_right _ _).trans hlonger
        · exact hbound f (List.mem_cons_of_mem _ hf)
    · rcases List.mem_cons.1 hmem with heq | hmem
      · rw [heq]
        rcases Duration.longer_eq_or d e with h | h
        · rw [h]
          exact List.mem_cons_self
        · rw [h]
          exact List.mem_cons_of_mem _ List.mem_cons_self
      · exact List.mem_cons_of_mem _ (List.mem_cons_of_mem _ hmem)

lemma le_longest (h : d ∈ spans) : d.nanos ≤ (longest spans).nanos :=
  (foldl_longer_spec spans .zero).1 d (List.mem_cons_of_mem _ h)

/-- The longest span is one of the spans if there is any. -/
lemma longest_mem (h : spans ≠ []) : longest spans ∈ spans := by
  rcases List.mem_cons.1 (foldl_longer_spec spans .zero).2 with hzero | hmem
  · -- no span is longer than no time at all, so that any of them will do
    obtain ⟨d, hd⟩ := List.exists_mem_of_ne_nil spans h
    have hle := le_longest hd
    have heq : longest spans = d := by
      refine Duration.ext (Nat.le_antisymm ?_ hle)
      rw [longest, hzero]
      exact Nat.zero_le _
    rwa [heq]
  · exact hmem

lemma longest_eq_of_perm (h : spans.Perm spans') : longest spans = longest spans' :=
  h.foldl_eq Duration.zero

lemma longest_le_total (spans : List Duration) :
    (longest spans).nanos ≤ (total spans).nanos := by
  rw [nanos_total]
  rcases spans with _ | ⟨d, spans⟩
  · exact Nat.le_refl 0
  · exact List.le_sum_of_mem (List.mem_map_of_mem (longest_mem (List.cons_ne_nil d spans)))

lemma total_le_longest (spans : List Duration) :
    (total spans).nanos ≤ spans.length * (longest spans).nanos := by
  rw [nanos_total]
  have hbound := List.sum_le_card_nsmul (spans.map Duration.nanos) (longest spans).nanos
    (List.forall_mem_map.2 fun d hd => le_longest hd)
  rwa [List.length_map, Nat.nsmul_eq_mul] at hbound

/-! ### What a summary promises -/

/-- The counts and sums of a summary are those of the spans of all threads. -/
structure Exact (s : Summary) (perThread : List (List Duration)) : Prop where
  spans : s.spans = (perThread.map List.length).sum
  sum : s.sum.nanos = (perThread.flatten.map Duration.nanos).sum
  bound : ∀ d ∈ perThread.flatten, d.nanos ≤ s.max.nanos
  attained : perThread.flatten ≠ [] → s.max ∈ perThread.flatten
  none_timed : perThread.flatten = [] → s.max = .zero
  max_le_sum : s.max.nanos ≤ s.sum.nanos

/-- The mean is the largest whole number of nanoseconds that, taken for every span, does not
exceed the sum. -/
def RoundsDown (s : Summary) : Prop :=
  s.mean.nanos * s.spans ≤ s.sum.nanos ∧ s.sum.nanos < (s.mean.nanos + 1) * s.spans

lemma nanos_mean (hpos : 0 < s.spans) (hcount : s.spans < 2 ^ 32) :
    s.mean.nanos = s.sum.nanos / s.spans := by
  rw [mean, if_neg (by omega)]

lemma mean_eq_zero (hcount : 2 ^ 32 ≤ s.spans) : s.mean = .zero :=
  if_pos (.inr hcount)

/-- Of more spans than 32 bits can count, a mean below a nanosecond is the only right one. -/
lemma roundsDown_iff (hpos : 0 < s.spans) :
    s.RoundsDown ↔ s.spans < 2 ^ 32 ∨ s.sum.nanos < s.spans := by
  rcases Nat.lt_or_ge s.spans (2 ^ 32) with hcount | hcount
  · refine ⟨fun _ => .inl hcount, fun _ => ?_⟩
    rw [RoundsDown, nanos_mean hpos hcount]
    refine ⟨Nat.div_mul_le_self _ _, ?_⟩
    rw [Nat.mul_comm]
    exact Nat.lt_mul_div_succ _ hpos
  · have hmean : s.mean.nanos = 0 := congrArg Duration.nanos (mean_eq_zero hcount)
    rw [RoundsDown, hmean, Nat.zero_mul, Nat.zero_add, Nat.one_mul]
    constructor
    · rintro ⟨-, hlt⟩
      exact .inr hlt
    · rintro (hlt | hlt)
      · omega
      · exact ⟨Nat.zero_le _, hlt⟩

section

variable (label runId : String) (startedAt : Timestamp) (perThread : List (List Duration))
  (wallClock : Duration) (entities items operations failures : Nat)

lemma exact_combine : Exact (combine label runId startedAt perThread wallClock entities items
    operations failures) perThread where
  spans := List.length_flatten
  sum := nanos_total perThread.flatten
  bound _ hd := le_longest hd
  attained := longest_mem
  none_timed hnone := by
    show longest perThread.flatten = .zero
    rw [hnone]
    rfl
  max_le_sum := longest_le_total perThread.flatten

/-- **A summary is exact.**  For all spans that together fit a duration, whose seconds a word
of 64 bits counts, a summary counts them, has their sum, also if it is added up in seconds and
nanoseconds, and the longest of them, which is zero if there are none and never exceeds the sum.
Spans in another order, or in other threads, have the same summary.  If there is a span, the mean
does not exceed the longest span.  It is rounded down to a nanosecond as long as 32 bits can
count the spans, also if it is divided in seconds and nanoseconds; beyond that only the sum of
less than a nanosecond for each span has the right mean, which is zero. -/
theorem summary_is_exact (hfits : (total perThread.flatten).secs < 2 ^ 64) :
    let s := combine label runId startedAt perThread wallClock entities items operations failures
    Exact s perThread ∧
    totalUpTo? (2 ^ 64 - 1) perThread.flatten = some s.sum ∧
    (∀ perThread' : List (List Duration), perThread'.flatten.Perm perThread.flatten →
      combine label runId startedAt perThread' wallClock entities items operations failures = s) ∧
    (0 < s.spans → s.mean.nanos ≤ s.max.nanos ∧
      (s.RoundsDown ↔ s.spans < 2 ^ 32 ∨ s.sum.nanos < s.spans)) ∧
    (0 < s.spans → s.spans < 2 ^ 32 → s.RoundsDown ∧
      overUpTo? (2 ^ 64 - 1) s.sum s.spans = some s.mean) := by
  intro s
  have hexact : Exact s perThread := exact_combine label runId startedAt perThread wallClock
    entities items operations failures
  refine ⟨hexact, ?_, ?_, fun hpos => ⟨?_, roundsDown_iff hpos⟩, fun hpos hcount =>
    ⟨(roundsDown_iff hpos).2 (.inl hcount), ?_⟩⟩
  · rw [totalUpTo?_eq, if_pos (by omega)]
    rfl
  · intro perThread' hperm
    simp only [s, combine, hperm.length_eq, longest_eq_of_perm hperm, total_eq_of_perm hperm]
  · rcases Nat.lt_or_ge s.spans (2 ^ 32) with hcount | hcount
    · rw [nanos_mean hpos hcount]
      exact Nat.div_le_of_le_mul (total_le_longest perThread.flatten)
    · rw [mean_eq_zero hcount]
      exact Nat.zero_le _
  · rw [Duration.overUpTo?_eq hpos (by omega)]
    exact congrArg some (Duration.ext (nanos_mean hpos hcount).symm)

end

/-- Three spans whose sum and mean need a carry. -/
theorem mean_of_three_spans :
    (total [⟨1999999999⟩, ⟨1⟩, ⟨5⟩]).secs < 2 ^ 64 ∧
    (combine "load" "1" ⟨2024, 1, 2, 3, 4, 5, 0⟩ [[⟨1999999999⟩, ⟨1⟩], [⟨5⟩]] .zero 1 1 3 0).mean =
      ⟨666666668⟩ ∧
    totalUpTo? (2 ^ 64 - 1) [⟨1999999999⟩, ⟨1⟩, ⟨5⟩] = some ⟨2000000005⟩ ∧
    overUpTo? (2 ^ 64 - 1) ⟨2000000005⟩ 3 = some ⟨666666668⟩ := by
  have hfits : (total [⟨1999999999⟩, ⟨1⟩, ⟨5⟩]).secs < 2 ^ 64 := by decide
  obtain ⟨-, htotal, -, -, hmean⟩ := summary_is_exact "load" "1" ⟨2024, 1, 2, 3, 4, 5, 0⟩
    [[⟨1999999999⟩, ⟨1⟩], [⟨5⟩]] .zero 1 1 3 0 hfits
  exact ⟨hfits, rfl, htotal, (hmean (by decide) (by decide)).2⟩

/-! ### More spans than 32 bits can count -/

/-- The summary of a thread with `n` spans of a nanosecond each. -/
def ofTicks (n : Nat) : Summary :=
  combine "load" "1" ⟨2024, 1, 2, 3, 4, 5, 0⟩ [List.replicate n ⟨1⟩] .zero 1 1 n 0

lemma spans_ofTicks (n : Nat) : (ofTicks n).spans = n := by
  simp [ofTicks, combine]

lemma sum_ofTicks (n : Nat) : (ofTicks n).sum = ⟨n⟩ := by
  refine Duration.ext ?_
  show (total [List.replicate n ⟨1⟩].flatten).nanos = n
  rw [nanos_total]
  simp

/-- As many spans of a nanosecond as 32 bits cannot count any more: their sum fits a duration,
and their mean is no time at all. -/
theorem ticks_have_no_mean :
    (ofTicks (2 ^ 32)).sum.secs < 2 ^ 64 ∧ 0 < (ofTicks (2 ^ 32)).spans ∧
    (ofTicks (2 ^ 32)).mean = .zero ∧ ¬ (ofTicks (2 ^ 32)).RoundsDown := by
  have hspans := spans_ofTicks (2 ^ 32)
  have hsum := sum_ofTicks (2 ^ 32)
  have hpos : 0 < (ofTicks (2 ^ 32)).spans := by omega
  refine ⟨?_, hpos, mean_eq_zero hspans.ge, ?_⟩
  · rw [hsum, Duration.secs]
    decide
  · rw [roundsDown_iff hpos, hspans, hsum]
    simp

end Summary

end Soak
