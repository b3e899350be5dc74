import Soak.Longevity.Monitor
import Soak.Proofs.Session.Memory

/-!
# What a scan counts

A report sorts every counter into exactly one place: not created, one of the regular
values, or above them.  So its total is the number of counters, whatever they are, and if
none lies above the highest regular value, nothing is irregular.

A scan makes such a report if there is memory for the regular values (`Monitor.Fits`).
-/

namespace Soak

namespace Monitor

variable {m : Monitor}

/-- There is memory for the histogram. -/
def Fits (m : Monitor) : Prop :=
  (m.maxExpected.toNat + 1) * 8 ≤ Job.maxBytes

lemma scan_eq (hfits : m.Fits) (nowMs : Nat) : m.scan nowMs = do
    let counters ← snapshot
    let workers ← Program.question (I := requests) .statuses
    warn nowMs (Report.staleWorkers workers m.staleAfter nowMs)
    return .ofState m.maxExpected m.staleAfter counters workers nowMs := by
  unfold scan
  rw [Job.reserve_of_le hfits]
  rfl

end Monitor

/-- A longevity run of no length whose histogram takes more memory than there can be. -/
def Longevity.vast : Config.Longevity where
  totalContainers := 1
  workers := 1
  maxItems := 2 ^ 62
  duration := .zero

namespace Monitor.Report

lemma sum_modify_succ (l : List Nat) {n : Nat} (h : n < l.length) :
    (l.modify n (· + 1)).sum = l.sum + 1 := by
  induction l generalizing n with
  | nil => simp at h
  | cons a l ih =>
    cases n with
    | zero =>
      simp only [List.modify_zero_cons, List.sum_cons]
      omega
    | succ n =>
      have := ih (n := n) (by simpa using h)
      simp only [List.modify_succ_cons, List.sum_cons]
      omega

variable {maxExpected v : Int} {bins : Array Nat} {counters : List Int} {n : Nat}

/-- The bins after a counter was tallied. -/
def tallied (maxExpected : Int) (bins : Array Nat) (value : Int) : Array Nat :=
  if 0 ≤ value ∧ value ≤ maxExpected then bins.modify value.toNat (· + 1) else bins

lemma histogram_eq_foldl : histogram maxExpected counters =
    (counters.foldl (tallied maxExpected) (Array.replicate (maxExpected.toNat + 1) 0)).toList :=
  rfl

@[simp] lemma size_tallied : (tallied maxExpected bins v).size = bins.size := by
  unfold tallied
  split <;> simp

@[simp] lemma size_foldl_tallied :
    (counters.foldl (tallied maxExpected) bins).size = bins.size := by
  induction counters generalizing bins with
  | nil => rfl
  | cons v counters ih => rw [List.foldl_cons, ih, size_tallied]

/-- The bins after a counter was tallied; none if it is regular and has no bin. -/
def tallied? (maxExpected : Int) (bins : Array Nat) (value : Int) : Option (Array Nat) :=
  if value < 0 then some bins
  else if maxExpected < value then some bins
  else if value.toNat < bins.size then some (bins.modify value.toNat (· + 1))
  else none

lemma tallied?_eq (hsize : bins.size = maxExpected.toNat + 1) :
    tallied? maxExpected bins v = some (tallied maxExpected bins v) := by
  unfold tallied? tallied
  rcases Int.lt_or_le v 0 with hneg | hnonneg
  · rw [if_pos hneg, if_neg (by omega)]
  · rcases Int.lt_or_le maxExpected v with habove | hregular
    · rw [if_neg (by omega), if_pos habove, if_neg (by omega)]
    · rw [if_neg (by omega), if_neg (by omega), if_pos (by omega), if_pos ⟨hnonneg, hregular⟩]

/-- Every regular counter has a bin. -/
lemma foldlM_tallied? (hsize : bins.size = maxExpected.toNat + 1) :
    counters.foldlM (tallied? maxExpected) bins =
      some (counters.foldl (tallied maxExpected) bins) := by
  induction counters generalizing bins with
  | nil => rfl
  | cons v counters ih =>
    rw [List.foldlM_cons, tallied?_eq hsize, List.foldl_cons]
    exact ih (size_tallied.trans hsize)

lemma foldlM_tallied?_eq_histogram :
    counters.foldlM (tallied? maxExpected) (Array.replicate (maxExpected.toNat + 1) 0) =
      some (histogram maxExpected counters).toArray :=
  foldlM_tallied? Array.size_replicate

/-- A counter raises the bin of its value, if it is regular, and no other one. -/
lemma getElem?_tallied : (tallied maxExpected bins v)[n]? =
    bins[n]?.map (· + if v = (n : Int) ∧ v ≤ maxExpected then 1 else 0) := by
  unfold tallied
  by_cases hv : 0 ≤ v ∧ v ≤ maxExpected
  · rw [if_pos hv, Array.getElem?_modify]
    by_cases hvn : v.toNat = n
    · rw [if_pos hvn, if_pos (by omega)]
    · rw [if_neg hvn, if_neg (by omega)]
      simp
  · rw [if_neg hv, if_neg (by omega)]
    simp

lemma getElem?_foldl_tallied : (counters.foldl (tallied maxExpected) bins)[n]? =
    bins[n]?.map (· + counters.countP fun v => v = (n : Int) ∧ v ≤ maxExpected) := by
  induction counters generalizing bins with
  | nil => simp
  | cons v counters ih =>
    rw [List.foldl_cons, ih, getElem?_tallied, Option.map_map, List.countP_cons]
    congr 1
    funext m
    simp only [Function.comp_apply, decide_eq_true_eq]
    omega

/-- The histogram counts how often each of the regular values occurs, if there are any. -/
lemma histogram_eq_countP (maxExpected : Int) (counters : List Int) :
    histogram maxExpected counters = (List.range (maxExpected.toNat + 1)).map fun n : Nat =>
      counters.countP fun v => v = (n : Int) ∧ v ≤ maxExpected := by
  refine List.ext_getElem? fun n => ?_
  rw [histogram_eq_foldl, Array.getElem?_toList, getElem?_foldl_tallied]
  rcases Nat.lt_or_ge n (maxExpected.toNat + 1) with hlt | hge
  · simp [hlt]
  · rw [Array.getElem?_eq_none (by simpa using hge), List.getElem?_eq_none (by simpa using hge)]
    rfl

/-- With zero among the regular values, the bins count how often each of them occurs. -/
lemma histogram_eq (hmax : 0 ≤ maxExpected) (counters : List Int) :
    histogram maxExpected counters =
      (List.range (maxExpected.toNat + 1)).map fun n : Nat => counters.count (n : Int) := by
  rw [histogram_eq_countP]
  refine List.map_congr_left fun n hn => List.countP_congr fun v _ => ?_
  have hlt := List.mem_range.1 hn
  simp only [beq_iff_eq, decide_eq_true_eq]
  omega

/-- One bin grows for each regular counter, and no counter falls outside the bins. -/
lemma sum_foldl_tallied (hsize : bins.size = maxExpected.toNat + 1) :
    (counters.foldl (tallied maxExpected) bins).toList.sum =
      bins.toList.sum + counters.countP fun v => 0 ≤ v && v ≤ maxExpected := by
  induction counters generalizing bins with
  | nil => simp
  | cons v counters ih =>
    rw [List.foldl_cons, List.countP_cons, ih (size_tallied.trans hsize)]
    unfold tallied
    by_cases hv : 0 ≤ v ∧ v ≤ maxExpected
    · have hlt : v.toNat < bins.toList.length := by
        rw [Array.length_toList, hsize]
        omega
      rw [if_pos hv, Array.toList_modify, sum_modify_succ _ hlt]
      simp only [hv.1, hv.2, decide_true, Bool.and_self, if_true]
      omega
    · have hbool : (decide (0 ≤ v) && decide (v ≤ maxExpected)) = false := by
        simpa using hv
      rw [if_neg hv, hbool]
      simp

/-- The histogram counts the regular counters. -/
lemma sum_histogram (maxExpected : Int) (counters : List Int) :
    (histogram maxExpected counters).sum =
      counters.countP fun v => 0 ≤ v && v ≤ maxExpected := by
  rw [histogram_eq_foldl, sum_foldl_tallied (by simp)]
  simp

/-- A report covers every counter. -/
lemma total_ofState (maxExpected : Int) (staleAfter : Duration) (counters : List Int)
    (workers : List Worker.Status) (nowMs : Nat) :
    (ofState maxExpected staleAfter counters workers nowMs).total = counters.length := by
  simp only [total, ofState, sum_histogram]
  induction counters with
  | nil => simp
  | cons v l ih =>
    simp only [List.countP_cons, List.length_cons]
    by_cases h0 : v < 0
    · have h1 : ¬ 0 ≤ v := by omega
      simp only [h0, h1, decide_true, decide_false, Bool.false_and, if_true, if_false,
        Bool.false_eq_true]
      omega
    · have h1 : 0 ≤ v := by omega
      by_cases h2 : v ≤ maxExpected
      · have h3 : ¬ maxExpected < v := by omega
        simp only [h0, h1, h2, h3, decide_true, decide_false, Bool.and_true, Bool.and_false,
          if_true, if_false, Bool.false_eq_true]
        omega
      · have h3 : maxExpected < v := by omega
        simp only [h0, h1, h2, h3, decide_true, decide_false, Bool.and_true, Bool.and_false,
          if_true, if_false, Bool.false_eq_true]
        omega

lemma irregular_ofState {maxExpected : Int} {staleAfter : Duration} {counters : List Int}
    {workers : List Worker.Status} {nowMs : Nat} (h : ∀ v ∈ counters, v ≤ maxExpected) :
    (ofState maxExpected staleAfter counters workers nowMs).irregular = 0 := by
  simp only [ofState, List.countP_eq_zero, Bool.and_eq_true, decide_eq_true_eq, not_and]
  intro v hv _
  exact Int.not_lt.2 (h v hv)

end Monitor.Report

end Soak
