import Mathlib.Data.List.Nodup
import Mathlib.Data.List.Range
import Soak.Config.Basic
import Soak.Proofs.Limit
import Soak.Proofs.Longevity.Crew
import Soak.Proofs.Session.Memory

/-!
# Shares of the containers

Containers can be shared out if there is somebody to have them and everybody gets the same
number, at least one (`Shareable`).  A split then lays the shares out one after another
(`SharedOut`), if there is memory for the list of them.  If they cannot be shared out it says
what is wrong (`Splits`), and so does every configuration whose run needs a split (`Guards`).

No number on the way is larger than the number of containers.  `splitUpTo?` computes a split
with numbers that end at a limit, where a step whose result would lie outside has no result,
and comes to the same for every limit from the number of containers on.
-/

namespace Soak

/-- Whether an error is about the sharing out of containers. -/
def SetupError.aboutSharing : SetupError → Bool
  | .zeroWorkers | .unevenSplit _ _ => true
  | _ => false

namespace Partition

variable {total workers limit share k : Nat} {parts : List Partition} {e : SetupError}

/-- Whether everybody can get the same positive number of the containers. -/
def Shareable (total workers : Nat) : Prop :=
  0 < workers ∧ 0 < total ∧ workers ∣ total

/-- What is wrong where containers cannot be shared out; that nobody is there comes first. -/
def refusal (total workers : Nat) : SetupError :=
  if workers = 0 then .zeroWorkers else .unevenSplit total workers

lemma aboutSharing_refusal : (refusal total workers).aboutSharing = true := by
  unfold refusal
  split <;> rfl

lemma checkEven_eq_ok_iff_shareable : checkEven total workers = .ok () ↔
    Shareable total workers := by
  rw [checkEven_eq_ok_iff, Shareable, Nat.pos_iff_ne_zero, Nat.pos_iff_ne_zero,
    Nat.dvd_iff_mod_eq_zero]

lemma checkEven_eq_error_iff : checkEven total workers = .error e ↔
    ¬ Shareable total workers ∧ e = refusal total workers := by
  constructor
  · intro h
    refine ⟨fun hshareable => ?_, ?_⟩
    · rw [checkEven_eq_ok_iff_shareable.2 hshareable] at h
      cases h
    · unfold checkEven at h
      unfold refusal
      split at h
      · next hzero =>
        cases h
        rw [if_pos hzero]
      · next hzero =>
        split at h
        · cases h
          rw [if_neg hzero]
        · cases h
  · rintro ⟨hnot, rfl⟩
    have hfails : ¬ (workers ≠ 0 ∧ total ≠ 0 ∧ total % workers = 0) := fun h =>
      hnot (checkEven_eq_ok_iff_shareable.1 (checkEven_eq_ok_iff.2 h))
    unfold checkEven refusal
    by_cases hzero : workers = 0
    · rw [if_pos hzero, if_pos hzero]
    · rw [if_neg hzero, if_neg hzero, if_pos (by omega)]

lemma split_eq_error_iff : split total workers = .error e ↔
    checkEven total workers = .error e := by
  unfold split
  cases checkEven total workers with
  | error e' => simp
  | ok => simp

/-- A verdict that lets pass exactly what can be shared out, and says what is wrong with
everything else. -/
structure Decides {α : Type} (verdict : Except SetupError α) (total workers : Nat) : Prop where
  passes : (∃ a, verdict = .ok a) ↔ Shareable total workers
  refuses : ∀ e, verdict = .error e ↔ ¬ Shareable total workers ∧ e = refusal total workers

lemma decides_checkEven (total workers : Nat) :
    Decides (checkEven total workers) total workers where
  passes := by
    rw [← checkEven_eq_ok_iff_shareable]
    exact ⟨fun ⟨_, hcheck⟩ => hcheck, fun hcheck => ⟨(), hcheck⟩⟩
  refuses _ := checkEven_eq_error_iff

/-- What becomes of an attempt to share out containers.  It is refused if they cannot be shared
out, and comes to nothing if there is no memory for the list of the partitions. -/
structure Splits (total workers : Nat) : Prop where
  passes : (∃ parts, Job.split total workers = pure (.ok parts)) ↔
    Shareable total workers ∧ workers * bytes ≤ Job.maxBytes
  refuses : ∀ e, Job.split total workers = pure (.error e) ↔
    ¬ Shareable total workers ∧ e = refusal total workers
  panics : ∀ message, Job.split total workers = .panic message ↔
    Shareable total workers ∧ Job.maxBytes < workers * bytes ∧ message = "capacity overflow"

lemma shareable_of_split (h : split total workers = .ok parts) : Shareable total workers := by
  obtain ⟨share, hshare, hworkers, rfl, -⟩ := split_eq_ok_iff.1 h
  exact ⟨hworkers, Nat.mul_pos hworkers hshare, workers.dvd_mul_right share⟩

/-- The partitions that are listed are those of the split. -/
lemma split_eq_ok_of_listed (h : Job.split total workers = pure (.ok parts)) :
    split total workers = .ok parts := by
  rcases Job.split_cases total workers with hsplit | hpanic
  · exact Program.done.inj (hsplit.symm.trans h)
  · exact nomatch hpanic.symm.trans h

lemma splits_of_refusal (h : split total workers = .error e) : Splits total workers := by
  obtain ⟨hnot, rfl⟩ := checkEven_eq_error_iff.1 (split_eq_error_iff.1 h)
  have hjob : Job.split total workers = pure (.error (refusal total workers)) :=
    Job.split_of_error h
  refine ⟨iff_of_false ?_ fun hok => hnot hok.1, fun e => ?_, fun message => ?_⟩
  · rintro ⟨parts, hparts⟩
    exact nomatch hjob.symm.trans hparts
  · rw [hjob]
    exact ⟨fun hsame => ⟨hnot, (Except.error.inj (Program.done.inj hsame)).symm⟩,
      fun he => he.2 ▸ rfl⟩
  · exact iff_of_false (fun hpanic => nomatch hjob.symm.trans hpanic) fun hok => hnot hok.1

lemma splits_of_shareable (h : Shareable total workers) : Splits total workers := by
  obtain ⟨parts, hsplit⟩ := exists_split (checkEven_eq_ok_iff_shareable.2 h)
  have hrefuses (e : SetupError) : ¬ (¬ Shareable total workers ∧ e = refusal total workers) :=
    fun hnot => hnot.1 h
  rcases Nat.lt_or_ge Job.maxBytes (workers * bytes) with hlt | hle
  · have hjob := Job.split_of_lt hsplit hlt
    refine ⟨iff_of_false ?_ fun hok => absurd hok.2 (Nat.not_le.2 hlt), fun e => ?_,
      fun message => ?_⟩
    · rintro ⟨parts', hparts⟩
      exact nomatch hjob.symm.trans hparts
    · exact iff_of_false (fun hsame => nomatch hjob.symm.trans hsame) (hrefuses e)
    · rw [hjob]
      exact ⟨fun hsame => ⟨h, hlt, (Program.panic.inj hsame).symm⟩, fun hm => hm.2.2 ▸ rfl⟩
  · have hjob := Job.split_of_le hsplit hle
    refine ⟨iff_of_true ⟨parts, hjob⟩ ⟨h, hle⟩, fun e => ?_, fun message => ?_⟩
    · refine iff_of_false (fun hsame => ?_) (hrefuses e)
      exact nomatch Program.done.inj (hjob.symm.trans hsame)
    · refine iff_of_false (fun hpanic => nomatch hjob.symm.trans hpanic) ?_
      exact fun hok => absurd hok.2.1 (Nat.not_lt.2 hle)

lemma splits (total workers : Nat) : Splits total workers := by
  cases hsplit : split total workers with
  | error e => exact splits_of_refusal hsplit
  | ok parts => exact splits_of_shareable (shareable_of_split hsplit)

/-! ### What a split consists of -/

/-- Everybody has the same number of containers, the shares follow one another without a
gap, and every container belongs to exactly one of them. -/
structure SharedOut (total workers : Nat) (parts : List Partition) : Prop where
  length : parts.length = workers
  index : ∀ (k : Nat) (p : Partition), parts[k]? = some p → p.index = k
  size : ∀ p ∈ parts, p.size = total / workers
  one_le_size : 1 ≤ total / workers
  ordered : ∀ p ∈ parts, p.min ≤ p.max
  ids : (parts.map ids).flatten = List.range total
  next : parts.IsChain fun p q => q.min = p.max + 1
  apart : parts.Pairwise fun p q => List.Disjoint p.ids q.ids
  within : ∀ p ∈ parts, ∀ n, p.contains n = true → n < total
  owner : ∀ n < total, ∃! k : Fin parts.length, (parts.get k).contains n = true

lemma ids_ofShare (h : 0 < share) : (ofShare share k).ids = List.range' (k * share) share := by
  have hnext : (k + 1) * share = k * share + share := Nat.succ_mul k share
  have hsize : (ofShare share k).size = share := by
    simp only [size, ofShare]
    omega
  rw [ids, hsize, ofShare]

/-- A share ends where the next one begins. -/
lemma min_ofShare_succ (h : 0 < share) :
    (ofShare share (k + 1)).min = (ofShare share k).max + 1 := by
  have hpos : 0 < (k + 1) * share := Nat.mul_pos k.succ_pos h
  simp only [ofShare]
  omega

lemma flatten_ids (h : split total workers = .ok parts) :
    (parts.map ids).flatten = List.range total := by
  obtain ⟨share, hshare, -, rfl, rfl⟩ := split_eq_ok_iff.1 h
  have hids (k : Nat) : (ids ∘ ofShare share) k = List.range' (k * share + 0) share :=
    ids_ofShare hshare
  rw [List.map_map, List.map_congr_left fun k _ => hids k, ← List.flatMap_def,
    flatMap_range' 0 share workers, List.range_eq_range']

lemma isChain_of_split (h : split total workers = .ok parts) :
    parts.IsChain fun p q => q.min = p.max + 1 := by
  obtain ⟨share, hshare, -, rfl, rfl⟩ := split_eq_ok_iff.1 h
  rw [List.isChain_map, List.isChain_range]
  intro k _
  exact min_ofShare_succ hshare

lemma SharedOut.of_split (h : split total workers = .ok parts) :
    SharedOut total workers parts where
  length := length_of_split h
  index k p hp := by
    obtain ⟨share, -, -, rfl, rfl⟩ := split_eq_ok_iff.1 h
    obtain ⟨hk, rfl⟩ := List.getElem?_eq_some_iff.1 hp
    rw [List.getElem_map, List.getElem_range, ofShare]
  size p hp := size_of_split h hp
  one_le_size := by
    obtain ⟨share, hshare, hworkers, rfl, -⟩ := split_eq_ok_iff.1 h
    rwa [Nat.mul_div_cancel_left share hworkers]
  ordered p hp := by
    obtain ⟨k, hk⟩ := List.mem_iff_getElem?.1 hp
    exact ordered_of_split h hk
  ids := flatten_ids h
  next := isChain_of_split h
  apart := by
    have hnodup : (parts.map Partition.ids).flatten.Nodup := by
      rw [flatten_ids h]
      exact List.nodup_range
    exact List.pairwise_map.1 (List.nodup_flatten.1 hnodup).2
  within p hp n hn := by
    obtain ⟨k, hk⟩ := List.mem_iff_getElem?.1 hp
    exact lt_total_of_split h hk hn
  owner n hn := by
    obtain ⟨k, hk⟩ := exists_owner h hn
    exact ⟨k, hk, fun j hj => (Crew.of_split h).apart j k n hj hk⟩

/-! ### Configurations that need a split -/

/-- The verdict of a check that is not about the sharing out of containers. -/
def Unrelated (verdict : Except SetupError Unit) : Prop :=
  ∀ e, verdict = .error e → e.aboutSharing = false

lemma Unrelated.pass : Unrelated (.ok ()) := by
  rintro e ⟨⟩

lemma Unrelated.throw (h : e.aboutSharing = false) : Unrelated (.error e) := by
  rintro _ ⟨⟩
  exact h

lemma Unrelated.bind {verdict : Except SetupError Unit} {others : Unit → Except SetupError Unit}
    (h : Unrelated verdict) (hothers : Unrelated (others ())) :
    Unrelated (verdict >>= others) := by
  cases verdict with
  | error e =>
    rintro _ ⟨⟩
    exact h e rfl
  | ok => exact hothers

/-- The verdict on a configuration lets pass only what can be shared out, and about sharing
it says what a split says. -/
structure Guards (verdict : Except SetupError Unit) (total workers : Nat) : Prop where
  passes : verdict = .ok () → Shareable total workers
  refuses : ∀ e, verdict = .error e ∧ e.aboutSharing = true ↔
    ¬ Shareable total workers ∧ e = refusal total workers

/-- It is enough to see to the sharing out first if all else is about something else. -/
lemma Guards.of_bind {others : Unit → Except SetupError Unit} (h : Unrelated (others ())) :
    Guards (checkEven total workers >>= others) total workers := by
  cases hcheck : checkEven total workers with
  | error e =>
    obtain ⟨hnot, rfl⟩ := checkEven_eq_error_iff.1 hcheck
    refine ⟨nofun, fun e => ⟨?_, ?_⟩⟩
    · rintro ⟨⟨⟩, -⟩
      exact ⟨hnot, rfl⟩
    · rintro ⟨-, rfl⟩
      exact ⟨rfl, aboutSharing_refusal⟩
  | ok =>
    have hshareable := checkEven_eq_ok_iff_shareable.1 hcheck
    refine ⟨fun _ => hshareable, fun e => iff_of_false ?_ fun hnot => hnot.1 hshareable⟩
    rintro ⟨herror, habout⟩
    rw [h e herror] at habout
    cases habout

lemma unrelated_monitor (c : Config.Monitor) : Unrelated c.validate := by
  unfold Config.Monitor.validate
  split
  · exact Unrelated.throw rfl
  · exact Unrelated.pass

lemma unrelated_policy (p : Policy) : Unrelated p.validate := by
  unfold Policy.validate
  split
  · exact Unrelated.throw rfl
  · split
    · exact Unrelated.throw rfl
    · split
      · exact Unrelated.throw rfl
      · exact Unrelated.pass

lemma guards_longevity (c : Config.Longevity) :
    Guards c.validate c.totalContainers c.workers := by
  refine Guards.of_bind ?_
  dsimp only
  split
  · exact Unrelated.throw rfl
  · refine Unrelated.bind (unrelated_monitor c.monitor)
      (Unrelated.bind (unrelated_policy c.policy) ?_)
    split
    · exact Unrelated.throw rfl
    · exact Unrelated.pass

lemma guards_populate (c : Config.Populate) : Guards c.validate c.totalContainers c.threads := by
  refine Guards.of_bind ?_
  split
  · exact Unrelated.throw rfl
  · exact Unrelated.pass

/-! ### Numbers that end at a limit -/

/-- The size of a partition, step by step. -/
def sizeUpTo? (limit : Nat) (p : Partition) : Option Nat := do
  let steps ← minus? p.max p.min
  upTo? limit (steps + 1)

/-- The share of a worker, step by step. -/
def ofShareUpTo? (limit share worker : Nat) : Option Partition := do
  let min ← upTo? limit (worker * share)
  let next ← upTo? limit (worker + 1)
  let above ← upTo? limit (next * share)
  let max ← minus? above 1
  return ⟨worker, min, max⟩

/-- A split, step by step, which makes sure for itself that the containers can be shared
out. -/
def splitUpTo? (limit total workers : Nat) : Option (Except SetupError (List Partition)) :=
  if workers = 0 then some (.error .zeroWorkers)
  else if total = 0 ∨ total % workers ≠ 0 then some (.error (.unevenSplit total workers))
  else do
    let share ← upTo? limit (total / workers)
    let parts ← (List.range workers).mapM (ofShareUpTo? limit share)
    return .ok parts

/-- No number that a share is made of exceeds the number of containers. -/
lemma ofShareUpTo?_eq (hshare : 0 < share) (hk : k < workers) (hlimit : workers * share ≤ limit) :
    ofShareUpTo? limit share k = some (ofShare share k) := by
  have hnext : (k + 1) * share = k * share + share := Nat.succ_mul k share
  have habove : (k + 1) * share ≤ workers * share := Nat.mul_le_mul_right share hk
  have hplace : k + 1 ≤ (k + 1) * share := Nat.le_mul_of_pos_right (k + 1) hshare
  have hmin : upTo? limit (k * share) = some (k * share) := upTo?_of_le (by omega)
  have hsucc : upTo? limit (k + 1) = some (k + 1) := upTo?_of_le (by omega)
  have hend : upTo? limit ((k + 1) * share) = some ((k + 1) * share) := upTo?_of_le (by omega)
  have hmax : minus? ((k + 1) * share) 1 = some ((k + 1) * share - 1) := minus?_of_le (by omega)
  simp only [ofShareUpTo?, hmin, hsucc, hend, hmax, Option.bind_eq_bind, Option.bind_some,
    Option.pure_def, ofShare]

lemma splitUpTo?_eq (h : total ≤ limit) :
    splitUpTo? limit total workers = some (split total workers) := by
  unfold splitUpTo? split checkEven
  split
  · rfl
  · next hworkers =>
    split
    · rfl
    · next huneven =>
      obtain ⟨hpos, hmod⟩ := not_or.1 huneven
      obtain ⟨share, rfl⟩ := Nat.dvd_of_mod_eq_zero (not_not.1 hmod)
      have hshare : 0 < share := by
        refine Nat.pos_of_ne_zero ?_
        rintro rfl
        exact hpos (Nat.mul_zero workers)
      have hle : share ≤ workers * share :=
        Nat.le_mul_of_pos_left share (Nat.pos_of_ne_zero hworkers)
      have hparts : (List.range workers).mapM (ofShareUpTo? limit share) =
          some ((List.range workers).map (ofShare share)) :=
        mapM_eq_some_map fun k hk => ofShareUpTo?_eq hshare (List.mem_range.1 hk) h
      rw [Nat.mul_div_cancel_left share (Nat.pos_of_ne_zero hworkers)]
      simp only [upTo?_of_le (Nat.le_trans hle h), hparts, Option.bind_eq_bind, Option.bind_some,
        Option.pure_def]

lemma sizeUpTo?_eq {p : Partition} (hsplit : split total workers = .ok parts) (hp : p ∈ parts)
    (h : total ≤ limit) : sizeUpTo? limit p = some p.size := by
  have hout := SharedOut.of_split hsplit
  have hordered := hout.ordered p hp
  have hlast := hout.within p hp p.max (contains_iff.2 ⟨hordered, Nat.le_refl p.max⟩)
  have hsteps : minus? p.max p.min = some (p.max - p.min) := minus?_of_le hordered
  have hsize : upTo? limit (p.max - p.min + 1) = some (p.max - p.min + 1) :=
    upTo?_of_le (by omega)
  simp only [sizeUpTo?, hsteps, hsize, Option.bind_eq_bind, Option.bind_some, size,
    Nat.sub_add_comm hordered]

/-- **A split is exact.**  It succeeds exactly if everybody can get the same positive number
of the containers and there is memory for the list of the partitions.  The check of every
configuration that needs a split asks for the former alone; what it refuses, the split refuses
with the same error.  The shares of a split follow one another and together are all of the
containers, and with numbers that end at any limit from the number of containers on, every step
has a result and the split is the same. -/
theorem split_exact (total workers : Nat) :
    Splits total workers ∧
    Decides (checkEven total workers) total workers ∧
    (∀ c : Config.Longevity, Guards c.validate c.totalContainers c.workers) ∧
    (∀ c : Config.Load, Decides c.validate c.totalContainers c.threads) ∧
    (∀ c : Config.Populate, Guards c.validate c.totalContainers c.threads) ∧
    (∀ parts, Job.split total workers = pure (.ok parts) →
      split total workers = .ok parts ∧ SharedOut total workers parts) ∧
    ∀ limit, total ≤ limit →
      splitUpTo? limit total workers = some (split total workers) ∧
      ∀ parts, split total workers = .ok parts →
        ∀ p ∈ parts, sizeUpTo? limit p = some p.size := by
  refine ⟨splits total workers, decides_checkEven total workers, guards_longevity,
    fun c => decides_checkEven c.totalContainers c.threads, guards_populate,
    fun parts h => ?_, fun limit h => ⟨splitUpTo?_eq h, ?_⟩⟩
  · have hsplit := split_eq_ok_of_listed h
    exact ⟨hsplit, .of_split hsplit⟩
  · intro parts hsplit p hp
    exact sizeUpTo?_eq hsplit hp h

/-- As many containers as a machine word can count, shared out among three. -/
theorem split_exact_word :
    SharedOut 18446744073709551615 3
      [⟨0, 0, 6148914691236517204⟩, ⟨1, 6148914691236517205, 12297829382473034409⟩,
        ⟨2, 12297829382473034410, 18446744073709551614⟩] ∧
    splitUpTo? 18446744073709551615 18446744073709551615 3 =
      some (split 18446744073709551615 3) ∧
    sizeUpTo? 18446744073709551615 ⟨0, 0, 6148914691236517204⟩ = some 6148914691236517205 := by
  obtain ⟨-, -, -, -, -, hshares, hlimit⟩ := split_exact 18446744073709551615 3
  obtain ⟨hword, hsize⟩ := hlimit 18446744073709551615 (by decide)
  have hparts : split 18446744073709551615 3 = .ok
      [⟨0, 0, 6148914691236517204⟩, ⟨1, 6148914691236517205, 12297829382473034409⟩,
        ⟨2, 12297829382473034410, 18446744073709551614⟩] := by
    decide
  exact ⟨(hshares _ (Job.split_of_le hparts (by decide))).2, hword,
    hsize _ hparts _ List.mem_cons_self⟩

/-- So many containers, one for each of as many workers, can be shared out, but there is no memory
for the list of the partitions. -/
theorem no_split_beyond_memory :
    Shareable (2 ^ 60) (2 ^ 60) ∧ checkEven (2 ^ 60) (2 ^ 60) = .ok () ∧
      ¬ ∃ parts, Job.split (2 ^ 60) (2 ^ 60) = pure (.ok parts) := by
  have hshareable : Shareable (2 ^ 60) (2 ^ 60) := ⟨by decide, by decide, Nat.dvd_refl _⟩
  refine ⟨hshareable, checkEven_eq_ok_iff_shareable.2 hshareable, fun hlisted => ?_⟩
  exact absurd ((splits _ _).passes.1 hlisted).2 (by decide)

end Partition

end Soak
