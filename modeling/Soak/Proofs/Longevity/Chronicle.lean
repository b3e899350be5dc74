import Soak.Proofs.Longevity.Truth
import Soak.Proofs.Session.Pool

/-!
# What a worker has been through

The iterations of a worker that have ended tell which of its containers are still open: the
ones that an iteration failed to close (`LeftOpen`).  A chronicle is a list of iterations
whose results are those that the calls that failed in them account for, each in the light
of the iterations before it.
-/

namespace Soak

variable {ι : Type}

/-- An iteration that has ended. -/
abbrev Visit (ι : Type) : Type :=
  Turn (World (Faulty ι)) (Except SetupError Iteration)

/-- One of these iterations failed to close the container. -/
def LeftOpen (past : List (Visit ι)) (n : Nat) : Prop :=
  ∃ t ∈ past, ∃ first last, t.result = .ok (.closeFailed n first last)

lemma leftOpen_cons {t : Visit ι} {past : List (Visit ι)} {it : Iteration} {n : Nat}
    (ht : t.result = .ok it) :
    LeftOpen (t :: past) n ↔ LeftOpen past n ∨ ∃ first last, it = .closeFailed n first last := by
  unfold LeftOpen
  simp only [List.mem_cons, exists_eq_or_imp, ht, Except.ok.injEq]
  exact or_comm

namespace Estate

/-- The calls of a worker that had failed when the latest of its iterations ended. -/
def failed (e : Estate ι) : List (Visit ι) → List Call
  | [] => []
  | t :: _ => t.after.backend.failures e.thread

/-- An iteration on a container of the worker, and what it says of the calls that failed in
it. -/
structure Told (e : Estate ι) (past : List (Visit ι)) (t : Visit ι) (it : Iteration) : Prop where
  result : t.result = .ok it
  owned : e.view.contains it.container = true
  since : t.before.backend.failures e.thread = e.failed past
  verdict : ∃ failed,
    t.after.backend.failures e.thread = failed ++ t.before.backend.failures e.thread ∧
    Verdict e.backend (LeftOpen past it.container) failed it

/-- All of these iterations are told in the light of those before them. -/
def Chronicle (e : Estate ι) : List (Visit ι) → Prop
  | [] => True
  | t :: past => (∃ it, e.Told past t it) ∧ Chronicle e past

variable {e : Estate ι} {past earlier later : List (Visit ι)} {t : Visit ι}

/-- A chronicle may begin later. -/
lemma Chronicle.suffix (h : e.Chronicle (later ++ earlier)) : e.Chronicle earlier := by
  induction later with
  | nil => exact h
  | cons t later ih => exact ih h.2

lemma Chronicle.told (h : e.Chronicle (later ++ t :: earlier)) : ∃ it, e.Told earlier t it :=
  h.suffix.1

/-- A worker none of whose calls has failed has left no container open. -/
lemma Chronicle.not_leftOpen (h : e.Chronicle past) (hnone : e.failed past = []) (n : Nat) :
    ¬ LeftOpen past n := by
  induction past with
  | nil =>
    rintro ⟨t, ht, -⟩
    cases ht
  | cons t past ih =>
    obtain ⟨⟨it, htold⟩, hpast⟩ := h
    obtain ⟨failed, hafter, hverdict⟩ := htold.verdict
    have hnil : failed ++ e.failed past = [] := by
      rw [← htold.since, ← hafter]
      exact hnone
    obtain ⟨rfl, hbefore⟩ := List.append_eq_nil_iff.1 hnil
    rw [leftOpen_cons htold.result]
    rintro (hopen | ⟨first, last, rfl⟩)
    · exact ih hpast hbefore hopen
    · obtain ⟨-, h, hmem⟩ := hverdict
      cases hmem

end Estate

/-- An iteration in which no call failed is completed, unless its container was left open;
then that is what it runs into. -/
lemma Verdict.of_quiet {b : Config.Backend} {stuck : Prop} {it : Iteration}
    (h : Verdict b stuck [] it) (hread : b.Readable) :
    (¬ stuck ∧ ∃ first last reported, it = .completed it.container first last (some reported) ∧
      (reported : Int) = last) ∨ (stuck ∧ it = .openFailed it.container) := by
  cases it with
  | completed n first last reported =>
    obtain ⟨hfree, -, hreported, hnone⟩ := h
    cases reported with
    | none => exact (hnone rfl rfl).elim
    | some k => exact .inl ⟨hfree, first, last, k, rfl, hreported k rfl⟩
  | createFailed n =>
    obtain ⟨-, -, hwhy | hwhy⟩ := h
    · exact (hwhy rfl).elim
    · exact (hwhy hread).elim
  | openFailed n =>
    obtain ⟨-, hwhy | hwhy | hstuck⟩ := h
    · exact (hwhy rfl).elim
    · exact (hwhy hread).elim
    · exact .inr ⟨hstuck, rfl⟩
  | closeFailed n first last =>
    obtain ⟨-, h, hmem⟩ := h
    cases hmem

/-- An iteration ends with a container left open exactly if a call to close one failed. -/
lemma Verdict.closeFailed_iff {b : Config.Backend} {stuck : Prop} {failed : List Call}
    {it : Iteration} (h : Verdict b stuck failed it) :
    (∃ first last, it = .closeFailed it.container first last) ↔
      ∃ h, Call.closeContainer h ∈ failed := by
  cases it with
  | completed n first last reported => exact ⟨by simp, fun ⟨h', hmem⟩ => (h.2.1 h' hmem).elim⟩
  | createFailed n => exact ⟨by simp, fun ⟨h', hmem⟩ => (h.2.1 h' hmem).elim⟩
  | openFailed n => exact ⟨by simp, fun ⟨h', hmem⟩ => (h.1 h' hmem).elim⟩
  | closeFailed n first last => exact ⟨fun _ => h.2, fun _ => ⟨first, last, rfl⟩⟩

namespace Estate

variable {e : Estate ι} {earlier later : List (Visit ι)} {t : Visit ι}

/-- As long as no call of a worker has failed, its iterations are completed and report what
their counters say. -/
lemma Chronicle.completed (h : e.Chronicle (later ++ t :: earlier)) (hread : e.backend.Readable)
    (hnone : t.after.backend.failures e.thread = []) :
    ∃ n first last reported, t.result = .ok (.completed n first last (some reported)) ∧
      (reported : Int) = last := by
  obtain ⟨⟨it, htold⟩, hearlier⟩ := h.suffix
  obtain ⟨failed, hafter, hverdict⟩ := htold.verdict
  rw [hnone, htold.since] at hafter
  obtain ⟨rfl, hbefore⟩ := List.append_eq_nil_iff.1 hafter.symm
  rcases hverdict.of_quiet hread with ⟨-, first, last, reported, hit, hlast⟩ | ⟨hopen, -⟩
  · exact ⟨_, first, last, reported, htold.result.trans (congrArg Except.ok hit), hlast⟩
  · exact (hearlier.not_leftOpen hbefore _ hopen).elim

end Estate

end Soak
