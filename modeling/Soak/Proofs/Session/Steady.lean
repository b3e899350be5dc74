import Soak.Proofs.Session.Course
import Soak.Proofs.Session.World
import Soak.Proofs.Store.Contents

/-!
# Runs on a store that does not fail

The threads of a run call the store in memory, which fails only where it has to, and read
clocks that show what they may.  In such a world every question is answered in the end
(`World.responsive`), so that a run on it comes to its end if its programs do.
-/

namespace Soak

/-- The store in memory as a service for several clients. -/
def Shared.service (ι : Type) [DecidableEq ι] : Service ι (Shared ι) where
  prepares i call s s' := ∃ number, s.Step (.took i call number) s'
  answers i call a s s' := s.Step (.answered i call a) s'

namespace World

variable {ι : Type} [DecidableEq ι]

/-- What the steps of a thread do on a store in memory, with a clock that shows only what
`clock` allows. -/
def steady (clock : Reading → Prop) (i : ι) : Moves requests (World (Shared ι)) := fun m s s' =>
  moves (Shared.service ι) i m s s' ∧ ∀ now, m = .answered .clock now → clock now

/-- A clock that may show anything shows something. -/
lemma exists_reading : ∃ now : Reading, (fun _ => True) now :=
  ⟨⟨.zero, default⟩, trivial⟩

/-- With a clock that shows anything, nothing is excluded. -/
lemma steady_true : steady (fun _ => True) = moves (Shared.service ι) := by
  funext i m s s'
  simp [steady]

/-- The call that a client has taken a number for. -/
def underway (i : ι) (s : World (Shared ι)) : Option Request :=
  (s.backend.pending i).map fun p => .call p.1

variable {clock : Reading → Prop} {i : ι} {s s' : World (Shared ι)}

lemma steady_clock {now : Reading} (hnow : clock now) :
    steady clock i (.answered .clock now) s s :=
  ⟨rfl, by rintro _ ⟨⟩; exact hnow⟩

lemma steady_of_moves {q : Request} {a : q.Answer} (hq : q ≠ .clock)
    (h : moves (Shared.service ι) i (.answered q a) s s') : steady clock i (.answered q a) s s' :=
  ⟨h, by rintro _ ⟨⟩; exact (hq rfl).elim⟩

omit [DecidableEq ι] in
lemma underway_eq_none_iff : underway i s = none ↔ s.backend.pending i = none := by
  simp [underway]

omit [DecidableEq ι] in
lemma underway_eq_some_iff {q : Request} :
    underway i s = some q ↔ ∃ c n, s.backend.pending i = some (c, n) ∧ q = .call c := by
  rw [underway, Option.map_eq_some_iff]
  constructor
  · rintro ⟨⟨c, n⟩, h, rfl⟩
    exact ⟨c, n, h, rfl⟩
  · rintro ⟨c, n, h, rfl⟩
    exact ⟨(c, n), h, rfl⟩

omit [DecidableEq ι] in
/-- Only calls reach the store. -/
lemma backend_of_answered {τ : Type} {S : Service ι τ} {s s' : World τ} {q : Request}
    {a : q.Answer} (hq : ∀ c, q ≠ .call c) (h : moves S i (.answered q a) s s') :
    s'.backend = s.backend := by
  cases q with
  | call c => exact (hq c rfl).elim
  | log e | clock | freshId | pause t | enrol size workers =>
    cases h
    rfl
  | size | peek n | readSlot view n | statuses =>
    obtain ⟨-, rfl⟩ := h
    rfl
  | writeSlot view n v =>
    unfold moves at h
    dsimp only at h
    split at h
    · obtain ⟨-, rfl⟩ := h
      rfl
    · obtain ⟨-, rfl⟩ := h
      rfl
  | record worker nowMs aborted =>
    have h : (a, s') = s.record worker nowMs aborted := h
    obtain rfl : s' = (s.record worker nowMs aborted).2 := congrArg Prod.snd h
    unfold record
    split <;> rfl

/-- A step of one client leaves those of others that are underway alone. -/
lemma underway_of_ne {j : ι} {m : Move requests} (h : moves (Shared.service ι) i m s s')
    (hj : j ≠ i) : underway j s' = underway j s := by
  suffices s'.backend.pending j = s.backend.pending j by rw [underway, underway, this]
  cases m with
  | prepared q =>
    cases q with
    | call c =>
      obtain ⟨b, ⟨number, step⟩, rfl⟩ := h
      cases step with
      | took free takes => exact Function.update_of_ne hj _ _
    | _ => exact h.elim
  | answered q a =>
    by_cases hq : ∃ c, q = .call c
    · obtain ⟨c, rfl⟩ := hq
      obtain ⟨b, step, rfl⟩ := h
      cases step with
      | concluded waiting => exact Function.update_of_ne hj _ _
      | answered free takes => rfl
    · rw [backend_of_answered (fun c hc => hq ⟨c, hc⟩) h]

/-- A call that nothing keeps from being answered is answered, or it takes a number. -/
lemma exists_call_move (c : Call) (h : underway i s = none ∨ underway i s = some (.call c)) :
    (∃ s', moves (Shared.service ι) i (.prepared (.call c)) s s') ∨
      ∃ a s', moves (Shared.service ι) i (.answered (.call c) a) s s' := by
  rcases h with h | h
  · have free := underway_eq_none_iff.1 h
    by_cases takes : c.takesNumber = true
    · exact .inl ⟨_, _, ⟨_, .took free takes⟩, rfl⟩
    · exact .inr ⟨_, _, _, .answered free (eq_false_of_ne_true takes), rfl⟩
  · obtain ⟨c', n, waiting, hc⟩ := underway_eq_some_iff.1 h
    cases hc
    exact .inr ⟨_, _, _, .concluded waiting, rfl⟩

/-- **Every question is answered in the end**, if the clock may show anything at all. -/
lemma responsive (hclock : ∃ now, clock now) :
    Responsive (steady clock) (underway (ι := ι)) where
  prepared i q s s' h := by
    cases q with
    | call c =>
      obtain ⟨⟨b, ⟨number, step⟩, rfl⟩, -⟩ := h
      cases step with
      | took free takes => simp [underway, free, Shared.take]
    | _ => exact h.1.elim
  answered i q a s s' hbusy h := by
    by_cases hq : ∃ c, q = .call c
    · obtain ⟨c, rfl⟩ := hq
      obtain ⟨⟨b, step, rfl⟩, -⟩ := h
      cases step with
      | concluded waiting => simp [underway, Shared.conclude]
      | answered free takes => simpa [underway] using free
    · -- nothing is underway but calls
      rw [underway, backend_of_answered (fun c hc => hq ⟨c, hc⟩) h.1]
      rcases hbusy with hnone | hsome
      · exact hnone
      · obtain ⟨c, n, -, hc⟩ := underway_eq_some_iff.1 hsome
        exact (hq ⟨c, hc⟩).elim
  others i j m s s' h hj := underway_of_ne h.1 hj
  enabled i q s hbusy := by
    by_cases hcall : ∃ c, q = .call c
    · obtain ⟨c, rfl⟩ := hcall
      rcases exists_call_move c hbusy with ⟨s', h⟩ | ⟨a, s', h⟩
      · exact .inl ⟨s', h, by simp⟩
      · exact .inr ⟨a, s', h, by simp⟩
    · by_cases htime : q = .clock
      · subst htime
        obtain ⟨now, hnow⟩ := hclock
        exact .inr ⟨now, s, steady_clock hnow⟩
      · obtain ⟨a, s', h⟩ := exists_answer (fun c hc => hcall ⟨c, hc⟩) s
        exact .inr ⟨a, s', steady_of_moves htime h⟩

end World

end Soak
