import Soak.Proofs.Session.Manners
import Soak.Proofs.Session.Pool

/-!
# Threads of a pool go on

If every question is answered in the end and every thread does its duty without a panic,
then a thread that goes on alone comes to the end of its turn, and can begin another one.

A thread whose manners are such that its questions are always answered does not depend on the
others at all: it comes to the end of its turn, or panics (`Pool.exists_end_of_yields`).
-/

namespace Soak

namespace Pool

variable {ι : Type} [DecidableEq ι] {I : Interface} {σ ω β : Type} {moves : ι → Moves I σ}
  {turn : ω → Program I (β × ω)} {pact : Pact ι I σ ω β} {busy : ι → σ → Option I.Question}
  {P : Pool ι I σ ω β} {i : ι}

/-- What a thread has begun comes to its end, if the thread goes on alone. -/
lemma exists_end (hr : Responsive moves busy) (hsound : Sound moves turn pact)
    (hpanics : ∀ i w message, ¬ (pact.duty i w).panics message) (hkeeps : Keeps moves pact P)
    {s₀ : σ} {p : Program I (β × ω)} (now : (P.desk i).current = some (s₀, p))
    (hidle : ∀ j, busy j P.state = none) :
    ∃ P' t, Reaches moves turn P P' ∧ (P'.desk i).current = none ∧
      (P'.desk i).past = t :: (P.desk i).past ∧ (∀ j, j ≠ i → P'.desk j = P.desk j) ∧
      ∀ j, busy j P'.state = none := by
  induction p generalizing P with
  | panic message => exact (hpanics _ _ _ (hkeeps.panics now)).elim
  | done r =>
    exact ⟨_, _, .tail (.refl P) (.ended now), by simp [update], by simp [update]; rfl,
      fun j hj => by simp [update, hj], hidle⟩
  | ask q resume ih =>
    -- an answer leads on
    have hanswer : ∀ {P₁ : Pool ι I σ ω β} {a : I.Answer q} {s : σ}, Reaches moves turn P P₁ →
        P₁.desk = P.desk → (∀ j, j ≠ i → busy j P₁.state = none) →
        (busy i P₁.state = none ∨ busy i P₁.state = some q) →
        moves i (.answered q a) P₁.state s → ∃ P' t, Reaches moves turn P P' ∧
          (P'.desk i).current = none ∧ (P'.desk i).past = t :: (P.desk i).past ∧
          (∀ j, j ≠ i → P'.desk j = P.desk j) ∧ ∀ j, busy j P'.state = none := by
      intro P₁ a s hrun hdesk hothers hbusy move
      have now₁ : (P₁.desk i).current = some (s₀, .ask q resume) := by rw [hdesk, now]
      have step : Step moves turn P₁ _ _ := .answered now₁ move
      have hrun₂ := hrun.tail step
      obtain ⟨P', t, hrun', hfree, hpast, hsame, hidle'⟩ :=
        ih a (hsound.keeps hkeeps hrun₂) (by simp [update]) fun j => by
          by_cases hj : j = i
          · rw [hj]
            exact hr.answered _ _ _ _ _ hbusy move
          · exact (hr.others _ _ _ _ _ move hj).trans (hothers j hj)
      refine ⟨P', t, ?_, hfree, ?_, fun j hj => ?_, hidle'⟩
      · exact hrun₂.trans hrun'
      · rw [hpast]
        simp [update, hdesk]
      · rw [hsame j hj]
        simp [update, hj, hdesk]
    rcases hr.enabled i q P.state (.inl (hidle i)) with ⟨s, move⟩ | ⟨a, s, move⟩
    · -- something happens first, and then only the answer is left
      have hbusy := (hr.prepared _ _ _ _ move).2
      have hrun : Reaches moves turn P (P.update i s (P.desk i)) :=
        .tail (.refl P) (.prepared now move)
      rcases hr.enabled i q s (.inr hbusy) with ⟨s', move'⟩ | ⟨a, s', move'⟩
      · rw [(hr.prepared _ _ _ _ move').1] at hbusy
        cases hbusy
      · exact hanswer hrun (by simp [update])
          (fun j hj => (hr.others _ _ _ _ _ move hj).trans (hidle j)) (.inr hbusy) move'
    · exact hanswer (.refl P) rfl (fun j _ => hidle j) (.inl (hidle i)) move

/-- A thread that is between two turns can go through another one. -/
lemma exists_turn (hr : Responsive moves busy) (hsound : Sound moves turn pact)
    (hpanics : ∀ i w message, ¬ (pact.duty i w).panics message) (hkeeps : Keeps moves pact P)
    (free : (P.desk i).current = none) (hidle : ∀ j, busy j P.state = none) :
    ∃ P' t, Reaches moves turn P P' ∧ (P'.desk i).current = none ∧
      (P'.desk i).past = t :: (P.desk i).past ∧ (∀ j, j ≠ i → P'.desk j = P.desk j) ∧
      ∀ j, busy j P'.state = none := by
  have hrun : Reaches moves turn P _ := (Reaches.refl P).began i free
  have now : ((P.update i P.state { P.desk i with
      current := some (P.state, turn (P.desk i).actor) }).desk i).current =
        some (P.state, turn (P.desk i).actor) := by
    simp [update]
  obtain ⟨P', t, hrun', hfree, hpast, hsame, hidle'⟩ :=
    exists_end hr hsound hpanics (hsound.keeps hkeeps hrun) now hidle
  refine ⟨P', t, ?_, hfree, ?_, fun j hj => ?_, hidle'⟩
  · exact hrun.trans hrun'
  · rw [hpast]
    simp [update]
  · rw [hsame j hj]
    simp [update, hj]

variable {mn : Manners I} {V : β × ω → Prop} {P' : Pool ι I σ ω β}

/-- Who keeps to its manners in its turns does so in the middle of them, too. -/
lemma Reaches.yields (htold : ∀ q a, mn.told q a) (run : Reaches moves turn P P')
    (hbegun : ∀ s₀ p, (P.desk i).current = some (s₀, p) → p.Yields mn V)
    (hturn : ∀ P', Reaches moves turn P P' → (P'.desk i).current = none →
      (turn (P'.desk i).actor).Yields mn V) {s₀ : σ} {p : Program I (β × ω)}
    (now : (P'.desk i).current = some (s₀, p)) : p.Yields mn V := by
  induction run generalizing s₀ p with
  | refl => exact hbegun s₀ p now
  | tail run step ih =>
    cases step with
    | @began j free =>
      by_cases hj : i = j
      · subst hj
        obtain ⟨-, rfl⟩ : _ ∧ turn _ = p := by simpa [update] using now
        exact hturn _ run free
      · exact ih (by simpa [update, hj] using now)
    | @prepared j =>
      by_cases hj : i = j
      · subst hj
        exact ih (by simpa [update] using now)
      · exact ih (by simpa [update, hj] using now)
    | @answered j s₁ s q resume a asked =>
      by_cases hj : i = j
      · subst hj
        obtain ⟨-, rfl⟩ : _ ∧ resume a = p := by simpa [update] using now
        cases ih asked with
        | ask _ h => exact h a (htold q a)
      · exact ih (by simpa [update, hj] using now)
    | @ended j =>
      by_cases hj : i = j
      · subst hj
        simp [update] at now
      · exact ih (by simpa [update, hj] using now)

/-- What a thread has begun comes to its end or to a panic, whatever the others do not do. -/
lemma exists_end_of_yields
    (hanswer : ∀ q s, mn.asks q → ∃ a s', mn.told q a ∧ moves i (.answered q a) s s') {s₀ : σ}
    {p : Program I (β × ω)} (hp : p.Yields mn V) (now : (P.desk i).current = some (s₀, p)) :
    ∃ P', Reaches moves turn P P' ∧
      ((∃ result, (P'.desk i).past = ⟨s₀, result, P'.state⟩ :: (P.desk i).past) ∨
        ∃ message, (P'.desk i).current = some (s₀, .panic message)) := by
  induction hp generalizing P with
  | @done r _ => exact ⟨_, .tail (.refl P) (.ended now), .inl ⟨r.1, by simp [update]⟩⟩
  | panic message => exact ⟨P, .refl P, .inr ⟨message, now⟩⟩
  | @ask q resume hq _ ih =>
    obtain ⟨a, s, htold, move⟩ := hanswer q P.state hq
    have run : Reaches moves turn P _ := (Reaches.refl P).answered i q a now move
    have now' : ((P.update i s { P.desk i with current := some (s₀, resume a) }).desk i).current =
        some (s₀, resume a) := by
      simp [update]
    obtain ⟨P', run', hend⟩ := ih a htold now'
    exact ⟨P', run.trans run', by simpa [update] using hend⟩

end Pool

end Soak
