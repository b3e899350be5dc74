import Mathlib.Logic.Function.Basic
import Soak.Proofs.Session.Duty

/-!
# Threads that take turns

A pool has several threads on one state.  Each thread runs the same kind of turn over and
over, and the steps of all of them mix in any order.  What a turn ended with is kept, with
the states before and after it.

A pact assigns a duty to every turn.  `Pool.Sound.keeps` is what duties are for: if each
thread does its duty and the steps that one thread pledges are those that the others rely
on, then all of it holds in every run of the pool.
-/

namespace Soak

/-- A turn that has ended. -/
structure Turn (σ β : Type) where
  /-- The state when it began. -/
  before : σ
  /-- What it ended with. -/
  result : β
  /-- The state when it ended. -/
  after : σ

/-- A thread of a pool. -/
structure Desk (I : Interface) (σ ω β : Type) where
  /-- Its turns that have ended, the latest first. -/
  past : List (Turn σ β)
  /-- Who takes the next turn, or began the present one. -/
  actor : ω
  /-- The state when the present turn began and what is left of it, during a turn. -/
  current : Option (σ × Program I (β × ω))

/-- Threads on one state. -/
structure Pool (ι : Type) (I : Interface) (σ ω β : Type) where
  /-- The state. -/
  state : σ
  /-- The threads. -/
  desk : ι → Desk I σ ω β

namespace Pool

variable {ι : Type} {I : Interface} {σ ω β : Type}

/-- Threads that have not begun. -/
def start (s : σ) (actors : ι → ω) : Pool ι I σ ω β :=
  ⟨s, fun i => ⟨[], actors i, none⟩⟩

/-- What can be seen of a step. -/
inductive Event (ι : Type) (I : Interface) (β : Type) where
  /-- A turn of a thread began. -/
  | began (thread : ι)
  /-- A thread took a step of its turn. -/
  | moved (thread : ι) (move : Move I)
  /-- A turn of a thread ended. -/
  | ended (thread : ι) (result : β)

variable [DecidableEq ι]

/-- The pool with another thread at a place. -/
def update (P : Pool ι I σ ω β) (i : ι) (s : σ) (d : Desk I σ ω β) : Pool ι I σ ω β :=
  ⟨s, Function.update P.desk i d⟩

/-- A step of a thread. -/
inductive Step (moves : ι → Moves I σ) (turn : ω → Program I (β × ω)) :
    Pool ι I σ ω β → Event ι I β → Pool ι I σ ω β → Prop
  /-- A turn begins. -/
  | began {P : Pool ι I σ ω β} {i : ι} (free : (P.desk i).current = none) :
      Step moves turn P (.began i)
        (P.update i P.state
          { P.desk i with current := some (P.state, turn (P.desk i).actor) })
  /-- Something happens while a thread waits for an answer. -/
  | prepared {P : Pool ι I σ ω β} {i : ι} {s₀ s : σ} {q : I.Question}
      {resume : I.Answer q → Program I (β × ω)}
      (now : (P.desk i).current = some (s₀, .ask q resume))
      (move : moves i (.prepared q) P.state s) :
      Step moves turn P (.moved i (.prepared q)) (P.update i s (P.desk i))
  /-- A question is answered. -/
  | answered {P : Pool ι I σ ω β} {i : ι} {s₀ s : σ} {q : I.Question}
      {resume : I.Answer q → Program I (β × ω)} {a : I.Answer q}
      (now : (P.desk i).current = some (s₀, .ask q resume))
      (move : moves i (.answered q a) P.state s) :
      Step moves turn P (.moved i (.answered q a))
        (P.update i s { P.desk i with current := some (s₀, resume a) })
  /-- A turn ends. -/
  | ended {P : Pool ι I σ ω β} {i : ι} {s₀ : σ} {result : β} {next : ω}
      (now : (P.desk i).current = some (s₀, .done (result, next))) :
      Step moves turn P (.ended i result)
        (P.update i P.state ⟨⟨s₀, result, P.state⟩ :: (P.desk i).past, next, none⟩)

/-- Any number of steps. -/
inductive Reaches (moves : ι → Moves I σ) (turn : ω → Program I (β × ω)) :
    Pool ι I σ ω β → Pool ι I σ ω β → Prop
  /-- No step. -/
  | refl (P : Pool ι I σ ω β) : Reaches moves turn P P
  /-- One step more. -/
  | tail {P P' P'' : Pool ι I σ ω β} {e : Event ι I β} (run : Reaches moves turn P P')
      (step : Step moves turn P' e P'') : Reaches moves turn P P''

section Reaches

variable {moves : ι → Moves I σ} {turn : ω → Program I (β × ω)} {P P' : Pool ι I σ ω β}

/-- A run behind another one. -/
lemma Reaches.trans {P'' : Pool ι I σ ω β} (h : Reaches moves turn P P')
    (h' : Reaches moves turn P' P'') : Reaches moves turn P P'' := by
  induction h' with
  | refl => exact h
  | tail _ step ih => exact ih.tail step

/-- A run in which a thread begins a turn. -/
lemma Reaches.began (run : Reaches moves turn P P') (i : ι) (free : (P'.desk i).current = none) :
    Reaches moves turn P (P'.update i P'.state
      { P'.desk i with current := some (P'.state, turn (P'.desk i).actor) }) :=
  run.tail (.began free)

/-- A run in which a question of a thread is answered. -/
lemma Reaches.answered (run : Reaches moves turn P P') (i : ι) (q : I.Question) (a : I.Answer q)
    {s₀ s : σ} {resume : I.Answer q → Program I (β × ω)}
    (now : (P'.desk i).current = some (s₀, .ask q resume))
    (move : moves i (.answered q a) P'.state s) :
    Reaches moves turn P (P'.update i s { P'.desk i with current := some (s₀, resume a) }) :=
  run.tail (.answered now move)

/-- A thread that has panicked takes no more steps. -/
lemma Step.panicked {e : Event ι I β} (step : Step moves turn P e P') {i : ι} {s₀ : σ}
    {message : String} (now : (P.desk i).current = some (s₀, .panic message)) :
    P'.desk i = P.desk i := by
  have hother {j : ι} {s : σ} {d : Desk I σ ω β}
      (h : (P.desk j).current ≠ some (s₀, .panic message)) :
      (P.update j s d).desk i = P.desk i := by
    refine Function.update_of_ne ?_ _ _
    rintro rfl
    exact h now
  cases step with
  | began free => exact hother (by simp [free])
  | prepared now' | answered now' | ended now' => exact hother (by simp [now'])

lemma Reaches.panicked (run : Reaches moves turn P P') {i : ι} {s₀ : σ} {message : String}
    (now : (P.desk i).current = some (s₀, .panic message)) : P'.desk i = P.desk i := by
  induction run with
  | refl => rfl
  | tail _ step ih => exact (step.panicked (ih ▸ now)).trans ih

end Reaches

/-- What the threads of a pool owe each other. -/
structure Pact (ι : Type) (I : Interface) (σ ω β : Type) where
  /-- What holds of a thread between two turns. -/
  idle : ι → List (Turn σ β) → ω → σ → Prop
  /-- The duty in a turn of an actor. -/
  duty : ι → ω → Duty I σ

/-- The duties of a pact fit together, and every thread does its own. -/
structure Sound (moves : ι → Moves I σ) (turn : ω → Program I (β × ω))
    (pact : Pact ι I σ ω β) : Prop where
  /-- What one thread pledges the others can rely on. -/
  rely : ∀ i j v w m s s', i ≠ j → (pact.duty j w).pledge m s s' → (pact.duty i v).rely s s'
  /-- What holds between two turns is not disturbed by others. -/
  idle : ∀ i past w s s', pact.idle i past w s → (pact.duty i w).rely s s' →
    pact.idle i past w s'
  /-- A turn does its duty. -/
  turn : ∀ i past w s, pact.idle i past w s →
    (turn w).Fulfils (moves i) (pact.duty i w)
      (fun r s' => pact.idle i (⟨s, r.1, s'⟩ :: past) r.2 s') s

/-- The pact holds of a thread. -/
def KeptBy (moves : ι → Moves I σ) (pact : Pact ι I σ ω β) (i : ι) (d : Desk I σ ω β) (s : σ) :
    Prop :=
  match d.current with
  | none => pact.idle i d.past d.actor s
  | some (s₀, p) => p.Fulfils (moves i) (pact.duty i d.actor)
      (fun r s' => pact.idle i (⟨s₀, r.1, s'⟩ :: d.past) r.2 s') s

/-- The pact holds. -/
def Keeps (moves : ι → Moves I σ) (pact : Pact ι I σ ω β) (P : Pool ι I σ ω β) : Prop :=
  ∀ i, KeptBy moves pact i (P.desk i) P.state

variable {moves : ι → Moves I σ} {turn : ω → Program I (β × ω)} {pact : Pact ι I σ ω β}
  {P P' : Pool ι I σ ω β}

omit [DecidableEq ι] in
lemma keeps_start {s : σ} {actors : ι → ω} (h : ∀ i, pact.idle i [] (actors i) s) :
    Keeps moves pact (start s actors) :=
  h

omit [DecidableEq ι] in
lemma KeptBy.of_rely (hsound : Sound moves turn pact) {i : ι} {d : Desk I σ ω β} {s s' : σ}
    (h : KeptBy moves pact i d s) (hr : (pact.duty i d.actor).rely s s') :
    KeptBy moves pact i d s' := by
  unfold KeptBy at h ⊢
  split at h
  · exact hsound.idle _ _ _ _ _ h hr
  · exact h.of_rely hr

omit [DecidableEq ι] in
/-- Whatever a thread has reached in its turn, its duty lies before it. -/
lemma Keeps.fulfils (h : Keeps moves pact P) {i : ι} {s₀ : σ} {p : Program I (β × ω)}
    (now : (P.desk i).current = some (s₀, p)) :
    p.Fulfils (moves i) (pact.duty i (P.desk i).actor)
      (fun r s' => pact.idle i (⟨s₀, r.1, s'⟩ :: (P.desk i).past) r.2 s') P.state := by
  have := h i
  rwa [KeptBy, now] at this

omit [DecidableEq ι] in
lemma Keeps.idle (h : Keeps moves pact P) {i : ι} (free : (P.desk i).current = none) :
    pact.idle i (P.desk i).past (P.desk i).actor P.state := by
  have := h i
  rwa [KeptBy, free] at this

/-- A pledged step of one thread leaves the others with their duties. -/
lemma Keeps.update (hsound : Sound moves turn pact) (h : Keeps moves pact P) {i : ι} {w : ω}
    {m : Move I} {s : σ} {d : Desk I σ ω β}
    (hpledge : (pact.duty i w).pledge m P.state s) (hd : KeptBy moves pact i d s) :
    Keeps moves pact (P.update i s d) := by
  intro j
  by_cases hj : j = i
  · subst hj
    simpa [Pool.update] using hd
  · have hrely := hsound.rely j i (P.desk j).actor w m _ _ hj hpledge
    simpa [Pool.update, hj] using (h j).of_rely hsound hrely

/-- A step that changes no state leaves the others with their duties. -/
lemma Keeps.update_self (h : Keeps moves pact P) {i : ι} {d : Desk I σ ω β}
    (hd : KeptBy moves pact i d P.state) : Keeps moves pact (P.update i P.state d) := by
  intro j
  by_cases hj : j = i
  · subst hj
    simpa [Pool.update] using hd
  · simpa [Pool.update, hj] using h j

/-- Every step keeps the pact. -/
lemma Keeps.step (hsound : Sound moves turn pact) (h : Keeps moves pact P) {e : Event ι I β}
    (step : Step moves turn P e P') : Keeps moves pact P' := by
  cases step with
  | @began i free =>
    refine h.update_self ?_
    exact hsound.turn i _ _ _ (h.idle free)
  | @prepared i s₀ s q resume now move =>
    obtain ⟨J, hJ, hst, hprep, hans⟩ := h.fulfils now
    obtain ⟨hpledge, hJ'⟩ := hprep _ _ hJ move
    refine h.update hsound hpledge ?_
    rw [KeptBy, now]
    exact ⟨J, hJ', hst, hprep, hans⟩
  | @answered i s₀ s q resume a now move =>
    obtain ⟨J, hJ, -, -, hans⟩ := h.fulfils now
    obtain ⟨hpledge, hrest⟩ := hans a _ _ hJ move
    exact h.update hsound hpledge hrest
  | @ended i s₀ result next now =>
    obtain ⟨J, hJ, -, hend⟩ := h.fulfils now
    exact h.update_self (hend _ hJ)

/-- A run keeps the pact. -/
lemma Sound.keeps (hsound : Sound moves turn pact) (h : Keeps moves pact P)
    (run : Reaches moves turn P P') : Keeps moves pact P' := by
  induction run with
  | refl => exact h
  | tail _ step ih => exact ih.step hsound step

/-- What is known of ended turns whenever a turn has just ended is known at any time. -/
lemma Sound.past (hsound : Sound moves turn pact) (h : Keeps moves pact P)
    {R : ι → List (Turn σ β) → Prop} (hR : ∀ i past w s, pact.idle i past w s → R i past)
    (hpast : ∀ i, R i (P.desk i).past) (run : Reaches moves turn P P') (i : ι) :
    R i (P'.desk i).past := by
  induction run generalizing i with
  | refl => exact hpast i
  | tail run step ih =>
    have hkeeps := (hsound.keeps h run).step hsound step
    cases step with
    | @ended j s₀ result next now =>
      by_cases hi : i = j
      · subst hi
        exact hR _ _ _ _ (hkeeps.idle (by simp [update]))
      · simpa [update, hi] using ih i
    | @began j | @prepared j | @answered j =>
      by_cases hi : i = j
      · subst hi
        simpa [update] using ih i
      · simpa [update, hi] using ih i

omit [DecidableEq ι] in
/-- What a duty always demands holds whenever a thread is in its turn. -/
lemma Keeps.always (h : Keeps moves pact P) {i : ι} {s₀ : σ} {p : Program I (β × ω)}
    (now : (P.desk i).current = some (s₀, p)) :
    (pact.duty i (P.desk i).actor).always P.state :=
  (h.fulfils now).always

/-- Every step of a thread in its turn is one that it pledged. -/
lemma Keeps.pledge (h : Keeps moves pact P) {i : ι} {m : Move I}
    (step : Step moves turn P (.moved i m) P') :
    (∃ s₀ p, (P.desk i).current = some (s₀, p)) ∧
      (pact.duty i (P.desk i).actor).pledge m P.state P'.state := by
  cases step with
  | prepared now move =>
    obtain ⟨J, hJ, -, hprep, -⟩ := h.fulfils now
    exact ⟨⟨_, _, now⟩, (hprep _ _ hJ move).1⟩
  | answered now move =>
    obtain ⟨J, hJ, -, -, hans⟩ := h.fulfils now
    exact ⟨⟨_, _, now⟩, (hans _ _ _ hJ move).1⟩

/-- What a step does to the state, if it does anything, its thread has pledged. -/
lemma Keeps.step_cases (h : Keeps moves pact P) {e : Event ι I β} (step : Step moves turn P e P') :
    P'.state = P.state ∨ ∃ i m, e = .moved i m ∧
      (pact.duty i (P.desk i).actor).pledge m P.state P'.state := by
  have hpledge : ∀ i m, e = .moved i m →
      (pact.duty i (P.desk i).actor).pledge m P.state P'.state := by
    rintro i m rfl
    exact (h.pledge step).2
  cases step with
  | began | ended => exact .inl rfl
  | prepared | answered => exact .inr ⟨_, _, rfl, hpledge _ _ rfl⟩

omit [DecidableEq ι] in
/-- A thread panics only with a message that its duty allows. -/
lemma Keeps.panics (h : Keeps moves pact P) {i : ι} {s₀ : σ} {message : String}
    (now : (P.desk i).current = some (s₀, .panic message)) :
    (pact.duty i (P.desk i).actor).panics message :=
  (h.fulfils now).1

end Pool

end Soak
