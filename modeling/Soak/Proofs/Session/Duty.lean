import Mathlib.Tactic.Common
import Soak.Session.Program

/-!
# The duties of a thread

A thread runs among others that change the state between its questions.  Its duty says what
it may rely on, what has to hold whenever others look at the state, and what each of its
own steps keeps to.  `Program.Fulfils` says that a program does its duty from a state on
and ends as desired; it is proved along the program, question by question, with an
assertion for each of them that the others cannot disturb.
-/

namespace Soak

/-- A step that a thread causes. -/
inductive Move (I : Interface) where
  /-- Something happens on behalf of the thread while it waits for an answer. -/
  | prepared (q : I.Question)
  /-- A question is answered. -/
  | answered (q : I.Question) (a : I.Answer q)

/-- What the steps of a thread may do to the state. -/
abbrev Moves (I : Interface) (σ : Type) : Type :=
  Move I → σ → σ → Prop

/-- What a thread may rely on, and what it has to guarantee. -/
structure Duty (I : Interface) (σ : Type) where
  /-- What the other threads may do to the state. -/
  rely : σ → σ → Prop
  /-- What holds of the state whenever others look at it. -/
  always : σ → Prop
  /-- What every step of the thread keeps to. -/
  pledge : Moves I σ
  /-- The messages with which the thread may panic. -/
  panics : String → Prop

/-- An assertion that includes what always holds, and that others cannot disturb. -/
structure Duty.Stable {I : Interface} {σ : Type} (d : Duty I σ) (J : σ → Prop) : Prop where
  always : ∀ s, J s → d.always s
  rely : ∀ s s', J s → d.rely s s' → J s'

namespace Program

variable {I : Interface} {σ α β : Type} {moves : Moves I σ} {d : Duty I σ}

/-- The program does its duty from a state on, and when it has ended with a value, then
`Q` holds of the value and the state, as long as only others change the state. -/
def Fulfils (moves : Moves I σ) (d : Duty I σ) : Program I α → (α → σ → Prop) → σ → Prop
  | .done a, Q, s => ∃ J : σ → Prop, J s ∧ d.Stable J ∧ ∀ s, J s → Q a s
  | .panic message, _, s => d.panics message ∧ ∃ J : σ → Prop, J s ∧ d.Stable J
  | .ask q resume, Q, s => ∃ J : σ → Prop, J s ∧ d.Stable J ∧
      (∀ s s', J s → moves (.prepared q) s s' → d.pledge (.prepared q) s s' ∧ J s') ∧
      ∀ a s s', J s → moves (.answered q a) s s' →
        d.pledge (.answered q a) s s' ∧ (resume a).Fulfils moves d Q s'

lemma Fulfils.always {p : Program I α} {Q : α → σ → Prop} {s : σ} (h : p.Fulfils moves d Q s) :
    d.always s := by
  cases p with
  | done a =>
    obtain ⟨J, hJ, hst, -⟩ := h
    exact hst.always s hJ
  | ask q resume =>
    obtain ⟨J, hJ, hst, -, -⟩ := h
    exact hst.always s hJ
  | panic message =>
    obtain ⟨-, J, hJ, hst⟩ := h
    exact hst.always s hJ

/-- Steps of others do not keep a program from its duty. -/
lemma Fulfils.of_rely {p : Program I α} {Q : α → σ → Prop} {s s' : σ}
    (h : p.Fulfils moves d Q s) (hr : d.rely s s') : p.Fulfils moves d Q s' := by
  cases p with
  | done a =>
    obtain ⟨J, hJ, hst, hQ⟩ := h
    exact ⟨J, hst.rely s s' hJ hr, hst, hQ⟩
  | ask q resume =>
    obtain ⟨J, hJ, hst, hrest⟩ := h
    exact ⟨J, hst.rely s s' hJ hr, hst, hrest⟩
  | panic message =>
    obtain ⟨hp, J, hJ, hst⟩ := h
    exact ⟨hp, J, hst.rely s s' hJ hr, hst⟩

lemma Fulfils.mono {p : Program I α} {Q Q' : α → σ → Prop} {s : σ} (h : p.Fulfils moves d Q s)
    (hQ : ∀ a s, Q a s → Q' a s) : p.Fulfils moves d Q' s := by
  induction p generalizing s with
  | done a =>
    obtain ⟨J, hJ, hst, hend⟩ := h
    exact ⟨J, hJ, hst, fun s hs => hQ a s (hend s hs)⟩
  | ask q resume ih =>
    obtain ⟨J, hJ, hst, hprep, hans⟩ := h
    refine ⟨J, hJ, hst, hprep, fun a s s' hs hm => ?_⟩
    obtain ⟨hp, hrest⟩ := hans a s s' hs hm
    exact ⟨hp, ih a hrest⟩
  | panic message => exact h

/-- Programs one after another. -/
lemma Fulfils.bind {p : Program I α} {next : α → Program I β} {Q : β → σ → Prop} {s : σ}
    (h : p.Fulfils moves d (fun a s => (next a).Fulfils moves d Q s) s) :
    (p >>= next).Fulfils moves d Q s := by
  induction p generalizing s with
  | done a =>
    obtain ⟨J, hJ, -, hend⟩ := h
    exact hend s hJ
  | ask q resume ih =>
    obtain ⟨J, hJ, hst, hprep, hans⟩ := h
    refine ⟨J, hJ, hst, hprep, fun a s s' hs hm => ?_⟩
    obtain ⟨hp, hrest⟩ := hans a s s' hs hm
    exact ⟨hp, ih a hrest⟩
  | panic message => exact h

/-- The rule for the end of a program. -/
lemma fulfils_pure {a : α} {Q : α → σ → Prop} {s : σ} (J : σ → Prop) (hst : d.Stable J)
    (hs : J s) (hend : ∀ s, J s → Q a s) : (pure a : Program I α).Fulfils moves d Q s :=
  ⟨J, hs, hst, hend⟩

/-- The rule for a question. -/
lemma fulfils_question {q : I.Question} {next : I.Answer q → Program I α} {Q : α → σ → Prop}
    {s : σ} (J : σ → Prop) (hst : d.Stable J) (hs : J s)
    (hprep : ∀ s s', J s → moves (.prepared q) s s' → d.pledge (.prepared q) s s' ∧ J s')
    (hans : ∀ a s s', J s → moves (.answered q a) s s' →
      d.pledge (.answered q a) s s' ∧ (next a).Fulfils moves d Q s') :
    (question q >>= next).Fulfils moves d Q s :=
  ⟨J, hs, hst, hprep, hans⟩

/-- The rule for a program of which it is known how it ends. -/
lemma Fulfils.then {p : Program I α} {next : α → Program I β} {R : α → σ → Prop}
    {Q : β → σ → Prop} {s : σ} (h : p.Fulfils moves d R s)
    (hnext : ∀ a s, R a s → (next a).Fulfils moves d Q s) :
    (p >>= next).Fulfils moves d Q s :=
  (h.mono hnext).bind

end Program

/-! ### Two states at once

Steps may change two states, each in a way of its own.  A program that does its duty by each of
them does both duties. -/

section Product

variable {I : Interface} {σ τ α : Type}

/-- What the steps of a thread may do to two states. -/
def Moves.prod (moves : Moves I σ) (moves' : Moves I τ) : Moves I (σ × τ) :=
  fun m s s' => moves m s.1 s'.1 ∧ moves' m s.2 s'.2

/-- A duty by each of two states. -/
def Duty.prod (d : Duty I σ) (e : Duty I τ) : Duty I (σ × τ) where
  rely s s' := d.rely s.1 s'.1 ∧ e.rely s.2 s'.2
  always s := d.always s.1 ∧ e.always s.2
  pledge := Moves.prod d.pledge e.pledge
  panics message := d.panics message ∧ e.panics message

variable {moves : Moves I σ} {moves' : Moves I τ} {d : Duty I σ} {e : Duty I τ}

lemma Duty.Stable.prod {J : σ → Prop} {K : τ → Prop} (hd : d.Stable J) (he : e.Stable K) :
    (d.prod e).Stable fun s => J s.1 ∧ K s.2 where
  always s hs := ⟨hd.always s.1 hs.1, he.always s.2 hs.2⟩
  rely s s' hs hr := ⟨hd.rely s.1 s'.1 hs.1 hr.1, he.rely s.2 s'.2 hs.2 hr.2⟩

/-- **Both duties are done at once.** -/
lemma Program.Fulfils.and {p : Program I α} {Q : α → σ → Prop} {R : α → τ → Prop} {s : σ} {t : τ}
    (h : p.Fulfils moves d Q s) (h' : p.Fulfils moves' e R t) :
    p.Fulfils (Moves.prod moves moves') (d.prod e) (fun a s => Q a s.1 ∧ R a s.2) (s, t) := by
  induction p generalizing s t with
  | done a =>
    obtain ⟨J, hJ, hst, hend⟩ := h
    obtain ⟨K, hK, hst', hend'⟩ := h'
    exact ⟨_, ⟨hJ, hK⟩, hst.prod hst', fun s hs => ⟨hend s.1 hs.1, hend' s.2 hs.2⟩⟩
  | panic message =>
    obtain ⟨hpanics, J, hJ, hst⟩ := h
    obtain ⟨hpanics', K, hK, hst'⟩ := h'
    exact ⟨⟨hpanics, hpanics'⟩, _, ⟨hJ, hK⟩, hst.prod hst'⟩
  | ask q resume ih =>
    obtain ⟨J, hJ, hst, hprep, hans⟩ := h
    obtain ⟨K, hK, hst', hprep', hans'⟩ := h'
    refine ⟨_, ⟨hJ, hK⟩, hst.prod hst', fun s s' hs hm => ?_, fun a s s' hs hm => ?_⟩
    · obtain ⟨hpledge, hJ'⟩ := hprep s.1 s'.1 hs.1 hm.1
      obtain ⟨hpledge', hK'⟩ := hprep' s.2 s'.2 hs.2 hm.2
      exact ⟨⟨hpledge, hpledge'⟩, hJ', hK'⟩
    · obtain ⟨hpledge, hrest⟩ := hans a s.1 s'.1 hs.1 hm.1
      obtain ⟨hpledge', hrest'⟩ := hans' a s.2 s'.2 hs.2 hm.2
      exact ⟨⟨hpledge, hpledge'⟩, ih a hrest hrest'⟩

end Product

end Soak
