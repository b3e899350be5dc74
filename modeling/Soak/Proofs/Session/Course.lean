import Mathlib.Data.List.Forall2
import Soak.Proofs.Session.Duty
import Soak.Session.Run

/-!
# The course of a run with several threads

A run goes on alone or waits for the threads that it forked, whose steps mix in any order.
`Course.Step` is one step of the whole, and `Inevitably` says what no order of steps can
prevent: the run never gets stuck, it comes to an end, each of its steps keeps to what it
should, and it ends as desired.

Below are the rules by which this is proved for a run: for its end, for one part after
another, for a program of the main thread (`Run.ends_program`), and for a fork
(`Run.ends_fork`), where every thread does a duty that the others rely on.
-/

namespace Soak

/-- Who takes a step of a run. -/
inductive Client where
  /-- The main thread. -/
  | main
  /-- One of the threads of a fork. -/
  | thread (place : Nat)
  /-- One of the watchers of a fork. -/
  | watcher (place : Nat)
deriving DecidableEq

namespace Thread

variable {I : Interface} {β σ : Type}

/-- A step of a thread. -/
inductive Step (moves : Moves I σ) : Thread I β → σ → Move I → Thread I β → σ → Prop
  /-- Something happens while the thread waits for an answer. -/
  | prepared {name : String} {q : I.Question} {resume : I.Answer q → Program I β} {s s' : σ}
      (move : moves (.prepared q) s s') :
      Step moves ⟨name, .ask q resume⟩ s (.prepared q) ⟨name, .ask q resume⟩ s'
  /-- A question is answered. -/
  | answered {name : String} {q : I.Question} {resume : I.Answer q → Program I β} {s s' : σ}
      {a : I.Answer q} (move : moves (.answered q a) s s') :
      Step moves ⟨name, .ask q resume⟩ s (.answered q a) ⟨name, resume a⟩ s'

/-- A step of a thread is one of its moves. -/
lemma Step.move {moves : Moves I σ} {t t' : Thread I β} {s s' : σ} {m : Move I}
    (h : t.Step moves s m t' s') : moves m s s' := by
  cases h with
  | prepared move => exact move
  | answered move => exact move

/-- A thread has ended. -/
inductive EndsAs : Thread I β → Ended β → Prop
  /-- With a value. -/
  | done (name : String) (value : β) : EndsAs ⟨name, .done value⟩ (name, .ok value)
  /-- With a panic. -/
  | panicked (name message : String) : EndsAs ⟨name, .panic message⟩ (name, .error message)

/-- A thread has ended or has a question. -/
lemma ends_or_asks (t : Thread I β) :
    (∃ e, t.EndsAs e) ∨ ∃ q resume, t.program = .ask q resume := by
  obtain ⟨name, program⟩ := t
  cases program with
  | done value => exact .inl ⟨_, .done name value⟩
  | ask q resume => exact .inr ⟨q, resume, rfl⟩
  | panic message => exact .inl ⟨_, .panicked name message⟩

/-- One of the threads has got an answer. -/
def Later (ts' ts : List (Thread I β)) : Prop :=
  ∃ k name q resume a, ts[k]? = some ⟨name, .ask q resume⟩ ∧ ts' = ts.set k ⟨name, resume a⟩

/-- A thread in its place changes nothing. -/
lemma set_self {ts : List (Thread I β)} {k : Nat} {t : Thread I β} (place : ts[k]? = some t) :
    ts.set k t = ts := by
  obtain ⟨hlt, rfl⟩ := List.getElem?_eq_some_iff.1 place
  exact List.set_getElem_self hlt

/-- Threads cannot be answered for ever. -/
lemma acc_later (ts : List (Thread I β)) : Acc Later ts := by
  induction ts with
  | nil => exact ⟨_, fun _ ⟨_, _, _, _, _, h, _⟩ => by simp at h⟩
  | cons t ts hts =>
    obtain ⟨name, p⟩ := t
    -- by the program of the first thread, and then by what the others have before them
    induction p generalizing name ts with
    | done value | panic message =>
      induction hts with
      | intro ts _ ih =>
        refine ⟨_, ?_⟩
        rintro _ ⟨k, name', q, resume, a, hk, rfl⟩
        cases k with
        | zero => cases hk
        | succ k => exact ih _ ⟨k, name', q, resume, a, hk, rfl⟩
    | ask q resume hp =>
      induction hts with
      | intro ts hacc ih =>
        refine ⟨_, ?_⟩
        rintro _ ⟨k, name', q', resume', a, hk, rfl⟩
        cases k with
        | zero =>
          cases hk
          exact hp a _ (.intro ts hacc) name
        | succ k => exact ih _ ⟨k, name', q', resume', a, hk, rfl⟩

end Thread

/-- How far a run has come. -/
inductive Course (I : Interface) (α : Type) : Type 1 where
  /-- The main thread goes on alone. -/
  | alone (rest : Run I α)
  /-- The run waits for threads and watchers. -/
  | forked {β γ : Type} (threads : List (Thread I β)) (watchers : List (Thread I γ))
      (resume : List (Ended β) → List (Ended γ) → Run I α)

namespace Course

variable {I : Interface} {α β σ : Type}

/-- What a run has ended with. -/
def outcome? : Course I α → Option (Except String α)
  | .alone (.done a) => some (.ok a)
  | .alone (.panic message) => some (.error message)
  | _ => none

/-- Go on with the value of a run. -/
def bind (c : Course I α) (next : α → Run I β) : Course I β :=
  match c with
  | .alone rest => .alone (rest.bind next)
  | .forked threads watchers resume =>
    .forked threads watchers fun ended watched => (resume ended watched).bind next

/-- A step of a run, with the client that takes it and what it does, unless it is the run
that forks threads or goes on when they have ended. -/
inductive Step (moves : Client → Moves I σ) :
    Course I α → σ → Option (Client × Move I) → Course I α → σ → Prop
  /-- Something happens while the main thread waits for an answer. -/
  | prepared {q : I.Question} {resume : I.Answer q → Run I α} {s s' : σ}
      (move : moves .main (.prepared q) s s') :
      Step moves (.alone (.ask q resume)) s (some (.main, .prepared q))
        (.alone (.ask q resume)) s'
  /-- A question of the main thread is answered. -/
  | answered {q : I.Question} {resume : I.Answer q → Run I α} {s s' : σ} {a : I.Answer q}
      (move : moves .main (.answered q a) s s') :
      Step moves (.alone (.ask q resume)) s (some (.main, .answered q a)) (.alone (resume a)) s'
  /-- Threads and watchers are forked. -/
  | forks {β γ : Type} {threads : List (Thread I β)} {watchers : List (Thread I γ)}
      {resume : List (Ended β) → List (Ended γ) → Run I α} {s : σ} :
      Step moves (.alone (.fork threads watchers resume)) s none
        (.forked threads watchers resume) s
  /-- A thread takes a step. -/
  | thread {β γ : Type} {threads : List (Thread I β)} {watchers : List (Thread I γ)}
      {resume : List (Ended β) → List (Ended γ) → Run I α} {s s' : σ} {k : Nat}
      {t t' : Thread I β} {m : Move I} (place : threads[k]? = some t)
      (step : t.Step (moves (.thread k)) s m t' s') :
      Step moves (.forked threads watchers resume) s (some (.thread k, m))
        (.forked (threads.set k t') watchers resume) s'
  /-- A watcher takes a step. -/
  | watcher {β γ : Type} {threads : List (Thread I β)} {watchers : List (Thread I γ)}
      {resume : List (Ended β) → List (Ended γ) → Run I α} {s s' : σ} {k : Nat}
      {t t' : Thread I γ} {m : Move I} (place : watchers[k]? = some t)
      (step : t.Step (moves (.watcher k)) s m t' s') :
      Step moves (.forked threads watchers resume) s (some (.watcher k, m))
        (.forked threads (watchers.set k t') resume) s'
  /-- All of them have ended, and the run goes on. -/
  | joins {β γ : Type} {threads : List (Thread I β)} {watchers : List (Thread I γ)}
      {resume : List (Ended β) → List (Ended γ) → Run I α} {s : σ} {ended : List (Ended β)}
      {watched : List (Ended γ)} (hthreads : List.Forall₂ Thread.EndsAs threads ended)
      (hwatchers : List.Forall₂ Thread.EndsAs watchers watched) :
      Step moves (.forked threads watchers resume) s none (.alone (resume ended watched)) s

variable {moves : Client → Moves I σ} {c c' : Course I α} {s s' : σ}
  {l : Option (Client × Move I)}

lemma Step.bind (h : Step moves c s l c' s') (next : α → Run I β) :
    Step moves (c.bind next) s l (c'.bind next) s' := by
  cases h with
  | prepared move => exact .prepared move
  | answered move => exact .answered move
  | forks => exact .forks
  | thread place step => exact .thread place step
  | watcher place step => exact .watcher place step
  | joins hthreads hwatchers => exact .joins hthreads hwatchers

/-- As long as its first part goes on, a run takes the steps of this part. -/
lemma Step.of_bind {next : α → Run I β} {d : Course I β} (hc : c.outcome? = none)
    (h : Step moves (c.bind next) s l d s') : ∃ c', Step moves c s l c' s' ∧ d = c'.bind next := by
  cases c with
  | alone rest =>
    cases rest with
    | done a => cases hc
    | panic message => cases hc
    | ask q resume =>
      cases h with
      | prepared move => exact ⟨_, .prepared move, rfl⟩
      | answered move => exact ⟨_, .answered move, rfl⟩
    | fork threads watchers resume =>
      cases h with
      | forks => exact ⟨_, .forks, rfl⟩
  | forked threads watchers resume =>
    cases h with
    | thread place step => exact ⟨_, .thread place step, rfl⟩
    | watcher place step => exact ⟨_, .watcher place step, rfl⟩
    | joins hthreads hwatchers => exact ⟨_, .joins hthreads hwatchers, rfl⟩

lemma Step.outcome?_eq_none (h : Step moves c s l c' s') : c.outcome? = none := by
  cases h <;> rfl

end Course

/-- However its steps mix, a run never gets stuck and comes to an end; every step that a
client takes is as `keeps` says, and what the run ends with is as `Q` says. -/
inductive Inevitably {I : Interface} {α σ : Type} (moves keeps : Client → Moves I σ)
    (Q : Except String α → σ → Prop) : Course I α → σ → Prop
  /-- The run has ended. -/
  | ended {c : Course I α} {s : σ} {outcome : Except String α} (h : c.outcome? = some outcome)
      (hQ : Q outcome s) : Inevitably moves keeps Q c s
  /-- The run goes on. -/
  | goes {c : Course I α} {s : σ} (some : ∃ l c' s', c.Step moves s l c' s')
      (kept : ∀ i m c' s', c.Step moves s (.some (i, m)) c' s' → keeps i m s s')
      (next : ∀ l c' s', c.Step moves s l c' s' → Inevitably moves keeps Q c' s') :
      Inevitably moves keeps Q c s

section Inevitably

variable {I : Interface} {α β σ : Type} {moves keeps keeps' : Client → Moves I σ}
  {Q : Except String α → σ → Prop} {Q' : Except String β → σ → Prop} {c c' : Course I α} {s s' : σ}

lemma Inevitably.mono {Q' : Except String α → σ → Prop} (h : Inevitably moves keeps Q c s)
    (hkeeps : ∀ i m s s', keeps i m s s' → keeps' i m s s') (hQ : ∀ o s, Q o s → Q' o s) :
    Inevitably moves keeps' Q' c s := by
  induction h with
  | ended h hend => exact .ended h (hQ _ _ hend)
  | goes some kept _ ih =>
    exact .goes some (fun i m c' s' step => hkeeps _ _ _ _ (kept i m c' s' step)) ih

/-- What is inevitable is so after every step. -/
lemma Inevitably.step (h : Inevitably moves keeps Q c s) {l : Option (Client × Move I)}
    (step : c.Step moves s l c' s') :
    Inevitably moves keeps Q c' s' ∧ ∀ i m, l = .some (i, m) → keeps i m s s' := by
  cases h with
  | ended h _ =>
    rw [step.outcome?_eq_none] at h
    cases h
  | goes _ kept next =>
    refine ⟨next _ _ _ step, ?_⟩
    rintro i m rfl
    exact kept i m _ _ step

/-- A run that has ended has ended as it should. -/
lemma Inevitably.of_outcome (h : Inevitably moves keeps Q c s) {outcome : Except String α}
    (hc : c.outcome? = some outcome) : Q outcome s := by
  cases h with
  | ended h hQ =>
    rw [hc] at h
    cases h
    exact hQ
  | goes some _ _ =>
    obtain ⟨l, c', s', step⟩ := some
    rw [step.outcome?_eq_none] at hc
    cases hc

/-- What is inevitable together. -/
lemma Inevitably.and {Q' : Except String α → σ → Prop} (h : Inevitably moves keeps Q c s)
    (h' : Inevitably moves keeps' Q' c s) :
    Inevitably moves (fun i m s s' => keeps i m s s' ∧ keeps' i m s s')
      (fun o s => Q o s ∧ Q' o s) c s := by
  induction h with
  | ended hc hQ => exact .ended hc ⟨hQ, h'.of_outcome hc⟩
  | goes some kept _ ih =>
    refine .goes some (fun i m c' s' step => ⟨kept i m c' s' step, ?_⟩) fun l c' s' step =>
      ih l c' s' step (h'.step step).1
    exact (h'.step step).2 i m rfl

/-- One part of a run after another. -/
lemma Inevitably.bind {next : α → Run I β} (h : Inevitably moves keeps Q c s)
    (hnext : ∀ a s, Q (.ok a) s → Inevitably moves keeps Q' (.alone (next a)) s)
    (hpanic : ∀ message s, Q (.error message) s → Q' (.error message) s) :
    Inevitably moves keeps Q' (c.bind next) s := by
  induction h with
  | @ended c s outcome h hQ =>
    cases c with
    | forked threads watchers resume => cases h
    | alone rest =>
      cases rest with
      | done a =>
        cases h
        exact hnext a s hQ
      | panic message =>
        cases h
        exact .ended rfl (hpanic message s hQ)
      | ask q resume => cases h
      | fork threads watchers resume => cases h
  | goes some kept _ ih =>
    obtain ⟨l, c', s', step⟩ := some
    have hnone := step.outcome?_eq_none
    refine .goes ⟨l, _, s', step.bind next⟩ (fun i m d s' step => ?_) fun l d s' step => ?_
    · obtain ⟨c', step', -⟩ := step.of_bind hnone
      exact kept i m c' s' step'
    · obtain ⟨c', step', rfl⟩ := step.of_bind hnone
      exact ih l c' s' step'

end Inevitably

/-- Every question of a client is answered in the end, perhaps after one step on its behalf;
`busy` tells whose question is in between. -/
structure Responsive {ι : Type} {I : Interface} {σ : Type} (moves : ι → Moves I σ)
    (busy : ι → σ → Option I.Question) : Prop where
  prepared : ∀ i q s s', moves i (.prepared q) s s' → busy i s = none ∧ busy i s' = some q
  answered : ∀ i q a s s', busy i s = none ∨ busy i s = some q →
    moves i (.answered q a) s s' → busy i s' = none
  others : ∀ i j m s s', moves i m s s' → j ≠ i → busy j s' = busy j s
  enabled : ∀ i q s, busy i s = none ∨ busy i s = some q →
    (∃ s', moves i (.prepared q) s s') ∨ ∃ a s', moves i (.answered q a) s s'

/-- The duties of the threads of a fork fit together, with an invariant of all of them. -/
structure Duties {I : Interface} {σ : Type} (keeps : Client → Moves I σ)
    (d : Client → Duty I σ) (inv : σ → Prop) : Prop where
  /-- What one thread pledges the others can rely on. -/
  rely : ∀ i j m s s', i ≠ j → inv s → (d j).pledge m s s' → (d i).rely s s'
  /-- What a thread pledges is what its steps are to keep to. -/
  keeps : ∀ i m s s', inv s → (d i).pledge m s s' → keeps i m s s'
  /-- No thread breaks the invariant. -/
  inv : ∀ i m s s', inv s → (d i).pledge m s s' → inv s'

/-- What is known of a thread that has ended. -/
def Ended.Meets {I : Interface} {σ β : Type} (d : Duty I σ) (R : β → σ → Prop) (e : Ended β)
    (s : σ) : Prop :=
  match e.2 with
  | .ok value => R value s
  | .error message => d.panics message

/-- Duties that fit together go on doing so with duties by another state, if there what one thread
pledges is all that the others rely on. -/
lemma Duties.prod {I : Interface} {σ τ : Type} {keeps : Client → Moves I σ}
    {d : Client → Duty I σ} {inv : σ → Prop} (hd : Duties keeps d inv) {e : Client → Duty I τ}
    (he : ∀ i j m t t', (e j).pledge m t t' → (e i).rely t t') :
    Duties (fun i m s s' => keeps i m s.1 s'.1) (fun i => (d i).prod (e i)) fun s => inv s.1 where
  rely i j m _ _ hij hs hp := ⟨hd.rely i j m _ _ hij hs hp.1, he i j m _ _ hp.2⟩
  keeps i m _ _ hs hp := hd.keeps i m _ _ hs hp.1
  inv i m _ _ hs hp := hd.inv i m _ _ hs hp.1

/-- What is known of the end of a thread that has done two duties. -/
lemma Ended.Meets.fst {I : Interface} {σ τ β : Type} {d : Duty I σ} {e : Duty I τ}
    {R : β → σ → Prop} {ended : Ended β} {s : σ × τ}
    (h : ended.Meets (d.prod e) (fun b s => R b s.1) s) : ended.Meets d R s.1 := by
  unfold Meets at h ⊢
  split at h
  · exact h
  · exact h.1

section Fork

variable {I : Interface} {β γ σ : Type} {moves keeps : Client → Moves I σ}
  {busy : Client → σ → Option I.Question} {d : Client → Duty I σ} {inv : σ → Prop}
  {client : Nat → Client} {R : Nat → β → σ → Prop} {ts : List (Thread I β)} {s s' : σ}
  {k : Nat} {t t' : Thread I β} {m : Move I}

/-- Threads have their duties before them. -/
def OnDuty (moves : Client → Moves I σ) (d : Client → Duty I σ) (client : Nat → Client)
    (R : Nat → β → σ → Prop) (ts : List (Thread I β)) (s : σ) : Prop :=
  ∀ (k : Nat) (t : Thread I β), ts[k]? = some t →
    t.program.Fulfils (moves (client k)) (d (client k)) (R k) s

/-- Whoever is in between waits for the answer to the question that it asks. -/
def Attentive (busy : Client → σ → Option I.Question) (client : Nat → Client)
    (ts : List (Thread I β)) (s : σ) : Prop :=
  ∀ (k : Nat) (q : I.Question), busy (client k) s = some q →
    ∃ (t : Thread I β) (resume : I.Answer q → Program I β),
      ts[k]? = some t ∧ t.program = .ask q resume

/-- How many threads are not in between. -/
def idlers (busy : Client → σ → Option I.Question) (client : Nat → Client) (count : Nat) (s : σ) :
    Nat :=
  (List.range count).countP fun k => (busy (client k) s).isNone

/-- A thread on duty takes no step but one that it pledged, and goes on with its duty. -/
lemma OnDuty.step (h : OnDuty moves d client R ts s) (place : ts[k]? = some t)
    (step : t.Step (moves (client k)) s m t' s') :
    (d (client k)).pledge m s s' ∧
      t'.program.Fulfils (moves (client k)) (d (client k)) (R k) s' := by
  have ht := h k t place
  cases step with
  | prepared move =>
    obtain ⟨J, hJ, hst, hprep, hans⟩ := ht
    obtain ⟨hpledge, hJ'⟩ := hprep _ _ hJ move
    exact ⟨hpledge, J, hJ', hst, hprep, hans⟩
  | answered move =>
    obtain ⟨J, hJ, -, -, hans⟩ := ht
    exact hans _ _ _ hJ move

/-- Steps of others keep no thread from its duty. -/
lemma OnDuty.of_rely (h : OnDuty moves d client R ts s)
    (hrely : ∀ j, (d (client j)).rely s s') : OnDuty moves d client R ts s' :=
  fun j t hj => (h j t hj).of_rely (hrely j)

/-- A step of a thread leaves the other threads with their duties. -/
lemma OnDuty.set (h : OnDuty moves d client R ts s)
    (ht' : t'.program.Fulfils (moves (client k)) (d (client k)) (R k) s')
    (hrely : ∀ j, j ≠ k → (d (client j)).rely s s') :
    OnDuty moves d client R (ts.set k t') s' := by
  intro j t hj
  by_cases hjk : j = k
  · subst hjk
    rw [List.getElem?_set_self'] at hj
    obtain ⟨-, -, rfl⟩ := Option.map_eq_some_iff.1 hj
    exact ht'
  · rw [List.getElem?_set_ne (Ne.symm hjk)] at hj
    exact (h j t hj).of_rely (hrely j hjk)

lemma Attentive.of_same (h : Attentive busy client ts s)
    (hsame : ∀ j, busy (client j) s' = busy (client j) s) : Attentive busy client ts s' :=
  fun j q hj => h j q ((hsame j).symm.trans hj)

/-- A thread with a question is not in between, or waits for the answer to it. -/
lemma Attentive.free_or (h : Attentive busy client ts s) {name : String} {q : I.Question}
    {resume : I.Answer q → Program I β} (place : ts[k]? = some ⟨name, .ask q resume⟩) :
    busy (client k) s = none ∨ busy (client k) s = some q := by
  cases hb : busy (client k) s with
  | none => exact .inl rfl
  | some q' =>
    obtain ⟨t, resume', ht, hask⟩ := h k q' hb
    cases place.symm.trans ht
    cases hask
    exact .inr rfl

lemma Attentive.step (hr : Responsive moves busy) (hclient : Function.Injective client)
    (h : Attentive busy client ts s) (place : ts[k]? = some t)
    (step : t.Step (moves (client k)) s m t' s') : Attentive busy client (ts.set k t') s' := by
  have hlt : k < ts.length := (List.getElem?_eq_some_iff.1 place).1
  intro j q hj
  by_cases hjk : j = k
  · subst hjk
    cases step with
    | @prepared name q' resume _ _ move =>
      rw [(hr.prepared _ _ _ _ move).2] at hj
      cases hj
      exact ⟨⟨name, .ask q resume⟩, resume, by simp [hlt], rfl⟩
    | answered move =>
      rw [hr.answered _ _ _ _ _ (h.free_or place) move] at hj
      cases hj
  · rw [hr.others _ _ _ _ _ step.move fun heq => hjk (hclient heq)] at hj
    obtain ⟨u, resume, hu, hask⟩ := h j q hj
    exact ⟨u, resume, by rwa [List.getElem?_set_ne (Ne.symm hjk)], hask⟩

lemma idlers_congr (hsame : ∀ j, busy (client j) s' = busy (client j) s) (count : Nat) :
    idlers busy client count s' = idlers busy client count s := by
  simp only [idlers, hsame]

/-- Of those who are not in between, one less is left when a step has been taken on behalf of
one of them. -/
lemma idlers_lt (hr : Responsive moves busy) (hclient : Function.Injective client) {count : Nat}
    (hk : k < count) {q : I.Question} (move : moves (client k) (.prepared q) s s') :
    idlers busy client count s' < idlers busy client count s := by
  obtain ⟨hbefore, hafter⟩ := hr.prepared _ _ _ _ move
  have hsame (j : Nat) (hj : j ≠ k) : busy (client j) s' = busy (client j) s :=
    hr.others _ _ _ _ _ move fun heq => hj (hclient heq)
  have hrest : (List.range count).countP (fun j => (busy (client j) s').isNone) ≤
      ((List.range count).erase k).countP fun j => (busy (client j) s).isNone := by
    rw [(List.perm_cons_erase (List.mem_range.2 hk)).countP_eq, List.countP_cons_of_neg
      (by simp [hafter])]
    refine Nat.le_of_eq (List.countP_congr fun j hj => ?_)
    rw [hsame j ((List.Nodup.mem_erase_iff List.nodup_range).1 hj).1]
  have hsplit : idlers busy client count s =
      ((List.range count).erase k).countP (fun j => (busy (client j) s).isNone) + 1 := by
    rw [idlers, (List.perm_cons_erase (List.mem_range.2 hk)).countP_eq,
      List.countP_cons_of_pos (by simp [hbefore])]
  rw [hsplit]
  exact Nat.lt_succ_of_le hrest

/-- What is known of threads that have all ended. -/
lemma OnDuty.meets (h : OnDuty moves d client R ts s) {ended : List (Ended β)}
    (hended : List.Forall₂ Thread.EndsAs ts ended) :
    ended.length = ts.length ∧
      ∀ (k : Nat) (e : Ended β), ended[k]? = some e → e.Meets (d (client k)) (R k) s := by
  refine ⟨hended.length_eq.symm, fun k e he => ?_⟩
  obtain ⟨hlt, rfl⟩ := List.getElem?_eq_some_iff.1 he
  have hlt' : k < ts.length := by rwa [hended.length_eq]
  have hk := h k _ (List.getElem?_eq_getElem hlt')
  have hends := (List.forall₂_iff_get.1 hended).2 k hlt' hlt
  simp only [List.get_eq_getElem] at hends
  generalize ts[k] = t at hk hends
  generalize ended[k] = e at hends
  cases hends with
  | done name value =>
    obtain ⟨J, hJ, -, hR⟩ := hk
    exact hR s hJ
  | panicked name message => exact hk.1

/-- Nobody is in between when all threads have ended. -/
lemma Attentive.idle (h : Attentive busy client ts s) {ended : List (Ended β)}
    (hended : List.Forall₂ Thread.EndsAs ts ended) (k : Nat) : busy (client k) s = none := by
  cases hb : busy (client k) s with
  | none => rfl
  | some q =>
    obtain ⟨t, resume, ht, hask⟩ := h k q hb
    obtain ⟨hlt, rfl⟩ := List.getElem?_eq_some_iff.1 ht
    have hlt' : k < ended.length := hended.length_eq ▸ hlt
    have hends := (List.forall₂_iff_get.1 hended).2 k hlt hlt'
    simp only [List.get_eq_getElem] at hends
    generalize ts[k] = t at hask hends
    generalize ended[k] = e at hends
    cases hends <;> cases hask

/-- A thread that has not ended can take a step. -/
lemma Attentive.enabled (hr : Responsive moves busy) (h : Attentive busy client ts s)
    (hnot : ¬ ∃ ended, List.Forall₂ Thread.EndsAs ts ended) :
    ∃ (k : Nat) (t : Thread I β) (m : Move I) (t' : Thread I β) (s' : σ),
      ts[k]? = some t ∧ t.Step (moves (client k)) s m t' s' := by
  -- some thread has not ended
  obtain ⟨k, t, ht, q, resume, hask⟩ : ∃ (k : Nat) (t : Thread I β), ts[k]? = some t ∧
      ∃ q resume, t.program = .ask q resume := by
    by_contra hno
    push Not at hno
    refine hnot ?_
    have hall : ∀ t ∈ ts, ∃ e, t.EndsAs e := fun t ht => by
      obtain ⟨k, hk⟩ := List.mem_iff_getElem?.1 ht
      exact t.ends_or_asks.resolve_right fun ⟨q, resume, hq⟩ => hno k t hk q resume hq
    clear hno h hnot
    induction ts with
    | nil => exact ⟨[], .nil⟩
    | cons t ts ih =>
      obtain ⟨e, he⟩ := hall t List.mem_cons_self
      obtain ⟨ended, hended⟩ := ih fun u hu => hall u (List.mem_cons_of_mem t hu)
      exact ⟨e :: ended, .cons he hended⟩
  obtain ⟨name, program⟩ := t
  cases hask
  rcases hr.enabled (client k) q s (h.free_or ht) with ⟨s', move⟩ | ⟨a, s', move⟩
  · exact ⟨k, _, _, _, s', ht, .prepared move⟩
  · exact ⟨k, _, _, _, s', ht, .answered move⟩

/-- Threads that have their duties before them and wait for the answers to what they ask. -/
structure Team (moves : Client → Moves I σ) (busy : Client → σ → Option I.Question)
    (d : Client → Duty I σ) (client : Nat → Client) (R : Nat → β → σ → Prop)
    (ts : List (Thread I β)) (s : σ) : Prop where
  onDuty : OnDuty moves d client R ts s
  attentive : Attentive busy client ts s

/-- A step of one of them keeps to its pledge, and leaves a team. -/
lemma Team.step (hr : Responsive moves busy) (hd : Duties keeps d inv)
    (hclient : Function.Injective client) (h : Team moves busy d client R ts s) (hinv : inv s)
    (place : ts[k]? = some t) (step : t.Step (moves (client k)) s m t' s') :
    (d (client k)).pledge m s s' ∧ Team moves busy d client R (ts.set k t') s' := by
  obtain ⟨hpledge, ht'⟩ := h.onDuty.step place step
  refine ⟨hpledge, h.onDuty.set ht' fun j hj => ?_, h.attentive.step hr hclient place step⟩
  exact hd.rely _ _ _ _ _ (fun heq => hj (hclient heq)) hinv hpledge

/-- A step of somebody else leaves a team, too. -/
lemma Team.elsewhere (hr : Responsive moves busy) (hd : Duties keeps d inv) {i : Client}
    (hi : ∀ j, client j ≠ i) (h : Team moves busy d client R ts s) (hinv : inv s)
    (move : moves i m s s') (hpledge : (d i).pledge m s s') :
    Team moves busy d client R ts s' where
  onDuty := h.onDuty.of_rely fun j => hd.rely _ _ _ _ _ (hi j) hinv hpledge
  attentive := h.attentive.of_same fun j => hr.others _ _ _ _ _ move (hi j)

end Fork

namespace Run

variable {I : Interface} {α β γ σ : Type} {moves keeps : Client → Moves I σ}
  {busy : Client → σ → Option I.Question}

/-- If nobody is in between, it is inevitable that the run ends as `Q` says, and nobody is
in between then. -/
def Ends (moves keeps : Client → Moves I σ) (busy : Client → σ → Option I.Question)
    (Q : Except String α → σ → Prop) (r : Run I α) (s : σ) : Prop :=
  (∀ i, busy i s = none) →
    Inevitably moves keeps (fun o s => (∀ i, busy i s = none) ∧ Q o s) (.alone r) s

variable {Q : Except String α → σ → Prop} {s : σ}

lemma Ends.mono {Q' : Except String α → σ → Prop} {r : Run I α} (h : r.Ends moves keeps busy Q s)
    (hQ : ∀ o s, Q o s → Q' o s) : r.Ends moves keeps busy Q' s :=
  fun hfree => (h hfree).mono (fun _ _ _ _ hk => hk) fun o s ho => ⟨ho.1, hQ o s ho.2⟩

/-- What is known of the end of a run in two ways. -/
lemma Ends.and {keeps' : Client → Moves I σ} {Q' : Except String α → σ → Prop} {r : Run I α}
    (h : r.Ends moves keeps busy Q s) (h' : r.Ends moves keeps' busy Q' s) :
    r.Ends moves keeps busy (fun o s => Q o s ∧ Q' o s) s :=
  fun hfree => ((h hfree).and (h' hfree)).mono (fun _ _ _ _ hk => hk.1)
    fun _ _ ho => ⟨ho.1.1, ho.1.2, ho.2.2⟩

/-- When a run begins with nobody in between, its end is inevitable. -/
lemma Ends.inevitably {r : Run I α} (h : r.Ends moves keeps busy Q s)
    (hfree : ∀ i, busy i s = none) : Inevitably moves keeps Q (.alone r) s :=
  (h hfree).mono (fun _ _ _ _ hk => hk) fun _ _ ho => ho.2

/-- The rule for the end of a run. -/
lemma ends_pure {a : α} (hQ : Q (.ok a) s) : (pure a : Run I α).Ends moves keeps busy Q s :=
  fun hfree => .ended rfl ⟨hfree, hQ⟩

/-- The rule for a panic of the main thread. -/
lemma ends_panic {message : String} (hQ : Q (.error message) s) :
    (Run.panic message : Run I α).Ends moves keeps busy Q s :=
  fun hfree => .ended rfl ⟨hfree, hQ⟩

/-- The rule for one part after another. -/
lemma Ends.bind {r : Run I α} {next : α → Run I β} {Q' : Except String β → σ → Prop}
    (h : r.Ends moves keeps busy Q s)
    (hnext : ∀ a s, Q (.ok a) s → (next a).Ends moves keeps busy Q' s)
    (hpanic : ∀ message s, Q (.error message) s → Q' (.error message) s) :
    (r >>= next).Ends moves keeps busy Q' s :=
  fun hfree => (h hfree).bind (fun a s ha => hnext a s ha.2 ha.1)
    fun message s hm => ⟨hm.1, hpanic message s hm.2⟩

/-- **The rule for a program of the main thread**, which has the state for itself. -/
lemma ends_program (hr : Responsive moves busy) {d : Duty I σ} {p : Program I α}
    {R : α → σ → Prop} (hkeeps : ∀ m s s', d.pledge m s s' → keeps .main m s s')
    (h : p.Fulfils (moves .main) d R s) (hR : ∀ a s, R a s → Q (.ok a) s)
    (hpanic : ∀ message s, d.panics message → d.always s → Q (.error message) s) :
    (ofProgram p).Ends moves keeps busy Q s := by
  induction p generalizing s with
  | done a =>
    obtain ⟨J, hJ, -, hend⟩ := h
    exact ends_pure (hR a s (hend s hJ))
  | panic message => exact ends_panic (hpanic message s h.1 h.always)
  | ask q resume ih =>
    intro hfree
    obtain ⟨J, hJ, -, hprep, hans⟩ := h
    have hothers {m : Move I} {s s' : σ} (move : moves .main m s s')
        (hs : ∀ i, i ≠ .main → busy i s = none) : ∀ i, i ≠ .main → busy i s' = none :=
      fun i hi => (hr.others _ _ _ _ _ move hi).trans (hs i hi)
    -- where the steps of the question lead, given where a first step on its behalf does
    have hgoes : ∀ {s : σ}, J s → (∀ i, i ≠ .main → busy i s = none) →
        busy .main s = none ∨ busy .main s = some q →
        (∀ s', moves .main (.prepared q) s s' →
          Inevitably moves keeps (fun o s => (∀ i, busy i s = none) ∧ Q o s)
            (.alone (ofProgram (.ask q resume))) s') →
        Inevitably moves keeps (fun o s => (∀ i, busy i s = none) ∧ Q o s)
          (.alone (ofProgram (.ask q resume))) s := by
      intro s hJ hs hbusy hprepared
      refine .goes ?_ (fun i m c' s' step => ?_) fun l c' s' step => ?_
      · rcases hr.enabled .main q s hbusy with ⟨s', move⟩ | ⟨a, s', move⟩
        · exact ⟨_, _, s', .prepared move⟩
        · exact ⟨_, _, s', .answered move⟩
      · cases step with
        | prepared move => exact hkeeps _ _ _ (hprep _ _ hJ move).1
        | answered move => exact hkeeps _ _ _ (hans _ _ _ hJ move).1
      · cases step with
        | prepared move => exact hprepared s' move
        | answered move =>
          refine ih _ (hans _ _ _ hJ move).2 fun i => ?_
          by_cases hi : i = .main
          · rw [hi]
            exact hr.answered _ _ _ _ _ hbusy move
          · exact hothers move hs i hi
    have hs : ∀ i, i ≠ Client.main → busy i s = none := fun i _ => hfree i
    refine hgoes hJ hs (.inl (hfree .main)) fun s₁ move => ?_
    have hbusy := (hr.prepared _ _ _ _ move).2
    -- only the answer is left then
    refine hgoes (hprep _ _ hJ move).2 (hothers move hs) (.inr hbusy) fun s₂ move' => ?_
    rw [(hr.prepared _ _ _ _ move').1] at hbusy
    cases hbusy

section Fork

variable {d : Client → Duty I σ} {inv : σ → Prop} {R : Nat → β → σ → Prop}
  {W : Nat → γ → σ → Prop} {threads : List (Thread I β)} {watchers : List (Thread I γ)}
  {resume : List (Ended β) → List (Ended γ) → Run I α}

lemma thread_injective : Function.Injective Client.thread := fun _ _ h => Client.thread.inj h

lemma watcher_injective : Function.Injective Client.watcher := fun _ _ h => Client.watcher.inj h

/-- Threads that do their duties end, and what is known of their ends is known when the run
goes on. -/
lemma inevitably_forked (hr : Responsive moves busy) (hd : Duties keeps d inv)
    (hjoin : ∀ ended watched s, inv s → (∀ i, busy i s = none) →
      ended.length = threads.length →
      (∀ (k : Nat) (e : Ended β), ended[k]? = some e → e.Meets (d (.thread k)) (R k) s) →
      watched.length = watchers.length →
      (∀ (k : Nat) (e : Ended γ), watched[k]? = some e → e.Meets (d (.watcher k)) (W k) s) →
      Inevitably moves keeps Q (.alone (resume ended watched)) s)
    (hinv : inv s) (hmain : busy .main s = none)
    (hthreads : Team moves busy d .thread R threads s)
    (hwatchers : Team moves busy d .watcher W watchers s) :
    Inevitably moves keeps Q (.forked threads watchers resume) s := by
  -- by the answers that the threads and the watchers still get, and then by those who are idle
  generalize hn : idlers busy .thread threads.length s + idlers busy .watcher watchers.length s = n
  induction Thread.acc_later threads generalizing watchers s n with
  | intro threads _ ihthreads =>
  induction Thread.acc_later watchers generalizing s n with
  | intro watchers _ ihwatchers =>
  induction n using Nat.strongRecOn generalizing s with
  | ind n ihidle =>
  subst hn
  refine .goes ?_ (fun i m c' s' step => ?_) fun l c' s' step => ?_
  · -- somebody can take a step, or all have ended
    by_cases h1 : ∃ ended, List.Forall₂ Thread.EndsAs threads ended
    · by_cases h2 : ∃ watched, List.Forall₂ Thread.EndsAs watchers watched
      · obtain ⟨ended, h1⟩ := h1
        obtain ⟨watched, h2⟩ := h2
        exact ⟨_, _, _, .joins h1 h2⟩
      · obtain ⟨k, t, m, t', s', place, step⟩ := hwatchers.attentive.enabled hr h2
        exact ⟨_, _, _, .watcher place step⟩
    · obtain ⟨k, t, m, t', s', place, step⟩ := hthreads.attentive.enabled hr h1
      exact ⟨_, _, _, .thread place step⟩
  · cases step with
    | thread place step => exact hd.keeps _ _ _ _ hinv (hthreads.onDuty.step place step).1
    | watcher place step => exact hd.keeps _ _ _ _ hinv (hwatchers.onDuty.step place step).1
  · cases step with
    | joins hended hwatched =>
      obtain ⟨hlen, hmeets⟩ := hthreads.onDuty.meets hended
      obtain ⟨hlen', hmeets'⟩ := hwatchers.onDuty.meets hwatched
      refine hjoin _ _ _ hinv (fun i => ?_) hlen hmeets hlen' hmeets'
      cases i with
      | main => exact hmain
      | thread k => exact hthreads.attentive.idle hended k
      | watcher k => exact hwatchers.attentive.idle hwatched k
    | @thread _ _ _ _ _ _ _ k t t' m place step =>
      obtain ⟨hpledge, hthreads'⟩ := hthreads.step hr hd thread_injective hinv place step
      have hwatchers' := hwatchers.elsewhere hr hd (by simp) hinv step.move hpledge
      have hinv' := hd.inv _ _ _ _ hinv hpledge
      have hmain' := (hr.others _ _ _ _ _ step.move (by simp)).trans hmain
      have hsame :
          idlers busy .watcher watchers.length s' ≤ idlers busy .watcher watchers.length s :=
        Nat.le_of_eq (idlers_congr (fun j => hr.others _ _ _ _ _ step.move (by simp)) _)
      cases step with
      | prepared move =>
        rw [Thread.set_self place] at hthreads' ⊢
        have hless := idlers_lt hr thread_injective (List.getElem?_eq_some_iff.1 place).1 move
        exact ihidle _ (Nat.add_lt_add_of_lt_of_le hless hsame) hinv' hmain' hthreads' hwatchers'
          rfl
      | answered move =>
        refine ihthreads _ ⟨k, _, _, _, _, place, rfl⟩ ?_ hinv' hmain' hthreads' hwatchers' _ rfl
        simpa using hjoin
    | @watcher _ _ _ _ _ _ _ k t t' m place step =>
      obtain ⟨hpledge, hwatchers'⟩ := hwatchers.step hr hd watcher_injective hinv place step
      have hthreads' := hthreads.elsewhere hr hd (by simp) hinv step.move hpledge
      have hinv' := hd.inv _ _ _ _ hinv hpledge
      have hmain' := (hr.others _ _ _ _ _ step.move (by simp)).trans hmain
      have hsame :
          idlers busy .thread threads.length s' ≤ idlers busy .thread threads.length s :=
        Nat.le_of_eq (idlers_congr (fun j => hr.others _ _ _ _ _ step.move (by simp)) _)
      cases step with
      | prepared move =>
        rw [Thread.set_self place] at hwatchers' ⊢
        have hless := idlers_lt hr watcher_injective (List.getElem?_eq_some_iff.1 place).1 move
        exact ihidle _ (Nat.add_lt_add_of_le_of_lt hsame hless) hinv' hmain' hthreads' hwatchers'
          rfl
      | answered move =>
        refine ihwatchers _ ⟨k, _, _, _, _, place, rfl⟩ ?_ hinv' hmain' hthreads' hwatchers' _ rfl
        simpa using hjoin

/-- **The rule for a fork.**  Threads and watchers do duties that fit together, and whatever
their ends, the run goes on from there. -/
lemma ends_fork (hr : Responsive moves busy) (hd : Duties keeps d inv) (hinv : inv s)
    (hthreads : OnDuty moves d .thread R threads s)
    (hwatchers : OnDuty moves d .watcher W watchers s)
    (hjoin : ∀ ended watched s, inv s → ended.length = threads.length →
      (∀ (k : Nat) (e : Ended β), ended[k]? = some e → e.Meets (d (.thread k)) (R k) s) →
      watched.length = watchers.length →
      (∀ (k : Nat) (e : Ended γ), watched[k]? = some e → e.Meets (d (.watcher k)) (W k) s) →
      (resume ended watched).Ends moves keeps busy Q s) :
    (Run.fork threads watchers resume).Ends moves keeps busy Q s := by
  intro hfree
  have hnone (client : Nat → Client) {δ : Type} (ts : List (Thread I δ)) :
      Attentive busy client ts s := fun k q hq => by
    rw [hfree] at hq
    cases hq
  refine .goes ⟨_, _, _, .forks⟩ (fun i m c' s' step => nomatch step) fun l c' s' step => ?_
  cases step with
  | forks =>
    refine inevitably_forked hr hd (fun ended watched s hs hfree h1 h2 h3 h4 => ?_) hinv
      (hfree .main) ⟨hthreads, hnone _ _⟩ ⟨hwatchers, hnone _ _⟩
    exact hjoin ended watched s hs h1 h2 h3 h4 hfree

end Fork

end Run

end Soak
