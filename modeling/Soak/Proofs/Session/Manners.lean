import Soak.Proofs.Session.Conduct

/-!
# Programs with manners

`Manners` say what is asked and what it may be answered.  A program that `Yields` keeps to them
whatever it is told: it asks nothing else, and as long as it is told nothing else, it ends with a
value of a certain kind, or panics.  This is proved along the program, without a state and without
regard to other threads.

If the manners are `Kept` by those who answer, then a run that yields comes to an end, and its
steps and its outcome are as they should be (`Run.Yields.ends`).
-/

namespace Soak

/-- What is asked, and what it may be answered. -/
structure Manners (I : Interface) where
  /-- What is asked. -/
  asks : I.Question → Prop
  /-- What it may be answered. -/
  told : (q : I.Question) → I.Answer q → Prop

variable {I : Interface} {α β σ : Type} {mn : Manners I}

namespace Program

/-- The program asks what it should, and if it ends with a value, then `V` holds of it. -/
inductive Yields (mn : Manners I) (V : α → Prop) : Program I α → Prop where
  | done {a : α} (h : V a) : Yields mn V (.done a)
  | ask {q : I.Question} {resume : I.Answer q → Program I α} (hq : mn.asks q)
    (h : ∀ a, mn.told q a → Yields mn V (resume a)) : Yields mn V (.ask q resume)
  | panic (message : String) : Yields mn V (.panic message)

variable {V V' : α → Prop} {W : β → Prop}

lemma Yields.mono {p : Program I α} (h : p.Yields mn V) (hV : ∀ a, V a → V' a) :
    p.Yields mn V' := by
  induction h with
  | done h => exact .done (hV _ h)
  | ask hq _ ih => exact .ask hq ih
  | panic message => exact .panic message

/-- The rule for programs one after another. -/
lemma Yields.bind {p : Program I α} {next : α → Program I β} (h : p.Yields mn V)
    (hnext : ∀ a, V a → (next a).Yields mn W) : (p >>= next).Yields mn W := by
  induction h with
  | done h => exact hnext _ h
  | ask hq _ ih => exact .ask hq ih
  | panic message => exact .panic message

/-- The rule for the end of a program. -/
lemma yields_pure {a : α} (h : V a) : (pure a : Program I α).Yields mn V :=
  .done h

/-- The rule for a question. -/
lemma yields_ask {q : I.Question} {next : I.Answer q → Program I α} (hq : mn.asks q)
    (h : ∀ a, mn.told q a → (next a).Yields mn V) : (question q >>= next).Yields mn V :=
  .ask hq h

/-- The rule for a question whose answer is not looked at. -/
lemma yields_question {q : I.Question} (hq : mn.asks q) :
    (question q).Yields mn fun _ => True :=
  .ask hq fun _ _ => .done trivial

/-- Memory is reserved without a question. -/
lemma yields_reserve {mn : Manners requests} (count bytes : Nat) :
    (Job.reserve count bytes).Yields mn fun _ => True := by
  obtain h | h := Job.reserve_cases count bytes
  · exact h ▸ yields_pure trivial
  · exact h ▸ .panic _

/-- A thread looks ahead without a question. -/
lemma yields_later {mn : Manners requests} (start time : Duration) :
    (Job.later start time).Yields mn fun _ => True := by
  unfold Job.later
  split
  · exact yields_pure trivial
  · exact .panic _

/-- The rule for values one after another. -/
lemma yields_mapM {p : β → Program I α} {l : List β} (h : ∀ b ∈ l, (p b).Yields mn V) :
    (l.mapM p).Yields mn fun as => ∀ a ∈ as, V a := by
  induction l with
  | nil => exact yields_pure (by simp)
  | cons b l ih =>
    rw [List.mapM_cons]
    refine (h b List.mem_cons_self).bind fun a ha => ?_
    refine (ih fun b hb => h b (List.mem_cons_of_mem _ hb)).bind fun as has => ?_
    exact yields_pure (by simpa using ⟨ha, has⟩)

/-- The rule for a loop. -/
lemma yields_foldRange {step : α → Nat → Program I α} (hstep : ∀ a n, V a → (step a n).Yields mn V)
    (first count : Nat) {a : α} (ha : V a) : (foldRange step first count a).Yields mn V := by
  induction count generalizing first a with
  | zero => exact yields_pure ha
  | succ count ih => exact (hstep a first ha).bind fun b hb => ih (first + 1) hb

/-- The rule for the values of programs one after another. -/
lemma yields_mapRange {perform : Nat → Program I α} (hperform : ∀ n, (perform n).Yields mn V)
    (first count : Nat) : (mapRange perform first count).Yields mn fun as => ∀ a ∈ as, V a := by
  refine (yields_foldRange (V := fun as => ∀ a ∈ as, V a) (fun as n has => ?_) first count
    (by simp)).bind fun as has => yields_pure (by simpa using has)
  exact (hperform n).bind fun a ha => yields_pure (by simpa using ⟨ha, has⟩)

end Program

/-- The manners are kept by those who answer, as long as `inv` holds, which it then goes on doing;
and all that happens is as `keeps` says. -/
structure Manners.Kept (mn : Manners I) (moves keeps : Client → Moves I σ) (inv : σ → Prop) :
    Prop where
  prepared : ∀ i q s s', mn.asks q → inv s → moves i (.prepared q) s s' →
    keeps i (.prepared q) s s' ∧ inv s'
  answered : ∀ i q a s s', mn.asks q → inv s → moves i (.answered q a) s s' →
    mn.told q a ∧ keeps i (.answered q a) s s' ∧ inv s'

section Kept

variable {moves keeps : Client → Moves I σ} {inv : σ → Prop} {s : σ}

/-- The duty of a client that keeps the manners. -/
def Manners.duty (keeps : Client → Moves I σ) (inv : σ → Prop) (mayPanic : Prop) (i : Client) :
    Duty I σ where
  rely s s' := inv s → inv s'
  always := inv
  pledge m s s' := keeps i m s s' ∧ inv s'
  panics _ := mayPanic

lemma Manners.stable_duty (keeps : Client → Moves I σ) (inv : σ → Prop) (mayPanic : Prop)
    (i : Client) : (Manners.duty keeps inv mayPanic i).Stable inv :=
  ⟨fun _ hs => hs, fun _ _ hs h => h hs⟩

lemma Manners.duties (keeps : Client → Moves I σ) (inv : σ → Prop) (mayPanic : Prop) :
    Duties keeps (Manners.duty keeps inv mayPanic) inv where
  rely _ _ _ _ _ _ _ h _ := h.2
  keeps _ _ _ _ _ h := h.1
  inv _ _ _ _ _ h := h.2

/-- The rule for a question. -/
lemma Manners.Kept.fulfils_question (hkept : mn.Kept moves keeps inv) {mayPanic : Prop}
    {i : Client} {q : I.Question} (hq : mn.asks q) {next : I.Answer q → Program I α}
    {Q : α → σ → Prop} (hs : inv s) (hnext : ∀ a s, mn.told q a → inv s →
      (next a).Fulfils (moves i) (Manners.duty keeps inv mayPanic i) Q s) :
    (Program.ask q next).Fulfils (moves i) (Manners.duty keeps inv mayPanic i) Q s := by
  refine ⟨inv, hs, Manners.stable_duty keeps inv mayPanic i, fun s s' hs hm => ?_,
    fun a s s' hs hm => ?_⟩
  · obtain ⟨hkeeps, hs'⟩ := hkept.prepared i q s s' hq hs hm
    exact ⟨⟨hkeeps, hs'⟩, hs'⟩
  · obtain ⟨htold, hkeeps, hs'⟩ := hkept.answered i q a s s' hq hs hm
    exact ⟨⟨hkeeps, hs'⟩, hnext a s' htold hs'⟩

/-- A program that yields keeps its client to the manners. -/
lemma Program.Yields.fulfils {p : Program I α} {V : α → Prop} (h : p.Yields mn V)
    (hkept : mn.Kept moves keeps inv) (i : Client) (hs : inv s) :
    p.Fulfils (moves i) (Manners.duty keeps inv True i) (fun a s => V a ∧ inv s) s := by
  have hst := Manners.stable_duty keeps inv True i
  induction h generalizing s with
  | done h => exact ⟨inv, hs, hst, fun s hs => ⟨h, hs⟩⟩
  | panic message => exact ⟨trivial, inv, hs, hst⟩
  | ask hq _ ih => exact hkept.fulfils_question hq hs fun a s ha hs => ih a ha hs

end Kept

namespace Run

/-- The run and its threads ask what they should, and `V` holds of what the run ends with. -/
inductive Yields (mn : Manners I) (V : Except String α → Prop) : Run I α → Prop where
  | done {a : α} (h : V (.ok a)) : Yields mn V (.done a)
  | ask {q : I.Question} {resume : I.Answer q → Run I α} (hq : mn.asks q)
    (h : ∀ a, mn.told q a → Yields mn V (resume a)) : Yields mn V (.ask q resume)
  | panic {message : String} (h : V (.error message)) : Yields mn V (.panic message)
  | fork {β γ : Type} {threads : List (Thread I β)} {watchers : List (Thread I γ)}
    {resume : List (Ended β) → List (Ended γ) → Run I α} (R : β → Prop)
    (hthreads : ∀ t ∈ threads, t.program.Yields mn R)
    (hwatchers : ∀ t ∈ watchers, t.program.Yields mn fun _ => True)
    (h : ∀ ended watched, ended.length = threads.length →
      (∀ e ∈ ended, ∀ b, e.2 = .ok b → R b) → Yields mn V (resume ended watched)) :
    Yields mn V (.fork threads watchers resume)

variable {V : Except String α → Prop} {W : Except String β → Prop}

/-- The rule for one part after another. -/
lemma Yields.bind {r : Run I α} {next : α → Run I β} (h : r.Yields mn V)
    (hnext : ∀ a, V (.ok a) → (next a).Yields mn W)
    (hpanic : ∀ message, V (.error message) → W (.error message)) : (r >>= next).Yields mn W := by
  induction h with
  | done h => exact hnext _ h
  | ask hq _ ih => exact .ask hq ih
  | panic h => exact .panic (hpanic _ h)
  | fork R hthreads hwatchers _ ih => exact .fork R hthreads hwatchers ih

/-- The rule for the end of a run. -/
lemma yields_pure {a : α} (h : V (.ok a)) : (pure a : Run I α).Yields mn V :=
  .done h

/-- The rule for a question of the main thread. -/
lemma yields_ask {q : I.Question} {next : I.Answer q → Run I α} (hq : mn.asks q)
    (h : ∀ a, mn.told q a → (next a).Yields mn V) :
    (liftM (Program.question q) >>= next : Run I α).Yields mn V :=
  .ask hq h

/-- The rule for a program of the main thread. -/
lemma yields_then {p : Program I α} {next : α → Run I β} {R : α → Prop} (h : p.Yields mn R)
    (hnext : ∀ a, R a → (next a).Yields mn W) (hpanic : ∀ message, W (.error message)) :
    (liftM p >>= next : Run I β).Yields mn W := by
  induction h with
  | done h => exact hnext _ h
  | ask hq _ ih => exact .ask hq ih
  | panic message => exact .panic (hpanic message)

variable {moves keeps : Client → Moves I σ} {busy : Client → σ → Option I.Question}
  {inv : σ → Prop} {s : σ}

/-- The rule for a question of the main thread that is answered at once. -/
lemma ends_asked (hr : Responsive moves busy) {q : I.Question} {resume : I.Answer q → Run I α}
    {Q : Except String α → σ → Prop} (hprep : ∀ s', ¬ moves .main (.prepared q) s s')
    (hkeeps : ∀ a s', moves .main (.answered q a) s s' → keeps .main (.answered q a) s s')
    (hnext : ∀ a s', moves .main (.answered q a) s s' → (resume a).Ends moves keeps busy Q s') :
    (Run.ask q resume).Ends moves keeps busy Q s := by
  intro hfree
  refine .goes ?_ (fun i m c' s' step => ?_) fun l c' s' step => ?_
  · obtain ⟨s', move⟩ | ⟨a, s', move⟩ := hr.enabled .main q s (.inl (hfree .main))
    · exact absurd move (hprep s')
    · exact ⟨_, _, s', .answered move⟩
  · cases step with
    | prepared move => exact absurd move (hprep s')
    | answered move => exact hkeeps _ s' move
  · cases step with
    | prepared move => exact absurd move (hprep s')
    | answered move =>
      refine hnext _ s' move fun i => ?_
      by_cases hi : i = .main
      · exact hi ▸ hr.answered _ _ _ _ _ (.inl (hfree .main)) move
      · exact (hr.others _ _ _ _ _ move hi).trans (hfree i)

/-- **A run that yields comes to an end**, if its manners are kept. -/
theorem Yields.ends (hr : Responsive moves busy) (hkept : mn.Kept moves keeps inv) {r : Run I α}
    (h : r.Yields mn V) (hs : inv s) :
    r.Ends moves keeps busy (fun o s => V o ∧ inv s) s := by
  induction h generalizing s with
  | done h => exact ends_pure ⟨h, hs⟩
  | panic h => exact ends_panic ⟨h, hs⟩
  | @ask q resume hq _ ih =>
    have hasked : (Program.question q).Fulfils (moves .main)
        (Manners.duty keeps inv False .main) (fun a s => mn.told q a ∧ inv s) s :=
      hkept.fulfils_question hq hs fun a s ha hs => Program.fulfils_pure inv
        (Manners.stable_duty keeps inv False .main) hs fun s hs => ⟨ha, hs⟩
    -- the rest of the run follows on the program that only asks the question
    have hends : (ofProgram (Program.question q)).Ends moves keeps busy
        (fun o s => ∃ a, o = .ok a ∧ mn.told q a ∧ inv s) s :=
      ends_program hr (d := Manners.duty keeps inv False .main) (fun _ _ _ hp => hp.1) hasked
        (fun a s ha => ⟨a, rfl, ha⟩) nofun
    refine hends.bind ?_ ?_
    · rintro a s ⟨_, ⟨⟩, ha, hs⟩
      exact ih a ha hs
    · rintro message s ⟨_, ⟨⟩, -⟩
  | fork R hthreads hwatchers _ ih =>
    refine ends_fork hr (Manners.duties keeps inv True) (R := fun _ b s => R b ∧ inv s)
      (W := fun _ _ s => True ∧ inv s) hs (fun k t ht => ?_) (fun k t ht => ?_) ?_
    · exact (hthreads t (List.mem_of_getElem? ht)).fulfils hkept (.thread k) hs
    · exact (hwatchers t (List.mem_of_getElem? ht)).fulfils hkept (.watcher k) hs
    · intro ended watched s hs hlength hmeets _ _
      refine ih ended watched hlength (fun e he b hb => ?_) hs
      obtain ⟨k, hk⟩ := List.mem_iff_getElem?.1 he
      have hmeets := hmeets k e hk
      unfold Ended.Meets at hmeets
      rw [hb] at hmeets
      exact hmeets.1

end Run

/-! ### Sessions -/

/-- Whatever is asked, it may be answered in any way. -/
def Manners.any : Manners I :=
  ⟨fun _ => True, fun _ _ => True⟩

lemma Manners.kept_any {moves : Client → Moves I σ} :
    (any : Manners I).Kept moves (fun _ _ _ _ => True) fun _ => True :=
  ⟨fun _ _ _ _ _ _ _ => ⟨trivial, trivial⟩, fun _ _ _ _ _ _ _ _ => ⟨trivial, trivial, trivial⟩⟩

/-- Every program asks something and ends somehow. -/
lemma Program.yields_any (p : Program I α) : p.Yields .any fun _ => True := by
  induction p with
  | done a => exact .done trivial
  | panic message => exact .panic message
  | ask q resume ih => exact .ask trivial fun a _ => ih a

namespace Run

variable {mn : Manners requests}

/-- All threads have ended with values, or one of them has panicked. -/
def Settled (ended : List (Ended β)) (o : Except String (List β × Option RunError)) : Prop :=
  (∃ values, Values ended values ∧ o = .ok (values, none)) ∨
    (∃ e ∈ ended, ∃ message, e.2 = .error message) ∧
      ∃ values text, o = .ok (values, some (.panicked text))

/-- Threads are settled with nothing but log entries. -/
lemma yields_settle (hlog : ∀ e, mn.asks (.log e)) (event : Option PanicEvent)
    (ended : List (Ended β)) : (settle event ended).Yields mn (Settled ended) := by
  induction ended with
  | nil => exact yields_pure (.inl ⟨[], rfl, rfl⟩)
  | cons e ended ih =>
    obtain ⟨name, outcome⟩ := e
    cases outcome with
    | ok value =>
      refine ih.bind ?_ ?_
      · rintro _ (⟨values, hvalues, ⟨⟩⟩ | ⟨⟨e, he, hpanic⟩, values, text, ⟨⟩⟩)
        · exact yields_pure (.inl ⟨value :: values, congrArg (Except.ok value :: ·) hvalues, rfl⟩)
        · exact yields_pure (.inr ⟨⟨e, List.mem_cons_of_mem _ he, hpanic⟩, _, text, rfl⟩)
      · rintro message (⟨values, -, ⟨⟩⟩ | ⟨-, values, text, ⟨⟩⟩)
    | error panic =>
      have hrest (text : String) : (settle event ended >>= fun x =>
          pure (x.1, some (.panicked text)) : Session (List β × Option RunError)).Yields mn
            (Settled (⟨name, .error panic⟩ :: ended)) := by
        refine ih.bind (fun x _ => yields_pure (.inr ⟨?_, _, text, rfl⟩)) ?_
        · exact ⟨_, List.mem_cons_self, panic, rfl⟩
        · rintro message (⟨values, -, ⟨⟩⟩ | ⟨-, values, text, ⟨⟩⟩)
      cases event with
      | none => exact hrest panic
      | some e => exact .ask (hlog _) fun _ _ => hrest _

/-- **The rule for a fork** whose threads are settled at once. -/
lemma yields_forkAll (hlog : ∀ e, mn.asks (.log e)) {threads : List (Thread requests β)}
    {R : β → Prop} {event : Option PanicEvent} {next : List β × Option RunError → Session α}
    {V : Except String α → Prop} (hthreads : ∀ t ∈ threads, t.program.Yields mn R)
    (hdone : ∀ values, values.length = threads.length → (∀ b ∈ values, R b) →
      (next (values, none)).Yields mn V)
    (hpanic : ∀ values text, (next (values, some (.panicked text))).Yields mn V) :
    (Run.forkAll threads >>= fun ended => settle event ended >>= next).Yields mn V := by
  refine .fork R hthreads (by simp) fun ended _ hlength hR => ?_
  refine (yields_settle hlog event ended).bind ?_ ?_
  · rintro _ (⟨values, hvalues, ⟨⟩⟩ | ⟨-, values, text, ⟨⟩⟩)
    · have hends : ended.map Prod.snd = values.map .ok := hvalues
      refine hdone values ?_ fun b hb => ?_
      · simpa [hlength] using (congrArg List.length hends).symm
      · have hmem : Except.ok b ∈ ended.map Prod.snd := hends ▸ List.mem_map_of_mem hb
        obtain ⟨e, he, hb⟩ := List.mem_map.1 hmem
        exact hR e he b hb
    · exact hpanic values text
  · rintro message (⟨values, -, ⟨⟩⟩ | ⟨-, values, text, ⟨⟩⟩)

end Run

end Soak
