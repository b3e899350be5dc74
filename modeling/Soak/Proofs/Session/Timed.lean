import Soak.Proofs.Session.Manners

/-!
# Runs against a clock that goes on

Where a run waits for a time to come, it matters how often the clock has been read.  A
`Timetable` says what the clock may show at each of its readings, and up to which of them those
who pause may be told that the threads they wait for have not ended yet.

What is known of a program without regard to time (`World.steady`) is still known of it, and
beside it how many readings have been made (`Program.Fulfils.inTime`).  So a loop that waits for
a deadline is followed along the readings, and everything else as before.
-/

namespace Soak

/-- What a clock shows. -/
structure Timetable where
  /-- What it may show when it has been read a number of times. -/
  shows : Nat → Reading → Prop
  /-- After this many readings, whoever pauses is told that the wait is over. -/
  last : Nat

namespace Timetable

/-- What the steps of a thread do to the number of readings. -/
def passes (T : Timetable) : Moves requests Nat
  | .answered .clock now, n, n' => T.shows n now ∧ n' = n + 1
  | .answered (.pause _) ended, n, n' => (ended = false → n < T.last) ∧ n' = n
  | _, n, n' => n' = n

/-- The clock shows this at some time. -/
def clock (T : Timetable) (now : Reading) : Prop :=
  ∃ n, T.shows n now

/-- After the last reading that anybody waits for, the clock shows that a time has come. -/
def Due (T : Timetable) (deadline : Duration) : Prop :=
  ∀ n now, T.last ≤ n → T.shows n now → deadline.nanos ≤ now.elapsed.nanos

variable {T : Timetable} {m : Move requests} {n n' k : Nat} {α β : Type}

/-- No reading is taken back. -/
lemma le_of_passes (h : T.passes m n n') : n ≤ n' := by
  cases m with
  | prepared q => exact Nat.le_of_eq h.symm
  | answered q a =>
    cases q with
    | clock => exact h.2 ▸ Nat.le_succ n
    | pause time => exact Nat.le_of_eq h.2.symm
    | _ => exact Nat.le_of_eq h.symm

/-- Only who reads the clock adds a reading. -/
lemma eq_of_passes (h : T.passes m n n') (hm : ∀ now, m ≠ .answered .clock now) : n' = n := by
  cases m with
  | prepared q => exact h
  | answered q a =>
    cases q with
    | clock => exact (hm a rfl).elim
    | pause time => exact h.2
    | _ => exact h

/-- Everybody reads the clock. -/
def ticking : Duty requests Nat where
  rely n n' := n ≤ n'
  always _ := True
  pledge _ n n' := n ≤ n'
  panics _ := True

/-- Nobody else reads the clock. -/
def still : Duty requests Nat where
  rely n n' := n' = n
  always _ := True
  pledge _ _ _ := True
  panics _ := True

lemma stable_ticking (n : Nat) : ticking.Stable (n ≤ ·) :=
  ⟨fun _ _ => trivial, fun _ _ => Nat.le_trans⟩

lemma stable_still (J : Nat → Prop) : still.Stable J :=
  ⟨fun _ _ => trivial, fun _ _ hJ hr => hr ▸ hJ⟩

/-- Whatever a program does, the readings that have been made stay so. -/
lemma fulfils_ticking (p : Job α) (h : k ≤ n) :
    p.Fulfils T.passes ticking (fun _ n => k ≤ n) n := by
  have hst := stable_ticking k
  induction p generalizing n with
  | done a => exact ⟨_, h, hst, fun _ hn => hn⟩
  | panic message => exact ⟨trivial, _, h, hst⟩
  | ask q resume ih =>
    refine ⟨_, h, hst, fun n n' hn hm => ?_, fun a n n' hn hm => ?_⟩
    · exact ⟨le_of_passes hm, hn.trans (le_of_passes hm)⟩
    · exact ⟨le_of_passes hm, ih a (hn.trans (le_of_passes hm))⟩

/-- Whatever a program does, there is nothing to be said about time. -/
lemma fulfils_still (p : Job α) : p.Fulfils T.passes still (fun _ _ => True) n := by
  have hst := stable_still fun _ => True
  induction p generalizing n with
  | done a => exact ⟨_, trivial, hst, fun _ _ => trivial⟩
  | panic message => exact ⟨trivial, _, trivial, hst⟩
  | ask q resume ih =>
    exact ⟨_, trivial, hst, fun _ _ _ _ => ⟨trivial, trivial⟩, fun a _ _ _ _ => ⟨trivial, ih a⟩⟩

/-- The rule for the clock. -/
lemma ticking_clock {next : Reading → Job α} {Q : α → Nat → Prop}
    (hnext : ∀ now m, n ≤ m → T.shows m now → (next now).Fulfils T.passes ticking Q (m + 1)) :
    (Job.clock >>= next).Fulfils T.passes ticking Q n := by
  refine Program.fulfils_question (n ≤ ·) (stable_ticking n) le_rfl (fun m m' hm hp => ?_)
    fun now m m' hm hp => ?_
  · exact ⟨le_of_passes hp, hm.trans (le_of_passes hp)⟩
  · obtain ⟨hnow, rfl⟩ := hp
    exact ⟨Nat.le_succ m, hnext now m hm hnow⟩

/-- The rule for a pause. -/
lemma ticking_pause {time : Duration} {next : Bool → Job α} {Q : α → Nat → Prop}
    (hnext : ∀ ended m, n ≤ m → (ended = false → m < T.last) →
      (next ended).Fulfils T.passes ticking Q m) :
    (Program.question (I := requests) (.pause time) >>= next).Fulfils T.passes ticking Q n := by
  refine Program.fulfils_question (n ≤ ·) (stable_ticking n) le_rfl (fun m m' hm hp => ?_)
    fun ended m m' hm hp => ?_
  · exact ⟨le_of_passes hp, hm.trans (le_of_passes hp)⟩
  · obtain ⟨hended, rfl⟩ := hp
    exact ⟨le_rfl, hnext ended m' hm hended⟩

/-- Who is alone knows which reading it is. -/
lemma still_clock : Job.clock.Fulfils T.passes still (fun now _ => T.shows n now) n :=
  ⟨(· = n), rfl, stable_still _, fun _ _ hm hp => ⟨trivial, hp.trans hm⟩, fun _ _ _ hm hp =>
    ⟨trivial, _, trivial, stable_still fun _ => True, fun _ _ => hm ▸ hp.1⟩⟩

/-- The clock is not read. -/
def timeless : Manners requests where
  asks q := q ≠ .clock
  told _ _ := True

/-- A program that does not read the clock adds no reading. -/
lemma still_of_yields {p : Job α} {V : α → Prop} (h : p.Yields timeless V) :
    p.Fulfils T.passes still (fun _ n' => n' = n) n := by
  induction h with
  | done _ => exact ⟨(· = n), rfl, stable_still _, fun _ hn => hn⟩
  | panic message => exact ⟨trivial, (· = n), rfl, stable_still _⟩
  | ask hq _ ih =>
    refine ⟨(· = n), rfl, stable_still _, fun _ _ hn hm => ⟨trivial, hm.trans hn⟩,
      fun a m m' hm hp => ⟨trivial, ?_⟩⟩
    obtain rfl := (eq_of_passes hp fun _ heq => hq (by cases heq; rfl)).trans hm
    exact ih a trivial

lemma still_freshId : (Program.question (I := requests) .freshId).Fulfils T.passes still
    (fun _ n' => n' = n) n :=
  still_of_yields (V := fun _ => True) (.ask nofun fun _ _ => .done trivial)

end Timetable

open Timetable (ticking still)

namespace World

variable {ι : Type} [DecidableEq ι] {T : Timetable} {i : ι}

/-- What the steps of a thread do on a store in memory, with a clock that keeps to a timetable. -/
def timed (T : Timetable) (i : ι) : Moves requests (World (Shared ι) × Nat) :=
  (moves (Shared.service ι) i).prod T.passes

/-- The clock is read. -/
lemma timed_clock {s : World (Shared ι)} {n : Nat} {now : Reading} (h : T.shows n now) :
    timed T i (.answered .clock now) (s, n) (s, n + 1) :=
  ⟨rfl, h, rfl⟩

/-- What does not depend on the time is answered at any time. -/
lemma timed_of_moves {q : Request} {a : q.Answer} {s s' : World (Shared ι)} {n : Nat}
    (hclock : q ≠ .clock) (hpause : ∀ t, q ≠ .pause t)
    (h : moves (Shared.service ι) i (.answered q a) s s') :
    timed T i (.answered q a) (s, n) (s', n) := by
  refine ⟨h, ?_⟩
  cases q with
  | clock => exact (hclock rfl).elim
  | pause t => exact (hpause t rfl).elim
  | _ => rfl

/-- At any time, the clock shows what it may show at some time. -/
lemma timed_eq : timed T i = (steady T.clock i).prod T.passes := by
  funext m u u'
  refine propext ⟨fun h => ⟨⟨h.1, ?_⟩, h.2⟩, fun h => ⟨h.1.1, h.2⟩⟩
  rintro now rfl
  exact ⟨_, h.2.1⟩

/-- **Every question is answered in the end**, if the clock always shows something. -/
lemma responsive_timed (hshows : ∀ n, ∃ now, T.shows n now) :
    Responsive (timed (ι := ι) T) fun i u => underway i u.1 where
  prepared i q u u' h := (responsive exists_reading).prepared i q _ _ (steady_true (ι := ι) ▸ h.1)
  answered i q a u u' hbusy h :=
    (responsive exists_reading).answered i q a _ _ hbusy (steady_true (ι := ι) ▸ h.1)
  others i j m u u' h hj := underway_of_ne h.1 hj
  enabled i q u hbusy := by
    by_cases hcall : ∃ c, q = .call c
    · obtain ⟨c, rfl⟩ := hcall
      exact (exists_call_move c hbusy).imp (fun ⟨s', h⟩ => ⟨(s', u.2), h, rfl⟩)
        fun ⟨a, s', h⟩ => ⟨a, (s', u.2), h, rfl⟩
    · obtain ⟨a, s', h⟩ := exists_answer (S := Shared.service ι) (i := i)
        (fun c hc => hcall ⟨c, hc⟩) u.1
      refine .inr ?_
      cases q with
      | clock =>
        obtain ⟨now, hnow⟩ := hshows u.2
        exact ⟨now, (u.1, u.2 + 1), rfl, hnow, rfl⟩
      | pause time => exact ⟨true, (u.1, u.2), rfl, nofun, rfl⟩
      | call c => exact (hcall ⟨c, rfl⟩).elim
      | _ => exact ⟨a, (s', u.2), h, rfl⟩

end World

section Fulfils

variable {ι α : Type} [DecidableEq ι] {T : Timetable} {i : ι} {d : Duty requests (World (Shared ι))}
  {e : Duty requests Nat} {p : Job α} {Q : α → World (Shared ι) → Prop} {R : α → Nat → Prop}
  {s : World (Shared ι)} {n : Nat}

/-- What is known of a program without regard to time, and of the time that it takes, is known of
it together. -/
lemma Program.Fulfils.inTime (h : p.Fulfils (World.steady T.clock i) d Q s)
    (h' : p.Fulfils T.passes e R n) :
    p.Fulfils (World.timed T i) (d.prod e) (fun a u => Q a u.1 ∧ R a u.2) (s, n) := by
  rw [World.timed_eq]
  exact h.and h'

/-- A tenant against the clock. -/
lemma Tenant.Does.inTime {t : Tenant ι} {pages : Holdings → Except CallError Json → Prop}
    {x : Holdings} {P : α → Holdings → Prop} {u : World (Shared ι) × Nat}
    (h : t.Does T.clock pages p x P) (hsees : t.Sees x u.1) :
    p.Fulfils (World.timed T t.client) ((t.duty pages).prod ticking)
      (fun a u => ∃ y, P a y ∧ t.Sees y u.1) u :=
  ((h u.1 hsees).inTime (Timetable.fulfils_ticking p le_rfl)).mono fun _ _ h => h.1

end Fulfils

namespace Run

variable {α β γ : Type} {T : Timetable} {keeps : Client → Moves requests (World (Shared Client))}
  {Q : Except String α → World (Shared Client) × Nat → Prop} {u : World (Shared Client) × Nat}

/-- With a clock that keeps to a timetable, it is inevitable that the run ends as `Q` says. -/
abbrev EndsInTime (T : Timetable) (keeps : Client → Moves requests (World (Shared Client)))
    (Q : Except String α → World (Shared Client) × Nat → Prop) (r : Session α)
    (u : World (Shared Client) × Nat) : Prop :=
  r.Ends (World.timed T) (fun i m u u' => keeps i m u.1 u'.1)
    (fun i u => World.underway i u.1) Q u

lemma EndsInTime.inevitably {r : Session α} (h : r.EndsInTime T keeps Q u)
    (hfree : ∀ i, World.underway i u.1 = none) :
    Inevitably (World.timed T) (fun i m u u' => keeps i m u.1 u'.1) Q (.alone r) u :=
  Ends.inevitably h hfree

/-- A program of the main thread for which time matters, and what follows. -/
lemma ends_then_at (hshows : ∀ n, ∃ now, T.shows n now) {p : Job β}
    {R : β → World (Shared Client) → Prop} {R' : β → Nat → Prop} {next : β → Session α}
    (h : p.Fulfils (World.steady T.clock .main) (World.sole (keeps .main) fun _ => False) R u.1)
    (h' : p.Fulfils T.passes still R' u.2)
    (hnext : ∀ b u', R b u'.1 → R' b u'.2 → (next b).EndsInTime T keeps Q u') :
    (liftM p >>= next : Session α).EndsInTime T keeps Q u := by
  refine Ends.bind (Q := fun o u' => ∃ b, o = .ok b ∧ R b u'.1 ∧ R' b u'.2)
    (ends_program (d := (World.sole (keeps .main) fun _ => False).prod still)
      (World.responsive_timed hshows) (fun _ _ _ hp => hp.1) (h.inTime h')
      (fun b u' hb => ⟨b, rfl, hb⟩) fun message _ hm _ => hm.1.elim) ?_ ?_
  · rintro b u' ⟨b', ⟨⟩, hb, hb'⟩
    exact hnext b u' hb hb'
  · rintro message u' ⟨b, ⟨⟩, -⟩

/-- A program of the main thread, and what follows. -/
lemma ends_then_in_time (hshows : ∀ n, ∃ now, T.shows n now) {p : Job β}
    {R : β → World (Shared Client) → Prop} {next : β → Session α}
    (h : p.Fulfils (World.steady T.clock .main) (World.sole (keeps .main) fun _ => False) R u.1)
    (hnext : ∀ b u', R b u'.1 → (next b).EndsInTime T keeps Q u') :
    (liftM p >>= next : Session α).EndsInTime T keeps Q u :=
  ends_then_at hshows h (Timetable.fulfils_still p) fun b u' hb _ => hnext b u' hb

/-- **The rule for a fork of tenants** against the clock: as `Run.ends_fork_tenants`, but the
programs of the threads and of the watchers are followed along the readings. -/
lemma ends_fork_in_time (hshows : ∀ n, ∃ now, T.shows n now) {tenant : Nat → Tenant Client}
    {pages : Nat → Holdings → Except CallError Json → Prop} {names : Set String} {st : Store}
    {total : Nat} {threads : List (Thread requests β)} {watchers : List (Thread requests γ)}
    {resume : List (Ended β) → List (Ended γ) → Session α} {R : Nat → β → Holdings → Prop}
    (hn : World.Neighbours tenant threads.length names)
    (htenants : ∀ k < threads.length, ∀ m s s', s.Leaves st total names →
      ((tenant k).duty (pages k)).pledge m s s' → keeps (.thread k) m s s')
    (hlookers : ∀ i m s s', s.Leaves st total names → World.onlooker.pledge m s s' →
      keeps i m s s')
    (hs : u.1.Leaves st total names) (hquiet : ∀ i, u.1.Quiet i)
    (hthreads : ∀ (k : Nat) (t : Thread requests β), threads[k]? = some t →
      (tenant k).Sees u.1.holdings u.1 →
        t.program.Fulfils (World.timed T (.thread k)) (((tenant k).duty (pages k)).prod ticking)
          (fun a u => ∃ y, (y.search = none ∧ R k a y) ∧ (tenant k).Sees y u.1) u)
    (hwatchers : ∀ (k : Nat) (t : Thread requests γ), watchers[k]? = some t →
      t.program.Fulfils (World.timed T (.watcher k)) (World.onlooker.prod ticking)
        (fun _ _ => True) u)
    (hjoin : ∀ ended watched values watches u', Values ended values → Values watched watches →
      values.length = threads.length → watches.length = watchers.length →
      u'.1.Leaves st total names → (∀ i, u'.1.Quiet i) →
      (∀ (k : Nat) (a : β), values[k]? = some a → ∃ y, R k a y ∧ (tenant k).Sees y u'.1) →
      (resume ended watched).EndsInTime T keeps Q u') :
    (Run.fork threads watchers resume).EndsInTime T keeps Q u := by
  have hfit : Duties keeps (World.duties tenant pages threads.length)
      (World.Shelters st total names threads.length) := World.duties_fit hn htenants hlookers
  have hduties := hfit.prod (e := fun _ => ticking) fun _ _ _ _ _ h => h
  refine ends_fork (World.responsive_timed hshows) hduties
    (R := fun k a u' => ∃ y, (y.search = none ∧ R k a y) ∧ (tenant k).Sees y u'.1)
    (W := fun _ _ _ => True) ⟨hs, fun i _ => hquiet i⟩ ?_ ?_ ?_
  · intro k t ht
    have hk := (List.getElem?_eq_some_iff.1 ht).1
    dsimp only
    rw [World.duties_thread hk]
    exact hthreads k t ht (Tenant.sees_of_quiet (tenant k) hs.coherent (hquiet _))
  · intro k t ht
    exact hwatchers k t ht
  · intro ended watched u' hs' hlength hended hlength' hwatched
    obtain ⟨values, watches, hvalues, hwatches, hcount, hcount', hquiet', hR⟩ :=
      exists_of_joined hn hs' hlength (fun k e he => (hended k e he).fst)
        fun k e he => Ended.Meets.fst (R := fun _ _ => True) (hwatched k e he)
    exact hjoin ended watched values watches u' hvalues hwatches hcount
      (hcount'.trans hlength') hs'.1 hquiet' hR

end Run

end Soak
