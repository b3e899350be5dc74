import Soak.Chain
import Soak.Proofs.Load.Setup
import Soak.Proofs.Longevity.Access
import Soak.Proofs.Longevity.Cleanup

/-!
# Checks come first

Every run checks what it was given before it does anything else.  If a check fails, then the run is
over, with the error of that check.  If none does, then no such error comes up later
(`setup_errors_come_first`): the threads of load runs, populations and chained benchmarks have no
values that are one, and those of a longevity run are granted every counter that they ask for
(`Soak.Proofs.Longevity.Access`).

The store answers as it likes and writes everything down; by `Inevitably.of_recorded`, this covers
every store.
-/

namespace Soak

namespace Run

variable {α : Type}

/-- The run has no set-up error to end with. -/
def SetUp (o : Except String (Except RunError α)) : Prop :=
  ∀ e, o ≠ .ok (.error (.setup e))

/-- The run comes to its end, whatever the store answers, and each of its steps is as `keeps` says.
It ends with a set-up error exactly if the check with that error fails, and then nothing at all has
happened. -/
def ChecksFirst (fails : SetupError → Prop) (keeps : Move requests → Prop)
    (r : Session (Except RunError α)) : Prop :=
  ∀ s : World (Ledger Client),
    Inevitably (World.moves (Service.ledger Client)) (fun _ m _ _ => keeps m)
      (fun outcome s' => ∀ e,
        (outcome = .ok (.error (.setup e)) ↔ fails e) ∧ (fails e → s' = s)) (.alone r) s

variable {fails : SetupError → Prop} {keeps : Move requests → Prop}
  {r : Session (Except RunError α)}

/-- Checks come first if the run is over when one of them fails, and has no such error to end with
when all of them pass. -/
lemma checksFirst_of (hfails : ∀ e, fails e → r = pure (.error (.setup e)))
    (hpasses : (∀ e, ¬ fails e) → ∀ s, r.Ends (World.moves (Service.ledger Client))
      (fun _ m _ _ => keeps m) (fun _ _ => none) (fun o _ => SetUp o) s) :
    r.ChecksFirst fails keeps := by
  intro s
  by_cases hfail : ∃ e, fails e
  · obtain ⟨e, he⟩ := hfail
    obtain rfl := hfails e he
    refine .ended rfl fun e' => ⟨⟨?_, fun he' => ?_⟩, fun _ => rfl⟩
    · rintro ⟨⟩
      exact he
    · have hsame : Run.done (I := requests) _ = Run.done _ := hfails e' he'
      rw [Run.done.inj hsame]
  · have hnone : ∀ e, ¬ fails e := not_exists.1 hfail
    refine ((hpasses hnone s).mono fun o s' ho e => ?_).inevitably fun _ => rfl
    exact ⟨iff_of_false (ho e) (hnone e), fun he => absurd he (hnone e)⟩

/-- A panic of a thread is not a failure of the set-up. -/
lemma Settled.ne_setup {β : Type} {ended : List (Ended β)} {values : List β}
    {failure : Option RunError} (h : Settled ended (.ok (values, failure))) (e : SetupError) :
    failure ≠ some (.setup e) := by
  obtain ⟨_, -, ⟨⟩⟩ | ⟨-, _, text, ⟨⟩⟩ := h <;> nofun

end Run

open Run (ChecksFirst SetUp yields_pure checksFirst_of)

/-- What does not fail passes. -/
lemma eq_ok_of_ne_error {check : Except SetupError Unit} (h : ∀ e, check ≠ .error e) :
    check = .ok () := by
  cases hcheck : check with
  | ok u => rfl
  | error e => exact absurd hcheck (h e)

namespace Load

/-- A load run checks first whether its containers can be shared out, and then its payload. -/
lemma checksFirst_run (b : Config.Backend) (seeds : Seeds) (threads total items : Nat)
    (raw : String) (action : Action) :
    (run b seeds threads total items raw action).ChecksFirst
      (fun e => Job.split total threads = pure (.error e) ∨
        (∃ parts, Job.split total threads = pure (.ok parts)) ∧
          Payload.parse action raw = .error e)
      fun _ => True := by
  refine checksFirst_of (fun e he => run_of_plan_error ?_) fun hnone s => ?_
  · unfold plan
    obtain hsplit | ⟨⟨parts, hsplit⟩, hpayload⟩ := he
    · rw [hsplit]
      rfl
    · rw [hsplit, hpayload]
      rfl
  · obtain ⟨e, hplan⟩ | ⟨tasks, hplan⟩ | hpanic := plan_cases b seeds threads total items raw action
    · exact absurd (error_of_plan_error hplan) (hnone e)
    · exact (yields_any_run hplan).ends_on_ledger s
    · rw [hpanic]
      exact Run.ends_panic nofun

end Load

namespace Populate

/-- A population with a plan has no set-up error to end with. -/
lemma yields_run {b : Config.Backend} {c : Config.Populate} {seeds : Seeds}
    {tasks : List (Thread requests Report)} (hplan : plan b c seeds = pure (.ok tasks)) :
    (run b c seeds).Yields .any SetUp := by
  unfold run
  rw [hplan, Run.pure_then]
  refine .ask trivial fun start _ => ?_
  refine Run.yields_forkAll (fun _ => trivial) (R := fun _ => True)
    (fun t _ => t.program.yields_any) (fun reports _ _ => ?_) fun reports text => ?_
  · exact .ask trivial fun stop _ => .done nofun
  · exact .ask trivial fun stop _ => .done nofun

/-- A population checks its configuration first. -/
lemma checksFirst_run (b : Config.Backend) (c : Config.Populate) (seeds : Seeds) :
    (run b c seeds).ChecksFirst (fun e => c.validate = .error e) fun _ => True := by
  refine checksFirst_of (fun e he => ?_) fun hnone s => ?_
  · unfold run plan
    rw [he]
    rfl
  · have hvalid := eq_ok_of_ne_error hnone
    obtain ⟨parts, hsplit⟩ := Partition.exists_split (validate_eq_ok_iff.1 hvalid).1
    obtain hlt | hle := Nat.lt_or_ge Job.maxBytes (c.threads * Partition.bytes)
    · rw [run_of_lt hvalid hlt]
      exact Run.ends_panic nofun
    · exact (yields_run (plan_eq_ok hvalid hsplit hle)).ends_on_ledger s

end Populate

namespace Chain

variable {b : Config.Backend} {c : Config.Chained}

lemma yields_runStage (stage : Stage) : (runStage b c stage).Yields .any SetUp := by
  unfold runStage
  refine Run.yields_ask trivial fun start _ => ?_
  refine Run.yields_then (Program.yields_reserve _ _) (fun _ _ => ?_) fun _ => nofun
  refine Run.yields_forkAll (fun _ => trivial) (R := fun _ => True)
    (fun t _ => t.program.yields_any) (fun shares _ _ => ?_) fun shares text => ?_
  · exact .ask trivial fun stop _ => .ask trivial fun runId _ => .done nofun
  · exact .ask trivial fun stop _ => .done nofun

/-- The stages of a benchmark have no set-up error to end with. -/
lemma yields_runStages (stages : List Stage) : (runStages b c stages).Yields .any SetUp := by
  induction stages with
  | nil => exact .done nofun
  | cons stage stages ih =>
    refine (yields_runStage stage).bind (fun r hr => ?_) fun _ _ => nofun
    cases r with
    | error e => exact yields_pure fun e' he => hr e' (by cases he; rfl)
    | ok summary =>
      refine ih.bind (fun r hr => ?_) fun _ _ => nofun
      cases r with
      | error e => exact yields_pure fun e' he => hr e' (by cases he; rfl)
      | ok others => exact yields_pure nofun

/-- A chained benchmark checks first whether it has any threads. -/
lemma checksFirst_run (b : Config.Backend) (c : Config.Chained) :
    (run b c).ChecksFirst (fun e => c.threads = 0 ∧ e = .zeroWorkers) fun _ => True := by
  refine checksFirst_of ?_ fun hnone s => ?_
  · rintro _ ⟨hzero, rfl⟩
    unfold run Config.Chained.validate
    rw [if_pos hzero]
  · unfold run Config.Chained.validate
    rw [if_neg fun hzero => hnone _ ⟨hzero, rfl⟩]
    exact (yields_runStages Stage.all).ends_on_ledger s

end Chain

namespace Longevity

variable {b : Config.Backend} {c : Config.Longevity} {parts : List Partition}

open Registry (aloof manners)

/-- No counter is needed to remove the containers. -/
lemma yields_removeCreated {total : Nat} (count : Nat) :
    (removeCreated b count).Yields (manners total) fun _ => True :=
  Program.yields_foldRange (fun _ _ _ => Program.yields_ask trivial fun _ _ =>
    Program.yields_pure trivial) 0 count trivial

/-- The monitor is granted every counter that it reads for the report. -/
lemma yields_report {failure : Option RunError} (hfailure : ∀ e, failure ≠ some (.setup e))
    (runId : String) (m : Monitor) (scans : Nat) (elapsed : Duration) :
    (do
      let histogram ← m.scanNow
      let counters ← Monitor.snapshot
      let workers ← Program.question (I := requests) .statuses
      removeCreated b c.totalContainers
      match failure with
      | some e => return .error e
      | none => return .ok ⟨runId, workers, counters, histogram, scans, elapsed⟩ :
        Session (Except RunError Report)).Yields (manners c.totalContainers) SetUp := by
  have hwelcome := Monitor.welcome_manners c.totalContainers
  refine Run.yields_then hwelcome.yields_scanNow (fun histogram _ => ?_) fun _ => nofun
  refine Run.yields_then hwelcome.yields_snapshot (fun counters _ => ?_) fun _ => nofun
  refine Run.yields_ask trivial fun workers _ => ?_
  refine Run.yields_then (yields_removeCreated _) (fun _ _ => ?_) fun _ => nofun
  cases failure with
  | none => exact yields_pure nofun
  | some e => exact yields_pure fun e' he => hfailure e' (by cases he; rfl)

/-- The workers and the monitor are granted every counter that they ask for, once the counters are
there. -/
lemma yields_enrolled (hsplit : Partition.split c.totalContainers c.workers = .ok parts)
    (seeds : Seeds) (epoch deadline : Duration) (runId : String) (m : Monitor) :
    (do
      let (ended, watched) ← Run.forkWatched
        (parts.map fun p => thread epoch deadline (worker b c seeds p))
        [⟨"monitor", m.watch Worker.endless 0⟩]
      let (_, workerFailure) ← settle (some ⟨"Worker panicked", some "worker"⟩) ended
      let stop ← Job.clock
      let elapsed := stop.elapsed.sub epoch
      let (scans, monitorFailure) ← settle (some ⟨"Monitor panicked", none⟩) watched
      let failure := workerFailure.or monitorFailure
      if failure.isNone ∧ stop.elapsed.nanos < deadline.nanos then
        Job.logWarning "Workers finished before the deadline" [("elapsed", elapsed.exact)]
      let histogram ← m.scanNow
      let counters ← Monitor.snapshot
      let workers ← Program.question (I := requests) .statuses
      removeCreated b c.totalContainers
      match failure with
      | some e => return .error e
      | none => return .ok ⟨runId, workers, counters, histogram, scans.sum, elapsed⟩ :
        Session (Except RunError Report)).Yields (manners c.totalContainers) SetUp := by
  rw [Run.forkWatched_bind]
  refine .fork (fun _ => True) (fun t ht => ?_) (fun t ht => ?_) fun ended watched _ _ => ?_
  · obtain ⟨p, hp, rfl⟩ := List.mem_map.1 ht
    obtain ⟨k, hk⟩ := List.mem_iff_getElem?.1 hp
    have hordered := Partition.ordered_of_split hsplit hk
    refine Worker.yields_run (w := worker b c seeds p) hordered ?_ _ _
    exact Partition.lt_total_of_split hsplit hk (Partition.contains_iff.2 ⟨hordered, le_rfl⟩)
  · obtain rfl := List.mem_singleton.1 ht
    exact Monitor.yields_watch _ _
  · refine (Run.yields_settle (fun _ => trivial) _ ended).bind ?_ fun _ _ => nofun
    rintro ⟨values, failure⟩ hsettled
    refine .ask trivial fun stop _ => ?_
    refine (Run.yields_settle (fun _ => trivial) _ watched).bind ?_ fun _ _ => nofun
    rintro ⟨scans, failure'⟩ hsettled'
    have hfailure : ∀ e, failure.or failure' ≠ some (.setup e) := fun e he =>
      (Option.or_eq_some_iff.1 he).elim (hsettled.ne_setup e) fun h => hsettled'.ne_setup e h.2
    dsimp only
    split
    · refine Run.yields_ask trivial fun _ _ => ?_
      exact yields_report hfailure runId _ _ _
    · exact yields_report hfailure runId _ _ _

/-- The run ends on a ledger without a set-up error, and no access to a counter is refused. -/
abbrev Granted {α : Type} (r : Session (Except RunError α)) (s : World (Ledger Client)) : Prop :=
  r.Ends (World.moves (Service.ledger Client)) (fun _ m _ _ => m.refusesAccess = false)
    (fun _ _ => none) (fun o _ => SetUp o) s

/-- The rule for a question of the main thread that is never refused. -/
lemma granted_ask {α : Type} {q : Request} {next : q.Answer → Session (Except RunError α)}
    {s : World (Ledger Client)}
    (hq : ∀ a, (Move.answered (I := requests) q a).refusesAccess = false)
    (hnext : ∀ a s', World.moves (Service.ledger Client) .main (.answered q a) s s' →
      Granted (next a) s') :
    Granted (liftM (Program.question (I := requests) q) >>= next) s :=
  Run.ends_asked World.responsive_ledger (fun _ => World.not_prepared) (fun a _ _ => hq a) hnext

/-- The rule for a reservation, which asks for nothing. -/
lemma granted_reserve {α : Type} {count bytes : Nat} {next : Session (Except RunError α)}
    {s : World (Ledger Client)} (hnext : Granted next s) :
    Granted (liftM (Job.reserve count bytes) >>= fun _ => next) s := by
  obtain h | h := Job.reserve_cases count bytes
  · rwa [h, Run.pure_then]
  · rw [h, Run.panic_then]
    exact Run.ends_panic nofun

/-- The run proper is granted everything, once all views are handed out. -/
lemma granted_runOn (hsplit : Partition.split c.totalContainers c.workers = .ok parts)
    (seeds : Seeds) (s : World (Ledger Client)) : Granted (runOn b c seeds parts) s := by
  unfold runOn
  refine granted_ask (q := .freshId) (fun _ => rfl) fun runId s₁ _ => granted_reserve ?_
  refine granted_ask (q := .clock) (fun _ => rfl) fun start s₂ _ => ?_
  dsimp only
  unfold Job.later
  split
  · refine granted_reserve ?_
    rw [grantViews_of_split hsplit]
    refine granted_ask (fun _ => rfl) fun _ s₃ hs₃ => ?_
    have hsize : s₃.registry.size = c.totalContainers := by
      rw [hs₃]
      exact Registry.size_new _
    exact ((yields_enrolled hsplit seeds _ _ runId _).ends World.responsive_ledger
      (Registry.kept_manners _ _) hsize).mono fun _ _ ho => ho.1
  · exact Run.ends_panic nofun

/-- So is the whole run. -/
lemma granted_run (hvalid : c.validate = .ok ()) (seeds : Seeds) (s : World (Ledger Client)) :
    Granted (run b c seeds) s := by
  obtain hlt | hle := Nat.lt_or_ge Job.maxBytes (c.workers * Partition.bytes)
  · rw [run_of_lt hvalid hlt]
    exact Run.ends_panic nofun
  obtain ⟨parts, hsplit, -⟩ := exists_split hvalid
  have hremoved : (Run.ofProgram (removeLeftovers b 0 c.totalContainers)).Ends
      (World.moves (Service.ledger Client)) (fun _ m _ _ => m.refusesAccess = false)
      (fun _ _ => none) (fun o _ => ∀ e, o ≠ .ok (.error (.setup e))) s := by
    refine Run.ends_program World.responsive_ledger (fun _ _ _ hm => And.left hm)
      ((yields_removeLeftovers (fun _ => trivial) 0 c.totalContainers).fulfils
        (Registry.kept_aloof _) .main trivial)
      (fun r s' hr e he => ?_) fun _ _ _ _ => nofun
    exact hr.1 e (Except.ok.inj he)
  unfold run
  rw [plan_eq_ok hvalid hsplit hle, Run.pure_then]
  refine hremoved.bind (fun r s' hr => ?_) fun _ _ _ => nofun
  cases r with
  | ok u => exact granted_runOn hsplit seeds s'
  | error e => exact Run.ends_pure fun e' he => hr e' (by cases he; rfl)

/-- A longevity run checks its configuration first, and no access to a counter is refused. -/
lemma checksFirst_run (c : Config.Longevity) (seeds : Seeds) :
    (run b c seeds).ChecksFirst (fun e => c.validate = .error e)
      fun m => m.refusesAccess = false := by
  refine checksFirst_of (fun e he => ?_) fun hnone s => ?_
  · unfold run plan
    rw [he]
    rfl
  · exact granted_run (eq_ok_of_ne_error hnone) seeds s

end Longevity

end Soak
