import Soak.Proofs.Longevity.Census
import Soak.Proofs.Longevity.Forecast
import Soak.Proofs.Session.Timed

/-!
# What ends in time

A worker takes one turn after another until the clock shows its deadline, and the monitor makes
one round after another until the workers have ended.  Neither is lost in its loop if this comes
before the clock has been read more often than a word counts: a turn or a round that is not the
last one reads the clock while it is not yet time (`Worker.ticking_turn`,
`Monitor.ticking_round`).

So a worker comes to its deadline and is at rest then (`Worker.run_in_time`), and the monitor
comes to its end and has only looked on (`Monitor.watch_in_time`).
-/

namespace Soak

namespace Worker

variable {ι : Type} [DecidableEq ι] {clock : Reading → Prop} {T : Timetable}
  {pages : Holdings → Except CallError Json → Prop} {x : Holdings} {w : Worker} {client : ι}
  {counters : Nat → Int} {deadline : Duration} {u : World (Shared ι) × Nat}

/-- A turn leaves the worker at rest, and nothing of it changes but its source of random
numbers. -/
lemma does_turn (hpages : ∀ x a, pages x a) (hpolicy : w.policy.validate = .ok ())
    (htop : w.policy.ceiling < 2 ^ 64) (hview : w.view.min ≤ w.view.max)
    (hrest : Rest w.backend w.view w.policy.ceiling counters x) (epoch deadline : Duration) :
    (tenant client w.backend w.view).Does clock pages (w.turn epoch deadline) x fun r y =>
      (∃ counters, Rest w.backend w.view w.policy.ceiling counters y) ∧
        ∀ w', r = some w' → ∃ rng, w' = { w with rng } := by
  unfold turn
  refine Tenant.does_clock.bind fun now y hy => hy ▸ ?_
  split
  · exact Tenant.does_pure ⟨⟨_, hrest⟩, by simp⟩
  · refine (does_iterate hpages hpolicy htop hview hrest).bind ?_
    rintro ⟨outcome, next⟩ z ⟨hr, hrest'⟩
    obtain ⟨rfl, rfl⟩ := Prod.mk.inj hr
    refine (Tenant.does_pure (P := fun aborted y => aborted =
      (w.forecast counters).result.stoppedEarly ∧ y = z) ⟨rfl, rfl⟩).bind ?_
    rintro aborted _ ⟨-, rfl⟩
    refine Tenant.does_clock.bind fun now' y hy => hy ▸ ?_
    refine (Tenant.does_record _ _ _).bind fun _ y hy => hy ▸ Tenant.does_pure ⟨⟨_, hrest'⟩, ?_⟩
    rintro _ ⟨⟩
    exact ⟨_, forecast_next w counters⟩

/-- A worker that goes on has read the clock before the deadline. -/
lemma ticking_turn (hdue : T.Due deadline) (w : Worker) (epoch : Duration) (n : Nat) :
    (w.turn epoch deadline).Fulfils T.passes Timetable.ticking
      (fun r n' => ∀ w', r = some w' → n < T.last ∧ n < n') n := by
  refine Timetable.ticking_clock fun now m hm hnow => ?_
  dsimp only
  split
  · exact Program.fulfils_pure _ (Timetable.stable_ticking 0) (Nat.zero_le _) fun _ _ => nofun
  · next hearly =>
    have hlast : m < T.last := Nat.lt_of_not_le fun hle => hearly (hdue m now hle hnow)
    exact (Timetable.fulfils_ticking _ le_rfl).mono fun r n' hn' w' _ =>
      ⟨hm.trans_lt hlast, hm.trans_lt hn'⟩

/-- **A worker comes to its deadline**, and is at rest then.  Before each turn that is not the last
one there are readings left, and there is a turn for each of them. -/
lemma turns_in_time (hpages : ∀ x a, pages x a) (hpolicy : w.policy.validate = .ok ())
    (htop : w.policy.ceiling < 2 ^ 64) (hview : w.view.min ≤ w.view.max)
    (hrest : Rest w.backend w.view w.policy.ceiling counters x) (hdue : T.Due deadline)
    (epoch : Duration) (hsees : (tenant client w.backend w.view).Sees x u.1) {fuel : Nat}
    (hfuel : T.last < u.2 + fuel) (hpos : 0 < fuel) :
    (turns epoch deadline fuel w).Fulfils (World.timed T client)
      (((tenant client w.backend w.view).duty pages).prod Timetable.ticking)
      (fun _ u => ∃ y, (∃ counters, Rest w.backend w.view w.policy.ceiling counters y) ∧
        (tenant client w.backend w.view).Sees y u.1) u := by
  induction fuel generalizing w x counters u with
  | zero => exact absurd hpos (Nat.lt_irrefl 0)
  | succ fuel ih =>
    unfold turns
    refine ((does_turn hpages hpolicy htop hview hrest epoch deadline u.1 hsees).inTime
      (ticking_turn hdue w epoch u.2)).then ?_
    rintro r u' ⟨⟨y, ⟨⟨counters', hrest'⟩, hnext⟩, hsees'⟩, htime⟩
    cases r with
    | none => exact (Tenant.does_pure ⟨_, hrest'⟩).inTime hsees'
    | some w' =>
      obtain ⟨rng, rfl⟩ := hnext w' rfl
      obtain ⟨hlast, hlater⟩ := htime _ rfl
      exact ih (w := { w with rng }) hpolicy htop hview hrest' hsees' (by omega) (by omega)

lemma run_in_time (hpages : ∀ x a, pages x a) (hpolicy : w.policy.validate = .ok ())
    (htop : w.policy.ceiling < 2 ^ 64) (hview : w.view.min ≤ w.view.max)
    (hrest : Rest w.backend w.view w.policy.ceiling counters x) (hlast : T.last < endless)
    (hdue : T.Due deadline) (epoch : Duration)
    (hsees : (tenant client w.backend w.view).Sees x u.1) :
    (w.run epoch deadline).Fulfils (World.timed T client)
      (((tenant client w.backend w.view).duty pages).prod Timetable.ticking)
      (fun _ u => ∃ y, (∃ counters, Rest w.backend w.view w.policy.ceiling counters y) ∧
        (tenant client w.backend w.view).Sees y u.1) u := by
  have hturns := turns_in_time hpages hpolicy htop hview hrest hdue epoch hsees
    (hlast.trans_le (Nat.le_add_left _ _)) (Nat.zero_lt_of_lt hlast)
  refine hturns.then ?_
  rintro _ u' ⟨y, hy, hsees'⟩
  exact (Tenant.does_statuses.bind fun _ z hz => hz ▸ Tenant.does_pure hy).inTime hsees'

end Worker

namespace Monitor

variable {clock : Reading → Prop} {T : Timetable} {i : Client} {m : Monitor}
  {pledge : Moves requests (World (Shared Client))} {panics : String → Prop}
  {s : World (Shared Client)}

lemma onlooks_snapshot : World.Onlooks clock i snapshot :=
  World.onlooks_size.bind fun _ => (World.onlooks_mapM World.onlooks_peek _).bind fun _ =>
    World.onlooks_pure _

lemma onlooks_warn (nowMs : Nat) (workers : List Worker.Status) :
    World.Onlooks clock i (warn nowMs workers) := by
  induction workers with
  | nil => exact World.onlooks_pure ()
  | cons w workers ih => exact (World.onlooks_log _).bind fun _ => ih

lemma onlooks_scanNow (hfits : m.Fits) : World.Onlooks clock i m.scanNow := by
  refine World.onlooks_clock fun now _ => ?_
  rw [scan_eq hfits]
  exact onlooks_snapshot.bind fun _ => World.onlooks_statuses.bind fun _ =>
    (onlooks_warn _ _).bind fun _ => World.onlooks_pure _

/-- One round of the monitor; whether it was the last one. -/
def round (m : Monitor) : Job Bool := do
  let now ← Job.clock
  let _ ← Job.later now.elapsed m.interval
  let ended ← Program.question (I := requests) (.pause m.interval)
  if ended then return true
  else
    let _ ← m.scanNow
    return false

lemma watch_succ (m : Monitor) (fuel scans : Nat) : m.watch (fuel + 1) scans =
    m.round >>= fun ended => if ended then pure scans else m.watch fuel (scans + 1) := by
  have hended (ended : Bool) : (if ended then pure scans else
      m.scanNow >>= fun _ => m.watch fuel (scans + 1)) =
        (if ended then pure true else m.scanNow >>= fun _ => pure false) >>= fun ended =>
          if ended then pure scans else m.watch fuel (scans + 1) := by
    cases ended with
    | true => rfl
    | false => simp
  unfold round
  rw [watch]
  simp only [bind_assoc, hended]

/-- A round only looks on. -/
lemma onlooks_round (hfits : m.Fits)
    (hfuture : ∀ now, clock now → (now.elapsed.add m.interval).secs ≤ Job.maxSeconds) :
    World.Onlooks clock i m.round := by
  refine World.onlooks_clock fun now hnow => ?_
  rw [Job.later_of_le (hfuture now hnow)]
  refine (World.onlooks_pure (now.elapsed.add m.interval)).bind fun _ => ?_
  refine (World.onlooks_pause m.interval).bind fun ended => ?_
  split
  · exact World.onlooks_pure true
  · exact (onlooks_scanNow hfits).bind fun _ => World.onlooks_pure false

/-- A monitor that goes on has read the clock before the workers have ended. -/
lemma ticking_round (m : Monitor) (n : Nat) :
    m.round.Fulfils T.passes Timetable.ticking
      (fun ended n' => ended = false → n < T.last ∧ n < n') n := by
  refine Timetable.ticking_clock fun now k hk _ => ?_
  refine (Timetable.fulfils_ticking _ (Nat.lt_succ_of_le hk)).then fun _ k' hk' => ?_
  refine Timetable.ticking_pause fun ended k'' hk'' hended => ?_
  have hlater : n < k'' := Nat.lt_of_lt_of_le hk' hk''
  cases ended with
  | true =>
    exact Program.fulfils_pure _ (Timetable.stable_ticking 0) (Nat.zero_le _) fun _ _ => nofun
  | false =>
    exact (Timetable.fulfils_ticking _ hlater).mono fun _ n' hn' _ =>
      ⟨hlater.trans (hended rfl), hn'⟩

/-- **The monitor comes to its end**, and has only looked on. -/
lemma watch_in_time (hfits : m.Fits)
    (hfuture : ∀ now, T.clock now → (now.elapsed.add m.interval).secs ≤ Job.maxSeconds)
    {fuel : Nat} {u : World (Shared Client) × Nat} (hfuel : T.last < u.2 + fuel) (hpos : 0 < fuel)
    (scans : Nat) :
    (m.watch fuel scans).Fulfils (World.timed T i) (World.onlooker.prod Timetable.ticking)
      (fun _ _ => True) u := by
  induction fuel generalizing u scans with
  | zero => exact absurd hpos (Nat.lt_irrefl 0)
  | succ fuel ih =>
    rw [watch_succ]
    refine ((onlooks_round hfits hfuture u.1).inTime (ticking_round m u.2)).then ?_
    rintro ended u' ⟨-, htime⟩
    cases ended with
    | true =>
      exact ((World.onlooks_pure scans u'.1).inTime
        (Timetable.fulfils_ticking (pure scans) le_rfl)).mono fun _ _ _ => trivial
    | false =>
      obtain ⟨hlast, hlater⟩ := htime rfl
      exact ih (by omega) (by omega) (scans + 1)

/-- When nobody else does anything, all counters are read as they are. -/
lemma sole_snapshot (hpledge : World.AllowsQuestions pledge) :
    snapshot.Fulfils (World.steady clock .main) (World.sole pledge panics)
      (fun counters s' => counters = s.registry.counters.toList ∧ s' = s) s := by
  refine (World.sole_size hpledge).then ?_
  rintro n s ⟨rfl, rfl⟩
  refine (World.sole_mapM (f := s.registry.get) (World.sole_peek hpledge) _).then ?_
  rintro values s ⟨rfl, rfl⟩
  exact World.sole_pure ⟨s.registry.filterMap_get, rfl⟩

lemma sole_warn (hpledge : World.AllowsQuestions pledge) (nowMs : Nat)
    (workers : List Worker.Status) :
    (warn nowMs workers).Fulfils (World.steady clock .main) (World.sole pledge panics)
      (fun _ s' => s' = s) s := by
  induction workers with
  | nil => exact World.sole_pure rfl
  | cons w workers ih => exact (World.sole_log hpledge _).then fun _ s' hs => hs ▸ ih

/-- When nobody else does anything, a scan reports on the counters and workers as they are. -/
lemma sole_scanNow (hfits : m.Fits)
    (hpledge : World.AllowsQuestions pledge) :
    m.scanNow.Fulfils (World.steady clock .main) (World.sole pledge panics)
      (fun r s' => (∃ nowMs, r = .ofState m.maxExpected m.staleAfter s.registry.counters.toList
        s.statuses nowMs) ∧ s' = s) s := by
  refine (World.sole_clock hpledge).then ?_
  rintro now s ⟨-, rfl⟩
  rw [scan_eq hfits]
  refine (sole_snapshot hpledge).then ?_
  rintro counters s ⟨rfl, rfl⟩
  refine (World.sole_statuses hpledge).then ?_
  rintro workers s ⟨rfl, rfl⟩
  exact (sole_warn hpledge _ _).then fun _ s' hs => hs ▸ World.sole_pure ⟨⟨_, rfl⟩, rfl⟩

end Monitor

end Soak
