import Soak.Proofs.Longevity.Deadline
import Soak.Proofs.Longevity.Removal
import Soak.Proofs.Registry.Views

/-!
# Longevity runs that clean up after themselves

A longevity run removes the containers of its range, lets the workers loose on it, and removes
what they have created.  The workers leave no container open and no search behind, however
their steps mix, so that nothing is left of the run but its report.

This takes memory for what the run lists (`Longevity.Fits`), and a clock that comes to the
deadline (`Longevity.OnTime`).
-/

namespace Soak

namespace Longevity

/-- The report covers all counters, sorts them by their values, and counts the iterations of all
workers. -/
structure Report.AddsUp (c : Config.Longevity) (r : Report) : Prop where
  counters : r.counters.length = c.totalContainers
  total : r.histogram.total = c.totalContainers
  notCreated : r.histogram.notCreated = r.counters.countP (· < 0)
  regular : r.histogram.regular =
    (List.range (c.maxItems.toNat + 1)).map fun n : Nat => r.counters.count (n : Int)
  irregular : r.histogram.irregular = r.counters.countP (c.maxItems < ·)
  iterations : r.histogram.iterations = r.iterations

lemma Report.addsUp_ofState {c : Config.Longevity} {r : Report} (hmax : 0 ≤ c.maxItems)
    (hcounters : r.counters.length = c.totalContainers) {nowMs : Nat}
    (h : r.histogram = .ofState c.maxItems c.monitor.staleAfter r.counters r.workers nowMs) :
    r.AddsUp c where
  counters := hcounters
  total := by rw [h, Monitor.Report.total_ofState, hcounters]
  notCreated := by rw [h]; rfl
  regular := by
    rw [h]
    exact Monitor.Report.histogram_eq hmax r.counters
  irregular := by
    rw [h]
    refine List.countP_congr fun v _ => ?_
    simp only [Bool.and_eq_true, decide_eq_true_eq]
    omega
  iterations := by rw [h]; rfl

variable {b : Config.Backend} {c : Config.Longevity} {parts : List Partition} {T : Timetable}
  {keeps : Client → Moves requests (World (Shared Client))} {s : World (Shared Client)}
  {u : World (Shared Client) × Nat}

/-- The tenants of a run are its workers. -/
def tenantOf (b : Config.Backend) (parts : List Partition) (k : Nat) : Tenant Client :=
  Worker.tenant (.thread k) b (parts[k]?.getD default)

/-- Workers with shares of their own are neighbours. -/
lemma neighbours_of_split (hsplit : Partition.split c.totalContainers c.workers = .ok parts) :
    World.Neighbours (tenantOf b parts) parts.length (namesIn b 0 c.totalContainers) := by
  have hapart : ∀ j k, j < parts.length → k < parts.length → j ≠ k → ∀ n,
      (parts[j]?.getD default).contains n = true → (parts[k]?.getD default).contains n ≠ true := by
    intro j k hj hk hjk n hn hn'
    have hp := List.getElem?_eq_getElem hj
    have hq := List.getElem?_eq_getElem hk
    rw [hp] at hn
    rw [hq] at hn'
    exact hjk (Partition.place_unique hsplit hp hq hn hn')
  refine ⟨fun k => rfl, ?_, ?_, fun j k hj hk hjk n hn hn' => hapart j k hj hk hjk n hn hn'⟩
  · rintro k hk name ⟨n, hn, rfl⟩
    have hp := List.getElem?_eq_getElem hk
    rw [hp] at hn
    exact mem_namesIn.2 ⟨Nat.zero_le n, Partition.lt_total_of_split hsplit hp hn⟩
  · rintro j k hj hk hjk name ⟨n, hn, rfl⟩ ⟨m, hm, heq⟩
    rw [Naming.container_inj] at heq
    exact hapart j k hj hk hjk n hn (heq ▸ hm)

/-- The share of a worker at rest. -/
def AtRest (b : Config.Backend) (c : Config.Longevity) (parts : List Partition) (k : Nat)
    (y : Holdings) : Prop :=
  ∃ counters, Worker.Rest b (parts[k]?.getD default) c.policy.ceiling counters y

/-- There is memory for the counters, for the workers, and for the histogram. -/
structure Fits (c : Config.Longevity) : Prop where
  counters : c.totalContainers * Registry.bytes ≤ Job.maxBytes
  workers : c.workers * Worker.bytes ≤ Job.maxBytes
  histogram : (c.maxItems.toNat + 1) * 8 ≤ Job.maxBytes

/-- The clock goes on showing something, and nothing so late that it could not show the end of an
interval.  It can show the deadline, which is set when it is read for the first time, and the
deadline has come before there have been more readings than a word counts. -/
structure OnTime (c : Config.Longevity) (T : Timetable) : Prop where
  shows : ∀ n, ∃ now, T.shows n now
  interval : ∀ n now, T.shows n now →
    (now.elapsed.add c.monitor.interval).secs ≤ Job.maxSeconds
  deadline : ∀ start, T.shows 0 start →
    (start.elapsed.add (c.timeLeft start.date)).secs ≤ Job.maxSeconds
  due : ∀ start, T.shows 0 start → T.Due (start.elapsed.add (c.timeLeft start.date))
  last : T.last < 2 ^ 64

/-- A worker whose containers do not exist yet is at rest when it has come to its deadline. -/
lemma thread_in_time (hvalid : c.validate = .ok ())
    (hsplit : Partition.split c.totalContainers c.workers = .ok parts) (hmemory : Fits c)
    {pages : Holdings → Except CallError Json → Prop} (hpages : ∀ x a, pages x a)
    {x : Holdings} (hsearch : x.search = none)
    (hslot : ∀ n < c.totalContainers, x.slot n = some Registry.absent)
    (habsent : ∀ n < c.totalContainers,
      x.container (Naming.container b.containerPrefix n) = none)
    (seeds : Seeds) {deadline : Duration} (hlast : T.last < 2 ^ 64) (hdue : T.Due deadline)
    (epoch : Duration) {k : Nat} {p : Partition} (hp : parts[k]? = some p)
    (hsees : (tenantOf b parts k).Sees x u.1) :
    (thread epoch deadline (worker b c seeds p)).program.Fulfils (World.timed T (.thread k))
      (((tenantOf b parts k).duty pages).prod Timetable.ticking)
      (fun _ u => ∃ y, (y.search = none ∧ AtRest b c parts k y) ∧ (tenantOf b parts k).Sees y u.1)
      u := by
  obtain ⟨-, hpolicy, hceiling⟩ := validate_eq_ok hvalid
  have hpos := Policy.ceiling_pos hpolicy
  have htop : c.policy.ceiling < 2 ^ 64 := by
    have hhistogram := hmemory.histogram
    unfold Job.maxBytes at hhistogram
    omega
  have hfresh : Worker.Rest b p c.policy.ceiling (fun _ => Registry.absent) x :=
    Worker.rest_fresh hpos.le hsearch
      (fun n hn => hslot n (Partition.lt_total_of_split hsplit hp hn))
      fun n hn => habsent n (Partition.lt_total_of_split hsplit hp hn)
  unfold tenantOf AtRest at *
  rw [hp] at hsees ⊢
  refine (Worker.run_in_time (w := worker b c seeds p) hpages hpolicy htop
    (Partition.ordered_of_split hsplit hp) hfresh hlast hdue epoch hsees).mono ?_
  rintro _ u ⟨y, ⟨counters, hrest⟩, hsees⟩
  exact ⟨y, ⟨hrest.search, counters, hrest⟩, hsees⟩

/-- So are all workers of a run on a new registry and without containers. -/
lemma workers_in_time (hvalid : c.validate = .ok ())
    (hsplit : Partition.split c.totalContainers c.workers = .ok parts) (hmemory : Fits c)
    (hregistry : u.1.registry = .new c.totalContainers)
    (habsent : ∀ name ∈ namesIn b 0 c.totalContainers, u.1.backend.store.containers[name]? = none)
    (seeds : Seeds) {deadline : Duration} (hlast : T.last < 2 ^ 64) (hdue : T.Due deadline)
    (epoch : Duration) (k : Nat) (t : Thread requests Nat)
    (ht : (parts.map fun p => thread epoch deadline (worker b c seeds p))[k]? = some t)
    (hsees : (tenantOf b parts k).Sees u.1.holdings u.1) :
    t.program.Fulfils (World.timed T (.thread k))
      (((tenantOf b parts k).duty fun _ _ => True).prod Timetable.ticking)
      (fun _ u => ∃ y, (y.search = none ∧ AtRest b c parts k y) ∧ (tenantOf b parts k).Sees y u.1)
      u := by
  rw [List.getElem?_map, Option.map_eq_some_iff] at ht
  obtain ⟨p, hp, rfl⟩ := ht
  have hslot : ∀ n < c.totalContainers, u.1.holdings.slot n = some Registry.absent := by
    intro n hn
    rw [World.holdings, hregistry]
    exact Registry.counters_new hn
  have hnone : ∀ n < c.totalContainers,
      u.1.holdings.container (Naming.container b.containerPrefix n) = none :=
    fun n hn => habsent _ (mem_namesIn.2 ⟨Nat.zero_le n, hn⟩)
  exact thread_in_time hvalid hsplit hmemory (fun _ _ => trivial) rfl hslot hnone seeds hlast hdue
    epoch hp hsees

/-- When all workers are at rest, no container is open. -/
lemma isOpen_eq_false_of_atRest
    (hsplit : Partition.split c.totalContainers c.workers = .ok parts)
    (h : ∀ k < parts.length, ∃ y, AtRest b c parts k y ∧ (tenantOf b parts k).Sees y s)
    {n : Nat} (hn : n < c.totalContainers) :
    s.backend.store.isOpen (Naming.container b.containerPrefix n) = false := by
  obtain ⟨k, p, hp, hcontains⟩ := Partition.exists_place hsplit hn
  obtain ⟨y, ⟨counters, hrest⟩, hsees⟩ := h k (List.getElem?_eq_some_iff.1 hp).1
  have hview : (parts[k]?.getD default).contains n = true := by rwa [hp]
  have hsame := hsees.containers _ ⟨n, hview, rfl⟩
  unfold Store.isOpen
  rw [hsame]
  cases hc : y.container (Naming.container b.containerPrefix n) with
  | none => rfl
  | some d => simp [hrest.closed n d hview hc]

/-- When nothing is open and nobody has a search, then all that the workers may have changed is
gone with their containers. -/
lemma lacks_of_leaves {st : Store} {total : Nat} {names : Set String} (hst : st.Coherent)
    {s' : World (Shared Client)} (hleaves : s.Leaves st total names)
    (hquiet : ∀ i, s.Quiet i) (habsent : ∀ name ∈ names, st.containers[name]? = none)
    (hclosed : ∀ name ∈ names, s.backend.store.isOpen name = false)
    (h : s.backend.store.Lacks names s'.backend.store) : st.Lacks names s'.backend.store where
  absent := h.absent
  kept name hname := (h.kept name hname).trans (hleaves.containers name hname)
  opened := by
    refine h.opened.trans (hleaves.opened_eq hst fun name hname => ?_)
    rw [Store.isOpen_eq_false_iff.1 (hclosed name hname),
      Store.isOpen_eq_false_iff.1 (Store.isOpen_of_absent (habsent name hname))]
  searches := h.searches.trans (hleaves.searches_eq hst hquiet)

/-- A run ends with a report that adds up, and what has been in a store is left of it but for the
containers of the run. -/
def Succeeds (b : Config.Backend) (c : Config.Longevity) (st : Store)
    (o : Except String (Except RunError Report)) (u : World (Shared Client) × Nat) : Prop :=
  ∃ r : Report, o = .ok (.ok r) ∧ r.AddsUp c ∧
    st.Lacks (namesIn b 0 c.totalContainers) u.1.backend.store

/-- When the workers are at rest, what they have created is removed, and the report adds up. -/
lemma ends_report (hcredentials : (Json.ofText? b.credentials).isSome) (hmax : 0 ≤ c.maxItems)
    {epoch : Duration} (hfits : (⟨c.maxItems, c.monitor.interval, c.monitor.staleAfter,
      epoch⟩ : Monitor).Fits) (hshows : ∀ n, ∃ now, T.shows n now)
    (hkeeps : ∀ i, World.AllowsChanges (namesIn b 0 c.totalContainers) (keeps i))
    (runId : String) (scans : Nat) (elapsed : Duration) (hs : u.1.backend.Coherent)
    (hsize : u.1.registry.size = c.totalContainers)
    (hclosed : ∀ n < c.totalContainers,
      u.1.backend.store.isOpen (Naming.container b.containerPrefix n) = false) :
    (do
      let histogram ← (⟨c.maxItems, c.monitor.interval, c.monitor.staleAfter,
        epoch⟩ : Monitor).scanNow
      let counters ← Monitor.snapshot
      let workers ← Program.question (I := requests) .statuses
      removeCreated b c.totalContainers
      return .ok ⟨runId, workers, counters, histogram, scans, elapsed⟩ :
      Session (Except RunError Report)).EndsInTime T keeps (Succeeds b c u.1.backend.store) u := by
  have hfree := (hkeeps .main).questions
  obtain ⟨s, n⟩ := u
  refine Run.ends_then_in_time hshows (Monitor.sole_scanNow hfits hfree) ?_
  rintro histogram ⟨s, n⟩ ⟨⟨nowMs, hhistogram⟩, rfl⟩
  refine Run.ends_then_in_time hshows (Monitor.sole_snapshot hfree) ?_
  rintro counters ⟨s, n⟩ ⟨rfl, rfl⟩
  refine Run.ends_then_in_time hshows (World.sole_statuses hfree) ?_
  rintro workers ⟨s, n⟩ ⟨rfl, rfl⟩
  refine Run.ends_then_in_time hshows
    (sole_removeCreated hcredentials _ (hkeeps .main) hs hclosed) ?_
  rintro - ⟨s', n⟩ hremoved
  exact Run.ends_pure ⟨_, rfl, Report.addsUp_ofState hmax hsize hhistogram,
    hremoved.lacks⟩

/-- The views of all workers of a run are handed out. -/
lemma grantViews_of_split {total workers : Nat}
    (hsplit : Partition.split total workers = .ok parts) :
    grantViews (.new total) parts = .ok () := by
  have hgranted : ∀ l ⊆ parts, grantViews (.new total) l = .ok () := by
    intro l hl
    induction l with
    | nil => rfl
    | cons p l ih =>
      obtain ⟨hp, hl⟩ := List.cons_subset.1 hl
      show ((Registry.new total).checkOwned p >>= fun _ => grantViews (.new total) l) = .ok ()
      rw [Registry.checkOwned_of_split hsplit hp]
      exact ih hl
  exact hgranted parts (List.Subset.refl parts)

/-- The run proper ends with a report that adds up, and leaves nothing else behind. -/
lemma ends_runOn (hcredentials : (Json.ofText? b.credentials).isSome)
    (hvalid : c.validate = .ok ())
    (hsplit : Partition.split c.totalContainers c.workers = .ok parts) (hmemory : Fits c)
    (htime : OnTime c T)
    (hkeeps : ∀ i, World.AllowsChanges (namesIn b 0 c.totalContainers) (keeps i)) (seeds : Seeds)
    (hs : s.backend.Coherent) (hissued : s.backend.issued = [])
    (habsent : ∀ name ∈ namesIn b 0 c.totalContainers,
      s.backend.store.containers[name]? = none) :
    (runOn b c seeds parts).EndsInTime T keeps (Succeeds b c s.backend.store) (s, 0) := by
  have hshows := htime.shows
  have hfree := (hkeeps .main).questions
  have hneighbours := neighbours_of_split (b := b) hsplit
  obtain ⟨-, hpolicy, hceiling⟩ := validate_eq_ok hvalid
  have hpos := Policy.ceiling_pos hpolicy
  unfold runOn
  -- the deadline is set when the clock is read for the first time
  refine Run.ends_then_at hshows (World.sole_freshId hfree) Timetable.still_freshId ?_
  rintro runId ⟨s, n⟩ (rfl : s = _) (rfl : n = 0)
  rw [Job.reserve_of_le hmemory.counters, Run.pure_then]
  refine Run.ends_then_at hshows (World.sole_clock hfree) Timetable.still_clock ?_
  rintro start ⟨s, n⟩ ⟨-, (rfl : s = _)⟩ hstart
  dsimp only
  rw [Job.later_of_le (htime.deadline start hstart), Run.pure_then,
    Partition.length_of_split hsplit, Job.reserve_of_le hmemory.workers, Run.pure_then,
    grantViews_of_split hsplit]
  refine Run.ends_then_in_time hshows (World.sole_enrol hfree _ _) ?_
  rintro - ⟨s₁, n⟩ (hs₁ : s₁ = _)
  have hbackend : s₁.backend = s.backend := by rw [hs₁]
  have hregistry : s₁.registry = .new c.totalContainers := by rw [hs₁]
  have hleaves : s₁.Leaves s₁.backend.store s₁.registry.size (namesIn b 0 c.totalContainers) :=
    World.leaves_self (hbackend ▸ hs) (hbackend ▸ hissued)
  rw [hbackend, hregistry, Registry.size_new] at hleaves
  have hquiet := World.quiet_of_issued (s := s₁) (by rw [hbackend, hissued])
  have hfits : (⟨c.maxItems, c.monitor.interval, c.monitor.staleAfter, start.elapsed⟩ :
      Monitor).Fits := hmemory.histogram
  rw [Run.forkWatched_bind]
  refine Run.ends_fork_in_time hshows (by simpa using hneighbours) ?_ ?_ hleaves hquiet
    (workers_in_time (u := (s₁, n)) hvalid hsplit hmemory hregistry (hbackend ▸ habsent) seeds
      htime.last (htime.due start hstart) start.elapsed) ?_ ?_
  · -- a worker changes only containers of its share
    rintro k hk m s₁ s₂ - ⟨hkept, -⟩
    refine hkeeps _ m s₁ s₂ fun name hname => hkept.containers name fun hmem => hname ?_
    exact hneighbours.among k (by simpa using hk) hmem
  · rintro i m s₁ s₂ - ⟨rfl, -⟩
    exact hkeeps i m s₂ s₂ fun _ _ => rfl
  · -- the monitor is the only watcher
    intro k t ht
    rw [List.getElem?_singleton] at ht
    split at ht <;> cases ht
    refine Monitor.watch_in_time hfits ?_ (htime.last.trans_le (Nat.le_add_left _ _)) (by decide) 0
    rintro now ⟨n, hnow⟩
    exact htime.interval n now hnow
  · rintro ended watched values watches ⟨s', n⟩ hvalues hwatches hlength - hleaves' hquiet' hrest
    have hclosed : ∀ n < c.totalContainers,
        s'.backend.store.isOpen (Naming.container b.containerPrefix n) = false :=
      fun n hn => isOpen_eq_false_of_atRest hsplit (fun k hk => hrest k _
        (List.getElem?_eq_getElem (by rw [hlength]; simpa using hk))) hn
    refine hvalues.ends_settle (Run.ends_then_in_time hshows (World.sole_clock hfree) ?_)
    rintro stop ⟨s', n⟩ ⟨-, rfl⟩
    refine hwatches.ends_settle ?_
    have hreport (n : Nat) := ends_report (u := (s', n)) hcredentials (le_trans (by omega) hceiling)
      hfits hshows hkeeps runId watches.sum (stop.elapsed.sub start.elapsed) hleaves'.coherent
      hleaves'.size hclosed
    have hsucceeds : ∀ o u₂, Succeeds b c s'.backend.store o u₂ →
        Succeeds b c s.backend.store o u₂ := by
      rintro o u₂ ⟨r, ho, hr, hlacks⟩
      refine ⟨r, ho, hr, lacks_of_leaves hs.store hleaves' hquiet' habsent ?_ hlacks⟩
      rintro name ⟨n, -, hn, rfl⟩
      exact hclosed n hn
    dsimp only
    split
    · refine Run.ends_then_in_time hshows (World.sole_log hfree _) ?_
      rintro - ⟨s', n⟩ rfl
      exact (hreport n).mono hsucceeds
    · exact (hreport n).mono hsucceeds

/-- All that is asked before the run proper are calls, and their failures are not those of a
set-up. -/
lemma yields_removeLeftovers {mn : Manners requests} (hcall : ∀ c, mn.asks (.call c))
    (number count : Nat) :
    (removeLeftovers b number count).Yields mn fun r => ∀ e, r ≠ .error (.setup e) := by
  induction count generalizing number with
  | zero => exact .done nofun
  | succ count ih =>
    refine Program.yields_ask (hcall _) fun removed _ => ?_
    cases removed with
    | ok u => exact ih _
    | error e =>
      dsimp only
      split
      · exact ih _
      · exact .done nofun

section Run

variable (keeps)

/-- Without credentials that are a JSON text, a run fails on the first container. -/
lemma ends_run_of_unreadable (hvalid : c.validate = .ok ())
    (hpartitions : c.workers * Partition.bytes ≤ Job.maxBytes)
    (hnot : ¬ (Json.ofText? b.credentials).isSome) (hshows : ∀ n, ∃ now, T.shows n now)
    (hkeeps : World.AllowsChanges (namesIn b 0 c.totalContainers) (keeps .main)) (seeds : Seeds)
    (hs : u.1.backend.Coherent) :
    (run b c seeds).EndsInTime T keeps
      (fun o u' => o = .ok (.error (.cleanup (Naming.container b.containerPrefix 0)
        (.invalidStructure .credentials))) ∧ u'.1 = u.1) u := by
  obtain ⟨parts, hsplit, hpos⟩ := exists_split hvalid
  unfold run
  rw [plan_eq_ok hvalid hsplit hpartitions, Run.pure_then]
  refine Run.ends_then_in_time hshows (sole_removeLeftovers_of_unreadable hnot hpos
    (by simpa using hkeeps) hs) ?_
  rintro _ u' ⟨rfl, hsame⟩
  exact Run.ends_pure ⟨rfl, hsame⟩

/-- When a container of the range is open, a run fails on the first one that is. -/
lemma ends_run_of_open (hvalid : c.validate = .ok ())
    (hpartitions : c.workers * Partition.bytes ≤ Job.maxBytes)
    (hcredentials : (Json.ofText? b.credentials).isSome) (hshows : ∀ n, ∃ now, T.shows n now)
    (hkeeps : World.AllowsChanges (namesIn b 0 c.totalContainers) (keeps .main)) (seeds : Seeds)
    (hs : u.1.backend.Coherent) {i : Nat} (hi : i < c.totalContainers)
    (hopen : u.1.backend.store.isOpen (Naming.container b.containerPrefix i) = true)
    (hclosed : ∀ j < i,
      u.1.backend.store.isOpen (Naming.container b.containerPrefix j) = false) :
    (run b c seeds).EndsInTime T keeps
      (fun o u' => o = .ok (.error (.cleanup (Naming.container b.containerPrefix i)
        (.containerAlreadyOpen (Naming.container b.containerPrefix i)))) ∧
          Removed (namesIn b 0 i) u.1 u'.1) u := by
  obtain ⟨parts, hsplit, hpos⟩ := exists_split hvalid
  unfold run
  rw [plan_eq_ok hvalid hsplit hpartitions, Run.pure_then]
  refine Run.ends_then_in_time hshows (sole_removeLeftovers hcredentials _
    (by simpa using hkeeps) hs) ?_
  rintro r u' hpurged
  obtain ⟨rfl, removed⟩ := hpurged.of_open ⟨Nat.zero_le i, by omega⟩ hopen fun j _ => hclosed j
  exact Run.ends_pure ⟨rfl, removed⟩

/-- When no container of the range is open, a run ends with a report. -/
lemma ends_run (hvalid : c.validate = .ok ())
    (hpartitions : c.workers * Partition.bytes ≤ Job.maxBytes)
    (hcredentials : (Json.ofText? b.credentials).isSome) (hmemory : Fits c) (htime : OnTime c T)
    (hkeeps : ∀ i, World.AllowsChanges (namesIn b 0 c.totalContainers) (keeps i)) (seeds : Seeds)
    (hs : s.backend.Coherent) (hissued : s.backend.issued = [])
    (hclosed : ∀ i < c.totalContainers,
      s.backend.store.isOpen (Naming.container b.containerPrefix i) = false) :
    (run b c seeds).EndsInTime T keeps (Succeeds b c s.backend.store) (s, 0) := by
  have htimeless : (removeLeftovers b 0 c.totalContainers).Fulfils T.passes Timetable.still
      (fun _ n => n = 0) 0 :=
    Timetable.still_of_yields (yields_removeLeftovers (fun c (h : Request.call c = .clock) =>
      nomatch h) 0 c.totalContainers)
  obtain ⟨parts, hsplit, hpos⟩ := exists_split hvalid
  unfold run
  rw [plan_eq_ok hvalid hsplit hpartitions, Run.pure_then]
  refine Run.ends_then_at htime.shows (sole_removeLeftovers hcredentials _
    (by simpa using hkeeps .main) hs) htimeless ?_
  rintro r ⟨s', n⟩ hpurged (rfl : n = 0)
  rw [Nat.zero_add] at hpurged
  obtain ⟨rfl, removed⟩ := hpurged.of_closed fun n _ => hclosed n
  have hsame : s' = s.after s'.backend.store := removed.after
  have hissued' : s'.backend.issued = [] := by
    rw [hsame]
    exact hissued
  refine (ends_runOn hcredentials hvalid hsplit hmemory htime hkeeps
    seeds removed.coherent hissued' removed.lacks.absent).mono ?_
  rintro o u ⟨r, ho, hr, hlacks⟩
  exact ⟨r, ho, hr, Set.union_self (namesIn b 0 c.totalContainers) ▸ removed.lacks.trans hlacks⟩

end Run

/-- **A longevity run cleans up after itself, and touches nothing else.**  It starts on any store
that calls can lead to, and its threads' steps mix in any order.  If the credentials are not a
JSON text, it fails on the first container and leaves the store as it is.  If a container of the
range is open, it fails on the first such one before any thread is started; those before it are
gone then, and nothing else has changed.  Otherwise it ends with a report that adds up, and leaves
the store as it was without the containers of the range.

There has to be memory for the list of the partitions, and for the run proper.  The clock has to
come to the deadline, and to be able to show it. -/
theorem run_cleans_up {b : Config.Backend} {c : Config.Longevity} (hvalid : c.validate = .ok ())
    (hpartitions : c.workers * Partition.bytes ≤ Job.maxBytes)
    {κ : Type} [DecidableEq κ] {es : List (Shared.Event κ)} {prior : Shared κ}
    (hprior : Shared.Run (.start .empty) es prior) {T : Timetable} (htime : OnTime c T)
    (seeds : Seeds) (registry : Registry) (statuses : List Worker.Status) :
    (¬ (Json.ofText? b.credentials).isSome →
      Inevitably (World.timed T) (fun i _ _ _ => i = .main)
        (fun o u => o = .ok (.error (.cleanup (Naming.container b.containerPrefix 0)
          (.invalidStructure .credentials))) ∧ u.1.backend.store = prior.store)
        (.alone (run b c seeds)) (⟨.start prior.store, registry, statuses⟩, 0)) ∧
    ((Json.ofText? b.credentials).isSome → ∀ i < c.totalContainers,
      prior.store.isOpen (Naming.container b.containerPrefix i) = true →
      (∀ j < i, prior.store.isOpen (Naming.container b.containerPrefix j) = false) →
      Inevitably (World.timed T) (fun i _ _ _ => i = .main)
        (fun o u => o = .ok (.error (.cleanup (Naming.container b.containerPrefix i)
            (.containerAlreadyOpen (Naming.container b.containerPrefix i)))) ∧
          prior.store.Lacks (namesIn b 0 i) u.1.backend.store ∧
          u.1.backend.store.nextHandle = prior.store.nextHandle)
        (.alone (run b c seeds)) (⟨.start prior.store, registry, statuses⟩, 0)) ∧
    ((Json.ofText? b.credentials).isSome → Fits c →
      (∀ i < c.totalContainers,
        prior.store.isOpen (Naming.container b.containerPrefix i) = false) →
      Inevitably (World.timed T)
        (fun _ _ u u' => ∀ name ∉ namesIn b 0 c.totalContainers,
          u'.1.backend.store.containers[name]? = u.1.backend.store.containers[name]?)
        (fun o u => ∃ r : Report, o = .ok (.ok r) ∧ r.AddsUp c ∧
          prior.store.Lacks (namesIn b 0 c.totalContainers) u.1.backend.store)
        (.alone (run b c seeds)) (⟨.start prior.store, registry, statuses⟩, 0)) := by
  have hst := ((Shared.coherent_start (ι := κ) Store.coherent_empty).run hprior).store
  have hs : Shared.Coherent (.start prior.store : Shared Client) := Shared.coherent_start hst
  have hfree : ∀ i, World.underway i (⟨.start prior.store, registry, statuses⟩ :
      World (Shared Client)) = none := fun _ => rfl
  refine ⟨fun hnot => ?_, fun hcredentials i hi hopen hclosed => ?_,
    fun hcredentials hmemory hclosed => ?_⟩
  · refine ((ends_run_of_unreadable (fun i _ _ _ => i = .main) hvalid hpartitions hnot htime.shows
      (fun _ _ _ _ => rfl) seeds hs).inevitably hfree).mono (fun _ _ _ _ h => h) ?_
    rintro o u ⟨ho, hsame⟩
    exact ⟨ho, by rw [hsame]; rfl⟩
  · refine ((ends_run_of_open (fun i _ _ _ => i = .main) hvalid hpartitions hcredentials htime.shows
      (fun _ _ _ _ => rfl) seeds hs hi hopen hclosed).inevitably hfree).mono
        (fun _ _ _ _ h => h) ?_
    rintro o u ⟨ho, hremoved⟩
    exact ⟨ho, hremoved.lacks, hremoved.nextHandle⟩
  · exact (ends_run _ hvalid hpartitions hcredentials hmemory htime (fun _ _ _ _ h => h) seeds hs
      rfl hclosed).inevitably hfree

/-- The clock is twenty seconds later at each reading, until a minute has passed. -/
def hasty : Timetable where
  shows n now := now.elapsed = .ofSecs (min (20 * n) 60)
  last := 3

/-- The deadline of a run of one minute comes at the fourth reading of such a clock. -/
lemma onTime_hasty {c : Config.Longevity} (hleft : ∀ date, c.timeLeft date = .ofSecs 60)
    (hinterval : c.monitor.interval = .ofSecs 30) : OnTime c hasty := by
  have hat {n : Nat} {now : Reading} (h : hasty.shows n now) :
      now.elapsed = .ofSecs (min (20 * n) 60) := h
  refine ⟨fun n => ⟨⟨_, default⟩, rfl⟩, fun n now h => ?_, fun start h => ?_,
    fun start h n now hn h' => ?_, by decide⟩
  · rw [hat h, hinterval]
    simp only [Duration.ofSecs, Duration.ofParts, Duration.add, Duration.secs, Job.maxSeconds]
    omega
  · rw [hat h, hleft]
    decide
  · rw [hat h, hat h', hleft, min_eq_right (show 60 ≤ 20 * n by
      have : 3 ≤ n := hn
      omega)]
    decide

/-- A container that an earlier run has left is removed, and a foreign one that is open stays so.
The clock comes to the deadline in the meantime. -/
theorem run_cleans_up_leftover :
    ∃ (es : List (Shared.Event Unit)) (prior : Shared Unit), Shared.Run (.start .empty) es prior ∧
      prior.store.hasContainer "wallet_1" = true ∧ prior.store.isOpen "other" = true ∧
      Inevitably (World.timed hasty) (fun _ _ _ _ => True)
        (fun o u => ∃ r : Report, o = .ok (.ok r) ∧ r.counters.length = 2 ∧
          u.1.backend.store.containers["wallet_1"]? = none ∧
          u.1.backend.store.isOpen "other" = true)
        (.alone (run {} { totalContainers := 2, workers := 2 } ⟨5⟩))
        (⟨.start prior.store, .new 0, []⟩, 0) := by
  let c : Config.Longevity := { totalContainers := 2, workers := 2 }
  let creation (name : String) : Call := .createContainer name "default" "\x7b\x7d" "\x7b\x7d"
  let opening : Call := .openContainer "other" "\x7b\x7d"
  let answered (s : Shared Unit) (call : Call) : Shared Unit :=
    { s with store := (s.store.answer call).2 }
  let created := answered (answered (.start .empty) (creation "wallet_1")) (creation "other")
  let prior := (created.take () opening).conclude () opening 1
  have hprior : Shared.Run (.start .empty) _ prior := Shared.Run.nil (.start .empty)
    |>.snoc (@Shared.Step.answered _ _ _ () (creation "wallet_1") rfl rfl)
    |>.snoc (@Shared.Step.answered _ _ _ () (creation "other") rfl rfl)
    |>.snoc (@Shared.Step.took _ _ _ () opening rfl rfl)
    |>.snoc (@Shared.Step.concluded _ _ _ () opening 1 rfl)
  have hclosed : ∀ i < c.totalContainers,
      prior.store.isOpen (Naming.container "wallet_" i) = false := by
    decide
  obtain ⟨-, -, hrun⟩ := run_cleans_up (b := {}) (c := c) (by decide) (by decide) hprior
    (onTime_hasty (c := c) (fun _ => rfl) rfl) ⟨5⟩ (.new 0) []
  refine ⟨_, prior, hprior, by decide, by decide,
    (hrun (by decide +kernel) ⟨by decide, by decide, by decide⟩ hclosed).mono
      (fun _ _ _ _ _ => trivial) ?_⟩
  rintro o u ⟨r, rfl, hr, hlacks⟩
  have hmine : "wallet_1" ∈ namesIn {} 0 c.totalContainers :=
    mem_namesIn (n := 1).2 ⟨by decide, by decide⟩
  have hother : "other" ∉ namesIn {} 0 c.totalContainers := by
    rintro ⟨n, -, hn, heq⟩
    have h01 : n = 0 ∨ n = 1 := by
      have : n < 2 := hn
      omega
    rcases h01 with rfl | rfl
    · exact absurd heq (by decide)
    · exact absurd heq (by decide)
  exact ⟨r, rfl, hr.counters, hlacks.absent _ hmine, (hlacks.isOpen_eq hother).trans (by decide)⟩

/-- The clock stands still, and whoever pauses is told at once that the wait is over. -/
def standing : Timetable where
  shows _ now := now.elapsed = .zero
  last := 0

lemma at_zero {n : Nat} : standing.shows n ⟨.zero, default⟩ :=
  rfl

/-- The deadline of a run of no length has always come. -/
lemma onTime_standing (hleft : ∀ date, c.timeLeft date = .zero)
    (hinterval : c.monitor.interval.secs ≤ Job.maxSeconds) : OnTime c standing := by
  have hat {n : Nat} {now : Reading} (h : standing.shows n now) : now.elapsed = .zero := h
  have hzero (d : Duration) : Duration.zero.add d = d :=
    congrArg Duration.mk (Nat.zero_add d.nanos)
  refine ⟨fun n => ⟨⟨.zero, default⟩, rfl⟩, fun n now h => ?_, fun start h => ?_,
    fun start h n now _ h' => ?_, by decide⟩
  · rwa [hat h, hzero]
  · rw [hat h, hzero, hleft]
    decide
  · rw [hat h, hat h', hzero, hleft]

/-- A monitor that finds at once that the workers have ended makes no scan. -/
lemma watched_at_once {α β : Type} {keeps : Client → Moves requests (World (Shared Client) × Nat)}
    {Q : Except String α → World (Shared Client) × Nat → Prop}
    {threads : List (Thread requests β)} {m : Monitor}
    {resume : List (Ended β) → List (Ended Nat) → Session α} {n : Nat}
    (h : Inevitably (World.timed standing) keeps Q
      (.forked threads [⟨"monitor", m.watch Worker.endless 0⟩] resume) (s, n))
    (hfuture : (Duration.zero.add m.interval).secs ≤ Job.maxSeconds) :
    Inevitably (World.timed standing) keeps Q (.forked threads [⟨"monitor", .done 0⟩] resume)
      (s, n + 1) := by
  obtain ⟨fuel, hfuel⟩ : ∃ fuel, Worker.endless = fuel + 1 := ⟨2 ^ 64 - 1, rfl⟩
  have hwatch : m.watch (fuel + 1) 0 = .ask .clock fun now =>
      Job.later now.elapsed m.interval >>= fun _ => .ask (.pause m.interval) fun ended =>
        if ended then .done 0 else m.scanNow >>= fun _ => m.watch fuel 1 := rfl
  rw [hfuel, hwatch] at h
  have asked := (h.step (.watcher (k := 0) rfl (.answered (World.timed_clock at_zero)))).1
  dsimp only at asked
  rw [Job.later_of_le hfuture] at asked
  exact (asked.step (.watcher (k := 0) rfl (.answered (a := true) ⟨rfl, nofun, rfl⟩))).1

/-- One with more partitions than there can be memory for. -/
def crowded : Config.Longevity where
  totalContainers := 2 ^ 60
  workers := 2 ^ 60
  duration := .zero

/-- When there is no memory for the histogram, then the scan at the end panics on the main thread,
and the run ends without a report.  When there is none for the list of the partitions, the run
panics before it calls the store. -/
theorem run_panics_beyond_memory :
    (vast.validate = .ok () ∧ (Json.ofText? "\x7b\x7d").isSome ∧ OnTime vast standing ∧
      ¬ Inevitably (World.timed standing) (fun _ _ _ _ => True)
        (fun o _ => ∃ r : Report, o = .ok (.ok r))
        (.alone (run { credentials := "\x7b\x7d" } vast ⟨3⟩)) (⟨.start .empty, .new 0, []⟩, 0)) ∧
    crowded.validate = .ok () ∧ ¬ (Json.ofText? "\x7b").isSome ∧ OnTime crowded standing ∧
      ¬ Inevitably (World.timed standing) (fun _ _ _ _ => True)
        (fun o _ => ∃ name e, o = .ok (.error (.cleanup name e)))
        (.alone (run { credentials := "\x7b" } crowded ⟨3⟩)) (⟨.start .empty, .new 0, []⟩, 0) := by
  refine ⟨⟨rfl, by decide +kernel, onTime_standing (fun _ => rfl) (by decide), fun h => ?_⟩,
    by decide +kernel, by decide +kernel, onTime_standing (fun _ => rfl) (by decide), fun h => ?_⟩
  · have hplan : plan vast = pure (.ok [⟨0, 0, 0⟩]) := plan_eq_ok rfl rfl (by decide)
    unfold run at h
    rw [hplan, Run.pure_then] at h
    -- there is nothing to remove, and the run proper starts
    have purged := (h.step (.answered (World.timed_of_moves (q := .call _) nofun nofun
      ⟨_, .answered rfl rfl, rfl⟩))).1
    have named := (purged.step (.answered (World.timed_of_moves (q := .freshId) (a := "")
      nofun nofun rfl))).1
    have started := (named.step (.answered (World.timed_clock at_zero))).1
    have enrolled := (started.step (.answered (World.timed_of_moves (q := .enrol _ _)
      (a := ()) nofun nofun rfl))).1
    have forked := watched_at_once (enrolled.step .forks).1 (by decide)
    -- the deadline of the worker has passed
    have late := (forked.step (.thread (k := 0) rfl (.answered (World.timed_clock at_zero)))).1
    have counted := (late.step (.thread (k := 0) rfl
      (.answered (World.timed_of_moves (q := .statuses) nofun nofun ⟨rfl, rfl⟩)))).1
    have joined := (counted.step (.joins (.cons (.done _ _) .nil) (.cons (.done _ _) .nil))).1
    -- the clock is read for the time that the run took, and once more for the scan
    have stopped := (joined.step (.answered (World.timed_clock at_zero))).1
    have scanned := (stopped.step (.answered (World.timed_clock at_zero))).1
    obtain ⟨r, hr⟩ := scanned.of_outcome rfl
    cases hr
  · rw [run_of_lt (by decide +kernel) (by decide)] at h
    obtain ⟨name, e, hfailed⟩ := h.of_outcome rfl
    cases hfailed

end Longevity

end Soak
