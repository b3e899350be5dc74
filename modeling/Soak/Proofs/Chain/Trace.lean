import Soak.Proofs.Chain.Stage
import Soak.Proofs.Session.Conduct

/-!
# The chained benchmark leaves no trace

A thread performs a stage for each of its operations, and makes of each of its containers what
the next stage needs (`Chain.does_operations`).  The threads of a stage are neighbours, so that
this holds however their steps mix (`Chain.ends_runStage`), and the stages follow one another to
the last one, which deletes the containers again (`Chain.run_leaves_no_trace`).
-/

namespace Soak

namespace Chain

lemma Stands.closed {b : Config.Backend} {t o : Nat} {i : Option (Option Item)} {d : Container}
    (h : Stands b t o i (some d)) : d.openHandle = none := by
  cases i with
  | none => cases h
  | some item =>
    obtain ⟨_, ⟨⟩, hclosed, -⟩ := h
    exact hclosed

/-- Shares with a number of spans each and without a failure. -/
lemma Share.join_clean {shares : List Share} {n : Nat}
    (h : ∀ share ∈ shares, share.spans.length = n ∧ share.failures = 0) :
    (shares.map Share.spans).flatten.length = shares.length * n ∧
      (shares.map Share.failures).sum = 0 :=
  ⟨Run.length_spans fun share hshare => (h share hshare).1,
    List.sum_eq_zero (by simpa using fun share hshare => (h share hshare).2)⟩

section Thread

variable {clock : Reading → Prop} {b : Config.Backend} {stage : Stage} {ops t o : Nat}
  {x : Holdings}

/-- A thread has come to operation `n` of a stage. -/
def Midway (b : Config.Backend) (stage : Stage) (t ops n : Nat) (x : Holdings) : Prop :=
  x.Midway (Naming.chainContainer t) (fun o => Stands b t o stage.before)
    (fun o => Stands b t o stage.after) 0 ops n

/-- One operation of a stage is timed once and does not fail. -/
lemma does_operation (hread : b.Readable) (ho : o < ops) (hx : Midway b stage t ops o x) :
    (tenant ops t).Does clock (FindsOpen b ops t) (operation b stage t o) x fun share y =>
      (share.spans.length = 1 ∧ share.failures = 0) ∧ Midway b stage t ops (o + 1) y := by
  have hclosed : ∀ o < ops, ∀ d, x.container (Naming.chainContainer t o) = some d →
      d.openHandle = none := fun o ho d hd => by
    have hstands := hx.containers o (Nat.zero_le o) (by omega)
    rw [hd] at hstands
    split at hstands <;> exact hstands.closed
  unfold operation
  refine (Tenant.does_timed (does_execute hread ho hx.search hclosed
    (hx.now (Nat.zero_le o) (by omega)))).bind ?_
  rintro ⟨r, span⟩ y ⟨hr, c, hafter, rfl⟩
  obtain rfl : r = .ok () := hr
  exact Tenant.does_pure ⟨⟨rfl, rfl⟩,
    hx.next (fun _ _ h => (Naming.chainContainer_inj.1 h).2) hafter⟩

/-- **A thread performs a stage for all of its operations.** -/
lemma does_operations (hread : b.Readable) (hmemory : ops * 16 ≤ Job.maxBytes)
    (hsearch : x.search = none)
    (hbefore : ∀ o < ops, Stands b t o stage.before (x.container (Naming.chainContainer t o))) :
    (tenant ops t).Does clock (FindsOpen b ops t) (operations b stage t ops) x fun share y =>
      y.search = none ∧ (share.spans.length = ops ∧ share.failures = 0) ∧
        ∀ o < ops, Stands b t o stage.after (y.container (Naming.chainContainer t o)) := by
  unfold operations Job.reserveSpans
  rw [Job.reserve_of_le hmemory]
  refine (Tenant.does_mapRange (fun share : Share => share.spans.length = 1 ∧ share.failures = 0)
    (Midway b stage t ops) (fun n y _ hn hy => does_operation hread (by omega) hy)
    (.start hsearch fun o _ ho => hbefore o (by omega))).bind ?_
  rintro shares y ⟨hlength, hclean, hy⟩
  obtain ⟨hspans, hfailures⟩ := Share.join_clean hclean
  exact Tenant.does_pure ⟨hy.search, ⟨hspans.trans (by rw [hlength, Nat.mul_one]), hfailures⟩,
    fun o ho => hy.finish (Nat.zero_le o) (by omega)⟩

end Thread

/-- The names of the containers of the benchmark. -/
def names (c : Config.Chained) : Set String :=
  {name | ∃ t < c.threads, ∃ o < c.operationsPerThread, name = Naming.chainContainer t o}

/-- The threads of a stage are neighbours. -/
lemma neighbours (c : Config.Chained) :
    World.Neighbours (tenant c.operationsPerThread) c.threads (names c) where
  client _ := rfl
  among := by
    rintro t ht _ ⟨o, ho, rfl⟩
    exact ⟨t, ht, o, ho, rfl⟩
  containers := by
    rintro j k hj hk hjk _ ⟨o, ho, rfl⟩ ⟨o', ho', heq⟩
    exact hjk (Naming.chainContainer_inj.1 heq).1
  slots _ _ _ _ _ n hn := absurd hn (Set.notMem_empty n)

/-- What every step of the benchmark keeps to: no container changes but those of the benchmark,
and who reads a page of results is a thread that has the container of one of its operations
open, and finds the item of this operation alone. -/
structure Minds (b : Config.Backend) (c : Config.Chained) (i : Client) (m : Move requests)
    (s s' : World (Shared Client)) : Prop where
  containers : ∀ name ∉ names c,
    s'.backend.store.containers[name]? = s.backend.store.containers[name]?
  pages : ∀ k n a, m = .answered (.call (.fetchNextResults k n)) a →
    ∃ t < c.threads, i = .thread t ∧ ∃ o < c.operationsPerThread,
      (∀ o' < c.operationsPerThread,
        s.backend.store.isOpen (Naming.chainContainer t o') = true ↔ o' = o) ∧ Finds b t o a

section Run

variable {b : Config.Backend} {c : Config.Chained} {stage : Stage} {st : Store} {total : Nat}
  {s s' : World (Shared Client)} {m : Move requests}

lemma Minds.of_no_call (i : Client) (hm : ∀ c a, m ≠ .answered (.call c) a)
    (hbackend : s'.backend = s.backend) : Minds b c i m s s' :=
  ⟨fun _ _ => by rw [hbackend], fun _ _ _ heq => (hm _ _ heq).elim⟩

/-- A thread that does its duty minds the containers of the others. -/
lemma Minds.of_pledge {t : Nat} (ht : t < c.threads)
    (h : ((tenant c.operationsPerThread t).duty (FindsOpen b c.operationsPerThread t)).pledge
      m s s') : Minds b c (.thread t) m s s' where
  containers name hname := h.1.containers name fun hmem => hname ((neighbours c).among t ht hmem)
  pages k n a heq := by
    obtain ⟨x, hsees, o, ho, honly, hfinds⟩ := h.2 k n a heq
    refine ⟨t, ht, rfl, o, ho, fun o' ho' => ?_, hfinds⟩
    rw [← honly o' ho', Store.isOpen, hsees.containers _ (mem_tenant ho')]
    cases x.container (Naming.chainContainer t o') <;> simp

/-- Between two stages: all containers are as they should, and there is nothing else. -/
structure Between (b : Config.Backend) (c : Config.Chained) (st : Store) (total : Nat)
    (i : Option (Option Item)) (s : World (Shared Client)) : Prop where
  leaves : s.Leaves st total (names c)
  quiet : ∀ i, s.Quiet i
  stands : ∀ t < c.threads, ∀ o < c.operationsPerThread,
    Stands b t o i s.backend.store.containers[Naming.chainContainer t o]?

/-- There is memory for the handles of the threads, and for the spans of each of them. -/
structure Fits (c : Config.Chained) : Prop where
  handles : c.threads * Job.handleBytes ≤ Job.maxBytes
  spans : c.operationsPerThread * 16 ≤ Job.maxBytes

/-- A summary counts each operation of each thread once, and no failure. -/
structure Counted (c : Config.Chained) (summary : Summary) : Prop where
  spans : summary.spans = c.threads * c.operationsPerThread
  operations : summary.operations = c.threads * c.operationsPerThread
  failures : summary.failures = 0

/-- **A stage makes of all containers what the next one needs**, however the steps of its
threads mix. -/
lemma ends_runStage (hread : b.Readable) (hmemory : Fits c)
    (hs : Between b c st total stage.before s) :
    (runStage b c stage).Ends (World.steady fun _ => True) (Minds b c) World.underway
      (fun outcome s' => ∃ summary, outcome = .ok (.ok summary) ∧ summary.label = stage.label ∧
        Counted c summary ∧ Between b c st total stage.after s') s := by
  have hclock := World.exists_reading
  have hfree : World.AllowsQuestions (Minds b c .main) := fun _ _ _ hm heq =>
    .of_no_call .main hm heq
  have hthreads : ∀ (k : Nat) (t : Thread requests Share),
      ((List.range c.threads).map (thread b stage c.operationsPerThread))[k]? = some t →
        (tenant c.operationsPerThread k).Does (fun _ => True)
          (FindsOpen b c.operationsPerThread k) t.program s.holdings fun share y =>
            y.search = none ∧
              (share.spans.length = c.operationsPerThread ∧ share.failures = 0) ∧
                ∀ o < c.operationsPerThread,
                  Stands b k o stage.after (y.container (Naming.chainContainer k o)) := by
    intro k t ht
    obtain ⟨k', hk', rfl⟩ := Option.map_eq_some_iff.1 (List.getElem?_map ▸ ht)
    obtain ⟨hlt, rfl⟩ := List.getElem?_eq_some_iff.1 hk'
    rw [List.getElem_range]
    exact does_operations hread hmemory.spans rfl (hs.stands k (by simpa using hlt))
  unfold runStage
  refine Run.ends_then hclock (World.sole_clock hfree) ?_
  rintro start s₁ ⟨-, rfl⟩
  rw [Job.reserve_of_le hmemory.handles, Run.pure_then, Run.forkAll_bind]
  refine Run.ends_fork_tenants hclock (by simpa using neighbours c) ?_ ?_ hs.leaves hs.quiet
    hthreads (by simp) ?_
  · rintro k hk m s₁ s₂ - hpledge
    exact .of_pledge (by simpa using hk) hpledge
  · rintro i m s₁ s₂ - ⟨rfl, hm⟩
    exact .of_no_call i hm rfl
  · rintro ended watched shares watches s' hshares - hlength - hleaves hquiet hends
    rw [List.length_map, List.length_range] at hlength
    refine hshares.ends_settle (Run.ends_then hclock (World.sole_clock hfree) ?_)
    rintro stop s' ⟨-, rfl⟩
    refine Run.ends_then hclock (World.sole_freshId hfree) ?_
    rintro runId s' rfl
    obtain ⟨hspans, hfailures⟩ := Share.join_clean fun share hshare => by
      obtain ⟨k, hk⟩ := List.mem_iff_getElem?.1 hshare
      obtain ⟨y, ⟨hclean, -⟩, -⟩ := hends k share hk
      exact hclean
    rw [hlength] at hspans
    refine Run.ends_pure ⟨_, rfl, rfl, ⟨hspans, hspans, hfailures⟩, hleaves, hquiet,
      fun t ht o ho => ?_⟩
    obtain ⟨y, ⟨-, hstands⟩, hsees⟩ := hends t _ (List.getElem?_eq_getElem (hlength ▸ ht))
    rw [hsees.containers _ (mem_tenant ho)]
    exact hstands o ho

/-- Stages that lead from one thing to another follow one another. -/
lemma ends_runStages (hread : b.Readable) (hmemory : Fits c) {stages : List Stage}
    {i j : Option (Option Item)} (hleads : Leads i stages j) (hs : Between b c st total i s) :
    (runStages b c stages).Ends (World.steady fun _ => True) (Minds b c) World.underway
      (fun outcome s' => ∃ summaries, outcome = .ok (.ok summaries) ∧
        summaries.map Summary.label = stages.map Stage.label ∧
          (∀ summary ∈ summaries, Counted c summary) ∧ Between b c st total j s') s := by
  induction stages generalizing i s with
  | nil =>
    cases hleads
    exact Run.ends_pure ⟨[], rfl, rfl, by simp, hs⟩
  | cons stage rest ih =>
    obtain ⟨rfl, hrest⟩ := hleads
    refine (ends_runStage hread hmemory hs).bind ?_ ?_
    · rintro _ s₁ ⟨summary, ⟨⟩, hlabel, hcounted, hs₁⟩
      refine (ih hrest hs₁).bind ?_ ?_
      · rintro _ s₂ ⟨summaries, ⟨⟩, hlabels, hall, hs₂⟩
        refine Run.ends_pure ⟨summary :: summaries, rfl, ?_, ?_, hs₂⟩
        · rw [List.map_cons, List.map_cons, hlabel, hlabels]
        · exact List.forall_mem_cons.2 ⟨hcounted, hall⟩
      · rintro message s₂ ⟨summaries, ⟨⟩, -⟩
    · rintro message s₁ ⟨summary, ⟨⟩, -⟩

/-- When nothing is left of the benchmark, the store is as it was. -/
lemma Between.restored (h : Between b c st total none s) (hst : st.Coherent)
    (habsent : ∀ name ∈ names c, st.containers[name]? = none) :
    s.backend.store.containers = st.containers ∧ s.backend.store.opened = st.opened ∧
      s.backend.store.searches = st.searches := by
  have hsame (name : String) : s.backend.store.containers[name]? = st.containers[name]? := by
    by_cases hname : name ∈ names c
    · obtain ⟨t, ht, o, ho, rfl⟩ := hname
      rw [habsent _ ⟨t, ht, o, ho, rfl⟩]
      exact h.stands t ht o ho
    · exact h.leaves.containers name hname
  refine ⟨Std.ExtTreeMap.ext_getElem? hsame, h.leaves.opened_eq hst fun name _ => ?_,
    h.leaves.searches_eq hst h.quiet⟩
  rw [Store.holder, Store.holder, hsame]

end Run

/-- **The chained benchmark is self-contained and leaves no trace.**  It starts on any store
that calls can lead to in which there is no container of the benchmark, with texts that are
JSON.  However the steps of the threads of a stage mix, it ends with a summary of each stage, in
their order, which counts every operation of every thread and no failure; each search finds the
item of its operation alone; and the containers, handles and searches are those there were
before.

There has to be memory for the handles of the threads and for the spans of each of them. -/
theorem run_leaves_no_trace {b : Config.Backend} (hread : b.Readable) {c : Config.Chained}
    (hthreads : 0 < c.threads) (hmemory : Fits c) {κ : Type} [DecidableEq κ]
    {es : List (Shared.Event κ)} {prior : Shared κ}
    (hprior : Shared.Run (.start .empty) es prior)
    (habsent : ∀ t < c.threads, ∀ o < c.operationsPerThread,
      prior.store.hasContainer (Naming.chainContainer t o) = false)
    (registry : Registry) (statuses : List Worker.Status) :
    Inevitably (World.moves (Shared.service Client)) (Minds b c)
      (fun outcome s => ∃ summaries, outcome = .ok (.ok summaries) ∧
        summaries.map Summary.label = Stage.all.map Stage.label ∧
        (∀ summary ∈ summaries, Counted c summary) ∧
        s.backend.store.containers = prior.store.containers ∧
        s.backend.store.opened = prior.store.opened ∧
        s.backend.store.searches = prior.store.searches)
      (.alone (run b c)) ⟨.start prior.store, registry, statuses⟩ := by
  have hst := ((Shared.coherent_start (ι := κ) Store.coherent_empty).run hprior).store
  have hs : Shared.Coherent (.start prior.store : Shared Client) := Shared.coherent_start hst
  have hvalid : c.validate = .ok () := if_neg hthreads.ne'
  have hnone : ∀ name ∈ names c, prior.store.containers[name]? = none := by
    rintro _ ⟨t, ht, o, ho, rfl⟩
    have hno := habsent t ht o ho
    rw [Store.hasContainer, Std.ExtTreeMap.contains_eq_isSome_getElem?] at hno
    exact Option.not_isSome_iff_eq_none.1 (ne_true_of_eq_false hno)
  have hbetween : Between b c prior.store registry.size none
      (⟨.start prior.store, registry, statuses⟩ : World (Shared Client)) :=
    ⟨World.leaves_self (s := ⟨.start prior.store, registry, statuses⟩) hs rfl,
      World.quiet_of_issued rfl, fun t ht o ho => hnone _ ⟨t, ht, o, ho, rfl⟩⟩
  have hends := ends_runStages hread hmemory leads_all hbetween
  unfold run
  rw [hvalid, ← World.steady_true]
  refine (hends.mono ?_).inevitably fun _ => rfl
  rintro outcome s ⟨summaries, rfl, hlabels, hcounted, hs'⟩
  exact ⟨summaries, rfl, hlabels, hcounted, hs'.restored hst hnone⟩

/-- Two threads with two operations each leave a foreign container that is open as it is. -/
theorem run_leaves_foreign_container :
    ∃ (es : List (Shared.Event Unit)) (prior : Shared Unit), Shared.Run (.start .empty) es prior ∧
      prior.store.isOpen "other" = true ∧
      Inevitably (World.moves (Shared.service Client)) (Minds {} ⟨2, 2⟩)
        (fun outcome s => ∃ summaries, outcome = .ok (.ok summaries) ∧ summaries.length = 13 ∧
          (∀ summary ∈ summaries, summary.spans = 4 ∧ summary.failures = 0) ∧
          s.backend.store.containers = prior.store.containers ∧
          s.backend.store.isOpen "other" = true)
        (.alone (run {} ⟨2, 2⟩)) ⟨.start prior.store, .new 0, []⟩ := by
  let creation : Call := .createContainer "other" "default" "\x7b\x7d" "\x7b\x7d"
  let opening : Call := .openContainer "other" "\x7b\x7d"
  let created : Shared Unit := { Shared.start .empty with store := (Store.empty.answer creation).2 }
  let prior := (created.take () opening).conclude () opening 1
  have hprior : Shared.Run (.start .empty) _ prior := Shared.Run.nil (.start .empty)
    |>.snoc (@Shared.Step.answered _ _ _ () creation rfl rfl)
    |>.snoc (@Shared.Step.took _ _ _ () opening rfl rfl)
    |>.snoc (@Shared.Step.concluded _ _ _ () opening 1 rfl)
  have hopen : prior.store.isOpen "other" = true := by decide
  have habsent : ∀ t < 2, ∀ o < 2,
      prior.store.hasContainer (Naming.chainContainer t o) = false := by
    decide
  refine ⟨_, prior, hprior, hopen, (run_leaves_no_trace (b := {}) (c := ⟨2, 2⟩)
    ⟨by decide +kernel, by decide +kernel⟩ (by decide) ⟨by decide, by decide⟩ hprior habsent
    (.new 0) []).mono
    (fun _ _ _ _ h => h) ?_⟩
  rintro outcome s ⟨summaries, rfl, hlabels, hcounted, hcontainers, -, -⟩
  refine ⟨summaries, rfl, ?_, fun summary hsummary => ?_, hcontainers, ?_⟩
  · have hlength := congrArg List.length hlabels
    rw [List.length_map, List.length_map] at hlength
    exact hlength
  · exact ⟨(hcounted summary hsummary).spans, (hcounted summary hsummary).failures⟩
  · rwa [Store.isOpen, hcontainers]

/-- When there is no memory for the spans of a thread, the thread panics, and the benchmark ends
with an error and without a summary.  When there is none for the handles of the threads, the main
thread does. -/
theorem run_fails_beyond_memory :
    ({} : Config.Backend).Readable ∧
      (∀ t o, Store.empty.hasContainer (Naming.chainContainer t o) = false) ∧
      ∀ c ∈ ([⟨1, 2 ^ 63⟩, ⟨2 ^ 62, 0⟩] : List Config.Chained),
        ¬ Inevitably (World.moves (Shared.service Client)) (fun _ _ _ _ => True)
          (fun outcome _ => ∃ summaries, outcome = .ok (.ok summaries) ∧ summaries.length = 13)
          (.alone (run {} c)) ⟨.start .empty, .new 0, []⟩ := by
  refine ⟨⟨by decide +kernel, by decide +kernel⟩, fun _ _ => rfl, fun c hc h => ?_⟩
  let now : Reading := ⟨.zero, default⟩
  obtain rfl | rfl : c = ⟨1, 2 ^ 63⟩ ∨ c = ⟨2 ^ 62, 0⟩ := by simpa using hc
  · have hends : Thread.EndsAs (thread {} .createContainer (2 ^ 63) 0)
        ("chained_0", .error "capacity overflow") := by
      have hprogram : operations {} .createContainer 0 (2 ^ 63) = .panic "capacity overflow" := by
        unfold operations Job.reserveSpans
        rw [Job.reserve_of_lt (by decide)]
        rfl
      unfold thread
      rw [hprogram]
      exact .panicked _ _
    have hrun : run {} ⟨1, 2 ^ 63⟩ = runStages {} ⟨1, 2 ^ 63⟩ Stage.all := rfl
    rw [hrun] at h
    -- the clock is read, the thread is forked and panics, and the clock is read again
    have h₁ := (h.step (.answered (a := now) rfl)).1
    have h₂ := (h₁.step .forks).1
    have h₃ := (h₂.step (.joins (.cons hends .nil) .nil)).1
    have h₄ := (h₃.step (.answered (a := now) rfl)).1
    obtain ⟨summaries, hsummaries, -⟩ := h₄.of_outcome rfl
    cases hsummaries
  · have hstage : runStage {} ⟨2 ^ 62, 0⟩ .createContainer =
        .ask .clock fun _ => .panic "capacity overflow" := by
      have hreserve : Job.reserve (2 ^ 62) Job.handleBytes = .panic "capacity overflow" :=
        Job.reserve_of_lt (by decide)
      unfold runStage
      rw [hreserve]
      rfl
    have hrun : run {} ⟨2 ^ 62, 0⟩ = .ask .clock fun _ => .panic "capacity overflow" := by
      show runStages {} ⟨2 ^ 62, 0⟩ (.createContainer :: _) = _
      rw [runStages, hstage]
      rfl
    rw [hrun] at h
    have started := (h.step (.answered (a := now) rfl)).1
    obtain ⟨summaries, hsummaries, -⟩ := started.of_outcome rfl
    cases hsummaries

end Chain

end Soak
