import Soak.Proofs.Load.Filling
import Soak.Proofs.Longevity.Removal

/-!
# Populations

The threads of a population share out the containers, each of which has a range of them for
itself.  However their steps mix, every container comes out as it is drawn for its number, and
nothing else changes (`Populate.run_builds_data_set`).

`Load.ends_partitions` is the rule for threads that share out containers; load runs follow it
as well.
-/

namespace Soak

namespace Load

open Longevity (namesIn mem_namesIn)

/-! ### The threads of a run -/

/-- What belongs to a thread: the containers of its partition, counted from one. -/
def tenantOf (b : Config.Backend) (parts : List Partition) (k : Nat) : Tenant Client where
  client := .thread k
  names := namesIn b ((parts[k]?.getD default).min + 1)
    ((parts[k]?.getD default).min + 1 + (parts[k]?.getD default).size)
  slots := ∅

variable {b : Config.Backend} {total threads : Nat} {parts : List Partition}

/-- There is memory for the names and handles of the threads of a load run, and for the spans of
each of them. -/
structure Fits (total threads : Nat) : Prop where
  handles : threads * Job.namedHandleBytes ≤ Job.maxBytes
  spans : total / threads * 16 ≤ Job.maxBytes

/-- A partition takes less than a name with a handle. -/
lemma Fits.partitions (h : Fits total threads) : threads * Partition.bytes ≤ Job.maxBytes :=
  (Nat.mul_le_mul_left threads (by decide)).trans h.handles

/-- With memory for the partitions, a load run whose payload makes sense has a plan. -/
lemma plan_eq_ok {action : Action} {seeds : Seeds} {items : Nat} {raw : String}
    {payload : Payload} (hsplit : Partition.split total threads = .ok parts)
    (hmemory : threads * Partition.bytes ≤ Job.maxBytes)
    (hpayload : Payload.parse action raw = .ok payload) :
    plan b seeds threads total items raw action =
      pure (.ok (parts.map (thread b seeds payload items action))) := by
  unfold plan
  rw [Job.split_of_le hsplit hmemory, hpayload]
  rfl

/-- Without memory for the partitions, a load run comes to nothing. -/
lemma run_of_lt {action : Action} {seeds : Seeds} {items : Nat} {raw : String}
    (heven : Partition.checkEven total threads = .ok ())
    (hmemory : Job.maxBytes < threads * Partition.bytes) :
    run b seeds threads total items raw action = .panic "capacity overflow" := by
  obtain ⟨parts, hsplit⟩ := Partition.exists_split heven
  unfold run plan
  rw [Job.split_of_lt hsplit hmemory]
  rfl

/-- The numbers of a partition, counted from one. -/
lemma mem_range_iff (hsplit : Partition.split total threads = .ok parts) {k n : Nat}
    {p : Partition} (hp : parts[k]? = some p) :
    p.min + 1 ≤ n ∧ n < p.min + 1 + p.size ↔ 1 ≤ n ∧ p.contains (n - 1) = true := by
  have hordered := Partition.ordered_of_split hsplit hp
  rw [Partition.contains_iff, Partition.size]
  omega

/-- The containers of a partition belong to the thread that has it. -/
lemma namesIn_subset_names {k : Nat} {p : Partition} (hp : parts[k]? = some p) :
    namesIn b (p.min + 1) (p.min + 1 + p.size) ⊆ (tenantOf b parts k).names := by
  simp [tenantOf, hp]

/-- Threads that share out the containers are neighbours. -/
lemma neighbours_of_split (hsplit : Partition.split total threads = .ok parts) :
    World.Neighbours (tenantOf b parts) parts.length (namesIn b 1 (total + 1)) := by
  refine ⟨fun k => rfl, ?_, ?_, fun _ _ _ _ _ n hn => absurd hn (Set.notMem_empty n)⟩
  · rintro k hk _ ⟨n, hn, hlt, rfl⟩
    have hp := List.getElem?_eq_getElem hk
    rw [hp] at hn hlt
    obtain ⟨hn1, hcontains⟩ := (mem_range_iff hsplit hp).1 ⟨hn, hlt⟩
    have htotal := Partition.lt_total_of_split hsplit hp hcontains
    exact mem_namesIn.2 ⟨hn1, by omega⟩
  · rintro j k hj hk hjk _ ⟨n, hn, hlt, rfl⟩ hmem
    have hmem := mem_namesIn.1 hmem
    have hp := List.getElem?_eq_getElem hj
    have hq := List.getElem?_eq_getElem hk
    rw [hp] at hn hlt
    rw [hq] at hmem
    exact hjk (Partition.place_unique hsplit hp hq ((mem_range_iff hsplit hp).1 ⟨hn, hlt⟩).2
      ((mem_range_iff hsplit hq).1 hmem).2)

section Run

variable {α β : Type} {st : Store} {slots : Nat} {s : World (Shared Client)}
  {Q : Except String α → World (Shared Client) → Prop}

/-- **Threads that share out the containers** leave the store with all that each of them leaves its
own containers with, however their steps mix. -/
lemma ends_shares (hsplit : Partition.split total threads = .ok parts)
    {thread : Partition → Thread requests β} {V : Partition → β → Holdings → Prop}
    {resume : List (Ended β) → Session α}
    (hleaves : s.Leaves st slots (namesIn b 1 (total + 1))) (hquiet : ∀ i, s.Quiet i)
    (hthreads : ∀ (k : Nat) (p : Partition), parts[k]? = some p →
      (tenantOf b parts k).Does (fun _ => True) (fun _ _ => True) (thread p).program s.holdings
        fun a y => y.search = none ∧ V p a y)
    (hjoin : ∀ ended values s', Run.Values ended values → values.length = parts.length →
      s'.Leaves st slots (namesIn b 1 (total + 1)) → (∀ i, s'.Quiet i) →
      (∀ (k : Nat) (p : Partition) (a : β), parts[k]? = some p → values[k]? = some a →
        ∃ y, V p a y ∧ ∀ n, p.min + 1 ≤ n → n < p.min + 1 + p.size →
          s'.backend.store.containers[Naming.container b.containerPrefix n]? =
            y.container (Naming.container b.containerPrefix n)) →
      (resume ended).Ends (World.steady fun _ => True) (fun _ _ _ _ => True) World.underway Q s') :
    (Run.forkAll (parts.map thread) >>= resume).Ends (World.steady fun _ => True)
      (fun _ _ _ _ => True) World.underway Q s := by
  have hclock := World.exists_reading
  have hdoes : ∀ (k : Nat) (t : Thread requests β), (parts.map thread)[k]? = some t →
      (tenantOf b parts k).Does (fun _ => True) (fun _ _ => True) t.program s.holdings fun a y =>
        y.search = none ∧ ∃ p, parts[k]? = some p ∧ V p a y := by
    intro k t ht
    obtain ⟨p, hp, rfl⟩ := Option.map_eq_some_iff.1 (List.getElem?_map ▸ ht)
    exact (hthreads k p hp).mono fun a y hy => ⟨hy.1, p, hp, hy.2⟩
  rw [Run.forkAll_bind]
  refine Run.ends_fork_tenants hclock (by simpa using neighbours_of_split hsplit)
    (fun _ _ _ _ _ _ _ => trivial) (fun _ _ _ _ _ _ => trivial) hleaves hquiet hdoes
    (by simp) ?_
  rintro ended watched values watches s' hvalues - hlength - hleaves' hquiet' hends
  rw [List.length_map] at hlength
  refine hjoin ended values s' hvalues hlength hleaves' hquiet' fun k p a hp ha => ?_
  obtain ⟨y, ⟨p', hp', hV⟩, hsees⟩ := hends k a ha
  obtain rfl := Option.some.inj (hp.symm.trans hp')
  refine ⟨y, hV, fun n hn hlt => hsees.containers _ (namesIn_subset_names hp ?_)⟩
  exact mem_namesIn.2 ⟨hn, hlt⟩

/-- The thread that has a container, and its value. -/
lemma exists_share (hsplit : Partition.split total threads = .ok parts) {values : List β}
    (hlength : values.length = parts.length) {n : Nat} (hn : 1 ≤ n) (hle : n ≤ total) :
    ∃ (k : Nat) (p : Partition) (a : β), parts[k]? = some p ∧ values[k]? = some a ∧
      p.min + 1 ≤ n ∧ n < p.min + 1 + p.size := by
  obtain ⟨k, p, hp, hcontains⟩ := Partition.exists_place hsplit (show n - 1 < total by omega)
  have hk : k < values.length := hlength ▸ (List.getElem?_eq_some_iff.1 hp).1
  exact ⟨k, p, _, hp, List.getElem?_eq_getElem hk, (mem_range_iff hsplit hp).2 ⟨hn, hcontains⟩⟩

/-- So they leave all of the containers as each of them leaves its own. -/
lemma ends_partitions (hsplit : Partition.split total threads = .ok parts)
    (before after : Nat → Option Container → Prop) {thread : Partition → Thread requests β}
    {V : Partition → β → Prop} {resume : List (Ended β) → Session α}
    (hleaves : s.Leaves st slots (namesIn b 1 (total + 1))) (hquiet : ∀ i, s.Quiet i)
    (hbefore : ∀ n, 1 ≤ n → n ≤ total →
      before n s.backend.store.containers[Naming.container b.containerPrefix n]?)
    (hthreads : ∀ (k : Nat) (p : Partition) (x : Holdings), parts[k]? = some p → x.search = none →
      (∀ n, p.min + 1 ≤ n → n < p.min + 1 + p.size →
        before n (x.container (Naming.container b.containerPrefix n))) →
      (tenantOf b parts k).Does (fun _ => True) (fun _ _ => True) (thread p).program x fun a y =>
        y.search = none ∧ V p a ∧ ∀ n, p.min + 1 ≤ n → n < p.min + 1 + p.size →
          after n (y.container (Naming.container b.containerPrefix n)))
    (hjoin : ∀ ended values s', Run.Values ended values → values.length = parts.length →
      (∀ a ∈ values, ∃ p ∈ parts, V p a) → s'.Leaves st slots (namesIn b 1 (total + 1)) →
      (∀ i, s'.Quiet i) → (∀ n, 1 ≤ n → n ≤ total →
        after n s'.backend.store.containers[Naming.container b.containerPrefix n]?) →
      (resume ended).Ends (World.steady fun _ => True) (fun _ _ _ _ => True) World.underway Q s') :
    (Run.forkAll (parts.map thread) >>= resume).Ends (World.steady fun _ => True)
      (fun _ _ _ _ => True) World.underway Q s := by
  refine ends_shares (V := fun p a y => V p a ∧ ∀ n, p.min + 1 ≤ n → n < p.min + 1 + p.size →
      after n (y.container (Naming.container b.containerPrefix n))) hsplit hleaves hquiet
    (fun k p hp => ?_) fun ended values s' hended hlength hleaves' hquiet' hshares => ?_
  · refine hthreads k p s.holdings hp rfl fun n hn hlt => ?_
    obtain ⟨hn1, hcontains⟩ := (mem_range_iff hsplit hp).1 ⟨hn, hlt⟩
    have htotal := Partition.lt_total_of_split hsplit hp hcontains
    exact hbefore n hn1 (by omega)
  · refine hjoin ended values s' hended hlength (fun a ha => ?_) hleaves' hquiet' fun n hn hle => ?_
    · obtain ⟨k, hk⟩ := List.mem_iff_getElem?.1 ha
      have hp := List.getElem?_eq_getElem (hlength ▸ (List.getElem?_eq_some_iff.1 hk).1)
      obtain ⟨y, ⟨hV, -⟩, -⟩ := hshares k _ a hp hk
      exact ⟨_, List.mem_of_getElem? hp, hV⟩
    · -- the thread that has container `n` has left it as it should
      obtain ⟨k, p, a, hp, ha, hfirst, hlast⟩ := exists_share hsplit hlength hn hle
      obtain ⟨y, ⟨-, hafter⟩, hsame⟩ := hshares k p a hp ha
      rw [hsame n hfirst hlast]
      exact hafter n hfirst hlast

end Run

end Load

namespace Populate

open Load (tenantOf namesIn_subset_names ends_partitions)
open Longevity (namesIn mem_namesIn)

/-- The same report from everybody. -/
lemma Report.foldl_add {reports : List Report} {one : Report} (h : ∀ r ∈ reports, r = one) :
    reports.foldl Report.add {} = one.times reports.length := by
  have hfold (n : Nat) :
      reports.foldl Report.add (one.times n) = one.times (n + reports.length) := by
    induction reports generalizing n with
    | nil => rfl
    | cons r rest ih =>
      obtain rfl := h r List.mem_cons_self
      rw [List.foldl_cons, ← Report.times_succ, ih (fun r hr => h r (List.mem_cons_of_mem _ hr)),
        List.length_cons, Nat.add_right_comm, Nat.add_assoc]
  have hzero : one.times 0 = {} := by simp [Report.times]
  rw [← hzero, hfold, Nat.zero_add]

/-- A thread draws all of its containers, one after another. -/
lemma does_containers {ι : Type} [DecidableEq ι] {t : Tenant ι} {clock : Reading → Prop}
    {pages : Holdings → Except CallError Json → Prop} {b : Config.Backend} {c : Config.Populate}
    {x : Holdings} {first count : Nat} (hread : b.Readable) (hfits : Fits c)
    (hnames : namesIn b first (first + count) ⊆ t.names) (hsearch : x.search = none)
    (hbefore : ∀ n, first ≤ n → n < first + count →
      x.container (Naming.container b.containerPrefix n) = none) (g : Generator) :
    t.Does clock pages (containers b c first count g) x fun report y => y.search = none ∧
      report = ⟨count, count * c.itemsPerContainer, 0⟩ ∧ ∀ n, first ≤ n → n < first + count →
        y.container (Naming.container b.containerPrefix n) =
          some (drawContainer b c n (generatorAfter b c first g (n - first))).1 := by
  refine (does_inTurn ⟨1, c.itemsPerContainer, 0⟩ (fun n g' y =>
    g' = generatorAfter b c first g (n - first) ∧
      Holdings.Midway (Naming.container b.containerPrefix) (fun _ d => d = none)
        (fun n d => d = some (drawContainer b c n (generatorAfter b c first g (n - first))).1)
        first count n y)
    (fun n g' y hn hlt hy => ?_) ⟨by simp [generatorAfter], .start hsearch hbefore⟩).bind ?_
  · obtain ⟨rfl, hy⟩ := hy
    refine (does_container hread hfits (hnames (mem_namesIn.2 ⟨hn, hlt⟩)) (hy.now hn hlt) _).mono ?_
    rintro _ _ ⟨rfl, rfl⟩
    refine ⟨rfl, ?_, hy.next (fun _ _ h => Naming.container_inj.1 h) rfl⟩
    rw [Nat.succ_sub hn, generatorAfter, Nat.add_sub_cancel' hn]
  · rintro ⟨report, g'⟩ y ⟨hreport, -, hy⟩
    obtain rfl : report = _ := hreport
    exact Tenant.does_pure ⟨hy.search, by simp [Report.times], fun n hn hlt => hy.finish hn hlt⟩

variable {b : Config.Backend} {c : Config.Populate} {st : Store} {slots : Nat}
  {s : World (Shared Client)}

lemma validate_eq_ok_iff : c.validate = .ok () ↔
    Partition.checkEven c.totalContainers c.threads = .ok () ∧ c.customPercent ≤ 100 := by
  unfold Config.Populate.validate
  cases heven : Partition.checkEven c.totalContainers c.threads with
  | error e => simp [bind, Except.bind]
  | ok u =>
    by_cases hpercent : 100 < c.customPercent
    · simp [bind, Except.bind, hpercent]
    · simp [bind, Except.bind, hpercent, Nat.not_lt.1 hpercent, pure, Except.pure]

/-- With memory for the partitions, a population that makes sense has a plan. -/
lemma plan_eq_ok {parts : List Partition} {seeds : Seeds} (hvalid : c.validate = .ok ())
    (hsplit : Partition.split c.totalContainers c.threads = .ok parts)
    (hmemory : c.threads * Partition.bytes ≤ Job.maxBytes) :
    plan b c seeds = pure (.ok (parts.map (thread b c seeds))) := by
  unfold plan
  rw [hvalid, Job.split_of_le hsplit hmemory]
  rfl

/-- Without it, the population comes to nothing. -/
lemma run_of_lt {seeds : Seeds} (hvalid : c.validate = .ok ())
    (hmemory : Job.maxBytes < c.threads * Partition.bytes) :
    run b c seeds = .panic "capacity overflow" := by
  obtain ⟨parts, hsplit⟩ := Partition.exists_split (validate_eq_ok_iff.1 hvalid).1
  unfold run plan
  rw [hvalid]
  dsimp only
  rw [Job.split_of_lt hsplit hmemory]
  rfl

/-- **A population creates and fills all containers without a failure**, with the data that are
drawn for them. -/
lemma ends_run (hread : b.Readable) (hfits : Fits c) (hvalid : c.validate = .ok ())
    (hleaves : s.Leaves st slots (namesIn b 1 (c.totalContainers + 1))) (hquiet : ∀ i, s.Quiet i)
    (hbefore : ∀ n, 1 ≤ n → n ≤ c.totalContainers →
      s.backend.store.containers[Naming.container b.containerPrefix n]? = none) (seeds : Seeds) :
    (run b c seeds).Ends (World.steady fun _ => True) (fun _ _ _ _ => True) World.underway
      (fun outcome s' => (∃ elapsed, outcome = .ok (.ok (⟨c.totalContainers,
        c.totalContainers * c.itemsPerContainer, 0⟩, elapsed))) ∧
          s'.Leaves st slots (namesIn b 1 (c.totalContainers + 1)) ∧ (∀ i, s'.Quiet i) ∧
            ∀ n, 1 ≤ n → n ≤ c.totalContainers →
              s'.backend.store.containers[Naming.container b.containerPrefix n]? =
                some (dataSet b c seeds n)) s := by
  have hclock := World.exists_reading
  have hfree := World.allowsQuestions_true
  obtain ⟨parts, hsplit⟩ := Partition.exists_split (validate_eq_ok_iff.1 hvalid).1
  unfold run
  rw [plan_eq_ok hvalid hsplit hfits.partitions, Run.pure_then]
  refine Run.ends_then hclock (World.sole_clock hfree) ?_
  rintro start s ⟨-, rfl⟩
  refine ends_partitions (V := fun p report => report = ⟨p.size, p.size * c.itemsPerContainer, 0⟩)
    hsplit (fun _ d => d = none) (fun n d => d = some (dataSet b c seeds n)) hleaves hquiet hbefore
    (fun k p x hp hsearch hnone => ?_)
    fun ended reports s' hended hlength hreports hleaves' hquiet' hafter => ?_
  · refine (does_containers hread hfits (namesIn_subset_names hp) hsearch hnone
      (seeds.stream p.index)).mono ?_
    rintro report y ⟨hsearch', hreport, hdrawn⟩
    refine ⟨hsearch', hreport, fun n hn hlt => (hdrawn n hn hlt).trans ?_⟩
    exact congrArg some (dataIn_eq_dataSet hsplit (List.mem_of_getElem? hp) hn hlt seeds)
  · refine hended.ends_settle (Run.ends_then hclock (World.sole_clock hfree) ?_)
    rintro stop s' ⟨-, rfl⟩
    have hshare : ∀ report ∈ reports, report = ⟨c.totalContainers / c.threads,
        c.totalContainers / c.threads * c.itemsPerContainer, 0⟩ := by
      intro report hreport
      obtain ⟨p, hp, rfl⟩ := hreports report hreport
      rw [Partition.size_of_split hsplit hp]
    have hreport : reports.foldl Report.add {} =
        ⟨c.totalContainers, c.totalContainers * c.itemsPerContainer, 0⟩ := by
      rw [Report.foldl_add hshare, hlength, Report.times, ← Nat.mul_assoc,
        Partition.length_mul_of_split hsplit, Nat.mul_zero]
    exact Run.ends_pure ⟨⟨stop.elapsed.sub start.elapsed, by rw [hreport]⟩, hleaves', hquiet',
      hafter⟩

/-- A store is another one with the data of a population in it. -/
structure Built (b : Config.Backend) (c : Config.Populate) (seeds : Seeds) (st st' : Store) :
    Prop where
  containers : ∀ n, 1 ≤ n → n ≤ c.totalContainers →
    st'.containers[Naming.container b.containerPrefix n]? = some (dataSet b c seeds n)
  others : ∀ name : String, (∀ n, 1 ≤ n → n ≤ c.totalContainers →
    name ≠ Naming.container b.containerPrefix n) → st'.containers[name]? = st.containers[name]?
  opened : st'.opened = st.opened
  searches : st'.searches = st.searches

/-- What is known of the store after a population. -/
lemma built_of_leaves {seeds : Seeds} (hst : st.Coherent)
    (habsent : ∀ n, 1 ≤ n → n ≤ c.totalContainers →
      st.containers[Naming.container b.containerPrefix n]? = none)
    (hleaves : s.Leaves st slots (namesIn b 1 (c.totalContainers + 1))) (hquiet : ∀ i, s.Quiet i)
    (hdata : ∀ n, 1 ≤ n → n ≤ c.totalContainers →
      s.backend.store.containers[Naming.container b.containerPrefix n]? =
        some (dataSet b c seeds n)) : Built b c seeds st s.backend.store where
  containers := hdata
  others name hname := by
    refine hleaves.containers name fun hmem => ?_
    obtain ⟨n, hn, hlt, rfl⟩ := hmem
    exact hname n hn (by omega) rfl
  opened := by
    refine hleaves.opened_eq hst fun name hname => ?_
    obtain ⟨n, hn, hlt, rfl⟩ := hname
    -- the container was not there, and now it is closed
    rw [Store.holder, Store.holder, hdata n hn (by omega), habsent n hn (by omega)]
    rfl
  searches := hleaves.searches_eq hst hquiet

/-- **A population builds the data set that is specified.**  It starts on any store that calls
can lead to in which none of its containers exists, with texts that are JSON.  However the steps
of its threads mix, it reports all containers, all items and no failure; each container is then
the one that is drawn for its number, which depends on the seeds and the configuration only and is
as it is wanted (`Specified`); and all other containers, the open handles and the searches are
those there were before.

There has to be memory for the list of the partitions and for the random texts. -/
theorem run_builds_data_set (hvalid : c.validate = .ok ()) (hread : b.Readable) (hfits : Fits c)
    {κ : Type} [DecidableEq κ] {es : List (Shared.Event κ)} {prior : Shared κ}
    (hprior : Shared.Run (.start .empty) es prior)
    (habsent : ∀ n, 1 ≤ n → n ≤ c.totalContainers →
      prior.store.hasContainer (Naming.container b.containerPrefix n) = false)
    (seeds : Seeds) (registry : Registry) (statuses : List Worker.Status) :
    (∀ n, Specified b c n (dataSet b c seeds n)) ∧
    Inevitably (World.moves (Shared.service Client)) (fun _ _ _ _ => True)
      (fun outcome s => (∃ elapsed, outcome = .ok (.ok (⟨c.totalContainers,
        c.totalContainers * c.itemsPerContainer, 0⟩, elapsed))) ∧
        Built b c seeds prior.store s.backend.store)
      (.alone (run b c seeds)) ⟨.start prior.store, registry, statuses⟩ := by
  have hst := ((Shared.coherent_start (ι := κ) Store.coherent_empty).run hprior).store
  have hs : Shared.Coherent (.start prior.store : Shared Client) := Shared.coherent_start hst
  have hnone : ∀ n, 1 ≤ n → n ≤ c.totalContainers →
      prior.store.containers[Naming.container b.containerPrefix n]? = none := by
    intro n hn hle
    have hno := habsent n hn hle
    rw [Store.hasContainer, Std.ExtTreeMap.contains_eq_isSome_getElem?] at hno
    exact Option.not_isSome_iff_eq_none.1 (ne_true_of_eq_false hno)
  refine ⟨fun n => specified_dataSet seeds, ?_⟩
  have hends := ends_run hread hfits hvalid
    (World.leaves_self (s := ⟨.start prior.store, registry, statuses⟩) hs rfl)
    (World.quiet_of_issued rfl) hnone seeds
  rw [← World.steady_true]
  refine (hends.mono fun outcome s h => ?_).inevitably fun _ => rfl
  obtain ⟨hreport, hleaves, hquiet, hdata⟩ := h
  exact ⟨hreport, built_of_leaves hst hnone hleaves hquiet hdata⟩

/-- Two threads fill four containers beside one that somebody else has open. -/
theorem run_builds_beside_open_container :
    ∃ (es : List (Shared.Event Unit)) (prior : Shared Unit), Shared.Run (.start .empty) es prior ∧
      Inevitably (World.moves (Shared.service Client)) (fun _ _ _ _ => True)
        (fun outcome s => (∃ elapsed, outcome = .ok (.ok (⟨4, 40, 0⟩, elapsed))) ∧
          s.backend.store.itemCount "wallet_4" = some 10 ∧
          s.backend.store.opened[(1 : Int)]? = some "wallet_0")
        (.alone (run {} { threads := 2, totalContainers := 4 } ⟨7⟩))
        ⟨.start prior.store, .new 0, []⟩ := by
  let creation : Call := .createContainer "wallet_0" "default" "\x7b\x7d" "\x7b\x7d"
  let opening : Call := .openContainer "wallet_0" "\x7b\x7d"
  let created : Shared Unit := { Shared.start .empty with store := (Store.empty.answer creation).2 }
  let prior := (created.take () opening).conclude () opening 1
  have hprior : Shared.Run (.start .empty) _ prior := Shared.Run.nil (.start .empty)
    |>.snoc (@Shared.Step.answered _ _ _ () creation rfl rfl)
    |>.snoc (@Shared.Step.took _ _ _ () opening rfl rfl)
    |>.snoc (@Shared.Step.concluded _ _ _ () opening 1 rfl)
  have habsent : ∀ n, 1 ≤ n → n ≤ 4 →
      prior.store.hasContainer (Naming.container "wallet_" n) = false := by
    decide
  obtain ⟨hspecified, hrun⟩ := run_builds_data_set (b := {})
    (c := { threads := 2, totalContainers := 4 }) rfl ⟨by decide +kernel, by decide +kernel⟩
    ⟨by decide, by decide, fun _ _ => by decide⟩ hprior habsent ⟨7⟩ (.new 0) []
  refine ⟨_, prior, hprior, hrun.mono (fun _ _ _ _ h => h) ?_⟩
  rintro outcome s ⟨hreport, hbuilt⟩
  have hlast := hbuilt.containers 4 (by decide) (by decide)
  refine ⟨hreport, ?_, by rw [hbuilt.opened]; rfl⟩
  exact (hlast ▸ (hspecified 4).stands : Load.Stands _ 4 (some 10) _).itemCount_eq

/-- A population with a value that there is no memory for. -/
def oversized : Config.Populate where
  threads := 1
  totalContainers := 1
  valueLen := 2 ^ 63

/-- A population with more threads than there is memory for their partitions. -/
def crowded : Config.Populate where
  threads := 2 ^ 60
  totalContainers := 2 ^ 60
  itemsPerContainer := 1

lemma validate_crowded : crowded.validate = .ok () :=
  validate_eq_ok_iff.2 ⟨Partition.checkEven_eq_ok_iff.2
    ⟨by decide, by decide, Nat.mod_self (2 ^ 60)⟩, by decide⟩

/-- When there is no memory for the value of the items, a thread panics, and the population ends
with an error and without a report.  When there is none for the list of the partitions, the main
thread panics. -/
theorem run_builds_nothing_beyond_memory :
    ({ credentials := "\x7b\x7d" } : Config.Backend).Readable ∧ ∀ c ∈ [oversized, crowded],
      c.validate = .ok () ∧ c.itemsPerContainer * c.customPercent < 2 ^ 64 ∧
      c.totalContainers * c.itemsPerContainer < 2 ^ 64 ∧
      ¬ Inevitably (World.moves (Shared.service Client)) (fun _ _ _ _ => True)
        (fun outcome _ => ∃ report, outcome = .ok (.ok report))
        (.alone (run { credentials := "\x7b\x7d" } c ⟨3⟩))
        ⟨.start .empty, .new 0, []⟩ := by
  refine ⟨⟨by decide +kernel, by decide +kernel⟩, fun c hc => ?_⟩
  obtain rfl | rfl : c = oversized ∨ c = crowded := by simpa using hc
  · let now : Reading := ⟨.zero, default⟩
    refine ⟨rfl, by decide, by decide, fun h => ?_⟩
    have h₁ := (h.step (.answered (a := now) rfl)).1
    have h₂ := (h₁.step .forks).1
    -- the container is created and opened before the thread panics
    have h₃ := (h₂.step (.thread (k := 0) rfl (.answered ⟨_, .answered rfl rfl, rfl⟩))).1
    have h₄ := (h₃.step (.thread (k := 0) rfl (.prepared ⟨_, ⟨_, .took rfl rfl⟩, rfl⟩))).1
    have h₅ := (h₄.step (.thread (k := 0) rfl (.answered ⟨_, .concluded rfl, rfl⟩))).1
    have joined := (h₅.step (.joins (.cons (.panicked _ _) .nil) .nil)).1
    -- the panic is logged, and the clock is read again
    have logged := (joined.step (.answered (a := ()) rfl)).1
    have stopped := (logged.step (.answered (a := now) rfl)).1
    obtain ⟨report, hreport⟩ := stopped.of_outcome rfl
    cases hreport
  · refine ⟨validate_crowded, by decide, by decide, fun h => ?_⟩
    rw [run_of_lt validate_crowded (by decide)] at h
    obtain ⟨report, hreport⟩ := h.of_outcome rfl
    cases hreport

end Populate

end Soak
