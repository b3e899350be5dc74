import Mathlib
import Soak.Command.Execute
import Soak.Proofs.Load.Population

/-!
# Load runs with their preparation

A population and a load run share out the same containers among their threads, each of which
has a range of them for itself.  What the population leaves behind is what the action of the
load run needs (`Command.prepared_load_succeeds`), so that no call of either of them fails.
-/

namespace Soak

namespace Load

open Longevity (namesIn mem_namesIn)

/-- Shares with as many spans and calls each, and without a failure. -/
lemma Share.join_clean {shares : List Share} {n calls : Nat}
    (h : ∀ share ∈ shares, share.spans.length = n ∧ share.tally = ⟨calls, 0⟩) :
    (shares.map Share.spans).flatten.length = shares.length * n ∧
      Tally.sum (shares.map Share.tally) = ⟨shares.length * calls, 0⟩ := by
  refine ⟨Run.length_spans fun share hshare => (h share hshare).1, ?_⟩
  rw [Tally.sum_eq (by simpa using fun share hshare => (h share hshare).2), List.length_map]

section Thread

variable {ι : Type} [DecidableEq ι] {t : Tenant ι} {clock : Reading → Prop}
  {pages : Holdings → Except CallError Json → Prop} {x : Holdings} {first count : Nat}

/-- **A thread performs the action on all of its containers.** -/
lemma does_containers {c : LoadContext} {action : Action} (hread : c.backend.Readable)
    (hpages : ∀ x a, pages x a)
    (hquery : action = .searchItems → ∃ q, Query.parse c.payload.query = .ok q)
    (hmemory : count * 16 ≤ Job.maxBytes)
    (hnames : namesIn c.backend first (first + count) ⊆ t.names) (hsearch : x.search = none)
    (hbefore : ∀ n, first ≤ n → n < first + count → Stands c.backend n (action.before c.items)
      (x.container (Naming.container c.backend.containerPrefix n))) :
    t.Does clock pages (containers c action first count) x fun share y => y.search = none ∧
      (share.spans.length = count ∧ share.tally = ⟨count * action.calls c.items, 0⟩) ∧
        ∀ n, first ≤ n → n < first + count → Stands c.backend n (action.after c.items)
          (y.container (Naming.container c.backend.containerPrefix n)) := by
  unfold containers Job.reserveSpans
  rw [Job.reserve_of_le hmemory]
  refine (Tenant.does_mapRange
    (fun share : Share => share.spans.length = 1 ∧ share.tally = ⟨action.calls c.items, 0⟩)
    (Holdings.Midway (Naming.container c.backend.containerPrefix)
      (fun n => Stands c.backend n (action.before c.items))
      (fun n => Stands c.backend n (action.after c.items)) first count)
    (fun n y hn hlt hy => ?_) (.start hsearch hbefore)).bind ?_
  · refine (does_container hread hpages hquery (hnames (mem_namesIn.2 ⟨hn, hlt⟩)) hy.search
      (hy.now hn hlt)).mono ?_
    rintro share _ ⟨hshare, d, hd, rfl⟩
    exact ⟨hshare, hy.next (fun _ _ h => Naming.container_inj.1 h) hd⟩
  · rintro shares y ⟨hlength, hshares, hy⟩
    obtain ⟨hspans, htally⟩ := Share.join_clean hshares
    rw [hlength] at hspans htally
    exact Tenant.does_pure ⟨hy.search, ⟨hspans.trans (Nat.mul_one _), htally⟩,
      fun n hn hlt => hy.finish hn hlt⟩

end Thread

/-! ### The threads of a run -/

variable {b : Config.Backend} {total threads : Nat} {parts : List Partition}

/-- Between two runs, all containers are as they should be, and there is nothing else. -/
structure Ready (b : Config.Backend) (st : Store) (slots total : Nat) (i : Option Nat)
    (s : World (Shared Client)) : Prop where
  leaves : s.Leaves st slots (namesIn b 1 (total + 1))
  quiet : ∀ i, s.Quiet i
  stands : ∀ n, 1 ≤ n → n ≤ total →
    Stands b n i s.backend.store.containers[Naming.container b.containerPrefix n]?

section Run

variable {α β : Type} {st : Store} {slots : Nat} {i j : Option Nat} {s : World (Shared Client)}
  {Q : Except String α → World (Shared Client) → Prop}

/-- **A load run performs its action on all containers without a failure.** -/
lemma ends_run {action : Action} {items : Nat} {raw : String} {payload : Payload}
    {s : World (Shared Client)} (hread : b.Readable)
    (heven : Partition.checkEven total threads = .ok ())
    (hpayload : Payload.parse action raw = .ok payload)
    (hquery : action = .searchItems → ∃ q, Query.parse payload.query = .ok q)
    (hmemory : Fits total threads) (hs : Ready b st slots total (action.before items) s)
    (seeds : Seeds) :
    (run b seeds threads total items raw action).Ends (World.steady fun _ => True)
      (fun _ _ _ _ => True) World.underway
      (fun outcome s' => (∃ summary, outcome = .ok (.ok summary) ∧ summary.failures = 0 ∧
        summary.spans = total ∧ summary.operations = total * action.calls items) ∧
          Ready b st slots total (action.after items) s') s := by
  have hclock := World.exists_reading
  have hfree := World.allowsQuestions_true
  obtain ⟨parts, hsplit⟩ := Partition.exists_split heven
  unfold run
  rw [plan_eq_ok hsplit hmemory.partitions hpayload, Run.pure_then]
  refine Run.ends_then hclock (World.sole_clock hfree) ?_
  rintro start s ⟨-, rfl⟩
  rw [Job.reserve_of_le hmemory.handles, Run.pure_then]
  refine ends_partitions (V := fun p share => share.spans.length = p.size ∧
    share.tally = ⟨p.size * action.calls items, 0⟩) hsplit
    (fun n => Stands b n (action.before items)) (fun n => Stands b n (action.after items))
    hs.leaves hs.quiet hs.stands (fun k p x hp hsearch hbefore => ?_)
    fun ended shares s' hended hlength hshares hleaves hquiet hstands => ?_
  · have hfits : p.size * 16 ≤ Job.maxBytes := by
      rw [Partition.size_of_split hsplit (List.mem_of_getElem? hp)]
      exact hmemory.spans
    exact does_containers (c := ⟨b, payload, items, _⟩) hread (fun _ _ => trivial) hquery hfits
      (namesIn_subset_names hp) hsearch hbefore
  · refine hended.ends_settle (Run.ends_then hclock (World.sole_clock hfree) ?_)
    rintro stop s' ⟨-, rfl⟩
    refine Run.ends_then hclock (World.sole_freshId hfree) ?_
    rintro runId s' rfl
    have hclean : ∀ share ∈ shares, share.spans.length = total / threads ∧
        share.tally = ⟨total / threads * action.calls items, 0⟩ := by
      intro share hshare
      obtain ⟨p, hp, hshare⟩ := hshares share hshare
      rwa [Partition.size_of_split hsplit hp] at hshare
    obtain ⟨hspans, htally⟩ := Share.join_clean hclean
    rw [hlength, Partition.length_mul_of_split hsplit] at hspans
    rw [hlength, ← Nat.mul_assoc, Partition.length_mul_of_split hsplit] at htally
    exact Run.ends_pure ⟨⟨_, rfl, congrArg Tally.failures htally, hspans,
      congrArg Tally.operations htally⟩, hleaves, hquiet, hstands⟩

end Run

end Load

namespace Command

open Load (Ready)
open Longevity (namesIn mem_namesIn)

variable {c : Config}

/-- The query of a payload can be read if its text can. -/
lemma exists_query {action : Action} {raw : String} {payload : Payload}
    (hpayload : Payload.parse action raw = .ok payload)
    (hquery : action = .searchItems → ∃ q, Query.parse raw = .ok q)
    (hsearch : action = .searchItems) : ∃ q, Query.parse payload.query = .ok q := by
  have hraw : payload = { raw } := by
    unfold Payload.parse at hpayload
    rw [if_pos hsearch] at hpayload
    exact (Except.ok.inj hpayload).symm
  rw [hraw, Payload.query]
  split
  · exact ⟨.and [], rfl⟩
  · exact hquery hsearch

/-- There is memory for what a load run and its preparation reserve. -/
structure Fits (c : Config) : Prop where
  run : Load.Fits c.load.totalContainers c.load.threads
  preparation : ∀ prep, preparation c = some prep → Populate.Fits prep

/-- The containers of a load run, counted from one, are all that there is, and nothing is open.
Each of them has as many items as the action leaves in it, or none of them is left. -/
structure Stocks (c : Config) (st : Store) : Prop where
  items : ∀ n, 1 ≤ n → n ≤ c.load.totalContainers →
    st.itemCount (Naming.container c.backend.containerPrefix n) =
      c.load.action.after c.load.itemsPerContainer
  others : ∀ name, (∀ n, 1 ≤ n → n ≤ c.load.totalContainers →
    name ≠ Naming.container c.backend.containerPrefix n) → st.hasContainer name = false
  closed : ∀ name, st.isOpen name = false
  opened : st.opened = ∅
  searches : st.searches = ∅

/-- What is known of a store that was empty before. -/
lemma stocks_of_ready {slots : Nat} {s : World (Shared Client)}
    (hs : Ready c.backend .empty slots c.load.totalContainers
      (c.load.action.after c.load.itemsPerContainer) s) : Stocks c s.backend.store := by
  have hclosed (name : String) : s.backend.store.isOpen name = false := by
    by_cases hname : name ∈ namesIn c.backend 1 (c.load.totalContainers + 1)
    · obtain ⟨n, hn, hlt, rfl⟩ := hname
      exact (hs.stands n hn (by omega)).isOpen_eq_false
    · exact Store.isOpen_of_absent (hs.leaves.containers name hname)
  refine ⟨fun n hn hle => (hs.stands n hn hle).itemCount_eq, fun name hname => ?_, hclosed, ?_, ?_⟩
  · have hno := hs.leaves.containers name fun ⟨n, hn, hlt, heq⟩ => hname n hn (by omega) heq
    rw [Store.hasContainer, Std.ExtTreeMap.contains_eq_isSome_getElem?, hno]
    rfl
  · refine hs.leaves.opened_eq Store.coherent_empty fun name _ => ?_
    rw [Store.isOpen_eq_false_iff.1 (hclosed name)]
    rfl
  · exact hs.leaves.searches_eq Store.coherent_empty hs.quiet

/-- A preparation has the numbers of the load run, and gives each container the items that the
action needs. -/
lemma preparation_eq_some {prep : Config.Populate} (h : preparation c = some prep) :
    prep.threads = c.load.threads ∧ prep.totalContainers = c.load.totalContainers ∧
      prep.customPercent = c.populate.customPercent ∧
        c.load.action.before c.load.itemsPerContainer = some prep.itemsPerContainer := by
  unfold preparation at h
  unfold Action.before
  split at h
  · next hneeds =>
    obtain rfl := Option.some.inj h
    exact ⟨rfl, rfl, rfl, if_pos hneeds⟩
  · cases h

/-- Without a preparation, the containers must not exist. -/
lemma before_of_preparation_eq_none (h : preparation c = none) :
    c.load.action.before c.load.itemsPerContainer = none := by
  unfold preparation at h
  split at h
  · cases h
  · next hneeds => exact if_neg hneeds

section Run

variable {st : Store} {slots : Nat} {s : World (Shared Client)}

/-- The preparation fills all containers with what the action needs. -/
lemma ends_preparation (hvalid : c.load.validate = .ok ())
    (hpercent : c.populate.customPercent ≤ 100) (hread : c.backend.Readable) (hmemory : Fits c)
    (hs : Ready c.backend st slots c.load.totalContainers none s) {prep : Config.Populate}
    (hprep : preparation c = some prep) (seeds : Seeds) :
    (Populate.run c.backend prep seeds).Ends (World.steady fun _ => True) (fun _ _ _ _ => True)
      World.underway
      (fun outcome s' => (∃ elapsed, outcome = .ok (.ok (⟨c.load.totalContainers,
        c.load.totalContainers * prep.itemsPerContainer, 0⟩, elapsed))) ∧
          Ready c.backend st slots c.load.totalContainers
            (c.load.action.before c.load.itemsPerContainer) s') s := by
  obtain ⟨hthreads, htotal, hcustom, hbefore⟩ := preparation_eq_some hprep
  have heven : Partition.checkEven prep.totalContainers prep.threads = .ok () := by
    rw [hthreads, htotal]
    exact hvalid
  have hends := Populate.ends_run hread (hmemory.preparation prep hprep)
    (Populate.validate_eq_ok_iff.2 ⟨heven, hcustom ▸ hpercent⟩) (htotal ▸ hs.leaves) hs.quiet
    (htotal ▸ hs.stands) seeds
  rw [htotal] at hends
  refine hends.mono fun outcome s' h => ?_
  obtain ⟨hreport, hleaves, hquiet, hdata⟩ := h
  refine ⟨hreport, hleaves, hquiet, fun n hn hle => ?_⟩
  rw [hdata n hn hle, hbefore]
  exact (Populate.specified_dataSet seeds).stands

/-- After its preparation, if it has one, a load run has no failure. -/
lemma ends_runLoad (hvalid : c.load.validate = .ok ()) (hpercent : c.populate.customPercent ≤ 100)
    (hread : c.backend.Readable) {payload : Payload}
    (hpayload : Payload.parse c.load.action c.load.payload = .ok payload)
    (hquery : c.load.action = .searchItems → ∃ q, Query.parse c.load.payload = .ok q)
    (hmemory : Fits c) (hs : Ready c.backend st slots c.load.totalContainers none s)
    (seeds : Seeds) :
    (runLoad c seeds).Ends (World.steady fun _ => True) (fun _ _ _ _ => True) World.underway
      (fun outcome s' => (∃ summary, outcome = .ok (.ok summary) ∧ summary.failures = 0 ∧
        summary.spans = c.load.totalContainers ∧ summary.operations =
          c.load.totalContainers * c.load.action.calls c.load.itemsPerContainer) ∧
            Ready c.backend st slots c.load.totalContainers
              (c.load.action.after c.load.itemsPerContainer) s') s := by
  unfold runLoad
  rw [hvalid]
  refine Run.Ends.bind (Q := fun outcome s' => outcome = .ok (.ok ()) ∧
    Ready c.backend st slots c.load.totalContainers
      (c.load.action.before c.load.itemsPerContainer) s') ?_ ?_ ?_
  · cases hprep : preparation c with
    | none => exact Run.ends_pure ⟨rfl, (before_of_preparation_eq_none hprep).symm ▸ hs⟩
    | some prep =>
      refine (ends_preparation hvalid hpercent hread hmemory hs hprep seeds).bind ?_ ?_
      · rintro _ s₁ ⟨⟨elapsed, ⟨⟩⟩, hs₁⟩
        exact Run.ends_pure ⟨rfl, hs₁⟩
      · rintro message s₁ ⟨⟨elapsed, ⟨⟩⟩, -⟩
  · rintro _ s₁ ⟨⟨⟩, hs₁⟩
    exact Load.ends_run hread hvalid hpayload (exists_query hpayload hquery) hmemory.run hs₁ seeds
  · rintro message s₁ ⟨⟨⟩, -⟩

end Run

/-- **A load run finds what its action needs.**  On an empty store, with texts that are JSON and
with a payload that makes sense, neither the preparation of a load run nor the run itself has
a failure, however the steps of their threads mix.  The preparation creates all containers and
adds all items; the summary counts a span for each container and the calls of the action; and
exactly the containers of the run exist then, closed and with the items that the action leaves.

There has to be memory for the handles of the threads, for the spans of each of them, and for the
random texts. -/
theorem prepared_load_succeeds (hvalid : c.load.validate = .ok ())
    (hpercent : c.populate.customPercent ≤ 100) (hread : c.backend.Readable) {payload : Payload}
    (hpayload : Payload.parse c.load.action c.load.payload = .ok payload)
    (hquery : c.load.action = .searchItems → ∃ q, Query.parse c.load.payload = .ok q)
    (hmemory : Fits c) (seeds : Seeds) (registry : Registry) (statuses : List Worker.Status) :
    (∀ prep, preparation c = some prep →
      Inevitably (World.moves (Shared.service Client)) (fun _ _ _ _ => True)
        (fun outcome _ => ∃ elapsed, outcome = .ok (.ok (⟨c.load.totalContainers,
          c.load.totalContainers * prep.itemsPerContainer, 0⟩, elapsed)))
        (.alone (Populate.run c.backend prep seeds)) ⟨.start .empty, registry, statuses⟩) ∧
    Inevitably (World.moves (Shared.service Client)) (fun _ _ _ _ => True)
      (fun outcome s => (∃ summary, outcome = .ok (.ok summary) ∧ summary.failures = 0 ∧
        summary.spans = c.load.totalContainers ∧ summary.operations =
          c.load.totalContainers * c.load.action.calls c.load.itemsPerContainer) ∧
        Stocks c s.backend.store)
      (.alone (runLoad c seeds)) ⟨.start .empty, registry, statuses⟩ := by
  have hs : Shared.Coherent (.start .empty : Shared Client) :=
    Shared.coherent_start Store.coherent_empty
  have hready : Ready c.backend .empty registry.size c.load.totalContainers none
      (⟨.start .empty, registry, statuses⟩ : World (Shared Client)) :=
    ⟨World.leaves_self (s := ⟨.start .empty, registry, statuses⟩) hs rfl,
      World.quiet_of_issued rfl, fun n _ _ => rfl⟩
  rw [← World.steady_true]
  refine ⟨fun prep hprep => ?_, ?_⟩
  · have hends := ends_preparation hvalid hpercent hread hmemory hready hprep seeds
    exact (hends.mono fun _ _ h => h.1).inevitably fun _ => rfl
  · have hends := ends_runLoad hvalid hpercent hread hpayload hquery hmemory hready seeds
    refine (hends.mono fun _ _ h => ?_).inevitably fun _ => rfl
    exact ⟨h.1, stocks_of_ready h.2⟩

/-- A load run with four containers and three items each. -/
def searching : Config where
  load := ⟨2, 4, 3, .searchItems, "\x7b\"name\": \"John\"\x7d"⟩

/-- Two threads search four containers that are filled for them. -/
theorem prepared_search_succeeds :
    Inevitably (World.moves (Shared.service Client)) (fun _ _ _ _ => True)
      (fun outcome s => (∃ summary, outcome = .ok (.ok summary) ∧ summary.failures = 0 ∧
        summary.spans = 4 ∧ summary.operations = 12) ∧
        s.backend.store.itemCount "wallet_1" = some 3 ∧
        s.backend.store.itemCount "wallet_4" = some 3 ∧
        s.backend.store.hasContainer "wallet_0" = false)
      (.alone (runLoad searching ⟨7⟩)) ⟨.start .empty, .new 0, []⟩ := by
  have hquery : ∃ q, Query.parse searching.load.payload = .ok q := by
    have hread : Json.ofText? searching.load.payload = some (.obj [("name", .str "John")]) := by
      unfold searching
      cbv
    have hblank : Text.allBlank searching.load.payload = false := by decide +kernel
    rw [Query.parse, hblank, hread]
    exact ⟨_, rfl⟩
  have hfits : Fits searching := by
    refine ⟨⟨by decide, by decide⟩, fun prep hprep => ?_⟩
    obtain rfl := Option.some.inj hprep
    exact ⟨by decide, by decide, fun _ _ => by decide⟩
  obtain ⟨-, hrun⟩ := prepared_load_succeeds (c := searching) rfl (by decide)
    ⟨by decide +kernel, by decide +kernel⟩ rfl (fun _ => hquery) hfits ⟨7⟩ (.new 0) []
  refine hrun.mono (fun _ _ _ _ h => h) ?_
  rintro outcome s ⟨⟨summary, rfl, hfailures, hspans, hoperations⟩, hstocks⟩
  refine ⟨⟨summary, rfl, hfailures, hspans, hoperations⟩, hstocks.items 1 (by decide) (by decide),
    hstocks.items 4 (by decide) (by decide), hstocks.others _ fun n hn hle heq => ?_⟩
  obtain rfl : 0 = n := Naming.container_inj.1 (show Naming.container "wallet_" 0 = _ from heq)
  omega

/-- Nothing is missing for a load run but memory, and it need not end with a summary. -/
structure RunsOut (c : Config) (seeds : Seeds) : Prop where
  valid : c.load.validate = .ok ()
  percent : c.populate.customPercent ≤ 100
  readable : c.backend.Readable
  payload : ∃ payload, Payload.parse c.load.action c.load.payload = .ok payload
  fails : ¬ Inevitably (World.moves (Shared.service Client)) (fun _ _ _ _ => True)
    (fun outcome _ => ∃ summary, outcome = .ok (.ok summary))
    (.alone (runLoad c seeds)) ⟨.start .empty, .new 0, []⟩

/-- A load run with more containers than there is memory for their spans. -/
def oversized : Config where
  load := ⟨1, 2 ^ 60, 1, .addContainer, ""⟩

/-- A load run with more threads than there is memory for their partitions. -/
def crowded : Config where
  load := ⟨2 ^ 60, 2 ^ 60, 1, .addContainer, ""⟩

/-- A load run on one item that has to be prepared. -/
def prepared (prep : Config.Populate) : Config where
  backend := { credentials := "\x7b\x7d" }
  load := ⟨1, 1, 1, .getItem, ""⟩
  populate := prep

/-- When there is no memory for the spans of a thread, for the value of the items or for their
random attributes, then a thread panics, and the load run ends with an error and without a
summary.  When there is none for the list of the partitions, then the main thread panics. -/
theorem load_fails_beyond_memory :
    RunsOut oversized ⟨3⟩ ∧ RunsOut crowded ⟨3⟩ ∧ RunsOut (prepared { valueLen := 2 ^ 63 }) ⟨3⟩ ∧
      RunsOut (prepared { valueLen := 0, customPercent := 0, randomAttributeLen := 2 ^ 63 })
        ⟨3⟩ := by
  let now : Reading := ⟨.zero, default⟩
  refine ⟨?_, ?_, ?_, ?_⟩
  case refine_2 =>
    have heven : Partition.checkEven (2 ^ 60) (2 ^ 60) = .ok () :=
      Partition.checkEven_eq_ok_iff.2 ⟨by decide, by decide, Nat.mod_self (2 ^ 60)⟩
    refine ⟨heven, by decide, ⟨by decide +kernel, by decide +kernel⟩, ⟨_, rfl⟩, fun h => ?_⟩
    have hrun : runLoad crowded ⟨3⟩ = .panic "capacity overflow" := by
      unfold runLoad
      rw [show crowded.load.validate = .ok () from heven]
      exact Load.run_of_lt heven (by decide)
    rw [hrun] at h
    obtain ⟨summary, hsummary⟩ := h.of_outcome rfl
    cases hsummary
  case' refine_1 =>
    refine ⟨rfl, by decide, ⟨by decide +kernel, by decide +kernel⟩, ⟨_, rfl⟩, fun h => ?_⟩
    have hends : Thread.EndsAs
        (Load.thread oversized.backend ⟨3⟩ ⟨"", ∅, []⟩ 1 .addContainer ⟨0, 0, 2 ^ 60 - 1⟩)
        ("load_0-1152921504606846975", .error "capacity overflow") := by
      have hprogram (context : LoadContext) :
          Load.containers context .addContainer 1 (2 ^ 60) = .panic "capacity overflow" := by
        unfold Load.containers Job.reserveSpans Job.reserve
        rw [if_neg (by decide)]
        rfl
      have hsize : Partition.size ⟨0, 0, 2 ^ 60 - 1⟩ = 2 ^ 60 := rfl
      unfold Load.thread
      rw [hsize, hprogram]
      exact .panicked _ _
    have hrun : runLoad oversized ⟨3⟩ =
        Load.run oversized.backend ⟨3⟩ 1 (2 ^ 60) 1 "" .addContainer := rfl
    rw [hrun] at h
    -- the clock is read, and the thread is forked and panics
    have h₁ := (h.step (.answered (a := now) rfl)).1
    have h₂ := (h₁.step .forks).1
    have joined := (h₂.step (.joins (.cons hends .nil) .nil)).1
  case' refine_3 | refine_4 =>
    refine ⟨rfl, by decide, ⟨by decide +kernel, by decide +kernel⟩, ⟨_, rfl⟩, fun h => ?_⟩
    have h₁ := (h.step (.answered (a := now) rfl)).1
    have h₂ := (h₁.step .forks).1
    -- the container is created and opened before the thread panics
    have h₃ := (h₂.step (.thread (k := 0) rfl (.answered ⟨_, .answered rfl rfl, rfl⟩))).1
    have h₄ := (h₃.step (.thread (k := 0) rfl (.prepared ⟨_, ⟨_, .took rfl rfl⟩, rfl⟩))).1
    have h₅ := (h₄.step (.thread (k := 0) rfl (.answered ⟨_, .concluded rfl, rfl⟩))).1
    have joined := (h₅.step (.joins (.cons (.panicked _ _) .nil) .nil)).1
  all_goals
    -- the panic is logged, and the clock is read again
    have logged := (joined.step (.answered (a := ()) rfl)).1
    have stopped := (logged.step (.answered (a := now) rfl)).1
    obtain ⟨summary, hsummary⟩ := stopped.of_outcome rfl
    cases hsummary

end Command

end Soak
