import Soak.Proofs.Load.Setup
import Soak.Proofs.Load.Surplus

/-!
# Bulk deleting undoes bulk adding

A load run that adds containers or items and reports no failure is undone by the load run that
deletes them, whatever else there is in the store, and whatever the numbers of threads are
(`Load.bulk_delete_undoes_bulk_add`).  Between the two runs, every container has what was added to
it (`Load.Grown`), and this is all that the second run needs.

Items are worked on through handles, which are numbered, and no number is given out again.
Containers are created and deleted without a handle (`Manners.handleless`), so that not even a
number is used up.
-/

namespace Soak

/-- The names of the containers are as many as the containers. -/
lemma Store.card_keys (st : Store) : st.containers.keys.toFinset.card = st.containerCount := by
  rw [List.toFinset_card_of_nodup Std.ExtTreeMap.nodup_keys, Std.ExtTreeMap.length_keys]
  rfl

/-- The table of the containers fits into memory, as it does on every machine: an entry takes more
than a thread's name with its handle, and no piece of memory has more than `Job.maxBytes`. -/
def Store.Fits (st : Store) : Prop :=
  st.containerCount * Job.namedHandleBytes ≤ Job.maxBytes

/-! ### Calls without handles -/

/-- No call takes a number. -/
def Manners.handleless : Manners requests where
  asks q := ∀ c, q = .call c → c.takesNumber = false
  told _ _ := True

/-- Then the next number stays the same. -/
lemma Manners.kept_handleless (number : Int) :
    handleless.Kept (World.steady (ι := Client) fun _ => True) (fun _ _ _ _ => True)
      fun s => s.backend.Coherent ∧ s.backend.store.nextHandle = number where
  prepared i q s s' hq _ move := by
    cases q with
    | call c =>
      obtain ⟨⟨b, ⟨n, step⟩, -⟩, -⟩ := move
      cases step with
      | took free takes =>
        rw [hq c rfl] at takes
        cases takes
    | _ => exact move.1.elim
  answered i q a s s' hq hs move := by
    refine ⟨trivial, trivial, ?_⟩
    by_cases hcall : ∃ c, q = .call c
    · obtain ⟨c, rfl⟩ := hcall
      obtain ⟨⟨b, step, rfl⟩, -⟩ := move
      obtain ⟨-, rfl⟩ := step.eq_answer hs.1 (hq c rfl)
      exact ⟨hs.1.answer (hq c rfl), (hs.1.store.answer (hq c rfl)).2.1.trans hs.2⟩
    · rwa [World.backend_of_answered (fun c hc => hcall ⟨c, hc⟩) move.1]

/-- Everything but a call is asked without a number. -/
lemma Manners.handleless_asks {q : Request} (hq : ∀ c, q ≠ .call c) : handleless.asks q :=
  fun c hc => absurd hc (hq c)

/-- A failure is logged, and nothing is called. -/
lemma Target.yields_settle {α : Type} (target : Target) (what : String) (a : Except CallError α) :
    (target.settle what a).Yields .handleless fun _ => True := by
  cases a with
  | ok v => exact .done trivial
  | error e =>
    exact Program.yields_ask (Manners.handleless_asks nofun) fun _ _ => .done trivial

/-- Containers are created and deleted by their names. -/
lemma Action.yields_execute {action : Action}
    (haction : action = .addContainer ∨ action = .deleteContainer) (c : LoadContext)
    (target : Target) : (action.execute c target).Yields .handleless fun _ => True := by
  obtain rfl | rfl := haction
  · refine Program.yields_ask (fun _ h => ?_) fun a _ => target.yields_settle _ a
    cases h
    rfl
  · refine Program.yields_ask (fun _ h => ?_) fun a _ => target.yields_settle _ a
    cases h
    rfl

namespace Load

open Longevity (namesIn)

variable {action : Action}

lemma yields_container (haction : action = .addContainer ∨ action = .deleteContainer)
    (c : LoadContext) (number : Nat) :
    (container c action number).Yields .handleless fun _ => True := by
  have hopening : action.needsOpening = false := by obtain rfl | rfl := haction <;> rfl
  have hclock : Manners.handleless.asks .clock := Manners.handleless_asks nofun
  unfold container
  rw [if_neg (ne_true_of_eq_false hopening)]
  refine Program.Yields.bind (V := fun _ => True) ?_ fun _ _ => .done trivial
  refine Program.yields_ask hclock fun start _ => ?_
  refine (Action.yields_execute haction c _).bind fun tally _ => ?_
  exact Program.yields_ask hclock fun stop _ => .done trivial

/-- A thread that creates or deletes containers takes no number. -/
lemma yields_containers (haction : action = .addContainer ∨ action = .deleteContainer)
    (c : LoadContext) (first count : Nat) :
    (containers c action first count).Yields .handleless fun _ => True := by
  unfold containers
  refine (Program.yields_reserve _ _).bind fun _ _ => ?_
  exact (Program.yields_mapRange (yields_container haction c) _ _).bind fun _ _ => .done trivial

variable {b : Config.Backend} {seeds : Seeds} {threads total items slots : Nat} {raw : String}
  {back : Action} {st : Store} {s : World (Shared Client)}

/-- A run that creates or deletes containers takes no number. -/
lemma ends_run_handleless (haction : action = .addContainer ∨ action = .deleteContainer)
    (hs : s.backend.Coherent) :
    (run b seeds threads total items raw action).Ends (World.steady fun _ => True)
      (fun _ _ _ _ => True) World.underway
      (fun _ s' => s'.backend.store.nextHandle = s.backend.store.nextHandle) s := by
  have hyields : (run b seeds threads total items raw action).Yields .handleless
      fun _ => True := by
    obtain ⟨e, hplan⟩ | ⟨tasks, hplan⟩ | hpanic := plan_cases b seeds threads total items raw action
    · rw [run_of_plan_error hplan]
      exact .done trivial
    · refine yields_run (R := fun _ => True) (fun _ => Manners.handleless_asks) hplan
        (fun t ht => ?_) (fun _ _ _ _ _ => trivial) (fun _ => trivial) fun _ => trivial
      obtain ⟨parts, payload, -, -, -, rfl⟩ := exists_of_plan_eq_ok hplan
      obtain ⟨p, -, rfl⟩ := List.mem_map.1 ht
      exact yields_containers haction _ _ _
    · rw [hpanic]
      exact .panic trivial
  exact (hyields.ends (World.responsive World.exists_reading) (Manners.kept_handleless _)
    ⟨hs, rfl⟩).mono fun _ _ h => h.2.2

/-! ### Between the two runs -/

/-- After an action that adds something, all containers have what was added to them, and nothing
else has changed. -/
structure Grown (b : Config.Backend) (st : Store) (slots total items : Nat) (action : Action)
    (s : World (Shared Client)) : Prop where
  pos : 0 < total
  leaves : s.Leaves st slots (namesIn b 1 (total + 1))
  quiet : ∀ i, s.Quiet i
  added : ∀ n, 1 ≤ n → n ≤ total → Added b items n action
    st.containers[Naming.container b.containerPrefix n]?
    s.backend.store.containers[Naming.container b.containerPrefix n]?

lemma card_names (b : Config.Backend) (total : Nat) :
    ((Finset.Icc 1 total).image (Naming.container b.containerPrefix)).card = total := by
  rw [Finset.card_image_of_injective _ fun _ _ h => Naming.container_inj.1 h, Nat.card_Icc,
    Nat.add_sub_cancel]

/-- There are all the containers that something was added to. -/
lemma Grown.le_containerCount (hs : Grown b st slots total items action s) :
    total ≤ s.backend.store.containerCount := by
  have hkeys : (Finset.Icc 1 total).image (Naming.container b.containerPrefix) ⊆
      s.backend.store.containers.keys.toFinset := by
    intro name hname
    obtain ⟨n, hn, rfl⟩ := Finset.mem_image.1 hname
    obtain ⟨hn, hle⟩ := Finset.mem_Icc.1 hn
    rw [List.mem_toFinset, Std.ExtTreeMap.mem_keys, Std.ExtTreeMap.mem_iff_isSome_getElem?]
    exact (hs.added n hn hle).isSome
  calc total
    _ = ((Finset.Icc 1 total).image (Naming.container b.containerPrefix)).card :=
        (card_names b total).symm
    _ ≤ s.backend.store.containers.keys.toFinset.card := Finset.card_le_card hkeys
    _ = s.backend.store.containerCount := s.backend.store.card_keys

/-- A run brings in no more containers than it has for itself. -/
lemma containerCount_le_of_leaves (hs : s.Leaves st slots (namesIn b 1 (total + 1))) :
    s.backend.store.containerCount ≤ st.containerCount + total := by
  have hkeys : s.backend.store.containers.keys.toFinset ⊆ st.containers.keys.toFinset ∪
      (Finset.Icc 1 total).image (Naming.container b.containerPrefix) := by
    intro name hname
    by_cases hown : name ∈ namesIn b 1 (total + 1)
    · obtain ⟨n, hn, hlt, rfl⟩ := hown
      exact Finset.mem_union_right _ (Finset.mem_image_of_mem _ (Finset.mem_Icc.2 ⟨hn, by omega⟩))
    · refine Finset.mem_union_left _ ?_
      simp only [List.mem_toFinset, Std.ExtTreeMap.mem_keys,
        Std.ExtTreeMap.mem_iff_isSome_getElem?] at hname ⊢
      rwa [← hs.containers name hown]
  calc s.backend.store.containerCount
    _ = s.backend.store.containers.keys.toFinset.card := s.backend.store.card_keys.symm
    _ ≤ _ := Finset.card_le_card hkeys
    _ ≤ _ := Finset.card_union_le _ _
    _ = st.containerCount + total := by rw [st.card_keys, card_names]

/-! ### The run that adds -/

/-- A load run that ends with a summary has had a plan, and memory for it. -/
lemma yields_summary :
    (run b seeds threads total items raw action).Yields .any fun o =>
      ∀ summary, o = .ok (.ok summary) → ∃ parts payload,
        Partition.split total threads = .ok parts ∧ Payload.parse action raw = .ok payload ∧
          Fits total threads := by
  obtain ⟨e, hplan⟩ | ⟨tasks, hplan⟩ | hpanic := plan_cases b seeds threads total items raw action
  · rw [run_of_plan_error hplan]
    exact .done nofun
  · obtain ⟨parts, payload, hsplit, -, hpayload, rfl⟩ := exists_of_plan_eq_ok hplan
    -- without memory for the spans, no thread has a share
    refine yields_run (R := fun _ => total / threads * 16 ≤ Job.maxBytes) (fun _ _ => trivial)
      hplan (fun t ht => ?_) (fun hhandles shares hlength hspans _ _ _ => ?_) (fun _ => nofun)
      fun _ => nofun
    · obtain ⟨p, hp, rfl⟩ := List.mem_map.1 ht
      by_cases hfits : total / threads * 16 ≤ Job.maxBytes
      · exact (Program.yields_any _).mono fun _ _ => hfits
      · unfold thread
        rw [Partition.size_of_split hsplit hp, containers_of_no_memory (Nat.lt_of_not_le hfits)]
        exact .panic _
    · have hsome : 0 < shares.length := by
        obtain ⟨share, -, hthreads, -, rfl⟩ := Partition.split_eq_ok_iff.1 hsplit
        simpa [hlength] using hthreads
      obtain ⟨share, hshare⟩ := List.exists_mem_of_length_pos hsome
      exact ⟨parts, payload, hsplit, hpayload, hhandles, hspans share hshare⟩
  · rw [hpanic]
    exact .panic nofun

/-- With a plan, each thread adds to its own containers, and without a failure, to all of them. -/
lemma ends_adding_of_plan (hback : action.inverse? = some back) {parts : List Partition}
    (hsplit : Partition.split total threads = .ok parts) {payload : Payload}
    (hpayload : Payload.parse action raw = .ok payload)
    (hmemory : Fits total threads) (hs : s.backend.Coherent) (hissued : s.backend.issued = [])
    (seeds : Seeds) :
    (run b seeds threads total items raw action).Ends (World.steady fun _ => True)
      (fun _ _ _ _ => True) World.underway
      (fun outcome s' => ∀ summary, outcome = .ok (.ok summary) → summary.failures = 0 →
        Grown b s.backend.store s.registry.size total items action s') s := by
  have hclock := World.exists_reading
  have hfree := World.allowsQuestions_true
  have hpos : 0 < total := by
    obtain ⟨share, hshare, hthreads, rfl, -⟩ := Partition.split_eq_ok_iff.1 hsplit
    exact Nat.mul_pos hthreads hshare
  unfold run
  rw [plan_eq_ok hsplit hmemory.partitions hpayload, Run.pure_then]
  refine Run.ends_then hclock (World.sole_clock hfree) ?_
  rintro start s ⟨-, rfl⟩
  rw [Job.reserve_of_le hmemory.handles, Run.pure_then]
  refine ends_shares (b := b) (V := fun p share y => share.tally.failures = 0 →
      ∀ n, p.min + 1 ≤ n → n < p.min + 1 + p.size → Added b items n action
        (s.holdings.container (Naming.container b.containerPrefix n))
        (y.container (Naming.container b.containerPrefix n)))
    hsplit (World.leaves_self hs hissued) (World.quiet_of_issued hissued) (fun k p hp => ?_)
    fun ended shares s' hended hlength hleaves hquiet hshares => ?_
  · have hspans : p.size * 16 ≤ Job.maxBytes := by
      rw [Partition.size_of_split hsplit (List.mem_of_getElem? hp)]
      exact hmemory.spans
    exact does_containers_adding (c := ⟨b, payload, items, _⟩) hback hspans
      (namesIn_subset_names hp) rfl
  · refine hended.ends_settle (Run.ends_then hclock (World.sole_clock hfree) ?_)
    rintro stop s' ⟨-, rfl⟩
    refine Run.ends_then hclock (World.sole_freshId hfree) ?_
    rintro runId s' rfl
    refine Run.ends_pure ?_
    rintro _ ⟨⟩ hclean
    refine ⟨hpos, hleaves, hquiet, fun n hn hle => ?_⟩
    obtain ⟨k, p, share, hp, hshare, hfirst, hlast⟩ := exists_share hsplit hlength hn hle
    obtain ⟨y, hadded, hsame⟩ := hshares k p share hp hshare
    rw [hsame n hfirst hlast]
    refine hadded (Tally.failures_sum_eq_zero.1 hclean _ ?_) n hfirst hlast
    exact List.mem_map_of_mem (List.mem_of_getElem? hshare)

/-- **A run that adds something without a failure** has added everything. -/
lemma ends_adding (hback : action.inverse? = some back) (hs : s.backend.Coherent)
    (hissued : s.backend.issued = []) (seeds : Seeds) :
    (run b seeds threads total items raw action).Ends (World.steady fun _ => True)
      (fun _ _ _ _ => True) World.underway
      (fun outcome s' => ∀ summary, outcome = .ok (.ok summary) → summary.failures = 0 →
        Grown b s.backend.store s.registry.size total items action s') s := by
  by_cases hplan : ∃ parts payload, Partition.split total threads = .ok parts ∧
      Payload.parse action raw = .ok payload ∧ Fits total threads
  · obtain ⟨parts, payload, hsplit, hpayload, hmemory⟩ := hplan
    exact ends_adding_of_plan hback hsplit hpayload hmemory hs hissued seeds
  · refine Run.Ends.mono (yields_summary.ends (World.responsive World.exists_reading)
      Manners.kept_any trivial) ?_
    exact fun outcome s' ho summary hok => absurd (ho.1 summary hok) hplan

/-! ### The run that takes away -/

/-- What there are entries for can be shared out in memory. -/
lemma fits_of_le_containerCount (hfits : st.Fits) (hle : total ≤ st.containerCount)
    (hpos : 0 < total) (hdvd : threads ∣ total) : Fits total threads where
  handles := by
    have hthreads := Nat.le_of_dvd hpos hdvd
    exact (Nat.mul_le_mul_right _ (hthreads.trans hle)).trans hfits
  spans := by
    have hshare := Nat.div_le_self total threads
    exact (Nat.mul_le_mul (hshare.trans hle) (by decide)).trans hfits

/-- If all containers are as they were, then the store is, but for the numbers. -/
lemma store_eq_of_leaves (hst : st.Coherent) (hleaves : s.Leaves st slots (namesIn b 1 (total + 1)))
    (hquiet : ∀ i, s.Quiet i)
    (hsame : ∀ n, 1 ≤ n → n ≤ total →
      s.backend.store.containers[Naming.container b.containerPrefix n]? =
        st.containers[Naming.container b.containerPrefix n]?) :
    s.backend.store = { st with nextHandle := s.backend.store.nextHandle } := by
  have hcontainer : ∀ name ∈ namesIn b 1 (total + 1),
      s.backend.store.containers[name]? = st.containers[name]? := by
    rintro _ ⟨n, hn, hlt, rfl⟩
    exact hsame n hn (by omega)
  have hcontainers : s.backend.store.containers = st.containers := by
    refine Std.ExtTreeMap.ext_getElem? fun name => ?_
    by_cases hname : name ∈ namesIn b 1 (total + 1)
    · exact hcontainer name hname
    · exact hleaves.containers name hname
  have hopened : s.backend.store.opened = st.opened := by
    refine hleaves.opened_eq hst fun name hname => ?_
    rw [Store.holder, Store.holder, hcontainer name hname]
  rw [← hcontainers, ← hopened, ← hleaves.searches_eq hst hquiet]

/-- **A run that takes away what was added** has no failure, and leaves nothing of it behind but
the numbers of the handles. -/
lemma ends_undoing (hback : action.inverse? = some back) (hst : st.Coherent)
    (hs : Grown b st slots total items action s) (hfits : s.backend.store.Fits)
    (hdvd : threads ∣ total) {payload : Payload} (hpayload : Payload.parse back raw = .ok payload)
    (seeds : Seeds) :
    (run b seeds threads total items raw back).Ends (World.steady fun _ => True)
      (fun _ _ _ _ => True) World.underway
      (fun outcome s' => (∃ summary, outcome = .ok (.ok summary) ∧ summary.failures = 0) ∧
        s'.backend.store = { st with nextHandle := s'.backend.store.nextHandle }) s := by
  have hclock := World.exists_reading
  have hfree := World.allowsQuestions_true
  obtain ⟨parts, hsplit⟩ := Partition.exists_split_of_dvd hs.pos hdvd
  have hmemory := fits_of_le_containerCount hfits hs.le_containerCount hs.pos hdvd
  unfold run
  rw [plan_eq_ok hsplit hmemory.partitions hpayload, Run.pure_then]
  refine Run.ends_then hclock (World.sole_clock hfree) ?_
  rintro start s ⟨-, rfl⟩
  rw [Job.reserve_of_le hmemory.handles, Run.pure_then]
  refine ends_partitions (V := fun _ share => share.tally.failures = 0) hsplit
    (fun n => Added b items n action st.containers[Naming.container b.containerPrefix n]?)
    (fun n c => c = st.containers[Naming.container b.containerPrefix n]?)
    hs.leaves hs.quiet hs.added (fun k p x hp hsearch hadded => ?_)
    fun ended shares s' hended hlength hshares hleaves hquiet hsame => ?_
  · have hspans : p.size * 16 ≤ Job.maxBytes := by
      rw [Partition.size_of_split hsplit (List.mem_of_getElem? hp)]
      exact hmemory.spans
    exact does_containers_undoing (c := ⟨b, payload, items, _⟩) hback hspans
      (namesIn_subset_names hp) hsearch hadded
  · refine hended.ends_settle (Run.ends_then hclock (World.sole_clock hfree) ?_)
    rintro stop s' ⟨-, rfl⟩
    refine Run.ends_then hclock (World.sole_freshId hfree) ?_
    rintro runId s' rfl
    refine Run.ends_pure ⟨⟨_, rfl, ?_⟩, ?_⟩
    · refine Tally.failures_sum_eq_zero.2 fun tally htally => ?_
      obtain ⟨share, hshare, rfl⟩ := List.mem_map.1 htally
      obtain ⟨p, -, hclean⟩ := hshares share hshare
      exact hclean
    · exact store_eq_of_leaves hst hleaves hquiet hsame

/-! ### One after the other -/

/-- If the first of two runs reports no failure, then neither does the second, and the store is then
as `restored` says. -/
def Undone (first second : Session (Except RunError Summary)) (restored : Store → Prop)
    (s : World (Shared Client)) : Prop :=
  Inevitably (World.moves (Shared.service Client)) (fun _ _ _ _ => True)
    (fun outcome s => ∀ summary, outcome = .ok (.ok summary) → summary.failures = 0 →
      s.backend.store.Fits →
        Inevitably (World.moves (Shared.service Client)) (fun _ _ _ _ => True)
          (fun outcome s => (∃ summary, outcome = .ok (.ok summary) ∧ summary.failures = 0) ∧
            restored s.backend.store)
          (.alone second) s)
    (.alone first) s

/-- **Bulk deleting undoes bulk adding.**  Whatever the clients have done to a store, let a load run
add items to it, or create containers, and report no failure.  Then a load run that deletes as many
items of as many containers, or as many containers, has no failure either, and everything is as it
was: the containers with all that is in them, the open handles and the searches.  Only the handles
that the two runs have used up are not given out again; no handle is used up for containers.  The
numbers of the threads need not be the same, and however the steps of the threads mix, both runs
come to an end.

The number of threads of the second run has to divide the number of containers, its payload has to
make sense, and the store in between has to be one that there is memory for. -/
theorem bulk_delete_undoes_bulk_add {κ : Type} [DecidableEq κ] {es : List (Shared.Event κ)}
    {prior : Shared κ} (hprior : Shared.Run (.start .empty) es prior) {threads' : Nat}
    (hdvd : threads' ∣ total) {raw' : String} {payload : Payload}
    (hpayload : Payload.parse .deleteItem raw' = .ok payload) (b : Config.Backend)
    (seeds seeds' : Seeds) (threads items : Nat) (raw : String) (registry : Registry)
    (statuses : List Worker.Status) :
    Undone (run b seeds threads total items raw .addItem)
      (run b seeds' threads' total items raw' .deleteItem)
      (fun st => st = { prior.store with nextHandle := st.nextHandle })
      ⟨.start prior.store, registry, statuses⟩ ∧
    Undone (run b seeds threads total items raw .addContainer)
      (run b seeds' threads' total items raw' .deleteContainer) (· = prior.store)
      ⟨.start prior.store, registry, statuses⟩ := by
  have hst := ((Shared.coherent_start (ι := κ) Store.coherent_empty).run hprior).store
  have hs : Shared.Coherent (.start prior.store : Shared Client) := Shared.coherent_start hst
  unfold Undone
  rw [← World.steady_true]
  constructor
  · refine Inevitably.mono (ends_adding Action.inverse?_addItem hs rfl seeds fun _ => rfl)
      (fun _ _ _ _ h => h) ?_
    rintro outcome s ⟨hfree, hgrown⟩ summary hok hclean hfits
    have hundoing := ends_undoing Action.inverse?_addItem hst (hgrown summary hok hclean) hfits
      hdvd hpayload seeds'
    exact hundoing.inevitably hfree
  · refine Inevitably.mono (((ends_adding Action.inverse?_addContainer hs rfl seeds).and
      (ends_run_handleless (.inl rfl) hs)) fun _ => rfl) (fun _ _ _ _ h => h) ?_
    rintro outcome s ⟨hfree, hgrown, hnumber⟩ summary hok hclean hfits
    have hgrown := hgrown summary hok hclean
    have hundoing := (ends_undoing Action.inverse?_addContainer hst hgrown hfits hdvd hpayload
      seeds').and (ends_run_handleless (.inr rfl) hgrown.leaves.coherent)
    refine (hundoing.mono ?_).inevitably hfree
    rintro outcome' s' ⟨⟨hreport, hstore⟩, hnumber'⟩
    refine ⟨hreport, ?_⟩
    rw [hstore, hnumber', hnumber]
    rfl

/-- Two threads delete the items that one thread has added to two containers, beside a container
that somebody else has open. -/
theorem bulk_delete_undoes_six_additions :
    ∃ (es : List (Shared.Event Unit)) (prior : Shared Unit), Shared.Run (.start .empty) es prior ∧
      prior.store.isOpen "other" = true ∧
      Inevitably (World.moves (Shared.service Client)) (fun _ _ _ _ => True)
        (fun outcome s => (∃ summary, outcome = .ok (.ok summary) ∧ summary.failures = 0) ∧
          s.backend.store.itemCount "wallet_2" = some 3 ∧
          Inevitably (World.moves (Shared.service Client)) (fun _ _ _ _ => True)
            (fun outcome s => (∃ summary, outcome = .ok (.ok summary) ∧ summary.failures = 0) ∧
              s.backend.store = { prior.store with nextHandle := s.backend.store.nextHandle })
            (.alone (run {} ⟨8⟩ 2 2 3 "" .deleteItem)) s)
        (.alone (run {} ⟨7⟩ 1 2 3 "" .addItem)) ⟨.start prior.store, .new 0, []⟩ := by
  let creation (name : String) : Call := .createContainer name "default" "\x7b\x7d" "\x7b\x7d"
  let opening : Call := .openContainer "other" "\x7b\x7d"
  let answered (s : Shared Unit) (call : Call) : Shared Unit :=
    { s with store := (s.store.answer call).2 }
  let created := answered (answered (answered (.start .empty) (creation "wallet_1"))
    (creation "wallet_2")) (creation "other")
  let prior := (created.take () opening).conclude () opening 1
  have hprior : Shared.Run (.start .empty) _ prior := Shared.Run.nil (.start .empty)
    |>.snoc (@Shared.Step.answered _ _ _ () (creation "wallet_1") rfl rfl)
    |>.snoc (@Shared.Step.answered _ _ _ () (creation "wallet_2") rfl rfl)
    |>.snoc (@Shared.Step.answered _ _ _ () (creation "other") rfl rfl)
    |>.snoc (@Shared.Step.took _ _ _ () opening rfl rfl)
    |>.snoc (@Shared.Step.concluded _ _ _ () opening 1 rfl)
  have hpayload (action : Action) (h : action = .addItem ∨ action = .deleteItem) :
      Payload.parse action "" = .ok ⟨"", ∅, []⟩ := by
    obtain rfl | rfl := h <;> rfl
  have hready : Ready {} prior.store 0 2 (some 0)
      (⟨.start prior.store, .new 0, []⟩ : World (Shared Client)) := by
    have hst := ((Shared.coherent_start (ι := Unit) Store.coherent_empty).run hprior).store
    refine ⟨World.leaves_self (s := ⟨.start prior.store, .new 0, []⟩) (Shared.coherent_start hst)
      rfl, World.quiet_of_issued rfl, fun n hn hle => ⟨.empty, ?_, rfl, .empty⟩⟩
    obtain rfl | rfl : n = 1 ∨ n = 2 := by omega
    · rfl
    · rfl
  have hadding : Inevitably (World.moves (Shared.service Client)) (fun _ _ _ _ => True)
      (fun outcome s => (∃ summary, outcome = .ok (.ok summary) ∧ summary.failures = 0) ∧
        Ready {} prior.store 0 2 (some 3) s)
      (.alone (run {} ⟨7⟩ 1 2 3 "" .addItem)) ⟨.start prior.store, .new 0, []⟩ := by
    rw [← World.steady_true]
    refine Run.Ends.inevitably (Run.Ends.mono (ends_run ⟨by decide +kernel, by decide +kernel⟩ rfl
      (hpayload .addItem (.inl rfl)) nofun ⟨by decide, by decide⟩ hready ⟨7⟩) ?_) fun _ => rfl
    rintro outcome s ⟨⟨summary, hok, hclean, -⟩, hready⟩
    exact ⟨⟨summary, hok, hclean⟩, hready⟩
  obtain ⟨hundone, -⟩ := bulk_delete_undoes_bulk_add hprior (by decide : 2 ∣ 2)
    (hpayload .deleteItem (.inr rfl)) {} ⟨7⟩ ⟨8⟩ 1 3 "" (.new 0) []
  refine ⟨_, prior, hprior, by decide, ?_⟩
  refine (hadding.and hundone).mono (fun _ _ _ _ _ => trivial) ?_
  rintro outcome s ⟨⟨⟨summary, rfl, hclean⟩, hgrown⟩, hundone⟩
  have hfits : s.backend.store.Fits := by
    have hcount := containerCount_le_of_leaves hgrown.leaves
    have hprior : prior.store.containerCount = 3 := by decide
    unfold Store.Fits Job.maxBytes Job.namedHandleBytes
    omega
  exact ⟨⟨summary, rfl, hclean⟩, (hgrown.stands 2 (by decide) (by decide)).itemCount_eq,
    hundone summary rfl hclean hfits⟩

end Load

end Soak
