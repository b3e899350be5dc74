import Soak.Proofs.Longevity.Estate
import Soak.Proofs.Store.Pages

/-!
# Iterations that keep counters true

On a store in memory whose calls may fail, an iteration changes a container and its counter
in step.  `Truth.outline` says what a worker sees at each point of an iteration, and
`Truth.outline_valid` goes through its calls: what the store answers, and what a failure
leaves behind.  At the end the counter tells the truth again, and the result of the
iteration says what has failed (`Verdict`).
-/

namespace Soak

variable {ι : Type}

/-- The texts that are passed on to the store are JSON. -/
def Config.Backend.Readable (b : Config.Backend) : Prop :=
  (Json.ofText? b.storageConfig).isSome ∧ (Json.ofText? b.credentials).isSome

/-- None of the calls closes a container. -/
def NoClose (calls : List Call) : Prop :=
  ∀ h, Call.closeContainer h ∉ calls

/-- What an iteration says of the calls that failed in it.  `stuck` says that its container
had been left open before. -/
def Verdict (b : Config.Backend) (stuck : Prop) (failed : List Call) : Iteration → Prop
  | .completed _ _ after reported => ¬ stuck ∧ NoClose failed ∧
    (∀ k, reported = some k → (k : Int) = after) ∧ (reported = none → failed ≠ [])
  | .createFailed _ => ¬ stuck ∧ NoClose failed ∧ (failed ≠ [] ∨ ¬ b.Readable)
  | .openFailed _ => NoClose failed ∧ (failed ≠ [] ∨ ¬ b.Readable ∨ stuck)
  | .closeFailed _ _ _ => ¬ stuck ∧ ∃ h, Call.closeContainer h ∈ failed

namespace Truth

open Estate

/-- The container is open under a handle, and has `k` items; its counter is `v`.  The calls
that failed since `before` are none that close containers. -/
structure Open (b : Config.Backend) (top : Int) (stuck : Prop) (before : List Call)
    (h : Container.Handle) (v k : Int) (x : Sight) : Prop where
  free : ¬ stuck
  slot : x.slot = v
  low : v ≤ top
  container : ∃ c, x.container = some c ∧ c.openHandle = some h.number ∧ Holds b c k
  failures : ∃ failed, x.failures = failed ++ before ∧ NoClose failed

/-- What a page says if the store gave it, and what a missing page says. -/
structure Tells (before : List Call) (v : Int) (page : Except CallError Json) (x : Sight) :
    Prop where
  written : ∀ j, page = .ok j → ∃ records, Search.Page.decode j = .ok ⟨some v.toNat, records⟩
  missing : ∀ e, page = .error e → x.failures ≠ before

/-- The counter tells the truth, and the iteration says what has failed. -/
structure Finished (b : Config.Backend) (top : Int) (n : Nat) (stuck : Prop)
    (before : List Call) (it : Iteration) (x : Sight) : Prop where
  number : it.container = n
  low : x.slot ≤ top
  truth : Accounts b x.slot x.container
  isOpen : (∃ c, x.container = some c ∧ c.openHandle.isSome) ↔
    stuck ∨ ∃ first last, it = .closeFailed n first last
  verdict : ∃ failed, x.failures = failed ++ before ∧ Verdict b stuck failed it

/-- What a worker sees at the points of an iteration. -/
def outline (e : Estate ι) (n : Nat) (leftOpen : Nat → Prop) (before : List Call) :
    Worker.Outline (Faulty ι) where
  absent := e.At n leftOpen fun x => ¬ leftOpen n ∧ x.slot = Registry.absent ∧
    x.container = none ∧ x.failures = before
  created := e.At n leftOpen fun x => ¬ leftOpen n ∧ x.failures = before ∧
    ∃ c, x.container = some c ∧ c.openHandle = none ∧ Holds e.backend c 0
  closed v := e.At n leftOpen fun x => x.slot = v ∧ v ≤ e.top ∧ x.failures = before ∧
    ∃ c, x.container = some c ∧ (c.openHandle.isSome ↔ leftOpen n) ∧ Holds e.backend c v
  opened h v k := e.At n leftOpen (Open e.backend e.top (leftOpen n) before h v k)
  searching h v k := e.At n leftOpen fun x => Open e.backend e.top (leftOpen n) before h v v x ∧
    ∃ q, x.search = some (k.number, q) ∧ q.totalCount = v.toNat ∧ q.options = .all
  fetched h v k page := e.At n leftOpen fun x =>
    Open e.backend e.top (leftOpen n) before h v v x ∧ (∃ q, x.search = some (k.number, q)) ∧
      Tells before v page x
  read h v page := e.At n leftOpen fun x =>
    Open e.backend e.top (leftOpen n) before h v v x ∧ Tells before v page x
  counted h v reported := e.At n leftOpen fun x =>
    Open e.backend e.top (leftOpen n) before h v v x ∧
      (∀ k, reported = some k → (k : Int) = v) ∧ (reported = none → x.failures ≠ before)
  finished it := e.At n leftOpen (Finished e.backend e.top n (leftOpen n) before it)

variable {e : Estate ι} {n : Nat} {leftOpen : Nat → Prop} {before : List Call}
  {h : Container.Handle} {v k : Int} {x : Sight}

/-- What is known of an open container does not depend on the search. -/
lemma Open.withSearch {stuck : Prop} {b : Config.Backend} {top : Int}
    (hx : Open b top stuck before h v k x) (search : Option (Int × Search)) :
    Open b top stuck before h v k { x with search } :=
  ⟨hx.free, hx.slot, hx.low, hx.container, hx.failures⟩

/-- A call that fails leaves an open container as it is. -/
lemma Open.fail {stuck : Prop} {b : Config.Backend} {top : Int}
    (hx : Open b top stuck before h v k x) {c : Call} (hc : ∀ h, c ≠ .closeContainer h) :
    Open b top stuck before h v k { x with failures := c :: x.failures } := by
  obtain ⟨failed, hf, hno⟩ := hx.failures
  refine ⟨hx.free, hx.slot, hx.low, hx.container, c :: failed, by simp [hf], fun h' hmem => ?_⟩
  rcases List.mem_cons.1 hmem with heq | hmem
  · exact hc h' heq.symm
  · exact hno h' hmem

/-- After a failure there is one more than before. -/
lemma Open.failures_ne {stuck : Prop} {b : Config.Backend} {top : Int}
    (hx : Open b top stuck before h v k x) {c : Call} : c :: x.failures ≠ before := by
  obtain ⟨failed, hf, -⟩ := hx.failures
  intro heq
  have := congrArg List.length heq
  simp only [hf, List.length_cons, List.length_append] at this
  omega

/-- A call with the handle of the container is about what the worker sees. -/
lemma Open.covers {stuck : Prop} {b : Config.Backend} {top : Int}
    (hx : Open b top stuck before h v k x) {c : Call} (hhandle : c.containerHandle? = some h) :
    e.Covers n x c := by
  obtain ⟨d, hd, hopen, -⟩ := hx.container
  refine ⟨fun name hname => ?_, fun h' hh' => ?_, fun k hk => ?_⟩
  · cases c <;> simp [Call.containerName?, Call.containerHandle?] at hname hhandle
  · obtain rfl : h = h' := Option.some.inj (hhandle.symm.trans hh')
    exact ⟨d, hd, hopen⟩
  · cases c <;> simp [Call.searchHandle?, Call.containerHandle?] at hk hhandle

/-- A call with the handle of a search is about what the worker sees. -/
lemma covers_of_search {k : Search.Handle} (hx : ∃ q, x.search = some (k.number, q)) {c : Call}
    (hsearch : c.searchHandle? = some k) : e.Covers n x c := by
  refine ⟨fun name hname => ?_, fun h' hh' => ?_, fun k' hk' => ?_⟩
  · cases c <;> simp [Call.containerName?, Call.searchHandle?] at hname hsearch
  · cases c <;> simp [Call.containerHandle?, Call.searchHandle?] at hh' hsearch
  · obtain rfl : k = k' := Option.some.inj (hsearch.symm.trans hk')
    exact hx

/-! ### Creating and opening -/

/-- A container that was not created does not exist, and its counter says so. -/
lemma finished_createFailed {b : Config.Backend} {top : Int} {stuck : Prop} (failed : List Call)
    (htop : 0 ≤ top) (hno : NoClose failed) (hfree : ¬ stuck) (hslot : x.slot = Registry.absent)
    (hc : x.container = none) (hf : x.failures = failed ++ before)
    (hwhy : failed ≠ [] ∨ ¬ b.Readable) :
    Finished b top n stuck before (.createFailed n) x := by
  refine ⟨rfl, ?_, ?_, ?_, failed, hf, hfree, hno, hwhy⟩
  · rw [hslot]
    exact Int.le_trans (by decide) htop
  · rw [hc]
    exact hslot
  · simp [hc, hfree]

/-- A container that was not opened is as it was. -/
lemma finished_openFailed {b : Config.Backend} {top : Int} {stuck : Prop} (failed : List Call)
    {c : Container} (hno : NoClose failed) (hslot : x.slot = v) (hlow : v ≤ top)
    (hc : x.container = some c) (hopen : c.openHandle.isSome ↔ stuck) (hholds : Holds b c v)
    (hf : x.failures = failed ++ before) (hwhy : failed ≠ [] ∨ ¬ b.Readable ∨ stuck) :
    Finished b top n stuck before (.openFailed n) x := by
  refine ⟨rfl, ?_, ?_, ?_, failed, hf, hno, hwhy⟩
  · rw [hslot]
    exact hlow
  · rw [hc, hslot]
    exact hholds
  · simp [hc, hopen]

/-- A call with the name of the container is about what the worker sees. -/
lemma covers_of_name {c : Call} (hname : c.containerName? = some (e.name n))
    (hhandle : c.containerHandle? = none) (hsearch : c.searchHandle? = none) :
    e.Covers n x c where
  byName name h := Option.some.inj (h.symm.trans hname)
  byHandle h hh := by
    rw [hhandle] at hh
    cases hh
  bySearch k hk := by
    rw [hsearch] at hk
    cases hk

variable [DecidableEq ι]

lemma calls_create (hn : e.view.contains n = true) (htop : 0 ≤ e.top) (storageType : String) :
    Calls (Faulty.service ι) e.thread (e.duty n) (outline e n leftOpen before).absent
      (.createContainer (e.name n) storageType e.backend.storageConfig e.backend.credentials)
      (Outcome (fun _ => (outline e n leftOpen before).created)
        ((outline e n leftOpen before).finished (.createFailed n))) := by
  refine calls_at hn (fun x _ => covers_of_name rfl rfl rfl) ?_ ?_
  · rintro x s a t ⟨hfree, hslot, hc, hf⟩ hx step
    obtain ⟨rfl, rfl⟩ := step.eq_answer hx.coherent rfl
    have hstore : s.backend.shared.store.containers[e.name n]? = none := hx.container.trans hc
    rcases Store.createContainer_of_absent (e.name_ne_empty n) hstore e.backend.storageConfig
      e.backend.credentials with he | ⟨⟨err, he⟩, hread⟩
    · simp only [Store.answer, he]
      refine ⟨{ x with container := some .empty, search := none }, rfl, rfl,
        Store.put_containers_self _ _ _, by simp, fun s' hs' => ⟨_, ?_, hs'⟩⟩
      exact ⟨hfree, hf, _, rfl, rfl, Holds.empty _⟩
    · simp only [Store.answer, he]
      refine ⟨{ x with search := none }, rfl, rfl, hx.container, by simp,
        fun s' hs' => ⟨_, ?_, hs'⟩⟩
      exact finished_createFailed [] htop (by simp [NoClose]) hfree hslot hc hf (.inr hread)
  · rintro x err s' ⟨hfree, hslot, hc, hf⟩ hs'
    refine ⟨_, ?_, hs'⟩
    exact finished_createFailed [_] htop (by simp [NoClose]) hfree hslot hc
      (congrArg (List.cons _) hf) (.inl (by simp))

lemma calls_open (hn : e.view.contains n = true) (v : Int) :
    Calls (Faulty.service ι) e.thread (e.duty n) ((outline e n leftOpen before).closed v)
      (.openContainer (e.name n) e.backend.credentials)
      (Outcome (fun h => (outline e n leftOpen before).opened h v v)
        ((outline e n leftOpen before).finished (.openFailed n))) := by
  refine calls_at hn (fun x _ => covers_of_name rfl rfl rfl) ?_ ?_
  · rintro x s a t ⟨hslot, hlow, hf, c, hc, hopen, hholds⟩ hx step
    have hstore : s.backend.shared.store.containers[e.name n]? = some c := hx.container.trans hc
    by_cases hread : (Json.ofText? e.backend.credentials).isSome
    · -- the credentials are read, and a number is taken
      obtain ⟨number, hissued, hfresh, rfl, rfl⟩ := step.eq_conclude hx.coherent hread
      cases hclosed : c.openHandle with
      | some other =>
        have he := Store.attach_of_open hstore (by simp [hclosed]) number
        simp only [Shared.conclude, Store.conclude, he]
        refine ⟨{ x with search := none }, rfl, rfl, hx.container, by simp,
          fun s' hs' => ⟨_, ?_, hs'⟩⟩
        exact finished_openFailed [] (by simp [NoClose]) hslot hlow hc hopen hholds hf
          (.inr (.inr (hopen.1 (by simp [hclosed]))))
      | none =>
        have he := Store.attach_of_closed hstore hclosed number
        simp only [Shared.conclude, Store.conclude, he]
        refine ⟨{ x with container := some { c with openHandle := some number }, search := none },
          rfl, rfl, Store.put_containers_self _ _ _, by simp, fun s' hs' => ⟨_, ?_, hs'⟩⟩
        refine ⟨?_, hslot, hlow, ⟨_, rfl, rfl, hholds.of_items rfl⟩, [], hf, by simp [NoClose]⟩
        rw [← hopen, hclosed]
        simp
    · have htakes : (Call.openContainer (e.name n) e.backend.credentials).takesNumber = false := by
        simpa [Call.takesNumber] using hread
      obtain ⟨rfl, rfl⟩ := step.eq_answer hx.coherent htakes
      have he : s.backend.shared.store.openContainer (e.name n) e.backend.credentials =
          (.error (.invalidStructure .credentials), s.backend.shared.store) := by
        simp [Store.openContainer, Store.requireJson, hread]
      simp only [Store.answer, he]
      refine ⟨{ x with search := none }, rfl, rfl, hx.container, by simp,
        fun s' hs' => ⟨_, ?_, hs'⟩⟩
      exact finished_openFailed [] (by simp [NoClose]) hslot hlow hc hopen hholds hf
        (.inr (.inl fun hr => hread hr.2))
  · rintro x err s' ⟨hslot, hlow, hf, c, hc, hopen, hholds⟩ hs'
    refine ⟨_, ?_, hs'⟩
    exact finished_openFailed [_] (by simp [NoClose]) hslot hlow hc hopen hholds
      (congrArg (List.cons _) hf) (.inl (by simp))

/-! ### Items -/

/-- A call on items is answered from the open container, and the container stays open: with
`k` items if the call succeeds, and with those that it had if it is refused. -/
lemma calls_items (k : Int) (hn : e.view.contains n = true) {c : Call}
    (hhandle : c.containerHandle? = some h) (htakes : c.takesNumber = false)
    (hclose : ∀ h, c ≠ .closeContainer h)
    (hanswer : ∀ (st : Store) (d : Container), st.Coherent →
      st.containers[e.name n]? = some d → d.openHandle = some h.number → Holds e.backend d v →
      ∃ d' : Container, (st.answer c).2.containers[e.name n]? = some d' ∧
        d'.openHandle = some h.number ∧
        Holds e.backend d' (if (st.answer c).1.isOk then k else v))
    {K : c.Answer → World (Faulty ι) → Prop} (hK : ∀ a s,
      (outline e n leftOpen before).opened h v (if a.isOk then k else v) s → K a s) :
    Calls (Faulty.service ι) e.thread (e.duty n) ((outline e n leftOpen before).opened h v v) c
      K := by
  refine calls_at hn (fun x hx => hx.covers hhandle) ?_ ?_
  · rintro x s a t hopen hx step
    obtain ⟨rfl, rfl⟩ := step.eq_answer hx.coherent htakes
    obtain ⟨d, hd, hh, hholds⟩ := hopen.container
    obtain ⟨d', hd', hh', hholds'⟩ :=
      hanswer _ d hx.coherent.store (hx.container.trans hd) hh hholds
    refine ⟨{ x with container := some d', search := none }, rfl, rfl, hd', by simp,
      fun s' hs' => hK _ _ ⟨_, ?_, hs'⟩⟩
    exact ⟨hopen.free, hopen.slot, hopen.low, ⟨d', rfl, hh', hholds'⟩, hopen.failures⟩
  · exact fun x err s' hopen hs' => hK _ _ ⟨_, hopen.fail hclose, hs'⟩

lemma calls_add (hn : e.view.contains n = true) (h : Container.Handle) (v : Int) (value : String)
    (attributes : Attributes) :
    Calls (Faulty.service ι) e.thread (e.duty n) ((outline e n leftOpen before).opened h v v)
      (.addItem h e.backend.itemType (Naming.lifecycleItem e.backend.itemIdPrefix (v + 1)) value
        attributes)
      (Outcome (fun _ => (outline e n leftOpen before).opened h v (v + 1))
        ((outline e n leftOpen before).opened h v v)) := by
  refine calls_items (v + 1) hn rfl rfl (by simp) ?_ fun a s hs => by cases a <;> exact hs
  intro st d hst hd hh hholds
  have he := hst.addItem_of_handle hd hh hholds.not_mem_next value attributes
  simp only [Store.answer, he]
  exact ⟨_, Store.put_containers_self _ _ _, hh, hholds.insert _⟩

lemma calls_delete (hn : e.view.contains n = true) (h : Container.Handle) (hv : 0 < v) :
    Calls (Faulty.service ι) e.thread (e.duty n) ((outline e n leftOpen before).opened h v v)
      (.deleteItem h e.backend.itemType (Naming.lifecycleItem e.backend.itemIdPrefix v))
      (Outcome (fun _ => (outline e n leftOpen before).opened h v (v - 1))
        ((outline e n leftOpen before).opened h v v)) := by
  refine calls_items (v - 1) hn rfl rfl (by simp) ?_ fun a s hs => by cases a <;> exact hs
  intro st d hst hd hh hholds
  have he := hst.deleteItem_of_handle hd hh (hholds.mem_newest hv)
  simp only [Store.answer, he]
  exact ⟨_, Store.put_containers_self _ _ _, hh, hholds.erase hv⟩

lemma calls_get (hn : e.view.contains n = true) (h : Container.Handle) (v : Int)
    (itemType id : String) (options : Item.Options) :
    Calls (Faulty.service ι) e.thread (e.duty n) ((outline e n leftOpen before).opened h v v)
      (.getItem h itemType id options) fun _ => (outline e n leftOpen before).opened h v v := by
  refine calls_items v hn rfl rfl (by simp) ?_ fun a s hs => by rwa [ite_self] at hs
  intro st d hst hd hh hholds
  refine ⟨d, ?_, hh, by rwa [ite_self]⟩
  simp only [Store.answer, Store.getItem_snd]
  exact hd

lemma calls_update (hn : e.view.contains n = true) (h : Container.Handle) (v : Int)
    (itemType id value : String) :
    Calls (Faulty.service ι) e.thread (e.duty n) ((outline e n leftOpen before).opened h v v)
      (.updateItemValue h itemType id value)
      fun _ => (outline e n leftOpen before).opened h v v := by
  refine calls_items v hn rfl rfl (by simp) ?_ fun a s hs => by rwa [ite_self] at hs
  intro st d hst hd hh hholds
  rw [ite_self]
  rcases hst.updateItemValue_of_handle hd hh itemType id value with ⟨err, he⟩ | ⟨item, hmem, he⟩
  · simp only [Store.answer, he]
    exact ⟨d, hd, hh, hholds⟩
  · simp only [Store.answer, he]
    exact ⟨_, Store.put_containers_self _ _ _, hh, hholds.replace hmem item⟩

/-! ### Searching -/

/-- A search for everything finds as many items as the counter says. -/
lemma results_of_holds {b : Config.Backend} {d : Container} (hd : Holds b d v)
    (options : Item.Options) :
    (Store.results d b.itemType (.and []) options).length = v.toNat := by
  have htype : ∀ key ∈ d.items, key.itemType = b.itemType := by
    intro key hkey
    obtain ⟨k, -, -, rfl⟩ := (hd.mem_iff key).1 hkey
    rfl
  rw [Store.length_results htype fun tags => rfl]
  have := hd.size
  omega

lemma calls_search (hn : e.view.contains n = true) (h : Container.Handle) (v : Int) :
    Calls (Faulty.service ι) e.thread (e.duty n) ((outline e n leftOpen before).opened h v v)
      (.openSearch h e.backend.itemType "\x7b\x7d" .all)
      (Outcome (fun k => (outline e n leftOpen before).searching h v k)
        ((outline e n leftOpen before).counted h v none)) := by
  refine calls_at hn (fun x hx => hx.covers rfl) ?_ ?_
  · rintro x s a t hopen hx step
    obtain ⟨number, hissued, hfresh, rfl, rfl⟩ := step.eq_conclude hx.coherent rfl
    obtain ⟨d, hd, hh, hholds⟩ := hopen.container
    have hparse : Query.parse "\x7b\x7d" = .ok (.and []) := rfl
    have he := hx.coherent.store.beginSearch_of_handle (hx.container.trans hd) hh
      e.backend.itemType (.and []) .all number
    let found := Store.results d e.backend.itemType (.and []) Search.Options.all.itemOptions
    simp only [Shared.conclude, Store.conclude, hparse, he]
    refine ⟨{ x with search := some (number, ⟨found.length, found, .all⟩) }, rfl, rfl,
      hx.container, ?_, fun s' hs' => ⟨_, ⟨?_, _, rfl, results_of_holds hholds _, rfl⟩, hs'⟩⟩
    · rintro k q ⟨⟩
      exact ⟨hissued, Std.ExtTreeMap.getElem?_insert_self⟩
    · exact hopen.withSearch _
  · intro x err s' hopen hs'
    exact ⟨_, ⟨hopen.fail (by simp), by simp, fun _ => hopen.failures_ne⟩, hs'⟩

/-- The first page of a search for everything tells the number of results. -/
lemma decode_page {q : Search} (hcount : q.totalCount < 2 ^ 64) (hall : q.options = .all)
    (size : Nat) : ∃ records,
      Search.Page.decode (q.page size).toJson = .ok ⟨some q.totalCount, records⟩ := by
  have hpage : q.page size = ⟨some q.totalCount, some (q.pending.take size)⟩ := by
    simp [Search.page, hall, Search.Options.all]
  have hread : Search.Page.ofJson? (q.page size).toJson = some (q.page size) :=
    Search.Page.ofJson?_toJson (by simpa [hpage] using hcount)
  refine ⟨some (q.pending.take size), ?_⟩
  rw [Search.Page.decode, hread, hpage]

lemma calls_fetch (hn : e.view.contains n = true) (htop : e.top < 2 ^ 63)
    (h : Container.Handle) (v : Int) (k : Search.Handle) (size : Nat) :
    Calls (Faulty.service ι) e.thread (e.duty n) ((outline e n leftOpen before).searching h v k)
      (.fetchNextResults k size)
      fun page => (outline e n leftOpen before).fetched h v k page := by
  refine calls_at hn (fun x hx => covers_of_search (hx.2.imp fun q hq => hq.1) rfl) ?_ ?_
  · rintro x s a t ⟨hopen, q, hq, htotal, hall⟩ hx step
    obtain ⟨rfl, rfl⟩ := step.eq_answer hx.coherent rfl
    obtain ⟨hissued, hcursor⟩ := hx.search _ q hq
    refine ⟨{ x with search := some (k.number, { q with pending := q.pending.drop size }) }, rfl,
      rfl, ?_, ?_, fun s' hs' => ⟨_, ⟨?_, ⟨_, rfl⟩, ?_, ?_⟩, hs'⟩⟩
    · simp only [Store.answer, Store.fetchNextResults_containers]
      exact hx.container
    · rintro k' q' ⟨⟩
      refine ⟨hissued, ?_⟩
      simp only [Store.answer, Store.fetchNextResults, hcursor]
      exact Std.ExtTreeMap.getElem?_insert_self
    · exact hopen.withSearch _
    · intro j hj
      have he : (s.backend.shared.store.fetchNextResults k size).1 = .ok (q.page size).toJson :=
        Store.fetchNextResults_of_search hcursor size
      obtain rfl : (q.page size).toJson = j := Except.ok.inj (he.symm.trans hj)
      have hlow := hopen.low
      rw [← htotal]
      exact decode_page (by omega) hall size
    · intro err herr
      have he : (s.backend.shared.store.fetchNextResults k size).1 = .ok (q.page size).toJson :=
        Store.fetchNextResults_of_search hcursor size
      cases he.symm.trans herr
  · rintro x err s' ⟨hopen, q, hq, -⟩ hs'
    exact ⟨_, ⟨hopen.fail (by simp), ⟨q, hq⟩, by simp, fun _ _ => hopen.failures_ne⟩, hs'⟩

lemma calls_endSearch (hn : e.view.contains n = true) (h : Container.Handle) (v : Int)
    (k : Search.Handle) (page : Except CallError Json) :
    Calls (Faulty.service ι) e.thread (e.duty n)
      ((outline e n leftOpen before).fetched h v k page) (.closeSearch k)
      fun _ => (outline e n leftOpen before).read h v page := by
  refine calls_at hn (fun x hx => covers_of_search hx.2.1 rfl) ?_ ?_
  · rintro x s a t ⟨hopen, -, htells⟩ hx step
    obtain ⟨rfl, rfl⟩ := step.eq_answer hx.coherent rfl
    refine ⟨{ x with search := none }, rfl, rfl, ?_, by simp, fun s' hs' => ⟨_, ⟨?_, ?_⟩, hs'⟩⟩
    · simp only [Store.answer, Store.closeSearch_containers]
      exact hx.container
    · exact hopen.withSearch _
    · exact ⟨htells.written, htells.missing⟩
  · rintro x err s' ⟨hopen, -, htells⟩ hs'
    refine ⟨_, ⟨hopen.fail (by simp), htells.written, fun _ _ => hopen.failures_ne⟩, hs'⟩

/-! ### Closing -/

lemma calls_close (hn : e.view.contains n = true) (h : Container.Handle) (v : Int)
    (reported : Option Nat) (first : Int) :
    Calls (Faulty.service ι) e.thread (e.duty n)
      ((outline e n leftOpen before).counted h v reported) (.closeContainer h)
      (Outcome (fun _ => (outline e n leftOpen before).finished (.completed n first v reported))
        ((outline e n leftOpen before).finished (.closeFailed n first v))) := by
  refine calls_at hn (fun x hx => hx.1.covers rfl) ?_ ?_
  · rintro x s a t ⟨hopen, hreported, hnone⟩ hx step
    obtain ⟨rfl, rfl⟩ := step.eq_answer hx.coherent rfl
    obtain ⟨d, hd, hh, hholds⟩ := hopen.container
    obtain ⟨failed, hf, hno⟩ := hopen.failures
    obtain ⟨he, hclosed⟩ := hx.coherent.store.closeContainer_of_handle (hx.container.trans hd) hh
    simp only [Store.answer, he]
    refine ⟨{ x with container := some { d with openHandle := none }, search := none }, rfl, rfl,
      hclosed, by simp, fun s' hs' => ⟨_, ?_, hs'⟩⟩
    refine ⟨rfl, ?_, ?_, ?_, failed, hf, hopen.free, hno, hreported, fun hr hnil => hnone hr ?_⟩
    · rw [hopen.slot]
      exact hopen.low
    · rw [hopen.slot]
      exact hholds.of_items rfl
    · simp [hopen.free]
    · rw [hf, hnil, List.nil_append]
  · -- the call failed, and the container stays open
    rintro x err s' ⟨hopen, -, -⟩ hs'
    obtain ⟨d, hd, hh, hholds⟩ := hopen.container
    obtain ⟨failed, hf, -⟩ := hopen.failures
    refine ⟨_, ?_, hs'⟩
    refine ⟨rfl, ?_, ?_, ?_, .closeContainer h :: failed, congrArg (List.cons _) hf, hopen.free,
      h, List.mem_cons_self⟩
    · rw [hopen.slot]
      exact hopen.low
    · rw [hopen.slot, hd]
      exact hholds
    · simp [hd, hh]

/-! ### The whole iteration -/

/-- Every call of an iteration does what the outline says. -/
lemma outline_valid {w : Worker} (hbackend : w.backend = e.backend) (hview : w.view = e.view)
    (hceiling : w.policy.ceiling = e.top) (h0 : 0 ≤ e.top) (h63 : e.top < 2 ^ 63)
    (hn : e.view.contains n = true) :
    (outline e n leftOpen before).Valid (Faulty.service ι) e.thread (e.duty n) w n := by
  obtain ⟨number, backend, view, policy, rng⟩ := w
  simp only at hbackend hview hceiling
  subst hbackend hview
  exact
    { clock := fun _ s => ⟨.refl _ s, by simp⟩
      slot := fun _ s => ⟨.refl _ s, by simp⟩
      log := fun entry s hne => ⟨.refl _ s, fun _ _ h => by cases h; exact hne⟩
      absent := by
        rintro s ⟨x, ⟨-, hslot, -⟩, hx⟩
        exact Registry.viewGet_eq hn (hslot ▸ hx.slot)
      create := calls_create hn h0 _
      created := stable_at hn _
      enter := by
        rintro s ⟨x, ⟨hfree, hf, c, hc, hclosed, hholds⟩, hx⟩
        obtain ⟨r, hr, hpledge, hx'⟩ := hx.write hn 0
        refine ⟨r, hr, hpledge, _, ?_, hx'⟩
        exact ⟨rfl, h0, hf, c, hc, by simp [hclosed, hfree], hholds⟩
      closed := by
        rintro v s ⟨x, ⟨hslot, -, -, c, -, -, hholds⟩, hx⟩
        exact ⟨hholds.nonneg, Registry.viewGet_eq hn (hslot ▸ hx.slot)⟩
      opening := calls_open hn
      opened := fun _ _ _ => stable_at hn _
      add := fun h v value _ _ => calls_add hn h v value _
      delete := fun h v hv => calls_delete hn h hv
      write := by
        rintro h v k s ⟨x, hopen, hx⟩ - - - - hlow
        obtain ⟨r, hr, hpledge, hx'⟩ := hx.write hn k
        refine ⟨r, hr, hpledge, _, ?_, hx'⟩
        exact ⟨hopen.free, rfl, hceiling ▸ hlow (hceiling ▸ hopen.low), hopen.container,
          hopen.failures⟩
      get := fun h v id options => calls_get hn h v _ id options
      update := fun h v id value => calls_update hn h v _ id value
      search := calls_search hn
      fetch := fun h v k => calls_fetch hn h63 h v k _
      endSearch := calls_endSearch hn
      read := fun _ _ _ => stable_at hn _
      unread := by
        rintro h v err s ⟨x, ⟨hopen, htells⟩, hx⟩
        exact ⟨x, ⟨hopen, by simp, fun _ => htells.missing err rfl⟩, hx⟩
      uncounted := by
        rintro h v page s ⟨x, ⟨-, htells⟩, -⟩ hno
        obtain ⟨records, hpage⟩ := htells.written page rfl
        exact (hno _ _ hpage).elim
      count := by
        rintro h v page actual records s ⟨x, ⟨hopen, htells⟩, hx⟩ hpage
        obtain ⟨records', hpage'⟩ := htells.written page rfl
        obtain ⟨c, -, -, hholds⟩ := hopen.container
        have hv := hholds.nonneg
        have hlow := hopen.low
        have hactual : (actual : Int) = v := by
          rw [hpage'] at hpage
          cases hpage
          exact Int.toNat_of_nonneg hv
        refine ⟨⟨x, ⟨hopen, ?_, by simp⟩, hx⟩, fun hne => (hne ?_).elim⟩
        · rintro k ⟨⟩
          exact hactual
        · rw [hactual]
          exact Int.bmod_eq_of_le (by omega) (by omega)
      closing := calls_close hn
      finished := fun _ => stable_at hn _ }

end Truth

end Soak
