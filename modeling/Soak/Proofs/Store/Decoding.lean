import Soak.Proofs.Store.Pages
import Soak.Proofs.Store.Snapshots

/-!
# What is read back is what was stored

Clients get pages of search results and items as JSON, and read them back.  A page that is
read back says how many results there are and what the next ones are (`Search.Page.Shows`),
and a record that is read back says what is stored under its id (`Item.Record.Shows`), each
as far as it was asked for and nothing else.
-/

namespace Soak

/-- What a record says of an item: its id, and exactly the parts that were asked for. -/
structure Item.Record.Shows (r : Item.Record) (key : Item.Key) (item : Item)
    (options : Item.Options) : Prop where
  /-- The id. -/
  id : r.id = key.id
  /-- The type, exactly when it was asked for. -/
  itemType : ∀ t, r.itemType = some t ↔ options.retrieveType = true ∧ t = key.itemType
  /-- The value, exactly when it was asked for. -/
  value : ∀ v, r.value = some v ↔ options.retrieveValue = true ∧ v = item.value
  /-- The attributes, exactly when they were asked for. -/
  tags : ∀ t, r.tags = some t ↔ options.retrieveTags = true ∧ t = item.tags

/-- What a page says of a search that found something in a container: how many results there
are, and those that follow the ones read before, each with what is stored under its id. -/
structure Search.Page.Shows (p : Search.Page) (contents : Item.Key → Option Item)
    (itemType : String) (options : Search.Options) (found : List Item.Record)
    (first count : Nat) : Prop where
  /-- The number of all results, exactly when it was asked for. -/
  totalCount : ∀ n, p.totalCount = some n ↔
    options.retrieveTotalCount = true ∧ n = found.length
  /-- The next results, exactly when they were asked for. -/
  records : ∀ rs, p.records = some rs ↔
    options.retrieveRecords = true ∧ rs = (found.drop first).take count
  /-- Each of them says what is stored. -/
  stored : ∀ rs, p.records = some rs → ∀ r ∈ rs, ∃ item,
    contents ⟨itemType, r.id⟩ = some item ∧ r.Shows ⟨itemType, r.id⟩ item options.itemOptions

/-- A part that is given exactly when it was asked for. -/
lemma part_eq_some_iff {α : Type} {asked : Bool} {a b : α} :
    (if asked then some a else none) = some b ↔ asked = true ∧ b = a := by
  cases asked <;> simp [eq_comm]

/-- Items are shown as they are stored. -/
lemma Item.shows_toRecord (key : Item.Key) (item : Item) (options : Item.Options) :
    (item.toRecord key options).Shows key item options where
  id := rfl
  itemType _ := part_eq_some_iff
  value _ := part_eq_some_iff
  tags _ := part_eq_some_iff

/-- What a search finds is stored as it is shown. -/
lemma Snapshot.stored {contents : Item.Key → Option Item} {itemType : String} {query : Query}
    {options : Item.Options} {found : List Item.Record}
    (h : Snapshot contents itemType query options found) {r : Item.Record} (hr : r ∈ found) :
    ∃ item, contents ⟨itemType, r.id⟩ = some item ∧ r.Shows ⟨itemType, r.id⟩ item options := by
  obtain ⟨id, item, hitem, -, rfl⟩ := (h.mem_iff r).1 hr
  exact ⟨item, hitem, Item.shows_toRecord _ item options⟩

/-- A search finds no more than there is. -/
lemma Store.length_results_le (c : Container) (itemType : String) (query : Query)
    (options : Item.Options) : (results c itemType query options).length ≤ c.items.size :=
  (List.length_filterMap_le _ _).trans_eq Std.ExtTreeMap.length_toList

namespace Search

variable {contents : Item.Key → Option Item} {itemType : String} {query : Query}
  {options : Options} {found : List Item.Record}

/-- A page shows what its search has found. -/
lemma shows_page (h : Snapshot contents itemType query options.itemOptions found)
    (first count : Nat) : ((Search.mk found.length (found.drop first) options).page count).Shows
      contents itemType options found first count where
  totalCount _ := part_eq_some_iff
  records _ := part_eq_some_iff
  stored rs hrs r hr := by
    obtain ⟨-, rfl⟩ := part_eq_some_iff.1 hrs
    exact h.stored (List.mem_of_mem_drop (List.mem_of_mem_take hr))

/-- Pages whose count fits into 64 bits are decoded. -/
lemma Page.decode_toJson {p : Page} (h : ∀ n ∈ p.totalCount, n < 2 ^ 64) :
    Page.decode p.toJson = .ok p := by
  rw [Page.decode, Page.ofJson?_toJson h]

/-- A page of a search that has found few enough results is decoded. -/
lemma decode_page {search : Search} (h : search.totalCount < 2 ^ 64) (count : Nat) :
    Page.decode (search.page count).toJson = .ok (search.page count) :=
  Page.decode_toJson fun n hn => by
    obtain ⟨-, rfl⟩ := part_eq_some_iff.1 hn
    exact h

end Search

namespace Shared

variable {ι : Type} [DecidableEq ι] {s s' : Shared ι} {es : List (Event ι)}

/-- A search that is begun finds what it should, and can be read from then on. -/
lemma Step.openSearch_serves (hs : s.Coherent) {client : ι} {h : Container.Handle}
    {name : String} {c : Container} {itemType text : String} {query : Query}
    {options : Search.Options} (ho : s.store.opened[h.number]? = some name)
    (hc : s.store.containers[name]? = some c) (hq : Query.parse text = .ok query)
    {a : Except CallError Search.Handle}
    (step : Step s (.answered client (.openSearch h itemType text options) a) s') :
    ∃ number, a = .ok ⟨number⟩ ∧
      Serves number (Store.results c itemType query options.itemOptions) options s' 0 := by
  have htakes : (Call.openSearch h itemType text options).takesNumber = true := by
    simp [Call.takesNumber, hq, Except.toBool]
  obtain ⟨number, -, -, rfl, rfl⟩ := step.eq_conclude hs htakes
  have he := Store.resolve_eq_ok_iff.2 ⟨ho, hc⟩
  exact ⟨number, by simp [Store.conclude, hq, Store.beginSearch, he],
    by simp [Serves, conclude, Store.conclude, hq, Store.beginSearch, he]⟩

/-- An item that is there is answered as it is stored. -/
lemma Step.getItem_answer (hs : s.Coherent) {client : ι} {h : Container.Handle} {name : String}
    {c : Container} {itemType id : String} {item : Item} {options : Item.Options}
    (ho : s.store.opened[h.number]? = some name) (hc : s.store.containers[name]? = some c)
    (hitem : c.items[Item.Key.mk itemType id]? = some item) {a : Except CallError Json}
    (step : Step s (.answered client (.getItem h itemType id options) a) s') :
    a = .ok (item.toRecord ⟨itemType, id⟩ options).toJson := by
  obtain ⟨rfl, -⟩ := step.eq_answer hs rfl
  simp [Store.answer, Store.getItem, Store.resolve_eq_ok_iff.2 ⟨ho, hc⟩, hitem]

/-- **Pages and items are decoded to what was stored.**  Whatever the clients have done to the
store, let a search be begun in a container through its handle.  Whatever they do next, as long
as they do not end the search, any page that is read of it is decoded: it has the number of all
results and the results that follow those read before, each exactly if it was asked for, and
each result says what was stored under its id when the search was begun, as far as that was
asked for.  An item that is read through the handle is decoded in the same way.  And any page
at all is decoded to itself.  Numbers of items and of results fit into 64 bits. -/
theorem answers_decode_to_what_was_stored :
    (∀ (s₀ : Shared ι) (es : List (Event ι)), Run (start .empty) es s₀ →
      ∀ (h : Container.Handle) (name : String) (c : Container),
        s₀.store.opened[h.number]? = some name → s₀.store.containers[name]? = some c →
        c.items.size < 2 ^ 64 →
        (∀ client itemType text query options a s₁, Query.parse text = .ok query →
          Step s₀ (.answered client (.openSearch h itemType text options) a) s₁ →
          ∃ (number : Int) (found : List Item.Record), a = .ok ⟨number⟩ ∧
            Snapshot (fun key => c.items[key]?) itemType query options.itemOptions found ∧
            ∀ es₁ s₂, Run s₁ es₁ s₂ → es₁.any (Event.closes number) = false →
              ∀ j count b s₃, Step s₂ (.answered j (.fetchNextResults ⟨number⟩ count) b) s₃ →
                ∃ json page, b = .ok json ∧ Search.Page.decode json = .ok page ∧
                  page.Shows (fun key => c.items[key]?) itemType options found
                    (asked number es₁) count) ∧
        ∀ client itemType id item options a s₁, c.items[Item.Key.mk itemType id]? = some item →
          Step s₀ (.answered client (.getItem h itemType id options) a) s₁ →
          ∃ json r, a = .ok json ∧ Item.Record.ofJson? json = some r ∧
            r.Shows ⟨itemType, id⟩ item options) ∧
    ∀ p : Search.Page, (∀ n ∈ p.totalCount, n < 2 ^ 64) → Search.Page.decode p.toJson = .ok p := by
  refine ⟨fun s₀ es hrun h name c ho hc hsize => ⟨?searches, ?items⟩,
    fun p hp => Search.Page.decode_toJson hp⟩
  case searches =>
    intro client itemType text query options a s₁ hq step
    have hs : s₀.Coherent := (coherent_start Store.coherent_empty).run hrun
    obtain ⟨number, rfl, hserves⟩ := step.openSearch_serves hs ho hc hq
    have hfound := Store.snapshot_results c itemType query options.itemOptions
    refine ⟨number, _, rfl, hfound, fun es₁ s₂ run hopen j count b s₃ next => ?_⟩
    have hnow := hserves.run (hs.step step) run
    have hb := next.fetch_answer ((hs.step step).run run) hnow
    rw [hopen, if_neg Bool.false_ne_true, ← Search.page_eq_between] at hb
    have hlt := (Store.length_results_le c itemType query options.itemOptions).trans_lt hsize
    exact ⟨_, _, hb, Search.decode_page hlt count, Search.shows_page hfound _ count⟩
  case items =>
    intro client itemType id item options a s₁ hitem step
    have hs : s₀.Coherent := (coherent_start Store.coherent_empty).run hrun
    exact ⟨_, _, step.getItem_answer hs ho hc hitem, Item.Record.ofJson?_toJson _,
      Item.shows_toRecord _ item options⟩

/-- An item is added and found by a search; its record is read after it was changed. -/
theorem an_item_decodes_as_it_was_found :
    ∃ (s₀ s₁ s₂ : Shared Bool) (es es₁ : List (Event Bool)) (json : Json)
      (page : Search.Page), Run (start .empty) es s₀ ∧
      Step s₀ (.answered true (.openSearch ⟨1⟩ "t" "" .all) (.ok ⟨2⟩)) s₁ ∧ Run s₁ es₁ s₂ ∧
      (∃ s₃, Step s₂ (.answered true (.fetchNextResults ⟨2⟩ 5) (.ok json)) s₃) ∧
      Search.Page.decode json = .ok page ∧ page.totalCount = some 1 ∧
      ∃ r, page.records = some [r] ∧ r.id = "a" ∧ r.value = some "v" := by
  let creation : Call := .createContainer "c" "default" "\x7b\x7d" "\x7b\x7d"
  let opening : Call := .openContainer "c" "\x7b\x7d"
  let addition : Call := .addItem ⟨1⟩ "t" "a" "v" ∅
  let change : Call := .updateItemValue ⟨1⟩ "t" "a" "w"
  let search : Call := .openSearch ⟨1⟩ "t" "" .all
  let reading : Call := .fetchNextResults ⟨2⟩ 5
  let answered (s : Shared Bool) (call : Call) : Shared Bool :=
    { s with store := (s.store.answer call).2 }
  let opened := ((answered (start .empty) creation).take false opening).conclude false opening 1
  let searching := (answered opened addition).take true search
  let found := searching.conclude true search 2
  have run : Run (start .empty) _ searching := Run.nil (start .empty)
    |>.snoc (@Step.answered _ _ _ false creation rfl rfl)
    |>.snoc (@Step.took _ _ _ false opening rfl rfl)
    |>.snoc (@Step.concluded _ _ _ false opening 1 rfl)
    |>.snoc (@Step.answered _ _ _ false addition rfl rfl)
    |>.snoc (@Step.took _ _ _ true search rfl rfl)
  have step : Step searching (.answered true search (.ok ⟨2⟩)) found :=
    @Step.concluded _ _ searching true search 2 rfl
  have run₁ : Run found [.answered false change (.ok ())] (answered found change) :=
    (Run.nil found).snoc (@Step.answered _ _ found false change rfl rfl)
  have read := @Step.answered _ _ (answered found change) true reading rfl rfl
  obtain ⟨number, results, hnumber, hfound, hpages⟩ := (answers_decode_to_what_was_stored.1
    _ _ run ⟨1⟩ "c" _ rfl rfl (by decide)).1 _ _ _ _ _ _ _ rfl step
  obtain rfl : 2 = number := congrArg Search.Handle.number (Except.ok.inj hnumber)
  obtain ⟨json, page, hjson, hpage, hshows⟩ := hpages _ _ run₁ rfl _ _ _ _ read
  obtain rfl : results = [⟨"a", some "t", some "v", some ∅⟩] :=
    hfound.unique (Store.snapshot_results _ _ _ _)
  exact ⟨_, _, _, _, _, json, page, run, step, run₁, ⟨_, hjson ▸ read⟩, hpage,
    (hshows.totalCount 1).2 ⟨rfl, rfl⟩, _, (hshows.records _).2 ⟨rfl, rfl⟩, rfl, rfl⟩

end Shared

end Soak
