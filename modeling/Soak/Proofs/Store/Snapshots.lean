import Mathlib.Data.List.Pairwise
import Mathlib.Data.String.Basic
import Soak.Proofs.Store.Contents

/-!
# Searches are snapshots

What a search finds is settled when it is opened: the items of a type that satisfy the query,
by increasing ids (`Snapshot`).  From then on the search is read page by page, and nothing but
reading it changes what is left (`Shared.Serves`), whatever becomes of the container.  When it
is ended its number is spent for good (`Shared.Spent`).
-/

namespace Soak

/-- What a search finds in a container: the items of a type that satisfy a query, by
increasing ids. -/
structure Snapshot (contents : Item.Key → Option Item) (itemType : String) (query : Query)
    (options : Item.Options) (found : List Item.Record) : Prop where
  /-- The ids increase. -/
  sorted : found.Pairwise fun r r' => r.id < r'.id
  /-- What is found are the items of the type that satisfy the query. -/
  mem_iff : ∀ r, r ∈ found ↔ ∃ id item, contents ⟨itemType, id⟩ = some item ∧
    query.holds item.tags = true ∧ r = item.toRecord ⟨itemType, id⟩ options

namespace Snapshot

variable {contents : Item.Key → Option Item} {itemType : String} {query : Query}
  {options : Item.Options} {found found' : List Item.Record}

lemma nodup (h : Snapshot contents itemType query options found) : found.Nodup :=
  h.sorted.imp fun hlt heq => absurd (heq ▸ hlt) (lt_irrefl _)

/-- What a search finds is a matter of the contents alone. -/
lemma unique (h : Snapshot contents itemType query options found)
    (h' : Snapshot contents itemType query options found') : found = found' := by
  have hperm : found.Perm found' :=
    (List.perm_ext_iff_of_nodup h.nodup h'.nodup).2 fun r => by rw [h.mem_iff, h'.mem_iff]
  exact hperm.eq_of_pairwise (fun r r' _ _ hlt hgt => absurd hlt (lt_asymm hgt)) h.sorted h'.sorted

end Snapshot

lemma Item.Key.id_lt_of_compare {a b : Item.Key} (h : a.compare b = .lt)
    (htype : a.itemType = b.itemType) : a.id < b.id := by
  rw [Item.Key.compare, compareLex, compareOn, htype, Std.compare_self] at h
  exact compare_lt_iff_lt.1 h

namespace Store

lemma mem_results_iff {c : Container} {itemType : String} {query : Query}
    {options : Item.Options} {r : Item.Record} :
    r ∈ results c itemType query options ↔
      ∃ id item, c.items[Item.Key.mk itemType id]? = some item ∧
        query.holds item.tags = true ∧ r = item.toRecord ⟨itemType, id⟩ options := by
  simp only [results, List.mem_filterMap, Prod.exists,
    Std.ExtTreeMap.mem_toList_iff_getElem?_eq_some]
  constructor
  · rintro ⟨⟨type, id⟩, item, hitem, h⟩
    simp only [Option.ite_none_right_eq_some, Bool.and_eq_true, decide_eq_true_eq,
      Option.some.injEq] at h
    obtain ⟨⟨rfl, hquery⟩, rfl⟩ := h
    exact ⟨id, item, hitem, hquery, rfl⟩
  · rintro ⟨id, item, hitem, hquery, rfl⟩
    exact ⟨⟨itemType, id⟩, item, hitem, by simp [hquery]⟩

/-- A search finds what it should. -/
lemma snapshot_results (c : Container) (itemType : String) (query : Query)
    (options : Item.Options) : Snapshot (fun key => c.items[key]?) itemType query options
      (results c itemType query options) where
  sorted := by
    rw [results, List.pairwise_filterMap]
    refine Std.ExtTreeMap.ordered_keys_toList.imp fun {p p'} hlt r hr r' hr' => ?_
    obtain ⟨⟨type, id⟩, item⟩ := p
    obtain ⟨⟨type', id'⟩, item'⟩ := p'
    simp only [Option.ite_none_right_eq_some, Bool.and_eq_true, decide_eq_true_eq,
      Option.some.injEq] at hr hr'
    obtain ⟨⟨htype, -⟩, rfl⟩ := hr
    obtain ⟨⟨htype', -⟩, rfl⟩ := hr'
    exact Item.Key.id_lt_of_compare hlt (htype.trans htype'.symm)
  mem_iff _ := mem_results_iff

end Store

/-- The results of a search from one position up to another, as a page. -/
def Search.Page.between (options : Search.Options) (found : List Item.Record) (first last : Nat) :
    Search.Page where
  totalCount := if options.retrieveTotalCount then some found.length else none
  records :=
    if options.retrieveRecords then
      some (found.extract (min found.length first) (min found.length last))
    else none

lemma Search.page_eq_between (options : Search.Options) (found : List Item.Record)
    (n count : Nat) : (Search.mk found.length (found.drop n) options).page count =
      .between options found n (n + count) := by
  have hextract : (found.drop n).take count =
      found.extract (min found.length n) (min found.length (n + count)) := by
    rw [List.extract_eq_take_drop]
    rcases Nat.le_total found.length n with hn | hn
    · rw [List.drop_eq_nil_of_le hn, Nat.min_eq_left hn, List.drop_length, List.take_nil,
        List.take_nil]
    · rw [Nat.min_eq_right hn, List.take_eq_take_iff, List.length_drop]
      omega
  simp only [Search.page, Search.Page.between, hextract]

namespace Shared

variable {ι : Type}

/-- How many results of a search are asked for in a step. -/
def Event.fetched? (number : Int) : Event ι → Option Nat
  | .answered _ (.fetchNextResults k count) _ => if k.number = number then some count else none
  | _ => none

/-- Whether a search is ended in a step. -/
def Event.closes (number : Int) : Event ι → Bool
  | .answered _ (.closeSearch k) _ => k.number = number
  | _ => false

/-- How many results of a search have been asked for. -/
def asked (number : Int) (es : List (Event ι)) : Nat :=
  (es.filterMap (Event.fetched? number)).sum

/-- A search that found something is open, and some of it has been asked for. -/
def Serves (number : Int) (found : List Item.Record) (options : Search.Options) (s : Shared ι)
    (n : Nat) : Prop :=
  s.store.searches[number]? = some ⟨found.length, found.drop n, options⟩

/-- A number that was in use and never will be again. -/
structure Spent (number : Int) (s : Shared ι) : Prop where
  lt : number < s.store.nextHandle
  opened : number ∉ s.store.opened
  searches : number ∉ s.store.searches
  pending : ∀ i call, s.pending i ≠ some (call, number)

variable {number : Int} {found : List Item.Record} {options : Search.Options} {n : Nat}
  {s s' : Shared ι} {e : Event ι} {es : List (Event ι)}

lemma asked_snoc (number : Int) (es : List (Event ι)) (e : Event ι) :
    asked number (es ++ [e]) = asked number es + (e.fetched? number).getD 0 := by
  unfold asked
  cases h : e.fetched? number <;> simp [h]

/-- A step that neither reads nor ends a search is about another search or none. -/
lemma searchHandle?_ne {client : ι} {call : Call} {a : call.Answer}
    (hopen : (Event.answered client call a).closes number = false)
    (hread : ∀ count, call ≠ .fetchNextResults ⟨number⟩ count) :
    call.searchHandle?.map Search.Handle.number ≠ some number ∧
      (Event.answered client call a).fetched? number = none := by
  cases call with
  | fetchNextResults k count =>
    have hne : k.number ≠ number := by
      rintro rfl
      exact hread count rfl
    simp [Call.searchHandle?, Event.fetched?, hne]
  | closeSearch k =>
    have hne : k.number ≠ number := by simpa [Event.closes] using hopen
    simp [Call.searchHandle?, Event.fetched?, hne]
  | _ => simp [Call.searchHandle?, Event.fetched?]

lemma Serves.mem_searches (h : Serves number found options s n) : number ∈ s.store.searches := by
  rw [Std.ExtTreeMap.mem_iff_isSome_getElem?, h]
  rfl

variable [DecidableEq ι]

/-- A spent number remains so. -/
lemma Spent.step (h : Spent number s) (hs : s.Coherent) (step : Step s e s') :
    Spent number s' := by
  cases step with
  | @took i call free takes =>
    refine ⟨Int.lt_trans h.lt (Int.lt_succ _), h.opened, h.searches, fun j c => ?_⟩
    by_cases hj : j = i
    · subst hj
      simp only [take, Function.update_self, Store.allocate, ne_eq, Option.some.injEq,
        Prod.mk.injEq, not_and]
      exact fun _ => h.lt.ne'
    · simpa only [take, Function.update_of_ne hj] using h.pending j c
  | @concluded i call k waiting =>
    obtain ⟨hopened, hsearches⟩ := hs.pending_fresh i call k waiting
    obtain ⟨-, hnext, ho, hse⟩ := hs.store.conclude
      (hs.issued_lt _ (hs.pending_issued i call k waiting)) hopened hsearches
      (hs.pending_takes i call k waiting)
    have hne : number ≠ k := by
      rintro rfl
      exact h.pending i call waiting
    refine ⟨hnext ▸ h.lt, fun hm => (ho _ hm).elim hne h.opened,
      fun hm => (hse _ hm).elim hne h.searches, fun j c => ?_⟩
    by_cases hj : j = i
    · subst hj
      simp [conclude]
    · simpa only [conclude, Function.update_of_ne hj] using h.pending j c
  | @answered i call free takes =>
    obtain ⟨-, hnext, ho, hse⟩ := hs.store.answer takes
    exact ⟨hnext ▸ h.lt, fun hm => h.opened (ho _ hm), fun hm => h.searches (hse _ hm),
      h.pending⟩

/-- A search that is open remains so until it is ended, and nothing but reading it changes
what is left. -/
lemma Serves.step (h : Serves number found options s n) (hs : s.Coherent) (step : Step s e s')
    (hopen : e.closes number = false) :
    Serves number found options s' (n + (e.fetched? number).getD 0) := by
  have hmem := h.mem_searches
  cases step with
  | took free takes => exact h
  | @concluded i call k waiting =>
    have htakes := hs.pending_takes i call k waiting
    have hread : ∀ count, call ≠ .fetchNextResults ⟨number⟩ count := by
      rintro count rfl
      cases htakes
    have hne : k ≠ number := by
      rintro rfl
      exact (hs.pending_fresh i call k waiting).2 hmem
    rw [(searchHandle?_ne hopen hread).2]
    exact ((s.store.frame_conclude htakes k).searches number (by simpa using hne)).trans h
  | @answered i call free takes =>
    by_cases hread : ∃ count, call = .fetchNextResults ⟨number⟩ count
    · obtain ⟨count, rfl⟩ := hread
      have hk : s.store.searches[number]? = some ⟨found.length, found.drop n, options⟩ := h
      simp [Serves, Store.answer, Store.fetchNextResults, hk, Event.fetched?, List.drop_drop]
    · obtain ⟨hother, hnone⟩ := searchHandle?_ne hopen fun count hc => hread ⟨count, hc⟩
      rw [hnone]
      exact ((s.store.frame_answer takes).searches number hother).trans h

/-- A search that is ended is spent. -/
lemma Serves.spent (h : Serves number found options s n) (hs : s.Coherent) (step : Step s e s')
    (hclose : e.closes number = true) : Spent number s' := by
  have hmem := h.mem_searches
  cases step with
  | took free takes => cases hclose
  | @concluded i call k waiting =>
    have htakes := hs.pending_takes i call k waiting
    cases call with
    | closeSearch => cases htakes
    | _ => cases hclose
  | @answered i call free takes =>
    cases call with
    | closeSearch k =>
      obtain rfl : k.number = number := by simpa [Event.closes] using hclose
      have hcontains : s.store.searches.contains k.number = true := by simpa using hmem
      have he : s.store.answer (.closeSearch k) =
          (.ok (), { s.store with searches := s.store.searches.erase k.number }) := by
        simp [Store.answer, Store.closeSearch, hmem]
      rw [he]
      refine ⟨hs.store.searches_lt _ hmem, fun ho => hs.store.apart _ ho hmem, by simp,
        fun j c hj => (hs.pending_fresh j c _ hj).2 hmem⟩
    | _ => cases hclose

/-- A search in the course of a run. -/
lemma Serves.run {s₁ : Shared ι} (h : Serves number found options s₁ 0) (hs : s₁.Coherent)
    (run : Run s₁ es s) :
    if es.any (Event.closes number) then Spent number s
    else Serves number found options s (asked number es) := by
  induction run with
  | nil => exact h
  | @snoc t u es e run step ih =>
    have ht := hs.run run
    rw [List.any_append, List.any_cons, List.any_nil, Bool.or_false]
    cases hpast : es.any (Event.closes number) with
    | true =>
      rw [hpast] at ih
      exact ih.step ht step
    | false =>
      rw [hpast] at ih
      cases hnow : e.closes number with
      | true => exact ih.spent ht step hnow
      | false =>
        rw [asked_snoc]
        exact ih.step ht step hnow

/-- The answer to reading a search in the course of a run. -/
lemma Step.fetch_answer {j : ι} {count : Nat} {b : Except CallError Json}
    (step : Step s (.answered j (.fetchNextResults ⟨number⟩ count) b) s') (hs : s.Coherent)
    {closed : Bool}
    (hnow : if closed then Spent number s else Serves number found options s n) :
    b = if closed then .error (.invalidHandle number)
      else .ok (Search.Page.between options found n (n + count)).toJson := by
  obtain ⟨rfl, -⟩ := step.eq_answer hs rfl
  cases closed with
  | true =>
    have hk : s.store.searches[number]? = none := by simpa using Spent.searches hnow
    simp [Store.answer, Store.fetchNextResults, hk]
  | false =>
    rw [if_neg Bool.false_ne_true, ← Search.page_eq_between]
    exact Store.fetchNextResults_of_search hnow count

/-- The answer to ending a search in the course of a run. -/
lemma Step.closeSearch_answer {j : ι} {b : Except CallError Unit}
    (step : Step s (.answered j (.closeSearch ⟨number⟩) b) s') (hs : s.Coherent) {closed : Bool}
    (hnow : if closed then Spent number s else Serves number found options s n) :
    b = if closed then .error (.invalidHandle number) else .ok () := by
  obtain ⟨rfl, -⟩ := step.eq_answer hs rfl
  cases closed with
  | true =>
    have hk : number ∉ s.store.searches := Spent.searches hnow
    simp [Store.answer, Store.closeSearch, hk]
  | false =>
    have hk : number ∈ s.store.searches := Serves.mem_searches hnow
    simp [Store.answer, Store.closeSearch, hk]

/-- **A search is a snapshot that is read from its beginning to its end.**  A search with a
parsable query through a handle of an open container succeeds.  What it finds are the items of
the container that have the type and satisfy the query at that moment, by increasing ids, and
nothing else determines it.  Whatever the clients of the store do afterwards, the results that
are read next are those that follow the ones asked for before, together with the number of all
results, each if it was asked for.  This goes on until the search is ended; from then on its
handle is invalid. -/
theorem searches_are_snapshots (hrun : Run (start .empty) es s) {client : ι}
    {h : Container.Handle} {name : String} {c : Container} {itemType text : String}
    {query : Query} {options : Search.Options}
    (ho : s.store.opened[h.number]? = some name) (hc : s.store.containers[name]? = some c)
    (hq : Query.parse text = .ok query) {a : Except CallError Search.Handle} {s₁ : Shared ι}
    (hstep : Step s (.answered client (.openSearch h itemType text options) a) s₁) :
    ∃ (number : Int) (found : List Item.Record), a = .ok ⟨number⟩ ∧
      Snapshot (fun key => c.items[key]?) itemType query options.itemOptions found ∧
      (∀ found', Snapshot (fun key => c.items[key]?) itemType query options.itemOptions found' →
        found' = found) ∧
      ∀ es₁ s₂, Run s₁ es₁ s₂ →
        (∀ j count b s₃, Step s₂ (.answered j (.fetchNextResults ⟨number⟩ count) b) s₃ →
          b = if es₁.any (Event.closes number) then .error (.invalidHandle number)
            else .ok (Search.Page.between options found (asked number es₁)
              (asked number es₁ + count)).toJson) ∧
        ∀ j b s₃, Step s₂ (.answered j (.closeSearch ⟨number⟩) b) s₃ →
          b = if es₁.any (Event.closes number) then .error (.invalidHandle number)
            else .ok () := by
  have hs : s.Coherent := (coherent_start Store.coherent_empty).run hrun
  have htakes : (Call.openSearch h itemType text options).takesNumber = true := by
    simp [Call.takesNumber, hq, Except.toBool]
  obtain ⟨number, -, -, rfl, rfl⟩ := hstep.eq_conclude hs htakes
  let found := Store.results c itemType query options.itemOptions
  have he : s.store.conclude number (.openSearch h itemType text options) = (.ok ⟨number⟩,
      { s.store with
        searches := s.store.searches.insert number ⟨found.length, found, options⟩ }) := by
    simp [Store.conclude, hq, Store.beginSearch, Store.resolve_eq_ok_iff.2 ⟨ho, hc⟩, found]
  have hfound := Store.snapshot_results c itemType query options.itemOptions
  have hserves : Serves number found options
      (s.conclude client (.openSearch h itemType text options) number) 0 := by
    simp [Serves, conclude, he]
  refine ⟨number, found, by rw [he], hfound, fun found' h' => h'.unique hfound,
    fun es₁ s₂ run => ?_⟩
  have hs₁ := hs.step hstep
  have hnow := hserves.run hs₁ run
  exact ⟨fun j count b s₃ step => step.fetch_answer (hs₁.run run) hnow,
    fun j b s₃ step => step.closeSearch_answer (hs₁.run run) hnow⟩

/-- One client adds an item while another one reads what it found before. -/
theorem searches_are_snapshots_while_adding :
    ∃ (s s₁ s₂ : Shared Bool) (es : List (Event Bool)) (c : Container) (query : Query)
      (found : List Item.Record), Run (start .empty) es s ∧
      s.store.containers["c"]? = some c ∧ Query.parse "" = .ok query ∧
      Step s (.answered true (.openSearch ⟨1⟩ "t" "" .all) (.ok ⟨2⟩)) s₁ ∧
      Run s₁ [.answered false (.addItem ⟨1⟩ "t" "b" "v" ∅) (.ok ())] s₂ ∧
      Snapshot (fun key => c.items[key]?) "t" query .all found ∧
      ∀ count b s₃, Step s₂ (.answered true (.fetchNextResults ⟨2⟩ count) b) s₃ →
        b = .ok (Search.Page.between .all found 0 count).toJson := by
  let creation : Call := .createContainer "c" "default" "\x7b\x7d" "\x7b\x7d"
  let opening : Call := .openContainer "c" "\x7b\x7d"
  let addition (id : String) : Call := .addItem ⟨1⟩ "t" id "v" ∅
  let search : Call := .openSearch ⟨1⟩ "t" "" .all
  let answered (s : Shared Bool) (call : Call) : Shared Bool :=
    { s with store := (s.store.answer call).2 }
  let opened := ((answered (start .empty) creation).take false opening).conclude false opening 1
  let searching := (answered opened (addition "a")).take true search
  let found := searching.conclude true search 2
  have run : Run (start .empty) _ searching := Run.nil (start .empty)
    |>.snoc (@Step.answered _ _ _ false creation rfl rfl)
    |>.snoc (@Step.took _ _ _ false opening rfl rfl)
    |>.snoc (@Step.concluded _ _ _ false opening 1 rfl)
    |>.snoc (@Step.answered _ _ _ false (addition "a") rfl rfl)
    |>.snoc (@Step.took _ _ _ true search rfl rfl)
  have step : Step searching (.answered true search (.ok ⟨2⟩)) found :=
    @Step.concluded _ _ searching true search 2 rfl
  have run₁ : Run found [.answered false (addition "b") (.ok ())] (answered found (addition "b")) :=
    (Run.nil found).snoc (@Step.answered _ _ found false (addition "b") rfl rfl)
  obtain ⟨number, found, hnumber, hfound, -, hnext⟩ := searches_are_snapshots run rfl rfl rfl step
  obtain rfl : 2 = number := congrArg Search.Handle.number (Except.ok.inj hnumber)
  refine ⟨_, _, _, _, _, _, found, run, rfl, rfl, step, run₁, hfound, fun count b s₃ next => ?_⟩
  have hnow : b = .ok (Search.Page.between .all found 0 (0 + count)).toJson :=
    (hnext _ _ run₁).1 true count b s₃ next
  rwa [Nat.zero_add] at hnow

end Shared

end Soak
