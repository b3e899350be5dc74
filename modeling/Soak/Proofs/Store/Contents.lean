import Soak.Proofs.Store.Frame

/-!
# What a client sees of its container

While a container is open under a handle, the calls with that handle are answered from the
container alone.  The lemmas below say what they answer and what becomes of the container;
those on `Shared.Step` say it of the calls of a client among others.
-/

namespace Soak

namespace Store

variable {s : Store} {name : String} {c : Container} {h : Container.Handle}

lemma Coherent.opened_of_handle (hs : s.Coherent) (hc : s.containers[name]? = some c)
    (hh : c.openHandle = some h.number) : s.opened[h.number]? = some name :=
  (hs.opened_iff _ _).2 (holder_eq_some_iff.2 ⟨c, hc, hh⟩)

lemma Coherent.resolve_of_handle (hs : s.Coherent) (hc : s.containers[name]? = some c)
    (hh : c.openHandle = some h.number) : s.resolve h = .ok (name, c) :=
  resolve_eq_ok_iff.2 ⟨hs.opened_of_handle hc hh, hc⟩

lemma put_containers_self (s : Store) (name : String) (c : Container) :
    (s.put name c).containers[name]? = some c := by
  rw [put_containers, if_pos rfl]

/-- A container that does not exist is created, unless a text is not JSON. -/
lemma createContainer_of_absent (hname : name ≠ "") (hc : s.containers[name]? = none)
    (config credentials : String) :
    s.createContainer name config credentials = (.ok (), s.put name .empty) ∨
      (∃ e, s.createContainer name config credentials = (.error e, s)) ∧
        ¬ ((Json.ofText? config).isSome ∧ (Json.ofText? credentials).isSome) := by
  have hno : ¬ s.hasContainer name = true := by simpa [hasContainer] using hc
  unfold createContainer requireJson
  rw [if_neg hname]
  by_cases h1 : (Json.ofText? config).isSome
  · by_cases h2 : (Json.ofText? credentials).isSome
    · rw [if_pos h1, if_pos h2]
      exact .inl (if_neg hno)
    · rw [if_pos h1, if_neg h2]
      exact .inr ⟨⟨_, rfl⟩, fun h => h2 h.2⟩
  · rw [if_neg h1]
    exact .inr ⟨⟨_, rfl⟩, fun h => h1 h.1⟩

/-- A container that is open is not opened again. -/
lemma attach_of_open (hc : s.containers[name]? = some c) (hopen : c.openHandle.isSome)
    (number : Int) : s.attach name number = (.error (.containerAlreadyOpen name), s) := by
  simp [attach, hc, hopen]

/-- A container that is closed is opened. -/
lemma attach_of_closed (hc : s.containers[name]? = some c) (hclosed : c.openHandle = none)
    (number : Int) : s.attach name number = (.ok ⟨number⟩,
      { s.put name { c with openHandle := some number } with
        opened := s.opened.insert number name }) := by
  simp [attach, hc, hclosed]

lemma Coherent.addItem_of_handle (hs : s.Coherent) (hc : s.containers[name]? = some c)
    (hh : c.openHandle = some h.number) {itemType id : String}
    (hnew : (⟨itemType, id⟩ : Item.Key) ∉ c.items) (value : String) (attributes : Attributes) :
    s.addItem h itemType id value attributes = (.ok (),
      s.put name { c with items := c.items.insert ⟨itemType, id⟩ ⟨value, attributes⟩ }) := by
  simp [addItem, onContainer, hs.resolve_of_handle hc hh, hnew]

lemma Coherent.deleteItem_of_handle (hs : s.Coherent) (hc : s.containers[name]? = some c)
    (hh : c.openHandle = some h.number) {itemType id : String}
    (hmem : (⟨itemType, id⟩ : Item.Key) ∈ c.items) :
    s.deleteItem h itemType id = (.ok (),
      s.put name { c with items := c.items.erase ⟨itemType, id⟩ }) := by
  simp [deleteItem, onContainer, hs.resolve_of_handle hc hh, hmem]

/-- Updating an item replaces an item that is there, or nothing changes. -/
lemma Coherent.updateItemValue_of_handle (hs : s.Coherent) (hc : s.containers[name]? = some c)
    (hh : c.openHandle = some h.number) (itemType id value : String) :
    (∃ e, s.updateItemValue h itemType id value = (.error e, s)) ∨
      ∃ item, (⟨itemType, id⟩ : Item.Key) ∈ c.items ∧
        s.updateItemValue h itemType id value =
          (.ok (), s.put name { c with items := c.items.insert ⟨itemType, id⟩ item }) := by
  unfold updateItemValue onItem onContainer
  rw [hs.resolve_of_handle hc hh]
  cases hitem : c.items[Item.Key.mk itemType id]? with
  | none => exact .inl ⟨.itemNotFound itemType id, by simp [hitem]⟩
  | some item =>
    refine .inr ⟨{ item with value }, ?_, by simp [hitem]⟩
    rw [Std.ExtTreeMap.mem_iff_isSome_getElem?, hitem]
    rfl

lemma getItem_snd (s : Store) (h : Container.Handle) (itemType id : String)
    (options : Item.Options) : (s.getItem h itemType id options).2 = s := by
  unfold getItem
  split
  · rfl
  · split <;> rfl

lemma Coherent.beginSearch_of_handle (hs : s.Coherent) (hc : s.containers[name]? = some c)
    (hh : c.openHandle = some h.number) (itemType : String) (query : Query)
    (options : Search.Options) (number : Int) :
    s.beginSearch h itemType query options number = (.ok ⟨number⟩,
      { s with
        searches := s.searches.insert number
          ⟨(results c itemType query options.itemOptions).length,
            results c itemType query options.itemOptions, options⟩ }) := by
  simp [Store.beginSearch, hs.resolve_of_handle hc hh]

lemma fetchNextResults_of_search {k : Search.Handle} {cursor : Search}
    (hk : s.searches[k.number]? = some cursor) (count : Nat) :
    (s.fetchNextResults k count).1 = .ok (cursor.page count).toJson := by
  simp [fetchNextResults, hk]

lemma fetchNextResults_containers (s : Store) (k : Search.Handle) (count : Nat) :
    (s.fetchNextResults k count).2.containers = s.containers := by
  unfold fetchNextResults
  split <;> rfl

lemma closeSearch_containers (s : Store) (k : Search.Handle) :
    (s.closeSearch k).2.containers = s.containers := by
  unfold closeSearch
  split <;> rfl

/-- A container that is open is closed, with its items in it. -/
lemma Coherent.closeContainer_of_handle (hs : s.Coherent) (hc : s.containers[name]? = some c)
    (hh : c.openHandle = some h.number) : (s.closeContainer h).1 = .ok () ∧
      (s.closeContainer h).2.containers[name]? = some { c with openHandle := none } := by
  unfold Store.closeContainer
  rw [hs.opened_of_handle hc hh]
  exact ⟨rfl, by simp [hc]⟩

/-- A search for everything finds all items, if they all have the type. -/
lemma length_results {c : Container} {itemType : String} {query : Query}
    {options : Item.Options} (htype : ∀ key ∈ c.items, key.itemType = itemType)
    (hquery : ∀ tags, query.holds tags = true) :
    (results c itemType query options).length = c.items.size := by
  rw [← Std.ExtTreeMap.length_toList]
  unfold results
  rw [List.length_filterMap_eq_countP, List.countP_eq_length]
  rintro ⟨key, item⟩ hp
  have hkey : key ∈ c.items := by
    rw [Std.ExtTreeMap.mem_iff_isSome_getElem?,
      Std.ExtTreeMap.mem_toList_iff_getElem?_eq_some.1 hp]
    rfl
  simp [htype key hkey, hquery]

end Store

namespace Shared

variable {ι : Type} [DecidableEq ι] {s s' : Shared ι} {i : ι} {call : Call} {a : call.Answer}

/-- A call that takes no number is answered at once. -/
lemma Step.eq_answer (h : Step s (.answered i call a) s') (hs : s.Coherent)
    (htakes : call.takesNumber = false) :
    a = (s.store.answer call).1 ∧ s' = { s with store := (s.store.answer call).2 } := by
  cases h with
  | concluded waiting =>
    rw [hs.pending_takes i call _ waiting] at htakes
    cases htakes
  | answered free takes => exact ⟨rfl, rfl⟩

/-- A call that takes a number is concluded with a fresh one. -/
lemma Step.eq_conclude (h : Step s (.answered i call a) s') (hs : s.Coherent)
    (htakes : call.takesNumber = true) :
    ∃ number, (i, number) ∈ s.issued ∧ number ∉ s.store.searches ∧
      a = (s.store.conclude number call).1 ∧ s' = s.conclude i call number := by
  cases h with
  | @concluded _ _ number waiting =>
    exact ⟨number, hs.pending_issued i call number waiting,
      (hs.pending_fresh i call number waiting).2, rfl, rfl⟩
  | answered free takes =>
    rw [takes] at htakes
    cases htakes

end Shared

end Soak
