import Mathlib.Data.Set.Card
import Soak.Proofs.Store.Contents

/-!
# One cell for each item

A store behaves as if every place for an item were a cell of its own.  A cell is empty or
holds a value and attributes, and what may be asked of it is `Cell.Op`.  A call that reaches
its container does to its item what it asks of the cell (`Store.performs_answer`); creating
and deleting a container empty its cells (`Store.cellAt_answer_clears`), and all other calls
leave every cell alone (`Store.sameItems_answer`).
-/

namespace Soak

/-! ### A cell -/

/-- Where an item is kept. -/
structure Place where
  /-- The name of the container. -/
  container : String
  /-- The key within the container. -/
  key : Item.Key
deriving DecidableEq, Repr

/-- What a cell holds. -/
structure Cell where
  /-- The value. -/
  value : String
  /-- The attributes, by name. -/
  tags : String → Option String

namespace Cell

/-- What may be asked of a cell. -/
inductive Op where
  /-- The container is created or deleted. -/
  | clear
  /-- An item is added. -/
  | fill (value : String) (attributes : Attributes)
  /-- The item is read. -/
  | read
  /-- The item is deleted. -/
  | remove
  /-- The value is replaced. -/
  | setValue (value : String)
  /-- Attributes are added, and replace those of the same name. -/
  | addTags (attributes : Attributes)
  /-- All attributes are replaced. -/
  | setTags (attributes : Attributes)
  /-- The attributes with the given names are removed. -/
  | dropTags (names : List String)

/-- Why a cell refuses. -/
inductive Refusal where
  /-- There is an item already. -/
  | full
  /-- There is no item. -/
  | empty

/-- What becomes of a cell. -/
def Op.run : Op → Option Cell → Except Refusal (Option Cell)
  | clear, _ => .ok none
  | fill value attributes, none => .ok (some ⟨value, fun name => attributes[name]?⟩)
  | fill _ _, some _ => .error .full
  | read, some cell => .ok (some cell)
  | remove, some _ => .ok none
  | setValue value, some cell => .ok (some { cell with value })
  | addTags attributes, some cell =>
    .ok (some { cell with tags := fun name => attributes[name]?.or (cell.tags name) })
  | setTags attributes, some cell =>
    .ok (some { cell with tags := fun name => attributes[name]? })
  | dropTags names, some cell =>
    .ok (some { cell with tags := fun name => if name ∈ names then none else cell.tags name })
  | _, none => .error .empty

/-- What becomes of a cell in the course of operations. -/
def Op.runAll (ops : List Op) (cell : Option Cell) : Except Refusal (Option Cell) :=
  ops.foldlM (fun cell op => op.run cell) cell

/-- The refusal of a cell as the error of a call. -/
def Refusal.error (key : Item.Key) : Refusal → CallError
  | full => .itemAlreadyExists key.itemType key.id
  | empty => .itemNotFound key.itemType key.id

end Cell

/-- An item as the contents of a cell. -/
def Item.toCell (item : Item) : Cell :=
  ⟨item.value, fun name => item.tags[name]?⟩

/-- The cell of a place. -/
def Store.cellAt (s : Store) (p : Place) : Option Cell :=
  (s.containers[p.container]?.bind fun c => c.items[p.key]?).map Item.toCell

/-! ### Calls as operations on cells -/

/-- What a call asks of an item, with the key of the item. -/
def Call.itemOp? : Call → Option (Item.Key × Cell.Op)
  | addItem _ itemType id value attributes => some (⟨itemType, id⟩, .fill value attributes)
  | getItem _ itemType id _ => some (⟨itemType, id⟩, .read)
  | deleteItem _ itemType id => some (⟨itemType, id⟩, .remove)
  | updateItemValue _ itemType id value => some (⟨itemType, id⟩, .setValue value)
  | addAttributes _ itemType id attributes => some (⟨itemType, id⟩, .addTags attributes)
  | updateAttributes _ itemType id attributes => some (⟨itemType, id⟩, .setTags attributes)
  | deleteAttributes _ itemType id names => some (⟨itemType, id⟩, .dropTags names)
  | _ => none

/-- The container that a call creates or deletes. -/
def Call.clears? : Call → Option String
  | createContainer name _ _ _ => some name
  | deleteContainer name _ => some name
  | _ => none
namespace Attributes

lemma getElem?_without (t : Attributes) (names : List String) (name : String) :
    (t.without names)[name]? = if name ∈ names then none else t[name]? := by
  unfold without
  induction names generalizing t with
  | nil => simp
  | cons n rest ih =>
    rw [List.foldl_cons, ih, Std.ExtTreeMap.getElem?_erase]
    by_cases hrest : name ∈ rest
    · simp [hrest]
    · by_cases hn : n = name
      · simp [hn]
      · simp [hrest, hn, Ne.symm hn]

end Attributes

namespace Store

/-! ### Single calls -/

variable {s : Store} {name : String} {c : Container}

lemma cellAt_of_containers {s s' : Store} {p : Place}
    (h : s'.containers[p.container]? = s.containers[p.container]?) : s'.cellAt p = s.cellAt p := by
  rw [cellAt, cellAt, h]

lemma cellAt_of_container (hc : s.containers[name]? = some c) (key : Item.Key) :
    s.cellAt ⟨name, key⟩ = c.items[key]?.map Item.toCell := by
  simp [cellAt, hc]

/-- A container is put in place of one that differs from it in one item at most. -/
lemma cellAt_put {d : Container} {key : Item.Key} {x : Option Item}
    (hc : s.containers[name]? = some c)
    (hd : ∀ k, d.items[k]? = if key = k then x else c.items[k]?) (q : Place) :
    (s.put name d).cellAt q = if q = ⟨name, key⟩ then x.map Item.toCell else s.cellAt q := by
  obtain ⟨n, k⟩ := q
  by_cases hn : name = n
  · subst hn
    rw [cellAt_of_container (put_containers_self s name d), hd, cellAt_of_container hc]
    by_cases hk : key = k
    · simp [hk]
    · simp [hk, Ne.symm hk]
  · have hne : (⟨n, k⟩ : Place) ≠ ⟨name, key⟩ := fun heq => hn (congrArg Place.container heq).symm
    rw [if_neg hne]
    exact cellAt_of_containers (by rw [put_containers, if_neg hn])

/-- The answer to an operation on a cell: what was asked is done to the cell and to no other,
or the cell refuses and nothing is done. -/
def Performs (op : Cell.Op) (p : Place) {α : Type} (s : Store) (outcome : Outcome α) : Prop :=
  match op.run (s.cellAt p) with
  | .ok cell => (∃ r, outcome.1 = .ok r) ∧
      ∀ q, outcome.2.cellAt q = if q = p then cell else s.cellAt q
  | .error refusal => outcome = (.error (refusal.error p.key), s)

lemma performs_of_ok {op : Cell.Op} {p : Place} {α : Type} {r : α} {s s' : Store}
    {cell : Option Cell} (hop : op.run (s.cellAt p) = .ok cell)
    (hs' : ∀ q, s'.cellAt q = if q = p then cell else s.cellAt q) :
    Performs op p s (.ok r, s') := by
  unfold Performs
  rw [hop]
  exact ⟨⟨r, rfl⟩, hs'⟩

lemma performs_of_error {op : Cell.Op} {p : Place} {α : Type} (refusal : Cell.Refusal)
    (hop : op.run (s.cellAt p) = .error refusal) :
    Performs op p s ((.error (refusal.error p.key), s) : Outcome α) := by
  unfold Performs
  rw [hop]

/-- A change of an item that is there, or the answer that it is not. -/
lemma performs_onItem {h : Container.Handle} (hr : s.resolve h = .ok (name, c))
    {itemType id : String} {op : Cell.Op} {change : Item → Item}
    (hnone : op.run none = .error .empty)
    (hsome : ∀ item : Item, op.run (some item.toCell) = .ok (some (change item).toCell)) :
    Performs op ⟨name, itemType, id⟩ s (s.onItem h itemType id change) := by
  have hc := (resolve_eq_ok_iff.1 hr).2
  have hcell := cellAt_of_container hc ⟨itemType, id⟩
  cases hi : c.items[Item.Key.mk itemType id]? with
  | none =>
    have he : s.onItem h itemType id change = (.error (.itemNotFound itemType id), s) := by
      simp [onItem, onContainer, hr, hi]
    rw [he]
    exact performs_of_error .empty (by rw [hcell, hi]; exact hnone)
  | some item =>
    have he : s.onItem h itemType id change = (.ok (), s.put name
        { c with items := c.items.insert ⟨itemType, id⟩ (change item) }) := by
      simp [onItem, onContainer, hr, hi]
    rw [he]
    refine performs_of_ok (by rw [hcell, hi]; exact hsome item)
      (cellAt_put (x := some (change item)) hc fun k => ?_)
    simp [Std.ExtTreeMap.getElem?_insert]

lemma answer_of_resolve_error {h : Container.Handle} {e : CallError} (hr : s.resolve h = .error e)
    {call : Call} (hh : call.containerHandle? = some h) (hop : call.itemOp? ≠ none) :
    s.answer call = (.error e, s) := by
  cases call with
  | addItem | deleteItem | updateItemValue | addAttributes | updateAttributes
  | deleteAttributes =>
    obtain rfl := Option.some.inj hh
    simp [answer, addItem, deleteItem, updateItemValue, addAttributes, updateAttributes,
      deleteAttributes, onItem, onContainer, hr]
  | getItem =>
    obtain rfl := Option.some.inj hh
    simp [answer, getItem, hr]
  | createContainer | openContainer | closeContainer | deleteContainer | setMetadata
  | getMetadata | openSearch | fetchNextResults | closeSearch =>
    exact absurd rfl hop

/-- A call that reaches its container does to its item what it asks of the cell. -/
lemma performs_answer {h : Container.Handle} (hr : s.resolve h = .ok (name, c)) {call : Call}
    (hh : call.containerHandle? = some h) {key : Item.Key} {op : Cell.Op}
    (hop : call.itemOp? = some (key, op)) : Performs op ⟨name, key⟩ s (s.answer call) := by
  have hc := (resolve_eq_ok_iff.1 hr).2
  have hcell := cellAt_of_container hc key
  cases call with
  | addItem k itemType id value attributes =>
    obtain rfl := Option.some.inj hh
    obtain ⟨rfl, rfl⟩ := Prod.mk.inj (Option.some.inj hop)
    cases hi : c.items[Item.Key.mk itemType id]? with
    | none =>
      have he : s.addItem k itemType id value attributes = (.ok (), s.put name
          { c with items := c.items.insert ⟨itemType, id⟩ ⟨value, attributes⟩ }) := by
        simp [addItem, onContainer, hr, Std.ExtTreeMap.contains_eq_isSome_getElem?, hi]
      rw [answer, he]
      refine performs_of_ok (by rw [hcell, hi]; rfl)
        (cellAt_put (x := some ⟨value, attributes⟩) hc fun k => ?_)
      simp [Std.ExtTreeMap.getElem?_insert]
    | some item =>
      have he : s.addItem k itemType id value attributes =
          (.error (.itemAlreadyExists itemType id), s) := by
        simp [addItem, onContainer, hr, Std.ExtTreeMap.contains_eq_isSome_getElem?, hi]
      rw [answer, he]
      exact performs_of_error .full (by rw [hcell, hi]; rfl)
  | getItem k itemType id options =>
    obtain rfl := Option.some.inj hh
    obtain ⟨rfl, rfl⟩ := Prod.mk.inj (Option.some.inj hop)
    cases hi : c.items[Item.Key.mk itemType id]? with
    | none =>
      have he : s.getItem k itemType id options = (.error (.itemNotFound itemType id), s) := by
        simp [getItem, hr, hi]
      rw [answer, he]
      exact performs_of_error .empty (by rw [hcell, hi]; rfl)
    | some item =>
      have he : s.getItem k itemType id options =
          (.ok (item.toRecord ⟨itemType, id⟩ options).toJson, s) := by
        simp [getItem, hr, hi]
      rw [answer, he]
      have hread : Cell.Op.read.run (s.cellAt ⟨name, itemType, id⟩) = .ok (some item.toCell) := by
        rw [hcell, hi]
        rfl
      refine performs_of_ok hread fun q => ?_
      split
      · next hq => rw [hq, hcell, hi, Option.map_some]
      · rfl
  | deleteItem k itemType id =>
    obtain rfl := Option.some.inj hh
    obtain ⟨rfl, rfl⟩ := Prod.mk.inj (Option.some.inj hop)
    cases hi : c.items[Item.Key.mk itemType id]? with
    | none =>
      have he : s.deleteItem k itemType id = (.error (.itemNotFound itemType id), s) := by
        simp [deleteItem, onContainer, hr, Std.ExtTreeMap.contains_eq_isSome_getElem?, hi]
      rw [answer, he]
      exact performs_of_error .empty (by rw [hcell, hi]; rfl)
    | some item =>
      have he : s.deleteItem k itemType id = (.ok (), s.put name
          { c with items := c.items.erase ⟨itemType, id⟩ }) := by
        simp [deleteItem, onContainer, hr, Std.ExtTreeMap.contains_eq_isSome_getElem?, hi]
      rw [answer, he]
      refine performs_of_ok (by rw [hcell, hi]; rfl) (cellAt_put (x := none) hc fun k => ?_)
      simp [Std.ExtTreeMap.getElem?_erase]
  | updateItemValue k itemType id value | updateAttributes k itemType id attributes =>
    obtain rfl := Option.some.inj hh
    obtain ⟨rfl, rfl⟩ := Prod.mk.inj (Option.some.inj hop)
    exact performs_onItem hr rfl fun item => rfl
  | addAttributes k itemType id attributes =>
    obtain rfl := Option.some.inj hh
    obtain ⟨rfl, rfl⟩ := Prod.mk.inj (Option.some.inj hop)
    refine performs_onItem hr rfl fun item => ?_
    simp [Cell.Op.run, Item.toCell, Std.ExtTreeMap.getElem?_union]
  | deleteAttributes k itemType id names =>
    obtain rfl := Option.some.inj hh
    obtain ⟨rfl, rfl⟩ := Prod.mk.inj (Option.some.inj hop)
    refine performs_onItem hr rfl fun item => ?_
    simp [Cell.Op.run, Item.toCell, Attributes.getElem?_without]
  | createContainer | openContainer | closeContainer | deleteContainer | setMetadata
  | getMetadata | openSearch | fetchNextResults | closeSearch =>
    simp [Call.itemOp?] at hop

/-! ### Calls that are about no item -/

/-- The same containers with the same items. -/
def SameItems (s s' : Store) : Prop :=
  ∀ n : String, s'.containers[n]?.map Container.items = s.containers[n]?.map Container.items

lemma SameItems.refl (s : Store) : SameItems s s :=
  fun _ => rfl

lemma SameItems.of_eq {s s' : Store} (h : s'.containers = s.containers) : SameItems s s' :=
  fun n => by rw [h]

lemma SameItems.cellAt {s s' : Store} (h : SameItems s s') (p : Place) :
    s'.cellAt p = s.cellAt p := by
  have hbind (t : Store) : (t.containers[p.container]?.bind fun c => c.items[p.key]?) =
      (t.containers[p.container]?.map Container.items).bind fun items => items[p.key]? := by
    rw [Option.bind_map]
    rfl
  rw [Store.cellAt, Store.cellAt, hbind, hbind, h]

lemma sameItems_put {d : Container} (hc : s.containers[name]? = some c) (hd : d.items = c.items) :
    SameItems s (s.put name d) := by
  intro n
  rw [put_containers]
  split
  · next hn => rw [← hn, hc, Option.map_some, Option.map_some, hd]
  · rfl

lemma sameItems_attach (s : Store) (name : String) (number : Int) :
    SameItems s (s.attach name number).2 := by
  rcases s.attach_cases name number with ⟨e, he⟩ | ⟨c, hc, -, he⟩
  · rw [he]
    exact .refl s
  · rw [he]
    exact sameItems_put hc rfl

lemma sameItems_closeContainer (s : Store) (h : Container.Handle) :
    SameItems s (s.closeContainer h).2 := by
  rcases s.closeContainer_cases h with ⟨-, he⟩ | ⟨name, -, he⟩
  · rw [he]
    exact .refl s
  · rw [he]
    intro n
    simp only [Std.ExtTreeMap.getElem?_modify, Std.compare_eq_iff_eq]
    split
    · next hn => simp [hn, Function.comp_def]
    · rfl

lemma sameItems_setMetadata (s : Store) (h : Container.Handle) (metadata : String) :
    SameItems s (s.setMetadata h metadata).2 := by
  unfold setMetadata
  rcases s.onContainer_cases h fun c => .ok { c with metadata } with
    ⟨e, -, he⟩ | ⟨name, c, hr, ⟨e, -, he⟩ | ⟨d, hd, he⟩⟩
  · rw [he]
    exact .refl s
  · rw [he]
    exact .refl s
  · rw [he]
    cases hd
    exact sameItems_put (resolve_eq_ok_iff.1 hr).2 rfl

/-- A call about no item and about no container as a whole changes no item. -/
lemma sameItems_answer (s : Store) {call : Call} (htakes : call.takesNumber = false)
    (hop : call.itemOp? = none) (hclears : call.clears? = none) :
    SameItems s (s.answer call).2 := by
  cases call with
  | closeContainer h => exact s.sameItems_closeContainer h
  | setMetadata h metadata => exact s.sameItems_setMetadata h metadata
  | getMetadata h => exact .refl s
  | openContainer name credentials =>
    have : Json.ofText? credentials = none := by simpa [Call.takesNumber] using htakes
    simpa [answer, openContainer, requireJson, this] using SameItems.refl s
  | openSearch h itemType query options =>
    cases hq : Query.parse query with
    | error fault => simpa [answer, openSearch, hq] using SameItems.refl s
    | ok query => simp [Call.takesNumber, hq, Except.toBool] at htakes
  | fetchNextResults search count => exact .of_eq (s.fetchNextResults_containers search count)
  | closeSearch search => exact .of_eq (s.closeSearch_containers search)
  | _ => simp [Call.itemOp?, Call.clears?] at hop hclears

lemma sameItems_conclude (s : Store) {call : Call} (htakes : call.takesNumber = true)
    (number : Int) : SameItems s (s.conclude number call).2 := by
  cases call with
  | openContainer name credentials => exact s.sameItems_attach name number
  | openSearch h itemType text options =>
    cases hq : Query.parse text with
    | error fault => simp [Call.takesNumber, hq, Except.toBool] at htakes
    | ok query =>
      rcases s.beginSearch_cases h itemType query options number with
        ⟨e, -, he⟩ | ⟨n, c, -, he⟩ <;> exact .of_eq (by simp [conclude, hq, he])
  | _ => simp [Call.takesNumber] at htakes

/-- Creating or deleting a container empties its cells, if it succeeds, and changes no other
cell. -/
lemma cellAt_answer_clears (s : Store) {call : Call} {name : String}
    (hclears : call.clears? = some name) :
    (∃ e, s.answer call = (.error e, s)) ∨
      (∃ r, (s.answer call).1 = .ok r) ∧ ∀ q : Place,
        (s.answer call).2.cellAt q = if name = q.container then none else s.cellAt q := by
  cases call with
  | createContainer n storageType config credentials =>
    obtain rfl := Option.some.inj hclears
    simp only [answer, createContainer]
    split
    · exact .inl ⟨_, rfl⟩
    · split
      · exact .inl ⟨_, rfl⟩
      · exact .inl ⟨_, rfl⟩
      · split
        · exact .inl ⟨_, rfl⟩
        · refine .inr ⟨⟨(), rfl⟩, fun q => ?_⟩
          rw [cellAt, put_containers]
          split
          · simp [Container.empty]
          · rfl
  | deleteContainer n credentials =>
    obtain rfl := Option.some.inj hclears
    simp only [answer, deleteContainer]
    split
    · exact .inl ⟨_, rfl⟩
    · split
      · exact .inl ⟨_, rfl⟩
      · split
        · exact .inl ⟨_, rfl⟩
        · refine .inr ⟨⟨(), rfl⟩, fun q => ?_⟩
          simp only [cellAt, Std.ExtTreeMap.getElem?_erase, Std.compare_eq_iff_eq]
          split <;> rfl
  | _ => simp [Call.clears?] at hclears

/-- A container has as many items as cells that are not empty. -/
lemma itemCount_eq_some_iff {n : Nat} : s.itemCount name = some n ↔
    s.hasContainer name ∧ {key | (s.cellAt ⟨name, key⟩).isSome}.encard = n := by
  cases hc : s.containers[name]? with
  | none =>
    have hno : name ∉ s.containers := by simpa using hc
    simp [itemCount, hasContainer, hno]
  | some c =>
    have hcells : {key | (s.cellAt ⟨name, key⟩).isSome} =
        (c.items.keys.toFinset : Set Item.Key) := by
      ext key
      simp [cellAt_of_container hc]
    have hsize : c.items.keys.toFinset.card = c.items.size := by
      rw [List.toFinset_card_of_nodup Std.ExtTreeMap.nodup_keys, Std.ExtTreeMap.length_keys]
    have hyes : s.hasContainer name := by
      rw [hasContainer, Std.ExtTreeMap.contains_eq_isSome_getElem?, hc]
      rfl
    rw [hcells, Set.encard_coe_eq_coe_finsetCard, hsize, itemCount, hc]
    simp [hyes]

end Store

end Soak
