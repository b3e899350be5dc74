import Soak.Proofs.Store.Contents

/-!
# Calls inside an open container

Calls that read or change what is in an open container depend on the container alone.
`Container.respond` says what they are answered and what becomes of the container, and
`Store.Coherent.answer_inside` that the store does just this.
-/

namespace Soak

/-- The handle of a call that works inside an open container. -/
def Call.inside? : Call → Option Container.Handle
  | setMetadata h _ | getMetadata h | addItem h _ _ _ _ | getItem h _ _ _ | deleteItem h _ _
  | updateItemValue h _ _ _ | addAttributes h _ _ _ | updateAttributes h _ _ _
  | deleteAttributes h _ _ _ => some h
  | _ => none

/-- Such a call names nothing but the container, and takes no number. -/
lemma Call.of_inside {c : Call} {h : Container.Handle} (hc : c.inside? = some h) :
    c.containerName? = none ∧ c.containerHandle? = some h ∧ c.searchHandle? = none ∧
      c.takesNumber = false := by
  cases c with
  | setMetadata | getMetadata | addItem | getItem | deleteItem | updateItemValue | addAttributes
  | updateAttributes | deleteAttributes => exact ⟨rfl, hc, rfl, rfl⟩
  | _ => cases hc

namespace Container

/-- Change a container unless the change is refused. -/
def attempt (c : Container) (change : Container → Except CallError Container) :
    Except CallError Unit × Container :=
  match change c with
  | .error e => (.error e, c)
  | .ok d => (.ok (), d)

/-- Change an item that is there. -/
def changeItem (c : Container) (itemType id : String) (change : Item → Item) :
    Except CallError Unit × Container :=
  c.attempt fun c =>
    match c.items[Item.Key.mk itemType id]? with
    | none => .error (.itemNotFound itemType id)
    | some item => .ok { c with items := c.items.insert ⟨itemType, id⟩ (change item) }

/-- What a call that works inside a container is answered, and the container behind it. -/
def respond (c : Container) : (call : Call) → call.Answer × Container
  | .setMetadata _ metadata => c.attempt fun c => .ok { c with metadata }
  | .getMetadata _ => (.ok c.metadata, c)
  | .addItem _ itemType id value attributes => c.attempt fun c =>
    if c.items.contains ⟨itemType, id⟩ then .error (.itemAlreadyExists itemType id)
    else .ok { c with items := c.items.insert ⟨itemType, id⟩ ⟨value, attributes⟩ }
  | .getItem _ itemType id options =>
    (match c.items[Item.Key.mk itemType id]? with
    | none => .error (.itemNotFound itemType id)
    | some item => .ok (item.toRecord ⟨itemType, id⟩ options).toJson, c)
  | .deleteItem _ itemType id => c.attempt fun c =>
    if c.items.contains ⟨itemType, id⟩ then .ok { c with items := c.items.erase ⟨itemType, id⟩ }
    else .error (.itemNotFound itemType id)
  | .updateItemValue _ itemType id value =>
    c.changeItem itemType id fun item => { item with value }
  | .addAttributes _ itemType id attributes =>
    c.changeItem itemType id fun item => { item with tags := item.tags ∪ attributes }
  | .updateAttributes _ itemType id attributes =>
    c.changeItem itemType id fun item => { item with tags := attributes }
  | .deleteAttributes _ itemType id names =>
    c.changeItem itemType id fun item => { item with tags := item.tags.without names }
  | _ => (.error default, c)

variable {c : Container}

lemma attempt_openHandle {change : Container → Except CallError Container}
    (h : ∀ d, change c = .ok d → d.openHandle = c.openHandle) :
    (c.attempt change).2.openHandle = c.openHandle := by
  unfold attempt
  split
  · rfl
  · next d hd => exact h d hd

lemma changeItem_openHandle (itemType id : String) (change : Item → Item) :
    (c.changeItem itemType id change).2.openHandle = c.openHandle := by
  refine attempt_openHandle fun d hd => ?_
  split at hd <;> cases hd
  rfl

/-- Working inside a container does not close it. -/
@[simp] lemma respond_openHandle (call : Call) : (c.respond call).2.openHandle = c.openHandle := by
  cases call with
  | setMetadata => exact attempt_openHandle fun d hd => by cases hd; rfl
  | addItem | deleteItem =>
    refine attempt_openHandle fun d hd => ?_
    split at hd <;> cases hd
    rfl
  | updateItemValue | addAttributes | updateAttributes | deleteAttributes =>
    exact changeItem_openHandle _ _ _
  | _ => rfl

end Container

namespace Store

variable {s : Store} {name : String} {c : Container} {h : Container.Handle}

lemma Coherent.onContainer_of_handle (hs : s.Coherent) (hc : s.containers[name]? = some c)
    (hh : c.openHandle = some h.number) (change : Container → Except CallError Container) :
    (s.onContainer h change).1 = (c.attempt change).1 ∧
      (s.onContainer h change).2.containers[name]? = some (c.attempt change).2 := by
  unfold onContainer Container.attempt
  rw [hs.resolve_of_handle hc hh]
  cases hchange : change c with
  | error e => simpa [hchange] using hc
  | ok d => simpa [hchange] using put_containers_self _ _ _

/-- **An open container answers for itself.** -/
lemma Coherent.answer_inside (hs : s.Coherent) (hc : s.containers[name]? = some c)
    (hh : c.openHandle = some h.number) {call : Call} (hcall : call.inside? = some h) :
    (s.answer call).1 = (c.respond call).1 ∧
      (s.answer call).2.containers[name]? = some (c.respond call).2 := by
  have hr := hs.resolve_of_handle hc hh
  cases call with
  | setMetadata | addItem | deleteItem | updateItemValue | addAttributes | updateAttributes
  | deleteAttributes =>
    obtain rfl := Option.some.inj hcall
    exact hs.onContainer_of_handle hc hh _
  | getMetadata handle =>
    obtain rfl := Option.some.inj hcall
    have he : s.getMetadata handle = (.ok c.metadata, s) := by
      simp [Store.getMetadata, hr, Except.map]
    exact ⟨congrArg Prod.fst he, hc⟩
  | getItem handle itemType id options =>
    obtain rfl := Option.some.inj hcall
    have he : s.getItem handle itemType id options =
        (((c.respond (.getItem handle itemType id options)).1 : Except CallError Json), s) := by
      simp only [Store.getItem, hr, Container.respond]
      cases c.items[Item.Key.mk itemType id]? <;> rfl
    refine ⟨congrArg Prod.fst he, ?_⟩
    show (s.getItem handle itemType id options).2.containers[name]? = some c
    rw [he]
    exact hc
  | _ => cases hcall

end Store

end Soak
