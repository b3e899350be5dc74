import Mathlib.Logic.Function.Basic
import Mathlib.Tactic.Common
import Soak.Store.Basic

/-!
# A store with several clients

Several clients call one store.  A call that opens a container or a search takes a number
first and is concluded later, and between these two steps the other clients may do
whatever they like; every other call is answered in one step.  A run of a shared store is
a list of such steps in any order.

Which container a call is about is told by `Store.subject`: by its name, or by the handle
under which it is open.
-/

namespace Soak

/-! ### The two steps of a call -/

/-- Whether a call gets so far that it takes a number. -/
def Call.takesNumber : Call → Bool
  | openContainer _ credentials => (Json.ofText? credentials).isSome
  | openSearch _ _ query _ => (Query.parse query).toBool
  | _ => false

/-- The answer to a call that has taken a number, and the store behind it. -/
def Store.conclude (s : Store) (number : Int) : (call : Call) → Store.Outcome call.Reply
  | .openContainer name _ => s.attach name number
  | .openSearch handle itemType query options =>
    match Query.parse query with
    | .error fault => (.error (.invalidQuery fault), s)
    | .ok query => s.beginSearch handle itemType query options number
  | call => s.answer call

/-- Without steps of others in between, the two steps of a call are the call. -/
lemma Store.answer_eq_conclude {call : Call} (h : call.takesNumber = true) (s : Store) :
    s.answer call = s.allocate.2.conclude s.allocate.1 call := by
  cases call with
  | openContainer name credentials =>
    simp only [Call.takesNumber] at h
    simp [Store.answer, Store.openContainer, Store.requireJson, Store.conclude, h]
  | openSearch handle itemType query options =>
    simp only [Call.takesNumber] at h
    cases hq : Query.parse query with
    | error fault => simp [hq, Except.toBool] at h
    | ok query => simp [Store.answer, Store.openSearch, Store.conclude, hq]
  | _ => simp [Call.takesNumber] at h

/-- A store and what its clients are in the middle of. -/
structure Shared (ι : Type) where
  /-- The store. -/
  store : Store
  /-- The call that a client has taken a number for, and the number. -/
  pending : ι → Option (Call × Int)
  /-- The numbers that were taken and the clients that took them, the latest first. -/
  issued : List (ι × Int)

namespace Shared

variable {ι : Type} [DecidableEq ι]

/-- A store whose clients have not called it yet. -/
def start (s : Store) : Shared ι :=
  ⟨s, fun _ => none, []⟩

/-- A client takes a number for a call. -/
def take (s : Shared ι) (client : ι) (call : Call) : Shared ι where
  store := s.store.allocate.2
  pending := Function.update s.pending client (some (call, s.store.allocate.1))
  issued := (client, s.store.allocate.1) :: s.issued

/-- A call for which a client took a number is concluded. -/
def conclude (s : Shared ι) (client : ι) (call : Call) (number : Int) : Shared ι where
  store := (s.store.conclude number call).2
  pending := Function.update s.pending client none
  issued := s.issued

/-- What can be seen of a step. -/
inductive Event (ι : Type) where
  /-- A client took a number for a call. -/
  | took (client : ι) (call : Call) (number : Int)
  /-- A call of a client was answered. -/
  | answered (client : ι) (call : Call) (answer : call.Answer)

/-- A step of a client. -/
inductive Step : Shared ι → Event ι → Shared ι → Prop
  /-- A client takes a number for a call. -/
  | took {s : Shared ι} {client : ι} {call : Call} (free : s.pending client = none)
      (takes : call.takesNumber = true) :
      Step s (.took client call s.store.nextHandle) (s.take client call)
  /-- A call that took a number is concluded. -/
  | concluded {s : Shared ι} {client : ι} {call : Call} {number : Int}
      (waiting : s.pending client = some (call, number)) :
      Step s (.answered client call (s.store.conclude number call).1)
        (s.conclude client call number)
  /-- A call that takes no number is answered. -/
  | answered {s : Shared ι} {client : ι} {call : Call} (free : s.pending client = none)
      (takes : call.takesNumber = false) :
      Step s (.answered client call (s.store.answer call).1)
        { s with store := (s.store.answer call).2 }

/-- Any number of steps, with what can be seen of them. -/
inductive Run : Shared ι → List (Event ι) → Shared ι → Prop
  /-- No step. -/
  | nil (s : Shared ι) : Run s [] s
  /-- One step more. -/
  | snoc {s t u : Shared ι} {es : List (Event ι)} {e : Event ι} (run : Run s es t)
      (step : Step t e u) : Run s (es ++ [e]) u

end Shared

/-! ### What a call is about -/

/-- The handle of a container that a call is made with. -/
def Call.containerHandle? : Call → Option Container.Handle
  | closeContainer h | setMetadata h _ | getMetadata h | addItem h _ _ _ _ | getItem h _ _ _
  | deleteItem h _ _ | updateItemValue h _ _ _ | addAttributes h _ _ _ | updateAttributes h _ _ _
  | deleteAttributes h _ _ _ | openSearch h _ _ _ => some h
  | _ => none

/-- The name of a container that a call is made with. -/
def Call.containerName? : Call → Option String
  | createContainer name _ _ _ | openContainer name _ | deleteContainer name _ => some name
  | _ => none

/-- The handle of a search that a call is made with. -/
def Call.searchHandle? : Call → Option Search.Handle
  | fetchNextResults h _ | closeSearch h => some h
  | _ => none

namespace Store

/-- The container that a call is about. -/
def subject (s : Store) (call : Call) : Option String :=
  call.containerName?.or (call.containerHandle?.bind fun h => s.opened[h.number]?)

/-- The handle under which a container is open. -/
def holder (s : Store) (name : String) : Option Int :=
  s.containers[name]?.bind Container.openHandle

lemma holder_eq_some_iff {s : Store} {name : String} {number : Int} :
    s.holder name = some number ↔
      ∃ c, s.containers[name]? = some c ∧ c.openHandle = some number := by
  simp [holder, Option.bind_eq_some_iff]

lemma put_containers (s : Store) (name : String) (c : Container) (n : String) :
    (s.put name c).containers[n]? = if name = n then some c else s.containers[n]? := by
  simp [put, Std.ExtTreeMap.getElem?_insert]

@[simp] lemma put_searches (s : Store) (name : String) (c : Container) :
    (s.put name c).searches = s.searches := rfl

@[simp] lemma put_nextHandle (s : Store) (name : String) (c : Container) :
    (s.put name c).nextHandle = s.nextHandle := rfl

lemma resolve_eq_ok_iff {s : Store} {h : Container.Handle} {name : String} {c : Container} :
    s.resolve h = .ok (name, c) ↔
      s.opened[h.number]? = some name ∧ s.containers[name]? = some c := by
  unfold resolve
  split
  · next ho => simp [ho]
  · next n ho =>
    split
    · next hc =>
      simp only [reduceCtorEq, ho, Option.some.injEq, false_iff, not_and]
      rintro rfl
      simp [hc]
    · next d hc =>
      simp only [Except.ok.injEq, Prod.mk.injEq, ho, Option.some.injEq]
      constructor
      · rintro ⟨rfl, rfl⟩
        exact ⟨rfl, hc⟩
      · rintro ⟨rfl, hd⟩
        exact ⟨rfl, Option.some.inj (hc.symm.trans hd)⟩

/-- A call through a handle leaves the store alone or changes the container of the handle. -/
lemma onContainer_cases (s : Store) (h : Container.Handle)
    (change : Container → Except CallError Container) :
    (∃ e, s.resolve h = .error e ∧ s.onContainer h change = (.error e, s)) ∨
      ∃ name c, s.resolve h = .ok (name, c) ∧
        ((∃ e, change c = .error e ∧ s.onContainer h change = (.error e, s)) ∨
          ∃ d, change c = .ok d ∧ s.onContainer h change = (.ok (), s.put name d)) := by
  unfold onContainer
  cases hr : s.resolve h with
  | error e => exact .inl ⟨e, rfl, rfl⟩
  | ok p =>
    obtain ⟨name, c⟩ := p
    refine .inr ⟨name, c, rfl, ?_⟩
    cases hd : change c with
    | error e => exact .inl ⟨e, rfl, by simp [hd]⟩
    | ok d => exact .inr ⟨d, rfl, by simp [hd]⟩

end Store

end Soak
