import Soak.Proofs.Store.Ownership

/-!
# What a refused call leaves behind

A call of the store does all that it should or nothing.  When it answers an error, the
containers, the table of open containers and the searches are those from before
(`Store.AllOrNothing`); all that may be left of it is the number that it took, for numbers
are taken before the store is asked whether the call can succeed.
-/

namespace Soak

namespace Store

/-- Two stores hold the same: containers, open handles and what is left of the searches. -/
structure SameContents (s s' : Store) : Prop where
  containers : s'.containers = s.containers
  opened : s'.opened = s.opened
  searches : s'.searches = s.searches

lemma SameContents.refl (s : Store) : SameContents s s :=
  ⟨rfl, rfl, rfl⟩

/-- An operation that fails leaves the store as it was. -/
def AllOrNothing {α : Type} (s : Store) (outcome : Outcome α) : Prop :=
  ∀ e, outcome.1 = .error e → outcome.2 = s

/-! ### One lemma for each operation -/

section Operations

variable {α : Type} (s : Store)

/-- Whatever an operation that leaves the store alone answers. -/
lemma allOrNothing_self (a : Except CallError α) : AllOrNothing s (a, s) :=
  fun _ _ => rfl

lemma allOrNothing_ok (a : α) (s' : Store) : AllOrNothing s (.ok a, s') := by
  intro e he
  cases he

lemma allOrNothing_onContainer (h : Container.Handle)
    (change : Container → Except CallError Container) :
    AllOrNothing s (s.onContainer h change) := by
  rcases s.onContainer_cases h change with ⟨e, -, he⟩ | ⟨name, c, -, ⟨e, -, he⟩ | ⟨d, -, he⟩⟩
  · rw [he]
    exact allOrNothing_self s _
  · rw [he]
    exact allOrNothing_self s _
  · rw [he]
    exact allOrNothing_ok s () _

lemma allOrNothing_createContainer (name config credentials : String) :
    AllOrNothing s (s.createContainer name config credentials) := by
  unfold createContainer
  split
  · exact allOrNothing_self s _
  · split
    · exact allOrNothing_self s _
    · exact allOrNothing_self s _
    · split
      · exact allOrNothing_self s _
      · exact allOrNothing_ok s () _

lemma allOrNothing_attach (name : String) (number : Int) :
    AllOrNothing s (s.attach name number) := by
  rcases s.attach_cases name number with ⟨e, he⟩ | ⟨c, -, -, he⟩
  · rw [he]
    exact allOrNothing_self s _
  · rw [he]
    exact allOrNothing_ok s _ _

lemma allOrNothing_closeContainer (h : Container.Handle) :
    AllOrNothing s (s.closeContainer h) := by
  rcases s.closeContainer_cases h with ⟨-, he⟩ | ⟨name, -, he⟩
  · rw [he]
    exact allOrNothing_self s _
  · rw [he]
    exact allOrNothing_ok s () _

lemma allOrNothing_deleteContainer (name credentials : String) :
    AllOrNothing s (s.deleteContainer name credentials) := by
  unfold deleteContainer
  split
  · exact allOrNothing_self s _
  · split
    · exact allOrNothing_self s _
    · split
      · exact allOrNothing_self s _
      · exact allOrNothing_ok s () _

lemma allOrNothing_getItem (h : Container.Handle) (itemType id : String)
    (options : Item.Options) : AllOrNothing s (s.getItem h itemType id options) :=
  fun _ _ => s.getItem_snd h itemType id options

lemma allOrNothing_beginSearch (h : Container.Handle) (itemType : String) (query : Query)
    (options : Search.Options) (number : Int) :
    AllOrNothing s (s.beginSearch h itemType query options number) := by
  rcases s.beginSearch_cases h itemType query options number with ⟨e, -, he⟩ | ⟨name, c, -, he⟩
  · rw [he]
    exact allOrNothing_self s _
  · rw [he]
    exact allOrNothing_ok s _ _

lemma allOrNothing_fetchNextResults (search : Search.Handle) (count : Nat) :
    AllOrNothing s (s.fetchNextResults search count) := by
  unfold fetchNextResults
  split
  · exact allOrNothing_self s _
  · exact allOrNothing_ok s _ _

lemma allOrNothing_closeSearch (search : Search.Handle) :
    AllOrNothing s (s.closeSearch search) := by
  unfold closeSearch
  split
  · exact allOrNothing_ok s () _
  · exact allOrNothing_self s _

end Operations

/-- A call that gets no number leaves nothing behind when it fails. -/
lemma allOrNothing_answer (s : Store) {call : Call} (htakes : call.takesNumber = false) :
    AllOrNothing s (s.answer call) := by
  cases call with
  | createContainer name _ config credentials =>
    exact allOrNothing_createContainer s name config credentials
  | openContainer name credentials =>
    have hbad : Json.ofText? credentials = none := by simpa [Call.takesNumber] using htakes
    simpa [answer, openContainer, requireJson, hbad] using allOrNothing_self s _
  | closeContainer h => exact allOrNothing_closeContainer s h
  | deleteContainer name credentials => exact allOrNothing_deleteContainer s name credentials
  | getMetadata h => exact allOrNothing_self s _
  | getItem h itemType id options => exact allOrNothing_getItem s h itemType id options
  | setMetadata h | addItem h | deleteItem h | updateItemValue h | addAttributes h
  | updateAttributes h | deleteAttributes h => exact allOrNothing_onContainer s h _
  | openSearch h itemType text options =>
    cases hq : Query.parse text with
    | error fault => simpa [answer, openSearch, hq] using allOrNothing_self s _
    | ok query => simp [Call.takesNumber, hq, Except.toBool] at htakes
  | fetchNextResults search count => exact allOrNothing_fetchNextResults s search count
  | closeSearch search => exact allOrNothing_closeSearch s search

/-- A call that took a number leaves nothing more behind when it fails. -/
lemma allOrNothing_conclude (s : Store) {call : Call} (htakes : call.takesNumber = true)
    (number : Int) : AllOrNothing s (s.conclude number call) := by
  cases call with
  | openContainer name credentials => exact allOrNothing_attach s name number
  | openSearch h itemType text options =>
    cases hq : Query.parse text with
    | error fault => simp [Call.takesNumber, hq, Except.toBool] at htakes
    | ok query =>
      simp only [conclude, hq]
      exact allOrNothing_beginSearch s h itemType query options number
  | _ => simp [Call.takesNumber] at htakes

/-- What a call leaves behind that is answered with an error, without others in between. -/
lemma answer_of_error {s : Store} {call : Call} {e : CallError}
    (he : (s.answer call).1 = .error e) :
    (s.answer call).2 = if call.takesNumber then s.allocate.2 else s := by
  cases htakes : call.takesNumber with
  | false => exact allOrNothing_answer s htakes e he
  | true =>
    rw [answer_eq_conclude htakes] at he ⊢
    exact allOrNothing_conclude _ htakes _ e he

end Store

namespace Shared

variable {ι : Type} [DecidableEq ι] {s s' : Shared ι} {es : List (Event ι)} {client : ι}
  {call : Call} {number : Int}

/-- All that is left of taking a number is the number. -/
lemma Step.sameContents_took (h : Step s (.took client call number) s') :
    s.store.SameContents s'.store ∧ s'.store.nextHandle = s.store.nextHandle + 1 := by
  cases h with
  | took free takes => exact ⟨⟨rfl, rfl, rfl⟩, rfl⟩

/-- An answer that is an error leaves the store as it was when the answer was given, whatever
others have done since the number was taken. -/
lemma Step.store_of_error (hs : s.Coherent) {e : CallError}
    (h : Step s (.answered client call (.error e)) s') : s'.store = s.store := by
  cases htakes : call.takesNumber with
  | true =>
    obtain ⟨number, -, -, he, rfl⟩ := h.eq_conclude hs htakes
    exact Store.allOrNothing_conclude s.store htakes number e he.symm
  | false =>
    obtain ⟨he, rfl⟩ := h.eq_answer hs htakes
    exact Store.allOrNothing_answer s.store htakes e he.symm

/-- **Calls that fail leave the store as it was.**  Whatever the clients of a store have done,
whichever call is made and whatever it is made with: when the answer is an error, all
containers, the table of open containers and all searches with the results that are left of
them are as before, and the next number is the old one, or the one after it if the call got as
far as taking a number.  The same holds of the two steps of a call that others come between:
taking a number changes nothing else, and an answer that is an error changes nothing.  The
next number never decreases. -/
theorem refused_calls_change_nothing (hrun : Run (start .empty) es s) :
    (∀ (call : Call) (e : CallError), (s.store.answer call).1 = .error e →
      s.store.SameContents (s.store.answer call).2 ∧
        (s.store.answer call).2.nextHandle =
          s.store.nextHandle + if call.takesNumber then 1 else 0) ∧
    (∀ client call number s', Step s (.took client call number) s' →
      s.store.SameContents s'.store ∧ s'.store.nextHandle = s.store.nextHandle + 1) ∧
    (∀ client call e s', Step s (.answered client call (.error e)) s' → s'.store = s.store) ∧
    ∀ es' s', Run s es' s' → s.store.nextHandle ≤ s'.store.nextHandle := by
  have hs : s.Coherent := (coherent_start Store.coherent_empty).run hrun
  refine ⟨?whole, ?taking, ?answer, ?later⟩
  case whole =>
    intro call e he
    rw [Store.answer_of_error he]
    cases call.takesNumber with
    | true => exact ⟨⟨rfl, rfl, rfl⟩, rfl⟩
    | false => exact ⟨.refl s.store, (Int.add_zero _).symm⟩
  case taking =>
    intro client call number s' h
    exact h.sameContents_took
  case answer =>
    intro client call e s' h
    exact h.store_of_error hs
  case later =>
    intro es' s' h
    exact (h.le_of_number? hs).1

/-- A container that is open is opened again, which uses up a number and nothing else. -/
theorem refused_opening_uses_number :
    ∃ (s : Shared Unit) (es : List (Event Unit)), Run (start .empty) es s ∧
      (s.store.answer (.openContainer "c" "\x7b\x7d")).1 = .error (.containerAlreadyOpen "c") ∧
      s.store.SameContents (s.store.answer (.openContainer "c" "\x7b\x7d")).2 ∧
      s.store.nextHandle = 2 ∧
      (s.store.answer (.openContainer "c" "\x7b\x7d")).2.nextHandle = 3 := by
  let creation : Call := .createContainer "c" "default" "\x7b\x7d" "\x7b\x7d"
  let opening : Call := .openContainer "c" "\x7b\x7d"
  have run := Run.nil (start .empty : Shared Unit)
    |>.snoc (@Step.answered _ _ _ () creation rfl rfl)
    |>.snoc (@Step.took _ _ _ () opening rfl rfl)
    |>.snoc (@Step.concluded _ _ _ () opening 1 rfl)
  obtain ⟨hsame, hnext⟩ := (refused_calls_change_nothing run).1 opening
    (.containerAlreadyOpen "c") rfl
  exact ⟨_, _, run, rfl, hsame, rfl, hnext⟩

end Shared

end Soak
