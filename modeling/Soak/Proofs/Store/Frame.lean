import Soak.Proofs.Store.Handles

/-!
# What a call leaves alone

A call changes at most the container that it is about (`Store.subject`) and the search that
it names or opens.  So clients that work on different containers do not notice each other.
-/

namespace Soak

namespace Store

/-- All containers but one and all searches but one are the same. -/
structure Frame (name : Option String) (search : Option Int) (s s' : Store) : Prop where
  containers : ∀ n : String, name ≠ some n → s'.containers[n]? = s.containers[n]?
  searches : ∀ k : Int, search ≠ some k → s'.searches[k]? = s.searches[k]?

variable {s : Store} {name : Option String} {search : Option Int}

lemma Frame.refl (name : Option String) (search : Option Int) (s : Store) :
    Frame name search s s :=
  ⟨fun _ _ => rfl, fun _ _ => rfl⟩

lemma frame_put (s : Store) (name : String) (c : Container) (search : Option Int) :
    Frame (some name) search s (s.put name c) where
  containers n hn := by
    rw [put_containers, if_neg fun heq => hn (congrArg some heq)]
  searches _ _ := rfl

lemma frame_onContainer (s : Store) (h : Container.Handle)
    (change : Container → Except CallError Container) :
    Frame s.opened[h.number]? search s (s.onContainer h change).2 := by
  rcases s.onContainer_cases h change with ⟨e, -, he⟩ | ⟨name, c, hr, ⟨e, -, he⟩ | ⟨d, -, he⟩⟩
  · rw [he]
    exact .refl _ _ s
  · rw [he]
    exact .refl _ _ s
  · rw [he, (resolve_eq_ok_iff.1 hr).1]
    exact frame_put s name d search

lemma frame_createContainer (s : Store) (name config credentials : String) :
    Frame (some name) search s (s.createContainer name config credentials).2 := by
  unfold createContainer
  split
  · exact .refl _ _ s
  · split
    · exact .refl _ _ s
    · exact .refl _ _ s
    · split
      · exact .refl _ _ s
      · exact frame_put s name _ search

lemma frame_attach (s : Store) (name : String) (number : Int) :
    Frame (some name) search s (s.attach name number).2 := by
  rcases s.attach_cases name number with ⟨e, he⟩ | ⟨c, -, -, he⟩
  · rw [he]
    exact .refl _ _ s
  · rw [he]
    exact ⟨(frame_put s name _ search).containers, fun _ _ => rfl⟩

lemma frame_closeContainer (s : Store) (h : Container.Handle) :
    Frame s.opened[h.number]? search s (s.closeContainer h).2 := by
  rcases s.closeContainer_cases h with ⟨-, he⟩ | ⟨name, ho, he⟩
  · rw [he]
    exact .refl _ _ s
  · rw [he, ho]
    refine ⟨fun n hn => ?_, fun _ _ => rfl⟩
    have hne : name ≠ n := fun heq => hn (congrArg some heq)
    simp [Std.ExtTreeMap.getElem?_modify, hne]

lemma frame_deleteContainer (s : Store) (name credentials : String) :
    Frame (some name) search s (s.deleteContainer name credentials).2 := by
  unfold deleteContainer
  split
  · exact .refl _ _ s
  · split
    · exact .refl _ _ s
    · split
      · exact .refl _ _ s
      · refine ⟨fun n hn => ?_, fun _ _ => rfl⟩
        have hne : name ≠ n := fun heq => hn (congrArg some heq)
        simp [Std.ExtTreeMap.getElem?_erase, hne]

lemma frame_beginSearch (s : Store) (h : Container.Handle) (itemType : String) (query : Query)
    (options : Search.Options) (number : Int) :
    Frame name (some number) s (s.beginSearch h itemType query options number).2 := by
  rcases s.beginSearch_cases h itemType query options number with ⟨e, -, he⟩ | ⟨n, c, -, he⟩
  · rw [he]
    exact .refl _ _ s
  · rw [he]
    refine ⟨fun _ _ => rfl, fun k hk => ?_⟩
    have hne : number ≠ k := fun heq => hk (congrArg some heq)
    simp [Std.ExtTreeMap.getElem?_insert, hne]

lemma frame_fetchNextResults (s : Store) (h : Search.Handle) (count : Nat) :
    Frame name (some h.number) s (s.fetchNextResults h count).2 := by
  unfold fetchNextResults
  split
  · exact .refl _ _ s
  · refine ⟨fun _ _ => rfl, fun k hk => ?_⟩
    have hne : h.number ≠ k := fun heq => hk (congrArg some heq)
    simp [Std.ExtTreeMap.getElem?_insert, hne]

lemma frame_closeSearch (s : Store) (h : Search.Handle) :
    Frame name (some h.number) s (s.closeSearch h).2 := by
  unfold closeSearch
  split
  · refine ⟨fun _ _ => rfl, fun k hk => ?_⟩
    have hne : h.number ≠ k := fun heq => hk (congrArg some heq)
    simp [Std.ExtTreeMap.getElem?_erase, hne]
  · exact .refl _ _ s

/-- A call that takes no number changes only what it is about. -/
lemma frame_answer (s : Store) {call : Call} (htakes : call.takesNumber = false) :
    Frame (s.subject call) (call.searchHandle?.map Search.Handle.number) s (s.answer call).2 := by
  cases call with
  | createContainer name _ config credentials => exact frame_createContainer s name _ _
  | openContainer name credentials =>
    have : Json.ofText? credentials = none := by simpa [Call.takesNumber] using htakes
    simpa [answer, openContainer, requireJson, this] using Frame.refl _ _ s
  | closeContainer h => exact frame_closeContainer s h
  | deleteContainer name credentials => exact frame_deleteContainer s name credentials
  | getMetadata h => exact .refl _ _ s
  | getItem h itemType id options =>
    simp only [answer, getItem]
    split
    · exact .refl _ _ s
    · split <;> exact .refl _ _ s
  | setMetadata h | addItem h | deleteItem h | updateItemValue h | addAttributes h
  | updateAttributes h | deleteAttributes h => exact frame_onContainer s h _
  | openSearch h itemType query options =>
    cases hq : Query.parse query with
    | error fault => simpa [answer, openSearch, hq] using Frame.refl _ _ s
    | ok query => simp [Call.takesNumber, hq, Except.toBool] at htakes
  | fetchNextResults search count => exact frame_fetchNextResults s search count
  | closeSearch search => exact frame_closeSearch s search

/-- Concluding a call changes only what it is about and the search with its number. -/
lemma frame_conclude (s : Store) {call : Call} (htakes : call.takesNumber = true) (number : Int) :
    Frame (s.subject call) (some number) s (s.conclude number call).2 := by
  cases call with
  | openContainer name credentials => exact frame_attach s name number
  | openSearch h itemType text options =>
    cases hq : Query.parse text with
    | error fault => simp [Call.takesNumber, hq, Except.toBool] at htakes
    | ok query =>
      simp only [conclude, hq]
      exact frame_beginSearch s h itemType query options number
  | _ => simp [Call.takesNumber] at htakes

end Store

namespace Shared

variable {ι : Type} [DecidableEq ι] {s s' : Shared ι} {i : ι}

/-- What a client changes in a shared store: the container that its call is about, and
searches with numbers that it took. -/
structure Spares (i : ι) (name : Option String) (s s' : Shared ι) : Prop where
  containers : ∀ n : String, name ≠ some n → s'.store.containers[n]? = s.store.containers[n]?
  searches : ∀ k : Int, (i, k) ∉ s'.issued → s'.store.searches[k]? = s.store.searches[k]?
  issued : ∀ p ∈ s.issued, p ∈ s'.issued

lemma Step.spares_took {call : Call} {number : Int} (h : Step s (.took i call number) s') :
    Spares i none s s' := by
  cases h with
  | took free takes => exact ⟨fun _ _ => rfl, fun _ _ => rfl, fun p hp => List.mem_cons_of_mem _ hp⟩

/-- A call changes only what it is about, as long as its search is one of the client. -/
lemma Step.spares_answered (hs : s.Coherent) {call : Call} {a : call.Answer}
    (h : Step s (.answered i call a) s')
    (hown : ∀ k, call.searchHandle? = some k → (i, k.number) ∈ s.issued) :
    Spares i (s.store.subject call) s s' := by
  cases h with
  | @concluded _ _ number waiting =>
    have hframe := s.store.frame_conclude (hs.pending_takes i call number waiting) number
    refine ⟨hframe.containers, fun k hk => hframe.searches k ?_, fun _ hp => hp⟩
    rintro ⟨rfl⟩
    exact hk (hs.pending_issued i call _ waiting)
  | answered free takes =>
    have hframe := s.store.frame_answer takes
    refine ⟨hframe.containers, fun k hk => hframe.searches k fun heq => ?_, fun _ hp => hp⟩
    obtain ⟨h, hh, rfl⟩ := Option.map_eq_some_iff.1 heq
    exact hk (hown h hh)

end Shared

end Soak
