import Soak.Proofs.Store.Snapshots
import Soak.Proofs.Store.Opened

/-!
# The life of a handle

A handle is handed out once, serves until it is closed, and is dead from then on.  While a
handle of a container lives, it refers to one container, which is neither deleted nor created
anew nor opened a second time (`Shared.Protects`).  A dead handle is refused whatever else
happens, because its number is spent (`Shared.Spent`).  Searches live in the same way, but
independently of the container that they were opened in.
-/

namespace Soak

namespace Shared

variable {ι : Type}

/-- Whether a container is closed through a handle in a step. -/
def Event.shuts (number : Int) : Event ι → Bool
  | .answered _ (.closeContainer h) _ => h.number = number
  | _ => false

variable [DecidableEq ι]

/-- Whoever calls next with a handle of a container is told that the handle is invalid; a query
that is no query is refused before the handle is looked at. -/
def RejectsHandle (h : Container.Handle) (s : Shared ι) : Prop :=
  ∀ client call a s', Step s (.answered client call a) s' → call.containerHandle? = some h →
    a = .error (.invalidHandle h.number) ∨
      ∃ fault, call.BadQuery fault ∧ a = .error (.invalidQuery fault)

/-- Whoever calls next with a handle of a search is told that the handle is invalid. -/
def RejectsSearch (k : Search.Handle) (s : Shared ι) : Prop :=
  ∀ client call a s', Step s (.answered client call a) s' → call.searchHandle? = some k →
    a = .error (.invalidHandle k.number)

/-- Whoever calls next with a handle of a search succeeds. -/
def AdmitsSearch (k : Search.Handle) (s : Shared ι) : Prop :=
  ∀ client call a s', Step s (.answered client call a) s' → call.searchHandle? = some k →
    ∃ r, a = .ok r

/-- Whoever calls next with the name of a container does not succeed: it is not created, not
opened and not deleted. -/
def Protects (name : String) (s : Shared ι) : Prop :=
  ∀ client call a s', Step s (.answered client call a) s' → call.containerName? = some name →
    ∃ e, a = .error e

variable {number : Int} {name : String} {s s₁ s' : Shared ι} {e : Event ι} {es : List (Event ι)}

/-! ### What is answered -/

lemma Coherent.rejectsHandle (hs : s.Coherent) {h : Container.Handle}
    (hdead : h.number ∉ s.store.opened) : RejectsHandle h s := by
  intro client call a s' step hcall
  have hnone : s.store.opened[h.number]? = none := by simpa using hdead
  cases step with
  | @concluded _ _ number waiting =>
    have htakes := hs.pending_takes client call number waiting
    exact .inl ((hs.store.refusal_conclude hcall htakes number).2 hnone)
  | answered free takes => exact (hs.store.refusal hcall takes).2 hnone

lemma Coherent.rejectsSearch (hs : s.Coherent) {k : Search.Handle}
    (hdead : k.number ∉ s.store.searches) : RejectsSearch k s := by
  intro client call a s' step hcall
  have hnone : s.store.searches[k.number]? = none := by simpa using hdead
  cases call with
  | fetchNextResults search count =>
    obtain rfl : search = k := Option.some.inj hcall
    obtain ⟨rfl, -⟩ := step.eq_answer hs rfl
    simp [Store.answer, Store.fetchNextResults, hnone]
  | closeSearch search =>
    obtain rfl : search = k := Option.some.inj hcall
    obtain ⟨rfl, -⟩ := step.eq_answer hs rfl
    simp [Store.answer, Store.closeSearch, hdead]
  | _ => cases hcall

lemma Coherent.admitsSearch (hs : s.Coherent) {k : Search.Handle}
    (hlive : k.number ∈ s.store.searches) : AdmitsSearch k s := by
  intro client call a s' step hcall
  cases call with
  | fetchNextResults search count =>
    obtain rfl : search = k := Option.some.inj hcall
    obtain ⟨rfl, -⟩ := step.eq_answer hs rfl
    obtain ⟨cursor, hcursor⟩ := Option.isSome_iff_exists.1
      (Std.ExtTreeMap.mem_iff_isSome_getElem?.1 hlive)
    exact ⟨_, Store.fetchNextResults_of_search hcursor count⟩
  | closeSearch search =>
    obtain rfl : search = k := Option.some.inj hcall
    obtain ⟨rfl, -⟩ := step.eq_answer hs rfl
    exact ⟨(), by simp [Store.answer, Store.closeSearch, hlive]⟩
  | _ => cases hcall

/-- A container that is open is protected. -/
lemma Coherent.protects (hs : s.Coherent) (hopen : s.store.opened[number]? = some name) :
    Protects name s := by
  intro client call a s' step hcall
  obtain ⟨c, hc, hheld⟩ := Store.holder_eq_some_iff.1 ((hs.store.opened_iff _ _).1 hopen)
  have hsome : c.openHandle.isSome = true := by rw [hheld, Option.isSome_some]
  cases call with
  | createContainer n storageType config credentials =>
    obtain rfl : n = name := Option.some.inj hcall
    obtain ⟨rfl, -⟩ := step.eq_answer hs rfl
    have hexists : s.store.hasContainer n = true := by
      rw [Store.hasContainer, Std.ExtTreeMap.contains_eq_isSome_getElem?, hc, Option.isSome_some]
    simp only [Store.answer, Store.createContainer, hexists, if_true]
    split
    · exact ⟨_, rfl⟩
    · split <;> exact ⟨_, rfl⟩
  | openContainer n credentials =>
    obtain rfl : n = name := Option.some.inj hcall
    cases htakes : (Call.openContainer n credentials).takesNumber with
    | true =>
      obtain ⟨k, -, -, rfl, -⟩ := step.eq_conclude hs htakes
      exact ⟨_, congrArg Prod.fst (Store.attach_of_open hc hsome k)⟩
    | false =>
      obtain ⟨rfl, -⟩ := step.eq_answer hs htakes
      have hbad : Json.ofText? credentials = none := by simpa [Call.takesNumber] using htakes
      exact ⟨_, by simp [Store.answer, Store.openContainer, Store.requireJson, hbad]; rfl⟩
  | deleteContainer n credentials =>
    obtain rfl : n = name := Option.some.inj hcall
    obtain ⟨rfl, -⟩ := step.eq_answer hs rfl
    simp only [Store.answer, Store.deleteContainer, hc, hsome, if_true]
    split <;> exact ⟨_, rfl⟩
  | _ => cases hcall

/-! ### Handles of containers in the course of a run -/

/-- A handle that is not closed goes on referring to its container. -/
lemma Step.opened_of_shuts_eq_false (step : Step s e s') (hs : s.Coherent)
    (hopen : s.store.opened[number]? = some name) (hshut : e.shuts number = false) :
    s'.store.opened[number]? = some name := by
  cases step with
  | took free takes => exact hopen
  | @concluded client call k waiting =>
    -- the number that is concluded is not in use
    have hne : k ≠ number := by
      rintro rfl
      have hfresh := (hs.pending_fresh client call k waiting).1
      rw [Std.ExtTreeMap.mem_iff_isSome_getElem?, hopen] at hfresh
      exact hfresh rfl
    rcases s.store.opened_conclude (hs.pending_takes client call k waiting) k with
      ho | ⟨n, credentials, -, -, ho⟩
    · simpa only [conclude, ho] using hopen
    · simpa [conclude, ho, Std.ExtTreeMap.getElem?_insert, hne] using hopen
  | @answered client call free takes =>
    have hne : call ≠ .closeContainer ⟨number⟩ := by
      rintro rfl
      simp [Event.shuts] at hshut
    exact (s.store.opened_answer takes hne).trans hopen

/-- A handle that is closed is spent. -/
lemma Step.spent_of_shuts (step : Step s e s') (hs : s.Coherent)
    (hopen : s.store.opened[number]? = some name) (hshut : e.shuts number = true) :
    Spent number s' := by
  have hmem : number ∈ s.store.opened := by
    rw [Std.ExtTreeMap.mem_iff_isSome_getElem?, hopen]
    rfl
  cases step with
  | took free takes => cases hshut
  | @concluded client call k waiting =>
    have htakes := hs.pending_takes client call k waiting
    cases call with
    | closeContainer => cases htakes
    | _ => cases hshut
  | @answered client call free takes =>
    cases call with
    | closeContainer h =>
      obtain rfl : h.number = number := by simpa [Event.shuts] using hshut
      obtain ⟨-, hnext, -, hsearches⟩ := hs.store.answer takes
      refine ⟨?_, ?_, ?_, ?_⟩
      · rw [hnext]
        exact hs.store.opened_lt _ hmem
      · simpa [Store.answer] using s.store.opened_closeContainer h
      · exact fun hm => hs.store.apart _ hmem (hsearches _ hm)
      · exact fun j c hj => (hs.pending_fresh j c _ hj).1 hmem
    | _ => cases hshut

/-- **A handle of a container lives until it is closed.** -/
lemma Run.life_of_handle (run : Run s₁ es s) (hs : s₁.Coherent)
    (hopen : s₁.store.opened[number]? = some name) :
    if es.any (Event.shuts number) then Spent number s
    else s.store.opened[number]? = some name := by
  induction run with
  | nil => exact hopen
  | @snoc t u es e run step ih =>
    have ht := hs.run run
    rw [List.any_append, List.any_cons, List.any_nil, Bool.or_false]
    cases hpast : es.any (Event.shuts number) with
    | true =>
      rw [hpast] at ih
      exact Spent.step ih ht step
    | false =>
      rw [hpast] at ih
      cases hnow : e.shuts number with
      | true => exact step.spent_of_shuts ht ih hnow
      | false => exact step.opened_of_shuts_eq_false ht ih hnow

/-! ### Handles that are handed out -/

/-- A handle that is handed out for a container refers to it. -/
lemma Step.opened_of_openContainer {client : ι} {credentials : String} {h : Container.Handle}
    (step : Step s (.answered client (.openContainer name credentials) (.ok h)) s')
    (hs : s.Coherent) : s'.store.opened[h.number]? = some name := by
  cases htakes : (Call.openContainer name credentials).takesNumber with
  | true =>
    obtain ⟨k, -, -, hk, rfl⟩ := step.eq_conclude hs htakes
    rcases s.store.attach_cases name k with ⟨e, he⟩ | ⟨c, -, -, he⟩
    · simp [Store.conclude, he] at hk
    · obtain rfl : h = ⟨k⟩ := by simpa [Store.conclude, he] using hk
      simp [conclude, Store.conclude, he]
  | false =>
    obtain ⟨hk, -⟩ := step.eq_answer hs htakes
    have hbad : Json.ofText? credentials = none := by simpa [Call.takesNumber] using htakes
    simp [Store.answer, Store.openContainer, Store.requireJson, hbad] at hk

/-- A handle that is handed out for a search serves it. -/
lemma Step.serves_of_openSearch {client : ι} {h : Container.Handle} {itemType text : String}
    {options : Search.Options} {k : Search.Handle}
    (step : Step s (.answered client (.openSearch h itemType text options) (.ok k)) s')
    (hs : s.Coherent) : ∃ found, Serves k.number found options s' 0 := by
  cases hq : Query.parse text with
  | error fault =>
    have htakes : (Call.openSearch h itemType text options).takesNumber = false := by
      simp [Call.takesNumber, hq, Except.toBool]
    obtain ⟨hk, -⟩ := step.eq_answer hs htakes
    simp [Store.answer, Store.openSearch, hq] at hk
  | ok query =>
    have htakes : (Call.openSearch h itemType text options).takesNumber = true := by
      simp [Call.takesNumber, hq, Except.toBool]
    obtain ⟨number, -, -, hk, rfl⟩ := step.eq_conclude hs htakes
    rcases s.store.beginSearch_cases h itemType query options number with
      ⟨e, -, he⟩ | ⟨name, c, -, he⟩
    · simp [Store.conclude, hq, he] at hk
    · obtain rfl : k = ⟨number⟩ := by simpa [Store.conclude, hq, he] using hk
      exact ⟨Store.results c itemType query options.itemOptions, by
        simp [Serves, conclude, Store.conclude, hq, he]⟩

/-- **Handles die for good.**  Whatever the clients of a store have done before and do later,
from the call that hands a handle of a container out until the call that closes it, the handle
refers to one container: its name stays the same, and nobody creates, opens or deletes a
container of this name.  From the call that closes it on, every call with the handle answers
that it is invalid (a query that is no query is refused before).  A search is served until it
is ended, whatever becomes of its container, and from then on every call with its handle
answers that it is invalid.  At no time is the number of a container's handle one of a search,
or the other way round. -/
theorem handles_die_for_good (hrun : Run (start .empty) es s) :
    (∀ client name credentials h s₁,
      Step s (.answered client (.openContainer name credentials) (.ok h)) s₁ →
      ∀ es₁ s₂, Run s₁ es₁ s₂ →
        (if es₁.any (Event.shuts h.number) then RejectsHandle h s₂
          else (∃ c, s₂.store.resolve h = .ok (name, c) ∧ c.openHandle = some h.number) ∧
            Protects name s₂) ∧
        RejectsSearch ⟨h.number⟩ s₂) ∧
    (∀ client h itemType text options k s₁,
      Step s (.answered client (.openSearch h itemType text options) (.ok k)) s₁ →
      ∀ es₁ s₂, Run s₁ es₁ s₂ →
        (if es₁.any (Event.closes k.number) then RejectsSearch k s₂ else AdmitsSearch k s₂) ∧
        RejectsHandle ⟨k.number⟩ s₂) := by
  have hs : s.Coherent := (coherent_start Store.coherent_empty).run hrun
  constructor
  · intro client name credentials h s₁ step es₁ s₂ run
    have hs₂ := (hs.step step).run run
    have hlife := run.life_of_handle (hs.step step) (step.opened_of_openContainer hs)
    cases hshut : es₁.any (Event.shuts h.number) with
    | true =>
      rw [hshut] at hlife
      have hspent : Spent h.number s₂ := hlife
      exact ⟨hs₂.rejectsHandle hspent.opened, hs₂.rejectsSearch hspent.searches⟩
    | false =>
      rw [hshut] at hlife
      have hopen : s₂.store.opened[h.number]? = some name := hlife
      have hmem : h.number ∈ s₂.store.opened := by
        rw [Std.ExtTreeMap.mem_iff_isSome_getElem?, hopen]
        rfl
      obtain ⟨c, hc, hheld⟩ := Store.holder_eq_some_iff.1 ((hs₂.store.opened_iff _ _).1 hopen)
      exact ⟨⟨⟨c, Store.resolve_eq_ok_iff.2 ⟨hopen, hc⟩, hheld⟩, hs₂.protects hopen⟩,
        hs₂.rejectsSearch (hs₂.store.apart _ hmem)⟩
  · intro client h itemType text options k s₁ step es₁ s₂ run
    have hs₂ := (hs.step step).run run
    obtain ⟨found, hserves⟩ := step.serves_of_openSearch hs
    have hlife := hserves.run (hs.step step) run
    cases hclosed : es₁.any (Event.closes k.number) with
    | true =>
      rw [hclosed] at hlife
      have hspent : Spent k.number s₂ := hlife
      exact ⟨hs₂.rejectsSearch hspent.searches, hs₂.rejectsHandle hspent.opened⟩
    | false =>
      rw [hclosed] at hlife
      have hmem : k.number ∈ s₂.store.searches := Serves.mem_searches hlife
      exact ⟨hs₂.admitsSearch hmem,
        hs₂.rejectsHandle fun hopen => hs₂.store.apart _ hopen hmem⟩

/-- A container is opened, closed and opened again: the first handle stays dead. -/
theorem handles_die_for_good_when_reopened :
    ∃ (s s₁ s₂ : Shared Unit) (es es₁ : List (Event Unit)), Run (start .empty) es s ∧
      Step s (.answered () (.openContainer "c" "\x7b\x7d") (.ok ⟨1⟩)) s₁ ∧ Run s₁ es₁ s₂ ∧
      es₁.any (Event.shuts 1) = true ∧ s₂.store.opened[(2 : Int)]? = some "c" ∧
      RejectsHandle ⟨1⟩ s₂ := by
  let creation : Call := .createContainer "c" "default" "\x7b\x7d" "\x7b\x7d"
  let opening : Call := .openContainer "c" "\x7b\x7d"
  let closing : Call := .closeContainer ⟨1⟩
  let created : Shared Unit := { start .empty with store := (Store.empty.answer creation).2 }
  let opened := (created.take () opening).conclude () opening 1
  let closed : Shared Unit := { opened with store := (opened.store.answer closing).2 }
  have run : Run (start .empty) _ (created.take () opening) := Run.nil (start .empty)
    |>.snoc (@Step.answered _ _ _ () creation rfl rfl)
    |>.snoc (@Step.took _ _ _ () opening rfl rfl)
  have step : Step (created.take () opening) (.answered () opening (.ok ⟨1⟩)) opened :=
    @Step.concluded _ _ (created.take () opening) () opening 1 rfl
  have run₁ : Run opened _ ((closed.take () opening).conclude () opening 2) := Run.nil opened
    |>.snoc (@Step.answered _ _ opened () closing rfl rfl)
    |>.snoc (@Step.took _ _ closed () opening rfl rfl)
    |>.snoc (@Step.concluded _ _ (closed.take () opening) () opening 2 rfl)
  have hlife := ((handles_die_for_good run).1 () "c" "\x7b\x7d" ⟨1⟩ _ step _ _ run₁).1
  exact ⟨_, _, _, _, _, run, step, run₁, rfl, rfl, hlife⟩

/-- A dead handle is not what is complained of when a search is opened with it and with a query
that is no query. -/
theorem dead_handle_behind_bad_query :
    ¬ ∀ (s s₁ s₂ s₃ : Shared Unit) (es es₁ : List (Event Unit)) (name credentials : String)
      (h : Container.Handle) (call : Call) (a : call.Answer), Run (start .empty) es s →
      Step s (.answered () (.openContainer name credentials) (.ok h)) s₁ → Run s₁ es₁ s₂ →
      es₁.any (Event.shuts h.number) = true → Step s₂ (.answered () call a) s₃ →
      call.containerHandle? = some h → a = .error (.invalidHandle h.number) := by
  let creation : Call := .createContainer "c" "default" "\x7b\x7d" "\x7b\x7d"
  let opening : Call := .openContainer "c" "\x7b\x7d"
  let closing : Call := .closeContainer ⟨1⟩
  let search : Call := .openSearch ⟨1⟩ "t" "\x7b" .all
  let created : Shared Unit := { start .empty with store := (Store.empty.answer creation).2 }
  let opened := (created.take () opening).conclude () opening 1
  let closed : Shared Unit := { opened with store := (opened.store.answer closing).2 }
  intro hclaim
  have run : Run (start .empty) _ (created.take () opening) := Run.nil (start .empty)
    |>.snoc (@Step.answered _ _ _ () creation rfl rfl)
    |>.snoc (@Step.took _ _ _ () opening rfl rfl)
  have step : Step (created.take () opening) (.answered () opening (.ok ⟨1⟩)) opened :=
    @Step.concluded _ _ (created.take () opening) () opening 1 rfl
  have run₁ : Run opened _ closed := (Run.nil opened).snoc
    (@Step.answered _ _ opened () closing rfl rfl)
  have step₃ := @Step.answered _ _ closed () search rfl rfl
  have hinvalid := hclaim _ _ _ _ _ _ "c" "\x7b\x7d" ⟨1⟩ search _ run step run₁ rfl step₃ rfl
  -- the query is refused before the handle is looked at
  cases hinvalid

end Shared

end Soak
