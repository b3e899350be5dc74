import Soak.Proofs.Store.Handles

/-!
# Numbers are given out once

In a run of a shared store no number is taken twice, and none is handed out twice, although
taking a number and handing it out are two steps.  A handle of a container is either
refused as invalid or denotes a container that exists.
-/

namespace Soak

namespace Shared

variable {ι : Type}

/-- The number that is taken in a step. -/
def Event.number? : Event ι → Option Int
  | .took _ _ number => some number
  | .answered _ _ _ => none

/-- The number that is handed out in a step. -/
def Event.handedOut? : Event ι → Option Int
  | .answered _ (.openContainer _ _) (.ok h) => some h.number
  | .answered _ (.openSearch _ _ _ _) (.ok h) => some h.number
  | _ => none

/-- A call that took a number hands out that number or none. -/
lemma handedOut?_conclude (s : Store) (client : ι) (number : Int) {call : Call} {n : Int}
    (h : (Event.answered client call (s.conclude number call).1).handedOut? = some n)
    (htakes : call.takesNumber = true) : n = number := by
  cases call with
  | openContainer name credentials =>
    rcases s.attach_cases name number with ⟨e, he⟩ | ⟨c, -, -, he⟩
    · simp [Store.conclude, he, Event.handedOut?] at h
    · simpa [Store.conclude, he, Event.handedOut?, eq_comm] using h
  | openSearch handle itemType text options =>
    cases hq : Query.parse text with
    | error fault => simp [Call.takesNumber, hq, Except.toBool] at htakes
    | ok query =>
      rcases s.beginSearch_cases handle itemType query options number with
        ⟨e, -, he⟩ | ⟨name, c, -, he⟩
      · simp [Store.conclude, hq, he, Event.handedOut?] at h
      · simpa [Store.conclude, hq, he, Event.handedOut?, eq_comm] using h
  | _ => simp [Call.takesNumber] at htakes

/-- A call that takes no number hands out none. -/
lemma handedOut?_answer (s : Store) (client : ι) {call : Call}
    (htakes : call.takesNumber = false) :
    (Event.answered client call (s.answer call).1).handedOut? = none := by
  cases call with
  | openContainer name credentials =>
    have : Json.ofText? credentials = none := by simpa [Call.takesNumber] using htakes
    simp [Store.answer, Store.openContainer, Store.requireJson, this, Event.handedOut?]
  | openSearch handle itemType text options =>
    cases hq : Query.parse text with
    | error fault => simp [Store.answer, Store.openSearch, hq, Event.handedOut?]
    | ok query => simp [Call.takesNumber, hq, Except.toBool] at htakes
  | _ => rfl

variable [DecidableEq ι] {s s' : Shared ι} {e : Event ι} {es : List (Event ι)} {s₀ : Store}

/-- The issued numbers are those that were taken. -/
lemma Run.issued (h : Run (start s₀) es s) :
    s.issued.map Prod.snd = (es.filterMap Event.number?).reverse := by
  induction h with
  | nil => rfl
  | snoc _ step ih =>
    cases step with
    | took => simp [take, Event.number?, ih, Store.allocate]
    | concluded => simp [conclude, Event.number?, ih]
    | answered => simp [Event.number?, ih]

/-- What is known of the numbers that were handed out: each of them once, all of them
issued, and none of them waiting to be used. -/
structure HandedOut (s : Shared ι) (numbers : List Int) : Prop where
  nodup : numbers.Nodup
  issued : ∀ n ∈ numbers, ∃ i, (i, n) ∈ s.issued
  used : ∀ i call n, s.pending i = some (call, n) → n ∉ numbers

lemma HandedOut.step {numbers : List Int} (hc : s.Coherent) (h : HandedOut s numbers)
    (step : Step s e s') : HandedOut s' (numbers ++ e.handedOut?.toList) := by
  cases step with
  | @took i call free takes =>
    -- the number that is taken has not been handed out yet
    have hnew : s.store.nextHandle ∉ numbers := fun hm => by
      obtain ⟨j, hj⟩ := h.issued _ hm
      exact absurd (hc.issued_lt _ hj) (by simp)
    simp only [Event.handedOut?, Option.toList_none, List.append_nil]
    refine ⟨h.nodup, fun n hn => ?_, fun j c n hp => ?_⟩
    · obtain ⟨j, hj⟩ := h.issued n hn
      exact ⟨j, List.mem_cons_of_mem _ hj⟩
    · simp only [take] at hp
      by_cases hj : j = i
      · subst hj
        simp only [Function.update_self, Option.some.injEq, Prod.mk.injEq] at hp
        rwa [← hp.2]
      · rw [Function.update_of_ne hj] at hp
        exact h.used j c n hp
  | @concluded i call number waiting =>
    have hissued := hc.pending_issued i call number waiting
    -- whoever still waits has a number of its own
    have hold : ∀ j c n, Function.update s.pending i none j = some (c, n) →
        n ≠ number ∧ n ∉ numbers := by
      intro j c n hp
      have hj : j ≠ i := by
        rintro rfl
        simp at hp
      rw [Function.update_of_ne hj] at hp
      refine ⟨?_, h.used j c n hp⟩
      rintro rfl
      exact hj (hc.eq_of_issued (hc.pending_issued j c n hp) hissued)
    cases ho : (Event.answered i call (s.store.conclude number call).1).handedOut? with
    | none =>
      simp only [Option.toList_none, List.append_nil]
      exact ⟨h.nodup, h.issued, fun j c n hp => (hold j c n hp).2⟩
    | some n =>
      obtain rfl := handedOut?_conclude s.store i number ho
        (hc.pending_takes i call number waiting)
      simp only [Option.toList_some]
      refine ⟨?_, fun m hm => ?_, fun j c m hp hm => ?_⟩
      · rw [List.nodup_append]
        refine ⟨h.nodup, List.nodup_singleton n, fun a ha b hb => ?_⟩
        rw [List.mem_singleton.1 hb]
        rintro rfl
        exact h.used i call a waiting ha
      · rcases List.mem_append.1 hm with hm | hm
        · exact h.issued m hm
        · exact ⟨i, by rwa [List.mem_singleton.1 hm]⟩
      · rcases List.mem_append.1 hm with hm | hm
        · exact (hold j c m hp).2 hm
        · exact (hold j c m hp).1 (List.mem_singleton.1 hm)
  | @answered i call free takes =>
    rw [handedOut?_answer s.store i takes]
    simpa using ⟨h.nodup, h.issued, h.used⟩

lemma Run.handedOut (hs : s₀.Coherent) (h : Run (start s₀) es s) :
    HandedOut s (es.filterMap Event.handedOut?) := by
  induction h with
  | nil => exact ⟨List.nodup_nil, by simp, by simp [start]⟩
  | @snoc t u es e run step ih =>
    have hout : [e].filterMap Event.handedOut? = e.handedOut?.toList := by
      cases h : e.handedOut? <;> simp [h]
    rw [List.filterMap_append, hout]
    exact ih.step ((coherent_start hs).run run) step

end Shared

/-- The call is a search whose query is refused before its handle is looked at. -/
def Call.BadQuery (call : Call) (fault : QueryFault) : Prop :=
  ∃ h itemType text options, call = .openSearch h itemType text options ∧
    Query.parse text = .error fault

namespace Store

/-! ### Calls with the handle of a container -/

/-- A change that may be refused, but never because a container is missing. -/
lemma Coherent.onContainer_refusal {s : Store} (hs : s.Coherent) (h : Container.Handle)
    {change : Container → Except CallError Container}
    (hchange : ∀ c name, change c ≠ .error (.containerNotFound name)) :
    (∀ name, (s.onContainer h change).1 ≠ .error (.containerNotFound name)) ∧
      (s.opened[h.number]? = none →
        (s.onContainer h change).1 = .error (.invalidHandle h.number)) := by
  rcases hs.resolve h with ⟨ho, hr⟩ | ⟨n, c, ho, -, -, hr⟩
  · simp [Store.onContainer, hr]
  · simp only [Store.onContainer, hr, ho, reduceCtorEq, false_implies, and_true]
    intro name
    cases hd : change c with
    | error e => simpa [hd] using hchange c name
    | ok d => simp

/-- A call with the handle of a container is refused for the handle, for its query, or for
the items of the container, but never because the container is missing. -/
lemma Coherent.refusal {s : Store} (hs : s.Coherent) {call : Call} {h : Container.Handle}
    (hcall : call.containerHandle? = some h) (htakes : call.takesNumber = false) :
    (∀ name, (s.answer call).1 ≠ .error (.containerNotFound name)) ∧
      (s.opened[h.number]? = none → (s.answer call).1 = .error (.invalidHandle h.number) ∨
        ∃ fault, call.BadQuery fault ∧ (s.answer call).1 = .error (.invalidQuery fault)) := by
  have plain : ∀ {change : Container → Except CallError Container} {a : Except CallError Unit},
      a = (s.onContainer h change).1 →
      (∀ c name, change c ≠ .error (.containerNotFound name)) →
      (∀ name, a ≠ .error (.containerNotFound name)) ∧
        (s.opened[h.number]? = none → a = .error (.invalidHandle h.number)) := by
    rintro change _ rfl hchange
    exact hs.onContainer_refusal h hchange
  have item : ∀ {itemType id : String} {change : Item → Item} {a : Except CallError Unit},
      a = (s.onItem h itemType id change).1 →
      (∀ name, a ≠ .error (.containerNotFound name)) ∧
        (s.opened[h.number]? = none → a = .error (.invalidHandle h.number)) :=
    fun ha => plain ha fun c name => by split <;> simp
  cases call with
  | createContainer | openContainer | deleteContainer | fetchNextResults | closeSearch =>
    simp [Call.containerHandle?] at hcall
  | closeContainer k =>
    obtain rfl : k = h := by simpa [Call.containerHandle?] using hcall
    rcases s.closeContainer_cases k with ⟨ho, he⟩ | ⟨name, ho, he⟩
    · simp [Store.answer, he]
    · simp [Store.answer, he, ho]
  | setMetadata k metadata =>
    obtain rfl : k = h := by simpa [Call.containerHandle?] using hcall
    exact (plain rfl fun c name => by simp).imp_right fun ha ho => .inl (ha ho)
  | getMetadata k =>
    obtain rfl : k = h := by simpa [Call.containerHandle?] using hcall
    rcases hs.resolve k with ⟨ho, hr⟩ | ⟨n, c, ho, -, -, hr⟩
    · simp [Store.answer, Store.getMetadata, hr, Except.map]
    · simp [Store.answer, Store.getMetadata, hr, ho, Except.map]
  | addItem k itemType id value attributes =>
    obtain rfl : k = h := by simpa [Call.containerHandle?] using hcall
    exact (plain rfl fun c name => by split <;> simp).imp_right fun ha ho => .inl (ha ho)
  | getItem k itemType id options =>
    obtain rfl : k = h := by simpa [Call.containerHandle?] using hcall
    rcases hs.resolve k with ⟨ho, hr⟩ | ⟨n, c, ho, -, -, hr⟩
    · simp [Store.answer, Store.getItem, hr]
    · simp only [Store.answer, Store.getItem, hr, ho, reduceCtorEq, false_implies, and_true]
      intro name
      split <;> simp
  | deleteItem k itemType id =>
    obtain rfl : k = h := by simpa [Call.containerHandle?] using hcall
    exact (plain rfl fun c name => by split <;> simp).imp_right fun ha ho => .inl (ha ho)
  | updateItemValue k | addAttributes k | updateAttributes k | deleteAttributes k =>
    obtain rfl : k = h := by simpa [Call.containerHandle?] using hcall
    exact (item rfl).imp_right fun ha ho => .inl (ha ho)
  | openSearch k itemType query options =>
    obtain rfl : k = h := by simpa [Call.containerHandle?] using hcall
    cases hq : Query.parse query with
    | error fault =>
      exact ⟨by simp [Store.answer, Store.openSearch, hq],
        fun _ => .inr ⟨fault, ⟨k, itemType, query, options, rfl, hq⟩, by
          simp [Store.answer, Store.openSearch, hq]⟩⟩
    | ok q => simp [Call.takesNumber, hq, Except.toBool] at htakes

lemma Coherent.refusal_conclude {s : Store} (hs : s.Coherent) {call : Call}
    {h : Container.Handle} (hcall : call.containerHandle? = some h)
    (htakes : call.takesNumber = true) (number : Int) :
    (∀ name, (s.conclude number call).1 ≠ .error (.containerNotFound name)) ∧
      (s.opened[h.number]? = none →
        (s.conclude number call).1 = .error (.invalidHandle h.number)) := by
  cases call with
  | openSearch k itemType text options =>
    obtain rfl : k = h := by simpa [Call.containerHandle?] using hcall
    cases hq : Query.parse text with
    | error fault => simp [Call.takesNumber, hq, Except.toBool] at htakes
    | ok query =>
      rcases hs.resolve k with ⟨ho, hr⟩ | ⟨n, c, ho, -, -, hr⟩
      · simp [Store.conclude, hq, Store.beginSearch, hr]
      · simp [Store.conclude, hq, Store.beginSearch, hr, ho]
  | openContainer => simp [Call.containerHandle?] at hcall
  | _ => simp [Call.takesNumber] at htakes

/-- A container that is deleted was not open. -/
lemma Coherent.deleteContainer {s : Store} (hs : s.Coherent) {name credentials : String}
    (h : (s.deleteContainer name credentials).1 = .ok ()) (number : Int) :
    s.opened[number]? ≠ some name := by
  intro ho
  obtain ⟨c, hc, hh⟩ := holder_eq_some_iff.1 ((hs.opened_iff _ _).1 ho)
  unfold Store.deleteContainer at h
  split at h
  · simp at h
  · simp [hc, hh] at h

end Store

namespace Shared

variable {ι : Type} [DecidableEq ι]

/-- **Handles of a shared store.**  Whatever its clients have done, the table of open
containers and the handles noted in the containers are inverse to each other; handles and
searches in use have different numbers that were given out before; no number was ever
taken or handed out twice; a call with the handle of a container never finds that its
container is missing, for the handle is refused as invalid or denotes a container, unless the
call is refused for its query before; and no container is deleted that a handle refers to. -/
theorem handles_denote_containers {s : Shared ι} {es : List (Event ι)}
    (hrun : Run (start .empty) es s) :
    (∀ (h : Int) (n : String), s.store.opened[h]? = some n ↔
      ∃ c : Container, s.store.containers[n]? = some c ∧ c.openHandle = some h) ∧
    (∀ (h k : Int) (n : String), s.store.opened[h]? = some n → s.store.opened[k]? = some n →
      h = k) ∧
    (∀ h ∈ s.store.opened, h < s.store.nextHandle) ∧
    (∀ h ∈ s.store.searches, h < s.store.nextHandle) ∧
    (∀ h ∈ s.store.opened, h ∉ s.store.searches) ∧
    (es.filterMap Event.number?).Nodup ∧
    (es.filterMap Event.handedOut?).Nodup ∧
    (∀ client call a s' h, Step s (.answered client call a) s' →
      call.containerHandle? = some h →
      (∀ name, a ≠ .error (.containerNotFound name)) ∧
      ((∃ (n : String) (c : Container), s.store.opened[h.number]? = some n ∧
          s.store.containers[n]? = some c) ∨
        a = .error (.invalidHandle h.number) ∨
        ∃ fault, call.BadQuery fault ∧ a = .error (.invalidQuery fault))) ∧
    (∀ client name credentials s',
      Step s (.answered client (.deleteContainer name credentials) (.ok ())) s' →
      ∀ h : Int, s.store.opened[h]? ≠ some name) := by
  have hs : s.Coherent := (coherent_start Store.coherent_empty).run hrun
  have hinv : ∀ (h : Int) (n : String), s.store.opened[h]? = some n ↔
      ∃ c : Container, s.store.containers[n]? = some c ∧ c.openHandle = some h := fun h n => by
    rw [hs.store.opened_iff, Store.holder_eq_some_iff]
  refine ⟨hinv, fun h k n hh hk => ?_, hs.store.opened_lt, hs.store.searches_lt, hs.store.apart,
    ?_, (hrun.handedOut Store.coherent_empty).nodup, fun client call a s' h step hcall => ?_,
    fun client name credentials s' step => ?_⟩
  · rw [hs.store.opened_iff] at hh hk
    exact Option.some.inj (hh.symm.trans hk)
  · rw [← List.nodup_reverse, ← hrun.issued]
    exact hs.issued_nodup
  · have dead_or_live : s.store.opened[h.number]? = none ∨
        ∃ (n : String) (c : Container), s.store.opened[h.number]? = some n ∧
          s.store.containers[n]? = some c := by
      rcases hs.store.resolve h with ⟨ho, -⟩ | ⟨n, c, ho, hc, -⟩
      · exact .inl ho
      · exact .inr ⟨n, c, ho, hc⟩
    cases step with
    | @concluded _ _ number waiting =>
      obtain ⟨h1, h2⟩ := hs.store.refusal_conclude hcall
        (hs.pending_takes client call number waiting) number
      exact ⟨h1, dead_or_live.symm.imp_right fun ho => .inl (h2 ho)⟩
    | answered free takes =>
      obtain ⟨h1, h2⟩ := hs.store.refusal hcall takes
      exact ⟨h1, dead_or_live.symm.imp_right h2⟩
  · generalize ha : (.ok () : Except CallError Unit) = a at step
    cases step with
    | concluded waiting => simpa [Call.takesNumber] using hs.pending_takes _ _ _ waiting
    | answered free takes => exact hs.store.deleteContainer ha.symm

/-- Two clients take numbers for opening the same container, and the second one gets it. -/
theorem handles_of_two_clients :
    ∃ (s : Shared Bool) (es : List (Event Bool)), Run (start .empty) es s ∧
      es.filterMap Event.number? = [1, 2] ∧ es.filterMap Event.handedOut? = [2] ∧
      (s.store.opened[(2 : Int)]? = some "c" ↔
        ∃ c : Container, s.store.containers["c"]? = some c ∧ c.openHandle = some 2) := by
  let creation : Call := .createContainer "c" "default" "\x7b\x7d" "\x7b\x7d"
  let opening : Call := .openContainer "c" "\x7b\x7d"
  have run := Run.nil (start .empty : Shared Bool)
    |>.snoc (@Step.answered _ _ _ false creation rfl rfl)
    |>.snoc (@Step.took _ _ _ false opening rfl rfl)
    |>.snoc (@Step.took _ _ _ true opening rfl rfl)
    |>.snoc (@Step.concluded _ _ _ true opening 2 rfl)
    |>.snoc (@Step.concluded _ _ _ false opening 1 rfl)
  exact ⟨_, _, run, rfl, rfl, (handles_denote_containers run).1 2 "c"⟩

end Shared

end Soak
