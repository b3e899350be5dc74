import Soak.Proofs.Store.Numbers

/-!
# Open containers, by what clients have seen

A handle enters the table of open containers when it is handed out, and leaves it when it is
closed.  So a handle in the table was handed out for the name that it stands for, and that is
the only name it was ever handed out for.
-/

namespace Soak

namespace Store

/-- A call that takes no number changes the table of open containers at the handle that it
closes. -/
lemma opened_answer (s : Store) {call : Call} (htakes : call.takesNumber = false) {k : Int}
    (hk : call ≠ .closeContainer ⟨k⟩) : (s.answer call).2.opened[k]? = s.opened[k]? := by
  by_cases hclose : ∃ h, call = .closeContainer h
  · obtain ⟨h, rfl⟩ := hclose
    have hne : h.number ≠ k := by
      rintro rfl
      exact hk rfl
    rcases s.closeContainer_cases h with ⟨-, he⟩ | ⟨name, -, he⟩
    · simp [answer, he]
    · simp [answer, he, Std.ExtTreeMap.getElem?_erase, hne]
  · rw [(keepsHandles_answer s htakes fun h hh => hclose ⟨h, hh⟩).opened]

lemma opened_closeContainer (s : Store) (h : Container.Handle) :
    (s.closeContainer h).2.opened[h.number]? = none := by
  rcases s.closeContainer_cases h with ⟨ho, he⟩ | ⟨name, -, he⟩
  · simpa [he] using ho
  · simp [he]

/-- What is open after an answer was open before. -/
lemma opened_of_answer {s : Store} {call : Call} (htakes : call.takesNumber = false) {k : Int}
    {name : String} (h : (s.answer call).2.opened[k]? = some name) :
    s.opened[k]? = some name := by
  by_cases hk : call = .closeContainer ⟨k⟩
  · subst hk
    rw [answer, opened_closeContainer s ⟨k⟩] at h
    cases h
  · rwa [opened_answer s htakes hk] at h

/-- A call that took a number opens a container under it, or changes no handle. -/
lemma opened_conclude (s : Store) {call : Call} (htakes : call.takesNumber = true)
    (number : Int) :
    (s.conclude number call).2.opened = s.opened ∨
      ∃ name credentials, call = .openContainer name credentials ∧
        s.conclude number (.openContainer name credentials) = (.ok ⟨number⟩,
          (s.attach name number).2) ∧
        (s.conclude number call).2.opened = s.opened.insert number name := by
  cases call with
  | openContainer name credentials =>
    rcases s.attach_cases name number with ⟨e, he⟩ | ⟨c, -, -, he⟩
    · exact .inl (by simp [conclude, he])
    · exact .inr ⟨name, credentials, rfl, by simp [conclude, he], by simp [conclude, he]⟩
  | openSearch h itemType text options =>
    cases hq : Query.parse text with
    | error fault => simp [Call.takesNumber, hq, Except.toBool] at htakes
    | ok query =>
      left
      rcases s.beginSearch_cases h itemType query options number with
        ⟨e, -, he⟩ | ⟨name, c, -, he⟩ <;> simp [conclude, hq, he]
  | _ => simp [Call.takesNumber] at htakes

end Store

namespace Shared

variable {ι : Type}

/-- The handle that is handed out for a container in a step, with the name. -/
def Event.opens? : Event ι → Option (Int × String)
  | .answered _ (.openContainer name _) (.ok h) => some (h.number, name)
  | _ => none

lemma Event.opens?_eq_some {e : Event ι} {k : Int} {name : String}
    (h : e.opens? = some (k, name)) :
    ∃ client credentials, e = .answered client (.openContainer name credentials) (.ok ⟨k⟩) := by
  unfold Event.opens? at h
  split at h
  · obtain ⟨rfl, rfl⟩ := Prod.mk.inj (Option.some.inj h)
    exact ⟨_, _, rfl⟩
  · cases h

lemma Event.handedOut?_of_opens? {e : Event ι} {k : Int} {name : String}
    (h : e.opens? = some (k, name)) : e.handedOut? = some k := by
  obtain ⟨client, credentials, rfl⟩ := Event.opens?_eq_some h
  rfl

lemma opens_sublist (es : List (Event ι)) :
    ((es.filterMap Event.opens?).map Prod.fst).Sublist (es.filterMap Event.handedOut?) := by
  induction es with
  | nil => exact List.Sublist.refl _
  | cons e es ih =>
    cases ho : e.opens? with
    | none =>
      rw [List.filterMap_cons_none ho]
      exact ih.trans ((List.sublist_cons_self e es).filterMap _)
    | some p =>
      rw [List.filterMap_cons_some ho, List.map_cons,
        List.filterMap_cons_some (Event.handedOut?_of_opens? ho)]
      exact ih.cons_cons _

variable [DecidableEq ι] {s s' : Shared ι} {e : Event ι} {es : List (Event ι)} {s₀ : Store}

/-- What is open after a step was open before or was handed out in the step. -/
lemma Step.opened (hs : s.Coherent) (h : Step s e s') {k : Int} {name : String}
    (hk : s'.store.opened[k]? = some name) :
    s.store.opened[k]? = some name ∨ e.opens? = some (k, name) := by
  cases h with
  | took => exact .inl hk
  | @concluded client call number waiting =>
    rcases s.store.opened_conclude (hs.pending_takes _ _ _ waiting) number with
      ho | ⟨n, credentials, rfl, he, ho⟩
    · simp only [Shared.conclude, ho] at hk
      exact .inl hk
    · simp only [Shared.conclude, ho, Std.ExtTreeMap.getElem?_insert] at hk
      split at hk
      · next heq =>
        obtain rfl := Std.compare_eq_iff_eq.1 heq
        obtain rfl := Option.some.inj hk
        exact .inr (by simp [he, Event.opens?])
      · exact .inl hk
  | answered free takes => exact .inl (Store.opened_of_answer takes hk)

/-- A handle of the table was handed out for the name that it stands for. -/
lemma Run.opened (hs : s₀.Coherent) (h : Run (start s₀) es s) {k : Int} {name : String}
    (hk : s.store.opened[k]? = some name) :
    s₀.opened[k]? = some name ∨ (k, name) ∈ es.filterMap Event.opens? := by
  induction h with
  | nil => exact .inl hk
  | @snoc t u es e run step ih =>
    rw [List.filterMap_append, List.mem_append]
    rcases step.opened ((coherent_start hs).run run) hk with hk | hk
    · exact (ih hk).imp_right .inl
    · exact .inr (.inr (List.mem_filterMap.2 ⟨e, List.mem_singleton_self e, hk⟩))

/-- No handle is handed out for two names. -/
lemma Run.eq_of_opens (hs : s₀.Coherent) (h : Run (start s₀) es s) {k : Int} {m n : String}
    (hm : (k, m) ∈ es.filterMap Event.opens?) (hn : (k, n) ∈ es.filterMap Event.opens?) :
    m = n := by
  have hnodup := (h.handedOut hs).nodup.sublist (opens_sublist es)
  exact congrArg Prod.snd (List.inj_on_of_nodup_map hnodup hm hn rfl)

end Shared

end Soak
