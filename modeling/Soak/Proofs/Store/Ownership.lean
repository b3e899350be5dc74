import Mathlib.Data.List.Nodup
import Soak.Proofs.Store.Opened
import Soak.Proofs.Store.Rename

/-!
# Clients with containers of their own

A client that has containers of its own names no others, and passes only handles that were
handed out to it before (`Shared.Discreet`).  Then its numbers stand for its own containers only.
Another client, whose containers are different, does not notice what it does
(`Shared.Unnoticed`).
-/

namespace Soak

namespace Shared

variable {ι : Type}

/-- Who makes a step. -/
def Event.client : Event ι → ι
  | .took client _ _ => client
  | .answered client _ _ => client

variable [DecidableEq ι]

/-- The number that a client takes in a step. -/
def Event.takenBy? (i : ι) (e : Event ι) : Option Int :=
  if e.client = i then e.number? else none

/-- The number that is handed out to a client in a step. -/
def Event.handedTo? (i : ι) (e : Event ι) : Option Int :=
  if e.client = i then e.handedOut? else none

/-- In the course of the given steps a client names containers of its own only, and passes only
handles that were handed out to it before. -/
def Discreet (own : Set String) (i : ι) (es : List (Event ι)) : Prop :=
  ∀ past call a rest, es = past ++ .answered i call a :: rest →
    call.Within own (· ∈ past.filterMap (Event.handedTo? i))

variable {own : Set String} {s s' t : Shared ι} {e : Event ι} {ds es : List (Event ι)}
  {i j : ι} {k : Int}

lemma discreet_nil (own : Set String) (i : ι) : Discreet own i [] := by
  intro past call a rest he
  simp at he

lemma Discreet.snoc (h : Discreet own i es) (hlast : ∀ call a, e = .answered i call a →
    call.Within own (· ∈ es.filterMap (Event.handedTo? i))) : Discreet own i (es ++ [e]) := by
  intro past call a rest he
  rcases List.eq_nil_or_concat rest with rfl | ⟨rest, d, rfl⟩
  · obtain ⟨rfl, hd⟩ := List.append_inj' he rfl
    exact hlast call a (List.head_eq_of_cons_eq hd)
  · rw [List.concat_eq_append, ← List.cons_append, ← List.append_assoc] at he
    exact h past call a rest (List.append_inj' he rfl).1

lemma Discreet.of_append (h : Discreet own i (es ++ ds)) : Discreet own i es :=
  fun past call a rest he => h past call a (rest ++ ds) (by simp [he])

/-! ### Numbers in a run -/

lemma takenBy_sublist (i : ι) (es : List (Event ι)) :
    (es.filterMap (Event.takenBy? i)).Sublist (es.filterMap Event.number?) := by
  have h : es.filterMap (Event.takenBy? i) =
      (es.filter fun e => e.client = i).filterMap Event.number? := by
    rw [List.filterMap_filter]
    simp only [decide_eq_true_eq]
    rfl
  rw [h]
  exact List.filter_sublist.filterMap _

lemma Run.append (h : Run s ds t) (h' : Run t es s') : Run s (ds ++ es) s' := by
  induction h' with
  | nil => rwa [List.append_nil]
  | snoc _ step ih =>
    rw [← List.append_assoc]
    exact ih.snoc step

/-- The numbers that are taken in a run are not below those given out before. -/
lemma Run.le_of_number? (hs : s.Coherent) (h : Run s es s') :
    s.store.nextHandle ≤ s'.store.nextHandle ∧
      ∀ k ∈ es.filterMap Event.number?, s.store.nextHandle ≤ k := by
  induction h with
  | nil => exact ⟨Int.le_refl _, by simp⟩
  | @snoc t u es e run step ih =>
    have ht := hs.run run
    rw [List.filterMap_append]
    cases step with
    | took free takes =>
      refine ⟨Int.le_trans ih.1 (Int.le_of_lt (Int.lt_succ _)), fun k hk => ?_⟩
      rcases List.mem_append.1 hk with hk | hk
      · exact ih.2 k hk
      · rw [List.mem_singleton.1 hk]
        exact ih.1
    | @concluded j call n waiting =>
      obtain ⟨hopened, hsearches⟩ := ht.pending_fresh j call n waiting
      have hnext := (ht.store.conclude (ht.issued_lt _ (ht.pending_issued j call n waiting))
        hopened hsearches (ht.pending_takes j call n waiting)).2.1
      refine ⟨hnext.symm ▸ ih.1, fun k hk => ih.2 k ?_⟩
      simpa [Event.number?] using hk
    | answered free takes =>
      refine ⟨(ht.store.answer takes).2.1.symm ▸ ih.1, fun k hk => ih.2 k ?_⟩
      simpa [Event.number?] using hk

lemma Step.issued_subset (h : Step s e s') : s.issued ⊆ s'.issued := by
  cases h with
  | took => exact List.subset_cons_self _ _
  | concluded => exact List.Subset.refl _
  | answered => exact List.Subset.refl _

lemma Step.issued_of_handedOut? (hs : s.Coherent) (h : Step s e s')
    (hk : e.handedOut? = some k) : (e.client, k) ∈ s'.issued := by
  cases h with
  | took => cases hk
  | @concluded j call n waiting =>
    obtain rfl := handedOut?_conclude s.store j n hk (hs.pending_takes j call n waiting)
    exact hs.pending_issued j call k waiting
  | @answered j call free takes =>
    rw [handedOut?_answer s.store j takes] at hk
    cases hk

/-- What is handed out to a client was taken by it. -/
lemma Run.issued_of_handedTo (h : Run (start .empty) es s)
    (hk : k ∈ es.filterMap (Event.handedTo? i)) : (i, k) ∈ s.issued := by
  induction h with
  | nil => simp at hk
  | @snoc t u es e run step ih =>
    rw [List.filterMap_append, List.mem_append] at hk
    rcases hk with hk | hk
    · exact step.issued_subset (ih hk)
    · obtain ⟨d, hd, hout⟩ := List.mem_filterMap.1 hk
      obtain rfl := List.mem_singleton.1 hd
      simp only [Event.handedTo?, Option.ite_none_right_eq_some] at hout
      obtain ⟨rfl, hout⟩ := hout
      exact step.issued_of_handedOut? ((coherent_start Store.coherent_empty).run run) hout

/-- Numbers of a client stand for containers of the client only. -/
lemma Run.own_of_opened (h : Run (start .empty) es s) (hown : Discreet own i es)
    (hk : (i, k) ∈ s.issued) {name : String} (ho : s.store.opened[k]? = some name) :
    name ∈ own := by
  have hm := (h.opened Store.coherent_empty ho).resolve_left (by simp [Store.empty])
  obtain ⟨e, he, hopens⟩ := List.mem_filterMap.1 hm
  obtain ⟨j, credentials, rfl⟩ := Event.opens?_eq_some hopens
  have hj : k ∈ es.filterMap (Event.handedTo? j) :=
    List.mem_filterMap.2 ⟨_, he, if_pos rfl⟩
  obtain rfl : j = i :=
    ((coherent_start Store.coherent_empty).run h).eq_of_issued (h.issued_of_handedTo hj) hk
  obtain ⟨past, rest, rfl⟩ := List.append_of_mem he
  exact (hown past _ _ rest rfl).name name rfl

/-! ### The steps of other clients -/

/-- A step of another client leaves alone what a client can see. -/
structure Unnoticed (own : Set String) (i : ι) (s s' : Shared ι) : Prop where
  containers : ∀ n ∈ own, s'.store.containers[n]? = s.store.containers[n]?
  opened : ∀ k, (i, k) ∈ s.issued → s'.store.opened[k]? = s.store.opened[k]?
  searches : ∀ k, (i, k) ∈ s.issued → s'.store.searches[k]? = s.store.searches[k]?
  issued : ∀ k, (i, k) ∈ s'.issued → (i, k) ∈ s.issued
  pending : s'.pending i = s.pending i

lemma Step.unnoticed_took {call : Call} {n : Int} (step : Step s (.took j call n) s')
    (hne : j ≠ i) : Unnoticed own i s s' := by
  cases step with
  | took free takes =>
    refine ⟨fun _ _ => rfl, fun _ _ => rfl, fun _ _ => rfl, fun k hk => ?_,
      Function.update_of_ne hne.symm _ _⟩
    rcases List.mem_cons.1 hk with heq | hk
    · exact absurd (congrArg Prod.fst heq).symm hne
    · exact hk

lemma Step.unnoticed_answered (hs : s.Coherent) {call : Call} {a : call.Answer}
    (step : Step s (.answered j call a) s') (hne : j ≠ i) {others : Set String}
    (hapart : ∀ n ∈ others, n ∉ own) (hcall : call.Within others fun k => (j, k) ∈ s.issued)
    (hin : ∀ k name, (j, k) ∈ s.issued → s.store.opened[k]? = some name → name ∈ others) :
    Unnoticed own i s s' := by
  have hsubject : ∀ n ∈ own, s.store.subject call ≠ some n := by
    intro n hn hsub
    refine hapart n ?_ hn
    rcases Option.or_eq_some_iff.1 hsub with hname | ⟨-, hhandle⟩
    · exact hcall.name n hname
    · obtain ⟨k, hk, ho⟩ := Option.bind_eq_some_iff.1 hhandle
      exact hin k.number n (hcall.handle k hk) ho
  have hspares := step.spares_answered hs hcall.search
  have hother {k : Int} (hi : (i, k) ∈ s.issued) : (j, k) ∉ s.issued :=
    fun hj => hne (hs.eq_of_issued hj hi)
  cases step with
  | @concluded _ _ number waiting =>
    refine ⟨fun n hn => hspares.containers n (hsubject n hn), fun k hk => ?_,
      fun k hk => hspares.searches k (hother hk), fun _ hk => hk,
      Function.update_of_ne hne.symm _ _⟩
    have hnumber : number ≠ k := by
      rintro rfl
      exact hother hk (hs.pending_issued j call number waiting)
    rcases s.store.opened_conclude (hs.pending_takes j call number waiting) number with
      ho | ⟨name, credentials, rfl, -, ho⟩
    · exact congrArg (·[k]?) ho
    · show (s.store.conclude number _).2.opened[k]? = _
      rw [ho, Std.ExtTreeMap.getElem?_insert, if_neg]
      exact fun heq => hnumber (Std.compare_eq_iff_eq.1 heq)
  | answered free takes =>
    refine ⟨fun n hn => hspares.containers n (hsubject n hn), fun k hk => ?_,
      fun k hk => hspares.searches k (hother hk), fun _ hk => hk, rfl⟩
    refine s.store.opened_answer takes fun hclose => hother hk ?_
    exact hcall.handle ⟨k⟩ (by rw [hclose]; rfl)

end Shared

end Soak
