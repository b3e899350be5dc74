import Soak.Proofs.Store.Cells
import Soak.Proofs.Store.Opened

/-!
# What a run makes of a cell

The events of a run that are about the place of an item are operations on its cell
(`Event.cellOp?`).  Which container a call is about depends on the name that its handle was
handed out for, and this the earlier events tell.  The successful operations alone, in their
order, tell what the place holds.
-/

namespace Soak

/-! ### Events as operations on cells -/

/-- What a call asks of the cell of a place, if it is about that place.  The names under which
handles were handed out are given. -/
def Call.cellOp? (names : List (Int × String)) (p : Place) (call : Call) : Option Cell.Op :=
  if call.clears? = some p.container then some .clear
  else
    match call.containerHandle?, call.itemOp? with
    | some h, some (key, op) =>
      if (h.number, p.container) ∈ names ∧ key = p.key then some op else none
    | _, _ => none

namespace Call

variable {names : List (Int × String)} {p : Place} {call : Call}

lemma exists_handle_of_itemOp? (h : call.itemOp? ≠ none) : ∃ k, call.containerHandle? = some k := by
  cases call <;> first | exact ⟨_, rfl⟩ | exact absurd rfl h

lemma cellOp?_of_clears {name : String} (h : call.clears? = some name) :
    call.cellOp? names p = if name = p.container then some .clear else none := by
  have hhandle : call.containerHandle? = none := by
    cases call <;> first | rfl | cases h
  simp [cellOp?, h, hhandle]

lemma cellOp?_of_item {key : Item.Key} {op : Cell.Op} {h : Container.Handle}
    (hop : call.itemOp? = some (key, op)) (hh : call.containerHandle? = some h) :
    call.cellOp? names p =
      if (h.number, p.container) ∈ names ∧ key = p.key then some op else none := by
  have hclears : call.clears? = none := by
    cases call <;> first | rfl | cases hop
  simp [cellOp?, hop, hh, hclears]

/-- A call that takes a number is about no item and no container as a whole. -/
lemma cellOp?_of_takes (h : call.takesNumber = true) : call.cellOp? names p = none := by
  cases call <;> first | rfl | cases h

lemma takesNumber_of_itemOp? {q : Item.Key × Cell.Op} (h : call.itemOp? = some q) :
    call.takesNumber = false := by
  cases call <;> first | rfl | cases h

lemma cellOp?_of_other (hop : call.itemOp? = none) (hclears : call.clears? = none) :
    call.cellOp? names p = none := by
  simp [cellOp?, hop, hclears]

end Call

/-- What a successful call asks of the cell of a place. -/
def Shared.Event.cellOp? {ι : Type} (names : List (Int × String)) (p : Place) :
    Event ι → Option Cell.Op
  | .answered _ call (.ok _) => call.cellOp? names p
  | _ => none

namespace Shared

variable {ι : Type}

/-! ### Steps -/

/-- The names under which handles were handed out, with the handles, if they tell what is open
in a store. -/
def Naming (names : List (Int × String)) (s : Store) : Prop :=
  ∀ k n, s.opened[k]? = some n → ∀ m, (k, m) ∈ names ↔ m = n

lemma Event.cellOp?_error (names : List (Int × String)) (p : Place) (client : ι) (call : Call)
    (e : CallError) : (Event.answered client call (.error e)).cellOp? names p = none :=
  rfl

lemma Event.cellOp?_ok (names : List (Int × String)) (p : Place) (client : ι) (call : Call)
    (r : call.Reply) :
    (Event.answered client call (.ok r)).cellOp? names p = call.cellOp? names p :=
  rfl

section

variable {s : Store} {names : List (Int × String)} {call : Call}

/-- A call about an item that reaches its container, seen from any cell. -/
lemma runAll_of_performs (hnames : Naming names s) (client : ι) (p : Place)
    {h : Container.Handle} {name : String} (ho : s.opened[h.number]? = some name)
    (hh : call.containerHandle? = some h) {key : Item.Key} {op : Cell.Op}
    (hop : call.itemOp? = some (key, op))
    (hperforms : Store.Performs op ⟨name, key⟩ s (s.answer call)) :
    Cell.Op.runAll ((Event.answered client call (s.answer call).1).cellOp? names p).toList
      (s.cellAt p) = .ok ((s.answer call).2.cellAt p) := by
  have habout : (h.number, p.container) ∈ names ∧ key = p.key ↔ p = ⟨name, key⟩ := by
    obtain ⟨n, k⟩ := p
    rw [hnames _ _ ho, Place.mk.injEq, @eq_comm _ key]
  unfold Store.Performs at hperforms
  cases hcell : op.run (s.cellAt ⟨name, key⟩) with
  | ok cell =>
    rw [hcell] at hperforms
    obtain ⟨⟨r, hr⟩, hcells⟩ := hperforms
    rw [hr, Event.cellOp?_ok, Call.cellOp?_of_item hop hh, hcells]
    by_cases hp : p = ⟨name, key⟩
    · rw [if_pos (habout.2 hp), if_pos hp, hp]
      simpa [Cell.Op.runAll] using hcell
    · rw [if_neg (mt habout.1 hp), if_neg hp]
      rfl
  | error refusal =>
    rw [hcell] at hperforms
    rw [hperforms, Event.cellOp?_error]
    rfl

/-- A call that is answered at once, seen from any cell. -/
lemma runAll_answer (hs : s.Coherent) (hnames : Naming names s) (client : ι) (p : Place)
    (htakes : call.takesNumber = false) :
    Cell.Op.runAll ((Event.answered client call (s.answer call).1).cellOp? names p).toList
      (s.cellAt p) = .ok ((s.answer call).2.cellAt p) := by
  cases hclears : call.clears? with
  | some name =>
    rcases s.cellAt_answer_clears hclears with ⟨e, he⟩ | ⟨⟨r, hr⟩, hcells⟩
    · rw [he, Event.cellOp?_error]
      rfl
    · rw [hr, Event.cellOp?_ok, Call.cellOp?_of_clears hclears, hcells]
      split <;> rfl
  | none =>
    cases hop : call.itemOp? with
    | none =>
      rw [(s.sameItems_answer htakes hop hclears).cellAt]
      cases (s.answer call).1 with
      | error e => rfl
      | ok r =>
        rw [Event.cellOp?_ok, Call.cellOp?_of_other hop hclears]
        rfl
    | some q =>
      have hsome : call.itemOp? ≠ none := hop ▸ Option.some_ne_none q
      obtain ⟨h, hh⟩ := Call.exists_handle_of_itemOp? hsome
      rcases hs.resolve h with ⟨-, hr⟩ | ⟨name, c, ho, -, -, hr⟩
      · rw [Store.answer_of_resolve_error hr hh hsome, Event.cellOp?_error]
        rfl
      · exact runAll_of_performs hnames client p ho hh hop (Store.performs_answer hr hh hop)

end

variable [DecidableEq ι] {s s' : Shared ι} {e : Event ι} {es : List (Event ι)}
  {names : List (Int × String)}

lemma Step.cellAt (hs : s.Coherent) (hnames : Naming names s.store) (h : Step s e s')
    (p : Place) : Cell.Op.runAll (e.cellOp? names p).toList (s.store.cellAt p) =
      .ok (s'.store.cellAt p) := by
  cases h with
  | took => rfl
  | @concluded client call number waiting =>
    have htakes := hs.pending_takes client call number waiting
    have hcell : (s.conclude client call number).store.cellAt p = s.store.cellAt p :=
      (s.store.sameItems_conclude htakes number).cellAt p
    rw [hcell]
    cases (s.store.conclude number call).1 with
    | error e => rfl
    | ok r =>
      rw [Event.cellOp?_ok, Call.cellOp?_of_takes htakes]
      rfl
  | @answered client call free takes => exact runAll_answer hs.store hnames client p takes

lemma Run.naming (h : Run (start .empty) es s) (hsub : es.filterMap Event.opens? ⊆ names)
    (hnames : ∀ k m n, (k, m) ∈ names → (k, n) ∈ names → m = n) : Naming names s.store := by
  intro k n ho m
  have hn : (k, n) ∈ names := hsub
    ((h.opened Store.coherent_empty ho).resolve_left (by simp [Store.empty]))
  exact ⟨fun hm => hnames k m n hm hn, fun heq => heq ▸ hn⟩

/-- The cell of a place is what the steps about it have made of it.  The handles that are
handed out later may be among the given ones. -/
lemma Run.cellAt (h : Run (start .empty) es s) (hsub : es.filterMap Event.opens? ⊆ names)
    (hnames : ∀ k m n, (k, m) ∈ names → (k, n) ∈ names → m = n) (p : Place) :
    Cell.Op.runAll (es.filterMap (Event.cellOp? names p)) none = .ok (s.store.cellAt p) := by
  induction h with
  | nil => exact congrArg Except.ok (by simp [Store.cellAt, start, Store.empty])
  | @snoc t u es e run step ih =>
    rw [List.filterMap_append, List.append_subset] at hsub
    have hout : [e].filterMap (Event.cellOp? names p) = (e.cellOp? names p).toList := by
      cases h : e.cellOp? names p <;> simp [h]
    have hpast := ih hsub.1
    have hstep := step.cellAt ((coherent_start Store.coherent_empty).run run)
      (run.naming hsub.1 hnames) p
    rw [Cell.Op.runAll] at hpast hstep
    rw [List.filterMap_append, hout, Cell.Op.runAll, List.foldlM_append, hpast]
    exact hstep

/-- **Every item is a cell of its own.**  Whatever the clients of a store that was empty have
done, sequentially or at the same time, the cell of a place holds what the successful
operations about the place have made of an empty cell, one after another, and none of these
is refused by the cell.  A call about an item through a handle of an open container succeeds
if the cell admits it, and else fails for the reason that the cell has; through any other
handle it fails.  A step with no operation on a cell leaves it as it was, and the items of a
container are as many as its cells that hold something. -/
theorem items_are_cells (hrun : Run (start .empty) es s) :
    (∀ p, Cell.Op.runAll (es.filterMap (Event.cellOp? (es.filterMap Event.opens?) p)) none =
      .ok (s.store.cellAt p)) ∧
    (∀ client call a s' h name key op, Step s (.answered client call a) s' →
      call.containerHandle? = some h → s.store.opened[h.number]? = some name →
      call.itemOp? = some (key, op) →
      match op.run (s.store.cellAt ⟨name, key⟩) with
      | .ok _ => ∃ r, a = .ok r
      | .error refusal => a = .error (refusal.error key)) ∧
    (∀ client call a s' h, Step s (.answered client call a) s' →
      call.containerHandle? = some h → s.store.opened[h.number]? = none →
      (∃ e, a = .error e) ∧ ∀ p, s'.store.cellAt p = s.store.cellAt p) ∧
    (∀ e s' p, Step s e s' → e.cellOp? (es.filterMap Event.opens?) p = none →
      s'.store.cellAt p = s.store.cellAt p) ∧
    (∀ name n, s.store.itemCount name = some n ↔ s.store.hasContainer name ∧
      {key | (s.store.cellAt ⟨name, key⟩).isSome}.encard = n) := by
  have hs : s.Coherent := (coherent_start Store.coherent_empty).run hrun
  have hnames : ∀ k m n, (k, m) ∈ es.filterMap Event.opens? →
      (k, n) ∈ es.filterMap Event.opens? → m = n :=
    fun k m n => hrun.eq_of_opens Store.coherent_empty
  have hkept : ∀ e s' p, Step s e s' → e.cellOp? (es.filterMap Event.opens?) p = none →
      s'.store.cellAt p = s.store.cellAt p := by
    intro e s' p step hnone
    have h := step.cellAt hs (hrun.naming (List.Subset.refl _) hnames) p
    rw [hnone] at h
    exact (Except.ok.inj h).symm
  refine ⟨hrun.cellAt (List.Subset.refl _) hnames, ?_, ?_, hkept,
    fun name n => Store.itemCount_eq_some_iff⟩
  · intro client call a s' h name key op step hh ho hop
    have htakes : call.takesNumber = false := Call.takesNumber_of_itemOp? hop
    obtain ⟨rfl, -⟩ := step.eq_answer hs htakes
    obtain ⟨c, hc, -⟩ := Store.holder_eq_some_iff.1 ((hs.store.opened_iff _ _).1 ho)
    have hperforms := Store.performs_answer (Store.resolve_eq_ok_iff.2 ⟨ho, hc⟩) hh hop
    unfold Store.Performs at hperforms
    cases hcell : op.run (s.store.cellAt ⟨name, key⟩) with
    | ok cell =>
      rw [hcell] at hperforms
      exact hperforms.1
    | error refusal =>
      rw [hcell] at hperforms
      rw [hperforms]
  · intro client call a s' h step hh ho
    have hfails : ∃ e, a = .error e := by
      cases htakes : call.takesNumber with
      | true =>
        obtain ⟨number, -, -, rfl, -⟩ := step.eq_conclude hs htakes
        exact ⟨_, (hs.store.refusal_conclude hh htakes number).2 ho⟩
      | false =>
        obtain ⟨rfl, -⟩ := step.eq_answer hs htakes
        rcases (hs.store.refusal hh htakes).2 ho with he | ⟨fault, -, he⟩ <;> exact ⟨_, he⟩
    obtain ⟨e, rfl⟩ := hfails
    exact ⟨⟨e, rfl⟩, fun p => hkept _ s' p step rfl⟩

/-- An item is added and changed by one client, while another one is refused. -/
theorem items_are_cells_of_two_clients :
    ∃ (s : Shared Bool) (es : List (Event Bool)), Run (start .empty) es s ∧
      es.filterMap (Event.cellOp? [(1, "c")] ⟨"c", "t", "a"⟩) =
        [.clear, .fill "old" ∅, .setValue "new"] ∧
      Cell.Op.runAll [.clear, .fill "old" ∅, .setValue "new"] none =
        .ok (s.store.cellAt ⟨"c", "t", "a"⟩) := by
  let opening : Call := .openContainer "c" "\x7b\x7d"
  have run := Run.nil (start .empty : Shared Bool)
    |>.snoc (@Step.answered _ _ _ false (.createContainer "c" "default" "\x7b\x7d" "\x7b\x7d")
      rfl rfl)
    |>.snoc (@Step.took _ _ _ false opening rfl rfl)
    |>.snoc (@Step.concluded _ _ _ false opening 1 rfl)
    |>.snoc (@Step.answered _ _ _ false (.addItem ⟨1⟩ "t" "a" "old" ∅) rfl rfl)
    |>.snoc (@Step.answered _ _ _ true (.addItem ⟨1⟩ "t" "a" "other" ∅) rfl rfl)
    |>.snoc (@Step.answered _ _ _ false (.updateItemValue ⟨1⟩ "t" "a" "new") rfl rfl)
  exact ⟨_, _, run, rfl, (items_are_cells run).1 ⟨"c", "t", "a"⟩⟩

end Shared

end Soak
