import Mathlib.Order.Interval.Finset.Nat
import Soak.Load.Run
import Soak.Proofs.Longevity.Truth
import Soak.Proofs.Session.Conduct

/-!
# What an action of a load run needs, and what it leaves behind

The items of a container that is worked on in bulk are numbered.  `Container.Stocked` says
which ones a container has, and the lemmas below how calls for single items change them.
`Action.before` and `Action.after` are the stocks that an action needs and leaves behind, and
`Load.does_container` says that it does so without a failure.
-/

namespace Soak

/-- The items of a container are those with these numbers. -/
def Container.Stocked (c : Container) (itemType : String) (number : Nat) (items : Finset Nat) :
    Prop :=
  ∀ key, key ∈ c.items ↔ ∃ i ∈ items, key = ⟨itemType, Naming.bulkItem number i⟩

namespace Container.Stocked

variable {c d : Container} {itemType : String} {number n : Nat} {items : Finset Nat}

lemma empty : Container.empty.Stocked itemType number ∅ :=
  fun key => by simp [Container.empty]

lemma of_items (h : c.Stocked itemType number items) (hd : d.items = c.items) :
    d.Stocked itemType number items :=
  fun key => by rw [hd, h key]

lemma mem_iff (h : c.Stocked itemType number items) :
    ⟨itemType, Naming.bulkItem number n⟩ ∈ c.items ↔ n ∈ items := by
  simp [h _, Naming.bulkItem_inj_right]

lemma contains_eq (h : c.Stocked itemType number items) :
    c.items.contains ⟨itemType, Naming.bulkItem number n⟩ = decide (n ∈ items) := by
  rw [Bool.eq_iff_iff, Std.ExtTreeMap.contains_iff_mem, decide_eq_true_iff]
  exact h.mem_iff

lemma getElem?_of_mem (h : c.Stocked itemType number items) (hn : n ∈ items) :
    ∃ i, c.items[(⟨itemType, Naming.bulkItem number n⟩ : Item.Key)]? = some i :=
  Option.isSome_iff_exists.1 (Std.ExtTreeMap.isSome_getElem?_iff_mem.2 (h.mem_iff.2 hn))

/-- There are as many items as numbers. -/
lemma size_eq (h : c.Stocked itemType number items) : c.items.size = items.card := by
  have hkeys : c.items.keys.toFinset =
      items.image fun i => (⟨itemType, Naming.bulkItem number i⟩ : Item.Key) := by
    ext key
    rw [List.mem_toFinset, Std.ExtTreeMap.mem_keys, h key, Finset.mem_image]
    simp only [eq_comm]
  rw [← Std.ExtTreeMap.length_keys, ← List.toFinset_card_of_nodup Std.ExtTreeMap.nodup_keys, hkeys]
  exact Finset.card_image_of_injective _ fun i j hij =>
    Naming.bulkItem_inj_right.1 (Item.Key.mk.inj hij).2

/-- An item that is not there is added. -/
lemma add (h : c.Stocked itemType number items) (hn : n ∉ items) (handle : Container.Handle)
    (value : String) (attributes : Attributes) :
    (c.respond (.addItem handle itemType (Naming.bulkItem number n) value attributes)).1 =
        .ok () ∧
      (c.respond (.addItem handle itemType (Naming.bulkItem number n) value attributes)).2.Stocked
        itemType number (insert n items) := by
  simp only [Container.respond, Container.attempt, h.contains_eq, hn, decide_false]
  refine ⟨rfl, fun key => ?_⟩
  show key ∈ c.items.insert _ _ ↔ _
  rw [Std.ExtTreeMap.mem_insert, Std.LawfulEqCmp.compare_eq_iff_eq, h key, Finset.exists_mem_insert,
    eq_comm]

/-- An item that is there is deleted. -/
lemma delete (h : c.Stocked itemType number items) (hn : n ∈ items) (handle : Container.Handle) :
    (c.respond (.deleteItem handle itemType (Naming.bulkItem number n))).1 = .ok () ∧
      (c.respond (.deleteItem handle itemType (Naming.bulkItem number n))).2.Stocked itemType
        number (items.erase n) := by
  simp only [Container.respond, Container.attempt, h.contains_eq, hn, decide_true, if_true,
    true_and]
  intro key
  show key ∈ c.items.erase _ ↔ _
  rw [Std.ExtTreeMap.mem_erase, Ne, Std.LawfulEqCmp.compare_eq_iff_eq, h key]
  constructor
  · rintro ⟨hne, i, hi, rfl⟩
    exact ⟨i, Finset.mem_erase.2 ⟨fun heq => hne (by rw [heq]), hi⟩, rfl⟩
  · rintro ⟨i, hi, rfl⟩
    obtain ⟨hne, hi⟩ := Finset.mem_erase.1 hi
    exact ⟨fun heq => hne (Naming.bulkItem_inj_right.1 (Item.Key.mk.inj heq).2).symm, i, hi, rfl⟩

/-- An item that is there is changed. -/
lemma change (h : c.Stocked itemType number items) (hn : n ∈ items) (f : Item → Item) :
    (c.changeItem itemType (Naming.bulkItem number n) f).1 = .ok () ∧
      (c.changeItem itemType (Naming.bulkItem number n) f).2.Stocked itemType number items := by
  obtain ⟨i, hi⟩ := h.getElem?_of_mem hn
  simp only [Container.changeItem, Container.attempt, hi, true_and]
  intro key
  show key ∈ c.items.insert _ _ ↔ _
  rw [Std.ExtTreeMap.mem_insert, Std.LawfulEqCmp.compare_eq_iff_eq, h key]
  refine or_iff_right_of_imp ?_
  rintro rfl
  exact ⟨n, hn, rfl⟩

end Container.Stocked

namespace Action

/-- How many items a container needs, if it has to exist. -/
def before (items : Nat) (action : Action) : Option Nat :=
  if action.needsContainers then some (if action.needsItems then items else 0) else none

/-- How many items a container has afterwards, if it still exists. -/
def after (items : Nat) : Action → Option Nat
  | deleteContainer => none
  | addContainer | openAndCloseContainer | deleteItem => some 0
  | _ => some items

/-- How many calls are made for a container. -/
def calls (items : Nat) : Action → Nat
  | addContainer | deleteContainer => 1
  | openAndCloseContainer => 2
  | searchItems => 3
  | _ => items

end Action

/-- Counts that are all the same add up to a product. -/
lemma Tally.sum_eq {tallies : List Tally} {calls : Nat} (h : ∀ t ∈ tallies, t = ⟨calls, 0⟩) :
    Tally.sum tallies = ⟨tallies.length * calls, 0⟩ := by
  have hfold (n : Nat) :
      tallies.foldl Tally.add ⟨n, 0⟩ = ⟨n + tallies.length * calls, 0⟩ := by
    induction tallies generalizing n with
    | nil => simp
    | cons t rest ih =>
      obtain rfl := h t List.mem_cons_self
      have hadd : Tally.add ⟨n, 0⟩ ⟨calls, 0⟩ = ⟨n + calls, 0⟩ := rfl
      rw [List.foldl_cons, hadd, ih (fun t ht => h t (List.mem_cons_of_mem _ ht)),
        List.length_cons, Nat.succ_mul, Nat.add_assoc, Nat.add_comm calls]
  rw [Tally.sum, hfold, Nat.zero_add]

namespace Load

/-- What there is of a container: nothing, or a closed container with its first items. -/
def Stands (b : Config.Backend) (number : Nat) : Option Nat → Option Container → Prop
  | none, c => c = none
  | some items, c => ∃ d, c = some d ∧ d.openHandle = none ∧
      d.Stocked b.itemType number (Finset.Icc 1 items)

lemma Stands.isOpen_eq_false {b : Config.Backend} {number : Nat} {items : Option Nat} {st : Store}
    {name : String} (h : Stands b number items st.containers[name]?) : st.isOpen name = false := by
  unfold Store.isOpen
  cases items with
  | none =>
    have hnone : st.containers[name]? = none := h
    rw [hnone]
  | some k =>
    obtain ⟨d, hd, hclosed, -⟩ := h
    rw [hd]
    simp only [hclosed, Option.isSome_none]

lemma Stands.itemCount_eq {b : Config.Backend} {number : Nat} {items : Option Nat} {st : Store}
    {name : String} (h : Stands b number items st.containers[name]?) :
    st.itemCount name = items := by
  unfold Store.itemCount
  cases items with
  | none =>
    have hnone : st.containers[name]? = none := h
    rw [hnone, Option.map_none]
  | some k =>
    obtain ⟨d, hd, -, hstocked⟩ := h
    rw [hd, Option.map_some, hstocked.size_eq, Nat.card_Icc, Nat.add_sub_cancel]

/-- The container is open, with these items, and everything else is as it was. -/
def Ajar (b : Config.Backend) (number : Nat) (h : Container.Handle) (name : String) (x : Holdings)
    (items : Finset Nat) (y : Holdings) : Prop :=
  x.Ajar name h (·.Stocked b.itemType number items) y

variable {ι : Type} [DecidableEq ι] {t : Tenant ι} {clock : Reading → Prop}
  {pages : Holdings → Except CallError Json → Prop} {b : Config.Backend} {number : Nat}
  {h : Container.Handle} {name : String} {x y : Holdings} {items : Finset Nat}

/-- A call inside the open container. -/
lemma does_respond {call : Call} (hcall : call.inside? = some h) (hname : name ∈ t.names)
    (hy : Ajar b number h name x items y) {P : call.Answer → Prop} {items' : Finset Nat}
    (hrespond : ∀ d : Container, d.Stocked b.itemType number items →
      P (d.respond call).1 ∧ (d.respond call).2.Stocked b.itemType number items') :
    t.Does clock pages (Job.call call) y fun a z => P a ∧ Ajar b number h name x items' z :=
  Tenant.does_within hcall hname hy hrespond

/-- The next item is added. -/
lemma does_addNext (hname : name ∈ t.names) {n : Nat} (hn : 1 ≤ n)
    (hy : Ajar b number h name x (Finset.Icc 1 (n - 1)) y) (value : String)
    (attributes : Attributes) :
    t.Does clock pages
      (Job.call (.addItem h b.itemType (Naming.bulkItem number n) value attributes)) y fun a z =>
        a = .ok () ∧ Ajar b number h name x (Finset.Icc 1 (n + 1 - 1)) z := by
  have hnew : n ∉ Finset.Icc 1 (n - 1) := by simp only [Finset.mem_Icc]; omega
  have hnext : insert n (Finset.Icc 1 (n - 1)) = Finset.Icc 1 (n + 1 - 1) := by
    ext j
    simp only [Finset.mem_insert, Finset.mem_Icc]
    omega
  exact hnext ▸ does_respond rfl hname hy fun d hd => hd.add hnew h value attributes

/-- Making a call that succeeds counts once. -/
lemma does_attempt {target : Target} {what : String} {call : Call} {P : Holdings → Prop}
    (hcall : t.Does clock pages (Job.call call) x fun a y => (∃ v, a = .ok v) ∧ P y) :
    t.Does clock pages (target.attempt what call) x fun tally y => tally = ⟨1, 0⟩ ∧ P y := by
  refine hcall.bind ?_
  rintro _ y ⟨⟨v, rfl⟩, hy⟩
  exact Tenant.does_pure ⟨rfl, hy⟩

/-- An item that is there is read. -/
lemma does_readItem (hname : name ∈ t.names) (hy : Ajar b number h name x items y) {i : Nat}
    (hi : i ∈ items) :
    t.Does clock pages (readItem h b.itemType (Naming.bulkItem number i)) y fun r z =>
      r = .ok () ∧ Ajar b number h name x items z := by
  have hread : t.Does clock pages
      (Job.call (.getItem h b.itemType (Naming.bulkItem number i) .all)) y fun a z =>
        (∃ r : Item.Record, a = .ok r.toJson) ∧ Ajar b number h name x items z := by
    refine does_respond rfl hname hy fun d hd => ?_
    obtain ⟨item, hitem⟩ := hd.getElem?_of_mem hi
    simp only [Container.respond, hitem]
    exact ⟨⟨_, rfl⟩, hd⟩
  refine hread.bind ?_
  rintro _ z ⟨⟨r, rfl⟩, hz⟩
  exact Tenant.does_pure ⟨rfl, hz⟩

/-- Items are worked on one after another, and the container is as `content i` says before
item `i`. -/
lemma does_eachItem (content : Nat → Container → Prop) {count : Nat} {what : String}
    {perform : Container.Handle → String → Job (Except CallError Unit)}
    {P : Tally → Holdings → Prop} (hy : x.Ajar name h (content 1) y)
    (hperform : ∀ i y, 1 ≤ i → i < 1 + count → x.Ajar name h (content i) y →
      t.Does clock pages (perform h (Naming.bulkItem number i)) y fun r z => r = .ok () ∧
        x.Ajar name h (content (i + 1)) z)
    (hP : ∀ z, x.Ajar name h (content (1 + count)) z → P ⟨count, 0⟩ z) :
    t.Does clock pages (Target.eachItem ⟨number, name, some h⟩ count what perform) y P := by
  unfold Target.eachItem
  refine (Tenant.does_mapRange (· = (⟨1, 0⟩ : Tally)) (fun i => x.Ajar name h (content i))
    (fun i y hi hlt hy => ?_) hy).bind ?_
  · refine (hperform i y hi hlt hy).bind ?_
    rintro r z ⟨rfl, hz⟩
    exact Tenant.does_pure ⟨rfl, hz⟩
  · rintro tallies z ⟨hlength, htallies, hz⟩
    rw [Tally.sum_eq htallies, hlength, Nat.mul_one]
    exact Tenant.does_pure (hP z hz)

/-- Items are worked on one after another, and all of them stay there. -/
lemma does_eachKept {count : Nat} {what : String}
    {perform : Container.Handle → String → Job (Except CallError Unit)}
    {P : Tally → Holdings → Prop} (hy : Ajar b number h name x (Finset.Icc 1 count) y)
    (hperform : ∀ i y, i ∈ Finset.Icc 1 count → Ajar b number h name x (Finset.Icc 1 count) y →
      t.Does clock pages (perform h (Naming.bulkItem number i)) y fun r z => r = .ok () ∧
        Ajar b number h name x (Finset.Icc 1 count) z)
    (hP : ∀ z, Ajar b number h name x (Finset.Icc 1 count) z → P ⟨count, 0⟩ z) :
    t.Does clock pages (Target.eachItem ⟨number, name, some h⟩ count what perform) y P :=
  does_eachItem (fun _ => (·.Stocked b.itemType number (Finset.Icc 1 count))) hy
    (fun i y hi hlt => hperform i y (Finset.mem_Icc.2 ⟨hi, by omega⟩)) hP

/-- A search of the open container makes three calls. -/
lemma does_searchPage {c : LoadContext} (hpages : ∀ x a, pages x a) (hname : name ∈ t.names)
    (hsearch : x.search = none) (hquery : ∃ q, Query.parse c.payload.query = .ok q)
    (hy : Ajar c.backend number h name x items y) :
    t.Does clock pages (searchPage c ⟨number, name, some h⟩) y fun tally z =>
      tally = ⟨3, 0⟩ ∧ Ajar c.backend number h name x items z := by
  obtain ⟨q, hq⟩ := hquery
  obtain ⟨d, hopen, hstocked, rfl⟩ := hy
  refine (Tenant.does_openSearch hname Holdings.put_container_self hopen hsearch hq _ _).bind ?_
  rintro _ z ⟨k, rfl, rfl⟩
  refine (does_attempt (P := fun z => ∃ q, z = (x.put name (some d)).seek (some (k.number, q)))
    ((Tenant.does_fetch Holdings.seek_search (hpages _ _)).mono ?_)).bind ?_
  · rintro _ z ⟨rfl, rfl⟩
    exact ⟨⟨_, rfl⟩, _, rfl⟩
  rintro _ z ⟨rfl, q, rfl⟩
  refine (does_attempt (P := (· = x.put name (some d)))
    ((Tenant.does_closeSearch Holdings.seek_search).mono ?_)).bind ?_
  · rintro _ z ⟨rfl, rfl⟩
    refine ⟨⟨_, rfl⟩, ?_⟩
    rw [Holdings.seek_seek, ← hsearch]
    rfl
  rintro _ z ⟨rfl, rfl⟩
  exact Tenant.does_pure ⟨rfl, d, hopen, hstocked, rfl⟩

/-- **An action works on its open container without a failure**, and leaves the stock behind
that it should. -/
lemma does_execute_open {c : LoadContext} {action : Action} (hopening : action.needsOpening = true)
    (hpages : ∀ x a, pages x a) (hname : name ∈ t.names) (hsearch : x.search = none)
    (hquery : action = .searchItems → ∃ q, Query.parse c.payload.query = .ok q) {k : Nat}
    (hbefore : action.before c.items = some k)
    (hy : Ajar c.backend number h name x (Finset.Icc 1 k) y) :
    t.Does clock pages (action.execute c ⟨number, name, some h⟩) y fun tally z =>
      tally = ⟨action.calls c.items, 0⟩ ∧ ∃ k', action.after c.items = some k' ∧
        Ajar c.backend number h name x (Finset.Icc 1 k') z := by
  cases action with
  | addContainer | openAndCloseContainer | deleteContainer => cases hopening
  | addItem =>
    obtain rfl : 0 = k := Option.some.inj hbefore
    rw [Action.execute]
    -- before item `i`, the items below it are there
    refine does_eachItem
      (fun i => (·.Stocked c.backend.itemType number (Finset.Icc 1 (i - 1)))) hy
      (fun i y hi _ hy => does_addNext hname hi hy _ _) fun z hz => ?_
    rw [Nat.add_sub_cancel_left] at hz
    exact ⟨rfl, c.items, rfl, hz⟩
  | deleteItem =>
    obtain rfl : c.items = k := Option.some.inj hbefore
    rw [Action.execute]
    -- before item `i`, the items from it on are left
    refine does_eachItem (fun i => (·.Stocked c.backend.itemType number (Finset.Icc i c.items))) hy
      (fun i y hi hlt hy => ?_) fun z hz => ?_
    · have hnext : (Finset.Icc i c.items).erase i = Finset.Icc (i + 1) c.items := by
        ext j
        simp only [Finset.mem_erase, Finset.mem_Icc]
        omega
      exact hnext ▸ does_respond rfl hname hy fun d hd =>
        hd.delete (Finset.mem_Icc.2 ⟨Nat.le_refl i, by omega⟩) h
    · have hnone : Finset.Icc (1 + c.items) c.items = Finset.Icc 1 0 := by
        rw [Finset.Icc_eq_empty (by omega), Finset.Icc_eq_empty (by omega)]
      exact ⟨rfl, 0, rfl, hnone ▸ hz⟩
  | getItem =>
    obtain rfl : c.items = k := Option.some.inj hbefore
    rw [Action.execute]
    exact does_eachKept hy (fun i y hi hy => does_readItem hname hy hi)
      fun z hz => ⟨rfl, c.items, rfl, hz⟩
  | updateItemValue | addAttributes | updateAttributes | deleteAttributes =>
    obtain rfl : c.items = k := Option.some.inj hbefore
    rw [Action.execute]
    exact does_eachKept hy (fun i y hi hy => does_respond rfl hname hy fun d hd => hd.change hi _)
      fun z hz => ⟨rfl, c.items, rfl, hz⟩
  | searchItems =>
    obtain rfl : c.items = k := Option.some.inj hbefore
    exact (does_searchPage hpages hname hsearch (hquery rfl) hy).mono fun tally z hz =>
      ⟨hz.1, c.items, rfl, hz.2⟩

/-- An action that opens no container for itself makes its calls without a failure, too. -/
lemma does_execute_closed {c : LoadContext} {action : Action}
    (hopening : action.needsOpening = false) (hread : c.backend.Readable) (hname : name ∈ t.names)
    (hne : name ≠ "")
    (hx : Stands c.backend number (action.before c.items) (x.container name)) :
    t.Does clock pages (action.execute c ⟨number, name, none⟩) x fun tally y =>
      tally = ⟨action.calls c.items, 0⟩ ∧
        ∃ d, Stands c.backend number (action.after c.items) d ∧ y = x.put name d := by
  cases action with
  | addContainer =>
    rw [Action.execute]
    refine does_attempt ((Tenant.does_create hname hne hx hread.1 hread.2 _).mono ?_)
    rintro _ y ⟨rfl, rfl⟩
    exact ⟨⟨_, rfl⟩, _, ⟨_, rfl, rfl, .empty⟩, rfl⟩
  | openAndCloseContainer =>
    obtain ⟨d, hd, hclosed, hstocked⟩ := hx
    rw [Action.execute, openAndClose]
    refine (Tenant.does_enter (·.Stocked c.backend.itemType number (Finset.Icc 1 0)) hname hd
      hclosed hread.2 fun _ => hstocked.of_items rfl).bind ?_
    rintro _ y ⟨h, rfl, hajar⟩
    refine (does_attempt (P := fun z => ∃ e, Stands c.backend number (some 0) e ∧
      z = x.put name e) ((Tenant.does_leave hname hajar).mono ?_)).bind ?_
    · rintro _ z ⟨rfl, d', hstocked', rfl⟩
      exact ⟨⟨_, rfl⟩, some { d' with openHandle := none },
        ⟨_, rfl, rfl, hstocked'.of_items rfl⟩, rfl⟩
    · rintro _ z ⟨rfl, hz⟩
      exact Tenant.does_pure ⟨rfl, hz⟩
  | deleteContainer =>
    obtain ⟨d, hd, hclosed, -⟩ := hx
    rw [Action.execute]
    refine does_attempt ((Tenant.does_delete hname c.backend.credentials).mono ?_)
    rintro a y ⟨rfl, rfl⟩
    have hok : Tenant.removal c.backend.credentials name (some d) = .ok () := by
      simp [Tenant.removal, hread.2, hclosed]
    rw [hd, hok]
    exact ⟨⟨_, rfl⟩, none, rfl, rfl⟩
  | _ => cases hopening

/-- An action is timed once. -/
lemma does_perform {c : LoadContext} {action : Action} {target : Target}
    {P : Tally → Holdings → Prop} (haction : t.Does clock pages (action.execute c target) x P) :
    t.Does clock pages (perform c action target) x fun share y =>
      share.spans.length = 1 ∧ P share.tally y := by
  refine (Tenant.does_timed haction).bind ?_
  rintro ⟨tally, span⟩ y hy
  exact Tenant.does_pure ⟨rfl, hy⟩

/-- **An action is performed on a container without a failure.** -/
lemma does_container {c : LoadContext} {action : Action} (hread : c.backend.Readable)
    (hpages : ∀ x a, pages x a)
    (hquery : action = .searchItems → ∃ q, Query.parse c.payload.query = .ok q)
    (hname : Naming.container c.backend.containerPrefix number ∈ t.names)
    (hsearch : x.search = none) (hx : Stands c.backend number (action.before c.items)
      (x.container (Naming.container c.backend.containerPrefix number))) :
    t.Does clock pages (container c action number) x fun share y =>
      (share.spans.length = 1 ∧ share.tally = ⟨action.calls c.items, 0⟩) ∧
        ∃ d, Stands c.backend number (action.after c.items) d ∧
          y = x.put (Naming.container c.backend.containerPrefix number) d := by
  unfold container
  by_cases hopening : action.needsOpening = true
  · -- opened before the action and closed after it
    obtain ⟨k, hk⟩ : ∃ k, action.before c.items = some k := by
      cases action with
      | addContainer => cases hopening
      | _ => exact ⟨_, rfl⟩
    rw [hk] at hx
    obtain ⟨d, hd, hclosed, hstocked⟩ := hx
    rw [if_pos hopening]
    refine (Tenant.does_enter (·.Stocked c.backend.itemType number (Finset.Icc 1 k)) hname hd
      hclosed hread.2 fun _ => hstocked.of_items rfl).bind ?_
    rintro _ y ⟨h, rfl, hajar⟩
    refine (does_perform (does_execute_open hopening hpages hname hsearch hquery hk hajar)).bind ?_
    rintro share y ⟨hspans, htally, k', hk', hajar'⟩
    refine (Tenant.does_leave hname hajar').bind ?_
    rintro _ y ⟨rfl, d', hstocked', rfl⟩
    refine Tenant.does_pure ⟨⟨hspans, htally⟩, some { d' with openHandle := none }, ?_, rfl⟩
    rw [hk']
    exact ⟨_, rfl, rfl, hstocked'.of_items rfl⟩
  · rw [if_neg hopening]
    refine (does_perform (does_execute_closed (eq_false_of_ne_true hopening) hread hname
      (Naming.container_ne_empty _ _) hx)).mono ?_
    rintro share y ⟨hspans, htally, hy⟩
    exact ⟨⟨hspans, htally⟩, hy⟩

end Load

end Soak
