import Mathlib
import Soak.Chain
import Soak.Proofs.Longevity.Truth
import Soak.Proofs.Session.Dealings
import Soak.Proofs.Store.Snapshots

/-!
# What each stage of the chained benchmark leaves to the next

Before a stage a container does not exist, or it is closed and holds one item at most, and the
stage makes of it what the next one needs (`Chain.does_execute`).  The two stages that search
find the one item (`Chain.does_search`).
-/

namespace Soak

/-- The container has this item, or none, and no other one. -/
def Container.HasOnly (c : Container) (key : Item.Key) (item : Option Item) : Prop :=
  ∀ k, c.items[k]? = if k = key then item else none

namespace Container.HasOnly

variable {c : Container} {key : Item.Key} {item : Option Item} {i : Item}

lemma of_items (h : c.HasOnly key item) {d : Container} (hd : d.items = c.items) :
    d.HasOnly key item :=
  fun k => by rw [hd, h k]

lemma self (h : c.HasOnly key item) : c.items[key]? = item := by
  rw [h key, if_pos rfl]

/-- The item is put there. -/
lemma insert (h : c.HasOnly key item) (i : Item) :
    HasOnly { c with items := c.items.insert key i } key (some i) := by
  intro k
  simp only [Std.ExtTreeMap.getElem?_insert, Std.LawfulEqCmp.compare_eq_iff_eq]
  by_cases hk : k = key
  · rw [if_pos hk, if_pos hk.symm]
  · rw [if_neg hk, if_neg (Ne.symm hk), h k, if_neg hk]

/-- The item is deleted. -/
lemma erase (h : c.HasOnly key item) :
    HasOnly { c with items := c.items.erase key } key none := by
  intro k
  simp only [Std.ExtTreeMap.getElem?_erase, Std.LawfulEqCmp.compare_eq_iff_eq]
  by_cases hk : k = key
  · rw [if_pos hk, if_pos hk.symm]
  · rw [if_neg hk, if_neg (Ne.symm hk), h k, if_neg hk]

lemma contains_iff (h : c.HasOnly key item) : c.items.contains key = item.isSome := by
  rw [Std.ExtTreeMap.contains_eq_isSome_getElem?, h.self]

/-- The item is changed. -/
lemma changeItem {itemType id : String} (h : c.HasOnly ⟨itemType, id⟩ (some i))
    (change : Item → Item) :
    (∃ v, (c.changeItem itemType id change).1 = .ok v) ∧
      (c.changeItem itemType id change).2.HasOnly ⟨itemType, id⟩ (some (change i)) := by
  simp only [Container.changeItem, attempt, h.self]
  exact ⟨⟨(), trivial⟩, h.insert (change i)⟩

/-- A search that the item satisfies finds it alone. -/
lemma results_eq (h : c.HasOnly key (some i)) {query : Query} (hquery : query.holds i.tags = true)
    (options : Item.Options) :
    Store.results c key.itemType query options = [i.toRecord key options] := by
  have hfound := Store.snapshot_results c key.itemType query options
  have hnodup : (Store.results c key.itemType query options).Nodup :=
    hfound.sorted.imp fun {r r'} hlt heq => absurd (heq ▸ hlt) (lt_irrefl _)
  refine List.perm_singleton.1 ((List.perm_ext_iff_of_nodup hnodup (List.nodup_singleton _)).2
    fun r => ?_)
  rw [hfound.mem_iff, List.mem_singleton]
  constructor
  · rintro ⟨id, item, hitem, -, rfl⟩
    rw [h] at hitem
    split at hitem
    · next hk =>
      cases hitem
      rw [← hk]
    · cases hitem
  · rintro rfl
    exact ⟨key.id, i, h.self, hquery, rfl⟩

end Container.HasOnly

namespace Chain

/-- What there is of an operation: no container, or a closed one with its item or without. -/
def Stands (b : Config.Backend) (t o : Nat) : Option (Option Item) → Option Container → Prop
  | none, c => c = none
  | some item, c => ∃ d, c = some d ∧ d.openHandle = none ∧
      d.HasOnly ⟨b.itemType, Naming.chainItem t o⟩ item

/-- The item as it was added. -/
def added : Item :=
  ⟨"chained benchmark value",
    .ofPairs [("color", "blue"), ("size", "large"), ("~origin", "chained")]⟩

/-- The item with its second value. -/
def revised : Item :=
  { added with value := "chained benchmark value, updated" }

/-- The item with more attributes. -/
def tagged : Item :=
  { revised with tags := revised.tags ∪ .ofPairs [("color", "green"), ("~note", "added")] }

/-- The item with other attributes. -/
def retagged : Item :=
  { tagged with tags := .ofPairs [("color", "red"), ("~note", "updated")] }

/-- The item without one of them. -/
def untagged : Item :=
  { retagged with tags := retagged.tags.without ["~note"] }

namespace Stage

/-- What a stage needs. -/
def before : Stage → Option (Option Item)
  | createContainer => none
  | setMetadata | getMetadata | addItem | deleteContainer => some none
  | getItem | updateItemValue => some added
  | addAttributes => some revised
  | updateAttributes => some tagged
  | searchItems | searchAll | deleteAttributes => some retagged
  | deleteItem => some untagged

/-- What a stage leaves behind. -/
def after : Stage → Option (Option Item)
  | createContainer | setMetadata | getMetadata | deleteItem => some none
  | addItem | getItem => some added
  | updateItemValue => some revised
  | addAttributes => some tagged
  | updateAttributes | searchItems | searchAll => some retagged
  | deleteAttributes => some untagged
  | deleteContainer => none

end Stage

/-- Stages lead from one thing to another. -/
def Leads : Option (Option Item) → List Stage → Option (Option Item) → Prop
  | i, [], j => i = j
  | i, stage :: rest, j => stage.before = i ∧ Leads stage.after rest j

/-- Every stage leaves what the next one needs, and the last one leaves nothing. -/
lemma leads_all : Leads none Stage.all none :=
  ⟨rfl, rfl, rfl, rfl, rfl, rfl, rfl, rfl, rfl, rfl, rfl, rfl, rfl, rfl⟩

/-- What belongs to a thread of a stage. -/
def tenant (ops t : Nat) : Tenant Client where
  client := .thread t
  names := {name | ∃ o < ops, name = Naming.chainContainer t o}
  slots := ∅

lemma mem_tenant {ops t o : Nat} (ho : o < ops) :
    Naming.chainContainer t o ∈ (tenant ops t).names :=
  ⟨o, ho, rfl⟩

/-- The answer is a page with the item of an operation, which is the only one there is. -/
def Finds (b : Config.Backend) (t o : Nat) (a : Except CallError Json) : Prop :=
  ∃ page record, a = .ok page ∧ Search.Page.decode page = .ok ⟨some 1, some [record]⟩ ∧
    record.id = Naming.chainItem t o ∧ record.itemType = some b.itemType

/-- Of the containers of a thread, this one alone is open. -/
def OnlyOpen (ops t o : Nat) (x : Holdings) : Prop :=
  ∀ o' < ops, (∃ d, x.container (Naming.chainContainer t o') = some d ∧ d.openHandle.isSome) ↔
    o' = o

/-- A thread finds the item of the operation whose container it has open. -/
def FindsOpen (b : Config.Backend) (ops t : Nat) (x : Holdings) (a : Except CallError Json) :
    Prop :=
  ∃ o < ops, OnlyOpen ops t o x ∧ Finds b t o a

variable {clock : Reading → Prop} {b : Config.Backend} {ops t o : Nat} {x : Holdings}
  {d : Container} {h : Container.Handle} {item : Option Item} {i : Item}

lemma onlyOpen_put (hclosed : ∀ o < ops, ∀ d,
    x.container (Naming.chainContainer t o) = some d → d.openHandle = none)
    (hopen : d.openHandle.isSome) :
    OnlyOpen ops t o (x.put (Naming.chainContainer t o) (some d)) := by
  intro o' ho'
  constructor
  · rintro ⟨d', hd', hopen'⟩
    by_contra hne
    rw [Holdings.put_container_of_ne (by simpa [Naming.chainContainer_inj] using hne)] at hd'
    rw [hclosed o' ho' d' hd'] at hopen'
    cases hopen'
  · rintro rfl
    exact ⟨d, Holdings.put_container_self, hopen⟩

/-- Making a call that succeeds. -/
lemma does_perform {c : Call} {P : Holdings → Prop}
    (hc : (tenant ops t).Does clock (FindsOpen b ops t) (Job.call c) x
      fun a y => (∃ v, a = .ok v) ∧ P y) :
    (tenant ops t).Does clock (FindsOpen b ops t) (perform c) x fun r y => r = .ok () ∧ P y := by
  refine hc.bind ?_
  rintro _ y ⟨⟨v, rfl⟩, hy⟩
  exact Tenant.does_pure ⟨rfl, hy⟩

/-- What is left of an open container when a stage has worked on it. -/
def Worked (b : Config.Backend) (t o : Nat) (h : Container.Handle) (x : Holdings)
    (content : Option (Option Item)) (r : Except CallError Unit) (y : Holdings) : Prop :=
  r = .ok () ∧ ∃ d item, content = some item ∧ d.openHandle = some h.number ∧
    d.HasOnly ⟨b.itemType, Naming.chainItem t o⟩ item ∧
    y = x.put (Naming.chainContainer t o) (some d)

/-- A call inside the open container. -/
lemma does_one {c : Call} (hcall : c.inside? = some h) (ho : o < ops)
    (hd : x.container (Naming.chainContainer t o) = some d) (hopen : d.openHandle = some h.number)
    (hrespond : (∃ v, (d.respond c).1 = .ok v) ∧
      (d.respond c).2.HasOnly ⟨b.itemType, Naming.chainItem t o⟩ item) :
    (tenant ops t).Does clock (FindsOpen b ops t) (perform c) x
      (Worked b t o h x (some item)) := by
  obtain ⟨⟨v, hv⟩, honly⟩ := hrespond
  refine does_perform ((Tenant.does_inside hcall (mem_tenant ho) hd hopen).mono ?_)
  rintro a y ⟨rfl, rfl⟩
  exact ⟨⟨v, hv⟩, _, item, rfl, by rwa [Container.respond_openHandle], honly, rfl⟩

/-- **A search in the open container finds its one item.** -/
lemma does_search (ho : o < ops) (hsearch : x.search = none) (honlyopen : OnlyOpen ops t o x)
    (hd : x.container (Naming.chainContainer t o) = some d) (hopen : d.openHandle = some h.number)
    (honly : d.HasOnly ⟨b.itemType, Naming.chainItem t o⟩ (some i)) {text : String} {query : Query}
    (hparse : Query.parse text = .ok query) (hquery : query.holds i.tags = true) :
    (tenant ops t).Does clock (FindsOpen b ops t) (search h b.itemType text) x
      (Worked b t o h x (some (some i))) := by
  have hresults := honly.results_eq hquery Search.Options.all.itemOptions
  unfold search
  refine (Tenant.does_openSearch (mem_tenant ho) hd hopen hsearch hparse b.itemType .all).bind ?_
  rintro a y ⟨k, rfl, rfl⟩
  dsimp only
  dsimp only at hresults
  rw [hresults]
  have hdecode : Search.Page.decode (Search.page ⟨1, [i.toRecord ⟨b.itemType, Naming.chainItem t o⟩
      Search.Options.all.itemOptions], .all⟩ 1).toJson =
        .ok ⟨some 1, some [i.toRecord ⟨b.itemType, Naming.chainItem t o⟩
          Search.Options.all.itemOptions]⟩ := by
    rw [Search.Page.decode, Search.Page.ofJson?_toJson]
    · rfl
    · rintro n ⟨⟩
      show 1 < 2 ^ 64
      decide
  refine (does_perform (P := fun y => y = x.seek (some (k.number, ⟨1, [], .all⟩)))
    ((Tenant.does_fetch Holdings.seek_search ⟨o, ho, honlyopen, _, _, rfl, hdecode, rfl,
      rfl⟩).mono ?_)).bind ?_
  · rintro a y ⟨rfl, rfl⟩
    exact ⟨⟨_, rfl⟩, rfl⟩
  · rintro r y ⟨rfl, rfl⟩
    refine (does_perform (P := fun y => y = x) ((Tenant.does_closeSearch
      Holdings.seek_search).mono ?_)).bind ?_
    · rintro a y ⟨rfl, rfl⟩
      exact ⟨⟨_, rfl⟩, by rw [Holdings.seek_seek, ← hsearch, Holdings.seek_self]⟩
    · rintro r y ⟨rfl, rfl⟩
      exact Tenant.does_pure ⟨rfl, d, some i, rfl, hopen, honly, (Holdings.put_self hd).symm⟩

lemma parse_itemQuery : Query.parse itemQuery = .ok
    (.and [.oneOf "color" ["red", "crimson"], .eq "~note" "updated"]) := by
  have hread : Json.ofText? itemQuery = some (.obj [("color", .obj [("$in", .arr [.str "red",
      .str "crimson"])]), ("~note", .str "updated")]) := by
    cbv
  have hblank : Text.allBlank itemQuery = false := by decide +kernel
  rw [Query.parse, hblank, hread]
  rfl

/-- **What a stage finds in its open container is what it needs, and it leaves what it should.** -/
lemma does_withOpen {stage : Stage} (ho : o < ops) (hsearch : x.search = none)
    (honlyopen : OnlyOpen ops t o x)
    (hd : x.container (Naming.chainContainer t o) = some d) (hopen : d.openHandle = some h.number)
    (honly : d.HasOnly ⟨b.itemType, Naming.chainItem t o⟩ item) (hbefore : stage.before = some item)
    (hstage : stage ≠ .deleteContainer) :
    (tenant ops t).Does clock (FindsOpen b ops t) (withOpen b (Naming.chainItem t o) h stage) x
      (Worked b t o h x stage.after) := by
  have hitem := honly.self
  have hcontains := honly.contains_iff
  cases stage with
  | createContainer | deleteContainer => contradiction
  | setMetadata =>
    cases hbefore
    exact does_one rfl ho hd hopen ⟨⟨_, rfl⟩, honly.of_items rfl⟩
  | getMetadata =>
    cases hbefore
    exact does_one rfl ho hd hopen ⟨⟨_, rfl⟩, honly⟩
  | addItem =>
    cases hbefore
    refine does_one rfl ho hd hopen ?_
    simp only [Container.respond, Container.attempt, hcontains]
    exact ⟨⟨_, rfl⟩, honly.insert added⟩
  | getItem =>
    cases hbefore
    refine does_one rfl ho hd hopen ⟨?_, honly⟩
    simp only [Container.respond, hitem]
    exact ⟨_, rfl⟩
  | updateItemValue | addAttributes | updateAttributes | deleteAttributes =>
    cases hbefore
    exact does_one rfl ho hd hopen (honly.changeItem _)
  | searchItems =>
    cases hbefore
    exact does_search ho hsearch honlyopen hd hopen honly parse_itemQuery (by decide)
  | searchAll =>
    cases hbefore
    have hparse : Query.parse "\x7b\x7d" = .ok (.and []) := rfl
    exact does_search ho hsearch honlyopen hd hopen honly hparse rfl
  | deleteItem =>
    cases hbefore
    refine does_one rfl ho hd hopen ?_
    simp only [Container.respond, Container.attempt, hcontains]
    exact ⟨⟨_, rfl⟩, honly.erase⟩

/-- All other stages open the container, work on it and close it. -/
lemma execute_eq {stage : Stage} (hcreate : stage ≠ .createContainer)
    (hdelete : stage ≠ .deleteContainer) (b : Config.Backend) (t o : Nat) :
    stage.execute b t o = (do
      match ← Job.call (.openContainer (Naming.chainContainer t o) b.credentials) with
      | .error e => return .error e
      | .ok handle =>
        let result ← withOpen b (Naming.chainItem t o) handle stage
        return firstError result (← perform (.closeContainer handle))) := by
  unfold Stage.execute
  cases stage with
  | createContainer | deleteContainer => contradiction
  | _ =>
    dsimp only
    congr 1
    funext a
    cases a <;> rfl

/-- **Each stage makes of a container what the next stage needs**, and succeeds. -/
lemma does_execute (hread : b.Readable) {stage : Stage} (ho : o < ops) (hsearch : x.search = none)
    (hclosed : ∀ o < ops, ∀ d,
      x.container (Naming.chainContainer t o) = some d → d.openHandle = none)
    (hbefore : Stands b t o stage.before (x.container (Naming.chainContainer t o))) :
    (tenant ops t).Does clock (FindsOpen b ops t) (stage.execute b t o) x fun r y => r = .ok () ∧
      ∃ c, Stands b t o stage.after c ∧ y = x.put (Naming.chainContainer t o) c := by
  by_cases hcreate : stage = .createContainer
  · subst hcreate
    refine does_perform ((Tenant.does_create (mem_tenant ho) (Naming.chainContainer_ne_empty t o)
      hbefore hread.1 hread.2 b.storageType).mono ?_)
    rintro _ y ⟨rfl, rfl⟩
    exact ⟨⟨_, rfl⟩, _, ⟨_, rfl, rfl, fun k => by simp [Container.empty]⟩, rfl⟩
  obtain ⟨item, hitem⟩ : ∃ item, stage.before = some item := by
    cases stage with
    | createContainer => contradiction
    | _ => exact ⟨_, rfl⟩
  rw [hitem] at hbefore
  obtain ⟨d, hd, hfree, honly⟩ := hbefore
  -- all stages but the first find the container closed, and all but the last one open it
  by_cases hdelete : stage = .deleteContainer
  · subst hdelete
    refine does_perform ((Tenant.does_delete (mem_tenant ho) b.credentials).mono ?_)
    rintro a y ⟨rfl, rfl⟩
    have hok : Tenant.removal b.credentials (Naming.chainContainer t o) (some d) = .ok () := by
      simp [Tenant.removal, hread.2, hfree]
    rw [hd, hok]
    exact ⟨⟨_, rfl⟩, none, rfl, rfl⟩
  rw [execute_eq hcreate hdelete]
  refine (Tenant.does_open (mem_tenant ho) hd hfree hread.2).bind ?_
  rintro _ y ⟨h, rfl, rfl⟩
  refine (does_withOpen (x := x.put _ _) (d := { d with openHandle := some h.number }) ho hsearch
    (onlyOpen_put hclosed rfl) Holdings.put_container_self rfl (honly.of_items rfl) hitem
    hdelete).bind ?_
  rintro _ y ⟨rfl, d', item', hafter, hopen', honly', rfl⟩
  refine (does_perform (P := fun y => y = x.put (Naming.chainContainer t o)
    (some { d' with openHandle := none })) ((Tenant.does_close (mem_tenant ho)
      Holdings.put_container_self hopen').mono ?_)).bind ?_
  · rintro _ y ⟨rfl, rfl⟩
    exact ⟨⟨_, rfl⟩, by rw [Holdings.put_put, Holdings.put_put]⟩
  · rintro _ y ⟨rfl, rfl⟩
    rw [hafter]
    exact Tenant.does_pure ⟨rfl, some { d' with openHandle := none },
      ⟨_, rfl, rfl, honly'.of_items rfl⟩, rfl⟩

end Chain

end Soak
