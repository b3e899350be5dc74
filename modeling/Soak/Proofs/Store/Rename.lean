import Soak.Proofs.Store.Contents

/-!
# Handles under other numbers

The numbers of handles mean nothing by themselves.  Two stores mirror each other for a client
if the containers of the client are the same in both, the handle noted in them apart, and what
is open under a number of the client in one store is open under the renamed number in the other
(`Store.Mirrors`).  Then a call of the client and the renamed call are answered alike, up to the
renaming, and the stores still mirror each other.
-/

namespace Soak

/-! ### Renaming -/

/-- The handle under another number. -/
def Container.Handle.rename (ρ : Int → Int) (h : Container.Handle) : Container.Handle :=
  ⟨ρ h.number⟩

/-- The handle under another number. -/
def Search.Handle.rename (ρ : Int → Int) (h : Search.Handle) : Search.Handle :=
  ⟨ρ h.number⟩

/-- The container, open under another handle. -/
def Container.rename (ρ : Int → Int) (c : Container) : Container :=
  { c with openHandle := c.openHandle.map ρ }

/-- The error about another handle. -/
def CallError.rename (ρ : Int → Int) : CallError → CallError
  | invalidHandle number => invalidHandle (ρ number)
  | e => e

namespace Call

/-- The call with other handles. -/
def rename (ρ : Int → Int) : Call → Call
  | createContainer name storageType config credentials =>
    createContainer name storageType config credentials
  | openContainer name credentials => openContainer name credentials
  | closeContainer h => closeContainer (h.rename ρ)
  | deleteContainer name credentials => deleteContainer name credentials
  | setMetadata h metadata => setMetadata (h.rename ρ) metadata
  | getMetadata h => getMetadata (h.rename ρ)
  | addItem h itemType id value attributes => addItem (h.rename ρ) itemType id value attributes
  | getItem h itemType id options => getItem (h.rename ρ) itemType id options
  | deleteItem h itemType id => deleteItem (h.rename ρ) itemType id
  | updateItemValue h itemType id value => updateItemValue (h.rename ρ) itemType id value
  | addAttributes h itemType id attributes => addAttributes (h.rename ρ) itemType id attributes
  | updateAttributes h itemType id attributes =>
    updateAttributes (h.rename ρ) itemType id attributes
  | deleteAttributes h itemType id names => deleteAttributes (h.rename ρ) itemType id names
  | openSearch h itemType query options => openSearch (h.rename ρ) itemType query options
  | fetchNextResults h count => fetchNextResults (h.rename ρ) count
  | closeSearch h => closeSearch (h.rename ρ)

/-- A call of a client: it names containers of the client, and is made with handles of the
client. -/
structure Within (names : Set String) (mine : Int → Prop) (call : Call) : Prop where
  /-- The container that it names. -/
  name : ∀ n, call.containerName? = some n → n ∈ names
  /-- The handle of a container. -/
  handle : ∀ k, call.containerHandle? = some k → mine k.number
  /-- The handle of a search. -/
  search : ∀ k, call.searchHandle? = some k → mine k.number

/-- What a call answers, with another handle if it is one. -/
def renameReply (ρ : Int → Int) : (call : Call) → call.Reply → (call.rename ρ).Reply
  | openContainer _ _, h => Container.Handle.rename ρ h
  | openSearch _ _ _ _, h => Search.Handle.rename ρ h
  | createContainer _ _ _ _, r | closeContainer _, r | deleteContainer _ _, r
  | setMetadata _ _, r | getMetadata _, r | addItem _ _ _ _ _, r | getItem _ _ _ _, r
  | deleteItem _ _ _, r | updateItemValue _ _ _ _, r | addAttributes _ _ _ _, r
  | updateAttributes _ _ _ _, r | deleteAttributes _ _ _ _, r | fetchNextResults _ _, r
  | closeSearch _, r => r

end Call

/-- An answer with other handles. -/
def renameAnswer (ρ : Int → Int) {α β : Type} (f : α → β) :
    Except CallError α → Except CallError β
  | .ok r => .ok (f r)
  | .error e => .error (e.rename ρ)

variable {ρ : Int → Int}

@[simp] lemma Container.rename_items (c : Container) : (c.rename ρ).items = c.items := rfl

@[simp] lemma Container.rename_metadata (c : Container) :
    (c.rename ρ).metadata = c.metadata := rfl

@[simp] lemma Container.rename_openHandle (c : Container) :
    (c.rename ρ).openHandle = c.openHandle.map ρ := rfl

@[simp] lemma Call.takesNumber_rename (call : Call) :
    (call.rename ρ).takesNumber = call.takesNumber := by
  cases call <;> rfl

namespace Store

/-- Two stores are the same for a client, up to the numbers of handles. -/
structure Mirrors (ρ : Int → Int) (names : Set String) (mine : Int → Prop) (s t : Store) :
    Prop where
  /-- The containers of the client are the same. -/
  containers : ∀ n ∈ names, t.containers[n]? = s.containers[n]?.map (Container.rename ρ)
  /-- The same is open under the numbers of the client. -/
  opened : ∀ k, mine k → t.opened[ρ k]? = s.opened[k]?
  /-- The same searches have the numbers of the client. -/
  searches : ∀ k, mine k → t.searches[ρ k]? = s.searches[k]?

/-- Two answers are the same up to the numbers of handles, and so are the stores behind
them. -/
def Alike (ρ : Int → Int) (names : Set String) (mine : Int → Prop) {α β : Type} (f : α → β)
    (o : Outcome α) (o' : Outcome β) : Prop :=
  o'.1 = renameAnswer ρ f o.1 ∧ Mirrors ρ names mine o.2 o'.2

variable {names : Set String} {mine : Int → Prop} {s t : Store}

lemma Mirrors.put (h : Mirrors ρ names mine s t) (name : String) (c : Container) :
    Mirrors ρ names mine (s.put name c) (t.put name (c.rename ρ)) where
  containers n hn := by
    rw [put_containers, put_containers]
    split
    · rfl
    · exact h.containers n hn
  opened := h.opened
  searches := h.searches

/-- What a handle of the client refers to. -/
lemma Mirrors.resolve (h : Mirrors ρ names mine s t) {k : Container.Handle} (hk : mine k.number)
    (hin : ∀ n, s.opened[k.number]? = some n → n ∈ names) :
    (∃ e, s.resolve k = .error e ∧ t.resolve (k.rename ρ) = .error (e.rename ρ)) ∨
      ∃ name c, s.resolve k = .ok (name, c) ∧
        t.resolve (k.rename ρ) = .ok (name, c.rename ρ) := by
  have ho : t.opened[(k.rename ρ).number]? = s.opened[k.number]? := h.opened _ hk
  cases hs : s.opened[k.number]? with
  | none =>
    rw [hs] at ho
    exact .inl ⟨.invalidHandle k.number, by simp [Store.resolve, hs],
      by simp only [Store.resolve, ho]; rfl⟩
  | some name =>
    rw [hs] at ho
    have hc := h.containers name (hin name hs)
    cases hsc : s.containers[name]? with
    | none =>
      rw [hsc] at hc
      exact .inl ⟨.containerNotFound name, by simp [Store.resolve, hs, hsc],
        by simp [Store.resolve, ho, hc, CallError.rename]⟩
    | some c =>
      rw [hsc] at hc
      exact .inr ⟨name, c, resolve_eq_ok_iff.2 ⟨hs, hsc⟩, resolve_eq_ok_iff.2 ⟨ho, hc⟩⟩

lemma Mirrors.onContainer (h : Mirrors ρ names mine s t) {k : Container.Handle}
    (hk : mine k.number) (hin : ∀ n, s.opened[k.number]? = some n → n ∈ names)
    {change : Container → Except CallError Container}
    (hchange : ∀ c, change (c.rename ρ) = renameAnswer ρ (Container.rename ρ) (change c)) :
    Alike ρ names mine id (s.onContainer k change) (t.onContainer (k.rename ρ) change) := by
  unfold Store.onContainer
  rcases h.resolve hk hin with ⟨e, hs, ht⟩ | ⟨name, c, hs, ht⟩
  · rw [hs, ht]
    exact ⟨rfl, h⟩
  · simp only [hs, ht, hchange]
    cases change c with
    | error e => exact ⟨rfl, h⟩
    | ok d => exact ⟨rfl, h.put name d⟩

lemma Mirrors.onItem (h : Mirrors ρ names mine s t) {k : Container.Handle}
    (hk : mine k.number) (hin : ∀ n, s.opened[k.number]? = some n → n ∈ names)
    (itemType itemId : String) (change : Item → Item) :
    Alike ρ names mine id (s.onItem k itemType itemId change)
      (t.onItem (k.rename ρ) itemType itemId change) := by
  refine h.onContainer hk hin fun c => ?_
  rw [Container.rename_items]
  split <;> rfl

/-- What is wrong with a text has nothing to do with handles. -/
lemma rename_of_requireJson {fault : StructureFault} {text : String} {e : CallError}
    (h : requireJson fault text = .error e) : e.rename ρ = e := by
  unfold requireJson at h
  split at h
  · cases h
  · cases h
    rfl

lemma Mirrors.createContainer (h : Mirrors ρ names mine s t) {name : String} (hn : name ∈ names)
    (config credentials : String) :
    Alike ρ names mine id (s.createContainer name config credentials)
      (t.createContainer name config credentials) := by
  have hhas : t.hasContainer name = s.hasContainer name := by
    rw [hasContainer, hasContainer, Std.ExtTreeMap.contains_eq_isSome_getElem?,
      Std.ExtTreeMap.contains_eq_isSome_getElem?, h.containers name hn, Option.isSome_map]
  unfold Store.createContainer
  rw [hhas]
  split
  · exact ⟨rfl, h⟩
  · split
    · next e he => exact ⟨congrArg Except.error (rename_of_requireJson he).symm, h⟩
    · next e he _ => exact ⟨congrArg Except.error (rename_of_requireJson he).symm, h⟩
    · split
      · exact ⟨rfl, h⟩
      · exact ⟨rfl, h.put name .empty⟩

lemma Mirrors.deleteContainer (h : Mirrors ρ names mine s t) {name : String} (hn : name ∈ names)
    (credentials : String) :
    Alike ρ names mine id (s.deleteContainer name credentials)
      (t.deleteContainer name credentials) := by
  have hc := h.containers name hn
  unfold Store.deleteContainer
  split
  · next e he => exact ⟨congrArg Except.error (rename_of_requireJson he).symm, h⟩
  · cases hs : s.containers[name]? with
    | none =>
      rw [hs] at hc
      rw [hc]
      exact ⟨rfl, h⟩
    | some c =>
      rw [hs] at hc
      simp only [hc, Option.map_some, Container.rename_openHandle, Option.isSome_map]
      split
      · exact ⟨rfl, h⟩
      · refine ⟨rfl, fun n hn' => ?_, h.opened, h.searches⟩
        simp only [Std.ExtTreeMap.getElem?_erase, Std.compare_eq_iff_eq]
        split
        · rfl
        · exact h.containers n hn'

lemma Mirrors.closeContainer (hρ : Function.Injective ρ) (h : Mirrors ρ names mine s t)
    {k : Container.Handle} (hk : mine k.number) :
    Alike ρ names mine id (s.closeContainer k) (t.closeContainer (k.rename ρ)) := by
  have ho : t.opened[(k.rename ρ).number]? = s.opened[k.number]? := h.opened _ hk
  unfold Store.closeContainer
  rw [ho]
  cases s.opened[k.number]? with
  | none => exact ⟨rfl, h⟩
  | some name =>
    refine ⟨rfl, fun n hn => ?_, fun m hm => ?_, h.searches⟩
    · simp only [Std.ExtTreeMap.getElem?_modify, Std.compare_eq_iff_eq, h.containers n hn]
      split
      · next heq =>
        rw [heq, h.containers n hn, Option.map_map, Option.map_map]
        rfl
      · rfl
    · simp only [Std.ExtTreeMap.getElem?_erase, Std.compare_eq_iff_eq, h.opened m hm,
        Container.Handle.rename, hρ.eq_iff]

lemma Mirrors.fetchNextResults (hρ : Function.Injective ρ) (h : Mirrors ρ names mine s t)
    {k : Search.Handle} (hk : mine k.number) (count : Nat) :
    Alike ρ names mine id (s.fetchNextResults k count)
      (t.fetchNextResults (k.rename ρ) count) := by
  have ho : t.searches[(k.rename ρ).number]? = s.searches[k.number]? := h.searches _ hk
  unfold Store.fetchNextResults
  rw [ho]
  cases s.searches[k.number]? with
  | none => exact ⟨rfl, h⟩
  | some cursor =>
    refine ⟨rfl, h.containers, h.opened, fun m hm => ?_⟩
    simp only [Std.ExtTreeMap.getElem?_insert, Std.compare_eq_iff_eq, h.searches m hm,
      Search.Handle.rename, hρ.eq_iff]

lemma Mirrors.closeSearch (hρ : Function.Injective ρ) (h : Mirrors ρ names mine s t)
    {k : Search.Handle} (hk : mine k.number) :
    Alike ρ names mine id (s.closeSearch k) (t.closeSearch (k.rename ρ)) := by
  have ho : t.searches.contains (k.rename ρ).number = s.searches.contains k.number := by
    rw [Std.ExtTreeMap.contains_eq_isSome_getElem?, Std.ExtTreeMap.contains_eq_isSome_getElem?]
    exact congrArg Option.isSome (h.searches _ hk)
  unfold Store.closeSearch
  rw [ho]
  split
  · refine ⟨rfl, h.containers, h.opened, fun m hm => ?_⟩
    simp only [Std.ExtTreeMap.getElem?_erase, Std.compare_eq_iff_eq, h.searches m hm,
      Search.Handle.rename, hρ.eq_iff]
  · exact ⟨rfl, h⟩

lemma Mirrors.attach (hρ : Function.Injective ρ) (h : Mirrors ρ names mine s t) {name : String}
    (hn : name ∈ names) (number : Int) :
    Alike ρ names mine (Container.Handle.rename ρ) (s.attach name number)
      (t.attach name (ρ number)) := by
  have hc := h.containers name hn
  unfold Store.attach
  cases hs : s.containers[name]? with
  | none =>
    rw [hs] at hc
    rw [hc]
    exact ⟨rfl, h⟩
  | some c =>
    rw [hs] at hc
    simp only [hc, Option.map_some, Container.rename_openHandle, Option.isSome_map]
    split
    · exact ⟨rfl, h⟩
    · refine ⟨rfl, (h.put name { c with openHandle := some number }).containers,
        fun m hm => ?_, h.searches⟩
      simp only [Std.ExtTreeMap.getElem?_insert, Std.compare_eq_iff_eq, h.opened m hm,
        hρ.eq_iff]

lemma Mirrors.beginSearch (hρ : Function.Injective ρ) (h : Mirrors ρ names mine s t)
    {k : Container.Handle} (hk : mine k.number)
    (hin : ∀ n, s.opened[k.number]? = some n → n ∈ names) (itemType : String) (query : Query)
    (options : Search.Options) (number : Int) :
    Alike ρ names mine (Search.Handle.rename ρ)
      (s.beginSearch k itemType query options number)
      (t.beginSearch (k.rename ρ) itemType query options (ρ number)) := by
  unfold Store.beginSearch
  rcases h.resolve hk hin with ⟨e, hs, ht⟩ | ⟨name, c, hs, ht⟩
  · rw [hs, ht]
    exact ⟨rfl, h⟩
  · rw [hs, ht]
    refine ⟨rfl, h.containers, h.opened, fun m hm => ?_⟩
    simp only [Std.ExtTreeMap.getElem?_insert, Std.compare_eq_iff_eq, h.searches m hm,
      hρ.eq_iff]
    rfl

/-- A call of a client that takes no number is answered alike. -/
lemma Mirrors.answer (hρ : Function.Injective ρ) (h : Mirrors ρ names mine s t) {call : Call}
    (htakes : call.takesNumber = false) (hcall : call.Within names mine)
    (hin : ∀ k, mine k → ∀ n, s.opened[k]? = some n → n ∈ names) :
    Alike ρ names mine (call.renameReply ρ) (s.answer call) (t.answer (call.rename ρ)) := by
  cases call with
  | createContainer name storageType config credentials =>
    exact h.createContainer (hcall.name name rfl) config credentials
  | openContainer name credentials =>
    have hnone : Json.ofText? credentials = none := by simpa [Call.takesNumber] using htakes
    simp only [Store.answer, Call.rename, Store.openContainer, requireJson, hnone]
    exact ⟨rfl, h⟩
  | closeContainer k => exact h.closeContainer hρ (hcall.handle k rfl)
  | deleteContainer name credentials =>
    exact h.deleteContainer (hcall.name name rfl) credentials
  | setMetadata k metadata =>
    have hk := hcall.handle k rfl
    exact h.onContainer hk (hin _ hk) fun c => rfl
  | getMetadata k =>
    have hk := hcall.handle k rfl
    rcases h.resolve hk (hin _ hk) with ⟨e, hs, ht⟩ | ⟨name, c, hs, ht⟩
    · simp only [Store.answer, Call.rename, Store.getMetadata, hs, ht]
      exact ⟨rfl, h⟩
    · simp only [Store.answer, Call.rename, Store.getMetadata, hs, ht]
      exact ⟨rfl, h⟩
  | addItem k itemType id value attributes =>
    have hk := hcall.handle k rfl
    refine h.onContainer hk (hin _ hk) fun c => ?_
    rw [Container.rename_items]
    split <;> rfl
  | getItem k itemType id options =>
    have hk := hcall.handle k rfl
    rcases h.resolve hk (hin _ hk) with ⟨e, hs, ht⟩ | ⟨name, c, hs, ht⟩
    · simp only [Store.answer, Call.rename, Store.getItem, hs, ht]
      exact ⟨rfl, h⟩
    · simp only [Store.answer, Call.rename, Store.getItem, hs, ht, Container.rename_items]
      split <;> exact ⟨rfl, h⟩
  | deleteItem k itemType id =>
    have hk := hcall.handle k rfl
    refine h.onContainer hk (hin _ hk) fun c => ?_
    rw [Container.rename_items]
    split <;> rfl
  | updateItemValue k | addAttributes k | updateAttributes k | deleteAttributes k =>
    have hk := hcall.handle k rfl
    exact h.onItem hk (hin _ hk) _ _ _
  | openSearch k itemType text options =>
    cases hq : Query.parse text with
    | error fault =>
      simp only [Store.answer, Call.rename, Store.openSearch, hq]
      exact ⟨rfl, h⟩
    | ok query => simp [Call.takesNumber, hq, Except.toBool] at htakes
  | fetchNextResults k count => exact h.fetchNextResults hρ (hcall.search k rfl) count
  | closeSearch k => exact h.closeSearch hρ (hcall.search k rfl)

/-- A call of a client that has taken a number is concluded alike under the renamed number. -/
lemma Mirrors.conclude (hρ : Function.Injective ρ) (h : Mirrors ρ names mine s t) {call : Call}
    (htakes : call.takesNumber = true) (hcall : call.Within names mine)
    (hin : ∀ k, mine k → ∀ n, s.opened[k]? = some n → n ∈ names) (number : Int) :
    Alike ρ names mine (call.renameReply ρ) (s.conclude number call)
      (t.conclude (ρ number) (call.rename ρ)) := by
  cases call with
  | openContainer name credentials => exact h.attach hρ (hcall.name name rfl) number
  | openSearch k itemType text options =>
    have hk := hcall.handle k rfl
    cases hq : Query.parse text with
    | error fault => simp [Call.takesNumber, hq, Except.toBool] at htakes
    | ok query =>
      simp only [Store.conclude, Call.rename, hq]
      exact h.beginSearch hρ hk (hin _ hk) itemType query options number
  | _ => simp [Call.takesNumber] at htakes

end Store

end Soak
