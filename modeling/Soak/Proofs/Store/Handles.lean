import Mathlib.Data.List.Nodup
import Soak.Proofs.Store.Shared

/-!
# Handles of a store

The table of open containers and the handles noted in the containers are inverse to each
other, and every number in use was given out before.  `Store.Coherent` says this of a
store, `Shared.Coherent` adds the numbers that clients have taken and not used yet.

Most calls leave all handles alone (`KeepsHandles`).  What remains are four steps: a number
is taken, a container is opened or closed, and a search is opened.
-/

namespace Soak

namespace Store

/-- The handles of a store make sense. -/
structure Coherent (s : Store) : Prop where
  /-- A handle refers to a container exactly if it is noted there. -/
  opened_iff : ∀ h n, s.opened[h]? = some n ↔ s.holder n = some h
  /-- Handles of containers were given out before. -/
  opened_lt : ∀ h ∈ s.opened, h < s.nextHandle
  /-- Handles of searches were given out before. -/
  searches_lt : ∀ h ∈ s.searches, h < s.nextHandle
  /-- No number stands for a container and for a search. -/
  apart : ∀ h ∈ s.opened, h ∉ s.searches

lemma coherent_empty : Store.empty.Coherent := by
  constructor <;> simp [Store.empty, holder]

lemma Coherent.resolve {s : Store} (hs : s.Coherent) (h : Container.Handle) :
    (s.opened[h.number]? = none ∧ s.resolve h = .error (.invalidHandle h.number)) ∨
      ∃ name c, s.opened[h.number]? = some name ∧ s.containers[name]? = some c ∧
        c.openHandle = some h.number ∧ s.resolve h = .ok (name, c) := by
  cases ho : s.opened[h.number]? with
  | none => exact .inl ⟨rfl, by simp [Store.resolve, ho]⟩
  | some name =>
    obtain ⟨c, hc, hh⟩ := holder_eq_some_iff.1 ((hs.opened_iff _ _).1 ho)
    exact .inr ⟨name, c, rfl, hc, hh, resolve_eq_ok_iff.2 ⟨ho, hc⟩⟩

/-! ### Steps that leave all handles alone -/

/-- The handles of containers are the same, and no search was opened. -/
structure KeepsHandles (s s' : Store) : Prop where
  opened : s'.opened = s.opened
  holder : ∀ n, s'.holder n = s.holder n
  nextHandle : s'.nextHandle = s.nextHandle
  searches : ∀ h ∈ s'.searches, h ∈ s.searches

lemma KeepsHandles.refl (s : Store) : KeepsHandles s s :=
  ⟨rfl, fun _ => rfl, rfl, fun _ h => h⟩

lemma Coherent.of_keepsHandles {s s' : Store} (hs : s.Coherent) (h : KeepsHandles s s') :
    s'.Coherent where
  opened_iff k n := by rw [h.opened, h.holder, hs.opened_iff]
  opened_lt k hk := by
    rw [h.opened] at hk
    rw [h.nextHandle]
    exact hs.opened_lt k hk
  searches_lt k hk := by
    rw [h.nextHandle]
    exact hs.searches_lt k (h.searches k hk)
  apart k hk hk' := by
    rw [h.opened] at hk
    exact hs.apart k hk (h.searches k hk')

lemma keepsHandles_put {s : Store} {name : String} {c : Container}
    (h : s.holder name = c.openHandle) : KeepsHandles s (s.put name c) where
  opened := rfl
  holder n := by
    by_cases hn : name = n
    · subst hn
      rw [holder, put_containers, if_pos rfl, h]
      rfl
    · rw [holder, put_containers, if_neg hn, ← holder]
  nextHandle := rfl
  searches _ h := h

lemma keepsHandles_createContainer (s : Store) (name config credentials : String) :
    KeepsHandles s (s.createContainer name config credentials).2 := by
  unfold createContainer
  split
  · exact .refl s
  · split
    · exact .refl s
    · exact .refl s
    · split
      · exact .refl s
      · next h =>
        refine keepsHandles_put ?_
        have : s.containers[name]? = none := by
          simpa [hasContainer] using h
        simp [holder, this, Container.empty]

lemma keepsHandles_deleteContainer (s : Store) (name credentials : String) :
    KeepsHandles s (s.deleteContainer name credentials).2 := by
  unfold deleteContainer
  split
  · exact .refl s
  · split
    · exact .refl s
    · next c hc =>
      split
      · exact .refl s
      · next hopen =>
        refine ⟨rfl, fun n => ?_, rfl, fun _ h => h⟩
        by_cases hn : name = n
        · subst hn
          have hnone : c.openHandle = none := by simpa using hopen
          simp [holder, hc, hnone]
        · simp [holder, Std.ExtTreeMap.getElem?_erase, hn]

lemma keepsHandles_onContainer (s : Store) (h : Container.Handle)
    (change : Container → Except CallError Container)
    (hchange : ∀ c d, change c = .ok d → d.openHandle = c.openHandle) :
    KeepsHandles s (s.onContainer h change).2 := by
  rcases s.onContainer_cases h change with ⟨e, -, he⟩ | ⟨name, c, hr, ⟨e, -, he⟩ | ⟨d, hd, he⟩⟩
  · rw [he]
    exact .refl s
  · rw [he]
    exact .refl s
  · rw [he]
    refine keepsHandles_put ?_
    rw [holder, (resolve_eq_ok_iff.1 hr).2, hchange c d hd]
    rfl

lemma keepsHandles_onItem (s : Store) (h : Container.Handle) (itemType id : String)
    (change : Item → Item) : KeepsHandles s (s.onItem h itemType id change).2 := by
  refine keepsHandles_onContainer s h _ fun c d hd => ?_
  split at hd
  · cases hd
  · cases hd
    rfl

lemma keepsHandles_fetchNextResults (s : Store) (search : Search.Handle) (count : Nat) :
    KeepsHandles s (s.fetchNextResults search count).2 := by
  unfold fetchNextResults
  split
  · exact .refl s
  · next cursor hc =>
    refine ⟨rfl, fun _ => rfl, rfl, fun h hh => ?_⟩
    have hmem : search.number ∈ s.searches := by
      rw [Std.ExtTreeMap.mem_iff_isSome_getElem?, hc]
      rfl
    rcases Std.ExtTreeMap.mem_insert.1 hh with heq | hh
    · rwa [← Std.compare_eq_iff_eq.1 heq]
    · exact hh

lemma keepsHandles_closeSearch (s : Store) (search : Search.Handle) :
    KeepsHandles s (s.closeSearch search).2 := by
  unfold closeSearch
  split
  · exact ⟨rfl, fun _ => rfl, rfl, fun _ hh => Std.ExtTreeMap.mem_of_mem_erase hh⟩
  · exact .refl s

/-- Of the calls that take no number, only closing a container changes handles. -/
lemma keepsHandles_answer (s : Store) {call : Call} (htakes : call.takesNumber = false)
    (hclose : ∀ h, call ≠ .closeContainer h) : KeepsHandles s (s.answer call).2 := by
  cases call with
  | createContainer name storageType config credentials =>
    exact keepsHandles_createContainer s name config credentials
  | openContainer name credentials =>
    have : Json.ofText? credentials = none := by simpa [Call.takesNumber] using htakes
    simpa [answer, openContainer, requireJson, this] using KeepsHandles.refl s
  | closeContainer h => exact absurd rfl (hclose h)
  | deleteContainer name credentials => exact keepsHandles_deleteContainer s name credentials
  | setMetadata h metadata =>
    exact keepsHandles_onContainer s h _ fun c d hd => by cases hd; rfl
  | getMetadata h => exact .refl s
  | addItem h itemType id value attributes =>
    refine keepsHandles_onContainer s h _ fun c d hd => ?_
    split at hd
    · cases hd
    · cases hd
      rfl
  | getItem h itemType id options =>
    simp only [answer, getItem]
    split
    · exact .refl s
    · split <;> exact .refl s
  | deleteItem h itemType id =>
    refine keepsHandles_onContainer s h _ fun c d hd => ?_
    split at hd
    · cases hd
      rfl
    · cases hd
  | updateItemValue h itemType id value => exact keepsHandles_onItem s h _ _ _
  | addAttributes h itemType id attributes => exact keepsHandles_onItem s h _ _ _
  | updateAttributes h itemType id attributes => exact keepsHandles_onItem s h _ _ _
  | deleteAttributes h itemType id names => exact keepsHandles_onItem s h _ _ _
  | openSearch h itemType query options =>
    cases hq : Query.parse query with
    | error fault => simpa [answer, openSearch, hq] using KeepsHandles.refl s
    | ok query => simp [Call.takesNumber, hq, Except.toBool] at htakes
  | fetchNextResults search count => exact keepsHandles_fetchNextResults s search count
  | closeSearch search => exact keepsHandles_closeSearch s search

/-! ### The steps that change handles -/

lemma Coherent.allocate {s : Store} (hs : s.Coherent) : s.allocate.2.Coherent where
  opened_iff := hs.opened_iff
  opened_lt h hh := Int.lt_trans (hs.opened_lt h hh) (Int.lt_succ _)
  searches_lt h hh := Int.lt_trans (hs.searches_lt h hh) (Int.lt_succ _)
  apart := hs.apart

/-- A container is opened under a number, or nothing changes. -/
lemma attach_cases (s : Store) (name : String) (number : Int) :
    (∃ e, s.attach name number = (.error e, s)) ∨
      ∃ c, s.containers[name]? = some c ∧ c.openHandle = none ∧
        s.attach name number = (.ok ⟨number⟩,
          { s.put name { c with openHandle := some number } with
            opened := s.opened.insert number name }) := by
  unfold attach
  split
  · exact .inl ⟨_, rfl⟩
  · next c hc =>
    split
    · exact .inl ⟨_, rfl⟩
    · next hopen => exact .inr ⟨c, hc, by simpa using hopen, rfl⟩

/-- A container is closed, or nothing changes. -/
lemma closeContainer_cases (s : Store) (h : Container.Handle) :
    (s.opened[h.number]? = none ∧ s.closeContainer h = (.error (.invalidHandle h.number), s)) ∨
      ∃ name, s.opened[h.number]? = some name ∧
        s.closeContainer h = (.ok (),
          { s with
            opened := s.opened.erase h.number
            containers := s.containers.modify name fun c => { c with openHandle := none } }) := by
  unfold closeContainer
  split
  · next ho => exact .inl ⟨ho, rfl⟩
  · next name ho => exact .inr ⟨name, ho, rfl⟩

/-- A search is opened under a number, or nothing changes. -/
lemma beginSearch_cases (s : Store) (h : Container.Handle) (itemType : String) (query : Query)
    (options : Search.Options) (number : Int) :
    (∃ e, s.resolve h = .error e ∧
        s.beginSearch h itemType query options number = (.error e, s)) ∨
      ∃ name c, s.resolve h = .ok (name, c) ∧
        s.beginSearch h itemType query options number = (.ok ⟨number⟩,
          { s with
            searches := s.searches.insert number
              ⟨(results c itemType query options.itemOptions).length,
                results c itemType query options.itemOptions, options⟩ }) := by
  unfold beginSearch
  split
  · next e hr => exact .inl ⟨e, hr, rfl⟩
  · next name c hr => exact .inr ⟨name, c, hr, rfl⟩

lemma Coherent.attach {s : Store} (hs : s.Coherent) {number : Int} (hlt : number < s.nextHandle)
    (hopened : number ∉ s.opened) (hsearches : number ∉ s.searches) (name : String) :
    (s.attach name number).2.Coherent := by
  rcases s.attach_cases name number with ⟨e, he⟩ | ⟨c, hc, hnone, he⟩
  · rw [he]
    exact hs
  · rw [he]
    have hnot : ∀ n, s.holder n ≠ some number := fun n hn =>
      hopened (by
        rw [Std.ExtTreeMap.mem_iff_isSome_getElem?, (hs.opened_iff number n).2 hn]
        rfl)
    have hholder : s.holder name = none := by simp [holder, hc, hnone]
    refine ⟨fun h n => ?_, fun h hh => ?_, hs.searches_lt, fun h hh => ?_⟩
    · simp only [holder, Std.ExtTreeMap.getElem?_insert, put_containers, Std.compare_eq_iff_eq]
      -- the name is that of the opened container or not, and so is the handle
      by_cases hn : name = n <;> by_cases hh : number = h
      · simp [hn, hh]
      · subst hn
        rw [if_neg hh, if_pos rfl]
        simp [hs.opened_iff, hholder, hh]
      · subst hh
        simpa [hn, holder] using hnot n
      · rw [if_neg hh, if_neg hn]
        exact hs.opened_iff h n
    · rcases Std.ExtTreeMap.mem_insert.1 hh with heq | hh
      · rwa [← Std.compare_eq_iff_eq.1 heq]
      · exact hs.opened_lt h hh
    · rcases Std.ExtTreeMap.mem_insert.1 hh with heq | hh
      · rwa [← Std.compare_eq_iff_eq.1 heq]
      · exact hs.apart h hh

lemma Coherent.closeContainer {s : Store} (hs : s.Coherent) (h : Container.Handle) :
    (s.closeContainer h).2.Coherent := by
  rcases s.closeContainer_cases h with ⟨-, he⟩ | ⟨name, ho, he⟩
  · rw [he]
    exact hs
  · rw [he]
    have hheld : s.holder name = some h.number := (hs.opened_iff _ _).1 ho
    refine ⟨fun k n => ?_, fun k hk => ?_, hs.searches_lt, fun k hk => ?_⟩
    · simp only [holder, Std.ExtTreeMap.getElem?_erase, Std.ExtTreeMap.getElem?_modify,
        Std.compare_eq_iff_eq]
      by_cases hn : name = n
      · subst hn
        have hclosed : (s.containers[name]?.map fun c => { c with openHandle := none }).bind
            Container.openHandle = none := by
          cases s.containers[name]? <;> rfl
        rw [if_pos rfl, hclosed]
        by_cases hk : h.number = k
        · simp [hk]
        · rw [if_neg hk, hs.opened_iff, hheld]
          simp [hk]
      · by_cases hk : h.number = k
        · -- the closed handle was that of one container only
          subst hk
          rw [if_pos rfl, if_neg hn]
          refine iff_of_false (by simp) fun hh => hn ?_
          exact Option.some.inj (ho.symm.trans ((hs.opened_iff _ _).2 hh))
        · rw [if_neg hk, if_neg hn]
          exact hs.opened_iff k n
    · exact hs.opened_lt k (Std.ExtTreeMap.mem_of_mem_erase hk)
    · exact hs.apart k (Std.ExtTreeMap.mem_of_mem_erase hk)

lemma Coherent.beginSearch {s : Store} (hs : s.Coherent) {number : Int}
    (hlt : number < s.nextHandle) (hopened : number ∉ s.opened) (h : Container.Handle)
    (itemType : String) (query : Query) (options : Search.Options) :
    (s.beginSearch h itemType query options number).2.Coherent := by
  rcases s.beginSearch_cases h itemType query options number with
    ⟨e, -, he⟩ | ⟨name, c, -, he⟩
  · rw [he]
    exact hs
  · rw [he]
    refine ⟨hs.opened_iff, hs.opened_lt, fun k hk => ?_, fun k hk hk' => ?_⟩
    · rcases Std.ExtTreeMap.mem_insert.1 hk with heq | hk
      · rwa [← Std.compare_eq_iff_eq.1 heq]
      · exact hs.searches_lt k hk
    · rcases Std.ExtTreeMap.mem_insert.1 hk' with heq | hk'
      · exact hopened (by rwa [Std.compare_eq_iff_eq.1 heq])
      · exact hs.apart k hk hk'

/-- The answer to a call that takes no number leaves the handles in order, and opens
nothing. -/
lemma Coherent.answer {s : Store} (hs : s.Coherent) {call : Call}
    (htakes : call.takesNumber = false) :
    (s.answer call).2.Coherent ∧ (s.answer call).2.nextHandle = s.nextHandle ∧
      (∀ h ∈ (s.answer call).2.opened, h ∈ s.opened) ∧
      ∀ h ∈ (s.answer call).2.searches, h ∈ s.searches := by
  by_cases hclose : ∃ h, call = .closeContainer h
  · obtain ⟨h, rfl⟩ := hclose
    refine ⟨hs.closeContainer h, ?_⟩
    rcases s.closeContainer_cases h with ⟨-, he⟩ | ⟨name, -, he⟩
    · simp [Store.answer, he]
    · simp only [Store.answer, he, true_and]
      exact ⟨fun k hk => Std.ExtTreeMap.mem_of_mem_erase hk, fun k hk => hk⟩
  · have hk := keepsHandles_answer s htakes fun h hh => hclose ⟨h, hh⟩
    exact ⟨hs.of_keepsHandles hk, hk.nextHandle, fun h hh => hk.opened ▸ hh, hk.searches⟩

/-- Concluding a call with a fresh number leaves the handles in order, and opens nothing
but that number. -/
lemma Coherent.conclude {s : Store} (hs : s.Coherent) {number : Int}
    (hlt : number < s.nextHandle) (hopened : number ∉ s.opened) (hsearches : number ∉ s.searches)
    {call : Call} (htakes : call.takesNumber = true) :
    (s.conclude number call).2.Coherent ∧ (s.conclude number call).2.nextHandle = s.nextHandle ∧
      (∀ h ∈ (s.conclude number call).2.opened, h = number ∨ h ∈ s.opened) ∧
      ∀ h ∈ (s.conclude number call).2.searches, h = number ∨ h ∈ s.searches := by
  cases call with
  | openContainer name credentials =>
    refine ⟨hs.attach hlt hopened hsearches name, ?_⟩
    rcases s.attach_cases name number with ⟨e, he⟩ | ⟨c, -, -, he⟩
    · simp only [Store.conclude, he, true_and]
      exact ⟨fun _ => .inr, fun _ => .inr⟩
    · simp only [Store.conclude, he, put_nextHandle, put_searches, true_and]
      exact ⟨fun h hh => (Std.ExtTreeMap.mem_insert.1 hh).imp_left
        fun heq => (Std.compare_eq_iff_eq.1 heq).symm, fun _ => .inr⟩
  | openSearch h itemType text options =>
    cases hq : Query.parse text with
    | error fault => simp [Call.takesNumber, hq, Except.toBool] at htakes
    | ok query =>
      have hc := hs.beginSearch hlt hopened h itemType query options
      rcases s.beginSearch_cases h itemType query options number with
        ⟨e, -, he⟩ | ⟨name, c, -, he⟩
      · simp only [Store.conclude, hq, he, true_and] at hc ⊢
        exact ⟨hc, fun _ => .inr, fun _ => .inr⟩
      · simp only [Store.conclude, hq, he, true_and] at hc ⊢
        exact ⟨hc, fun _ => .inr, fun h hh => (Std.ExtTreeMap.mem_insert.1 hh).imp_left
          fun heq => (Std.compare_eq_iff_eq.1 heq).symm⟩
  | _ => simp [Call.takesNumber] at htakes

end Store

namespace Shared

variable {ι : Type} {s s' : Shared ι}

/-- The handles of a shared store make sense, those included that clients have taken and
not used yet. -/
structure Coherent (s : Shared ι) : Prop where
  /-- The handles of the store make sense. -/
  store : s.store.Coherent
  /-- Numbers that were taken were given out before. -/
  issued_lt : ∀ p ∈ s.issued, p.2 < s.store.nextHandle
  /-- No number was taken twice. -/
  issued_nodup : (s.issued.map Prod.snd).Nodup
  /-- A call that waits has taken its number. -/
  pending_issued : ∀ i call n, s.pending i = some (call, n) → (i, n) ∈ s.issued
  /-- A call that waits is one that takes a number. -/
  pending_takes : ∀ i call n, s.pending i = some (call, n) → call.takesNumber = true
  /-- A number that waits is not in use. -/
  pending_fresh : ∀ i call n, s.pending i = some (call, n) →
    n ∉ s.store.opened ∧ n ∉ s.store.searches

lemma coherent_start {s : Store} (hs : s.Coherent) : (start s : Shared ι).Coherent where
  store := hs
  issued_lt := by simp [start]
  issued_nodup := by simp [start]
  pending_issued := by simp [start]
  pending_takes := by simp [start]
  pending_fresh := by simp [start]

/-- A number was taken by one client only. -/
lemma Coherent.eq_of_issued (hs : s.Coherent) {i j : ι} {n : Int} (hi : (i, n) ∈ s.issued)
    (hj : (j, n) ∈ s.issued) : i = j :=
  congrArg Prod.fst (List.inj_on_of_nodup_map hs.issued_nodup hi hj rfl)

/-- A call that takes no number is answered. -/
lemma Coherent.answer (hs : s.Coherent) {call : Call} (htakes : call.takesNumber = false) :
    ({ s with store := (s.store.answer call).2 } : Shared ι).Coherent := by
  obtain ⟨hc, hnext, ho, hse⟩ := hs.store.answer htakes
  refine ⟨hc, fun p hp => ?_, hs.issued_nodup, hs.pending_issued, hs.pending_takes,
    fun i c n h => ?_⟩
  · simp only [hnext]
    exact hs.issued_lt p hp
  · obtain ⟨h1, h2⟩ := hs.pending_fresh i c n h
    exact ⟨fun hm => h1 (ho n hm), fun hm => h2 (hse n hm)⟩

variable [DecidableEq ι] {e : Event ι} {es : List (Event ι)}

lemma Coherent.take (hs : s.Coherent) {client : ι} {call : Call}
    (htakes : call.takesNumber = true) : (s.take client call).Coherent where
  store := hs.store.allocate
  issued_lt p hp := by
    rcases List.mem_cons.1 hp with rfl | hp
    · exact Int.lt_succ _
    · exact Int.lt_trans (hs.issued_lt p hp) (Int.lt_succ _)
  issued_nodup := by
    simp only [Shared.take, List.map_cons, List.nodup_cons]
    refine ⟨fun hmem => ?_, hs.issued_nodup⟩
    obtain ⟨p, hp, heq⟩ := List.mem_map.1 hmem
    have := hs.issued_lt p hp
    simp only [Store.allocate] at heq
    omega
  pending_issued i c n h := by
    simp only [Shared.take] at h ⊢
    by_cases hi : i = client
    · subst hi
      simp only [Function.update_self, Option.some.injEq, Prod.mk.injEq] at h
      exact List.mem_cons.2 (.inl (by rw [h.2]))
    · rw [Function.update_of_ne hi] at h
      exact List.mem_cons_of_mem _ (hs.pending_issued i c n h)
  pending_takes i c n h := by
    simp only [Shared.take] at h
    by_cases hi : i = client
    · subst hi
      simp only [Function.update_self, Option.some.injEq, Prod.mk.injEq] at h
      rwa [← h.1]
    · rw [Function.update_of_ne hi] at h
      exact hs.pending_takes i c n h
  pending_fresh i c n h := by
    simp only [Shared.take] at h ⊢
    by_cases hi : i = client
    · subst hi
      simp only [Function.update_self, Option.some.injEq, Prod.mk.injEq] at h
      have hn : n = s.store.nextHandle := h.2.symm
      exact ⟨fun hm => absurd (hs.store.opened_lt n hm) (by omega),
        fun hm => absurd (hs.store.searches_lt n hm) (by omega)⟩
    · rw [Function.update_of_ne hi] at h
      exact hs.pending_fresh i c n h

lemma Coherent.conclude (hs : s.Coherent) {client : ι} {call : Call} {number : Int}
    (hp : s.pending client = some (call, number)) :
    (s.conclude client call number).Coherent := by
  have hissued := hs.pending_issued client call number hp
  obtain ⟨hopened, hsearches⟩ := hs.pending_fresh client call number hp
  obtain ⟨hc, hnext, ho, hse⟩ := hs.store.conclude (hs.issued_lt _ hissued) hopened hsearches
    (hs.pending_takes client call number hp)
  -- whoever still waits has waited before
  have hold : ∀ i c n, Function.update s.pending client none i = some (c, n) →
      i ≠ client ∧ s.pending i = some (c, n) := by
    intro i c n h
    by_cases hi : i = client
    · subst hi
      simp at h
    · rw [Function.update_of_ne hi] at h
      exact ⟨hi, h⟩
  refine ⟨hc, fun p hp => ?_, hs.issued_nodup, fun i c n h => ?_, fun i c n h => ?_,
    fun i c n h => ?_⟩
  · simp only [Shared.conclude, hnext]
    exact hs.issued_lt p hp
  · exact hs.pending_issued i c n (hold i c n h).2
  · exact hs.pending_takes i c n (hold i c n h).2
  · obtain ⟨hi, hp'⟩ := hold i c n h
    -- the number of another client is another number
    have hne : n ≠ number := by
      rintro rfl
      exact hi (hs.eq_of_issued (hs.pending_issued i c n hp') hissued)
    obtain ⟨h1, h2⟩ := hs.pending_fresh i c n hp'
    exact ⟨fun hm => (ho n hm).elim hne h1, fun hm => (hse n hm).elim hne h2⟩

/-- Every step leaves the handles in order. -/
lemma Coherent.step (hs : s.Coherent) (h : Step s e s') : s'.Coherent := by
  cases h with
  | took free takes => exact hs.take takes
  | concluded waiting => exact hs.conclude waiting
  | answered free takes => exact hs.answer takes

lemma Coherent.run (hs : s.Coherent) (h : Run s es s') : s'.Coherent := by
  induction h with
  | nil => exact hs
  | snoc _ step ih => exact ih.step step

end Shared

end Soak
