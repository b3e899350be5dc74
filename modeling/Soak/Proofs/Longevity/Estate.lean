import Soak.Proofs.Longevity.Accounts
import Soak.Proofs.Longevity.Counters
import Soak.Proofs.Longevity.Outline
import Soak.Proofs.Session.Faulty

/-!
# What belongs to a worker

The counters of a worker's share, the containers with the names of these counters, the
searches that it opened and the calls of its that failed are its estate: no other worker
changes them (`Estate.Undisturbed`), and it changes nothing else (`Estate.KeepsTo`).

During an iteration a worker sees one counter, one container and one search of its estate;
`Estate.Scene` says how they are, and that all others are settled.  Assertions about what
it sees are stable, and `Estate.calls_at` says how a call changes them.
-/

namespace Soak

variable {ι : Type}

/-- The share of a worker, with the names and the bounds that all workers have in common. -/
structure Estate (ι : Type) where
  /-- The worker. -/
  thread : ι
  /-- The names in the store. -/
  backend : Config.Backend
  /-- The share. -/
  view : Partition
  /-- The highest counter. -/
  top : Int
  /-- The number of all containers. -/
  total : Nat

namespace Estate

/-- The name of a container. -/
def name (e : Estate ι) (n : Nat) : String :=
  Naming.container e.backend.containerPrefix n

lemma name_ne_empty (e : Estate ι) (n : Nat) : e.name n ≠ "" :=
  Naming.container_ne_empty _ n

/-- A container of a store, if it exists. -/
def container (e : Estate ι) (s : World (Faulty ι)) (n : Nat) : Option Container :=
  s.backend.shared.store.containers[e.name n]?

/-- What belongs to a worker is the same. -/
structure Undisturbed (e : Estate ι) (s s' : World (Faulty ι)) : Prop where
  coherent : s'.backend.shared.Coherent
  size : s'.registry.size = s.registry.size
  slots : ∀ n, e.view.contains n = true → s'.registry.counters[n]? = s.registry.counters[n]?
  containers : ∀ n, e.view.contains n = true → e.container s' n = e.container s n
  searches : ∀ k : Int, (e.thread, k) ∈ s.backend.shared.issued →
    (e.thread, k) ∈ s'.backend.shared.issued ∧
    s'.backend.shared.store.searches[k]? = s.backend.shared.store.searches[k]?
  failures : s'.backend.failures e.thread = s.backend.failures e.thread

/-- Only what belongs to a worker has changed. -/
structure KeepsTo (e : Estate ι) (s s' : World (Faulty ι)) : Prop where
  coherent : s.backend.shared.Coherent → s'.backend.shared.Coherent
  size : s'.registry.size = s.registry.size
  slots : ∀ n, e.view.contains n = false → s'.registry.counters[n]? = s.registry.counters[n]?
  spares : ∃ name, (∀ m, name = some m → ∃ n, e.view.contains n = true ∧ m = e.name n) ∧
    Shared.Spares e.thread name s.backend.shared s'.backend.shared
  failures : ∀ j, j ≠ e.thread → s'.backend.failures j = s.backend.failures j

lemma KeepsTo.refl (e : Estate ι) (s : World (Faulty ι)) : KeepsTo e s s where
  coherent h := h
  size := rfl
  slots _ _ := rfl
  spares := ⟨none, by simp, fun _ _ => rfl, fun _ _ => rfl, fun _ h => h⟩
  failures _ _ := rfl

/-- What one worker keeps to does not disturb another one. -/
lemma KeepsTo.undisturbed {e e' : Estate ι} {s s' : World (Faulty ι)} (h : KeepsTo e' s s')
    (hthread : e.thread ≠ e'.thread) (hbackend : e.backend = e'.backend)
    (hapart : ∀ n, e.view.contains n = true → e'.view.contains n = false)
    (hs : s.backend.shared.Coherent) : Undisturbed e s s' where
  coherent := h.coherent hs
  size := h.size
  slots n hn := h.slots n (hapart n hn)
  containers n hn := by
    obtain ⟨changed, hchanged, hspares⟩ := h.spares
    refine hspares.containers _ fun heq => ?_
    obtain ⟨m, hm, hnm⟩ := hchanged _ heq
    rw [Estate.name, Estate.name, hbackend, Naming.container_inj] at hnm
    rw [← hnm, hapart n hn] at hm
    cases hm
  searches k hk := by
    obtain ⟨name, -, hspares⟩ := h.spares
    have hk' := hspares.issued _ hk
    exact ⟨hk', hspares.searches k fun hother =>
      hthread ((h.coherent hs).eq_of_issued hk' hother)⟩
  failures := h.failures _ hthread

/-- A counter is not above the highest one and tells the truth about its container. -/
def Truthful (e : Estate ι) (s : World (Faulty ι)) (n : Nat) : Prop :=
  ∃ v, s.registry.counters[n]? = some v ∧ v ≤ e.top ∧ Accounts e.backend v (e.container s n)

/-- A counter tells the truth, and the container is open only if it was left so. -/
def Settled (e : Estate ι) (leftOpen : Nat → Prop) (s : World (Faulty ι)) (n : Nat) : Prop :=
  e.Truthful s n ∧ ((∃ c, e.container s n = some c ∧ c.openHandle.isSome) ↔ leftOpen n)

lemma Undisturbed.truthful {e : Estate ι} {s s' : World (Faulty ι)} {n : Nat}
    (h : e.Undisturbed s s') (hn : e.view.contains n = true) (hs : e.Truthful s n) :
    e.Truthful s' n := by
  unfold Truthful
  rwa [h.slots n hn, h.containers n hn]

lemma Undisturbed.settled {e : Estate ι} {leftOpen : Nat → Prop} {s s' : World (Faulty ι)}
    {n : Nat} (h : e.Undisturbed s s') (hn : e.view.contains n = true)
    (hs : e.Settled leftOpen s n) : e.Settled leftOpen s' n := by
  refine ⟨h.truthful hn hs.1, ?_⟩
  rw [h.containers n hn]
  exact hs.2

/-- The duty of a worker in an iteration on a container: others leave its estate alone, it
leaves that of others alone, all its other counters tell the truth, and it never logs that
numbers of items differ. -/
def duty (e : Estate ι) (n : Nat) : Duty requests (World (Faulty ι)) where
  rely s s' := s.backend.shared.Coherent → Undisturbed e s s'
  always s := s.backend.shared.Coherent ∧ s.registry.size = e.total ∧
    ∀ m, e.view.contains m = true → m ≠ n → e.Truthful s m
  pledge m s s' := KeepsTo e s s' ∧
    ∀ entry a, m = .answered (.log entry) a → entry.message ≠ Worker.mismatch
  panics _ := False

/-! ### What a worker sees -/

/-- What a worker sees in an iteration. -/
structure Sight where
  /-- The counter of its container. -/
  slot : Int
  /-- The container, if it exists. -/
  container : Option Container
  /-- A search that it opened, with its number. -/
  search : Option (Int × Search)
  /-- The calls of its that have failed. -/
  failures : List Call

/-- What a worker sees is there, and all else of its estate is settled. -/
structure Scene (e : Estate ι) (n : Nat) (leftOpen : Nat → Prop) (x : Sight)
    (s : World (Faulty ι)) : Prop where
  coherent : s.backend.shared.Coherent
  size : s.registry.size = e.total
  rest : ∀ m, e.view.contains m = true → m ≠ n → e.Settled leftOpen s m
  slot : s.registry.counters[n]? = some x.slot
  container : e.container s n = x.container
  search : ∀ k q, x.search = some (k, q) → (e.thread, k) ∈ s.backend.shared.issued ∧
    s.backend.shared.store.searches[k]? = some q
  failures : s.backend.failures e.thread = x.failures

/-- What a worker sees is as `Φ` says. -/
def At (e : Estate ι) (n : Nat) (leftOpen : Nat → Prop) (Φ : Sight → Prop)
    (s : World (Faulty ι)) : Prop :=
  ∃ x, Φ x ∧ e.Scene n leftOpen x s

variable {e : Estate ι} {n : Nat} {leftOpen : Nat → Prop} {x : Sight} {s s' : World (Faulty ι)}

lemma Scene.of_undisturbed (hs : e.Scene n leftOpen x s) (hn : e.view.contains n = true)
    (h : e.Undisturbed s s') : e.Scene n leftOpen x s' where
  coherent := h.coherent
  size := h.size.trans hs.size
  rest m hm hne := h.settled hm (hs.rest m hm hne)
  slot := (h.slots n hn).trans hs.slot
  container := (h.containers n hn).trans hs.container
  search k q hk := by
    obtain ⟨h1, h2⟩ := hs.search k q hk
    obtain ⟨h3, h4⟩ := h.searches k h1
    exact ⟨h3, h4.trans h2⟩
  failures := h.failures.trans hs.failures

lemma Scene.always (hs : e.Scene n leftOpen x s) : (e.duty n).always s :=
  ⟨hs.coherent, hs.size, fun m hm hne => (hs.rest m hm hne).1⟩

lemma stable_at (hn : e.view.contains n = true) (Φ : Sight → Prop) :
    (e.duty n).Stable (e.At n leftOpen Φ) where
  always _ hs := by
    obtain ⟨x, -, hx⟩ := hs
    exact hx.always
  rely _ _ hs hr := by
    obtain ⟨x, hΦ, hx⟩ := hs
    exact ⟨x, hΦ, hx.of_undisturbed hn (hr hx.coherent)⟩

/-- A call is about the container and the search that the worker sees. -/
structure Covers (e : Estate ι) (n : Nat) (x : Sight) (c : Call) : Prop where
  byName : ∀ name, c.containerName? = some name → name = e.name n
  byHandle : ∀ h, c.containerHandle? = some h →
    ∃ d, x.container = some d ∧ d.openHandle = some h.number
  bySearch : ∀ k, c.searchHandle? = some k → ∃ q, x.search = some (k.number, q)

lemma Covers.subject {c : Call} (h : Covers e n x c) (hs : e.Scene n leftOpen x s) {name : String}
    (hname : s.backend.shared.store.subject c = some name) : name = e.name n := by
  rw [Store.subject, Option.or_eq_some_iff] at hname
  rcases hname with hname | ⟨-, hname⟩
  · exact h.byName name hname
  · obtain ⟨k, hk, hopened⟩ := Option.bind_eq_some_iff.1 hname
    obtain ⟨d, hd, hh⟩ := h.byHandle k hk
    have hc : s.backend.shared.store.containers[e.name n]? = some d := hs.container.trans hd
    exact Option.some.inj (hopened.symm.trans (hs.coherent.store.opened_of_handle hc hh))

/-- The worker writes the counter that it sees. -/
lemma Scene.write (hs : e.Scene n leftOpen x s) (hn : e.view.contains n = true) (v : Int) :
    ∃ r, s.registry.viewSet e.view n v = .ok r ∧
      (e.duty n).pledge (.answered (.writeSlot e.view n v) (.ok ())) s { s with registry := r } ∧
      e.Scene n leftOpen { x with slot := v } { s with registry := r } := by
  obtain ⟨hlt, -⟩ := Array.getElem?_eq_some_iff.1 hs.slot
  have hother : ∀ m, m ≠ n → (s.registry.write n v).counters[m]? = s.registry.counters[m]? :=
    fun m hm => Registry.counters_write_of_ne hm
  have hkeeps : e.KeepsTo s { s with registry := s.registry.write n v } :=
    { KeepsTo.refl e s with
      size := Registry.size_write
      slots := fun m hm => hother m fun heq => by
        rw [heq, hn] at hm
        cases hm }
  refine ⟨_, Registry.viewSet_eq hn hlt, ⟨hkeeps, by simp⟩, hs.coherent, ?_, fun m hm hne => ?_,
    Registry.counters_write_self hlt, hs.container, hs.search, hs.failures⟩
  · exact Registry.size_write.trans hs.size
  · have h := hs.rest m hm hne
    unfold Settled Truthful at h ⊢
    rw [← hother m hne] at h
    exact h

/-- A step of the store that is about what the worker sees leaves the rest as it was. -/
lemma Scene.of_step (hs : e.Scene n leftOpen x s) (hn : e.view.contains n = true)
    {t : Shared ι} {name : Option String} (ht : t.Coherent)
    (hname : ∀ m, name = some m → m = e.name n)
    (hspares : Shared.Spares e.thread name s.backend.shared t) {y : Sight}
    (hslot : y.slot = x.slot) (hfailures : y.failures = x.failures)
    (hcontainer : t.store.containers[e.name n]? = y.container)
    (hsearch : ∀ k q, y.search = some (k, q) → (e.thread, k) ∈ t.issued ∧
      t.store.searches[k]? = some q) :
    e.KeepsTo s { s with backend := { s.backend with shared := t } } ∧
      e.Scene n leftOpen y { s with backend := { s.backend with shared := t } } := by
  -- the other containers of the worker have other names
  have hother : ∀ m, m ≠ n → t.store.containers[e.name m]? = e.container s m := by
    intro m hne
    refine hspares.containers _ fun heq => hne ?_
    have := hname _ heq
    rwa [Estate.name, Estate.name, Naming.container_inj] at this
  constructor
  · refine ⟨fun _ => ht, rfl, fun _ _ => rfl, ⟨name, fun m hm => ⟨n, hn, hname m hm⟩, hspares⟩,
      fun _ _ => rfl⟩
  · refine ⟨ht, hs.size, fun m hm hne => ?_, ?_, hcontainer, hsearch, ?_⟩
    · have h := hs.rest m hm hne
      unfold Settled Truthful at h ⊢
      rw [← hother m hne] at h
      exact h
    · rw [hslot]
      exact hs.slot
    · rw [hfailures]
      exact hs.failures

variable [DecidableEq ι]

/-- **How a call changes what a worker sees.**  The call is about what the worker sees; it
is answered by the store, or it fails and is written down. -/
lemma calls_at (hn : e.view.contains n = true) {Φ : Sight → Prop} {c : Call}
    {K : c.Answer → World (Faulty ι) → Prop} (hcovers : ∀ x, Φ x → Covers e n x c)
    (hanswer : ∀ x s a t, Φ x → e.Scene n leftOpen x s →
      Shared.Step s.backend.shared (.answered e.thread c a) t →
      ∃ y : Sight, y.slot = x.slot ∧ y.failures = x.failures ∧
        t.store.containers[e.name n]? = y.container ∧
        (∀ k q, y.search = some (k, q) → (e.thread, k) ∈ t.issued ∧
          t.store.searches[k]? = some q) ∧
        ∀ s', e.Scene n leftOpen y s' → K a s')
    (hfail : ∀ x err s', Φ x → e.Scene n leftOpen { x with failures := c :: x.failures } s' →
      K (.error err) s') :
    Calls (Faulty.service ι) e.thread (e.duty n) (e.At n leftOpen Φ) c K where
  stable := stable_at hn Φ
  prepared s b hs hb := by
    obtain ⟨x, hΦ, hx⟩ := hs
    cases hb with
    | took step =>
      -- a number is taken, and the worker sees the same as before
      have ht := hx.coherent.step step
      have hspares := step.spares_took
      cases step with
      | took free takes =>
        obtain ⟨hkeeps, hscene⟩ := hx.of_step hn ht (by simp) hspares rfl rfl hx.container
          fun k q hk => ⟨hspares.issued _ (hx.search k q hk).1, (hx.search k q hk).2⟩
        exact ⟨⟨hkeeps, by simp⟩, x, hΦ, hscene⟩
  answered a s b hs hb := by
    obtain ⟨x, hΦ, hx⟩ := hs
    cases hb with
    | @answered _ t _ step =>
      obtain ⟨y, hslot, hfailures, hcontainer, hsearch, hK⟩ := hanswer x s a t hΦ hx step
      have hspares := step.spares_answered hx.coherent fun k hk => by
        obtain ⟨q, hq⟩ := (hcovers x hΦ).bySearch k hk
        exact (hx.search _ q hq).1
      obtain ⟨hkeeps, hscene⟩ := hx.of_step hn (hx.coherent.step step)
        (fun m hm => (hcovers x hΦ).subject hx hm) hspares hslot hfailures hcontainer hsearch
      exact ⟨⟨hkeeps, by simp⟩, hK _ hscene⟩
    | failed free err =>
      -- the call has no effect but that its failure is written down
      have hkeeps : e.KeepsTo s { s with backend := { s.backend with
          failures := Function.update s.backend.failures e.thread
            (c :: s.backend.failures e.thread) } } :=
        { KeepsTo.refl e s with failures := fun j hj => Function.update_of_ne hj _ _ }
      refine ⟨⟨hkeeps, by simp⟩, hfail x err _ hΦ ⟨hx.coherent, hx.size, hx.rest, hx.slot,
        hx.container, hx.search, ?_⟩⟩
      simp [hx.failures]

end Estate

end Soak
