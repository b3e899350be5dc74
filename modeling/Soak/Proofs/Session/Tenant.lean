import Mathlib.Data.Set.Basic
import Soak.Proofs.Longevity.Counters
import Soak.Proofs.Session.Steady

/-!
# Clients with things of their own

A tenant is a client with containers and counters that no other client touches; besides it
has the searches that it opened.  What one tenant may do (`Tenant.KeepsTo`) does not disturb
another one whose things are different (`Tenant.Undisturbed`).

So a tenant knows exactly what it has (`Tenant.Sees`), whatever the others do, and knows
what its calls are answered and what it has afterwards.  The rules at the end say this for
each of its questions; by them a program is followed step by step.
-/

namespace Soak

variable {ι : Type}

/-- A client with the names of its containers and the numbers of its counters. -/
structure Tenant (ι : Type) where
  /-- The client. -/
  client : ι
  /-- The names of its containers, which need not exist. -/
  names : Set String
  /-- The numbers of its counters. -/
  slots : Set Nat

/-- What a client has. -/
structure Holdings where
  /-- Its containers, by name. -/
  container : String → Option Container
  /-- Its counters. -/
  slot : Nat → Option Int
  /-- The search that it has opened, with its number. -/
  search : Option (Int × Search)

namespace Holdings

/-- What a number stands for. -/
def cursor (x : Holdings) (k : Int) : Option Search :=
  x.search.bind fun p => if p.1 = k then some p.2 else none

/-- With another container of a name, or without one. -/
def put (x : Holdings) (name : String) (c : Option Container) : Holdings :=
  { x with container := Function.update x.container name c }

/-- With another value of a counter. -/
def write (x : Holdings) (n : Nat) (v : Int) : Holdings :=
  { x with slot := Function.update x.slot n (some v) }

/-- With another search. -/
def seek (x : Holdings) (search : Option (Int × Search)) : Holdings :=
  { x with search }

variable {x : Holdings} {name : String} {c : Option Container} {n : Nat} {v : Int}
  {search : Option (Int × Search)}

@[simp] lemma put_container_self : (x.put name c).container name = c :=
  Function.update_self _ _ _

lemma put_container_of_ne {m : String} (h : m ≠ name) :
    (x.put name c).container m = x.container m :=
  Function.update_of_ne h _ _

@[simp] lemma put_slot : (x.put name c).slot = x.slot := rfl

@[simp] lemma put_search : (x.put name c).search = x.search := rfl

@[simp] lemma write_container : (x.write n v).container = x.container := rfl

@[simp] lemma write_slot_self : (x.write n v).slot n = some v :=
  Function.update_self _ _ _

lemma write_slot_of_ne {m : Nat} (h : m ≠ n) : (x.write n v).slot m = x.slot m :=
  Function.update_of_ne h _ _

@[simp] lemma write_search : (x.write n v).search = x.search := rfl

@[simp] lemma seek_container : (x.seek search).container = x.container := rfl

@[simp] lemma seek_slot : (x.seek search).slot = x.slot := rfl

@[simp] lemma seek_search : (x.seek search).search = search := rfl

@[simp] lemma seek_seek (other : Option (Int × Search)) :
    (x.seek search).seek other = x.seek other := rfl

lemma seek_self : x.seek x.search = x := rfl

/-- A container may be put once. -/
@[simp] lemma put_put (d : Option Container) : (x.put name c).put name d = x.put name d := by
  simp [put]

lemma put_self (h : x.container name = c) : x.put name c = x := by
  subst h
  simp [put]

lemma write_self (h : x.slot n = some v) : x.write n v = x := by
  simp [write, ← h]

/-- What is written and put again is written and put once. -/
lemma put_write_put (u : Int) (d : Option Container) :
    (((x.write n u).put name c).write n v).put name d = (x.write n v).put name d := by
  simp [put, write]

lemma cursor_of_none (h : x.search = none) (k : Int) : x.cursor k = none := by
  simp [cursor, h]

lemma cursor_self {k : Int} {q : Search} (h : x.search = some (k, q)) : x.cursor k = some q := by
  simp [cursor, h]

lemma cursor_of_ne {k j : Int} {q : Search} (h : x.search = some (k, q)) (hj : j ≠ k) :
    x.cursor j = none := by
  simp [cursor, h, hj.symm]

end Holdings

/-- All that there is, but for searches. -/
def World.holdings (s : World (Shared ι)) : Holdings where
  container name := s.backend.store.containers[name]?
  slot n := s.registry.counters[n]?
  search := none

/-- A client has opened no search that is still open. -/
def World.Quiet (i : ι) (s : World (Shared ι)) : Prop :=
  ∀ k : Int, (i, k) ∈ s.backend.issued → s.backend.store.searches[k]? = none

namespace Tenant

/-- What belongs to a tenant is the same. -/
structure Undisturbed (t : Tenant ι) (s s' : World (Shared ι)) : Prop where
  coherent : s'.backend.Coherent
  slots : ∀ n ∈ t.slots, s'.registry.counters[n]? = s.registry.counters[n]?
  containers : ∀ name ∈ t.names,
    s'.backend.store.containers[name]? = s.backend.store.containers[name]?
  searches : ∀ k : Int, (t.client, k) ∈ s.backend.issued →
    s'.backend.store.searches[k]? = s.backend.store.searches[k]?
  issued : ∀ k : Int, (t.client, k) ∈ s'.backend.issued ↔ (t.client, k) ∈ s.backend.issued

/-- Only what belongs to a tenant has changed, and it has taken no number but new ones. -/
structure KeepsTo (t : Tenant ι) (s s' : World (Shared ι)) : Prop where
  coherent : s'.backend.Coherent
  size : s'.registry.size = s.registry.size
  slots : ∀ n, n ∉ t.slots → s'.registry.counters[n]? = s.registry.counters[n]?
  containers : ∀ name, name ∉ t.names →
    s'.backend.store.containers[name]? = s.backend.store.containers[name]?
  searches : ∀ k : Int, (t.client, k) ∉ s'.backend.issued →
    s'.backend.store.searches[k]? = s.backend.store.searches[k]?
  issued : ∀ p ∈ s.backend.issued, p ∈ s'.backend.issued
  others : ∀ j (k : Int), j ≠ t.client → (j, k) ∈ s'.backend.issued → (j, k) ∈ s.backend.issued
  fresh : ∀ p ∈ s'.backend.issued, p ∈ s.backend.issued ∨ s.backend.store.nextHandle ≤ p.2
  nextHandle : s.backend.store.nextHandle ≤ s'.backend.store.nextHandle

variable {t : Tenant ι} {x y : Holdings} {s s' : World (Shared ι)} {name : String}

lemma Undisturbed.refl (t : Tenant ι) (hs : s.backend.Coherent) : t.Undisturbed s s :=
  ⟨hs, fun _ _ => rfl, fun _ _ => rfl, fun _ _ => rfl, fun _ => .rfl⟩

/-- A step that changes neither the store nor a counter of another one. -/
lemma KeepsTo.of_backend (hs : s.backend.Coherent) (hbackend : s'.backend = s.backend)
    (hsize : s'.registry.size = s.registry.size)
    (hslots : ∀ n, n ∉ t.slots → s'.registry.counters[n]? = s.registry.counters[n]?) :
    t.KeepsTo s s' := by
  refine ⟨hbackend ▸ hs, hsize, hslots, ?_, ?_, ?_, ?_, ?_, ?_⟩ <;> rw [hbackend]
  · exact fun _ _ => rfl
  · exact fun _ _ => rfl
  · exact fun _ h => h
  · exact fun _ _ _ h => h
  · exact fun _ h => .inl h

lemma KeepsTo.refl (t : Tenant ι) (hs : s.backend.Coherent) : t.KeepsTo s s :=
  .of_backend hs rfl rfl fun _ _ => rfl

/-- What one tenant keeps to does not disturb another one. -/
lemma KeepsTo.undisturbed {t' : Tenant ι} (h : t'.KeepsTo s s') (hclient : t.client ≠ t'.client)
    (hnames : ∀ name ∈ t.names, name ∉ t'.names) (hslots : ∀ n ∈ t.slots, n ∉ t'.slots) :
    t.Undisturbed s s' where
  coherent := h.coherent
  slots n hn := h.slots n (hslots n hn)
  containers name hn := h.containers name (hnames name hn)
  searches k hk := h.searches k fun hk' =>
    hclient (h.coherent.eq_of_issued (h.issued _ hk) hk')
  issued k := ⟨h.others _ k hclient, h.issued _⟩

/-- What a tenant has, and no more. -/
structure Sees (t : Tenant ι) (x : Holdings) (s : World (Shared ι)) : Prop where
  coherent : s.backend.Coherent
  containers : ∀ name ∈ t.names, s.backend.store.containers[name]? = x.container name
  slots : ∀ n ∈ t.slots, s.registry.counters[n]? = x.slot n
  searches : ∀ k : Int, (t.client, k) ∈ s.backend.issued →
    s.backend.store.searches[k]? = x.cursor k
  issued : ∀ k q, x.search = some (k, q) → (t.client, k) ∈ s.backend.issued

/-- The duty of a tenant: others leave its things alone, it leaves theirs alone, and the pages
that it reads are as `pages` says, by what it has then. -/
def duty (t : Tenant ι) (pages : Holdings → Except CallError Json → Prop) :
    Duty requests (World (Shared ι)) where
  rely s s' := s.backend.Coherent → t.Undisturbed s s'
  always s := s.backend.Coherent
  pledge m s s' := t.KeepsTo s s' ∧
    ∀ k n a, m = .answered (.call (.fetchNextResults k n)) a → ∃ x, t.Sees x s ∧ pages x a
  panics _ := False

lemma Sees.of_undisturbed (hs : t.Sees x s) (h : t.Undisturbed s s') : t.Sees x s' where
  coherent := h.coherent
  containers name hn := (h.containers name hn).trans (hs.containers name hn)
  slots n hn := (h.slots n hn).trans (hs.slots n hn)
  searches k hk := by
    have hk' := (h.issued k).1 hk
    exact (h.searches k hk').trans (hs.searches k hk')
  issued k q hk := (h.issued k).2 (hs.issued k q hk)

/-- A tenant without a search. -/
lemma sees_of_quiet (t : Tenant ι) (hs : s.backend.Coherent) (hquiet : s.Quiet t.client) :
    t.Sees s.holdings s where
  coherent := hs
  containers _ _ := rfl
  slots _ _ := rfl
  searches k hk := (hquiet k hk).trans (Holdings.cursor_of_none rfl k).symm
  issued _ _ hk := nomatch hk

lemma Sees.quiet (hs : t.Sees x s) (hnone : x.search = none) : s.Quiet t.client :=
  fun k hk => (hs.searches k hk).trans (Holdings.cursor_of_none hnone k)

lemma stable_sees (t : Tenant ι) (pages : Holdings → Except CallError Json → Prop) (x : Holdings) :
    (t.duty pages).Stable (t.Sees x) where
  always _ hs := hs.coherent
  rely _ _ hs hr := hs.of_undisturbed (hr hs.coherent)

/-- The search that a tenant has opened. -/
lemma Sees.cursor (hs : t.Sees x s) {k : Int} {q : Search} (hq : x.search = some (k, q)) :
    s.backend.store.searches[k]? = some q :=
  (hs.searches k (hs.issued k q hq)).trans (Holdings.cursor_self hq)

/-- The container that a call of a tenant is about. -/
structure About (x : Holdings) (c : Call) (name : String) : Prop where
  byName : ∀ m, c.containerName? = some m → m = name
  byHandle : ∀ h, c.containerHandle? = some h →
    ∃ d, x.container name = some d ∧ d.openHandle = some h.number

lemma About.subject {c : Call} (h : About x c name) (hs : t.Sees x s) (hname : name ∈ t.names)
    {m : String} (hm : s.backend.store.subject c = some m) : m = name := by
  rw [Store.subject, Option.or_eq_some_iff] at hm
  rcases hm with hm | ⟨-, hm⟩
  · exact h.byName m hm
  · obtain ⟨k, hk, hopened⟩ := Option.bind_eq_some_iff.1 hm
    obtain ⟨d, hd, hh⟩ := h.byHandle k hk
    have hc := (hs.containers name hname).trans hd
    exact Option.some.inj (hopened.symm.trans (hs.coherent.store.opened_of_handle hc hh))

/-- A call that names the container. -/
lemma about_of_name {c : Call} (hname : c.containerName? = some name)
    (hhandle : c.containerHandle? = none) : About x c name where
  byName m hm := Option.some.inj (hm.symm.trans hname)
  byHandle h hh := by
    rw [hhandle] at hh
    cases hh

/-- A call with the handle of the container. -/
lemma about_of_handle {c : Call} {h : Container.Handle} {d : Container}
    (hname : c.containerName? = none) (hhandle : c.containerHandle? = some h)
    (hd : x.container name = some d) (hh : d.openHandle = some h.number) : About x c name where
  byName m hm := by
    rw [hname] at hm
    cases hm
  byHandle h' hh' := by
    obtain rfl : h = h' := Option.some.inj (hhandle.symm.trans hh')
    exact ⟨d, hd, hh⟩

variable [DecidableEq ι]

/-- Taking a number changes nothing that a tenant has. -/
lemma Sees.took (hs : t.Sees x s) {c : Call} {number : Int} {b : Shared ι}
    (step : s.backend.Step (.took t.client c number) b) :
    t.KeepsTo s { s with backend := b } ∧ t.Sees x { s with backend := b } := by
  have hb := hs.coherent.step step
  cases step with
  | took free takes =>
    have hnext : s.backend.store.nextHandle ∉ s.backend.store.searches := fun hmem =>
      absurd (hs.coherent.store.searches_lt _ hmem) (Int.lt_irrefl _)
    constructor
    · refine ⟨hb, rfl, fun _ _ => rfl, fun _ _ => rfl, fun _ _ => rfl,
        fun p hp => List.mem_cons_of_mem _ hp, fun j k hj hk => ?_, fun p hp => ?_,
        Int.le_of_lt (Int.lt_succ _)⟩
      · rcases List.mem_cons.1 hk with heq | hk
        · exact absurd (congrArg Prod.fst heq) hj
        · exact hk
      · rcases List.mem_cons.1 hp with rfl | hp
        · exact .inr (Int.le_refl _)
        · exact .inl hp
    · refine ⟨hb, hs.containers, hs.slots, fun k hk => ?_,
        fun k q hk => List.mem_cons_of_mem _ (hs.issued k q hk)⟩
      rcases List.mem_cons.1 hk with heq | hk
      · -- the number stands for nothing yet
        obtain rfl : k = s.backend.store.nextHandle := congrArg Prod.snd heq
        show s.backend.store.searches[s.backend.store.nextHandle]? = _
        rw [getElem?_neg _ _ hnext]
        cases hsearch : x.search with
        | none => rw [Holdings.cursor_of_none hsearch]
        | some p =>
          have hlt := hs.coherent.issued_lt _ (hs.issued p.1 p.2 hsearch)
          rw [Holdings.cursor_of_ne (k := p.1) (q := p.2) hsearch (by omega)]
      · exact hs.searches k hk

/-- An answer changes the container that the call is about and the search of the tenant. -/
lemma Sees.answered (hs : t.Sees x s) {c : Call} {a : c.Answer} {b : Shared ι}
    (step : s.backend.Step (.answered t.client c a) b)
    (hsubject : ∀ m, s.backend.store.subject c = some m → m ∈ t.names)
    (hown : ∀ k, c.searchHandle? = some k → (t.client, k.number) ∈ s.backend.issued)
    (hcontainers : ∀ m ∈ t.names, b.store.containers[m]? = y.container m)
    (hslot : y.slot = x.slot)
    (hsearches : ∀ k : Int, (t.client, k) ∈ s.backend.issued →
      b.store.searches[k]? = y.cursor k)
    (hissued : ∀ k q, y.search = some (k, q) → (t.client, k) ∈ s.backend.issued) :
    t.KeepsTo s { s with backend := b } ∧ t.Sees y { s with backend := b } := by
  have hb := hs.coherent.step step
  have hspares := step.spares_answered hs.coherent hown
  obtain ⟨hnumbers, hnext⟩ : b.issued = s.backend.issued ∧
      b.store.nextHandle = s.backend.store.nextHandle := by
    cases step with
    | @concluded _ _ number waiting =>
      obtain ⟨hopened, hfree⟩ := hs.coherent.pending_fresh _ _ _ waiting
      exact ⟨rfl, (hs.coherent.store.conclude (hs.coherent.issued_lt _
        (hs.coherent.pending_issued _ _ _ waiting)) hopened hfree
        (hs.coherent.pending_takes _ _ _ waiting)).2.1⟩
    | answered free takes => exact ⟨rfl, (hs.coherent.store.answer takes).2.1⟩
  constructor
  · exact ⟨hb, rfl, fun _ _ => rfl,
      fun m hm => hspares.containers m fun heq => hm (hsubject m heq), hspares.searches,
      hspares.issued, fun j k _ hk => hnumbers ▸ hk, fun p hp => .inl (hnumbers ▸ hp),
      Int.le_of_eq hnext.symm⟩
  · refine ⟨hb, hcontainers, fun n hn => ?_, fun k hk => hsearches k (hnumbers ▸ hk),
      fun k q hk => ?_⟩
    · rw [hslot]
      exact hs.slots n hn
    · show (t.client, k) ∈ b.issued
      rw [hnumbers]
      exact hissued k q hk

end Tenant

end Soak
