import Soak.Proofs.Longevity.Counters
import Soak.Proofs.Longevity.Crew
import Soak.Proofs.Session.World

/-!
# The outline of an iteration

An iteration of a worker passes few points at which something can be said: its container
is absent, was created, is closed, is open, is searched, was counted, and the iteration is
finished.  An `Outline` has an assertion for each of them, and `Outline.Valid` lists what
every single question of the iteration has to do to these assertions, with the counters
that the policy lets it reach.  `Outline.Valid.iterate` follows the iteration through all
its branches once, so that whoever wants to know something of iterations only has to say
what each call does.
-/

namespace Soak

variable {ι τ α : Type}

/-- A call that is made where `J` holds keeps to the duty and leads to `K`. -/
structure Calls (S : Service ι τ) (i : ι) (d : Duty requests (World τ)) (J : World τ → Prop)
    (c : Call) (K : c.Answer → World τ → Prop) : Prop where
  stable : d.Stable J
  prepared : ∀ s b, J s → S.prepares i c s.backend b →
    d.pledge (.prepared (.call c)) s { s with backend := b } ∧ J { s with backend := b }
  answered : ∀ a s b, J s → S.answers i c a s.backend b →
    d.pledge (.answered (.call c) a) s { s with backend := b } ∧ K a { s with backend := b }

lemma Calls.fulfils {S : Service ι τ} {i : ι} {d : Duty requests (World τ)} {J : World τ → Prop}
    {c : Call} {K : c.Answer → World τ → Prop} {next : c.Answer → Job α}
    {Q : α → World τ → Prop} {s : World τ} (h : Calls S i d J c K) (hs : J s)
    (hnext : ∀ a s, K a s → (next a).Fulfils (World.moves S i) d Q s) :
    (Job.call c >>= next).Fulfils (World.moves S i) d Q s := by
  refine World.fulfils_call J h.stable hs h.prepared fun a s b hJ hb => ?_
  obtain ⟨hp, hK⟩ := h.answered a s b hJ hb
  exact ⟨hp, hnext a _ hK⟩

/-- What holds after a call that may fail: the one thing if it succeeds, else the other. -/
def Outcome {σ : Type} (success : α → σ → Prop) (failure : σ → Prop) :
    Except CallError α → σ → Prop
  | .ok a => success a
  | .error _ => failure

namespace Worker

/-- The message that the number of items in the store is not the one expected. -/
def mismatch : String :=
  "Backend item count does not match local counter"

/-- Assertions for the points of an iteration. -/
structure Outline (τ : Type) where
  /-- The counter says that the container does not exist. -/
  absent : World τ → Prop
  /-- The container was created, and its counter still says that it does not exist. -/
  created : World τ → Prop
  /-- The container has a counter and is not opened yet. -/
  closed : (counter : Int) → World τ → Prop
  /-- The container is open; its items were changed to a number that its counter may not
  show yet. -/
  opened : Container.Handle → (counter items : Int) → World τ → Prop
  /-- A search is open. -/
  searching : Container.Handle → (counter : Int) → Search.Handle → World τ → Prop
  /-- Its results were asked for. -/
  fetched : Container.Handle → (counter : Int) → Search.Handle → Except CallError Json →
    World τ → Prop
  /-- The search is over. -/
  read : Container.Handle → (counter : Int) → Except CallError Json → World τ → Prop
  /-- The items were counted, if the store told their number. -/
  counted : Container.Handle → (counter : Int) → Option Nat → World τ → Prop
  /-- The iteration is over. -/
  finished : Iteration → World τ → Prop

/-- What the questions of an iteration of a worker on a container have to do. -/
structure Outline.Valid (O : Outline τ) (S : Service ι τ) (i : ι) (d : Duty requests (World τ))
    (w : Worker) (n : Nat) : Prop where
  /-- Nothing is wrong with reading the clock. -/
  clock : ∀ now s, d.pledge (.answered .clock now) s s
  /-- Nothing is wrong with reading the counter. -/
  slot : ∀ a s, d.pledge (.answered (.readSlot w.view n) a) s s
  /-- Nothing is wrong with logging, except that numbers of items differ. -/
  log : ∀ (e : Log.Entry) s, e.message ≠ mismatch → d.pledge (.answered (.log e) ()) s s
  absent : ∀ s, O.absent s → s.registry.viewGet w.view n = .ok Registry.absent
  create : Calls S i d O.absent
    (.createContainer (Naming.container w.backend.containerPrefix n) w.backend.storageType
      w.backend.storageConfig w.backend.credentials)
    (Outcome (fun _ => O.created) (O.finished (.createFailed n)))
  created : d.Stable O.created
  enter : ∀ s, O.created s → ∃ r, s.registry.viewSet w.view n 0 = .ok r ∧
    d.pledge (.answered (.writeSlot w.view n 0) (.ok ())) s { s with registry := r } ∧
    O.closed 0 { s with registry := r }
  closed : ∀ v s, O.closed v s → 0 ≤ v ∧ s.registry.viewGet w.view n = .ok v
  opening : ∀ v, Calls S i d (O.closed v)
    (.openContainer (Naming.container w.backend.containerPrefix n) w.backend.credentials)
    (Outcome (fun h => O.opened h v v) (O.finished (.openFailed n)))
  opened : ∀ h v x, d.Stable (O.opened h v x)
  add : ∀ h v value, 0 ≤ v → v < w.policy.ceiling → Calls S i d (O.opened h v v)
    (.addItem h w.backend.itemType (Naming.lifecycleItem w.backend.itemIdPrefix (v + 1)) value
      (.ofPairs [("container", Naming.container w.backend.containerPrefix n)]))
    (Outcome (fun _ => O.opened h v (v + 1)) (O.opened h v v))
  delete : ∀ h v, 0 < v → Calls S i d (O.opened h v v)
    (.deleteItem h w.backend.itemType (Naming.lifecycleItem w.backend.itemIdPrefix v))
    (Outcome (fun _ => O.opened h v (v - 1)) (O.opened h v v))
  write : ∀ h v x s, O.opened h v x s → 0 ≤ v → v - 1 ≤ x → x ≤ v + 1 → 0 ≤ x →
    (v ≤ w.policy.ceiling → x ≤ w.policy.ceiling) →
    ∃ r, s.registry.viewSet w.view n x = .ok r ∧
      d.pledge (.answered (.writeSlot w.view n x) (.ok ())) s { s with registry := r } ∧
      O.opened h x x { s with registry := r }
  get : ∀ h v id options, Calls S i d (O.opened h v v) (.getItem h w.backend.itemType id options)
    fun _ => O.opened h v v
  update : ∀ h v id value, Calls S i d (O.opened h v v)
    (.updateItemValue h w.backend.itemType id value) fun _ => O.opened h v v
  search : ∀ h v, Calls S i d (O.opened h v v)
    (.openSearch h w.backend.itemType "\x7b\x7d" .all)
    (Outcome (fun k => O.searching h v k) (O.counted h v none))
  fetch : ∀ h v k, Calls S i d (O.searching h v k) (.fetchNextResults k pageSize)
    fun page => O.fetched h v k page
  endSearch : ∀ h v k page, Calls S i d (O.fetched h v k page) (.closeSearch k)
    fun _ => O.read h v page
  read : ∀ h v page, d.Stable (O.read h v page)
  unread : ∀ h v e s, O.read h v (.error e) s → O.counted h v none s
  uncounted : ∀ h v page s, O.read h v (.ok page) s →
    (∀ actual records, Search.Page.decode page ≠ .ok ⟨some actual, records⟩) →
    O.counted h v none s
  count : ∀ h v page actual records s, O.read h v (.ok page) s →
    Search.Page.decode page = .ok ⟨some actual, records⟩ →
    O.counted h v (some actual) s ∧
      (Int.bmod actual (2 ^ 64) ≠ v → ∀ e, d.pledge (.answered (.log e) ()) s s)
  closing : ∀ h v reported before, Calls S i d (O.counted h v reported) (.closeContainer h)
    (Outcome (fun _ => O.finished (.completed n before v reported))
      (O.finished (.closeFailed n before v)))
  finished : ∀ it, d.Stable (O.finished it)

namespace Outline.Valid

variable {O : Outline τ} {S : Service ι τ} {i : ι} {d : Duty requests (World τ)} {w : Worker}
  {n : Nat} {s : World τ} {Q : α → World τ → Prop} {next : Unit → Job α} {J : World τ → Prop}
  {handle : Container.Handle} {v : Int}

/-- Logging that a call failed disturbs nothing. -/
lemma logFailed (hO : O.Valid S i d w n) (rng : Generator) {message : String}
    (hne : message ≠ mismatch) (container : String) (fields : List (String × String))
    (e : CallError) (hst : d.Stable J) (hs : J s)
    (hnext : ∀ s, J s → (next ()).Fulfils (World.moves S i) d Q s) :
    (({ w with rng } : Worker).logFailed message container fields e >>= next).Fulfils
      (World.moves S i) d Q s :=
  World.fulfils_log J hst hs (fun s _ => hO.log _ s hne) hnext

/-- Logging a warning disturbs nothing. -/
lemma logWarning (hO : O.Valid S i d w n) {message : String} (hne : message ≠ mismatch)
    (fields : List (String × String)) (hst : d.Stable J) (hs : J s)
    (hnext : ∀ s, J s → (next ()).Fulfils (World.moves S i) d Q s) :
    (Job.logWarning message fields >>= next).Fulfils (World.moves S i) d Q s :=
  World.fulfils_log J hst hs (fun s _ => hO.log _ s hne) hnext

/-- Adding an item changes the number of items by one or not at all. -/
lemma addItem (hO : O.Valid S i d w n) (rng : Generator) (hv : 0 ≤ v)
    (htop : v < w.policy.ceiling) (hs : O.opened handle v v s) :
    (({ w with rng } : Worker).addItem handle (Naming.container w.backend.containerPrefix n)
        v).Fulfils (World.moves S i) d
      (fun r s => O.opened handle v r.1 s ∧ (r.1 = v ∨ r.1 = v + 1)) s := by
  unfold Worker.addItem
  cases ({ w with rng } : Worker).rng.alphanumeric valueLength with
  | mk value g =>
    refine (hO.add handle v value hv htop).fulfils hs fun a s ha => ?_
    cases a with
    | ok u =>
      exact Program.fulfils_pure _ (hO.opened handle v (v + 1)) ha fun s hs => ⟨hs, .inr rfl⟩
    | error e =>
      refine hO.logFailed rng (by simp [mismatch]) _ _ e (hO.opened _ _ _) ha fun s hs => ?_
      exact Program.fulfils_pure _ (hO.opened handle v v) hs fun s hs => ⟨hs, .inl rfl⟩

/-- Deleting an item changes the number of items by one or not at all. -/
lemma deleteItem (hO : O.Valid S i d w n) (rng : Generator) (hv : 0 < v)
    (hs : O.opened handle v v s) :
    (({ w with rng } : Worker).deleteItem handle (Naming.container w.backend.containerPrefix n)
        v).Fulfils (World.moves S i) d
      (fun x s => O.opened handle v x s ∧ (x = v ∨ x = v - 1)) s := by
  have hlt : ¬ v < 1 := by omega
  unfold Worker.deleteItem
  rw [if_neg hlt]
  refine (hO.delete handle v hv).fulfils hs fun a s ha => ?_
  cases a with
  | ok u =>
    exact Program.fulfils_pure _ (hO.opened handle v (v - 1)) ha fun s hs => ⟨hs, .inr rfl⟩
  | error e =>
    refine hO.logFailed rng (by simp [mismatch]) _ _ e (hO.opened _ _ _) ha fun s hs => ?_
    exact Program.fulfils_pure _ (hO.opened handle v v) hs fun s hs => ⟨hs, .inl rfl⟩

/-- The items change by one at most, within the bounds of the policy. -/
lemma mutate (hO : O.Valid S i d w n) (hpolicy : w.policy.validate = .ok ()) (rng : Generator)
    (hv : 0 ≤ v) (hs : O.opened handle v v s) :
    (({ w with rng } : Worker).mutate handle (Naming.container w.backend.containerPrefix n)
        v).Fulfils (World.moves S i) d
      (fun r s => O.opened handle v r.1 s ∧ v - 1 ≤ r.1 ∧ r.1 ≤ v + 1 ∧ 0 ≤ r.1 ∧
        (v ≤ w.policy.ceiling → r.1 ≤ w.policy.ceiling)) s := by
  have hchoose := Policy.choose_spec hpolicy v rng
  unfold Worker.mutate
  simp only
  cases hc : w.policy.choose v rng with
  | mk kind g =>
    rw [hc] at hchoose
    rcases hchoose with ⟨rfl, htop⟩ | ⟨rfl, hpos⟩
    · refine (hO.addItem g hv htop hs).mono ?_
      rintro ⟨x, _⟩ s ⟨hs, hx⟩
      simp only at hs hx ⊢
      exact ⟨hs, by omega, by omega, by omega, fun _ => by omega⟩
    · refine (hO.deleteItem rng hpos hs).then ?_
      rintro x s ⟨hs, hx⟩
      refine Program.fulfils_pure _ (hO.opened handle v x) hs fun s hs => ?_
      simp only
      exact ⟨hs, by omega, by omega, by omega, fun _ => by omega⟩

/-- Reading and updating an item changes no number. -/
lemma readAndUpdate (hO : O.Valid S i d w n) (rng : Generator) (container : String)
    (hs : O.opened handle v v s) :
    (({ w with rng } : Worker).readAndUpdate handle container v).Fulfils (World.moves S i) d
      (fun _ s => O.opened handle v v s) s := by
  have hst := hO.opened handle v v
  unfold Worker.readAndUpdate
  split
  · exact hO.logWarning (by simp [mismatch]) _ hst hs fun s hs =>
      Program.fulfils_pure _ hst hs fun _ h => h
  · cases Generator.intIn 1 v rng with
    | mk k g =>
      refine (hO.get handle v _ _).fulfils hs fun a s hs => ?_
      cases a
      case' error e => refine hO.logFailed rng (by simp [mismatch]) _ _ e hst hs fun s hs => ?_
      -- whether the item was read or not, it is updated
      all_goals
        refine World.fulfils_clock _ hst hs (fun now s _ => hO.clock now s) fun now s hs => ?_
        refine (hO.update handle v _ _).fulfils hs fun a s hs => ?_
        cases a with
        | ok j => exact Program.fulfils_pure _ hst hs fun _ h => h
        | error e =>
          exact hO.logFailed rng (by simp [mismatch]) _ _ e hst hs fun s hs =>
            Program.fulfils_pure _ hst hs fun _ h => h

lemma comparePage (hO : O.Valid S i d w n) (rng : Generator) (container : String)
    {page : Json} (hs : O.read handle v (.ok page) s) :
    (({ w with rng } : Worker).comparePage container v page).Fulfils (World.moves S i) d
      (fun reported s => O.counted handle v reported s) s := by
  have hst := hO.read handle v (.ok page)
  unfold Worker.comparePage
  cases hp : Search.Page.decode page with
  | error e =>
    refine hO.logWarning (by simp [mismatch]) _ hst hs fun s hs => ?_
    exact Program.fulfils_pure _ hst hs fun s hs => hO.uncounted _ _ _ s hs (by simp [hp])
  | ok p =>
    obtain ⟨_ | actual, records⟩ := p
    · refine hO.logWarning (by simp [mismatch]) _ hst hs fun s hs => ?_
      exact Program.fulfils_pure _ hst hs fun s hs => hO.uncounted _ _ _ s hs (by simp [hp])
    · have done : ∀ s, O.read handle v (.ok page) s →
          (pure (some actual) : Job (Option Nat)).Fulfils (World.moves S i) d
            (fun reported s => O.counted handle v reported s) s := fun s hs =>
        Program.fulfils_pure _ hst hs fun s hs => (hO.count _ _ _ _ _ s hs hp).1
      have hlog := fun s hs => (hO.count handle v page actual records s hs hp).2
      -- the signed number is only compared, and must not be computed here
      dsimp only
      generalize Int.bmod actual (2 ^ 64) = x at hlog ⊢
      split
      · next hne => exact World.fulfils_log _ hst hs (fun s hs => hlog s hs hne _) done
      · exact done s hs

lemma compareCount (hO : O.Valid S i d w n) (rng : Generator) (container : String)
    (hcounted : ∀ reported, d.Stable (O.counted handle v reported))
    (hs : O.opened handle v v s) :
    (({ w with rng } : Worker).compareCount handle container v).Fulfils (World.moves S i) d
      (fun reported s => O.counted handle v reported s) s := by
  unfold Worker.compareCount
  refine (hO.search handle v).fulfils hs fun a s ha => ?_
  cases a with
  | error e =>
    exact hO.logFailed rng (by simp [mismatch]) _ _ e (hcounted none) ha fun s hs =>
      Program.fulfils_pure _ (hcounted none) hs fun _ h => h
  | ok k =>
    refine (hO.fetch handle v k).fulfils ha fun page s hs => ?_
    refine (hO.endSearch handle v k page).fulfils hs fun _ s hs => ?_
    cases page with
    | error e =>
      have hs := hO.unread handle v e s hs
      exact hO.logFailed rng (by simp [mismatch]) _ _ e (hcounted none) hs fun s hs =>
        Program.fulfils_pure _ (hcounted none) hs fun _ h => h
    | ok page => exact hO.comparePage rng container hs

/-- The part of an iteration on a container that exists ends as the outline says. -/
lemma visit (hO : O.Valid S i d w n) (hpolicy : w.policy.validate = .ok ()) (rng : Generator)
    (hs : O.closed v s) :
    (({ w with rng } : Worker).visit n v).Fulfils (World.moves S i) d
      (fun r s => ∃ it, r.1 = .ok it ∧ O.finished it s) s := by
  have hfinish : ∀ (it : Iteration) (g : Generator) s, O.finished it s →
      (pure (.ok it, g) : Job (Except SetupError Iteration × Generator)).Fulfils
        (World.moves S i) d (fun r s => ∃ it, r.1 = .ok it ∧ O.finished it s) s :=
    fun it g s hs => Program.fulfils_pure _ (hO.finished it) hs fun s hs => ⟨it, rfl, hs⟩
  obtain ⟨hv, -⟩ := hO.closed v s hs
  unfold Worker.visit
  refine (hO.opening v).fulfils hs fun a s ha => ?_
  cases a with
  | error e => exact hO.logFailed rng (by simp [mismatch]) _ _ e (hO.finished _) ha (hfinish _ _)
  | ok handle =>
    refine (hO.mutate hpolicy rng hv ha).then ?_
    rintro ⟨x, g⟩ s ⟨hs, h1, h2, h3, h4⟩
    refine World.fulfils_writeSlot _ (hO.opened handle v x) hs fun s hs => ?_
    obtain ⟨r, hr, hpledge, hx⟩ := hO.write handle v x s hs hv h1 h2 h3 h4
    refine ⟨r, hr, hpledge, ?_⟩
    refine (hO.readAndUpdate g _ hx).then fun g' s hs => ?_
    refine (hO.compareCount g _ (fun reported => (hO.closing _ _ reported v).stable) hs).then
      fun reported s hs => ?_
    refine (hO.closing handle x reported v).fulfils hs fun a s ha => ?_
    cases a with
    | error e => exact hO.logFailed g (by simp [mismatch]) _ _ e (hO.finished _) ha (hfinish _ _)
    | ok u => exact hfinish _ _ _ ha

/-- **An iteration follows its outline.**  From where its container is absent or closed, it
never ends with an error, and with what it ends is one of its finished points. -/
theorem iterate (hO : O.Valid S i d w w.pick) (hpolicy : w.policy.validate = .ok ())
    (hs : O.absent s ∨ ∃ v, O.closed v s) :
    w.iterate.Fulfils (World.moves S i) d
      (fun r s => (∃ it, r.1 = .ok it ∧ O.finished it s) ∧ ∃ g, r.2 = { w with rng := g }) s := by
  rw [iterate_eq]
  refine Program.Fulfils.then (R := fun r s => ∃ it, r.1 = .ok it ∧ O.finished it s) ?_ ?_
  · unfold attend
    rcases hs with hs | ⟨v, hs⟩
    · -- the container is created first
      refine World.fulfils_readSlot _ hO.create.stable hs hO.absent (fun s _ => hO.slot _ s)
        fun s hs => ?_
      refine hO.create.fulfils hs fun a s ha => ?_
      cases a with
      | error e =>
        refine hO.logFailed _ (by simp [mismatch]) _ _ e (hO.finished _) ha fun s hs => ?_
        exact Program.fulfils_pure _ (hO.finished _) hs fun s hs => ⟨_, rfl, hs⟩
      | ok u =>
        refine World.fulfils_writeSlot _ hO.created ha fun s hs => ?_
        obtain ⟨r, hr, hpledge, hclosed⟩ := hO.enter s hs
        exact ⟨r, hr, hpledge, hO.visit hpolicy _ hclosed⟩
    · -- the container is there
      refine World.fulfils_readSlot _ (hO.opening v).stable hs (fun s hs => (hO.closed v s hs).2)
        (fun s _ => hO.slot _ s) fun s hs => ?_
      have hv : ¬ v < 0 := Int.not_lt.2 (hO.closed v s hs).1
      simp only [hv, if_false]
      exact hO.visit hpolicy _ hs
  · rintro ⟨r, g⟩ s ⟨it, rfl, hs⟩
    exact Program.fulfils_pure _ (hO.finished it) hs fun s hs => ⟨⟨it, rfl, hs⟩, g, rfl⟩

end Outline.Valid

end Worker

end Soak
