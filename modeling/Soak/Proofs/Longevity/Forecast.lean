import Soak.Proofs.Longevity.Crew
import Soak.Proofs.Longevity.Truth
import Soak.Proofs.Session.Dealings

/-!
# Iterations that can be foretold

On a store in memory none of whose calls fails for other reasons than its own, what a
worker does is settled by its counters and its source of random numbers.  `Worker.forecast`
computes it; `Worker.does_iterate` shows that an iteration ends as foretold, that the
counters tell the truth again, and that it leaves no container open and no search.
-/

namespace Soak

instance (b : Config.Backend) : Decidable b.Readable :=
  inferInstanceAs (Decidable (_ ∧ _))

namespace Worker

/-- How an iteration ends, and the counters and the worker behind it. -/
structure Forecast where
  /-- What the iteration ends with. -/
  result : Iteration
  /-- The counters. -/
  counters : Nat → Int
  /-- The worker. -/
  next : Worker

/-- The counter and the generator after an item was added or deleted. -/
def mutated (w : Worker) (before : Int) : Int × Generator :=
  match w.policy.choose before w.rng with
  | (.add, rng) => (before + 1, (rng.alphanumeric valueLength).2)
  | (.delete, rng) => (before - 1, rng)

/-- The generator after a random item was updated. -/
def updated (w : Worker) (counter : Int) : Generator :=
  if counter < 1 then w.rng else (w.rng.intIn 1 counter).2

/-- What a visit of a container does to its counter and to the worker. -/
def visited (w : Worker) (before : Int) : Int × Worker :=
  let (after, rng) := w.mutated before
  (after, { w with rng := ({ w with rng } : Worker).updated after })

/-- What is foretold of an iteration.  A container that does not exist is created first, if
the texts for it are JSON. -/
def forecast (w : Worker) (counters : Nat → Int) : Forecast :=
  if counters w.pick < 0 ∧ ¬ w.backend.Readable then ⟨.createFailed w.pick, counters, w.picked⟩
  else
    let before := max (counters w.pick) 0
    let (after, next) := w.picked.visited before
    ⟨.completed w.pick before after (some after.toNat),
      Function.update counters w.pick after, next⟩

/-- What belongs to a worker. -/
def tenant {ι : Type} (client : ι) (b : Config.Backend) (view : Partition) : Tenant ι where
  client := client
  names := {name | ∃ n, view.contains n = true ∧ name = Naming.container b.containerPrefix n}
  slots := {n | view.contains n = true}

/-- The counters of a worker tell the truth, and its containers are closed.  None exists unless
the texts for the store are JSON. -/
structure Rest (b : Config.Backend) (view : Partition) (top : Int) (counters : Nat → Int)
    (x : Holdings) : Prop where
  search : x.search = none
  slot : ∀ n, view.contains n = true → x.slot n = some (counters n)
  low : ∀ n, view.contains n = true → counters n ≤ top
  accounts : ∀ n, view.contains n = true →
    Accounts b (counters n) (x.container (Naming.container b.containerPrefix n))
  closed : ∀ n c, view.contains n = true →
    x.container (Naming.container b.containerPrefix n) = some c → c.openHandle = none
  readable : ∀ n, view.contains n = true → 0 ≤ counters n → b.Readable

/-- The container of a name is open under a handle, with the items from one to `v`. -/
def Ajar (b : Config.Backend) (x : Holdings) (name : String) (h : Container.Handle) (v : Int)
    (y : Holdings) : Prop :=
  x.Ajar name h (Holds b · v) y

variable {ι : Type} [DecidableEq ι] {clock : Reading → Prop} {t : Tenant ι}
  {pages : Holdings → Except CallError Json → Prop} {b : Config.Backend} {x y : Holdings}
  {name : String} {h : Container.Handle} {v : Int} {w : Worker}

/-- A call on the items of an open container. -/
lemma does_items {c : Call} {R : c.Answer → Prop} (k : Int) (hcall : c.inside? = some h)
    (hname : name ∈ t.names) (hy : Ajar b x name h v y)
    (hrespond : ∀ d : Container, Holds b d v → R (d.respond c).1 ∧ Holds b (d.respond c).2 k) :
    t.Does clock pages (Job.call c) y fun a z => R a ∧ Ajar b x name h k z :=
  Tenant.does_within hcall hname hy hrespond

/-- The item after the newest one is added. -/
lemma does_addItem (hb : w.backend = b) (hname : name ∈ t.names) (hy : Ajar b x name h v y) :
    t.Does clock pages (w.addItem h name v) y fun r z =>
      r = (v + 1, (w.rng.alphanumeric valueLength).2) ∧ Ajar b x name h (v + 1) z := by
  subst hb
  unfold addItem
  dsimp only
  cases w.rng.alphanumeric valueLength with
  | mk value rng =>
    dsimp only
    refine (does_items (R := (· = .ok ())) (v + 1) rfl hname hy fun d hholds => ?_).bind ?_
    · have hnew := hholds.not_mem_next
      have he : d.respond (.addItem h w.backend.itemType
          (Naming.lifecycleItem w.backend.itemIdPrefix (v + 1)) value
          (.ofPairs [("container", name)])) = (.ok (), { d with
            items := d.items.insert (w.backend.itemKey (v + 1))
              ⟨value, .ofPairs [("container", name)]⟩ }) := by
        unfold Config.Backend.itemKey at hnew ⊢
        simp [Container.respond, Container.attempt, hnew]
      rw [he]
      exact ⟨rfl, hholds.insert _⟩
    · rintro a z ⟨rfl, hz⟩
      exact Tenant.does_pure ⟨rfl, hz⟩

/-- The newest item is deleted. -/
lemma does_deleteItem (hb : w.backend = b) (hname : name ∈ t.names) (hv : 0 < v)
    (hy : Ajar b x name h v y) :
    t.Does clock pages (w.deleteItem h name v) y fun r z =>
      r = v - 1 ∧ Ajar b x name h (v - 1) z := by
  subst hb
  have hlt : ¬ v < 1 := by omega
  unfold deleteItem
  rw [if_neg hlt]
  refine (does_items (R := (· = .ok ())) (v - 1) rfl hname hy fun d hholds => ?_).bind ?_
  · have hmem := hholds.mem_newest hv
    have he : d.respond (.deleteItem h w.backend.itemType
        (Naming.lifecycleItem w.backend.itemIdPrefix v)) = (.ok (), { d with
          items := d.items.erase (w.backend.itemKey v) }) := by
      unfold Config.Backend.itemKey at hmem ⊢
      simp [Container.respond, Container.attempt, hmem]
    rw [he]
    exact ⟨rfl, hholds.erase hv⟩
  · rintro a z ⟨rfl, hz⟩
    exact Tenant.does_pure ⟨rfl, hz⟩

/-- An item is added or deleted as foretold. -/
lemma does_mutate (hb : w.backend = b) (hpolicy : w.policy.validate = .ok ())
    (hname : name ∈ t.names) (hy : Ajar b x name h v y) :
    t.Does clock pages (w.mutate h name v) y fun r z =>
      r = w.mutated v ∧ Ajar b x name h (w.mutated v).1 z := by
  have hchoose := Policy.choose_spec hpolicy v w.rng
  unfold mutate mutated
  cases hc : w.policy.choose v w.rng with
  | mk kind rng =>
    rw [hc] at hchoose
    rcases hchoose with ⟨rfl, -⟩ | ⟨rfl, hpos⟩
    · exact does_addItem (w := { w with rng }) hb hname hy
    · refine (does_deleteItem hb hname hpos hy).bind ?_
      rintro r z ⟨rfl, hz⟩
      exact Tenant.does_pure ⟨rfl, hz⟩

/-- Logging a failed call changes nothing. -/
lemma does_logFailed (message container : String) (fields : List (String × String))
    (e : CallError) :
    t.Does clock pages (w.logFailed message container fields e) y fun _ z => z = y :=
  Tenant.does_log _

/-- Updating an item changes no number of items. -/
lemma holds_update {d : Container} (hholds : Holds b d v) (id value : String) :
    Holds b (d.respond (.updateItemValue h b.itemType id value)).2 v := by
  show Holds b (d.changeItem _ _ _).2 v
  unfold Container.changeItem Container.attempt
  cases hitem : d.items[Item.Key.mk b.itemType id]? with
  | none => simpa [hitem] using hholds
  | some item =>
    simp only [hitem]
    refine hholds.replace ?_ _
    rw [Std.ExtTreeMap.mem_iff_isSome_getElem?, hitem]
    rfl

/-- Reading and updating a random item changes no number of items, whether it is there or
not. -/
lemma does_readAndUpdate (hb : w.backend = b) (hname : name ∈ t.names)
    (hy : Ajar b x name h v y) :
    t.Does clock pages (w.readAndUpdate h name v) y fun r z =>
      r = w.updated v ∧ Ajar b x name h v z := by
  subst hb
  unfold readAndUpdate updated
  split
  · exact (Tenant.does_log _).bind fun _ z hz => hz ▸ Tenant.does_pure ⟨rfl, hy⟩
  · cases w.rng.intIn 1 v with
    | mk n rng =>
      dsimp only
      refine (does_items (R := fun _ => True) v rfl hname hy fun d hholds =>
        ⟨trivial, by exact hholds⟩).bind fun a z hz => ?_
      have hz := hz.2
      cases a
      case' error e => refine (does_logFailed _ _ _ e).bind fun _ z' hz' => hz' ▸ ?_
      -- whether the item was read or not, it is updated
      all_goals
        refine Tenant.does_clock.bind fun now z' hz' => hz' ▸ ?_
        refine (does_items (R := fun _ => True) v rfl hname hz fun d hholds =>
          ⟨trivial, holds_update hholds _ _⟩).bind fun a z hz => ?_
        have hz := hz.2
        cases a with
        | ok j => exact Tenant.does_pure ⟨rfl, hz⟩
        | error e =>
          exact (does_logFailed _ _ _ e).bind fun _ z' hz' => hz' ▸ Tenant.does_pure ⟨rfl, hz⟩

/-- The number of items that the store reports is that of the counter. -/
lemma does_compareCount (hpages : ∀ x a, pages x a) (hb : w.backend = b) (hname : name ∈ t.names)
    (hx : x.search = none) (hv : v < 2 ^ 64) (hy : Ajar b x name h v y) :
    t.Does clock pages (w.compareCount h name v) y fun r z =>
      r = some v.toNat ∧ Ajar b x name h v z := by
  subst hb
  obtain ⟨d, hopen, hholds, rfl⟩ := hy
  have hparse : Query.parse "\x7b\x7d" = .ok (.and []) := rfl
  have hv0 := hholds.nonneg
  unfold compareCount
  refine (Tenant.does_openSearch hname Holdings.put_container_self hopen hx hparse _ _).bind ?_
  rintro a z ⟨k, rfl, rfl⟩
  dsimp only
  refine (Tenant.does_fetch Holdings.seek_search (hpages _ _)).bind ?_
  rintro page z ⟨rfl, rfl⟩
  refine (Tenant.does_closeSearch Holdings.seek_search).bind ?_
  rintro - z ⟨-, rfl⟩
  have hlength := Truth.results_of_holds hholds Search.Options.all.itemOptions
  generalize Store.results d w.backend.itemType (.and []) Search.Options.all.itemOptions = found
    at hlength
  obtain ⟨records, hdecode⟩ := Truth.decode_page (q := ⟨found.length, found, .all⟩)
    (by dsimp only; omega) rfl pageSize
  have hend : (x.put name (some d)).seek none = x.put name (some d) := by
    rw [← hx]
    rfl
  have hdone : t.Does clock pages (pure (some found.length)) (x.put name (some d)) fun r z =>
      r = some v.toNat ∧ Ajar w.backend x name h v z :=
    Tenant.does_pure ⟨by rw [hlength], d, hopen, hholds, rfl⟩
  unfold comparePage
  simp only [hdecode, Holdings.seek_seek]
  rw [hend]
  -- the signed number is only compared, and must not be computed here
  generalize Int.bmod (found.length : Nat) (2 ^ 64) = signed
  split
  · exact (Tenant.does_log _).bind fun _ z hz => hz ▸ hdone
  · exact hdone

/-- A visit of a closed container goes as foretold. -/
lemma does_visit (hpages : ∀ x a, pages x a) (hb : w.backend = b)
    (hpolicy : w.policy.validate = .ok ()) (hcredentials : (Json.ofText? b.credentials).isSome)
    {n : Nat} (hname : Naming.container b.containerPrefix n ∈ t.names) (hn : n ∈ t.slots)
    (hview : w.view.contains n = true) (hx : x.search = none) {u : Int}
    (hslot : x.slot n = some u) {d : Container}
    (hd : x.container (Naming.container b.containerPrefix n) = some d)
    (hclosed : d.openHandle = none) (hholds : Holds b d v) (htop : (w.visited v).1 < 2 ^ 64) :
    t.Does clock pages (w.visit n v) x fun r z =>
      r = (.ok (.completed n v (w.visited v).1 (some (w.visited v).1.toNat)), (w.visited v).2.rng) ∧
        ∃ d' : Container, d'.openHandle = none ∧ Holds b d' (w.visited v).1 ∧
          z = (x.write n (w.visited v).1).put (Naming.container b.containerPrefix n) (some d') := by
  subst hb
  unfold visit
  refine (Tenant.does_enter (Holds w.backend · v) hname hd hclosed hcredentials
    fun _ => hholds.of_items rfl).bind ?_
  rintro a y ⟨h, rfl, hajar⟩
  dsimp only
  refine (does_mutate rfl hpolicy hname hajar).bind ?_
  rintro ⟨after, rng⟩ y ⟨hr, d₁, hopen₁, hholds₁, rfl⟩
  rw [← hr] at hholds₁
  have hvisited :
      w.visited v = (after, { w with rng := ({ w with rng } : Worker).updated after }) := by
    unfold visited
    rw [← hr]
  rw [hvisited] at htop ⊢
  dsimp only at htop ⊢
  -- the counter is written while the container is still open
  refine (Tenant.does_writeSlot (x := x.put _ _) hview hn hslot after).bind ?_
  rintro a y ⟨rfl, rfl⟩
  dsimp only
  have hajar₁ : Ajar w.backend (x.write n after) (Naming.container w.backend.containerPrefix n) h
      after ((x.put (Naming.container w.backend.containerPrefix n) (some d₁)).write n after) :=
    ⟨d₁, hopen₁, hholds₁, rfl⟩
  refine (does_readAndUpdate (w := { w with rng }) rfl hname hajar₁).bind ?_
  rintro rng' y ⟨rfl, hajar₂⟩
  refine (does_compareCount (w := { w with rng }) (x := x.write n after) hpages rfl hname hx htop
    hajar₂).bind ?_
  rintro reported y ⟨rfl, hajar₃⟩
  refine (Tenant.does_leave hname hajar₃).bind ?_
  rintro a y ⟨rfl, d₂, hholds₂, rfl⟩
  exact Tenant.does_pure ⟨rfl, { d₂ with openHandle := none }, rfl, hholds₂.of_items rfl, rfl⟩

/-- The counter after a visit stays below the ceiling. -/
lemma visited_le (hpolicy : w.policy.validate = .ok ()) (hv : v ≤ w.policy.ceiling) :
    (w.visited v).1 ≤ w.policy.ceiling := by
  have hchoose := Policy.choose_spec hpolicy v w.rng
  unfold visited mutated
  cases hc : w.policy.choose v w.rng with
  | mk kind rng =>
    rw [hc] at hchoose
    rcases hchoose with ⟨rfl, hlt⟩ | ⟨rfl, -⟩
    · show v + 1 ≤ w.policy.ceiling
      exact hlt
    · show v - 1 ≤ w.policy.ceiling
      omega

/-- Nothing of the worker changes but its source of random numbers. -/
lemma forecast_next (w : Worker) (counters : Nat → Int) :
    (w.forecast counters).next = { w with rng := (w.forecast counters).next.rng } := by
  unfold forecast
  split <;> rfl

/-- The counters of a worker whose containers do not exist. -/
def fresh : Nat → Int :=
  fun _ => Registry.absent

variable {view : Partition} {top : Int} {counters : Nat → Int}

/-- A worker that has not begun. -/
lemma rest_fresh (htop : 0 ≤ top) (hsearch : x.search = none)
    (hslot : ∀ n, view.contains n = true → x.slot n = some Registry.absent)
    (hnone : ∀ n, view.contains n = true →
      x.container (Naming.container b.containerPrefix n) = none) :
    Rest b view top fresh x where
  search := hsearch
  slot := hslot
  low _ _ := Int.le_trans (show Registry.absent ≤ 0 by decide) htop
  accounts n hn := by
    rw [hnone n hn]
    exact rfl
  closed n c hn hc := by
    rw [hnone n hn] at hc
    cases hc
  readable _ _ h0 := absurd h0 (show ¬ 0 ≤ Registry.absent by decide)

/-- A worker at rest, but for one of its containers. -/
lemma Rest.put (hrest : Rest b view top counters x) (hread : b.Readable) (n : Nat) {u : Int}
    (hu : u ≤ top) {d : Container} (hclosed : d.openHandle = none) (hholds : Holds b d u) :
    Rest b view top (Function.update counters n u)
      ((x.write n u).put (Naming.container b.containerPrefix n) (some d)) := by
  have hother {m : Nat} (hm : m ≠ n) :
      ((x.write n u).put (Naming.container b.containerPrefix n) (some d)).container
        (Naming.container b.containerPrefix m) =
          x.container (Naming.container b.containerPrefix m) :=
    Holdings.put_container_of_ne fun heq => hm (Naming.container_inj.1 heq)
  refine ⟨hrest.search, fun m hm => ?_, fun m hm => ?_, fun m hm => ?_, fun m c hm hc => ?_,
    fun _ _ _ => hread⟩
  · by_cases hmn : m = n
    · rw [hmn, Function.update_self]
      exact Holdings.write_slot_self
    · rw [Function.update_of_ne hmn]
      exact (Holdings.write_slot_of_ne hmn).trans (hrest.slot m hm)
  · by_cases hmn : m = n
    · rw [hmn, Function.update_self]
      exact hu
    · rw [Function.update_of_ne hmn]
      exact hrest.low m hm
  · by_cases hmn : m = n
    · rw [hmn, Function.update_self, Holdings.put_container_self]
      exact hholds
    · rw [Function.update_of_ne hmn, hother hmn]
      exact hrest.accounts m hm
  · by_cases hmn : m = n
    · rw [hmn, Holdings.put_container_self] at hc
      cases hc
      exact hclosed
    · rw [hother hmn] at hc
      exact hrest.closed m c hm hc

/-- What is foretold of a container that was not created. -/
lemma forecast_of_unreadable (hneg : counters w.pick < 0) (hread : ¬ w.backend.Readable) :
    w.forecast counters = ⟨.createFailed w.pick, counters, w.picked⟩ := by
  unfold forecast
  rw [if_pos ⟨hneg, hread⟩]

/-- What is foretold of a container that is visited. -/
lemma forecast_of_visit {before : Int} (hbefore : max (counters w.pick) 0 = before)
    (h : 0 ≤ counters w.pick ∨ w.backend.Readable) :
    w.forecast counters = ⟨.completed w.pick before (w.picked.visited before).1
      (some (w.picked.visited before).1.toNat),
      Function.update counters w.pick (w.picked.visited before).1,
      (w.picked.visited before).2⟩ := by
  unfold forecast
  rw [if_neg, hbefore]
  rintro ⟨hneg, hnot⟩
  exact h.elim (fun h0 => by omega) hnot

variable {client : ι}

/-- The rest of an iteration when its container exists. -/
lemma does_visit_picked (hpages : ∀ x a, pages x a) (hpolicy : w.policy.validate = .ok ())
    (htop : w.policy.ceiling < 2 ^ 64) (hview : w.view.contains w.pick = true)
    (hread : w.backend.Readable) (hrest : Rest w.backend w.view w.policy.ceiling counters x)
    {before : Int} (hbefore : max (counters w.pick) 0 = before) {d : Container}
    (hclosed : d.openHandle = none) (hholds : Holds w.backend d before)
    (hy : ∃ u, y = (x.write w.pick u).put
      (Naming.container w.backend.containerPrefix w.pick) (some d)) :
    (tenant client w.backend w.view).Does clock pages (w.picked.visit w.pick before) y fun r z =>
      r = (.ok (w.forecast counters).result, (w.forecast counters).next.rng) ∧
        Rest w.backend w.view w.policy.ceiling (w.forecast counters).counters z := by
  obtain ⟨u, rfl⟩ := hy
  have hname : Naming.container w.backend.containerPrefix w.pick ∈
      (tenant client w.backend w.view).names := ⟨_, hview, rfl⟩
  have hslots : w.pick ∈ (tenant client w.backend w.view).slots := hview
  have hlow := hrest.low w.pick hview
  have hpos := Policy.ceiling_pos hpolicy
  have hle : (w.picked.visited before).1 ≤ w.policy.ceiling :=
    visited_le (w := w.picked) hpolicy (show before ≤ w.policy.ceiling by omega)
  rw [forecast_of_visit hbefore (.inr hread)]
  refine (does_visit (w := w.picked) (x := (x.write w.pick u).put _ _) hpages rfl hpolicy hread.2
    hname hslots hview hrest.search Holdings.write_slot_self Holdings.put_container_self hclosed
    hholds (by omega)).mono ?_
  rintro r z ⟨rfl, d', hclosed', hholds', rfl⟩
  refine ⟨rfl, ?_⟩
  rw [Holdings.put_write_put]
  exact hrest.put hread _ hle hclosed' hholds'

/-- **An iteration goes as foretold.** -/
lemma does_iterate (hpages : ∀ x a, pages x a) (hpolicy : w.policy.validate = .ok ())
    (htop : w.policy.ceiling < 2 ^ 64) (hview : w.view.min ≤ w.view.max)
    (hrest : Rest w.backend w.view w.policy.ceiling counters x) :
    (tenant client w.backend w.view).Does clock pages w.iterate x fun r y =>
      r = (.ok (w.forecast counters).result, (w.forecast counters).next) ∧
        Rest w.backend w.view w.policy.ceiling (w.forecast counters).counters y := by
  have hn : w.view.contains w.pick = true := contains_pick hview
  have hslots : w.pick ∈ (tenant client w.backend w.view).slots := hn
  have hname : Naming.container w.backend.containerPrefix w.pick ∈
      (tenant client w.backend w.view).names := ⟨_, hn, rfl⟩
  have hslot := hrest.slot w.pick hn
  have haccounts := hrest.accounts w.pick hn
  rw [iterate_eq]
  unfold attend
  refine Tenant.Does.bind (P := fun r y => r = (.ok (w.forecast counters).result,
    (w.forecast counters).next.rng) ∧
      Rest w.backend w.view w.policy.ceiling (w.forecast counters).counters y) ?_ ?_
  · have hpicked : w.picked.view.contains w.pick = true := hn
    refine (Tenant.does_readSlot hpicked hslots hslot).bind ?_
    rintro a y ⟨rfl, rfl⟩
    dsimp only
    cases hc : y.container (Naming.container w.backend.containerPrefix w.pick) with
    | none =>
      rw [hc] at haccounts
      have habsent : counters w.pick = -1 := haccounts
      have hneg : counters w.pick < 0 := by omega
      rw [if_pos hneg]
      by_cases hread : w.backend.Readable
      · -- the container is created, and then visited
        refine (Tenant.does_create hname (Naming.container_ne_empty _ _) hc hread.1 hread.2
          _).bind ?_
        rintro a z ⟨rfl, rfl⟩
        dsimp only
        refine (Tenant.does_writeSlot (x := y.put _ _) hpicked hslots hslot 0).bind ?_
        rintro a z ⟨rfl, rfl⟩
        exact does_visit_picked hpages hpolicy htop hn hread hrest (by omega) rfl (Holds.empty _)
          ⟨0, rfl⟩
      · -- it cannot be created, now or ever
        rw [forecast_of_unreadable hneg hread]
        refine (Tenant.does_create_fail hname hread _).bind ?_
        rintro a z ⟨⟨e, rfl⟩, rfl⟩
        exact (does_logFailed _ _ _ e).bind fun _ z' hz' => hz' ▸ Tenant.does_pure ⟨rfl, hrest⟩
    | some d =>
      -- the container exists, so that creating it once has succeeded
      rw [hc] at haccounts
      have hholds : Holds w.backend d (counters w.pick) := haccounts
      have hnonneg := hholds.nonneg
      have hneg : ¬ counters w.pick < 0 := by omega
      rw [if_neg hneg]
      refine does_visit_picked hpages hpolicy htop hn (hrest.readable _ hn hnonneg) hrest
        (by omega) (hrest.closed _ d hn hc) hholds ⟨counters w.pick, ?_⟩
      rw [Holdings.write_self hslot, Holdings.put_self hc]
  · rintro ⟨_, _⟩ y ⟨hr, hy⟩
    obtain ⟨rfl, rfl⟩ := Prod.mk.inj hr
    exact Tenant.does_pure ⟨by rw [forecast_next], hy⟩

end Worker

end Soak
