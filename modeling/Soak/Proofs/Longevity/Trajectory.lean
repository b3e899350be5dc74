import Soak.Proofs.Longevity.Access
import Soak.Proofs.Longevity.Census
import Soak.Proofs.Longevity.Outline
import Soak.Proofs.Session.Progress

/-!
# The way of the counters

Workers and monitors run together on a store that may answer anything.  Whatever it
answers, a worker writes no counter but that of the container it picked, moves it by one at
most, and keeps it within the bounds of the policy; so no iteration ends with an error, and
a scan finds every counter where it belongs.
-/

namespace Soak

/-- A thread of a longevity run that goes on until the deadline. -/
inductive Member where
  /-- A worker. -/
  | worker (w : Worker)
  /-- A monitor. -/
  | monitor (m : Monitor)

/-- What a turn of a member ends with. -/
inductive Member.Result where
  /-- An iteration of a worker. -/
  | iterated (outcome : Except SetupError Iteration)
  /-- A scan of a monitor. -/
  | scanned (report : Monitor.Report)

namespace Member

/-- A turn of a member: an iteration or a scan. -/
def turn : Member → Job (Member.Result × Member)
  | worker w => do
    let (outcome, w) ← w.iterate
    return (.iterated outcome, .worker w)
  | monitor m => do
    let report ← m.scanNow
    return (.scanned report, .monitor m)

/-- The container that a worker works on in its next iteration. -/
def pick : Member → Nat
  | worker w => w.pick
  | monitor _ => 0

end Member

namespace Trajectory

open Registry

variable {ι κ μ τ α : Type} {S : Service ι τ} {i : ι} {view : Partition} {top : Int}
  {total n : Nat} {s : World τ}

/-! ### Workers -/

/-- Others keep the counters in their band and leave those of a view alone; a worker writes
the counter of one container. -/
def workerDuty (view : Partition) (top : Int) (total n : Nat) : Duty requests (World τ) where
  rely s s' := (Within top total s.registry → Within top total s'.registry) ∧
    ∀ m, view.contains m = true → s'.registry.counters[m]? = s.registry.counters[m]?
  always s := Within top total s.registry
  pledge m s s' := s'.registry = s.registry ∨
    ∃ x, m = .answered (.writeSlot view n x) (.ok ()) ∧ view.contains n = true ∧
      Nudged top n x s.registry s'.registry
  panics _ := False

/-- All counters are in their band, and one of them has this value. -/
structure At (top : Int) (total n : Nat) (v : Int) (s : World τ) : Prop where
  within : Within top total s.registry
  slot : s.registry.counters[n]? = some v

lemma stable_at (hn : view.contains n = true) (v : Int) :
    (workerDuty view top total n).Stable (At (τ := τ) top total n v) where
  always _ hs := hs.within
  rely _ _ hs hr := ⟨hr.1 hs.within, (hr.2 n hn).trans hs.slot⟩

lemma stable_within :
    (workerDuty view top total n).Stable fun s : World τ => Within top total s.registry where
  always _ hs := hs
  rely _ _ hs hr := hr.1 hs

/-- In between, all that matters is the counter. -/
def outline (top : Int) (total n : Nat) : Worker.Outline τ where
  absent := At top total n absent
  created := At top total n absent
  closed v s := 0 ≤ v ∧ At top total n v s
  opened _ v _ := At top total n v
  searching _ v _ := At top total n v
  fetched _ v _ _ := At top total n v
  read _ v _ := At top total n v
  counted _ v _ := At top total n v
  finished it s := it.container = n ∧ Within top total s.registry

/-- A call does nothing to the counters, whatever it is answered. -/
lemma calls_of_stable {J : World τ → Prop} {c : Call} {K : c.Answer → World τ → Prop}
    (hst : (workerDuty view top total n).Stable J)
    (hJ : ∀ s b, J s → J { s with backend := b }) (hK : ∀ a s, J s → K a s) :
    Calls S i (workerDuty view top total n) J c K where
  stable := hst
  prepared s b hs _ := ⟨.inl rfl, hJ s b hs⟩
  answered a s b hs _ := ⟨.inl rfl, hK a _ (hJ s b hs)⟩

lemma calls_at (hn : view.contains n = true) (v : Int) {c : Call}
    {K : c.Answer → World τ → Prop} (hK : ∀ a s, At top total n v s → K a s) :
    Calls S i (workerDuty view top total n) (At top total n v) c K :=
  calls_of_stable (stable_at hn v) (fun _ _ hs => ⟨hs.within, hs.slot⟩) hK

/-- Writing a counter in its band. -/
lemma write_at (hn : view.contains n = true) {v x : Int} (hs : At top total n v s)
    (h1 : v - 1 ≤ x) (h2 : x ≤ v + 1) (h3 : 0 ≤ x) (h4 : x ≤ top) :
    ∃ r, s.registry.viewSet view n x = .ok r ∧
      (workerDuty view top total n).pledge (.answered (.writeSlot view n x) (.ok ())) s
        { s with registry := r } ∧
      At top total n x { s with registry := r } := by
  obtain ⟨hlt, -⟩ := Array.getElem?_eq_some_iff.1 hs.slot
  have habsent : absent ≤ x := by
    unfold absent
    omega
  refine ⟨_, viewSet_eq hn hlt,
    .inr ⟨x, rfl, hn, rfl, v, hs.slot, h1, h2, fun _ => h3, habsent, h4⟩,
    hs.within.write ⟨habsent, h4⟩ n, counters_write_self hlt⟩

lemma outline_valid {w : Worker} (hpolicy : w.policy.validate = .ok ())
    (hn : w.view.contains n = true) :
    (outline w.policy.ceiling total n).Valid S i (workerDuty w.view w.policy.ceiling total n)
      w n where
  clock _ _ := .inl rfl
  slot _ _ := .inl rfl
  log _ _ _ := .inl rfl
  absent s hs := viewGet_eq hn hs.slot
  create := calls_at hn _ fun a s hs => by
    cases a with
    | ok u => exact hs
    | error e => exact ⟨rfl, hs.within⟩
  created := stable_at hn _
  enter s hs := by
    have htop := Policy.ceiling_pos hpolicy
    obtain ⟨r, hr, hpledge, hr'⟩ := write_at (x := 0) hn hs (by decide) (by decide) (by decide)
      (by omega)
    exact ⟨r, hr, hpledge, by decide, hr'⟩
  closed v s hs := ⟨hs.1, viewGet_eq hn hs.2.slot⟩
  opening v := calls_of_stable
    { always := fun s hs => hs.2.within
      rely := fun s s' hs hr => ⟨hs.1, (stable_at hn v).rely s s' hs.2 hr⟩ }
    (fun _ _ hs => ⟨hs.1, hs.2.within, hs.2.slot⟩) fun a s hs => by
      cases a with
      | ok h => exact hs.2
      | error e => exact ⟨rfl, hs.2.within⟩
  opened _ v _ := stable_at hn v
  add _ v _ _ _ := calls_at hn v fun a s hs => by cases a <;> exact hs
  delete _ v _ := calls_at hn v fun a s hs => by cases a <;> exact hs
  write h v x s hs h0 h1 h2 h3 h4 :=
    write_at hn hs h1 h2 h3 (h4 (hs.within.band n v hs.slot).2)
  get _ v _ _ := calls_at hn v fun _ _ hs => hs
  update _ v _ _ := calls_at hn v fun _ _ hs => hs
  search _ v := calls_at hn v fun a s hs => by cases a <;> exact hs
  fetch _ v _ := calls_at hn v fun _ _ hs => hs
  endSearch _ v _ _ := calls_at hn v fun _ _ hs => hs
  read _ v _ := stable_at hn v
  unread _ _ _ _ hs := hs
  uncounted _ _ _ _ hs _ := hs
  count _ _ _ _ _ _ hs _ := ⟨hs, fun _ _ => .inl rfl⟩
  closing _ v _ _ := calls_at hn v fun a s hs => by cases a <;> exact ⟨rfl, hs.within⟩
  finished it :=
    { always := fun s hs => hs.2
      rely := fun s s' hs hr => ⟨hs.1, hr.1 hs.2⟩ }

/-! ### Monitors -/

/-- Others keep the counters in their band; a monitor writes none.  It panics only if there
is no room for its histogram. -/
def monitorDuty (maxExpected top : Int) (total : Nat) : Duty requests (World τ) where
  rely s s' := Within top total s.registry → Within top total s'.registry
  always s := Within top total s.registry
  pledge _ s s' := s'.registry = s.registry
  panics _ := Job.maxBytes < (maxExpected.toNat + 1) * 8

variable {maxExpected : Int}

lemma stable_monitor :
    (monitorDuty maxExpected top total).Stable fun s : World τ => Within top total s.registry where
  always _ hs := hs
  rely _ _ hs hr := hr hs

/-- Counters that are read one after another exist and lie in their band. -/
lemma fulfils_peeks {indices : List Nat} (hidx : ∀ n ∈ indices, n < total)
    (hs : Within top total s.registry) :
    (indices.mapM Monitor.peek).Fulfils (World.moves S i) (monitorDuty maxExpected top total)
      (fun values s => Within top total s.registry ∧
        (values.filterMap Except.toOption).length = indices.length ∧
        ∀ v ∈ values.filterMap Except.toOption, v ≤ top) s := by
  induction indices generalizing s with
  | nil => exact Program.fulfils_pure _ stable_monitor hs fun s hs => ⟨hs, by simp⟩
  | cons n indices ih =>
    rw [List.mapM_cons]
    refine World.fulfils_peek _ stable_monitor hs (fun _ _ _ => rfl) fun s hs => ?_
    obtain ⟨v, hv⟩ := hs.exists_counter (hidx n List.mem_cons_self)
    rw [get_eq_ok_iff.2 hv]
    refine (ih (fun m hm => hidx m (List.mem_cons_of_mem n hm)) hs).then ?_
    rintro values s' ⟨hs', hlen, htop⟩
    have hfilter : (Except.ok v :: values).filterMap Except.toOption =
        v :: values.filterMap Except.toOption := rfl
    refine Program.fulfils_pure _ stable_monitor hs' fun s' hs' => ⟨hs', ?_, ?_⟩
    · rw [hfilter, List.length_cons, hlen, List.length_cons]
    · rw [hfilter]
      intro x hx
      rcases List.mem_cons.1 hx with rfl | hx
      · exact (hs.band n x hv).2
      · exact htop x hx

lemma fulfils_snapshot (hs : Within top total s.registry) :
    Monitor.snapshot.Fulfils (World.moves S i) (monitorDuty maxExpected top total)
      (fun counters s => Within top total s.registry ∧ counters.length = total ∧
        ∀ v ∈ counters, v ≤ top) s := by
  refine World.fulfils_size _ stable_monitor hs (fun s hs => hs.size) (fun _ _ => rfl)
    fun s hs => ?_
  refine (fulfils_peeks (fun n hn => List.mem_range.1 hn) hs).then ?_
  rintro values s ⟨hs, hlen, htop⟩
  refine Program.fulfils_pure _ stable_monitor hs fun s hs => ⟨hs, ?_, htop⟩
  rw [hlen, List.length_range]

lemma fulfils_warn (nowMs : Nat) (workers : List Worker.Status)
    (hs : Within top total s.registry) :
    (Monitor.warn nowMs workers).Fulfils (World.moves S i) (monitorDuty maxExpected top total)
      (fun _ s => Within top total s.registry) s := by
  induction workers generalizing s with
  | nil => exact Program.fulfils_pure _ stable_monitor hs fun _ h => h
  | cons w workers ih =>
    exact World.fulfils_log _ stable_monitor hs (fun _ _ => rfl) fun s hs => ih hs

/-- A scan covers every counter, and nothing is irregular unless the policy allows it. -/
lemma fulfils_scanNow (m : Monitor) (hs : Within top total s.registry) :
    m.scanNow.Fulfils (World.moves S i) (monitorDuty m.maxExpected top total)
      (fun r s => Within top total s.registry ∧ r.total = total ∧
        (top ≤ m.maxExpected → r.irregular = 0)) s := by
  refine World.fulfils_clock _ stable_monitor hs (fun _ _ _ => rfl) fun now s hs => ?_
  unfold Monitor.scan Job.reserve
  split
  · refine (fulfils_snapshot hs).then ?_
    rintro counters s ⟨hs, hlen, htop⟩
    refine World.fulfils_statuses _ stable_monitor hs (fun _ _ _ => rfl) fun workers s hs => ?_
    refine (fulfils_warn _ _ hs).then fun _ s hs => ?_
    refine Program.fulfils_pure _ stable_monitor hs fun s hs => ⟨hs, ?_, fun hmax => ?_⟩
    · rw [Monitor.Report.total_ofState, hlen]
    · exact Monitor.Report.irregular_ofState fun v hv => Int.le_trans (htop v hv) hmax
  · next hbig => exact ⟨Nat.lt_of_not_le hbig, _, hs, stable_monitor⟩

/-- A scan asks nothing of the store. -/
lemma yields_turn (m : Monitor) : (Member.monitor m).turn.Yields calm fun _ => True :=
  Monitor.welcome_calm.yields_scanNow.bind fun _ _ => Program.yields_pure trivial

/-! ### All together -/

/-- The members of a run: workers on their shares, and monitors. -/
def members (workers : κ → Worker) (monitors : μ → Monitor) : κ ⊕ μ → Member
  | .inl k => .worker (workers k)
  | .inr j => .monitor (monitors j)

/-- What the turns of a member show that have ended. -/
def Shown (views : κ → Partition) (policy : Policy) (monitors : μ → Monitor) (total : Nat) :
    κ ⊕ μ → List (Turn (World τ) Member.Result) → Prop
  | .inl k, past => ∀ t ∈ past, ∃ it, t.result = .iterated (.ok it) ∧
    (views k).contains it.container = true
  | .inr j, past => ∀ t ∈ past, ∃ r, t.result = .scanned r ∧ r.total = total ∧
    (policy.ceiling ≤ (monitors j).maxExpected → r.irregular = 0)

/-- What the members owe each other, and what is known of them between two turns. -/
def pact (views : κ → Partition) (policy : Policy) (monitors : μ → Monitor) (total : Nat) :
    Pool.Pact (κ ⊕ μ) requests (World τ) Member Member.Result where
  duty
    | .inl k, m => workerDuty (views k) policy.ceiling total m.pick
    | .inr j, _ => monitorDuty (monitors j).maxExpected policy.ceiling total
  idle
    | .inl k, past, m, s => Within policy.ceiling total s.registry ∧
      (∃ w, m = .worker w ∧ w.view = views k ∧ w.policy = policy) ∧
      Shown views policy monitors total (.inl k) past
    | .inr j, past, m, s => Within policy.ceiling total s.registry ∧ m = .monitor (monitors j) ∧
      Shown views policy monitors total (.inr j) past

variable {views : κ → Partition} {policy : Policy} {monitors : μ → Monitor}

lemma within_of_pledge {l : κ ⊕ μ} {m : Member} {e : Move requests} {s s' : World τ}
    (h : ((pact views policy monitors total).duty l m).pledge e s s')
    (hs : Within policy.ceiling total s.registry) : Within policy.ceiling total s'.registry := by
  cases l with
  | inl k =>
    rcases h with h | ⟨x, -, -, h⟩
    · rwa [h]
    · exact hs.nudged h
  | inr j =>
    have h : s'.registry = s.registry := h
    rwa [h]

/-- Every member does its duty, and its pledge is what the others rely on. -/
lemma sound {S : Service (κ ⊕ μ) τ} (hcrew : Crew views total)
    (hpolicy : policy.validate = .ok ()) :
    Pool.Sound (World.moves S) Member.turn (pact views policy monitors total) where
  rely l l' v m e s s' hne hp := by
    cases l with
    | inr j => exact within_of_pledge hp
    | inl k =>
      refine ⟨within_of_pledge hp, fun n hn => ?_⟩
      cases l' with
      | inr j =>
        have hp : s'.registry = s.registry := hp
        rw [hp]
      | inl k' =>
        rcases hp with hp | ⟨x, -, hn', hp⟩
        · rw [hp]
        · -- the written counter belongs to the other worker
          rw [hp.eq, counters_write_of_ne]
          rintro rfl
          exact hne (congrArg Sum.inl (hcrew.apart k k' _ hn hn'))
  idle l past m s s' h hr := by
    cases l with
    | inl k => exact ⟨hr.1 h.1, h.2⟩
    | inr j => exact ⟨hr h.1, h.2⟩
  turn l past m s h := by
    cases l with
    | inl k =>
      obtain ⟨hs, ⟨w, rfl, hview, rfl⟩, hpast⟩ := h
      have hpick : w.view.contains w.pick = true := Worker.contains_pick (hview ▸ hcrew.ordered k)
      have hvalid : (outline w.policy.ceiling total w.pick).Valid S (.inl k)
          (workerDuty (views k) w.policy.ceiling total w.pick) w w.pick :=
        hview ▸ outline_valid hpolicy hpick
      obtain ⟨v, hv⟩ := hs.exists_counter (hcrew.lt_total (hview ▸ hpick))
      refine (hvalid.iterate hpolicy ?_).then ?_
      · -- a counter that is not negative is that of a container
        by_cases h0 : 0 ≤ v
        · exact .inr ⟨v, h0, hs, hv⟩
        · obtain rfl : v = absent := by
            have := (hs.band _ _ hv).1
            unfold absent at *
            omega
          exact .inl ⟨hs, hv⟩
      · rintro ⟨r, w'⟩ s' ⟨⟨it, rfl, hit, hs'⟩, g, rfl⟩
        refine Program.fulfils_pure _ stable_within hs' fun s' hs' =>
          ⟨hs', ⟨_, rfl, hview, rfl⟩, ?_⟩
        intro t ht
        rcases List.mem_cons.1 ht with rfl | ht
        · exact ⟨it, rfl, by rw [hit, ← hview]; exact hpick⟩
        · exact hpast t ht
    | inr j =>
      obtain ⟨hs, rfl, hpast⟩ := h
      refine (fulfils_scanNow (monitors j) hs).then ?_
      rintro r s' ⟨hs', htotal, hregular⟩
      refine Program.fulfils_pure _ stable_monitor hs' fun s' hs' => ⟨hs', rfl, ?_⟩
      intro t ht
      rcases List.mem_cons.1 ht with rfl | ht
      · exact ⟨r, rfl, htotal, hregular⟩
      · exact hpast t ht

variable [DecidableEq κ] [DecidableEq μ] {S : Service (κ ⊕ μ) τ}
  {P P' : Pool (κ ⊕ μ) requests (World τ) Member Member.Result}

omit [DecidableEq κ] [DecidableEq μ] in
lemma within_of_keeps (h : Pool.Keeps (World.moves S) (pact views policy monitors total) P)
    (l : κ ⊕ μ) : Within policy.ceiling total P.state.registry := by
  cases hc : (P.desk l).current with
  | none =>
    have hidle := h.idle hc
    cases l with
    | inl k => exact hidle.1
    | inr j => exact hidle.1
  | some turn =>
    have halways := h.always hc
    cases l with
    | inl k => exact halways
    | inr j => exact halways

/-- A container that exists for its counter never ceases to. -/
lemma nonneg_of_reaches (hcrew : Crew views total) (hpolicy : policy.validate = .ok ())
    (h : Pool.Keeps (World.moves S) (pact views policy monitors total) P)
    (run : Pool.Reaches (World.moves S) Member.turn P P') {n : Nat} {v : Int}
    (hv : P.state.registry.counters[n]? = some v) (h0 : 0 ≤ v) :
    ∃ v', P'.state.registry.counters[n]? = some v' ∧ 0 ≤ v' := by
  induction run with
  | refl => exact ⟨v, hv, h0⟩
  | @tail P₁ P₂ e run step ih =>
    obtain ⟨x, hx, hx0⟩ := ih
    rcases ((sound hcrew hpolicy).keeps h run).step_cases step with hs | ⟨l, m, rfl, hp⟩
    · rw [hs]
      exact ⟨x, hx, hx0⟩
    · cases l with
      | inr j =>
        have hp : P₂.state.registry = P₁.state.registry := hp
        rw [hp]
        exact ⟨x, hx, hx0⟩
      | inl k =>
        rcases hp with hp | ⟨y, -, -, hp⟩
        · rw [hp]
          exact ⟨x, hx, hx0⟩
        · exact hp.nonneg hx hx0

end Trajectory

open Trajectory in
/-- **Counters are safe against any store.**  Workers share out the containers and follow a
policy whose bands are in order, monitors watch them, and the store may answer anything.
Then no iteration ends with an error; every counter stays between `-1` and the ceiling of
the policy; it changes only when the worker that owns it writes the counter of the
container it picked, and by one at most; a counter that was not negative is never negative
again; no worker panics; and a scan under a configuration that makes sense finds nothing
irregular and counts all containers.  A monitor panics only if its histogram is larger than
any block of memory; if it is not, then a scan that has begun can always be brought to its
end. -/
theorem Registry.trajectory_safe {μ τ : Type} [DecidableEq μ] {total shares : Nat}
    {parts : List Partition} (hsplit : Partition.split total shares = .ok parts)
    {policy : Policy} (hpolicy : policy.validate = .ok ())
    (S : Service (Fin parts.length ⊕ μ) τ) (backend : τ) (statuses : List Worker.Status)
    {workers : Fin parts.length → Worker} (hview : ∀ k, (workers k).view = parts[k])
    (hfollow : ∀ k, (workers k).policy = policy) (monitors : μ → Monitor)
    {P : Pool (Fin parts.length ⊕ μ) requests (World τ) Member Member.Result}
    (hrun : Pool.Reaches (World.moves S) Member.turn
      (.start ⟨backend, .new total, statuses⟩ (members workers monitors)) P) :
    (∀ k, ∀ t ∈ (P.desk (.inl k)).past, ∃ it, t.result = .iterated (.ok it) ∧
      parts[k].contains it.container = true) ∧
    (∀ (n : Nat) (v : Int), P.state.registry.counters[n]? = some v →
      -1 ≤ v ∧ v ≤ policy.ceiling) ∧
    (∀ e P', Pool.Step (World.moves S) Member.turn P e P' →
      P'.state.registry = P.state.registry ∨ ∃ k n v x, n = (P.desk (.inl k)).actor.pick ∧
        e = .moved (.inl k) (.answered (.writeSlot parts[k] n x) (.ok ())) ∧
        parts[k].contains n = true ∧ P.state.registry.counters[n]? = some v ∧
        v - 1 ≤ x ∧ x ≤ v + 1 ∧ P'.state.registry = P.state.registry.write n x) ∧
    (∀ P', Pool.Reaches (World.moves S) Member.turn P P' → ∀ (n : Nat) (v : Int),
      P.state.registry.counters[n]? = some v → 0 ≤ v →
      ∃ v', P'.state.registry.counters[n]? = some v' ∧ 0 ≤ v') ∧
    (∀ k s₀ message, (P.desk (.inl k)).current ≠ some (s₀, .panic message)) ∧
    (∀ j, ∀ t ∈ (P.desk (.inr j)).past, ∃ r, t.result = .scanned r ∧
      ∀ c : Config.Longevity, c.validate = .ok () → c.policy = policy →
        c.totalContainers = total → (monitors j).maxExpected = c.maxItems →
        r.irregular = 0 ∧ r.total = c.totalContainers) ∧
    (∀ j s₀ message, (P.desk (.inr j)).current = some (s₀, .panic message) →
      Job.maxBytes < ((monitors j).maxExpected.toNat + 1) * 8) ∧
    (∀ j, ((monitors j).maxExpected.toNat + 1) * 8 ≤ Job.maxBytes → ∀ s₀ p,
      (P.desk (.inr j)).current = some (s₀, p) → ∃ P' r,
        Pool.Reaches (World.moves S) Member.turn P P' ∧
          (P'.desk (.inr j)).past = ⟨s₀, .scanned r, P'.state⟩ :: (P.desk (.inr j)).past) := by
  have hcrew := Crew.of_split hsplit
  have hsound : Pool.Sound (World.moves S) Member.turn (pact _ policy monitors total) :=
    sound hcrew hpolicy
  have hstart : Pool.Keeps (World.moves S)
      (pact (fun k : Fin parts.length => parts[k]) policy monitors total)
      (.start ⟨backend, .new total, statuses⟩ (members workers monitors)) := by
    refine Pool.keeps_start fun l => ?_
    have hnew := within_new (Int.le_of_lt (Policy.ceiling_pos hpolicy)) total
    cases l with
    | inl k => exact ⟨hnew, ⟨_, rfl, hview k, hfollow k⟩, nofun⟩
    | inr j => exact ⟨hnew, rfl, nofun⟩
  have hkeeps := hsound.keeps hstart hrun
  have hpast {P' : Pool (Fin parts.length ⊕ μ) requests (World τ) Member Member.Result}
      (run : Pool.Reaches (World.moves S) Member.turn _ P') :=
    hsound.past hstart (R := Shown (fun k : Fin parts.length => parts[k]) policy monitors total)
      (fun l past m s h => by cases l <;> exact h.2.2) (fun l => by cases l <;> exact nofun) run
  -- there is a worker, and it knows that the counters are in their band
  have hpos : 0 < parts.length := by
    obtain ⟨share, -, hshares, -, -⟩ := Partition.split_eq_ok_iff.1 hsplit
    rwa [Partition.length_of_split hsplit]
  have hwithin := within_of_keeps hkeeps (.inl ⟨0, hpos⟩)
  refine ⟨fun k => hpast hrun (.inl k), hwithin.band, fun e P' step => ?_,
    fun P' run n v hv h0 => ?_, fun k s₀ message now => ?_, ?_,
    fun j s₀ message now => hkeeps.panics now, ?_⟩
  · rcases hkeeps.step_cases step with hs | ⟨l, m, rfl, hp⟩
    · exact .inl (congrArg World.registry hs)
    · cases l with
      | inr j => exact .inl hp
      | inl k =>
        rcases hp with hp | ⟨x, rfl, hn, hp⟩
        · exact .inl hp
        · obtain ⟨v, hv, h1, h2, -⟩ := hp.slot
          exact .inr ⟨k, _, v, x, rfl, rfl, hn, hv, h1, h2, hp.eq⟩
  · exact nonneg_of_reaches hcrew hpolicy hkeeps run hv h0
  · exact (hkeeps.panics now).elim
  · intro j t ht
    obtain ⟨r, hr, htotal, hregular⟩ := hpast hrun (.inr j) t ht
    refine ⟨r, hr, fun c hc hp ht hm => ⟨hregular ?_, htotal.trans ht.symm⟩⟩
    rw [hm, ← hp]
    exact (Longevity.validate_eq_ok hc).2.2
  · intro j hmemory s₀ p now
    have hyields : p.Yields calm fun _ => True := by
      refine hrun.yields (i := .inr j) (fun _ _ => trivial) (fun s₀ p hp => by cases hp)
        (fun P₁ run free => ?_) now
      obtain ⟨-, hactor, -⟩ := (hsound.keeps hstart run).idle free
      rw [hactor]
      exact yields_turn (monitors j)
    have hanswer (q : Request) (s : World τ) (hq : calm.asks q) :
        ∃ a s', calm.told q a ∧ World.moves S (.inr j) (.answered q a) s s' := by
      obtain ⟨a, s', move⟩ := World.exists_answer (S := S) (i := .inr j) hq s
      exact ⟨a, s', trivial, move⟩
    obtain ⟨P', run', ⟨result, hend⟩ | ⟨message, hpanic⟩⟩ :=
      Pool.exists_end_of_yields hanswer hyields now
    · obtain ⟨r, rfl, -⟩ := hpast (hrun.trans run') (.inr j) ⟨s₀, result, P'.state⟩
        (hend ▸ List.mem_cons_self)
      exact ⟨P', r, run', hend⟩
    · have hbig : Job.maxBytes < ((monitors j).maxExpected.toNat + 1) * 8 :=
        (hsound.keeps hstart (hrun.trans run')).panics hpanic
      exact absurd hmemory (Nat.not_le.2 hbig)

open Trajectory in
/-- A worker creates its only container; from then on no answer of the store makes its
counter negative. -/
theorem Registry.trajectory_of_one :
    ∃ (g : Generator) (P : Pool (Fin 1 ⊕ Unit) requests (World Unit) Member Member.Result),
      Pool.Reaches (World.moves (Service.any _ _)) Member.turn
        (.start ⟨(), .new 1, []⟩ (members (fun _ => ⟨0, {}, ⟨0, 0, 0⟩, .standard, g⟩)
          fun _ => ⟨10, .ofSecs 1, .ofSecs 1, .zero⟩)) P ∧
      P.state.registry.counters[0]? = some 0 ∧
      ∀ P', Pool.Reaches (World.moves (Service.any _ _)) Member.turn P P' →
        ∃ v, P'.state.registry.counters[0]? = some v ∧ 0 ≤ v := by
  -- the worker can only pick its one container, so that its numbers need not be drawn
  obtain ⟨g, -⟩ : ∃ g, g = Generator.ofSeed 7 := ⟨_, rfl⟩
  let w : Worker := ⟨0, {}, ⟨0, 0, 0⟩, .standard, g⟩
  have hpick : w.pick = 0 := Nat.le_zero.1 (g.natIn_mem (Nat.le_refl 0)).2
  let P₀ : Pool (Fin 1 ⊕ Unit) requests (World Unit) Member Member.Result :=
    .start ⟨(), .new 1, []⟩ (members (fun _ => w) fun _ => ⟨10, .ofSecs 1, .ofSecs 1, .zero⟩)
  have hstart : Pool.Reaches (World.moves (Service.any _ Unit)) Member.turn P₀ P₀ := .refl P₀
  have run := hstart
    |>.began (.inl 0) rfl
    |>.answered (.inl 0) (.readSlot w.view w.pick) (.ok (-1)) rfl ⟨by rw [hpick]; rfl, rfl⟩
    |>.answered (.inl 0) (.call _) (.ok ()) rfl ⟨(), trivial, rfl⟩
    |>.answered (.inl 0) (.writeSlot w.view w.pick 0) (.ok ()) rfl
      (by rw [hpick]; exact ⟨rfl, rfl⟩)
  have hsafe := Registry.trajectory_safe
    (show Partition.split 1 1 = .ok [⟨0, 0, 0⟩] from rfl)
    (show Policy.standard.validate = .ok () from rfl) (Service.any _ Unit) () []
    (fun | ⟨0, _⟩ => rfl) (fun _ => rfl) _ run
  exact ⟨g, _, run, rfl, fun P' hP' => hsafe.2.2.2.1 P' hP' 0 0 rfl (by decide)⟩

open Trajectory in
/-- Without memory for its histogram, a scan panics when it has hardly begun, and the monitor
never reports, although the configuration makes sense. -/
theorem Registry.no_scan_beyond_memory :
    Longevity.vast.validate = .ok () ∧
      ∃ P : Pool (Fin 1 ⊕ Unit) requests (World Unit) Member Member.Result,
        Pool.Reaches (World.moves (Service.any _ _)) Member.turn
          (.start ⟨(), .new Longevity.vast.totalContainers, []⟩
            (members (fun _ => ⟨0, {}, ⟨0, 0, 0⟩, Longevity.vast.policy, .ofSeed 3⟩)
              fun _ => ⟨Longevity.vast.maxItems, .ofSecs 30, .ofSecs 60, .zero⟩)) P ∧
        (∃ s₀, (P.desk (.inr ())).current = some (s₀, .panic "capacity overflow")) ∧
        ∀ P', Pool.Reaches (World.moves (Service.any _ _)) Member.turn P P' →
          (P'.desk (.inr ())).past = [] := by
  let P₀ : Pool (Fin 1 ⊕ Unit) requests (World Unit) Member Member.Result :=
    .start ⟨(), .new Longevity.vast.totalContainers, []⟩
      (members (fun _ => ⟨0, {}, ⟨0, 0, 0⟩, Longevity.vast.policy, .ofSeed 3⟩)
        fun _ => ⟨Longevity.vast.maxItems, .ofSecs 30, .ofSecs 60, .zero⟩)
  have hstart : Pool.Reaches (World.moves (Service.any _ Unit)) Member.turn P₀ P₀ := .refl P₀
  have run := hstart
    |>.began (.inr ()) rfl
    |>.answered (.inr ()) .clock ⟨.zero, default⟩ rfl rfl
  refine ⟨rfl, _, run, ⟨_, rfl⟩, fun P' hP' => ?_⟩
  rw [hP'.panicked (i := .inr ()) rfl]
  rfl

end Soak
