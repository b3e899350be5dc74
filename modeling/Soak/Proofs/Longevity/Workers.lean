import Soak.Proofs.Longevity.Agreement
import Soak.Proofs.Longevity.Replay
import Soak.Proofs.Session.Rehearsed

/-!
# The workers of a configuration

The workers that a configuration of a longevity run asks for share out its containers and run
in any interleaving.  At any time the counters of those that are not at work agree with the
store, even if calls fail.  Where none fails, a worker does in the crew what it does alone.
-/

namespace Soak

open Agreement in
/-- **Counters tell the truth.**  The workers of a configuration that makes sense run on a
store in memory that has none of their containers yet, and calls of theirs fail at any time,
with any error, and without effect.  Then every counter whose owner is not working on it is
`-1` exactly if its container does not exist, and otherwise the container has exactly the
items numbered from one to the counter.  No iteration ends with an error, a completed one
reports what its counter says or nothing, and nobody ever warns that the numbers differ.
As long as no call of a worker has failed, each of its iterations is completed. -/
theorem Registry.counters_tell_truth {c : Config.Longevity} {parts : List Partition}
    (hvalid : c.validate = .ok ())
    (hsplit : Partition.split c.totalContainers c.workers = .ok parts)
    (hmax : c.maxItems < 2 ^ 63) (b : Config.Backend) (seeds : Seeds) {κ : Type} [DecidableEq κ]
    {es : List (Shared.Event κ)} {prior : Shared κ}
    (hprior : Shared.Run (.start .empty) es prior)
    (habsent : ∀ n < c.totalContainers,
      prior.store.containers[Naming.container b.containerPrefix n]? = none)
    (statuses : List Worker.Status)
    {P : Pool (Fin parts.length) requests (World (Faulty (Fin parts.length))) Worker
      (Except SetupError Iteration)}
    (hrun : Pool.Reaches (World.moves (Faulty.service (Fin parts.length))) Worker.iterate
      (.start ⟨.start prior.store, .new c.totalContainers, statuses⟩
        fun k => Longevity.worker b c seeds parts[k]) P) :
    (∀ n < c.totalContainers,
      (∀ k : Fin parts.length, parts[k].contains n = true →
        (P.desk k).current = none ∨ (P.desk k).actor.pick ≠ n) →
      ∃ v : Int, P.state.registry.counters[n]? = some v ∧ -1 ≤ v ∧
        (v = -1 ↔ P.state.backend.shared.store.containers[
          Naming.container b.containerPrefix n]? = none) ∧
        (0 ≤ v → ∃ d : Container, P.state.backend.shared.store.containers[
            Naming.container b.containerPrefix n]? = some d ∧
          ∀ key : Item.Key, key ∈ d.items ↔ ∃ k : Int, 1 ≤ k ∧ k ≤ v ∧
            key = ⟨b.itemType, Naming.lifecycleItem b.itemIdPrefix k⟩)) ∧
    (∀ k, ∀ t ∈ (P.desk k).past, ∃ it, t.result = .ok it ∧
      ∀ n first last reported, it = .completed n first last (some reported) →
        (reported : Int) = last) ∧
    (∀ k entry a P', Pool.Step (World.moves (Faulty.service (Fin parts.length))) Worker.iterate P
      (.moved k (.answered (.log entry) a)) P' → entry.message ≠ Worker.mismatch) ∧
    (∀ k s₀ message, (P.desk k).current ≠ some (s₀, .panic message)) ∧
    (b.Readable → ∀ k, ∀ t ∈ (P.desk k).past, t.after.backend.failures k = [] →
      ∃ n first last reported, t.result = .ok (.completed n first last (some reported))) := by
  obtain ⟨-, hpolicy, hceiling⟩ := Longevity.validate_eq_ok hvalid
  have hcrew := Crew.of_split hsplit
  have hsound : Pool.Sound (World.moves (Faulty.service (Fin parts.length))) Worker.iterate
      (pact (fun k : Fin parts.length => parts[k]) c.policy c.totalContainers b) :=
    sound hcrew hpolicy (by omega)
  have hstart := keeps_start hcrew hpolicy hprior habsent statuses
    (fun k : Fin parts.length => Longevity.worker b c seeds parts[k]) (fun _ => rfl) (fun _ => rfl)
    (fun _ => rfl)
  have hkeeps := hsound.keeps hstart hrun
  have hpast : ∀ k, (estate (fun k : Fin parts.length => parts[k]) c.policy c.totalContainers b
      k).Chronicle (P.desk k).past :=
    hsound.past hstart (fun k past w s h => h.1.chronicle) (fun _ => trivial) hrun
  refine ⟨fun n hlt hidle => ?_, fun k t ht => ?_, fun k entry a P' step => ?_,
    fun k s₀ message now => hkeeps.panics now, fun hread k t ht hnone => ?_⟩
  · -- the owner of the container knows how it is
    obtain ⟨k, hk⟩ := Partition.exists_owner hsplit hlt
    obtain ⟨v, hv, -, haccounts⟩ := truthful_of_keeps hkeeps hk (hidle k hk)
    refine ⟨v, hv, ?_⟩
    change Accounts b v
      P.state.backend.shared.store.containers[Naming.container b.containerPrefix n]? at haccounts
    cases hd : P.state.backend.shared.store.containers[Naming.container b.containerPrefix n]? with
    | none =>
      rw [hd] at haccounts
      obtain rfl : v = -1 := haccounts
      exact ⟨by decide, by simp, fun h => absurd h (by decide)⟩
    | some d =>
      rw [hd] at haccounts
      have hv0 : 0 ≤ v := haccounts.nonneg
      have hne : v ≠ -1 := by omega
      exact ⟨by omega, by simp [hne], fun _ => ⟨d, rfl, haccounts.mem_iff⟩⟩
  · obtain ⟨later, earlier, heq⟩ := List.mem_iff_append.1 ht
    obtain ⟨it, htold⟩ := (heq ▸ hpast k).told
    refine ⟨it, htold.result, ?_⟩
    rintro n first last reported rfl
    obtain ⟨failed, -, -, -, hreported, -⟩ := htold.verdict
    exact hreported reported rfl
  · exact (hkeeps.pledge step).2.2 entry a rfl
  · obtain ⟨later, earlier, heq⟩ := List.mem_iff_append.1 ht
    obtain ⟨n, first, last, reported, hresult, -⟩ := (heq ▸ hpast k).completed hread hnone
    exact ⟨n, first, last, reported, hresult⟩

open Recorder in
/-- Two workers take a turn each, and the first one fails to add its item: its container
stays empty, and that of the other one has an item. -/
theorem Registry.counters_of_rehearsal :
    ∃ P : Pool (Fin 2) requests (World (Faulty (Fin 2))) Worker (Except SetupError Iteration),
      Pool.Reaches (World.moves (Faulty.service (Fin 2))) Worker.iterate
        (.start ⟨.start .empty, .new 2, []⟩ fun k => Longevity.worker {}
          { totalContainers := 2, workers := 2 } ⟨5⟩ [⟨0, 0, 0⟩, ⟨1, 1, 1⟩][k]) P ∧
      P.state.registry.counters = #[0, 1] ∧
      (∃ d : Container, P.state.backend.shared.store.containers[
          Naming.container "wallet_" 0]? = some d ∧ ∀ key : Item.Key, key ∉ d.items) ∧
      ∃ d : Container, P.state.backend.shared.store.containers[
          Naming.container "wallet_" 1]? = some d ∧
        ∀ key : Item.Key, key ∈ d.items ↔ key = ⟨"TestType", "record_1"⟩ := by
  let c : Config.Longevity := { totalContainers := 2, workers := 2 }
  let parts : List Partition := [⟨0, 0, 0⟩, ⟨1, 1, 1⟩]
  have hsplit : Partition.split c.totalContainers c.workers = .ok parts := by decide +kernel
  let w (p : Partition) : Worker := Longevity.worker {} c ⟨5⟩ p
  let r : Recorder :=
    { Recorder.new [⟨"add_item", some "wallet_0", none, 0, 1, .fail (.io "disk full")⟩]
        ⟨2024, 1, 1, 0, 0, 0, 0⟩ with registry := .new 2 }
  have hr : r.OnlyFails := by simp [r, OnlyFails, Recorder.new]
  -- both turns are rehearsed, one after the other
  let first := (w ⟨0, 0, 0⟩).iterate.run host.toRespondent "worker_0" r
  let second := (w ⟨1, 1, 1⟩).iterate.run host.toRespondent "worker_1" first.2
  have hfirst : first.1.map Prod.fst = .ok (.ok (.completed 0 0 0 (some 0))) := by
    decide +kernel
  have hsecond : second.1.map Prod.fst = .ok (.ok (.completed 1 0 1 (some 1))) ∧
      second.2.registry.counters = #[0, 1] := by
    decide +kernel
  let P : Pool (Fin 2) requests (World (Faulty (Fin 2))) Worker (Except SetupError Iteration) :=
    .start ⟨.start .empty, .new 2, []⟩ fun k => w parts[k]
  have shows₀ : r.Shows P.state := ⟨rfl, fun _ => rfl, rfl, rfl⟩
  obtain ⟨next₁, hrun₁⟩ := eq_of_map_fst hfirst
  obtain ⟨P₁, shows₁, hr₁, -, desk₁, others₁, run₁⟩ :=
    shows₀.reaches_of_turn hr (i := 0) rfl rfl hrun₁ (.refl P)
  have hdesk : P₁.desk 1 = P.desk 1 := others₁ 1 (by decide)
  obtain ⟨next₂, hrun₂⟩ := eq_of_map_fst hsecond.1
  obtain ⟨P₂, shows₂, -, -, desk₂, others₂, run₂⟩ :=
    shows₁.reaches_of_turn hr₁ (i := 1) (by rw [hdesk]; rfl) (by rw [hdesk]; rfl) hrun₂ run₁
  have hcounters : P₂.state.registry.counters = #[0, 1] := by
    rw [shows₂.registry]
    exact hsecond.2
  have hidle : ∀ k : Fin 2, (P₂.desk k).current = none := by
    intro k
    by_cases hk : k = 1
    · rw [hk, desk₂]
    · obtain rfl : k = 0 := by omega
      rw [others₂ 0 hk, desk₁]
  have htruth := (Registry.counters_tell_truth (c := c) (by decide) hsplit (by decide) {} ⟨5⟩
    (κ := Unit) (.nil (.start .empty)) (fun _ _ => rfl) [] run₂).1
  refine ⟨P₂, run₂, hcounters, ?_, ?_⟩
  · obtain ⟨v, hv, -, -, hitems⟩ := htruth 0 (by decide) fun k _ => .inl (hidle k)
    obtain rfl : v = 0 := by
      rw [hcounters] at hv
      exact (Option.some.inj hv).symm
    obtain ⟨d, hd, hmem⟩ := hitems (by decide)
    refine ⟨d, hd, fun key hkey => ?_⟩
    obtain ⟨k, h1, h2, -⟩ := (hmem key).1 hkey
    omega
  · obtain ⟨v, hv, -, -, hitems⟩ := htruth 1 (by decide) fun k _ => .inl (hidle k)
    obtain rfl : v = 1 := by
      rw [hcounters] at hv
      exact (Option.some.inj hv).symm
    obtain ⟨d, hd, hmem⟩ := hitems (by decide)
    refine ⟨d, hd, fun key => (hmem key).trans ?_⟩
    constructor
    · rintro ⟨k, h1, h2, rfl⟩
      obtain rfl : k = 1 := by omega
      rfl
    · rintro rfl
      exact ⟨1, by decide, by decide, rfl⟩

/-- Two iterations, perhaps in different runs, ended in the same way and left the same counters
in a share. -/
def Iteration.Agree {ι κ : Type} (view : Partition)
    (t : Turn (World (Shared ι)) (Except SetupError Iteration))
    (t' : Turn (World (Shared κ)) (Except SetupError Iteration)) : Prop :=
  t.result = t'.result ∧ ∀ m, view.contains m = true →
    t.after.registry.counters[m]? = t'.after.registry.counters[m]?

/-- **Iterations replay.**  Workers that share out containers of which none exists yet run on a
store in memory, in any interleaving.  Each of them can also run alone, with the same source of
random numbers, on a store and counters that are fresh, for as many iterations.  Whenever it
does, each iteration ends as in the crew, and leaves the same counters in its share. -/
theorem Worker.iterations_replay {c : Config.Longevity} {parts : List Partition}
    (hsplit : Partition.split c.totalContainers c.workers = .ok parts)
    (hpolicy : c.policy.validate = .ok ()) (hmax : c.policy.mixedMax < 2 ^ 63)
    (b : Config.Backend) (seeds : Seeds) {κ : Type} [DecidableEq κ] {es : List (Shared.Event κ)}
    {prior : Shared κ} (hprior : Shared.Run (.start .empty) es prior)
    (habsent : ∀ n < c.totalContainers,
      prior.store.containers[Naming.container b.containerPrefix n]? = none)
    (statuses alone : List Worker.Status)
    {P : Pool (Fin parts.length) requests (World (Shared (Fin parts.length))) Worker
      (Except SetupError Iteration)}
    (hrun : Pool.Reaches (World.moves (Shared.service (Fin parts.length))) Worker.iterate
      (.start ⟨.start prior.store, .new c.totalContainers, statuses⟩
        fun k => Longevity.worker b c seeds parts[k]) P)
    (k : Fin parts.length) :
    (∃ P' : Pool Unit requests (World (Shared Unit)) Worker (Except SetupError Iteration),
      Pool.Reaches (World.moves (Shared.service Unit)) Worker.iterate
        (.start ⟨.start .empty, .new c.totalContainers, alone⟩
          fun _ => Longevity.worker b c seeds parts[k]) P' ∧
      (P'.desk ()).past.length = (P.desk k).past.length) ∧
    ∀ P' : Pool Unit requests (World (Shared Unit)) Worker (Except SetupError Iteration),
      Pool.Reaches (World.moves (Shared.service Unit)) Worker.iterate
        (.start ⟨.start .empty, .new c.totalContainers, alone⟩
          fun _ => Longevity.worker b c seeds parts[k]) P' →
      ∀ (n : Nat) t t', (P.desk k).past.reverse[n]? = some t →
        (P'.desk ()).past.reverse[n]? = some t' →
        Iteration.Agree parts[k] t t' := by
  have hcrew := Crew.of_split hsplit
  have hsolo : Crew (fun _ : Unit => parts[k]) c.totalContainers :=
    .of_one (hcrew.ordered k) (hcrew.within k)
  have hstore := ((Shared.coherent_start (ι := κ) Store.coherent_empty).run hprior).store
  have hnone : ∀ n < c.totalContainers,
      Store.empty.containers[Naming.container b.containerPrefix n]? = none := fun n _ => rfl
  let crew (k : Fin parts.length) : Worker := Longevity.worker b c seeds parts[k]
  have htold : ∀ k, (crew k).Foretold (P.desk k).past := Replay.foretold_of_reaches hcrew
    (fun _ => rfl) (fun _ => rfl) hpolicy hmax hstore habsent statuses hrun
  constructor
  · have hcount : ∀ _ : Unit, (crew k).backend = b := fun _ => rfl
    obtain ⟨P', hrun', hlength, -⟩ := Replay.exists_run hsolo hcount (fun _ => rfl) hpolicy hmax
      Store.coherent_empty hnone alone () (P.desk k).past.length
    exact ⟨P', hrun', hlength⟩
  · intro P' hrun' n t t' ht ht'
    have htold' : (crew k).Foretold (P'.desk ()).past := Replay.foretold_of_reaches hsolo
      (fun _ => rfl) (fun _ => rfl) hpolicy hmax Store.coherent_empty hnone alone hrun' ()
    obtain ⟨hresult, hcounters⟩ := (htold k).getElem ht
    obtain ⟨hresult', hcounters'⟩ := htold'.getElem ht'
    exact ⟨hresult.trans hresult'.symm, fun m hm => (hcounters m hm).trans (hcounters' m hm).symm⟩

/-- The second one of two workers goes through three iterations, and when it is alone it goes
through the same ones. -/
theorem Worker.iterations_replay_of_two :
    ∃ (P : Pool (Fin 2) requests (World (Shared (Fin 2))) Worker (Except SetupError Iteration))
      (P' : Pool Unit requests (World (Shared Unit)) Worker (Except SetupError Iteration)),
      Pool.Reaches (World.moves (Shared.service (Fin 2))) Worker.iterate
        (.start ⟨.start .empty, .new 2, []⟩ fun k => Longevity.worker {}
          { totalContainers := 2, workers := 2 } ⟨5⟩ [⟨0, 0, 0⟩, ⟨1, 1, 1⟩][k]) P ∧
      Pool.Reaches (World.moves (Shared.service Unit)) Worker.iterate
        (.start ⟨.start .empty, .new 2, []⟩ fun _ => Longevity.worker {}
          { totalContainers := 2, workers := 2 } ⟨5⟩ ⟨1, 1, 1⟩) P' ∧
      (P.desk 1).past.length = 3 ∧ (P'.desk ()).past.length = 3 ∧
      ∀ (n : Nat) t t', (P.desk 1).past.reverse[n]? = some t →
        (P'.desk ()).past.reverse[n]? = some t' → Iteration.Agree ⟨1, 1, 1⟩ t t' := by
  let c : Config.Longevity := { totalContainers := 2, workers := 2 }
  let parts : List Partition := [⟨0, 0, 0⟩, ⟨1, 1, 1⟩]
  have hsplit : Partition.split c.totalContainers c.workers = .ok parts := by decide
  have hpolicy : c.policy.validate = .ok () := by decide
  have hcrew := Crew.of_split hsplit
  let crew (k : Fin 2) : Worker := Longevity.worker {} c ⟨5⟩ parts[k]
  have hbackend : ∀ k, (crew k).backend = {} := fun _ => rfl
  obtain ⟨P, hrun, hlength, -⟩ := Replay.exists_run hcrew hbackend (fun _ => rfl) hpolicy
    (by decide) Store.coherent_empty (fun _ _ => rfl) [] 1 3
  obtain ⟨⟨P', hrun', hlength'⟩, hagree⟩ := Worker.iterations_replay hsplit hpolicy (by decide) {}
    ⟨5⟩ (.nil (.start .empty) : Shared.Run (ι := Unit) _ _ _) (fun _ _ => rfl) [] [] hrun 1
  exact ⟨P, P', hrun, hrun', hlength, hlength'.trans hlength, hagree P' hrun'⟩

end Soak
