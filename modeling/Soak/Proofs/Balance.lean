import Soak.Proofs.Chain.Balance
import Soak.Proofs.Load.Balance
import Soak.Proofs.Load.Population
import Soak.Proofs.Longevity.Balance

/-!
# Components put everything back

There are four kinds of work that open containers and searches: the thread of a partition in a
load run, a stage of the chained benchmark, the filling of a container, and an iteration of a
worker.  Each of them restores the store on which it begins, whatever this store is like.
-/

namespace Soak

open Longevity (namesIn)

/-- **No component leaks a handle or a search, or writes where it should not.**  Each of them
begins on any store that calls can lead to, and with any arguments: containers and items may be
there or not, containers may be open already, and texts may be no JSON and no query.  It comes to
an end, and then the same handles are open and the same searches have the same results before
them.  At no point does it touch a container of another name than its own, and if its action or
stage only reads, then no container has changed in the end.

There has to be memory for the random texts with which a container is filled. -/
theorem components_restore_store {κ : Type} [DecidableEq κ] {es : List (Shared.Event κ)}
    {prior : Shared κ} (hprior : Shared.Run (.start .empty) es prior) (registry : Registry)
    (statuses : List Worker.Status) :
    (∀ (c : LoadContext) (action : Action) (p : Partition),
      (Load.containers c action (p.min + 1) p.size).Restores
        (namesIn c.backend (p.min + 1) (p.min + 1 + p.size))
        (if action.reads then ∅ else namesIn c.backend (p.min + 1) (p.min + 1 + p.size))
        ⟨.start prior.store, registry, statuses⟩) ∧
    (∀ (b : Config.Backend) (stage : Chain.Stage) (thread op : Nat),
      (stage.execute b thread op).Restores {Naming.chainContainer thread op}
        (if stage.reads then ∅ else {Naming.chainContainer thread op})
        ⟨.start prior.store, registry, statuses⟩) ∧
    (∀ (b : Config.Backend) (c : Config.Populate) (number : Nat) (g : Generator),
      Populate.Fits c → (Populate.container b c number g).Restores
        {Naming.container b.containerPrefix number} {Naming.container b.containerPrefix number}
        ⟨.start prior.store, registry, statuses⟩) ∧
    ∀ w : Worker, w.iterate.Restores (namesIn w.backend w.view.min (w.view.max + 1))
      (namesIn w.backend w.view.min (w.view.max + 1))
      ⟨.start prior.store, registry, statuses⟩ := by
  have hst : prior.store.Coherent :=
    ((Shared.coherent_start (ι := κ) Store.coherent_empty).run hprior).store
  refine ⟨fun c action p => ?_, fun b stage thread op => ?_, fun b c number g hfits => ?_,
    fun w => ?_⟩
  · exact Load.restores_containers hst c action (p.min + 1) p.size
  · exact Chain.Stage.restores_execute hst b stage thread op
  · exact Populate.restores_container hst hfits b number g
  · exact Worker.restores_iterate hst w

/-- With this prefix, numbered containers have the names of those of the chained benchmark. -/
def chainNames : Config.Backend where
  containerPrefix := "chain_0_"

/-- All components are sent to a container that somebody else has opened, and restore the store,
in which it is open. -/
theorem components_restore_container_of_others :
    ∃ (es : List (Shared.Event Unit)) (prior : Shared Unit), Shared.Run (.start .empty) es prior ∧
      prior.store.opened[(1 : Int)]? = some "chain_0_1" ∧
      (Load.containers ⟨chainNames, ⟨"", ∅, []⟩, 2, "value"⟩ .addItem 1 1).Restores
        (namesIn chainNames 1 2) (namesIn chainNames 1 2) ⟨.start prior.store, ⟨#[0, 3]⟩, []⟩ ∧
      (Chain.Stage.getItem.execute chainNames 0 1).Restores {"chain_0_1"} ∅
        ⟨.start prior.store, ⟨#[0, 3]⟩, []⟩ ∧
      (Populate.container chainNames {} 1 (.ofSeed 7)).Restores {"chain_0_1"} {"chain_0_1"}
        ⟨.start prior.store, ⟨#[0, 3]⟩, []⟩ ∧
      (Worker.iterate ⟨0, chainNames, ⟨0, 1, 1⟩, .standard, .ofSeed 7⟩).Restores
        (namesIn chainNames 1 2) (namesIn chainNames 1 2) ⟨.start prior.store, ⟨#[0, 3]⟩, []⟩ := by
  let creation : Call := .createContainer "chain_0_1" "default" "\x7b\x7d" "\x7b\x7d"
  let opening : Call := .openContainer "chain_0_1" "\x7b\x7d"
  let created : Shared Unit := { Shared.start .empty with store := (Store.empty.answer creation).2 }
  let prior := (created.take () opening).conclude () opening 1
  have hprior : Shared.Run (.start .empty) _ prior := Shared.Run.nil (.start .empty)
    |>.snoc (@Shared.Step.answered _ _ _ () creation rfl rfl)
    |>.snoc (@Shared.Step.took _ _ _ () opening rfl rfl)
    |>.snoc (@Shared.Step.concluded _ _ _ () opening 1 rfl)
  obtain ⟨hload, hstage, hfill, hiterate⟩ := components_restore_store hprior ⟨#[0, 3]⟩ []
  refine ⟨_, prior, hprior, rfl, ?_, ?_, ?_, ?_⟩
  · exact hload ⟨chainNames, ⟨"", ∅, []⟩, 2, "value"⟩ .addItem ⟨0, 0, 0⟩
  · exact hstage chainNames .getItem 0 1
  · exact hfill chainNames {} 1 (.ofSeed 7) ⟨by decide, by decide, fun _ _ => by decide⟩
  · exact hiterate ⟨0, chainNames, ⟨0, 1, 1⟩, .standard, .ofSeed 7⟩

/-- When there is no memory for the value of the items, the thread panics while the container is
open, and the handle is lost. -/
theorem container_stays_open_beyond_memory :
    Populate.oversized.validate = .ok () ∧
      ¬ Inevitably (World.moves (Shared.service Client)) (fun _ _ _ _ => True)
        (fun _ s => s.backend.store.opened = Store.empty.opened)
        (.alone (Run.ofProgram (Populate.container { credentials := "\x7b\x7d" }
          Populate.oversized 1 (.ofSeed 3))))
        ⟨.start .empty, .new 0, []⟩ := by
  refine ⟨rfl, fun h => ?_⟩
  have created := (h.step (.answered ⟨_, .answered rfl rfl, rfl⟩)).1
  have prepared := (created.step (.prepared ⟨_, ⟨_, .took rfl rfl⟩, rfl⟩)).1
  have panicked := (prepared.step (.answered ⟨_, .concluded rfl, rfl⟩)).1
  have hnone := congrArg (·[(1 : Int)]?) (panicked.of_outcome rfl)
  cases hnone

end Soak
