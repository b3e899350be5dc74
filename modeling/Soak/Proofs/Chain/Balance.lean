import Soak.Proofs.Chain.Stage
import Soak.Proofs.Session.Errand

/-!
# The stages of the chained benchmark put everything back

A stage closes the container that it opens and ends the search that it begins, whatever it finds,
and the stages that read change nothing (`Chain.Stage.restores_execute`).
-/

namespace Soak

namespace Chain

/-- Whether a stage only looks at its container. -/
def Stage.reads : Stage → Bool
  | getMetadata | getItem | searchItems | searchAll => true
  | _ => false

variable {ι : Type} [DecidableEq ι] {t : Tenant ι} {I : Holdings → Prop} {x : Holdings}
  {name : String} {h : Container.Handle} {reads : Bool}

lemma preserves_perform {call : Call} (hcall : t.Preserves I (Job.call call)) :
    t.Preserves I (perform call) :=
  hcall.bind fun _ => Tenant.preserves_pure _

/-- A search is ended, whatever reading its results was answered. -/
lemma preserves_search (hname : name ∈ t.names) (hnone : x.search = none)
    (itemType query : String) :
    t.Preserves (x.Visits reads name h) (search h itemType query) := by
  refine Tenant.preserves_openSearch hname hnone _ _ _ (fun e => Tenant.preserves_pure _)
    fun k y z hy hz => ?_
  refine (preserves_perform (Tenant.preserves_fetch k 1) z hz).bind fun _ z hz => ?_
  exact ((Tenant.does_closeSearch_searches hy hz).bind fun _ _ hz => Tenant.does_pure hz).bind
    fun _ _ hz => Tenant.does_pure hz

lemma preserves_withOpen {stage : Stage} (hname : name ∈ t.names) (hnone : x.search = none)
    (b : Config.Backend) (id : String) :
    t.Preserves (x.Visits stage.reads name h) (withOpen b id h stage) := by
  cases stage with
  | createContainer | deleteContainer => exact Tenant.preserves_pure _
  | getMetadata | getItem =>
    exact preserves_perform (Tenant.preserves_inside rfl hname fun _ _ => rfl)
  | setMetadata | addItem | updateItemValue | addAttributes | updateAttributes
  | deleteAttributes | deleteItem =>
    exact preserves_perform (Tenant.preserves_inside rfl hname fun hreads => nomatch hreads)
  | searchItems | searchAll => exact preserves_search hname hnone _ _

/-- **The container of a stage is closed in any case.** -/
lemma Stage.preserves_execute {stage : Stage} {thread op : Nat}
    (hname : Naming.chainContainer thread op ∈ t.names) (hnone : x.search = none)
    (b : Config.Backend) :
    t.Preserves (x.Kept stage.reads) (stage.execute b thread op) := by
  by_cases hcreate : stage = .createContainer
  · subst hcreate
    exact preserves_perform
      (Tenant.preserves_create hname (Naming.chainContainer_ne_empty thread op) _ _ _)
  by_cases hdelete : stage = .deleteContainer
  · subst hdelete
    exact preserves_perform (Tenant.preserves_delete hname _)
  rw [execute_eq hcreate hdelete]
  refine Tenant.preserves_open hname _ (fun e => Tenant.preserves_pure _) fun h y z hy hz => ?_
  refine (preserves_withOpen hname (hy.search.trans hnone) b _ z hz).bind fun _ z hz => ?_
  exact ((Tenant.does_close_kept hname hz).bind fun _ _ hz => Tenant.does_pure hz).bind
    fun _ _ hz => Tenant.does_pure hz

/-- **A stage puts everything back.** -/
lemma Stage.restores_execute {st : Store} {registry : Registry} {statuses : List Worker.Status}
    (hst : st.Coherent) (b : Config.Backend) (stage : Stage) (thread op : Nat) :
    (stage.execute b thread op).Restores {Naming.chainContainer thread op}
      (if stage.reads then ∅ else {Naming.chainContainer thread op})
      ⟨.start st, registry, statuses⟩ :=
  Job.restores_of_preserves stage.reads ∅ hst
    fun _ hnone => Stage.preserves_execute (Set.mem_singleton _) hnone b

end Chain

end Soak
