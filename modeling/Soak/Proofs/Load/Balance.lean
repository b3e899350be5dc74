import Soak.Proofs.Load.Filling
import Soak.Proofs.Longevity.Removal
import Soak.Proofs.Session.Errand

/-!
# Load and population put everything back

Whatever the containers of a load run are like, the thread of a partition closes what it opens,
and if its action only reads, then it changes nothing (`Load.restores_containers`).  So does the
filling of a container if there is memory for the random texts (`Populate.restores_container`).
-/

namespace Soak

open Longevity (namesIn mem_namesIn)

/-- Whether an action only looks at its container. -/
def Action.reads : Action → Bool
  | openAndCloseContainer | getItem | searchItems => true
  | _ => false

variable {ι : Type} [DecidableEq ι] {t : Tenant ι} {I : Holdings → Prop} {x : Holdings}
  {name : String} {h : Container.Handle} {reads : Bool} {st : Store} {registry : Registry}
  {statuses : List Worker.Status}

namespace Load

variable {α : Type} {c : LoadContext} {action : Action} {target : Target} {number : Nat}

lemma preserves_settle (target : Target) (what : String) (a : Except CallError α) :
    t.Preserves I (target.settle what a) := by
  cases a with
  | ok v => exact Tenant.preserves_pure _
  | error e => exact (Tenant.preserves_log _).bind fun _ => Tenant.preserves_pure _

lemma preserves_attempt {call : Call} (hcall : t.Preserves I (Job.call call)) (target : Target)
    (what : String) : t.Preserves I (target.attempt what call) :=
  hcall.bind fun a => preserves_settle target what a

lemma preserves_eachItem {perform : Container.Handle → String → Job (Except CallError Unit)}
    (hperform : ∀ h id, target.handle = some h → t.Preserves I (perform h id)) (items : Nat)
    (what : String) : t.Preserves I (target.eachItem items what perform) := by
  unfold Target.eachItem
  split
  · exact (Tenant.preserves_log _).bind fun _ => Tenant.preserves_pure _
  · next h hh =>
    refine (Tenant.preserves_mapRange fun n _ _ => ?_).bind fun _ => Tenant.preserves_pure _
    exact (hperform h _ hh).bind fun a => preserves_settle target what a

lemma preserves_readItem (hname : name ∈ t.names) (itemType id : String) :
    t.Preserves (x.Visits reads name h) (readItem h itemType id) := by
  refine (Tenant.preserves_inside rfl hname fun _ _ => rfl).bind fun a => ?_
  split <;> exact Tenant.preserves_pure _

/-- A search is ended, whatever reading a page of it was answered. -/
lemma preserves_searchPage (hname : name ∈ t.names) (hnone : x.search = none) :
    t.Preserves (x.Visits reads name h) (searchPage c ⟨number, name, some h⟩) := by
  refine Tenant.preserves_openSearch hname hnone _ _ _ (fun e => ?_) fun k y z hy hz => ?_
  · exact (preserves_settle _ _ _).bind fun _ => Tenant.preserves_pure _
  · refine (preserves_settle _ _ _ z hz).bind fun _ z hz => ?_
    refine (preserves_attempt (Tenant.preserves_fetch k _) _ _ z hz).bind fun _ z hz => ?_
    refine Tenant.Does.bind ((Tenant.does_closeSearch_searches hy hz).bind fun a z hz => ?_)
      fun _ z hz => Tenant.does_pure hz
    exact preserves_settle (I := (· = y)) _ _ a z hz

/-- An action works on the container that is opened for it. -/
lemma preserves_execute_open (hopening : action.needsOpening = true) (hname : name ∈ t.names)
    (hnone : x.search = none) :
    t.Preserves (x.Visits action.reads name h) (action.execute c ⟨number, name, some h⟩) := by
  cases action with
  | addContainer | openAndCloseContainer | deleteContainer => cases hopening
  | addItem | deleteItem | updateItemValue | addAttributes | updateAttributes
  | deleteAttributes =>
    rw [Action.execute]
    refine preserves_eachItem (fun h' id hh => ?_) _ _
    obtain rfl := Option.some.inj hh
    exact Tenant.preserves_inside rfl hname (by simp [Action.reads])
  | getItem =>
    rw [Action.execute]
    refine preserves_eachItem (fun h' id hh => ?_) _ _
    obtain rfl := Option.some.inj hh
    exact preserves_readItem hname _ id
  | searchItems => exact preserves_searchPage hname hnone

/-- An action that opens no container before it closes the one that it opens itself. -/
lemma preserves_execute_closed (hopening : action.needsOpening = false) (hname : name ∈ t.names)
    (hne : name ≠ "") :
    t.Preserves (x.Kept action.reads) (action.execute c ⟨number, name, none⟩) := by
  cases action with
  | addContainer => exact preserves_attempt (Tenant.preserves_create hname hne _ _ _) _ _
  | deleteContainer => exact preserves_attempt (Tenant.preserves_delete hname _) _ _
  | openAndCloseContainer =>
    refine Tenant.preserves_open hname _ (fun e => ?_) fun h y z _ hz => ?_
    · exact (preserves_settle _ _ _).bind fun _ => Tenant.preserves_pure _
    · refine (preserves_settle _ _ _ z hz).bind fun _ z hz => ?_
      refine Tenant.Does.bind ((Tenant.does_close_kept hname hz).bind fun a z hz => ?_)
        fun _ z hz => Tenant.does_pure hz
      exact preserves_settle _ _ a z hz
  | _ => cases hopening

lemma preserves_perform (haction : t.Preserves I (action.execute c target)) :
    t.Preserves I (perform c action target) :=
  haction.timed.bind fun _ => Tenant.preserves_pure _

/-- **A container is closed after an action for which it was opened**, whatever has failed. -/
lemma preserves_container (hname : Naming.container c.backend.containerPrefix number ∈ t.names)
    (hnone : x.search = none) : t.Preserves (x.Kept action.reads) (container c action number) := by
  unfold container
  cases hopening : action.needsOpening with
  | false =>
    exact preserves_perform (preserves_execute_closed hopening hname (Naming.container_ne_empty _ _))
  | true =>
    refine Tenant.preserves_open hname _ (fun e => ?_) fun h y z hy hz => ?_
    · exact (Tenant.preserves_log _).bind fun _ => Tenant.preserves_pure _
    · have hopen : t.Preserves (y.Visits action.reads _ h) (action.execute c ⟨number, _, some h⟩) :=
        preserves_execute_open hopening hname (hy.search.trans hnone)
      refine (preserves_perform hopen z hz).bind fun _ z hz => ?_
      refine (Tenant.does_close_kept hname hz).bind fun a z hz => ?_
      cases a with
      | error e => exact ((Tenant.preserves_log _).bind fun _ => Tenant.preserves_pure _) z hz
      | ok u => exact Tenant.does_pure hz

/-- **The thread of a partition puts everything back.** -/
lemma restores_containers (hst : st.Coherent) (c : LoadContext) (action : Action)
    (first count : Nat) :
    (containers c action first count).Restores (namesIn c.backend first (first + count))
      (if action.reads then ∅ else namesIn c.backend first (first + count))
      ⟨.start st, registry, statuses⟩ := by
  unfold containers Job.reserveSpans
  by_cases hmemory : count * 16 ≤ Job.maxBytes
  · rw [Job.reserve_of_le hmemory]
    refine Job.restores_of_preserves action.reads ∅ hst fun x hnone => ?_
    refine (Tenant.preserves_pure ()).bind fun _ => ?_
    refine (Tenant.preserves_mapRange fun n hn hlt => ?_).bind fun _ => Tenant.preserves_pure _
    exact preserves_container (mem_namesIn.2 ⟨hn, hlt⟩) hnone
  · -- without memory for the spans, the thread panics before it has opened anything
    rw [Job.reserve, if_neg hmemory]
    exact Job.restores_panic _ _ _ _

end Load

namespace Populate

variable {b : Config.Backend} {c : Config.Populate} {number : Nat}

lemma preserves_failed (message : String) (fields : List (String × String)) (e : CallError) :
    t.Preserves I (failed message fields e) :=
  (Tenant.preserves_log _).bind fun _ => Tenant.preserves_pure _

lemma preserves_inTurn {perform : Nat → Generator → Job (Report × Generator)} {first count : Nat}
    (h : ∀ n g, first ≤ n → n < first + count → t.Preserves I (perform n g)) (g : Generator) :
    t.Preserves I (inTurn perform first count g) :=
  Tenant.preserves_foldRange (fun r n hn hlt => (h n r.2 hn hlt).bind
    fun _ => Tenant.preserves_pure _) _

/-- An item is added or not. -/
lemma preserves_item (hfits : Fits c) (hname : name ∈ t.names) {n : Nat}
    (hlt : n < 1 + c.itemsPerContainer) (value : String) (g : Generator) :
    t.Preserves (x.Visits false name h) (item b c number name value h n g) := by
  have hmemory (hrandom : customItems c.itemsPerContainer c.customPercent < n ∧
      ¬ c.attributeTemplate.isEmpty = true) : c.randomAttributeLen * 1 ≤ Job.maxBytes :=
    (Nat.mul_one _).trans_le (hfits.attributes (by omega) (eq_false_of_ne_true hrandom.2))
  have hadded (attributes : Attributes) : t.Preserves (x.Visits false name h)
      (Job.call (.addItem h b.itemType (Naming.bulkItem number n) value attributes)) :=
    Tenant.preserves_inside rfl hname fun hreads => nomatch hreads
  unfold item
  dsimp only
  split
  case' isTrue hrandom => rw [Job.reserve_of_le (hmemory hrandom), pure_bind]
  all_goals
    refine (hadded _).bind fun a => ?_
    cases a with
    | ok u => exact Tenant.preserves_pure _
    | error e => exact (preserves_failed _ _ e).bind fun _ => Tenant.preserves_pure _

/-- **A container is closed when it has been filled**, whatever has failed. -/
lemma preserves_container (hfits : Fits c)
    (hname : Naming.container b.containerPrefix number ∈ t.names) (g : Generator) :
    t.Preserves (x.Kept false) (container b c number g) := by
  unfold container
  refine (Tenant.preserves_create hname (Naming.container_ne_empty _ _) _ _ _).bind fun a => ?_
  cases a with
  | error e => exact (preserves_failed _ _ e).bind fun _ => Tenant.preserves_pure _
  | ok u =>
    refine Tenant.preserves_open hname _ (fun e => ?_) fun h y z _ hz => ?_
    · exact (preserves_failed _ _ e).bind fun _ => Tenant.preserves_pure _
    · dsimp only
      rw [Job.reserve_of_le ((Nat.mul_one _).trans_le hfits.value), pure_bind]
      have hitems (value : String) (g : Generator) : t.Preserves (y.Visits false _ h)
          (inTurn (item b c number _ value h) 1 c.itemsPerContainer g) :=
        preserves_inTurn (fun n g _ hlt => preserves_item hfits hname hlt value g) g
      refine (hitems _ _ z hz).bind fun _ z hz => ?_
      refine (Tenant.does_close_kept hname hz).bind fun a z hz => ?_
      cases a with
      | error e => exact ((preserves_failed _ _ e).bind fun _ => Tenant.preserves_pure _) z hz
      | ok u => exact Tenant.does_pure hz

/-- **Filling a container puts everything back**, if there is memory for the random texts. -/
lemma restores_container (hst : st.Coherent) (hfits : Fits c) (b : Config.Backend) (number : Nat)
    (g : Generator) :
    (container b c number g).Restores {Naming.container b.containerPrefix number}
      {Naming.container b.containerPrefix number} ⟨.start st, registry, statuses⟩ :=
  Job.restores_of_preserves false ∅ hst fun _ _ =>
    preserves_container hfits (Set.mem_singleton _) g

end Populate

end Soak
