import Soak.Proofs.Longevity.Crew
import Soak.Proofs.Longevity.Removal
import Soak.Proofs.Session.Errand

/-!
# An iteration puts everything back

A worker may find its counters and containers as it likes: an iteration ends the search that it
begins and closes the container that it opens (`Worker.restores_iterate`).  It could stop in
between only if its counter were not there to be written, but then it would not have been there
to be read.
-/

namespace Soak

open Longevity (namesIn mem_namesIn)

namespace Worker

variable {ι : Type} [DecidableEq ι] {t : Tenant ι} {I : Holdings → Prop} {x y : Holdings}
  {name : String} {h : Container.Handle} {w : Worker} {n : Nat}

lemma preserves_logFailed (w : Worker) (message container : String)
    (fields : List (String × String)) (e : CallError) :
    t.Preserves I (w.logFailed message container fields e) :=
  Tenant.preserves_log _

lemma preserves_logNothing (w : Worker) (message container : String) (counter : Int) :
    t.Preserves I (w.logNothing message container counter) :=
  Tenant.preserves_log _

/-- A call inside the open container, which may fail. -/
lemma preserves_work {c : Call} (hcall : c.inside? = some h) (hname : name ∈ t.names) :
    t.Preserves (x.Visits false name h) (Job.call c) :=
  Tenant.preserves_inside hcall hname fun hreads => nomatch hreads

lemma preserves_addItem (hname : name ∈ t.names) (w : Worker) (container : String)
    (counter : Int) :
    t.Preserves (x.Visits false name h) (w.addItem h container counter) := by
  unfold addItem
  obtain ⟨value, rng⟩ := w.rng.alphanumeric valueLength
  refine (preserves_work rfl hname).bind fun a => ?_
  cases a with
  | ok u => exact Tenant.preserves_pure _
  | error e => exact (preserves_logFailed _ _ _ _ e).bind fun _ => Tenant.preserves_pure _

lemma preserves_deleteItem (hname : name ∈ t.names) (w : Worker) (container : String)
    (counter : Int) :
    t.Preserves (x.Visits false name h) (w.deleteItem h container counter) := by
  unfold deleteItem
  split
  · exact (preserves_logNothing _ _ _ _).bind fun _ => Tenant.preserves_pure _
  · refine (preserves_work rfl hname).bind fun a => ?_
    cases a with
    | ok u => exact Tenant.preserves_pure _
    | error e => exact (preserves_logFailed _ _ _ _ e).bind fun _ => Tenant.preserves_pure _

lemma preserves_mutate (hname : name ∈ t.names) (w : Worker) (container : String)
    (counter : Int) :
    t.Preserves (x.Visits false name h) (w.mutate h container counter) := by
  unfold mutate
  split
  · exact preserves_addItem hname _ container counter
  · exact (preserves_deleteItem hname w container counter).bind fun _ => Tenant.preserves_pure _

lemma preserves_readAndUpdate (hname : name ∈ t.names) (w : Worker) (container : String)
    (counter : Int) :
    t.Preserves (x.Visits false name h) (w.readAndUpdate h container counter) := by
  unfold readAndUpdate
  split
  · exact (preserves_logNothing _ _ _ _).bind fun _ => Tenant.preserves_pure _
  · obtain ⟨k, rng⟩ := w.rng.intIn 1 counter
    refine (preserves_work rfl hname).bind fun a => ?_
    cases a
    case' error e => refine (preserves_logFailed _ _ _ _ e).bind fun _ => ?_
    -- whether the item was read or not, it is updated
    all_goals
      refine Tenant.preserves_clock.bind fun now => (preserves_work rfl hname).bind fun a => ?_
      cases a with
      | ok u => exact Tenant.preserves_pure _
      | error e => exact (preserves_logFailed _ _ _ _ e).bind fun _ => Tenant.preserves_pure _

lemma preserves_comparePage (w : Worker) (container : String) (expected : Int) (page : Json) :
    t.Preserves I (w.comparePage container expected page) := by
  unfold comparePage
  split
  · exact (Tenant.preserves_log _).bind fun _ => Tenant.preserves_pure _
  · exact (Tenant.preserves_log _).bind fun _ => Tenant.preserves_pure _
  · split
    · exact (Tenant.preserves_log _).bind fun _ => Tenant.preserves_pure _
    · exact Tenant.preserves_pure _

/-- The search is ended, whatever its page is like. -/
lemma preserves_compareCount (hname : name ∈ t.names) (hnone : x.search = none) (w : Worker)
    (container : String) (expected : Int) :
    t.Preserves (x.Visits false name h) (w.compareCount h container expected) := by
  unfold compareCount
  refine Tenant.preserves_openSearch hname hnone _ _ _ (fun e => ?_) fun k y z hy hz => ?_
  · exact (preserves_logFailed _ _ _ _ e).bind fun _ => Tenant.preserves_pure _
  · refine (Tenant.preserves_fetch k _ z hz).bind fun page z hz => ?_
    refine (Tenant.does_closeSearch_searches hy hz).bind fun _ z hz => ?_
    cases page with
    | error e =>
      exact ((preserves_logFailed _ _ _ _ e).bind fun _ => Tenant.preserves_pure _) z hz
    | ok page => exact preserves_comparePage (I := (· = y)) w container expected page z hz

/-- **The container is closed at the end of a visit**, whatever has failed. -/
lemma preserves_visit (hname : Naming.container w.backend.containerPrefix n ∈ t.names)
    (hview : w.view.contains n = true) (hslot : n ∈ t.slots) (hx : (x.slot n).isSome)
    (hnone : x.search = none) (before : Int) :
    t.Preserves (x.Kept false) (w.visit n before) := by
  unfold visit
  refine Tenant.preserves_open hname _ (fun e => ?_) fun h y z hy hz => ?_
  · exact (preserves_logFailed _ _ _ _ e).bind fun _ => Tenant.preserves_pure _
  · have hnone' : y.search = none := hy.search.trans hnone
    refine (preserves_mutate hname w _ before z hz).bind fun r z hz => ?_
    -- the counter that was read is still there
    have hcounter : (z.slot n).isSome := by rw [hz.slots, hy.slots, hx]
    obtain ⟨v, hv⟩ := Option.isSome_iff_exists.1 hcounter
    refine (Tenant.does_writeSlot hview hslot hv r.1).bind ?_
    rintro _ _ ⟨rfl, rfl⟩
    refine (preserves_readAndUpdate hname _ _ r.1 _ (hz.write hcounter r.1)).bind fun _ z hz => ?_
    refine (preserves_compareCount hname hnone' _ _ r.1 z hz).bind fun _ z hz => ?_
    refine (Tenant.does_close_kept hname hz).bind fun a z hz => ?_
    cases a with
    | error e =>
      exact ((preserves_logFailed _ _ _ _ e).bind fun _ => Tenant.preserves_pure _) z hz
    | ok u => exact Tenant.does_pure hz

/-- An iteration on the container that was picked. -/
lemma preserves_attend
    (hname : w.view.contains n = true → Naming.container w.backend.containerPrefix n ∈ t.names)
    (hslot : w.view.contains n = true → n ∈ t.slots) (hnone : x.search = none) :
    t.Preserves (x.Kept false) (w.attend n) := by
  unfold attend
  intro y hy
  have hnone' : y.search = none := hy.search.trans hnone
  refine (Tenant.does_readSlot_any hslot).bind ?_
  rintro a y ⟨rfl, hread⟩
  cases a with
  | error e => exact Tenant.does_pure hy
  | ok counter =>
    obtain ⟨hview, hvalue⟩ := hread counter rfl
    have hcounter : (y.slot n).isSome := by rw [hvalue, Option.isSome_some]
    have hvisit := preserves_visit (x := y) (hname hview) hview (hslot hview) hcounter hnone'
    dsimp only
    split
    · refine (Tenant.preserves_create (hname hview) (Naming.container_ne_empty _ _) _ _ _ y
        (.refl false y)).bind fun a z hz => ?_
      cases a with
      | error e =>
        exact ((preserves_logFailed _ _ _ _ e).bind fun _ => Tenant.preserves_pure _) z
          (hy.trans hz)
      | ok u =>
        have hcounter' : (z.slot n).isSome := by rw [hz.slots, hcounter]
        obtain ⟨v, hv⟩ := Option.isSome_iff_exists.1 hcounter'
        refine (Tenant.does_writeSlot hview (hslot hview) hv 0).bind ?_
        rintro _ _ ⟨rfl, rfl⟩
        exact (hvisit 0 _ (hz.write hcounter' 0)).mono fun _ _ hz => hy.trans hz
    · exact (hvisit counter y (.refl false y)).mono fun _ _ hz => hy.trans hz

/-- **An iteration puts everything back.** -/
lemma restores_iterate {st : Store} {registry : Registry} {statuses : List Worker.Status}
    (hst : st.Coherent) (w : Worker) :
    w.iterate.Restores (namesIn w.backend w.view.min (w.view.max + 1))
      (namesIn w.backend w.view.min (w.view.max + 1)) ⟨.start st, registry, statuses⟩ := by
  refine Job.restores_of_preserves false {n | w.view.contains n = true} hst fun x hnone => ?_
  unfold iterate
  obtain ⟨n, rng⟩ := w.rng.natIn w.view.min w.view.max
  refine (preserves_attend (fun hview => ?_) id hnone).bind fun _ => Tenant.preserves_pure _
  obtain ⟨hmin, hmax⟩ := Partition.contains_iff.1 hview
  exact mem_namesIn.2 ⟨hmin, Nat.lt_succ_of_le hmax⟩

end Worker

end Soak
