import Soak.Proofs.Longevity.Agreement
import Soak.Proofs.Session.Rehearsed

/-!
# What an iteration recovers from

A failed call ends an iteration early, and the next one tries again.  That works for every
call except the one that closes a container: if it fails, then the container stays open,
nobody has its handle any more, and no later iteration can open it.
-/

namespace Soak

variable {ι : Type} [DecidableEq ι]

open Agreement in
/-- **Exactly the failures to close are final.**  Workers on their shares of a store in
memory, with any failing calls.  In every iteration, a container is left open exactly if a
call to close one failed; and an iteration in which no call failed is completed, unless an
earlier one on the same container failed to close it, and then the container cannot be
opened. -/
theorem Worker.quiet_iteration_spec {views : ι → Partition} {total : Nat}
    (hcrew : Crew views total) {policy : Policy} (hpolicy : policy.validate = .ok ())
    (htop : policy.ceiling < 2 ^ 63) {b : Config.Backend} (hread : b.Readable) {κ : Type}
    [DecidableEq κ] {es : List (Shared.Event κ)} {prior : Shared κ}
    (hprior : Shared.Run (.start .empty) es prior)
    (habsent : ∀ n < total, prior.store.containers[Naming.container b.containerPrefix n]? = none)
    (statuses : List Worker.Status) {workers : ι → Worker} (hbackend : ∀ i, (workers i).backend = b)
    (hview : ∀ i, (workers i).view = views i) (hfollow : ∀ i, (workers i).policy = policy)
    {P : Pool ι requests (World (Faulty ι)) Worker (Except SetupError Iteration)}
    (hrun : Pool.Reaches (World.moves (Faulty.service ι)) Worker.iterate
      (.start ⟨.start prior.store, .new total, statuses⟩ workers) P)
    {i : ι} {later earlier : List (Visit ι)} {t : Visit ι}
    (hpast : (P.desk i).past = later ++ t :: earlier) :
    ∃ n it failed, it.container = n ∧ t.result = .ok it ∧ (views i).contains n = true ∧
      t.after.backend.failures i = failed ++ t.before.backend.failures i ∧
      ((∃ first last, it = .closeFailed n first last) ↔ ∃ h, Call.closeContainer h ∈ failed) ∧
      (failed = [] →
        ((∃ first last reported, it = .completed n first last reported) ↔ ¬ LeftOpen earlier n) ∧
        (it = .openFailed n ↔ LeftOpen earlier n)) := by
  have hstart := keeps_start hcrew hpolicy hprior habsent statuses workers hbackend hview hfollow
  have hchronicle : (estate views policy total b i).Chronicle (P.desk i).past :=
    (sound hcrew hpolicy htop).past hstart (fun i past w s h => h.1.chronicle) (fun _ => trivial)
      hrun i
  rw [hpast] at hchronicle
  obtain ⟨it, htold⟩ := hchronicle.told
  obtain ⟨failed, hfailed, hverdict⟩ := htold.verdict
  refine ⟨it.container, it, failed, rfl, htold.result, htold.owned, hfailed,
    hverdict.closeFailed_iff, ?_⟩
  rintro rfl
  rcases hverdict.of_quiet hread with ⟨hfree, first, last, reported, hit, -⟩ | ⟨hopen, hit⟩
  · refine ⟨⟨fun _ => hfree, fun _ => ⟨first, last, some reported, hit⟩⟩, fun h => ?_,
      fun h => (hfree h).elim⟩
    cases hit.symm.trans h
  · refine ⟨⟨?_, fun h => (h hopen).elim⟩, fun _ => hopen, fun _ => hit⟩
    rintro ⟨first, last, reported, h⟩
    cases hit.symm.trans h

open Recorder in
/-- Rehearse an iteration of a worker in which calls fail, and another one in which none
does. -/
def Worker.retry (w : Worker) (r : Recorder) : Option (Iteration × Iteration) :=
  match w.iterate.run host.toRespondent w.name r with
  | (.ok (.ok first, next), r) =>
    match next.iterate.run host.toRespondent w.name (r.withRules []) with
    | (.ok (.ok second, _), _) => some (first, second)
    | _ => none
  | _ => none

open Recorder in
/-- What was rehearsed can happen to a worker that is alone. -/
lemma Worker.reaches_of_retry {w : Worker} {r : Recorder} {s : World (Faulty Unit)}
    {first second : Iteration} (hs : r.Shows s) (hr : r.OnlyFails)
    (h : w.retry r = some (first, second)) :
    ∃ (P : Pool Unit requests (World (Faulty Unit)) Worker (Except SetupError Iteration))
      (t₁ t₂ : Visit Unit),
      Pool.Reaches (World.moves (Faulty.service Unit)) Worker.iterate (.start s fun _ => w) P ∧
      (P.desk ()).past = [t₂, t₁] ∧ t₁.result = .ok first ∧ t₂.result = .ok second ∧
      t₂.after.backend.failures () = t₂.before.backend.failures () := by
  let P₀ : Pool Unit requests (World (Faulty Unit)) Worker (Except SetupError Iteration) :=
    .start s fun _ => w
  unfold retry at h
  split at h
  · next value next₁ r₁ hfirst =>
    split at h
    · next hsecond =>
      cases h
      obtain ⟨P₁, shows₁, -, -, desk₁, -, run₁⟩ :=
        hs.reaches_of_turn (P := P₀) (i := ()) hr rfl rfl hfirst (.refl P₀)
      have shows₁' : (r₁.withRules []).Shows P₁.state :=
        ⟨shows₁.store, shows₁.free, shows₁.registry, shows₁.statuses⟩
      have hnone : (r₁.withRules []).OnlyFails := by simp [withRules, OnlyFails]
      obtain ⟨P₂, -, -, hquiet, desk₂, -, run₂⟩ :=
        shows₁'.reaches_of_turn (i := ()) hnone (by rw [desk₁]) (by rw [desk₁]) hsecond run₁
      refine ⟨P₂, ⟨s, .ok first, P₁.state⟩, ⟨P₁.state, .ok second, P₂.state⟩, run₂, ?_, rfl, rfl,
        congrFun (hquiet rfl) ()⟩
      rw [desk₂, desk₁]
      rfl
    · cases h
  · cases h

open Recorder in
/-- After a failure to open its container, a worker completes its next iteration. -/
theorem Worker.completed_after_openFailed :
    ∃ (P : Pool Unit requests (World (Faulty Unit)) Worker (Except SetupError Iteration))
      (t₁ t₂ : Visit Unit),
      Pool.Reaches (World.moves (Faulty.service Unit)) Worker.iterate
        (.start ⟨.start .empty, .new 1, []⟩ fun _ => ⟨0, {}, ⟨0, 0, 0⟩, .standard, .ofSeed 3⟩) P ∧
      (P.desk ()).past = [t₂, t₁] ∧ t₁.result = .ok (.openFailed 0) ∧
      t₂.after.backend.failures () = t₂.before.backend.failures () ∧
      ∃ n first last reported, t₂.result = .ok (.completed n first last reported) := by
  let w : Worker := ⟨0, {}, ⟨0, 0, 0⟩, .standard, .ofSeed 3⟩
  let r : Recorder := .new [⟨"open_container", none, none, 0, 1, .fail (.io "connection lost")⟩]
    ⟨2024, 1, 1, 0, 0, 0, 0⟩
  have hs : r.Shows (⟨.start .empty, .new 1, []⟩ : World (Faulty Unit)) :=
    ⟨rfl, fun _ => rfl, rfl, rfl⟩
  have hretry : w.retry r = some (.openFailed 0, .completed 0 0 1 (some 1)) := by decide +kernel
  obtain ⟨P, t₁, t₂, run, hpast, h₁, -, hquiet⟩ :=
    reaches_of_retry hs (by simp [r, OnlyFails, Recorder.new]) hretry
  refine ⟨P, t₁, t₂, run, hpast, h₁, hquiet, ?_⟩
  obtain ⟨n, it, failed, -, hit, -, hfailed, -, hspec⟩ :=
    Worker.quiet_iteration_spec (Crew.of_one (Nat.le_refl 0) Nat.zero_lt_one)
      (show Policy.standard.validate = .ok () from rfl) (by decide)
      ⟨by decide +kernel, by decide +kernel⟩ (κ := Unit) (.nil (.start .empty))
      (fun _ _ => rfl) [] (fun _ => rfl) (fun _ => rfl) (fun _ => rfl) run
      (show (P.desk ()).past = [] ++ t₂ :: [t₁] from hpast)
  have hnil : failed = [] := List.self_eq_append_left.1 (hquiet.symm.trans hfailed)
  have hfree : ¬ LeftOpen [t₁] n := by
    rintro ⟨t, ht, first, last, hclose⟩
    obtain rfl := List.mem_singleton.1 ht
    cases h₁.symm.trans hclose
  obtain ⟨first, last, reported, rfl⟩ := (hspec hnil).1.2 hfree
  exact ⟨n, first, last, reported, hit⟩

open Recorder in
/-- After a failure to close its only container, a worker cannot open it again, although no
other call fails. -/
theorem Worker.openFailed_after_closeFailed :
    ∃ (P : Pool Unit requests (World (Faulty Unit)) Worker (Except SetupError Iteration))
      (t₁ t₂ : Visit Unit),
      Pool.Reaches (World.moves (Faulty.service Unit)) Worker.iterate
        (.start ⟨.start .empty, .new 1, []⟩ fun _ => ⟨0, {}, ⟨0, 0, 0⟩, .standard, .ofSeed 3⟩) P ∧
      (P.desk ()).past = [t₂, t₁] ∧ t₁.result = .ok (.closeFailed 0 0 1) ∧
      t₂.result = .ok (.openFailed 0) ∧
      t₂.after.backend.failures () = t₂.before.backend.failures () := by
  let w : Worker := ⟨0, {}, ⟨0, 0, 0⟩, .standard, .ofSeed 3⟩
  let r : Recorder := .new [⟨"close_container", none, none, 0, 1, .fail (.io "connection lost")⟩]
    ⟨2024, 1, 1, 0, 0, 0, 0⟩
  have hs : r.Shows (⟨.start .empty, .new 1, []⟩ : World (Faulty Unit)) :=
    ⟨rfl, fun _ => rfl, rfl, rfl⟩
  have hretry : w.retry r = some (.closeFailed 0 0 1, .openFailed 0) := by decide +kernel
  exact reaches_of_retry hs (by simp [r, OnlyFails, Recorder.new]) hretry

end Soak
