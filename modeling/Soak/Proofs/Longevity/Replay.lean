import Soak.Proofs.Longevity.Forecast
import Soak.Proofs.Session.Progress

/-!
# Longevity runs that replay

What is foretold of one iteration after another (`Worker.ahead`) depends on nothing but the
worker.  The workers of a crew do it in every interleaving, and a worker that is alone does
it too, so both go through the same iterations.
-/

namespace Soak

namespace Worker

/-- The counters and the worker after a number of iterations as they are foretold. -/
def ahead (w : Worker) : Nat → (Nat → Int) × Worker
  | 0 => (fresh, w)
  | n + 1 =>
    let (counters, next) := w.ahead n
    ((next.forecast counters).counters, (next.forecast counters).next)

/-- How an iteration ends as it is foretold, counted from zero. -/
def foretold (w : Worker) (n : Nat) : Iteration :=
  ((w.ahead n).2.forecast (w.ahead n).1).result

/-- The worker keeps its store, its share and its policy. -/
lemma ahead_keeps (w : Worker) (n : Nat) : (w.ahead n).2.backend = w.backend ∧
    (w.ahead n).2.view = w.view ∧ (w.ahead n).2.policy = w.policy := by
  induction n with
  | zero => exact ⟨rfl, rfl, rfl⟩
  | succ n ih =>
    have hnext := forecast_next (w.ahead n).2 (w.ahead n).1
    exact ⟨(congrArg backend hnext).trans ih.1, (congrArg view hnext).trans ih.2.1,
      (congrArg policy hnext).trans ih.2.2⟩

/-- Iterations that have ended are as they are foretold, and so are the counters of the
worker behind each of them. -/
def Foretold {ι : Type} (w : Worker) :
    List (Turn (World (Shared ι)) (Except SetupError Iteration)) → Prop
  | [] => True
  | t :: past => t.result = .ok (w.foretold past.length) ∧
      (∀ n, w.view.contains n = true →
        t.after.registry.counters[n]? = some ((w.ahead (past.length + 1)).1 n)) ∧
      Foretold w past

/-- An iteration by its number. -/
lemma Foretold.getElem {ι : Type} {w : Worker}
    {past : List (Turn (World (Shared ι)) (Except SetupError Iteration))} (h : w.Foretold past)
    {n : Nat} {t : Turn (World (Shared ι)) (Except SetupError Iteration)}
    (ht : past.reverse[n]? = some t) : t.result = .ok (w.foretold n) ∧
      ∀ m, w.view.contains m = true →
        t.after.registry.counters[m]? = some ((w.ahead (n + 1)).1 m) := by
  induction past with
  | nil => simp at ht
  | cons u past ih =>
    rw [List.reverse_cons] at ht
    rcases Nat.lt_or_ge n past.length with hlt | hge
    · rw [List.getElem?_append_left (by simpa using hlt)] at ht
      exact ih h.2.2 ht
    · rw [List.getElem?_append_right (by simpa using hge), List.length_reverse] at ht
      obtain ⟨hlt, rfl⟩ := List.getElem?_eq_some_iff.1 ht
      obtain rfl : n = past.length := by
        simp only [List.length_singleton] at hlt
        omega
      simpa using ⟨h.1, h.2.1⟩

end Worker

namespace Replay

variable {ι : Type} {views : ι → Partition} {total : Nat} {b : Config.Backend} {policy : Policy}
  {actors : ι → Worker}

/-- What the workers owe each other, and what is known of them between two iterations. -/
def pact (actors : ι → Worker) :
    Pool.Pact ι requests (World (Shared ι)) Worker (Except SetupError Iteration) where
  duty i _ := (Worker.tenant i (actors i).backend (actors i).view).duty fun _ _ => True
  idle i past w s := w = ((actors i).ahead past.length).2 ∧ (actors i).Foretold past ∧
    ∃ x, (Worker.tenant i (actors i).backend (actors i).view).Sees x s ∧
      Worker.Rest (actors i).backend (actors i).view (actors i).policy.ceiling
        ((actors i).ahead past.length).1 x

/-- Workers do not disturb each other if no container belongs to two of them. -/
lemma undisturbed_of_keepsTo (hcrew : Crew (fun i => (actors i).view) total)
    (hbackend : ∀ i, (actors i).backend = b) {i j : ι} (hne : i ≠ j) {s s' : World (Shared ι)}
    (h : (Worker.tenant j (actors j).backend (actors j).view).KeepsTo s s') :
    (Worker.tenant i (actors i).backend (actors i).view).Undisturbed s s' := by
  refine h.undisturbed hne ?_ fun n hn hn' => hne (hcrew.apart i j n hn hn')
  rintro name ⟨n, hn, rfl⟩ ⟨m, hm, heq⟩
  rw [hbackend i, hbackend j, Naming.container_inj] at heq
  subst heq
  exact hne (hcrew.apart i j n hn hm)

variable [DecidableEq ι]

/-- Every worker does its duty, and its pledge is what the others rely on. -/
lemma sound (hcrew : Crew (fun i => (actors i).view) total)
    (hbackend : ∀ i, (actors i).backend = b) (hpolicy : ∀ i, (actors i).policy = policy)
    (hvalid : policy.validate = .ok ()) (htop : policy.mixedMax < 2 ^ 63) :
    Pool.Sound (World.moves (Shared.service ι)) Worker.iterate (pact actors) where
  rely i j v w m s s' hne hp _ := undisturbed_of_keepsTo hcrew hbackend hne hp.1
  idle i past w s s' h hr := by
    obtain ⟨hw, hpast, x, hs, hrest⟩ := h
    exact ⟨hw, hpast, x, hs.of_undisturbed (hr hs.coherent), hrest⟩
  turn i past w s h := by
    obtain ⟨hw, hpast, x, hs, hrest⟩ := h
    obtain ⟨hb, hv, hp⟩ := (actors i).ahead_keeps past.length
    rw [← hw] at hb hv hp
    rw [← hb, ← hv, ← hp] at hrest
    rw [← hb, ← hv] at hs
    have hdoes : (Worker.tenant i w.backend w.view).Does (fun _ => True)
        (fun _ _ => True) w.iterate x _ := Worker.does_iterate (fun _ _ => trivial)
      (by rw [hp, hpolicy, hvalid])
      (by rw [hp, hpolicy]; unfold Policy.ceiling; omega) (by rw [hv]; exact hcrew.ordered i) hrest
    have hturn := hdoes s hs
    rw [World.steady_true, hb, hv, hp] at hturn
    refine hturn.mono ?_
    rintro ⟨r, w'⟩ s' ⟨y, ⟨hr, hrest'⟩, hs'⟩
    obtain ⟨rfl, rfl⟩ := Prod.mk.inj hr
    subst hw
    exact ⟨rfl, ⟨rfl, fun n hn => (hs'.slots n hn).trans (hrest'.slot n hn), hpast⟩, y, hs',
      hrest'⟩

/-- At the start all workers are at rest. -/
lemma keeps_start (hcrew : Crew (fun i => (actors i).view) total)
    (hbackend : ∀ i, (actors i).backend = b) (hpolicy : ∀ i, (actors i).policy = policy)
    (hvalid : policy.validate = .ok ()) {st : Store} (hst : st.Coherent)
    (habsent : ∀ n < total, st.containers[Naming.container b.containerPrefix n]? = none)
    (statuses : List Worker.Status) :
    Pool.Keeps (World.moves (Shared.service ι)) (pact actors)
      (.start ⟨.start st, .new total, statuses⟩ actors) := by
  have hpos := Policy.ceiling_pos hvalid
  refine Pool.keeps_start fun i => ⟨rfl, trivial, _, Tenant.sees_of_quiet _
    (Shared.coherent_start hst) (fun k hk => nomatch hk), ?_⟩
  rw [hpolicy]
  refine Worker.rest_fresh hpos.le rfl (fun n hn => ?_) fun n hn => ?_
  · exact Registry.counters_new (hcrew.lt_total hn)
  · rw [hbackend]
    exact habsent n (hcrew.lt_total hn)

variable {P : Pool ι requests (World (Shared ι)) Worker (Except SetupError Iteration)}

/-- Whatever the interleaving, the iterations of every worker are as they are foretold. -/
lemma foretold_of_reaches (hcrew : Crew (fun i => (actors i).view) total)
    (hbackend : ∀ i, (actors i).backend = b) (hpolicy : ∀ i, (actors i).policy = policy)
    (hvalid : policy.validate = .ok ()) (htop : policy.mixedMax < 2 ^ 63) {st : Store}
    (hst : st.Coherent)
    (habsent : ∀ n < total, st.containers[Naming.container b.containerPrefix n]? = none)
    (statuses : List Worker.Status)
    (hrun : Pool.Reaches (World.moves (Shared.service ι)) Worker.iterate
      (.start ⟨.start st, .new total, statuses⟩ actors) P) (i : ι) :
    (actors i).Foretold (P.desk i).past :=
  (sound hcrew hbackend hpolicy hvalid htop).past
    (keeps_start hcrew hbackend hpolicy hvalid hst habsent statuses) (fun _ _ _ _ h => h.2.1)
    (fun _ => trivial) hrun i

/-- A worker goes on for as many iterations as one likes. -/
lemma exists_run (hcrew : Crew (fun i => (actors i).view) total)
    (hbackend : ∀ i, (actors i).backend = b) (hpolicy : ∀ i, (actors i).policy = policy)
    (hvalid : policy.validate = .ok ()) (htop : policy.mixedMax < 2 ^ 63) {st : Store}
    (hst : st.Coherent)
    (habsent : ∀ n < total, st.containers[Naming.container b.containerPrefix n]? = none)
    (statuses : List Worker.Status) (i : ι) (count : Nat) :
    ∃ P : Pool ι requests (World (Shared ι)) Worker (Except SetupError Iteration),
      Pool.Reaches (World.moves (Shared.service ι)) Worker.iterate
        (.start ⟨.start st, .new total, statuses⟩ actors) P ∧
      (P.desk i).past.length = count ∧ (P.desk i).current = none ∧
      ∀ j, World.underway j P.state = none := by
  have hsound := sound hcrew hbackend hpolicy hvalid htop
  have hstart := keeps_start hcrew hbackend hpolicy hvalid hst habsent statuses
  have hr : Responsive (World.steady fun _ => True) (World.underway (ι := ι)) :=
    World.responsive World.exists_reading
  rw [World.steady_true] at hr
  induction count with
  | zero => exact ⟨_, .refl _, rfl, rfl, fun _ => rfl⟩
  | succ count ih =>
    obtain ⟨P, hrun, hlength, hfree, hidle⟩ := ih
    obtain ⟨P', t, hrun', hfree', hpast, -, hidle'⟩ := Pool.exists_turn hr hsound
      (fun _ _ _ h => h) (hsound.keeps hstart hrun) hfree hidle
    exact ⟨P', hrun.trans hrun', by rw [hpast, List.length_cons, hlength], hfree', hidle'⟩

end Replay

end Soak
