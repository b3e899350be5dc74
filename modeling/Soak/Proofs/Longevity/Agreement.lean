import Soak.Proofs.Longevity.Chronicle

/-!
# Counters that agree with the store

Workers share out the containers of a store whose calls may fail.  Between two iterations a
worker's estate is at rest (`Estate.Rested`): every counter tells the truth, a container is
open only if it was left so, and its iterations form a chronicle.  An iteration leads from
rest to rest, and since no worker disturbs the estate of another one, all of them agree with
the store at any time.
-/

namespace Soak

variable {ι : Type}

namespace Estate

/-- What belongs to a worker between two of its iterations. -/
structure Rested (e : Estate ι) (past : List (Visit ι)) (s : World (Faulty ι)) : Prop where
  coherent : s.backend.shared.Coherent
  size : s.registry.size = e.total
  settled : ∀ n, e.view.contains n = true → e.Settled (LeftOpen past) s n
  failures : s.backend.failures e.thread = e.failed past
  chronicle : e.Chronicle past

variable {e : Estate ι} {past : List (Visit ι)} {s s' : World (Faulty ι)} {n : Nat}

lemma Rested.of_undisturbed (hs : e.Rested past s) (h : e.Undisturbed s s') :
    e.Rested past s' where
  coherent := h.coherent
  size := h.size.trans hs.size
  settled n hn := h.settled hn (hs.settled n hn)
  failures := h.failures.trans hs.failures
  chronicle := hs.chronicle

/-- An estate that no iteration has touched, in a store without the containers of it. -/
lemma rested_start {store : Store} (hstore : store.Coherent)
    (habsent : ∀ n, e.view.contains n = true → store.containers[e.name n]? = none)
    (htotal : ∀ n, e.view.contains n = true → n < e.total) (htop : 0 ≤ e.top)
    (statuses : List Worker.Status) [DecidableEq ι] :
    e.Rested [] ⟨.start store, .new e.total, statuses⟩ where
  coherent := Shared.coherent_start hstore
  size := Registry.size_new _
  settled n hn := by
    have hslot : (Registry.new e.total).counters[n]? = some Registry.absent :=
      Registry.counters_new (htotal n hn)
    have hnone : e.container ⟨.start store, .new e.total, statuses⟩ n = none := habsent n hn
    constructor
    · refine ⟨Registry.absent, hslot, ?_, ?_⟩
      · exact Int.le_trans (by decide) htop
      · rw [hnone]
        rfl
    · simp [hnone, LeftOpen]
  failures := rfl
  chronicle := trivial

/-- From rest, an iteration finds its container absent or with a counter. -/
lemma Rested.begin (hs : e.Rested past s) (hn : e.view.contains n = true) :
    (Truth.outline e n (LeftOpen past) (e.failed past)).absent s ∨
      ∃ v, (Truth.outline e n (LeftOpen past) (e.failed past)).closed v s := by
  obtain ⟨⟨v, hslot, htop, haccounts⟩, hopen⟩ := hs.settled n hn
  have hscene : e.Scene n (LeftOpen past) ⟨v, e.container s n, none, e.failed past⟩ s :=
    { coherent := hs.coherent
      size := hs.size
      rest := fun m hm _ => hs.settled m hm
      slot := hslot
      container := rfl
      search := by simp
      failures := hs.failures }
  cases hc : e.container s n with
  | none =>
    rw [hc] at haccounts
    have hfree : ¬ LeftOpen past n := by
      rw [← hopen, hc]
      simp
    refine .inl ⟨_, ?_, hscene⟩
    exact ⟨hfree, haccounts, hc, rfl⟩
  | some c =>
    rw [hc] at haccounts hopen
    refine .inr ⟨v, _, ?_, hscene⟩
    exact ⟨rfl, htop, rfl, c, hc, by simpa using hopen, haccounts⟩

/-- An iteration that is finished leaves the estate at rest. -/
lemma Rested.of_finished {t : Visit ι} {it : Iteration} (hpast : e.Chronicle past)
    (hn : e.view.contains n = true) (ht : t.result = .ok it)
    (hsince : t.before.backend.failures e.thread = e.failed past)
    (hs : (Truth.outline e n (LeftOpen past) (e.failed past)).finished it t.after) :
    e.Rested (t :: past) t.after := by
  obtain ⟨x, hx, hscene⟩ := hs
  have hleft : ∀ m, LeftOpen (t :: past) m ↔ LeftOpen past m ∨
      ∃ first last, it = .closeFailed m first last := fun m => leftOpen_cons ht
  refine ⟨hscene.coherent, hscene.size, fun m hm => ?_, rfl, ⟨it, ht, ?_, hsince, ?_⟩, hpast⟩
  · -- the container of the iteration, and those that it did not touch
    by_cases hmn : m = n
    · subst hmn
      refine ⟨⟨x.slot, hscene.slot, hx.low, ?_⟩, ?_⟩
      · rw [hscene.container]
        exact hx.truth
      · rw [hscene.container, hleft]
        exact hx.isOpen
    · obtain ⟨htruth, hopen⟩ := hscene.rest m hm hmn
      refine ⟨htruth, hopen.trans ?_⟩
      rw [hleft]
      constructor
      · exact .inl
      · rintro (h | ⟨first, last, rfl⟩)
        · exact h
        · exact (hmn hx.number).elim
  · rw [hx.number]
    exact hn
  · obtain ⟨failed, hfailed, hverdict⟩ := hx.verdict
    refine ⟨failed, ?_, ?_⟩
    · rw [hscene.failures, hfailed, hsince]
    · rw [hx.number]
      exact hverdict

end Estate

namespace Agreement

variable {views : ι → Partition} {policy : Policy} {total : Nat} {b : Config.Backend}

/-- What belongs to each worker of a crew. -/
def estate (views : ι → Partition) (policy : Policy) (total : Nat) (b : Config.Backend) (i : ι) :
    Estate ι :=
  ⟨i, b, views i, policy.ceiling, total⟩

/-- What the workers owe each other, and what is known of them between two iterations. -/
def pact (views : ι → Partition) (policy : Policy) (total : Nat) (b : Config.Backend) :
    Pool.Pact ι requests (World (Faulty ι)) Worker (Except SetupError Iteration) where
  duty i w := (estate views policy total b i).duty w.pick
  idle i past w s := (estate views policy total b i).Rested past s ∧
    w.backend = b ∧ w.view = views i ∧ w.policy = policy

variable [DecidableEq ι]

/-- Every worker does its duty, and its pledge is what the others rely on. -/
lemma sound (hcrew : Crew views total) (hpolicy : policy.validate = .ok ())
    (htop : policy.ceiling < 2 ^ 63) :
    Pool.Sound (World.moves (Faulty.service ι)) Worker.iterate (pact views policy total b) where
  rely i j v w m s s' hne hp hs := by
    refine hp.1.undisturbed hne rfl (fun n hn => ?_) hs
    by_contra hn'
    exact hne (hcrew.apart i j n hn (eq_true_of_ne_false hn'))
  idle i past w s s' h hr := ⟨h.1.of_undisturbed (hr h.1.coherent), h.2⟩
  turn i past w s h := by
    obtain ⟨hs, rfl, hview, rfl⟩ := h
    let e := estate views w.policy total w.backend i
    have hn : e.view.contains w.pick = true := by
      show (views i).contains w.pick = true
      rw [← hview]
      exact Worker.contains_pick (hview ▸ hcrew.ordered i)
    have hvalid : (Truth.outline e w.pick (LeftOpen past) (e.failed past)).Valid
        (Faulty.service ι) i (e.duty w.pick) w w.pick :=
      Truth.outline_valid rfl hview rfl (Int.le_of_lt (Policy.ceiling_pos hpolicy)) htop hn
    refine (hvalid.iterate hpolicy (hs.begin hn)).mono ?_
    rintro ⟨r, w'⟩ s' ⟨⟨it, rfl, hit⟩, g, rfl⟩
    refine ⟨?_, rfl, hview, rfl⟩
    exact Estate.Rested.of_finished hs.chronicle hn rfl hs.failures hit

variable {P P' : Pool ι requests (World (Faulty ι)) Worker (Except SetupError Iteration)}

/-- At the start all estates are at rest. -/
lemma keeps_start (hcrew : Crew views total) (hpolicy : policy.validate = .ok ()) {κ : Type}
    [DecidableEq κ] {es : List (Shared.Event κ)} {prior : Shared κ}
    (hprior : Shared.Run (.start .empty) es prior)
    (habsent : ∀ n < total, prior.store.containers[Naming.container b.containerPrefix n]? = none)
    (statuses : List Worker.Status) (workers : ι → Worker)
    (hbackend : ∀ i, (workers i).backend = b) (hview : ∀ i, (workers i).view = views i)
    (hfollow : ∀ i, (workers i).policy = policy) :
    Pool.Keeps (World.moves (Faulty.service ι)) (pact views policy total b)
      (.start ⟨.start prior.store, .new total, statuses⟩ workers) := by
  have hcoherent := (Shared.coherent_start Store.coherent_empty).run hprior
  refine Pool.keeps_start fun i => ⟨?_, hbackend i, hview i, hfollow i⟩
  refine Estate.rested_start hcoherent.store (fun n hn => ?_) (fun n hn => ?_) ?_ statuses
  · exact habsent n (hcrew.lt_total hn)
  · exact hcrew.lt_total hn
  · exact Int.le_of_lt (Policy.ceiling_pos hpolicy)

/-- A container that its owner is not working on is as its counter says. -/
lemma truthful_of_keeps
    (h : Pool.Keeps (World.moves (Faulty.service ι)) (pact views policy total b) P) {i : ι}
    {n : Nat} (hn : (views i).contains n = true)
    (hidle : (P.desk i).current = none ∨ (P.desk i).actor.pick ≠ n) :
    (estate views policy total b i).Truthful P.state n := by
  cases hc : (P.desk i).current with
  | none => exact ((h.idle hc).1.settled n hn).1
  | some turn =>
    rcases hidle with hnone | hne
    · rw [hc] at hnone
      cases hnone
    · exact (h.always hc).2.2 n hn hne.symm

end Agreement

end Soak
