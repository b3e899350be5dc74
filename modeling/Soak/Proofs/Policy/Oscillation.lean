import Mathlib.Data.Nat.Count
import Soak.Longevity.Worker
import Soak.Proofs.Longevity.Counters

/-!
# The oscillation of a counter

A container begins with no items, and every mutation that succeeds changes their number by
one.  `Policy.walk` follows the number along a policy's choices, whatever else is drawn from
the generator between two of them.

`Policy.Swings` is the invariant: the number grows until it has left the band that always
adds, then swings from the top of that band to one above the mixed band, and it always has
the parity of the number of mutations.  `Worker.run_mutate` shows that the steps of a walk
are those that workers take.
-/

namespace Soak

/-- The number of items after a mutation that succeeded. -/
def Mutation.applied (counter : Int) : Mutation → Int
  | add => counter + 1
  | delete => counter - 1

namespace Policy

variable {p : Policy} {counter : Int} {n : Nat} {g : Generator}

/-- The number of items after some mutations of a new container, with the generator behind
them.  Whatever else is drawn after a mutation is up to `others`. -/
def walk (p : Policy) (others : Nat → Generator → Generator) (g : Generator) :
    Nat → Int × Generator
  | 0 => (0, g)
  | n + 1 =>
    let (counter, rng) := walk p others g n
    let (mutation, rng) := p.choose counter rng
    (mutation.applied counter, others n rng)

/-- Whether a number of items lies in the mixed band. -/
def Mixed (p : Policy) (counter : Int) : Prop :=
  p.alwaysAddMax < counter ∧ counter ≤ p.mixedMax

instance : DecidablePred p.Mixed :=
  fun _ => inferInstanceAs (Decidable (_ ∧ _))

lemma choose_of_le (h : counter ≤ p.alwaysAddMax) : p.choose counter g = (.add, g) :=
  if_pos h

lemma choose_of_lt (h : p.alwaysAddMax < counter) (h' : p.mixedMax < counter) :
    p.choose counter g = (.delete, g) := by
  unfold choose
  rw [if_neg (by omega), if_neg (by omega)]

lemma choose_of_mixed (h : p.Mixed counter) : p.choose counter g =
    (if g.unitDouble.1.lt p.addProbability then .add else .delete, g.unitDouble.2) := by
  unfold choose
  rw [if_neg (Int.not_le.2 h.1), if_pos h.2]

/-- The generator behind a choice: only the mixed band draws, and it draws one number. -/
lemma choose_snd : (p.choose counter g).2 = if p.Mixed counter then g.unitDouble.2 else g := by
  rcases Int.lt_or_le p.alwaysAddMax counter with hlow | hlow
  · rcases Int.lt_or_le p.mixedMax counter with hhigh | hhigh
    · rw [choose_of_lt hlow hhigh, if_neg fun h => Int.not_le.2 hhigh h.2]
    · have hmixed : p.Mixed counter := ⟨hlow, hhigh⟩
      rw [choose_of_mixed hmixed, if_pos hmixed]
  · rw [choose_of_le hlow, if_neg fun h => Int.not_lt.2 hlow h.1]

/-- Where a walk may be after `n` mutations. -/
structure Swings (p : Policy) (n : Nat) (counter : Int) : Prop where
  climb : (n : Int) ≤ p.alwaysAddMax + 1 → counter = n
  band : p.alwaysAddMax < n → p.alwaysAddMax ≤ counter ∧ counter ≤ p.mixedMax + 1
  parity : (2 : Int) ∣ n - counter

namespace Swings

lemma nonneg (hp : p.validate = .ok ()) (h : p.Swings n counter) : 0 ≤ counter := by
  obtain ⟨hzero, -⟩ := validate_eq_ok hp
  by_cases hn : p.alwaysAddMax < n
  · exact Int.le_trans hzero (h.band hn).1
  · rw [h.climb (by omega)]
    exact Int.natCast_nonneg n

lemma le_ceiling (hp : p.validate = .ok ()) (h : p.Swings n counter) : counter ≤ p.ceiling := by
  obtain ⟨-, hord⟩ := validate_eq_ok hp
  unfold ceiling
  by_cases hn : p.alwaysAddMax < n
  · exact (h.band hn).2
  · have := h.climb (by omega)
    omega

lemma zero (hp : p.validate = .ok ()) : p.Swings 0 0 where
  climb _ := rfl
  band h := by
    obtain ⟨hzero, -⟩ := validate_eq_ok hp
    exact absurd h (by omega)
  parity := by simp

lemma add (hp : p.validate = .ok ()) (h : p.Swings n counter) (hle : counter ≤ p.mixedMax) :
    p.Swings (n + 1) (counter + 1) where
  climb hn := by
    have := h.climb (by omega)
    omega
  band hn := by
    obtain ⟨hzero, hord⟩ := validate_eq_ok hp
    by_cases hbefore : p.alwaysAddMax < n
    · obtain ⟨hlow, -⟩ := h.band hbefore
      omega
    · have := h.climb (by omega)
      omega
  parity := by
    have := h.parity
    omega

lemma delete (h : p.Swings n counter) (hlt : p.alwaysAddMax < counter) :
    p.Swings (n + 1) (counter - 1) where
  climb hn := by
    -- a number this small is that of the mutations, of which there are not enough
    have := h.climb (by omega)
    omega
  band hn := by
    by_cases hbefore : p.alwaysAddMax < n
    · obtain ⟨-, hhigh⟩ := h.band hbefore
      omega
    · have := h.climb (by omega)
      omega
  parity := by
    have := h.parity
    omega

/-- A choice of the policy keeps the walk where it may be. -/
lemma choose (hp : p.validate = .ok ()) (h : p.Swings n counter) (g : Generator) :
    p.Swings (n + 1) ((p.choose counter g).1.applied counter) := by
  obtain ⟨-, hord⟩ := validate_eq_ok hp
  rcases Int.lt_or_le p.alwaysAddMax counter with hlow | hlow
  · rcases Int.lt_or_le p.mixedMax counter with hhigh | hhigh
    · rw [choose_of_lt hlow hhigh]
      exact h.delete hlow
    · -- the mixed band may go either way
      cases (p.choose counter g).1 with
      | add => exact h.add hp hhigh
      | delete => exact h.delete hlow
  · rw [choose_of_le hlow]
    exact h.add hp (by omega)

end Swings

lemma swings_walk (hp : p.validate = .ok ()) (others : Nat → Generator → Generator)
    (g : Generator) (n : Nat) : p.Swings n (p.walk others g n).1 := by
  induction n with
  | zero => exact Swings.zero hp
  | succ n ih => exact ih.choose hp (p.walk others g n).2

/-- If nobody else draws, the generator behind a walk has given one number for each step
from the mixed band. -/
lemma walk_snd (p : Policy) (g : Generator) (n : Nat) :
    (p.walk (fun _ => id) g n).2 =
      (fun g => g.unitDouble.2)^[Nat.count (fun k => p.Mixed (p.walk (fun _ => id) g k).1) n] g := by
  induction n with
  | zero => rfl
  | succ n ih =>
    show (p.choose _ (p.walk (fun _ => id) g n).2).2 = _
    rw [choose_snd, Nat.count_succ, ih]
    split
    · rw [Function.iterate_succ_apply']
    · rw [Nat.add_zero]

end Policy

/-! ### The steps of workers -/

/-- Whoever answers lets items be added and deleted. -/
structure Respondent.Grants {σ : Type} (r : Respondent requests σ) : Prop where
  add : ∀ thread handle itemType id value attributes s, ∃ s',
    r.respond thread (.call (.addItem handle itemType id value attributes)) s =
      (.ok (.ok ()), s')
  delete : ∀ thread handle itemType id s, ∃ s',
    r.respond thread (.call (.deleteItem handle itemType id)) s = (.ok (.ok ()), s')

/-- Who adds and deletes whatever is asked for, and answers nothing else. -/
def Respondent.compliant : Respondent requests Unit where
  respond _ q s :=
    match q with
    | .call (.addItem _ _ _ _ _) => (.ok (.ok ()), s)
    | .call (.deleteItem _ _ _) => (.ok (.ok ()), s)
    | _ => (.error unreadablePanic, s)

lemma Respondent.compliant_grants : compliant.Grants where
  add _ _ _ _ _ _ s := ⟨s, rfl⟩
  delete _ _ _ _ s := ⟨s, rfl⟩

namespace Worker

variable {σ : Type} {r : Respondent requests σ} {thread container : String}
  {handle : Container.Handle} {s : σ} {counter : Int}

/-- A worker takes a step of the walk that its policy prescribes. -/
lemma run_mutate (hr : r.Grants) (w : Worker) (hp : w.policy.validate = .ok ()) : ∃ rng s',
      (w.mutate handle container counter).run r thread s =
        (.ok ((w.policy.choose counter w.rng).1.applied counter, rng), s') := by
  have hchoose := Policy.choose_spec hp counter w.rng
  unfold mutate
  cases hc : w.policy.choose counter w.rng with
  | mk mutation rng =>
    rw [hc] at hchoose
    rcases hchoose with ⟨rfl, -⟩ | ⟨rfl, hpos⟩
    · obtain ⟨s', hadd⟩ := hr.add thread handle w.backend.itemType
        (Naming.lifecycleItem w.backend.itemIdPrefix (counter + 1))
        (rng.alphanumeric valueLength).1 (.ofPairs [("container", container)]) s
      refine ⟨(rng.alphanumeric valueLength).2, s', ?_⟩
      simp only [addItem, Job.call, Program.question, Program.bind_ask, Program.run, hadd]
      rfl
    · obtain ⟨s', hdelete⟩ := hr.delete thread handle w.backend.itemType
        (Naming.lifecycleItem w.backend.itemIdPrefix counter) s
      refine ⟨rng, s', ?_⟩
      have hlt : ¬ counter < 1 := by omega
      simp only [deleteItem, if_neg hlt, Job.call, Program.question, Program.bind_ask,
        Program.run, hdelete]
      rfl

end Worker

/-- **The band is entered and never left.**  Whatever is drawn, the number of items of a
container under a policy that makes sense climbs to the top of the band that always adds and
then swings from there to one above the mixed band (`Swings`).  It fits a machine word if the
mixed band does, an empty container is never deleted from, and only a step from the mixed
band draws a number, one and no more.  The steps are those of the workers. -/
theorem Policy.band_never_left (p : Policy) (hp : p.validate = .ok ())
    (others : Nat → Generator → Generator) (g : Generator) :
    (∀ n, p.Swings n (p.walk others g n).1 ∧ 0 ≤ (p.walk others g n).1 ∧
      (p.walk others g n).1 ≤ p.ceiling ∧
      (p.mixedMax < 2 ^ 63 - 1 → (p.walk others g n).1 < 2 ^ 63)) ∧
    (∀ rng, (p.choose 0 rng).1 = .add) ∧
    (∀ n, (p.choose (p.walk others g n).1 (p.walk others g n).2).2 =
      if p.Mixed (p.walk others g n).1 then (p.walk others g n).2.unitDouble.2
      else (p.walk others g n).2) ∧
    (∀ n, (p.walk (fun _ => id) g n).2 = (fun rng => rng.unitDouble.2)^[
      Nat.count (fun k => p.Mixed (p.walk (fun _ => id) g k).1) n] g) ∧
    ∀ (n : Nat) (w : Worker), w.policy = p → w.rng = (p.walk others g n).2 →
      ∀ (σ : Type) (r : Respondent requests σ), r.Grants → ∀ thread handle container s,
        ∃ rng s', (w.mutate handle container (p.walk others g n).1).run r thread s =
          (.ok ((p.walk others g (n + 1)).1, rng), s') := by
  refine ⟨fun n => ?_, fun rng => ?_, fun n => choose_snd, walk_snd p g, ?_⟩
  · have hswings := swings_walk hp others g n
    refine ⟨hswings, hswings.nonneg hp, hswings.le_ceiling hp, fun hword => ?_⟩
    have hceiling : (p.walk others g n).1 ≤ p.mixedMax + 1 := hswings.le_ceiling hp
    omega
  · rw [choose_of_le (validate_eq_ok hp).1]
  · rintro n w rfl hrng σ r hr thread handle container s
    have hstep : ∃ rng s',
        (w.mutate handle container (w.policy.walk others g n).1).run r thread s =
          (.ok ((w.policy.choose (w.policy.walk others g n).1 w.rng).1.applied
            (w.policy.walk others g n).1, rng), s') :=
      Worker.run_mutate hr w hp
    rwa [hrng] at hstep

/-- A worker that begins with the standard policy, its first step and where it gets to. -/
theorem Policy.band_of_standard :
    (standard.walk (fun _ => id) (.ofSeed 7) 7).1 = 7 ∧
    6 ≤ (standard.walk (fun _ => id) (.ofSeed 7) 1000).1 ∧
    (standard.walk (fun _ => id) (.ofSeed 7) 1000).1 ≤ 10 ∧
    ∃ rng, (Worker.mutate ⟨0, {}, ⟨0, 0, 0⟩, standard, .ofSeed 7⟩ ⟨1⟩ "wallet_0" 0).run
      Respondent.compliant "worker" () = (.ok (1, rng), ()) := by
  obtain ⟨hwalk, -, -, -, hsteps⟩ := band_never_left standard rfl (fun _ => id) (.ofSeed 7)
  have hlate := (hwalk 1000).1.band (by decide)
  refine ⟨(hwalk 7).1.climb (by decide), hlate.1, hlate.2, ?_⟩
  have hone : (standard.walk (fun _ => id) (.ofSeed 7) 1).1 = 1 := (hwalk 1).1.climb (by decide)
  obtain ⟨rng, s', hstep⟩ := hsteps 0 ⟨0, {}, ⟨0, 0, 0⟩, standard, .ofSeed 7⟩ rfl rfl Unit
    Respondent.compliant Respondent.compliant_grants "worker" ⟨1⟩ "wallet_0" ()
  rw [hone] at hstep
  exact ⟨rng, hstep⟩

end Soak
