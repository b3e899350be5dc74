import Mathlib.Algebra.BigOperators.Fin
import Mathlib.Data.List.FinRange
import Soak.Proofs.Longevity.Counters
import Soak.Proofs.Longevity.Crew

/-!
# Views keep workers apart

Workers share the counters without locks, since each of them has a view of its own part of
them.  A worker is a `Strategy` here: what it does next may depend on all that it has done and
learned so far.  `Table.turn` lets one of the workers take its next step, and a schedule says
whose turn it is.

Steps of workers whose views have nothing in common commute (`Table.turn_comm`).  So only the
number of steps of each worker counts, not their order, and the workers may as well work one
after another (`views_isolate`).
-/

namespace Soak.Registry

/-- What a worker does with its view. -/
inductive Access where
  /-- Read a counter. -/
  | get (index : Nat)
  /-- Write a counter. -/
  | set (index : Nat) (value : Int)
deriving DecidableEq

/-- What it is told. -/
abbrev Access.Answer : Access → Type
  | get _ => Except SetupError Int
  | set _ _ => Except SetupError Unit

/-- The counter that it is about. -/
def Access.index : Access → Nat
  | get index => index
  | set index _ => index

/-- What is answered through a view, and the counters then. -/
def access (r : Registry) (view : Partition) : (a : Access) → a.Answer × Registry
  | .get index => (r.viewGet view index, r)
  | .set index value =>
    match r.viewSet view index value with
    | .ok r' => (.ok (), r')
    | .error e => (.error e, r)

/-- A step of a worker, and what it learned. -/
structure Exchange where
  /-- What the worker did. -/
  access : Access
  /-- What it was told. -/
  answer : access.Answer

/-- The value that a step has written to a counter. -/
def Exchange.written? (n : Nat) : Exchange → Option Int
  | ⟨.set index value, .ok ()⟩ => if index = n then some value else none
  | _ => none

/-- The last value that the steps of a worker, the latest first, have written to a counter. -/
def lastWritten (n : Nat) (past : List Exchange) : Int :=
  (past.filterMap (Exchange.written? n)).head?.getD absent

/-- What a worker does next, if anything, depending on its steps so far, the latest first. -/
abbrev Strategy : Type :=
  List Exchange → Option Access

/-- Workers at their shared counters. -/
structure Table (ι : Type) where
  /-- The counters. -/
  registry : Registry
  /-- The steps of each worker, the latest first. -/
  past : ι → List Exchange

section Access

variable {r r' : Registry} {p q : Partition} {n : Nat} {a b : Access}

/-- Whoever has the view of a partition reaches all of its counters. -/
lemma lt_size_of_checkOwned (h : r.checkOwned p = .ok ()) (hn : p.contains n = true) :
    n < r.size := by
  unfold checkOwned at h
  split at h
  · cases h
  · next hmax =>
    have := (Partition.contains_iff.1 hn).2
    omega

lemma checkOwned_eq_ok (h : p.max < r.size) : r.checkOwned p = .ok () :=
  if_neg (Nat.not_le.2 h)

/-- Each part of a split gets its view. -/
lemma checkOwned_of_split {total workers : Nat} {parts : List Partition}
    (hsplit : Partition.split total workers = .ok parts) (hp : p ∈ parts) :
    (new total).checkOwned p = .ok () := by
  obtain ⟨k, hk, rfl⟩ := List.mem_iff_getElem.1 hp
  exact checkOwned_eq_ok (by rw [size_new]; exact (Crew.of_split hsplit).within ⟨k, hk⟩)

/-- What is refused outside of a partition and granted inside is refused exactly outside. -/
lemma refused_iff {β : Type} {x : Except SetupError β}
    (hout : p.contains n = false → x = .error (.notOwned n p.min p.max))
    (hin : p.contains n = true → ∃ y, x = .ok y) {e : SetupError} :
    x = .error e ↔ ¬ (p.min ≤ n ∧ n ≤ p.max) ∧ e = .notOwned n p.min p.max := by
  rw [← Partition.contains_iff]
  cases hn : p.contains n with
  | false =>
    rw [hout hn]
    simp [eq_comm]
  | true =>
    obtain ⟨y, rfl⟩ := hin hn
    simp

/-- Exactly the counters of a partition can be read through its view. -/
lemma viewGet_eq_error_iff (h : r.checkOwned p = .ok ()) {e : SetupError} :
    r.viewGet p n = .error e ↔ ¬ (p.min ≤ n ∧ n ≤ p.max) ∧ e = .notOwned n p.min p.max :=
  refused_iff (fun hn => by simp [viewGet, checkView, hn])
    fun hn => ⟨_, viewGet_eq hn (Array.getElem?_eq_getElem (lt_size_of_checkOwned h hn))⟩

/-- Exactly the counters of a partition can be written through its view. -/
lemma viewSet_eq_error_iff (h : r.checkOwned p = .ok ()) {v : Int} {e : SetupError} :
    r.viewSet p n v = .error e ↔ ¬ (p.min ≤ n ∧ n ≤ p.max) ∧ e = .notOwned n p.min p.max :=
  refused_iff (fun hn => by simp [viewSet, checkView, hn])
    fun hn => ⟨_, viewSet_eq hn (lt_size_of_checkOwned h hn)⟩

/-- What writing through a view does to the counters. -/
lemma snd_access_set (index : Nat) (value : Int) :
    (r.access p (.set index value)).2 =
      if p.contains index then r.write index value else r := by
  cases hp : p.contains index with
  | false => simp [access, viewSet, checkView, hp]
  | true =>
    by_cases hlt : index < r.size
    · simp [access, viewSet_eq hp hlt]
    · have hsame : r.write index value = r :=
        congrArg mk (Array.setIfInBounds_eq_of_size_le (Nat.not_lt.1 hlt))
      simp [access, viewSet, checkView, set, hp, hlt, hsame]

lemma size_access : (r.access p a).2.size = r.size := by
  cases a with
  | get index => rfl
  | set index value =>
    rw [snd_access_set]
    split
    · exact size_write
    · rfl

/-- Only counters of the partition can be written through its view. -/
lemma counters_access (hn : p.contains n = false) :
    (r.access p a).2.counters[n]? = r.counters[n]? := by
  cases a with
  | get index => rfl
  | set index value =>
    rw [snd_access_set]
    split
    · next hindex =>
      refine counters_write_of_ne ?_
      rintro rfl
      rw [hn] at hindex
      cases hindex
    · rfl

/-- An access to a counter elsewhere changes nothing. -/
lemma access_of_outside (h : p.contains a.index = false) : (r.access p a).2 = r := by
  cases a with
  | get index => rfl
  | set index value =>
    rw [snd_access_set, if_neg]
    rw [show p.contains index = false from h]
    exact Bool.false_ne_true

/-- What is answered through a view depends on the counters of its partition only. -/
lemma fst_access_congr (hsize : r'.size = r.size)
    (hsame : ∀ n, p.contains n = true → r'.counters[n]? = r.counters[n]?) :
    (r'.access p a).1 = (r.access p a).1 := by
  cases a with
  | get index =>
    simp only [access, viewGet, checkView, get]
    cases hn : p.contains index with
    | false => rfl
    | true => simp [hsame index hn, hsize]
  | set index value =>
    simp only [access, viewSet, checkView, set, hsize]
    cases p.contains index with
    | false => rfl
    | true => by_cases hlt : index < r.size <;> simp [hlt]

/-- Accesses through views that have nothing in common commute. -/
lemma snd_access_comm (hapart : ∀ n, p.contains n = true → q.contains n = false) :
    ((r.access p a).2.access q b).2 = ((r.access q b).2.access p a).2 := by
  cases a with
  | get index => rfl
  | set index value =>
    cases b with
    | get index' => rfl
    | set index' value' =>
      simp only [snd_access_set]
      cases hp : p.contains index with
      | false => simp
      | true =>
        cases hq : q.contains index' with
        | false => simp
        | true =>
          have hne : index ≠ index' := by
            rintro rfl
            rw [hapart index hp] at hq
            cases hq
          simp only [if_true, write]
          rw [Array.setIfInBounds_comm value value' hne]

end Access

namespace Table

variable {ι : Type}

/-- Workers that have done nothing, at counters of containers none of which exists. -/
def start (total : Nat) : Table ι :=
  ⟨.new total, fun _ => []⟩

variable [DecidableEq ι]

/-- A worker does something with its view. -/
def act (view : ι → Partition) (t : Table ι) (k : ι) (a : Access) : Table ι :=
  ⟨(t.registry.access (view k) a).2,
    Function.update t.past k (⟨a, (t.registry.access (view k) a).1⟩ :: t.past k)⟩

/-- A worker takes its next step, if it has one. -/
def turn (view : ι → Partition) (strategy : ι → Strategy) (t : Table ι) (k : ι) : Table ι :=
  (strategy k (t.past k)).elim t (act view t k)

/-- The workers take their steps as a schedule says. -/
def play (view : ι → Partition) (strategy : ι → Strategy) (schedule : List ι) (t : Table ι) :
    Table ι :=
  schedule.foldl (turn view strategy) t

variable {view : ι → Partition} {strategy : ι → Strategy} {t : Table ι} {j k : ι}

lemma past_turn_of_ne (h : j ≠ k) : (turn view strategy t k).past j = t.past j := by
  unfold turn
  cases strategy k (t.past k) with
  | none => rfl
  | some a => exact Function.update_of_ne h _ _

lemma size_turn : (turn view strategy t k).registry.size = t.registry.size := by
  unfold turn
  cases strategy k (t.past k) with
  | none => rfl
  | some a => exact size_access

lemma act_comm (hne : j ≠ k) (hapart : ∀ n, (view j).contains n = true →
    (view k).contains n = false) (a b : Access) :
    act view (act view t j a) k b = act view (act view t k b) j a := by
  have hapart' : ∀ n, (view k).contains n = true → (view j).contains n = false := by
    intro n hk
    by_contra hj
    rw [hapart n (eq_true_of_ne_false hj)] at hk
    cases hk
  have hj : ((t.registry.access (view k) b).2.access (view j) a).1 =
      (t.registry.access (view j) a).1 :=
    fst_access_congr size_access fun n hn => counters_access (hapart n hn)
  have hk : ((t.registry.access (view j) a).2.access (view k) b).1 =
      (t.registry.access (view k) b).1 :=
    fst_access_congr size_access fun n hn => counters_access (hapart' n hn)
  simp only [act, snd_access_comm hapart, hj, hk, Function.update_of_ne hne,
    Function.update_of_ne hne.symm, Function.update_comm hne]

/-- **Steps of workers whose views have nothing in common commute.** -/
lemma turn_comm (hapart : ∀ j k n, (view j).contains n = true → (view k).contains n = true →
    j = k) : turn view strategy (turn view strategy t j) k =
      turn view strategy (turn view strategy t k) j := by
  by_cases hne : j = k
  · rw [hne]
  · have hdisjoint : ∀ n, (view j).contains n = true → (view k).contains n = false :=
      fun n hj => eq_false_of_ne_true fun hk => hne (hapart j k n hj hk)
    rw [turn, past_turn_of_ne (Ne.symm hne), turn.eq_1 view strategy (turn view strategy t k) j,
      past_turn_of_ne hne]
    cases hk : strategy k (t.past k) with
    | none => simp [turn, hk]
    | some b =>
      cases hj : strategy j (t.past j) with
      | none => simp [turn, hk, hj]
      | some a => simpa [turn, hk, hj] using act_comm hne hdisjoint a b

/-- Only how many steps each worker takes counts, not their order. -/
lemma play_perm (hapart : ∀ j k n, (view j).contains n = true → (view k).contains n = true →
    j = k) {schedule schedule' : List ι} (h : schedule.Perm schedule') :
    play view strategy schedule t = play view strategy schedule' t :=
  h.foldl_eq' (fun _ _ _ _ _ => turn_comm hapart) t

/-- A counter shows what its owner has written last. -/
def Shown (view : ι → Partition) (total : Nat) (t : Table ι) : Prop :=
  t.registry.size = total ∧ ∀ k n, n < total → (view k).contains n = true →
    t.registry.counters[n]? = some (lastWritten n (t.past k))

omit [DecidableEq ι] in
lemma shown_start (total : Nat) : Shown view total (start total) :=
  ⟨size_new total, fun _ _ hn _ => counters_new hn⟩

/-- A step of the owner of a counter, seen from the counter. -/
lemma shown_access {r : Registry} {p : Partition} {n : Nat} {past : List Exchange} (a : Access)
    (hn : n < r.size) (hp : p.contains n = true)
    (h : r.counters[n]? = some (lastWritten n past)) :
    (r.access p a).2.counters[n]? =
      some (lastWritten n (⟨a, (r.access p a).1⟩ :: past)) := by
  cases a with
  | get index => exact h
  | set index value =>
    rw [snd_access_set]
    by_cases hindex : index = n
    · subst hindex
      have hanswer : (r.access p (.set index value)).1 = .ok () := by
        rw [access, viewSet_eq hp hn]
      rw [if_pos hp, counters_write_self hn, hanswer]
      simp [lastWritten, Exchange.written?]
    · have hwritten (answer : Except SetupError Unit) :
          Exchange.written? n ⟨.set index value, answer⟩ = none := by
        cases answer with
        | error e => rfl
        | ok u => exact if_neg hindex
      rw [lastWritten, List.filterMap_cons_none (hwritten _)]
      split
      · rw [counters_write_of_ne (Ne.symm hindex)]
        exact h
      · exact h

/-- Every step leaves the counters showing what their owners have written. -/
lemma Shown.turn {total : Nat} (hapart : ∀ j k n, (view j).contains n = true →
    (view k).contains n = true → j = k) (h : Shown view total t) (k : ι) :
    Shown view total (turn view strategy t k) := by
  refine ⟨size_turn.trans h.1, fun j n hn hj => ?_⟩
  by_cases hjk : j = k
  · subst hjk
    unfold Table.turn
    cases strategy j (t.past j) with
    | none => exact h.2 j n hn hj
    | some a =>
      simp only [Option.elim_some, act, Function.update_self]
      exact shown_access a (h.1 ▸ hn) hj (h.2 j n hn hj)
  · rw [past_turn_of_ne hjk, ← h.2 j n hn hj]
    unfold Table.turn
    cases strategy k (t.past k) with
    | none => rfl
    | some a =>
      exact counters_access (eq_false_of_ne_true fun hk => hjk (hapart j k n hj hk))

lemma Shown.play {total : Nat} (hapart : ∀ j k n, (view j).contains n = true →
    (view k).contains n = true → j = k) (h : Shown view total t) (schedule : List ι) :
    Shown view total (play view strategy schedule t) := by
  induction schedule generalizing t with
  | nil => exact h
  | cons k rest ih => exact ih (h.turn hapart k)

/-- The schedule in which workers take all their steps one after another, each as many as in
another schedule. -/
def oneByOne (order schedule : List ι) : List ι :=
  order.flatMap fun k => List.replicate (schedule.count k) k

lemma oneByOne_perm {workers : Nat} {order : List (Fin workers)}
    (horder : order.Perm (List.finRange workers)) (schedule : List (Fin workers)) :
    (oneByOne order schedule).Perm schedule := by
  refine (horder.flatMap_right _).trans (List.perm_iff_count.2 fun k => ?_)
  rw [List.count_flatMap]
  simp only [Function.comp_def, List.count_replicate, beq_iff_eq]
  rw [← Fin.sum_univ_def, Finset.sum_ite_eq' Finset.univ k, if_pos (Finset.mem_univ k)]

end Table

open Table in
/-- **Views keep workers apart.**  Containers are split among workers, each of which gets the view
of its partition, and what a worker does next may depend on all that it was told.  In whatever
order the workers take their steps, they are told the same, and the counters end up the same, as
if they took their steps one after another, in any order of the workers.  Every counter has one
owner, and shows what that worker has written last, or `-1`.

Through the view of any partition that it is handed out for, even of one whose ends are not in
order, exactly the counters outside are refused, with an error that says so, and then no counter
changes. -/
theorem views_isolate {total workers : Nat} (hpos : 0 < total) (hdvd : workers ∣ total) :
    (∃ parts, Partition.split total workers = .ok parts ∧
      (∀ p ∈ parts, (Registry.new total).checkOwned p = .ok ()) ∧
      (∀ n < total, ∃! k : Fin parts.length, (parts.get k).contains n = true) ∧
      ∀ (strategy : Fin parts.length → Strategy) (schedule : List (Fin parts.length)),
        (∀ order : List (Fin parts.length), order.Perm (List.finRange parts.length) →
          play parts.get strategy schedule (.start total) =
            play parts.get strategy (oneByOne order schedule) (.start total)) ∧
        ∀ (k : Fin parts.length) (n : Nat), n < total → (parts.get k).contains n = true →
          (play parts.get strategy schedule (.start total)).registry.counters[n]? =
            some (lastWritten n ((play parts.get strategy schedule (.start total)).past k))) ∧
    ∀ (r : Registry) (p : Partition), r.checkOwned p = .ok () →
      (∀ n e, r.viewGet p n = .error e ↔
        ¬ (p.min ≤ n ∧ n ≤ p.max) ∧ e = .notOwned n p.min p.max) ∧
      (∀ n v e, r.viewSet p n v = .error e ↔
        ¬ (p.min ≤ n ∧ n ≤ p.max) ∧ e = .notOwned n p.min p.max) ∧
      ∀ a : Access, ¬ (p.min ≤ a.index ∧ a.index ≤ p.max) → (r.access p a).2 = r := by
  constructor
  · obtain ⟨parts, hsplit⟩ := Partition.exists_split_of_dvd hpos hdvd
    have hcrew := Crew.of_split hsplit
    refine ⟨parts, hsplit, fun p hp => ?_, fun n hn => ?_, fun strategy schedule =>
      ⟨fun order horder => ?_, ?_⟩⟩
    · obtain ⟨k, hk, rfl⟩ := List.mem_iff_getElem.1 hp
      exact checkOwned_eq_ok (by rw [size_new]; exact hcrew.within ⟨k, hk⟩)
    · obtain ⟨k, hk⟩ := Partition.exists_owner hsplit hn
      exact ⟨k, hk, fun j hj => hcrew.apart j k n hj hk⟩
    · exact (play_perm hcrew.apart (oneByOne_perm horder schedule)).symm
    · exact ((shown_start total).play hcrew.apart schedule).2
  · refine fun r p howned => ⟨fun n e => viewGet_eq_error_iff howned,
      fun n v e => viewSet_eq_error_iff howned, fun a ha => access_of_outside ?_⟩
    exact eq_false_of_ne_true fun hcontains => ha (Partition.contains_iff.1 hcontains)

/-- Each of two workers reads the first counter of its half and writes the next number, over and
over, and now and then it tries the first counter of all. -/
def counting (k : Nat) : Strategy
  | ⟨.get index, .ok value⟩ :: _ => some (.set index (value + 1))
  | ⟨.set _ _, .ok ()⟩ :: _ => some (.set 0 7)
  | _ => some (.get (2 * k))

open Table in
/-- Two workers take turns, and each of them ends up where it would alone: the one that owns the
first counter has written it, and the other one was refused. -/
theorem views_isolate_halves : ∃ parts, Partition.split 4 2 = .ok parts ∧
    ∀ schedule : List (Fin parts.length), schedule.map Fin.val = [0, 1, 1, 0, 1, 0, 0, 1] →
      (play parts.get (fun k => counting k.val) schedule (.start 4)).registry =
        ⟨#[7, -1, 0, -1]⟩ := by
  obtain ⟨⟨parts, hsplit, -, -, halone⟩, -⟩ := views_isolate (show 0 < 4 by decide)
    (show 2 ∣ 4 by decide)
  obtain rfl : [⟨0, 0, 1⟩, ⟨1, 2, 3⟩] = parts := Except.ok.inj hsplit
  refine ⟨_, hsplit, fun schedule hschedule => ?_⟩
  obtain rfl : schedule = ([0, 1, 1, 0, 1, 0, 0, 1] : List (Fin 2)) :=
    List.map_injective_iff.2 Fin.val_injective hschedule
  rw [(halone _ _).1 ([1, 0] : List (Fin 2)) (List.Perm.swap 0 1 [])]
  decide

end Soak.Registry
