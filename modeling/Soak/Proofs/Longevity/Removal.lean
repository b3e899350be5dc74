import Soak.Longevity.Run
import Soak.Proofs.Longevity.Accounts
import Soak.Proofs.Session.Conduct

/-!
# Removing containers by their numbers

Before a longevity run its containers are removed one after another, and after it once more.
A closed container is gone then, an open one stops the removal before the run, and nothing
else in the store changes (`Store.Lacks`).
-/

namespace Soak

namespace Store

/-- Some containers are gone, and everything else is as it was. -/
structure Lacks (s : Store) (gone : Set String) (s' : Store) : Prop where
  absent : ∀ name ∈ gone, s'.containers[name]? = none
  kept : ∀ name, name ∉ gone → s'.containers[name]? = s.containers[name]?
  opened : s'.opened = s.opened
  searches : s'.searches = s.searches

variable {s s' s'' : Store} {gone gone' : Set String} {name credentials : String}

lemma Lacks.refl (s : Store) : s.Lacks ∅ s :=
  ⟨fun _ h => h.elim, fun _ _ => rfl, rfl, rfl⟩

lemma Lacks.trans (h : s.Lacks gone s') (h' : s'.Lacks gone' s'') : s.Lacks (gone ∪ gone') s'' where
  absent n hn := by
    by_cases hn' : n ∈ gone'
    · exact h'.absent n hn'
    · exact (h'.kept n hn').trans (h.absent n (hn.resolve_right hn'))
  kept n hn := by
    rw [Set.mem_union, not_or] at hn
    exact (h'.kept n hn.2).trans (h.kept n hn.1)
  opened := h'.opened.trans h.opened
  searches := h'.searches.trans h.searches

/-- What is still there is open if it was. -/
lemma Lacks.isOpen_eq (h : s.Lacks gone s') (hname : name ∉ gone) :
    s'.isOpen name = s.isOpen name := by
  unfold isOpen
  rw [h.kept name hname]

lemma isOpen_of_absent (h : s.containers[name]? = none) : s.isOpen name = false := by
  simp [isOpen, h]

lemma isOpen_eq_false_iff : s.isOpen name = false ↔ s.holder name = none := by
  unfold isOpen holder
  cases s.containers[name]? <;> simp

/-- With credentials that are not JSON nothing is deleted. -/
lemma deleteContainer_of_unreadable (h : ¬ (Json.ofText? credentials).isSome) (s : Store)
    (name : String) :
    s.deleteContainer name credentials = (.error (.invalidStructure .credentials), s) := by
  simp [deleteContainer, requireJson, h]

/-- An open container is not deleted. -/
lemma deleteContainer_of_open (hcredentials : (Json.ofText? credentials).isSome)
    (h : s.isOpen name = true) :
    s.deleteContainer name credentials = (.error (.containerAlreadyOpen name), s) := by
  unfold isOpen at h
  cases hc : s.containers[name]? with
  | none => simp [hc] at h
  | some c =>
    rw [hc] at h
    simp [deleteContainer, requireJson, hcredentials, hc, h]

/-- A container that is not open is gone when it was deleted. -/
lemma deleteContainer_of_closed (hcredentials : (Json.ofText? credentials).isSome)
    (h : s.isOpen name = false) :
    ((s.deleteContainer name credentials).1 = .ok () ∨
      (s.deleteContainer name credentials).1 = .error (.containerNotFound name)) ∧
    s.Lacks {name} (s.deleteContainer name credentials).2 ∧
    (s.deleteContainer name credentials).2.nextHandle = s.nextHandle := by
  unfold isOpen at h
  cases hc : s.containers[name]? with
  | none =>
    have he : s.deleteContainer name credentials = (.error (.containerNotFound name), s) := by
      simp [deleteContainer, requireJson, hcredentials, hc]
    rw [he]
    refine ⟨.inr rfl, ⟨?_, fun _ _ => rfl, rfl, rfl⟩, rfl⟩
    rintro n rfl
    exact hc
  | some c =>
    rw [hc] at h
    have he : s.deleteContainer name credentials =
        (.ok (), { s with containers := s.containers.erase name }) := by
      simp [deleteContainer, requireJson, hcredentials, hc, h]
    rw [he]
    refine ⟨.inl rfl, ⟨?_, fun n hn => ?_, rfl, rfl⟩, rfl⟩
    · rintro n rfl
      simp
    · have hne : name ≠ n := fun heq => hn heq.symm
      simp [Std.ExtTreeMap.getElem?_erase, hne]

end Store

namespace Longevity

/-- The names of the containers from one number on, up to but without another one. -/
def namesIn (b : Config.Backend) (first last : Nat) : Set String :=
  {name | ∃ n, first ≤ n ∧ n < last ∧ name = Naming.container b.containerPrefix n}

variable {b : Config.Backend} {first last : Nat}

lemma mem_namesIn {n : Nat} :
    Naming.container b.containerPrefix n ∈ namesIn b first last ↔ first ≤ n ∧ n < last := by
  constructor
  · rintro ⟨m, hfirst, hlast, heq⟩
    rw [Naming.container_inj.1 heq]
    exact ⟨hfirst, hlast⟩
  · rintro ⟨hfirst, hlast⟩
    exact ⟨n, hfirst, hlast, rfl⟩

lemma namesIn_self : namesIn b first first = ∅ := by
  refine Set.eq_empty_of_forall_notMem ?_
  rintro name ⟨n, hfirst, hlast, -⟩
  omega

/-- The first name and the others. -/
lemma namesIn_cons (h : first < last) : {Naming.container b.containerPrefix first} ∪
    namesIn b (first + 1) last = namesIn b first last := by
  ext name
  constructor
  · rintro (rfl | ⟨n, hfirst, hlast, rfl⟩)
    · exact mem_namesIn.2 ⟨Nat.le_refl _, h⟩
    · exact mem_namesIn.2 ⟨by omega, hlast⟩
  · rintro ⟨n, hfirst, hlast, rfl⟩
    by_cases hn : n = first
    · exact .inl (hn ▸ rfl)
    · exact .inr (mem_namesIn.2 ⟨by omega, hlast⟩)

/-- Some containers are gone from the world. -/
structure Removed (gone : Set String) (s s' : World (Shared Client)) : Prop where
  coherent : s'.backend.Coherent
  lacks : s.backend.store.Lacks gone s'.backend.store
  nextHandle : s'.backend.store.nextHandle = s.backend.store.nextHandle
  after : s' = s.after s'.backend.store

variable {clock : Reading → Prop} {panics : String → Prop}
  {pledge : Moves requests (World (Shared Client))} {s s' s'' : World (Shared Client)}
  {gone gone' : Set String}

lemma Removed.refl (hs : s.backend.Coherent) : Removed ∅ s s :=
  ⟨hs, .refl _, rfl, rfl⟩

lemma Removed.trans (h : Removed gone s s') (h' : Removed gone' s' s'') :
    Removed (gone ∪ gone') s s'' where
  coherent := h'.coherent
  lacks := h.lacks.trans h'.lacks
  nextHandle := h'.nextHandle.trans h.nextHandle
  after := by
    rw [h'.after, h.after]
    rfl

/-- When a container is gone, the others are as open as they were. -/
lemma Removed.isOpen_eq {n m : Nat} (h : Removed {Naming.container b.containerPrefix n} s s')
    (hne : m ≠ n) : s'.backend.store.isOpen (Naming.container b.containerPrefix m) =
      s.backend.store.isOpen (Naming.container b.containerPrefix m) :=
  h.lacks.isOpen_eq fun heq => hne (Naming.container_inj.1 heq)

/-- A container that is not open is deleted. -/
lemma sole_delete_closed (hcredentials : (Json.ofText? b.credentials).isSome)
    (hpledge : World.AllowsChanges (namesIn b first last) pledge)
    {n : Nat} (hn : first ≤ n ∧ n < last) (hs : s.backend.Coherent)
    (hclosed : s.backend.store.isOpen (Naming.container b.containerPrefix n) = false) :
    (Job.call (.deleteContainer (Naming.container b.containerPrefix n) b.credentials)).Fulfils
      (World.steady clock .main) (World.sole pledge panics)
      (fun a s' => (a = .ok () ∨ a = .error (.containerNotFound
        (Naming.container b.containerPrefix n))) ∧
        Removed {Naming.container b.containerPrefix n} s s') s := by
  obtain ⟨hanswer, hlacks, hnext⟩ := Store.deleteContainer_of_closed hcredentials hclosed
  refine World.sole_call rfl hs fun hs' => ⟨hpledge _ _ _ fun name hname => ?_, hanswer, hs',
    hlacks, hnext, rfl⟩
  refine hlacks.kept name ?_
  rintro rfl
  exact hname (mem_namesIn.2 hn)

/-- A deletion that is refused changes nothing. -/
lemma sole_delete_refused {name : String} {e : CallError}
    (hpledge : World.AllowsChanges (namesIn b first last) pledge) (hs : s.backend.Coherent)
    (he : s.backend.store.deleteContainer name b.credentials = (.error e, s.backend.store)) :
    (Job.call (.deleteContainer name b.credentials)).Fulfils (World.steady clock .main)
      (World.sole pledge panics) (fun a s' => a = .error e ∧ s' = s) s := by
  refine World.sole_call rfl hs fun _ => ?_
  simp only [Store.answer, he]
  exact ⟨hpledge _ _ _ fun _ _ => rfl, trivial, rfl⟩

/-- What becomes of the containers of an earlier run: they are gone, or those before the first
one that is open are. -/
inductive Purged (b : Config.Backend) (first last : Nat) (s : World (Shared Client)) :
    Except RunError Unit → World (Shared Client) → Prop
  /-- None of them is open. -/
  | all {s' : World (Shared Client)} (closed : ∀ n, first ≤ n → n < last →
      s.backend.store.isOpen (Naming.container b.containerPrefix n) = false)
      (removed : Removed (namesIn b first last) s s') : Purged b first last s (.ok ()) s'
  /-- One of them is open, and those before it are not. -/
  | upTo {s' : World (Shared Client)} {i : Nat} (least : first ≤ i) (lt : i < last)
      (stuck : s.backend.store.isOpen (Naming.container b.containerPrefix i) = true)
      (closed : ∀ n, first ≤ n → n < i →
        s.backend.store.isOpen (Naming.container b.containerPrefix n) = false)
      (removed : Removed (namesIn b first i) s s') :
      Purged b first last s (.error (.cleanup (Naming.container b.containerPrefix i)
        (.containerAlreadyOpen (Naming.container b.containerPrefix i)))) s'

section Purged

variable {r : Except RunError Unit}

/-- When the first container is closed, the removal goes on behind it. -/
lemma Purged.cons (hlt : first < last)
    (hclosed : s.backend.store.isOpen (Naming.container b.containerPrefix first) = false)
    (hremoved : Removed {Naming.container b.containerPrefix first} s s')
    (h : Purged b (first + 1) last s' r s'') : Purged b first last s r s'' := by
  have hfirst {n : Nat} (hn : first ≤ n) (hrest : first + 1 ≤ n →
      s'.backend.store.isOpen (Naming.container b.containerPrefix n) = false) :
      s.backend.store.isOpen (Naming.container b.containerPrefix n) = false := by
    by_cases hn' : n = first
    · exact hn' ▸ hclosed
    · exact (hremoved.isOpen_eq hn').symm.trans (hrest (by omega))
  cases h with
  | all closed removed =>
    exact .all (fun n h1 h2 => hfirst h1 fun h => closed n h h2)
      (namesIn_cons hlt ▸ hremoved.trans removed)
  | @upTo _ i least lt stuck closed removed =>
    have hopen := (hremoved.isOpen_eq (show i ≠ first by omega)).symm.trans stuck
    exact .upTo (by omega) lt hopen (fun n h1 h2 => hfirst h1 fun h => closed n h h2)
      (namesIn_cons (show first < i by omega) ▸ hremoved.trans removed)

/-- When no container is open, all of them are gone. -/
lemma Purged.of_closed (h : Purged b first last s r s') (hclosed : ∀ n, first ≤ n → n < last →
      s.backend.store.isOpen (Naming.container b.containerPrefix n) = false) :
    r = .ok () ∧ Removed (namesIn b first last) s s' := by
  cases h with
  | all closed removed => exact ⟨rfl, removed⟩
  | @upTo _ i least lt stuck closed removed =>
    exact absurd (stuck.symm.trans (hclosed i least lt)) (by decide)

/-- The removal stops at the first container that is open. -/
lemma Purged.of_open (h : Purged b first last s r s') {i : Nat} (hi : first ≤ i ∧ i < last)
    (hopen : s.backend.store.isOpen (Naming.container b.containerPrefix i) = true)
    (hclosed : ∀ n, first ≤ n → n < i →
      s.backend.store.isOpen (Naming.container b.containerPrefix n) = false) :
    r = .error (.cleanup (Naming.container b.containerPrefix i)
      (.containerAlreadyOpen (Naming.container b.containerPrefix i))) ∧
        Removed (namesIn b first i) s s' := by
  cases h with
  | all closed removed => exact absurd (hopen.symm.trans (closed i hi.1 hi.2)) (by decide)
  | @upTo _ j least lt stuck closed removed =>
    rcases Nat.lt_trichotomy j i with hlt | rfl | hlt
    · exact absurd (stuck.symm.trans (hclosed j least hlt)) (by decide)
    · exact ⟨rfl, removed⟩
    · exact absurd (hopen.symm.trans (closed i hi.1 hlt)) (by decide)

end Purged

/-- The containers of an earlier run are removed up to the first one that is open. -/
lemma sole_removeLeftovers (hcredentials : (Json.ofText? b.credentials).isSome) (count : Nat)
    (hpledge : World.AllowsChanges (namesIn b first (first + count)) pledge)
    (hs : s.backend.Coherent) :
    (removeLeftovers b first count).Fulfils (World.steady clock .main) (World.sole pledge panics)
      (Purged b first (first + count) s) s := by
  induction count generalizing first s with
  | zero => exact World.sole_pure (.all (fun n h1 h2 => by omega) (namesIn_self ▸ .refl hs))
  | succ count ih =>
    have hlt : first < first + (count + 1) := by omega
    have hnext : first + 1 + count = first + (count + 1) := by omega
    unfold removeLeftovers
    cases hopen : s.backend.store.isOpen (Naming.container b.containerPrefix first) with
    | true =>
      refine (sole_delete_refused hpledge hs
        (Store.deleteContainer_of_open hcredentials hopen)).then ?_
      rintro a _ ⟨rfl, rfl⟩
      exact World.sole_pure (.upTo (Nat.le_refl _) hlt hopen (fun n h1 h2 => by omega)
        (namesIn_self ▸ .refl hs))
    | false =>
      refine (sole_delete_closed hcredentials hpledge ⟨Nat.le_refl _, hlt⟩ hs hopen).then ?_
      rintro a s₁ ⟨ha, hremoved⟩
      have hsub : namesIn b (first + 1) (first + 1 + count) ⊆
          namesIn b first (first + (count + 1)) := by
        rw [hnext, ← namesIn_cons hlt]
        exact Set.subset_union_right
      have hrest := (ih (hpledge.mono hsub) hremoved.coherent).mono fun r s₂ hr =>
        (hnext ▸ hr).cons hlt hopen hremoved
      rcases ha with rfl | rfl
      · exact hrest
      · exact hrest

/-- With credentials that are not JSON, the first deletion is refused. -/
lemma sole_removeLeftovers_of_unreadable (hnot : ¬ (Json.ofText? b.credentials).isSome)
    {count : Nat} (hpos : 0 < count)
    (hpledge : World.AllowsChanges (namesIn b first (first + count)) pledge)
    (hs : s.backend.Coherent) :
    (removeLeftovers b first count).Fulfils (World.steady clock .main) (World.sole pledge panics)
      (fun r s' => r = .error (.cleanup (Naming.container b.containerPrefix first)
        (.invalidStructure .credentials)) ∧ s' = s) s := by
  obtain ⟨rest, rfl⟩ := Nat.exists_eq_succ_of_ne_zero hpos.ne'
  unfold removeLeftovers
  refine (sole_delete_refused hpledge hs (Store.deleteContainer_of_unreadable hnot _ _)).then ?_
  rintro a _ ⟨rfl, rfl⟩
  exact World.sole_pure ⟨rfl, rfl⟩

/-- Containers that are closed are removed after a run. -/
lemma sole_removeCreated (hcredentials : (Json.ofText? b.credentials).isSome) (count : Nat)
    (hpledge : World.AllowsChanges (namesIn b 0 count) pledge)
    (hs : s.backend.Coherent)
    (hclosed : ∀ n < count,
      s.backend.store.isOpen (Naming.container b.containerPrefix n) = false) :
    (removeCreated b count).Fulfils (World.steady clock .main) (World.sole pledge panics)
      (fun _ s' => Removed (namesIn b 0 count) s s') s := by
  suffices h : ∀ rest first s, first + rest = count → s.backend.Coherent →
      (∀ n, first ≤ n → n < count →
        s.backend.store.isOpen (Naming.container b.containerPrefix n) = false) →
      (Program.foldRange (fun _ number => removeIfPossible b number) first rest ()).Fulfils
        (World.steady clock .main) (World.sole pledge panics)
        (fun _ s' => Removed (namesIn b first count) s s') s from
    h count 0 s (Nat.zero_add _) hs fun n _ hn => hclosed n hn
  intro rest
  induction rest with
  | zero =>
    rintro first s rfl hs -
    exact World.sole_pure (namesIn_self ▸ .refl hs)
  | succ rest ih =>
    intro first s hcount hs hclosed
    have hlt : first < count := by omega
    unfold Program.foldRange removeIfPossible
    rw [bind_assoc]
    refine (sole_delete_closed hcredentials hpledge ⟨Nat.zero_le _, hlt⟩ hs
      (hclosed first (Nat.le_refl _) hlt)).then ?_
    rintro a s₁ ⟨-, hremoved⟩
    refine (ih (first + 1) s₁ (by omega) hremoved.coherent fun n h1 h2 => ?_).mono fun _ s₂ hrest =>
      namesIn_cons hlt ▸ hremoved.trans hrest
    exact (hremoved.isOpen_eq (by omega)).trans (hclosed n (by omega) h2)

end Longevity

end Soak
