import Mathlib.Data.List.Nodup
import Soak.Load.Run
import Soak.Populate
import Soak.Proofs.Longevity.Crew
import Soak.Proofs.Naming.Numbers

/-!
# Names that are never given twice

The text of a partition shows both of its ends, and no two partitions of a split begin at the
same container.  So no two workers of a run have the same name, and no two threads either,
which are named for the partitions that they work on.
-/

namespace Soak

namespace Partition

variable {total workers : Nat} {parts : List Partition}

lemma text_eq_joined (p : Partition) : p.text = Naming.joined "" '-' p.min p.max := by
  rw [Naming.joined, String.empty_append]
  rfl

/-- The ends of a partition can be told from its text. -/
lemma text_inj {p q : Partition} : p.text = q.text ↔ p.min = q.min ∧ p.max = q.max := by
  rw [text_eq_joined, text_eq_joined, Naming.joined_inj rfl]

lemma nodup_min_of_split (h : split total workers = .ok parts) :
    (parts.map Partition.min).Nodup := by
  obtain ⟨share, hshare, -, -, rfl⟩ := split_eq_ok_iff.1 h
  rw [List.map_map]
  refine List.Nodup.map ?_ List.nodup_range
  intro j k hjk
  exact Nat.eq_of_mul_eq_mul_right hshare hjk

/-- Names that end with the text of a partition differ within a split. -/
lemma nodup_names_of_split (h : split total workers = .ok parts) (stem : String)
    {name : Partition → String} (hname : ∀ p, name p = stem ++ p.text) :
    (parts.map name).Nodup := by
  refine List.pairwise_map.2 ((List.pairwise_map.1 (nodup_min_of_split h)).imp ?_)
  intro p q hmin heq
  rw [hname, hname, String.append_right_inj, text_inj] at heq
  exact hmin heq.1

end Partition

namespace Naming

/-- **No name is given twice.**  For every stem, containers and lifecycle items with different
numbers have different names, and no container is without one.  The two numbers in the id of an
item in bulk, and in the names of a container and an item of the chained benchmark, can both be
told from it.  The name of a worker shows the ends of its partition, and no two partitions of a
split give the same name to a worker, to the thread that it runs on, or to a thread of a load run
or of a population. -/
theorem names_are_unique :
    (∀ stem, Function.Injective (container stem) ∧ ∀ n, container stem n ≠ "") ∧
    (∀ stem, Function.Injective (lifecycleItem stem)) ∧
    Function.Injective2 bulkItem ∧ Function.Injective2 chainContainer ∧
    Function.Injective2 chainItem ∧
    (∀ p nowMs, (Worker.Status.new p nowMs).name =
      "Containers_" ++ toString p.min ++ "-" ++ toString p.max) ∧
    ∀ total workers parts, Partition.split total workers = .ok parts →
      (∀ nowMs, (parts.map fun p => (Worker.Status.new p nowMs).name).Nodup) ∧
      (∀ backend c seeds epoch deadline, (parts.map fun p =>
        (Longevity.thread epoch deadline (Longevity.worker backend c seeds p)).name).Nodup) ∧
      (∀ backend seeds payload items action,
        (parts.map fun p => (Load.thread backend seeds payload items action p).name).Nodup) ∧
      ∀ backend c seeds, (parts.map fun p => (Populate.thread backend c seeds p).name).Nodup := by
  refine ⟨fun stem => ⟨fun _ _ h => container_inj.1 h, container_ne_empty stem⟩,
    fun stem _ _ h => lifecycleItem_inj.1 h, fun _ _ _ _ h => bulkItem_inj.1 h,
    fun _ _ _ _ h => chainContainer_inj.1 h, fun _ _ _ _ h => chainItem_inj.1 h,
    fun p _ => ?_, ?_⟩
  · show "Containers_" ++ p.text = _
    rw [Partition.text_eq_joined, joined, String.empty_append, String.append_assoc,
      String.append_assoc, String.append_assoc]
    rfl
  intro total workers parts hsplit
  refine ⟨fun nowMs => ?_, fun backend c seeds epoch deadline => ?_,
    fun backend seeds payload items action => ?_, fun backend c seeds => ?_⟩
  · exact Partition.nodup_names_of_split hsplit "Containers_" fun p => rfl
  · exact Partition.nodup_names_of_split hsplit "Containers_" fun p => rfl
  · exact Partition.nodup_names_of_split hsplit "load_" fun p => rfl
  · exact Partition.nodup_names_of_split hsplit "populate_" fun p => rfl

/-- The names of the workers that share twelve containers between them. -/
theorem names_of_two_workers :
    Partition.split 12 2 = .ok [⟨0, 0, 5⟩, ⟨1, 6, 11⟩] ∧
    ["Containers_0-5", "Containers_6-11"].Nodup := by
  have hsplit : Partition.split 12 2 = .ok [⟨0, 0, 5⟩, ⟨1, 6, 11⟩] := by decide
  obtain ⟨-, -, -, -, -, -, hparts⟩ := names_are_unique
  exact ⟨hsplit, (hparts 12 2 _ hsplit).1 0⟩

end Naming

end Soak
