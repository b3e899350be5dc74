import Mathlib.Data.FinEnum
import Mathlib.Data.Nat.ModEq
import Mathlib.Data.Nat.Prime.Basic
import Soak.Proofs.Longevity.Crew
import Soak.Random.Generator

/-!
# The seeds of the streams

The seeds of a run lie a fixed stride apart on a circle of `2 ^ 64` words.  A stride reaches
every word exactly once if and only if it is odd (`Seeds.bijective_spread_iff`): an odd one has
an inverse, and an even one is back where it began after half of the streams.  The stride that
is used is odd, so that no two streams of a master seed, and no two master seeds of a stream,
have the same seed.
-/

namespace Soak

namespace Seeds

open Function (Injective Bijective)

variable {stride master a b : UInt64}

/-- The seed of a stream where seeds lie some stride apart. -/
def spread (stride master stream : UInt64) : UInt64 :=
  master + (stream + 1) * stride

lemma seedOf_eq_spread (s : Seeds) (stream : UInt64) :
    s.seedOf stream = spread Seeds.stride s.master stream :=
  rfl

/-- On whole numbers, remainders need to be taken only once. -/
lemma toNat_spread (stride master stream : UInt64) :
    (spread stride master stream).toNat =
      (master.toNat + (stream.toNat + 1) * stride.toNat) % 2 ^ 64 := by
  simp only [spread, UInt64.toNat_add, UInt64.toNat_mul, UInt64.toNat_one, Nat.add_mod_mod,
    Nat.mod_mul_mod]

lemma mul_right_cancel_of_odd (hodd : stride.toNat % 2 = 1) (h : a * stride = b * stride) :
    a = b := by
  have hcoprime : Nat.Coprime (2 ^ 64) stride.toNat :=
    Nat.Coprime.pow_left 64 (Nat.coprime_two_left.2 (Nat.odd_iff.2 hodd))
  have hmod : a.toNat * stride.toNat ≡ b.toNat * stride.toNat [MOD 2 ^ 64] := by
    have htoNat := congrArg UInt64.toNat h
    rwa [UInt64.toNat_mul, UInt64.toNat_mul] at htoNat
  have heq := Nat.ModEq.cancel_right_of_coprime hcoprime hmod
  exact UInt64.toNat_inj.1 (heq.eq_of_lt_of_lt a.toNat_lt b.toNat_lt)

lemma injective_spread_of_odd (hodd : stride.toNat % 2 = 1) : Injective (spread stride master) := by
  intro a b h
  have hsteps : (a + 1) * stride = (b + 1) * stride := (UInt64.add_right_inj master).1 h
  exact (UInt64.add_left_inj 1).1 (mul_right_cancel_of_odd hodd hsteps)

/-- Half of the streams further on, an even stride has come around. -/
lemma spread_half_turn (heven : stride.toNat % 2 = 0) :
    spread stride master (a + 9223372036854775808) = spread stride master a := by
  have hturn : 9223372036854775808 * stride = 0 := by
    refine UInt64.toNat_inj.1 ?_
    rw [UInt64.toNat_mul]
    show 9223372036854775808 * stride.toNat % 2 ^ 64 = 0
    omega
  rw [spread, spread, UInt64.add_right_inj, UInt64.add_assoc, UInt64.add_comm _ 1,
    ← UInt64.add_assoc, UInt64.add_mul, hturn, UInt64.add_zero]

/-- The odd strides are those that reach every word exactly once. -/
lemma bijective_spread_iff : Bijective (spread stride master) ↔ stride.toNat % 2 = 1 := by
  rw [← Finite.injective_iff_bijective]
  refine ⟨fun h => ?_, injective_spread_of_odd⟩
  refine (Nat.mod_two_eq_zero_or_one stride.toNat).resolve_left fun heven => ?_
  have hzero : (0 : UInt64) + 9223372036854775808 = 0 := h (spread_half_turn heven)
  exact absurd hzero (by decide)

lemma stride_odd : Seeds.stride.toNat % 2 = 1 := by
  decide

lemma bijective_seedOf (s : Seeds) : Bijective s.seedOf := by
  rw [funext s.seedOf_eq_spread]
  exact bijective_spread_iff.2 stride_odd

lemma bijective_seedOf_master (stream : UInt64) :
    Bijective fun master => seedOf ⟨master⟩ stream := by
  rw [← Finite.injective_iff_bijective]
  intro m n h
  exact (UInt64.add_left_inj _).1 h

/-- Numbers that fit a word stay apart. -/
lemma ofNat_inj {i j : Nat} (hi : i < 2 ^ 64) (hj : j < 2 ^ 64) :
    UInt64.ofNat i = UInt64.ofNat j ↔ i = j := by
  rw [← UInt64.toNat_inj, UInt64.toNat_ofNat_of_lt' hi, UInt64.toNat_ofNat_of_lt' hj]

/-- No two of the workers that share the containers between them have the same seed. -/
lemma nodup_seeds_of_split (s : Seeds) {total workers : Nat} {parts : List Partition}
    (h : Partition.split total workers = .ok parts) (hword : workers ≤ 2 ^ 64) :
    (parts.map fun p => s.seedOf (UInt64.ofNat p.index)).Nodup := by
  obtain ⟨share, -, -, -, rfl⟩ := Partition.split_eq_ok_iff.1 h
  rw [List.map_map]
  refine List.Nodup.map_on ?_ List.nodup_range
  intro j hj k hk hseed
  have hword' {i : Nat} (hi : i ∈ List.range workers) : i < 2 ^ 64 :=
    Nat.lt_of_lt_of_le (List.mem_range.1 hi) hword
  exact (ofNat_inj (hword' hj) (hword' hk)).1 ((bijective_seedOf s).1 hseed)

/-- **No two streams share a seed.**  A stream's generator is that of its seed, which on whole
numbers is the master seed and one stride for each stream up to this one, modulo `2 ^ 64`.
Every word is the seed of exactly one stream of a master seed, and of a stream for exactly one
master seed; so the workers that share the containers have seeds of their own.  Another stride
would do as well exactly if it is odd. -/
theorem streams_have_own_seeds :
    (∀ (s : Seeds) (i : Nat), s.stream i = .ofSeed (s.seedOf (UInt64.ofNat i))) ∧
    (∀ (s : Seeds) (stream : UInt64), (s.seedOf stream).toNat =
      (s.master.toNat + (stream.toNat + 1) * Seeds.stride.toNat) % 2 ^ 64) ∧
    (∀ s : Seeds, Bijective s.seedOf) ∧
    (∀ stream, Bijective fun master => seedOf ⟨master⟩ stream) ∧
    (∀ (s : Seeds) (a b : UInt64), a ≠ b → s.seedOf a ≠ s.seedOf b) ∧
    (∀ (s : Seeds) (total workers : Nat) (parts : List Partition),
      Partition.split total workers = .ok parts → workers ≤ 2 ^ 64 →
        (parts.map fun p => s.seedOf (UInt64.ofNat p.index)).Nodup) ∧
    ∀ stride master, Bijective (spread stride master) ↔ stride.toNat % 2 = 1 := by
  refine ⟨fun _ _ => rfl, fun s stream => toNat_spread Seeds.stride s.master stream,
    bijective_seedOf, bijective_seedOf_master, ?_, ?_, fun _ _ => bijective_spread_iff⟩
  · intro s a b hne hseed
    exact hne ((bijective_seedOf s).1 hseed)
  · intro s total workers parts hsplit hword
    exact nodup_seeds_of_split s hsplit hword

/-- The last stream, whose number comes around to zero when one is added, has the master seed
itself for its seed, and the first one has another. -/
theorem last_stream_has_own_seed :
    (18446744073709551615 : UInt64) ≠ 0 ∧
    seedOf ⟨42⟩ 18446744073709551615 = 42 ∧
    seedOf ⟨42⟩ 18446744073709551615 ≠ seedOf ⟨42⟩ 0 := by
  obtain ⟨-, -, -, -, hapart, -⟩ := streams_have_own_seeds
  have hne : (18446744073709551615 : UInt64) ≠ 0 := by decide
  exact ⟨hne, by decide, hapart ⟨42⟩ 18446744073709551615 0 hne⟩

end Seeds

end Soak
