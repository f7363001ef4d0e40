import Mathlib.Logic.ExistsUnique
import StoreBench.Telecom.Population

/-!
Seeds against ids. An odd factor has an inverse among the words of 64 bits, so that every word is
the seed of exactly one id, and no two blocks are drawn from one stream.
-/
namespace StoreBench.Telecom

open StoreBench.Random

/-- The inverse of the factor by which an id is multiplied. -/
def inverseFactor : UInt64 := 0xf1de83e19937733d

def idOfSeed (seed : UInt64) : UInt64 := (0x7a7b5eed00000001 ^^^ seed) * inverseFactor

theorem factor_mul_inverse : (0x9e3779b97f4a7c15 : UInt64) * inverseFactor = 1 := rfl

theorem idOfSeed_blockSeed (id : UInt64) : idOfSeed (blockSeed id) = id := by
  unfold idOfSeed blockSeed
  rw [← UInt64.xor_assoc, UInt64.xor_self, UInt64.zero_xor, UInt64.mul_assoc, factor_mul_inverse,
    UInt64.mul_one]

theorem blockSeed_idOfSeed (seed : UInt64) : blockSeed (idOfSeed seed) = seed := by
  unfold idOfSeed blockSeed
  rw [UInt64.mul_assoc, UInt64.mul_comm inverseFactor, factor_mul_inverse, UInt64.mul_one,
    ← UInt64.xor_assoc, UInt64.xor_self, UInt64.zero_xor]

theorem blockSeed_eq_iff {id seed : UInt64} : blockSeed id = seed ↔ id = idOfSeed seed := by
  constructor
  · rintro rfl
    exact (idOfSeed_blockSeed id).symm
  · rintro rfl
    exact blockSeed_idOfSeed seed

/-- Every block is drawn from a stream with a seed of its own, and no word is left that is not the
seed of some block. -/
theorem each_word_seeds_one_block :
    (∀ id, block id = (drawBlock id).value (Stream.ofSeed (blockSeed id))) ∧
      (∀ s t : UInt64, s ≠ t → blockSeed s ≠ blockSeed t) ∧
      ∀ seed, ∃! id, blockSeed id = seed := by
  refine ⟨fun _ => rfl, ?_, ?_⟩
  · intro s t hne heq
    apply hne
    rw [blockSeed_eq_iff, idOfSeed_blockSeed] at heq
    exact heq
  · intro seed
    refine ⟨idOfSeed seed, blockSeed_idOfSeed seed, ?_⟩
    intro id h
    exact blockSeed_eq_iff.mp h

end StoreBench.Telecom
