import Mathlib.Algebra.Order.Group.Int
import Mathlib.Data.Int.Interval
import Mathlib.Data.Set.Card

/-!
# Overlapping segments of an extent

An extent `[0, stop)` of integers is cut into segments of one size that begin at the multiples of a
step; the last ones are cut off at the end. A step that is at most the size leaves no gap, and two
segments in succession share what the size exceeds the step by, as far as the extent goes.
-/

namespace Library.Segments

variable {stop size step overlap x y : ℤ}

/-- The segment that begins at `x`. -/
def segment (stop size x : ℤ) : Set ℤ := {p | x ≤ p ∧ p < x + min size (stop - x)}

theorem mem_segment {p : ℤ} : p ∈ segment stop size x ↔ x ≤ p ∧ p < x + size ∧ p < stop := by
  show x ≤ p ∧ p < x + min size (stop - x) ↔ _
  omega

/-- A segment that begins in the extent is not empty and lies in it. -/
theorem segment_inside (hsize : 0 < size) (hx : x < stop) :
    0 < min size (stop - x) ∧ x + min size (stop - x) ≤ stop := by
  omega

/-- The multiples of the step in the extent. -/
def IsStart (stop step x : ℤ) : Prop := ∃ i : ℕ, x = i * step ∧ x < stop

theorem IsStart.nonneg (hstep : 0 < step) (h : IsStart stop step x) : 0 ≤ x := by
  obtain ⟨i, rfl, -⟩ := h
  exact Int.mul_nonneg (Int.natCast_nonneg i) hstep.le

/-- Every point of the extent is in a segment. -/
theorem exists_mem_segment {p : ℤ} (hstep : 0 < step) (hsize : step ≤ size) (hp : 0 ≤ p)
    (hstop : p < stop) : ∃ x, IsStart stop step x ∧ p ∈ segment stop size x := by
  have hdiv : 0 ≤ p / step := Int.ediv_nonneg hp hstep.le
  have hsplit : p / step * step + p % step = p := Int.ediv_mul_add_emod p step
  have hmod := Int.emod_nonneg p hstep.ne'
  have hlt := Int.emod_lt_of_pos p hstep
  refine ⟨p / step * step, ⟨(p / step).toNat, ?_, by omega⟩, mem_segment.2 ⟨?_, ?_, hstop⟩⟩
  · rw [Int.toNat_of_nonneg hdiv]
  · omega
  · omega

/-- A start with no start between it and another one is a step before it. -/
theorem IsStart.next (hstep : 0 < step) (hx : IsStart stop step x) (hy : IsStart stop step y)
    (hlt : x < y) (hnone : ∀ z, IsStart stop step z → ¬(x < z ∧ z < y)) : y = x + step := by
  obtain ⟨i, rfl, -⟩ := hx
  obtain ⟨j, rfl, hj⟩ := hy
  have hij : (i : ℤ) < j := Int.lt_of_mul_lt_mul_right hlt hstep.le
  have hsucc : ((i + 1 : ℕ) : ℤ) * step = i * step + step := by
    rw [Nat.cast_add, Nat.cast_one, Int.add_mul, Int.one_mul]
  have hle : ((i + 1 : ℕ) : ℤ) * step ≤ j * step :=
    Int.mul_le_mul_of_nonneg_right (by omega) hstep.le
  -- The start behind `x` is not before `y`.
  have hnot := hnone _ ⟨i + 1, rfl, by omega⟩
  omega

/-- What two segments in succession share. -/
theorem ncard_inter_segment (hoverlap : 0 ≤ overlap) (hsize : overlap < size)
    (hy : x + (size - overlap) < stop) :
    ((segment stop size x ∩ segment stop size (x + (size - overlap))).ncard : ℤ) =
      min overlap (stop - (x + (size - overlap))) := by
  have hshared : segment stop size x ∩ segment stop size (x + (size - overlap)) =
      (Finset.Ico (x + (size - overlap)) (min (x + size) stop) : Finset ℤ) := by
    ext p
    rw [Set.mem_inter_iff, mem_segment, mem_segment, Finset.coe_Ico, Set.mem_Ico]
    omega
  rw [hshared, Set.ncard_coe_finset, Int.card_Ico]
  omega

end Library.Segments
