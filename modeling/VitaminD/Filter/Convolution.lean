/-
A fresh filter convolves. Measured from the first sample, the output is the convolution of the input with the response
to a single 1 that follows a 0: the level at which a stream starts leaves no transient.

- `outAt_fresh_eq`, `impulseResponse_fresh`: both sides are read off a complex smoother, which is linear;
- `outAt_fresh_add_const`, `outAt_fresh_linear`: a level added to the stream is added to the output, and sums and
  multiples of streams are filtered apart;
- `convolution_from_first_sample`: for every filter that the constructor builds.
-/
import VitaminD.Filter.Refinement

namespace VitaminD.ButterworthLowPassFilter

open VitaminD.Machine VitaminD.Prototype Finset

/-! ## The impulse response -/

/-- what a filter answers to 0, 1, 0, 0, ... from the 1 on -/
def impulseResponse {α : Type} [Zero α] [One α] [Add α] [Sub α] [Mul α] (f : ButterworthLowPassFilter α) (j : ℕ) : α :=
  outAt update f (impulse 1) (j + 1)

/-- an output is read off the smoother that starts at the first sample -/
theorem outAt_fresh_smoother {k : ℝ} (hk : 0 < k) (x : ℕ → ℝ) (n : ℕ) :
    outAt update (fresh k) x n = Prototype.read (outAt (Smoother.step (pole k)) (x 0 : ℂ) (fun i => (x i : ℂ)) n) := by
  rw [outAt_fresh hk, (refines_smoother hk).outAt trivial, zeta_rest]

theorem read_sum (s : Finset ℕ) (c : ℕ → ℝ) (z : ℕ → ℂ) :
    Prototype.read (∑ j ∈ s, (c j : ℂ) * z j) = ∑ j ∈ s, Prototype.read (z j) * c j := by
  induction s using Finset.induction_on with
  | empty => simpa using read_ofReal 0
  | insert j s hj ih => rw [sum_insert hj, sum_insert hj, read_add, ih, mul_comm (c j : ℂ), read_mul_ofReal]

theorem outAt_fresh_eq {k : ℝ} (hk : 0 < k) (x : ℕ → ℝ) (n : ℕ) :
    outAt update (fresh k) x n = x 0 + ∑ j ∈ range (n + 1),
      Prototype.read (outAt (Smoother.step (pole k)) 0 (impulse 0) j) * (x (n - j) - x 0) := by
  have hcast : ∀ j, (x (n - j) : ℂ) - x 0 = ((x (n - j) - x 0 : ℝ) : ℂ) := fun j => (Complex.ofReal_sub _ _).symm
  rw [outAt_fresh_smoother hk, Smoother.outAt_eq_convolution, read_add, read_ofReal]
  simp only [hcast, read_sum]

theorem impulseResponse_fresh {k : ℝ} (hk : 0 < k) (j : ℕ) :
    impulseResponse (fresh k) j = Prototype.read (outAt (Smoother.step (pole k)) 0 (impulse 0) j) := by
  have hcast : (fun i => ((impulse 1 : ℕ → ℝ) i : ℂ)) = impulse 1 := by
    funext i
    simp only [impulse]
    split_ifs
    · exact Complex.ofReal_one
    · exact Complex.ofReal_zero
  rw [impulseResponse, outAt_fresh_smoother hk, hcast, impulse_of_ne zero_ne_one, Complex.ofReal_zero, Nat.add_comm,
    Smoother.outAt_impulse]

/-! ## Levels and sums -/

theorem outAt_fresh_add_const {k : ℝ} (hk : 0 < k) (x : ℕ → ℝ) (c : ℝ) (n : ℕ) :
    outAt update (fresh k) (fun i => x i + c) n = outAt update (fresh k) x n + c := by
  rw [outAt_fresh_eq hk, outAt_fresh_eq hk]
  simp only [add_sub_add_right_eq_sub]
  ring

theorem outAt_fresh_linear {k : ℝ} (hk : 0 < k) (a b : ℝ) (x y : ℕ → ℝ) (n : ℕ) :
    outAt update (fresh k) (fun i => a * x i + b * y i) n =
      a * outAt update (fresh k) x n + b * outAt update (fresh k) y n := by
  rw [outAt_fresh_eq hk, outAt_fresh_eq hk, outAt_fresh_eq hk, mul_add, mul_add, mul_sum, mul_sum,
    add_add_add_comm, ← sum_add_distrib]
  congr 1
  refine sum_congr rfl ?_
  intro j _
  ring

/-! ## Main result -/

/-- **Convolution.** -/
theorem convolution_from_first_sample (fc fs : ℝ) (f : ButterworthLowPassFilter ℝ) (hf : init fc fs = .ok f)
    (x : ℕ → ℝ) (n : ℕ) :
    outAt update f x n = x 0 + ∑ j ∈ range (n + 1), impulseResponse f j * (x (n - j) - x 0) := by
  obtain ⟨h1, h2, rfl⟩ := (init_ok_iff fc fs f).1 hf
  have hk := halfStep_pos h1 h2
  rw [outAt_fresh_eq hk]
  simp only [impulseResponse_fresh hk]

/-- cutoff 1 under sampling 4, the sixth sample of a ramp that starts at 7 -/
theorem convolution_from_first_sample_one_four :
    let x : ℕ → ℝ := fun i => 7 + i
    outAt update (fresh (halfStep 1 4)) x 5 =
      x 0 + ∑ j ∈ range 6, impulseResponse (fresh (halfStep 1 4)) j * (x (5 - j) - x 0) :=
  convolution_from_first_sample 1 4 _ (init_ok one_pos (by norm_num)) (fun i => 7 + i) 5

end VitaminD.ButterworthLowPassFilter
