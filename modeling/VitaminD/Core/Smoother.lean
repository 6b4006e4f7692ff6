/-
Exponential smoothing with a coefficient from a normed field: `z ← lam * z + (1 - lam) * x`, the output being the
midpoint of the old and the new state. For a real coefficient this is the usual one-pole low-pass filter; for a complex
one it is a damped rotation, and a second-order filter with a pair of conjugate poles is a reading of it.

Results, for a coefficient with ‖lam‖ < 1 where a bound is needed:
- `disk_step`: inputs within R of c keep the state within `spread lam * R` of c, which is a bound that does not depend
  on the length of the run;
- `stateAt_sub_stateAt`: two runs on the same input differ by lam^n times the difference of their starts;
- `out_settles`: after any history, a constant input v draws the output to v;
- `outAt_eq_convolution`: from the start v the outputs are v plus the convolution of the input, measured from v, with
  the response to an impulse.
-/
import VitaminD.Core.Linear
import VitaminD.Core.Numerals

namespace VitaminD.Smoother

open VitaminD.Machine Filter Topology

variable {𝕜 : Type} [NormedField 𝕜]

/-- one sample: the state moves to `lam * z + (1 - lam) * x`, the output is the midpoint of the move -/
def step (lam z x : 𝕜) : 𝕜 × 𝕜 := ((z + (lam * z + (1 - lam) * x)) / 2, lam * z + (1 - lam) * x)

@[simp] theorem step_snd (lam z x : 𝕜) : (step lam z x).2 = lam * z + (1 - lam) * x := rfl

/-- the distance from any reference point obeys the same recursion -/
theorem step_snd_sub (lam z x c : 𝕜) : (step lam z x).2 - c = lam * (z - c) + (1 - lam) * (x - c) := by
  rw [step_snd]; ring

/-! ## The disk that holds every run -/

/-- how much further than the inputs the state can stray -/
noncomputable def spread (lam : 𝕜) : ℝ := ‖1 - lam‖ / (1 - ‖lam‖)

theorem one_le_spread {lam : 𝕜} (hlam : ‖lam‖ < 1) : 1 ≤ spread lam := by
  have hpos : 0 < 1 - ‖lam‖ := sub_pos.2 hlam
  have h := norm_sub_norm_le (1 : 𝕜) lam
  rw [norm_one] at h
  exact (one_le_div hpos).2 h

theorem spread_mul {lam : 𝕜} (hlam : ‖lam‖ < 1) : spread lam * (1 - ‖lam‖) = ‖1 - lam‖ :=
  div_mul_cancel₀ _ (sub_pos.2 hlam).ne'

/-- one step keeps the disk of radius `spread lam * R` around c -/
theorem disk_step {lam : 𝕜} (hlam : ‖lam‖ < 1) (c : 𝕜) (R : ℝ) (z x : 𝕜) (hz : ‖z - c‖ ≤ spread lam * R)
    (hx : ‖x - c‖ ≤ R) : ‖(step lam z x).2 - c‖ ≤ spread lam * R := by
  rw [step_snd_sub]
  calc ‖lam * (z - c) + (1 - lam) * (x - c)‖
      ≤ ‖lam‖ * ‖z - c‖ + ‖1 - lam‖ * ‖x - c‖ := by
        refine (norm_add_le _ _).trans ?_
        rw [norm_mul, norm_mul]
    _ ≤ ‖lam‖ * (spread lam * R) + ‖1 - lam‖ * R := by gcongr
    _ = spread lam * R := by rw [← spread_mul hlam]; ring

/-! ## Linearity -/

theorem linear_step (lam : 𝕜) : Linear (step lam) where
  add s t x y := by
    ext
    · simp only [step, Prod.fst_add]; ring
    · simp only [step, Prod.snd_add]; ring
  smul c s x := by
    ext
    · simp only [step, Prod.smul_fst, smul_eq_mul]; ring
    · simp only [step, Prod.smul_snd, smul_eq_mul]; ring

/-- the response to an impulse that comes m samples late -/
theorem outAt_impulse (lam : 𝕜) (m n : ℕ) :
    outAt (step lam) 0 (impulse m) (m + n) = outAt (step lam) 0 (impulse 0) n := by
  have h : (fun i => (impulse m : ℕ → 𝕜) (m + i)) = impulse 0 := funext fun i => by simp [impulse]
  rw [(linear_step lam).outAt_delay _ m fun i hi => impulse_of_ne hi.ne, h]

/-! ## Forgetting and settling -/

/-- two runs on the same input: the difference of the starts is multiplied by lam at every sample -/
theorem stateAt_sub_stateAt (lam z z' : 𝕜) (x : ℕ → 𝕜) (n : ℕ) :
    stateAt (step lam) z x n - stateAt (step lam) z' x n = lam ^ n * (z - z') := by
  induction n with
  | zero => simp
  | succ n ih =>
    rw [stateAt_succ, stateAt_succ, step_snd, step_snd]
    calc lam * stateAt (step lam) z x n + (1 - lam) * x n - (lam * stateAt (step lam) z' x n + (1 - lam) * x n)
        = lam * (stateAt (step lam) z x n - stateAt (step lam) z' x n) := by ring
      _ = lam ^ (n + 1) * (z - z') := by rw [ih]; ring

/-- the outputs of two runs on the same input -/
theorem outAt_sub_outAt (lam z z' : 𝕜) (x : ℕ → 𝕜) (n : ℕ) :
    outAt (step lam) z x n - outAt (step lam) z' x n = (1 + lam) / 2 * (lam ^ n * (z - z')) := by
  rw [← stateAt_sub_stateAt lam z z' x n]
  simp only [outAt, step]
  ring

/-- the transients of two runs on the same input die out -/
theorem outAt_sub_tendsto {lam : 𝕜} (hlam : ‖lam‖ < 1) (z z' : 𝕜) (x : ℕ → 𝕜) :
    Tendsto (fun n => outAt (step lam) z x n - outAt (step lam) z' x n) atTop (𝓝 0) := by
  have hpow : Tendsto (fun n : ℕ => lam ^ n) atTop (𝓝 0) := tendsto_pow_atTop_nhds_zero_of_norm_lt_one hlam
  have h := (hpow.mul_const (z - z')).const_mul ((1 + lam) / 2)
  rw [zero_mul, mul_zero] at h
  exact h.congr (fun n => (outAt_sub_outAt lam z z' x n).symm)

/-- a state equal to a constant input stays there -/
theorem stateAt_const (lam v : 𝕜) (n : ℕ) : stateAt (step lam) v (fun _ => v) n = v := by
  induction n with
  | zero => rfl
  | succ n ih => rw [stateAt_succ, ih, step_snd]; ring

variable [CharZero 𝕜]

theorem outAt_const (lam v : 𝕜) (n : ℕ) : outAt (step lam) v (fun _ => v) n = v := by
  simp only [outAt, stateAt_const, step]
  ring

/-- **Settling.** After any history, an input that has become constant draws the output to that constant. -/
theorem out_settles {lam : 𝕜} (hlam : ‖lam‖ < 1) (z v : 𝕜) (x : ℕ → 𝕜) (N : ℕ) (hx : ∀ n ≥ N, x n = v) :
    Tendsto (outAt (step lam) z x) atTop (𝓝 v) := by
  rw [← tendsto_add_atTop_iff_nat N]
  have htail : (fun i => x (N + i)) = fun _ => v := funext fun i => hx _ (Nat.le_add_right N i)
  have h := (outAt_sub_tendsto hlam (stateAt (step lam) z x N) v (fun _ => v)).add_const v
  rw [zero_add] at h
  refine h.congr (fun n => ?_)
  rw [outAt_const, sub_add_cancel, Nat.add_comm n N, outAt_add, htail]

/-! ## Convolution -/

/-- the start and the input measured from the same level -/
theorem outAt_eq_add_outAt (lam v : 𝕜) (x : ℕ → 𝕜) (n : ℕ) :
    outAt (step lam) v x n = v + outAt (step lam) 0 (fun i => x i - v) n := by
  have h := (linear_step lam).outAt_add_add v 0 (fun _ => v) (fun i => x i - v) n
  simpa [outAt_const] using h

/-- **Convolution from a steady start.** -/
theorem outAt_eq_convolution (lam v : 𝕜) (x : ℕ → 𝕜) (n : ℕ) :
    outAt (step lam) v x n = v + ∑ j ∈ Finset.range (n + 1), (x (n - j) - v) * outAt (step lam) 0 (impulse 0) j := by
  rw [outAt_eq_add_outAt, (linear_step lam).outAt_eq_sum]
  rfl

end VitaminD.Smoother
