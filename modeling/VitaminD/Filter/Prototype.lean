/-
What the filter is for: the analogue second-order Butterworth low-pass y'' + √2 y' + y = x (cutoff at 1 rad per unit of
time), advanced from sample to sample by the trapezoidal rule. The half-step k is the only parameter, and stands for
the tangent of half the cutoff angle.

Between two samples the state is the pair (pos, vel) of the two integrators. At a sample the three signals
(`accel`, `velMid`, `output`) solve the differential equation with the current input (`balance`), and the integrators
then move on by the same half-step that brought them there.

Results:
- `energy_step`: the quadratic energy grows by exactly x² - output² - accel², so it is a storage function with which
  the output never carries more energy than the input (`energy_sum`);
- `drift_step`: x - output is the increment of a linear function of the state over 2 k (`drift_sum`);
- `refines_smoother`: read in the complex coordinate `zeta`, the two integrators are one exponential smoother with the
  complex coefficient `pole k`, inside the unit circle for every k > 0 (`norm_pole_lt_one`);
- `out_settles`: after any history, a constant input draws the output to it.
-/
import Mathlib.Analysis.CStarAlgebra.Classes
import VitaminD.Core.Smoother

namespace VitaminD.Prototype

open VitaminD.Machine Finset Filter Topology

/-! ## Model -/

/-- the two integrators between samples -/
@[ext] structure State where
  pos : ℝ
  vel : ℝ

/-- the common denominator of the discretised prototype -/
noncomputable def denom (k : ℝ) : ℝ := 1 + √2 * k + k * k

/-- second derivative at the sample -/
noncomputable def accel (k : ℝ) (s : State) (x : ℝ) : ℝ := (x - (√2 + k) * s.vel - s.pos) / denom k

/-- first derivative at the sample -/
noncomputable def velMid (k : ℝ) (s : State) (x : ℝ) : ℝ := s.vel + k * accel k s x

/-- value at the sample -/
noncomputable def output (k : ℝ) (s : State) (x : ℝ) : ℝ := s.pos + k * velMid k s x

/-- one sample: the output, and both integrators half a step further -/
noncomputable def step (k : ℝ) (s : State) (x : ℝ) : ℝ × State :=
  (output k s x, ⟨output k s x + k * velMid k s x, velMid k s x + k * accel k s x⟩)

/-- at rest at the value v -/
def rest (v : ℝ) : State := ⟨v, 0⟩

theorem sqrt_two_mul_self : √2 * √2 = (2 : ℝ) := Real.mul_self_sqrt (by norm_num)

theorem denom_pos {k : ℝ} (hk : 0 < k) : 0 < denom k := by unfold denom; positivity

/-- the signals at a sample solve the differential equation -/
theorem balance {k : ℝ} (hk : 0 < k) (s : State) (x : ℝ) :
    accel k s x + √2 * velMid k s x + output k s x = x := by
  have hd := (denom_pos hk).ne'
  have hq : accel k s x * denom k = x - (√2 + k) * s.vel - s.pos := by unfold accel; field_simp
  unfold denom at hq
  unfold output velMid
  linear_combination hq

/-! ## Energy and drift -/

/-- quadratic storage function of the two integrators, measured from the level c -/
noncomputable def energy (k c : ℝ) (s : State) : ℝ :=
  (√2 * (s.pos - c) ^ 2 + 2 * (s.pos - c) * s.vel + √2 * s.vel ^ 2) / (2 * k)

theorem energy_nonneg {k : ℝ} (hk : 0 < k) (c : ℝ) (s : State) : 0 ≤ energy k c s := by
  have hs : 1 ≤ √2 := Real.one_le_sqrt.2 (by norm_num)
  have hform : 0 ≤ √2 * (s.pos - c) ^ 2 + 2 * (s.pos - c) * s.vel + √2 * s.vel ^ 2 := by
    have h1 := mul_nonneg (sub_nonneg.2 hs) (add_nonneg (sq_nonneg (s.pos - c)) (sq_nonneg s.vel))
    nlinarith [sq_nonneg (s.pos - c + s.vel)]
  unfold energy
  positivity

@[simp] theorem energy_rest (k c : ℝ) : energy k c (rest c) = 0 := by simp [energy, rest]

/-- **Energy balance of one sample**, measured from any level c -/
theorem energy_step {k : ℝ} (hk : 0 < k) (c : ℝ) (s : State) (x : ℝ) :
    energy k c (step k s x).2 - energy k c s = (x - c) ^ 2 - (output k s x - c) ^ 2 - accel k s x ^ 2 := by
  have hx := balance hk s x
  have hp : s.pos = output k s x - k * velMid k s x := by unfold output; ring
  have hv : s.vel = velMid k s x - k * accel k s x := by unfold velMid; ring
  simp only [energy, step]
  generalize output k s x = y at *
  generalize velMid k s x = p at *
  generalize accel k s x = q at *
  rw [hp, hv, ← hx]
  field_simp
  linear_combination (-2 * p ^ 2 * k) * sqrt_two_mul_self

/-- x - output is the increment of a linear function of the state -/
theorem drift_step {k : ℝ} (hk : 0 < k) (s : State) (x : ℝ) :
    2 * k * (x - output k s x) =
      ((step k s x).2.vel + √2 * (step k s x).2.pos) - (s.vel + √2 * s.pos) := by
  have hx := balance hk s x
  have hp : s.pos = output k s x - k * velMid k s x := by unfold output; ring
  have hv : s.vel = velMid k s x - k * accel k s x := by unfold velMid; ring
  simp only [step]
  rw [hp, hv]
  linear_combination (-2 * k) * hx

/-- the energy balance summed over a run -/
theorem energy_sum {k : ℝ} (hk : 0 < k) (c : ℝ) (s : State) (x : ℕ → ℝ) (n : ℕ) :
    energy k c (stateAt (step k) s x n) + ∑ i ∈ range n, (outAt (step k) s x i - c) ^ 2 ≤
      energy k c s + ∑ i ∈ range n, (x i - c) ^ 2 := by
  induction n with
  | zero => simp
  | succ n ih =>
    rw [sum_range_succ, sum_range_succ, stateAt_succ]
    have h := energy_step hk c (stateAt (step k) s x n) (x n)
    have hq := sq_nonneg (accel k (stateAt (step k) s x n) (x n))
    have ho : outAt (step k) s x n = output k (stateAt (step k) s x n) (x n) := rfl
    rw [ho]
    linarith

/-- **Conservation law.** Input minus output, summed over a run, is a difference of two states. -/
theorem drift_sum {k : ℝ} (hk : 0 < k) (s : State) (x : ℕ → ℝ) (n : ℕ) :
    2 * k * (∑ i ∈ range n, x i - ∑ i ∈ range n, outAt (step k) s x i) =
      ((stateAt (step k) s x n).vel + √2 * (stateAt (step k) s x n).pos) - (s.vel + √2 * s.pos) := by
  induction n with
  | zero => simp
  | succ n ih =>
    rw [sum_range_succ, sum_range_succ, stateAt_succ]
    have h := drift_step hk (stateAt (step k) s x n) (x n)
    have ho : outAt (step k) s x n = output k (stateAt (step k) s x n) (x n) := rfl
    rw [ho]
    linear_combination ih + h

/-! ## The complex coordinate -/

/-- the upper pole of the analogue prototype: a root of z² + √2 z + 1 -/
noncomputable def mu : ℂ := ⟨-(√2 / 2), √2 / 2⟩

@[simp] theorem mu_re : mu.re = -(√2 / 2) := rfl

@[simp] theorem mu_im : mu.im = √2 / 2 := rfl

/-- the image of the analogue pole under the trapezoidal rule -/
noncomputable def pole (k : ℝ) : ℂ := (1 + k * mu) / (1 - k * mu)

/-- the two integrators as one complex number -/
noncomputable def zeta (s : State) : ℂ := s.pos - mu * s.vel

/-- how a real signal is read off a complex one -/
def read (z : ℂ) : ℝ := z.re + z.im

theorem mu_root : mu * mu + √2 * mu + 1 = 0 := by
  have h := sqrt_two_mul_self
  apply Complex.ext
  · simp; linear_combination -h / 2
  · simp; ring

@[simp] theorem read_ofReal (x : ℝ) : read x = x := by simp [read]

theorem read_sub (z w : ℂ) : read (z - w) = read z - read w := by simp only [read, Complex.sub_re, Complex.sub_im]; ring

theorem read_add (z w : ℂ) : read (z + w) = read z + read w := by simp only [read, Complex.add_re, Complex.add_im]; ring

theorem read_mul_ofReal (z : ℂ) (x : ℝ) : read (z * x) = read z * x := by
  simp only [read, Complex.re_mul_ofReal, Complex.im_mul_ofReal]; ring

/-- reading costs at most a factor √2 -/
theorem abs_read_le (z : ℂ) : |read z| ≤ √2 * ‖z‖ := by
  apply abs_le_of_sq_le_sq _ (by positivity)
  rw [mul_pow, Complex.sq_norm, Complex.normSq_apply, sq, sq, sqrt_two_mul_self]
  unfold read
  nlinarith [sq_nonneg (z.re - z.im)]

theorem continuous_read : Continuous read := Complex.continuous_re.add Complex.continuous_im

theorem normSq_one_sub (k : ℝ) : Complex.normSq (1 - k * mu) = denom k := by
  have h := sqrt_two_mul_self
  simp only [Complex.normSq_apply, denom, Complex.sub_re, Complex.sub_im, Complex.one_re, Complex.one_im,
    Complex.re_ofReal_mul, Complex.im_ofReal_mul, mu_re, mu_im]
  linear_combination k ^ 2 / 2 * h

theorem normSq_one_add (k : ℝ) : Complex.normSq (1 + k * mu) = denom k - 2 * √2 * k := by
  have h := sqrt_two_mul_self
  simp only [Complex.normSq_apply, denom, Complex.add_re, Complex.add_im, Complex.one_re, Complex.one_im,
    Complex.re_ofReal_mul, Complex.im_ofReal_mul, mu_re, mu_im]
  linear_combination k ^ 2 / 2 * h

theorem normSq_mu : Complex.normSq mu = 1 := by
  have h := sqrt_two_mul_self
  simp only [Complex.normSq_apply, mu_re, mu_im]
  linear_combination h / 2

theorem one_sub_ne_zero {k : ℝ} (hk : 0 < k) : (1 - k * mu : ℂ) ≠ 0 := by
  rw [← Complex.normSq_pos, normSq_one_sub]
  exact denom_pos hk

theorem one_add_pole {k : ℝ} (hk : 0 < k) : 1 + pole k = 2 / (1 - k * mu) := by
  have h := one_sub_ne_zero hk
  unfold pole
  field_simp
  ring

theorem one_sub_pole {k : ℝ} (hk : 0 < k) : 1 - pole k = -(2 * k * mu) / (1 - k * mu) := by
  have h := one_sub_ne_zero hk
  unfold pole
  field_simp
  ring

/-- squared modulus of the pole -/
theorem sq_norm_pole {k : ℝ} (hk : 0 < k) : ‖pole k‖ ^ 2 = 1 - 2 * √2 * k / denom k := by
  have hd := (denom_pos hk).ne'
  rw [Complex.sq_norm, pole, Complex.normSq_div, normSq_one_add, normSq_one_sub]
  field_simp

/-- **The filter is stable for every half-step.** -/
theorem norm_pole_lt_one {k : ℝ} (hk : 0 < k) : ‖pole k‖ < 1 := by
  have hd := denom_pos hk
  have h : ‖pole k‖ ^ 2 < 1 ^ 2 := by
    rw [sq_norm_pole hk, one_pow]
    exact sub_lt_self _ (by positivity)
  exact lt_of_pow_lt_pow_left₀ 2 zero_le_one h

/-- one step of the integrators is one step of the smoother -/
theorem zeta_step {k : ℝ} (hk : 0 < k) (s : State) (x : ℝ) :
    zeta (step k s x).2 = pole k * zeta s + (1 - pole k) * x := by
  have h := one_sub_ne_zero hk
  have hx : (accel k s x : ℂ) + √2 * velMid k s x + output k s x = x := by exact_mod_cast balance hk s x
  have hp : (s.pos : ℂ) = output k s x - k * velMid k s x := by unfold output; push_cast; ring
  have hv : (s.vel : ℂ) = velMid k s x - k * accel k s x := by unfold velMid; push_cast; ring
  rw [one_sub_pole hk, pole]
  field_simp
  simp only [zeta, step]
  push_cast
  rw [hp, hv, ← hx]
  linear_combination 2 * k * velMid k s x * mu_root

/-- the output is read off the midpoint of the move -/
theorem output_eq_read {k : ℝ} (s : State) (x : ℝ) : output k s x = read ((zeta s + zeta (step k s x).2) / 2) := by
  have hmid : (zeta s + zeta (step k s x).2) / 2 = output k s x - mu * velMid k s x := by
    simp only [zeta, step, output, velMid]
    push_cast
    ring
  rw [hmid, read_sub, read_ofReal, read_mul_ofReal]
  simp [read]

/-- **The integrators are a complex smoother.** -/
theorem refines_smoother {k : ℝ} (hk : 0 < k) :
    Refines (step k) (Smoother.step (pole k)) (fun _ => True) zeta (fun x : ℝ => (x : ℂ)) read where
  inv _ _ _ := trivial
  out s x _ := by
    have h : output k s x = _ := output_eq_read s x
    rw [zeta_step hk] at h
    exact h
  next s x _ := zeta_step hk s x

/-- after any history, an input that has become constant draws the output to that constant -/
theorem out_settles {k : ℝ} (hk : 0 < k) (s : State) (v : ℝ) (x : ℕ → ℝ) (N : ℕ) (hx : ∀ n ≥ N, x n = v) :
    Tendsto (outAt (step k) s x) atTop (𝓝 v) := by
  have hx' : ∀ n ≥ N, (x n : ℂ) = v := fun n hn => by rw [hx n hn]
  have h := Smoother.out_settles (norm_pole_lt_one hk) (zeta s) (v : ℂ) (fun i => (x i : ℂ)) N hx'
  have hr := (continuous_read.tendsto (v : ℂ)).comp h
  rw [read_ofReal] at hr
  exact hr.congr fun n => ((refines_smoother hk).outAt trivial x n).symm

@[simp] theorem zeta_rest (v : ℝ) : zeta (rest v) = v := by simp [zeta, rest]

end VitaminD.Prototype
