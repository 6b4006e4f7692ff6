/-
The filter is the Butterworth low-pass it is named after: driven with A cos (w n + phi) it settles on
g A cos (w n + psi), where g is the Butterworth magnitude 1 / √(1 + (tan (w / 2) / tan (π fc / fs))^4).

The argument is the trapezoidal rule read backwards. A triple of signals (y, p, q) that solves the differential
equation at every sample and obeys the trapezoidal rule between samples is a run of the prototype (`Trajectory`), and
every run on the same input tends to it, since the pole is inside the unit circle. For a sinusoid below Nyquist the
triple is a sinusoid and its two derivatives (`sinusoid_trajectory`); at Nyquist the whole input is second derivative
(`nyquist_trajectory`) and nothing is left of the output.

- `butterworth_response`: the response, gain 1 at zero frequency, half power at the cutoff, and a gain that decreases
  strictly all the way to Nyquist.
-/
import VitaminD.Filter.Refinement

namespace VitaminD.Prototype

open VitaminD.Machine Filter Topology

/-! ## Trajectories -/

/-- signals that solve the differential equation at every sample, the trapezoidal rule holding between samples -/
structure Trajectory (k : ℝ) (x y p q : ℕ → ℝ) : Prop where
  ode : ∀ n, q n + √2 * p n + y n = x n
  pos : ∀ n, y (n + 1) - k * p (n + 1) = y n + k * p n
  vel : ∀ n, p (n + 1) - k * q (n + 1) = p n + k * q n

/-- a step from integrators half a step before given signals, on the input that balances them, gives those signals -/
theorem step_of_signals {k : ℝ} (hk : 0 < k) (y p q : ℝ) :
    step k ⟨y - k * p, p - k * q⟩ (q + √2 * p + y) = (y, ⟨y + k * p, p + k * q⟩) := by
  have hd := (denom_pos hk).ne'
  have hq : accel k ⟨y - k * p, p - k * q⟩ (q + √2 * p + y) = q := by
    unfold accel
    rw [div_eq_iff hd]
    unfold denom
    ring
  have hp : velMid k ⟨y - k * p, p - k * q⟩ (q + √2 * p + y) = p := by rw [velMid, hq]; ring
  have hy : output k ⟨y - k * p, p - k * q⟩ (q + √2 * p + y) = y := by rw [output, hp]; ring
  rw [step, hy, hp, hq]

/-- a trajectory is a run -/
theorem Trajectory.stateAt_eq {k : ℝ} (hk : 0 < k) {x y p q : ℕ → ℝ} (h : Trajectory k x y p q) (n : ℕ) :
    stateAt (step k) ⟨y 0 - k * p 0, p 0 - k * q 0⟩ x n = ⟨y n - k * p n, p n - k * q n⟩ := by
  induction n with
  | zero => rfl
  | succ n ih => rw [stateAt_succ, ih, ← h.ode n, step_of_signals hk, h.pos, h.vel]

theorem Trajectory.outAt_eq {k : ℝ} (hk : 0 < k) {x y p q : ℕ → ℝ} (h : Trajectory k x y p q) (n : ℕ) :
    outAt (step k) ⟨y 0 - k * p 0, p 0 - k * q 0⟩ x n = y n := by
  rw [outAt, h.stateAt_eq hk, ← h.ode n, step_of_signals hk]

/-- two runs on the same input come together -/
theorem outAt_sub_tendsto {k : ℝ} (hk : 0 < k) (s t : State) (x : ℕ → ℝ) :
    Tendsto (fun n => outAt (step k) s x n - outAt (step k) t x n) atTop (𝓝 0) := by
  have h := Smoother.outAt_sub_tendsto (norm_pole_lt_one hk) (zeta s) (zeta t) (fun i => (x i : ℂ))
  have hr := (continuous_read.tendsto 0).comp h
  have h0 : read 0 = 0 := by simp [read]
  rw [h0] at hr
  refine hr.congr (fun n => ?_)
  rw [(refines_smoother hk).outAt trivial, (refines_smoother hk).outAt trivial, ← read_sub]
  rfl

/-- every run on the input of a trajectory tends to it -/
theorem Trajectory.tendsto {k : ℝ} (hk : 0 < k) {x y p q : ℕ → ℝ} (h : Trajectory k x y p q) (s : State) :
    Tendsto (fun n => outAt (step k) s x n - y n) atTop (𝓝 0) :=
  (outAt_sub_tendsto hk s _ x).congr (fun n => by rw [h.outAt_eq hk])

/-! ## Sinusoids -/

/-- the trapezoidal rule turns a sinusoid by the angle whose half has tangent t -/
theorem cos_trapezoid {w : ℝ} (hw : Real.cos (w / 2) ≠ 0) (a : ℝ) :
    Real.cos (a + w) + Real.tan (w / 2) * Real.sin (a + w) = Real.cos a - Real.tan (w / 2) * Real.sin a := by
  have h1 : Real.cos (a + w) = Real.cos (a + w / 2) * Real.cos (w / 2) - Real.sin (a + w / 2) * Real.sin (w / 2) := by
    rw [← Real.cos_add]; ring_nf
  have h2 : Real.sin (a + w) = Real.sin (a + w / 2) * Real.cos (w / 2) + Real.cos (a + w / 2) * Real.sin (w / 2) := by
    rw [← Real.sin_add]; ring_nf
  have h3 : Real.cos a = Real.cos (a + w / 2) * Real.cos (w / 2) + Real.sin (a + w / 2) * Real.sin (w / 2) := by
    rw [← Real.cos_sub]; ring_nf
  have h4 : Real.sin a = Real.sin (a + w / 2) * Real.cos (w / 2) - Real.cos (a + w / 2) * Real.sin (w / 2) := by
    rw [← Real.sin_sub]; ring_nf
  rw [h1, h2, h3, h4, Real.tan_eq_sin_div_cos]
  field_simp
  ring

theorem sin_trapezoid {w : ℝ} (hw : Real.cos (w / 2) ≠ 0) (a : ℝ) :
    Real.sin (a + w) - Real.tan (w / 2) * Real.cos (a + w) = Real.sin a + Real.tan (w / 2) * Real.cos a := by
  have h := cos_trapezoid hw (a - Real.pi / 2)
  rw [sub_add_eq_add_sub, Real.cos_sub_pi_div_two, Real.cos_sub_pi_div_two, Real.sin_sub_pi_div_two,
    Real.sin_sub_pi_div_two] at h
  linear_combination h

/-- a sinusoid below Nyquist and its derivatives at the warped frequency tau = tan (w / 2) / k -/
theorem sinusoid_trajectory {k w tau : ℝ} (hw : Real.cos (w / 2) ≠ 0) (htau : k * tau = Real.tan (w / 2)) (a psi : ℝ) :
    Trajectory k
      (fun n => a * ((1 - tau ^ 2) * Real.cos (w * n + psi) - √2 * tau * Real.sin (w * n + psi)))
      (fun n => a * Real.cos (w * n + psi)) (fun n => -(a * tau * Real.sin (w * n + psi)))
      (fun n => -(a * tau ^ 2 * Real.cos (w * n + psi))) where
  ode n := by ring
  pos n := by
    have h := cos_trapezoid hw (w * n + psi)
    rw [← htau] at h
    have harg : w * ((n + 1 : ℕ) : ℝ) + psi = w * n + psi + w := by push_cast; ring
    simp only [harg]
    linear_combination a * h
  vel n := by
    have h := sin_trapezoid hw (w * n + psi)
    rw [← htau] at h
    have harg : w * ((n + 1 : ℕ) : ℝ) + psi = w * n + psi + w := by push_cast; ring
    simp only [harg]
    linear_combination (-(a * tau)) * h

/-- at Nyquist the whole input is second derivative -/
theorem nyquist_trajectory (k a phi : ℝ) :
    Trajectory k (fun n => a * Real.cos (Real.pi * n + phi)) (fun _ => 0) (fun _ => 0)
      (fun n => a * Real.cos (Real.pi * n + phi)) where
  ode n := by ring
  pos n := by ring
  vel n := by
    have harg : Real.pi * ((n + 1 : ℕ) : ℝ) + phi = Real.pi * n + phi + Real.pi := by push_cast; ring
    simp only [harg, Real.cos_add_pi]
    ring

end VitaminD.Prototype

namespace VitaminD.ButterworthLowPassFilter

open VitaminD.Machine VitaminD.Prototype Filter Topology

/-! ## The response of the filter -/

/-- the Butterworth magnitude at the digital frequency w, the two frequencies mapped through the tangent -/
noncomputable def butterworthGain (fc fs w : ℝ) : ℝ :=
  if w < Real.pi then 1 / √(1 + (Real.tan (w / 2) / Real.tan (Real.pi * fc / fs)) ^ 4) else 0

/-- the phase by which the filter delays a sinusoid of warped frequency tau -/
theorem exists_phase (tau : ℝ) :
    ∃ delta, 1 - tau ^ 2 = √(1 + tau ^ 4) * Real.cos delta ∧ √2 * tau = √(1 + tau ^ 4) * Real.sin delta := by
  have h2 := sqrt_two_mul_self
  set z : ℂ := ⟨1 - tau ^ 2, √2 * tau⟩
  have hpos : 0 < 1 + tau ^ 4 := by positivity
  have hz : ‖z‖ = √(1 + tau ^ 4) := by
    rw [Complex.norm_def, Complex.normSq_apply]
    congr 1
    simp only [z]
    linear_combination tau ^ 2 * h2
  have hne : ‖z‖ ≠ 0 := by rw [hz]; exact (Real.sqrt_pos.2 hpos).ne'
  refine ⟨z.arg, ?_, ?_⟩
  · rw [Complex.cos_arg (norm_ne_zero_iff.1 hne), ← hz, mul_div_cancel₀ _ hne]
  · rw [Complex.sin_arg, ← hz, mul_div_cancel₀ _ hne]

theorem cos_half_pos {w : ℝ} (hw : 0 ≤ w) (hw' : w < Real.pi) : 0 < Real.cos (w / 2) :=
  Real.cos_pos_of_mem_Ioo ⟨by linarith [Real.pi_pos], by linarith⟩

/-- the settled output below Nyquist -/
theorem tendsto_below_nyquist {k : ℝ} (hk : 0 < k) (A phi w : ℝ) (hw : Real.cos (w / 2) ≠ 0) :
    ∃ psi, Tendsto (fun n => outAt update (fresh k) (fun n => A * Real.cos (w * n + phi)) n -
      1 / √(1 + (Real.tan (w / 2) / k) ^ 4) * A * Real.cos (w * n + psi)) atTop (𝓝 0) := by
  have htau : k * (Real.tan (w / 2) / k) = Real.tan (w / 2) := mul_div_cancel₀ _ hk.ne'
  generalize Real.tan (w / 2) / k = tau at *
  obtain ⟨delta, hcos, hsin⟩ := exists_phase tau
  have hroot : √(1 + tau ^ 4) ≠ 0 := (Real.sqrt_pos.2 (by positivity)).ne'
  refine ⟨phi - delta, ?_⟩
  have htraj := sinusoid_trajectory hw htau (1 / √(1 + tau ^ 4) * A) (phi - delta)
  have hinput : (fun n : ℕ => 1 / √(1 + tau ^ 4) * A * ((1 - tau ^ 2) * Real.cos (w * n + (phi - delta)) -
      √2 * tau * Real.sin (w * n + (phi - delta)))) = fun n : ℕ => A * Real.cos (w * n + phi) := by
    funext n
    have harg : w * n + phi = (w * n + (phi - delta)) + delta := by ring
    rw [harg]
    generalize w * n + (phi - delta) = theta
    rw [Real.cos_add, hcos, hsin]
    field_simp
  rw [hinput] at htraj
  exact (htraj.tendsto hk (rest _)).congr (fun n => by rw [outAt_fresh hk])

/-- at Nyquist the output dies out -/
theorem tendsto_at_nyquist {k : ℝ} (hk : 0 < k) (A phi : ℝ) :
    Tendsto (outAt update (fresh k) (fun n => A * Real.cos (Real.pi * n + phi))) atTop (𝓝 0) :=
  ((nyquist_trajectory k A phi).tendsto hk (rest _)).congr (fun n => by rw [outAt_fresh hk, sub_zero])

theorem butterworthGain_zero (fc fs : ℝ) : butterworthGain fc fs 0 = 1 := by
  simp [butterworthGain, Real.pi_pos]

theorem butterworthGain_cutoff {fc fs : ℝ} (h1 : 0 < fc) (h2 : fc < fs / 2) :
    butterworthGain fc fs (2 * Real.pi * fc / fs) ^ 2 = 1 / 2 := by
  have hhalf : 2 * Real.pi * fc / fs / 2 = Real.pi * fc / fs := by ring
  have hlt : 2 * Real.pi * fc / fs < Real.pi := by linarith [(angle_mem h1 h2).2]
  have htan : Real.tan (Real.pi * fc / fs) ≠ 0 := (halfStep_pos h1 h2).ne'
  rw [butterworthGain, if_pos hlt, hhalf, div_self htan, div_pow, Real.sq_sqrt (by norm_num)]
  norm_num

theorem butterworthGain_strictAntiOn {fc fs : ℝ} (h1 : 0 < fc) (h2 : fc < fs / 2) :
    StrictAntiOn (butterworthGain fc fs) (Set.Icc 0 Real.pi) := by
  have hk : 0 < Real.tan (Real.pi * fc / fs) := halfStep_pos h1 h2
  intro v hv w hw hvw
  have hv' : v < Real.pi := hvw.trans_le hw.2
  rw [butterworthGain, butterworthGain, if_pos hv']
  split_ifs with hw'
  · have htv : 0 ≤ Real.tan (v / 2) := Real.tan_nonneg_of_nonneg_of_le_pi_div_two (by linarith [hv.1]) (by linarith)
    have htan : Real.tan (v / 2) < Real.tan (w / 2) :=
      Real.tan_lt_tan_of_nonneg_of_lt_pi_div_two (by linarith [hv.1]) (by linarith) (by linarith)
    have hdiv : Real.tan (v / 2) / Real.tan (Real.pi * fc / fs) < Real.tan (w / 2) / Real.tan (Real.pi * fc / fs) :=
      div_lt_div_of_pos_right htan hk
    exact one_div_lt_one_div_of_lt (Real.sqrt_pos.2 (by positivity))
      (Real.sqrt_lt_sqrt (by positivity) (by gcongr))
  · exact one_div_pos.2 (Real.sqrt_pos.2 (by positivity))

/-- **The recurrence is the Butterworth low-pass.** Every sinusoid from zero frequency to Nyquist comes out, after a
transient, with its amplitude multiplied by the Butterworth gain; the gain is 1 at zero frequency, of half power at the
cutoff, and strictly decreasing up to Nyquist. -/
theorem butterworth_response {fc fs : ℝ} {f : ButterworthLowPassFilter ℝ} (hf : init fc fs = .ok f) :
    (∀ A phi w : ℝ, 0 ≤ w → w ≤ Real.pi →
      ∃ psi, Tendsto (fun n => outAt update f (fun n => A * Real.cos (w * n + phi)) n -
        butterworthGain fc fs w * A * Real.cos (w * n + psi)) atTop (𝓝 0)) ∧
    butterworthGain fc fs 0 = 1 ∧ butterworthGain fc fs (2 * Real.pi * fc / fs) ^ 2 = 1 / 2 ∧
    StrictAntiOn (butterworthGain fc fs) (Set.Icc 0 Real.pi) := by
  obtain ⟨h1, h2, rfl⟩ := (init_ok_iff fc fs f).1 hf
  have hk := halfStep_pos h1 h2
  refine ⟨fun A phi w hw hw' => ?_, butterworthGain_zero fc fs, butterworthGain_cutoff h1 h2,
    butterworthGain_strictAntiOn h1 h2⟩
  rcases hw'.lt_or_eq with hlt | rfl
  · rw [butterworthGain, if_pos hlt]
    exact tendsto_below_nyquist hk A phi w (cos_half_pos hw hlt).ne'
  · refine ⟨phi, ?_⟩
    rw [butterworthGain, if_neg (lt_irrefl _)]
    simpa using tendsto_at_nyquist hk A phi

theorem butterworth_response_one_four :
    (∀ A phi w : ℝ, 0 ≤ w → w ≤ Real.pi →
      ∃ psi, Tendsto (fun n => outAt update (fresh (halfStep 1 4)) (fun n => A * Real.cos (w * n + phi)) n -
        butterworthGain 1 4 w * A * Real.cos (w * n + psi)) atTop (𝓝 0)) ∧
    butterworthGain 1 4 0 = 1 ∧ butterworthGain 1 4 (2 * Real.pi * 1 / 4) ^ 2 = 1 / 2 ∧
    StrictAntiOn (butterworthGain 1 4) (Set.Icc 0 Real.pi) :=
  butterworth_response (init_ok one_pos (by norm_num))

end VitaminD.ButterworthLowPassFilter
