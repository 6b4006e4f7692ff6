/-
What the filter does to any input, over real arithmetic and for every pair of frequencies the constructor accepts.

- `overshoot_bound`: inputs in [lo, hi] give outputs in [lo - (hi - lo), hi + (hi - lo)];
- `constant_unchanged`: a constant stream is returned unchanged from its first sample on;
- `exponential_forgetting`: two histories are forgotten at a geometric rate;
- `energy_bound`: measured from the first sample, the output never carries more energy than the input;
- `no_drift`: the accumulated output stays within a constant times hi - lo of the accumulated input.

The bounds are bounds of the prototype. The first two rest on one estimate of its complex coordinate: the absolute sum
of the impulse response is at most b0 + 1 + ‖pole k‖, so at most 3 whatever the frequencies.
-/
import VitaminD.Filter.Refinement

namespace VitaminD.Prototype

open VitaminD.Machine Finset

/-! ## Bounds of the prototype -/

/-- the two factors by which the complex coordinate is moved and read -/
theorem norm_one_add_mul_one_sub {k : ℝ} (hk : 0 < k) : ‖1 + pole k‖ * ‖1 - pole k‖ = 4 * k / denom k := by
  have hd : ‖1 - k * mu‖ * ‖1 - k * mu‖ = denom k := by
    rw [← sq, Complex.sq_norm, normSq_one_sub]
  have hmu : ‖mu‖ = 1 := by
    rw [← sq_eq_sq₀ (norm_nonneg _) zero_le_one, Complex.sq_norm, normSq_mu, one_pow]
  rw [one_add_pole hk, one_sub_pole hk, norm_div, norm_div, norm_neg, norm_mul, norm_mul, hmu, Complex.norm_real,
    Complex.norm_ofNat, Real.norm_of_nonneg hk.le, div_mul_div_comm, hd]
  ring

/-- reading the part of the midpoint that the state contributes costs 1 + ‖pole k‖ -/
theorem read_gain {k : ℝ} (hk : 0 < k) :
    √2 * (‖1 + pole k‖ / 2 * Smoother.spread (pole k)) = 1 + ‖pole k‖ := by
  have hpos : 0 < 1 - ‖pole k‖ := sub_pos.2 (norm_pole_lt_one hk)
  have hsq := sq_norm_pole hk
  have hprod := norm_one_add_mul_one_sub hk
  have hmul := Smoother.spread_mul (norm_pole_lt_one hk)
  apply mul_right_cancel₀ hpos.ne'
  calc √2 * (‖1 + pole k‖ / 2 * Smoother.spread (pole k)) * (1 - ‖pole k‖)
      = √2 / 2 * (‖1 + pole k‖ * (Smoother.spread (pole k) * (1 - ‖pole k‖))) := by ring
    _ = √2 / 2 * (4 * k / denom k) := by rw [hmul, hprod]
    _ = 1 - ‖pole k‖ ^ 2 := by rw [hsq]; ring
    _ = (1 + ‖pole k‖) * (1 - ‖pole k‖) := by ring

/-- the part of the midpoint that the input contributes is b0 times the input -/
theorem read_half_one_sub {k : ℝ} (hk : 0 < k) : read ((1 - pole k) / 2) = k * k / denom k := by
  have hn := one_sub_ne_zero hk
  have hd := (denom_pos hk).ne'
  have hc : (1 - pole k) / 2 = (-(k * mu) * (starRingEnd ℂ) (1 - k * mu)) * ((denom k)⁻¹ : ℝ) := by
    have hnorm : (1 - k * mu) * (starRingEnd ℂ) (1 - k * mu) = (denom k : ℂ) := by
      rw [Complex.mul_conj, normSq_one_sub]
    have hd' : (denom k : ℂ) ≠ 0 := by exact_mod_cast hd
    rw [one_sub_pole hk]
    push_cast
    field_simp
    rw [← hnorm]
    ring
  have h2 := sqrt_two_mul_self
  rw [hc, read_mul_ofReal, div_eq_mul_inv]
  congr 1
  simp [read]
  linear_combination k ^ 2 / 2 * h2

theorem b0_le_one {k : ℝ} (hk : 0 < k) : k * k / denom k ≤ 1 := by
  rw [div_le_one (denom_pos hk)]
  unfold denom
  have : 0 ≤ √2 * k := by positivity
  linarith

/-- the complex coordinate is in the disk that inputs within R of c keep it in -/
def InDisk (k c R : ℝ) (s : State) : Prop := ‖zeta s - c‖ ≤ Smoother.spread (pole k) * R

/-- one output, as far from c as the state and the input allow -/
theorem output_near {k : ℝ} (hk : 0 < k) (c R : ℝ) (s : State) (x : ℝ)
    (hs : InDisk k c R s) (hx : |x - c| ≤ R) :
    |output k s x - c| ≤ (1 + ‖pole k‖ + k * k / denom k) * R := by
  have hd := denom_pos hk
  have hsplit : output k s x - c =
      read ((1 + pole k) / 2 * (zeta s - c)) + k * k / denom k * (x - c) := by
    rw [output_eq_read, zeta_step hk, ← read_half_one_sub hk, ← read_mul_ofReal, ← read_add, ← read_ofReal c,
      ← read_sub]
    congr 1
    push_cast
    simp only [read_ofReal]
    ring
  have hread : |read ((1 + pole k) / 2 * (zeta s - c))| ≤ (1 + ‖pole k‖) * R := by
    calc |read ((1 + pole k) / 2 * (zeta s - c))|
        ≤ √2 * (‖1 + pole k‖ / 2 * ‖zeta s - c‖) := by
          refine (abs_read_le _).trans_eq ?_
          rw [norm_mul, norm_div, Complex.norm_ofNat]
      _ ≤ √2 * (‖1 + pole k‖ / 2 * (Smoother.spread (pole k) * R)) := by gcongr; exact hs
      _ = (1 + ‖pole k‖) * R := by rw [← read_gain hk]; ring
  have hinput : |k * k / denom k * (x - c)| ≤ k * k / denom k * R := by
    rw [abs_mul, abs_of_nonneg (by positivity)]
    gcongr
  calc |output k s x - c|
      ≤ |read ((1 + pole k) / 2 * (zeta s - c))| + |k * k / denom k * (x - c)| := by rw [hsplit]; exact abs_add_le _ _
    _ ≤ (1 + ‖pole k‖ + k * k / denom k) * R := by linarith

/-- the disk of the smoother, on the prototype -/
theorem zeta_near_step {k : ℝ} (hk : 0 < k) (c R : ℝ) (s : State) (x : ℝ)
    (hs : InDisk k c R s) (hx : |x - c| ≤ R) :
    InDisk k c R (step k s x).2 := by
  have hx' : ‖(x : ℂ) - c‖ ≤ R := by rwa [← Complex.ofReal_sub, Complex.norm_real]
  have h := Smoother.disk_step (norm_pole_lt_one hk) (c : ℂ) R (zeta s) x hs hx'
  rwa [Smoother.step_snd, ← zeta_step hk] at h

/-- the disk of the smoother, at every step of a run from rest -/
theorem zeta_near_stateAt {k : ℝ} (hk : 0 < k) (c R : ℝ) (x : ℕ → ℝ) (hx : ∀ i, |x i - c| ≤ R) (s : State)
    (hs : InDisk k c R s) (n : ℕ) :
    InDisk k c R (stateAt (step k) s x n) :=
  stateAt_inv (step k) (InDisk k c R) (fun u => |u - c| ≤ R)
    (fun s u hs hu => zeta_near_step hk c R s u hs hu) s x hs n (fun i _ => hx i)

theorem zeta_near_rest {k : ℝ} (hk : 0 < k) {c R v : ℝ} (hv : |v - c| ≤ R) :
    InDisk k c R (rest v) := by
  have hR : 0 ≤ R := (abs_nonneg _).trans hv
  rw [InDisk, zeta_rest, ← Complex.ofReal_sub, Complex.norm_real]
  exact hv.trans (le_mul_of_one_le_left hR (Smoother.one_le_spread (norm_pole_lt_one hk)))

/-- two states in the same disk -/
theorem norm_zeta_sub_le {k c R : ℝ} {s t : State} (hs : InDisk k c R s) (ht : InDisk k c R t) :
    ‖zeta s - zeta t‖ ≤ 2 * (Smoother.spread (pole k) * R) := by
  calc ‖zeta s - zeta t‖
      ≤ ‖zeta s - c‖ + ‖(c : ℂ) - zeta t‖ := norm_sub_le_norm_sub_add_norm_sub _ _ _
    _ ≤ Smoother.spread (pole k) * R + Smoother.spread (pole k) * R := by
        rw [norm_sub_rev (c : ℂ)]
        exact add_le_add hs ht
    _ = 2 * (Smoother.spread (pole k) * R) := by ring

/-- the conserved quantity is a reading of the complex coordinate -/
theorem vel_add_pos (s : State) : s.vel + √2 * s.pos = √2 * (zeta s).re := by
  have h := sqrt_two_mul_self
  simp only [zeta, Complex.sub_re, Complex.ofReal_re, Complex.re_mul_ofReal, mu_re]
  linear_combination (-s.vel / 2) * h

/-- the accumulated difference of input and output, for inputs within R of c -/
theorem drift_near {k : ℝ} (hk : 0 < k) (c R : ℝ) (x : ℕ → ℝ) (hx : ∀ i, |x i - c| ≤ R) (n : ℕ) :
    2 * k * |∑ i ∈ range n, x i - ∑ i ∈ range n, outAt (step k) (rest (x 0)) x i| ≤
      √2 * (2 * (Smoother.spread (pole k) * R)) := by
  have hstart := zeta_near_rest hk (hx 0)
  have hend := zeta_near_stateAt hk c R x hx (rest (x 0)) hstart n
  have hsum := drift_sum hk (rest (x 0)) x n
  rw [vel_add_pos, vel_add_pos, ← mul_sub, ← Complex.sub_re] at hsum
  have hz := norm_zeta_sub_le hend hstart
  set z := zeta (stateAt (step k) (rest (x 0)) x n)
  calc 2 * k * |∑ i ∈ range n, x i - ∑ i ∈ range n, outAt (step k) (rest (x 0)) x i|
      = √2 * |(z - zeta (rest (x 0))).re| := by
        rw [← abs_of_nonneg (Real.sqrt_nonneg 2), ← abs_mul, ← hsum, abs_mul, abs_of_pos (mul_pos two_pos hk)]
    _ ≤ √2 * (2 * (Smoother.spread (pole k) * R)) := by
        gcongr
        exact (Complex.abs_re_le_norm _).trans hz

end VitaminD.Prototype

namespace VitaminD.ButterworthLowPassFilter

open VitaminD.Machine VitaminD.Prototype Finset

/-! ## Overshoot -/

/-- an interval is a ball around its midpoint -/
theorem abs_sub_mid_le {lo hi x : ℝ} (hx : lo ≤ x ∧ x ≤ hi) : |x - (lo + hi) / 2| ≤ (hi - lo) / 2 :=
  abs_le.2 ⟨by linarith [hx.1], by linarith [hx.2]⟩

/-- every output of a run on inputs within R of c -/
theorem outputs_near {k : ℝ} (hk : 0 < k) (c R : ℝ) (xs : List ℝ) (hxs : ∀ x ∈ xs, |x - c| ≤ R) :
    ∀ y ∈ outputs update (fresh k) xs, |y - c| ≤ 3 * R := by
  cases xs with
  | nil => intro y hy; simp [outputs] at hy
  | cons v xs =>
    have hv := hxs v List.mem_cons_self
    have hR : 0 ≤ R := (abs_nonneg _).trans hv
    rw [outputs_fresh hk]
    refine outputs_inv (Prototype.step k) (InDisk k c R) (fun x => |x - c| ≤ R)
      (fun y => |y - c| ≤ 3 * R) (fun s x hs hx => zeta_near_step hk c R s x hs hx) (fun s x hs hx => ?_) (rest v)
      (v :: xs) (zeta_near_rest hk hv) hxs
    have hgain : 1 + ‖pole k‖ + k * k / denom k ≤ 3 := by linarith [norm_pole_lt_one hk, b0_le_one hk]
    exact (output_near hk c R s x hs hx).trans (mul_le_mul_of_nonneg_right hgain hR)

/-- **Uniform overshoot bound.** Whatever the accepted frequencies and however long the stream, inputs in [lo, hi]
give outputs that leave the interval by at most its length. -/
theorem overshoot_bound {fc fs : ℝ} {f : ButterworthLowPassFilter ℝ} (hf : init fc fs = .ok f) (lo hi : ℝ)
    (xs : List ℝ) (hxs : ∀ x ∈ xs, lo ≤ x ∧ x ≤ hi) :
    ∀ y ∈ outputs update f xs, lo - (hi - lo) ≤ y ∧ y ≤ hi + (hi - lo) := by
  obtain ⟨h1, h2, rfl⟩ := (init_ok_iff fc fs f).1 hf
  intro y hy
  have h := abs_le.1 (outputs_near (halfStep_pos h1 h2) _ _ xs (fun x hx => abs_sub_mid_le (hxs x hx)) y hy)
  exact ⟨by linarith [h.1], by linarith [h.2]⟩

/-- the second sample of a step from 0 to 1 -/
theorem overshoot_bound_one_four :
    (0 : ℝ) - (1 - 0) ≤ (((fresh (halfStep 1 4)).update 0).2.update 1).1 ∧
      (((fresh (halfStep 1 4)).update 0).2.update 1).1 ≤ 1 + (1 - 0) :=
  overshoot_bound (init_ok one_pos (by norm_num)) 0 1 [0, 1] (by simp) _ (List.mem_cons_of_mem _ List.mem_cons_self)

/-- a constant stream is returned unchanged from its first sample on -/
theorem constant_unchanged {k : ℝ} (hk : 0 < k) (c : ℝ) (xs : List ℝ) (hxs : ∀ x ∈ xs, x = c) :
    ∀ y ∈ outputs update (fresh k) xs, y = c := by
  intro y hy
  have h := outputs_near hk c 0 xs (fun x hx => by rw [hxs x hx]; simp) y hy
  rw [mul_zero] at h
  exact sub_eq_zero.1 (abs_nonpos_iff.1 h)

/-! ## Forgetting -/

/-- after a nonempty history of values within R of c the filter is running, its complex coordinate in the disk -/
theorem running_after {k : ℝ} (hk : 0 < k) (c R : ℝ) (xs : List ℝ) (hne : xs ≠ []) (hxs : ∀ x ∈ xs, |x - c| ≤ R) :
    Running k (final update (fresh k) xs) ∧ InDisk k c R (toPrototype k (final update (fresh k) xs)) := by
  obtain ⟨v, xs, rfl⟩ := List.exists_cons_of_ne_nil hne
  obtain ⟨hrunning, hfinal⟩ := final_fresh hk v xs
  refine ⟨hrunning, ?_⟩
  rw [hfinal]
  exact final_inv (Prototype.step k) (InDisk k c R) (fun x => |x - c| ≤ R)
    (fun s x hs hx => zeta_near_step hk c R s x hs hx) (rest v) (v :: xs)
    (zeta_near_rest hk (hxs v List.mem_cons_self)) hxs

/-- outputs of two running filters on the same input, read off the difference of their complex coordinates -/
theorem outAt_sub_outAt {k : ℝ} (hk : 0 < k) {f g : ButterworthLowPassFilter ℝ} (hf : Running k f)
    (hg : Running k g) (x : ℕ → ℝ) (n : ℕ) :
    outAt update f x n - outAt update g x n =
      read ((1 + pole k) / 2 * (pole k ^ n * (zeta (toPrototype k f) - zeta (toPrototype k g)))) := by
  rw [(refines_prototype hk).outAt hf, (refines_prototype hk).outAt hg]
  simp only [id]
  rw [(refines_smoother hk).outAt trivial, (refines_smoother hk).outAt trivial, ← read_sub, Smoother.outAt_sub_outAt]

/-- two running filters with their complex coordinates in the same disk -/
theorem abs_outAt_sub_outAt_le {k : ℝ} (hk : 0 < k) {c R : ℝ} {f g : ButterworthLowPassFilter ℝ}
    (hf : Running k f ∧ InDisk k c R (toPrototype k f)) (hg : Running k g ∧ InDisk k c R (toPrototype k g))
    (u : ℕ → ℝ) (n : ℕ) :
    |outAt update f u n - outAt update g u n| ≤ 2 * (1 + ‖pole k‖) * R * ‖pole k‖ ^ n := by
  have hzw := norm_zeta_sub_le hf.2 hg.2
  rw [outAt_sub_outAt hk hf.1 hg.1]
  set d := zeta (toPrototype k f) - zeta (toPrototype k g)
  calc |read ((1 + pole k) / 2 * (pole k ^ n * d))|
      ≤ √2 * (‖1 + pole k‖ / 2 * (‖pole k‖ ^ n * ‖d‖)) := by
        refine (abs_read_le _).trans_eq ?_
        rw [norm_mul, norm_div, Complex.norm_ofNat, norm_mul, norm_pow]
    _ ≤ √2 * (‖1 + pole k‖ / 2 * (‖pole k‖ ^ n * (2 * (Smoother.spread (pole k) * R)))) := by gcongr
    _ = 2 * (1 + ‖pole k‖) * R * ‖pole k‖ ^ n := by rw [← read_gain hk]; ring

/-- **Exponential forgetting.** There are C and rho < 1, given by the two frequencies, such that two histories bounded
by R leave outputs that differ by at most C * R * rho^n on the n-th sample of any common continuation. -/
theorem exponential_forgetting {fc fs : ℝ} {f : ButterworthLowPassFilter ℝ} (hf : init fc fs = .ok f) :
    ∃ C rho : ℝ, 0 ≤ C ∧ 0 ≤ rho ∧ rho < 1 ∧ ∀ (R : ℝ) (xs ys : List ℝ), xs ≠ [] → ys ≠ [] →
      (∀ x ∈ xs, |x| ≤ R) → (∀ y ∈ ys, |y| ≤ R) → ∀ (u : ℕ → ℝ) (n : ℕ),
        |outAt update (final update f xs) u n - outAt update (final update f ys) u n| ≤ C * R * rho ^ n := by
  obtain ⟨h1, h2, rfl⟩ := (init_ok_iff fc fs f).1 hf
  have hk := halfStep_pos h1 h2
  generalize halfStep fc fs = k at *
  refine ⟨2 * (1 + ‖pole k‖), ‖pole k‖, by positivity, norm_nonneg _, norm_pole_lt_one hk, ?_⟩
  intro R xs ys hx0 hy0 hxs hys u n
  have hx := running_after hk 0 R xs hx0 (by simpa using hxs)
  have hy := running_after hk 0 R ys hy0 (by simpa using hys)
  exact abs_outAt_sub_outAt_le hk hx hy u n

theorem exponential_forgetting_one_four :
    ∃ C rho : ℝ, 0 ≤ C ∧ 0 ≤ rho ∧ rho < 1 ∧ ∀ (R : ℝ) (xs ys : List ℝ), xs ≠ [] → ys ≠ [] →
      (∀ x ∈ xs, |x| ≤ R) → (∀ y ∈ ys, |y| ≤ R) → ∀ (u : ℕ → ℝ) (n : ℕ),
        |outAt update (final update (fresh (halfStep 1 4)) xs) u n -
          outAt update (final update (fresh (halfStep 1 4)) ys) u n| ≤ C * R * rho ^ n :=
  exponential_forgetting (init_ok one_pos (by norm_num))

/-! ## Energy -/

/-- **The filter never amplifies energy**, measured from the first sample -/
theorem energy_bound {fc fs : ℝ} {f : ButterworthLowPassFilter ℝ} (hf : init fc fs = .ok f) (x : ℕ → ℝ) (N : ℕ) :
    ∑ n ∈ range (N + 1), (outAt update f x n - x 0) ^ 2 ≤ ∑ n ∈ range (N + 1), (x n - x 0) ^ 2 := by
  obtain ⟨h1, h2, rfl⟩ := (init_ok_iff fc fs f).1 hf
  have hk := halfStep_pos h1 h2
  have hsum := energy_sum hk (x 0) (rest (x 0)) x (N + 1)
  have hend := energy_nonneg hk (x 0) (stateAt (Prototype.step (halfStep fc fs)) (rest (x 0)) x (N + 1))
  rw [energy_rest] at hsum
  simp only [outAt_fresh hk]
  linarith

theorem energy_bound_one_four :
    ∑ n ∈ range (1 + 1), (outAt update (fresh (halfStep 1 4)) (fun n => (n : ℝ)) n - ((0 : ℕ) : ℝ)) ^ 2 ≤
      ∑ n ∈ range (1 + 1), ((n : ℝ) - ((0 : ℕ) : ℝ)) ^ 2 :=
  energy_bound (init_ok one_pos (by norm_num)) (fun n => (n : ℝ)) 1

/-! ## Drift -/

/-- **No drift.** There is a C, given by the two frequencies, such that the accumulated output of a stream in [lo, hi]
stays within C * (hi - lo) of the accumulated input, however long the run. -/
theorem no_drift {fc fs : ℝ} {f : ButterworthLowPassFilter ℝ} (hf : init fc fs = .ok f) :
    ∃ C : ℝ, ∀ (lo hi : ℝ) (x : ℕ → ℝ), (∀ i, lo ≤ x i ∧ x i ≤ hi) → ∀ n : ℕ,
      |∑ i ∈ range (n + 1), outAt update f x i - ∑ i ∈ range (n + 1), x i| ≤ C * (hi - lo) := by
  obtain ⟨h1, h2, rfl⟩ := (init_ok_iff fc fs f).1 hf
  have hk := halfStep_pos h1 h2
  generalize halfStep fc fs = k at *
  refine ⟨√2 * Smoother.spread (pole k) / (2 * k), fun lo hi x hx n => ?_⟩
  have h := drift_near hk _ _ x (fun i => abs_sub_mid_le (hx i)) (n + 1)
  simp only [outAt_fresh hk]
  rw [div_mul_eq_mul_div, le_div_iff₀ (mul_pos two_pos hk), abs_sub_comm, mul_comm]
  linarith

theorem no_drift_one_four :
    ∃ C : ℝ, ∀ (lo hi : ℝ) (x : ℕ → ℝ), (∀ i, lo ≤ x i ∧ x i ≤ hi) → ∀ n : ℕ,
      |∑ i ∈ range (n + 1), outAt update (fresh (halfStep 1 4)) x i - ∑ i ∈ range (n + 1), x i| ≤ C * (hi - lo) :=
  no_drift (init_ok one_pos (by norm_num))

end VitaminD.ButterworthLowPassFilter
