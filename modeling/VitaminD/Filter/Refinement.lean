/-
`ButterworthLowPassFilter.update` computes the prototype. The four memory cells hold two past inputs and two past
outputs; together with the coefficients of half-step k they determine the two integrators of the prototype
(`toPrototype`), and one update is one trapezoidal step.

Results:
- `refines_prototype`: from every running state, for every k > 0;
- `outAt_fresh`, `outputs_fresh`, `final_fresh`: a filter as the constructor builds it runs as the prototype at rest at
  the first sample. This is what the first-sample initialisation is for.
-/
import VitaminD.Filter.Prototype
import VitaminD.Model.ButterworthLowPassFilter

namespace VitaminD.ButterworthLowPassFilter

open VitaminD.Machine VitaminD.Prototype

/-- a filter past its first sample, with the coefficients of half-step k -/
structure Running (k : ℝ) (f : ButterworthLowPassFilter ℝ) : Prop where
  initialized : f.initialized = true
  b0 : f.b0 = k * k / denom k
  b1 : f.b1 = 2 * (k * k) / denom k
  b2 : f.b2 = k * k / denom k
  a1 : f.a1 = 2 * (k * k - 1) / denom k
  a2 : f.a2 = (1 - √2 * k + k * k) / denom k

/-- first derivative at the last sample, recovered from the memory -/
noncomputable def slope (k : ℝ) (f : ButterworthLowPassFilter ℝ) : ℝ :=
  ((1 - √2 * k) * (f.y1 - f.y2) + k * k * (f.x1 + f.x2 - f.y1 - f.y2)) / (2 * k)

/-- second derivative at the last sample -/
noncomputable def curvature (k : ℝ) (f : ButterworthLowPassFilter ℝ) : ℝ := f.x1 - √2 * slope k f - f.y1

/-- the integrators of the prototype, half a step after the last sample -/
noncomputable def toPrototype (k : ℝ) (f : ButterworthLowPassFilter ℝ) : State :=
  ⟨f.y1 + k * slope k f, slope k f + k * curvature k f⟩

theorem two_k_slope {k : ℝ} (hk : 0 < k) (f : ButterworthLowPassFilter ℝ) :
    2 * k * slope k f = (1 - √2 * k) * (f.y1 - f.y2) + k * k * (f.x1 + f.x2 - f.y1 - f.y2) := by
  unfold slope
  field_simp

theorem running_fresh_prime (k v : ℝ) : Running k ((fresh k).prime v) := by
  constructor <;> simp only [prime, fresh, denom] <;> ring

theorem running_update {k : ℝ} {f : ButterworthLowPassFilter ℝ} (hf : Running k f) (v : ℝ) :
    Running k (f.update v).2 := by
  rw [update_of_initialized f v hf.initialized]
  exact ⟨hf.initialized, hf.b0, hf.b1, hf.b2, hf.a1, hf.a2⟩

/-- the recurrence, cleared of the denominator -/
theorem update_mul_denom {k : ℝ} (hk : 0 < k) {f : ButterworthLowPassFilter ℝ} (hf : Running k f) (v : ℝ) :
    (f.update v).1 * denom k =
      k * k * (v + 2 * f.x1 + f.x2) - 2 * (k * k - 1) * f.y1 - (1 - √2 * k + k * k) * f.y2 := by
  have hd := (denom_pos hk).ne'
  rw [update_of_initialized f v hf.initialized]
  simp only [hf.b0, hf.b1, hf.b2, hf.a1, hf.a2]
  field_simp

/-- the output of the prototype, cleared of the denominator -/
theorem output_mul_denom {k : ℝ} (hk : 0 < k) (s : State) (x : ℝ) :
    output k s x * denom k = k * k * x + (1 + √2 * k) * s.pos + k * s.vel := by
  have hd := (denom_pos hk).ne'
  unfold output velMid accel
  field_simp
  unfold denom
  ring

/-- the filtered value is the output of the prototype -/
theorem update_fst {k : ℝ} (hk : 0 < k) {f : ButterworthLowPassFilter ℝ} (hf : Running k f) (v : ℝ) :
    (f.update v).1 = output k (toPrototype k f) v := by
  have hd := (denom_pos hk).ne'
  apply mul_right_cancel₀ hd
  rw [update_mul_denom hk hf, output_mul_denom hk]
  have hs := two_k_slope hk f
  simp only [toPrototype, curvature]
  linear_combination -hs

/-- the slope at the new sample is the prototype's derivative there -/
theorem slope_update {k : ℝ} (hk : 0 < k) {f : ButterworthLowPassFilter ℝ} (hf : Running k f) (v : ℝ) :
    slope k (f.update v).2 = velMid k (toPrototype k f) v := by
  have hmul := update_mul_denom hk hf v
  have hout := update_fst hk hf v
  have hs := two_k_slope hk f
  have hs' := two_k_slope hk (f.update v).2
  have hmem : (f.update v).2.x1 = v ∧ (f.update v).2.x2 = f.x1 ∧ (f.update v).2.y1 = (f.update v).1 ∧
      (f.update v).2.y2 = f.y1 := by
    rw [update_of_initialized f v hf.initialized]
    exact ⟨rfl, rfl, rfl, rfl⟩
  obtain ⟨hx1, hx2, hy1, hy2⟩ := hmem
  rw [hx1, hx2, hy1, hy2] at hs'
  have hvel : (f.update v).1 = f.y1 + k * slope k f + k * velMid k (toPrototype k f) v := by
    rw [hout]; simp only [output, toPrototype]
  -- both sides are fixed by 2 k: the trapezoidal rule between the last two outputs is the recurrence
  apply mul_left_cancel₀ (mul_pos two_pos hk).ne'
  unfold denom at hmul
  linear_combination hs' + hs - hmul + 2 * hvel

/-- the next memory abstracts to the next integrators -/
theorem update_snd {k : ℝ} (hk : 0 < k) {f : ButterworthLowPassFilter ℝ} (hf : Running k f) (v : ℝ) :
    toPrototype k (f.update v).2 = (Prototype.step k (toPrototype k f) v).2 := by
  have hout := update_fst hk hf v
  have hslope := slope_update hk hf v
  have hbal := balance hk (toPrototype k f) v
  have hx1 : (f.update v).2.x1 = v := by rw [update_of_initialized f v hf.initialized]
  have hy1 : (f.update v).2.y1 = (f.update v).1 := by rw [update_of_initialized f v hf.initialized]
  have hcurv : curvature k (f.update v).2 = accel k (toPrototype k f) v := by
    unfold curvature
    rw [hx1, hy1, hslope, hout]
    linear_combination -hbal
  unfold toPrototype at hcurv hslope hout ⊢
  rw [hcurv, hslope, hy1, hout]
  rfl

/-- **The code refines the prototype.** -/
theorem refines_prototype {k : ℝ} (hk : 0 < k) :
    Refines update (Prototype.step k) (Running k) (toPrototype k) id id where
  inv _ v hf := running_update hf v
  out _ v hf := update_fst hk hf v
  next _ v hf := update_snd hk hf v

/-- the first received value leaves the integrators at rest -/
theorem toPrototype_prime (k v : ℝ) (f : ButterworthLowPassFilter ℝ) : toPrototype k (f.prime v) = rest v := by
  have hs : slope k (f.prime v) = 0 := by simp only [slope, prime]; ring
  unfold toPrototype curvature
  rw [hs]
  simp [rest, prime]

/-! ## Runs of a fresh filter -/

theorem fresh_update (k v : ℝ) : (fresh k).update v = ((fresh k).prime v).update v := update_prime _ _ rfl

theorem outAt_fresh {k : ℝ} (hk : 0 < k) (x : ℕ → ℝ) (n : ℕ) :
    outAt update (fresh k) x n = outAt (Prototype.step k) (rest (x 0)) x n := by
  rw [outAt_congr_first update _ _ x (fresh_update k (x 0)),
    (refines_prototype hk).outAt (running_fresh_prime k (x 0)), toPrototype_prime]
  rfl

/-- after any history, an input that has become constant draws the filtered value to that constant -/
theorem outAt_fresh_tendsto {k : ℝ} (hk : 0 < k) (x : ℕ → ℝ) {N : ℕ} {v : ℝ} (hx : ∀ n ≥ N, x n = v) :
    Filter.Tendsto (outAt update (fresh k) x) Filter.atTop (nhds v) :=
  (out_settles hk (rest (x 0)) v x N hx).congr fun n => (outAt_fresh hk x n).symm

theorem outputs_fresh {k : ℝ} (hk : 0 < k) (v : ℝ) (xs : List ℝ) :
    outputs update (fresh k) (v :: xs) = outputs (Prototype.step k) (rest v) (v :: xs) := by
  have h : outputs update (fresh k) (v :: xs) = outputs update ((fresh k).prime v) (v :: xs) := by
    simp only [outputs, fresh_update]
  rw [h, (refines_prototype hk).outputs (running_fresh_prime k v), toPrototype_prime, List.map_id, List.map_id]

/-- after at least one sample the filter is running, and its integrators are those of the prototype's run -/
theorem final_fresh {k : ℝ} (hk : 0 < k) (v : ℝ) (xs : List ℝ) :
    Running k (final update (fresh k) (v :: xs)) ∧
      toPrototype k (final update (fresh k) (v :: xs)) = final (Prototype.step k) (rest v) (v :: xs) := by
  have h : final update (fresh k) (v :: xs) = final update ((fresh k).prime v) (v :: xs) := by
    rw [final_cons, final_cons, fresh_update]
  rw [h]
  refine ⟨(refines_prototype hk).final_inv (running_fresh_prime k v) _, ?_⟩
  rw [(refines_prototype hk).final (running_fresh_prime k v), toPrototype_prime, List.map_id]

end VitaminD.ButterworthLowPassFilter
