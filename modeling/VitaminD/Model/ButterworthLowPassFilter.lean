/-
`ButterworthLowPassFilter` of `sub_gaze_error_node.py`: the constructor with its two checks, and `update` with its
first-sample initialisation and its four memory cells.

The class is kept generic in the number type. The constructor takes of it what it computes with and nothing more: the
comparisons of its two checks, which NaN passes, and divisions and functions of `math` that may raise. `update` needs
only the three operations it performs. So the same definitions run on the reals, on values that may be infinite or NaN,
and on floats that round and overflow.
-/
import VitaminD.Model.Python

namespace VitaminD

/-! ## Model -/

structure ButterworthLowPassFilter (α : Type) where
  b0 : α
  b1 : α
  b2 : α
  a1 : α
  a2 : α
  initialized : Bool
  x1 : α
  x2 : α
  y1 : α
  y2 : α
deriving DecidableEq, Repr

namespace ButterworthLowPassFilter

variable {α : Type}

section Constructor

variable [Zero α] [One α] [OfNat α 2] [Add α] [Sub α] [Mul α] [LE α] [DecidableLE α] [PyMath α]

/-- the constructor -/
def init (cutoffFrequency samplingFrequency : α) : Except Exc (ButterworthLowPassFilter α) := do
  let nyquistFrequency ← PyMath.div samplingFrequency 2
  if cutoffFrequency ≤ 0 then
    throw (.valueError "cutoff_frequency must be greater than zero")
  if nyquistFrequency ≤ cutoffFrequency then
    throw (.valueError "cutoff_frequency must be less than half the sampling_frequency")
  let k ← PyMath.tan (← PyMath.div (PyMath.pi * cutoffFrequency) samplingFrequency)
  let norm ← PyMath.div 1 (1 + (← PyMath.sqrt 2) * k + k * k)
  let b0 := k * k * norm
  return {
    b0 := b0
    b1 := 2 * b0
    b2 := b0
    a1 := 2 * (k * k - 1) * norm
    a2 := (1 - (← PyMath.sqrt 2) * k + k * k) * norm
    initialized := false
    x1 := 0
    x2 := 0
    y1 := 0
    y2 := 0 }

/-- a constructor that returns -/
def Accepts (cutoffFrequency samplingFrequency : α) : Prop :=
  ∃ f : ButterworthLowPassFilter α, init cutoffFrequency samplingFrequency = .ok f

/-- neither check raises, and no division and no function of `math` does -/
theorem accepts_iff_returns (fc fs : α) :
    Accepts fc fs ↔ ∃ nyquistFrequency angle k root norm : α, PyMath.div fs 2 = .ok nyquistFrequency ∧ ¬fc ≤ 0 ∧
      ¬nyquistFrequency ≤ fc ∧ PyMath.div (PyMath.pi * fc) fs = .ok angle ∧ PyMath.tan angle = .ok k ∧
        PyMath.sqrt (2 : α) = .ok root ∧ PyMath.div 1 (1 + root * k + k * k) = .ok norm := by
  unfold Accepts init
  constructor
  · intro ⟨f, h⟩
    obtain ⟨nyquist, hnyquist, h⟩ := except_bind_ok.1 h
    have h1 : ¬fc ≤ 0 := by
      intro h1
      rw [if_pos h1] at h
      cases h
    rw [if_neg h1] at h
    have h2 : ¬nyquist ≤ fc := by
      intro h2
      rw [if_pos h2] at h
      cases h
    rw [if_neg h2] at h
    obtain ⟨angle, hangle, h⟩ := except_bind_ok.1 h
    obtain ⟨k, htan, h⟩ := except_bind_ok.1 h
    obtain ⟨root, hroot, h⟩ := except_bind_ok.1 h
    obtain ⟨norm, hnorm, -⟩ := except_bind_ok.1 h
    exact ⟨nyquist, angle, k, root, norm, hnyquist, h1, h2, hangle, htan, hroot, hnorm⟩
  · intro ⟨nyquist, angle, k, root, norm, hnyquist, h1, h2, hangle, htan, hroot, hnorm⟩
    simp [hnyquist, h1, h2, hangle, htan, hroot, hnorm, bind, Except.bind, pure, Except.pure]

end Constructor

/-- the memory as the first received value leaves it -/
def prime (f : ButterworthLowPassFilter α) (value : α) : ButterworthLowPassFilter α :=
  { f with x1 := value, x2 := value, y1 := value, y2 := value, initialized := true }

/-- one sample: the filtered value, and the filter with its memory shifted -/
def update [Add α] [Sub α] [Mul α] (f : ButterworthLowPassFilter α) (value : α) :
    α × ButterworthLowPassFilter α :=
  let f := if !f.initialized then f.prime value else f
  let filteredValue := f.b0 * value + f.b1 * f.x1 + f.b2 * f.x2 - f.a1 * f.y1 - f.a2 * f.y2
  (filteredValue, { f with x2 := f.x1, x1 := value, y2 := f.y1, y1 := filteredValue })

/-- the same filter over another number type -/
def map {β : Type} (g : α → β) (f : ButterworthLowPassFilter α) : ButterworthLowPassFilter β :=
  ⟨g f.b0, g f.b1, g f.b2, g f.a1, g f.a2, f.initialized, g f.x1, g f.x2, g f.y1, g f.y2⟩

/-! ## What the constructor accepts -/

/-- the filter the constructor builds from k = tan (π * cutoff / sampling) -/
noncomputable def fresh (k : ℝ) : ButterworthLowPassFilter ℝ :=
  let norm := 1 / (1 + √2 * k + k * k)
  ⟨k * k * norm, 2 * (k * k * norm), k * k * norm, 2 * (k * k - 1) * norm, (1 - √2 * k + k * k) * norm,
    false, 0, 0, 0, 0⟩

/-- the half-step of the prototype that the two frequencies stand for -/
noncomputable def halfStep (cutoffFrequency samplingFrequency : ℝ) : ℝ :=
  Real.tan (Real.pi * cutoffFrequency / samplingFrequency)

theorem angle_mem {fc fs : ℝ} (h1 : 0 < fc) (h2 : fc < fs / 2) :
    0 < Real.pi * fc / fs ∧ Real.pi * fc / fs < Real.pi / 2 := by
  have hfs : 0 < fs := by linarith
  have hpi := Real.pi_pos
  constructor
  · positivity
  · rw [div_lt_div_iff₀ hfs two_pos]
    nlinarith

/-- every accepted pair gives a positive half-step -/
theorem halfStep_pos {fc fs : ℝ} (h1 : 0 < fc) (h2 : fc < fs / 2) : 0 < halfStep fc fs :=
  Real.tan_pos_of_pos_of_lt_pi_div_two (angle_mem h1 h2).1 (angle_mem h1 h2).2

theorem halfStep_one_four : halfStep 1 4 = 1 := by
  rw [halfStep, mul_one, Real.tan_pi_div_four]

/-- on the reals nothing but the two checks raises -/
theorem init_eq (fc fs : ℝ) :
    init fc fs =
      if fc ≤ 0 then .error (.valueError "cutoff_frequency must be greater than zero")
      else if fs / 2 ≤ fc then
        .error (.valueError "cutoff_frequency must be less than half the sampling_frequency")
      else .ok (fresh (halfStep fc fs)) := by
  have hhalf : PyMath.div fs 2 = .ok (fs / 2) := if_neg two_ne_zero
  have hroot : PyMath.sqrt (2 : ℝ) = .ok √2 := if_neg (not_lt.2 zero_le_two)
  unfold init
  split_ifs with h1 h2
  · simp [hhalf, bind, Except.bind, throw, throwThe, MonadExceptOf.throw]
  · simp [hhalf, h2, bind, Except.bind, throw, throwThe, MonadExceptOf.throw]
  · have hk := halfStep_pos (not_le.1 h1) (not_le.1 h2)
    have hfs : fs ≠ 0 := by
      rintro rfl
      exact h2 (by linarith [not_le.1 h1])
    have hangle : PyMath.div (PyMath.pi * fc) fs = .ok (Real.pi * fc / fs) := if_neg hfs
    have htan : PyMath.tan (Real.pi * fc / fs) = .ok (halfStep fc fs) := rfl
    have hnorm : PyMath.div 1 (1 + √2 * halfStep fc fs + halfStep fc fs * halfStep fc fs) = .ok _ :=
      if_neg (by positivity)
    simp [hhalf, hroot, hangle, htan, hnorm, h2, bind, Except.bind, pure, Except.pure, fresh]

/-- the constructor accepts exactly the cutoffs strictly between 0 and Nyquist -/
theorem init_ok_iff (fc fs : ℝ) (f : ButterworthLowPassFilter ℝ) :
    init fc fs = .ok f ↔ 0 < fc ∧ fc < fs / 2 ∧ f = fresh (halfStep fc fs) := by
  rw [init_eq]
  split_ifs with h1 h2
  · simp [h1]
  · simp [h2]
  · simp only [Except.ok.injEq, not_le.1 h1, not_le.1 h2, true_and]
    exact eq_comm

theorem init_ok {fc fs : ℝ} (h1 : 0 < fc) (h2 : fc < fs / 2) : init fc fs = .ok (fresh (halfStep fc fs)) :=
  (init_ok_iff fc fs _).2 ⟨h1, h2, rfl⟩

/-- a rejected pair is rejected with the text of the check it fails -/
theorem init_error_iff (fc fs : ℝ) (e : Exc) :
    init fc fs = .error e ↔
      fc ≤ 0 ∧ e = .valueError "cutoff_frequency must be greater than zero" ∨
      0 < fc ∧ fs / 2 ≤ fc ∧ e = .valueError "cutoff_frequency must be less than half the sampling_frequency" := by
  rw [init_eq]
  split_ifs with h1 h2
  · simp [h1, eq_comm]
  · simp [h1, h2, not_le.1 h1, eq_comm]
  · simp [h1, h2]

theorem accepts_iff (fc fs : ℝ) : Accepts fc fs ↔ 0 < fc ∧ fc < fs / 2 := by
  simp [Accepts, init_ok_iff]

/-- on finite frequencies the special values change nothing -/
theorem init_fin (fc fs : ℝ) : init (.fin fc) (.fin fs) = (init fc fs).map (map Ext.fin) := by
  have hone : (1 : Ext ℝ) = Ext.fin 1 := rfl
  have htwo : (2 : Ext ℝ) = Ext.fin 2 := rfl
  have hpi : (PyMath.pi : Ext ℝ) = Ext.fin Real.pi := rfl
  have hdiv (a : ℝ) {b : ℝ} (hb : b ≠ 0) : PyMath.div (Ext.fin a) (Ext.fin b) = .ok (Ext.fin (a / b)) :=
    if_neg fun h => hb (Ext.fin.inj h)
  have hroot : PyMath.sqrt (Ext.fin 2) = .ok (Ext.fin √2) := if_neg (not_lt.2 zero_le_two)
  have hzero : (0 : Ext ℝ) = Ext.fin 0 := rfl
  rw [init_eq]
  unfold init
  rw [htwo, hdiv fs two_ne_zero, hzero]
  by_cases h1 : fc ≤ 0
  · simp [h1, bind, Except.bind, throw, throwThe, MonadExceptOf.throw, Except.map]
  by_cases h2 : fs / 2 ≤ fc
  · simp [h1, h2, bind, Except.bind, throw, throwThe, MonadExceptOf.throw, Except.map]
  have hk := halfStep_pos (not_le.1 h1) (not_le.1 h2)
  have hfs : fs ≠ 0 := by
    rintro rfl
    exact h2 (by linarith [not_le.1 h1])
  have htan : PyMath.tan (Ext.fin (Real.pi * fc / fs)) = .ok (Ext.fin (halfStep fc fs)) := rfl
  have hnorm : 1 + √2 * halfStep fc fs + halfStep fc fs * halfStep fc fs ≠ 0 := by positivity
  simp [hpi, hone, hroot, hdiv _ hfs, htan, hdiv 1 hnorm, h1, h2, bind, Except.bind, pure, Except.pure, fresh,
    Except.map, map]

/-- NaN passes both checks, and nothing that is computed from it raises -/
theorem accepts_nan {fs : ℝ} (h : fs ≠ 0) : Accepts (.nan : Ext ℝ) (.fin fs) := by
  refine (accepts_iff_returns _ _).2 ⟨.fin (fs / 2), .nan, .nan, .fin √2, .nan, ?_, ?_, ?_, ?_, rfl, ?_, ?_⟩
  · refine if_neg fun h2 => two_ne_zero (α := ℝ) (Ext.fin.inj h2)
  · exact Bool.false_ne_true
  · exact Bool.false_ne_true
  · exact if_neg fun h0 => h (Ext.fin.inj h0)
  · exact if_neg (not_lt.2 zero_le_two)
  · exact if_neg fun h0 => by cases h0

/-! ## Updates -/

section Update

variable [Add α] [Sub α] [Mul α]

/-- on a fresh filter the first sample acts as on the primed one -/
theorem update_prime (f : ButterworthLowPassFilter α) (value : α) (h : f.initialized = false) :
    f.update value = (f.prime value).update value := by
  simp [update, prime, h]

/-- on a running filter the initialisation branch is not taken -/
theorem update_of_initialized (f : ButterworthLowPassFilter α) (value : α) (h : f.initialized = true) :
    f.update value =
      (f.b0 * value + f.b1 * f.x1 + f.b2 * f.x2 - f.a1 * f.y1 - f.a2 * f.y2,
        { f with
          x2 := f.x1
          x1 := value
          y2 := f.y1
          y1 := f.b0 * value + f.b1 * f.x1 + f.b2 * f.x2 - f.a1 * f.y1 - f.a2 * f.y2 }) := by
  simp [update, h]

end Update

end ButterworthLowPassFilter

end VitaminD
