/-
What the filter node publishes once a sample is infinite or NaN. An operation on a value that is not finite never gives
a finite one, the recurrence feeds every output back, and the initialisation runs only once: so nothing clears the
memory again.

- `outAt_isFinite_iff`: a filter's n-th output is finite exactly when all samples up to the n-th are;
- `published_finite_iff`: the same for both components of the published messages. All but finitely many of them are
  finite exactly when no sample at all is corrupt;
- `one_nan_is_for_ever`: a first message of NaN, then zeros.
-/
import VitaminD.Model.SubGazeErrorNode

namespace VitaminD

open VitaminD.Machine VitaminD.Ext

/-! ## One filter -/

namespace ButterworthLowPassFilter

/-- coefficients and memory are finite -/
structure Clean (f : ButterworthLowPassFilter (Ext ℝ)) : Prop where
  coefficients : IsFinite f.b0 ∧ IsFinite f.b1 ∧ IsFinite f.b2 ∧ IsFinite f.a1 ∧ IsFinite f.a2
  inputs : IsFinite f.x1 ∧ IsFinite f.x2
  outputs : IsFinite f.y1 ∧ IsFinite f.y2

/-- the last output was not finite -/
def Spoilt (f : ButterworthLowPassFilter (Ext ℝ)) : Prop := f.initialized = true ∧ ¬ IsFinite f.y1

theorem clean_map (f : ButterworthLowPassFilter ℝ) : Clean (f.map fin) := by
  constructor <;> simp [map]

theorem clean_prime {f : ButterworthLowPassFilter (Ext ℝ)} (hf : Clean f) {v : Ext ℝ} (hv : IsFinite v) :
    Clean (f.prime v) := ⟨hf.coefficients, ⟨hv, hv⟩, ⟨hv, hv⟩⟩

/-- the filtered value is finite exactly when every operand is -/
theorem isFinite_update_iff {f : ButterworthLowPassFilter (Ext ℝ)} (hf : f.initialized = true) (v : Ext ℝ) :
    IsFinite (f.update v).1 ↔ Clean f ∧ IsFinite v := by
  rw [update_of_initialized f v hf]
  simp only [isFinite_sub, isFinite_add, isFinite_mul]
  constructor
  · rintro ⟨⟨⟨⟨⟨hb0, hv⟩, hb1, hx1⟩, hb2, hx2⟩, ha1, hy1⟩, ha2, hy2⟩
    exact ⟨⟨⟨hb0, hb1, hb2, ha1, ha2⟩, ⟨hx1, hx2⟩, ⟨hy1, hy2⟩⟩, hv⟩
  · rintro ⟨⟨⟨hb0, hb1, hb2, ha1, ha2⟩, ⟨hx1, hx2⟩, ⟨hy1, hy2⟩⟩, hv⟩
    exact ⟨⟨⟨⟨⟨hb0, hv⟩, hb1, hx1⟩, hb2, hx2⟩, ha1, hy1⟩, ha2, hy2⟩

theorem clean_update {f : ButterworthLowPassFilter (Ext ℝ)} (hf : Clean f) {v : Ext ℝ} (hv : IsFinite v) :
    IsFinite (f.update v).1 ∧ Clean (f.update v).2 := by
  have hrunning {f : ButterworthLowPassFilter (Ext ℝ)} (hi : f.initialized = true) (hf : Clean f) :
      IsFinite (f.update v).1 ∧ Clean (f.update v).2 := by
    have hout := (isFinite_update_iff hi v).2 ⟨hf, hv⟩
    refine ⟨hout, ?_⟩
    rw [update_of_initialized f v hi] at hout ⊢
    exact ⟨hf.coefficients, ⟨hv, hf.inputs.1⟩, ⟨hout, hf.outputs.1⟩⟩
  cases hi : f.initialized with
  | true => exact hrunning hi hf
  | false =>
    rw [update_prime f v hi]
    exact hrunning rfl (clean_prime hf hv)

/-- a sample that is not finite spoils the filter, and a spoilt filter stays so -/
theorem spoilt_update {f : ButterworthLowPassFilter (Ext ℝ)} {v : Ext ℝ} (h : Spoilt f ∨ ¬ IsFinite v) :
    ¬ IsFinite (f.update v).1 ∧ Spoilt (f.update v).2 := by
  have hout : ¬ IsFinite (f.update v).1 := by
    cases hi : f.initialized with
    | true =>
      rw [isFinite_update_iff hi]
      rintro ⟨hf, hv⟩
      exact h.elim (fun hs => hs.2 hf.outputs.1) (fun hn => hn hv)
    | false =>
      -- the first sample: it alone decides
      rw [update_prime f v hi, isFinite_update_iff rfl]
      rintro ⟨-, hv⟩
      exact h.elim (fun hs => absurd hs.1 (by rw [hi]; exact Bool.false_ne_true)) (fun hn => hn hv)
  refine ⟨hout, ?_, hout⟩
  cases hi : f.initialized <;> simp [update, hi, prime]

/-- **A filter's output is finite exactly as long as its samples are.** -/
theorem outAt_isFinite_iff {f : ButterworthLowPassFilter (Ext ℝ)} (hf : Clean f) (v : ℕ → Ext ℝ) (n : ℕ) :
    IsFinite (outAt update f v n) ↔ ∀ i ≤ n, IsFinite (v i) := by
  constructor
  · intro hout i hi
    by_contra hv
    have hspoilt (j : ℕ) : Spoilt (stateAt update f v (i + 1 + j)) := by
      rw [stateAt_add]
      exact stateAt_inv update Spoilt (fun _ => True) (fun f v hf _ => (spoilt_update (Or.inl hf)).2) _ _
        (spoilt_update (Or.inr hv)).2 j (fun _ _ => trivial)
    rcases hi.eq_or_lt with rfl | hlt
    · exact (spoilt_update (Or.inr hv)).1 hout
    · obtain ⟨j, rfl⟩ := Nat.exists_eq_add_of_le (Nat.succ_le_of_lt hlt)
      exact (spoilt_update (Or.inl (hspoilt j))).1 hout
  · intro hv
    have hclean : Clean (stateAt update f v n) :=
      stateAt_inv update Clean IsFinite (fun f v hf hv => (clean_update hf hv).2) f v hf n fun i hi => hv i hi.le
    exact (clean_update hclean (hv n le_rfl)).1

end ButterworthLowPassFilter

/-! ## The node -/

namespace SubGazeErrorNode

open ButterworthLowPassFilter

/-- a message with a finite x and a finite y component -/
def Sound (msg : Vector3 (Ext ℝ)) : Prop := IsFinite msg.x ∧ IsFinite msg.y

section Published

variable (node : SubGazeErrorNode ℝ) (msgs : ℕ → Vector3 (Ext ℝ)) (n : ℕ)

theorem published_x_isFinite_iff :
    IsFinite (outAt filterMsg (node.map fin) msgs n).x ↔ ∀ i ≤ n, IsFinite (msgs i).x := by
  rw [contains_x.outAt trivial]
  exact outAt_isFinite_iff (clean_map node.xFilter) (fun i => (msgs i).x) n

theorem published_y_isFinite_iff :
    IsFinite (outAt filterMsg (node.map fin) msgs n).y ↔ ∀ i ≤ n, IsFinite (msgs i).y := by
  rw [contains_y.outAt trivial]
  exact outAt_isFinite_iff (clean_map node.yFilter) (fun i => (msgs i).y) n

theorem published_sound_iff : Sound (outAt filterMsg (node.map fin) msgs n) ↔ ∀ i ≤ n, Sound (msgs i) := by
  unfold Sound
  rw [published_x_isFinite_iff, published_y_isFinite_iff]
  exact ⟨fun h i hi => ⟨h.1 i hi, h.2 i hi⟩, fun h => ⟨fun i hi => (h i hi).1, fun i hi => (h i hi).2⟩⟩

end Published

theorem eventually_sound_iff (node : SubGazeErrorNode ℝ) (msgs : ℕ → Vector3 (Ext ℝ)) :
    (∃ N, ∀ n ≥ N, Sound (outAt filterMsg (node.map fin) msgs n)) ↔ ∀ i, Sound (msgs i) := by
  constructor
  · rintro ⟨N, hN⟩ i
    exact (published_sound_iff node msgs (max N i)).1 (hN _ (le_max_left N i)) i (le_max_right N i)
  · exact fun h => ⟨0, fun n _ => (published_sound_iff node msgs n).2 fun i _ => h i⟩

/-! ## Main result -/

/-- **A corrupt sample is never recovered from.** Each published component is finite exactly as long as that component
of the messages has been; so an unending run publishes all but finitely many sound messages exactly when every message
it receives is sound. This does not depend on the coefficients, nor on the memory the node starts with. -/
theorem published_finite_iff (node : SubGazeErrorNode ℝ) (msgs : ℕ → Vector3 (Ext ℝ)) :
    (∀ n, (IsFinite (outAt filterMsg (node.map fin) msgs n).x ↔ ∀ i ≤ n, IsFinite (msgs i).x) ∧
      (IsFinite (outAt filterMsg (node.map fin) msgs n).y ↔ ∀ i ≤ n, IsFinite (msgs i).y)) ∧
    ((∃ N, ∀ n ≥ N, Sound (outAt filterMsg (node.map fin) msgs n)) ↔ ∀ i, Sound (msgs i)) :=
  ⟨fun n => ⟨published_x_isFinite_iff node msgs n, published_y_isFinite_iff node msgs n⟩,
    eventually_sound_iff node msgs⟩

/-- a first message of NaN, then zeros -/
def nanThenZeros (n : ℕ) : Vector3 (Ext ℝ) := if n = 0 then ⟨.nan, .nan, .fin 0⟩ else ⟨.fin 0, .fin 0, .fin 0⟩

/-- with a cutoff of 1 Hz at 4 Hz the node never again publishes a sound message -/
theorem one_nan_is_for_ever :
    ∃ node, filters (1 : ℝ) 4 = .ok node ∧ (∀ n ≥ 1, Sound (nanThenZeros n)) ∧
      ¬ ∃ N, ∀ n ≥ N, Sound (outAt filterMsg (node.map fin) nanThenZeros n) := by
  have haccepts : ButterworthLowPassFilter.Accepts (1 : ℝ) 4 :=
    (ButterworthLowPassFilter.accepts_iff 1 4).2 (by norm_num)
  obtain ⟨node, hnode⟩ := (filters_accepts_iff (1 : ℝ) 4).2 haccepts
  refine ⟨node, hnode, fun n hn => ?_, ?_⟩
  · rw [nanThenZeros, if_neg (by omega)]
    exact ⟨trivial, trivial⟩
  · rw [eventually_sound_iff]
    intro h
    exact (h 0).1

end SubGazeErrorNode

end VitaminD
