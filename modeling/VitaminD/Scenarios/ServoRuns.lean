/-
Whole runs of the servo controller over the reals, and pairs of runs. Both hold for either axis, whatever the deadzone
is and whatever the messages say about the other axis.

- `run_collapses`: a run of any length is one clamped step on the sum of the errors that pass the deadzone, between
  limits that do not depend on where the run starts;
- `run_order`: the run that starts at the larger angle and is sent the smaller errors stays at the larger angle, and no
  further from the other run than the starts and the errors account for. The limits may be in any order there.
-/
import VitaminD.Servo.Refinement

namespace VitaminD.ServoNode

open VitaminD.Machine VitaminD.Saturation

/-! ## One run -/

/-- the errors that pass the deadzone -/
def passed {α : Type} [LT α] [DecidableLT α] [PyAbs α] (deadzone : α) (errors : List α) : List α :=
  errors.filter fun error => ¬pyAbs error < deadzone

/-- an error of just the deadzone passes -/
example : passed (2 : ℚ) [10, 1.9, -2, 0] = [10, -2] := by decide +kernel

theorem passed_cons_of_lt {deadzone error : ℝ} (h : |error| < deadzone) (errors : List ℝ) :
    passed deadzone (error :: errors) = passed deadzone errors :=
  List.filter_cons_of_neg (by rw [decide_eq_true_iff, not_not]; exact h)

theorem passed_cons_of_ge {deadzone error : ℝ} (h : deadzone ≤ |error|) (errors : List ℝ) :
    passed deadzone (error :: errors) = error :: passed deadzone errors :=
  List.filter_cons_of_pos (by rw [decide_eq_true_iff]; exact not_lt.2 h)

theorem sum_passed (deadzone : ℝ) (errors : List ℝ) :
    (passed deadzone errors).sum = (errors.map (deadband deadzone)).sum := by
  induction errors with
  | nil => rfl
  | cons error errors ih =>
    rw [List.map_cons, List.sum_cons, ← ih]
    by_cases h : |error| < deadzone
    · rw [passed_cons_of_lt h, deadband_of_lt h, zero_add]
    · rw [passed_cons_of_ge (not_lt.1 h), deadband_of_ge (not_lt.1 h), List.sum_cons]

/-- what a run subtracts from an axis that never reaches a limit -/
theorem sum_inputs (deadzone gain : ℝ) (errors : List ℝ) :
    (errors.map fun error => deadband deadzone error * gain).sum = gain * (passed deadzone errors).sum := by
  rw [List.sum_map_mul_right, sum_passed, mul_comm]

/-- **A run is one clamped step.** -/
theorem run_collapses (axis : Axis) (p : ServoParams ℝ) (hlimits : axis.minAngle p ≤ axis.maxAngle p)
    (msgs : List (Vector3 ℝ)) (hmsgs : msgs ≠ []) :
    ∃ L U, axis.minAngle p ≤ L ∧ L ≤ U ∧ U ≤ axis.maxAngle p ∧
      ∀ node : ServoNode ℝ, node.toServoParams = p →
        axis.angle (final handle node msgs) =
          max L (min U (axis.angle node - axis.gain p * (passed p.deadzone (msgs.map axis.error)).sum)) := by
  have hinputs : (msgs.map fun msg => deadband p.deadzone (axis.error msg) * axis.gain p) ≠ [] := by simpa using hmsgs
  obtain ⟨L, U, hL, hLU, hU, hfinal⟩ := final_eq_sat hlimits hinputs
  refine ⟨L, U, hL, hLU, hU, ?_⟩
  intro node hnode
  have hsum := sum_inputs p.deadzone (axis.gain p) (msgs.map axis.error)
  rw [List.map_map] at hsum
  rw [(tracks p axis).final hnode, hfinal, ← hsum]
  rfl

/-- the pan axis under the defaults, sent past both stops and back inside the limits -/
theorem run_collapses_default :
    ∃ L U : ℝ, Axis.pan.minAngle ServoParams.default ≤ L ∧ L ≤ U ∧ U ≤ Axis.pan.maxAngle ServoParams.default ∧
      ∀ node : ServoNode ℝ, node.toServoParams = ServoParams.default →
        Axis.pan.angle (final handle node [⟨9000, 1, 0⟩, ⟨-9000, 1, 0⟩, ⟨10, 1, 0⟩, ⟨-1, 1, 0⟩]) =
          max L (min U (Axis.pan.angle node - Axis.pan.gain ServoParams.default *
            (passed (2 : ℝ) [9000, -9000, 10, -1]).sum)) :=
  run_collapses .pan ServoParams.default (by norm_num [Axis.minAngle, Axis.maxAngle, ServoParams.default])
    [⟨9000, 1, 0⟩, ⟨-9000, 1, 0⟩, ⟨10, 1, 0⟩, ⟨-1, 1, 0⟩] (by simp)

/-! ## Two runs -/

/-- **Order and gap.** The angles after n messages each, the first run being sent the smaller errors. -/
theorem run_order (axis : Axis) (p : ServoParams ℝ) (hgain : 0 ≤ axis.gain p) (node node' : ServoNode ℝ)
    (hnode : node.toServoParams = p) (hnode' : node'.toServoParams = p) (hangle : axis.angle node' ≤ axis.angle node)
    (msgs msgs' : ℕ → Vector3 ℝ) (n : ℕ) (herror : ∀ i < n, axis.error (msgs i) ≤ axis.error (msgs' i)) :
    0 ≤ axis.angle (stateAt handle node msgs n) - axis.angle (stateAt handle node' msgs' n) ∧
      axis.angle (stateAt handle node msgs n) - axis.angle (stateAt handle node' msgs' n) ≤
        axis.angle node - axis.angle node' +
          axis.gain p * ∑ i ∈ Finset.range n,
            (deadband p.deadzone (axis.error (msgs' i)) - deadband p.deadzone (axis.error (msgs i))) := by
  have hinput : ∀ i < n, deadband p.deadzone (axis.error (msgs i)) * axis.gain p ≤
      deadband p.deadzone (axis.error (msgs' i)) * axis.gain p := by
    intro i hi
    exact mul_le_mul_of_nonneg_right (deadband_mono p.deadzone (herror i hi)) hgain
  obtain ⟨hle, hgap⟩ := stateAt_gap (axis.minAngle p) (axis.maxAngle p) hangle _ _ n hinput
  rw [← (tracks p axis).stateAt hnode, ← (tracks p axis).stateAt hnode'] at hle hgap
  refine ⟨sub_nonneg.2 hle, hgap.trans_eq ?_⟩
  rw [mul_comm, Finset.sum_mul]
  simp only [sub_mul]

/-- the pan axis under the defaults, the starts 10 degrees apart and the errors on both sides of the deadzone -/
theorem run_order_default :
    let node : ServoNode ℝ := start ServoParams.default
    let node' : ServoNode ℝ := { node with panAngle := 80 }
    0 ≤ Axis.pan.angle (stateAt handle node (fun _ => ⟨1, 0, 0⟩) 3) -
        Axis.pan.angle (stateAt handle node' (fun i => ⟨1 + i, 0, 0⟩) 3) ∧
      Axis.pan.angle (stateAt handle node (fun _ => ⟨1, 0, 0⟩) 3) -
          Axis.pan.angle (stateAt handle node' (fun i => ⟨1 + i, 0, 0⟩) 3) ≤
        Axis.pan.angle node - Axis.pan.angle node' +
          Axis.pan.gain ServoParams.default * ∑ i ∈ Finset.range 3, (deadband 2 (1 + (i : ℝ)) - deadband 2 1) :=
  run_order .pan ServoParams.default (by norm_num [Axis.gain, ServoParams.default]) (start ServoParams.default)
    { start ServoParams.default with panAngle := 80 } rfl rfl
    (by norm_num [Axis.angle, start, ServoParams.default]) (fun _ => ⟨1, 0, 0⟩) (fun i => ⟨1 + i, 0, 0⟩) 3
    (fun i _ => by simp [Axis.error])

end VitaminD.ServoNode
