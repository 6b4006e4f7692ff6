/-
How far one message moves an axis, for messages that may carry infinities or NaN. The parameters are finite, each centre
within its limits and the gains positive; the state is any that a sequence of such messages leads to.

- `slew_law`: an error inside the deadzone leaves the angle; any other moves it only against its sign, a finite one by
  at most gain times its size, an infinite one as far as the limit. NaN sets the angle to the upper limit: `abs(nan)`
  is not below the deadzone, and `min(max_angle, nan)` keeps its first argument;
- `nan_moves`: from the start of the defaults one NaN moves the pan axis by 70 degrees.
-/
import VitaminD.Servo.Refinement
import VitaminD.Scenarios.ServoEnvelope

namespace VitaminD.ServoNode

open VitaminD.Machine VitaminD.Saturation

/-! ## The law -/

/-- what an error x may do to an angle -/
def Slews (gain deadzone maxAngle : ℝ) (x old new : Ext ℝ) : Prop :=
  ∃ a b : ℝ, old = .fin a ∧ new = .fin b ∧
    match x with
    | .fin r => if |r| < deadzone then b = a else (0 < r → b ≤ a) ∧ (r < 0 → a ≤ b) ∧ |b - a| ≤ gain * |r|
    | .posInf => b ≤ a
    | .negInf => a ≤ b
    | .nan => b = maxAngle

/-! ## One axis -/

section Axis

variable {deadzone gain lo hi a : ℝ}

theorem move_fin (deadzone gain lo hi a r : ℝ) :
    move (.fin deadzone) (.fin gain) (.fin lo) (.fin hi) (.fin a) (.fin r) =
      Ext.fin (move deadzone gain lo hi a r) := by
  have hdeadband : deadband (Ext.fin deadzone) (.fin r) = .fin (deadband deadzone r) := by
    simp only [deadband, pyAbs, Ext.abs_fin, Ext.fin_lt_fin]
    split_ifs <;> rfl
  simp [move, clamp, hdeadband]

theorem move_posInf (hgain : 0 < gain) :
    move (.fin deadzone) (.fin gain) (.fin lo) (.fin hi) (.fin a) .posInf = Ext.fin lo := by
  have hdeadband : deadband (Ext.fin deadzone) .posInf = .posInf := if_neg (Ext.posInf_not_lt _)
  simp [move, clamp, hdeadband, Ext.posInf_mul_fin hgain]

theorem move_negInf (hgain : 0 < gain) (h : lo ≤ hi) :
    move (.fin deadzone) (.fin gain) (.fin lo) (.fin hi) (.fin a) .negInf = Ext.fin hi := by
  have hdeadband : deadband (Ext.fin deadzone) .negInf = .negInf := if_neg (Ext.posInf_not_lt _)
  simp [move, clamp, hdeadband, Ext.negInf_mul_fin hgain, pyMax_eq_max, h]

theorem move_nan (h : lo ≤ hi) :
    move (.fin deadzone) (.fin gain) (.fin lo) (.fin hi) (.fin a) .nan = Ext.fin hi := by
  have hdeadband : deadband (Ext.fin deadzone) .nan = .nan := if_neg (Ext.nan_not_lt _)
  simp [move, clamp, hdeadband, pyMax_eq_max, h]

/-- a finite error -/
theorem move_slews_fin (hgain : 0 < gain) (hlo : lo ≤ a) (hhi : a ≤ hi) (r : ℝ) :
    if |r| < deadzone then move deadzone gain lo hi a r = a else
      (0 < r → move deadzone gain lo hi a r ≤ a) ∧ (r < 0 → a ≤ move deadzone gain lo hi a r) ∧
        |move deadzone gain lo hi a r - a| ≤ gain * |r| := by
  rw [move_eq_integrate]
  split_ifs with hr
  · rw [deadband_of_lt hr, zero_mul, integrate, sub_zero, sat_of_mem hlo hhi]
  · rw [deadband_of_ge (not_lt.1 hr)]
    refine ⟨fun hpos => integrate_le hlo hhi (by positivity), fun hneg => ?_, ?_⟩
    · exact le_integrate hlo hhi (mul_nonpos_of_nonpos_of_nonneg hneg.le hgain.le)
    · calc |(integrate lo hi a (r * gain)).2 - a|
          ≤ |r * gain| := abs_integrate_sub_le hlo hhi
        _ = gain * |r| := by rw [abs_mul, abs_of_pos hgain, mul_comm]

/-- any error -/
theorem move_slews (hgain : 0 < gain) (hlo : lo ≤ a) (hhi : a ≤ hi) (x : Ext ℝ) :
    Slews gain deadzone hi x (.fin a) (move (.fin deadzone) (.fin gain) (.fin lo) (.fin hi) (.fin a) x) := by
  have h := hlo.trans hhi
  cases x with
  | fin r => exact ⟨a, _, rfl, move_fin deadzone gain lo hi a r, move_slews_fin hgain hlo hhi r⟩
  | posInf => exact ⟨a, lo, rfl, move_posInf hgain, hlo⟩
  | negInf => exact ⟨a, hi, rfl, move_negInf hgain h, hhi⟩
  | nan => exact ⟨a, hi, rfl, move_nan h, rfl⟩

end Axis

/-! ## Main result -/

theorem Inv.within {p : ServoParams (Ext ℝ)} {node : ServoNode (Ext ℝ)} (h : Inv p node) (axis : Axis) :
    axis.minAngle p ≤ axis.angle node ∧ axis.angle node ≤ axis.maxAngle p := by
  cases axis with
  | pan => exact h.pan
  | tilt => exact h.tilt

/-- one message from a state within the limits -/
theorem handle_slews (axis : Axis) {p : ServoParams ℝ} (hgain : 0 < axis.gain p) {node : ServoNode (Ext ℝ)}
    (hnode : Inv (p.map .fin) node) (msg : Vector3 (Ext ℝ)) :
    Slews (axis.gain p) p.deadzone (axis.maxAngle p) (axis.error msg) (axis.angle node)
      (axis.angle (handle node msg).2) := by
  have hwithin := hnode.within axis
  rw [Axis.minAngle_map, Axis.maxAngle_map] at hwithin
  obtain ⟨a, ha, hlo, hhi⟩ := Ext.exists_fin_of_mem hwithin.1 hwithin.2
  rw [handle_angle, hnode.params, Axis.minAngle_map, Axis.maxAngle_map, Axis.gain_map, ha]
  exact move_slews hgain hlo hhi (axis.error msg)

/-- **Slew law.** From any state that messages lead to, the next message moves each axis as its own component says,
whatever the other components are. -/
theorem slew_law (p : ServoParams ℝ) (hpan : p.panMinAngle ≤ p.panCenterAngle ∧ p.panCenterAngle ≤ p.panMaxAngle)
    (htilt : p.tiltMinAngle ≤ p.tiltCenterAngle ∧ p.tiltCenterAngle ≤ p.tiltMaxAngle)
    (hgain : 0 < p.panGain ∧ 0 < p.tiltGain) (msgs : List (Vector3 (Ext ℝ))) (msg : Vector3 (Ext ℝ)) :
    Slews p.panGain p.deadzone p.panMaxAngle msg.x (final handle (start (p.map .fin)) msgs).panAngle
        (handle (final handle (start (p.map .fin)) msgs) msg).2.panAngle ∧
      Slews p.tiltGain p.deadzone p.tiltMaxAngle msg.y (final handle (start (p.map .fin)) msgs).tiltAngle
        (handle (final handle (start (p.map .fin)) msgs) msg).2.tiltAngle := by
  have hcenters : CentersWithin (p.map Ext.fin) := by
    simpa [CentersWithin, Within, ServoParams.map] using ⟨hpan, htilt⟩
  have hinv : Inv (p.map Ext.fin) (final handle (start (p.map .fin)) msgs) :=
    final_inv handle (Inv (p.map Ext.fin)) (fun _ => True) (fun node msg hn _ => inv_updateAngles hcenters node msg hn)
      _ msgs (inv_start hcenters) (fun _ _ => trivial)
  exact ⟨handle_slews .pan hgain.1 hinv msg, handle_slews .tilt hgain.2 hinv msg⟩

/-- the node as the defaults start it -/
noncomputable def defaultStart : ServoNode (Ext ℝ) := start (ServoParams.default.map Ext.fin)

/-- the defaults, a message of special values, and then a NaN -/
theorem slew_law_default :
    Slews 0.02 2 160 .nan (final handle defaultStart [⟨.posInf, .nan, .fin 0⟩]).panAngle
        (handle (final handle defaultStart [⟨.posInf, .nan, .fin 0⟩]) ⟨.nan, .fin 5, .fin 0⟩).2.panAngle ∧
      Slews 0.01 2 60 (.fin 5) (final handle defaultStart [⟨.posInf, .nan, .fin 0⟩]).tiltAngle
        (handle (final handle defaultStart [⟨.posInf, .nan, .fin 0⟩]) ⟨.nan, .fin 5, .fin 0⟩).2.tiltAngle :=
  slew_law ServoParams.default (by norm_num [ServoParams.default]) (by norm_num [ServoParams.default])
    (by norm_num [ServoParams.default]) _ _

/-- from the start of the defaults a NaN moves the pan axis by 70 degrees -/
theorem nan_moves :
    defaultStart.panAngle = .fin 90 ∧ (handle defaultStart ⟨.nan, .fin 0, .fin 0⟩).2.panAngle = .fin 160 :=
  ⟨rfl, move_nan (show (20 : ℝ) ≤ 160 by norm_num)⟩

end VitaminD.ServoNode
