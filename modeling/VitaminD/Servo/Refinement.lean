/-
`gaze_error_callback` computes a saturated integrator on each axis: what passes the deadzone, times the gain, is
subtracted from the angle, and `clamp` saturates at the limits of the axis.

- `gazeErrorCallback_apply`, `spun_state`: a callback is one step of `handle`, whichever of its calls raises, and the
  states of a whole run are those of `handle`;
- `tracks`: over the reals each axis is an integrator of its own, whatever the other one does;
- `deadband_mono`: a larger error never counts for less, whatever the deadzone.
-/
import VitaminD.Core.Saturation
import VitaminD.Model.ServoNode

/-! ## What belongs to an axis -/

namespace VitaminD.Axis

variable {α : Type}

def angle : Axis → ServoNode α → α
  | pan, node => node.panAngle
  | tilt, node => node.tiltAngle

/-- the component of a message that the axis follows -/
def error : Axis → Vector3 α → α
  | pan, msg => msg.x
  | tilt, msg => msg.y

def gain : Axis → ServoParams α → α
  | pan, p => p.panGain
  | tilt, p => p.tiltGain

def minAngle : Axis → ServoParams α → α
  | pan, p => p.panMinAngle
  | tilt, p => p.tiltMinAngle

def maxAngle : Axis → ServoParams α → α
  | pan, p => p.panMaxAngle
  | tilt, p => p.tiltMaxAngle

section Map

variable {β : Type} (g : α → β) (p : ServoParams α) (axis : Axis)

theorem gain_map : axis.gain (p.map g) = g (axis.gain p) := by cases axis <;> rfl

theorem minAngle_map : axis.minAngle (p.map g) = g (axis.minAngle p) := by cases axis <;> rfl

theorem maxAngle_map : axis.maxAngle (p.map g) = g (axis.maxAngle p) := by cases axis <;> rfl

end Map

end VitaminD.Axis

namespace VitaminD.ServoNode

open VitaminD.Effects VitaminD.Machine VitaminD.Saturation

/-! ## The callback as a machine -/

section Machine

variable {α : Type} [Zero α] [Sub α] [Mul α] [LT α] [DecidableLT α] [PyAbs α]

/-- one message -/
def handle (node : ServoNode α) (msg : Vector3 α) : Unit × ServoNode α := ((), node.updateAngles msg)

/-- the angles are assigned before any call that could raise, and are what the calls command -/
theorem gazeErrorCallback_apply (F : Site α → Option Exc) (i : ℕ) (msg : Vector3 α) (node : ServoNode α)
    (t : Trace α) :
    gazeErrorCallback i msg F node t =
      Prog.calls [⟨.spin i, .angle .pan (handle node msg).2.panAngle⟩,
        ⟨.spin i, .angle .tilt (handle node msg).2.tiltAngle⟩, ⟨.spin i, .info⟩] F (handle node msg).2 t := by
  have h : gazeErrorCallback i msg = (do
      Prog.assign fun node : ServoNode α => node.updateAngles msg
      let node ← Prog.self
      Prog.calls [⟨.spin i, .angle .pan node.panAngle⟩, ⟨.spin i, .angle .tilt node.tiltAngle⟩, ⟨.spin i, .info⟩]) := by
    simp [gazeErrorCallback, setServoAngles, Prog.calls]
  rw [h]
  rfl

theorem gazeErrorCallback_state (F : Site α → Option Exc) (i : ℕ) (msg : Vector3 α) (node : ServoNode α)
    (t : Trace α) : (gazeErrorCallback i msg F node t).state = (handle node msg).2 := by
  rw [gazeErrorCallback_apply, Prog.calls_state]

/-- however it ends, spinning leaves the node where some number of the messages brings it -/
theorem spun_state (F : Site α → Option Exc) (p : ServoParams α) (msgs : List (Vector3 α)) (t : Trace α) :
    ∃ n, (spun F p msgs t).state = final handle (start p) (msgs.take n) :=
  spin_state (fun i msg node t => gazeErrorCallback_state F i msg node t) 0 msgs (start p) _

/-- one axis of the callback -/
def move (deadzone gain minAngle maxAngle angle error : α) : α :=
  clamp (angle - deadband deadzone error * gain) minAngle maxAngle

theorem handle_angle (axis : Axis) (node : ServoNode α) (msg : Vector3 α) : axis.angle (handle node msg).2 =
    move node.deadzone (axis.gain node.toServoParams) (axis.minAngle node.toServoParams)
      (axis.maxAngle node.toServoParams) (axis.angle node) (axis.error msg) := by
  cases axis with
  | pan => rfl
  | tilt => rfl

/-- from the centre of the defaults, an error of 10 on one axis and one inside the deadzone on the other -/
example : (handle (start (ServoParams.default : ServoParams ℚ)) ⟨10, 1, 0⟩).2.panAngle = 89.8 ∧
    (handle (start (ServoParams.default : ServoParams ℚ)) ⟨10, 1, 0⟩).2.tiltAngle = 40 := by decide +kernel

end Machine

/-! ## Each axis is a saturated integrator -/

theorem clamp_eq_sat {α : Type} [LinearOrder α] (angle minAngle maxAngle : α) :
    clamp angle minAngle maxAngle = sat minAngle maxAngle angle := by
  rw [clamp, pyMax_eq_max, pyMin_eq_min, sat]

theorem move_eq_integrate (deadzone gain minAngle maxAngle angle error : ℝ) :
    move deadzone gain minAngle maxAngle angle error =
      (integrate minAngle maxAngle angle (deadband deadzone error * gain)).2 :=
  clamp_eq_sat _ _ _

theorem tracks (p : ServoParams ℝ) (axis : Axis) :
    Tracks handle (integrate (axis.minAngle p) (axis.maxAngle p)) (fun node => node.toServoParams = p) axis.angle
      (fun msg => deadband p.deadzone (axis.error msg) * axis.gain p) where
  inv _ _ h := h
  next node msg h := by
    subst h
    rw [handle_angle, move_eq_integrate]

/-! ## The deadzone -/

section Deadzone

variable {deadzone error : ℝ}

/-- within the deadzone an error counts for nothing -/
theorem deadband_of_lt (h : |error| < deadzone) : deadband deadzone error = 0 := if_pos h

theorem deadband_of_ge (h : deadzone ≤ |error|) : deadband deadzone error = error := if_neg (not_lt.2 h)

theorem deadband_mono (deadzone : ℝ) : Monotone (deadband deadzone) := by
  intro a b hab
  by_cases ha : |a| < deadzone <;> by_cases hb : |b| < deadzone
  · rw [deadband_of_lt ha, deadband_of_lt hb]
  · -- an error above one inside the deadzone has left it upwards
    rw [deadband_of_lt ha, deadband_of_ge (not_lt.1 hb)]
    by_contra hneg
    exact hb (abs_lt.2 ⟨(abs_lt.1 ha).1.trans_le hab, (not_le.1 hneg).trans ((abs_nonneg a).trans_lt ha)⟩)
  · rw [deadband_of_ge (not_lt.1 ha), deadband_of_lt hb]
    by_contra hpos
    have hdeadzone : 0 < deadzone := (abs_nonneg b).trans_lt hb
    exact ha (abs_lt.2 ⟨(neg_lt_zero.2 hdeadzone).trans (not_le.1 hpos), hab.trans_lt (abs_lt.1 hb).2⟩)
  · rw [deadband_of_ge (not_lt.1 ha), deadband_of_ge (not_lt.1 hb)]
    exact hab

end Deadzone

end VitaminD.ServoNode
