/-
`servo_node.py`: the servo controller. The constructor reads the parameters, sets up the PCA9685 and commands the centre
angles; `gaze_error_callback` moves both axes against the received error, saturated at the limits of the axis;
`destroy_node` commands the centre angles again and releases the board; `main` runs the three.
-/
import VitaminD.Model.Calls

namespace VitaminD

open VitaminD.Effects

/-! ## Model -/

/-- the parameters the node declares -/
structure ServoParams (α : Type) where
  inputTopic : String
  panChannel : ℤ
  tiltChannel : ℤ
  panCenterAngle : α
  panMinAngle : α
  panMaxAngle : α
  tiltCenterAngle : α
  tiltMinAngle : α
  tiltMaxAngle : α
  panGain : α
  tiltGain : α
  deadzone : α
deriving DecidableEq, Repr

/-- the values `declare_parameter` falls back to -/
def ServoParams.default {α : Type} [Field α] : ServoParams α where
  inputTopic := "/gaze_error_cmd"
  panChannel := 0
  tiltChannel := 1
  panCenterAngle := 90
  panMinAngle := 20
  panMaxAngle := 160
  tiltCenterAngle := 40
  tiltMinAngle := 20
  tiltMaxAngle := 60
  panGain := 0.02
  tiltGain := 0.01
  deadzone := 2

def ServoParams.map {α β : Type} (g : α → β) (p : ServoParams α) : ServoParams β where
  inputTopic := p.inputTopic
  panChannel := p.panChannel
  tiltChannel := p.tiltChannel
  panCenterAngle := g p.panCenterAngle
  panMinAngle := g p.panMinAngle
  panMaxAngle := g p.panMaxAngle
  tiltCenterAngle := g p.tiltCenterAngle
  tiltMinAngle := g p.tiltMinAngle
  tiltMaxAngle := g p.tiltMaxAngle
  panGain := g p.panGain
  tiltGain := g p.tiltGain
  deadzone := g p.deadzone

/-- the node: its parameters and the angle of each axis -/
structure ServoNode (α : Type) extends ServoParams α where
  panAngle : α
  tiltAngle : α
deriving DecidableEq, Repr

namespace ServoNode

variable {α σ : Type}

/-- the names in the order of their declaration -/
def declared : List String :=
  ["input_topic", "pan_channel", "tilt_channel", "pan_center_angle", "pan_min_angle", "pan_max_angle",
    "tilt_center_angle", "tilt_min_angle", "tilt_max_angle", "pan_gain", "tilt_gain", "deadzone"]

def setServoAngles (phase : Phase) (panAngle tiltAngle : α) : Py α σ Unit := do
  Prog.call ⟨phase, .angle .pan panAngle⟩
  Prog.call ⟨phase, .angle .tilt tiltAngle⟩

def librariesMissing : Exc :=
  .runtimeError ("PCA9685 servo libraries are not installed. " ++
    "Install adafruit-circuitpython-pca9685 and adafruit-circuitpython-motor.")

/-- the constructor; `importError` tells whether the import of the servo libraries failed -/
def init (importError : Bool) (p : ServoParams α) : Py α σ (ServoNode α) := do
  Prog.call ⟨.construct, .superInit "servo_node"⟩
  if importError then
    Prog.raise librariesMissing
  Prog.calls (declared.map fun name => ⟨.construct, .declareParameter name⟩)
  let inputTopic ← readParameter "input_topic" p.inputTopic
  let panChannel ← readParameter "pan_channel" p.panChannel
  let tiltChannel ← readParameter "tilt_channel" p.tiltChannel
  let panCenterAngle ← readFloat "pan_center_angle" p.panCenterAngle
  let panMinAngle ← readFloat "pan_min_angle" p.panMinAngle
  let panMaxAngle ← readFloat "pan_max_angle" p.panMaxAngle
  let tiltCenterAngle ← readFloat "tilt_center_angle" p.tiltCenterAngle
  let tiltMinAngle ← readFloat "tilt_min_angle" p.tiltMinAngle
  let tiltMaxAngle ← readFloat "tilt_max_angle" p.tiltMaxAngle
  let panGain ← readFloat "pan_gain" p.panGain
  let tiltGain ← readFloat "tilt_gain" p.tiltGain
  let deadzone ← readFloat "deadzone" p.deadzone
  Prog.call ⟨.construct, .i2c⟩
  Prog.call ⟨.construct, .pca9685⟩
  Prog.call ⟨.construct, .frequency 50⟩
  Prog.call ⟨.construct, .channel .pan panChannel⟩
  Prog.call ⟨.construct, .servo .pan 500 2500⟩
  Prog.call ⟨.construct, .channel .tilt tiltChannel⟩
  Prog.call ⟨.construct, .servo .tilt 500 2500⟩
  let panAngle := panCenterAngle
  let tiltAngle := tiltCenterAngle
  setServoAngles .construct panAngle tiltAngle
  Prog.call ⟨.construct, .createSubscription inputTopic 10⟩
  Prog.call ⟨.construct, .info⟩
  return {
    inputTopic, panChannel, tiltChannel, panCenterAngle, panMinAngle, panMaxAngle, tiltCenterAngle, tiltMinAngle,
    tiltMaxAngle, panGain, tiltGain, deadzone, panAngle, tiltAngle }

def clamp [LT α] [DecidableLT α] (angle minAngle maxAngle : α) : α := pyMax minAngle (pyMin maxAngle angle)

section Callback

variable [Zero α] [Sub α] [Mul α] [LT α] [DecidableLT α] [PyAbs α]

/-- the error a message component counts for -/
def deadband (deadzone error : α) : α := if pyAbs error < deadzone then 0 else error

/-- the assignments of `gaze_error_callback` -/
def updateAngles (node : ServoNode α) (msg : Vector3 α) : ServoNode α :=
  let xError := deadband node.deadzone msg.x
  let yError := deadband node.deadzone msg.y
  { node with
    panAngle := clamp (node.panAngle - xError * node.panGain) node.panMinAngle node.panMaxAngle
    tiltAngle := clamp (node.tiltAngle - yError * node.tiltGain) node.tiltMinAngle node.tiltMaxAngle }

/-- the callback on the message of the i-th turn -/
def gazeErrorCallback (i : ℕ) (msg : Vector3 α) : Py α (ServoNode α) Unit := do
  Prog.assign fun node => node.updateAngles msg
  let node ← Prog.self
  setServoAngles (.spin i) node.panAngle node.tiltAngle
  Prog.call ⟨.spin i, .info⟩

/-- `destroy_node`: the centre angles, the board, the base class -/
def destroyNode : Py α (ServoNode α) Unit := do
  let node ← Prog.self
  setServoAngles .shutdown node.panCenterAngle node.tiltCenterAngle
  Prog.call ⟨.shutdown, .deinit⟩
  Prog.call ⟨.shutdown, .destroyNode⟩

/-- `main` once `rclpy.init` has returned: construction, which no `try` encloses, then spinning with the clean-up in its
`finally` -/
def session (importError : Bool) (p : ServoParams α) (msgs : List (Vector3 α)) : Py α Unit Unit := do
  let node ← init importError p
  Prog.within node (spinUntilInterrupt gazeErrorCallback msgs do
    destroyNode
    Prog.call ⟨.shutdown, .rclpyShutdown⟩)

def main (importError : Bool) (p : ServoParams α) (msgs : List (Vector3 α)) : Py α Unit Unit := do
  Prog.call ⟨.start, .rclpyInit⟩
  session importError p msgs

end Callback

/-! ## The constructor as a straight line of calls -/

/-- the node as the constructor leaves it -/
def start (p : ServoParams α) : ServoNode α :=
  { p with panAngle := p.panCenterAngle, tiltAngle := p.tiltCenterAngle }

/-- the parameters converted by `float`, in the order they are read -/
def floats : List String :=
  ["pan_center_angle", "pan_min_angle", "pan_max_angle", "tilt_center_angle", "tilt_min_angle", "tilt_max_angle",
    "pan_gain", "tilt_gain", "deadzone"]

/-- the calls that declare and read the parameters -/
def parameterOps : List (Op α) :=
  declared.map Op.declareParameter ++
    [Op.getParameter "input_topic", Op.getParameter "pan_channel", Op.getParameter "tilt_channel"] ++
    floats.flatMap fun name => [Op.getParameter name, Op.float name]

/-- the calls that set up the board, command the centre angles and subscribe -/
def setupOps (p : ServoParams α) : List (Op α) :=
  [.i2c, .pca9685, .frequency 50, .channel .pan p.panChannel, .servo .pan 500 2500, .channel .tilt p.tiltChannel,
    .servo .tilt 500 2500, .angle .pan p.panCenterAngle, .angle .tilt p.tiltCenterAngle,
    .createSubscription p.inputTopic 10, .info]

/-- every call of a construction that completes -/
def initOps (p : ServoParams α) : List (Op α) := .superInit "servo_node" :: (parameterOps ++ setupOps p)

def initCalls (p : ServoParams α) : List (Site α) := (initOps p).map fun op => ⟨.construct, op⟩

/-- the constructor commands the centre angles and no others -/
theorem angle_mem_initOps {p : ServoParams α} {axis : Axis} {a : α} (h : .angle axis a ∈ initOps p) :
    axis = .pan ∧ a = p.panCenterAngle ∨ axis = .tilt ∧ a = p.tiltCenterAngle := by
  simpa [initOps, parameterOps, setupOps, floats, declared] using h

theorem init_eq (p : ServoParams α) :
    (init false p : Py α σ (ServoNode α)) = (do Prog.calls (initCalls p); return start p) := by
  simp [init, initCalls, initOps, parameterOps, setupOps, declared, floats, Prog.calls, readParameter, readFloat,
    setServoAngles, start]

theorem init_importError (p : ServoParams α) :
    (init true p : Py α σ (ServoNode α)) = (do
      Prog.call ⟨.construct, .superInit "servo_node"⟩
      Prog.raise librariesMissing) := rfl

section Construction

variable (F : Site α → Option Exc) (p : ServoParams α) (s : σ) (t : Trace α)

/-- a construction none of whose calls raises makes them all -/
theorem init_ok (h : ∀ c ∈ initCalls p, F c = none) :
    init false p F s t = ⟨.ok (start p), s, t ++ Prog.returned (initCalls p)⟩ := by
  rw [init_eq, Prog.bind_ok F s t (Prog.calls_ok F s t _ h)]
  rfl

/-- a construction that fails has made only calls of the constructor -/
theorem init_error (importError : Bool) (h : importError = true ∨ ¬ ∀ c ∈ initCalls p, F c = none) :
    ∃ e t', init importError p F s t = ⟨.error e, s, t ++ t'⟩ ∧ ∀ ev ∈ t', ev.call ∈ initCalls p := by
  cases importError with
  | true =>
    set c : Site α := ⟨.construct, .superInit "servo_node"⟩
    have hmem : c ∈ initCalls p := by simp [c, initCalls, initOps]
    rw [init_importError, Prog.bind_apply]
    cases hF : F c with
    | none => exact ⟨librariesMissing, [⟨c, none⟩], by simp [Prog.call, c, hF, Prog.raise], by simpa using hmem⟩
    | some e => exact ⟨e, [⟨c, some e⟩], by simp [Prog.call, c, hF], by simpa using hmem⟩
  | false =>
    obtain ⟨e, t', heq, hmem⟩ := Prog.calls_error F s t (initCalls p) (by simpa using h)
    exact ⟨e, t', by rw [init_eq, Prog.bind_error F s t heq], hmem⟩

/-- the constructor completes exactly when the servo libraries are there and none of its calls raises -/
theorem init_completes_iff (importError : Bool) :
    (∃ node, (init importError p F s t).value = .ok node) ↔
      importError = false ∧ ∀ c ∈ initCalls p, F c = none := by
  constructor
  · rintro ⟨node, hnode⟩
    by_contra hcon
    obtain ⟨e, t', heq, -⟩ := init_error F p s t importError (by
      cases importError with
      | true => exact Or.inl rfl
      | false => exact Or.inr (fun h => hcon ⟨rfl, h⟩))
    rw [heq] at hnode
    cases hnode
  · rintro ⟨rfl, h⟩
    exact ⟨start p, by rw [init_ok F p s t h]⟩

end Construction

/-! ## The shutdown as a straight line of calls -/

/-- every call of a `destroy_node` that completes -/
def destroyCalls (p : ServoParams α) : List (Site α) :=
  [⟨.shutdown, .angle .pan p.panCenterAngle⟩, ⟨.shutdown, .angle .tilt p.tiltCenterAngle⟩, ⟨.shutdown, .deinit⟩,
    ⟨.shutdown, .destroyNode⟩]

/-- every call of a shutdown that completes -/
def shutdownCalls (p : ServoParams α) : List (Site α) := destroyCalls p ++ [⟨.shutdown, .rclpyShutdown⟩]

theorem cleanUp_apply (F : Site α → Option Exc) (node : ServoNode α) (t : Trace α) :
    (do destroyNode; Prog.call ⟨.shutdown, .rclpyShutdown⟩ : Py α (ServoNode α) Unit) F node t =
      Prog.calls (shutdownCalls node.toServoParams) F node t := by
  have h : (do destroyNode; Prog.call ⟨.shutdown, .rclpyShutdown⟩ : Py α (ServoNode α) Unit) =
      Prog.self >>= fun node => Prog.calls (shutdownCalls node.toServoParams) := by
    simp [destroyNode, setServoAngles, shutdownCalls, destroyCalls, Prog.calls]
  rw [h]
  rfl

section Session

variable [Zero α] [Sub α] [Mul α] [LT α] [DecidableLT α] [PyAbs α]

/-- the node as spinning leaves it, and the trace until then -/
def spun (F : Site α → Option Exc) (p : ServoParams α) (msgs : List (Vector3 α)) (t : Trace α) :
    Result (Site α) Exc (ServoNode α) Unit :=
  spin gazeErrorCallback 0 msgs F (start p) (t ++ Prog.returned (initCalls p))

/-- a callback keeps the parameters, and calls nothing outside its turn -/
theorem safe_gazeErrorCallback_turn (p : ServoParams α) (i : ℕ) (msg : Vector3 α) :
    Prog.Safe (fun node : ServoNode α => node.toServoParams = p) OfTurn (gazeErrorCallback i msg) := by
  have hcall (op : Op α) (hop : op.OfTurn) : Prog.Safe (fun node : ServoNode α => node.toServoParams = p) OfTurn
      (Prog.call ⟨.spin i, op⟩) := Prog.Safe.call _ fun _ => ⟨hop, i, rfl⟩
  refine (Prog.Safe.assign _ ?_).bind fun _ => ?_
  · exact fun node hnode => hnode
  · refine Prog.Safe.self_bind fun node _ => ?_
    have hangles :=
      (hcall (.angle .pan node.panAngle) trivial).bind fun _ => hcall (.angle .tilt node.tiltAngle) trivial
    exact hangles.bind fun _ => hcall .info trivial

/-- spinning keeps the parameters, and adds to the trace of the constructor only calls of its turns -/
theorem spun_spec (F : Site α → Option Exc) (p : ServoParams α) (msgs : List (Vector3 α)) (t : Trace α) :
    (spun F p msgs t).state.toServoParams = p ∧
      Prog.Adds OfTurn (t ++ Prog.returned (initCalls p)) (spun F p msgs t).trace :=
  safe_spin (fun i _ => ⟨trivial, i, rfl⟩) (safe_gazeErrorCallback_turn p) 0 msgs F (start p) _ _ _ _ rfl rfl

/-- a run whose construction completes: the constructor, the spinning, and the shutdown from where it ended -/
theorem session_trace (F : Site α → Option Exc) (p : ServoParams α) (msgs : List (Vector3 α)) (t : Trace α)
    (h : ∀ c ∈ initCalls p, F c = none) :
    (session false p msgs F () t).trace =
      (Prog.calls (shutdownCalls p) F (spun F p msgs t).state (spun F p msgs t).trace).trace := by
  have hshutdown := cleanUp_apply F (spun F p msgs t).state (spun F p msgs t).trace
  rw [(spun_spec F p msgs t).1] at hshutdown
  rw [session, Prog.bind_ok F () t (init_ok F p () t h), ← hshutdown]
  exact spinUntilInterrupt_trace _ _ _ F (start p) _

end Session

end ServoNode

end VitaminD
