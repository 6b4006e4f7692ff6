/-
The external calls of the two programs: rclpy, the node base class, the I2C bus, the PCA9685 and its servos. Nothing is
assumed of them but that each returns or raises. A call is named by the part of the program that makes it and by what it
asks for, so that no two calls of a run share a name and any placement of exceptions is a function of the name.

The log lines are calls too, as they can raise; their texts carry nothing that the programs depend on and are left out.
-/
import VitaminD.Core.Effects
import VitaminD.Core.Machine
import VitaminD.Model.Python

namespace VitaminD

open VitaminD.Effects VitaminD.Machine

inductive Axis where
  | pan
  | tilt
deriving DecidableEq, Repr

/-- which part of `main` is running -/
inductive Phase where
  /-- before the node exists -/
  | start
  /-- the constructor of the node -/
  | construct
  /-- the i-th turn of `rclpy.spin` -/
  | spin (i : ℕ)
  /-- the `finally` block -/
  | shutdown
deriving DecidableEq, Repr

/-- what a call asks for -/
inductive Op (α : Type) where
  | rclpyInit
  | rclpyShutdown
  /-- one wait of the executor -/
  | spinOnce
  /-- `super().__init__(name)` -/
  | superInit (name : String)
  | declareParameter (name : String)
  | getParameter (name : String)
  /-- `float(...)` of a parameter -/
  | float (name : String)
  | createPublisher (topic : String) (depth : ℕ)
  | createSubscription (topic : String) (depth : ℕ)
  | publish (msg : Vector3 α)
  /-- `get_logger().info(...)` -/
  | info
  /-- `board.I2C()` -/
  | i2c
  /-- `PCA9685(self.i2c)` -/
  | pca9685
  /-- `pca.frequency = hz` -/
  | frequency (hz : ℕ)
  /-- `pca.channels[index]` -/
  | channel (axis : Axis) (index : ℤ)
  /-- `servo.Servo(channel, min_pulse, max_pulse)` -/
  | servo (axis : Axis) (minPulse maxPulse : ℕ)
  /-- `servo.angle = angle` -/
  | angle (axis : Axis) (angle : α)
  /-- `pca.deinit()` -/
  | deinit
  /-- `Node.destroy_node` -/
  | destroyNode
deriving DecidableEq, Repr

/-- the name of a call -/
structure Site (α : Type) where
  phase : Phase
  op : Op α
deriving DecidableEq, Repr

/-- what a run leaves behind -/
abbrev Trace (α : Type) : Type := List (Event (Site α) Exc)

/-- the programs of both nodes, with an object of type σ -/
abbrev Py (α σ β : Type) : Type := Prog (Site α) Exc σ β

variable {α σ : Type}

/-- what is called while spinning: waits, commands, publications and log lines -/
def Op.OfTurn : Op α → Prop
  | .spinOnce => True
  | .angle _ _ => True
  | .publish _ => True
  | .info => True
  | _ => False

/-- a call made while spinning -/
def OfTurn (ev : Event (Site α) Exc) : Prop := ev.call.op.OfTurn ∧ ∃ i, ev.call.phase = .spin i

theorem OfTurn.ne {ev : Event (Site α) Exc} (h : OfTurn ev) {op : Op α} (hop : ¬ op.OfTurn) : ev.call.op ≠ op := by
  rintro rfl
  exact hop h.1

/-- `float(self.get_parameter(name).value)` of a parameter whose value is v -/
def readFloat (name : String) (v : α) : Py α σ α := do
  Prog.call ⟨.construct, .getParameter name⟩
  Prog.call ⟨.construct, .float name⟩
  return v

/-- `self.get_parameter(name).value` of a parameter whose value is v -/
def readParameter {β : Type} (name : String) (v : β) : Py α σ β := do
  Prog.call ⟨.construct, .getParameter name⟩
  return v

/-- `rclpy.spin(node)`: waits in turn, each followed by the callback on the message that ended it, until a wait ends
because the context was shut down -/
def spin (callback : ℕ → Vector3 α → Py α σ Unit) : ℕ → List (Vector3 α) → Py α σ Unit
  | i, [] => Prog.call ⟨.spin i, .spinOnce⟩
  | i, msg :: msgs => do
    Prog.call ⟨.spin i, .spinOnce⟩
    callback i msg
    spin callback (i + 1) msgs

/-- `try: rclpy.spin(node) except KeyboardInterrupt: pass finally: ...` -/
def spinUntilInterrupt (callback : ℕ → Vector3 α → Py α σ Unit) (msgs : List (Vector3 α)) (cleanUp : Py α σ Unit) :
    Py α σ Unit :=
  Prog.tryFinally (Prog.tryExcept (spin callback 0 msgs) (fun e => decide (e = .keyboardInterrupt)) (pure ())) cleanUp

/-- however the spinning ends, the clean-up runs where it ended -/
theorem spinUntilInterrupt_trace (callback : ℕ → Vector3 α → Py α σ Unit) (msgs : List (Vector3 α))
    (cleanUp : Py α σ Unit) (F : Site α → Option Exc) (s : σ) (t : Trace α) :
    (spinUntilInterrupt callback msgs cleanUp F s t).trace =
      (cleanUp F (spin callback 0 msgs F s t).state (spin callback 0 msgs F s t).trace).trace := by
  unfold spinUntilInterrupt Prog.tryFinally Prog.tryExcept
  rcases spin callback 0 msgs F s t with ⟨e | u, s', t'⟩
  · by_cases he : e = .keyboardInterrupt
    · simp only [he, decide_true, if_true, Prog.pure_apply]
      rcases cleanUp F s' t' with ⟨_ | _, _, _⟩ <;> rfl
    · simp only [he, decide_false, Bool.false_eq_true, if_false]
      rcases cleanUp F s' t' with ⟨_ | _, _, _⟩ <;> rfl
  · simp only
    rcases cleanUp F s' t' with ⟨_ | _, _, _⟩ <;> rfl

/-- spinning runs the machine that the callbacks are: whichever calls raise, it ends where some number of the messages
brings the machine -/
theorem spin_state {ο : Type} {step : σ → Vector3 α → ο × σ} {callback : ℕ → Vector3 α → Py α σ Unit}
    {F : Site α → Option Exc} (h : ∀ i msg s t, (callback i msg F s t).state = (step s msg).2) (i : ℕ)
    (msgs : List (Vector3 α)) (s : σ) (t : Trace α) :
    ∃ n, (spin callback i msgs F s t).state = final step s (msgs.take n) := by
  induction msgs generalizing i s t with
  | nil => exact ⟨0, Prog.call_state F s t _⟩
  | cons msg msgs ih =>
    have hwait := Prog.call_state F s t ⟨.spin i, .spinOnce⟩
    rw [spin, Prog.bind_apply]
    rcases hcall : (Prog.call ⟨.spin i, .spinOnce⟩ : Py α σ Unit) F s t with ⟨e | _, s', t'⟩
    · rw [hcall] at hwait
      exact ⟨0, hwait⟩
    · rw [hcall] at hwait
      obtain rfl : s' = s := hwait
      have hturn := h i msg s' t'
      simp only [Prog.bind_apply]
      rcases hback : callback i msg F s' t' with ⟨e | _, s'', t''⟩
      · rw [hback] at hturn
        exact ⟨1, hturn⟩
      · rw [hback] at hturn
        obtain rfl : s'' = (step s' msg).2 := hturn
        obtain ⟨n, hn⟩ := ih (i + 1) (step s' msg).2 t''
        exact ⟨n + 1, hn⟩

/-- a loop of waits and callbacks that keep I and add events with P -/
theorem safe_spin {I : σ → Prop} {P : Event (Site α) Exc → Prop} {callback : ℕ → Vector3 α → Py α σ Unit}
    (hwait : ∀ i o, P ⟨⟨.spin i, .spinOnce⟩, o⟩) (hcallback : ∀ i msg, Prog.Safe I P (callback i msg)) (i : ℕ)
    (msgs : List (Vector3 α)) : Prog.Safe I P (spin callback i msgs) := by
  induction msgs generalizing i with
  | nil => exact Prog.Safe.call _ (hwait i)
  | cons msg msgs ih =>
    exact (Prog.Safe.call _ (hwait i)).bind fun _ => (hcallback i msg).bind fun _ => ih (i + 1)

end VitaminD
