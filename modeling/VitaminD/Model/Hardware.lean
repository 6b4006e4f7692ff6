/-
What the calls of the servo node do to the board: the chip, the driver's object for it, and the channel and the servo
that the node took for each axis. Calls for anything else leave the board alone.
-/
import VitaminD.Model.AdafruitServo
import VitaminD.Model.Calls

namespace VitaminD

open VitaminD.Registers

/-- the chip, and what the node has assigned so far -/
structure Hardware (δ : Type) where
  chip : δ
  pca : Option PCA9685
  channel : Axis → Option PWMChannel
  servo : Axis → Option AdafruitServo

/-- the setter of `angle` on a float: no comparison with NaN holds, so NaN is refused only by `fraction` -/
def AdafruitServo.setAngleFloat {α δ : Type} [Field α] [LinearOrder α] [FloorRing α] (servo : AdafruitServo)
    (d : Device Exc δ) : Ext α → EStateM Exc δ Unit
  | .fin a => servo.setAngle d (some a)
  | .posInf => throw (.valueError "Angle out of range")
  | .negInf => throw (.valueError "Angle out of range")
  | .nan => throw (.valueError "Must be 0.0 to 1.0")

namespace Hardware

variable {α β δ : Type}

/-- what is done to the chip alone -/
def onChip (m : EStateM Exc δ β) : EStateM Exc (Hardware δ) β := fun h =>
  match m h.chip with
  | .ok a chip => .ok a { h with chip := chip }
  | .error e chip => .error e { h with chip := chip }

/-- an attribute of the node; one that has not been assigned yet raises -/
def getattr (get : Hardware δ → Option β) : EStateM Exc (Hardware δ) β := fun h =>
  match get h with
  | some a => .ok a h
  | none => .error (.other "AttributeError") h

def assign (f : Hardware δ → Hardware δ) : EStateM Exc (Hardware δ) Unit := fun h => .ok () (f h)

variable [Field α] [LinearOrder α] [FloorRing α]

section Calls

variable (d : Device Exc δ)

/-- `self.pca = PCA9685(self.i2c)` -/
def createBoard : EStateM Exc (Hardware δ) Unit := do
  let pca ← onChip (PCA9685.init d)
  assign fun h => { h with pca := some pca }

variable (α) in
/-- `self.pca.frequency = hz` -/
def setFrequency (hz : ℕ) : EStateM Exc (Hardware δ) Unit := do
  let pca ← getattr Hardware.pca
  onChip (pca.setFrequency d (hz : α))

/-- `self.pca.channels[index]` -/
def takeChannel (axis : Axis) (index : ℤ) : EStateM Exc (Hardware δ) Unit := do
  let pca ← getattr Hardware.pca
  let taken ← MonadExcept.ofExcept (pca.getItem index)
  assign fun h => { h with pca := some taken.2, channel := Function.update h.channel axis (some taken.1) }

variable (α) in
/-- `servo.Servo(channel, min_pulse, max_pulse)` -/
def createServo (axis : Axis) (minPulse maxPulse : ℕ) : EStateM Exc (Hardware δ) Unit := do
  let pca ← getattr Hardware.pca
  let channel ← getattr fun h => h.channel axis
  let servo ← onChip (AdafruitServo.init α d pca channel minPulse maxPulse)
  assign fun h => { h with servo := Function.update h.servo axis (some servo) }

/-- `servo.angle = angle` -/
def setAngle (axis : Axis) (angle : Ext α) : EStateM Exc (Hardware δ) Unit := do
  let servo ← getattr fun h => h.servo axis
  onChip (servo.setAngleFloat d angle)

/-- `self.pca.deinit()` -/
def deinit : EStateM Exc (Hardware δ) Unit := do
  let _ ← getattr Hardware.pca
  onChip (PCA9685.deinit d)

/-- what a call does, if it is for the board -/
def perform : Op (Ext α) → Option (EStateM Exc (Hardware δ) Unit)
  | .pca9685 => some (createBoard d)
  | .frequency hz => some (setFrequency α d hz)
  | .channel axis index => some (takeChannel axis index)
  | .servo axis minPulse maxPulse => some (createServo α d axis minPulse maxPulse)
  | .angle axis angle => some (setAngle d axis angle)
  | .deinit => some (deinit d)
  | _ => none

end Calls

/-- the calls for the board -/
def OnBoard : Op α → Prop
  | .pca9685 => True
  | .frequency _ => True
  | .channel _ _ => True
  | .servo _ _ _ => True
  | .angle _ _ => True
  | .deinit => True
  | _ => False

theorem perform_eq_none_iff (d : Device Exc δ) (op : Op (Ext α)) : perform d op = none ↔ ¬OnBoard op := by
  cases op <;> simp [perform, OnBoard]

/-- a named call -/
def act (d : Device Exc δ) (c : Site (Ext α)) : Option (EStateM Exc (Hardware δ) Unit) := perform d c.op

end Hardware

end VitaminD
