/-
`adafruit_motor/servo.py`: a servo on a PWM channel. An angle becomes a fraction of the actuation range, the fraction a
duty cycle between those of the shortest and the longest pulse; `None` switches the pulses off. Number types have exact
arithmetic.
-/
import VitaminD.Model.PCA9685

namespace VitaminD

open VitaminD.Registers

/-- the attributes of a `Servo` -/
structure AdafruitServo where
  pwmOut : PWMChannel
  minDuty : ℤ
  dutyRange : ℤ
  actuationRange : ℤ
deriving DecidableEq, Repr

namespace AdafruitServo

variable {α : Type} [Field α] [LinearOrder α] [FloorRing α]

/-- the duty cycle of a pulse, in microseconds, before it is cut to an integer -/
def duty (frequency : α) (pulse : ℕ) : α := pulse * frequency / 1000000 * 0xFFFF

section Transfers

variable (α) {δ : Type} (d : Device Exc δ)

/-- the constructor, through `set_pulse_width_range` -/
def init (pca : PCA9685) (pwmOut : PWMChannel) (minPulse maxPulse : ℕ) : EStateM Exc δ AdafruitServo := do
  let frequency : α ← pca.frequency d
  let minDuty := pyInt (duty frequency minPulse)
  let frequency : α ← pca.frequency d
  let maxDuty := duty frequency maxPulse
  return { pwmOut, minDuty, dutyRange := pyInt (maxDuty - minDuty), actuationRange := 180 }

/-- the getter of `fraction` -/
def fraction (servo : AdafruitServo) : EStateM Exc δ (Option α) := do
  let dutyCycle ← servo.pwmOut.dutyCycle d
  if dutyCycle = 0 then
    return none
  let dutyCycle ← servo.pwmOut.dutyCycle d
  if servo.dutyRange = 0 then
    throw (.other "ZeroDivisionError")
  return some ((((dutyCycle : ℤ) - servo.minDuty : ℤ) : α) / servo.dutyRange)

variable {α}

/-- the setter of `fraction` -/
def setFraction (servo : AdafruitServo) (value : Option α) : EStateM Exc δ Unit :=
  match value with
  | none => servo.pwmOut.setDutyCycle d 0
  | some value => do
    if ¬(0 ≤ value ∧ value ≤ 1) then
      throw (.valueError "Must be 0.0 to 1.0")
    servo.pwmOut.setDutyCycle d (servo.minDuty + pyInt (value * servo.dutyRange))

/-- the setter of `angle` -/
def setAngle (servo : AdafruitServo) (newAngle : Option α) : EStateM Exc δ Unit :=
  match newAngle with
  | none => servo.setFraction (α := α) d none
  | some newAngle => do
    if newAngle < 0 ∨ servo.actuationRange < newAngle then
      throw (.valueError "Angle out of range")
    servo.setFraction d (some (newAngle / servo.actuationRange))

variable (α)

/-- the getter of `angle` -/
def angle (servo : AdafruitServo) : EStateM Exc δ (Option α) := do
  match ← servo.fraction α d with
  | none => return none
  | some _ =>
    match ← servo.fraction α d with
    | none => throw (.other "TypeError")
    | some fraction => return some (servo.actuationRange * fraction)

end Transfers

end AdafruitServo

end VitaminD
