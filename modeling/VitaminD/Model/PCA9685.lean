/-
`adafruit_pca9685.py` with the registers of `adafruit_register` it is written in: the driver of the PWM chip behind both
servos. The chip and the bus are a parameter; what stands here is which transfers the driver makes, on what it refuses
and with which exception. Frequencies are of a number type with exact arithmetic, without the rounding and the overflow
of floats.
-/
import Mathlib.Algebra.Order.Floor.Ring
import VitaminD.Core.Registers
import VitaminD.Model.Python

namespace VitaminD

open VitaminD.Registers

/-- `int(x)`: towards zero -/
def pyInt {α : Type} [Ring α] [LinearOrder α] [FloorRing α] (x : α) : ℤ := if 0 ≤ x then ⌊x⌋ else ⌈x⌉

section PyInt

variable {α : Type} [Ring α] [LinearOrder α] [FloorRing α]

theorem pyInt_of_nonneg {x : α} (h : 0 ≤ x) : pyInt x = ⌊x⌋ := if_pos h

variable [IsStrictOrderedRing α]

theorem le_pyInt {x : α} {k : ℤ} (hk : 0 < k) : k ≤ pyInt x ↔ (k : α) ≤ x := by
  unfold pyInt
  split_ifs with hx
  · exact Int.le_floor
  · have hceil : ⌈x⌉ ≤ 0 := Int.ceil_le.2 (by exact_mod_cast (not_le.1 hx).le)
    have hpos : (0 : α) < k := by exact_mod_cast hk
    constructor
    · intro h
      omega
    · intro h
      exact absurd (hpos.le.trans h) hx

end PyInt

/-! ## Register structures -/

section Struct

variable {δ : Type} (d : Device Exc δ)

/-- `struct.pack("<B", value)` -/
def packB (value : ℤ) : Except Exc (List UInt8) :=
  if 0 ≤ value ∧ value ≤ 0xFF then .ok [UInt8.ofNat value.toNat] else .error (.other "struct.error")

/-- `struct.pack("<HH", *value)` -/
def packHH (value : ℤ × ℤ) : Except Exc (List UInt8) :=
  if (0 ≤ value.1 ∧ value.1 ≤ 0xFFFF) ∧ 0 ≤ value.2 ∧ value.2 ≤ 0xFFFF then
    .ok (le16 value.1.toNat ++ le16 value.2.toNat)
  else .error (.other "struct.error")

/-- `UnaryStruct.__get__` of a "<B" register -/
def UnaryStruct.get (address : ℕ) : EStateM Exc δ ℕ := do
  let buf ← d.read address 1
  return buf[0].toNat

/-- `UnaryStruct.__set__` -/
def UnaryStruct.set (address : ℕ) (value : ℤ) : EStateM Exc δ Unit := do
  let buf ← MonadExcept.ofExcept (packB value)
  d.write address buf

/-- `_BoundStructArray._get_buffer`: the address of an element -/
def StructArray.getBuffer (firstRegister size count : ℕ) (index : ℤ) : Except Exc ℕ :=
  if 0 ≤ index ∧ index < count then .ok (firstRegister + size * index.toNat) else .error (.other "IndexError")

/-- `_BoundStructArray.__getitem__` of "<HH" elements -/
def StructArray.getItem (firstRegister count : ℕ) (index : ℤ) : EStateM Exc δ (ℕ × ℕ) := do
  let address ← MonadExcept.ofExcept (StructArray.getBuffer firstRegister 4 count index)
  let buf ← d.read address 4
  return (word buf[0] buf[1], word buf[2] buf[3])

/-- `_BoundStructArray.__setitem__` -/
def StructArray.setItem (firstRegister count : ℕ) (index : ℤ) (value : ℤ × ℤ) : EStateM Exc δ Unit := do
  let address ← MonadExcept.ofExcept (StructArray.getBuffer firstRegister 4 count index)
  let buf ← MonadExcept.ofExcept (packHH value)
  d.write address buf

end Struct

/-! ## The driver -/

structure PWMChannel where
  index : ℤ
deriving DecidableEq, Repr

/-- the attributes of a `PCA9685`, with the channels created so far -/
structure PCA9685 where
  channels : Vector (Option PWMChannel) 16
  referenceClockSpeed : ℤ
deriving DecidableEq, Repr

namespace PCA9685

def mode1Reg : ℕ := 0x00

def prescaleReg : ℕ := 0xFE

/-- first of the registers of the channels -/
def pwmRegs : ℕ := 0x06

/-- how often the chip counts to 4096 in a second, before the prescaler -/
def unscaled {α : Type} [Field α] (pca : PCA9685) : α := pca.referenceClockSpeed / 4096

section Transfers

variable {δ : Type} (d : Device Exc δ)

/-- what `except OSError` catches -/
def isOSError : Exc → Bool
  | .osError _ => true
  | _ => false

/-- `I2CDevice.__probe_for_device`, where a byte is read if an empty write does not go through -/
def probeForDevice : EStateM Exc δ Unit :=
  tryCatch d.writeNothing fun e =>
    if isOSError e then
      tryCatch d.readByte fun e =>
        if isOSError e then throw (.valueError "No I2C device at address: 0x40") else throw e
    else throw e

def reset : EStateM Exc δ Unit := UnaryStruct.set d mode1Reg 0x00

/-- `PCA9685(i2c)` -/
def init : EStateM Exc δ PCA9685 := do
  probeForDevice d
  reset d
  return { channels := Vector.replicate 16 none, referenceClockSpeed := 25000000 }

/-- `PCAChannels.__getitem__`: a negative index counts from the end, but is kept by the channel that is created -/
def getItem (pca : PCA9685) (index : ℤ) : Except Exc (PWMChannel × PCA9685) :=
  if -16 ≤ index ∧ index < 16 then
    let slot : Fin 16 := ⟨(index % 16).toNat, by omega⟩
    match pca.channels[slot] with
    | some channel => .ok (channel, pca)
    | none => .ok (⟨index⟩, { pca with channels := pca.channels.set slot (some ⟨index⟩) })
  else .error (.other "IndexError")

/-- the getter of `frequency` -/
def frequency {α : Type} [Field α] (pca : PCA9685) : EStateM Exc δ α := do
  let prescaleResult ← UnaryStruct.get d prescaleReg
  if prescaleResult < 3 then
    throw (.valueError "The device pre_scale register (0xFE) was not read or returned a value < 3")
  return pca.unscaled / (prescaleResult + 1)

/-- the prescaler value for a frequency -/
def prescale {α : Type} [Field α] [LinearOrder α] [FloorRing α] (pca : PCA9685) (freq : α) : ℤ :=
  pyInt (pca.unscaled / freq + 0.5) - 1

/-- the setter of `frequency` -/
def setFrequency {α : Type} [Field α] [LinearOrder α] [FloorRing α] (pca : PCA9685) (freq : α) :
    EStateM Exc δ Unit := do
  if freq = 0 then
    throw (.other "ZeroDivisionError")
  if pca.prescale freq < 3 then
    throw (.valueError "PCA9685 cannot output at the given frequency")
  let oldMode ← UnaryStruct.get d mode1Reg
  UnaryStruct.set d mode1Reg ((oldMode &&& 0x7F) ||| 0x10 : ℕ)
  UnaryStruct.set d prescaleReg (pca.prescale freq)
  UnaryStruct.set d mode1Reg oldMode
  UnaryStruct.set d mode1Reg (oldMode ||| 0xA0 : ℕ)

def deinit : EStateM Exc δ Unit := reset d

end Transfers

end PCA9685

namespace PWMChannel

open PCA9685

variable {δ : Type} (d : Device Exc δ)

/-- the getter of `duty_cycle` -/
def dutyCycle (channel : PWMChannel) : EStateM Exc δ ℕ := do
  let pwm ← StructArray.getItem d pwmRegs 16 channel.index
  if pwm.1 = 0x1000 then
    return 0xFFFF
  if pwm.2 = 0x1000 then
    return 0x0000
  return pwm.2 <<< 4

/-- the setter of `duty_cycle` -/
def setDutyCycle (channel : PWMChannel) (value : ℤ) : EStateM Exc δ Unit := do
  if ¬(0 ≤ value ∧ value ≤ 0xFFFF) then
    throw (.valueError ("Out of range: value " ++ toString value ++ " not 0 <= value <= 65,535"))
  if value = 0xFFFF then
    StructArray.setItem d pwmRegs 16 channel.index (0x1000, 0)
  else if value < 0x0010 then
    StructArray.setItem d pwmRegs 16 channel.index (0, 0x1000)
  else
    StructArray.setItem d pwmRegs 16 channel.index (0, value >>> (4 : ℕ))

end PWMChannel

end VitaminD
