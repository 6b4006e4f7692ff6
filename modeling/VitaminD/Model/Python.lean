/-
The parts of Python that both nodes rest on: the built-ins `min`, `max` and `abs`, division and the `math` module with
the exceptions they raise, and the message type of the two topics. The number type is a parameter: the nodes are run on
the reals, and on the reals extended with the special values of IEEE arithmetic.
-/
import Mathlib.Analysis.SpecialFunctions.Trigonometric.Basic
import VitaminD.Core.Extended
import VitaminD.Core.Numerals

namespace VitaminD

/-- `max(a, b)`: the second argument only if it compares greater, as the interpreter does -/
def pyMax {α : Type} [LT α] [DecidableLT α] (a b : α) : α := if a < b then b else a

/-- `min(a, b)`: the second argument only if it compares smaller -/
def pyMin {α : Type} [LT α] [DecidableLT α] (a b : α) : α := if b < a then b else a

/-- number types with the built-in `abs` -/
class PyAbs (α : Type) where
  pyAbs : α → α

export PyAbs (pyAbs)

/-- the exceptions the nodes and the driver raise or catch, with their texts -/
inductive Exc where
  | keyboardInterrupt
  | valueError (text : String)
  | runtimeError (text : String)
  /-- an `OSError`, under the name of its class, which may be one derived from it -/
  | osError (name : String)
  | other (name : String)
deriving DecidableEq, Repr

/-- computations in a row return if each does -/
theorem except_bind_ok {α β : Type} {x : Except Exc α} {f : α → Except Exc β} {b : β} :
    (x >>= f) = .ok b ↔ ∃ a, x = .ok a ∧ f a = .ok b := by
  cases x <;> simp [bind, Except.bind]

/-- number types with division and what the filter takes from `math`, either of which may raise -/
class PyMath (α : Type) where
  div : α → α → Except Exc α
  pi : α
  tan : α → Except Exc α
  sqrt : α → Except Exc α

def zeroDivisionError : Exc := .other "ZeroDivisionError"

def mathDomainError : Exc := .valueError "math domain error"

noncomputable instance : PyAbs ℝ := ⟨fun x => |x|⟩

noncomputable instance : PyMath ℝ where
  div a b := if b = 0 then .error zeroDivisionError else .ok (a / b)
  pi := Real.pi
  tan x := .ok (Real.tan x)
  sqrt x := if x < 0 then .error mathDomainError else .ok √x

noncomputable instance : PyMath (Ext ℝ) where
  div a b := if b = .fin 0 then .error zeroDivisionError else .ok (a.div b)
  pi := .fin Real.pi
  tan
    | .fin x => .ok (.fin (Real.tan x))
    | .nan => .ok .nan
    | _ => .error mathDomainError
  sqrt
    | .fin x => if x < 0 then .error mathDomainError else .ok (.fin √x)
    | .negInf => .error mathDomainError
    | x => .ok x

instance : PyAbs ℚ := ⟨fun x => |x|⟩

instance {α : Type} [Zero α] [LT α] [DecidableLT α] [Neg α] : PyAbs (Ext α) := ⟨Ext.abs⟩

theorem pyMax_eq_max {α : Type} [LinearOrder α] (a b : α) : pyMax a b = max a b := by
  unfold pyMax
  split_ifs with h
  · exact (max_eq_right h.le).symm
  · exact (max_eq_left (not_lt.1 h)).symm

theorem pyMin_eq_min {α : Type} [LinearOrder α] (a b : α) : pyMin a b = min a b := by
  unfold pyMin
  split_ifs with h
  · exact (min_eq_right h.le).symm
  · exact (min_eq_left (not_lt.1 h)).symm

namespace Ext

variable {α : Type} [LinearOrder α]

@[simp] theorem pyMin_fin (a b : α) : pyMin (fin a) (fin b) = fin (pyMin a b) := by
  simp only [pyMin, fin_lt_fin]
  split_ifs <;> rfl

@[simp] theorem pyMax_fin (a b : α) : pyMax (fin a) (fin b) = fin (pyMax a b) := by
  simp only [pyMax, fin_lt_fin]
  split_ifs <;> rfl

@[simp] theorem pyMin_posInf (a : Ext α) : pyMin a posInf = a := if_neg (posInf_not_lt a)

@[simp] theorem pyMin_fin_negInf (a : α) : pyMin (fin a) negInf = negInf := if_pos (negInf_lt_fin a)

@[simp] theorem pyMax_negInf (a : Ext α) : pyMax a negInf = a := if_neg (not_lt_negInf a)

/-- NaN as the second argument is passed over -/
@[simp] theorem pyMin_nan (a : Ext α) : pyMin a nan = a := if_neg (nan_not_lt a)

example : pyMin (fin (160 : ℚ)) nan = fin 160 ∧ pyMin nan (fin (160 : ℚ)) = nan := by decide

/-- limits that compare with each other bound whatever `max(lo, min(hi, v))` is given, NaN included -/
theorem clamp_mem {lo hi : Ext α} (h : lo ≤ hi) (v : Ext α) :
    lo ≤ pyMax lo (pyMin hi v) ∧ pyMax lo (pyMin hi v) ≤ hi := by
  have hmin : pyMin hi v ≤ hi := by
    unfold pyMin
    split_ifs with hv
    · exact le_of_lt hv
    · exact le_refl_right h
  unfold pyMax
  split_ifs with hm
  · exact ⟨le_of_lt hm, hmin⟩
  · exact ⟨le_refl_left h, h⟩

end Ext

/-- geometry_msgs/Vector3 -/
structure Vector3 (α : Type) where
  x : α
  y : α
  z : α
deriving DecidableEq, Repr

end VitaminD
