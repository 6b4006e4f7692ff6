/-
Numbers extended with the special values of IEEE arithmetic: a finite value, an infinity, or NaN. Arithmetic on finite
values is exact (no rounding, no overflow); an operation on NaN gives NaN, and so do inf - inf and 0 * inf. Every
comparison with NaN is false.

- `isFinite_add`, `isFinite_sub`, `isFinite_mul`: a result is finite exactly when both operands are. What is not finite
  therefore stays so through any expression it enters;
- the order: `<` and `≤` are transitive, and `a ≤ b` says that neither is NaN.
-/
import Mathlib.Tactic

namespace VitaminD

/-- a value of α, an infinity, or NaN -/
inductive Ext (α : Type) where
  | fin (r : α)
  | posInf
  | negInf
  | nan
deriving DecidableEq, Repr

namespace Ext

variable {α : Type}

/-! ## Arithmetic -/

def IsFinite : Ext α → Prop
  | .fin _ => True
  | _ => False

instance : DecidablePred (IsFinite (α := α)) := fun a =>
  match a with
  | .fin _ => isTrue trivial
  | .posInf => isFalse id
  | .negInf => isFalse id
  | .nan => isFalse id

def neg [Neg α] : Ext α → Ext α
  | .fin a => .fin (-a)
  | .posInf => .negInf
  | .negInf => .posInf
  | .nan => .nan

def add [Add α] : Ext α → Ext α → Ext α
  | .nan, _ => .nan
  | _, .nan => .nan
  | .fin a, .fin b => .fin (a + b)
  | .posInf, .negInf => .nan
  | .negInf, .posInf => .nan
  | .posInf, _ => .posInf
  | _, .posInf => .posInf
  | .negInf, _ => .negInf
  | _, .negInf => .negInf

variable [Zero α] [LT α] [DecidableLT α]

/-- +inf times a finite value -/
def infMul (b : α) : Ext α := if 0 < b then .posInf else if b < 0 then .negInf else .nan

def mul [Mul α] [Neg α] : Ext α → Ext α → Ext α
  | .nan, _ => .nan
  | _, .nan => .nan
  | .fin a, .fin b => .fin (a * b)
  | .posInf, .fin b => infMul b
  | .fin a, .posInf => infMul a
  | .negInf, .fin b => infMul (-b)
  | .fin a, .negInf => infMul (-a)
  | .posInf, .posInf => .posInf
  | .negInf, .negInf => .posInf
  | .posInf, .negInf => .negInf
  | .negInf, .posInf => .negInf

/-- division by anything but zero -/
def div [Div α] : Ext α → Ext α → Ext α
  | .nan, _ => .nan
  | _, .nan => .nan
  | .fin a, .fin b => .fin (a / b)
  | .fin _, _ => .fin 0
  | .posInf, .fin b => if b < 0 then .negInf else .posInf
  | .negInf, .fin b => if b < 0 then .posInf else .negInf
  | _, _ => .nan

def abs [Neg α] : Ext α → Ext α
  | .fin a => .fin (if a < 0 then -a else a)
  | .posInf => .posInf
  | .negInf => .posInf
  | .nan => .nan

def ltb : Ext α → Ext α → Bool
  | .fin a, .fin b => decide (a < b)
  | .negInf, .fin _ => true
  | .negInf, .posInf => true
  | .fin _, .posInf => true
  | _, _ => false

def leb [LE α] [DecidableLE α] : Ext α → Ext α → Bool
  | .fin a, .fin b => decide (a ≤ b)
  | .negInf, .fin _ => true
  | .negInf, .posInf => true
  | .fin _, .posInf => true
  | .negInf, .negInf => true
  | .posInf, .posInf => true
  | _, _ => false

instance : Zero (Ext α) := ⟨.fin 0⟩

instance [One α] : One (Ext α) := ⟨.fin 1⟩

instance [OfNat α 2] : OfNat (Ext α) 2 := ⟨.fin 2⟩

instance [Add α] : Add (Ext α) := ⟨add⟩

instance [Neg α] : Neg (Ext α) := ⟨neg⟩

instance [Add α] [Neg α] : Sub (Ext α) := ⟨fun a b => add a (neg b)⟩

instance [Mul α] [Neg α] : Mul (Ext α) := ⟨mul⟩

instance : LT (Ext α) := ⟨fun a b => ltb a b = true⟩

instance : DecidableLT (Ext α) := fun a b => inferInstanceAs (Decidable (ltb a b = true))

instance [LE α] [DecidableLE α] : LE (Ext α) := ⟨fun a b => leb a b = true⟩

instance [LE α] [DecidableLE α] : DecidableLE (Ext α) := fun a b => inferInstanceAs (Decidable (leb a b = true))

end Ext

/-! ## Finite values -/

namespace Ext

variable {α : Type}

@[simp] theorem isFinite_fin (a : α) : IsFinite (fin a) := trivial

@[simp] theorem not_isFinite_posInf : ¬ IsFinite (posInf : Ext α) := id

@[simp] theorem not_isFinite_negInf : ¬ IsFinite (negInf : Ext α) := id

@[simp] theorem not_isFinite_nan : ¬ IsFinite (nan : Ext α) := id

section Arithmetic

variable [Field α]

@[simp] theorem zero_def : (0 : Ext α) = fin 0 := rfl

@[simp] theorem fin_add (a b : α) : fin a + fin b = fin (a + b) := rfl

@[simp] theorem fin_sub (a b : α) : fin a - fin b = fin (a - b) := by
  show fin (a + -b) = fin (a - b)
  rw [sub_eq_add_neg]

@[simp] theorem sub_nan (a : Ext α) : a - nan = nan := by cases a <;> rfl

@[simp] theorem fin_sub_posInf (a : α) : fin a - posInf = negInf := rfl

@[simp] theorem fin_sub_negInf (a : α) : fin a - negInf = posInf := rfl

/-- a sum is finite exactly when both terms are -/
theorem isFinite_add (a b : Ext α) : IsFinite (a + b) ↔ IsFinite a ∧ IsFinite b := by
  cases a <;> cases b <;> simp [HAdd.hAdd, Add.add, add]

theorem isFinite_sub (a b : Ext α) : IsFinite (a - b) ↔ IsFinite a ∧ IsFinite b := by
  cases a <;> cases b <;> simp [HSub.hSub, Sub.sub, add, neg]

variable [LinearOrder α]

@[simp] theorem fin_mul (a b : α) : fin a * fin b = fin (a * b) := rfl

@[simp] theorem nan_mul (a : Ext α) : nan * a = nan := rfl

theorem posInf_mul_fin {b : α} (hb : 0 < b) : posInf * fin b = posInf := by
  show infMul b = posInf
  rw [infMul, if_pos hb]

theorem negInf_mul_fin [IsStrictOrderedRing α] {b : α} (hb : 0 < b) : negInf * fin b = negInf := by
  show infMul (-b) = negInf
  rw [infMul, if_neg (not_lt.2 (neg_nonpos.2 hb.le)), if_pos (neg_lt_zero.2 hb)]

theorem not_isFinite_infMul (b : α) : ¬ IsFinite (infMul b) := by
  unfold infMul
  split_ifs <;> simp

/-- a product is finite exactly when both factors are, since 0 * inf is NaN -/
theorem isFinite_mul (a b : Ext α) : IsFinite (a * b) ↔ IsFinite a ∧ IsFinite b := by
  cases a <;> cases b <;> simp [HMul.hMul, Mul.mul, mul, not_isFinite_infMul]

@[simp] theorem abs_fin [IsStrictOrderedRing α] (a : α) : abs (fin a) = fin |a| := by
  show fin (if a < 0 then -a else a) = fin |a|
  split_ifs with h
  · rw [abs_of_neg h]
  · rw [abs_of_nonneg (not_lt.1 h)]

@[simp] theorem abs_posInf : abs (posInf : Ext α) = posInf := rfl

@[simp] theorem abs_negInf : abs (negInf : Ext α) = posInf := rfl

@[simp] theorem abs_nan : abs (nan : Ext α) = nan := rfl

end Arithmetic

/-! ## Order -/

section Order

variable [LinearOrder α]

@[simp] theorem fin_lt_fin (a b : α) : fin a < fin b ↔ a < b := by
  show decide (a < b) = true ↔ _
  rw [decide_eq_true_iff]

@[simp] theorem fin_le_fin (a b : α) : fin a ≤ fin b ↔ a ≤ b := by
  show decide (a ≤ b) = true ↔ _
  rw [decide_eq_true_iff]

@[simp] theorem nan_not_lt (a : Ext α) : ¬ nan < a := by cases a <;> exact Bool.false_ne_true

@[simp] theorem posInf_not_lt (a : Ext α) : ¬ posInf < a := by cases a <;> exact Bool.false_ne_true

@[simp] theorem not_lt_negInf (a : Ext α) : ¬ a < negInf := by cases a <;> exact Bool.false_ne_true

@[simp] theorem negInf_lt_fin (a : α) : negInf < fin a := rfl

theorem le_of_lt {a b : Ext α} (h : a < b) : a ≤ b := by
  cases a <;> cases b <;>
    first
      | rfl
      | exact absurd h Bool.false_ne_true
      | exact (fin_le_fin _ _).2 ((fin_lt_fin _ _).1 h).le

/-- what compares is not NaN -/
theorem le_refl_left {a b : Ext α} (h : a ≤ b) : a ≤ a := by
  cases a <;> cases b <;> first | rfl | exact absurd h Bool.false_ne_true | exact (fin_le_fin _ _).2 le_rfl

theorem le_refl_right {a b : Ext α} (h : a ≤ b) : b ≤ b := by
  cases a <;> cases b <;> first | rfl | exact absurd h Bool.false_ne_true | exact (fin_le_fin _ _).2 le_rfl

theorem le_trans {a b c : Ext α} (h : a ≤ b) (h' : b ≤ c) : a ≤ c := by
  cases a <;> cases b <;> cases c <;>
    first
      | rfl
      | exact absurd h Bool.false_ne_true
      | exact absurd h' Bool.false_ne_true
      | exact (fin_le_fin _ _).2 (((fin_le_fin _ _).1 h).trans ((fin_le_fin _ _).1 h'))

/-- between finite values there are only finite ones -/
theorem exists_fin_of_mem {a : Ext α} {lo hi : α} (hlo : fin lo ≤ a) (hhi : a ≤ fin hi) :
    ∃ r, a = fin r ∧ lo ≤ r ∧ r ≤ hi := by
  cases a with
  | fin r => exact ⟨r, rfl, (fin_le_fin lo r).1 hlo, (fin_le_fin r hi).1 hhi⟩
  | posInf => exact absurd hhi Bool.false_ne_true
  | negInf => exact absurd hlo Bool.false_ne_true
  | nan => exact absurd hlo Bool.false_ne_true

end Order

end Ext

end VitaminD
