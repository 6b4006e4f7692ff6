/-
Linear machines: states and outputs are modules over the ring that the inputs come from, and a step respects sums and
multiples of a state and an input taken together. An exponential smoother is one; so is every recursive digital filter
once its memory starts at zero.

- `outAt_add_add`: superposition, from any two starts;
- `outAt_delay`: time invariance, from the zero state;
- `outAt_eq_sum`: from the zero state the outputs are the convolution of the input with the response to the impulse
  1, 0, 0, ...
-/
import VitaminD.Core.Machine

namespace VitaminD.Machine

open Finset

/-- the input that is 1 at the sample m and 0 at every other -/
def impulse {R : Type} [Zero R] [One R] (m : ℕ) : ℕ → R := fun n => if n = m then 1 else 0

theorem impulse_self {R : Type} [Zero R] [One R] (m : ℕ) : (impulse m : ℕ → R) m = 1 := if_pos rfl

theorem impulse_of_ne {R : Type} [Zero R] [One R] {m n : ℕ} (h : n ≠ m) : (impulse m : ℕ → R) n = 0 := if_neg h

variable {R M N : Type} [Semiring R] [AddCommMonoid M] [AddCommMonoid N] [Module R M] [Module R N]

structure Linear (step : M → R → N × M) : Prop where
  add : ∀ s t x y, step (s + t) (x + y) = step s x + step t y
  smul : ∀ c s x, step (c • s) (c * x) = c • step s x

namespace Linear

variable {step : M → R → N × M}

/-! ## One step -/

theorem zero (h : Linear step) : step 0 0 = 0 := by
  have hzero := h.smul 0 0 0
  rwa [zero_smul, zero_smul, mul_zero] at hzero

/-- what the state does, and what the input does -/
theorem split (h : Linear step) (s : M) (x : R) : step s x = step s 0 + x • step 0 1 := by
  rw [← h.smul, smul_zero, mul_one, ← h.add, add_zero, zero_add]

/-- the step on a silent input, as a linear map -/
def silent (h : Linear step) : M →ₗ[R] N × M where
  toFun s := step s 0
  map_add' s t := by rw [← h.add, add_zero]
  map_smul' c s := by rw [RingHom.id_apply, ← h.smul, mul_zero]

theorem silent_apply (h : Linear step) (s : M) : h.silent s = step s 0 := rfl

/-! ## Superposition and delay -/

theorem stateAt_add_add (h : Linear step) (s t : M) (x y : ℕ → R) (n : ℕ) :
    stateAt step (s + t) (fun i => x i + y i) n = stateAt step s x n + stateAt step t y n := by
  induction n with
  | zero => rfl
  | succ n ih => rw [stateAt_succ, ih, h.add, Prod.snd_add, stateAt_succ, stateAt_succ]

theorem outAt_add_add (h : Linear step) (s t : M) (x y : ℕ → R) (n : ℕ) :
    outAt step (s + t) (fun i => x i + y i) n = outAt step s x n + outAt step t y n := by
  simp only [outAt]
  rw [h.stateAt_add_add, h.add, Prod.fst_add]

/-- an input that has been silent leaves the zero state -/
theorem stateAt_silent (h : Linear step) (x : ℕ → R) (m : ℕ) (hx : ∀ i < m, x i = 0) : stateAt step 0 x m = 0 := by
  refine stateAt_inv step (fun s => s = 0) (fun u => u = 0) ?_ 0 x rfl m hx
  intro s u hs hu
  rw [hs, hu, h.zero, Prod.snd_zero]

/-- an input that starts late is answered late -/
theorem outAt_delay (h : Linear step) (x : ℕ → R) (m : ℕ) (hx : ∀ i < m, x i = 0) (n : ℕ) :
    outAt step 0 x (m + n) = outAt step 0 (fun i => x (m + i)) n := by
  rw [outAt_add, h.stateAt_silent x m hx]

/-! ## Convolution -/

/-- the answer to the sample n collects what the samples before it left, each by the impulse it was -/
theorem step_eq_sum (h : Linear step) (x : ℕ → R) (n : ℕ) :
    step (stateAt step 0 x n) (x n) =
      ∑ j ∈ range (n + 1), x (n - j) • step (stateAt step 0 (impulse 0) j) (impulse 0 j) := by
  induction n with
  | zero => simpa [h.zero, impulse_self] using h.split 0 (x 0)
  | succ n ih =>
    have hpast : step (stateAt step 0 x (n + 1)) 0 = ∑ j ∈ range (n + 1),
        x (n - j) • step (stateAt step 0 (impulse 0) (j + 1)) (impulse 0 (j + 1)) := by
      rw [stateAt_succ, ih, Prod.snd_sum, ← h.silent_apply, map_sum]
      refine sum_congr rfl ?_
      intro j _
      rw [Prod.smul_snd, map_smul, h.silent_apply, stateAt_succ, impulse_of_ne (Nat.succ_ne_zero j)]
    rw [h.split, hpast, sum_range_succ' _ (n + 1)]
    simp [impulse_self]

/-- **Convolution.** -/
theorem outAt_eq_sum (h : Linear step) (x : ℕ → R) (n : ℕ) :
    outAt step 0 x n = ∑ j ∈ range (n + 1), x (n - j) • outAt step 0 (impulse 0) j := by
  rw [outAt, h.step_eq_sum x n, Prod.fst_sum]
  rfl

end Linear

end VitaminD.Machine
