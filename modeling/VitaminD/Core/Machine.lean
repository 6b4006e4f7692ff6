/-
Machines that answer every input with an output and a next state: the setting in which the filter, the servo
controller and the two nodes connected by a topic are all run.

A machine is its step function `σ → ι → ο × σ`. It is run on a finite input (`final`, `outputs`) or on an unending
one (`stateAt`, `outAt`); the two agree (`stateAt_eq_final`).

Rules:
- `final_inv`, `outputs_inv`: what one step preserves, a whole run preserves, and every output of the run has what
  one step gives its output;
- `Tracks`: a second machine tracks the first through an abstraction of the states and a translation of the inputs, as
  long as an invariant of the first holds. One step (`inv`, `next`) gives every run (`Tracks.final`, `Tracks.stateAt`);
- `Refines`, `Contains`: with the outputs of the first read off those of the second, or the other way round.
-/
import Mathlib.Tactic

namespace VitaminD.Machine

variable {σ σ' ι ι' ο ο' : Type}

/-! ## Runs -/

/-- the state after a finite input -/
def final (step : σ → ι → ο × σ) (s : σ) (xs : List ι) : σ := xs.foldl (fun s x => (step s x).2) s

/-- the outputs of a finite input, in order -/
def outputs (step : σ → ι → ο × σ) : σ → List ι → List ο
  | _, [] => []
  | s, x :: xs => (step s x).1 :: outputs step (step s x).2 xs

/-- the state before the n-th sample of an unending input -/
def stateAt (step : σ → ι → ο × σ) (s : σ) (x : ℕ → ι) : ℕ → σ
  | 0 => s
  | n + 1 => (step (stateAt step s x n) (x n)).2

/-- the output on the n-th sample of an unending input -/
def outAt (step : σ → ι → ο × σ) (s : σ) (x : ℕ → ι) (n : ℕ) : ο := (step (stateAt step s x n) (x n)).1

variable (step : σ → ι → ο × σ)

@[simp] theorem final_nil (s : σ) : final step s [] = s := rfl

@[simp] theorem final_cons (s : σ) (x : ι) (xs : List ι) :
    final step s (x :: xs) = final step (step s x).2 xs := rfl

theorem final_append (s : σ) (xs ys : List ι) :
    final step s (xs ++ ys) = final step (final step s xs) ys := by
  simp [final, List.foldl_append]

@[simp] theorem stateAt_zero (s : σ) (x : ℕ → ι) : stateAt step s x 0 = s := rfl

theorem stateAt_succ (s : σ) (x : ℕ → ι) (n : ℕ) :
    stateAt step s x (n + 1) = (step (stateAt step s x n) (x n)).2 := rfl

/-- an unending run passes through the states of its finite parts -/
theorem stateAt_eq_final (s : σ) (x : ℕ → ι) (n : ℕ) :
    stateAt step s x n = final step s ((List.range n).map x) := by
  induction n with
  | zero => rfl
  | succ n ih => rw [stateAt_succ, ih, List.range_succ, List.map_append, final_append]; rfl

/-- the run from step m on is the run, from the state reached, on the rest of the input -/
theorem stateAt_add (s : σ) (x : ℕ → ι) (m n : ℕ) :
    stateAt step s x (m + n) = stateAt step (stateAt step s x m) (fun i => x (m + i)) n := by
  induction n with
  | zero => rfl
  | succ n ih => rw [← Nat.add_assoc, stateAt_succ, stateAt_succ, ih]

theorem outAt_add (s : σ) (x : ℕ → ι) (m n : ℕ) :
    outAt step s x (m + n) = outAt step (stateAt step s x m) (fun i => x (m + i)) n := by
  simp only [outAt, stateAt_add]

/-- two starts whose first step agrees differ only in name -/
theorem stateAt_congr_first (s t : σ) (x : ℕ → ι) (h : step s (x 0) = step t (x 0)) (n : ℕ) :
    stateAt step s x (n + 1) = stateAt step t x (n + 1) := by
  rw [Nat.add_comm, stateAt_add, stateAt_add, stateAt_succ, stateAt_succ, stateAt_zero, stateAt_zero, h]

theorem outAt_congr_first (s t : σ) (x : ℕ → ι) (h : step s (x 0) = step t (x 0)) (n : ℕ) :
    outAt step s x n = outAt step t x n := by
  cases n with
  | zero => simp only [outAt, stateAt_zero, h]
  | succ n => simp only [outAt, stateAt_congr_first step s t x h]

/-! ## Invariants -/

/-- what one step preserves, under inputs that satisfy Q, every run preserves -/
theorem final_inv (P : σ → Prop) (Q : ι → Prop) (hstep : ∀ s x, P s → Q x → P (step s x).2) (s : σ) (xs : List ι)
    (hs : P s) (hxs : ∀ x ∈ xs, Q x) : P (final step s xs) := by
  induction xs generalizing s with
  | nil => exact hs
  | cons x xs ih =>
    exact ih _ (hstep s x hs (hxs x List.mem_cons_self)) (fun y hy => hxs y (List.mem_cons_of_mem x hy))

theorem stateAt_inv (P : σ → Prop) (Q : ι → Prop) (hstep : ∀ s x, P s → Q x → P (step s x).2) (s : σ) (x : ℕ → ι)
    (hs : P s) (n : ℕ) (hx : ∀ i < n, Q (x i)) : P (stateAt step s x n) := by
  rw [stateAt_eq_final]
  exact final_inv step P Q hstep s _ hs (by simpa using hx)

/-- every output of a run has what one step from an invariant state gives its output -/
theorem outputs_inv (P : σ → Prop) (Q : ι → Prop) (R : ο → Prop) (hstep : ∀ s x, P s → Q x → P (step s x).2)
    (hout : ∀ s x, P s → Q x → R (step s x).1) (s : σ) (xs : List ι) (hs : P s) (hxs : ∀ x ∈ xs, Q x) :
    ∀ y ∈ outputs step s xs, R y := by
  induction xs generalizing s with
  | nil => intro y hy; simp [outputs] at hy
  | cons x xs ih =>
    have hx := hxs x List.mem_cons_self
    intro y hy
    rcases List.mem_cons.1 hy with rfl | hy
    · exact hout s x hs hx
    · exact ih _ (hstep s x hs hx) (fun z hz => hxs z (List.mem_cons_of_mem x hz)) y hy

/-! ## Refinement -/

/-- `step'` tracks `step`: from a state with P, one step of `step` keeps P, and its next state abstracts to the next
state of `step'` -/
structure Tracks (step : σ → ι → ο × σ) (step' : σ' → ι' → ο' × σ') (P : σ → Prop) (abs : σ → σ') (inp : ι → ι') :
    Prop where
  inv : ∀ s x, P s → P (step s x).2
  next : ∀ s x, P s → abs (step s x).2 = (step' (abs s) (inp x)).2

/-- the outputs of `step` are read off the outputs of `step'` -/
structure Refines (step : σ → ι → ο × σ) (step' : σ' → ι' → ο' × σ') (P : σ → Prop) (abs : σ → σ') (inp : ι → ι')
    (rd : ο' → ο) : Prop extends Tracks step step' P abs inp where
  out : ∀ s x, P s → (step s x).1 = rd (step' (abs s) (inp x)).1

/-- `step'` is a part of `step`, whose outputs show in those of `step` -/
structure Contains (step : σ → ι → ο × σ) (step' : σ' → ι' → ο' × σ') (P : σ → Prop) (part : σ → σ') (inp : ι → ι')
    (obs : ο → ο') : Prop extends Tracks step step' P part inp where
  out : ∀ s x, P s → obs (step s x).1 = (step' (part s) (inp x)).1

section Refinement

variable {step : σ → ι → ο × σ} {step' : σ' → ι' → ο' × σ'} {P : σ → Prop} {abs : σ → σ'} {inp : ι → ι'}

namespace Tracks

theorem final (h : Tracks step step' P abs inp) {s : σ} (hs : P s) (xs : List ι) :
    abs (Machine.final step s xs) = Machine.final step' (abs s) (xs.map inp) := by
  induction xs generalizing s with
  | nil => rfl
  | cons x xs ih => rw [List.map_cons, final_cons, final_cons, ih (h.inv s x hs), h.next s x hs]

theorem final_inv (h : Tracks step step' P abs inp) {s : σ} (hs : P s) (xs : List ι) :
    P (Machine.final step s xs) :=
  Machine.final_inv step P (fun _ => True) (fun s x hs _ => h.inv s x hs) s xs hs (fun _ _ => trivial)

theorem stateAt (h : Tracks step step' P abs inp) {s : σ} (hs : P s) (x : ℕ → ι) (n : ℕ) :
    abs (Machine.stateAt step s x n) = Machine.stateAt step' (abs s) (fun i => inp (x i)) n := by
  rw [stateAt_eq_final, stateAt_eq_final, h.final hs, List.map_map]
  rfl

theorem stateAt_inv (h : Tracks step step' P abs inp) {s : σ} (hs : P s) (x : ℕ → ι) (n : ℕ) :
    P (Machine.stateAt step s x n) := by
  rw [stateAt_eq_final]
  exact h.final_inv hs _

end Tracks

namespace Refines

variable {rd : ο' → ο}

theorem outputs (h : Refines step step' P abs inp rd) {s : σ} (hs : P s) (xs : List ι) :
    Machine.outputs step s xs = (Machine.outputs step' (abs s) (xs.map inp)).map rd := by
  induction xs generalizing s with
  | nil => rfl
  | cons x xs ih =>
    simp only [Machine.outputs, List.map_cons]
    rw [h.out s x hs, ih (h.inv s x hs), h.next s x hs]

theorem outAt (h : Refines step step' P abs inp rd) {s : σ} (hs : P s) (x : ℕ → ι) (n : ℕ) :
    Machine.outAt step s x n = rd (Machine.outAt step' (abs s) (fun i => inp (x i)) n) := by
  simp only [Machine.outAt]
  rw [h.out _ _ (h.stateAt_inv hs x n), h.stateAt hs]

end Refines

theorem Contains.outAt {obs : ο → ο'} (h : Contains step step' P abs inp obs) {s : σ} (hs : P s) (x : ℕ → ι) (n : ℕ) :
    obs (Machine.outAt step s x n) = Machine.outAt step' (abs s) (fun i => inp (x i)) n := by
  simp only [Machine.outAt]
  rw [h.out _ _ (h.stateAt_inv hs x n), h.stateAt hs]

end Refinement

end VitaminD.Machine
