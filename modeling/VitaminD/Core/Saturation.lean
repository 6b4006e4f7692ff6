/-
A saturated integrator: at every step the input is subtracted from the state, and the result brought back between two
limits. Over an ordered group; where inputs have to add up to more than the width of the limits, over an Archimedean
one.

- `integrate_le`, `le_integrate`, `abs_integrate_sub_le`: from within the limits, one step moves only against the sign
  of its input, and no further than its size;
- `eventually_constant`, `eventually_low`, `eventually_high`: inputs that stay 0 leave the state where it is; inputs
  that stay above some δ > 0 drive it onto the lower limit, inputs that stay below -δ onto the upper one, for good;
- `final_sat`: a whole run saturates only once. It subtracts the sum of its inputs, and brings the result between the
  two states that the same inputs lead to from the two limits;
- `stateAt_gap`: of two runs, the one that starts higher and has the smaller inputs stays higher, and no further than
  the starts and the inputs account for.
-/
import Mathlib.Tactic
import Mathlib.Algebra.Order.Archimedean.Basic
import VitaminD.Core.Machine

namespace VitaminD.Saturation

open VitaminD.Machine

/-! ## Bringing a value between two limits -/

section Order

variable {α : Type} [LinearOrder α] {lo hi : α}

def sat (lo hi a : α) : α := max lo (min hi a)

theorem le_sat (lo hi a : α) : lo ≤ sat lo hi a := le_max_left _ _

theorem sat_le (h : lo ≤ hi) (a : α) : sat lo hi a ≤ hi := max_le h (min_le_left _ _)

theorem sat_mono (lo hi : α) : Monotone (sat lo hi) := fun _ _ h => max_le_max le_rfl (min_le_min le_rfl h)

theorem sat_of_mem {a : α} (hlo : lo ≤ a) (hhi : a ≤ hi) : sat lo hi a = a := by
  rw [sat, min_eq_right hhi, max_eq_right hlo]

theorem sat_of_le {a : α} (ha : a ≤ lo) : sat lo hi a = lo := max_eq_left ((min_le_right _ _).trans ha)

theorem sat_of_ge (h : lo ≤ hi) {a : α} (ha : hi ≤ a) : sat lo hi a = hi := by
  rw [sat, min_eq_left ha, max_eq_right h]

/-- saturating twice is saturating once, between limits that are saturated themselves -/
theorem sat_sat (lo hi L U a : α) : sat lo hi (sat L U a) = sat (sat lo hi L) (sat lo hi U) a := by
  have hlow : min lo a ≤ max lo (min hi L) := (min_le_left _ _).trans (le_max_left _ _)
  calc max lo (min hi (max L (min U a)))
      = max (max lo (min hi L)) (min (min hi U) a) := by rw [min_max_distrib_left, ← max_assoc, ← min_assoc]
    _ = max (max (max lo (min hi L)) (min lo a)) (min (min hi U) a) := by rw [max_eq_left hlow]
    _ = max (max lo (min hi L)) (min (max lo (min hi U)) a) := by rw [max_assoc, ← min_max_distrib_right]

end Order

/-! ## The integrator -/

section Group

variable {α : Type} [AddCommGroup α] [LinearOrder α] [IsOrderedAddMonoid α] {lo hi : α}

/-- one step -/
def integrate (lo hi θ u : α) : Unit × α := ((), sat lo hi (θ - u))

/-- saturation brings no two values further apart -/
theorem abs_sat_sub_sat_le (lo hi a b : α) : |sat lo hi a - sat lo hi b| ≤ |a - b| := by
  calc |sat lo hi a - sat lo hi b|
      ≤ max |lo - lo| |min hi a - min hi b| := abs_max_sub_max_le_max _ _ _ _
    _ = |min hi a - min hi b| := by rw [sub_self, abs_zero, max_eq_right (abs_nonneg _)]
    _ ≤ max |hi - hi| |a - b| := abs_min_sub_min_le_max _ _ _ _
    _ = |a - b| := by rw [sub_self, abs_zero, max_eq_right (abs_nonneg _)]

theorem sat_sub_sat_le (lo hi : α) {a b : α} (h : b ≤ a) : sat lo hi a - sat lo hi b ≤ a - b := by
  calc sat lo hi a - sat lo hi b
      ≤ |sat lo hi a - sat lo hi b| := le_abs_self _
    _ ≤ |a - b| := abs_sat_sub_sat_le lo hi a b
    _ = a - b := abs_of_nonneg (sub_nonneg.2 h)

theorem sat_sub (lo hi a u : α) : sat lo hi a - u = sat (lo - u) (hi - u) (a - u) := by
  rw [sat, sat, min_sub_sub_right, max_sub_sub_right]

section Step

variable {θ u : α}

theorem integrate_le (hlo : lo ≤ θ) (hhi : θ ≤ hi) (hu : 0 ≤ u) : (integrate lo hi θ u).2 ≤ θ := by
  have h := sat_mono lo hi (sub_le_self θ hu)
  rwa [sat_of_mem hlo hhi] at h

theorem le_integrate (hlo : lo ≤ θ) (hhi : θ ≤ hi) (hu : u ≤ 0) : θ ≤ (integrate lo hi θ u).2 := by
  have h := sat_mono lo hi (show θ ≤ θ - u by simpa using hu)
  rwa [sat_of_mem hlo hhi] at h

theorem abs_integrate_sub_le (hlo : lo ≤ θ) (hhi : θ ≤ hi) : |(integrate lo hi θ u).2 - θ| ≤ |u| := by
  have h := abs_sat_sub_sat_le lo hi (θ - u) θ
  rwa [sat_of_mem hlo hhi, sub_sub_cancel_left, abs_neg] at h

end Step

/-! ## Runs -/

section Run

variable (θ : α) (u : ℕ → α)

omit [IsOrderedAddMonoid α] in
/-- inputs that stay 0 -/
theorem eventually_constant (h : lo ≤ hi) {N : ℕ} (hu : ∀ n ≥ N, u n = 0) :
    ∃ M, ∀ n ≥ M, stateAt (integrate lo hi) θ u n = stateAt (integrate lo hi) θ u M := by
  refine ⟨N + 1, fun n hn => ?_⟩
  induction n, hn using Nat.le_induction with
  | base => rfl
  | succ n hn ih =>
    obtain ⟨hlo, hhi⟩ : lo ≤ stateAt (integrate lo hi) θ u (N + 1) ∧ stateAt (integrate lo hi) θ u (N + 1) ≤ hi :=
      ⟨le_sat lo hi _, sat_le h _⟩
    rw [stateAt_succ, ih, hu n (by omega), integrate, sub_zero, sat_of_mem hlo hhi]

/-- the state falls by δ at every step, down to the lower limit -/
theorem stateAt_le_of_le {N : ℕ} {δ : α} (hu : ∀ n ≥ N, δ ≤ u n) (hδ : 0 ≤ δ) (n : ℕ) :
    stateAt (integrate lo hi) θ u (N + n) ≤ max lo (stateAt (integrate lo hi) θ u N - n • δ) := by
  induction n with
  | zero => simp
  | succ n ih =>
    rw [← Nat.add_assoc, stateAt_succ]
    have hdown : stateAt (integrate lo hi) θ u (N + n) - u (N + n) ≤
        max lo (stateAt (integrate lo hi) θ u N - (n + 1) • δ) := by
      calc stateAt (integrate lo hi) θ u (N + n) - u (N + n)
          ≤ max lo (stateAt (integrate lo hi) θ u N - n • δ) - δ := sub_le_sub ih (hu _ (Nat.le_add_right N n))
        _ = max (lo - δ) (stateAt (integrate lo hi) θ u N - n • δ - δ) := max_sub_sub_right _ _ _ |>.symm
        _ ≤ max lo (stateAt (integrate lo hi) θ u N - (n + 1) • δ) := by
          rw [succ_nsmul, sub_sub]
          exact max_le_max (sub_le_self lo hδ) le_rfl
    exact max_le (le_max_left _ _) ((min_le_right _ _).trans hdown)

/-- inputs that stay above some δ > 0 -/
theorem eventually_low [Archimedean α] {N : ℕ} {δ : α} (hδ : 0 < δ) (hu : ∀ n ≥ N, δ ≤ u n) :
    ∃ M, ∀ n ≥ M, stateAt (integrate lo hi) θ u n = lo := by
  obtain ⟨m, hm⟩ := Archimedean.arch (stateAt (integrate lo hi) θ u N - lo) hδ
  refine ⟨N + (m + 1), fun n hn => ?_⟩
  obtain ⟨i, rfl⟩ := Nat.exists_eq_add_of_le hn
  have hle : stateAt (integrate lo hi) θ u (N + (m + 1 + i)) ≤ _ := stateAt_le_of_le θ u hu hδ.le (m + 1 + i)
  have hmono : m • δ ≤ (m + 1 + i) • δ := nsmul_le_nsmul_left hδ.le (by omega)
  rw [max_eq_left (sub_le_comm.1 (hm.trans hmono)), ← Nat.add_assoc] at hle
  refine le_antisymm hle ?_
  have hidx : N + (m + 1) + i = N + m + i + 1 := by omega
  rw [hidx]
  exact le_sat lo hi _

/-- turning the axis round exchanges the limits -/
theorem sat_neg (h : lo ≤ hi) (a : α) : sat (-hi) (-lo) (-a) = -sat lo hi a := by
  rcases le_total a lo with hlo | hlo
  · rw [sat_of_le hlo, sat_of_ge (neg_le_neg h) (neg_le_neg hlo)]
  · rcases le_total a hi with hhi | hhi
    · rw [sat_of_mem hlo hhi, sat_of_mem (neg_le_neg hhi) (neg_le_neg hlo)]
    · rw [sat_of_ge h hhi, sat_of_le (neg_le_neg hhi)]

theorem tracks_neg (h : lo ≤ hi) :
    Tracks (integrate lo hi) (integrate (-hi) (-lo)) (fun _ => True) Neg.neg Neg.neg where
  inv _ _ _ := trivial
  next θ u _ := by
    simp only [integrate]
    rw [← sat_neg h, neg_sub, neg_sub_neg]

/-- inputs that stay below some -δ < 0 -/
theorem eventually_high [Archimedean α] (h : lo ≤ hi) {N : ℕ} {δ : α} (hδ : 0 < δ) (hu : ∀ n ≥ N, u n ≤ -δ) :
    ∃ M, ∀ n ≥ M, stateAt (integrate lo hi) θ u n = hi := by
  obtain ⟨M, hM⟩ : ∃ M, ∀ n ≥ M, stateAt (integrate (-hi) (-lo)) (-θ) (fun n => -u n) n = -hi :=
    eventually_low _ _ hδ fun n hn => le_neg_of_le_neg (hu n hn)
  refine ⟨M, fun n hn => ?_⟩
  have hneg : -stateAt (integrate lo hi) θ u n = _ := (tracks_neg h).stateAt trivial u n
  rw [hM n hn] at hneg
  exact neg_inj.1 hneg

end Run

/-! ## A run saturates once -/

/-- a start that is itself saturated -/
theorem final_sat (L U a : α) (us : List α) :
    final (integrate lo hi) (sat L U a) us =
      sat (final (integrate lo hi) L us) (final (integrate lo hi) U us) (a - us.sum) := by
  induction us generalizing L U a with
  | nil => simp
  | cons u us ih =>
    have hstep : (integrate lo hi (sat L U a) u).2 =
        sat (integrate lo hi L u).2 (integrate lo hi U u).2 (a - u) := by
      simp only [integrate]
      rw [sat_sub, sat_sat]
    rw [final_cons, hstep, ih, List.sum_cons, sub_sub, final_cons, final_cons]

omit [IsOrderedAddMonoid α] in
theorem final_mem (h : lo ≤ hi) {θ : α} (hlo : lo ≤ θ) (hhi : θ ≤ hi) (us : List α) :
    lo ≤ final (integrate lo hi) θ us ∧ final (integrate lo hi) θ us ≤ hi :=
  final_inv (integrate lo hi) (fun θ => lo ≤ θ ∧ θ ≤ hi) (fun _ => True) (fun _ _ _ _ => ⟨le_sat lo hi _, sat_le h _⟩)
    θ us ⟨hlo, hhi⟩ (fun _ _ => trivial)

theorem final_mono (us : List α) : Monotone fun θ => final (integrate lo hi) θ us := by
  induction us with
  | nil => exact monotone_id
  | cons u us ih => exact fun θ θ' h => ih (sat_mono lo hi (sub_le_sub_right h u))

/-- **A run is one saturated step.** The limits of that step depend on the inputs alone. -/
theorem final_eq_sat (h : lo ≤ hi) {us : List α} (hus : us ≠ []) :
    ∃ L U, lo ≤ L ∧ L ≤ U ∧ U ≤ hi ∧ ∀ θ, final (integrate lo hi) θ us = sat L U (θ - us.sum) := by
  obtain ⟨u, us, rfl⟩ := List.exists_cons_of_ne_nil hus
  -- the first step saturates whatever start there is; from then on the two stops are runs of their own
  refine ⟨final (integrate lo hi) lo us, final (integrate lo hi) hi us, (final_mem h le_rfl h us).1,
    final_mono us h, (final_mem h h le_rfl us).2, ?_⟩
  intro θ
  rw [final_cons, integrate, final_sat, List.sum_cons, sub_sub]

/-! ## Two runs -/

section Gap

variable (lo hi : α) {θ θ' : α}

/-- one step of each -/
theorem integrate_gap {u u' : α} (hθ : θ' ≤ θ) (hu : u ≤ u') :
    (integrate lo hi θ' u').2 ≤ (integrate lo hi θ u).2 ∧
      (integrate lo hi θ u).2 - (integrate lo hi θ' u').2 ≤ θ - θ' + (u' - u) := by
  have hle : θ' - u' ≤ θ - u := sub_le_sub hθ hu
  refine ⟨sat_mono lo hi hle, ?_⟩
  calc sat lo hi (θ - u) - sat lo hi (θ' - u')
      ≤ θ - u - (θ' - u') := sat_sub_sat_le lo hi hle
    _ = θ - θ' + (u' - u) := by abel

theorem stateAt_gap (hθ : θ' ≤ θ) (u u' : ℕ → α) (n : ℕ) (hu : ∀ i < n, u i ≤ u' i) :
    stateAt (integrate lo hi) θ' u' n ≤ stateAt (integrate lo hi) θ u n ∧
      stateAt (integrate lo hi) θ u n - stateAt (integrate lo hi) θ' u' n ≤
        θ - θ' + ∑ i ∈ Finset.range n, (u' i - u i) := by
  induction n with
  | zero => simpa using hθ
  | succ n ih =>
    obtain ⟨hle, hgap⟩ := ih (fun i hi => hu i (Nat.lt_succ_of_lt hi))
    obtain ⟨hle', hgap'⟩ := integrate_gap lo hi hle (hu n (Nat.lt_succ_self n))
    refine ⟨hle', ?_⟩
    rw [Finset.sum_range_succ, ← add_assoc]
    exact hgap'.trans (add_le_add_left hgap _)

end Gap

end Group

end VitaminD.Saturation
