/-
Systems of parties that take turns: `step s a` is the state after the action `a`, `none` where `a` is not possible. A
schedule is a list of actions, in whatever order the parties happen to take them.

- `run_inv`: what every step preserves, every schedule preserves;
- `Reaches`: a schedule of some of the actions leads from one state to another;
- `run_since`: a condition that steps of one kind set and steps of another kind clear holds after a schedule exactly if
  it was set somewhere and has not been cleared since.
-/
import Mathlib.Tactic

namespace VitaminD.Transitions

variable {σ θ : Type} {step : σ → θ → Option σ} {s t : σ}

/-- the state after a schedule, `none` if one of its actions is not possible where it stands -/
def run (step : σ → θ → Option σ) (s : σ) (acts : List θ) : Option σ := acts.foldlM step s

@[simp] theorem run_nil (step : σ → θ → Option σ) (s : σ) : run step s [] = some s := rfl

theorem run_cons {a : θ} {acts : List θ} :
    run step s (a :: acts) = some t ↔ ∃ u, step s a = some u ∧ run step u acts = some t := by
  simp [run, List.foldlM_cons, Option.bind_eq_some_iff]

theorem run_append {acts₁ acts₂ : List θ} :
    run step s (acts₁ ++ acts₂) = some t ↔ ∃ u, run step s acts₁ = some u ∧ run step u acts₂ = some t := by
  simp [run, List.foldlM_append, Option.bind_eq_some_iff]

theorem run_snoc {acts : List θ} {a : θ} :
    run step s (acts ++ [a]) = some t ↔ ∃ u, run step s acts = some u ∧ step u a = some t := by
  simp [run_append, run_cons]

/-- **What every step preserves, every schedule preserves.** -/
theorem run_inv {I : σ → Prop} (hstep : ∀ s a t, I s → step s a = some t → I t) {acts : List θ} (hs : I s)
    (hrun : run step s acts = some t) : I t := by
  induction acts generalizing s with
  | nil => exact Option.some_inj.1 hrun ▸ hs
  | cons a acts ih =>
    obtain ⟨u, hu, hrun⟩ := run_cons.1 hrun
    exact ih (hstep s a u hs hu) hrun

/-! ## What some of the actions can bring about -/

/-- a schedule of allowed actions leads from the one state to the other -/
def Reaches (step : σ → θ → Option σ) (allowed : θ → Prop) (s t : σ) : Prop :=
  ∃ acts, (∀ a ∈ acts, allowed a) ∧ run step s acts = some t

variable {allowed : θ → Prop}

theorem Reaches.refl (s : σ) : Reaches step allowed s s := ⟨[], by simp, rfl⟩

theorem Reaches.single {a : θ} (h : step s a = some t) (ha : allowed a) : Reaches step allowed s t :=
  ⟨[a], by simpa using ha, run_cons.2 ⟨t, h, rfl⟩⟩

theorem Reaches.trans {u : σ} (h₁ : Reaches step allowed s t) (h₂ : Reaches step allowed t u) :
    Reaches step allowed s u := by
  obtain ⟨acts₁, hallowed₁, hrun₁⟩ := h₁
  obtain ⟨acts₂, hallowed₂, hrun₂⟩ := h₂
  exact ⟨acts₁ ++ acts₂, List.forall_mem_append.2 ⟨hallowed₁, hallowed₂⟩, run_append.2 ⟨t, hrun₁, hrun₂⟩⟩

/-- what the allowed steps preserve -/
theorem Reaches.keeps {I : σ → Prop} (h : Reaches step allowed s t)
    (hstep : ∀ s a t, allowed a → I s → step s a = some t → I t) (hs : I s) : I t := by
  obtain ⟨acts, hallowed, hrun⟩ := h
  induction acts generalizing s with
  | nil => exact Option.some_inj.1 hrun ▸ hs
  | cons a acts ih =>
    obtain ⟨u, hu, hrun⟩ := run_cons.1 hrun
    rw [List.forall_mem_cons] at hallowed
    exact ih (hstep s a u hallowed.1 hs hu) hallowed.2 hrun

/-! ## Conditions that are set and cleared -/

/-- a step that sets a condition, from a state that the schedule passes through, with no step clearing it after -/
def Since (step : σ → θ → Option σ) (sets : σ → θ → Prop) (clears : θ → Prop) (s : σ) (acts : List θ) : Prop :=
  ∃ pre a post u, acts = pre ++ a :: post ∧ run step s pre = some u ∧ sets u a ∧ ∀ b ∈ post, ¬clears b

variable {sets : σ → θ → Prop} {clears : θ → Prop} {acts : List θ} {a : θ}

theorem since_nil : ¬Since step sets clears s [] := by
  rintro ⟨pre, a, post, -, hacts, -⟩
  cases pre <;> cases hacts

theorem since_snoc (hrun : run step s acts = some t) :
    Since step sets clears s (acts ++ [a]) ↔ sets t a ∨ Since step sets clears s acts ∧ ¬clears a := by
  constructor
  · intro ⟨pre, b, post, u, hacts, hpre, hsets, hpost⟩
    rcases List.eq_nil_or_concat post with rfl | ⟨post, c, rfl⟩
    · obtain ⟨rfl, rfl⟩ : acts = pre ∧ a = b := by simpa using hacts
      have htu : t = u := Option.some_inj.1 (hrun.symm.trans hpre)
      exact Or.inl (htu ▸ hsets)
    · obtain ⟨rfl, rfl⟩ : acts = pre ++ b :: post ∧ a = c := by
        have h : acts ++ [a] = (pre ++ b :: post) ++ [c] := by simpa using hacts
        simpa using List.append_inj' h rfl
      refine Or.inr ⟨⟨pre, b, post, u, rfl, hpre, hsets, fun d hd => hpost d ?_⟩, hpost a ?_⟩
      · simp [hd]
      · simp
  · rintro (hsets | ⟨⟨pre, b, post, u, rfl, hpre, hsets, hpost⟩, hclears⟩)
    · exact ⟨acts, a, [], t, rfl, hrun, hsets, by simp⟩
    · refine ⟨pre, b, post ++ [a], u, by simp, hpre, hsets, fun d hd => ?_⟩
      rcases List.mem_append.1 hd with hd | hd
      · exact hpost d hd
      · exact List.mem_singleton.1 hd ▸ hclears

/-- **Set and not cleared since.** -/
theorem run_since {I B : σ → Prop} (hinv : ∀ s a t, I s → step s a = some t → I t)
    (hstep : ∀ s a t, I s → step s a = some t → (B t ↔ sets s a ∨ B s ∧ ¬clears a)) (hs : I s) (hB : ¬B s)
    (hrun : run step s acts = some t) : B t ↔ Since step sets clears s acts := by
  induction acts using List.reverseRecOn generalizing t with
  | nil => exact iff_of_false (Option.some_inj.1 hrun ▸ hB) since_nil
  | append_singleton acts a ih =>
    obtain ⟨u, hu, hlast⟩ := run_snoc.1 hrun
    rw [hstep u a t (run_inv hinv hs hu) hlast, since_snoc hu, ih hu]

end VitaminD.Transitions
