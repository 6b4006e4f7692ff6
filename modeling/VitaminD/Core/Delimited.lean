/-
Texts that a delimiter cuts into pieces. The delimiter is `c :: ds`: its first symbol and the rest.

- `complete`: the pieces of a text that a delimiter ends, which is all that can be told while the text is still coming;
- `complete_mono`: what is complete stays complete as the text goes on;
- `complete_append`: where `c` does not occur in `ds`, a piece without the delimiter is read back as it was written;
- `not_isInfix_of_mem_complete`: what is read never has the delimiter in it.
-/
import Mathlib.Tactic

namespace VitaminD.Delimited

variable {α : Type} [DecidableEq α] {c : α} {ds l l' p s : List α}

theorem dropInfix_iff : l.dropInfix? (c :: ds) = some (p, s) ↔
    l = p ++ (c :: ds) ++ s ∧ ∀ p' s', l = p' ++ (c :: ds) ++ s' → p.length ≤ p'.length := by
  rw [List.dropInfix?_eq_some_iff]
  simp only [beq_iff_eq]
  constructor
  · rintro ⟨⟨i, hl, rfl⟩, hfirst⟩
    exact ⟨hl, fun p' s' h => hfirst p' _ s' h rfl⟩
  · intro ⟨hl, hfirst⟩
    exact ⟨⟨_, hl, rfl⟩, fun p' i s' h hi => hfirst p' s' (hi ▸ h)⟩

theorem length_lt_of_dropInfix (h : l.dropInfix? (c :: ds) = some (p, s)) : s.length < l.length := by
  rw [(dropInfix_iff.1 h).1]
  simp only [List.length_append, List.length_cons]
  omega

/-- the text between the delimiters -/
def pieces (c : α) (ds l : List α) : List (List α) :=
  match _h : l.dropInfix? (c :: ds) with
  | none => [l]
  | some (p, s) => p :: pieces c ds s
termination_by l.length
decreasing_by exact length_lt_of_dropInfix _h

theorem pieces_of_none (h : l.dropInfix? (c :: ds) = none) : pieces c ds l = [l] := by
  rw [pieces]
  split
  · rfl
  · simp_all

theorem pieces_of_some (h : l.dropInfix? (c :: ds) = some (p, s)) : pieces c ds l = p :: pieces c ds s := by
  rw [pieces]
  split <;> simp_all

theorem pieces_ne_nil : pieces c ds l ≠ [] := by
  cases h : l.dropInfix? (c :: ds) with
  | none => simp [pieces_of_none h]
  | some r => simp [pieces_of_some (p := r.1) (s := r.2) h]

/-- the pieces that a delimiter ends -/
def complete (c : α) (ds l : List α) : List (List α) := (pieces c ds l).dropLast

theorem complete_of_none (h : l.dropInfix? (c :: ds) = none) : complete c ds l = [] := by
  simp [complete, pieces_of_none h]

theorem complete_of_some (h : l.dropInfix? (c :: ds) = some (p, s)) : complete c ds l = p :: complete c ds s := by
  rw [complete, pieces_of_some h, List.dropLast_cons_of_ne_nil pieces_ne_nil, complete]

@[simp] theorem complete_nil : complete c ds [] = [] := complete_of_none rfl

theorem complete_of_not_isInfix (h : ¬(c :: ds) <:+: l) : complete c ds l = [] := by
  cases hdrop : l.dropInfix? (c :: ds) with
  | none => exact complete_of_none hdrop
  | some r => exact absurd ⟨r.1, r.2, (dropInfix_iff.1 hdrop).1.symm⟩ h

/-- the text is read from the left, one piece at a time -/
theorem complete_induction (c : α) (ds : List α) {P : List α → Prop} (none : ∀ l, l.dropInfix? (c :: ds) = none → P l)
    (some : ∀ l p s, l.dropInfix? (c :: ds) = some (p, s) → P s → P l) (l : List α) : P l := by
  induction hn : l.length using Nat.strong_induction_on generalizing l with
  | _ n ih =>
    cases h : l.dropInfix? (c :: ds) with
    | none => exact none l h
    | some r => exact some l r.1 r.2 h (ih _ (hn ▸ length_lt_of_dropInfix h) r.2 rfl)

/-- an early delimiter is not moved by what comes after -/
theorem dropInfix_append (h : l.dropInfix? (c :: ds) = some (p, s)) (t : List α) :
    (l ++ t).dropInfix? (c :: ds) = some (p, s ++ t) := by
  obtain ⟨hl, hfirst⟩ := dropInfix_iff.1 h
  refine dropInfix_iff.2 ⟨by simp [hl], fun p' s' h' => ?_⟩
  by_contra hlt
  have hpre : p' ++ (c :: ds) <+: l := by
    refine List.prefix_of_prefix_length_le ⟨s', h'.symm⟩ ⟨t, rfl⟩ ?_
    rw [hl]
    simp only [List.length_append]
    omega
  obtain ⟨s'', hs''⟩ := hpre
  exact hlt (hfirst p' s'' hs''.symm)

/-- **What is complete stays complete.** -/
theorem complete_mono (h : l <+: l') : complete c ds l <+: complete c ds l' := by
  obtain ⟨t, rfl⟩ := h
  induction l using complete_induction c ds with
  | none l h => simp [complete_of_none h]
  | some l p s h ih =>
    rw [complete_of_some h, complete_of_some (dropInfix_append h t)]
    exact (List.prefix_cons_inj p).2 ih

theorem not_isInfix_of_dropInfix (h : l.dropInfix? (c :: ds) = some (p, s)) : ¬(c :: ds) <:+: p := by
  intro ⟨p₁, p₂, hp⟩
  obtain ⟨hl, hfirst⟩ := dropInfix_iff.1 h
  have hle := hfirst p₁ (p₂ ++ (c :: ds) ++ s) (by rw [hl, ← hp]; simp)
  rw [← hp] at hle
  simp only [List.length_append, List.length_cons] at hle
  omega

theorem not_isInfix_of_mem_complete (hp : p ∈ complete c ds l) : ¬(c :: ds) <:+: p := by
  induction l using complete_induction c ds with
  | none l h => simp [complete_of_none h] at hp
  | some l q s h ih =>
    rw [complete_of_some h] at hp
    rcases List.mem_cons.1 hp with rfl | hp
    · exact not_isInfix_of_dropInfix h
    · exact ih hp

/-- no delimiter straddles the end of a piece and the delimiter after it -/
theorem dropInfix_self (hc : c ∉ ds) (hp : ¬(c :: ds) <:+: p) (s : List α) :
    (p ++ (c :: ds) ++ s).dropInfix? (c :: ds) = some (p, s) := by
  refine dropInfix_iff.2 ⟨rfl, fun p' s' h => ?_⟩
  by_contra hlt
  rw [List.append_assoc, List.append_assoc, List.append_eq_append_iff] at h
  rcases h with ⟨as, rfl, -⟩ | ⟨as, rfl, has⟩
  · simp at hlt
  -- the other delimiter starts `as` before the end of the piece
  rcases List.append_eq_append_iff.1 has with ⟨bs, hbs, -⟩ | ⟨bs, hbs, hrest⟩
  · exact hp ⟨p', bs, by rw [hbs, List.append_assoc]⟩
  · cases as with
    | nil => simp at hlt
    | cons a as =>
      obtain ⟨rfl, rfl⟩ := List.cons.inj hbs
      cases bs with
      | nil => exact hp ⟨p', [], by simp⟩
      | cons b bs => exact hc (by simp [(List.cons.inj hrest).1])

/-- **A piece without the delimiter is read back.** -/
theorem complete_append (hc : c ∉ ds) (hp : ¬(c :: ds) <:+: p) (s : List α) :
    complete c ds (p ++ (c :: ds) ++ s) = p :: complete c ds s :=
  complete_of_some (dropInfix_self hc hp s)

end VitaminD.Delimited
