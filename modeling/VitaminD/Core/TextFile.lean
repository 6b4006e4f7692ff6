/-
Text files as line editors see them: lines that end in a line break, and whatever follows the last one. That rest is a
line too, unless it is empty; but what is appended to the file lands on it.

- `rewrite`, `delete`: what `sed` does with the lines of a kind; `append`: what `tee -a` does;
- `mem_rewrite_lines`, `rewrite_eq_self`: rewriting to a line leaves no other line of the kind, and changes nothing
  where the lines of the kind are already what they are rewritten to.
-/
import Mathlib.Tactic

namespace VitaminD

structure TextFile (α : Type) where
  lines : List (List α)
  rest : List α
deriving DecidableEq, Repr

namespace TextFile

variable {α : Type} (p : List α → Bool) (l : List α) (f : TextFile α)

/-- some line is of the kind -/
def any : Bool := f.lines.any p || (!f.rest.isEmpty && p f.rest)

/-- every line of the kind becomes l -/
def rewrite : TextFile α :=
  ⟨f.lines.map fun x => if p x then l else x, if !f.rest.isEmpty && p f.rest then l else f.rest⟩

/-- every line of the kind goes -/
def delete : TextFile α := ⟨f.lines.filter fun x => !p x, if p f.rest then [] else f.rest⟩

/-- l and a line break are added to the file -/
def append : TextFile α := ⟨f.lines ++ [f.rest ++ l], []⟩

variable {p l f}

theorem any_iff : f.any p = true ↔ (∃ x ∈ f.lines, p x = true) ∨ f.rest ≠ [] ∧ p f.rest = true := by
  simp [any]

theorem any_of_mem {x : List α} (hx : x ∈ f.lines) (hp : p x = true) : f.any p = true :=
  any_iff.2 (Or.inl ⟨x, hx, hp⟩)

/-- the lines of the kind that a file with a line break at its end has after a rewrite -/
theorem mem_rewrite_lines {x : List α} (hx : x ∈ (f.rewrite p l).lines) (hp : p x = true) : x = l := by
  obtain ⟨y, -, rfl⟩ := List.mem_map.1 hx
  split_ifs with hy
  · rfl
  · rw [if_neg hy] at hp
    exact absurd hp hy

theorem rewrite_eq_self (hrest : f.rest = []) (h : ∀ x ∈ f.lines, p x = true → x = l) : f.rewrite p l = f := by
  obtain ⟨lines, rest⟩ := f
  cases hrest
  have hlines : (lines.map fun x => if p x then l else x) = lines := by
    refine (List.map_congr_left fun x hx => ?_).trans (List.map_id lines)
    split_ifs with hp
    · exact (h x hx hp).symm
    · rfl
  simp [rewrite, hlines]

end TextFile

end VitaminD
