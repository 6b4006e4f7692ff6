/-
Two machines with a channel between them that keeps the order and loses nothing. The first takes its inputs and sends
its outputs, the second takes what is delivered; the two take turns in any order, and a delivery from an empty channel
changes nothing.

- `run_inOrder`: whatever the interleaving, the receiver is where the whole output of the sender would have brought it
  by as many messages as were delivered. What holds of the receiver after n messages holds in every interleaving.
-/
import Mathlib.Tactic
import VitaminD.Core.Machine

namespace VitaminD.Channel

open VitaminD.Machine

variable {σ₁ σ₂ ι μ ο : Type}

/-- both machines, how far they have come, and what is under way -/
structure Link (σ₁ μ σ₂ : Type) where
  sender : σ₁
  sent : ℕ
  queue : List μ
  delivered : ℕ
  receiver : σ₂

inductive Turn where
  | send
  | deliver
deriving DecidableEq, Repr

variable (step₁ : σ₁ → ι → μ × σ₁) (step₂ : σ₂ → μ → ο × σ₂) (x : ℕ → ι)

def turn (l : Link σ₁ μ σ₂) : Turn → Link σ₁ μ σ₂
  | .send =>
    let r := step₁ l.sender (x l.sent)
    { l with sender := r.2, sent := l.sent + 1, queue := l.queue ++ [r.1] }
  | .deliver =>
    match l.queue with
    | [] => l
    | m :: queue => { l with queue := queue, delivered := l.delivered + 1, receiver := (step₂ l.receiver m).2 }

def run (s : σ₁) (r : σ₂) (turns : List Turn) : Link σ₁ μ σ₂ := turns.foldl (turn step₁ step₂ x) ⟨s, 0, [], 0, r⟩

/-- everything sent is either delivered or under way, in the order it was sent -/
structure InOrder (s : σ₁) (r : σ₂) (l : Link σ₁ μ σ₂) : Prop where
  count : l.delivered + l.queue.length = l.sent
  sender : l.sender = stateAt step₁ s x l.sent
  queue : l.queue = (List.range' l.delivered l.queue.length).map (outAt step₁ s x)
  receiver : l.receiver = stateAt step₂ r (outAt step₁ s x) l.delivered

theorem turn_inOrder {s : σ₁} {r : σ₂} {l : Link σ₁ μ σ₂} (h : InOrder step₁ step₂ x s r l) (t : Turn) :
    InOrder step₁ step₂ x s r (turn step₁ step₂ x l t) := by
  obtain ⟨hcount, hsender, hqueue, hreceiver⟩ := h
  cases t with
  | send =>
    refine ⟨?_, ?_, ?_, hreceiver⟩
    · simp only [turn, List.length_append, List.length_singleton]
      omega
    · simp only [turn, stateAt_succ, hsender]
    · have hout : (step₁ l.sender (x l.sent)).1 = outAt step₁ s x (l.delivered + l.queue.length) := by
        rw [hcount, hsender]; rfl
      simp only [turn, List.length_append, List.length_singleton]
      rw [List.range'_1_concat, List.map_append, ← hqueue, hout]
      rfl
  | deliver =>
    obtain ⟨sender, sent, queue, delivered, receiver⟩ := l
    cases queue with
    | nil => exact ⟨hcount, hsender, hqueue, hreceiver⟩
    | cons m queue =>
      simp only [List.length_cons, List.range'_succ, List.map_cons, List.cons.injEq] at hcount hqueue
      obtain ⟨hm, hqueue⟩ := hqueue
      refine ⟨?_, hsender, hqueue, ?_⟩
      · simp only [turn]
        omega
      · simp only [turn, stateAt_succ, hm]
        rw [← hreceiver]

/-- **Every interleaving is in order.** -/
theorem run_inOrder (s : σ₁) (r : σ₂) (turns : List Turn) :
    InOrder step₁ step₂ x s r (run step₁ step₂ x s r turns) := by
  have hrun : ∀ l : Link σ₁ μ σ₂, InOrder step₁ step₂ x s r l →
      InOrder step₁ step₂ x s r (turns.foldl (turn step₁ step₂ x) l) := by
    induction turns with
    | nil => exact fun l hl => hl
    | cons t turns ih => exact fun l hl => ih _ (turn_inOrder step₁ step₂ x hl t)
  exact hrun _ ⟨rfl, rfl, rfl, rfl⟩

end VitaminD.Channel
