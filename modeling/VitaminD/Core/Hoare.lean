/-
Pre- and postconditions for programs that raise: from every state with P, the program returns with Q or raises with R,
and in both cases what it did to the state stays done. Programs are those of `EStateM`; a program that makes calls is
one of them under each placement of exceptions (`under`).

Rules, one for each way such a program is written: `Triple.pure`, `Triple.throw`, `Triple.ofExcept_ok`,
`Triple.ofExcept_error`, `Triple.ite`, `Triple.guard`, `Triple.bind`, `Triple.tryCatch`, and `Triple.pre`,
`Triple.post`, `Triple.returns`, `Triple.raises` for where it is used; `Triple.call`, `Triple.command`, `Triple.self`
for calls and for the object they work on.
-/
import Mathlib.Tactic
import VitaminD.Core.Effects

namespace VitaminD.Hoare

variable {ε σ α β : Type}

/-- what a result of a program has to satisfy -/
def Outcome (Q : α → σ → Prop) (R : ε → σ → Prop) : EStateM.Result ε σ α → Prop
  | .ok a s => Q a s
  | .error e s => R e s

@[simp] theorem outcome_error (Q : α → σ → Prop) (R : ε → σ → Prop) (e : ε) (s : σ) :
    Outcome Q R (.error e s : EStateM.Result ε σ α) ↔ R e s := Iff.rfl

theorem Outcome.imp {Q Q' : α → σ → Prop} {R R' : ε → σ → Prop} {result : EStateM.Result ε σ α}
    (h : Outcome Q R result) (hQ : ∀ a s, Q a s → Q' a s) (hR : ∀ e s, R e s → R' e s) : Outcome Q' R' result := by
  cases result with
  | ok a s => exact hQ a s h
  | error e s => exact hR e s h

def Triple (P : σ → Prop) (m : EStateM ε σ α) (Q : α → σ → Prop) (R : ε → σ → Prop) : Prop :=
  ∀ s, P s → Outcome Q R (m s)

namespace Triple

variable {P P' : σ → Prop} {Q Q' : α → σ → Prop} {R R' : ε → σ → Prop} {m : EStateM ε σ α}

theorem pure {a : α} (h : ∀ s, P s → Q a s) : Triple P (pure a : EStateM ε σ α) Q R := fun s hs => h s hs

theorem throw {e : ε} (h : ∀ s, P s → R e s) : Triple P (throw e : EStateM ε σ α) Q R := fun s hs => h s hs

/-- a computation that raises nothing, and what follows -/
theorem ofExcept_ok {a : β} {f : β → EStateM ε σ α} (h : Triple P (f a) Q R) :
    Triple P (MonadExcept.ofExcept (.ok a : Except ε β) >>= f) Q R := fun s hs => h s hs

theorem ofExcept_error {e : ε} {f : β → EStateM ε σ α} (h : ∀ s, P s → R e s) :
    Triple P (MonadExcept.ofExcept (.error e : Except ε β) >>= f) Q R := fun s hs => h s hs

theorem ite {c : Prop} [Decidable c] {m' : EStateM ε σ α} (h : c → Triple P m Q R) (h' : ¬c → Triple P m' Q R) :
    Triple P (if c then m else m') Q R := by
  by_cases hc : c
  · rw [if_pos hc]
    exact h hc
  · rw [if_neg hc]
    exact h' hc

/-- `if c: raise e`, and what follows -/
theorem guard {c : Prop} [Decidable c] {e : ε} {f : Unit → EStateM ε σ α} (h : c → ∀ s, P s → R e s)
    (h' : ¬c → Triple P (f ()) Q R) : Triple P (if c then (throwThe ε e >>= f) else f ()) Q R :=
  Triple.ite (fun hc s hs => h hc s hs) h'

theorem bind {f : α → EStateM ε σ β} {Q' : β → σ → Prop} (hm : Triple P m Q R) (hf : ∀ a, Triple (Q a) (f a) Q' R) :
    Triple P (m >>= f) Q' R := by
  intro s hs
  have h := hm s hs
  show Outcome Q' R (EStateM.bind m f s)
  unfold EStateM.bind
  cases hr : m s with
  | ok a s' =>
    rw [hr] at h
    exact hf a s' h
  | error e s' =>
    rw [hr] at h
    exact h

/-- `try: m except ...: h`, the state being as the raise left it -/
theorem tryCatch {h : ε → EStateM ε σ α} (hm : Triple P m Q R') (hh : ∀ e, Triple (R' e) (h e) Q R) :
    Triple P (tryCatchThe ε m h) Q R := by
  intro s hs
  have hrun := hm s hs
  show Outcome Q R (EStateM.tryCatch m h s)
  unfold EStateM.tryCatch
  cases hr : m s with
  | ok a s' =>
    rw [hr] at hrun
    exact hrun
  | error e s' =>
    rw [hr] at hrun
    exact hh e s' hrun

theorem pre (h : Triple P m Q R) (hP : ∀ s, P' s → P s) : Triple P' m Q R := fun s hs => h s (hP s hs)

theorem post (h : Triple P m Q R) (hQ : ∀ a s, Q a s → Q' a s) (hR : ∀ e s, R e s → R' e s) : Triple P m Q' R' :=
  fun s hs => (h s hs).imp hQ hR

theorem returns (h : Triple P m Q R) (hQ : ∀ a s, Q a s → Q' a s) : Triple P m Q' R := h.post hQ fun _ _ hs => hs

theorem raises (h : Triple P m Q R) (hR : ∀ e s, R e s → R' e s) : Triple P m Q R' := h.post (fun _ _ hs => hs) hR

end Triple

/-! ## Programs that make calls -/

open Effects

variable {C E : Type} {F : C → Option E}

/-- a program under a placement of exceptions; its state is the object and the trace -/
def under (F : C → Option E) (m : Prog C E σ α) : EStateM E (σ × List (Event C E)) α := fun w =>
  match m F w.1 w.2 with
  | ⟨.ok a, s, t⟩ => .ok a (s, t)
  | ⟨.error e, s, t⟩ => .error e (s, t)

theorem under_bind (m : Prog C E σ α) (f : α → Prog C E σ β) :
    under F (m >>= f) = under F m >>= fun a => under F (f a) := by
  funext w
  show under F (m >>= f) w = EStateM.bind (under F m) (fun a => under F (f a)) w
  simp only [under, Prog.bind_apply, EStateM.bind]
  rcases m F w.1 w.2 with ⟨e | a, s, t⟩ <;> rfl

namespace Triple

variable {P Q R : σ → Prop}

theorem call (c : C) (hQ : ∀ s, P s → Q s) (hR : ∀ s, P s → R s) :
    Triple (fun w => P w.1) (under F (Prog.call c)) (fun _ w => Q w.1) (fun _ w => R w.1) := by
  intro ⟨s, t⟩ hs
  simp only [under, Prog.call]
  cases F c with
  | none => exact hQ s hs
  | some e => exact hR s hs

theorem calls (cs : List C) (hR : ∀ s, P s → R s) :
    Triple (fun w => P w.1) (under F (Prog.calls cs)) (fun _ w => P w.1) (fun _ w => R w.1) := by
  induction cs with
  | nil => exact fun w hw => hw
  | cons c cs ih =>
    rw [Prog.calls, under_bind]
    exact (call c (fun _ hs => hs) hR).bind fun _ => ih

/-- a call, and then what it does to the object -/
theorem command (c : C) (g : σ → σ) (hQ : ∀ s, P s → Q (g s)) (hR : ∀ s, P s → R s) :
    Triple (fun w => P w.1) (under F (do Prog.call c; Prog.assign g)) (fun _ w => Q w.1) (fun _ w => R w.1) := by
  rw [under_bind]
  exact (call c (fun _ hs => hs) hR).bind fun _ w hw => hQ w.1 hw

/-- a program that first reads its object -/
theorem self {f : σ → Prog C E σ β} {Q : β → σ × List (Event C E) → Prop} {R : E → σ × List (Event C E) → Prop}
    (h : ∀ s, P s → Triple (fun w => w.1 = s) (under F (f s)) Q R) :
    Triple (fun w => P w.1) (under F (Prog.self >>= f)) Q R := by
  intro ⟨s, t⟩ hs
  rw [under_bind]
  exact h s hs (s, t) rfl

end Triple

end VitaminD.Hoare
