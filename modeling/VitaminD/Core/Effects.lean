/-
Programs that make external calls, each of which either returns or raises, with Python's control flow around them: a
raise skips what follows, `try ... except` may stop it, `try ... finally` runs the clean-up either way, and what was
assigned to the object before the raise stays assigned.

A program is run under a placement of exceptions: which calls raise, and what. Calls are named so that no two calls of
a run have the same name, so a placement is a function of the name. The run leaves a trace of the calls made, each with
what came of it.

Rules:
- `calls_ok`, `calls_error`: a straight line of calls makes them all, or stops at one that raises; `calls_bind_cases`,
  `calls_stop`, `calls_reach`: whether a program gets past it;
- `Safe`: a program that keeps an invariant of its object and only adds events of one kind to the trace, whatever the
  placement; proved along the program (`Safe.call`, `Safe.assign`, `Safe.bind`, `Safe.self_bind`);
- `Ends`: how a program ends that leaves its object alone, and what it adds to the trace, proved along the program
  (`Ends.call`, `Ends.bind`, `Ends.tryFinally` and so on).
-/
import Mathlib.Tactic

namespace VitaminD.Effects

/-! ## Programs -/

/-- an external call and what it raised, if it did -/
structure Event (C E : Type) where
  call : C
  raised : Option E
deriving DecidableEq, Repr

/-- where a run ends: returned or raised, the object, the trace -/
structure Result (C E σ α : Type) where
  value : Except E α
  state : σ
  trace : List (Event C E)

/-- a program over calls C and exceptions E that works on an object of type σ -/
def Prog (C E σ α : Type) : Type := (C → Option E) → σ → List (Event C E) → Result C E σ α

namespace Prog

variable {C E σ τ α β : Type}

instance : Monad (Prog C E σ) where
  pure a := fun _ s t => ⟨.ok a, s, t⟩
  bind m f := fun F s t =>
    match m F s t with
    | ⟨.ok a, s', t'⟩ => f a F s' t'
    | ⟨.error e, s', t'⟩ => ⟨.error e, s', t'⟩

/-- one external call -/
def call (c : C) : Prog C E σ Unit := fun F s t =>
  match F c with
  | none => ⟨.ok (), s, t ++ [⟨c, none⟩]⟩
  | some e => ⟨.error e, s, t ++ [⟨c, some e⟩]⟩

def raise (e : E) : Prog C E σ α := fun _ s t => ⟨.error e, s, t⟩

/-- a computation that makes no calls but may raise -/
def lift (r : Except E α) : Prog C E σ α := fun _ s t => ⟨r, s, t⟩

def self : Prog C E σ σ := fun _ s t => ⟨.ok s, s, t⟩

def assign (f : σ → σ) : Prog C E σ Unit := fun _ s t => ⟨.ok (), f s, t⟩

/-- `try: m except p: h` -/
def tryExcept (m : Prog C E σ α) (p : E → Bool) (h : Prog C E σ α) : Prog C E σ α := fun F s t =>
  match m F s t with
  | ⟨.ok a, s', t'⟩ => ⟨.ok a, s', t'⟩
  | ⟨.error e, s', t'⟩ => if p e then h F s' t' else ⟨.error e, s', t'⟩

/-- `try: m finally: c`; an exception of the clean-up replaces what the body did -/
def tryFinally (m : Prog C E σ α) (c : Prog C E σ Unit) : Prog C E σ α := fun F s t =>
  match m F s t with
  | ⟨v, s', t'⟩ =>
    match c F s' t' with
    | ⟨.ok _, s'', t''⟩ => ⟨v, s'', t''⟩
    | ⟨.error e, s'', t''⟩ => ⟨.error e, s'', t''⟩

/-- `m`, and what the handler makes of an exception that it raises -/
def tryCatch (m : Prog C E σ α) (h : E → Prog C E σ α) : Prog C E σ α := fun F s t =>
  match m F s t with
  | ⟨.ok a, s', t'⟩ => ⟨.ok a, s', t'⟩
  | ⟨.error e, s', t'⟩ => h e F s' t'

/-- `m`, and a clean-up whose exceptions are dropped -/
def closing (m : Prog C E σ α) (c : Prog C E σ Unit) : Prog C E σ α := fun F s t =>
  match m F s t with
  | ⟨v, s', t'⟩ => ⟨v, (c F s' t').state, (c F s' t').trace⟩

/-- run a program on an object of its own -/
def within (s : σ) (m : Prog C E σ α) : Prog C E τ α := fun F u t =>
  match m F s t with
  | ⟨v, _, t'⟩ => ⟨v, u, t'⟩

/-- a straight line of calls -/
def calls : List C → Prog C E σ Unit
  | [] => pure ()
  | c :: cs => do call c; calls cs

/-! ## Equations -/

variable (F : C → Option E) (s : σ) (t : List (Event C E))

@[simp] theorem pure_apply (a : α) : (pure a : Prog C E σ α) F s t = ⟨.ok a, s, t⟩ := rfl

theorem bind_apply (m : Prog C E σ α) (f : α → Prog C E σ β) :
    (m >>= f) F s t = match m F s t with
      | ⟨.ok a, s', t'⟩ => f a F s' t'
      | ⟨.error e, s', t'⟩ => ⟨.error e, s', t'⟩ := rfl

theorem bind_ok {m : Prog C E σ α} {a : α} {s' : σ} {t' : List (Event C E)} (h : m F s t = ⟨.ok a, s', t'⟩)
    (f : α → Prog C E σ β) : (m >>= f) F s t = f a F s' t' := by rw [bind_apply, h]

theorem bind_error {m : Prog C E σ α} {e : E} {s' : σ} {t' : List (Event C E)} (h : m F s t = ⟨.error e, s', t'⟩)
    (f : α → Prog C E σ β) : (m >>= f) F s t = ⟨.error e, s', t'⟩ := by rw [bind_apply, h]

@[simp] theorem self_apply : (self : Prog C E σ σ) F s t = ⟨.ok s, s, t⟩ := rfl

@[simp] theorem lift_apply (r : Except E α) : (lift r : Prog C E σ α) F s t = ⟨r, s, t⟩ := rfl

@[simp] theorem assign_apply (f : σ → σ) : (assign f : Prog C E σ Unit) F s t = ⟨.ok (), f s, t⟩ := rfl

instance : LawfulMonad (Prog C E σ) :=
  LawfulMonad.mk' _
    (fun m => by
      funext F s t
      show (match m F s t with
        | ⟨.ok a, s', t'⟩ => (⟨.ok a, s', t'⟩ : Result C E σ _)
        | ⟨.error e, s', t'⟩ => ⟨.error e, s', t'⟩) = m F s t
      rcases m F s t with ⟨_ | _, _, _⟩ <;> rfl)
    (fun _ _ => rfl)
    (fun m f g => by
      funext F s t
      simp only [bind_apply]
      rcases m F s t with ⟨_ | _, _, _⟩ <;> rfl)

/-- a call does not touch the object -/
theorem call_state (c : C) : ((call c : Prog C E σ Unit) F s t).state = s := by
  unfold call
  cases F c <;> rfl

theorem call_trace (c : C) : ((call c : Prog C E σ Unit) F s t).trace = t ++ [⟨c, F c⟩] := by
  unfold call
  cases F c <;> rfl

theorem call_bind (c : C) (f : Unit → Prog C E σ α) :
    (call c >>= f) F s t = match F c with
      | none => f () F s (t ++ [⟨c, none⟩])
      | some e => ⟨.error e, s, t ++ [⟨c, some e⟩]⟩ := by
  rw [bind_apply, call]
  cases F c <;> rfl

variable {F} in
theorem call_ok_bind {c : C} (hc : F c = none) (s : σ) (t : List (Event C E)) (f : Unit → Prog C E σ α) :
    (call c >>= f) F s t = f () F s (t ++ [⟨c, none⟩]) := by
  rw [call_bind, hc]

/-- the clean-up is made from where the body ends -/
theorem tryFinally_trace (m : Prog C E σ α) (c : Prog C E σ Unit) :
    (tryFinally m c F s t).trace = (c F (m F s t).state (m F s t).trace).trace := by
  unfold tryFinally
  rcases m F s t with ⟨v, s', t'⟩
  dsimp only
  rcases c F s' t' with ⟨_ | _, _, _⟩ <;> rfl

theorem calls_append (cs ds : List C) : (calls (cs ++ ds) : Prog C E σ Unit) = (do calls cs; calls ds) := by
  induction cs with
  | nil => rfl
  | cons c cs ih => simp only [List.cons_append, calls, ih, bind_assoc]

/-! ## Straight lines of calls -/

/-- the trace of calls that all return -/
def returned (cs : List C) : List (Event C E) := cs.map fun c => ⟨c, none⟩

theorem call_mem_of_mem_returned {cs : List C} {ev : Event C E} (h : ev ∈ returned cs) : ev.call ∈ cs := by
  obtain ⟨c, hc, rfl⟩ := List.mem_map.1 h
  exact hc

/-- calls none of which raises are all made -/
theorem calls_ok (cs : List C) (h : ∀ c ∈ cs, F c = none) :
    calls cs F s t = ⟨.ok (), s, t ++ returned cs⟩ := by
  induction cs generalizing t with
  | nil => simp [calls, returned]
  | cons c cs ih =>
    have hc : (call c : Prog C E σ Unit) F s t = ⟨.ok (), s, t ++ [⟨c, none⟩]⟩ := by
      simp [call, h c List.mem_cons_self]
    rw [calls, bind_ok F s t hc, ih _ (fun d hd => h d (List.mem_cons_of_mem c hd))]
    simp [returned]

/-- a line with a call that raises ends raising, and has called nothing outside the line -/
theorem calls_error (cs : List C) (h : ¬ ∀ c ∈ cs, F c = none) :
    ∃ e t', calls cs F s t = ⟨.error e, s, t ++ t'⟩ ∧ ∀ ev ∈ t', ev.call ∈ cs := by
  induction cs generalizing t with
  | nil => exact absurd (by simp) h
  | cons c cs ih =>
    cases hc : F c with
    | some e =>
      have hcall : (call c : Prog C E σ Unit) F s t = ⟨.error e, s, t ++ [⟨c, some e⟩]⟩ := by simp [call, hc]
      exact ⟨e, _, by rw [calls, bind_error F s t hcall], by simp⟩
    | none =>
      have hcall : (call c : Prog C E σ Unit) F s t = ⟨.ok (), s, t ++ [⟨c, none⟩]⟩ := by simp [call, hc]
      have hcs : ¬ ∀ d ∈ cs, F d = none := by
        intro hall
        apply h
        intro d hd
        rcases List.mem_cons.1 hd with rfl | hd
        · exact hc
        · exact hall d hd
      obtain ⟨e, t', heq, hmem⟩ := ih (t ++ [⟨c, none⟩]) hcs
      refine ⟨e, ⟨c, none⟩ :: t', ?_, ?_⟩
      · rw [calls, bind_ok F s t hcall, heq]
        simp
      · intro ev hev
        rcases List.mem_cons.1 hev with rfl | hev
        · exact List.mem_cons_self
        · exact List.mem_cons_of_mem c (hmem ev hev)

/-- a program that starts with a line of calls gets past it, or ends in it -/
theorem calls_bind_cases (cs : List C) (f : Unit → Prog C E σ α) :
    ((∀ c ∈ cs, F c = none) ∧ (calls cs >>= f) F s t = f () F s (t ++ returned cs)) ∨
      ∃ e t', (calls cs >>= f) F s t = ⟨.error e, s, t ++ t'⟩ ∧ ∀ ev ∈ t', ev.call ∈ cs := by
  by_cases h : ∀ c ∈ cs, F c = none
  · exact Or.inl ⟨h, bind_ok F s t (calls_ok F s t cs h) f⟩
  · obtain ⟨e, t', heq, hmem⟩ := calls_error F s t cs h
    exact Or.inr ⟨e, t', bind_error F s t heq f, hmem⟩

/-- calls do not touch the object -/
theorem calls_state (cs : List C) : ((calls cs : Prog C E σ Unit) F s t).state = s := by
  by_cases h : ∀ c ∈ cs, F c = none
  · rw [calls_ok F s t cs h]
  · obtain ⟨e, t', heq, -⟩ := calls_error F s t cs h
    rw [heq]

/-- a line whose first part does not return stops there -/
theorem calls_stop (cs ds : List C) (h : ¬ ∀ c ∈ cs, F c = none) :
    ∃ e t', calls (cs ++ ds) F s t = ⟨.error e, s, t ++ t'⟩ ∧ ∀ ev ∈ t', ev.call ∈ cs := by
  obtain ⟨e, t', heq, hmem⟩ := calls_error F s t cs h
  exact ⟨e, t', by rw [calls_append, bind_error F s t heq], hmem⟩

/-! ## Programs that keep an invariant and add events of one kind -/

/-- t' extends t by events with P -/
def Adds (P : Event C E → Prop) (t t' : List (Event C E)) : Prop := ∃ u, t' = t ++ u ∧ ∀ ev ∈ u, P ev

theorem Adds.refl (P : Event C E → Prop) (t : List (Event C E)) : Adds P t t := ⟨[], by simp, by simp⟩

theorem Adds.trans {P : Event C E → Prop} {t t' t'' : List (Event C E)} (h : Adds P t t') (h' : Adds P t' t'') :
    Adds P t t'' := by
  obtain ⟨u, rfl, hu⟩ := h
  obtain ⟨v, rfl, hv⟩ := h'
  exact ⟨u ++ v, List.append_assoc t u v, fun ev hev => (List.mem_append.1 hev).elim (hu ev) (hv ev)⟩

theorem Adds.single {P : Event C E → Prop} (t : List (Event C E)) {ev : Event C E} (h : P ev) : Adds P t (t ++ [ev]) :=
  ⟨[ev], rfl, by simpa using h⟩

/-- whatever the placement, m keeps I and adds only events with P to the trace -/
def Safe (I : σ → Prop) (P : Event C E → Prop) (m : Prog C E σ α) : Prop :=
  ∀ F s t v s' t', m F s t = ⟨v, s', t'⟩ → I s → I s' ∧ Adds P t t'

namespace Safe

variable {I : σ → Prop} {P : Event C E → Prop}

theorem pure (a : α) : Safe I P (Pure.pure a : Prog C E σ α) := by
  intro F s t v s' t' h hs
  cases h
  exact ⟨hs, Adds.refl P t⟩

theorem assign (f : σ → σ) (hf : ∀ s, I s → I (f s)) : Safe I P (assign f) := by
  intro F s t v s' t' h hs
  cases h
  exact ⟨hf s hs, Adds.refl P t⟩

theorem call (c : C) (hc : ∀ o, P ⟨c, o⟩) : Safe I P (call c) := by
  intro F s t v s' t' h hs
  unfold Prog.call at h
  cases hF : F c with
  | none => rw [hF] at h; cases h; exact ⟨hs, Adds.single t (hc none)⟩
  | some e => rw [hF] at h; cases h; exact ⟨hs, Adds.single t (hc (some e))⟩

theorem raise (e : E) : Safe I P (raise e : Prog C E σ α) := by
  intro F s t v s' t' h hs
  cases h
  exact ⟨hs, Adds.refl P t⟩

theorem bind {m : Prog C E σ α} {f : α → Prog C E σ β} (hm : Safe I P m) (hf : ∀ a, Safe I P (f a)) :
    Safe I P (m >>= f) := by
  intro F s t v s' t' h hs
  rcases hr : m F s t with ⟨e | a, s1, t1⟩
  · rw [bind_error F s t hr] at h
    cases h
    exact hm F s t _ _ _ hr hs
  · rw [bind_ok F s t hr] at h
    obtain ⟨hs1, ht1⟩ := hm F s t _ _ _ hr hs
    obtain ⟨hs', ht'⟩ := hf a F s1 t1 _ _ _ h hs1
    exact ⟨hs', ht1.trans ht'⟩

/-- a program that first reads its object may use what the invariant says of it -/
theorem self_bind {f : σ → Prog C E σ β} (hf : ∀ a, I a → Safe I P (f a)) : Safe I P (self >>= f) :=
  fun F s t v s' t' h hs => hf s hs F s t v s' t' h hs

theorem ite {c : Prop} [Decidable c] {m m' : Prog C E σ α} (hm : Safe I P m) (hm' : Safe I P m') :
    Safe I P (if c then m else m') := by
  split_ifs
  · exact hm
  · exact hm'

theorem tryFinally {m : Prog C E σ α} {c : Prog C E σ Unit} (hm : Safe I P m) (hc : Safe I P c) :
    Safe I P (tryFinally m c) := by
  intro F s t v s' t' h hs
  rcases hr : m F s t with ⟨v₁, s₁, t₁⟩
  rcases hr' : c F s₁ t₁ with ⟨v₂, s₂, t₂⟩
  obtain ⟨hs₁, ht₁⟩ := hm F s t _ _ _ hr hs
  obtain ⟨hs₂, ht₂⟩ := hc F s₁ t₁ _ _ _ hr' hs₁
  simp only [Prog.tryFinally, hr, hr'] at h
  cases v₂ <;> cases h <;> exact ⟨hs₂, ht₁.trans ht₂⟩

theorem calls (cs : List C) (h : ∀ c ∈ cs, ∀ o, P ⟨c, o⟩) : Safe I P (calls cs) := by
  induction cs with
  | nil => exact Safe.pure ()
  | cons c cs ih =>
    exact (Safe.call c (h c List.mem_cons_self)).bind
      (fun _ => ih (fun d hd => h d (List.mem_cons_of_mem c hd)))

end Safe

theorem Safe.adds {P : Event C E → Prop} {m : Prog C E σ α} (h : Safe (fun _ => True) P m) (F : C → Option E) (s : σ)
    (t : List (Event C E)) : Adds P t (m F s t).trace :=
  (h F s t _ _ _ rfl trivial).2

/-- a straight line of calls, wherever it stops, adds only calls of the line -/
theorem calls_adds (cs : List C) (F : C → Option E) (s : σ) (t : List (Event C E)) :
    Adds (fun ev => ev.call ∈ cs) t (calls cs F s t).trace := by
  have h : Safe (fun _ => True) (fun ev => ev.call ∈ cs) (calls cs : Prog C E σ Unit) :=
    Safe.calls cs fun _ hc _ => hc
  exact h.adds F s t

/-- a line whose first part returns goes on to the next call -/
theorem calls_reach (cs ds : List C) (d : C) (F : C → Option E) (s : σ) (t : List (Event C E))
    (h : ∀ c ∈ cs, F c = none) : ⟨d, F d⟩ ∈ (calls (cs ++ d :: ds) F s t).trace := by
  rw [calls_append, bind_ok F s t (calls_ok F s t cs h), calls]
  cases hd : F d with
  | some e =>
    have hcall : (call d : Prog C E σ Unit) F s (t ++ returned cs) =
        ⟨.error e, s, t ++ returned cs ++ [⟨d, some e⟩]⟩ := by simp [call, hd]
    rw [bind_error F s _ hcall]
    simp
  | none =>
    have hcall : (call d : Prog C E σ Unit) F s (t ++ returned cs) =
        ⟨.ok (), s, t ++ returned cs ++ [⟨d, none⟩]⟩ := by simp [call, hd]
    obtain ⟨u, hu, -⟩ := calls_adds ds F s (t ++ returned cs ++ [⟨d, none⟩])
    rw [bind_ok F s _ hcall, hu]
    simp

/-! ## Programs that leave their object alone -/

/-- under F, wherever m is started, it ends in the same value, leaves the object alone and adds the same events; of the
value and the events P holds -/
def Ends (F : C → Option E) (m : Prog C E σ α) (P : Except E α → List (Event C E) → Prop) : Prop :=
  ∃ v u, (∀ s t, m F s t = ⟨v, s, t ++ u⟩) ∧ P v u

namespace Ends

variable {F : C → Option E} {m : Prog C E σ α} {c : Prog C E σ Unit} {P Q : Except E α → List (Event C E) → Prop}
  {R : Except E Unit → List (Event C E) → Prop} {S : Except E β → List (Event C E) → Prop}

theorem imp (h : Ends F m P) (hPQ : ∀ v u, P v u → Q v u) : Ends F m Q := by
  obtain ⟨v, u, hrun, hP⟩ := h
  exact ⟨v, u, hrun, hPQ v u hP⟩

theorem pure {a : α} (h : P (.ok a) []) : Ends F (Pure.pure a : Prog C E σ α) P := ⟨.ok a, [], by simp, h⟩

theorem raise {e : E} (h : P (.error e) []) : Ends F (Prog.raise e : Prog C E σ α) P :=
  ⟨.error e, [], by simp [Prog.raise], h⟩

theorem call {d : C} (hok : F d = none → R (.ok ()) [⟨d, none⟩])
    (herror : ∀ e, F d = some e → R (.error e) [⟨d, some e⟩]) : Ends F (Prog.call d : Prog C E σ Unit) R := by
  cases hF : F d with
  | none => exact ⟨.ok (), [⟨d, none⟩], fun s t => by simp [Prog.call, hF], hok hF⟩
  | some e => exact ⟨.error e, [⟨d, some e⟩], fun s t => by simp [Prog.call, hF], herror e hF⟩

theorem bind {f : α → Prog C E σ β} (hm : Ends F m P)
    (hok : ∀ a u, P (.ok a) u → Ends F (f a) fun v u' => S v (u ++ u'))
    (herror : ∀ e u, P (.error e) u → S (.error e) u) : Ends F (m >>= f) S := by
  obtain ⟨v, u, hrun, hP⟩ := hm
  cases v with
  | ok a =>
    obtain ⟨v', u', hrun', hS⟩ := hok a u hP
    exact ⟨v', u ++ u', fun s t => by rw [bind_ok F s t (hrun s t), hrun', List.append_assoc], hS⟩
  | error e => exact ⟨.error e, u, fun s t => bind_error F s t (hrun s t) f, herror e u hP⟩

theorem ite {p : Prop} [Decidable p] {m' : Prog C E σ α} (h : p → Ends F m P) (h' : ¬p → Ends F m' P) :
    Ends F (if p then m else m') P := by
  split_ifs with hp
  · exact h hp
  · exact h' hp

theorem tryFinally (hm : Ends F m P) (hc : Ends F c R) (hok : ∀ v u u', P v u → R (.ok ()) u' → Q v (u ++ u'))
    (herror : ∀ v u e u', P v u → R (.error e) u' → Q (.error e) (u ++ u')) : Ends F (tryFinally m c) Q := by
  obtain ⟨v, u, hrun, hP⟩ := hm
  obtain ⟨w, u', hrun', hR⟩ := hc
  cases w with
  | ok => exact ⟨v, u ++ u', fun s t => by simp [Prog.tryFinally, hrun, hrun'], hok v u u' hP hR⟩
  | error e => exact ⟨.error e, u ++ u', fun s t => by simp [Prog.tryFinally, hrun, hrun'], herror v u e u' hP hR⟩

theorem closing (hm : Ends F m P) (hc : Ends F c R) (h : ∀ v u w u', P v u → R w u' → Q v (u ++ u')) :
    Ends F (closing m c) Q := by
  obtain ⟨v, u, hrun, hP⟩ := hm
  obtain ⟨w, u', hrun', hR⟩ := hc
  exact ⟨v, u ++ u', fun s t => by simp [Prog.closing, hrun, hrun'], h v u w u' hP hR⟩

theorem tryCatch {h : E → Prog C E σ α} (hm : Ends F m P) (hok : ∀ a u, P (.ok a) u → Q (.ok a) u)
    (herror : ∀ e u, P (.error e) u → Ends F (h e) fun v u' => Q v (u ++ u')) : Ends F (tryCatch m h) Q := by
  obtain ⟨v, u, hrun, hP⟩ := hm
  cases v with
  | ok a => exact ⟨.ok a, u, fun s t => by simp [Prog.tryCatch, hrun], hok a u hP⟩
  | error e =>
    obtain ⟨v', u', hrun', hQ⟩ := herror e u hP
    exact ⟨v', u ++ u', fun s t => by simp [Prog.tryCatch, hrun, hrun'], hQ⟩

theorem tryExcept {p : E → Bool} {h : Prog C E σ α} (hm : Ends F m P) (hok : ∀ a u, P (.ok a) u → Q (.ok a) u)
    (hcaught : ∀ e u, P (.error e) u → p e = true → Ends F h fun v u' => Q v (u ++ u'))
    (herror : ∀ e u, P (.error e) u → p e = false → Q (.error e) u) : Ends F (tryExcept m p h) Q := by
  obtain ⟨v, u, hrun, hP⟩ := hm
  cases v with
  | ok a => exact ⟨.ok a, u, fun s t => by simp [Prog.tryExcept, hrun], hok a u hP⟩
  | error e =>
    cases hp : p e with
    | true =>
      obtain ⟨v', u', hrun', hQ⟩ := hcaught e u hP hp
      exact ⟨v', u ++ u', fun s t => by simp [Prog.tryExcept, hrun, hrun', hp], hQ⟩
    | false => exact ⟨.error e, u, fun s t => by simp [Prog.tryExcept, hrun, hp], herror e u hP hp⟩

end Ends

end Prog

end VitaminD.Effects
