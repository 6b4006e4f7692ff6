/-
Calls that act on a world. A trace of a program says which calls were made and what each raised; the world says what
they do. A trace is replayed on a world when every call that acts on it raises there what the trace says it raised.

- `Does`, `Replays`: one event, and a trace;
- `Does.spec`, `Does.of_outcome`: an event of a call of which is known how it ends;
- `Follows`: a line of calls as far as it got, and `Follows.calls` that a program that makes the line leaves such a
  trace;
- `Serves`: a line that the world goes along with, call after call; `Serves.replays` and `Serves.exists_replay` say what
  traces of it can be replayed.
-/
import VitaminD.Core.Effects
import VitaminD.Core.Hoare

namespace VitaminD.World

open VitaminD.Effects VitaminD.Hoare

variable {C E ω : Type} {act : C → Option (EStateM E ω Unit)}

/-! ## Replaying a trace -/

/-- what an event does to the world; a call that does not act on it may raise anything -/
inductive Does (act : C → Option (EStateM E ω Unit)) : ω → Event C E → ω → Prop
  | other {c : C} {o : Option E} {w : ω} : act c = none → Does act w ⟨c, o⟩ w
  | returned {c : C} {m : EStateM E ω Unit} {w w' : ω} : act c = some m → m w = .ok () w' → Does act w ⟨c, none⟩ w'
  | raised {c : C} {m : EStateM E ω Unit} {e : E} {w w' : ω} : act c = some m → m w = .error e w' →
      Does act w ⟨c, some e⟩ w'

inductive Replays (act : C → Option (EStateM E ω Unit)) : ω → List (Event C E) → ω → Prop
  | nil {w : ω} : Replays act w [] w
  | cons {w w' w'' : ω} {ev : Event C E} {t : List (Event C E)} : Does act w ev w' → Replays act w' t w'' →
      Replays act w (ev :: t) w''

theorem Does.spec {c : C} {o : Option E} {w w' : ω} (hdoes : Does act w ⟨c, o⟩ w') {m : EStateM E ω Unit}
    (hc : act c = some m) {Q : Unit → ω → Prop} {R : E → ω → Prop} (hout : Outcome Q R (m w)) :
    (o = none → Q () w') ∧ ∀ e, o = some e → R e w' := by
  cases hdoes with
  | other hnone =>
    rw [hnone] at hc
    cases hc
  | returned hm hrun =>
    obtain rfl := Option.some.inj (hm.symm.trans hc)
    rw [hrun] at hout
    refine ⟨fun _ => hout, ?_⟩
    rintro e ⟨⟩
  | raised hm hrun =>
    obtain rfl := Option.some.inj (hm.symm.trans hc)
    rw [hrun] at hout
    refine ⟨?_, ?_⟩
    · rintro ⟨⟩
    · rintro e ⟨⟩
      exact hout

theorem Does.eq_of_other {ev : Event C E} (hc : act ev.call = none) {w w' : ω} (h : Does act w ev w') : w' = w := by
  cases h with
  | other => rfl
  | returned hm => cases hm.symm.trans hc
  | raised hm => cases hm.symm.trans hc

/-- a call that cannot raise returns -/
theorem Does.of_outcome {c : C} {m : EStateM E ω Unit} (hc : act c = some m) {Q : Unit → ω → Prop} {R : E → ω → Prop}
    {w : ω} (hout : Outcome Q R (m w)) (hR : ∀ e w, ¬R e w) : ∃ w', Does act w ⟨c, none⟩ w' ∧ Q () w' := by
  cases hrun : m w with
  | ok u w' =>
    rw [hrun] at hout
    exact ⟨w', Does.returned hc hrun, hout⟩
  | error e w' =>
    rw [hrun] at hout
    exact absurd hout (hR e w')

theorem replays_append {t u : List (Event C E)} {w w'' : ω} :
    Replays act w (t ++ u) w'' ↔ ∃ w', Replays act w t w' ∧ Replays act w' u w'' := by
  induction t generalizing w with
  | nil =>
    constructor
    · exact fun h => ⟨w, Replays.nil, h⟩
    · rintro ⟨w', ⟨⟩, h⟩
      exact h
  | cons ev t ih =>
    constructor
    · rintro ⟨⟩
      rename_i w1 hev h
      obtain ⟨w', ht, hu⟩ := ih.1 h
      exact ⟨w', Replays.cons hev ht, hu⟩
    · rintro ⟨w', ⟨⟩, hu⟩
      rename_i w1 hev ht
      exact Replays.cons hev (ih.2 ⟨w', ht, hu⟩)

/-- what every event keeps, a trace keeps; K is what is known of each event -/
theorem Replays.keeps {K : Event C E → Prop} {I : ω → Prop} (h : ∀ w ev w', K ev → I w → Does act w ev w' → I w')
    {t : List (Event C E)} (ht : ∀ ev ∈ t, K ev) {w w' : ω} (hrun : Replays act w t w') (hw : I w) : I w' := by
  induction hrun with
  | nil => exact hw
  | cons hev _ ih =>
    exact ih (fun ev hmem => ht ev (List.mem_cons_of_mem _ hmem)) (h _ _ _ (ht _ List.mem_cons_self) hw hev)

/-- a prefix of two traces in a row ends in the first, or reaches into the second -/
theorem prefix_append_cases {β : Type} {u x y : List β} (h : u <+: x ++ y) :
    u <+: x ∨ ∃ v, u = x ++ v ∧ v <+: y := by
  obtain ⟨z, hz⟩ := h
  rcases List.append_eq_append_iff.1 hz with ⟨v, rfl, -⟩ | ⟨v, rfl, rfl⟩
  · exact Or.inl (List.prefix_append u v)
  · exact Or.inr ⟨v, rfl, List.prefix_append v z⟩

/-! ## Lines of calls -/

/-- the trace of a line of calls as far as it got: it stops anywhere, and after a call that raises it does -/
inductive Follows : List C → List (Event C E) → Prop
  | stop (cs : List C) : Follows cs []
  | raised (c : C) (e : E) (cs : List C) : Follows (c :: cs) [⟨c, some e⟩]
  | cons {c : C} {cs : List C} {t : List (Event C E)} : Follows cs t → Follows (c :: cs) (⟨c, none⟩ :: t)

namespace Follows

variable {cs ds : List C} {t u : List (Event C E)}

theorem of_isPrefix (h : Follows cs t) (hu : u <+: t) : Follows cs u := by
  induction h generalizing u with
  | stop =>
    rw [List.prefix_nil.1 hu]
    exact stop _
  | raised c e cs =>
    rcases List.prefix_cons_iff.1 hu with rfl | ⟨v, rfl, hv⟩
    · exact stop _
    · rw [List.prefix_nil.1 hv]
      exact raised c e cs
  | cons _ ih =>
    rcases List.prefix_cons_iff.1 hu with rfl | ⟨v, rfl, hv⟩
    · exact stop _
    · exact cons (ih hv)

theorem calls {σ : Type} (cs : List C) (F : C → Option E) (s : σ) (t : List (Event C E)) :
    ∃ u, (Prog.calls cs F s t).trace = t ++ u ∧ Follows cs u := by
  induction cs generalizing t with
  | nil => exact ⟨[], by simp [Prog.calls], stop _⟩
  | cons c cs ih =>
    cases hc : F c with
    | some e =>
      have hcall : (Prog.call c : Prog C E σ Unit) F s t = ⟨.error e, s, t ++ [⟨c, some e⟩]⟩ := by simp [Prog.call, hc]
      exact ⟨_, by rw [Prog.calls, Prog.bind_error F s t hcall], raised c e cs⟩
    | none =>
      have hcall : (Prog.call c : Prog C E σ Unit) F s t = ⟨.ok (), s, t ++ [⟨c, none⟩]⟩ := by simp [Prog.call, hc]
      obtain ⟨u, hu, hfollows⟩ := ih (t ++ [⟨c, none⟩])
      exact ⟨⟨c, none⟩ :: u, by rw [Prog.calls, Prog.bind_ok F s t hcall, hu, List.append_assoc]; rfl, cons hfollows⟩

theorem mem (h : Follows cs t) {ev : Event C E} (hev : ev ∈ t) : ev.call ∈ cs := by
  induction h with
  | stop => exact absurd hev List.not_mem_nil
  | raised c e cs =>
    rw [List.mem_singleton.1 hev]
    exact List.mem_cons_self
  | cons _ ih =>
    rcases List.mem_cons.1 hev with rfl | hev
    · exact List.mem_cons_self
    · exact List.mem_cons_of_mem _ (ih hev)

theorem returned (cs : List C) : Follows cs (Prog.returned cs : List (Event C E)) := by
  induction cs with
  | nil => exact stop _
  | cons c cs ih => exact cons ih

/-- a line in two parts: the second is begun once the first has returned -/
theorem append (h : Follows (cs ++ ds) t) :
    Follows cs t ∨ ∃ u, t = Prog.returned cs ++ u ∧ Follows ds u := by
  induction cs generalizing t with
  | nil => exact Or.inr ⟨t, rfl, h⟩
  | cons c cs ih =>
    cases h with
    | stop => exact Or.inl (stop _)
    | raised _ e => exact Or.inl (raised c e cs)
    | cons h =>
      rcases ih h with h | ⟨u, rfl, hu⟩
      · exact Or.inl (cons h)
      · exact Or.inr ⟨u, rfl, hu⟩

end Follows

/-! ## What a trace raises -/

/-- the calls that act on the world raise nothing else -/
def Raises (act : C → Option (EStateM E ω Unit)) (R : E → Prop) (t : List (Event C E)) : Prop :=
  ∀ ev ∈ t, act ev.call ≠ none → ∀ e, ev.raised = some e → R e

section Raises

variable {R : E → Prop} {t u : List (Event C E)}

theorem Raises.nil : Raises act R [] := fun _ h => absurd h List.not_mem_nil

theorem Raises.cons {ev : Event C E} (hev : act ev.call ≠ none → ∀ e, ev.raised = some e → R e) (ht : Raises act R t) :
    Raises act R (ev :: t) := List.forall_mem_cons.2 ⟨hev, ht⟩

theorem Raises.append (ht : Raises act R t) (hu : Raises act R u) : Raises act R (t ++ u) := by
  intro ev hev
  rcases List.mem_append.1 hev with hev | hev
  · exact ht ev hev
  · exact hu ev hev

theorem Raises.of_other (h : ∀ ev ∈ t, act ev.call = none) : Raises act R t :=
  fun ev hev hact => absurd (h ev hev) hact

/-- calls that do not act on the world leave it alone -/
theorem Replays.of_other (h : ∀ ev ∈ t, act ev.call = none) {w w' : ω} (hrun : Replays act w t w') : w' = w :=
  hrun.keeps (fun _ _ _ hev hI hdoes => (hdoes.eq_of_other hev).trans hI) h rfl

end Raises

/-! ## Lines that a world serves -/

/-- from w, the world returns from each call of the line in turn and is left with P, or raises R -/
def Serves (act : C → Option (EStateM E ω Unit)) (R : E → Prop) (P : ω → Prop) : List C → ω → Prop
  | [], w => P w
  | c :: cs, w => ∃ m, act c = some m ∧ Outcome (fun _ w' => Serves act R P cs w') (fun e _ => R e) (m w)

section Serves

variable {R : E → Prop} {P : ω → Prop} {cs : List C} {t : List (Event C E)} {w w' : ω}

theorem Serves.replays (h : Serves act R P cs w) (ht : Follows cs t) (hrun : Replays act w t w') :
    Raises act R t ∧ (t = Prog.returned cs → P w') := by
  induction ht generalizing w with
  | stop cs =>
    cases hrun
    refine ⟨Raises.nil, fun ht => ?_⟩
    obtain rfl : cs = [] := by simpa [Prog.returned] using ht.symm
    exact h
  | raised c e cs =>
    obtain ⟨m, hc, hout⟩ := h
    cases hrun with
    | cons hev hnil =>
      have he := (hev.spec hc hout).2 e rfl
      refine ⟨Raises.cons (fun _ e' he' => ?_) Raises.nil, fun h => absurd h (by simp [Prog.returned])⟩
      obtain rfl : e = e' := Option.some.inj he'
      exact he
  | cons ht ih =>
    obtain ⟨m, hc, hout⟩ := h
    cases hrun with
    | cons hev hrun =>
      obtain ⟨hraises, hP⟩ := ih ((hev.spec hc hout).1 rfl) hrun
      exact ⟨Raises.cons (fun _ e he => by cases he) hraises, fun ht => hP (List.cons.inj ht).2⟩

/-- a world that cannot raise serves every line that does not -/
theorem Serves.exists_replay (h : Serves act R P cs w) (hR : ∀ e, ¬R e) (ht : Follows cs t)
    (hok : ∀ ev ∈ t, ev.raised = none) : ∃ w', Replays act w t w' := by
  induction ht generalizing w with
  | stop => exact ⟨w, Replays.nil⟩
  | raised c e cs => exact absurd (hok _ List.mem_cons_self) (Option.some_ne_none e)
  | cons ht ih =>
    obtain ⟨m, hc, hout⟩ := h
    obtain ⟨w1, hev, hserves⟩ := Does.of_outcome hc hout fun e _ => hR e
    obtain ⟨w', hrun⟩ := ih hserves (List.forall_mem_cons.1 hok).2
    exact ⟨w', Replays.cons hev hrun⟩

end Serves

end VitaminD.World
