/-
Which angles the servo node commands. `clamp` restores the limits of an axis in `gaze_error_callback` only; the start-up
command of the constructor and the shutdown command of `destroy_node` send the centre parameter as it is, and nothing
checks it against the limits.

- `envelope_iff`: for every placement of exceptions under which the constructor completes, and every sequence of
  messages, all commands of the run lie within the limits exactly when both centre angles do;
- `offCenter_escapes`: the node accepts a centre of 170 degrees with limits 20 and 160, and commands it.

Parameters and messages are extended numbers: any of them may be an infinity or NaN, and the limits may be crossed.
-/
import VitaminD.Model.ServoNode

namespace VitaminD.ServoNode

open VitaminD.Effects

/-! ## Commands -/

/-- the run assigned `angle` to the servo of the axis -/
def Commanded {α : Type} (tr : Trace α) (axis : Axis) (angle : α) : Prop :=
  ∃ ev ∈ tr, ev.call.op = .angle axis angle

/-- the angle is within the limits of the axis -/
def Within (p : ServoParams (Ext ℝ)) : Axis → Ext ℝ → Prop
  | .pan, a => p.panMinAngle ≤ a ∧ a ≤ p.panMaxAngle
  | .tilt, a => p.tiltMinAngle ≤ a ∧ a ≤ p.tiltMaxAngle

/-- every angle ever commanded is within the limits of its axis -/
def Enveloped (p : ServoParams (Ext ℝ)) (tr : Trace (Ext ℝ)) : Prop :=
  ∀ axis a, Commanded tr axis a → Within p axis a

/-- both centre angles are within their limits -/
def CentersWithin (p : ServoParams (Ext ℝ)) : Prop :=
  Within p .pan p.panCenterAngle ∧ Within p .tilt p.tiltCenterAngle

/-- what the setter of `adafruit_motor`'s servo raises on an angle, if it does -/
noncomputable def angleSetter (a : Ext ℝ) : Option Exc :=
  if a < 0 ∨ Ext.fin 180 < a then some (.valueError "Angle out of range") else none

theorem angleSetter_fin (r : ℝ) (h0 : 0 ≤ r) (h180 : r ≤ 180) : angleSetter (.fin r) = none := by
  simp [angleSetter, h0, h180]

/-- the placement in which only the setters raise -/
noncomputable def setterFaults (c : Site (Ext ℝ)) : Option Exc :=
  match c.op with
  | .angle _ a => angleSetter a
  | _ => none

/-! ## The invariant of a run -/

/-- an event of a run that keeps within the limits -/
def EventWithin (p : ServoParams (Ext ℝ)) (ev : Event (Site (Ext ℝ)) Exc) : Prop :=
  ∀ axis a, ev.call.op = .angle axis a → Within p axis a

/-- the parameters are those of the construction, and both angles are within their limits -/
structure Inv (p : ServoParams (Ext ℝ)) (node : ServoNode (Ext ℝ)) : Prop where
  params : node.toServoParams = p
  pan : Within p .pan node.panAngle
  tilt : Within p .tilt node.tiltAngle

theorem inv_start {p : ServoParams (Ext ℝ)} (h : CentersWithin p) : Inv p (start p) := ⟨rfl, h.1, h.2⟩

/-- the callback clamps, whatever the message -/
theorem inv_updateAngles {p : ServoParams (Ext ℝ)} (h : CentersWithin p) (node : ServoNode (Ext ℝ))
    (msg : Vector3 (Ext ℝ)) (hn : Inv p node) : Inv p (node.updateAngles msg) := by
  obtain ⟨rfl, -, -⟩ := hn
  exact ⟨rfl, Ext.clamp_mem (Ext.le_trans h.1.1 h.1.2) _, Ext.clamp_mem (Ext.le_trans h.2.1 h.2.2) _⟩

theorem safe_setServoAngles {p : ServoParams (Ext ℝ)} (phase : Phase) {a b : Ext ℝ} (ha : Within p .pan a)
    (hb : Within p .tilt b) : Prog.Safe (Inv p) (EventWithin p) (setServoAngles phase a b) := by
  refine (Prog.Safe.call _ fun o axis x hx => ?_).bind fun _ => Prog.Safe.call _ fun o axis x hx => ?_
  · cases hx; exact ha
  · cases hx; exact hb

/-- a call that is no command -/
theorem safe_call {p : ServoParams (Ext ℝ)} (c : Site (Ext ℝ)) (hc : ∀ axis a, c.op ≠ .angle axis a) :
    Prog.Safe (Inv p) (EventWithin p) (Prog.call c) :=
  Prog.Safe.call c fun _ axis a h => absurd h (hc axis a)

theorem safe_gazeErrorCallback {p : ServoParams (Ext ℝ)} (h : CentersWithin p) (i : ℕ) (msg : Vector3 (Ext ℝ)) :
    Prog.Safe (Inv p) (EventWithin p) (gazeErrorCallback i msg) := by
  refine (Prog.Safe.assign _ fun node hn => inv_updateAngles h node msg hn).bind fun _ => ?_
  refine Prog.Safe.self_bind fun node hn => ?_
  exact (safe_setServoAngles _ hn.pan hn.tilt).bind fun _ => safe_call _ (by simp)

theorem safe_spinning {p : ServoParams (Ext ℝ)} (h : CentersWithin p) (msgs : List (Vector3 (Ext ℝ))) :
    Prog.Safe (Inv p) (EventWithin p) (spin gazeErrorCallback 0 msgs) :=
  safe_spin (fun i o axis a ha => by simp at ha) (safe_gazeErrorCallback h) 0 msgs

/-- the commands of the constructor -/
theorem initCalls_within {p : ServoParams (Ext ℝ)} (h : CentersWithin p) :
    ∀ ev ∈ Prog.returned (E := Exc) (initCalls p), EventWithin p ev := by
  intro ev hev axis a ha
  simp only [Prog.returned, initCalls, List.map_map, List.mem_map, Function.comp_def] at hev
  obtain ⟨op, hop, rfl⟩ := hev
  have ha' : op = .angle axis a := ha
  rw [ha'] at hop
  obtain ⟨rfl, rfl⟩ | ⟨rfl, rfl⟩ := angle_mem_initOps hop
  · exact h.1
  · exact h.2

/-- the commands of the shutdown -/
theorem shutdownCalls_within {p : ServoParams (Ext ℝ)} (h : CentersWithin p) :
    ∀ c ∈ shutdownCalls p, ∀ o, EventWithin p ⟨c, o⟩ := by
  simp only [shutdownCalls, destroyCalls, List.cons_append, List.nil_append, List.forall_mem_cons]
  refine ⟨?_, ?_, ?_, ?_, ?_, by simp⟩ <;> rintro o axis a ⟨⟩
  · exact h.1
  · exact h.2

/-! ## Main result -/

section Session

variable (F : Site (Ext ℝ) → Option Exc) (p : ServoParams (Ext ℝ)) (msgs : List (Vector3 (Ext ℝ)))

/-- centre angles within the limits keep the whole run within them -/
theorem enveloped_of_centersWithin (hF : ∀ c ∈ initCalls p, F c = none) (h : CentersWithin p) :
    Enveloped p (session false p msgs F () []).trace := by
  obtain ⟨hspun, hturns⟩ : Inv p (spun F p msgs []).state ∧
      Prog.Adds (EventWithin p) (Prog.returned (initCalls p)) (spun F p msgs []).trace :=
    safe_spinning h msgs F (start p) _ _ _ _ rfl (inv_start h)
  obtain ⟨-, hshutdown⟩ : Inv p _ ∧ Prog.Adds (EventWithin p) (spun F p msgs []).trace
      (session false p msgs F () []).trace := by
    rw [session_trace F p msgs [] hF]
    exact Prog.Safe.calls _ (shutdownCalls_within h) F _ _ _ _ _ rfl hspun
  obtain ⟨u, hu, hwithin⟩ := hturns.trans hshutdown
  rintro axis a ⟨ev, hev, hop⟩
  rw [hu] at hev
  rcases List.mem_append.1 hev with hev | hev
  · exact initCalls_within h ev hev axis a hop
  · exact hwithin ev hev axis a hop

/-- the start-up commands of a construction that completes are part of the run -/
theorem centers_commanded (hF : ∀ c ∈ initCalls p, F c = none) :
    Commanded (session false p msgs F () []).trace .pan p.panCenterAngle ∧
      Commanded (session false p msgs F () []).trace .tilt p.tiltCenterAngle := by
  obtain ⟨-, u, hu, -⟩ := spun_spec F p msgs []
  obtain ⟨v, hv, -⟩ := Prog.calls_adds (shutdownCalls p) F (spun F p msgs []).state (spun F p msgs []).trace
  have hmem : ∀ ev ∈ Prog.returned (initCalls p), ev ∈ (session false p msgs F () []).trace := by
    intro ev hev
    rw [session_trace F p msgs [] hF, hv, hu]
    simp [hev]
  have hpan : (⟨⟨.construct, .angle .pan p.panCenterAngle⟩, none⟩ : Event _ Exc) ∈ Prog.returned (initCalls p) := by
    simp [Prog.returned, initCalls, initOps, setupOps]
  have htilt : (⟨⟨.construct, .angle .tilt p.tiltCenterAngle⟩, none⟩ : Event _ Exc) ∈ Prog.returned (initCalls p) := by
    simp [Prog.returned, initCalls, initOps, setupOps]
  exact ⟨⟨_, hmem _ hpan, rfl⟩, ⟨_, hmem _ htilt, rfl⟩⟩

/-- **The envelope is that of the centre angles.** Whichever calls raise after the constructor has completed, and
whatever messages arrive, every command of the run is within the limits exactly when both centre angles are. -/
theorem envelope_iff (importError : Bool)
    (h : ∃ node, (init importError p F () []).value = .ok node) :
    Enveloped p (session importError p msgs F () []).trace ↔ CentersWithin p := by
  obtain ⟨rfl, hF⟩ := (init_completes_iff F p () [] importError).1 h
  constructor
  · intro henv
    obtain ⟨hpan, htilt⟩ := centers_commanded F p msgs hF
    exact ⟨henv _ _ hpan, henv _ _ htilt⟩
  · exact enveloped_of_centersWithin F p msgs hF

end Session

/-- messages that drive both axes into their limits, one of them by a NaN -/
def wild : List (Vector3 (Ext ℝ)) := [⟨.fin 5000, .posInf, .fin 0⟩, ⟨.nan, .fin (-5000), .nan⟩]

/-- the defaults with no exceptions: the pan axis is sent to its lower limit, and nothing beyond a limit is commanded -/
theorem envelope_default :
    Commanded (session false (ServoParams.default.map Ext.fin) wild (fun _ => none) () []).trace .pan (.fin 20) ∧
      Enveloped (ServoParams.default.map Ext.fin)
        (session false (ServoParams.default.map Ext.fin) wild (fun _ => none) () []).trace := by
  set p : ServoParams (Ext ℝ) := ServoParams.default.map Ext.fin
  have hcenters : CentersWithin p := by
    norm_num [CentersWithin, Within, p, ServoParams.default, ServoParams.map]
  have hangle : ((start p).updateAngles ⟨.fin 5000, .posInf, .fin 0⟩).panAngle = .fin 20 := by
    have habs : pyAbs (Ext.fin (5000 : ℝ)) = .fin 5000 := by
      show Ext.abs _ = _
      rw [Ext.abs_fin, abs_of_pos (by norm_num)]
    have herror : deadband (Ext.fin (2 : ℝ)) (.fin 5000) = .fin 5000 := by
      rw [deadband, habs, if_neg (by norm_num)]
    show clamp (Ext.fin (90 : ℝ) - deadband (.fin 2) (.fin 5000) * .fin 0.02) (.fin 20) (.fin 160) = .fin 20
    rw [herror]
    norm_num [clamp, pyMax_eq_max, pyMin_eq_min]
  have hspun : (⟨⟨.spin 0, .angle .pan ((start p).updateAngles ⟨.fin 5000, .posInf, .fin 0⟩).panAngle⟩, none⟩ :
      Event (Site (Ext ℝ)) Exc) ∈ (spun (fun _ => none) p wild []).trace := by
    simp [spun, wild, spin, gazeErrorCallback, setServoAngles, Prog.bind_apply, Prog.call]
  obtain ⟨u, hu, -⟩ := Prog.calls_adds (shutdownCalls p) (fun _ => none) (spun (fun _ => none) p wild []).state
    (spun (fun _ => none) p wild []).trace
  rw [hangle] at hspun
  refine ⟨⟨⟨⟨.spin 0, .angle .pan (.fin 20)⟩, none⟩, ?_, rfl⟩, ?_⟩
  · rw [session_trace (fun _ => none) p wild [] fun _ _ => rfl, hu]
    exact List.mem_append_left u hspun
  · have hcompletes := (init_completes_iff (fun _ => none) p () [] false).2 ⟨rfl, fun _ _ => rfl⟩
    exact (envelope_iff (fun _ => none) p wild false hcompletes).2 hcenters

/-- the defaults with the pan servo centred beyond its upper limit -/
noncomputable def offCenter : ServoParams (Ext ℝ) :=
  { (ServoParams.default.map Ext.fin : ServoParams (Ext ℝ)) with panCenterAngle := .fin 170 }

/-- the constructor completes with a centre of 170 degrees and limits of 20 and 160, and the run leaves the limits -/
theorem offCenter_escapes :
    (∃ node, (init false offCenter setterFaults () []).value = .ok node) ∧
      ¬ Enveloped offCenter (session false offCenter [] setterFaults () []).trace := by
  have h : ∃ node, (init false offCenter setterFaults () []).value = .ok node := by
    rw [init_completes_iff]
    refine ⟨rfl, fun c hc => ?_⟩
    simp only [initCalls, List.mem_map] at hc
    obtain ⟨op, hop, rfl⟩ := hc
    cases op with
    | angle axis a =>
      obtain ⟨rfl, rfl⟩ | ⟨rfl, rfl⟩ := angle_mem_initOps hop
      · exact angleSetter_fin 170 (by norm_num) (by norm_num)
      · exact angleSetter_fin 40 (by norm_num) (by norm_num)
    | _ => rfl
  refine ⟨h, fun henv => ?_⟩
  have hF := ((init_completes_iff setterFaults offCenter () [] false).1 h).2
  have hwithin := henv _ _ (centers_commanded setterFaults offCenter [] hF).1
  norm_num [Within, offCenter, ServoParams.default, ServoParams.map] at hwithin

end VitaminD.ServoNode
