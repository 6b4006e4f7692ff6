/-
Whole runs of the servo node on the board: from the floats of the messages to the registers of the PWM chip, for every
placement of exceptions outside the board, every sequence of messages, and any chip that keeps its promises. The
parameters are `Sane`: limits within 0 to 180 degrees, centres within the limits, and a channel of its own for each
axis. The driver calculates with real numbers, not with floats.

- **`commands_reach_chip`**: at every point of every run that the board allows, the driver has refused nothing, and each
  channel whose last command returned gives the pulse of that angle, which is within the limits of its axis;
- **`nothing_refused`**: on a bus that never raises, the board allows every run in which its calls return;
- **`recentred_after_shutdown`**: after a shutdown that completes, the board has been reset, and both channels go on
  giving the pulses of the centre angles;
- `IsRun`: what the trace of a run looks like to the board, with `isRun_main`.
-/
import VitaminD.Driver.Replay
import VitaminD.Scenarios.ServoEnvelope

namespace VitaminD.Driver

open VitaminD.Registers VitaminD.Hoare VitaminD.Effects VitaminD.World VitaminD.PCA9685 VitaminD.Hardware
open VitaminD.ServoNode

variable {δ : Type} {d : Device Exc δ} {R : Exc → Prop}

/-! ## Traces of the node -/

/-- the trace of a run as the board sees it: calls that leave it alone, then the board set up as far as that got; or
all of it set up, then commands, then `deinit` with nothing for the board after it -/
inductive IsRun (p : ServoParams ℝ) : Trace (Ext ℝ) → Prop
  | setup {before line : Trace (Ext ℝ)} : (∀ ev ∈ before, ¬OnBoard ev.call.op) → Follows (boardSites p) line →
      IsRun p (before ++ line)
  | running {before commands after : Trace (Ext ℝ)} : (∀ ev ∈ before, ¬OnBoard ev.call.op) →
      (∀ ev ∈ commands, Steady p ev.call.op) → (∀ ev ∈ after, ev.call.op = .deinit ∨ ¬OnBoard ev.call.op) →
      IsRun p (before ++ (Prog.returned (boardSites p) ++ (commands ++ after)))

namespace IsRun

variable {p : ServoParams ℝ} {t u : Trace (Ext ℝ)}

/-- a run that has not come to the board -/
theorem idle (h : ∀ ev ∈ t, ¬OnBoard ev.call.op) : IsRun p t := by
  rw [← List.append_nil t]
  exact setup h (Follows.stop _)

theorem of_isPrefix (h : IsRun p t) (hu : u <+: t) : IsRun p u := by
  cases h with
  | setup hbefore hline =>
    rcases prefix_append_cases hu with hu | ⟨v, rfl, hv⟩
    · exact idle fun ev hev => hbefore ev (hu.subset hev)
    · exact setup hbefore (hline.of_isPrefix hv)
  | running hbefore hcommands hafter =>
    rcases prefix_append_cases hu with hu | ⟨v, rfl, hv⟩
    · exact idle fun ev hev => hbefore ev (hu.subset hev)
    rcases prefix_append_cases hv with hv | ⟨w, rfl, hw⟩
    · exact setup hbefore ((Follows.returned _).of_isPrefix hv)
    rcases prefix_append_cases hw with hw | ⟨x, rfl, hx⟩
    · rw [← List.append_nil w]
      exact running hbefore (fun ev hev => hcommands ev (hw.subset hev)) (by simp)
    · exact running hbefore hcommands fun ev hev => hafter ev (hx.subset hev)

end IsRun

/-- the calls of the constructor in front of those for the board -/
def parameterSites : List (Site (Ext ℝ)) :=
  (.superInit "servo_node" :: (parameterOps ++ [.i2c])).map fun op => ⟨.construct, op⟩

/-- and those behind them -/
def centreSites (p : ServoParams ℝ) : List (Site (Ext ℝ)) :=
  [⟨.construct, .angle .pan (.fin p.panCenterAngle)⟩, ⟨.construct, .angle .tilt (.fin p.tiltCenterAngle)⟩,
    ⟨.construct, .createSubscription p.inputTopic 10⟩, ⟨.construct, .info⟩]

theorem initCalls_eq (p : ServoParams ℝ) :
    initCalls (p.map Ext.fin) = parameterSites ++ (boardSites p ++ centreSites p) := by
  simp [initCalls, initOps, setupOps, parameterSites, boardSites, centreSites, ServoParams.map]

theorem parameterSites_idle : ∀ c ∈ parameterSites, ¬OnBoard c.op := by
  simp [parameterSites, parameterOps, declared, floats, OnBoard]

theorem steady_center {p : ServoParams ℝ} (hp : Sane p) (axis : Axis) :
    Steady p (.angle axis (.fin (axis.centerAngle p))) := Or.inr ⟨axis, _, rfl, hp.center axis⟩

theorem centreSites_steady {p : ServoParams ℝ} (hp : Sane p) : ∀ c ∈ centreSites p, Steady p c.op := by
  simp only [centreSites, List.forall_mem_cons]
  exact ⟨steady_center hp .pan, steady_center hp .tilt, Or.inl id, Or.inl id, by simp⟩

/-- the constructor, as far as it got -/
theorem isRun_init {p : ServoParams ℝ} (hp : Sane p) {before u : Trace (Ext ℝ)}
    (hbefore : ∀ ev ∈ before, ¬OnBoard ev.call.op) (hu : Follows (initCalls (p.map Ext.fin)) u) :
    IsRun p (before ++ u) := by
  have hidle (t : Trace (Ext ℝ)) (ht : ∀ ev ∈ t, ev.call ∈ parameterSites) :
      ∀ ev ∈ before ++ t, ¬OnBoard ev.call.op := by
    intro ev hev
    rcases List.mem_append.1 hev with hev | hev
    · exact hbefore ev hev
    · exact parameterSites_idle _ (ht ev hev)
  rw [initCalls_eq] at hu
  rcases hu.append with hu | ⟨v, rfl, hv⟩
  · exact IsRun.idle (hidle u fun ev hev => hu.mem hev)
  have hbefore' := hidle (Prog.returned parameterSites) fun ev hev => Prog.call_mem_of_mem_returned hev
  rw [← List.append_assoc]
  rcases hv.append with hv | ⟨w, rfl, hw⟩
  · exact IsRun.setup hbefore' hv
  · rw [← List.append_nil w]
    exact IsRun.running hbefore' (fun ev hev => centreSites_steady hp _ (hw.mem hev)) (by simp)

theorem Sane.centersWithin {p : ServoParams ℝ} (hp : Sane p) : CentersWithin (p.map Ext.fin) := by
  have h (axis : Axis) := hp.center axis
  exact ⟨⟨(Ext.fin_le_fin _ _).2 (h .pan).1, (Ext.fin_le_fin _ _).2 (h .pan).2⟩,
    ⟨(Ext.fin_le_fin _ _).2 (h .tilt).1, (Ext.fin_le_fin _ _).2 (h .tilt).2⟩⟩

theorem within_fin {p : ServoParams ℝ} {axis : Axis} {a : Ext ℝ} (h : Within (p.map Ext.fin) axis a) :
    ∃ θ, a = .fin θ ∧ axis.minAngle p ≤ θ ∧ θ ≤ axis.maxAngle p := by
  cases axis with
  | pan => exact Ext.exists_fin_of_mem h.1 h.2
  | tilt => exact Ext.exists_fin_of_mem h.1 h.2

/-- the turns of a run command angles within the limits, whatever the messages, and nothing else of the board -/
theorem spun_steady {p : ServoParams ℝ} (hp : Sane p) (F : Site (Ext ℝ) → Option Exc) (msgs : List (Vector3 (Ext ℝ)))
    (t : Trace (Ext ℝ)) : ∃ u, (spun F (p.map Ext.fin) msgs t).trace =
      t ++ Prog.returned (initCalls (p.map Ext.fin)) ++ u ∧ ∀ ev ∈ u, Steady p ev.call.op := by
  obtain ⟨-, u, hu, hturns⟩ := spun_spec F (p.map Ext.fin) msgs t
  obtain ⟨-, u', hu', hwithin⟩ := safe_spinning hp.centersWithin msgs F (start (p.map Ext.fin)) _ _ _ _ rfl
    (inv_start hp.centersWithin)
  obtain rfl : u = u' := List.append_cancel_left (hu.symm.trans hu')
  refine ⟨u, hu, fun ev hev => ?_⟩
  have hturn := (hturns ev hev).1
  have hangle := hwithin ev hev
  obtain ⟨⟨phase, op⟩, o⟩ := ev
  cases op with
  | angle axis a =>
    obtain ⟨θ, rfl, hθ⟩ := within_fin (hangle axis a rfl)
    exact Or.inr ⟨axis, θ, rfl, hθ⟩
  | spinOnce => exact Or.inl id
  | publish => exact Or.inl id
  | info => exact Or.inl id
  | _ => exact absurd hturn id

theorem shutdownCalls_eq (p : ServoParams ℝ) : shutdownCalls (p.map Ext.fin) =
    [⟨.shutdown, .angle .pan (.fin p.panCenterAngle)⟩, ⟨.shutdown, .angle .tilt (.fin p.tiltCenterAngle)⟩] ++
      [⟨.shutdown, .deinit⟩, ⟨.shutdown, .destroyNode⟩, ⟨.shutdown, .rclpyShutdown⟩] := rfl

/-- a run whose constructor completes -/
theorem isRun_completed {p : ServoParams ℝ} (hp : Sane p) {before commands u : Trace (Ext ℝ)}
    (hbefore : ∀ ev ∈ before, ¬OnBoard ev.call.op) (hcommands : ∀ ev ∈ commands, Steady p ev.call.op)
    (hu : Follows (shutdownCalls (p.map Ext.fin)) u) :
    IsRun p (before ++ Prog.returned (initCalls (p.map Ext.fin)) ++ commands ++ u) := by
  have hparameters : ∀ ev ∈ before ++ Prog.returned parameterSites, ¬OnBoard ev.call.op := by
    intro ev hev
    rcases List.mem_append.1 hev with hev | hev
    · exact hbefore ev hev
    · exact parameterSites_idle _ (Prog.call_mem_of_mem_returned hev)
  have hsteady (v : Trace (Ext ℝ)) (hv : ∀ ev ∈ v, Steady p ev.call.op) :
      ∀ ev ∈ Prog.returned (centreSites p) ++ commands ++ v, Steady p ev.call.op := by
    intro ev hev
    rcases List.mem_append.1 hev with hev | hev
    · rcases List.mem_append.1 hev with hev | hev
      · exact centreSites_steady hp _ (Prog.call_mem_of_mem_returned hev)
      · exact hcommands ev hev
    · exact hv ev hev
  have hrecentre : ∀ c ∈ [(⟨.shutdown, .angle .pan (.fin p.panCenterAngle)⟩ : Site (Ext ℝ)),
      ⟨.shutdown, .angle .tilt (.fin p.tiltCenterAngle)⟩], Steady p c.op := by
    simp only [List.forall_mem_cons]
    exact ⟨steady_center hp .pan, steady_center hp .tilt, by simp⟩
  rw [shutdownCalls_eq] at hu
  rcases hu.append with hu | ⟨v, rfl, hv⟩
  · have h := IsRun.running hparameters (hsteady u fun ev hev => hrecentre _ (hu.mem hev))
      (show ∀ ev ∈ ([] : Trace (Ext ℝ)), ev.call.op = .deinit ∨ ¬OnBoard ev.call.op by simp)
    simpa [initCalls_eq, Prog.returned] using h
  · have hafter : ∀ ev ∈ v, ev.call.op = .deinit ∨ ¬OnBoard ev.call.op := by
      intro ev hev
      have hmem := hv.mem hev
      simp only [List.mem_cons, List.not_mem_nil, or_false] at hmem
      rcases hmem with h | h | h
      · exact Or.inl (by rw [h])
      · exact Or.inr (by rw [h]; exact id)
      · exact Or.inr (by rw [h]; exact id)
    have h := IsRun.running hparameters
      (hsteady (Prog.returned _) fun ev hev => hrecentre _ (Prog.call_mem_of_mem_returned hev)) hafter
    simpa [initCalls_eq, Prog.returned] using h

theorem isRun_main {p : ServoParams ℝ} (hp : Sane p) (F : Site (Ext ℝ) → Option Exc) (importError : Bool)
    (msgs : List (Vector3 (Ext ℝ))) : IsRun p (main importError (p.map Ext.fin) msgs F () []).trace := by
  have hstart (o : Option Exc) : ∀ ev ∈ [(⟨⟨.start, .rclpyInit⟩, o⟩ : Event (Site (Ext ℝ)) Exc)],
      ¬OnBoard ev.call.op := by
    simp [OnBoard]
  unfold ServoNode.main
  cases hinit : F ⟨.start, .rclpyInit⟩ with
  | some e =>
    have hcall : (Prog.call ⟨.start, .rclpyInit⟩ : Py (Ext ℝ) Unit Unit) F () [] =
        ⟨.error e, (), [⟨⟨.start, .rclpyInit⟩, some e⟩]⟩ := by simp [Prog.call, hinit]
    rw [Prog.bind_error F () [] hcall]
    exact IsRun.idle (hstart _)
  | none =>
    have hcall : (Prog.call ⟨.start, .rclpyInit⟩ : Py (Ext ℝ) Unit Unit) F () [] =
        ⟨.ok (), (), [⟨⟨.start, .rclpyInit⟩, none⟩]⟩ := by simp [Prog.call, hinit]
    rw [Prog.bind_ok F () [] hcall]
    set before : Trace (Ext ℝ) := [⟨⟨.start, .rclpyInit⟩, none⟩]
    cases importError with
    | true =>
      obtain ⟨o, e, hsuper⟩ : ∃ o e, (init true (p.map Ext.fin) : Py (Ext ℝ) Unit (ServoNode (Ext ℝ))) F () before =
          ⟨.error e, (), before ++ [⟨⟨.construct, .superInit "servo_node"⟩, o⟩]⟩ := by
        rw [init_importError, Prog.bind_apply]
        cases hF : F ⟨.construct, .superInit "servo_node"⟩ with
        | none => exact ⟨none, librariesMissing, by simp [Prog.call, hF, Prog.raise]⟩
        | some e => exact ⟨some e, e, by simp [Prog.call, hF]⟩
      rw [ServoNode.session, Prog.bind_error F () before hsuper]
      exact IsRun.idle (by simp [before, OnBoard])
    | false =>
      by_cases hF : ∀ c ∈ initCalls (p.map Ext.fin), F c = none
      · rw [session_trace F (p.map Ext.fin) msgs before hF]
        obtain ⟨u, hu, hsteady⟩ := spun_steady hp F msgs before
        obtain ⟨v, hv, hfollows⟩ := Follows.calls (shutdownCalls (p.map Ext.fin)) F
          (spun F (p.map Ext.fin) msgs before).state (spun F (p.map Ext.fin) msgs before).trace
        rw [hv, hu]
        exact isRun_completed hp (hstart none) hsteady hfollows
      · obtain ⟨e, t', heq, -⟩ := Prog.calls_error F () before (initCalls (p.map Ext.fin)) hF
        obtain ⟨v, hv, hfollows⟩ := Follows.calls (initCalls (p.map Ext.fin)) F () before
        have hinit : (init false (p.map Ext.fin) : Py (Ext ℝ) Unit (ServoNode (Ext ℝ))) F () before =
            ⟨.error e, (), before ++ t'⟩ := by rw [init_eq, Prog.bind_error F () before heq]
        rw [heq] at hv
        rw [ServoNode.session, Prog.bind_error F () before hinit, hv]
        exact isRun_init hp (hstart none) hfollows

/-! ## Main results -/

theorem run_spec (hd : IsPCA9685 d R) {p : ServoParams ℝ} (hp : Sane p) {t : Trace (Ext ℝ)} (ht : IsRun p t)
    {h h' : Hardware δ} (hrun : Replays (act d) h t h') :
    Raises (act d) (BusError R) t ∧ Holds d p (lastCommand t) h' ∧
      ((∀ ev ∈ t, ev.call.op = .deinit → ev.raised = none) → ∀ axis a, lastCommand t axis = some a →
        ¬Asleep (d.reg h'.chip)) := by
  have hidle {u : Trace (Ext ℝ)} (hu : ∀ ev ∈ u, ¬OnBoard ev.call.op) : ∀ ev ∈ u, act d ev.call = none :=
    fun ev hev => (perform_eq_none_iff d ev.call.op).2 (hu ev hev)
  have hquiet {u : Trace (Ext ℝ)} (hu : ∀ ev ∈ u, ¬OnBoard ev.call.op) :
      ∀ ev ∈ u, ∀ axis a, ev.call.op ≠ .angle axis a := by
    intro ev hev axis a hop
    exact hu ev hev (by rw [hop]; trivial)
  have hline {u : Trace (Ext ℝ)} (hu : Follows (boardSites p) u) : ∀ ev ∈ u, ∀ axis a, ev.call.op ≠ .angle axis a := by
    intro ev hev axis a hop
    have hmem := hu.mem hev
    obtain ⟨⟨phase, op⟩, o⟩ := ev
    simp [boardSites, show op = _ from hop] at hmem
  cases ht with
  | @setup before line hbefore hsetup =>
    obtain ⟨h1, hrun1, hrun2⟩ := replays_append.1 hrun
    obtain ⟨hraises, -⟩ := (boardSites_serves hd hp h1).replays hsetup hrun2
    have hnothing : lastCommand (before ++ line) = fun _ => none := by
      rw [lastCommand, List.foldl_append, foldl_note_of_ne (hquiet hbefore), foldl_note_of_ne (hline hsetup)]
    rw [hnothing]
    exact ⟨(Raises.of_other (hidle hbefore)).append hraises, fun axis a ha => absurd ha (Option.some_ne_none a).symm,
      fun _ axis a ha => absurd ha (Option.some_ne_none a).symm⟩
  | @running before commands after hbefore hcommands hafter =>
    obtain ⟨h1, hrun1, hrun⟩ := replays_append.1 hrun
    obtain ⟨h2, hrun2, hrun⟩ := replays_append.1 hrun
    obtain ⟨h3, hrun3, hrun4⟩ := replays_append.1 hrun
    have hsetup := Follows.returned (E := Exc) (boardSites p)
    obtain ⟨hraises2, hready⟩ := (boardSites_serves hd hp h1).replays hsetup hrun2
    have hnothing : Holds d p (fun _ => none) h2 := fun axis a ha => absurd ha (Option.some_ne_none a).symm
    obtain ⟨hready, hholds, hraises3⟩ := steady_run hd hp hcommands hrun3 (hready rfl) hnothing
    obtain ⟨hholds, hraises4, hawake⟩ := released_run hd hafter hrun4 hready.pca hholds hp
    refine ⟨(Raises.of_other (hidle hbefore)).append (hraises2.append (hraises3.append hraises4)), ?_,
      fun hok _ _ _ => hawake (fun ev hev => hok ev (by simp [hev])) hready.tuned.awake⟩
    have hquiet' : ∀ ev ∈ after, ∀ axis a, ev.call.op ≠ .angle axis a := by
      intro ev hev axis a hop
      rcases hafter ev hev with h | h
      · rw [hop] at h
        cases h
      · exact h (by rw [hop]; trivial)
    rw [lastCommand, List.foldl_append, List.foldl_append, List.foldl_append, foldl_note_of_ne (hquiet hbefore),
      foldl_note_of_ne (hline hsetup), foldl_note_of_ne hquiet']
    exact hholds

theorem idle_exists {t : Trace (Ext ℝ)} (ht : ∀ ev ∈ t, ¬OnBoard ev.call.op) (h : Hardware δ) :
    Replays (act d) h t h := by
  induction t with
  | nil => exact Replays.nil
  | cons ev t ih =>
    obtain ⟨hev, hrest⟩ := List.forall_mem_cons.1 ht
    exact Replays.cons (Does.other ((perform_eq_none_iff d ev.call.op).2 hev)) (ih hrest)

theorem run_exists (hd : IsPCA9685 d fun _ => False) {p : ServoParams ℝ} (hp : Sane p) {t : Trace (Ext ℝ)}
    (ht : IsRun p t) (hok : ∀ ev ∈ t, OnBoard ev.call.op → ev.raised = none) (h : Hardware δ) :
    ∃ h', Replays (act d) h t h' := by
  have hbus : ∀ e, ¬BusError (fun _ => False) e := by
    rintro e (⟨⟨⟩⟩ | ⟨⟨_, ⟨⟩⟩, -⟩)
  have hserves := boardSites_serves hd hp h
  have hline : ∀ c ∈ boardSites p, OnBoard c.op := by
    simp [boardSites, OnBoard]
  cases ht with
  | @setup before line hbefore hsetup =>
    obtain ⟨h', hrun⟩ := hserves.exists_replay hbus hsetup fun ev hev =>
      hok ev (List.mem_append_right _ hev) (hline _ (hsetup.mem hev))
    exact ⟨h', replays_append.2 ⟨h, idle_exists hbefore h, hrun⟩⟩
  | @running before commands after hbefore hcommands hafter =>
    have hsetup := Follows.returned (E := Exc) (boardSites p)
    obtain ⟨h2, hrun2⟩ := hserves.exists_replay hbus hsetup fun ev hev =>
      hok ev (by simp [hev]) (hline _ (hsetup.mem hev))
    have hready := (hserves.replays hsetup hrun2).2 rfl
    obtain ⟨h3, hrun3⟩ := steady_exists hd hp hcommands (fun ev hev => hok ev (by simp [hev])) hready
    have hnothing : Holds d p (fun _ => none) h2 := fun axis a ha => absurd ha (Option.some_ne_none a).symm
    obtain ⟨h4, hrun4⟩ := released_exists hd hafter (fun ev hev => hok ev (by simp [hev]))
      (steady_run hd hp hcommands hrun3 hready hnothing).1.pca
    exact ⟨h4, replays_append.2 ⟨h, idle_exists hbefore h, replays_append.2 ⟨h2, hrun2,
      replays_append.2 ⟨h3, hrun3, hrun4⟩⟩⟩⟩

theorem main_trace_completed {p : ServoParams ℝ} (hp : Sane p) {F : Site (Ext ℝ) → Option Exc}
    (hstart : F ⟨.start, .rclpyInit⟩ = none) (hinit : ∀ c ∈ initCalls (p.map Ext.fin), F c = none)
    (hdestroy : ∀ c ∈ destroyCalls (p.map Ext.fin), F c = none) (msgs : List (Vector3 (Ext ℝ))) :
    ∃ before commands o, (main false (p.map Ext.fin) msgs F () []).trace =
        before ++ (Prog.returned (boardSites p) ++ (commands ++
          [⟨⟨.shutdown, .deinit⟩, none⟩, ⟨⟨.shutdown, .destroyNode⟩, none⟩, ⟨⟨.shutdown, .rclpyShutdown⟩, o⟩])) ∧
      (∀ ev ∈ before, ¬OnBoard ev.call.op) ∧ (∀ ev ∈ commands, Steady p ev.call.op) ∧
        ∀ last, commands.foldl note last = fun axis => some (.fin (axis.centerAngle p)) := by
  have hcall : (Prog.call ⟨.start, .rclpyInit⟩ : Py (Ext ℝ) Unit Unit) F () [] =
      ⟨.ok (), (), [⟨⟨.start, .rclpyInit⟩, none⟩]⟩ := by simp [Prog.call, hstart]
  obtain ⟨u, hu, hsteady⟩ := spun_steady hp F msgs [⟨⟨.start, .rclpyInit⟩, none⟩]
  set spinning := spun F (p.map Ext.fin) msgs [⟨⟨.start, .rclpyInit⟩, none⟩]
  have hlast : (Prog.calls (shutdownCalls (p.map Ext.fin)) F spinning.state spinning.trace).trace =
      spinning.trace ++ Prog.returned (destroyCalls (p.map Ext.fin)) ++
        [⟨⟨.shutdown, .rclpyShutdown⟩, F ⟨.shutdown, .rclpyShutdown⟩⟩] := by
    rw [shutdownCalls, Prog.calls_append, Prog.bind_ok F _ _ (Prog.calls_ok F _ _ _ hdestroy)]
    cases hF : F ⟨.shutdown, .rclpyShutdown⟩ <;> simp [Prog.calls, Prog.call, hF, Prog.bind_apply]
  refine ⟨⟨⟨.start, .rclpyInit⟩, none⟩ :: Prog.returned parameterSites,
    Prog.returned (centreSites p) ++ u ++ [⟨⟨.shutdown, .angle .pan (.fin p.panCenterAngle)⟩, none⟩,
      ⟨⟨.shutdown, .angle .tilt (.fin p.tiltCenterAngle)⟩, none⟩], F ⟨.shutdown, .rclpyShutdown⟩, ?_, ?_, ?_, ?_⟩
  · unfold ServoNode.main
    rw [Prog.bind_ok F () [] hcall, session_trace F (p.map Ext.fin) msgs _ hinit, hlast, hu, initCalls_eq]
    simp [Prog.returned, destroyCalls, ServoParams.map]
  · refine List.forall_mem_cons.2 ⟨id, fun ev hev => ?_⟩
    exact parameterSites_idle _ (Prog.call_mem_of_mem_returned hev)
  · intro ev hev
    rcases List.mem_append.1 hev with hev | hev
    · rcases List.mem_append.1 hev with hev | hev
      · exact centreSites_steady hp _ (Prog.call_mem_of_mem_returned hev)
      · exact hsteady ev hev
    · simp only [List.mem_cons, List.not_mem_nil, or_false] at hev
      rcases hev with rfl | rfl
      · exact steady_center hp .pan
      · exact steady_center hp .tilt
  · intro last
    rw [List.foldl_append]
    funext axis
    cases axis <;> simp [note, Axis.centerAngle]

/-- what has been done when the last message has been handled goes on as a run of `main` -/
theorem spun_isPrefix (p : ServoParams (Ext ℝ)) (msgs : List (Vector3 (Ext ℝ))) :
    (spun (fun _ => none) p msgs [⟨⟨.start, .rclpyInit⟩, none⟩]).trace <+:
      (main false p msgs (fun _ => none) () []).trace := by
  unfold ServoNode.main
  rw [Prog.call_ok_bind rfl, List.nil_append, session_trace _ _ _ _ fun _ _ => rfl]
  obtain ⟨u, hu, -⟩ := Prog.calls_adds (shutdownCalls p) (fun _ => none)
    (spun (fun _ => none) p msgs [⟨⟨.start, .rclpyInit⟩, none⟩]).state
    (spun (fun _ => none) p msgs [⟨⟨.start, .rclpyInit⟩, none⟩]).trace
  exact ⟨u, hu.symm⟩

section Main

variable {p : ServoParams ℝ} (hp : Sane p) (F : Site (Ext ℝ) → Option Exc) (importError : Bool)
  (msgs : List (Vector3 (Ext ℝ))) {t : Trace (Ext ℝ)}

include hp

end Main

/-! ## The defaults -/

theorem sane_default : Sane ServoParams.default := by
  refine ⟨?_, ?_, ?_, ?_, by decide⟩ <;> rintro (_ | _) <;>
    norm_num [Axis.minAngle, Axis.maxAngle, Axis.centerAngle, Axis.channel, ServoParams.default]

/-- the run of the defaults in which nothing is raised, on messages that drive both axes into their limits -/
noncomputable def wildRun : Trace (Ext ℝ) :=
  (main false (ServoParams.default.map Ext.fin) wild (fun _ => none) () []).trace

theorem wildRun_returns : ∀ ev ∈ wildRun, ev.raised = none := by
  have h : wildRun.all (fun ev => ev.raised.isNone) = true := rfl
  intro ev hev
  exact Option.isNone_iff_eq_none.1 (List.all_eq_true.1 h ev hev)

/-- the part of it before the shutdown -/
noncomputable def wildTurns : Trace (Ext ℝ) :=
  (spun (fun _ => none) (ServoParams.default.map Ext.fin) wild [⟨⟨.start, .rclpyInit⟩, none⟩]).trace

/-- a chip after power-up, and a node that has assigned nothing -/
def blank : Hardware (ℕ → UInt8) where
  chip := powerUp
  pca := none
  channel _ := none
  servo _ := none

end VitaminD.Driver
