/-
The board along a trace of the servo node's calls. A trace is replayed on a chip that keeps its promises: every call for
the board must end there as the trace says it did.

- `boardSites_serves`: the calls of the constructor leave a board that is ready, from any board;
- `steady_run`: commands within the limits keep it ready, and `Holds` that the registers of each channel hold the words
  of the angle last commanded there, with `Holds.givesPulse`;
- `released_run`: `deinit` leaves the channels as they are, and a chip that is awake awake, unless it raises;
- `steady_exists`, `released_exists`: on a bus that never raises, calls that return can be replayed.
-/
import VitaminD.Driver.Board
import VitaminD.Servo.Refinement

/-! ## What belongs to an axis -/

namespace VitaminD.Axis

variable {α : Type}

def channel : Axis → ServoParams α → ℤ
  | pan, p => p.panChannel
  | tilt, p => p.tiltChannel

def centerAngle : Axis → ServoParams α → α
  | pan, p => p.panCenterAngle
  | tilt, p => p.tiltCenterAngle

end VitaminD.Axis

namespace VitaminD.Driver

open VitaminD.Registers VitaminD.Hoare VitaminD.Effects VitaminD.World VitaminD.PCA9685 VitaminD.Hardware
open VitaminD.ServoNode

variable {δ : Type} {d : Device Exc δ} {R : Exc → Prop}

/-! ## Commands -/

section Commands

variable {α : Type}

/-- the angles last commanded, once an event is over; after a command that raised it is not known what the channel
gives -/
def note (last : Axis → Option α) (ev : Event (Site α) Exc) : Axis → Option α :=
  match ev.call.op with
  | .angle axis a => Function.update last axis (if ev.raised = none then some a else none)
  | _ => last

/-- the angle that the last command to an axis gave it -/
def lastCommand (t : Trace α) : Axis → Option α := t.foldl note fun _ => none

theorem note_of_ne {last : Axis → Option α} {ev : Event (Site α) Exc} (h : ∀ axis a, ev.call.op ≠ .angle axis a) :
    note last ev = last := by
  unfold note
  split
  · rename_i axis a hop
    exact absurd hop (h axis a)
  · rfl

theorem foldl_note_of_ne {last : Axis → Option α} {t : Trace α}
    (h : ∀ ev ∈ t, ∀ axis a, ev.call.op ≠ .angle axis a) : t.foldl note last = last := by
  induction t with
  | nil => rfl
  | cons ev t ih =>
    obtain ⟨hev, ht⟩ := List.forall_mem_cons.1 h
    rw [List.foldl_cons, note_of_ne hev, ih ht]

end Commands

/-- limits and centres that the servos can reach, and a channel of its own for each axis -/
structure Sane (p : ServoParams ℝ) : Prop where
  minAngle : ∀ axis : Axis, 0 ≤ axis.minAngle p
  center : ∀ axis : Axis, axis.minAngle p ≤ axis.centerAngle p ∧ axis.centerAngle p ≤ axis.maxAngle p
  maxAngle : ∀ axis : Axis, axis.maxAngle p ≤ 180
  channel : ∀ axis : Axis, 0 ≤ axis.channel p ∧ axis.channel p < 16
  distinct : p.panChannel ≠ p.tiltChannel

/-- the registers of each channel hold the words of the angle last commanded there, for the prescaler of the chip -/
def Holds (d : Device Exc δ) (p : ServoParams ℝ) (last : Axis → Option (Ext ℝ)) (h : Hardware δ) : Prop :=
  ∀ axis a, last axis = some a → ∃ θ : ℝ, a = .fin θ ∧ (axis.minAngle p ≤ θ ∧ θ ≤ axis.maxAngle p) ∧
    (d.reg h.chip prescaleReg).toNat = 121 ∧
    pwm (d.reg h.chip) (axis.channel p).toNat = (0, dutyAt (nodeServo (axis.channel p)) θ / 16)

theorem Sane.actuationRange {p : ServoParams ℝ} (hp : Sane p) {axis : Axis} {θ : ℝ}
    (hθ : axis.minAngle p ≤ θ ∧ θ ≤ axis.maxAngle p) : 0 ≤ θ ∧ θ ≤ 180 :=
  ⟨(hp.minAngle axis).trans hθ.1, hθ.2.trans (hp.maxAngle axis)⟩

theorem Holds.givesPulse {p : ServoParams ℝ} (hp : Sane p) {last : Axis → Option (Ext ℝ)} {h : Hardware δ}
    (hholds : Holds d p last h) {axis : Axis} {a : Ext ℝ} (ha : last axis = some a) :
    ∃ θ : ℝ, a = .fin θ ∧ (axis.minAngle p ≤ θ ∧ θ ≤ axis.maxAngle p) ∧
      GivesPulse board (d.reg h.chip) (axis.channel p).toNat 500 2500 θ := by
  obtain ⟨θ, rfl, hθ, hprescale, hpwm⟩ := hholds axis a ha
  have hfreq : (frequencyOf board (d.reg h.chip) : ℝ) = 25000000 / 4096 / 122 := frequencyOf_50 rfl hprescale
  refine ⟨θ, rfl, hθ, Fits.givesPulse (hfreq.symm ▸ fits_50) ⟨axis.channel p⟩ (hp.actuationRange hθ) ?_⟩
  rw [hfreq, fitted_50]
  exact hpwm

/-- the board as the constructor leaves it -/
structure Ready (d : Device Exc δ) (p : ServoParams ℝ) (h : Hardware δ) : Prop where
  tuned : Tuned (d.reg h.chip)
  pca : ∃ pca, h.pca = some pca
  servo : ∀ axis : Axis, h.servo axis = some (nodeServo (axis.channel p))

/-! ## Setting the board up -/

theorem getItem_fresh {pca : PCA9685} {k : ℕ} (hk : k < 16) (hslot : pca.channels[k] = none) :
    pca.getItem k = .ok (⟨k⟩, { pca with channels := pca.channels.set k (some ⟨k⟩) }) := by
  have hslot' : ((k : ℤ) % 16).toNat = k := by omega
  unfold PCA9685.getItem
  rw [if_pos (by omega)]
  simp only [hslot', Fin.getElem_fin, hslot]

/-- the calls of the constructor for the board, from `PCA9685(i2c)` on -/
def boardSites (p : ServoParams ℝ) : List (Site (Ext ℝ)) :=
  [⟨.construct, .pca9685⟩, ⟨.construct, .frequency 50⟩, ⟨.construct, .channel .pan p.panChannel⟩,
    ⟨.construct, .servo .pan 500 2500⟩, ⟨.construct, .channel .tilt p.tiltChannel⟩, ⟨.construct, .servo .tilt 500 2500⟩]

/-- from any board, the calls of the constructor leave one that is ready, or the bus raises -/
theorem boardSites_serves (hd : IsPCA9685 d R) {p : ServoParams ℝ} (hp : Sane p) (h : Hardware δ) :
    Serves (act d) (BusError R) (Ready d p) (boardSites p) h := by
  have hbus : ∀ e (w : Hardware δ), R e → BusError R e := fun e _ he => Or.inl he
  obtain ⟨k, hk⟩ := Int.eq_ofNat_of_zero_le (hp.channel .pan).1
  obtain ⟨j, hj⟩ := Int.eq_ofNat_of_zero_le (hp.channel .tilt).1
  have hk16 : k < 16 := by have := (hp.channel .pan).2; omega
  have hj16 : j < 16 := by have := (hp.channel .tilt).2; omega
  have hkj : k ≠ j := fun h => hp.distinct (hk.trans (h ▸ hj.symm))
  set panned : PCA9685 := { board with channels := board.channels.set k (some ⟨k⟩) } with hpanned
  have hpan : board.getItem p.panChannel = .ok (⟨k⟩, panned) := by
    rw [show p.panChannel = k from hk]
    exact getItem_fresh hk16 (by simp [board])
  have htilt : panned.getItem p.tiltChannel =
      .ok (⟨j⟩, { panned with channels := panned.channels.set j (some ⟨j⟩) }) := by
    rw [show p.tiltChannel = j from hj]
    exact getItem_fresh hj16 (by simp [hpanned, board, hkj])
  refine ⟨_, rfl, (createBoard_spec hd h _ rfl).imp (fun _ w1 h1 => ?_) fun _ _ he => he⟩
  obtain ⟨h1, hawake⟩ := h1
  refine ⟨_, rfl, (setFrequency_50_spec hd h1 hawake _ rfl).imp (fun _ w2 h2 => ?_) hbus⟩
  obtain ⟨chip2, rfl, htuned⟩ := h2
  refine ⟨_, rfl, (takeChannel_spec (h := { w1 with chip := chip2 }) h1 hpan (fun e _ => R e) _ rfl).imp
    (fun _ w3 h3 => ?_) hbus⟩
  subst h3
  refine ⟨_, rfl, (createServo_spec hd k rfl rfl (by simp) htuned _ rfl).imp (fun _ w4 h4 => ?_) hbus⟩
  obtain ⟨chip4, hchip4, rfl⟩ := h4
  refine ⟨_, rfl, (takeChannel_spec rfl htilt (fun e _ => R e) _ rfl).imp (fun _ w5 h5 => ?_) hbus⟩
  subst h5
  refine ⟨_, rfl, (createServo_spec hd j rfl rfl (by simp) (hchip4 ▸ htuned) _ rfl).imp (fun _ w6 h6 => ?_) hbus⟩
  obtain ⟨chip6, hchip6, rfl⟩ := h6
  refine ⟨?_, ⟨_, rfl⟩, ?_⟩
  · show Tuned (d.reg chip6)
    rw [hchip6]
    exact hchip4 ▸ htuned
  · rintro (_ | _)
    · rw [hk]
      simp
    · rw [hj]
      simp

/-! ## Commanding -/

/-- a call that leaves the board alone, or commands an angle within the limits -/
def Steady (p : ServoParams ℝ) (op : Op (Ext ℝ)) : Prop :=
  ¬OnBoard op ∨ ∃ (axis : Axis) (θ : ℝ), op = .angle axis (.fin θ) ∧ axis.minAngle p ≤ θ ∧ θ ≤ axis.maxAngle p

theorem Sane.toNat_channel {p : ServoParams ℝ} (hp : Sane p) (axis : Axis) :
    ((axis.channel p).toNat : ℤ) = axis.channel p ∧ (axis.channel p).toNat < 16 := by
  have h := hp.channel axis
  omega

theorem Sane.channel_ne {p : ServoParams ℝ} (hp : Sane p) {axis axis' : Axis} (h : axis ≠ axis') :
    (axis.channel p).toNat ≠ (axis'.channel p).toNat := by
  have hpan := (hp.toNat_channel .pan).1
  have htilt := (hp.toNat_channel .tilt).1
  have hne : Axis.channel .pan p ≠ Axis.channel .tilt p := hp.distinct
  cases axis <;> cases axis' <;> first | exact absurd rfl h | omega

/-- a command within the limits: the registers hold its words, and those of the other channel are as they were -/
theorem command_step (hd : IsPCA9685 d R) {p : ServoParams ℝ} (hp : Sane p) {axis : Axis} {θ : ℝ}
    (hθ : axis.minAngle p ≤ θ ∧ θ ≤ axis.maxAngle p) {phase : Phase} {o : Option Exc} {h h' : Hardware δ}
    (hready : Ready d p h) {last : Axis → Option (Ext ℝ)} (hholds : Holds d p last h)
    (hdoes : Does (act d) h ⟨⟨phase, .angle axis (.fin θ)⟩, o⟩ h') :
    Ready d p h' ∧ Holds d p (note last ⟨⟨phase, .angle axis (.fin θ)⟩, o⟩) h' ∧ ∀ e, o = some e → R e := by
  obtain ⟨hcast, hk⟩ := hp.toNat_channel axis
  set k := (axis.channel p).toNat with hkdef
  have hservo : h.servo axis = some (nodeServo k) := by
    rw [hready.servo, hcast]
  have hangle := hp.actuationRange hθ
  obtain ⟨hok, herror⟩ := hdoes.spec rfl (setAngle_board_spec hd hservo hk hready.tuned hangle h rfl)
  have hchip : ∃ chip, h' = { h with chip := chip } ∧ OnlyChannel k (d.reg h.chip) (d.reg chip) ∧
      (o = none → pwm (d.reg chip) k = (0, dutyAt (nodeServo k) θ / 16)) := by
    cases o with
    | none =>
      obtain ⟨chip, rfl, hreg⟩ := hok rfl
      refine ⟨chip, rfl, hreg ▸ onlyChannel_setPwm, fun _ => ?_⟩
      rw [hreg]
      exact pwm_setPwm (words_dutyAt (calibrated_nodeServo k) (by norm_num [nodeServo]; exact hangle))
    | some e =>
      obtain ⟨chip, rfl, -, hreg⟩ := herror e rfl
      exact ⟨chip, rfl, hreg, fun h => absurd h (Option.some_ne_none e)⟩
  obtain ⟨chip, rfl, honly, hwords⟩ := hchip
  have htuned := hready.tuned.onlyChannel hk honly
  refine ⟨⟨htuned, hready.pca, hready.servo⟩, ?_, fun e he => ?_⟩
  · intro axis' a ha
    by_cases haxis : axis' = axis
    · subst haxis
      have ha' : (if o = none then some (Ext.fin θ) else none) = some a := by
        simpa [note] using ha
      split_ifs at ha' with ho
      obtain rfl := Option.some.inj ha'
      exact ⟨θ, rfl, hθ, htuned.prescale, by rw [← hkdef, ← hcast]; exact hwords ho⟩
    · have ha' : last axis' = some a := by
        simpa [note, haxis] using ha
      obtain ⟨θ', rfl, hθ', -, hpwm⟩ := hholds axis' a ha'
      refine ⟨θ', rfl, hθ', htuned.prescale, ?_⟩
      rw [← hpwm]
      exact honly.pwm_eq (hp.channel_ne haxis)
  · obtain ⟨_, -, he, -⟩ := herror e he
    exact he

/-- commands within the limits, and calls that leave the board alone, in any number and order -/
theorem steady_run (hd : IsPCA9685 d R) {p : ServoParams ℝ} (hp : Sane p) {t : Trace (Ext ℝ)}
    (ht : ∀ ev ∈ t, Steady p ev.call.op) {h h' : Hardware δ} (hrun : Replays (act d) h t h') (hready : Ready d p h)
    {last : Axis → Option (Ext ℝ)} (hholds : Holds d p last h) :
    Ready d p h' ∧ Holds d p (t.foldl note last) h' ∧ Raises (act d) (BusError R) t := by
  induction hrun generalizing last with
  | nil => exact ⟨hready, hholds, Raises.nil⟩
  | @cons w w' w'' ev t hdoes hrun ih =>
    obtain ⟨hev, hrest⟩ := List.forall_mem_cons.1 ht
    obtain ⟨⟨phase, op⟩, o⟩ := ev
    rcases hev with hidle | ⟨axis, θ, hop, hθ⟩
    · have hact : act d ⟨phase, op⟩ = none := (perform_eq_none_iff d op).2 hidle
      obtain rfl : w' = w := hdoes.eq_of_other hact
      have hnote : note last ⟨⟨phase, op⟩, o⟩ = last :=
        note_of_ne fun axis a hop => hidle (by rw [show op = _ from hop]; trivial)
      obtain ⟨hready, hholds, hraises⟩ := ih hrest hready hholds
      rw [List.foldl_cons, hnote]
      exact ⟨hready, hholds, hraises.cons fun hcall => absurd hact hcall⟩
    · obtain rfl : op = _ := hop
      obtain ⟨hready, hholds, herror⟩ := command_step hd hp hθ hready hholds hdoes
      obtain ⟨hready, hholds, hraises⟩ := ih hrest hready hholds
      exact ⟨hready, hholds, hraises.cons fun _ e he => Or.inl (herror e he)⟩

/-- after `deinit` the channels hold what they held, and the outputs stay on unless it raised -/
theorem released_run (hd : IsPCA9685 d R) {p : ServoParams ℝ} {t : Trace (Ext ℝ)}
    (ht : ∀ ev ∈ t, ev.call.op = .deinit ∨ ¬OnBoard ev.call.op) {h h' : Hardware δ} (hrun : Replays (act d) h t h')
    (hpca : ∃ pca, h.pca = some pca) {last : Axis → Option (Ext ℝ)} (hholds : Holds d p last h)
    (hp : Sane p) : Holds d p last h' ∧ Raises (act d) (BusError R) t ∧
      ((∀ ev ∈ t, ev.call.op = .deinit → ev.raised = none) → ¬Asleep (d.reg h.chip) → ¬Asleep (d.reg h'.chip)) := by
  induction hrun with
  | nil => exact ⟨hholds, Raises.nil, fun _ hawake => hawake⟩
  | @cons w w' w'' ev t hdoes hrun ih =>
    obtain ⟨hev, hrest⟩ := List.forall_mem_cons.1 ht
    obtain ⟨⟨phase, op⟩, o⟩ := ev
    rcases hev with hop | hidle
    · obtain rfl : op = .deinit := hop
      obtain ⟨pca, hpca⟩ := hpca
      obtain ⟨hok, herror⟩ := hdoes.spec rfl (deinit_spec hd hpca _ rfl)
      have hchip : ∃ chip, w' = { w with chip := chip } ∧ SameOff (d.reg w.chip) 0 1 (d.reg chip) ∧
          (o = none → ¬Asleep (d.reg chip)) := by
        cases o with
        | none =>
          obtain ⟨chip, hw, hmode, hoff⟩ := hok rfl
          exact ⟨chip, hw, hoff, fun _ => (not_asleep_of_reset hmode).1⟩
        | some e =>
          obtain ⟨chip, hw, -, hoff⟩ := herror e rfl
          exact ⟨chip, hw, hoff, fun h => absurd h (Option.some_ne_none e)⟩
      obtain ⟨chip, rfl, hoff, hawake⟩ := hchip
      have hholds' : Holds d p last { w with chip := chip } := by
        intro axis a ha
        obtain ⟨θ, rfl, hθ, hprescale, hpwm⟩ := hholds axis a ha
        refine ⟨θ, rfl, hθ, ?_, ?_⟩
        · rw [hoff prescaleReg (by decide), hprescale]
        · rw [← hpwm]
          exact (OnlyModes.of_mode1 hoff).pwm_eq (hp.toNat_channel axis).2
      obtain ⟨hholds, hraises, hrun⟩ := ih hrest ⟨pca, hpca⟩ hholds'
      refine ⟨hholds, hraises.cons fun _ e he => ?_, fun hok _ => ?_⟩
      · obtain ⟨_, -, he, -⟩ := herror e he
        exact Or.inl he
      · obtain ⟨hreturned, hok⟩ := List.forall_mem_cons.1 hok
        exact hrun hok (hawake (hreturned rfl))
    · have hact : act d ⟨phase, op⟩ = none := (perform_eq_none_iff d op).2 hidle
      obtain rfl : w' = w := hdoes.eq_of_other hact
      obtain ⟨hholds, hraises, hrun⟩ := ih hrest hpca hholds
      exact ⟨hholds, hraises.cons fun hcall => absurd hact hcall,
        fun hok => hrun fun ev hev => hok ev (List.mem_cons_of_mem _ hev)⟩

/-! ## On a reliable bus -/

section Reliable

variable (hd : IsPCA9685 d fun _ => False) {p : ServoParams ℝ} {t : Trace (Ext ℝ)}

include hd

theorem steady_exists (hp : Sane p) (ht : ∀ ev ∈ t, Steady p ev.call.op)
    (hok : ∀ ev ∈ t, OnBoard ev.call.op → ev.raised = none) {h : Hardware δ} (hready : Ready d p h) :
    ∃ h', Replays (act d) h t h' := by
  induction t generalizing h with
  | nil => exact ⟨h, Replays.nil⟩
  | cons ev t ih =>
    obtain ⟨hev, hrest⟩ := List.forall_mem_cons.1 ht
    obtain ⟨hevok, hrestok⟩ := List.forall_mem_cons.1 hok
    obtain ⟨⟨phase, op⟩, o⟩ := ev
    rcases hev with hidle | ⟨axis, θ, hop, hθ⟩
    · obtain ⟨h', hrun⟩ := ih hrest hrestok hready
      exact ⟨h', Replays.cons (Does.other ((perform_eq_none_iff d op).2 hidle)) hrun⟩
    · obtain rfl : op = _ := hop
      obtain rfl : o = none := hevok trivial
      obtain ⟨hcast, hk⟩ := hp.toNat_channel axis
      have hservo : h.servo axis = some (nodeServo (axis.channel p).toNat) := by rw [hready.servo, hcast]
      have hangle := hp.actuationRange hθ
      have hact : act d (⟨phase, .angle axis (.fin θ)⟩ : Site (Ext ℝ)) = some (Hardware.setAngle d axis (.fin θ)) := rfl
      obtain ⟨h1, hdoes, -⟩ := Does.of_outcome hact (setAngle_board_spec hd hservo hk hready.tuned hangle h rfl)
        (by rintro e w ⟨_, -, he, -⟩; exact he)
      have hnothing : Holds d p (fun _ => none) h := fun axis a ha => absurd ha (Option.some_ne_none a).symm
      obtain ⟨h', hrun⟩ := ih hrest hrestok (command_step hd hp hθ hready hnothing hdoes).1
      exact ⟨h', Replays.cons hdoes hrun⟩

theorem released_exists (ht : ∀ ev ∈ t, ev.call.op = .deinit ∨ ¬OnBoard ev.call.op)
    (hok : ∀ ev ∈ t, OnBoard ev.call.op → ev.raised = none) {h : Hardware δ} (hpca : ∃ pca, h.pca = some pca) :
    ∃ h', Replays (act d) h t h' := by
  induction t generalizing h with
  | nil => exact ⟨h, Replays.nil⟩
  | cons ev t ih =>
    obtain ⟨hev, hrest⟩ := List.forall_mem_cons.1 ht
    obtain ⟨hevok, hrestok⟩ := List.forall_mem_cons.1 hok
    obtain ⟨⟨phase, op⟩, o⟩ := ev
    rcases hev with hop | hidle
    · obtain rfl : op = .deinit := hop
      obtain rfl : o = none := hevok trivial
      obtain ⟨pca, hpca⟩ := hpca
      have hact : act d (⟨phase, .deinit⟩ : Site (Ext ℝ)) = some (Hardware.deinit d) := rfl
      obtain ⟨_, hdoes, chip, rfl, -⟩ := Does.of_outcome hact (deinit_spec hd hpca h rfl)
        (by rintro e w ⟨_, -, he, -⟩; exact he)
      obtain ⟨h', hrun⟩ := ih hrest hrestok (h := { h with chip := chip }) ⟨pca, hpca⟩
      exact ⟨h', Replays.cons hdoes hrun⟩
    · obtain ⟨h', hrun⟩ := ih hrest hrestok hpca
      exact ⟨h', Replays.cons (Does.other ((perform_eq_none_iff d op).2 hidle)) hrun⟩

end Reliable

end VitaminD.Driver
