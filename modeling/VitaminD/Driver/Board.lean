/-
What each call of the servo node does to the board, said as triples over the node's hardware.

- `Tuned`: the chip is awake, counts at the 50 Hz of the node and takes whole channels;
- `BusError`: what the board raises of itself;
- `createBoard_spec`, `setFrequency_50_spec`, `takeChannel_spec`, `createServo_spec`, `setAngle_board_spec`,
  `deinit_spec`: one spec for each call.
-/
import VitaminD.Core.World
import VitaminD.Driver.Pulse
import VitaminD.Model.Hardware

namespace VitaminD.Driver

open VitaminD.Registers VitaminD.Hoare VitaminD.PCA9685 VitaminD.Hardware

variable {δ β : Type} {d : Device Exc δ} {R : Exc → Prop}

/-! ## Calls on the chip -/

section OnChip

variable {γ : Type} {h : Hardware δ}

/-- what is done to the chip leaves the node's attributes alone -/
theorem onChip_spec {m : EStateM Exc δ β} {Q : β → δ → Prop} {R' : Exc → δ → Prop}
    (hm : Triple (fun s => d.reg s = d.reg h.chip) m Q R') :
    Triple (fun h' => h' = h) (onChip m) (fun a h' => ∃ chip, h' = { h with chip := chip } ∧ Q a chip)
      (fun e h' => ∃ chip, h' = { h with chip := chip } ∧ R' e chip) := by
  rintro _ rfl
  have hout := hm _ rfl
  unfold onChip
  cases hr : m _ with
  | ok a chip =>
    rw [hr] at hout
    exact ⟨chip, rfl, hout⟩
  | error e chip =>
    rw [hr] at hout
    exact ⟨chip, rfl, hout⟩

/-- an attribute that has been assigned -/
theorem getattr_bind {get : Hardware δ → Option β} {a : β} (ha : get h = some a) {f : β → EStateM Exc (Hardware δ) γ}
    {Q : γ → Hardware δ → Prop} {R' : Exc → Hardware δ → Prop} (hf : Triple (fun h' => h' = h) (f a) Q R') :
    Triple (fun h' => h' = h) (getattr get >>= f) Q R' := by
  have hget : Triple (fun h' => h' = h) (getattr get) (fun a' h' => a' = a ∧ h' = h) R' := by
    rintro _ rfl
    unfold getattr
    rw [ha]
    exact ⟨rfl, rfl⟩
  refine hget.bind fun a' => ?_
  rintro _ ⟨rfl, rfl⟩
  exact hf _ rfl

theorem assign_spec (f : Hardware δ → Hardware δ) (R' : Exc → Hardware δ → Prop) :
    Triple (fun h' => h' = h) (assign f) (fun _ h' => h' = f h) R' := by
  rintro _ rfl
  exact rfl

end OnChip

/-! ## Calls of the node -/

/-- the chip is awake, counts at the frequency that the node asks for, and takes the registers of a channel in one
transfer -/
structure Tuned (r : ℕ → UInt8) : Prop where
  autoIncrement : AutoIncrement r
  awake : ¬Asleep r
  prescale : (r prescaleReg).toNat = 121

theorem Tuned.onlyChannel {r r' : ℕ → UInt8} {k : ℕ} (h : Tuned r) (hk : k < 16) (h' : OnlyChannel k r r') : Tuned r' :=
  ⟨h'.autoIncrement h.autoIncrement, by rw [Asleep, h'.mode_eq]; exact h.awake, by rw [h'.prescale_eq hk, h.prescale]⟩

theorem prescale_board {α : Type} [Field α] [LinearOrder α] [IsStrictOrderedRing α] [FloorRing α] :
    board.prescale (50 : α) = 121 := by
  have hfloor : ⌊(board.unscaled / 50 + 0.5 : α)⌋ = 122 := by
    rw [Int.floor_eq_iff]
    constructor <;> norm_num [PCA9685.unscaled, board]
  rw [PCA9685.prescale, pyInt_of_nonneg, hfloor]
  · rfl
  · norm_num [PCA9685.unscaled, board]

/-- what the constructor of the driver raises when nothing answers -/
def noDevice : Exc := .valueError "No I2C device at address: 0x40"

/-- what the board raises of itself: what the bus raises, and what the driver makes of an `OSError` -/
def BusError (R : Exc → Prop) (e : Exc) : Prop := R e ∨ (∃ name, R (.osError name)) ∧ e = noDevice

theorem probeForDevice_spec (hd : IsPCA9685 d R) (r : ℕ → UInt8) :
    Triple (fun s => d.reg s = r) (probeForDevice d) (fun _ s => d.reg s = r)
      (fun e s => BusError R e ∧ d.reg s = r) := by
  unfold probeForDevice
  refine Triple.tryCatch (hd.writeNothing r) fun e => Triple.ite (fun _ => ?_) fun _ => Triple.throw ?_
  · refine Triple.tryCatch ((hd.readByte r).pre fun _ hs => hs.2) fun e => ?_
    refine Triple.ite (fun he => Triple.throw ?_) fun _ => Triple.throw ?_
    · intro s ⟨hR, hs⟩
      cases e with
      | osError name => exact ⟨Or.inr ⟨⟨name, hR⟩, rfl⟩, hs⟩
      | _ => cases he
    · exact fun s hs => ⟨Or.inl hs.1, hs.2⟩
  · exact fun s hs => ⟨Or.inl hs.1, hs.2⟩

theorem not_asleep_of_reset {r : ℕ → UInt8} (h : r 0 &&& 0x30 = 0) : ¬Asleep r ∧ ¬AutoIncrement r := by
  have hbits := mode_bit (show r 0 &&& 0x30 = 0 &&& 0x30 from h)
  exact ⟨fun hsleep => hsleep hbits.1, fun hai => hai hbits.2⟩

theorem reset_spec (hd : IsPCA9685 d R) (r : ℕ → UInt8) :
    Triple (fun s => d.reg s = r) (reset d) (fun _ s => d.reg s 0 &&& 0x30 = 0 ∧ SameOff r 0 1 (d.reg s))
      (fun e s => R e ∧ SameOff r 0 1 (d.reg s)) :=
  setMode1_spec hd r (show 0 < 256 by decide)

/-- a new driver object, on a chip that is awake; the registers of the channels are what they were -/
theorem init_board_spec (hd : IsPCA9685 d R) (r : ℕ → UInt8) :
    Triple (fun s => d.reg s = r) (PCA9685.init d)
      (fun pca s => pca = board ∧ ¬Asleep (d.reg s) ∧ SameOff r 0 1 (d.reg s))
      (fun e s => BusError R e ∧ SameOff r 0 1 (d.reg s)) := by
  unfold PCA9685.init
  refine ((probeForDevice_spec hd r).raises ?_).bind fun _ => ?_
  · intro e s ⟨he, hs⟩
    exact ⟨he, fun x _ => congrFun hs x⟩
  refine ((reset_spec hd r).raises ?_).bind fun _ => Triple.pure ?_
  · intro e s ⟨he, hs⟩
    exact ⟨Or.inl he, hs⟩
  · rintro s ⟨hmode, hs⟩
    exact ⟨rfl, (not_asleep_of_reset hmode).1, hs⟩

section Calls

variable {α : Type} [Field α] [LinearOrder α] [IsStrictOrderedRing α] [FloorRing α] {h : Hardware δ}

theorem createBoard_spec (hd : IsPCA9685 d R) (h : Hardware δ) :
    Triple (fun h' => h' = h) (createBoard d) (fun _ h' => h'.pca = some board ∧ ¬Asleep (d.reg h'.chip))
      (fun e _ => BusError R e) := by
  unfold createBoard
  refine ((onChip_spec (init_board_spec hd _)).raises ?_).bind fun pca => ?_
  · rintro e _ ⟨chip, -, he, -⟩
    exact he
  · rintro _ ⟨chip, rfl, rfl, hawake, -⟩
    exact ⟨rfl, hawake⟩

theorem setFrequency_50_spec (hd : IsPCA9685 d R) (hpca : h.pca = some board) (hawake : ¬Asleep (d.reg h.chip)) :
    Triple (fun h' => h' = h) (Hardware.setFrequency α d 50)
      (fun _ h' => ∃ chip, h' = { h with chip := chip } ∧ Tuned (d.reg chip)) (fun e _ => R e) := by
  have hset := setFrequency_spec hd (d.reg h.chip) board (50 : α)
  unfold Hardware.setFrequency
  refine getattr_bind hpca ((onChip_spec hset).post ?_ ?_)
  · rintro - _ ⟨chip, rfl, hchip⟩
    refine ⟨chip, rfl, hchip.autoIncrement, fun hsleep => hawake (hchip.asleep.1 hsleep), ?_⟩
    have hprescale := hchip.prescale
    rw [prescale_board] at hprescale
    omega
  · rintro e _ ⟨chip, rfl, ⟨-, ⟨h0, -⟩ | ⟨-, hlow, -⟩⟩ | ⟨hhigh, -⟩ | ⟨he, -⟩⟩
    · norm_num at h0
    · rw [prescale_board] at hlow
      omega
    · rw [prescale_board] at hhigh
      omega
    · exact he

theorem takeChannel_spec {pca pca' : PCA9685} {channel : PWMChannel} {index : ℤ} {axis : Axis} (hpca : h.pca = some pca)
    (htaken : pca.getItem index = .ok (channel, pca')) (R' : Exc → Hardware δ → Prop) :
    Triple (fun h' => h' = h) (takeChannel axis index)
      (fun _ h' => h' =
        { h with pca := some pca', channel := Function.update h.channel axis (some channel) }) R' := by
  unfold takeChannel
  refine getattr_bind hpca ?_
  rw [htaken]
  exact Triple.ofExcept_ok (assign_spec _ _)

theorem createServo_spec (hd : IsPCA9685 d R) {pca : PCA9685} (index : ℤ) {axis : Axis} (hpca : h.pca = some pca)
    (hclock : pca.referenceClockSpeed = 25000000) (hchannel : h.channel axis = some ⟨index⟩)
    (htuned : Tuned (d.reg h.chip)) :
    Triple (fun h' => h' = h) (createServo α d axis 500 2500)
      (fun _ h' => ∃ chip, d.reg chip = d.reg h.chip ∧
        h' = { h with chip := chip, servo := Function.update h.servo axis (some (nodeServo index)) })
      (fun e _ => R e) := by
  have hinit := init_spec (α := α) hd (d.reg h.chip) pca ⟨index⟩ 500 2500
  rw [frequencyOf_50 hclock htuned.prescale, fitted_50] at hinit
  unfold createServo
  refine getattr_bind hpca (getattr_bind hchannel ?_)
  refine ((onChip_spec hinit).raises ?_).bind fun servo => ?_
  · rintro e _ ⟨chip, -, -, hlow | he⟩
    · rw [htuned.prescale] at hlow
      omega
    · exact he
  · rintro _ ⟨chip, rfl, hchip, rfl⟩
    exact ⟨chip, hchip, rfl⟩

theorem setAngle_board_spec (hd : IsPCA9685 d R) {k : ℕ} {axis : Axis} (hservo : h.servo axis = some (nodeServo k))
    (hk : k < 16) (htuned : Tuned (d.reg h.chip)) {a : α} (ha : 0 ≤ a ∧ a ≤ 180) :
    Triple (fun h' => h' = h) (Hardware.setAngle d axis (.fin a))
      (fun _ h' => ∃ chip, h' = { h with chip := chip } ∧
        d.reg chip = setPwm (d.reg h.chip) k (0, dutyAt (nodeServo k) a / 16))
      (fun e h' => ∃ chip, h' = { h with chip := chip } ∧ R e ∧ OnlyChannel k (d.reg h.chip) (d.reg chip)) := by
  have hrange : 0 ≤ a ∧ a ≤ (nodeServo k).actuationRange := by
    norm_num [nodeServo]
    exact ha
  unfold Hardware.setAngle
  exact getattr_bind hservo
    (onChip_spec (setAngle_spec hd htuned.autoIncrement hk rfl (calibrated_nodeServo k) hrange))

theorem deinit_spec (hd : IsPCA9685 d R) {pca : PCA9685} (hpca : h.pca = some pca) :
    Triple (fun h' => h' = h) (Hardware.deinit d)
      (fun _ h' => ∃ chip, h' = { h with chip := chip } ∧ d.reg chip 0 &&& 0x30 = 0 ∧
        SameOff (d.reg h.chip) 0 1 (d.reg chip))
      (fun e h' => ∃ chip, h' = { h with chip := chip } ∧ R e ∧ SameOff (d.reg h.chip) 0 1 (d.reg chip)) := by
  unfold Hardware.deinit
  exact getattr_bind hpca (onChip_spec (reset_spec hd _))

end Calls

end VitaminD.Driver
