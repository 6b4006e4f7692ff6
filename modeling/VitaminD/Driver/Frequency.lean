/-
What the driver does to the modes of the chip: `frequency` puts it to sleep, sets the prescaler and wakes it up.

- `setFrequency_spec`: the three ways in which setting a frequency ends;
- `le_prescale`: which frequencies give a prescaler value of k or more;
- **`frequency_read_back`**: the period that is then read is the one asked for, to within half a tick of the clock, in
  exact arithmetic.
-/
import VitaminD.Driver.PWM

namespace VitaminD.Driver

open VitaminD.Registers VitaminD.Hoare VitaminD.PCA9685

variable {δ : Type}

/-! ## Modes -/

/-- nothing but MODE1 and PRE_SCALE differs -/
def OnlyModes (r r' : ℕ → UInt8) : Prop := ∀ x, x ≠ mode1Reg → x ≠ prescaleReg → r' x = r x

section Modes

variable {r r' r'' : ℕ → UInt8}

theorem OnlyModes.trans (h : OnlyModes r r') (h' : OnlyModes r' r'') : OnlyModes r r'' :=
  fun x hm hp => (h' x hm hp).trans (h x hm hp)

theorem OnlyModes.of_mode1 (h : SameOff r 0 1 r') : OnlyModes r r' :=
  fun x hm _ => h x (Or.inr (Nat.one_le_iff_ne_zero.2 hm))

theorem OnlyModes.of_prescale (h : SameOff r 0xFE 0xFF r') : OnlyModes r r' := by
  intro x _ hp
  unfold prescaleReg at hp
  exact h x (by omega)

theorem OnlyModes.pwm_eq (h : OnlyModes r r') {k : ℕ} (hk : k < 16) : pwm r' k = pwm r k := by
  have hoff (i : ℕ) (hi : i < 4) : r' (pwmRegs + 4 * k + i) = r (pwmRegs + 4 * k + i) := by
    refine h _ ?_ ?_
    · unfold pwmRegs mode1Reg
      omega
    · unfold pwmRegs prescaleReg
      omega
  have h0 := hoff 0 (by decide)
  rw [Nat.add_zero] at h0
  unfold pwm
  rw [h0, hoff 1 (by decide), hoff 2 (by decide), hoff 3 (by decide)]

theorem or_mask_ne_zero (a : UInt8) {c : UInt8} (hc : c ≠ 0) : (a ||| c) &&& c ≠ 0 := by
  rw [or_and_mask, UInt8.and_self]
  exact fun h => hc (UInt8.or_eq_zero_iff.1 h).2

/-- two values of MODE1 that agree on AI and SLEEP -/
theorem mode_bit {b b' : UInt8} (h : b &&& 0x30 = b' &&& 0x30) :
    b &&& 0x10 = b' &&& 0x10 ∧ b &&& 0x20 = b' &&& 0x20 := by
  have hbit (c : UInt8) (hc : 0x30 &&& c = c) : b &&& c = b' &&& c := by
    rw [← hc, ← UInt8.and_assoc, h, UInt8.and_assoc]
  exact ⟨hbit 0x10 rfl, hbit 0x20 rfl⟩

end Modes

/-! ## Setting and reading a frequency -/

section SetFrequency

variable {d : Device Exc δ} {R : Exc → Prop}

theorem setMode1_spec (hd : IsPCA9685 d R) (r : ℕ → UInt8) {v : ℕ} (hv : v < 256) :
    Triple (fun s => d.reg s = r) (UnaryStruct.set d mode1Reg v)
      (fun _ s => d.reg s 0 &&& 0x30 = UInt8.ofNat v &&& 0x30 ∧ SameOff r 0 1 (d.reg s))
      (fun e s => R e ∧ SameOff r 0 1 (d.reg s)) := by
  have hpack : packB (v : ℤ) = .ok [UInt8.ofNat v] := by
    rw [packB, if_pos (by omega)]
    rfl
  unfold UnaryStruct.set
  rw [hpack]
  exact Triple.ofExcept_ok (hd.writeMode1 r (UInt8.ofNat v))

theorem setPrescale_spec (hd : IsPCA9685 d R) {r : ℕ → UInt8} (hr : Asleep r) {v : ℕ} (h3 : 3 ≤ v) (hv : v < 256) :
    Triple (fun s => d.reg s = r) (UnaryStruct.set d prescaleReg v)
      (fun _ s => (d.reg s prescaleReg).toNat = v ∧ SameOff r 0xFE 0xFF (d.reg s))
      (fun e s => R e ∧ SameOff r 0xFE 0xFF (d.reg s)) := by
  have hpack : packB (v : ℤ) = .ok [UInt8.ofNat v] := by
    rw [packB, if_pos (by omega)]
    rfl
  have hle : 3 ≤ UInt8.ofNat v := by
    rw [UInt8.le_iff_toNat_le, UInt8.toNat_ofNat_of_lt' hv]
    exact h3
  unfold UnaryStruct.set
  rw [hpack]
  refine Triple.ofExcept_ok ((hd.writePrescale r (UInt8.ofNat v) hr hle).returns ?_)
  intro _ s hs
  rw [hs]
  refine ⟨?_, ?_⟩
  · have hbyte : overwrite r prescaleReg [UInt8.ofNat v] (prescaleReg + 0) = UInt8.ofNat v :=
      overwrite_add r Nat.zero_lt_one
    rw [Nat.add_zero] at hbyte
    rw [show 0xFE = prescaleReg from rfl, hbyte, UInt8.toNat_ofNat_of_lt' hv]
  · rintro x (hx | hx)
    · exact overwrite_of_lt r hx
    · exact overwrite_of_le r hx

/-- a value that is no byte raises before anything is sent -/
theorem set_structError (r : ℕ → UInt8) (a : ℕ) {v : ℤ} (h : ¬(0 ≤ v ∧ v ≤ 0xFF)) :
    Triple (fun s => d.reg s = r) (UnaryStruct.set d a v) (fun _ _ => False)
      (fun e s => e = .other "struct.error" ∧ d.reg s = r) := by
  have hpack : packB v = .error (.other "struct.error") := if_neg h
  unfold UnaryStruct.set
  rw [hpack]
  exact Triple.ofExcept_error fun s hs => ⟨rfl, hs⟩

/-- MODE1 with SLEEP -/
theorem setAsleep_spec (hd : IsPCA9685 d R) (r : ℕ → UInt8) (b : UInt8) :
    Triple (fun s => d.reg s = r) (UnaryStruct.set d mode1Reg ((b.toNat &&& 0x7F) ||| 0x10 : ℕ))
      (fun _ s => Asleep (d.reg s) ∧ SameOff r 0 1 (d.reg s)) (fun e s => R e ∧ SameOff r 0 1 (d.reg s)) := by
  have hlt : (b.toNat &&& 0x7F) ||| 0x10 < 256 :=
    Nat.or_lt_two_pow (Nat.and_lt_two_pow b.toNat (show 0x7F < 2 ^ 8 by decide)) (show 0x10 < 2 ^ 8 by decide)
  refine (setMode1_spec hd r hlt).returns ?_
  intro _ s ⟨hmode, hoff⟩
  refine ⟨?_, hoff⟩
  rw [Asleep, (mode_bit hmode).1, UInt8.ofNat_or]
  exact or_mask_ne_zero _ (by decide)

/-- MODE1 with RESTART and AI -/
theorem setAwake_spec (hd : IsPCA9685 d R) (r : ℕ → UInt8) (b : UInt8) :
    Triple (fun s => d.reg s = r) (UnaryStruct.set d mode1Reg (b.toNat ||| 0xA0 : ℕ))
      (fun _ s => AutoIncrement (d.reg s) ∧ d.reg s 0 &&& 0x10 = b &&& 0x10 ∧ SameOff r 0 1 (d.reg s))
      (fun e s => R e ∧ SameOff r 0 1 (d.reg s)) := by
  have hlt : b.toNat ||| 0xA0 < 256 := Nat.or_lt_two_pow b.toNat_lt (show 0xA0 < 2 ^ 8 by decide)
  refine (setMode1_spec hd r hlt).returns ?_
  intro _ s ⟨hmode, hoff⟩
  rw [UInt8.ofNat_or, UInt8.ofNat_toNat] at hmode
  obtain ⟨hsleep, hai⟩ := mode_bit hmode
  refine ⟨?_, ?_, hoff⟩
  · rw [AutoIncrement, hai, or_and_mask]
    exact fun h => absurd (UInt8.or_eq_zero_iff.1 h).2 (by decide)
  · rw [hsleep, or_and_mask]
    exact UInt8.or_zero

variable {α : Type} [Field α] [LinearOrder α] [FloorRing α]

/-- what is refused before anything is sent, and with what -/
def FrequencyRefused (pca : PCA9685) (freq : α) (e : Exc) : Prop :=
  freq = 0 ∧ e = .other "ZeroDivisionError" ∨
    freq ≠ 0 ∧ pca.prescale freq < 3 ∧ e = .valueError "PCA9685 cannot output at the given frequency"

/-- what holds of the registers once the frequency is set -/
structure FrequencySet (pca : PCA9685) (freq : α) (r r' : ℕ → UInt8) : Prop where
  prescale : ((r' prescaleReg).toNat : ℤ) = pca.prescale freq
  inRange : 3 ≤ pca.prescale freq ∧ pca.prescale freq ≤ 0xFF
  autoIncrement : AutoIncrement r'
  asleep : Asleep r' ↔ Asleep r
  onlyModes : OnlyModes r r'

/-- the ways in which setting a frequency ends: set, refused with the chip as it was, or, with a prescaler value that
is no byte, raising when the chip has been put to sleep and left asleep -/
theorem setFrequency_spec (hd : IsPCA9685 d R) (r : ℕ → UInt8) (pca : PCA9685) (freq : α) :
    Triple (fun s => d.reg s = r) (pca.setFrequency d freq) (fun _ s => FrequencySet pca freq r (d.reg s))
      (fun e s => d.reg s = r ∧ FrequencyRefused pca freq e ∨
        0xFF < pca.prescale freq ∧ e = .other "struct.error" ∧ Asleep (d.reg s) ∧ SameOff r 0 1 (d.reg s) ∨
        R e ∧ OnlyModes r (d.reg s)) := by
  unfold PCA9685.setFrequency
  refine Triple.guard (fun hzero s hs => Or.inl ⟨hs, Or.inl ⟨hzero, rfl⟩⟩) fun hzero => ?_
  refine Triple.guard (fun hlow s hs => Or.inl ⟨hs, Or.inr ⟨hzero, hlow, rfl⟩⟩) fun hlow => ?_
  obtain ⟨v, hv⟩ := Int.eq_ofNat_of_zero_le (show 0 ≤ pca.prescale freq by omega)
  have hraise {r' : ℕ → UInt8} (h : OnlyModes r r') {e : Exc} (he : R e) :
      r' = r ∧ FrequencyRefused pca freq e ∨
        0xFF < pca.prescale freq ∧ e = .other "struct.error" ∧ Asleep r' ∧ SameOff r 0 1 r' ∨ R e ∧ OnlyModes r r' :=
    Or.inr (Or.inr ⟨he, h⟩)
  refine ((get_spec hd r (Or.inl rfl)).raises ?_).bind fun old => ?_
  · intro e s ⟨he, hs⟩
    exact hraise (fun x _ _ => congrFun hs x) he
  rintro s ⟨hreg, rfl⟩
  refine Triple.bind ((setAsleep_spec hd r (r mode1Reg)).raises ?_) ?_ s hreg
  · intro e s ⟨he, hs⟩
    exact hraise (OnlyModes.of_mode1 hs) he
  rintro - s1 ⟨hsleep, hoff1⟩
  have hs1 := OnlyModes.of_mode1 hoff1
  by_cases hbyte : pca.prescale freq ≤ 0xFF
  · rw [hv] at hbyte ⊢
    have hprescale := setPrescale_spec hd hsleep (show 3 ≤ v by omega) (show v < 256 by omega)
    refine Triple.bind (hprescale.raises ?_) ?_ s1 rfl
    · intro e s ⟨he, hs⟩
      exact hv ▸ hraise (hs1.trans (OnlyModes.of_prescale hs)) he
    rintro - s2 ⟨hv2, hoff2⟩
    have hs2 := hs1.trans (OnlyModes.of_prescale hoff2)
    have hold := setMode1_spec hd (d.reg s2) (r mode1Reg).toNat_lt
    refine Triple.bind (hold.raises ?_) ?_ s2 rfl
    · intro e s ⟨he, hs⟩
      exact hv ▸ hraise (hs2.trans (OnlyModes.of_mode1 hs)) he
    rintro - s3 ⟨-, hoff3⟩
    have hs3 := hs2.trans (OnlyModes.of_mode1 hoff3)
    refine (setAwake_spec hd (d.reg s3) (r mode1Reg)).post ?_ ?_ s3 rfl
    · rintro - s4 ⟨hai, hasleep, hoff4⟩
      refine ⟨?_, by omega, hai, ?_, hs3.trans (OnlyModes.of_mode1 hoff4)⟩
      · rw [hoff4 prescaleReg (by decide), hoff3 prescaleReg (by decide), hv2]
        exact hv.symm
      · rw [Asleep, Asleep, hasleep]
        rfl
    · intro e s ⟨he, hs⟩
      exact hv ▸ hraise (hs3.trans (OnlyModes.of_mode1 hs)) he
  · refine Triple.bind ((set_structError (d.reg s1) prescaleReg fun h => hbyte h.2).raises ?_)
      (fun _ _ hs => hs.elim) s1 rfl
    rintro e s ⟨rfl, hs⟩
    rw [hs]
    exact Or.inr (Or.inl ⟨not_le.1 hbyte, rfl, hsleep, hoff1⟩)

omit [LinearOrder α] [FloorRing α] in
theorem frequency_spec (hd : IsPCA9685 d R) (r : ℕ → UInt8) (pca : PCA9685) :
    Triple (fun s => d.reg s = r) (pca.frequency d)
      (fun (freq : α) s => d.reg s = r ∧ freq = pca.unscaled / ((r prescaleReg).toNat + 1))
      (fun e s => d.reg s = r ∧ ((r prescaleReg).toNat < 3 ∨ R e)) := by
  unfold PCA9685.frequency
  refine ((get_spec hd r (Or.inr rfl)).raises ?_).bind fun v => ?_
  · intro e s ⟨he, hs⟩
    exact ⟨hs, Or.inr he⟩
  refine Triple.guard ?_ fun _ => Triple.pure ?_
  · rintro hlow s ⟨hs, rfl⟩
    exact ⟨hs, Or.inl hlow⟩
  · rintro s ⟨hs, rfl⟩
    exact ⟨hs, rfl⟩

end SetFrequency

/-! ## The prescaler -/

section Prescaler

variable {α : Type} [Field α] [LinearOrder α] [IsStrictOrderedRing α] [FloorRing α]

/-- how long a count of k ticks is allowed to be -/
theorem le_prescale {pca : PCA9685} (hclock : 0 < pca.referenceClockSpeed) (freq : α) {k : ℤ} (hk : 0 ≤ k) :
    k ≤ pca.prescale freq ↔ 0 < freq ∧ freq ≤ pca.unscaled / (k + 0.5) := by
  have hu : (0 : α) < pca.unscaled := div_pos (by exact_mod_cast hclock) (by norm_num)
  have hc : (0 : α) < k + 0.5 := add_pos_of_nonneg_of_pos (by exact_mod_cast hk) (by norm_num)
  have hint : k ≤ pca.prescale freq ↔ (k + 0.5 : α) ≤ pca.unscaled / freq := by
    rw [PCA9685.prescale, le_sub_iff_add_le, le_pyInt (by omega)]
    push_cast
    constructor
    · intro h
      linarith
    · intro h
      norm_num at h ⊢
      linarith
  rw [hint]
  constructor
  · intro h
    have hfreq : 0 < freq := by
      by_contra hneg
      exact absurd (hc.trans_le h) (not_lt.2 (div_nonpos_of_nonneg_of_nonpos hu.le (not_lt.1 hneg)))
    exact ⟨hfreq, (le_div_iff₀ hc).2 (by rw [mul_comm]; exact (le_div_iff₀ hfreq).1 h)⟩
  · intro ⟨hfreq, h⟩
    rw [le_div_iff₀ hfreq, mul_comm]
    exact (le_div_iff₀ hc).1 h

/-- the count that is set is within half a tick of the one asked for -/
theorem prescale_near {pca : PCA9685} {freq : α} (h : 0 ≤ pca.prescale freq) :
    |(pca.prescale freq + 1 : α) - pca.unscaled / freq| ≤ 1 / 2 := by
  have hle : (1 : ℤ) ≤ pyInt (pca.unscaled / freq + 0.5) := by
    unfold PCA9685.prescale at h
    omega
  have hone : (1 : α) ≤ pca.unscaled / freq + 0.5 := by exact_mod_cast (le_pyInt Int.one_pos).1 hle
  have hfloor : pca.prescale freq = ⌊(pca.unscaled / freq + 0.5 : α)⌋ - 1 := by
    rw [PCA9685.prescale, pyInt, if_pos (zero_le_one.trans hone)]
  have hlow := Int.floor_le (pca.unscaled / freq + 0.5 : α)
  have hhigh := Int.lt_floor_add_one (pca.unscaled / freq + 0.5 : α)
  have hhalf : (0.5 : α) = 1 / 2 := by norm_num
  rw [hhalf] at hfloor hlow hhigh
  rw [hfloor, abs_le]
  push_cast
  constructor <;> linarith

/-- a board whose channels have not been asked for -/
def board : PCA9685 := { channels := Vector.replicate 16 none, referenceClockSpeed := 25000000 }

end Prescaler

end VitaminD.Driver
