/-
What the driver relies on of the chip, said of its registers and of the transfers that the driver makes: SLEEP and AI in
MODE1 are kept as written, PRE_SCALE takes a value of 3 or more while the chip sleeps, and with AI set one transfer
reads or writes the four registers of a channel, whose words are counts of at most 0x1000. A transfer that raises may
have spoilt the registers it was addressed to, and no others.

- `IsPCA9685`: these properties, for a bus whose transfers raise nothing but what R allows;
- `registerFile`: a chip whose bus never raises, with bits that cannot be written and addresses that start over, and
  `isPCA9685_registerFile` that it has them;
- `powerUp`: what its registers hold at first.
-/
import VitaminD.Core.Hoare
import VitaminD.Model.AdafruitServo

namespace VitaminD.Driver

open VitaminD.Registers VitaminD.Hoare

/-! ## What the chip promises -/

/-- AI: the address goes on with every byte -/
def AutoIncrement (r : ℕ → UInt8) : Prop := r 0 &&& 0x20 ≠ 0

/-- SLEEP: the oscillator is off, and with it every output -/
def Asleep (r : ℕ → UInt8) : Prop := r 0 &&& 0x10 ≠ 0

instance (r : ℕ → UInt8) : Decidable (AutoIncrement r) := inferInstanceAs (Decidable (_ ≠ _))

instance (r : ℕ → UInt8) : Decidable (Asleep r) := inferInstanceAs (Decidable (_ ≠ _))

variable {δ : Type}

/-- the registers are r but for the addresses from a to b -/
def SameOff (r : ℕ → UInt8) (a b : ℕ) (r' : ℕ → UInt8) : Prop := ∀ x, x < a ∨ b ≤ x → r' x = r x

structure IsPCA9685 (d : Device Exc δ) (R : Exc → Prop) : Prop where
  readMode : ∀ r a, a = 0x00 ∨ a = 0xFE → Triple (fun s => d.reg s = r) (d.read a 1)
    (fun v s => d.reg s = r ∧ v = Vector.ofFn fun i => r (a + i)) (fun e s => R e ∧ d.reg s = r)
  readChannel : ∀ r k, AutoIncrement r → k < 16 → Triple (fun s => d.reg s = r) (d.read (0x06 + 4 * k) 4)
    (fun v s => d.reg s = r ∧ v = Vector.ofFn fun i => r (0x06 + 4 * k + i)) (fun e s => R e ∧ d.reg s = r)
  writeMode1 : ∀ r b, Triple (fun s => d.reg s = r) (d.write 0x00 [b])
    (fun _ s => d.reg s 0 &&& 0x30 = b &&& 0x30 ∧ SameOff r 0 1 (d.reg s)) (fun e s => R e ∧ SameOff r 0 1 (d.reg s))
  writePrescale : ∀ r b, Asleep r → 3 ≤ b → Triple (fun s => d.reg s = r) (d.write 0xFE [b])
    (fun _ s => d.reg s = overwrite r 0xFE [b]) (fun e s => R e ∧ SameOff r 0xFE 0xFF (d.reg s))
  writeChannel : ∀ r k on off, AutoIncrement r → k < 16 → on ≤ 0x1000 → off ≤ 0x1000 →
    Triple (fun s => d.reg s = r) (d.write (0x06 + 4 * k) (le16 on ++ le16 off))
      (fun _ s => d.reg s = overwrite r (0x06 + 4 * k) (le16 on ++ le16 off))
      (fun e s => R e ∧ SameOff r (0x06 + 4 * k) (0x06 + 4 * k + 4) (d.reg s))
  writeNothing : ∀ r, Triple (fun s => d.reg s = r) d.writeNothing (fun _ s => d.reg s = r)
    (fun e s => R e ∧ d.reg s = r)
  readByte : ∀ r, Triple (fun s => d.reg s = r) d.readByte (fun _ s => d.reg s = r) (fun e s => R e ∧ d.reg s = r)

/-! ## A chip -/

/-- the high byte of a count, of which bits 7 to 5 cannot be written -/
def IsHigh (a : ℕ) : Prop := 0x06 ≤ a ∧ a < 0x46 ∧ a % 2 = 1

instance (a : ℕ) : Decidable (IsHigh a) := inferInstanceAs (Decidable (_ ∧ _))

/-- one byte to one register; RESTART clears itself, EXTCLK stays once set, and PRE_SCALE is at least 3 -/
def poke (r : ℕ → UInt8) (a : ℕ) (b : UInt8) : ℕ → UInt8 :=
  if a = 0x00 then overwrite r a [(b &&& 0x7F) ||| (r a &&& 0x40)]
  else if a = 0xFE then if Asleep r then overwrite r a [if b < 3 then 3 else b] else r
  else if IsHigh a then overwrite r a [b &&& 0x1F]
  else overwrite r a [b]

/-- where the next byte goes: with AI, after the last register of the channels it starts over -/
def nextAddress (r : ℕ → UInt8) (a : ℕ) : ℕ := if AutoIncrement r then if a = 0x45 then 0x00 else a + 1 else a

def pokeAll (r : ℕ → UInt8) (a : ℕ) : List UInt8 → ℕ → UInt8
  | [] => r
  | b :: bs => pokeAll (poke r a b) (nextAddress r a) bs

/-- a chip whose bus never raises -/
def registerFile : Device Exc (ℕ → UInt8) where
  reg r := r
  write a data := fun r => .ok () (pokeAll r a data)
  read a _ := fun r => .ok (Vector.ofFn fun i => r ((nextAddress r)^[i] a)) r
  writeNothing := fun r => .ok () r
  readByte := fun r => .ok () r

/-- after power-up: asleep, at 200 Hz, and every channel off -/
def powerUp (a : ℕ) : UInt8 :=
  if a = 0x00 then 0x11 else if a = 0x01 then 0x04 else if a = 0x02 then 0xE2 else if a = 0x03 then 0xE4
  else if a = 0x04 then 0xE8 else if a = 0x05 then 0xE0 else if a = 0xFE then 0x1E
  else if IsHigh a ∧ a % 4 = 1 then 0x10 else 0x00

@[simp] theorem registerFile_reg (r : ℕ → UInt8) : registerFile.reg r = r := rfl

theorem overwrite_cons (r : ℕ → UInt8) (a : ℕ) (b : UInt8) (bs : List UInt8) :
    overwrite (overwrite r a [b]) (a + 1) bs = overwrite r a (b :: bs) := by
  funext x
  rcases Nat.lt_trichotomy x a with h | rfl | h
  · rw [overwrite_of_lt _ (by omega), overwrite_of_lt _ h, overwrite_of_lt _ h]
  · rw [overwrite_of_lt _ (by omega)]
    simp [overwrite]
  · obtain ⟨i, rfl⟩ := Nat.exists_eq_add_of_lt h
    have hidx : a + i + 1 = a + 1 + i := by omega
    by_cases hi : i < bs.length
    · rw [hidx, overwrite_add _ hi, ← hidx, Nat.add_assoc, overwrite_add _ (by simpa using hi), List.getElem_cons_succ]
    · rw [overwrite_of_le _ (by omega), overwrite_of_le _ (by simp), overwrite_of_le _ (by simp; omega)]

/-- bytes for registers of the channels, with nothing in the bits that cannot be written -/
theorem pokeAll_channels (r : ℕ → UInt8) (data : List UInt8) (h : AutoIncrement r) {a : ℕ} (ha : 0x06 ≤ a)
    (hdata : a + data.length ≤ 0x46)
    (hhigh : ∀ (i : ℕ) (hi : i < data.length), IsHigh (a + i) → data[i] &&& 0x1F = data[i]) :
    pokeAll r a data = overwrite r a data := by
  induction data generalizing r a with
  | nil =>
    funext x
    simp [pokeAll, overwrite]
  | cons b bs ih =>
    rw [List.length_cons] at hdata
    have hpoke : poke r a b = overwrite r a [b] := by
      rw [poke, if_neg (by omega), if_neg (by omega)]
      split_ifs with hbyte
      · rw [show b &&& 0x1F = b from hhigh 0 (by simp) hbyte]
      · rfl
    have hai : AutoIncrement (overwrite r a [b]) := by
      rw [AutoIncrement, overwrite_of_lt _ (by omega)]
      exact h
    rw [pokeAll, nextAddress, if_pos h, hpoke]
    cases bs with
    | nil => rfl
    | cons b' bs =>
      rw [List.length_cons] at hdata
      rw [if_neg (by omega), ih _ hai (by omega) (by rw [List.length_cons]; omega), overwrite_cons]
      intro i hi hbyte
      exact hhigh (i + 1) (by simpa using hi) (by rwa [Nat.add_comm i, ← Nat.add_assoc])

theorem or_and_mask (a b c : UInt8) : (a ||| b) &&& c = (a &&& c) ||| (b &&& c) := by
  apply UInt8.toBitVec_inj.1
  rw [UInt8.toBitVec_and, UInt8.toBitVec_or, UInt8.toBitVec_or, UInt8.toBitVec_and, UInt8.toBitVec_and]
  exact BitVec.and_or_distrib_right

/-- the high byte of a count -/
theorem high_and_mask {n : ℕ} (h : n ≤ 0x1000) : UInt8.ofNat (n / 256) &&& 0x1F = UInt8.ofNat (n / 256) := by
  have hbyte : ∀ m ≤ 16, UInt8.ofNat m &&& 0x1F = UInt8.ofNat m := by decide
  exact hbyte _ (by omega)

theorem isPCA9685_registerFile : IsPCA9685 registerFile fun _ => False where
  readMode r a _ := by
    rintro s rfl
    refine ⟨rfl, ?_⟩
    congr 1
    funext i
    simp
  readChannel r k h hk := by
    rintro s rfl
    refine ⟨rfl, ?_⟩
    congr 1
    funext i
    rw [registerFile_reg] at h ⊢
    have hnext (j : ℕ) (hj : j < 4) : (nextAddress s)^[j] (0x06 + 4 * k) = 0x06 + 4 * k + j := by
      induction j with
      | zero => rfl
      | succ j ih =>
        rw [Function.iterate_succ_apply', ih (by omega), nextAddress, if_pos h, if_neg (by omega), Nat.add_assoc]
    rw [hnext i i.isLt]
  writeMode1 r b := by
    rintro s rfl
    refine ⟨?_, ?_⟩
    · show ((b &&& 0x7F) ||| (s 0 &&& 0x40)) &&& 0x30 = b &&& 0x30
      rw [or_and_mask, UInt8.and_assoc, UInt8.and_assoc]
      show b &&& 0x30 ||| s 0 &&& 0 = b &&& 0x30
      rw [UInt8.and_zero, UInt8.or_zero]
    · intro x hx
      show overwrite s 0 _ x = s x
      refine overwrite_of_le s ?_
      rw [List.length_singleton]
      omega
  writePrescale r b hsleep h3 := by
    rintro s rfl
    show poke s 0xFE b = overwrite s 0xFE [b]
    rw [registerFile_reg] at hsleep
    rw [poke, if_neg (by decide), if_pos rfl, if_pos hsleep, if_neg (UInt8.not_lt.2 h3)]
  writeChannel r k on off h hk hon hoff := by
    rintro s rfl
    refine pokeAll_channels s _ h (by omega) ?_ ?_
    · show 6 + 4 * k + 4 ≤ 0x46
      omega
    · rintro i hi ⟨-, -, hodd⟩
      rcases i with _ | _ | _ | _ | i
      · omega
      · exact high_and_mask hon
      · omega
      · exact high_and_mask hoff
      · simp only [le16, List.cons_append, List.nil_append, List.length_cons, List.length_nil] at hi
        omega
  writeNothing r s hs := hs
  readByte r s hs := hs

end VitaminD.Driver
