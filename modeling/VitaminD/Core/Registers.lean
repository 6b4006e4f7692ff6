/-
Devices made of byte registers, reached by transfers over a bus: a write sends an address and the bytes for the
registers from there on, a read sends an address and takes back a number of bytes. Any transfer may raise, also one
that sends nothing or takes back a byte without naming an address.

- `overwrite`: the registers after a block has been written, with what is read at every address;
- `word_le16`: two bytes, the low one first, and the number below 65536 that they stand for.
-/
import Mathlib.Tactic

namespace VitaminD.Registers

/-- `reg` is what the device holds, which a program learns only through `read` -/
structure Device (E δ : Type) where
  reg : δ → ℕ → UInt8
  write : ℕ → List UInt8 → EStateM E δ Unit
  read : ℕ → (n : ℕ) → EStateM E δ (Vector UInt8 n)
  writeNothing : EStateM E δ Unit
  readByte : EStateM E δ Unit

/-! ## Blocks -/

/-- the bytes of data at the addresses from a on -/
def overwrite (r : ℕ → UInt8) (a : ℕ) (data : List UInt8) (x : ℕ) : UInt8 :=
  if x < a then r x else (data[x - a]?).getD (r x)

section Overwrite

variable (r : ℕ → UInt8) {a x : ℕ} {data : List UInt8}

theorem overwrite_of_lt (h : x < a) : overwrite r a data x = r x := if_pos h

theorem overwrite_of_le (h : a + data.length ≤ x) : overwrite r a data x = r x := by
  rw [overwrite, if_neg (by omega), List.getElem?_eq_none (by omega), Option.getD_none]

theorem overwrite_add {i : ℕ} (h : i < data.length) : overwrite r a data (a + i) = data[i] := by
  rw [overwrite, if_neg (by omega), Nat.add_sub_cancel_left, List.getElem?_eq_getElem h, Option.getD_some]

end Overwrite

/-! ## Words -/

/-- the two bytes of a number, the low one first -/
def le16 (n : ℕ) : List UInt8 := [UInt8.ofNat n, UInt8.ofNat (n / 256)]

/-- the number of two bytes -/
def word (low high : UInt8) : ℕ := low.toNat + 256 * high.toNat

theorem word_le16 {n : ℕ} (h : n < 65536) : word (UInt8.ofNat n) (UInt8.ofNat (n / 256)) = n := by
  simp only [word, UInt8.toNat_ofNat']
  omega

end VitaminD.Registers
