/-
The constants that several parts of the program compute with, as numerals of any number type: the 2 of the filter's
coefficients, the 4096 counts of a PWM period and the million microseconds of a second. A numeral from 2 on is read as a
cast from the naturals, and these say which ones are.
-/
import Mathlib.Data.Nat.Init

namespace VitaminD

instance atLeastTwo_two : Nat.AtLeastTwo 2 := ⟨Nat.le_refl 2⟩

instance atLeastTwo_4096 : Nat.AtLeastTwo 4096 := ⟨by decide⟩

instance atLeastTwo_million : Nat.AtLeastTwo 1000000 := ⟨by decide⟩

end VitaminD
