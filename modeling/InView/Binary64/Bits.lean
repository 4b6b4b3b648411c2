import InView.Binary64.Basic

/-!
# The interchange encoding

A binary64 number as 64 bits: a sign bit, eleven exponent bits and 52 fraction bits.  Below the
all-ones exponent a word without its sign bit counts the magnitudes upwards from zero: the first
`2 ^ 52` words are the magnitudes below `2 ^ 52` units, and each further block of `2 ^ 52` words
covers the next power of two.
-/

namespace InView.Binary64

attribute [local instance] natPow

/-- The number of words in a block, and the number of units it starts from. -/
def block : Nat := 2 ^ (52 : Nat)

/-- The word of infinity, the first whose exponent bits are all ones. -/
def infinityWord : Nat := 2047 * block

/-- The sign bit. -/
def signBit : Nat := 2 ^ (63 : Nat)

theorem fits_block (exponent fraction : Nat) (he : exponent < 2047) (hf : fraction < block) :
    Fits ((block + fraction) * 2 ^ (exponent - 1)) :=
  fits_mul_two_pow (by unfold block at *; omega) (by unfold greatestShift; omega)

theorem fits_first_block (fraction : Nat) (hf : fraction < block) : Fits fraction := by
  have small : fraction < 2 ^ 53 := by unfold block at *; omega
  simpa using fits_mul_two_pow (j := 0) small (Nat.zero_le _)

/-- The number that 64 bits encode.  All encodings of `nan` are one number. -/
def ofBits (word : UInt64) : Binary64 :=
  let negative := decide (signBit ≤ word.toNat)
  let exponent := word.toNat % signBit / block
  let fraction := word.toNat % block
  have hf : fraction < block := Nat.mod_lt _ (by decide)
  if he : exponent < 2047 then
    if exponent = 0 then
      .finite negative fraction (fits_first_block fraction hf)
    else
      .finite negative ((block + fraction) * 2 ^ (exponent - 1)) (fits_block _ _ he hf)
  else if fraction = 0 then .infinite negative
  else .nan

/-- The word of a magnitude: its significand in the block of its leading bit. -/
def magnitudeWord (units : Nat) : Nat :=
  if units < block then units
  else (units.log2 - 52) * block + units / spacing units

/-- The 64 bits of a number; a quiet word for `nan`. -/
def toBits : Binary64 → UInt64
  | .nan => .ofNat (infinityWord + block / 2)
  | .infinite negative => .ofNat (negative.toNat * signBit + infinityWord)
  | .finite negative units _ => .ofNat (negative.toNat * signBit + magnitudeWord units)

end InView.Binary64
