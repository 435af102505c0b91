/-!
# The magnitude of a numeral

A numeral that is not an integer stands for a double, and one whose double would be infinite
is refused. The reader finds that double without reading every digit exactly:

* it folds digits into a significand for as long as the significand fits an unsigned 64-bit
  word; the first digit that would overflow it ends the folding, and each later digit of the
  integer part only raises the decimal exponent by one;
* a digit of the fraction that still fits lowers the exponent by one; after the first one
  that does not fit, the rest of the fraction is dropped;
* the significand is rounded to a double and multiplied, in doubles, by the double nearest to
  the power of ten; only powers up to 10^308 are at hand.

`exceedsDouble` decides the last step exactly over the naturals: a product of two doubles
rounds to infinity exactly when it is at least halfway from the largest finite double to
2^1024.
-/

namespace Descent.Json

/-- The largest value of an unsigned 64-bit word. -/
def wordMax : Nat := 18446744073709551615

/-- The value of a decimal digit. -/
def digitValue (d : Char) : Nat := d.toNat - '0'.toNat

/-- Digits folded into a significand while it stays within an unsigned 64-bit word: the
significand and how many digits went in. The first digit that would overflow stops it. -/
def absorbDigits (sig : Nat) : List Char → Nat × Nat
  | [] => (sig, 0)
  | d :: ds =>
    let next := sig * 10 + digitValue d
    if wordMax < next then (sig, 0)
    else
      let (s, k) := absorbDigits next ds
      (s, k + 1)

/-- `n` rounded to the nearest number whose binary significand has at most 53 bits, a tie
going to the even significand: the double nearest to `n`, were there no largest double. -/
def roundToDouble (n : Nat) : Nat :=
  let width := n.log2 + 1
  if width ≤ 53 then n
  else
    let unit := Nat.pow 2 (width - 53)
    let q := n / unit
    let r := n % unit
    let q := if unit < 2 * r || (2 * r = unit && q % 2 = 1) then q + 1 else q
    q * unit

/-- Halfway from the largest finite double, (2^53 - 1) * 2^971, to 2^1024: the least
exact value that rounds to infinity. -/
def overflowBound : Nat := Nat.pow 2 1024 - Nat.pow 2 970

/-- Whether the double of `sig * 10 ^ e` is infinite, computed as the reader computes it:
the significand rounded to a double, times the double nearest to `10 ^ e`, rounded. A
negative exponent only divides, and an exponent past 308 has no power at hand, so it
overflows unless the significand is zero. -/
def exceedsDouble (sig : Nat) : Int → Bool
  | .negSucc _ => false
  | .ofNat e =>
    sig != 0 && (308 < e || overflowBound ≤ roundToDouble sig * roundToDouble (Nat.pow 10 e))

end Descent.Json
