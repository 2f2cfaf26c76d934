import ViewStyle.Binary64.Basic

/-!
# Rounding to the nearest double

A ratio of naturals becomes the double nearest to it, and of two equally near ones
the one with the even last bit. Integers and decimals are ratios, so both are
rounded once, from their exact value.
-/

set_option autoImplicit false

namespace ViewStyle

/-- The natural nearest to `numerator / denominator`; a half goes to the even neighbour. -/
def roundHalfEven (numerator denominator : Nat) : Nat :=
  let quotient := numerator / denominator
  let twice := 2 * (numerator % denominator)
  if twice < denominator ∨ (twice = denominator ∧ quotient % 2 = 0) then quotient
  else quotient + 1

namespace Binary64

/-- The magnitude of the double nearest to `numerator / denominator`.

The ratio is counted in steps. When that count has more than 53 bits, the surplus bits are
dropped by rounding and their number is added to the exponent field. A fraction that rounds up to
`2 ^ 53` carries into the exponent by itself, and a carry past the last exponent is infinite. -/
def nearestMagnitude (numerator denominator : Nat) : Nat :=
  let scaled := numerator * stepsPerUnit
  let surplus := (scaled / denominator).log2 - 52
  let rounded := roundHalfEven scaled (denominator <<< surplus)
  min infiniteMagnitude (surplus <<< 52 + rounded)

def ofMagnitude (negative : Bool) (magnitude : Nat) : Binary64 :=
  ⟨UInt64.ofNat ((if negative then 1 <<< 63 else 0) + magnitude)⟩

def ofRatio (negative : Bool) (numerator denominator : Nat) : Binary64 :=
  ofMagnitude negative (nearestMagnitude numerator denominator)

def ofInt (n : Int) : Binary64 :=
  ofRatio (decide (n < 0)) n.natAbs 1

/-- The double nearest to the decimal `digits * 10 ^ exponent` with a given sign. -/
def ofDecimal (negative : Bool) (digits : Nat) (exponent : Int) : Binary64 :=
  if 0 ≤ exponent then ofRatio negative (digits * Nat.pow 10 exponent.toNat) 1
  else ofRatio negative digits (Nat.pow 10 (-exponent).toNat)

end Binary64

end ViewStyle
