/-!
# Double-precision numbers

A number is its 64 bits: a sign, eleven bits of exponent and 52 of fraction.
Comparison, clamping and truncation are stated on exact integers read off those
bits, so nothing is rounded twice and every NaN keeps its payload.
-/

set_option autoImplicit false

namespace ViewStyle

/-- A double-precision number. Values of this type are equal when their bits are;
`Binary64.same` is the comparison of the numbers they stand for. -/
structure Binary64 where
  bits : UInt64
  deriving DecidableEq, Repr, Inhabited

namespace Binary64

def zero : Binary64 := ⟨0⟩

/-- Negative zero, which is the same number as `zero` in other bits. -/
def negativeZero : Binary64 := ⟨0x8000000000000000⟩

def minusOne : Binary64 := ⟨0xBFF0000000000000⟩

/-- The sign bit, set also on negative zero and on half of the NaNs. -/
def signBit (x : Binary64) : Bool := decide (1 <<< 63 ≤ x.bits.toNat)

/-- All bits but the sign. Among numbers of one sign it grows with their distance from zero. -/
def magnitude (x : Binary64) : Nat := x.bits.toNat % (1 <<< 63)

/-- The magnitude of the infinities: the exponent has all bits set, the fraction none. -/
def infiniteMagnitude : Nat := 0x7FF0000000000000

/-- A magnitude past infinity's stands for no number. -/
def isNaN (x : Binary64) : Bool := decide (infiniteMagnitude < x.magnitude)

def isFinite (x : Binary64) : Bool := decide (x.magnitude < infiniteMagnitude)

def isZero (x : Binary64) : Bool := x.magnitude == 0

/-- The place of a number in the order of all doubles. Both zeros have rank 0; the rank of a
NaN means nothing. -/
def rank (x : Binary64) : Int :=
  if x.signBit then -(x.magnitude : Int) else x.magnitude

/-- Equality of numbers: the zeros are equal, and a NaN differs from everything. -/
def same (x y : Binary64) : Bool :=
  !x.isNaN && !y.isNaN && x.rank == y.rank

/-- Order of numbers. A NaN is comparable to nothing. -/
instance : LE Binary64 where
  le x y := x.isNaN = false ∧ y.isNaN = false ∧ x.rank ≤ y.rank

/-- Strict order of numbers. A NaN is comparable to nothing. -/
instance : LT Binary64 where
  lt x y := x.isNaN = false ∧ y.isNaN = false ∧ x.rank < y.rank

theorem le_def (x y : Binary64) :
    x ≤ y ↔ x.isNaN = false ∧ y.isNaN = false ∧ x.rank ≤ y.rank := Iff.rfl

theorem lt_def (x y : Binary64) :
    x < y ↔ x.isNaN = false ∧ y.isNaN = false ∧ x.rank < y.rank := Iff.rfl

instance (x y : Binary64) : Decidable (x ≤ y) := decidable_of_iff _ (le_def x y).symm

instance (x y : Binary64) : Decidable (x < y) := decidable_of_iff _ (lt_def x y).symm

/-- The larger of a number and zero. NaN and negative zero become positive zero. -/
def clampNegative (x : Binary64) : Binary64 :=
  if zero < x then x else zero

def exponentField (x : Binary64) : Nat := x.magnitude >>> 52

def fractionField (x : Binary64) : Nat := x.magnitude % (1 <<< 52)

/-- The distance from zero, counted in steps of `2 ^ -1074`, the least positive double. Numbers
with a zero exponent field have no hidden leading bit. The infinities count as `2 ^ 1024`. -/
def steps (x : Binary64) : Nat :=
  if x.exponentField = 0 then x.fractionField
  else (1 <<< 52 + x.fractionField) <<< (x.exponentField - 1)

/-- The number of steps in one unit. -/
def stepsPerUnit : Nat := 1 <<< 1074

/-- The integer part, rounded toward zero. NaN has the integer part 0; the infinities lie past
every machine word. -/
def truncate (x : Binary64) : Int :=
  if x.isNaN then 0
  else if x.signBit then -((x.steps / stepsPerUnit : Nat) : Int)
  else ((x.steps / stepsPerUnit : Nat) : Int)

/-- The integer part held between two bounds. -/
def truncateWithin (low high : Int) (x : Binary64) : Int :=
  max low (min high x.truncate)

/-- The integer a finite number equals, if it equals one. -/
def toInt? (x : Binary64) : Option Int :=
  if x.isFinite && x.steps % stepsPerUnit == 0 then some x.truncate else none

end Binary64

end ViewStyle
