import ViewStyle.Value

/-!
# Colours and brushes

A colour is four bytes, packed into a 32-bit number with the opacity on top. A property
receives it as a number, which may be negative, fractional or far too large: its
integer part is held to 64 bits and the low 32 of them are the colour.
-/

set_option autoImplicit false

namespace ViewStyle

structure Color where
  alpha : UInt8
  red : UInt8
  green : UInt8
  blue : UInt8
  deriving DecidableEq, Repr, Inhabited

namespace Color

/-- The colour of a packed number, whose bytes from the top are alpha, red, green and blue. -/
def ofPacked (packed : UInt32) : Color where
  alpha := UInt8.ofNat (packed.toNat >>> 24)
  red := UInt8.ofNat (packed.toNat >>> 16)
  green := UInt8.ofNat (packed.toNat >>> 8)
  blue := UInt8.ofNat packed.toNat

def toPacked (color : Color) : UInt32 :=
  UInt32.ofNat (color.alpha.toNat <<< 24 + color.red.toNat <<< 16 + color.green.toNat <<< 8 +
    color.blue.toNat)

theorem toPacked_ofPacked (packed : UInt32) : (ofPacked packed).toPacked = packed := by
  have bounded := packed.toNat_lt
  apply UInt32.toNat_inj.mp
  simp only [ofPacked, toPacked, UInt8.toNat_ofNat', UInt32.toNat_ofNat']
  omega

def black : Color := ⟨0xFF, 0, 0, 0⟩

end Color

namespace Binary64

/-- The 32 low bits of the integer part of a number. The integer part is first held to the range
of a signed 64-bit word, whose two's complement supplies the bits. -/
def lowWord (x : Binary64) : UInt32 :=
  UInt32.ofInt (x.truncateWithin Int64.minValue.toInt Int64.maxValue.toInt)

end Binary64

/-- What a surface is painted with. -/
inductive Brush where
  | solid (color : Color)
  deriving DecidableEq, Repr, Inhabited

namespace Brush

/-- The brush a border is painted with when it has a width and no colour of its own. -/
def black : Brush := solid .black

/-- The brush of a number read as a packed colour. -/
def ofNumber (x : Binary64) : Brush := solid (.ofPacked x.lowWord)

/-- The brush of a value. Only numbers are colours. -/
def ofValue? (value : Value) : Option Brush := value.number?.map ofNumber

end Brush

end ViewStyle
