/-!
# Layout of text

How text is aligned, cut off and decorated, in which direction content flows, and along
which axis children are stacked. Each is read off a token; what an unknown token means
differs from one to the next.
-/

set_option autoImplicit false

namespace ViewStyle

inductive TextAlignment where
  | left
  | center
  | right
  | justify
  /-- Follow the reading order of the content. -/
  | detectFromContent
  deriving DecidableEq, Repr, Inhabited

namespace TextAlignment

def name : TextAlignment → String
  | left => "Left"
  | center => "Center"
  | right => "Right"
  | justify => "Justify"
  | detectFromContent => "DetectFromContent"

/-- The alignment of a token. An unknown one leaves it to the content. -/
def ofToken : String → TextAlignment
  | "left" => left
  | "center" => center
  | "right" => right
  | "justify" => justify
  | _ => detectFromContent

end TextAlignment

/-- What becomes of text that does not fit. -/
inductive TextTrimming where
  | none
  | clip
  | characterEllipsis
  deriving DecidableEq, Repr, Inhabited

namespace TextTrimming

def name : TextTrimming → String
  | none => "None"
  | clip => "Clip"
  | characterEllipsis => "CharacterEllipsis"

/-- The trimming mode of a token. An ellipsis stands at the end wherever it was asked for, and an
unknown token asks for no trimming. -/
def ofToken : String → TextTrimming
  | "clip" => clip
  | "head" | "middle" | "tail" => characterEllipsis
  | _ => none

end TextTrimming

structure TextDecorations where
  underline : Bool := false
  strikethrough : Bool := false
  deriving DecidableEq, Repr, Inhabited

namespace TextDecorations

def every : TextDecorations := ⟨true, true⟩

/-- The decorations as a number: one for the underline, two for the line through the text. -/
def bits (decorations : TextDecorations) : Nat :=
  decorations.underline.toNat + 2 * decorations.strikethrough.toNat

/-- The decorations of a token. An unknown one draws no line. -/
def ofToken : String → TextDecorations
  | "underline" => ⟨true, false⟩
  | "line-through" => ⟨false, true⟩
  | "underline line-through" => ⟨true, true⟩
  | _ => ⟨false, false⟩

end TextDecorations

inductive FlowDirection where
  | leftToRight
  | rightToLeft
  deriving DecidableEq, Repr, Inhabited

namespace FlowDirection

def name : FlowDirection → String
  | leftToRight => "LeftToRight"
  | rightToLeft => "RightToLeft"

/-- The direction of a token. An unknown one names no direction of the view's own. -/
def ofToken? : String → Option FlowDirection
  | "ltr" => some leftToRight
  | "rtl" => some rightToLeft
  | _ => none

end FlowDirection

/-- The axis along which children are stacked. -/
inductive Orientation where
  | horizontal
  | vertical
  deriving DecidableEq, Repr, Inhabited

namespace Orientation

def name : Orientation → String
  | horizontal => "Horizontal"
  | vertical => "Vertical"

def ofToken? : String → Option Orientation
  | "horizontal" => some horizontal
  | "vertical" => some vertical
  | _ => none

end Orientation

end ViewStyle
