import ViewStyle.Box.Edge
import ViewStyle.Box.Corner

/-!
# Property keys and groups

A key is a property as this library understands it, with the slot it writes where it
writes one. Keys that are handled together form a group.
-/

set_option autoImplicit false

namespace ViewStyle

/-- A family of properties handled together. -/
inductive Group where
  | background
  | foreground
  | border
  | padding
  | cornerRadius
  | font
  | textAlignment
  | textTrimming
  | textDecoration
  | flowDirection
  | characterSpacing
  | orientation
  | mouseEvents
  deriving DecidableEq, Repr, Inhabited

namespace Group

def every : List Group :=
  [background, foreground, border, padding, cornerRadius, font, textAlignment, textTrimming,
    textDecoration, flowDirection, characterSpacing, orientation, mouseEvents]

theorem mem_every (group : Group) : group ∈ every := by
  cases group <;> decide

def name : Group → String
  | background => "Background"
  | foreground => "Foreground"
  | border => "Border"
  | padding => "Padding"
  | cornerRadius => "CornerRadius"
  | font => "Font"
  | textAlignment => "TextAlignment"
  | textTrimming => "TextTrimming"
  | textDecoration => "TextDecoration"
  | flowDirection => "FlowDirection"
  | characterSpacing => "CharacterSpacing"
  | orientation => "Orientation"
  | mouseEvents => "MouseEvents"

end Group

/-- A pointer event that a node can ask for. -/
inductive MouseEvent where
  | enter
  | leave
  | move
  deriving DecidableEq, Repr, Inhabited

/-- A property that some group handles. -/
inductive Key where
  | backgroundColor
  | color
  | borderColor
  | borderWidth (edge : Edge)
  | padding (edge : Edge)
  | borderRadius (corner : Corner)
  | fontSize
  | fontFamily
  | fontWeight
  | fontStyle
  | textAlign
  | ellipsizeMode
  | textDecorationLine
  | direction
  | characterSpacing
  | orientation
  | mouse (event : MouseEvent)
  deriving DecidableEq, Repr, Inhabited

namespace Key

def group : Key → Group
  | backgroundColor => .background
  | color => .foreground
  | borderColor | borderWidth _ => .border
  | padding _ => .padding
  | borderRadius _ => .cornerRadius
  | fontSize | fontFamily | fontWeight | fontStyle => .font
  | textAlign => .textAlignment
  | ellipsizeMode => .textTrimming
  | textDecorationLine => .textDecoration
  | direction => .flowDirection
  | characterSpacing => .characterSpacing
  | orientation => .orientation
  | mouse _ => .mouseEvents

/-- The name a key is shown by, with its slot in parentheses. -/
def name : Key → String
  | backgroundColor => "BackgroundColor"
  | color => "Color"
  | borderColor => "BorderColor"
  | borderWidth edge => "BorderWidth(" ++ edge.name ++ ")"
  | padding edge => "Padding(" ++ edge.name ++ ")"
  | borderRadius corner => "BorderRadius(" ++ corner.name ++ ")"
  | fontSize => "FontSize"
  | fontFamily => "FontFamily"
  | fontWeight => "FontWeight"
  | fontStyle => "FontStyle"
  | textAlign => "TextAlign"
  | ellipsizeMode => "EllipsizeMode"
  | textDecorationLine => "TextDecorationLine"
  | direction => "Direction"
  | characterSpacing => "CharacterSpacing"
  | orientation => "Orientation"
  | mouse .enter => "MouseEnter"
  | mouse .leave => "MouseLeave"
  | mouse .move => "MouseMove"

end Key

end ViewStyle
