import ViewStyle.Box.Edge
import ViewStyle.Box.Corner
import ViewStyle.Color
import ViewStyle.FontFace
import ViewStyle.TextLayout

/-!
# Views

A view is the native side: a property that is not set has the toolkit's own default there,
which is not the same as any value that could be set. Only the border thickness always
has a value. Every change to a view is one call of its interface.
-/

set_option autoImplicit false

namespace ViewStyle

structure View where
  background : Option Brush := none
  foreground : Option Brush := none
  borderBrush : Option Brush := none
  borderThickness : Insets := .zero
  padding : Option Insets := none
  cornerRadius : Option Radii := none
  fontSize : Option Binary64 := none
  fontFamily : Option String := none
  fontWeight : Option FontWeight := none
  fontStyle : Option FontStyle := none
  textAlignment : Option TextAlignment := none
  textTrimming : Option TextTrimming := none
  textDecorations : Option TextDecorations := none
  flowDirection : Option FlowDirection := none
  characterSpacing : Option Int32 := none
  orientation : Option Orientation := none
  deriving DecidableEq, Repr, Inhabited

inductive Paint where
  | background
  | foreground
  | border
  deriving DecidableEq, Repr, Inhabited

/-- One change to a view. Where the content is optional, `none` takes the property back to the
toolkit's default. -/
inductive Change where
  | brush (paint : Paint) (brush : Option Brush)
  | borderThickness (thickness : Insets)
  | padding (padding : Insets)
  | cornerRadius (radii : Radii)
  | fontSize (size : Option Binary64)
  | fontFamily (family : Option String)
  | fontWeight (weight : Option FontWeight)
  | fontStyle (style : Option FontStyle)
  | textAlignment (alignment : Option TextAlignment)
  | textTrimming (trimming : Option TextTrimming)
  | textDecorations (decorations : Option TextDecorations)
  | flowDirection (direction : Option FlowDirection)
  | characterSpacing (spacing : Option Int32)
  | orientation (orientation : Option Orientation)
  deriving DecidableEq, Repr

namespace View

def brush (view : View) : Paint → Option Brush
  | .background => view.background
  | .foreground => view.foreground
  | .border => view.borderBrush

def setBrush (view : View) (content : Option Brush) : Paint → View
  | .background => { view with background := content }
  | .foreground => { view with foreground := content }
  | .border => { view with borderBrush := content }

def change (view : View) : Change → View
  | .brush paint content => view.setBrush content paint
  | .borderThickness thickness => { view with borderThickness := thickness }
  | .padding padding => { view with padding := some padding }
  | .cornerRadius radii => { view with cornerRadius := some radii }
  | .fontSize size => { view with fontSize := size }
  | .fontFamily family => { view with fontFamily := family }
  | .fontWeight weight => { view with fontWeight := weight }
  | .fontStyle style => { view with fontStyle := style }
  | .textAlignment alignment => { view with textAlignment := alignment }
  | .textTrimming trimming => { view with textTrimming := trimming }
  | .textDecorations decorations => { view with textDecorations := decorations }
  | .flowDirection direction => { view with flowDirection := direction }
  | .characterSpacing spacing => { view with characterSpacing := spacing }
  | .orientation orientation => { view with orientation := orientation }

end View

/-- A call that reaches the native side: a change to the view itself, or word to the owner of
its secondary brushes that a painted part has a new brush or has none. -/
inductive Call where
  | change (change : Change)
  | refresh (paint : Paint) (brush : Option Brush)
  deriving DecidableEq, Repr

end ViewStyle
