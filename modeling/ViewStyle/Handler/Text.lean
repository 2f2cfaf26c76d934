import ViewStyle.Handler.Basic

/-!
# Handlers of text

The font, and the alignment, trimming, decoration and spacing of text.
-/

set_option autoImplicit false

namespace ViewStyle.Handler

/-- The font weight a value asks for. An unknown token asks for the weight of running text. -/
def fontWeight? (value : Value) : Option FontWeight :=
  value.text?.map fun token => (FontWeight.ofToken? token).getD .normal

/-- The report of a text that is no font weight. -/
def unknownWeight (value : Value) : List Action :=
  match value.text? with
  | some token => if (FontWeight.ofToken? token).isNone then [.noteToken token] else []
  | none => []

def fontSize (value : Value) : List Action := settle Value.number? .fontSize value

def fontFamily (value : Value) : List Action := settle Value.text? .fontFamily value

def fontWeight (value : Value) : List Action :=
  unknownWeight value ++ settle fontWeight? .fontWeight value

def fontStyle (value : Value) : List Action :=
  settle (fun value => value.text?.map FontStyle.ofToken) .fontStyle value

def textAlign (value : Value) : List Action :=
  settle (fun value => value.text?.map TextAlignment.ofToken) .textAlignment value

def ellipsizeMode (value : Value) : List Action :=
  settle (fun value => value.text?.map TextTrimming.ofToken) .textTrimming value

/-- The answer of the decoration line. Whether the toolkit can decorate text is asked before the
value is looked at; where it cannot, the update is dropped whatever it carries. -/
def decorationLine (decorates : Bool) (value : Value) : List Action :=
  .askDecorations ::
    if decorates then
      settle (fun value => value.text?.map TextDecorations.ofToken) .textDecorations value
    else [.note .unsupported]

/-- The spacing that a number asks for: its integer part, held to the range of a signed 32-bit
word. -/
def spacing (x : Binary64) : Int32 :=
  Int32.ofInt (x.truncateWithin Int32.minValue.toInt Int32.maxValue.toInt)

def letterSpacing (value : Value) : List Action :=
  settle (fun value => value.number?.map spacing) .characterSpacing value

def font : Handler := fun _ _ update =>
  match Key.ofName? update.name with
  | some .fontSize => some (fontSize update.value)
  | some .fontFamily => some (fontFamily update.value)
  | some .fontWeight => some (fontWeight update.value)
  | some .fontStyle => some (fontStyle update.value)
  | _ => none

def textAlignment : Handler := fun _ _ update =>
  match Key.ofName? update.name with
  | some .textAlign => some (textAlign update.value)
  | _ => none

def textTrimming : Handler := fun _ _ update =>
  match Key.ofName? update.name with
  | some .ellipsizeMode => some (ellipsizeMode update.value)
  | _ => none

def textDecoration : Handler := fun platform scene update =>
  match Key.ofName? update.name with
  | some .textDecorationLine =>
    some (decorationLine (scene.decoratesText platform) update.value)
  | _ => none

def characterSpacing : Handler := fun _ _ update =>
  match Key.ofName? update.name with
  | some .characterSpacing => some (letterSpacing update.value)
  | _ => none

end ViewStyle.Handler
