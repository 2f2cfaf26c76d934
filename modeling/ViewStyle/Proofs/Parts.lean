import ViewStyle.Handler.Layout
import ViewStyle.Handler.Text
import ViewStyle.Proofs.Resolution

/-!
# Parts of a pair

A node and its view come apart into five parts that updates move independently of each other: the
border, the padding, the corners, the pointer events, and the properties of the view that have no
slots. Each part is moved by what it is itself and by the value given, and by nothing of the others.
-/

set_option autoImplicit false

namespace ViewStyle

/-- What an update finds around its pair: the brush of borders without a colour, and whether text
can be decorated. -/
structure Backdrop where
  defaultBorder : Brush
  decoratesText : Bool
  deriving DecidableEq, Repr

namespace Value

/-- The border width that a value gives. No value gives zero. -/
def width? : Value → Option Binary64
  | number x => some x
  | null => some .zero
  | _ => none

/-- The content that a value gives to a property that takes one sort of content. No value takes the
property back to the toolkit's default, and any other value is passed over. -/
def settled? {α : Type} (content? : Value → Option α) (value : Value) : Option (Option α) :=
  match content? value with
  | some content => some (some content)
  | none => if value.isNull then some none else none

/-- The local direction that a value gives. A text that names none leaves it to be inherited. -/
def direction? : Value → Option (Option FlowDirection)
  | text token => some (FlowDirection.ofToken? token)
  | null => some none
  | _ => none

/-- The orientation that a value gives. A text that names none is passed over. -/
def orientation? : Value → Option (Option Orientation)
  | text token => (Orientation.ofToken? token).map some
  | null => some none
  | _ => none

end Value

/-- The slots of a box property on the node, and what the view shows of them. -/
structure Shown (Name Image : Type) where
  slots : Slots Name
  image : Image

namespace Shown

variable {Name Image : Type} [SlotName Name]

def set (shown : Shown Name Image) (name : Name) (content : Option Binary64) :
    Shown Name Image :=
  { shown with slots := shown.slots.set name content }

/-- Gives the view what the slots add up to. -/
def present (shown : Shown Name Image) (resolve : Slots Name → Image) : Shown Name Image :=
  { shown with image := resolve shown.slots }

@[simp] theorem set_slots (shown : Shown Name Image) (name : Name)
    (content : Option Binary64) : (shown.set name content).slots = shown.slots.set name content :=
  rfl

omit [SlotName Name] in
@[simp] theorem present_slots (shown : Shown Name Image) (resolve : Slots Name → Image) :
    (shown.present resolve).slots = shown.slots := rfl

omit [SlotName Name] in
@[simp] theorem present_image (shown : Shown Name Image) (resolve : Slots Name → Image) :
    (shown.present resolve).image = resolve shown.slots := rfl

end Shown

/-- A border: its slots with the thickness that the view shows, and its brush. -/
structure Border extends Shown Edge Insets where
  brush : Option Brush

namespace Border

/-- The border after its colour was given a value. -/
def giveColor (border : Border) (fallback : Brush) (value : Value) : Border :=
  match value.settled? Brush.ofValue? with
  | some (some brush) => { border with brush := some brush }
  | some none =>
    { border with brush := if border.image.isVisible then some fallback else none }
  | none => border

/-- The border after the width of an edge was given a value. A width other than zero brings the
fallback where there is no brush. -/
def giveWidth (border : Border) (fallback : Brush) (edge : Edge) (value : Value) : Border :=
  match value.width? with
  | some width =>
    { toShown := (border.set edge (some width)).present Slots.insets
      brush := border.brush.or (if width.isZero then none else some fallback) }
  | none => border

end Border

theorem MouseInterest.wants_set (mouse : MouseInterest) (wanted : Bool) (event other : MouseEvent) :
    (mouse.set wanted event).wants other = if event = other then wanted else mouse.wants other := by
  cases event <;> cases other <;> rfl

/-- A node and its view, taken apart. -/
structure Parts where
  border : Border
  padding : Shown Edge (Option Insets)
  corners : Shown Corner (Option Radii)
  mouse : MouseInterest
  /-- The view without the properties that have slots. -/
  plain : View

/-- The view without the properties that have slots. -/
def View.plain (view : View) : View :=
  { view with borderBrush := none, borderThickness := .zero, padding := none, cornerRadius := none }

def Parts.of (node : Node) (view : View) : Parts where
  border := { slots := node.border, image := view.borderThickness, brush := view.borderBrush }
  padding := ⟨node.padding, view.padding⟩
  corners := ⟨node.corners, view.cornerRadius⟩
  mouse := node.mouse
  plain := view.plain

/-- The parts leave nothing out. -/
theorem Parts.of_injective {node node' : Node} {view view' : View}
    (same : Parts.of node view = Parts.of node' view') : node = node' ∧ view = view' := by
  cases node
  cases node'
  cases view
  cases view'
  simp_all [Parts.of, View.plain]

/-- The property without slots that a change is about. -/
def Change.subject? : Change → Option Key
  | .brush .background _ => some .backgroundColor
  | .brush .foreground _ => some .color
  | .fontSize _ => some .fontSize
  | .fontFamily _ => some .fontFamily
  | .fontWeight _ => some .fontWeight
  | .fontStyle _ => some .fontStyle
  | .textAlignment _ => some .textAlign
  | .textTrimming _ => some .ellipsizeMode
  | .textDecorations _ => some .textDecorationLine
  | .flowDirection _ => some .direction
  | .characterSpacing _ => some .characterSpacing
  | .orientation _ => some .orientation
  | .brush .border _ | .borderThickness _ | .padding _ | .cornerRadius _ => none

namespace Parts

def change (parts : Parts) : Change → Parts
  | .brush .border brush => { parts with border.brush := brush }
  | .borderThickness thickness => { parts with border.image := thickness }
  | .padding padding => { parts with padding.image := some padding }
  | .cornerRadius radii => { parts with corners.image := some radii }
  | change => { parts with plain := parts.plain.change change }

def write (parts : Parts) : NodeWrite → Parts
  | .padding edge width => { parts with padding := parts.padding.set edge width }
  | .border edge width => { parts with border.toShown := parts.border.set edge width }
  | .corner corner radius => { parts with corners := parts.corners.set corner radius }
  | .mouse event wanted => { parts with mouse := parts.mouse.set wanted event }

/-- Gives the view what the slots of a box property add up to. -/
def present (parts : Parts) : BoxPart → Parts
  | .padding =>
    { parts with padding := parts.padding.present fun slots => some slots.insets }
  | .border => { parts with border.toShown := parts.border.present Slots.insets }
  | .corners => { parts with corners := parts.corners.present fun slots => some slots.radii }

/-- Carries out an action as far as the node and the view are concerned. -/
def perform (backdrop : Backdrop) (parts : Parts) : Action → Parts
  | .write write => parts.write write
  | .change change => parts.change change
  | .present part => parts.present part
  | .substituteBorderBrush => { parts with border.brush := some backdrop.defaultBorder }
  | .refresh _ _ | .askDecorations | .note _ | .noteToken _ => parts

theorem of_write (node : Node) (view : View) (write : NodeWrite) :
    Parts.of (node.write write) view = (Parts.of node view).write write := by
  cases write <;> rfl

theorem of_change (node : Node) (view : View) (change : Change) :
    Parts.of node (view.change change) = (Parts.of node view).change change := by
  cases change with
  | brush paint => cases paint <;> rfl
  | _ => rfl

theorem of_presented (node : Node) (view : View) (part : BoxPart) :
    Parts.of node (view.change (node.presented part)) = (Parts.of node view).present part := by
  cases part <;> rfl

/-- A change to a property without slots leaves the other parts alone. -/
theorem change_eq_plain (parts : Parts) {change : Change} {key : Key}
    (subject : change.subject? = some key) :
    parts.change change = { parts with plain := parts.plain.change change } := by
  cases change with
  | brush paint brush =>
      cases paint with
      | border => simp [Change.subject?] at subject
      | background | foreground => rfl
  | borderThickness | padding | cornerRadius => simp [Change.subject?] at subject
  | _ => rfl

end Parts

namespace Key

/-- What a value makes of the border. -/
def moveBorder (fallback : Brush) (value : Value) (border : Border) : Key → Border
  | .borderColor => border.giveColor fallback value
  | .borderWidth edge => border.giveWidth fallback edge value
  | _ => border

/-- What a value makes of the padding. Only a number is taken. -/
def movePadding (value : Value) (padding : Shown Edge (Option Insets)) :
    Key → Shown Edge (Option Insets)
  | .padding edge =>
    match value.number? with
    | some width => (padding.set edge (some width)).present fun slots => some slots.insets
    | none => padding
  | _ => padding

/-- What a value makes of the corners on the node. What is no number empties the slot. -/
def setCorner (value : Value) (corners : Shown Corner (Option Radii)) :
    Key → Shown Corner (Option Radii)
  | .borderRadius corner => corners.set corner value.number?
  | _ => corners

/-- Within a chain the view is given the new radii at once. -/
def presentCorners (corners : Shown Corner (Option Radii)) :
    Key → Shown Corner (Option Radii)
  | .borderRadius _ => corners.present fun slots => some slots.radii
  | _ => corners

/-- What a value makes of the pointer events. -/
def moveMouse (value : Value) (mouse : MouseInterest) : Key → MouseInterest
  | .mouse event => mouse.set value.isTruthy event
  | _ => mouse

/-- The change that a value makes to a property without slots, if it makes one. -/
def change? (decoratesText : Bool) (value : Value) : Key → Option Change
  | .backgroundColor => (value.settled? Brush.ofValue?).map (.brush .background)
  | .color => (value.settled? Brush.ofValue?).map (.brush .foreground)
  | .fontSize => (value.settled? Value.number?).map .fontSize
  | .fontFamily => (value.settled? Value.text?).map .fontFamily
  | .fontWeight => (value.settled? Handler.fontWeight?).map .fontWeight
  | .fontStyle => (value.settled? fun v => v.text?.map FontStyle.ofToken).map .fontStyle
  | .textAlign => (value.settled? fun v => v.text?.map TextAlignment.ofToken).map .textAlignment
  | .ellipsizeMode => (value.settled? fun v => v.text?.map TextTrimming.ofToken).map .textTrimming
  | .textDecorationLine =>
    if decoratesText then
      (value.settled? fun v => v.text?.map TextDecorations.ofToken).map .textDecorations
    else none
  | .direction => value.direction?.map .flowDirection
  | .characterSpacing =>
    (value.settled? fun v => v.number?.map Handler.spacing).map .characterSpacing
  | .orientation => value.orientation?.map .orientation
  | .borderColor | .borderWidth _ | .padding _ | .borderRadius _ | .mouse _ => none

theorem subject?_of_change? {decoratesText : Bool} {value : Value} {key : Key}
    {change : Change} (changes : key.change? decoratesText value = some change) :
    change.subject? = some key := by
  cases key with
  | textDecorationLine =>
      simp only [change?] at changes
      split at changes
      · obtain ⟨content, -, rfl⟩ := Option.map_eq_some_iff.mp changes
        rfl
      · cases changes
  | borderColor | borderWidth | padding | borderRadius | mouse => cases changes
  | _ =>
      obtain ⟨content, -, rfl⟩ := Option.map_eq_some_iff.mp changes
      rfl

/-- What a value makes of the parts of a pair when it is offered to the handler of a property. -/
def offered (backdrop : Backdrop) (key : Key) (value : Value) (parts : Parts) : Parts where
  border := key.moveBorder backdrop.defaultBorder value parts.border
  padding := key.movePadding value parts.padding
  corners := key.setCorner value parts.corners
  mouse := key.moveMouse value parts.mouse
  plain := (key.change? backdrop.decoratesText value).elim parts.plain parts.plain.change

/-- What a value makes of the parts of a pair when it comes through a chain. -/
def effect (backdrop : Backdrop) (key : Key) (value : Value) (parts : Parts) : Parts :=
  let offered := key.offered backdrop value parts
  { offered with corners := key.presentCorners offered.corners }

end Key

end ViewStyle
