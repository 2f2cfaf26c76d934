import ViewStyle.Handler.Basic

/-!
# Handlers of painted parts

Background, foreground and border. After a colour has been set or cleared, the owner of the
secondary brushes is told. A border with a width is never left without a brush: where it
has no colour it is painted with the default brush.

Where the border has its colour taken away, that is recorded before the owner is told; everywhere
else the owner is told first.
-/

set_option autoImplicit false

namespace ViewStyle.Handler

/-- The answer of a colour: numbers paint the part, no value leaves it to the toolkit. -/
def paint (part : Paint) (value : Value) : List Action :=
  match Brush.ofValue? value with
  | some brush => [.change (.brush part (some brush)), .refresh part (some brush), .note .applied]
  | none =>
    if value.isNull then [.change (.brush part none), .refresh part none, .note .cleared]
    else mismatch value

/-- The answer of the border colour. When the colour is taken away from a border that still has a
width, the default brush takes its place; the owner of the secondary brushes is told that there is
none all the same. -/
def borderColor (view : View) (value : Value) : List Action :=
  match Brush.ofValue? value with
  | some brush =>
    [.change (.brush .border (some brush)), .refresh .border (some brush), .note .applied]
  | none =>
    if value.isNull then
      (if view.borderThickness.isVisible then [.substituteBorderBrush, .note .defaultBorderBrush]
      else [.change (.brush .border none), .note .cleared]) ++ [.refresh .border none]
    else mismatch value

theorem borderColor_null (view : View) :
    borderColor view .null =
      (if view.borderThickness.isVisible then [.substituteBorderBrush, .note .defaultBorderBrush]
      else [.change (.brush .border none), .note .cleared]) ++ [.refresh .border none] :=
  rfl

/-- The answer of a border width. A number is written to its slot, and one other than zero paints a
border that has no brush with the default one. No value writes zero. -/
def borderWidth (view : View) (edge : Edge) (value : Value) : List Action :=
  match value.number? with
  | some width =>
    [.write (.border edge (some width)), .present .border, .note .applied] ++
      (if !width.isZero && view.borderBrush.isNone then
        [.substituteBorderBrush, .note .defaultBorderBrush]
      else [])
  | none =>
    if value.isNull then
      [.write (.border edge (some .zero)), .present .border, .note .cleared]
    else mismatch value

def background : Handler := fun _ _ update =>
  match Key.ofName? update.name with
  | some .backgroundColor => some (paint .background update.value)
  | _ => none

def foreground : Handler := fun _ _ update =>
  match Key.ofName? update.name with
  | some .color => some (paint .foreground update.value)
  | _ => none

def border : Handler := fun _ scene update =>
  match Key.ofName? update.name with
  | some .borderColor => some (borderColor scene.view update.value)
  | some (.borderWidth edge) => some (borderWidth scene.view edge update.value)
  | _ => none

end ViewStyle.Handler
