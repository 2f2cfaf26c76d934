import ViewStyle.Handler.Basic

/-!
# Handlers of direction, orientation and pointer events
-/

set_option autoImplicit false

namespace ViewStyle.Handler

/-- The answer of the flow direction. A text that names no direction of the view's own leaves the
direction to be inherited, as no value does. -/
def direction (value : Value) : List Action :=
  let inherits := match value.text? with
    | some token => (FlowDirection.ofToken? token).isNone
    | none => false
  settle (fun value => value.text?.bind FlowDirection.ofToken?) .flowDirection
    (if inherits then .null else value)

/-- The answer of the orientation. An unknown token is recorded and changes nothing. -/
def orient (value : Value) : List Action :=
  match value.text? with
  | some token =>
    match Orientation.ofToken? token with
    | some axis => [.change (.orientation (some axis)), .note .applied]
    | none => [.noteToken token]
  | none =>
    if value.isNull then [.change (.orientation none), .note .cleared]
    else mismatch value

/-- The answer of a pointer event. Every value is taken, for its truth. -/
def mouseEvent (event : MouseEvent) (value : Value) : List Action :=
  [.write (.mouse event value.isTruthy), .note .applied]

def flowDirection : Handler := fun _ _ update =>
  match Key.ofName? update.name with
  | some .direction => some (direction update.value)
  | _ => none

def orientation : Handler := fun _ _ update =>
  match Key.ofName? update.name with
  | some .orientation => some (orient update.value)
  | _ => none

def mouseEvents : Handler := fun _ _ update =>
  match Key.ofName? update.name with
  | some (.mouse event) => some (mouseEvent event update.value)
  | _ => none

end ViewStyle.Handler
