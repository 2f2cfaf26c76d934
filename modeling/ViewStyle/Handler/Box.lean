import ViewStyle.Handler.Basic

/-!
# Handlers of padding and corner radii

Each update writes one slot of the node. Padding is resolved and given to the view at once.
Radii stay on the node, and it is for the caller to say when the view gets them.
-/

set_option autoImplicit false

namespace ViewStyle.Handler

/-- The answer of a padding. Only numbers are taken: a missing value is passed over like a text. -/
def paddingWidth (edge : Edge) (value : Value) : List Action :=
  match value.number? with
  | some width => [.write (.padding edge (some width)), .present .padding, .note .applied]
  | none => mismatch value

/-- The answer of a corner radius, for the node alone. A value that is no number empties its
slot. -/
def radius (corner : Corner) (value : Value) : List Action :=
  [.write (.corner corner value.number?),
    .note (if value.number?.isSome then .applied else .cleared)]

def padding : Handler := fun _ _ update =>
  match Key.ofName? update.name with
  | some (.padding edge) => some (paddingWidth edge update.value)
  | _ => none

def cornerRadius : Handler := fun _ _ update =>
  match Key.ofName? update.name with
  | some (.borderRadius corner) => some (radius corner update.value)
  | _ => none

end ViewStyle.Handler
