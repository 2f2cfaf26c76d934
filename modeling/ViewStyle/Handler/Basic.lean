import ViewStyle.Property.Name
import ViewStyle.Scene

/-!
# Handlers

A handler answers an update of a property it knows with the actions that carry the update
out, and any other update with `none`. It looks at the scene and does not touch it, so an update
that it turns down leaves no trace.
-/

set_option autoImplicit false

namespace ViewStyle

/-- Decides what an update does to a scene, or that it is for another handler. -/
abbrev Handler := Platform → Scene → Update → Option (List Action)

namespace Handler

/-- The answer to a value of a kind that the property does not take: nothing but a record of it. -/
def mismatch (value : Value) : List Action := [.note (.typeMismatch value.kind)]

/-- The answer of a property that takes one sort of content: such content is written, no value
takes the property back to the toolkit's default, and any other value is passed over. -/
def settle {α : Type} (content? : Value → Option α) (change : Option α → Change)
    (value : Value) : List Action :=
  match content? value with
  | some content => [.change (change (some content)), .note .applied]
  | none =>
    if value.isNull then [.change (change none), .note .cleared]
    else mismatch value

end Handler

end ViewStyle
