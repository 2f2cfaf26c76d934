import ViewStyle.Json
import ViewStyle.Text.Quoted
import ViewStyle.Value

/-!
# Property bags

A JSON object is a bag of properties, and becomes one update for each member. A bag converts
as a whole or not at all: arrays and objects are no property values, and one of them spoils the bag.
-/

set_option autoImplicit false

namespace ViewStyle

/-- A JSON value that holds others was given where a property value belongs. -/
structure UnsupportedValue where
  /-- The property it was given to, if it came in a bag. -/
  property : Option String
  container : Json.Container
  deriving DecidableEq, Repr

namespace UnsupportedValue

/-- The complaint, which names the property if there is one. -/
def message (error : UnsupportedValue) : String :=
  match error.property with
  | some property =>
    "property " ++ Text.quote property ++ " has an unsupported " ++ error.container.name ++ " value"
  | none => "unsupported " ++ error.container.name ++ " value"

/-- The error with all that it holds, as shown to developers. -/
def detail (error : UnsupportedValue) : String :=
  let property := match error.property with
    | some property => "Some(" ++ Text.quote property ++ ")"
    | none => "None"
  "UnsupportedValueError \x7b property: " ++ property ++ ", kind: " ++
    Text.quote error.container.name ++ " \x7d"

end UnsupportedValue

/-- The property value of a JSON value, unless that holds others. -/
def Value.ofJson : Json → Except UnsupportedValue Value
  | .null => .ok .null
  | .bool flag => .ok (.bool flag)
  | .number x => .ok (.number x)
  | .text s => .ok (.text s)
  | .array _ => .error ⟨none, .array⟩
  | .object _ => .error ⟨none, .object⟩

namespace Update

/-- The update of one member of a bag. An error names the member. -/
def ofMember (member : String × Json) : Except UnsupportedValue Update :=
  match Value.ofJson member.2 with
  | .ok value => .ok ⟨member.1, value⟩
  | .error error => .error { error with property := some member.1 }

/-- The updates of members in order, or the error of the first that has none. -/
def ofMembers : List (String × Json) → Except UnsupportedValue (List Update)
  | [] => .ok []
  | member :: rest =>
    match ofMember member with
    | .error error => .error error
    | .ok update =>
      match ofMembers rest with
      | .error error => .error error
      | .ok updates => .ok (update :: updates)

/-- The updates of a bag, in the order of the property names. What is no object holds none. -/
def ofJson : Json → Except UnsupportedValue (List Update)
  | .object members => ofMembers (Json.orderMembers members)
  | _ => .ok []

end Update

end ViewStyle
