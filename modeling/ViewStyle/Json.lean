import ViewStyle.Binary64.Basic

/-!
# JSON

The values that a bag of properties can arrive as. The members of an object are listed in
any order; what they mean is read in the order of their names.
-/

set_option autoImplicit false

namespace ViewStyle

/-- A JSON value, with its numbers as doubles. -/
inductive Json where
  | null
  | bool (flag : Bool)
  | number (x : Binary64)
  | text (s : String)
  | array (items : List Json)
  | object (members : List (String × Json))
  deriving Repr, Inhabited

namespace Json

/-- Adds a member to members in the order of their names. A later member takes the place of an
earlier one of the same name. -/
def insertMember (name : String) (value : Json) :
    List (String × Json) → List (String × Json)
  | [] => [(name, value)]
  | (other, kept) :: rest =>
    if name < other then (name, value) :: (other, kept) :: rest
    else if name = other then (name, value) :: rest
    else (other, kept) :: insertMember name value rest

/-- The members of an object in the order of their names, each name once. -/
def orderMembers (members : List (String × Json)) : List (String × Json) :=
  members.foldl (fun ordered member => insertMember member.1 member.2 ordered) []

inductive Container where
  | array
  | object
  deriving DecidableEq, Repr, Inhabited

def Container.name : Container → String
  | array => "array"
  | object => "object"

end Json

end ViewStyle
