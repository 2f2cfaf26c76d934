import ViewStyle.Binary64.Rounding
import ViewStyle.Text.Blank

/-!
# Property values

A property is given a loosely typed value: nothing, a flag, a number or a text. Every
value has a truth value, and what a property takes from a value of the wrong kind is nothing.
-/

set_option autoImplicit false

namespace ViewStyle

inductive Kind where
  | null
  | bool
  | number
  | text
  deriving DecidableEq, Repr, Inhabited

namespace Kind

def every : List Kind := [null, bool, number, text]

def name : Kind → String
  | null => "Null"
  | bool => "Bool"
  | number => "Number"
  | text => "String"

def word : Kind → String
  | null => "null"
  | bool => "bool"
  | number => "number"
  | text => "string"

end Kind

inductive Value where
  /-- No value: the property was removed. -/
  | null
  | bool (flag : Bool)
  | number (x : Binary64)
  | text (s : String)
  deriving DecidableEq, Repr, Inhabited

/-- A value was of another kind than the one asked for. -/
structure WrongKind where
  wanted : Kind
  found : Kind
  deriving DecidableEq, Repr

def WrongKind.message (error : WrongKind) : String :=
  s!"expected a {error.wanted.word} property value, found {error.found.word}"

namespace Value

def kind : Value → Kind
  | null => .null
  | bool _ => .bool
  | number _ => .number
  | text _ => .text

def bool? : Value → Option Bool
  | bool flag => some flag
  | _ => none

def number? : Value → Option Binary64
  | number x => some x
  | _ => none

def text? : Value → Option String
  | text s => some s
  | _ => none

def isNull (value : Value) : Bool := value.kind == .null

theorem isNull_iff (value : Value) : value.isNull = true ↔ value = .null := by
  cases value <;> simp [isNull, kind]

/-- The part of a value that only one kind has, or the complaint that it is of another kind. -/
def expect {α : Type} (wanted : Kind) (part : Value → Option α) (value : Value) :
    Except WrongKind α :=
  match part value with
  | some a => .ok a
  | none => .error ⟨wanted, value.kind⟩

def expectBool (value : Value) : Except WrongKind Bool := value.expect .bool bool?

def expectNumber (value : Value) : Except WrongKind Binary64 := value.expect .number number?

def expectText (value : Value) : Except WrongKind String := value.expect .text text?

/-- The texts that mean no, apart from the empty one. -/
def falseWords : List String := ["false", "0", "no", "off", "n", "f"]

/-- Whether a text, blanks around it aside, says no in small or capital letters or is silent. -/
def meansNo (s : String) : Bool :=
  let word := Text.trim s
  word.isEmpty || falseWords.contains (Text.lowerLatin word)

/-- The truth of a value: no value, zero, NaN and a text that says no are false. -/
def isTruthy : Value → Bool
  | null => false
  | bool flag => flag
  | number x => !x.isZero && !x.isNaN
  | text s => !meansNo s

/-- Equality of values, where numbers are compared as numbers: a NaN differs from itself. -/
def same : Value → Value → Bool
  | null, null => true
  | bool a, bool b => a == b
  | number x, number y => x.same y
  | text s, text t => s == t
  | _, _ => false

end Value

/-- Types whose members can be given to a property. -/
class ToValue (α : Type) where
  toValue : α → Value

export ToValue (toValue)

instance : ToValue Value := ⟨id⟩

instance : ToValue Binary64 := ⟨.number⟩

instance : ToValue Bool := ⟨.bool⟩

instance : ToValue String := ⟨.text⟩

instance : ToValue Int32 := ⟨fun n => .number (.ofInt n.toInt)⟩

instance : ToValue UInt32 := ⟨fun n => .number (.ofInt n.toNat)⟩

instance {α : Type} [ToValue α] : ToValue (Option α) :=
  ⟨fun content => content.elim .null toValue⟩

/-- One change of style: a property name and the value it is given. -/
structure Update where
  name : String
  value : Value
  deriving DecidableEq, Repr, Inhabited

/-- An update that gives a property anything that can be a value. -/
def Update.giving {α : Type} [ToValue α] (name : String) (content : α) : Update :=
  ⟨name, toValue content⟩

end ViewStyle
