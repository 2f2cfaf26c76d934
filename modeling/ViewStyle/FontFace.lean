/-!
# Weight and slant of a font
-/

set_option autoImplicit false

namespace ViewStyle

/-- The thickness of glyphs, from 1 to 1000. -/
structure FontWeight where
  value : Nat
  positive : 1 ≤ value := by decide
  bounded : value ≤ 1000 := by decide
  deriving DecidableEq, Repr

namespace FontWeight

def normal : FontWeight := ⟨400, by decide, by decide⟩

def bold : FontWeight := ⟨700, by decide, by decide⟩

instance : Inhabited FontWeight := ⟨normal⟩

structure OutOfRange where
  found : Nat
  deriving DecidableEq, Repr

def OutOfRange.message (_ : OutOfRange) : String := "font weight must lie in 1..=1000"

def ofNat (n : Nat) : Except OutOfRange FontWeight :=
  if inRange : 1 ≤ n ∧ n ≤ 1000 then .ok ⟨n, inRange.1, inRange.2⟩ else .error ⟨n⟩

def sort (weights : List FontWeight) : List FontWeight :=
  weights.mergeSort fun a b => decide (a.value ≤ b.value)

/-- The weight of a token: `normal`, `bold`, or a hundred from 100 to 900. -/
def ofToken? : String → Option FontWeight
  | "normal" => some normal
  | "bold" => some bold
  | "100" => some ⟨100, by decide, by decide⟩
  | "200" => some ⟨200, by decide, by decide⟩
  | "300" => some ⟨300, by decide, by decide⟩
  | "400" => some ⟨400, by decide, by decide⟩
  | "500" => some ⟨500, by decide, by decide⟩
  | "600" => some ⟨600, by decide, by decide⟩
  | "700" => some ⟨700, by decide, by decide⟩
  | "800" => some ⟨800, by decide, by decide⟩
  | "900" => some ⟨900, by decide, by decide⟩
  | _ => none

end FontWeight

inductive FontStyle where
  | normal
  | italic
  deriving DecidableEq, Repr, Inhabited

namespace FontStyle

def name : FontStyle → String
  | normal => "Normal"
  | italic => "Italic"

/-- The style of a token: `italic`, and everything else is upright. -/
def ofToken (token : String) : FontStyle :=
  if token = "italic" then italic else normal

end FontStyle

end ViewStyle
