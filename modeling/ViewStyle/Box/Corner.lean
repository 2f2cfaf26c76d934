import ViewStyle.Box.Slots

/-!
# Corners

The four corners of a box, their names in the writing direction, and the name of all four.
Resolving nine slots gives one radius per corner: its own slot, else the slot of its name in
the writing direction, else the common one.
-/

set_option autoImplicit false

namespace ViewStyle

/-- A name for one or more corners of a box. -/
inductive Corner where
  | topLeft
  | topRight
  | bottomLeft
  | bottomRight
  | topLeading
  | topTrailing
  | bottomLeading
  | bottomTrailing
  | all
  deriving DecidableEq, Repr, Inhabited

namespace Corner

def every : List Corner :=
  [topLeft, topRight, bottomLeft, bottomRight, topLeading, topTrailing, bottomLeading,
    bottomTrailing, all]

def index (corner : Corner) : Fin 9 := ⟨corner.ctorIdx, by cases corner <;> decide⟩

theorem index_injective (a b : Corner) (equal : a.index = b.index) : a = b := by
  revert equal; cases a <;> cases b <;> decide

instance : SlotName Corner := ⟨index, index_injective⟩

def name : Corner → String
  | topLeft => "TopLeft"
  | topRight => "TopRight"
  | bottomLeft => "BottomLeft"
  | bottomRight => "BottomRight"
  | topLeading => "TopStart"
  | topTrailing => "TopEnd"
  | bottomLeading => "BottomStart"
  | bottomTrailing => "BottomEnd"
  | all => "All"

end Corner

/-- One radius for each corner of a box, clockwise from the top left. -/
structure Radii where
  topLeft : Binary64
  topRight : Binary64
  bottomRight : Binary64
  bottomLeft : Binary64
  deriving DecidableEq, Repr, Inhabited

def Radii.toList (radii : Radii) : List Binary64 :=
  [radii.topLeft, radii.topRight, radii.bottomRight, radii.bottomLeft]

namespace Slots

/-- The radius of one corner: its own slot, else the slot of its name in the writing direction,
else the common one, else zero. Negative radii and NaN count as zero. -/
def radius (slots : Slots Corner) (physical logical : Corner) : Binary64 :=
  let uniform := ((slots.get .all).getD .zero).clampNegative
  (((slots.get physical).or (slots.get logical)).getD uniform).clampNegative

def radii (slots : Slots Corner) : Radii where
  topLeft := slots.radius .topLeft .topLeading
  topRight := slots.radius .topRight .topTrailing
  bottomRight := slots.radius .bottomRight .bottomTrailing
  bottomLeft := slots.radius .bottomLeft .bottomLeading

end Slots

end ViewStyle
