import ViewStyle.Box.Slots

/-!
# Edges

The four sides of a box, and the broader names that address them: the leading and trailing
edge of the writing direction, both edges of an axis, and all four. Resolving nine slots gives
one width per side, where a narrower name wins over a broader one whatever the order in which
they were written.
-/

set_option autoImplicit false

namespace ViewStyle

/-- A name for one or more sides of a box. -/
inductive Edge where
  | left
  | top
  | right
  | bottom
  /-- The side where a line of text starts. -/
  | leading
  /-- The side where a line of text ends. -/
  | trailing
  | horizontal
  | vertical
  | all
  deriving DecidableEq, Repr, Inhabited

namespace Edge

def every : List Edge :=
  [left, top, right, bottom, leading, trailing, horizontal, vertical, all]

def index (edge : Edge) : Fin 9 := ⟨edge.ctorIdx, by cases edge <;> decide⟩

theorem index_injective (a b : Edge) (equal : a.index = b.index) : a = b := by
  revert equal; cases a <;> cases b <;> decide

instance : SlotName Edge := ⟨index, index_injective⟩

def name : Edge → String
  | left => "Left"
  | top => "Top"
  | right => "Right"
  | bottom => "Bottom"
  | leading => "Start"
  | trailing => "End"
  | horizontal => "Horizontal"
  | vertical => "Vertical"
  | all => "All"

end Edge

/-- One width for each side of a box. -/
structure Insets where
  left : Binary64
  top : Binary64
  right : Binary64
  bottom : Binary64
  deriving DecidableEq, Repr, Inhabited

namespace Insets

def zero : Insets := ⟨.zero, .zero, .zero, .zero⟩

/-- The sides in the order left, top, right, bottom. -/
def toList (insets : Insets) : List Binary64 :=
  [insets.left, insets.top, insets.right, insets.bottom]

/-- Whether some side is not zero. A NaN is not zero. -/
def isVisible (insets : Insets) : Bool := insets.toList.any fun side => !side.isZero

end Insets

namespace Slots

/-- The widths that the edge slots add up to.

The sides start from `all`, or from zero. Each axis that has a width replaces it on its two
sides; a left or else leading width, and a right or else trailing one, replaces that; and a top or
bottom width replaces the vertical one. Negative widths and NaN count as zero. -/
def insets (slots : Slots Edge) : Insets :=
  let uniform := ((slots.get .all).getD .zero).clampNegative
  let horizontal := (slots.get .horizontal).getD uniform
  let vertical := (slots.get .vertical).getD uniform
  let left := ((slots.get .left).or (slots.get .leading)).getD horizontal
  let right := ((slots.get .right).or (slots.get .trailing)).getD horizontal
  let top := (slots.get .top).getD vertical
  let bottom := (slots.get .bottom).getD vertical
  ⟨left.clampNegative, top.clampNegative, right.clampNegative, bottom.clampNegative⟩

end Slots

end ViewStyle
