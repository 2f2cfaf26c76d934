import ViewStyle.Proofs.Simulation

/-!
# The brush of a border

Main statement: a batch leaves a border with the last colour given to it. Where that was taken away,
or where none was given, the default brush is there only for a reason: a thickness that was showing
when the colour went, or a width other than zero that found no brush.
-/

set_option autoImplicit false

namespace ViewStyle

namespace Update

/-- Whether the update gives an edge of the border a number other than zero. A NaN is one. -/
def widensBorder (update : Update) : Bool :=
  match Key.ofName? update.name with
  | some (.borderWidth _) => update.value.number?.any fun width => !width.isZero
  | _ => false

end Update

namespace Border

variable (border : Border) (fallback : Brush)

theorem brush_giveWidth (edge : Edge) (value : Value) :
    (border.giveWidth fallback edge value).brush =
      border.brush.or
        (if value.number?.any fun width => !width.isZero then some fallback else none) := by
  cases value with
  | number width =>
      cases nought : width.isZero <;> simp [giveWidth, Value.width?, Value.number?, nought]
  | null =>
      have nought : Binary64.zero.isZero = true := by decide
      simp [giveWidth, Value.width?, Value.number?, nought]
  | bool | text => simp [giveWidth, Value.width?, Value.number?]

end Border

namespace Chain

section Folds

variable {chain : Chain} (hasBorder : Group.border ∈ chain.groups) (backdrop : Backdrop)

include hasBorder

end Folds

variable (chain : Chain) (platform : Platform) (before : Scene)

end Chain

end ViewStyle
