import ViewStyle.Proofs.Parts

/-!
# Values that may change places

Values given to different properties may change places, with one exception: a null border colour
reads the thickness that border widths move. Two widths that bring the default brush bring the same
one, and a colour that paints the border does so before a width and after it.
-/

set_option autoImplicit false

namespace ViewStyle

/-- Changes to different properties without slots may change places. -/
theorem View.change_comm (view : View) {first second : Change} {key other : Key}
    (firstSubject : first.subject? = some key) (secondSubject : second.subject? = some other)
    (different : key ≠ other) :
    (view.change first).change second = (view.change second).change first := by
  have apart : first.subject? ≠ second.subject? := by
    rw [firstSubject, secondSubject]
    exact fun equal => different (Option.some.inj equal)
  cases first with
  | brush paint =>
      cases paint with
      | border => cases firstSubject
      | background | foreground =>
          cases second with
          | brush other => cases other <;> simp_all [Change.subject?, View.change, View.setBrush]
          | _ => rfl
  | borderThickness | padding | cornerRadius => cases firstSubject
  | _ =>
      cases second with
      | brush paint => cases paint <;> rfl
      | _ => solve | rfl | exact absurd rfl apart

/-- Contents of different slots may change places, with what the view is shown after each. -/
theorem Shown.set_present_comm {Name Image : Type} [SlotName Name] (shown : Shown Name Image)
    (resolve : Slots Name → Image) {first second : Name} (different : first ≠ second)
    (x y : Option Binary64) :
    (((shown.set first x).present resolve).set second y).present resolve =
      (((shown.set second y).present resolve).set first x).present resolve := by
  have slots := shown.slots.set_comm different x y
  simp only [set, present, slots]

namespace Border

variable (border : Border) (fallback : Brush)

private theorem or_fallback_comm (brush : Option Brush) (first second : Bool) :
    (brush.or (if first then none else some fallback)).or
        (if second then none else some fallback) =
      (brush.or (if second then none else some fallback)).or
        (if first then none else some fallback) := by
  cases brush <;> cases first <;> cases second <;> rfl

/-- Widths of different edges may change places, also when each of them would bring the fallback. -/
theorem giveWidth_comm {first second : Edge} (different : first ≠ second) (x y : Value) :
    (border.giveWidth fallback first x).giveWidth fallback second y =
      (border.giveWidth fallback second y).giveWidth fallback first x := by
  cases firstWidth : x.width? with
  | none => simp [giveWidth, firstWidth]
  | some width =>
      cases secondWidth : y.width? with
      | none => simp [giveWidth, secondWidth]
      | some other =>
          have slots := border.slots.set_comm different (some width) (some other)
          have brush := or_fallback_comm fallback border.brush width.isZero other.isZero
          simp only [giveWidth, firstWidth, secondWidth, Shown.set, Shown.present, slots, brush]

/-- A colour other than null may change places with a width. -/
theorem giveColor_giveWidth_comm {color : Value} (present : color.isNull = false) (edge : Edge)
    (width : Value) :
    (border.giveColor fallback color).giveWidth fallback edge width =
      (border.giveWidth fallback edge width).giveColor fallback color := by
  cases color with
  | null => cases present
  | number x =>
      cases given : width.width? <;>
        simp [giveColor, giveWidth, given, Value.settled?, Brush.ofValue?, Value.number?]
  | bool | text => rfl

end Border

namespace Key

/-- Whether a property is the width of an edge of the border. -/
def isBorderWidth : Key → Bool
  | .borderWidth _ => true
  | _ => false

section Parts

variable {first second : Key} {x y : Value}

theorem moveBorder_comm (different : first ≠ second)
    (firstKeeps : first = .borderColor → second.isBorderWidth = true → x.isNull = false)
    (secondKeeps : second = .borderColor → first.isBorderWidth = true → y.isNull = false)
    (fallback : Brush) (border : Border) :
    second.moveBorder fallback y (first.moveBorder fallback x border) =
      first.moveBorder fallback x (second.moveBorder fallback y border) := by
  cases first with
  | borderColor =>
      cases second with
      | borderColor => exact absurd rfl different
      | borderWidth edge =>
          exact border.giveColor_giveWidth_comm fallback (firstKeeps rfl rfl) edge y
      | _ => rfl
  | borderWidth edge =>
      cases second with
      | borderColor =>
          exact (border.giveColor_giveWidth_comm fallback (secondKeeps rfl rfl) edge x).symm
      | borderWidth other =>
          have edges : edge ≠ other := fun equal => different (congrArg Key.borderWidth equal)
          exact border.giveWidth_comm fallback edges x y
      | _ => rfl
  | _ => rfl

theorem movePadding_comm (different : first ≠ second) (padding : Shown Edge (Option Insets)) :
    second.movePadding y (first.movePadding x padding) =
      first.movePadding x (second.movePadding y padding) := by
  cases first with
  | padding edge =>
      cases second with
      | padding other =>
          have edges : edge ≠ other := fun equal => different (congrArg Key.padding equal)
          cases firstNumber : x.number? with
          | none => simp [movePadding, firstNumber]
          | some width =>
              cases secondNumber : y.number? with
              | none => simp [movePadding, secondNumber]
              | some otherWidth =>
                  simp only [movePadding, firstNumber, secondNumber]
                  exact padding.set_present_comm _ edges (some width) (some otherWidth)
      | _ => rfl
  | _ => rfl

theorem moveCorners_comm (different : first ≠ second) (corners : Shown Corner (Option Radii)) :
    second.presentCorners (second.setCorner y (first.presentCorners (first.setCorner x corners))) =
      first.presentCorners
        (first.setCorner x (second.presentCorners (second.setCorner y corners))) := by
  cases first with
  | borderRadius corner =>
      cases second with
      | borderRadius other =>
          have apart : corner ≠ other := fun equal =>
            different (congrArg Key.borderRadius equal)
          exact corners.set_present_comm _ apart x.number? y.number?
      | _ => rfl
  | _ => rfl

theorem moveMouse_comm (different : first ≠ second) (mouse : MouseInterest) :
    second.moveMouse y (first.moveMouse x mouse) =
      first.moveMouse x (second.moveMouse y mouse) := by
  cases first with
  | mouse event =>
      cases second with
      | mouse other =>
          have events : event ≠ other := fun equal => different (congrArg Key.mouse equal)
          cases event <;> cases other <;> solve | rfl | exact absurd rfl events
      | _ => rfl
  | _ => rfl

theorem change?_comm (different : first ≠ second) (decoratesText : Bool) (plain : View) :
    (second.change? decoratesText y).elim
        ((first.change? decoratesText x).elim plain plain.change)
        ((first.change? decoratesText x).elim plain plain.change).change =
      (first.change? decoratesText x).elim
        ((second.change? decoratesText y).elim plain plain.change)
        ((second.change? decoratesText y).elim plain plain.change).change := by
  cases firstChange : first.change? decoratesText x with
  | none => rfl
  | some change =>
      cases secondChange : second.change? decoratesText y with
      | none => rfl
      | some other =>
          exact plain.change_comm (subject?_of_change? firstChange)
            (subject?_of_change? secondChange) different

/-- Values for different properties may change places, unless one is a null border colour and the
other a border width. -/
theorem effect_comm (backdrop : Backdrop) (different : first ≠ second)
    (firstKeeps : first = .borderColor → second.isBorderWidth = true → x.isNull = false)
    (secondKeeps : second = .borderColor → first.isBorderWidth = true → y.isNull = false)
    (parts : Parts) :
    second.effect backdrop y (first.effect backdrop x parts) =
      first.effect backdrop x (second.effect backdrop y parts) := by
  simp only [effect, offered, Parts.mk.injEq]
  exact ⟨moveBorder_comm different firstKeeps secondKeeps backdrop.defaultBorder parts.border,
    movePadding_comm different parts.padding, moveCorners_comm different parts.corners,
    moveMouse_comm different parts.mouse,
    change?_comm different backdrop.decoratesText parts.plain⟩

end Parts

end Key

end ViewStyle
