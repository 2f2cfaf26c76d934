import ViewStyle.Box.Edge
import ViewStyle.Box.Corner

/-!
# Resolution by precedence

Each side and each corner of a box reads its slots from the narrowest name to the broadest, takes
the first that holds a number, and clamps it once.
-/

set_option autoImplicit false

namespace ViewStyle

namespace Binary64

@[simp] theorem clampNegative_zero : zero.clampNegative = zero := by decide

@[simp] theorem clampNegative_clampNegative (x : Binary64) :
    x.clampNegative.clampNegative = x.clampNegative := by
  by_cases positive : zero < x
  · simp [clampNegative, positive]
  · simp [clampNegative, positive, show ¬zero < zero by decide]

end Binary64

namespace Slots

section Precedence

variable {Name : Type} [SlotName Name]

/-- What the slots of some names say about one part of a box: the number of the first name that
has one, else zero, without its negative part. -/
def resolved (slots : Slots Name) (names : List Name) : Binary64 :=
  ((names.findSome? slots.get).getD .zero).clampNegative

theorem get_set [DecidableEq Name] (slots : Slots Name) (written read : Name)
    (content : Option Binary64) :
    (slots.set written content).get read = if written = read then content else slots.get read := by
  split
  · next same => rw [← same, get_set_self]
  · next other => exact slots.get_set_of_ne content other

/-- Writes to different slots may change places. -/
theorem set_comm (slots : Slots Name) {first second : Name} (other : first ≠ second)
    (x y : Option Binary64) :
    (slots.set first x).set second y = (slots.set second y).set first x := by
  have apart : (SlotName.index first).val ≠ (SlotName.index second).val := fun equal =>
    other (SlotName.index_injective _ _ (Fin.ext equal))
  simp only [set]
  rw [Vector.set_comm _ _ apart]

end Precedence

/-- The widths of the four sides, each by its precedence. -/
theorem insets_eq_resolved (slots : Slots Edge) :
    slots.insets =
      ⟨slots.resolved [.left, .leading, .horizontal, .all],
        slots.resolved [.top, .vertical, .all],
        slots.resolved [.right, .trailing, .horizontal, .all],
        slots.resolved [.bottom, .vertical, .all]⟩ := by
  simp only [insets, resolved, List.findSome?_cons, List.findSome?_nil, Insets.mk.injEq]
  refine ⟨?_, ?_, ?_, ?_⟩
  · cases slots.get .left <;> cases slots.get .leading <;> cases slots.get .horizontal <;>
      cases slots.get .all <;> simp
  · cases slots.get .top <;> cases slots.get .vertical <;> cases slots.get .all <;> simp
  · cases slots.get .right <;> cases slots.get .trailing <;> cases slots.get .horizontal <;>
      cases slots.get .all <;> simp
  · cases slots.get .bottom <;> cases slots.get .vertical <;> cases slots.get .all <;> simp

theorem radius_eq_resolved (slots : Slots Corner) (physical logical : Corner) :
    slots.radius physical logical = slots.resolved [physical, logical, .all] := by
  simp only [radius, resolved, List.findSome?_cons, List.findSome?_nil]
  cases slots.get physical <;> cases slots.get logical <;> cases slots.get .all <;> simp

/-- The radii of the four corners, each by its precedence. -/
theorem radii_eq_resolved (slots : Slots Corner) :
    slots.radii =
      ⟨slots.resolved [.topLeft, .topLeading, .all],
        slots.resolved [.topRight, .topTrailing, .all],
        slots.resolved [.bottomRight, .bottomTrailing, .all],
        slots.resolved [.bottomLeft, .bottomLeading, .all]⟩ := by
  simp only [radii, radius_eq_resolved]

end Slots

@[simp] theorem Insets.zero_not_isVisible : Insets.zero.isVisible = false := by decide

@[simp] theorem Slots.insets_empty : (Slots.empty : Slots Edge).insets = .zero := by
  simp [Slots.insets, Insets.zero]

end ViewStyle
