import ViewStyle.Binary64.Basic

/-!
# Slots

A box property keeps nine optional numbers, one for each way of naming a part of the box.
Slots are written one at a time; what the box looks like is resolved from all of them.
Outside this library they travel as nine plain numbers, where minus one stands for an empty slot.
-/

set_option autoImplicit false

namespace ViewStyle

/-- Names of the nine slots of a box property, numbered in storage order. -/
class SlotName (Name : Type) where
  index : Name → Fin 9
  index_injective : ∀ a b : Name, index a = index b → a = b

/-- Nine optional numbers, found by slot name. -/
structure Slots (Name : Type) where
  cells : Vector (Option Binary64) 9
  deriving DecidableEq, Repr

namespace Slots

def empty {Name : Type} : Slots Name := ⟨Vector.replicate 9 none⟩

instance {Name : Type} : Inhabited (Slots Name) := ⟨empty⟩

section Named

variable {Name : Type} [SlotName Name]

def get (slots : Slots Name) (name : Name) : Option Binary64 :=
  slots.cells[SlotName.index name]

/-- Replaces the content of a slot; `none` empties it. -/
def set (slots : Slots Name) (name : Name) (content : Option Binary64) : Slots Name :=
  ⟨slots.cells.set (SlotName.index name) content⟩

@[simp] theorem get_empty (name : Name) : (empty : Slots Name).get name = none := by
  simp [empty, get]

@[simp] theorem get_set_self (slots : Slots Name) (name : Name) (content : Option Binary64) :
    (slots.set name content).get name = content := by
  simp [get, set]

theorem get_set_of_ne (slots : Slots Name) {written read : Name} (content : Option Binary64)
    (other : written ≠ read) : (slots.set written content).get read = slots.get read := by
  have apart : (SlotName.index written).val ≠ (SlotName.index read).val := fun equal =>
    other (SlotName.index_injective _ _ (Fin.ext equal))
  simp [get, set, Vector.getElem_set_ne _ _ apart]

end Named

section Raw

variable {Name : Type}

def isEmpty (slots : Slots Name) : Bool := slots.cells.all Option.isNone

/-- The number that stands for an empty slot in a plain row of nine. -/
def vacant : Binary64 := Binary64.minusOne

/-- Slots from a plain row, where `vacant` marks the empty ones. -/
def ofRaw (raw : Vector Binary64 9) : Slots Name :=
  ⟨raw.map fun x => if x.same vacant then none else some x⟩

/-- The plain row of the slots, with `vacant` for the empty ones. -/
def toRaw (slots : Slots Name) : Vector Binary64 9 :=
  slots.cells.map fun content => content.getD vacant

end Raw

/-- Equality of contents as numbers: a NaN makes them differ. -/
def sameContent : Option Binary64 → Option Binary64 → Bool
  | none, none => true
  | some x, some y => x.same y
  | _, _ => false

def same {Name : Type} (a b : Slots Name) : Bool :=
  decide (∀ i : Fin 9, sameContent a.cells[i] b.cells[i] = true)

end Slots

end ViewStyle
