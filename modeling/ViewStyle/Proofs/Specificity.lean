import Mathlib.Data.List.Induction
import ViewStyle.Proofs.Resolution

/-!
# Specificity decides, order does not

Each side and each corner shows the number of the narrowest of its names that holds one. A negative
number or a NaN is shown as zero, and still keeps broader names from being seen. Main statement:
after any edits, a part shows what the last edit of its leading slot left there.
-/

set_option autoImplicit false

namespace ViewStyle

namespace Binary64

/-- Only the zeros have a rank in common. -/
theorem eq_of_rank_eq {x y : Binary64} (sameRank : x.rank = y.rank) (notZero : y.rank ≠ 0) :
    x = y := by
  have sameBits : x.bits.toNat = y.bits.toNat := by
    have shifted : (1 : Nat) <<< 63 = 9223372036854775808 := by decide
    have xBound := x.bits.toNat_lt
    have yBound := y.bits.toNat_lt
    simp only [rank, signBit, magnitude, shifted, decide_eq_true_eq] at sameRank notZero
    split at notZero <;> split at sameRank <;> omega
  cases x
  cases y
  exact congrArg Binary64.mk (UInt64.toNat_inj.mp sameBits)

theorem same_minusOne_iff (x : Binary64) : x.same minusOne = true ↔ x = minusOne := by
  constructor
  · intro same
    simp only [Binary64.same, Bool.and_eq_true, beq_iff_eq] at same
    exact eq_of_rank_eq same.2 (by decide)
  · intro equal
    subst equal
    decide

theorem rank_nonneg {x : Binary64} (atLeast : zero ≤ x) : 0 ≤ x.rank := by
  have zeroRank : zero.rank = 0 := by decide
  rw [← zeroRank]
  exact atLeast.2.2

theorem zero_le_clampNegative (x : Binary64) : zero ≤ x.clampNegative := by
  by_cases positive : zero < x
  · obtain ⟨zeroIsNumber, isNumber, above⟩ := (lt_def zero x).mp positive
    simp only [clampNegative, if_pos positive]
    exact ⟨zeroIsNumber, isNumber, Int.le_of_lt above⟩
  · simp only [clampNegative, if_neg positive]
    decide

theorem clampNegative_of_pos {x : Binary64} (positive : zero < x) : x.clampNegative = x :=
  if_pos positive

theorem clampNegative_of_not_pos {x : Binary64} (small : x ≤ zero ∨ x.isNaN = true) :
    x.clampNegative = zero := by
  refine if_neg fun positive => ?_
  obtain ⟨-, isNumber, above⟩ := positive
  rcases small with ⟨-, -, below⟩ | isNaN
  · omega
  · simp [isNaN] at isNumber

end Binary64

namespace Slots

/-- One call that writes to a row of slots. -/
inductive Edit (Name : Type) where
  | fill (name : Name) (x : Binary64)
  | write (name : Name) (content : Option Binary64)
  | clear (name : Name)
  /-- Replaces the whole row by plain numbers. -/
  | load (raw : Vector Binary64 9)

section Edits

variable {Name : Type} [SlotName Name]

def edit (slots : Slots Name) : Edit Name → Slots Name
  | .fill name x => slots.set name (some x)
  | .write name content => slots.set name content
  | .clear name => slots.set name none
  | .load raw => ofRaw raw

def edited (slots : Slots Name) (edits : List (Edit Name)) : Slots Name := edits.foldl edit slots

theorem edited_append_singleton (slots : Slots Name) (earlier : List (Edit Name))
    (last : Edit Name) : slots.edited (earlier ++ [last]) = (slots.edited earlier).edit last := by
  simp [edited]

theorem get_ofRaw (raw : Vector Binary64 9) (name : Name) :
    (ofRaw raw : Slots Name).get name =
      if raw.get (SlotName.index name) = vacant then none
      else some (raw.get (SlotName.index name)) := by
  have marked := Binary64.same_minusOne_iff (raw.get (SlotName.index name))
  simp only [get, ofRaw, Fin.getElem_fin, Vector.getElem_map]
  exact if_congr marked rfl rfl

variable [DecidableEq Name]

/-- What an edit leaves in a slot, if it is an edit of that slot. -/
def Edit.leaves? (name : Name) : Edit Name → Option (Option Binary64)
  | .fill written x => if written = name then some (some x) else none
  | .write written content => if written = name then some content else none
  | .clear written => if written = name then some none else none
  | .load raw =>
      let x := raw.get (SlotName.index name)
      some (if x = vacant then none else some x)

/-- What the last of some edits of a slot left there. -/
def remains (slots : Slots Name) (edits : List (Edit Name)) (name : Name) :
    Option Binary64 :=
  (edits.filterMap (Edit.leaves? name)).getLast?.getD (slots.get name)

theorem get_edit (slots : Slots Name) (made : Edit Name) (name : Name) :
    (slots.edit made).get name = (made.leaves? name).getD (slots.get name) := by
  cases made with
  | load raw => exact get_ofRaw raw name
  | _ =>
      simp only [edit, Edit.leaves?, get_set]
      split <;> rfl

theorem get_edited (slots : Slots Name) (edits : List (Edit Name)) (name : Name) :
    (slots.edited edits).get name = slots.remains edits name := by
  induction edits using List.reverseRecOn with
  | nil => rfl
  | append_singleton earlier last ih =>
      -- The last edit is of this slot and decides, or it is as if it had not been made.
      rw [edited_append_singleton, get_edit, ih]
      unfold remains
      rw [List.filterMap_append]
      cases leaves : last.leaves? name with
      | none => simp [leaves]
      | some content => simp [leaves]

end Edits

/-- A name leads a list of names, from narrow to broad, when no narrower one holds a number. -/
inductive Leads {Name : Type} (contents : Name → Option Binary64) : List Name → Name → Prop where
  | head {name : Name} {broader : List Name} : Leads contents (name :: broader) name
  | pass {name leader : Name} {broader : List Name} (silent : contents name = none)
      (leads : Leads contents broader leader) : Leads contents (name :: broader) leader

section Leaders

variable {Name : Type} {contents : Name → Option Binary64} {names : List Name} {leader : Name}

theorem Leads.findSome? {x : Binary64} (leads : Leads contents names leader)
    (holds : contents leader = some x) : names.findSome? contents = some x := by
  induction leads with
  | head => simp [holds]
  | pass silent _ ih => simp [silent, ih holds]

variable [SlotName Name]

/-- A write to a name that does not lead leaves the search where it ended. -/
theorem findSome?_get_set_of_not_leads {slots : Slots Name}
    (behind : ¬Leads slots.get names leader) (content : Option Binary64) :
    names.findSome? (slots.set leader content).get = names.findSome? slots.get := by
  induction names with
  | nil => rfl
  | cons name broader ih =>
      have other : leader ≠ name := by
        rintro rfl
        exact behind .head
      have unchanged := slots.get_set_of_ne content other
      cases holds : slots.get name with
      | some x => simp [unchanged, holds]
      | none =>
          have stillBehind : ¬Leads slots.get broader leader := fun leads =>
            behind (.pass holds leads)
          simpa [unchanged, holds] using ih stillBehind

theorem Leads.set {slots : Slots Name} (leads : Leads slots.get names leader)
    (content : Option Binary64) : Leads (slots.set leader content).get names leader := by
  induction leads with
  | head => exact .head
  | @pass name leader broader silent _ ih =>
      by_cases isLeader : leader = name
      · subst isLeader
        exact .head
      · exact .pass ((slots.get_set_of_ne content isLeader).trans silent) ih

/-- A number in the leading slot is what is shown, whatever the slot held. -/
theorem resolved_set_of_leads {slots : Slots Name} (leads : Leads slots.get names leader)
    (x : Binary64) : (slots.set leader (some x)).resolved names = x.clampNegative := by
  rw [resolved, (leads.set (some x)).findSome? (slots.get_set_self leader (some x))]
  rfl

theorem resolved_set_of_not_leads {slots : Slots Name}
    (behind : ¬Leads slots.get names leader) (content : Option Binary64) :
    (slots.set leader content).resolved names = slots.resolved names := by
  rw [resolved, resolved, findSome?_get_set_of_not_leads behind]

end Leaders

/-- A part of a box that reads the slots of some names, from narrow to broad. -/
structure Precedence {Name : Type} [SlotName Name] [DecidableEq Name]
    (part : Slots Name → Binary64) (names : List Name) : Prop where
  leading : ∀ (slots : Slots Name) edits name x, Leads (slots.remains edits) names name →
    slots.remains edits name = some x →
      (.zero < x → part (slots.edited edits) = x) ∧
        (x ≤ .zero ∨ x.isNaN = true → part (slots.edited edits) = .zero)
  silent : ∀ (slots : Slots Name) edits, (∀ name ∈ names, slots.remains edits name = none) →
    part (slots.edited edits) = .zero
  /-- In particular it is a number. -/
  nonnegative : ∀ slots, .zero ≤ part slots
  /-- No other slot has an influence. -/
  behind : ∀ (slots : Slots Name) name content, ¬Leads slots.get names name →
    part (slots.set name content) = part slots

theorem resolved_precedence {Name : Type} [SlotName Name] [DecidableEq Name]
    (names : List Name) : Precedence (fun slots : Slots Name => slots.resolved names) names where
  leading := by
    intro slots edits name x leads holds
    have contents : (slots.edited edits).get = slots.remains edits :=
      funext (slots.get_edited edits)
    have shown : (slots.edited edits).resolved names = x.clampNegative := by
      rw [resolved, contents, leads.findSome? holds]
      rfl
    constructor
    · intro positive
      rw [shown, Binary64.clampNegative_of_pos positive]
    · intro small
      rw [shown, Binary64.clampNegative_of_not_pos small]
  silent := by
    intro slots edits nothing
    have contents : (slots.edited edits).get = slots.remains edits :=
      funext (slots.get_edited edits)
    rw [resolved, contents, List.findSome?_eq_none_iff.mpr nothing]
    exact Binary64.clampNegative_zero
  nonnegative := by
    intro slots
    exact Binary64.zero_le_clampNegative _
  behind := by
    intro slots name content behind
    exact resolved_set_of_not_leads behind content

/-- The sides of a box with the names that each reads, from narrow to broad. -/
def sides : List ((Insets → Binary64) × List Edge) :=
  [(Insets.left, [.left, .leading, .horizontal, .all]),
    (Insets.top, [.top, .vertical, .all]),
    (Insets.right, [.right, .trailing, .horizontal, .all]),
    (Insets.bottom, [.bottom, .vertical, .all])]

/-- The corners of a box, in the order in which their radii are given, with the names that each
reads. -/
def corners : List ((Radii → Binary64) × List Corner) :=
  [(Radii.topLeft, [.topLeft, .topLeading, .all]),
    (Radii.topRight, [.topRight, .topTrailing, .all]),
    (Radii.bottomRight, [.bottomRight, .bottomTrailing, .all]),
    (Radii.bottomLeft, [.bottomLeft, .bottomLeading, .all])]

theorem side_eq_resolved (slots : Slots Edge) {side : (Insets → Binary64) × List Edge}
    (member : side ∈ sides) : side.1 slots.insets = slots.resolved side.2 := by
  simp only [sides, List.mem_cons, List.not_mem_nil, or_false] at member
  rw [insets_eq_resolved]
  rcases member with rfl | rfl | rfl | rfl <;> rfl

theorem corner_eq_resolved (slots : Slots Corner) {corner : (Radii → Binary64) × List Corner}
    (member : corner ∈ corners) : corner.1 slots.radii = slots.resolved corner.2 := by
  simp only [corners, List.mem_cons, List.not_mem_nil, or_false] at member
  rw [radii_eq_resolved]
  rcases member with rfl | rfl | rfl | rfl <;> rfl

theorem insets_toList_eq_resolved (slots : Slots Edge) :
    slots.insets.toList = sides.map fun side => slots.resolved side.2 := by
  rw [insets_eq_resolved]
  rfl

theorem radii_toList_eq_resolved (slots : Slots Corner) :
    slots.radii.toList = corners.map fun corner => slots.resolved corner.2 := by
  rw [radii_eq_resolved]
  rfl

/-- After any edits in any order, every side and every corner shows the most specific number that
they have left. -/
theorem edited_shows_most_specific :
    (∀ side ∈ sides, Precedence (fun slots => side.1 slots.insets) side.2) ∧
      (∀ corner ∈ corners, Precedence (fun slots => corner.1 slots.radii) corner.2) ∧
      (∀ slots : Slots Edge, slots.insets.toList = sides.map fun side => side.1 slots.insets) ∧
      ∀ slots : Slots Corner,
        slots.radii.toList = corners.map fun corner => corner.1 slots.radii := by
  refine ⟨?_, ?_, fun _ => rfl, fun _ => rfl⟩
  · intro side member
    simp only [side_eq_resolved _ member]
    exact resolved_precedence side.2
  · intro corner member
    simp only [corner_eq_resolved _ member]
    exact resolved_precedence corner.2

/-- A NaN at the top, written first, is no reason to show the common width there. -/
example :
    let nan : Binary64 := ⟨0x7FF8000000000000⟩
    let one : Binary64 := ⟨0x3FF0000000000000⟩
    ((Slots.empty.set Edge.top (some nan)).set .all (some one)).insets.toList =
      [one, .zero, one, one] := by
  decide

end Slots

end ViewStyle
