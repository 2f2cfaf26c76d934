import ViewStyle.Proofs.Specificity

/-!
# What is shown follows the order of numbers

Which slot a side or a corner reads depends on the slots that are filled, not on the numbers in
them. So a larger number in a slot makes no part smaller, and a number that is shown as zero makes
none larger, also where it comes to hide a broader slot. Main statement: both, for every slot; and a
box that shows nothing still shows nothing after any number of such zeros.
-/

set_option autoImplicit false

namespace ViewStyle

namespace Binary64

protected theorem le_trans {x y z : Binary64} (lower : x ≤ y) (upper : y ≤ z) : x ≤ z := by
  obtain ⟨isNumber, -, below⟩ := lower
  obtain ⟨-, alsoNumber, above⟩ := upper
  exact ⟨isNumber, alsoNumber, Int.le_trans below above⟩

theorem isZero_iff_rank (x : Binary64) : x.isZero = true ↔ x.rank = 0 := by
  simp only [isZero, rank, beq_iff_eq]
  split <;> omega

theorem le_zero_of_isZero {x : Binary64} (isZero : x.isZero = true) : x ≤ zero := by
  have noMagnitude : x.magnitude = 0 := beq_iff_eq.mp isZero
  refine ⟨?_, by decide, ?_⟩
  · simp [isNaN, noMagnitude]
  · rw [(isZero_iff_rank x).mp isZero]
    decide

theorem isZero_of_le {x y : Binary64} (atLeast : zero ≤ x) (atMost : x ≤ y)
    (isZero : y.isZero = true) : x.isZero = true := by
  have above : 0 ≤ x.rank := rank_nonneg atLeast
  have below : x.rank ≤ y.rank := atMost.2.2
  rw [(isZero_iff_rank y).mp isZero] at below
  exact (isZero_iff_rank x).mpr (Int.le_antisymm below above)

/-- Unlike a NaN, a clamped number can be compared with itself. -/
theorem clampNegative_le_refl (x : Binary64) : x.clampNegative ≤ x.clampNegative := by
  have isNumber := (zero_le_clampNegative x).2.1
  exact ⟨isNumber, isNumber, Int.le_refl _⟩

theorem clampNegative_mono {x y : Binary64} (atMost : x ≤ y) :
    x.clampNegative ≤ y.clampNegative := by
  by_cases positive : zero < x
  · have alsoPositive : zero < y :=
      ⟨positive.1, atMost.2.1, Int.lt_of_lt_of_le positive.2.2 atMost.2.2⟩
    rwa [clampNegative_of_pos positive, clampNegative_of_pos alsoPositive]
  · have clamped : x.clampNegative = zero := if_neg positive
    rw [clamped]
    exact zero_le_clampNegative y

theorem clampNegative_lt {x y : Binary64} (less : x < y) (positive : zero < y) :
    x.clampNegative < y.clampNegative := by
  rw [clampNegative_of_pos positive]
  unfold clampNegative
  split
  · exact less
  · exact positive

end Binary64

namespace Slots

section Comparison

variable {Name : Type} [SlotName Name]

/-- Whatever names a part of a box reads, it shows no more of the first slots than of the second. -/
def ShowsAtMost (a b : Slots Name) : Prop := ∀ names, a.resolved names ≤ b.resolved names

theorem ShowsAtMost.refl (slots : Slots Name) : slots.ShowsAtMost slots := fun _ =>
  Binary64.clampNegative_le_refl _

theorem ShowsAtMost.trans {a b c : Slots Name} (lower : a.ShowsAtMost b)
    (upper : b.ShowsAtMost c) : a.ShowsAtMost c := fun names =>
  Binary64.le_trans (lower names) (upper names)

variable (slots : Slots Name)

theorem set_showsAtMost_set (written : Name) {x y : Binary64} (atMost : x ≤ y) :
    (slots.set written (some x)).ShowsAtMost (slots.set written (some y)) := by
  intro names
  -- Whether the slot leads has been settled before the write, so it is the same for both numbers.
  by_cases leads : Leads slots.get names written
  · rw [resolved_set_of_leads leads, resolved_set_of_leads leads]
    exact Binary64.clampNegative_mono atMost
  · rw [resolved_set_of_not_leads leads, resolved_set_of_not_leads leads]
    exact ShowsAtMost.refl slots names

theorem set_showsAtMost (written : Name) {x : Binary64} (small : x ≤ .zero ∨ x.isNaN = true) :
    (slots.set written (some x)).ShowsAtMost slots := by
  intro names
  by_cases leads : Leads slots.get names written
  · rw [resolved_set_of_leads leads, Binary64.clampNegative_of_not_pos small]
    exact Binary64.zero_le_clampNegative _
  · rw [resolved_set_of_not_leads leads]
    exact ShowsAtMost.refl slots names

/-- An edit that writes a number that is shown as zero. -/
inductive Edit.Zeroes : Edit Name → Prop where
  | fill {name : Name} {x : Binary64} (small : x ≤ .zero ∨ x.isNaN = true) :
      Zeroes (.fill name x)
  | write {name : Name} {x : Binary64} (small : x ≤ .zero ∨ x.isNaN = true) :
      Zeroes (.write name (some x))

theorem Edit.Zeroes.showsAtMost {made : Edit Name} (zeroes : made.Zeroes) :
    (slots.edit made).ShowsAtMost slots := by
  cases zeroes with
  | fill small | write small => exact slots.set_showsAtMost _ small

theorem edited_showsAtMost {edits : List (Edit Name)} (zeroes : ∀ made ∈ edits, made.Zeroes) :
    (slots.edited edits).ShowsAtMost slots := by
  induction edits generalizing slots with
  | nil => exact ShowsAtMost.refl slots
  | cons first rest ih =>
      obtain ⟨now, later⟩ := List.forall_mem_cons.mp zeroes
      exact (ih (slots.edit first) later).trans (now.showsAtMost slots)

end Comparison

namespace ShowsAtMost

theorem isZero_of_parts {Name Part : Type} [SlotName Name] {a b : Slots Name}
    (shows : a.ShowsAtMost b) {parts : List (Part × List Name)}
    (nothing : ∀ length ∈ parts.map fun part => b.resolved part.2, length.isZero = true) :
    ∀ length ∈ parts.map fun part => a.resolved part.2, length.isZero = true := by
  rw [List.forall_mem_map] at nothing ⊢
  intro part member
  exact Binary64.isZero_of_le (Binary64.zero_le_clampNegative _) (shows part.2)
    (nothing part member)

theorem insets_isZero {a b : Slots Edge} (shows : a.ShowsAtMost b)
    (nothing : ∀ length ∈ b.insets.toList, length.isZero = true) :
    ∀ length ∈ a.insets.toList, length.isZero = true := by
  rw [insets_toList_eq_resolved] at nothing ⊢
  exact shows.isZero_of_parts nothing

theorem radii_isZero {a b : Slots Corner} (shows : a.ShowsAtMost b)
    (nothing : ∀ length ∈ b.radii.toList, length.isZero = true) :
    ∀ length ∈ a.radii.toList, length.isZero = true := by
  rw [radii_toList_eq_resolved] at nothing ⊢
  exact shows.isZero_of_parts nothing

end ShowsAtMost

end Slots

theorem Insets.isVisible_eq_false_iff (insets : Insets) :
    insets.isVisible = false ↔ ∀ width ∈ insets.toList, width.isZero = true := by
  simp [Insets.isVisible]

namespace Slots

/-- A border that shows nowhere still shows nowhere after a zero has been written, even to a slot
that held a number too broad to be seen. -/
theorem insets_set_not_isVisible {slots : Slots Edge}
    (hidden : slots.insets.isVisible = false) (written : Edge) {x : Binary64}
    (isZero : x.isZero = true) :
    (slots.set written (some x)).insets.isVisible = false := by
  rw [Insets.isVisible_eq_false_iff] at hidden ⊢
  have shows := slots.set_showsAtMost written (.inl (Binary64.le_zero_of_isZero isZero))
  exact shows.insets_isZero hidden

/-- A part of a box that reads the slots of some names, from narrow to broad, and follows the order
of the numbers that are written to any slot. -/
structure KeepsOrder {Name : Type} [SlotName Name] (part : Slots Name → Binary64)
    (names : List Name) : Prop where
  larger : ∀ (slots : Slots Name) name x y, x ≤ y →
    part (slots.set name (some x)) ≤ part (slots.set name (some y))
  /-- In the slot that decides, a positive number is told from every smaller one. -/
  strict : ∀ (slots : Slots Name) name x y, Leads slots.get names name → x < y → .zero < y →
    part (slots.set name (some x)) < part (slots.set name (some y))
  zero : ∀ (slots : Slots Name) name x, x ≤ .zero ∨ x.isNaN = true →
    part (slots.set name (some x)) ≤ part slots
  zeros : ∀ (slots : Slots Name) edits, (∀ made ∈ edits, made.Zeroes) →
    part (slots.edited edits) ≤ part slots

theorem resolved_keepsOrder {Name : Type} [SlotName Name] (names : List Name) :
    KeepsOrder (fun slots : Slots Name => slots.resolved names) names where
  larger := by
    intro slots name x y atMost
    exact slots.set_showsAtMost_set name atMost names
  strict := by
    intro slots name x y leads less positive
    simp only [resolved_set_of_leads leads]
    exact Binary64.clampNegative_lt less positive
  zero := by
    intro slots name x small
    exact slots.set_showsAtMost name small names
  zeros := by
    intro slots edits zeroes
    exact slots.edited_showsAtMost zeroes names

/-- The four sides and the four corners follow the order of what is written to any slot, and zeros,
negative numbers and NaNs make none of them larger. So where all of them are zero, any number of
such writes leaves them zero, whatever other slots hold. -/
theorem parts_keep_order :
    (∀ side ∈ sides, KeepsOrder (fun slots => side.1 slots.insets) side.2) ∧
      (∀ corner ∈ corners, KeepsOrder (fun slots => corner.1 slots.radii) corner.2) ∧
      (∀ (slots : Slots Edge) edits, (∀ made ∈ edits, made.Zeroes) →
        (∀ width ∈ slots.insets.toList, width.isZero = true) →
          ∀ width ∈ (slots.edited edits).insets.toList, width.isZero = true) ∧
      ∀ (slots : Slots Corner) edits, (∀ made ∈ edits, made.Zeroes) →
        (∀ radius ∈ slots.radii.toList, radius.isZero = true) →
          ∀ radius ∈ (slots.edited edits).radii.toList, radius.isZero = true := by
  refine ⟨?_, ?_, ?_, ?_⟩
  · intro side member
    simp only [side_eq_resolved _ member]
    exact resolved_keepsOrder side.2
  · intro corner member
    simp only [corner_eq_resolved _ member]
    exact resolved_keepsOrder corner.2
  · intro slots edits zeroes nothing
    exact (slots.edited_showsAtMost zeroes).insets_isZero nothing
  · intro slots edits zeroes nothing
    exact (slots.edited_showsAtMost zeroes).radii_isZero nothing

/-- A common width of three, hidden by a negative zero and a NaN, and a leading width of three,
hidden by minus one, stay hidden through three more writes of that kind. Where nothing narrower is
filled, a leading width of three shows more at the left than a leading width of one, and a NaN for
the horizontal axis takes the common width from the right. -/
theorem parts_keep_order_over_hidden_widths :
    let one : Binary64 := ⟨0x3FF0000000000000⟩
    let three : Binary64 := ⟨0x4008000000000000⟩
    let nan : Binary64 := ⟨0x7FF8000000000000⟩
    let common := ((Slots.empty : Slots Edge).set .all (some three)).set .vertical (some nan)
    let led (x : Binary64) := common.set .leading (some x)
    let slots := ((led three).set .horizontal (some .negativeZero)).set .left (some .minusOne)
    let edits : List (Edit Edge) :=
      [.fill .trailing nan, .write .top (some .zero), .fill .horizontal .minusOne]
    slots.insets.toList = [.zero, .zero, .zero, .zero] ∧
      (slots.edited edits).get .all = some three ∧
      (slots.edited edits).get .leading = some three ∧
      (∀ width ∈ (slots.edited edits).insets.toList, width.isZero = true) ∧
      (led one).insets.left < (led three).insets.left ∧
      (common.set .horizontal (some nan)).insets.right ≤ common.insets.right := by
  intro one three nan common led slots edits
  have left : (Insets.left, [Edge.left, .leading, .horizontal, .all]) ∈ sides := by simp [sides]
  have right : (Insets.right, [Edge.right, .trailing, .horizontal, .all]) ∈ sides := by simp [sides]
  have zeroes : ∀ made ∈ edits, made.Zeroes := by
    intro made member
    simp only [edits, List.mem_cons, List.not_mem_nil, or_false] at member
    rcases member with rfl | rfl | rfl
    · exact .fill (.inr (by decide))
    · exact .write (.inl (by decide))
    · exact .fill (.inl (by decide))
  refine ⟨by decide, by decide, by decide, ?_, ?_, ?_⟩
  · exact parts_keep_order.2.2.1 slots edits zeroes (by decide)
  · exact (parts_keep_order.1 _ left).strict common .leading one three (.pass (by decide) .head)
      (by decide) (by decide)
  · exact (parts_keep_order.1 _ right).zero common .horizontal nan (.inr (by decide))

end Slots

end ViewStyle
