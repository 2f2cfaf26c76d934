import ViewStyle.Proofs.Specificity

/-!
# Plain rows and slots

A row of nine plain numbers comes back bit for bit from the slots that are read off it. The way from
slots to a row and back empties the slots that hold the number for an empty slot, and those alone:
what such a slot had kept from being seen is then seen.
-/

set_option autoImplicit false

namespace ViewStyle

namespace Slots

section Rows

variable {Name : Type}

/-- The slots that are read off the row of some slots. -/
def reloaded (slots : Slots Name) : Slots Name := ofRaw slots.toRaw

theorem toRaw_ofRaw (raw : Vector Binary64 9) : (ofRaw raw : Slots Name).toRaw = raw := by
  apply Vector.ext
  intro i bounded
  simp only [toRaw, ofRaw, Vector.getElem_map]
  split
  · next marked => exact ((Binary64.same_minusOne_iff _).mp marked).symm
  · rfl

variable [SlotName Name] (slots : Slots Name)

theorem get_reloaded (name : Name) :
    slots.reloaded.get name =
      if slots.get name = some vacant then none else slots.get name := by
  have read : slots.toRaw.get (SlotName.index name) = (slots.get name).getD vacant :=
    Vector.getElem_map _ (SlotName.index name).isLt
  rw [reloaded, get_ofRaw, read]
  cases slots.get name with
  | none => simp
  | some x => simp

theorem get_reloaded_of_ne {name : Name} (genuine : slots.get name ≠ some vacant) :
    slots.reloaded.get name = slots.get name := by
  rw [get_reloaded, if_neg genuine]

theorem get_reloaded_eq_none_iff (name : Name) :
    slots.reloaded.get name = none ↔
      slots.get name = none ∨ slots.get name = some vacant := by
  rw [get_reloaded]
  split
  · next marked => simp [marked]
  · next genuine => simp [genuine]

end Rows

/-- Slots agree when each of the nine has a name and all names find the same. -/
theorem ext_get {Name : Type} [SlotName Name]
    (named : ∀ i : Fin 9, ∃ name : Name, SlotName.index name = i) {a b : Slots Name}
    (same : ∀ name, a.get name = b.get name) : a = b := by
  obtain ⟨aCells⟩ := a
  obtain ⟨bCells⟩ := b
  congr
  apply Vector.ext
  intro i bounded
  obtain ⟨name, isName⟩ := named ⟨i, bounded⟩
  have found := same name
  simp only [get, isName] at found
  exact found

/-- How plain rows and slots translate into each other. -/
structure Translates (Name : Type) [SlotName Name] : Prop where
  row : ∀ raw : Vector Binary64 9, (ofRaw raw : Slots Name).toRaw = raw
  contents : ∀ (slots : Slots Name) name,
    slots.reloaded.get name = if slots.get name = some vacant then none else slots.get name
  whole : ∀ a b : Slots Name, (∀ name, a.get name = b.get name) → a = b
  unchanged_iff : ∀ slots : Slots Name,
    slots.reloaded = slots ↔ ∀ name, slots.get name ≠ some vacant
  again : ∀ slots : Slots Name, slots.reloaded.reloaded = slots.reloaded
  empty : ∀ (slots : Slots Name) name, slots.get name = none → slots.reloaded.get name = none

theorem translates {Name : Type} [SlotName Name]
    (named : ∀ i : Fin 9, ∃ name : Name, SlotName.index name = i) : Translates Name where
  row := toRaw_ofRaw
  contents := get_reloaded
  whole _ _ := ext_get named
  unchanged_iff := by
    intro slots
    constructor
    · intro unchanged name marked
      have emptied : slots.reloaded.get name = none := by rw [get_reloaded, if_pos marked]
      rw [unchanged, marked] at emptied
      cases emptied
    · intro genuine
      exact ext_get named fun name => slots.get_reloaded_of_ne (genuine name)
  again := by
    intro slots
    refine congrArg ofRaw ?_
    exact toRaw_ofRaw slots.toRaw
  empty := by
    intro slots name isEmpty
    exact (slots.get_reloaded_eq_none_iff name).mpr (.inl isEmpty)

section Parts

variable {Name : Type} [SlotName Name] {slots : Slots Name} {names : List Name}

theorem findSome?_reloaded_of_leader
    (genuine : ∀ leader, Leads slots.get names leader → slots.get leader ≠ some vacant) :
    names.findSome? slots.reloaded.get = names.findSome? slots.get := by
  induction names with
  | nil => rfl
  | cons name broader ih =>
      have unchanged := slots.get_reloaded_of_ne (genuine name .head)
      cases holds : slots.get name with
      | some x => simp [unchanged, holds]
      | none =>
          have later := ih fun leader leads => genuine leader (.pass holds leads)
          simpa [unchanged, holds] using later

theorem findSome?_reloaded_of_silent
    (silent : ∀ name ∈ names, slots.get name = none ∨ slots.get name = some vacant) :
    names.findSome? slots.reloaded.get = none := by
  rw [List.findSome?_eq_none_iff]
  intro name member
  exact (slots.get_reloaded_eq_none_iff name).mpr (silent name member)

theorem findSome?_reloaded_of_next {narrower broader : List Name} {next : Name} {x : Binary64}
    (silent : ∀ name ∈ narrower, slots.get name = none ∨ slots.get name = some vacant)
    (holds : slots.get next = some x) (genuine : x ≠ vacant) :
    (narrower ++ next :: broader).findSome? slots.reloaded.get = some x := by
  have passed := findSome?_reloaded_of_silent silent
  have kept : slots.reloaded.get next = some x := by
    rw [slots.get_reloaded_of_ne (by simpa [holds] using genuine), holds]
  simp [List.findSome?_append, passed, kept]

/-- What becomes of a part that reads the slots of some names, from narrow to broad, when the slots
go by way of a plain row. -/
structure Rereads (part : Slots Name → Binary64) (names : List Name) : Prop where
  unchanged : ∀ slots : Slots Name,
    (∀ leader, Leads slots.get names leader → slots.get leader ≠ some vacant) →
      part slots.reloaded = part slots
  marked : ∀ (slots : Slots Name) leader, Leads slots.get names leader →
    slots.get leader = some vacant → part slots = .zero
  next : ∀ (slots : Slots Name) narrower next broader x, names = narrower ++ next :: broader →
    (∀ name ∈ narrower, slots.get name = none ∨ slots.get name = some vacant) →
      slots.get next = some x → x ≠ vacant → part slots.reloaded = x.clampNegative
  silent : ∀ slots : Slots Name,
    (∀ name ∈ names, slots.get name = none ∨ slots.get name = some vacant) →
      part slots.reloaded = .zero

theorem resolved_rereads (names : List Name) :
    Rereads (fun slots : Slots Name => slots.resolved names) names where
  unchanged := by
    intro slots genuine
    simp only [resolved, findSome?_reloaded_of_leader genuine]
  marked := by
    intro slots leader leads isMarked
    rw [resolved, leads.findSome? isMarked]
    decide
  next := by
    rintro slots narrower next broader x rfl silent holds genuine
    simp only [resolved, findSome?_reloaded_of_next silent holds genuine, Option.getD_some]
  silent := by
    intro slots silent
    simp only [resolved, findSome?_reloaded_of_silent silent, Option.getD_none,
      Binary64.clampNegative_zero]

end Parts

/-- Rows survive being read as slots. Slots survive being written as a row unless they hold the
number for an empty slot: then a side or a corner that such a slot has decided shows the next number
in its order of names, where it had shown zero, and the others are as they were. -/
theorem raw_rows_translate :
    Translates Edge ∧ Translates Corner ∧
      (∀ side ∈ sides, Rereads (fun slots => side.1 slots.insets) side.2) ∧
      ∀ corner ∈ corners, Rereads (fun slots => corner.1 slots.radii) corner.2 := by
  refine ⟨translates ?_, translates ?_, ?_, ?_⟩
  · intro i
    have listed : ∃ edge ∈ Edge.every, edge.index = i := by
      revert i
      decide
    obtain ⟨edge, -, isIndex⟩ := listed
    exact ⟨edge, isIndex⟩
  · intro i
    have listed : ∃ corner ∈ Corner.every, corner.index = i := by
      revert i
      decide
    obtain ⟨corner, -, isIndex⟩ := listed
    exact ⟨corner, isIndex⟩
  · intro side member
    simp only [side_eq_resolved _ member]
    exact resolved_rereads side.2
  · intro corner member
    simp only [corner_eq_resolved _ member]
    exact resolved_rereads corner.2

/-- A left width of minus one hides the common one until the slots have gone by way of a row. -/
example :
    let three : Binary64 := ⟨0x4008000000000000⟩
    let slots := (Slots.empty.set Edge.all (some three)).set .left (some .minusOne)
    slots.insets.toList = [.zero, three, three, three] ∧
      slots.reloaded.insets.toList = [three, three, three, three] := by
  decide +kernel

end Slots

end ViewStyle
