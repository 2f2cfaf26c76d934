import ViewStyle.Value

/-!
# The journal

Unusable values never make an update fail: they are passed over or replaced by a default.
The journal keeps an entry for every such decision, in the order in which they were taken.
-/

set_option autoImplicit false

namespace ViewStyle

/-- What became of a property's new value. -/
inductive Outcome where
  | applied
  /-- The property went back to the toolkit's default. -/
  | cleared
  /-- Its kind is not one the property takes, and it was passed over. -/
  | typeMismatch (found : Kind)
  /-- It is a text outside the property's closed set of tokens. -/
  | unrecognizedToken
  /-- The platform lacks the feature, and it was dropped. -/
  | unsupported
  /-- The default border brush took the place of a missing one. -/
  | defaultBorderBrush
  deriving DecidableEq, Repr, Inhabited

namespace Outcome

def every : List Outcome :=
  [applied, cleared, typeMismatch .null, typeMismatch .bool, typeMismatch .number,
    typeMismatch .text, unrecognizedToken, unsupported, defaultBorderBrush]

theorem mem_every (outcome : Outcome) : outcome ∈ every := by
  cases outcome with
  | typeMismatch found => cases found <;> decide
  | _ => decide

/-- The name an outcome is shown by, with the kind of a passed-over value in parentheses. -/
def name : Outcome → String
  | applied => "Applied"
  | cleared => "Cleared"
  | typeMismatch found => "TypeMismatch(" ++ found.name ++ ")"
  | unrecognizedToken => "UnrecognizedToken"
  | unsupported => "Unsupported"
  | defaultBorderBrush => "DefaultBorderBrush"

end Outcome

structure Entry where
  property : String
  outcome : Outcome
  /-- The text that was no token, where that is what happened. -/
  token : Option String := none
  deriving DecidableEq, Repr, Inhabited

/-- The decisions so far, the oldest first. -/
structure Journal where
  entries : List Entry := []
  deriving DecidableEq, Repr, Inhabited

namespace Journal

def empty : Journal := {}

def record (journal : Journal) (entry : Entry) : Journal := ⟨journal.entries ++ [entry]⟩

def size (journal : Journal) : Nat := journal.entries.length

def isEmpty (journal : Journal) : Bool := journal.entries.isEmpty

def count (journal : Journal) (outcome : Outcome) : Nat :=
  journal.entries.countP fun entry => entry.outcome == outcome

/-- The outcome of the latest decision about a property. -/
def last? (journal : Journal) (property : String) : Option Outcome :=
  (journal.entries.reverse.find? fun entry => entry.property == property).map Entry.outcome

inductive Query where
  | record (entry : Entry)
  | size
  | count (outcome : Outcome)
  | last (property : String)
  | entries
  | take
  | clear
  deriving DecidableEq, Repr

inductive Answer where
  | done
  | size (size : Nat) (isEmpty : Bool)
  | count (count : Nat)
  | last (outcome : Option Outcome)
  | entries (entries : List Entry)
  deriving DecidableEq, Repr

/-- Answers a query, with the journal as it is afterwards. -/
def answer (journal : Journal) : Query → Answer × Journal
  | .record entry => (.done, journal.record entry)
  | .size => (.size journal.size journal.isEmpty, journal)
  | .count outcome => (.count (journal.count outcome), journal)
  | .last property => (.last (journal.last? property), journal)
  | .entries => (.entries journal.entries, journal)
  | .take => (.entries journal.entries, empty)
  | .clear => (.done, empty)

end Journal

end ViewStyle
