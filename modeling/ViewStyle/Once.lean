/-!
# Values made once

A value that is made when it is first asked for and kept from then on, together with the
number of times that it has been made.
-/

set_option autoImplicit false

namespace ViewStyle

/-- A value that is made on demand. -/
structure Once (α : Type) where
  kept? : Option α := none
  runs : Nat := 0
  deriving DecidableEq, Repr, Inhabited

namespace Once

variable {α : Type}

/-- The value that asking gives, where `made` is what making it now would give. -/
def answer (once : Once α) (made : α) : α := once.kept?.getD made

/-- The state after asking: a value that was not there has been made and is kept. -/
def ask (once : Once α) (made : α) : Once α :=
  match once.kept? with
  | some _ => once
  | none => ⟨some made, once.runs + 1⟩

def isMade (once : Once α) : Bool := once.kept?.isSome

/-- Forgets the value, so that it will be made again. -/
def forget (once : Once α) : Once α := { once with kept? := none }

@[simp] theorem ask_ask (once : Once α) (first second : α) :
    (once.ask first).ask second = once.ask first := by
  cases made : once.kept? <;> simp [ask, made]

@[simp] theorem answer_ask (once : Once α) (first second : α) :
    (once.ask first).answer second = once.answer first := by
  cases made : once.kept? <;> simp [ask, answer, made]

end Once

end ViewStyle
