import ViewStyle.Session

/-!
# Places

A session reads and writes one pair at a time: a step at one place leaves the pairs at all other
places as they were.
-/

set_option autoImplicit false

namespace ViewStyle

namespace Session

variable {n : Nat} (session : Session n) {place taken : Fin n}

def pair (place : Fin n) : Pair := session.pairs.get place

theorem pair_start (options : SessionOptions) (place : Fin n) :
    (start n options).pair place = {} :=
  Vector.getElem_replicate place.isLt

@[simp] theorem pair_adopt_self (place : Fin n) (scene : Scene) :
    (session.adopt place scene).pair place = ⟨scene.node, scene.view⟩ :=
  Vector.getElem_set_self place.isLt

@[simp] theorem pair_editPair_self (place : Fin n) (edit : Pair → Pair) :
    (session.editPair place edit).2.2.pair place = edit (session.pair place) :=
  Vector.getElem_set_self place.isLt

theorem pair_adopt_of_ne (other : taken ≠ place) (scene : Scene) :
    (session.adopt taken scene).pair place = session.pair place :=
  Vector.getElem_set_ne taken.isLt place.isLt fun equal => other (Fin.ext equal)

theorem pair_editPair_of_ne (other : taken ≠ place) (edit : Pair → Pair) :
    (session.editPair taken edit).2.2.pair place = session.pair place :=
  Vector.getElem_set_ne taken.isLt place.isLt fun equal => other (Fin.ext equal)

/-- A bag that converts is a batch. -/
theorem step_applyBag {bag : Json} {updates : List Update}
    (converts : Update.ofJson bag = .ok updates) :
    session.step place (.applyBag bag) = session.step place (.applyAll updates) := by
  simp only [Session.step, converts]

/-- A bag that does not convert changes nothing. -/
theorem step_applyBag_refused {bag : Json} {error : UnsupportedValue}
    (refused : Update.ofJson bag = .error error) :
    session.step place (.applyBag bag) = (.refused error, [], session) := by
  simp only [Session.step, refused]

theorem step_pair_of_ne (other : taken ≠ place) (step : Step n) :
    (session.step taken step).2.2.pair place = session.pair place := by
  cases step with
  | apply | applyAll | offer | presentCorners | askDecorations | askDefaultBorder | refresh =>
      exact session.pair_adopt_of_ne other _
  | applyBag bag =>
      cases conversion : Update.ofJson bag with
      | error error => rw [session.step_applyBag_refused conversion]
      | ok updates =>
          rw [session.step_applyBag conversion]
          exact session.pair_adopt_of_ne other _
  | resetView | resetNode | paintBorder | setThickness | write | setInterest | copyNode =>
      exact session.pair_editPair_of_ne other _
  | lookUp | peekDecorations | setCheck | forgetDecorations | showChain | compareNode
  | journal => rfl

end Session

end ViewStyle
