import ViewStyle.Proofs.Monotonicity
import ViewStyle.Proofs.Places
import ViewStyle.Proofs.Simulation

/-!
# Visible borders are painted

A width is written with its own test for zero, while what shows is resolved from nine slots. No side
shows without a brush all the same, because the view is never behind the slots and a zero in any
slot makes no side appear. Main statement: as long as the host keeps off the border of a pair, the
pair shows no border without a brush.
-/

set_option autoImplicit false

namespace ViewStyle

/-- A border whose thickness is up to date with its slots, and that shows with a brush only. -/
structure Border.Covered (border : Border) : Prop where
  current : border.image = border.slots.insets
  painted : border.image.isVisible = true → border.brush.isSome = true

namespace Border.Covered

variable {border : Border}

theorem giveColor (covered : border.Covered) (fallback : Brush) (value : Value) :
    (border.giveColor fallback value).Covered := by
  unfold Border.giveColor
  split
  · exact ⟨covered.current, fun _ => rfl⟩
  · refine ⟨covered.current, fun visible => ?_⟩
    have stillVisible : border.image.isVisible = true := visible
    simp [stillVisible]
  · exact covered

theorem giveWidth (covered : border.Covered) (fallback : Brush) (edge : Edge) (value : Value) :
    (border.giveWidth fallback edge value).Covered := by
  unfold Border.giveWidth
  split
  · next width _ =>
      refine ⟨rfl, fun visible => ?_⟩
      cases nought : width.isZero with
      | false => cases border.brush <;> simp
      | true =>
          -- A zero makes nothing appear, so what is visible now was visible before.
          have wasVisible : border.image.isVisible = true := by
            rw [covered.current]
            cases shown : border.slots.insets.isVisible with
            | true => rfl
            | false =>
                have hidden := Slots.insets_set_not_isVisible shown edge nought
                exact hidden.symm.trans visible
          simpa [nought] using covered.painted wasVisible
  · exact covered

theorem moveBorder (covered : border.Covered) (fallback : Brush) (key : Key) (value : Value) :
    (key.moveBorder fallback value border).Covered := by
  cases key with
  | borderColor => exact covered.giveColor fallback value
  | borderWidth edge => exact covered.giveWidth fallback edge value
  | _ => exact covered

end Border.Covered

namespace Scene

def border (scene : Scene) : Border := scene.parts.border

variable {scene : Scene}

/-- A handler by itself leaves a covered border covered, whatever its group. -/
theorem offer_covered (platform : Platform) (group : Group) (update : Update)
    (covered : scene.border.Covered) :
    (scene.offer platform group.handler update).2.border.Covered := by
  rcases offer_handler_cases platform update group with ⟨key, -, -, taken⟩ | passed
  · rw [taken scene, border, parts_performAll_actions]
    exact covered.moveBorder _ key update.value
  · rw [passed scene]
    exact covered

end Scene

namespace Chain

variable (chain : Chain) (platform : Platform) {scene : Scene}

theorem apply_covered (update : Update) (covered : scene.border.Covered) :
    (chain.apply platform scene update).2.border.Covered := by
  unfold Scene.border
  rw [parts_apply]
  cases found : chain.property? update with
  | none => rwa [through_of_no_property _ _ found]
  | some key =>
      rw [through_of_property _ _ found]
      exact covered.moveBorder _ key update.value

theorem applyAll_covered (batch : List Update) (covered : scene.border.Covered) :
    (chain.applyAll platform scene batch).2.border.Covered := by
  induction batch generalizing scene with
  | nil => exact covered
  | cons update rest ih => exact ih (chain.apply_covered platform update covered)

end Chain

namespace Session

variable {n : Nat}

/-- Whether a step is the host's own writing to the border slots of a node or to the border fields
of a view. -/
def Step.writesBorder : Step n → Bool
  | .resetView | .resetNode | .paintBorder _ | .setThickness _ | .copyNode _ => true
  | .write (.border _ _) => true
  | _ => false

variable (session : Session n) {place : Fin n}

def border (place : Fin n) : Border :=
  (Parts.of (session.pair place).node (session.pair place).view).border

theorem border_adopt_self (place : Fin n) (scene : Scene) :
    (session.adopt place scene).border place = scene.border := by
  simp [border, Scene.border, Scene.parts]

theorem border_editPair (place : Fin n) (edit : Pair → Pair) :
    (session.editPair place edit).2.2.border place =
      (Parts.of (edit (session.pair place)).node (edit (session.pair place)).view).border := by
  simp [border]

theorem step_covered (covered : (session.border place).Covered) (step : Step n)
    (leaves : step.writesBorder = false) :
    ((session.step place step).2.2.border place).Covered := by
  have adopted {scene : Scene} (covered : scene.border.Covered) :
      ((session.adopt place scene).border place).Covered := by
    rwa [border_adopt_self]
  cases step with
  | apply update => exact adopted (session.chain.apply_covered session.platform update covered)
  | applyAll batch => exact adopted (session.chain.applyAll_covered session.platform batch covered)
  | applyBag bag =>
      cases conversion : Update.ofJson bag with
      | error error => rwa [session.step_applyBag_refused conversion]
      | ok batch =>
          rw [session.step_applyBag conversion]
          exact adopted (session.chain.applyAll_covered session.platform batch covered)
  | offer group update =>
      exact adopted (Scene.offer_covered session.platform group update covered)
  | presentCorners | askDecorations | askDefaultBorder => exact adopted covered
  | refresh paint value =>
      refine adopted ?_
      unfold Scene.border
      rwa [Scene.refresh_parts]
  | setInterest interest =>
      have edited := session.border_editPair place fun pair => { pair with node.mouse := interest }
      exact edited ▸ covered
  | write write =>
      have edited := session.border_editPair place fun pair =>
        { pair with node := pair.node.write write }
      cases write with
      | border => cases leaves
      | padding | corner | mouse => exact edited ▸ covered
  | lookUp | peekDecorations | setCheck | forgetDecorations | showChain | compareNode
  | journal => exact covered
  | resetView | resetNode | paintBorder | setThickness | copyNode => cases leaves

theorem run_covered (session : Session n) (covered : (session.border place).Covered)
    (steps : List (Fin n × Step n))
    (leaves : ∀ taken ∈ steps, taken.1 = place → taken.2.writesBorder = false) :
    ((session.run steps).2.border place).Covered := by
  induction steps generalizing session with
  | nil => exact covered
  | cons first rest ih =>
      obtain ⟨taken, step⟩ := first
      refine ih (session.step taken step).2.2 ?_ fun later member =>
        leaves later (List.mem_cons_of_mem _ member)
      by_cases here : taken = place
      · subst here
        exact session.step_covered covered step (leaves _ List.mem_cons_self rfl)
      · unfold border
        rwa [session.step_pair_of_ne here step]

/-- No visible border is left without a brush, whatever updates, questions and steps at other pairs
a session takes: from a fresh pair on, as long as the host does not write to the border itself, a
border that shows on some side is painted after every step. -/
theorem run_paints_visible_borders (session : Session n) (place : Fin n)
    (fresh : session.pair place = {}) (steps : List (Fin n × Step n))
    (leaves : ∀ taken ∈ steps, taken.1 = place → taken.2.writesBorder = false)
    (past : List (Fin n × Step n)) (soFar : past <+: steps) :
    ((session.run past).2.pair place).view.borderThickness.isVisible = true →
      ((session.run past).2.pair place).view.borderBrush.isSome = true := by
  have covered : (session.border place).Covered := by
    constructor <;> simp [border, Parts.of, fresh]
  have leavesPast : ∀ taken ∈ past, taken.1 = place → taken.2.writesBorder = false :=
    fun taken member => leaves taken (soFar.subset member)
  exact (session.run_covered covered past leavesPast).painted

/-- A width of two that a zero hides loses its brush to a null colour, and a null for the zero does
not bring it out again. A common width of two is then painted anew. -/
theorem run_paints_beside_hidden_width :
    let session := Session.start 1 { groups := [.border] }
    let steps : List (Fin 1 × Step 1) :=
      [(0, .apply ⟨"borderLeftWidth", .number .zero⟩),
        (0, .apply ⟨"borderStartWidth", .number ⟨0x4000000000000000⟩⟩),
        (0, .apply ⟨"borderColor", .null⟩),
        (0, .apply ⟨"borderLeftWidth", .null⟩),
        (0, .offer .border ⟨"borderWidth", .number ⟨0x4000000000000000⟩⟩)]
    session.pair 0 = {} ∧
    (∀ taken ∈ steps, taken.1 = 0 → taken.2.writesBorder = false) ∧
    ((session.run (steps.take 4)).2.pair 0).view.borderBrush = none ∧
    ((session.run steps).2.pair 0).view.borderThickness.isVisible = true ∧
    ((session.run steps).2.pair 0).view.borderBrush.isSome = true := by
  intro session steps
  have fresh : session.pair 0 = {} := by decide +kernel
  have leaves : ∀ taken ∈ steps, taken.1 = 0 → taken.2.writesBorder = false := by decide +kernel
  have visible :
      ((session.run steps).2.pair 0).view.borderThickness.isVisible = true := by
    decide +kernel
  exact ⟨fresh, leaves, by decide +kernel, visible,
    session.run_paints_visible_borders 0 fresh steps leaves steps List.prefix_rfl visible⟩

end Session

end ViewStyle
