import ViewStyle.Proofs.Dispatch
import ViewStyle.Proofs.Parts

/-!
# Updates on parts

What the actions of an update leave behind on a scene's node and view is what `Key.offered` and
`Key.effect` say about their parts. The backdrop stays as it is, so a batch is a fold over parts.
-/

set_option autoImplicit false

namespace ViewStyle

namespace Scene

def parts (scene : Scene) : Parts := .of scene.node scene.view

/-- What updates find around the pair. -/
def backdrop (platform : Platform) (scene : Scene) : Backdrop :=
  ⟨scene.defaultBorder platform, scene.decoratesText platform⟩

section Frame

variable (platform : Platform) (scene : Scene)

@[simp] theorem record_parts (entry : Entry) :
    (scene.record platform entry).parts = scene.parts := by
  unfold record
  split <;> rfl

@[simp] theorem record_backdrop (entry : Entry) :
    (scene.record platform entry).backdrop platform = scene.backdrop platform := by
  unfold record
  split <;> rfl

@[simp] theorem refresh_parts (paint : Paint) (brush : Option Brush) :
    (scene.refresh platform paint brush).parts = scene.parts := by
  unfold refresh
  split <;> rfl

@[simp] theorem refresh_backdrop (paint : Paint) (brush : Option Brush) :
    (scene.refresh platform paint brush).backdrop platform = scene.backdrop platform := by
  unfold refresh
  split <;> rfl

/-- No action changes what later actions find around the pair. -/
theorem perform_backdrop (property : String) (action : Action) :
    (scene.perform platform property action).backdrop platform = scene.backdrop platform := by
  cases action with
  | write | change | present => rfl
  | substituteBorderBrush =>
      simp [perform, backdrop, change, askDefaultBorder, defaultBorder, decoratesText]
  | refresh paint brush => exact scene.refresh_backdrop platform paint brush
  | askDecorations => simp [perform, backdrop, askDecorations, defaultBorder, decoratesText]
  | note | noteToken => exact scene.record_backdrop platform _

theorem performAll_backdrop (property : String) (actions : List Action) :
    (scene.performAll platform property actions).backdrop platform =
      scene.backdrop platform := by
  induction actions generalizing scene with
  | nil => rfl
  | cons action rest ih => exact (ih _).trans (scene.perform_backdrop platform property action)

theorem perform_parts (property : String) (action : Action) :
    (scene.perform platform property action).parts =
      scene.parts.perform (scene.backdrop platform) action := by
  cases action with
  | write write => exact Parts.of_write scene.node scene.view write
  | change change => exact Parts.of_change scene.node scene.view change
  | present part => exact Parts.of_presented scene.node scene.view part
  | substituteBorderBrush => rfl
  | refresh paint brush => exact scene.refresh_parts platform paint brush
  | askDecorations => rfl
  | note | noteToken => exact scene.record_parts platform _

theorem performAll_parts (property : String) (actions : List Action) :
    (scene.performAll platform property actions).parts =
      actions.foldl (Parts.perform (scene.backdrop platform)) scene.parts := by
  induction actions generalizing scene with
  | nil => rfl
  | cons action rest ih =>
      have first := scene.perform_parts platform property action
      have kept := scene.perform_backdrop platform property action
      have later := ih (scene.perform platform property action)
      rw [kept, first] at later
      exact later

end Frame

end Scene

section Rules

variable (backdrop : Backdrop) (parts : Parts) (value : Value)

theorem Parts.foldl_settle {α : Type} (content? : Value → Option α)
    (toChange : Option α → Change) :
    (Handler.settle content? toChange value).foldl (Parts.perform backdrop) parts =
      ((value.settled? content?).map toChange).elim parts parts.change := by
  unfold Handler.settle Value.settled?
  cases content? value with
  | some content => rfl
  | none => cases value.isNull <;> rfl

theorem Parts.foldl_paint (paint : Paint) :
    (Handler.paint paint value).foldl (Parts.perform backdrop) parts =
      ((value.settled? Brush.ofValue?).map (.brush paint)).elim parts parts.change := by
  unfold Handler.paint Value.settled?
  cases Brush.ofValue? value with
  | some brush => rfl
  | none => cases value.isNull <;> rfl

theorem Parts.foldl_direction :
    (Handler.direction value).foldl (Parts.perform backdrop) parts =
      (value.direction?.map .flowDirection).elim parts parts.change := by
  unfold Handler.direction
  rw [Parts.foldl_settle]
  cases value with
  | text token =>
      cases named : FlowDirection.ofToken? token <;>
        simp [Value.settled?, Value.direction?, Value.text?, Value.isNull, Value.kind, named]
  | null | bool | number => rfl

theorem Parts.foldl_orientation (platform : Platform) (scene : Scene) :
    (Key.orientation.actions platform scene value).foldl (Parts.perform backdrop) parts =
      (value.orientation?.map .orientation).elim parts parts.change := by
  cases value with
  | text token =>
      cases named : Orientation.ofToken? token <;>
        simp [Key.actions, Handler.orient, Value.orientation?, Value.text?, named, Parts.perform]
  | null | bool | number => rfl

/-- Reporting an unknown font weight moves nothing. -/
theorem Parts.foldl_unknownWeight :
    (Handler.unknownWeight value).foldl (Parts.perform backdrop) parts = parts := by
  unfold Handler.unknownWeight
  split
  · split <;> rfl
  · rfl

/-- The change of a property without slots is to the plain part. -/
theorem Parts.elim_change? (decoratesText : Bool) (key : Key) :
    (key.change? decoratesText value).elim parts parts.change =
      { parts with
        plain := (key.change? decoratesText value).elim parts.plain parts.plain.change } := by
  cases changes : key.change? decoratesText value with
  | none => rfl
  | some change => exact parts.change_eq_plain (Key.subject?_of_change? changes)

end Rules

namespace Key

theorem offered_borderColor (backdrop : Backdrop) (value : Value) (parts : Parts) :
    Key.borderColor.offered backdrop value parts =
      { parts with border := parts.border.giveColor backdrop.defaultBorder value } := rfl

theorem offered_borderWidth (backdrop : Backdrop) (edge : Edge) (value : Value)
    (parts : Parts) :
    (Key.borderWidth edge).offered backdrop value parts =
      { parts with border := parts.border.giveWidth backdrop.defaultBorder edge value } := rfl

variable (platform : Platform) (scene : Scene) (value : Value)

theorem foldl_borderColor_actions :
    (Key.borderColor.actions platform scene value).foldl
        (Parts.perform (scene.backdrop platform)) scene.parts =
      Key.borderColor.offered (scene.backdrop platform) value scene.parts := by
  rw [offered_borderColor]
  cases value with
  | null =>
      have image : scene.parts.border.image = scene.view.borderThickness := rfl
      cases visible : scene.view.borderThickness.isVisible <;>
        simp [actions, Handler.borderColor_null, Border.giveColor, Value.settled?, Brush.ofValue?,
          Value.number?, Value.isNull, Value.kind, image, visible, Parts.perform, Parts.change]
  | number | bool | text => rfl

theorem foldl_borderWidth_actions (edge : Edge) :
    ((Key.borderWidth edge).actions platform scene value).foldl
        (Parts.perform (scene.backdrop platform)) scene.parts =
      (Key.borderWidth edge).offered (scene.backdrop platform) value scene.parts := by
  rw [offered_borderWidth]
  have painted : scene.parts.border.brush = scene.view.borderBrush := rfl
  cases value with
  | number width =>
      cases nought : width.isZero <;> cases brush : scene.view.borderBrush <;>
        simp [actions, Handler.borderWidth, Border.giveWidth, Value.width?, Value.number?,
          nought, painted, brush, Parts.perform, Parts.write, Parts.present]
  | null =>
      have nought : Binary64.zero.isZero = true := by decide
      simp [actions, Handler.borderWidth, Border.giveWidth, Value.width?, Value.number?,
        Value.isNull, Value.kind, nought, Parts.perform, Parts.write, Parts.present]
  | bool | text => rfl

/-- The actions of a property move the parts of the pair as the property's own rule says. -/
theorem foldl_actions (key : Key) :
    (key.actions platform scene value).foldl (Parts.perform (scene.backdrop platform))
        scene.parts =
      key.offered (scene.backdrop platform) value scene.parts := by
  have slotless := scene.parts.elim_change? value (scene.decoratesText platform) key
  cases key with
  | borderColor => exact foldl_borderColor_actions platform scene value
  | borderWidth edge => exact foldl_borderWidth_actions platform scene value edge
  | padding edge =>
      simp only [actions, Handler.paddingWidth, offered, movePadding]
      cases value.number? <;> rfl
  | borderRadius | mouse => rfl
  | textDecorationLine =>
      refine Eq.trans ?_ slotless
      simp only [actions, Handler.decorationLine, change?]
      cases scene.decoratesText platform with
      | false => rfl
      | true =>
          simp only [if_true, List.foldl_cons, Parts.perform]
          exact Parts.foldl_settle _ scene.parts value _ .textDecorations
  | fontWeight =>
      rw [actions, Handler.fontWeight, List.foldl_append, Parts.foldl_unknownWeight,
        Parts.foldl_settle]
      exact slotless
  | direction =>
      rw [actions, Parts.foldl_direction]
      exact slotless
  | orientation =>
      rw [Parts.foldl_orientation]
      exact slotless
  | backgroundColor | color =>
      rw [actions, Parts.foldl_paint]
      exact slotless
  | fontSize | fontFamily | fontStyle | textAlign | ellipsizeMode | characterSpacing =>
      exact (Parts.foldl_settle _ scene.parts value _ _).trans slotless

end Key

namespace Scene

variable (platform : Platform) (scene : Scene)

theorem parts_performAll_actions (name : String) (key : Key) (value : Value) :
    (scene.performAll platform name (key.actions platform scene value)).parts =
      key.offered (scene.backdrop platform) value scene.parts := by
  rw [performAll_parts, Key.foldl_actions]

theorem parts_carryOut (key : Key) (update : Update) :
    (scene.carryOut platform key update).parts =
      key.effect (scene.backdrop platform) update.value scene.parts := by
  rw [carryOut, performAll_parts, List.foldl_append, Key.foldl_actions]
  cases key <;> rfl

theorem backdrop_offer (group : Group) (update : Update) :
    (scene.offer platform group.handler update).2.backdrop platform = scene.backdrop platform := by
  rcases offer_handler_cases platform update group with ⟨key, -, -, taken⟩ | passed
  · rw [taken scene]
    exact scene.performAll_backdrop platform update.name _
  · rw [passed scene]

end Scene

namespace Chain

/-- What an update makes of a state that properties move, when it comes through the chain. -/
def through {State : Type} (chain : Chain) (move : Key → Value → State → State)
    (state : State) (update : Update) : State :=
  match chain.property? update with
  | some key => move key update.value state
  | none => state

section Through

variable {State : Type} {chain : Chain} {update : Update} (move : Key → Value → State → State)
  (state : State)

theorem through_of_property {key : Key} (found : chain.property? update = some key) :
    chain.through move state update = move key update.value state := by
  simp [through, found]

theorem through_of_no_property (missing : chain.property? update = none) :
    chain.through move state update = state := by
  simp [through, missing]

end Through

variable (chain : Chain) (platform : Platform) (scene : Scene)

theorem parts_apply (update : Update) :
    (chain.apply platform scene update).2.parts =
      chain.through (Key.effect (scene.backdrop platform)) scene.parts update := by
  cases found : chain.property? update with
  | none =>
      rw [chain.apply_of_no_property platform scene update found,
        through_of_no_property _ _ found]
  | some key =>
      rw [chain.apply_of_property platform scene update found, through_of_property _ _ found]
      exact scene.parts_carryOut platform key update

theorem backdrop_apply (update : Update) :
    (chain.apply platform scene update).2.backdrop platform = scene.backdrop platform := by
  cases found : chain.property? update with
  | none => rw [chain.apply_of_no_property platform scene update found]
  | some key =>
      rw [chain.apply_of_property platform scene update found]
      exact scene.performAll_backdrop platform update.name _

theorem backdrop_applyAll (batch : List Update) :
    (chain.applyAll platform scene batch).2.backdrop platform = scene.backdrop platform := by
  induction batch generalizing scene with
  | nil => rfl
  | cons update rest ih => exact (ih _).trans (chain.backdrop_apply platform scene update)

/-- A batch moves the parts of the pair update by update, against one backdrop. -/
theorem parts_applyAll (batch : List Update) :
    (chain.applyAll platform scene batch).2.parts =
      batch.foldl (chain.through (Key.effect (scene.backdrop platform))) scene.parts := by
  induction batch generalizing scene with
  | nil => rfl
  | cons update rest ih =>
      have later := ih (chain.apply platform scene update).2
      rw [backdrop_apply, parts_apply] at later
      exact later

end Chain

end ViewStyle
