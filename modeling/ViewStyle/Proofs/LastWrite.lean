import Mathlib.Data.List.Induction
import ViewStyle.Proofs.Simulation

/-!
# The last write to a slot

Through a batch every slot keeps what the last accepted update of its property gave it, and what a
view shows of a box property is never older than its slots. Slots differ in what they accept: a
padding takes numbers only, a border width reads no value as zero, and a corner radius is emptied by
what is no number.
-/

set_option autoImplicit false

namespace ViewStyle

namespace Chain

/-- The values that a batch brings to a property through the chain, in their order. -/
def received (chain : Chain) (key : Key) (batch : List Update) : List Value :=
  batch.filterMap fun update =>
    if chain.property? update = some key then some update.value else none

/-- What the last accepted value that a batch brings to a property makes of a content. -/
def lastAccepted {α : Type} (chain : Chain) (key : Key) (accepts : Value → Bool)
    (content : Value → α) (initial : α) (batch : List Update) : α :=
  ((chain.received key batch).filter accepts).getLast?.elim initial content

/-- Whether an update comes through the chain to a property that its value concerns. -/
def brings (chain : Chain) (concerns : Key → Value → Bool) (update : Update) : Bool :=
  (chain.property? update).any fun key => concerns key update.value

section Folds

variable {State α : Type} (chain : Chain) {move : Key → Value → State → State}

theorem received_append_singleton (key : Key) (earlier : List Update) (last : Update) :
    chain.received key (earlier ++ [last]) =
      chain.received key earlier ++
        if chain.property? last = some key then [last.value] else [] := by
  unfold received
  rw [List.filterMap_append]
  split <;> simp_all

/-- A content that the accepted values of one property replace, and that all others leave, ends as
the last accepted value of that property makes it. -/
theorem foldl_lastAccepted {key : Key} {accepts : Value → Bool} {content : Value → α}
    (read : State → α)
    (moved : ∀ other value state, read (move other value state) =
      if other = key ∧ accepts value = true then content value else read state)
    (state : State) (batch : List Update) :
    read (batch.foldl (chain.through move) state) =
      chain.lastAccepted key accepts content (read state) batch := by
  induction batch using List.reverseRecOn with
  | nil => rfl
  | append_singleton earlier last ih =>
      rw [List.foldl_append, List.foldl_cons, List.foldl_nil]
      unfold lastAccepted at ih ⊢
      rw [received_append_singleton]
      cases found : chain.property? last with
      | none =>
          rw [through_of_no_property _ _ found, ih]
          simp
      | some other =>
          rw [through_of_property _ _ found, moved, ih]
          by_cases own : other = key
          · cases accepted : accepts last.value <;> simp [own, accepted]
          · simp [own]

/-- What is shown of a state is what the state resolves to once a value that concerns it has come,
and until then it is what it was. -/
theorem foldl_shown {concerns : Key → Value → Bool} (image resolved : State → α)
    (takes : ∀ key value state, concerns key value = true →
      image (move key value state) = resolved (move key value state))
    (passes : ∀ key value state, concerns key value = false →
      image (move key value state) = image state ∧
        resolved (move key value state) = resolved state)
    (state : State) (batch : List Update) :
    image (batch.foldl (chain.through move) state) =
      if batch.any (chain.brings concerns) then
        resolved (batch.foldl (chain.through move) state)
      else image state := by
  induction batch using List.reverseRecOn with
  | nil => rfl
  | append_singleton earlier last ih =>
      rw [List.foldl_append, List.foldl_cons, List.foldl_nil, List.any_append]
      cases found : chain.property? last with
      | none =>
          rw [through_of_no_property _ _ found, ih]
          simp [brings, found]
      | some key =>
          rw [through_of_property _ _ found]
          cases concerned : concerns key last.value with
          | true =>
              rw [takes _ _ _ concerned]
              simp [brings, found, concerned]
          | false =>
              obtain ⟨sameImage, sameResolved⟩ :=
                passes key last.value (earlier.foldl (chain.through move) state) concerned
              rw [sameImage, sameResolved, ih]
              simp [brings, found, concerned]

end Folds

end Chain

namespace Key

section Slot

variable (value : Value)

theorem get_movePadding (edge : Edge) (key : Key) (padding : Shown Edge (Option Insets)) :
    (key.movePadding value padding).slots.get edge =
      if key = .padding edge ∧ value.number?.isSome = true then value.number?
      else padding.slots.get edge := by
  cases key with
  | padding written =>
      cases accepted : value.number? with
      | some width => simp [movePadding, accepted, Slots.get_set]
      | none => simp [movePadding, accepted]
  | _ => simp [movePadding]

theorem get_moveBorder (fallback : Brush) (edge : Edge) (key : Key) (border : Border) :
    (key.moveBorder fallback value border).slots.get edge =
      if key = .borderWidth edge ∧ value.width?.isSome = true then value.width?
      else border.slots.get edge := by
  cases key with
  | borderWidth written =>
      cases accepted : value.width? with
      | some width => simp [moveBorder, Border.giveWidth, accepted, Slots.get_set]
      | none => simp [moveBorder, Border.giveWidth, accepted]
  | borderColor =>
      simp only [moveBorder, Border.giveColor]
      split <;> simp
  | _ => simp [moveBorder]

theorem get_moveCorners (corner : Corner) (key : Key) (corners : Shown Corner (Option Radii)) :
    (key.presentCorners (key.setCorner value corners)).slots.get corner =
      if key = .borderRadius corner then value.number? else corners.slots.get corner := by
  cases key with
  | borderRadius written => simp [presentCorners, setCorner, Slots.get_set]
  | _ => simp [setCorner, presentCorners]

theorem wants_moveMouse (event : MouseEvent) (key : Key) (mouse : MouseInterest) :
    (key.moveMouse value mouse).wants event =
      if key = .mouse event then value.isTruthy else mouse.wants event := by
  cases key with
  | mouse written => simp [moveMouse, MouseInterest.wants_set]
  | _ => simp [moveMouse]

end Slot

section Image

variable {key : Key} {value : Value}

/-- Whether a value moves the padding of the view. -/
def takesPadding (key : Key) (value : Value) : Bool :=
  match key with
  | .padding _ => value.number?.isSome
  | _ => false

/-- Whether a value moves the border thickness of the view. -/
def takesBorderWidth (key : Key) (value : Value) : Bool :=
  match key with
  | .borderWidth _ => value.width?.isSome
  | _ => false

/-- Whether a value moves the corner radii of the view. -/
def takesRadius (key : Key) (_value : Value) : Bool :=
  match key with
  | .borderRadius _ => true
  | _ => false

theorem movePadding_image (padding : Shown Edge (Option Insets))
    (takes : key.takesPadding value = true) :
    (key.movePadding value padding).image =
      some (key.movePadding value padding).slots.insets := by
  cases key with
  | padding edge =>
      obtain ⟨width, accepted⟩ := Option.isSome_iff_exists.mp takes
      simp [movePadding, accepted]
  | _ => cases takes

theorem movePadding_of_not_takes (padding : Shown Edge (Option Insets))
    (passes : key.takesPadding value = false) : key.movePadding value padding = padding := by
  cases key with
  | padding edge =>
      have refused : value.number? = none := by simpa [takesPadding] using passes
      simp [movePadding, refused]
  | _ => rfl

theorem moveBorder_image (fallback : Brush) (border : Border)
    (takes : key.takesBorderWidth value = true) :
    (key.moveBorder fallback value border).image =
      (key.moveBorder fallback value border).slots.insets := by
  cases key with
  | borderWidth edge =>
      obtain ⟨width, accepted⟩ := Option.isSome_iff_exists.mp takes
      simp [moveBorder, Border.giveWidth, accepted]
  | _ => cases takes

theorem moveBorder_of_not_takes (fallback : Brush) (border : Border)
    (passes : key.takesBorderWidth value = false) :
    (key.moveBorder fallback value border).toShown = border.toShown := by
  cases key with
  | borderWidth edge =>
      have refused : value.width? = none := by simpa [takesBorderWidth] using passes
      simp [moveBorder, Border.giveWidth, refused]
  | borderColor =>
      simp only [moveBorder, Border.giveColor]
      split <;> rfl
  | _ => rfl

theorem moveCorners_image (corners : Shown Corner (Option Radii))
    (takes : key.takesRadius value = true) :
    (key.presentCorners (key.setCorner value corners)).image =
      some (key.presentCorners (key.setCorner value corners)).slots.radii := by
  cases key with
  | borderRadius corner => rfl
  | _ => cases takes

theorem moveCorners_of_not_takes (corners : Shown Corner (Option Radii))
    (passes : key.takesRadius value = false) :
    key.presentCorners (key.setCorner value corners) = corners := by
  cases key with
  | borderRadius corner => cases passes
  | _ => rfl

end Image

end Key

/-- How the box properties and the pointer events stand after a batch has gone through a chain. -/
structure Scene.Follows (chain : Chain) (batch : List Update) (before after : Scene) :
    Prop where
  paddingSlot : ∀ edge, after.node.padding.get edge =
    chain.lastAccepted (.padding edge) (fun value => value.number?.isSome) Value.number?
      (before.node.padding.get edge) batch
  borderSlot : ∀ edge, after.node.border.get edge =
    chain.lastAccepted (.borderWidth edge) (fun value => value.width?.isSome) Value.width?
      (before.node.border.get edge) batch
  cornerSlot : ∀ corner, after.node.corners.get corner =
    chain.lastAccepted (.borderRadius corner) (fun _ => true) Value.number?
      (before.node.corners.get corner) batch
  mouseFlag : ∀ event, after.node.mouse.wants event =
    chain.lastAccepted (.mouse event) (fun _ => true) Value.isTruthy
      (before.node.mouse.wants event) batch
  padding : after.view.padding =
    if batch.any (chain.brings Key.takesPadding) then some after.node.padding.insets
    else before.view.padding
  borderThickness : after.view.borderThickness =
    if batch.any (chain.brings Key.takesBorderWidth) then after.node.border.insets
    else before.view.borderThickness
  cornerRadius : after.view.cornerRadius =
    if batch.any (chain.brings Key.takesRadius) then some after.node.corners.radii
    else before.view.cornerRadius

namespace Chain

section Applied

variable {α : Type} (chain : Chain) (platform : Platform) (before : Scene) (batch : List Update)

theorem applyAll_lastAccepted {key : Key} {accepts : Value → Bool} {content : Value → α}
    (read : Parts → α)
    (moved : ∀ other value parts, read (Key.effect (before.backdrop platform) other value parts) =
      if other = key ∧ accepts value = true then content value else read parts) :
    read (chain.applyAll platform before batch).2.parts =
      chain.lastAccepted key accepts content (read before.parts) batch := by
  rw [parts_applyAll]
  exact chain.foldl_lastAccepted read moved before.parts batch

theorem applyAll_shown {concerns : Key → Value → Bool} (image resolved : Parts → α)
    (takes : ∀ key value parts, concerns key value = true →
      image (Key.effect (before.backdrop platform) key value parts) =
        resolved (Key.effect (before.backdrop platform) key value parts))
    (passes : ∀ key value parts, concerns key value = false →
      image (Key.effect (before.backdrop platform) key value parts) = image parts ∧
        resolved (Key.effect (before.backdrop platform) key value parts) = resolved parts) :
    image (chain.applyAll platform before batch).2.parts =
      if batch.any (chain.brings concerns) then
        resolved (chain.applyAll platform before batch).2.parts
      else image before.parts := by
  rw [parts_applyAll]
  exact chain.foldl_shown image resolved takes passes before.parts batch

end Applied

/-- The last accepted write to a slot wins, whatever other updates come between, and the view is
never stale: once a value has been accepted it shows what the slots add up to at the end. -/
theorem applyAll_follows (chain : Chain) (platform : Platform) (before : Scene)
    (batch : List Update) :
    before.Follows chain batch (chain.applyAll platform before batch).2 where
  paddingSlot edge :=
    chain.applyAll_lastAccepted platform before batch (fun parts => parts.padding.slots.get edge)
      fun other value parts => Key.get_movePadding value edge other parts.padding
  borderSlot edge :=
    chain.applyAll_lastAccepted platform before batch (fun parts => parts.border.slots.get edge)
      fun other value parts => Key.get_moveBorder value _ edge other parts.border
  cornerSlot corner := by
    refine chain.applyAll_lastAccepted platform before batch
      (fun parts => parts.corners.slots.get corner) fun other value parts => ?_
    simp only [and_true]
    exact Key.get_moveCorners value corner other parts.corners
  mouseFlag event := by
    refine chain.applyAll_lastAccepted platform before batch
      (fun parts => parts.mouse.wants event) fun other value parts => ?_
    simp only [and_true]
    exact Key.wants_moveMouse value event other parts.mouse
  padding := by
    refine chain.applyAll_shown platform before batch (fun parts => parts.padding.image)
      (fun parts => some parts.padding.slots.insets) ?_ ?_
    · exact fun key value parts takes => Key.movePadding_image parts.padding takes
    · intro key value parts passes
      have same := Key.movePadding_of_not_takes parts.padding passes
      exact ⟨congrArg Shown.image same, congrArg (fun shown => some shown.slots.insets) same⟩
  borderThickness := by
    refine chain.applyAll_shown platform before batch (fun parts => parts.border.image)
      (fun parts => parts.border.slots.insets) ?_ ?_
    · exact fun key value parts takes => Key.moveBorder_image _ parts.border takes
    · intro key value parts passes
      have same := Key.moveBorder_of_not_takes (before.defaultBorder platform) parts.border passes
      exact ⟨congrArg Shown.image same, congrArg (fun shown => shown.slots.insets) same⟩
  cornerRadius := by
    refine chain.applyAll_shown platform before batch (fun parts => parts.corners.image)
      (fun parts => some parts.corners.slots.radii) ?_ ?_
    · exact fun key value parts takes => Key.moveCorners_image parts.corners takes
    · intro key value parts passes
      have same := Key.moveCorners_of_not_takes parts.corners passes
      exact ⟨congrArg Shown.image same, congrArg (fun shown => some shown.slots.radii) same⟩

end Chain

end ViewStyle
