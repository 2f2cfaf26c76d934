import ViewStyle.Proofs.ArrivalOrder
import ViewStyle.Proofs.BorderBrush
import ViewStyle.Proofs.LastWrite

/-!
# Values that make up for earlier ones

Of two values given to one property the later one makes up for the earlier, unless it is passed
over; values given to different properties may change places. Main statement: moving the parts of a
pair through a batch a second time leaves them as the first time did. A null border colour beside a
border width is the one exception.
-/

set_option autoImplicit false

namespace ViewStyle

section Folds

variable {State Input : Type}

/-- A move gives way to a later one: it may come after it, or the later one makes up for it. -/
def GivesWay (move : State → Input → State) (early late : Input) : Prop :=
  (∀ state, move (move state early) late = move (move state late) early) ∨
    ∀ state, move (move state early) late = move state late

variable {move : State → Input → State} {inputs : List Input}

/-- A move that gives way to all later ones is made up for, or may come after all of them. -/
theorem foldl_of_givesWay {early : Input} (way : ∀ late ∈ inputs, GivesWay move early late) :
    (∀ state, inputs.foldl move (move state early) = inputs.foldl move state) ∨
      ∀ state, inputs.foldl move (move state early) = move (inputs.foldl move state) early := by
  induction inputs with
  | nil => exact .inr fun _ => rfl
  | cons late rest ih =>
      have restWay := ih fun other member => way other (List.mem_cons_of_mem late member)
      rcases way late List.mem_cons_self with swapped | absorbed
      · rcases restWay with restAbsorbed | restPassed
        · refine .inl fun state => ?_
          rw [List.foldl_cons, swapped, restAbsorbed, List.foldl_cons]
        · refine .inr fun state => ?_
          rw [List.foldl_cons, swapped, restPassed, List.foldl_cons]
      · refine .inl fun state => ?_
        rw [List.foldl_cons, absorbed, List.foldl_cons]

/-- Moves that give way to each other come to nothing when all of them are made again. -/
theorem foldl_again
    (way : ∀ early ∈ inputs, ∀ late ∈ inputs, GivesWay move early late)
    (twice : ∀ input ∈ inputs, ∀ state, move (move state input) input = move state input)
    (state : State) :
    inputs.foldl move (inputs.foldl move state) = inputs.foldl move state := by
  induction inputs generalizing state with
  | nil => rfl
  | cons first rest ih =>
      have restAgain := ih
        (fun early member late lateMember => way early (List.mem_cons_of_mem first member) late
          (List.mem_cons_of_mem first lateMember))
        fun input member => twice input (List.mem_cons_of_mem first member)
      have firstWay : ∀ late ∈ rest, GivesWay move first late := fun late member =>
        way first List.mem_cons_self late (List.mem_cons_of_mem first member)
      rw [List.foldl_cons, List.foldl_cons]
      rcases foldl_of_givesWay firstWay with absorbed | passed
      · rw [absorbed, absorbed, restAgain]
      · rw [passed, restAgain, ← passed, twice first List.mem_cons_self]

end Folds

/-- Moves of a state by the values given to properties. Values for different properties may change
places, and each is passed over or makes up for an earlier one of its property. -/
structure Key.Settles {State : Type} (move : Key → Value → State → State) : Prop where
  apart : ∀ {first second : Key}, first ≠ second → ∀ (x y : Value) (state : State),
    move second y (move first x state) = move first x (move second y state)
  own : ∀ (key : Key) (y : Value), (∀ state, move key y state = state) ∨
    ∀ (x : Value) (state : State), move key y (move key x state) = move key y state

namespace Chain

section Folds

variable {State Other : Type} {move : Key → Value → State → State}
  {apartMove : Key → Value → Other → Other} (chain : Chain) {batch : List Update}

theorem through_givesWay (settles : Key.Settles move) (early late : Update) :
    GivesWay (chain.through move) early late := by
  unfold GivesWay
  cases earlyFound : chain.property? early with
  | none =>
      left
      simp only [through_of_no_property _ _ earlyFound, implies_true]
  | some first =>
      cases lateFound : chain.property? late with
      | none =>
          left
          simp only [through_of_no_property _ _ lateFound, implies_true]
      | some second =>
          simp only [through_of_property _ _ earlyFound, through_of_property _ _ lateFound]
          by_cases same : first = second
          · subst same
            rcases settles.own first late.value with passed | absorbed
            · exact .inl fun state => by rw [passed, passed]
            · exact .inr (absorbed early.value)
          · exact .inl (settles.apart same early.value late.value)

theorem through_twice (settles : Key.Settles move) (update : Update) (state : State) :
    chain.through move (chain.through move state update) update =
      chain.through move state update := by
  cases found : chain.property? update with
  | none => simp only [through_of_no_property _ _ found]
  | some key =>
      simp only [through_of_property _ _ found]
      rcases settles.own key update.value with passed | absorbed
      · rw [passed, passed]
      · exact absorbed update.value state

/-- What is read of a state is moved as the updates of the batch move it by itself. -/
theorem foldl_read (read : State → Other)
    (moved : ∀ update ∈ batch, ∀ key, chain.property? update = some key → ∀ state,
      read (move key update.value state) = apartMove key update.value (read state))
    (state : State) :
    read (batch.foldl (chain.through move) state) =
      batch.foldl (chain.through apartMove) (read state) := by
  induction batch generalizing state with
  | nil => rfl
  | cons update rest ih =>
      have first : read (chain.through move state update) =
          chain.through apartMove (read state) update := by
        cases found : chain.property? update with
        | none => simp only [through_of_no_property _ _ found]
        | some key =>
            simp only [through_of_property _ _ found]
            exact moved update List.mem_cons_self key found state
      rw [List.foldl_cons, List.foldl_cons, ← first]
      exact ih (fun other member => moved other (List.mem_cons_of_mem update member)) _

/-- A reading that settles by itself stands when the batch comes again. -/
theorem foldl_read_again (settles : Key.Settles apartMove) (read : State → Other)
    (moved : ∀ update ∈ batch, ∀ key, chain.property? update = some key → ∀ state,
      read (move key update.value state) = apartMove key update.value (read state))
    (state : State) :
    read (batch.foldl (chain.through move) (batch.foldl (chain.through move) state)) =
      read (batch.foldl (chain.through move) state) := by
  rw [chain.foldl_read read moved, chain.foldl_read read moved]
  exact foldl_again
    (fun early _ late _ => chain.through_givesWay settles early late)
    (fun update _ => chain.through_twice settles update) (read state)

end Folds

end Chain

/-- Of two contents of a slot the second stays, and the view shows what the slots then add up to. -/
theorem Shown.set_present_again {Name Image : Type} [SlotName Name] (shown : Shown Name Image)
    (resolve : Slots Name → Image) (name : Name) (first second : Option Binary64) :
    (((shown.set name first).present resolve).set name second).present resolve =
      (shown.set name second).present resolve := by
  simp [set, present, Slots.set]

/-- Changes to one property without slots leave what the second says. -/
theorem View.change_change (view : View) {first second : Change} {key : Key}
    (firstSubject : first.subject? = some key) (secondSubject : second.subject? = some key) :
    (view.change first).change second = view.change second := by
  cases first with
  | brush paint =>
      cases paint with
      | border => cases firstSubject
      | background | foreground =>
          cases firstSubject
          cases second with
          | brush other => cases other <;> first | rfl | cases secondSubject
          | _ => cases secondSubject
  | borderThickness | padding | cornerRadius => cases firstSubject
  | _ =>
      cases firstSubject
      cases second with
      | brush paint => cases paint <;> cases secondSubject
      | _ => first | rfl | cases secondSubject

namespace Key

theorem movePadding_settles : Settles fun key value padding => key.movePadding value padding where
  apart different _ _ padding := movePadding_comm different padding
  own key y := by
    cases key with
    | padding edge =>
        cases accepted : y.number? with
        | none => exact .inl fun padding => by simp only [movePadding, accepted]
        | some width =>
            refine .inr fun x padding => ?_
            simp only [movePadding, accepted]
            cases x.number? with
            | none => rfl
            | some earlier => exact padding.set_present_again _ edge (some earlier) (some width)
    | _ => exact .inl fun _ => rfl

theorem moveCorners_settles :
    Settles fun key value corners => key.presentCorners (key.setCorner value corners) where
  apart different _ _ corners := moveCorners_comm different corners
  own key y := by
    cases key with
    | borderRadius corner =>
        exact .inr fun x corners => corners.set_present_again _ corner x.number? y.number?
    | _ => exact .inl fun _ => rfl

theorem moveMouse_settles : Settles fun key value mouse => key.moveMouse value mouse where
  apart different _ _ mouse := moveMouse_comm different mouse
  own key y := by
    cases key with
    | mouse event => exact .inr fun x mouse => by cases event <;> rfl
    | _ => exact .inl fun _ => rfl

theorem change?_settles (decoratesText : Bool) :
    Settles fun key value (plain : View) =>
      (key.change? decoratesText value).elim plain plain.change where
  apart different _ _ plain := change?_comm different decoratesText plain
  own key y := by
    cases changes : key.change? decoratesText y with
    | none => exact .inl fun _ => rfl
    | some later =>
        refine .inr fun x plain => ?_
        cases changed : key.change? decoratesText x with
        | none => rfl
        | some earlier =>
            exact plain.change_change (subject?_of_change? changed) (subject?_of_change? changes)

/-- What a value makes of the slots of a border and of the thickness that the view shows. -/
def moveThickness (value : Value) (thickness : Shown Edge Insets) : Key → Shown Edge Insets
  | .borderWidth edge =>
    match value.width? with
    | some width => (thickness.set edge (some width)).present Slots.insets
    | none => thickness
  | _ => thickness

/-- What a value other than a null colour makes of the brush of a border. -/
def moveBrush (fallback : Brush) (value : Value) (brush : Option Brush) : Key → Option Brush
  | .borderColor => (Brush.ofValue? value).or brush
  | .borderWidth _ =>
    brush.or (if value.number?.any fun width => !width.isZero then some fallback else none)
  | _ => brush

/-- What a value makes of a border that is given no width. -/
def moveColor (fallback : Brush) (value : Value) (border : Border) : Key → Border
  | .borderColor => border.giveColor fallback value
  | _ => border

section Border

variable (fallback : Brush) (value : Value) (border : Border) (key : Key)

theorem toShown_moveBorder :
    (key.moveBorder fallback value border).toShown = key.moveThickness value border.toShown := by
  cases key with
  | borderColor =>
      simp only [moveBorder, Border.giveColor, moveThickness]
      split <;> rfl
  | borderWidth edge =>
      simp only [moveBorder, Border.giveWidth, moveThickness]
      cases value.width? <;> rfl
  | _ => rfl

theorem brush_moveBorder (kept : key = .borderColor → value.isNull = false) :
    (key.moveBorder fallback value border).brush =
      key.moveBrush fallback value border.brush := by
  cases key with
  | borderColor =>
      cases value with
      | null => cases kept rfl
      | number | bool | text => rfl
  | borderWidth edge => exact border.brush_giveWidth fallback edge value
  | _ => rfl

theorem moveBorder_eq_moveColor (passes : key.takesBorderWidth value = false) :
    key.moveBorder fallback value border = key.moveColor fallback value border := by
  cases key with
  | borderWidth edge =>
      have refused : value.width? = none := by simpa [takesBorderWidth] using passes
      simp [moveBorder, moveColor, Border.giveWidth, refused]
  | _ => rfl

end Border

theorem moveThickness_settles :
    Settles fun key value thickness => key.moveThickness value thickness where
  apart {first second} different x y thickness := by
    cases first with
    | borderWidth edge =>
        cases second with
        | borderWidth other =>
            have edges : edge ≠ other := fun equal => different (congrArg Key.borderWidth equal)
            cases firstWidth : x.width? with
            | none => simp [moveThickness, firstWidth]
            | some width =>
                cases secondWidth : y.width? with
                | none => simp [moveThickness, secondWidth]
                | some otherWidth =>
                    simp only [moveThickness, firstWidth, secondWidth]
                    exact thickness.set_present_comm _ edges (some width) (some otherWidth)
        | _ => rfl
    | _ => rfl
  own key y := by
    cases key with
    | borderWidth edge =>
        cases accepted : y.width? with
        | none => exact .inl fun thickness => by simp only [moveThickness, accepted]
        | some width =>
            refine .inr fun x thickness => ?_
            simp only [moveThickness, accepted]
            cases x.width? with
            | none => rfl
            | some earlier => exact thickness.set_present_again _ edge (some earlier) (some width)
    | _ => exact .inl fun _ => rfl

theorem moveBrush_settles (fallback : Brush) :
    Settles fun key value brush => key.moveBrush fallback value brush where
  apart {first second} different x y brush := by
    cases first with
    | borderColor =>
        cases second with
        | borderColor => exact absurd rfl different
        | borderWidth edge => exact Option.or_assoc
        | _ => rfl
    | borderWidth edge =>
        cases second with
        | borderColor => exact Option.or_assoc.symm
        | borderWidth other =>
            simp only [moveBrush]
            split <;> split <;> simp
        | _ => rfl
    | _ => rfl
  own key y := by
    cases key with
    | borderColor =>
        cases colored : Brush.ofValue? y with
        | none => exact .inl fun brush => by simp [moveBrush, colored]
        | some color => exact .inr fun x brush => by simp [moveBrush, colored]
    | borderWidth edge =>
        cases brings : y.number?.any fun width => !width.isZero with
        | false => exact .inl fun brush => by simp [moveBrush, brings]
        | true =>
            refine .inr fun x brush => ?_
            simp only [moveBrush, brings, if_true]
            split <;> simp
    | _ => exact .inl fun _ => rfl

theorem moveColor_settles (fallback : Brush) :
    Settles fun key value border => key.moveColor fallback value border where
  apart {first second} different x y border := by
    cases first with
    | borderColor =>
        cases second with
        | borderColor => exact absurd rfl different
        | _ => rfl
    | _ => rfl
  own key y := by
    cases key with
    | borderColor =>
        cases y with
        | number | null => exact .inr fun x border => by cases x <;> rfl
        | bool | text => exact .inl fun _ => rfl
    | _ => exact .inl fun _ => rfl

end Key

/-- Whether the update gives an edge of the border a number or no value. -/
def Update.givesBorderWidth (update : Update) : Bool :=
  (Key.ofName? update.name).any fun key => key.takesBorderWidth update.value

namespace Chain

variable (chain : Chain) {batch : List Update}

/-- A border settles under a batch that does not both take its colour away and give it a width. -/
theorem foldl_moveBorder_again (fallback : Brush)
    (free : batch.any Update.clearsBorderColor = false ∨
      batch.any Update.givesBorderWidth = false) (border : Border) :
    let move := chain.through fun key value border => key.moveBorder fallback value border
    batch.foldl move (batch.foldl move border) = batch.foldl move border := by
  intro move
  rcases free with uncleared | unwidened
  · have thickness : (batch.foldl move (batch.foldl move border)).toShown =
        (batch.foldl move border).toShown :=
      chain.foldl_read_again Key.moveThickness_settles Border.toShown
        (fun update _ key _ border => key.toShown_moveBorder fallback update.value border) border
    have brush : (batch.foldl move (batch.foldl move border)).brush =
        (batch.foldl move border).brush := by
      refine chain.foldl_read_again (Key.moveBrush_settles fallback) Border.brush ?_ border
      intro update member key found border
      refine key.brush_moveBorder fallback update.value border fun isColor => ?_
      obtain ⟨known, -⟩ := (chain.property?_eq_some_iff update key).mp found
      have keeps := List.any_eq_false.mp uncleared update member
      simpa [Update.clearsBorderColor, known, isColor] using keeps
    exact congrArg₂ Border.mk thickness brush
  · refine chain.foldl_read_again (Key.moveColor_settles fallback) id ?_ border
    intro update member key found border
    refine key.moveBorder_eq_moveColor fallback update.value border ?_
    obtain ⟨known, -⟩ := (chain.property?_eq_some_iff update key).mp found
    have passes := List.any_eq_false.mp unwidened update member
    simpa [Update.givesBorderWidth, known] using passes

/-- Moving the parts of a pair through a batch a second time leaves them as the first time did,
unless the batch both takes the colour of the border away and gives it a width. -/
theorem foldl_effect_again (backdrop : Backdrop)
    (free : batch.any Update.clearsBorderColor = false ∨
      batch.any Update.givesBorderWidth = false) (parts : Parts) :
    let move := chain.through (Key.effect backdrop)
    batch.foldl move (batch.foldl move parts) = batch.foldl move parts := by
  intro move
  have border : (batch.foldl move (batch.foldl move parts)).border =
      (batch.foldl move parts).border := by
    have reads (parts : Parts) : (batch.foldl move parts).border =
        batch.foldl (chain.through fun key value border =>
          key.moveBorder backdrop.defaultBorder value border) parts.border :=
      chain.foldl_read Parts.border (fun _ _ _ _ _ => rfl) parts
    rw [reads, reads]
    exact chain.foldl_moveBorder_again backdrop.defaultBorder free parts.border
  have padding : (batch.foldl move (batch.foldl move parts)).padding =
      (batch.foldl move parts).padding :=
    chain.foldl_read_again Key.movePadding_settles Parts.padding (fun _ _ _ _ _ => rfl) parts
  have corners : (batch.foldl move (batch.foldl move parts)).corners =
      (batch.foldl move parts).corners :=
    chain.foldl_read_again Key.moveCorners_settles Parts.corners (fun _ _ _ _ _ => rfl) parts
  have mouse : (batch.foldl move (batch.foldl move parts)).mouse =
      (batch.foldl move parts).mouse :=
    chain.foldl_read_again Key.moveMouse_settles Parts.mouse (fun _ _ _ _ _ => rfl) parts
  have plain : (batch.foldl move (batch.foldl move parts)).plain =
      (batch.foldl move parts).plain :=
    chain.foldl_read_again (Key.change?_settles backdrop.decoratesText) Parts.plain
      (fun _ _ _ _ _ => rfl) parts
  exact (Parts.mk.injEq ..).mpr ⟨border, padding, corners, mouse, plain⟩

end Chain

end ViewStyle
