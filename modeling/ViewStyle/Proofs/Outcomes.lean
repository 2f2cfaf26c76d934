import ViewStyle.Proofs.Output

/-!
# Outcomes of updates

The record of an update closes with one outcome, which its property, its value and what it finds
decide between them. The table of these outcomes is laid down here next to the actions of the
handlers, which agree with it.
-/

set_option autoImplicit false

namespace ViewStyle

namespace Outcome

/-- Whether the outcome says that an update was dropped, if it is the last that is said of it. -/
def isLoss : Outcome → Bool
  | typeMismatch _ | unrecognizedToken | unsupported => true
  | applied | cleared | defaultBorderBrush => false

end Outcome

namespace Value

theorem number?_isSome (value : Value) :
    value.number?.isSome = decide (value.kind = .number) := by
  cases value <;> rfl

theorem text?_isSome (value : Value) : value.text?.isSome = decide (value.kind = .text) := by
  cases value <;> rfl

/-- What becomes of a value of a property that takes one kind of value. -/
def outcomeAs (wanted : Kind) (value : Value) : Outcome :=
  if value.kind = wanted then .applied
  else if value.isNull then .cleared
  else .typeMismatch value.kind

theorem outcomeAs_cases (wanted : Kind) (value : Value) :
    value.outcomeAs wanted = .applied ∨ value.outcomeAs wanted = .cleared ∨
      value.outcomeAs wanted = .typeMismatch value.kind := by
  unfold outcomeAs
  split
  · exact .inl rfl
  · split
    · exact .inr (.inl rfl)
    · exact .inr (.inr rfl)

theorem outcomeAs_eq_typeMismatch {wanted kind : Kind} {value : Value}
    (mismatch : value.outcomeAs wanted = .typeMismatch kind) : kind = value.kind := by
  rcases value.outcomeAs_cases wanted with is | is | is <;> rw [is] at mismatch <;> cases mismatch
  rfl

theorem outcomeAs_of_kind {wanted : Kind} {value : Value} (isWanted : value.kind = wanted) :
    value.outcomeAs wanted = .applied := if_pos isWanted

theorem outcomeAs_ne_unsupported (wanted : Kind) (value : Value) :
    value.outcomeAs wanted ≠ .unsupported := by
  rcases value.outcomeAs_cases wanted with is | is | is <;> simp [is]

theorem outcomeAs_ne_unrecognizedToken (wanted : Kind) (value : Value) :
    value.outcomeAs wanted ≠ .unrecognizedToken := by
  rcases value.outcomeAs_cases wanted with is | is | is <;> simp [is]

theorem outcomeAs_ne_defaultBorderBrush (wanted : Kind) (value : Value) :
    value.outcomeAs wanted ≠ .defaultBorderBrush := by
  rcases value.outcomeAs_cases wanted with is | is | is <;> simp [is]

/-- Whether the value is a text that is none of a property's tokens. -/
def strays {α : Type} (ofToken? : String → Option α) (value : Value) : Bool :=
  value.text?.any fun token => (ofToken? token).isNone

@[simp] theorem strays_text {α : Type} (ofToken? : String → Option α) (token : String) :
    (text token).strays ofToken? = (ofToken? token).isNone := rfl

theorem isText_of_strays {α : Type} {ofToken? : String → Option α} {value : Value}
    (strays : value.strays ofToken? = true) : value.kind = .text := by
  cases value with
  | text => rfl
  | null | bool | number => cases strays

/-- Whether the value gives a border without a brush a width other than zero. -/
def wantsBrush (view : View) (value : Value) : Bool :=
  value.number?.any (fun width => !width.isZero) && view.borderBrush.isNone

end Value

namespace Key

/-- The outcome that closes the record of an update. -/
def closing (view : View) (decoratesText : Bool) (value : Value) : Key → Outcome
  | .backgroundColor | .color | .fontSize | .characterSpacing => value.outcomeAs .number
  | .fontFamily | .fontWeight | .fontStyle | .textAlign | .ellipsizeMode => value.outcomeAs .text
  | .borderColor =>
    if value.isNull && view.borderThickness.isVisible then .defaultBorderBrush
    else value.outcomeAs .number
  | .borderWidth _ =>
    if value.wantsBrush view then .defaultBorderBrush else value.outcomeAs .number
  | .padding _ => if value.isNull then .typeMismatch .null else value.outcomeAs .number
  | .borderRadius _ => if value.number?.isSome then .applied else .cleared
  | .textDecorationLine => if decoratesText then value.outcomeAs .text else .unsupported
  | .direction =>
    if value.strays FlowDirection.ofToken? then .cleared else value.outcomeAs .text
  | .orientation =>
    if value.strays Orientation.ofToken? then .unrecognizedToken else value.outcomeAs .text
  | .mouse _ => .applied

/-- The outcomes that an update is recorded with before the one that closes its record. -/
def opening (view : View) (value : Value) : Key → List Outcome
  | .fontWeight => if value.strays FontWeight.ofToken? then [.unrecognizedToken] else []
  | .borderWidth _ => if value.wantsBrush view then [.applied] else []
  | _ => []

end Key

/-- The entry of an outcome. It holds the text that was given, if that was no token. -/
def Entry.about (property : String) (value : Value) (outcome : Outcome) : Entry :=
  ⟨property, outcome, if outcome = .unrecognizedToken then value.text? else none⟩

@[simp] theorem Entry.about_outcome (property : String) (value : Value) (outcome : Outcome) :
    (Entry.about property value outcome).outcome = outcome := rfl

namespace Action

/-- Whether an action leaves the node, the view, the default brush and the calls alone. -/
def isQuiet : Action → Bool
  | askDecorations | note _ | noteToken _ => true
  | _ => false

/-- Whether an action sets or clears something on the view. -/
def isCall : Action → Bool
  | change _ | present _ | substituteBorderBrush => true
  | _ => false

end Action

/-- What actions record, and whether they have an effect, agree: a record that closes with a loss is
all that they leave, and any other comes with a call to the view. -/
structure Closes (property : String) (value : Value) (actions : List Action)
    (opening : List Outcome) (closing : Outcome) : Prop where
  recorded : actions.filterMap (Action.recorded? property) =
    (opening ++ [closing]).map (Entry.about property value)
  quiet : closing.isLoss = true → ∀ action ∈ actions, action.isQuiet = true
  calls : closing.isLoss = false → ∃ action ∈ actions, action.isCall = true

namespace Closes

variable (property : String) (value : Value)

theorem mismatch :
    Closes property value (Handler.mismatch value) [] (.typeMismatch value.kind) where
  recorded := rfl
  quiet := by simp [Handler.mismatch, Action.isQuiet]
  calls := by simp [Outcome.isLoss]

/-- Changes to the view, and then an outcome that is no loss. -/
theorem effective {actions : List Action} {opening : List Outcome} {closing : Outcome}
    (recorded : actions.filterMap (Action.recorded? property) =
      (opening ++ [closing]).map (Entry.about property value))
    (noLoss : closing.isLoss = false) (calls : ∃ action ∈ actions, action.isCall = true) :
    Closes property value actions opening closing :=
  ⟨recorded, fun loss => absurd (noLoss.symm.trans loss) Bool.false_ne_true, fun _ => calls⟩

theorem settle {α : Type} {content? : Value → Option α} {wanted : Kind}
    (takes : (content? value).isSome = decide (value.kind = wanted))
    (toChange : Option α → Change) :
    Closes property value (Handler.settle content? toChange value) []
      (value.outcomeAs wanted) := by
  unfold Handler.settle Value.outcomeAs
  cases content : content? value with
  | some found =>
      have isWanted : value.kind = wanted := by simpa [content] using takes.symm
      rw [if_pos isWanted]
      exact effective property value rfl rfl ⟨_, List.mem_cons_self, rfl⟩
  | none =>
      have notWanted : value.kind ≠ wanted := by simpa [content] using takes.symm
      rw [if_neg notWanted]
      cases value.isNull with
      | true => exact effective property value rfl rfl ⟨_, List.mem_cons_self, rfl⟩
      | false => exact mismatch property value

theorem settle_number {α : Type} (read : Binary64 → α) (toChange : Option α → Change) :
    Closes property value (Handler.settle (fun value => value.number?.map read) toChange value) []
      (value.outcomeAs .number) := by
  refine settle property value ?_ toChange
  rw [Option.isSome_map, value.number?_isSome]

theorem settle_text {α : Type} (read : String → α) (toChange : Option α → Change) :
    Closes property value (Handler.settle (fun value => value.text?.map read) toChange value) []
      (value.outcomeAs .text) := by
  refine settle property value ?_ toChange
  rw [Option.isSome_map, value.text?_isSome]

theorem paint (part : Paint) :
    Closes property value (Handler.paint part value) [] (value.outcomeAs .number) := by
  cases value with
  | number | null => exact effective property _ rfl rfl ⟨_, List.mem_cons_self, rfl⟩
  | bool | text => exact mismatch property _

theorem borderColor (view : View) :
    Closes property value (Handler.borderColor view value) []
      (if value.isNull && view.borderThickness.isVisible then .defaultBorderBrush
        else value.outcomeAs .number) := by
  cases value with
  | null =>
      rw [Handler.borderColor_null]
      cases view.borderThickness.isVisible <;>
        exact effective property _ rfl rfl ⟨_, List.mem_cons_self, rfl⟩
  | number | bool | text => exact paint property _ .border

theorem borderWidth (view : View) (edge : Edge) :
    Closes property value (Handler.borderWidth view edge value)
      (if value.wantsBrush view then [.applied] else [])
      (if value.wantsBrush view then .defaultBorderBrush else value.outcomeAs .number) := by
  have presents (written : Action) (after : List Action) :
      ∃ action ∈ written :: .present .border :: after, action.isCall = true :=
    ⟨.present .border, List.mem_cons_of_mem written List.mem_cons_self, rfl⟩
  cases value with
  | number width =>
      have asks : (Value.number width).wantsBrush view =
          (!width.isZero && view.borderBrush.isNone) := rfl
      simp only [Handler.borderWidth, Value.number?, asks]
      cases !width.isZero && view.borderBrush.isNone with
      | true => exact effective property _ rfl rfl (presents _ _)
      | false => exact effective property _ rfl rfl (presents _ _)
  | null => exact effective property _ rfl rfl (presents _ _)
  | bool | text => exact mismatch property _

theorem direction :
    Closes property value (Handler.direction value) []
      (if value.strays FlowDirection.ofToken? then .cleared else value.outcomeAs .text) := by
  cases value with
  | text token =>
      cases named : FlowDirection.ofToken? token with
      | none =>
          have strays : (Value.text token).strays FlowDirection.ofToken? = true := by simp [named]
          have inherits : Handler.direction (.text token) =
              [.change (.flowDirection none), .note .cleared] := by
            simp [Handler.direction, Handler.settle, Value.text?, Value.isNull, Value.kind, named]
          rw [if_pos strays, inherits]
          exact effective property _ rfl rfl ⟨_, List.mem_cons_self, rfl⟩
      | some direction =>
          have known : ¬(Value.text token).strays FlowDirection.ofToken? = true := by simp [named]
          have turns : Handler.direction (.text token) =
              [.change (.flowDirection (some direction)), .note .applied] := by
            simp [Handler.direction, Handler.settle, Value.text?, named]
          rw [if_neg known, turns]
          exact effective property _ rfl rfl ⟨_, List.mem_cons_self, rfl⟩
  | null => exact effective property _ rfl rfl ⟨_, List.mem_cons_self, rfl⟩
  | bool | number => exact mismatch property _

theorem fontWeight :
    Closes property value (Handler.fontWeight value)
      (if value.strays FontWeight.ofToken? then [.unrecognizedToken] else [])
      (value.outcomeAs .text) := by
  cases value with
  | text token =>
      cases named : FontWeight.ofToken? token <;>
        simp only [Handler.fontWeight, Handler.unknownWeight, Value.strays, Value.text?,
          Option.any_some, named]
      · exact effective property _ rfl rfl ⟨_, List.mem_cons_of_mem _ List.mem_cons_self, rfl⟩
      · exact effective property _ rfl rfl ⟨_, List.mem_cons_self, rfl⟩
  | null => exact effective property _ rfl rfl ⟨_, List.mem_cons_self, rfl⟩
  | bool | number => exact mismatch property _

end Closes

namespace Key

variable (platform : Platform) (scene : Scene)

theorem closes_orientation (property : String) (value : Value) :
    Closes property value (Key.orientation.actions platform scene value) []
      (if value.strays Orientation.ofToken? then .unrecognizedToken
        else value.outcomeAs .text) := by
  cases value with
  | text token =>
      cases named : Orientation.ofToken? token with
      | none =>
          have strays : (Value.text token).strays Orientation.ofToken? = true := by simp [named]
          have reports : Key.orientation.actions platform scene (.text token) =
              [.noteToken token] := by
            simp [actions, Handler.orient, Value.text?, named]
          rw [if_pos strays, reports]
          exact ⟨rfl, by simp [Action.isQuiet], by simp [Outcome.isLoss]⟩
      | some axis =>
          have known : ¬(Value.text token).strays Orientation.ofToken? = true := by simp [named]
          have turns : Key.orientation.actions platform scene (.text token) =
              [.change (.orientation (some axis)), .note .applied] := by
            simp [actions, Handler.orient, Value.text?, named]
          rw [if_neg known, turns]
          exact .effective property _ rfl rfl ⟨_, List.mem_cons_self, rfl⟩
  | null => exact .effective property _ rfl rfl ⟨_, List.mem_cons_self, rfl⟩
  | bool | number => exact .mismatch property _

/-- Asking whether text can be decorated is quiet, and what follows is as for other texts. -/
theorem closes_textDecorationLine (property : String) (value : Value) :
    Closes property value (Key.textDecorationLine.actions platform scene value) []
      (if scene.decoratesText platform then value.outcomeAs .text else .unsupported) := by
  cases decorates : scene.decoratesText platform with
  | false =>
      have drops : Key.textDecorationLine.actions platform scene value =
          [.askDecorations, .note .unsupported] := by
        simp [actions, Handler.decorationLine, decorates]
      rw [drops]
      exact ⟨rfl, by simp [Action.isQuiet], by simp [Outcome.isLoss]⟩
  | true =>
      obtain ⟨recorded, quiet, calls⟩ :=
        Closes.settle_text property value TextDecorations.ofToken .textDecorations
      simp only [actions, Handler.decorationLine, decorates, if_true]
      refine ⟨recorded, fun loss => ?_, fun noLoss => ?_⟩
      · exact List.forall_mem_cons.mpr ⟨rfl, quiet loss⟩
      · obtain ⟨action, member, called⟩ := calls noLoss
        exact ⟨action, List.mem_cons_of_mem _ member, called⟩

theorem closes_actions (key : Key) (property : String) (value : Value)
    (noCorner : key.group ≠ .cornerRadius) (noMouse : key.group ≠ .mouseEvents) :
    Closes property value (key.actions platform scene value) (key.opening scene.view value)
      (key.closing scene.view (scene.decoratesText platform) value) := by
  cases key with
  | borderRadius => exact absurd rfl noCorner
  | mouse => exact absurd rfl noMouse
  | backgroundColor | color => exact .paint property value _
  | borderColor => exact .borderColor property value scene.view
  | borderWidth edge => exact .borderWidth property value scene.view edge
  | padding edge =>
      cases value with
      | number width =>
          exact .effective property _ rfl rfl
            ⟨.present .padding, List.mem_cons_of_mem _ List.mem_cons_self, rfl⟩
      | null | bool | text => exact .mismatch property _
  | fontSize => exact .settle property value value.number?_isSome _
  | fontFamily => exact .settle property value value.text?_isSome _
  | fontWeight => exact .fontWeight property value
  | fontStyle | textAlign | ellipsizeMode => exact .settle_text property value _ _
  | textDecorationLine => exact closes_textDecorationLine platform scene property value
  | direction => exact .direction property value
  | characterSpacing => exact .settle_number property value _ _
  | orientation => exact closes_orientation platform scene property value

theorem followUp_of_ne {group : Group} (noCorner : group ≠ .cornerRadius) :
    group.followUp = [] := by
  cases group with
  | cornerRadius => exact absurd rfl noCorner
  | _ => rfl

/-- The actions of a property, with what follows them within a chain, close as the table says.
Pointer events are apart: they are recorded as applied without any call. -/
theorem closes (key : Key) (property : String) (value : Value)
    (noMouse : key.group ≠ .mouseEvents) :
    Closes property value (key.actions platform scene value ++ key.group.followUp)
      (key.opening scene.view value)
      (key.closing scene.view (scene.decoratesText platform) value) := by
  by_cases corner : key.group = .cornerRadius
  · cases key with
    | borderRadius which =>
        have shown : ∃ action ∈ (Key.borderRadius which).actions platform scene value ++
            [.present .corners], action.isCall = true :=
          ⟨.present .corners, List.mem_append_right _ List.mem_cons_self, rfl⟩
        cases value <;> exact .effective property _ rfl rfl shown
    | _ => cases corner
  · rw [followUp_of_ne corner, List.append_nil]
    exact closes_actions platform scene key property value corner noMouse

section Table

variable {view : View} {decoratesText : Bool} {value : Value} {key : Key}

theorem closing_eq_typeMismatch {kind : Kind}
    (mismatch : key.closing view decoratesText value = .typeMismatch kind) :
    kind = value.kind ∧ key.group ≠ .cornerRadius ∧ key.group ≠ .mouseEvents := by
  refine ⟨?sameKind, fun isCorner => ?noCorner, fun isMouse => ?noMouse⟩
  case sameKind =>
    cases key with
    | borderRadius =>
        simp only [closing] at mismatch
        split at mismatch <;> cases mismatch
    | mouse => cases mismatch
    | padding =>
        simp only [closing] at mismatch
        split at mismatch
        next isNull =>
          have kindNull : value.kind = .null := by simpa [Value.isNull] using isNull
          rw [kindNull, Outcome.typeMismatch.inj mismatch]
        next => exact Value.outcomeAs_eq_typeMismatch mismatch
    | textDecorationLine =>
        simp only [closing] at mismatch
        split at mismatch
        · exact Value.outcomeAs_eq_typeMismatch mismatch
        · cases mismatch
    | borderColor | borderWidth | direction | orientation =>
        simp only [closing] at mismatch
        split at mismatch
        · cases mismatch
        · exact Value.outcomeAs_eq_typeMismatch mismatch
    | _ => exact Value.outcomeAs_eq_typeMismatch mismatch
  case noCorner =>
    cases key with
    | borderRadius =>
        simp only [closing] at mismatch
        split at mismatch <;> cases mismatch
    | _ => cases isCorner
  case noMouse =>
    cases key with
    | mouse => cases mismatch
    | _ => cases isMouse

theorem closing_eq_unsupported_iff :
    key.closing view decoratesText value = .unsupported ↔
      key = .textDecorationLine ∧ decoratesText = false := by
  cases key with
  | textDecorationLine => cases decoratesText <;> simp [closing, Value.outcomeAs_ne_unsupported]
  | borderColor | borderWidth | padding | borderRadius | direction | orientation =>
      simp only [closing, reduceCtorEq, false_and, iff_false]
      split <;> simp [Value.outcomeAs_ne_unsupported]
  | mouse => simp [closing]
  | _ => simp [closing, Value.outcomeAs_ne_unsupported]

theorem closing_eq_unrecognizedToken_iff :
    key.closing view decoratesText value = .unrecognizedToken ↔
      key = .orientation ∧ value.strays Orientation.ofToken? = true := by
  cases key with
  | orientation =>
      cases strays : value.strays Orientation.ofToken? <;>
        simp [closing, strays, Value.outcomeAs_ne_unrecognizedToken]
  | borderColor | borderWidth | padding | borderRadius | direction | textDecorationLine =>
      simp only [closing, reduceCtorEq, false_and, iff_false]
      split <;> simp [Value.outcomeAs_ne_unrecognizedToken]
  | mouse => simp [closing]
  | _ => simp [closing, Value.outcomeAs_ne_unrecognizedToken]

/-- A loss is the only thing that an update is recorded with. -/
theorem opening_of_loss (loss : (key.closing view decoratesText value).isLoss = true) :
    key.opening view value = [] := by
  cases key with
  | fontWeight =>
      refine if_neg fun strays => ?_
      have applied := Value.outcomeAs_of_kind (Value.isText_of_strays strays)
      simp [closing, applied, Outcome.isLoss] at loss
  | borderWidth =>
      refine if_neg fun wantsBrush => ?_
      simp [closing, wantsBrush, Outcome.isLoss] at loss
  | _ => rfl

theorem eq_of_mem_opening {outcome : Outcome} (member : outcome ∈ key.opening view value) :
    outcome = .applied ∨ outcome = .unrecognizedToken ∧ value.kind = .text := by
  cases key with
  | fontWeight =>
      simp only [opening] at member
      split at member
      · next strays => exact .inr ⟨List.mem_singleton.mp member, Value.isText_of_strays strays⟩
      · cases member
  | borderWidth =>
      simp only [opening] at member
      split at member
      · exact .inl (List.mem_singleton.mp member)
      · cases member
  | _ => cases member

end Table

end Key

end ViewStyle
