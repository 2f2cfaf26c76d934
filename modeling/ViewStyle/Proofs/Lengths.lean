import ViewStyle.Proofs.Handled
import ViewStyle.Proofs.Specificity

/-!
# Lengths that reach a view

Widths and radii are clamped from below only. Main statement: whatever the slots hold and whatever a
session does, no length that a view is given is negative or a NaN; it is zero or a number that was
given, and where that was infinity the view is given infinity.
-/

set_option autoImplicit false

namespace ViewStyle

namespace Binary64

def infinity : Binary64 := ⟨0x7FF0000000000000⟩

/-- From zero on, infinity is the only number that is not finite. -/
theorem isFinite_or_eq_infinity {x : Binary64} (atLeast : zero ≤ x) :
    x.isFinite = true ∨ x = infinity := by
  have above : 0 ≤ x.rank := rank_nonneg atLeast
  have isNumber : x.isNaN = false := atLeast.2.1
  have noNaN : x.magnitude ≤ infiniteMagnitude := by simpa [isNaN] using isNumber
  rcases Nat.lt_or_eq_of_le noNaN with below | endless
  · exact .inl (decide_eq_true below)
  · right
    have sameRank : x.rank = infinity.rank := by
      have greatest : infinity.rank = infiniteMagnitude := by decide
      have positive : 0 < infiniteMagnitude := by decide
      rw [greatest]
      unfold rank at above ⊢
      split at above
      · omega
      · rw [if_neg ‹_›, endless]
    exact eq_of_rank_eq sameRank (by decide)

theorem clampNegative_eq_zero_or (x : Binary64) :
    x.clampNegative = zero ∨ x.clampNegative = x := by
  unfold clampNegative
  split
  · exact .inr rfl
  · exact .inl rfl

theorem isFinite_clampNegative_iff (x : Binary64) :
    x.clampNegative.isFinite = true ↔ x ≠ infinity := by
  constructor
  · intro finite isInfinity
    subst isInfinity
    exact absurd finite (by decide)
  · intro other
    rcases isFinite_or_eq_infinity (zero_le_clampNegative x) with finite | endless
    · exact finite
    · rcases clampNegative_eq_zero_or x with clamped | kept
      · rw [clamped]
        decide
      · exact absurd (kept.symm.trans endless) other

end Binary64

namespace Slots

variable {Name : Type} [SlotName Name]

theorem resolved_isFinite_iff (slots : Slots Name) (names : List Name) :
    (slots.resolved names).isFinite = true ↔
      names.findSome? slots.get ≠ some .infinity := by
  rw [resolved, Binary64.isFinite_clampNegative_iff]
  cases names.findSome? slots.get with
  | none => decide
  | some x => simp

/-- What is known of the length of a part of a box that reads the slots of some names, from narrow
to broad. -/
structure Clamped (slots : Slots Name) (names : List Name) (length : Binary64) : Prop where
  nonnegative : .zero ≤ length
  isFinite_iff : length.isFinite = true ↔ names.findSome? slots.get ≠ some .infinity

theorem resolved_clamped (slots : Slots Name) (names : List Name) :
    slots.Clamped names (slots.resolved names) :=
  ⟨Binary64.zero_le_clampNegative _, slots.resolved_isFinite_iff names⟩

/-- All numbers in the slots fit. -/
def Hold (Fits : Binary64 → Prop) (slots : Slots Name) : Prop :=
  ∀ name x, slots.get name = some x → Fits x

section Hold

variable {Fits : Binary64 → Prop} {slots : Slots Name}

theorem empty_hold : (empty : Slots Name).Hold Fits := by
  intro name x holds
  rw [get_empty] at holds
  cases holds

theorem Hold.set [DecidableEq Name] (held : slots.Hold Fits) (name : Name)
    {content : Option Binary64} (fits : ∀ x ∈ content, Fits x) :
    (slots.set name content).Hold Fits := by
  intro read x holds
  rw [get_set] at holds
  split at holds
  · exact fits x holds
  · exact held read x holds

theorem Hold.resolved (held : slots.Hold Fits) (zero : Fits .zero) (names : List Name) :
    Fits (slots.resolved names) ∧ .zero ≤ slots.resolved names := by
  refine ⟨?_, Binary64.zero_le_clampNegative _⟩
  unfold Slots.resolved
  cases found : names.findSome? slots.get with
  | none => simpa using zero
  | some x =>
      obtain ⟨name, -, holds⟩ := List.exists_of_findSome?_eq_some found
      rw [Option.getD_some]
      rcases x.clampNegative_eq_zero_or with clamped | kept
      · rwa [clamped]
      · rw [kept]
        exact held name x holds

theorem Hold.insets {slots : Slots Edge} (held : slots.Hold Fits) (zero : Fits .zero) :
    ∀ length ∈ slots.insets.toList, Fits length ∧ .zero ≤ length := by
  rw [insets_toList_eq_resolved, List.forall_mem_map]
  intro side _
  exact held.resolved zero side.2

theorem Hold.radii {slots : Slots Corner} (held : slots.Hold Fits) (zero : Fits .zero) :
    ∀ length ∈ slots.radii.toList, Fits length ∧ .zero ≤ length := by
  rw [radii_toList_eq_resolved, List.forall_mem_map]
  intro corner _
  exact held.resolved zero corner.2

end Hold

end Slots

def Change.lengths : Change → List Binary64
  | .borderThickness thickness => thickness.toList
  | .padding insets => insets.toList
  | .cornerRadius radii => radii.toList
  | _ => []

def Call.lengths : Call → List Binary64
  | .change made => made.lengths
  | .refresh _ _ => []

def NodeWrite.number? : NodeWrite → Option Binary64
  | .padding _ width | .border _ width => width
  | .corner _ radius => radius
  | .mouse _ _ => none

section Fitting

variable (Fits : Binary64 → Prop)

structure Node.Hold (node : Node) : Prop where
  padding : node.padding.Hold Fits
  border : node.border.Hold Fits
  corners : node.corners.Hold Fits

/-- A slot of the node holds the number. -/
def Node.Keeps (node : Node) (x : Binary64) : Prop :=
  (∃ edge, node.padding.get edge = some x) ∨ (∃ edge, node.border.get edge = some x) ∨
    ∃ corner, node.corners.get corner = some x

/-- The lengths of a call are clamped, and fit. -/
def Call.Measured (call : Call) : Prop := ∀ length ∈ call.lengths, Fits length ∧ .zero ≤ length

structure Scene.Measured (scene : Scene) : Prop where
  node : scene.node.Hold Fits
  calls : ∀ call ∈ scene.calls, call.Measured Fits

/-- An action writes what fits, and gives a view no length but those that a node resolves. -/
def Action.Measured : Action → Prop
  | .write made => ∀ x ∈ made.number?, Fits x
  | .change made => made.lengths = []
  | _ => True

variable {Fits}

namespace Node

variable {node : Node}

theorem empty_hold : ({} : Node).Hold Fits where
  padding := Slots.empty_hold
  border := Slots.empty_hold
  corners := Slots.empty_hold

theorem Hold.write (held : node.Hold Fits) (made : NodeWrite)
    (fits : ∀ x ∈ made.number?, Fits x) : (node.write made).Hold Fits := by
  obtain ⟨padding, border, corners⟩ := held
  cases made with
  | padding edge width => exact ⟨padding.set edge fits, border, corners⟩
  | border edge width => exact ⟨padding, border.set edge fits, corners⟩
  | corner corner radius => exact ⟨padding, border, corners.set corner fits⟩
  | mouse event wanted => exact ⟨padding, border, corners⟩

theorem Hold.presented (held : node.Hold Fits) (zero : Fits .zero) (part : BoxPart) :
    (Call.change (node.presented part)).Measured Fits := by
  obtain ⟨padding, border, corners⟩ := held
  cases part with
  | padding => exact padding.insets zero
  | border => exact border.insets zero
  | corners => exact corners.radii zero

end Node

namespace Handler

variable (value : Value)

theorem settle_measured {α : Type} (content? : Value → Option α) (toChange : Option α → Change)
    (plain : ∀ content, (toChange content).lengths = []) :
    ∀ action ∈ settle content? toChange value, action.Measured Fits := by
  unfold settle
  cases content? value with
  | some content => simp [Action.Measured, plain]
  | none => cases value.isNull <;> simp [Action.Measured, plain, mismatch]

theorem paint_measured (part : Paint) :
    ∀ action ∈ paint part value, action.Measured Fits := by
  unfold paint
  cases Brush.ofValue? value with
  | some brush => simp [Action.Measured, Change.lengths]
  | none => cases value.isNull <;> simp [Action.Measured, Change.lengths, mismatch]

end Handler

/-- The handlers hand on the number that they are given, or a zero in its place. -/
theorem Key.actions_measured (key : Key) (platform : Platform) (scene : Scene) {value : Value}
    (zero : Fits .zero) (given : ∀ x ∈ value.number?, Fits x) :
    ∀ action ∈ key.actions platform scene value, action.Measured Fits := by
  cases key with
  | backgroundColor | color => exact Handler.paint_measured value _
  | borderColor =>
      cases value with
      | null =>
          rw [actions, Handler.borderColor_null]
          split <;> simp [Action.Measured, Change.lengths]
      | number x => exact Handler.paint_measured (.number x) .border
      | bool flag => exact Handler.paint_measured (.bool flag) .border
      | text s => exact Handler.paint_measured (.text s) .border
  | borderWidth edge =>
      rw [actions, Handler.borderWidth]
      split
      · next width found =>
          have fits := given width found
          split <;> simpa [Action.Measured, NodeWrite.number?] using fits
      · split
        · simpa [Action.Measured, NodeWrite.number?] using zero
        · simp [Handler.mismatch, Action.Measured]
  | padding edge =>
      rw [actions, Handler.paddingWidth]
      split
      · next width found =>
          have fits := given width found
          simpa [Action.Measured, NodeWrite.number?] using fits
      · simp [Handler.mismatch, Action.Measured]
  | borderRadius corner =>
      simpa [actions, Handler.radius, Action.Measured, NodeWrite.number?] using given
  | mouse event => simp [actions, Handler.mouseEvent, Action.Measured, NodeWrite.number?]
  | fontWeight =>
      intro action member
      rcases List.mem_append.mp member with unknown | settled
      · cases value with
        | text token =>
            simp only [Handler.unknownWeight, Value.text?] at unknown
            split at unknown <;> simp_all [Action.Measured]
        | _ => cases unknown
      · exact Handler.settle_measured value _ .fontWeight (fun _ => rfl) action settled
  | textDecorationLine =>
      intro action member
      rcases List.mem_cons.mp member with rfl | later
      · trivial
      · split at later
        · exact Handler.settle_measured value _ .textDecorations (fun _ => rfl) action later
        · simp_all [Action.Measured]
  | orientation =>
      rw [actions, Handler.orient]
      split
      · split <;> simp [Action.Measured, Change.lengths]
      · split <;> simp [Action.Measured, Change.lengths, Handler.mismatch]
  | _ =>
      simp only [actions, Handler.fontSize, Handler.fontFamily, Handler.fontStyle,
        Handler.textAlign, Handler.ellipsizeMode, Handler.direction, Handler.letterSpacing]
      exact Handler.settle_measured _ _ _ fun _ => rfl

theorem Handling.actions_measured (handling : Handling) (platform : Platform) (scene : Scene)
    (zero : Fits .zero) (given : ∀ x ∈ handling.update.value.number?, Fits x) :
    ∀ action ∈ handling.actions platform scene, action.Measured Fits := by
  intro action member
  rcases List.mem_append.mp member with own | followed
  · exact handling.key.actions_measured platform scene zero given action own
  · have presents (group : Group) : ∀ action ∈ group.followUp, action.Measured Fits := by
      cases group <;> simp [Group.followUp, Action.Measured]
    split at followed
    · exact presents _ action followed
    · cases followed

namespace Scene

variable {scene : Scene} (platform : Platform)

theorem Measured.calls_append (measured : scene.Measured Fits) {last : Call}
    (proper : last.Measured Fits) : ∀ call ∈ scene.calls ++ [last], call.Measured Fits := by
  intro call member
  rcases List.mem_append.mp member with earlier | isLast
  · exact measured.calls call earlier
  · obtain rfl := List.mem_singleton.mp isLast
    exact proper

theorem Measured.change (measured : scene.Measured Fits) {made : Change}
    (proper : (Call.change made).Measured Fits) : (scene.change made).Measured Fits :=
  ⟨measured.node, measured.calls_append proper⟩

theorem Measured.refresh (measured : scene.Measured Fits) (paint : Paint) (brush : Option Brush) :
    (scene.refresh platform paint brush).Measured Fits := by
  unfold Scene.refresh
  split
  · exact ⟨measured.node, measured.calls_append (List.forall_mem_nil _)⟩
  · exact measured

theorem Measured.record (measured : scene.Measured Fits) (entry : Entry) :
    (scene.record platform entry).Measured Fits := by
  unfold Scene.record
  split
  · exact ⟨measured.node, measured.calls⟩
  · exact measured

theorem Measured.perform (measured : scene.Measured Fits) (zero : Fits .zero) (property : String)
    {action : Action} (proper : action.Measured Fits) :
    (scene.perform platform property action).Measured Fits := by
  cases action with
  | write made => exact ⟨measured.node.write made proper, measured.calls⟩
  | change made =>
      refine measured.change fun length member => ?_
      rw [Call.lengths, show made.lengths = [] from proper] at member
      cases member
  | present part => exact measured.change (measured.node.presented zero part)
  | substituteBorderBrush =>
      have asked : (scene.askDefaultBorder platform).Measured Fits :=
        ⟨measured.node, measured.calls⟩
      exact asked.change (List.forall_mem_nil _)
  | refresh paint brush => exact measured.refresh platform paint brush
  | askDecorations => exact ⟨measured.node, measured.calls⟩
  | note | noteToken => exact measured.record platform _

theorem Measured.performAll (measured : scene.Measured Fits) (zero : Fits .zero)
    (property : String) {actions : List Action}
    (proper : ∀ action ∈ actions, action.Measured Fits) :
    (scene.performAll platform property actions).Measured Fits := by
  induction actions generalizing scene with
  | nil => exact measured
  | cons action rest ih =>
      obtain ⟨first, others⟩ := List.forall_mem_cons.mp proper
      exact ih (measured.perform platform zero property first) others

theorem Measured.handleAll (measured : scene.Measured Fits) (zero : Fits .zero)
    {handlings : List Handling}
    (given : ∀ handling ∈ handlings, ∀ x ∈ handling.update.value.number?, Fits x) :
    (scene.handleAll platform handlings).Measured Fits := by
  induction handlings generalizing scene with
  | nil => exact measured
  | cons handling rest ih =>
      obtain ⟨first, others⟩ := List.forall_mem_cons.mp given
      have proper := handling.actions_measured platform scene zero first
      exact ih (measured.performAll platform zero handling.update.name proper) others

end Scene

namespace Session

variable {n : Nat}

def Step.updates : Step n → List Update
  | .apply update | .offer _ update => [update]
  | .applyAll updates => updates
  | .applyBag bag =>
    match Update.ofJson bag with
    | .ok updates => updates
    | .error _ => []
  | _ => []

/-- The numbers that a step gives to a pair, in updates or by writing to its node. -/
def Step.numbers : Step n → List Binary64
  | .write made => made.number?.toList
  | step => step.updates.filterMap fun update => update.value.number?

theorem Step.update_mem_of_handlings (chain : Chain) {step : Step n} {handling : Handling}
    (member : handling ∈ step.handlings chain) : handling.update ∈ step.updates := by
  have handed {batch : List Update} (member : handling ∈ chain.handlings batch) :
      handling.update ∈ batch := by
    obtain ⟨update, given, found⟩ := List.mem_filterMap.mp member
    obtain ⟨key, -, rfl⟩ := Option.map_eq_some_iff.mp found
    exact given
  cases step with
  | apply | applyAll => exact handed member
  | applyBag bag =>
      simp only [handlings] at member
      simp only [updates]
      cases conversion : Update.ofJson bag with
      | error error =>
          rw [conversion] at member
          cases member
      | ok batch =>
          rw [conversion] at member
          exact handed member
  | offer group update =>
      obtain ⟨key, -, rfl⟩ := List.mem_map.mp member
      exact List.mem_singleton.mpr rfl
  | _ => cases member

theorem Step.number_mem_of_handlings (chain : Chain) {step : Step n} {handling : Handling}
    (member : handling ∈ step.handlings chain) {x : Binary64}
    (gives : x ∈ handling.update.value.number?) : x ∈ step.numbers := by
  have given := Step.update_mem_of_handlings chain member
  cases step with
  | write => cases member
  | _ => exact List.mem_filterMap.mpr ⟨_, given, gives⟩

variable {session : Session n}

/-- All numbers on the nodes of a session fit. -/
def Hold (Fits : Binary64 → Prop) (session : Session n) : Prop :=
  ∀ place, (session.pair place).node.Hold Fits

theorem Hold.adopt (held : session.Hold Fits) (place : Fin n) {scene : Scene}
    (node : scene.node.Hold Fits) : (session.adopt place scene).Hold Fits := by
  intro read
  by_cases here : place = read
  · subst here
    rwa [pair_adopt_self]
  · rw [session.pair_adopt_of_ne here]
    exact held read

theorem Hold.editPair (held : session.Hold Fits) (place : Fin n) {edit : Pair → Pair}
    (node : (edit (session.pair place)).node.Hold Fits) :
    (session.editPair place edit).2.2.Hold Fits := by
  intro read
  by_cases here : place = read
  · subst here
    rwa [pair_editPair_self]
  · rw [session.pair_editPair_of_ne here]
    exact held read

theorem Hold.scene (held : session.Hold Fits) (place : Fin n) :
    (session.scene place).Measured Fits :=
  ⟨held place, List.forall_mem_nil _⟩

theorem Hold.step (held : session.Hold Fits) (zero : Fits .zero) (place : Fin n) {step : Step n}
    (given : ∀ x ∈ step.numbers, Fits x) :
    (∀ call ∈ (session.step place step).2.1, call.Measured Fits) ∧
      (session.step place step).2.2.Hold Fits := by
  have concluded (answer : Answer) {scene : Scene} (measured : scene.Measured Fits) :
      (∀ call ∈ (session.conclude place answer scene).2.1, call.Measured Fits) ∧
        (session.conclude place answer scene).2.2.Hold Fits :=
    ⟨measured.calls, held.adopt place measured.node⟩
  have edited {edit : Pair → Pair} (node : (edit (session.pair place)).node.Hold Fits) :
      (∀ call ∈ (session.editPair place edit).2.1, call.Measured Fits) ∧
        (session.editPair place edit).2.2.Hold Fits :=
    ⟨List.forall_mem_nil _, held.editPair place node⟩
  have measured := held.scene place
  cases gives : step.givesUpdates with
  | true =>
      rw [session.step_of_givesUpdates place gives]
      refine concluded _ (measured.handleAll session.platform zero ?_)
      intro handling member x number
      exact given x (Step.number_mem_of_handlings session.chain member number)
  | false =>
      cases step with
      | apply | applyAll | applyBag | offer => cases gives
      | presentCorners =>
          exact concluded _ (measured.change (measured.node.presented zero .corners))
      | askDecorations | askDefaultBorder => exact concluded _ ⟨measured.node, measured.calls⟩
      | refresh paint value => exact concluded _ (measured.refresh session.platform paint _)
      | resetNode => exact edited Node.empty_hold
      | resetView | paintBorder | setThickness => exact edited (held place)
      | setInterest interest =>
          obtain ⟨padding, border, corners⟩ := held place
          exact edited ⟨padding, border, corners⟩
      | write made =>
          refine edited ((held place).write made fun x number => given x ?_)
          exact Option.mem_toList.mpr number
      | copyNode source => exact edited (held source)
      | lookUp | peekDecorations | setCheck | forgetDecorations | showChain | compareNode
      | journal => exact ⟨List.forall_mem_nil _, held⟩

theorem Hold.run (held : session.Hold Fits) (zero : Fits .zero) (steps : List (Fin n × Step n))
    (given : ∀ taken ∈ steps, ∀ x ∈ taken.2.numbers, Fits x) :
    ∀ report ∈ (session.run steps).1, ∀ call ∈ report.calls, call.Measured Fits := by
  induction steps generalizing session with
  | nil => exact List.forall_mem_nil _
  | cons taken rest ih =>
      obtain ⟨first, others⟩ := List.forall_mem_cons.mp given
      obtain ⟨calls, after⟩ := held.step zero taken.1 first
      exact List.forall_mem_cons.mpr ⟨calls, ih after others⟩

end Session

end Fitting

namespace Session

variable {n : Nat}

/-- A number that a session has at hand: a node keeps it, or one of some steps gives it. -/
def Knows (session : Session n) (steps : List (Fin n × Step n)) (x : Binary64) : Prop :=
  (∃ place, (session.pair place).node.Keeps x) ∨ ∃ taken ∈ steps, x ∈ taken.2.numbers

/-- What is known of a length that reaches a view. -/
structure Vouches (session : Session n) (steps : List (Fin n × Step n)) (length : Binary64) :
    Prop where
  nonnegative : .zero ≤ length
  origin : length = .zero ∨ session.Knows steps length
  finite : length.isFinite = true ∨ length = .infinity ∧ session.Knows steps .infinity

theorem run_vouches (session : Session n) (steps : List (Fin n × Step n)) :
    ∀ report ∈ (session.run steps).1, ∀ call ∈ report.calls, ∀ length ∈ call.lengths,
      session.Vouches steps length := by
  intro report reported call called length member
  -- The invariant holds for anything that can be said of numbers and is true of zero; here it is
  -- where a number comes from.
  have held : session.Hold fun x => x = .zero ∨ session.Knows steps x := by
    intro place
    constructor
    · exact fun edge x holds => .inr (.inl ⟨place, .inl ⟨edge, holds⟩⟩)
    · exact fun edge x holds => .inr (.inl ⟨place, .inr (.inl ⟨edge, holds⟩)⟩)
    · exact fun corner x holds => .inr (.inl ⟨place, .inr (.inr ⟨corner, holds⟩)⟩)
  have given : ∀ taken ∈ steps, ∀ x ∈ taken.2.numbers, x = .zero ∨ session.Knows steps x :=
    fun taken isTaken x gives => .inr (.inr ⟨taken, isTaken, gives⟩)
  obtain ⟨origin, nonnegative⟩ := held.run (.inl rfl) steps given report reported call called
    length member
  refine ⟨nonnegative, origin, ?_⟩
  rcases Binary64.isFinite_or_eq_infinity nonnegative with finite | rfl
  · exact .inl finite
  · rcases origin with isZero | known
    · exact absurd isZero (by decide)
    · exact .inr ⟨rfl, known⟩

/-- No width and no radius is negative or a NaN, and each is finite unless the slot that decides it
holds infinity. So no length that a view is given in a run is negative, and all are finite as long
as no infinity is given. -/
theorem run_lengths (edges : Slots Edge) (corners : Slots Corner) (session : Session n)
    (steps : List (Fin n × Step n)) :
    (∀ side ∈ Slots.sides, edges.Clamped side.2 (side.1 edges.insets)) ∧
      (∀ corner ∈ Slots.corners, corners.Clamped corner.2 (corner.1 corners.radii)) ∧
      ∀ report ∈ (session.run steps).1, ∀ call ∈ report.calls, ∀ length ∈ call.lengths,
        session.Vouches steps length := by
  refine ⟨?_, ?_, session.run_vouches steps⟩
  · intro side member
    rw [edges.side_eq_resolved member]
    exact edges.resolved_clamped side.2
  · intro corner member
    rw [corners.corner_eq_resolved member]
    exact corners.resolved_clamped corner.2

/-- Infinity is not clamped: given to all edges, it is the width of each, and the padding that a
view is given. -/
theorem run_infinite_padding :
    Binary64.infinity.isFinite = false ∧
    ((Slots.empty.set Edge.all (some .infinity)).insets.toList =
      [.infinity, .infinity, .infinity, .infinity]) ∧
    ((start 1 { groups := [.padding] }).run
        [(0, .apply ⟨"padding", .number .infinity⟩)]).1.map Report.calls =
      [[.change (.padding ⟨.infinity, .infinity, .infinity, .infinity⟩)]] := by
  decide +kernel

end Session

end ViewStyle
