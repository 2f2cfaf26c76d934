import Mathlib.Data.List.Basic
import ViewStyle.Proofs.Output
import ViewStyle.Proofs.Places

/-!
# Handled updates

An update has an effect only where it comes to a handler that knows its property: through a chain
that has the group, or directly. Main statement: a step that gives updates to a pair comes down to
carrying out the actions of those that are handled, one after the other.
-/

set_option autoImplicit false

namespace ViewStyle

/-- What a fold makes true is what was true at its start, or what one of the elements brought about
when its turn came. -/
theorem foldl_holds_iff {State Input : Type} {next : State → Input → State} {Holds : State → Prop}
    {Brings : State → Input → Prop}
    (step : ∀ state input, Holds (next state input) ↔ Holds state ∨ Brings state input)
    (state : State) (inputs : List Input) :
    Holds (inputs.foldl next state) ↔
      Holds state ∨ ∃ earlier input later, inputs = earlier ++ input :: later ∧
        Brings (earlier.foldl next state) input := by
  induction inputs generalizing state with
  | nil => simp
  | cons first rest ih =>
      rw [List.foldl_cons, ih, step, or_assoc]
      refine or_congr_right ⟨?_, ?_⟩
      · rintro (brings | ⟨earlier, input, later, rfl, brings⟩)
        · exact ⟨[], first, rest, rfl, brings⟩
        · exact ⟨first :: earlier, input, later, rfl, brings⟩
      · rintro ⟨earlier, input, later, split, brings⟩
        cases earlier with
        | nil =>
            obtain ⟨rfl, rfl⟩ := List.cons.inj split
            exact .inl brings
        | cons head earlier =>
            obtain ⟨rfl, rfl⟩ := List.cons.inj split
            exact .inr ⟨earlier, input, later, rfl, brings⟩

/-- An update that has come to the handler of its property, through a chain or directly. -/
structure Handling where
  key : Key
  update : Update
  chained : Bool
  deriving DecidableEq, Repr

def Handling.actions (handling : Handling) (platform : Platform) (scene : Scene) : List Action :=
  handling.key.actions platform scene handling.update.value ++
    if handling.chained then handling.key.group.followUp else []

/-- What properties have to do with besides the view and the node: the brushes of painted parts, and
the answer about text decorations. -/
inductive Concern where
  | brushes
  | decorations
  deriving DecidableEq, Repr

def Action.concern? : Action → Option Concern
  | .change (.brush _ _) | .substituteBorderBrush | .refresh _ _
  | .note .defaultBorderBrush => some .brushes
  | .askDecorations => some .decorations
  | _ => none

def Key.concern? : Key → Option Concern
  | .backgroundColor | .color | .borderColor | .borderWidth _ => some .brushes
  | .textDecorationLine => some .decorations
  | _ => none

/-- Whether an action has to do with nothing, or with the one thing allowed. -/
def Action.keepsTo (allowed : Option Concern) (action : Action) : Bool :=
  action.concern?.all fun concern => some concern == allowed

namespace Handler

variable (value : Value)

theorem keepsTo_settle {α : Type} (content? : Value → Option α) (toChange : Option α → Change)
    (allowed : Option Concern)
    (plain : ∀ content, (Action.change (toChange content)).concern? = none) :
    (settle content? toChange value).all (Action.keepsTo allowed) = true := by
  have changed (content : Option α) :
      (Action.change (toChange content)).keepsTo allowed = true := by
    rw [Action.keepsTo, plain]
    rfl
  unfold settle
  cases content? value with
  | some content =>
      rw [List.all_cons, changed]
      rfl
  | none =>
      cases value.isNull with
      | true =>
          rw [if_pos rfl, List.all_cons, changed]
          rfl
      | false => rfl

theorem keepsTo_paint (part : Paint) :
    (paint part value).all (Action.keepsTo (some .brushes)) = true := by
  cases value <;> rfl

theorem keepsTo_unknownWeight :
    (unknownWeight value).all (Action.keepsTo none) = true := by
  unfold unknownWeight
  split
  · split <;> rfl
  · rfl

end Handler

/-- The actions of a property have to do with what the property has to do with, or with nothing. -/
theorem Key.keepsTo_actions (key : Key) (platform : Platform) (scene : Scene) (value : Value) :
    (key.actions platform scene value).all (Action.keepsTo key.concern?) = true := by
  cases key with
  | backgroundColor | color => exact Handler.keepsTo_paint value _
  | borderColor =>
      cases value with
      | null =>
          rw [actions, Handler.borderColor_null]
          cases scene.view.borderThickness.isVisible <;> rfl
      | number | bool | text => rfl
  | borderWidth edge =>
      cases value with
      | number width =>
          simp only [actions, Handler.borderWidth, Value.number?]
          split <;> rfl
      | _ => rfl
  | padding | borderRadius => cases value <;> rfl
  | mouse => rfl
  | fontWeight =>
      simp only [actions, Handler.fontWeight, concern?, List.all_append,
        Handler.keepsTo_unknownWeight, Bool.true_and]
      exact Handler.keepsTo_settle value _ .fontWeight none fun _ => rfl
  | textDecorationLine =>
      rw [actions, Handler.decorationLine, List.all_cons]
      split
      · exact Handler.keepsTo_settle value _ .textDecorations _ fun _ => rfl
      · rfl
  | orientation =>
      simp only [actions, Handler.orient]
      split
      · split <;> rfl
      · split <;> rfl
  | _ =>
      simp only [actions, Handler.fontSize, Handler.fontFamily, Handler.fontStyle,
        Handler.textAlign, Handler.ellipsizeMode, Handler.direction, Handler.letterSpacing,
        concern?]
      exact Handler.keepsTo_settle _ _ _ none fun _ => rfl

/-- What has to do with a concern is done by the properties of that concern alone. -/
theorem Handling.concern_of_mem {handling : Handling} {platform : Platform} {scene : Scene}
    {action : Action} {concern : Concern} (member : action ∈ handling.actions platform scene)
    (concerned : action.concern? = some concern) : handling.key.concern? = some concern := by
  have keeps : action.keepsTo handling.key.concern? = true := by
    cases List.mem_append.mp member with
    | inl own => exact List.all_eq_true.mp (handling.key.keepsTo_actions platform scene _) _ own
    | inr followed =>
        have plain (group : Group) :
            group.followUp.all (Action.keepsTo handling.key.concern?) = true := by
          cases group <;> rfl
        split at followed
        · exact List.all_eq_true.mp (plain _) _ followed
        · cases followed
  rw [Action.keepsTo, concerned] at keeps
  exact (eq_of_beq keeps).symm

/-- The updates of a batch that a chain hands to their handlers. -/
def Chain.handlings (chain : Chain) (batch : List Update) : List Handling :=
  batch.filterMap fun update => (chain.property? update).map fun key => ⟨key, update, true⟩

/-- The update that is offered to a group, if it is of a property of the group. -/
def Group.handlings (group : Group) (update : Update) : List Handling :=
  ((Key.ofName? update.name).filter fun key => key.group = group).toList.map fun key =>
    ⟨key, update, false⟩

namespace Scene

def handle (platform : Platform) (scene : Scene) (handling : Handling) : Scene :=
  scene.performAll platform handling.update.name (handling.actions platform scene)

def handleAll (platform : Platform) (scene : Scene) (handlings : List Handling) : Scene :=
  handlings.foldl (handle platform) scene

variable (platform : Platform) (scene : Scene)

theorem handleAll_append (earlier later : List Handling) :
    scene.handleAll platform (earlier ++ later) =
      (scene.handleAll platform earlier).handleAll platform later :=
  List.foldl_append

theorem handle_backdrop (handling : Handling) :
    (scene.handle platform handling).backdrop platform = scene.backdrop platform :=
  scene.performAll_backdrop platform handling.update.name _

theorem handleAll_backdrop (handlings : List Handling) :
    (scene.handleAll platform handlings).backdrop platform = scene.backdrop platform := by
  induction handlings generalizing scene with
  | nil => rfl
  | cons handling rest ih => exact (ih _).trans (scene.handle_backdrop platform handling)

theorem offer_eq_handleAll (group : Group) (update : Update) :
    (scene.offer platform group.handler update).1 = !(group.handlings update).isEmpty ∧
      (scene.offer platform group.handler update).2 =
        scene.handleAll platform (group.handlings update) := by
  cases found : (Key.ofName? update.name).filter fun key => decide (key.group = group) with
  | none =>
      have foreign : ∀ key, Key.ofName? update.name = some key → key.group ≠ group := by
        intro key known own
        simp [known, own] at found
      have passed : group.handlings update = [] := by simp [Group.handlings, found]
      simp only [offer, Group.handler_of_foreign group platform scene update foreign, passed]
      exact ⟨rfl, rfl⟩
  | some key =>
      obtain ⟨known, own⟩ := Option.filter_eq_some_iff.mp found
      obtain rfl : key.group = group := of_decide_eq_true own
      have handled : key.group.handlings update = [⟨key, update, false⟩] := by
        simp [Group.handlings, found]
      have actions : (⟨key, update, false⟩ : Handling).actions platform scene =
          key.actions platform scene update.value := by simp [Handling.actions]
      rw [handled, offer, Group.handler_of_own platform scene update known]
      simp only [handleAll, List.foldl_cons, List.foldl_nil, handle, actions]
      exact ⟨rfl, trivial⟩

end Scene

namespace Chain

variable (chain : Chain) (platform : Platform) (scene : Scene)

theorem apply_eq_handleAll (update : Update) :
    (chain.apply platform scene update).1 = (chain.property? update).map Key.group ∧
      (chain.apply platform scene update).2 =
        scene.handleAll platform (chain.handlings [update]) := by
  cases found : chain.property? update with
  | none =>
      rw [chain.apply_of_no_property platform scene update found]
      simp [handlings, found, Scene.handleAll]
  | some key =>
      rw [chain.apply_of_property platform scene update found]
      simp [handlings, found, Scene.handleAll, Scene.handle, Handling.actions, Scene.carryOut]

theorem applyAll_eq_handleAll (batch : List Update) :
    (chain.applyAll platform scene batch).2 =
      scene.handleAll platform (chain.handlings batch) := by
  induction batch generalizing scene with
  | nil => rfl
  | cons update rest ih =>
      have split : chain.handlings (update :: rest) =
          chain.handlings [update] ++ chain.handlings rest := by
        rw [handlings, ← List.singleton_append, List.filterMap_append]
        rfl
      have first := (chain.apply_eq_handleAll platform scene update).2
      rw [split, Scene.handleAll_append, ← first]
      exact ih (chain.apply platform scene update).2

end Chain

namespace Session

variable {n : Nat}

/-- The updates that a step hands to their handlers. -/
def Step.handlings (chain : Chain) : Step n → List Handling
  | .apply update => chain.handlings [update]
  | .applyAll updates => chain.handlings updates
  | .applyBag bag =>
    match Update.ofJson bag with
    | .ok updates => chain.handlings updates
    | .error _ => []
  | .offer group update => group.handlings update
  | _ => []

def Step.givesUpdates : Step n → Bool
  | .apply _ | .applyAll _ | .applyBag _ | .offer _ _ => true
  | _ => false

/-- The answer to a step that gives updates. Neither values nor scenes have a say in it, except that
a bag has to convert. -/
def Step.verdict (chain : Chain) : Step n → Answer
  | .apply update => .taker ((chain.property? update).map Key.group)
  | .applyAll updates => .taken (updates.countP fun update => (chain.property? update).isSome)
  | .applyBag bag =>
    match Update.ofJson bag with
    | .ok updates => .taken (updates.countP fun update => (chain.property? update).isSome)
    | .error error => .refused error
  | .offer group update => .flag (!(group.handlings update).isEmpty)
  | _ => .done

theorem Step.handlings_of_not_givesUpdates (chain : Chain) {step : Step n}
    (other : step.givesUpdates = false) : step.handlings chain = [] := by
  cases step with
  | apply | applyAll | applyBag | offer => cases other
  | _ => rfl

variable (session : Session n) (place : Fin n)

/-- The scene that a step leaves when all its updates are handled. -/
def handled (step : Step n) : Scene :=
  (session.scene place).handleAll session.platform (step.handlings session.chain)

/-- In a step, a handled update finds a scene: the one that the updates before it have left. -/
def Finds (step : Step n) (before : Scene) (handling : Handling) : Prop :=
  ∃ earlier later, step.handlings session.chain = earlier ++ handling :: later ∧
    before = (session.scene place).handleAll session.platform earlier

theorem adopt_scene : session.adopt place (session.scene place) = session := by
  have same : session.pairs.set place session.pairs[place] = session.pairs :=
    Vector.set_getElem_self place.isLt
  simp only [adopt, scene]
  rw [show (⟨session.pairs[place].node, session.pairs[place].view⟩ : Pair) =
    session.pairs[place] from rfl, same]

/-- A step that gives updates takes over the scene that its handlers leave. -/
theorem step_of_givesUpdates {step : Step n} (gives : step.givesUpdates = true) :
    session.step place step =
      session.conclude place (step.verdict session.chain) (session.handled place step) := by
  cases step with
  | apply update =>
      obtain ⟨taker, scene⟩ := session.chain.apply_eq_handleAll session.platform
        (session.scene place) update
      exact congrArg₂ (session.conclude place) (congrArg Answer.taker taker) scene
  | applyAll updates =>
      exact congrArg₂ (session.conclude place)
        (congrArg Answer.taken (session.chain.applyAll_count _ _ updates))
        (session.chain.applyAll_eq_handleAll session.platform (session.scene place) updates)
  | applyBag bag =>
      cases conversion : Update.ofJson bag with
      | error error =>
          rw [session.step_applyBag_refused conversion]
          simp only [handled, Step.handlings, Step.verdict, conversion, Scene.handleAll,
            List.foldl_nil, conclude, adopt_scene]
          rfl
      | ok updates =>
          rw [session.step_applyBag conversion]
          simp only [handled, Step.handlings, Step.verdict, conversion]
          exact congrArg₂ (session.conclude place)
            (congrArg Answer.taken (session.chain.applyAll_count _ _ updates))
            (session.chain.applyAll_eq_handleAll session.platform (session.scene place) updates)
  | offer group update =>
      obtain ⟨taken, scene⟩ :=
        (session.scene place).offer_eq_handleAll session.platform group update
      exact congrArg₂ (session.conclude place) (congrArg Answer.flag taken) scene
  | _ => cases gives

theorem step_frame (step : Step n) :
    (session.step place step).2.2.options = session.options ∧
      (session.step place step).2.2.chain = session.chain := by
  cases step with
  | applyBag bag =>
      simp only [Session.step]
      split <;> exact ⟨rfl, rfl⟩
  | _ => exact ⟨rfl, rfl⟩

def after (taken : Fin n × Step n) : Session n := (session.step taken.1 taken.2).2.2

theorem run_eq_foldl (steps : List (Fin n × Step n)) :
    (session.run steps).2 = steps.foldl after session := by
  induction steps generalizing session with
  | nil => rfl
  | cons taken rest ih => exact ih (session.after taken)

theorem foldl_after_frame (steps : List (Fin n × Step n)) :
    (steps.foldl after session).options = session.options ∧
      (steps.foldl after session).chain = session.chain := by
  induction steps generalizing session with
  | nil => exact ⟨rfl, rfl⟩
  | cons taken rest ih =>
      obtain ⟨sameOptions, sameChain⟩ := session.step_frame taken.1 taken.2
      obtain ⟨options, chain⟩ := ih (session.after taken)
      exact ⟨options.trans sameOptions, chain.trans sameChain⟩

end Session

end ViewStyle
