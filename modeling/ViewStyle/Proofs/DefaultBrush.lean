import ViewStyle.Proofs.OnDemand
import ViewStyle.Proofs.SecondaryBrushes

/-!
# The default border brush

The brush of borders that show without a colour is made for the first border that needs it, or when
the host asks for it. Main statement: over a run, it is made if and only if it was needed, once, and
all borders that are given it are given the same, even if the host would by then make another.
-/

set_option autoImplicit false

namespace ViewStyle

/-- Whether an action gives the default brush to a border, or is the note of it. -/
def Action.isOfDefault : Action → Bool
  | .substituteBorderBrush | .note .defaultBorderBrush => true
  | _ => false

theorem Action.concern?_of_isOfDefault {action : Action} (ofDefault : action.isOfDefault = true) :
    action.concern? = some .brushes := by
  cases action with
  | substituteBorderBrush => rfl
  | note outcome =>
      cases outcome with
      | defaultBorderBrush => rfl
      | _ => cases ofDefault
  | _ => cases ofDefault

namespace Handler

variable (value : Value) (view : View)

theorem filter_paint (part : Paint) : (paint part value).filter Action.isOfDefault = [] := by
  cases value <;> rfl

theorem filter_borderColor :
    (borderColor view value).filter Action.isOfDefault =
      if value.isNull && view.borderThickness.isVisible then
        [.substituteBorderBrush, .note .defaultBorderBrush]
      else [] := by
  cases value with
  | null =>
      rw [borderColor_null]
      cases view.borderThickness.isVisible <;> rfl
  | number | bool | text => rfl

theorem filter_borderWidth (edge : Edge) :
    (borderWidth view edge value).filter Action.isOfDefault =
      if value.wantsBrush view then [.substituteBorderBrush, .note .defaultBorderBrush]
      else [] := by
  cases value with
  | number width =>
      have asks : (Value.number width).wantsBrush view =
          (!width.isZero && view.borderBrush.isNone) := rfl
      simp only [borderWidth, Value.number?, asks]
      cases !width.isZero && view.borderBrush.isNone <;> rfl
  | _ => rfl

end Handler

namespace Handling

/-- Whether a handled update finds that its border needs the default brush: the colour is taken away
from a border with a width, or a width other than zero is given to a border without a brush. -/
def substitutes (handling : Handling) (view : View) : Bool :=
  match handling.key with
  | .borderColor => handling.update.value.isNull && view.borderThickness.isVisible
  | .borderWidth _ => handling.update.value.wantsBrush view
  | _ => false

variable (handling : Handling) (platform : Platform) (scene : Scene)

theorem filter_actions :
    (handling.actions platform scene).filter Action.isOfDefault =
      if handling.substitutes scene.view then
        [.substituteBorderBrush, .note .defaultBorderBrush]
      else [] := by
  by_cases brushes : handling.key.concern? = some .brushes
  · rw [handling.actions_of_brushes scene brushes]
    obtain ⟨key, update, chained⟩ := handling
    cases key with
    | backgroundColor | color => exact Handler.filter_paint update.value _
    | borderColor => exact Handler.filter_borderColor update.value scene.view
    | borderWidth edge => exact Handler.filter_borderWidth update.value scene.view edge
    | _ => cases brushes
  · have none : (handling.actions platform scene).filter Action.isOfDefault = [] := by
      refine List.filter_eq_nil_iff.mpr fun action member ofDefault => brushes ?_
      exact concern_of_mem member (Action.concern?_of_isOfDefault ofDefault)
    rw [none]
    obtain ⟨key, update, chained⟩ := handling
    cases key with
    | borderColor | borderWidth => exact absurd rfl brushes
    | _ => rfl

theorem substituteBorderBrush_mem_iff :
    .substituteBorderBrush ∈ handling.actions platform scene ↔
      handling.substitutes scene.view = true := by
  have kept : .substituteBorderBrush ∈ handling.actions platform scene ↔
      .substituteBorderBrush ∈ (handling.actions platform scene).filter Action.isOfDefault :=
    (List.mem_filter.trans (and_iff_left rfl)).symm
  rw [kept, filter_actions]
  cases handling.substitutes scene.view <;> simp

theorem recorded_default :
    ((handling.actions platform scene).filterMap
        (Action.recorded? handling.update.name)).filter
          (fun entry => entry.outcome = .defaultBorderBrush) =
      if handling.substitutes scene.view then [⟨handling.update.name, .defaultBorderBrush, none⟩]
      else [] := by
  have exchange (actions : List Action) :
      (actions.filterMap (Action.recorded? handling.update.name)).filter
          (fun entry => entry.outcome = .defaultBorderBrush) =
        (actions.filter Action.isOfDefault).filterMap
          (Action.recorded? handling.update.name) := by
    rw [List.filter_filterMap, List.filterMap_filter]
    congr 1
    funext action
    cases action with
    | note outcome => cases outcome <;> rfl
    | _ => rfl
  rw [exchange, filter_actions]
  cases handling.substitutes scene.view <;> rfl

theorem paints_of_substitutes (substitutes : handling.substitutes scene.view = true) :
    Call.paints .border (handling.calls platform scene) =
      [some (scene.defaultBorder platform)] := by
  rw [← Call.paints_filter, calls, Action.filter_calls]
  obtain ⟨key, update, chained⟩ := handling
  cases key with
  | borderColor =>
      obtain ⟨isNull, shows⟩ := (Bool.and_eq_true _ _).mp substitutes
      rw [actions_of_brushes _ _ rfl, (Value.isNull_iff _).mp isNull]
      simp only [Key.actions, Handler.borderColor_null, shows, if_true, List.cons_append,
        List.nil_append, List.filterMap_cons, Action.brushCall?]
      cases platform.hasSecondaryBrushes <;> rfl
  | borderWidth edge =>
      have wants : update.value.wantsBrush scene.view = true := substitutes
      have whole := @Key.filterMap_borderWidth platform (scene.defaultBorder platform) update.value
        scene.view edge
      simp only [Key.brushCalls, wants, if_true] at whole
      rw [actions_of_brushes _ _ rfl]
      exact congrArg (Call.paints .border) whole
  | _ => cases substitutes

theorem borderBrush_of_substitutes (substitutes : handling.substitutes scene.view = true) :
    (scene.handle platform handling).view.borderBrush = some (scene.defaultBorder platform) := by
  have shown := handling.brush_handle scene platform .border
  rw [handling.paints_of_substitutes platform scene substitutes] at shown
  exact shown

end Handling

namespace Scene

variable (platform : Platform) (scene : Scene)

theorem handle_defaultBorder (handling : Handling) :
    (scene.handle platform handling).shared.defaultBorder =
      if handling.substitutes scene.view then
        scene.shared.defaultBorder.ask platform.defaultBorder
      else scene.shared.defaultBorder := by
  rw [handle, defaultBorder_performAll]
  simp only [handling.substituteBorderBrush_mem_iff]

theorem handle_becomes (handling : Handling) :
    scene.shared.defaultBorder.Became (scene.handle platform handling).shared.defaultBorder := by
  rw [handle_defaultBorder]
  split
  · exact .inr ⟨_, rfl⟩
  · exact .refl _

theorem handleAll_becomes (handlings : List Handling) :
    scene.shared.defaultBorder.Became
      (scene.handleAll platform handlings).shared.defaultBorder := by
  induction handlings generalizing scene with
  | nil => exact .refl _
  | cons handling rest ih => exact (scene.handle_becomes platform handling).trans (ih _)

theorem handleAll_isMade_iff (handlings : List Handling) :
    (scene.handleAll platform handlings).shared.defaultBorder.isMade = true ↔
      scene.shared.defaultBorder.isMade = true ∨
        ∃ earlier handling later, handlings = earlier ++ handling :: later ∧
          handling.substitutes (scene.handleAll platform earlier).view = true := by
  refine @foldl_holds_iff Scene Handling (handle platform)
    (fun scene => scene.shared.defaultBorder.isMade = true)
    (fun scene handling => handling.substitutes scene.view = true) ?_ scene handlings
  intro scene handling
  rw [handle_defaultBorder]
  by_cases substitutes : handling.substitutes scene.view = true <;> simp [substitutes]

end Scene

namespace Session

variable {n : Nat} (session : Session n)

/-- Whether a step brings the default border brush about: the host asks for it, or an update is
handled that needs it. -/
def Needs (place : Fin n) (step : Step n) : Prop :=
  step = .askDefaultBorder ∨
    ∃ before handling, session.Finds place step before handling ∧
      handling.substitutes before.view = true

theorem step_becomes (place : Fin n) (step : Step n) :
    session.shared.defaultBorder.Became (session.step place step).2.2.shared.defaultBorder := by
  cases gives : step.givesUpdates with
  | true =>
      have taken := session.step_of_givesUpdates place gives
      rw [taken]
      exact (session.scene place).handleAll_becomes session.platform _
  | false =>
      cases step with
      | apply | applyAll | applyBag | offer => cases gives
      | askDefaultBorder => exact .inr ⟨_, rfl⟩
      | refresh =>
          simp only [Session.step, conclude, adopt, Scene.refresh]
          split <;> exact .refl _
      | _ => exact .refl _

theorem step_isMade_iff (place : Fin n) (step : Step n) :
    (session.step place step).2.2.shared.defaultBorder.isMade = true ↔
      session.shared.defaultBorder.isMade = true ∨ session.Needs place step := by
  cases gives : step.givesUpdates with
  | true =>
      have taken := session.step_of_givesUpdates place gives
      rw [taken]
      refine ((session.scene place).handleAll_isMade_iff session.platform _).trans
        (or_congr_right ⟨?_, ?_⟩)
      · rintro ⟨earlier, handling, later, split, substitutes⟩
        exact .inr ⟨_, handling, ⟨earlier, later, split, rfl⟩, substitutes⟩
      · rintro (asks | ⟨before, handling, ⟨earlier, later, split, rfl⟩, substitutes⟩)
        · rw [asks] at gives
          cases gives
        · exact ⟨earlier, handling, later, split, substitutes⟩
  | false =>
      have none : ¬∃ before handling, session.Finds place step before handling ∧
          handling.substitutes before.view = true := by
        rintro ⟨before, handling, ⟨earlier, later, split, -⟩, -⟩
        rw [Step.handlings_of_not_givesUpdates session.chain gives] at split
        simp at split
      rw [Needs, or_iff_left none]
      cases step with
      | apply | applyAll | applyBag | offer => cases gives
      | askDefaultBorder =>
          refine iff_of_true ?_ (.inr rfl)
          exact (session.shared.defaultBorder).isMade_ask _
      | refresh =>
          simp only [Session.step, conclude, adopt, Scene.refresh]
          split <;> simp [scene]
      | _ => simp [Session.step, conclude, adopt, editPair, scene, Scene.change,
          Scene.askDecorations]

theorem became_of_finds {place : Fin n} {step : Step n} {before : Scene} {handling : Handling}
    (finds : session.Finds place step before handling) :
    (before.handle session.platform handling).shared.defaultBorder.Became
      (session.step place step).2.2.shared.defaultBorder := by
  obtain ⟨earlier, later, split, rfl⟩ := finds
  have gives : step.givesUpdates = true := by
    by_contra other
    rw [Bool.not_eq_true] at other
    rw [Step.handlings_of_not_givesUpdates session.chain other] at split
    simp at split
  have taken := session.step_of_givesUpdates place gives
  rw [taken, conclude, adopt, handled, split, Scene.handleAll_append]
  exact Scene.handleAll_becomes session.platform _ later

/-- The session with a host that makes this default border brush from now on. -/
def making (brush? : Option Brush) : Session n :=
  { session with options.defaultBorder := brush? }

/-- A step at a place, and the default border brush that the host would make in that step. -/
structure Turn (n : Nat) where
  making : Option Brush
  place : Fin n
  step : Step n

def take (turn : Turn n) : Session n :=
  ((session.making turn.making).step turn.place turn.step).2.2

/-- The session after turns in which the host may make another default border brush every time. -/
def play (turns : List (Turn n)) : Session n := turns.foldl take session

/-- A run is played by a host that keeps to what it makes. -/
theorem run_eq_play (steps : List (Fin n × Step n)) :
    (session.run steps).2 =
      session.play (steps.map fun taken => ⟨session.options.defaultBorder, taken.1, taken.2⟩) := by
  induction steps generalizing session with
  | nil => rfl
  | cons first rest ih =>
      have frame := (session.step_frame first.1 first.2).1
      have later := ih (session.step first.1 first.2).2.2
      rw [frame] at later
      exact later

theorem play_append (past later : List (Turn n)) :
    session.play (past ++ later) = (session.play past).play later :=
  List.foldl_append

theorem play_keepsJournal (turns : List (Turn n)) :
    (session.play turns).options.keepsJournal = session.options.keepsJournal := by
  induction turns generalizing session with
  | nil => rfl
  | cons turn rest ih =>
      refine (ih (session.take turn)).trans ?_
      rw [take, ((session.making turn.making).step_frame turn.place turn.step).1]
      rfl

theorem play_becomes (turns : List (Turn n)) :
    session.shared.defaultBorder.Became (session.play turns).shared.defaultBorder := by
  induction turns generalizing session with
  | nil => exact .refl _
  | cons turn rest ih =>
      exact ((session.making turn.making).step_becomes turn.place turn.step).trans
        (ih (session.take turn))

theorem play_isMade_iff (turns : List (Turn n)) :
    (session.play turns).shared.defaultBorder.isMade = true ↔
      session.shared.defaultBorder.isMade = true ∨
        ∃ past turn later, turns = past ++ turn :: later ∧
          ((session.play past).making turn.making).Needs turn.place turn.step :=
  @foldl_holds_iff (Session n) (Turn n) take
    (fun session => session.shared.defaultBorder.isMade = true)
    (fun session turn => (session.making turn.making).Needs turn.place turn.step)
    (fun session turn => (session.making turn.making).step_isMade_iff turn.place turn.step)
    session turns

theorem play_keeps_given (past : List (Turn n)) (turn : Turn n) (later : List (Turn n))
    {before : Scene} {handling : Handling}
    (finds : ((session.play past).making turn.making).Finds turn.place turn.step before handling)
    (substitutes : handling.substitutes before.view = true) :
    (session.play (past ++ turn :: later)).shared.defaultBorder.kept? =
      some (before.defaultBorder ((session.play past).making turn.making).platform) := by
  have split : session.play (past ++ turn :: later) =
      ((session.play past).take turn).play later := session.play_append past (turn :: later)
  have made := before.handle_defaultBorder ((session.play past).making turn.making).platform
    handling
  rw [if_pos substitutes] at made
  have became := (became_of_finds _ finds).trans
    (((session.play past).take turn).play_becomes later)
  rw [← split] at became
  have stays := became.eq_of_isMade (by rw [made, Once.isMade_ask])
  rw [stays, made, Once.kept?_ask]
  rfl

/-- The default border brush is made for what needs it. Over the turns of any host, runs among them:
it has been made if and only if a border needed it or the host asked for it, then once, and no turn
takes it back. Of the updates in a turn those that are handled take effect, one after the other: a
border that needs the brush is given the one that was made, with a record of that, whatever the host
would make by then; a border that does not need it has no such record. -/
theorem play_defaultBorder (options : SessionOptions) (turns : List (Turn n)) :
    let begun := start n options
    let last := (begun.play turns).shared.defaultBorder
    (∀ steps : List (Fin n × Step n), (begun.run steps).2 =
      begun.play (steps.map fun taken => ⟨options.defaultBorder, taken.1, taken.2⟩)) ∧
    (last.isMade = true ↔
      ∃ past turn later, turns = past ++ turn :: later ∧
        ((begun.play past).making turn.making).Needs turn.place turn.step) ∧
    last.runs = (if last.isMade then 1 else 0) ∧
    (∀ past later, turns = past ++ later → (begun.play past).shared.defaultBorder.isMade = true →
      last = (begun.play past).shared.defaultBorder) ∧
    ∀ past turn later, turns = past ++ turn :: later →
      let session := (begun.play past).making turn.making
      (turn.step.givesUpdates = true → session.step turn.place turn.step =
        session.conclude turn.place (turn.step.verdict session.chain)
          (session.handled turn.place turn.step)) ∧
      ∀ before handling, session.Finds turn.place turn.step before handling →
      ∃ calls entries, before.Puts (before.handle session.platform handling) calls entries ∧
        (handling.substitutes before.view = true → ∃ brush, last.kept? = some brush ∧
          Call.paints .border calls = [some brush] ∧
          (before.handle session.platform handling).view.borderBrush = some brush) ∧
        (options.keepsJournal = true →
          entries.filter (fun entry => entry.outcome = .defaultBorderBrush) =
            if handling.substitutes before.view then
              [⟨handling.update.name, .defaultBorderBrush, none⟩]
            else []) := by
  intro begun last
  have unmade : begun.shared.defaultBorder.isMade = false := rfl
  refine ⟨begun.run_eq_play, ?made, ?runs, ?stays, ?found⟩
  case made => exact (begun.play_isMade_iff turns).trans (or_iff_right (by simp [unmade]))
  case runs =>
    have runs := (begun.play_becomes turns).runs_eq unmade
    exact runs.trans (Nat.zero_add _)
  case stays =>
    rintro past later rfl isMade
    have became := (begun.play past).play_becomes later
    rw [← play_append] at became
    exact became.eq_of_isMade isMade
  case found =>
    rintro past turn later rfl session
    refine ⟨session.step_of_givesUpdates turn.place, fun before handling finds => ?_⟩
    refine ⟨_, _, before.performAll_puts session.platform handling.update.name _, ?_, ?_⟩
    · intro substitutes
      exact ⟨_, begun.play_keeps_given past turn later finds substitutes,
        handling.paints_of_substitutes session.platform before substitutes,
        handling.borderBrush_of_substitutes session.platform before substitutes⟩
    · intro keeps
      have kept : session.platform.keepsJournal = true :=
        (begun.play_keepsJournal past).trans keeps
      simp only [Scene.kept, kept, if_true]
      exact handling.recorded_default session.platform before

/-- The border that is new to the session is given the brush that the first one was given. -/
example :
    let white : Brush := .solid ⟨0xFF, 0xFF, 0xFF, 0xFF⟩
    let one : Binary64 := ⟨0x3FF0000000000000⟩
    let turns : List (Turn 2) :=
      [⟨some .black, 0, .apply ⟨"borderColor", .null⟩⟩,
        ⟨some white, 0, .apply ⟨"borderWidth", .number one⟩⟩,
        ⟨none, 0, .forgetDecorations⟩,
        ⟨none, 1, .applyAll [⟨"borderLeftWidth", .number one⟩, ⟨"borderColor", .null⟩]⟩]
    let last := (start 2 { groups := [.border] }).play turns
    (last.pair 1).view.borderBrush = some white ∧ last.shared.defaultBorder.runs = 1 := by
  decide +kernel

end Session

end ViewStyle
