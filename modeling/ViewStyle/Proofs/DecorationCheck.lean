import Mathlib.Data.List.Induction
import ViewStyle.Proofs.OnDemand
import ViewStyle.Proofs.Outcomes

/-!
# The check for text decorations

The host is asked whether text can be decorated when that first matters to an applier, and its
answer is kept until the applier is replaced. Main statements: the check runs once for each applier
that is asked and never for another, and the first answer settles all updates of the text
decorations that the applier handles.
-/

set_option autoImplicit false

namespace ViewStyle

def Update.isOfDecorations (update : Update) : Bool := update.name = "textDecorationLine"

def Handling.isOfDecorations (handling : Handling) : Bool := handling.key = .textDecorationLine

theorem Key.ofName?_eq_textDecorationLine_iff (name : String) :
    Key.ofName? name = some .textDecorationLine ↔ name = "textDecorationLine" := by
  constructor
  · intro known
    have named : ∀ pair ∈ names, pair.2 = .textDecorationLine → pair.1 = "textDecorationLine" := by
      decide
    obtain ⟨before, after, split, -⟩ := List.lookup_eq_some_iff.mp known
    exact named (name, .textDecorationLine) (by simp [split]) rfl
  · rintro rfl
    decide

theorem Update.isOfDecorations_iff (update : Update) :
    update.isOfDecorations = true ↔ Key.ofName? update.name = some .textDecorationLine := by
  rw [Key.ofName?_eq_textDecorationLine_iff, isOfDecorations, decide_eq_true_iff]

theorem Chain.any_handlings (chain : Chain) (batch : List Update) :
    (chain.handlings batch).any Handling.isOfDecorations =
      (chain.contains .textDecoration && batch.any Update.isOfDecorations) := by
  have handled (update : Update) : chain.property? update = some .textDecorationLine ↔
      chain.contains .textDecoration = true ∧ update.isOfDecorations = true := by
    rw [property?_eq_some_iff, update.isOfDecorations_iff, and_comm]
    exact and_congr_left' List.contains_iff_mem.symm
  rw [Bool.eq_iff_iff, Bool.and_eq_true, List.any_eq_true, List.any_eq_true]
  constructor
  · rintro ⟨handling, member, ofDecorations⟩
    obtain ⟨update, given, found⟩ := List.mem_filterMap.mp member
    obtain ⟨key, isKey, rfl⟩ := Option.map_eq_some_iff.mp found
    obtain rfl : key = .textDecorationLine := of_decide_eq_true ofDecorations
    obtain ⟨contains, named⟩ := (handled update).mp isKey
    exact ⟨contains, update, given, named⟩
  · rintro ⟨contains, update, given, named⟩
    have isKey := (handled update).mpr ⟨contains, named⟩
    exact ⟨⟨.textDecorationLine, update, true⟩,
      List.mem_filterMap.mpr ⟨update, given, by rw [isKey]; rfl⟩, rfl⟩

theorem Group.any_handlings (group : Group) (update : Update) :
    (group.handlings update).any Handling.isOfDecorations =
      (decide (group = .textDecoration) && update.isOfDecorations) := by
  rw [Bool.eq_iff_iff, Bool.and_eq_true, decide_eq_true_iff, update.isOfDecorations_iff,
    List.any_eq_true]
  constructor
  · rintro ⟨handling, member, ofDecorations⟩
    obtain ⟨key, found, rfl⟩ := List.mem_map.mp member
    obtain ⟨known, own⟩ := Option.filter_eq_some_iff.mp (Option.mem_toList.mp found)
    obtain rfl : key = .textDecorationLine := of_decide_eq_true ofDecorations
    exact ⟨(of_decide_eq_true own).symm, known⟩
  · rintro ⟨rfl, known⟩
    refine ⟨⟨.textDecorationLine, update, false⟩, ?_, rfl⟩
    simp [handlings, known, Key.group]

namespace Handling

variable (handling : Handling) (platform : Platform) (scene : Scene)

theorem askDecorations_mem_iff :
    .askDecorations ∈ handling.actions platform scene ↔ handling.isOfDecorations = true := by
  obtain ⟨key, update, chained⟩ := handling
  constructor
  · intro member
    have concerned := concern_of_mem member rfl
    cases key with
    | textDecorationLine => rfl
    | _ => cases concerned
  · intro ofDecorations
    cases key with
    | textDecorationLine => exact List.mem_append_left _ List.mem_cons_self
    | _ => cases ofDecorations

end Handling

namespace Value

/-- The calls of an update of the text decorations, where text can be decorated or cannot. -/
def decorationCalls (value : Value) (decoratesText : Bool) : List Call :=
  if decoratesText then
    ((value.settled? fun value => value.text?.map TextDecorations.ofToken).map fun lines =>
      .change (.textDecorations lines)).toList
  else []

def decorationOutcome (value : Value) (decoratesText : Bool) : Outcome :=
  if decoratesText then value.outcomeAs .text else .unsupported

end Value

namespace Scene

/-- What an update of the text decorations leaves was decided by an answer. With yes, the update
comes to what its value says; with no, it is dropped, and recorded as unsupported. -/
structure Decided (platform : Platform) (before : Scene) (update : Update) (after : Scene)
    (answer : Bool) : Prop where
  puts : before.Puts after (update.value.decorationCalls answer)
    (kept platform [⟨update.name, update.value.decorationOutcome answer, none⟩])
  node : after.node = before.node
  view : after.view = (update.value.decorationCalls answer).foldl View.receive before.view

variable (platform : Platform) (scene : Scene)

theorem handle_decided {handling : Handling} (ofDecorations : handling.isOfDecorations = true) :
    scene.Decided platform handling.update (scene.handle platform handling)
      (scene.decoratesText platform) := by
  obtain ⟨key, ⟨name, value⟩, chained⟩ := handling
  obtain rfl : key = .textDecorationLine := of_decide_eq_true ofDecorations
  let handling : Handling := ⟨.textDecorationLine, ⟨name, value⟩, chained⟩
  have actions : handling.actions platform scene =
      Key.textDecorationLine.actions platform scene value := by
    cases chained <;> exact List.append_nil _
  have puts := scene.performAll_puts platform name (handling.actions platform scene)
  have node := scene.node_performAll platform name (handling.actions platform scene)
  have view := scene.view_performAll platform name (handling.actions platform scene)
  have recorded : (handling.actions platform scene).filterMap (Action.recorded? name) =
      [⟨name, value.decorationOutcome (scene.decoratesText platform), none⟩] := by
    rw [actions, Key.actions, Handler.decorationLine]
    cases scene.decoratesText platform <;> cases value <;> rfl
  have called : Action.calls platform (scene.defaultBorder platform) scene.node
      (handling.actions platform scene) =
        value.decorationCalls (scene.decoratesText platform) := by
    rw [actions, Key.actions, Handler.decorationLine]
    cases scene.decoratesText platform <;> cases value <;> rfl
  have unwritten : (handling.actions platform scene).foldl Action.writeTo scene.node =
      scene.node := by
    rw [actions, Key.actions, Handler.decorationLine]
    cases scene.decoratesText platform <;> cases value <;> rfl
  rw [recorded, called] at puts
  rw [unwritten] at node
  rw [called] at view
  exact ⟨puts, node, view⟩

theorem handle_decorations (handling : Handling) :
    (scene.handle platform handling).shared.decorations =
      if handling.isOfDecorations then scene.shared.decorations.ask platform.decoratesText
      else scene.shared.decorations := by
  rw [handle, decorations_performAll]
  simp only [handling.askDecorations_mem_iff]

theorem handleAll_decorations (handlings : List Handling) :
    (scene.handleAll platform handlings).shared.decorations =
      if handlings.any Handling.isOfDecorations then
        scene.shared.decorations.ask platform.decoratesText
      else scene.shared.decorations := by
  induction handlings generalizing scene with
  | nil => rfl
  | cons handling rest ih =>
      refine (ih (scene.handle platform handling)).trans ?_
      rw [handle_decorations, List.any_cons]
      cases handling.isOfDecorations <;> simp

end Scene

namespace Session

variable {n : Nat}

/-- Whether a step asks if text can be decorated: the host asks directly, or an update of the text
decorations comes to their handler, whatever its value. -/
def Step.asks (chain : Chain) : Step n → Bool
  | .apply update => chain.contains .textDecoration && update.isOfDecorations
  | .applyAll updates => chain.contains .textDecoration && updates.any Update.isOfDecorations
  | .applyBag bag =>
    match Update.ofJson bag with
    | .ok updates => chain.contains .textDecoration && updates.any Update.isOfDecorations
    | .error _ => false
  | .offer group update => decide (group = .textDecoration) && update.isOfDecorations
  | .askDecorations => true
  | _ => false

def Step.replacesApplier : Step n → Bool
  | .forgetDecorations => true
  | _ => false

theorem Step.eq_forgetDecorations {step : Step n} (replaces : step.replacesApplier = true) :
    step = .forgetDecorations := by
  cases step with
  | forgetDecorations => rfl
  | _ => cases replaces

theorem Step.asks_of_givesUpdates (chain : Chain) {step : Step n}
    (gives : step.givesUpdates = true) :
    step.asks chain = (step.handlings chain).any Handling.isOfDecorations := by
  cases step with
  | apply update => simp [asks, handlings, chain.any_handlings]
  | applyAll updates => exact (chain.any_handlings updates).symm
  | applyBag bag =>
      cases conversion : Update.ofJson bag with
      | error => simp [asks, handlings, conversion]
      | ok updates => simp [asks, handlings, conversion, chain.any_handlings]
  | offer group update => exact (group.any_handlings update).symm
  | _ => cases gives

variable (session : Session n)

theorem step_decorations (place : Fin n) {step : Step n} (keeps : step.replacesApplier = false) :
    (session.step place step).2.2.shared.decorations =
      if step.asks session.chain then
        session.shared.decorations.ask session.platform.decoratesText
      else session.shared.decorations := by
  cases gives : step.givesUpdates with
  | true =>
      rw [session.step_of_givesUpdates place gives, step.asks_of_givesUpdates session.chain gives]
      exact (session.scene place).handleAll_decorations session.platform _
  | false =>
      cases step with
      | apply | applyAll | applyBag | offer => cases gives
      | forgetDecorations => cases keeps
      | refresh =>
          simp only [Session.step, conclude, adopt, Scene.refresh]
          split <;> rfl
      | _ => rfl

theorem after_replaced {taken : Fin n × Step n} (replaces : taken.2.replacesApplier = true) :
    (session.after taken).shared.decorations = session.shared.decorations.forget := by
  obtain ⟨place, step⟩ := taken
  obtain rfl := Step.eq_forgetDecorations replaces
  rfl

theorem after_kept {taken : Fin n × Step n} (keeps : taken.2.replacesApplier = false) :
    (session.after taken).shared.decorations =
      if taken.2.asks session.chain then
        session.shared.decorations.ask session.platform.decoratesText
      else session.shared.decorations :=
  session.step_decorations taken.1 keeps

theorem after_chain (taken : Fin n × Step n) : (session.after taken).chain = session.chain :=
  (session.step_frame taken.1 taken.2).2

/-- Whether an applier is asked in the part of a run that it lives through. -/
def asked (chain : Chain) (life : List (Fin n × Step n)) : Bool :=
  life.any fun taken => taken.2.asks chain

/-- The check runs once for each applier that is asked, and for the present one only if it has no
answer yet. -/
theorem foldl_runs (steps : List (Fin n × Step n)) :
    ∃ life lives, (steps.splitOnP fun taken => taken.2.replacesApplier) = life :: lives ∧
      (steps.foldl after session).shared.decorations.runs =
        session.shared.decorations.runs +
          (if session.shared.decorations.isMade = false ∧ asked session.chain life = true then 1
            else 0) +
          lives.countP (asked session.chain) := by
  induction steps generalizing session with
  | nil => exact ⟨[], [], rfl, by simp [asked]⟩
  | cons taken rest ih =>
      obtain ⟨life, lives, split, runs⟩ := ih (session.after taken)
      rw [after_chain] at runs
      rw [List.splitOnP_cons_eq_if_modifyHead, split, List.foldl_cons, runs]
      cases replaces : taken.2.replacesApplier with
      | true =>
          -- The present life ends here, and what was the first of the rest is one of the others.
          refine ⟨[], life :: lives, rfl, ?_⟩
          have nobody : @asked n session.chain [] = false := rfl
          rw [session.after_replaced replaces, List.countP_cons]
          simp only [nobody, Once.isMade_forget, Once.runs_forget, Bool.false_eq_true, and_false,
            true_and, if_false]
          omega
      | false =>
          refine ⟨taken :: life, lives, rfl, ?_⟩
          have either : asked session.chain (taken :: life) =
              (taken.2.asks session.chain || asked session.chain life) := rfl
          rw [session.after_kept replaces, either]
          cases taken.2.asks session.chain with
          | false => simp
          | true =>
              cases isMade : session.shared.decorations.isMade with
              | true => simp [Once.ask_of_isMade isMade, isMade]
              | false => simp [Once.runs_ask isMade]

/-- The present applier is new: the history is empty, or ends with a replacement. -/
def NewApplier (history : List (Fin n × Step n)) : Prop :=
  ∀ last ∈ history.getLast?, last.2.replacesApplier = true

/-- The present applier has not been asked yet: none of the steps since it was new asks. -/
def Unasked (history : List (Fin n × Step n)) : Prop :=
  ∃ past life, history = past ++ life ∧ NewApplier past ∧
    ∀ taken ∈ life, taken.2.replacesApplier = false ∧ taken.2.asks session.chain = false

/-- The present applier has been asked, and this is what the check gave when it was asked for the
first time. -/
def FirstAnswer (history : List (Fin n × Step n)) (answer : Bool) : Prop :=
  ∃ past first life, history = past ++ first :: life ∧ session.Unasked past ∧
    first.2.asks session.chain = true ∧
    (∀ taken ∈ life, taken.2.replacesApplier = false) ∧
    answer = (session.run past).2.platform.decoratesText

theorem Step.keeps_of_asks {chain : Chain} {step : Step n} (asks : step.asks chain = true) :
    step.replacesApplier = false := by
  cases step with
  | forgetDecorations => cases asks
  | _ => rfl

theorem Unasked.of_replaced {history : List (Fin n × Step n)} {taken : Fin n × Step n}
    (replaces : taken.2.replacesApplier = true) : session.Unasked (history ++ [taken]) := by
  refine ⟨history ++ [taken], [], (List.append_nil _).symm, fun last isLast => ?_, by simp⟩
  rw [List.getLast?_concat] at isLast
  obtain rfl := Option.mem_some.mp isLast
  exact replaces

theorem run_append_singleton (history : List (Fin n × Step n)) (taken : Fin n × Step n) :
    (session.run (history ++ [taken])).2 = (session.run history).2.after taken := by
  simp only [run_eq_foldl, List.foldl_append, List.foldl_cons, List.foldl_nil]

theorem run_chain (history : List (Fin n × Step n)) :
    (session.run history).2.chain = session.chain := by
  rw [run_eq_foldl]
  exact (session.foldl_after_frame history).2

/-- What is kept about text decorations is the answer that the present applier was given first. -/
theorem run_keeps_first_answer (unmade : session.shared.decorations.isMade = false)
    (history : List (Fin n × Step n)) :
    session.Unasked history ∧ (session.run history).2.shared.decorations.isMade = false ∨
      ∃ answer, session.FirstAnswer history answer ∧
        (session.run history).2.shared.decorations.kept? = some answer := by
  induction history using List.reverseRecOn with
  | nil => exact .inl ⟨⟨[], [], rfl, by simp [NewApplier], by simp⟩, unmade⟩
  | append_singleton history taken ih =>
      rw [run_append_singleton]
      cases replaces : taken.2.replacesApplier with
      | true =>
          rw [after_replaced _ replaces]
          exact .inl ⟨.of_replaced session replaces, rfl⟩
      | false =>
          rw [after_kept _ replaces, run_chain]
          -- An applier that was not asked may be asked now; one that was keeps what it has.
          obtain ⟨unasked, unmade⟩ | ⟨answer, first, kept⟩ := ih
          · cases asks : taken.2.asks session.chain with
            | true =>
                refine .inr ⟨_, ⟨history, taken, [], rfl, unasked, asks, by simp, rfl⟩, ?_⟩
                rw [if_pos rfl, Once.kept?_ask, Once.answer_of_unmade unmade]
            | false =>
                obtain ⟨past, life, rfl, isNew, quiet⟩ := unasked
                refine .inl ⟨⟨past, life ++ [taken], List.append_assoc .., isNew, ?_⟩, unmade⟩
                intro other member
                obtain earlier | last := List.mem_append.mp member
                · exact quiet other earlier
                · obtain rfl := List.mem_singleton.mp last
                  exact ⟨replaces, asks⟩
          · have isMade : (session.run history).2.shared.decorations.isMade = true := by
              rw [Once.isMade, kept]
              rfl
            rw [Once.ask_of_isMade isMade, ite_self]
            obtain ⟨past, asking, life, rfl, unasked, asks, keeps, given⟩ := first
            refine .inr ⟨answer, ⟨past, asking, life ++ [taken], by simp, unasked, asks, ?_, given⟩,
              kept⟩
            intro other member
            obtain earlier | last := List.mem_append.mp member
            · exact keeps other earlier
            · obtain rfl := List.mem_singleton.mp last
              exact replaces

/-- A step that asks finds the answer that the present applier was given first, and so does every
update of the text decorations that is handled in it. -/
theorem run_decides (unmade : session.shared.decorations.isMade = false)
    (past : List (Fin n × Step n)) {taken : Fin n × Step n}
    (asks : taken.2.asks session.chain = true) :
    ∃ answer, session.FirstAnswer (past ++ [taken]) answer ∧
      (taken.2 = .askDecorations →
        ((session.run past).2.step taken.1 taken.2).1 = .flag answer) ∧
      ∀ before handling, (session.run past).2.Finds taken.1 taken.2 before handling →
        handling.isOfDecorations = true →
        before.Decided (session.run past).2.platform handling.update
          (before.handle (session.run past).2.platform handling) answer := by
  have stepped := (session.run past).2.after_kept (Step.keeps_of_asks asks)
  rw [run_chain, asks, if_pos rfl] at stepped
  obtain ⟨answer, first, given⟩ : ∃ answer, session.FirstAnswer (past ++ [taken]) answer ∧
      (session.run past).2.shared.decorations.answer (session.run past).2.platform.decoratesText =
        answer := by
    obtain ⟨-, unmade⟩ | ⟨answer, first, kept⟩ :=
      session.run_keeps_first_answer unmade (past ++ [taken])
    · rw [run_append_singleton, stepped, Once.isMade_ask] at unmade
      cases unmade
    · rw [run_append_singleton, stepped, Once.kept?_ask] at kept
      exact ⟨answer, first, Option.some.inj kept⟩
  generalize (session.run past).2 = now at given ⊢
  refine ⟨answer, first, fun direct => ?_, ?_⟩
  · rw [direct, ← given]
    rfl
  · rintro before handling ⟨earlier, later, -, rfl⟩ ofDecorations
    have same := congrArg Backdrop.decoratesText
      ((now.scene taken.1).handleAll_backdrop now.platform earlier)
    have answered : (Scene.handleAll now.platform (now.scene taken.1) earlier).decoratesText
        now.platform = answer := same.trans given
    rw [← answered]
    exact Scene.handle_decided now.platform _ ofDecorations

/-- The check runs once in the life of an applier that is asked, and never in that of another. -/
theorem run_runs_of_life (unmade : session.shared.decorations.isMade = false)
    {past life : List (Fin n × Step n)}
    (isNew : NewApplier past)
    (keeps : ∀ taken ∈ life, taken.2.replacesApplier = false) :
    (session.run (past ++ life)).2.shared.decorations.runs =
      (session.run past).2.shared.decorations.runs +
        if asked session.chain life then 1 else 0 := by
  have unasked : (session.run past).2.shared.decorations.isMade = false := by
    induction past using List.reverseRecOn with
    | nil => exact unmade
    | append_singleton earlier last =>
        rw [run_append_singleton, after_replaced _ (isNew last List.getLast?_concat)]
        rfl
  have whole : (session.run (past ++ life)).2 = life.foldl after (session.run past).2 := by
    rw [run_eq_foldl, run_eq_foldl, List.foldl_append]
  obtain ⟨only, none, split, runs⟩ := (session.run past).2.foldl_runs life
  rw [List.splitOnP_eq_singleton keeps] at split
  obtain ⟨rfl, rfl⟩ := List.cons.inj split
  rw [whole, runs, run_chain]
  simp [unasked]

theorem runs_after_of_not_asks {taken : Fin n × Step n}
    (silent : taken.2.asks session.chain = false) :
    (session.after taken).shared.decorations.runs = session.shared.decorations.runs := by
  cases replaces : taken.2.replacesApplier with
  | true => rw [session.after_replaced replaces, Once.runs_forget]
  | false =>
      rw [session.after_kept replaces, silent]
      rfl

end Session

end ViewStyle
