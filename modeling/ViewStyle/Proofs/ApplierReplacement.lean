import ViewStyle.Proofs.DecorationCheck

/-!
# Replaced appliers

A new applier starts without an answer about text decorations. Main statement: the check runs once
for each applier that is asked, whose first answer settles what it handles; and where the check
always gives the same answer, replacing appliers shows nowhere but in how often the check has run.
-/

set_option autoImplicit false

namespace ViewStyle

namespace Scene

/-- The scene with another state of the answer about text decorations. -/
def knowing (scene : Scene) (decorations : Once Bool) : Scene :=
  { scene with shared.decorations := decorations }

variable (platform : Platform) (scene : Scene) (decorations : Once Bool)

theorem perform_knowing (property : String) (action : Action) :
    ∃ later, (scene.knowing decorations).perform platform property action =
      (scene.perform platform property action).knowing later := by
  cases action with
  | askDecorations => exact ⟨decorations.ask platform.decoratesText, rfl⟩
  | refresh =>
      refine ⟨decorations, ?_⟩
      simp only [perform, refresh]
      split <;> rfl
  | note | noteToken =>
      refine ⟨decorations, ?_⟩
      simp only [perform, record]
      split <;> rfl
  | _ => exact ⟨decorations, rfl⟩

theorem performAll_knowing (property : String) (actions : List Action) :
    ∃ later, (scene.knowing decorations).performAll platform property actions =
      (scene.performAll platform property actions).knowing later := by
  induction actions generalizing scene decorations with
  | nil => exact ⟨decorations, rfl⟩
  | cons action rest ih =>
      obtain ⟨middle, first⟩ := scene.perform_knowing platform decorations property action
      obtain ⟨later, others⟩ := ih (scene.perform platform property action) middle
      refine ⟨later, ?_⟩
      rw [performAll, List.foldl_cons, first]
      exact others

variable {decorations}

/-- What a handled update does depends on the answer that it finds, and not on who has asked for
it. -/
theorem actions_knowing
    (agree : decorations.answer platform.decoratesText = scene.decoratesText platform)
    (handling : Handling) :
    handling.actions platform (scene.knowing decorations) = handling.actions platform scene := by
  have same : handling.key.actions platform (scene.knowing decorations) handling.update.value =
      handling.key.actions platform scene handling.update.value := by
    cases handling.key with
    | textDecorationLine =>
        have answered : (scene.knowing decorations).decoratesText platform =
            scene.decoratesText platform := agree
        simp only [Key.actions, answered]
    | _ => rfl
  rw [Handling.actions, same, Handling.actions]

theorem handleAll_knowing
    (agree : decorations.answer platform.decoratesText = scene.decoratesText platform)
    (handlings : List Handling) :
    ∃ later, (scene.knowing decorations).handleAll platform handlings =
      (scene.handleAll platform handlings).knowing later := by
  induction handlings generalizing scene decorations with
  | nil => exact ⟨decorations, rfl⟩
  | cons handling rest ih =>
      obtain ⟨middle, first⟩ := scene.performAll_knowing platform decorations handling.update.name
        (handling.actions platform scene)
      rw [← scene.actions_knowing platform agree handling] at first
      have handled : (scene.knowing decorations).handle platform handling =
          (scene.handle platform handling).knowing middle := by
        rw [handle, first, scene.actions_knowing platform agree handling]
        rfl
      have before := congrArg Backdrop.decoratesText
        ((scene.knowing decorations).handle_backdrop platform handling)
      have after := congrArg Backdrop.decoratesText (scene.handle_backdrop platform handling)
      rw [handled] at before
      obtain ⟨later, others⟩ := ih (scene.handle platform handling)
        ((before.trans agree).trans after.symm)
      refine ⟨later, ?_⟩
      rw [handleAll, List.foldl_cons, handled]
      exact others

end Scene

namespace Session

variable {n : Nat}

def knowing (session : Session n) (decorations : Once Bool) : Session n :=
  { session with shared.decorations := decorations }

/-- What can be told from an answer without looking at what an applier has kept. -/
def Answer.butForKept : Answer → Answer
  | .keptDecorations names _ => .keptDecorations names none
  | answer => answer

/-- What a report shows but for how often the check has run and what an applier has kept. -/
def Report.butForCheck (report : Report) : Report :=
  { report with answer := report.answer.butForKept, checkRuns := 0 }

variable (session : Session n) {decorations : Once Bool}

theorem step_knowing (place : Fin n) {step : Step n} (keeps : step.replacesApplier = false)
    (agree : decorations.answer session.platform.decoratesText =
      session.shared.decorations.answer session.platform.decoratesText) :
    ((session.knowing decorations).step place step).1.butForKept =
        (session.step place step).1.butForKept ∧
      ((session.knowing decorations).step place step).2.1 = (session.step place step).2.1 ∧
      ∃ later, ((session.knowing decorations).step place step).2.2 =
        (session.step place step).2.2.knowing later := by
  cases gives : step.givesUpdates with
  | true =>
      obtain ⟨later, handled⟩ := (session.scene place).handleAll_knowing session.platform agree
        (step.handlings session.chain)
      have otherHandled : (session.knowing decorations).handled place step =
          (session.handled place step).knowing later := handled
      rw [session.step_of_givesUpdates place gives,
        (session.knowing decorations).step_of_givesUpdates place gives, otherHandled]
      exact ⟨rfl, rfl, later, rfl⟩
  | false =>
      cases step with
      | apply | applyAll | applyBag | offer => cases gives
      | forgetDecorations => cases keeps
      | askDecorations =>
          exact ⟨congrArg Answer.flag agree, rfl, _, rfl⟩
      | refresh paint value =>
          obtain ⟨later, refreshed⟩ := (session.scene place).perform_knowing session.platform
            decorations "" (.refresh paint (Brush.ofValue? value))
          have taken := congrArg ((session.knowing decorations).conclude place .done) refreshed
          refine ⟨rfl, ?_, later, ?_⟩
          · exact congrArg (fun result => result.2.1) taken
          · exact congrArg (fun result => result.2.2) taken
      | _ => exact ⟨rfl, rfl, decorations, rfl⟩

theorem advance_knowing (place : Fin n) {step : Step n} (keeps : step.replacesApplier = false)
    (agree : decorations.answer session.platform.decoratesText =
      session.shared.decorations.answer session.platform.decoratesText) :
    ((session.knowing decorations).advance place step).1.butForCheck =
        (session.advance place step).1.butForCheck ∧
      ∃ later, ((session.knowing decorations).advance place step).2 =
        (session.advance place step).2.knowing later := by
  obtain ⟨answer, calls, later, after⟩ := session.step_knowing place keeps agree
  refine ⟨?_, later, after⟩
  simp only [advance, Report.butForCheck, answer, calls, after]
  rfl

/-- Whether a step leaves the check to give what it gives, where there is a check. -/
def Step.leavesCheck (check : Option Bool) : Step n → Bool
  | .setCheck answer => check.all fun given => given == answer
  | _ => true

theorem step_check {check : Option Bool} (place : Fin n) {step : Step n}
    (leaves : step.leavesCheck check = true) (same : session.decorationCheck = check) :
    (session.step place step).2.2.decorationCheck = check := by
  cases step with
  | setCheck answer =>
      cases check with
      | none => simp [Session.step, same]
      | some given =>
          have isGiven : given = answer := eq_of_beq leaves
          simp [Session.step, same, isGiven]
  | applyBag bag =>
      simp only [Session.step]
      split <;> exact same
  | _ => exact same

theorem step_agrees (place : Fin n) {step : Step n} (keeps : step.replacesApplier = false)
    {given : Bool} (gives : session.platform.decoratesText = given)
    (agree : session.shared.decorations.answer given = given) :
    (session.step place step).2.2.shared.decorations.answer given = given := by
  rw [session.step_decorations place keeps, gives]
  split
  · rw [Once.answer_ask, agree]
  · exact agree

/-- The steps of a run but the replacements of the applier. -/
def keeping (steps : List (Fin n × Step n)) : List (Fin n × Step n) :=
  steps.filter fun taken => !taken.2.replacesApplier

/-- What is reported of a run at all steps but the replacements of the applier. -/
def seen (session : Session n) (steps : List (Fin n × Step n)) : List Report :=
  ((steps.zip (session.run steps).1).filter fun taken => !taken.1.2.replacesApplier).map
    fun taken => taken.2.butForCheck

theorem seen_cons_of_keeps {place : Fin n} {step : Step n} (keeps : step.replacesApplier = false)
    (rest : List (Fin n × Step n)) :
    session.seen ((place, step) :: rest) =
      (session.advance place step).1.butForCheck :: (session.advance place step).2.seen rest := by
  simp [seen, run, keeps]

/-- With replacements left out, a run is seen to go on as before. -/
theorem run_keeping_knowing {check : Option Bool} (steps : List (Fin n × Step n))
    (leaves : ∀ taken ∈ steps, taken.2.leavesCheck check = true)
    (same : session.decorationCheck = check)
    (agree : session.shared.decorations.answer (check.getD true) = check.getD true)
    (otherAgree : decorations.answer (check.getD true) = check.getD true) :
    (session.knowing decorations).seen (keeping steps) = session.seen steps ∧
      ∃ later, ((session.knowing decorations).run (keeping steps)).2 =
        (session.run steps).2.knowing later := by
  induction steps generalizing session decorations with
  | nil => exact ⟨rfl, decorations, rfl⟩
  | cons taken rest ih =>
      obtain ⟨place, step⟩ := taken
      have leavesLater : ∀ later ∈ rest, later.2.leavesCheck check = true :=
        fun later member => leaves later (List.mem_cons_of_mem _ member)
      have sameLater := session.step_check place (leaves _ List.mem_cons_self) same
      cases replaces : step.replacesApplier with
      | true =>
          obtain rfl := Step.eq_forgetDecorations replaces
          -- Only the run that has the replacement moves on, to an applier that knows nothing.
          have unmade : session.shared.decorations.forget.answer (check.getD true) =
              check.getD true := rfl
          exact @ih (session.step place .forgetDecorations).2.2 decorations leavesLater sameLater
            unmade otherAgree
      | false =>
          have gives : session.platform.decoratesText = check.getD true :=
            congrArg (fun check => check.getD true) same
          obtain ⟨reported, later, after⟩ := @advance_knowing n session decorations place step
            replaces (by rw [gives, otherAgree, agree])
          have laterAgrees : later.answer (check.getD true) = check.getD true := by
            have stepped := (session.knowing decorations).step_agrees place replaces gives
              otherAgree
            rwa [show ((session.knowing decorations).step place step).2.2 = _ from after] at stepped
          obtain ⟨seenLater, last, final⟩ := @ih (session.advance place step).2 later leavesLater
            sameLater (session.step_agrees place replaces gives agree) laterAgrees
          have kept : keeping ((place, step) :: rest) = (place, step) :: keeping rest :=
            List.filter_cons_of_pos (by simp [replaces])
          rw [kept, seen_cons_of_keeps _ replaces, seen_cons_of_keeps _ replaces, reported, after,
            seenLater]
          rw [← after] at final
          exact ⟨rfl, last, final⟩

theorem Step.leavesCheck_of_keeping_eq {check : Option Bool} {steps other : List (Fin n × Step n)}
    (leaves : ∀ taken ∈ steps, taken.2.leavesCheck check = true)
    (same : keeping other = keeping steps) :
    ∀ taken ∈ other, taken.2.leavesCheck check = true := by
  rintro ⟨place, step⟩ member
  cases replaces : step.replacesApplier with
  | true =>
      obtain rfl := Step.eq_forgetDecorations replaces
      rfl
  | false =>
      have kept : (place, step) ∈ keeping other :=
        List.mem_filter.mpr ⟨member, by simp [replaces]⟩
      rw [same] at kept
      exact leaves _ (List.mem_filter.mp kept).1

theorem seen_start_eq (options : SessionOptions) {steps other : List (Fin n × Step n)}
    (leaves : ∀ taken ∈ steps, taken.2.leavesCheck options.decorationCheck = true)
    (same : keeping other = keeping steps) :
    (start n options).seen other = (start n options).seen steps ∧
      ∃ decorations, ((start n options).run other).2 =
        ((start n options).run steps).2.knowing decorations := by
  obtain ⟨seen, last, final⟩ := @run_keeping_knowing n (start n options) {} options.decorationCheck
    steps leaves rfl rfl rfl
  obtain ⟨otherSeen, otherLast, otherFinal⟩ := @run_keeping_knowing n (start n options) {}
    options.decorationCheck other (Step.leavesCheck_of_keeping_eq leaves same) rfl rfl rfl
  rw [same] at otherSeen otherFinal
  refine ⟨otherSeen.symm.trans seen, ((start n options).run other).2.shared.decorations, ?_⟩
  have ends := congrArg
    (fun session => session.knowing ((start n options).run other).2.shared.decorations)
    (otherFinal.symm.trans final)
  exact ends

/-- Text decorations over a run in which the host may change the check's answer and replace the
applier at any time. The check has run once for each applier that was asked, and for no other. Of
the updates in a step those that are handled take effect. No step runs the check but one that asks,
by an update of the text decorations that comes to their handler or directly. The answer is then the
one that the applier was given when it was asked first, and decides all such updates. If the check
always gives the same, then runs that differ in replacements alone are seen to go the same way, and
end the same but for what is kept about the answer. -/
theorem run_decorations (options : SessionOptions) (steps : List (Fin n × Step n)) :
    let begun := start n options
    let runs (history : List (Fin n × Step n)) := (begun.run history).2.shared.decorations.runs
    runs steps =
      (steps.splitOnP fun taken => taken.2.replacesApplier).countP (asked begun.chain) ∧
    (∀ past life, steps = past ++ life → NewApplier past →
      (∀ taken ∈ life, taken.2.replacesApplier = false) →
      runs steps = runs past + if asked begun.chain life then 1 else 0) ∧
    (∀ past taken later, steps = past ++ taken :: later →
      let now := (begun.run past).2
      (taken.2.givesUpdates = true → now.step taken.1 taken.2 =
        now.conclude taken.1 (taken.2.verdict now.chain) (now.handled taken.1 taken.2)) ∧
      (taken.2.asks begun.chain = false → runs (past ++ [taken]) = runs past) ∧
      (taken.2.asks begun.chain = true →
        ∃ answer, begun.FirstAnswer (past ++ [taken]) answer ∧
          (taken.2 = .askDecorations → (now.step taken.1 taken.2).1 = .flag answer) ∧
          ∀ before handling, now.Finds taken.1 taken.2 before handling →
            handling.isOfDecorations = true →
            before.Decided now.platform handling.update
              (before.handle now.platform handling) answer)) ∧
    ((∀ taken ∈ steps, taken.2.leavesCheck options.decorationCheck = true) →
      ∀ other, keeping other = keeping steps →
        begun.seen other = begun.seen steps ∧
          ∃ decorations, (begun.run other).2 = (begun.run steps).2.knowing decorations) := by
  intro begun runs
  have unmade : begun.shared.decorations.isMade = false := rfl
  refine ⟨?once, ?lives, ?answers, ?replacements⟩
  case once =>
    obtain ⟨life, lives, split, counted⟩ := begun.foldl_runs steps
    rw [← run_eq_foldl] at counted
    have none : begun.shared.decorations.runs = 0 := rfl
    rw [split, List.countP_cons]
    simpa [unmade, none, Nat.add_comm] using counted
  case lives =>
    rintro past life rfl isNew keeps
    exact begun.run_runs_of_life unmade isNew keeps
  case answers =>
    rintro past taken later - now
    refine ⟨now.step_of_givesUpdates taken.1, fun silent => ?_, begun.run_decides unmade past⟩
    have chain : now.chain = begun.chain := begun.run_chain past
    have stepped := now.runs_after_of_not_asks (by rwa [chain])
    rwa [← run_append_singleton] at stepped
  case replacements => exact fun leaves other same => seen_start_eq options leaves same

/-- A check that says no and then yes: the first applier goes on without decorations, the second has
them. -/
example :
    let session := start 1 { groups := [.textDecoration], decorationCheck := some false }
    let underline : Step 1 := .apply ⟨"textDecorationLine", .text "underline"⟩
    let steps : List (Fin 1 × Step 1) :=
      [(0, underline), (0, .setCheck true), (0, underline), (0, .forgetDecorations), (0, underline)]
    (session.run steps).1.map (fun report => report.entries.map Entry.outcome) =
        [[.unsupported], [], [.unsupported], [], [.applied]] ∧
      (session.run steps).2.checkRuns = 2 := by
  decide +kernel

end Session

end ViewStyle
