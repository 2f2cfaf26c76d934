import ViewStyle.Proofs.Handled

/-!
# Onlookers

The journal and the owner of the secondary brushes look on at what a session does. Main statement:
two sessions that differ in their onlookers, or in what has been recorded before, go the same way
step by step. They differ in what is recorded and in the word sent to that owner, and in nothing
else.
-/

set_option autoImplicit false

namespace ViewStyle

/-- Whether a call is one to the view itself. -/
def Call.isChange : Call → Bool
  | .change _ => true
  | .refresh _ _ => false

def Platform.unwatched (platform : Platform) : Platform :=
  { platform with hasSecondaryBrushes := false, keepsJournal := false }

namespace Scene

/-- What is left of a scene when its onlookers are taken away. -/
def unwatched (scene : Scene) : Scene :=
  { scene with shared.journal := {}, calls := scene.calls.filter Call.isChange }

variable (platform : Platform) (scene : Scene)

theorem change_unwatched (change : Change) :
    (scene.change change).unwatched = scene.unwatched.change change := by
  have kept : (scene.calls ++ [Call.change change]).filter Call.isChange =
      scene.calls.filter Call.isChange ++ [Call.change change] := by
    rw [List.filter_append]
    rfl
  simp only [Scene.change, unwatched, kept]

theorem refresh_unwatched (paint : Paint) (brush : Option Brush) :
    (scene.refresh platform paint brush).unwatched = scene.unwatched := by
  unfold refresh
  split
  · have dropped : (scene.calls ++ [Call.refresh paint brush]).filter Call.isChange =
        scene.calls.filter Call.isChange := by
      rw [List.filter_append]
      exact List.append_nil _
    simp only [unwatched, dropped]
  · rfl

theorem record_unwatched (entry : Entry) :
    (scene.record platform entry).unwatched = scene.unwatched := by
  unfold record
  split <;> rfl

/-- Taking the onlookers away commutes with every action. -/
theorem perform_unwatched (property : String) (action : Action) :
    (scene.perform platform property action).unwatched =
      scene.unwatched.perform platform.unwatched property action := by
  cases action with
  | write | askDecorations => rfl
  | change change => exact scene.change_unwatched change
  | present part => exact scene.change_unwatched (scene.node.presented part)
  | substituteBorderBrush => exact (scene.askDefaultBorder platform).change_unwatched _
  | refresh paint brush => exact scene.refresh_unwatched platform paint brush
  | note | noteToken => exact scene.record_unwatched platform _

theorem performAll_unwatched (property : String) (actions : List Action) :
    (scene.performAll platform property actions).unwatched =
      scene.unwatched.performAll platform.unwatched property actions := by
  induction actions generalizing scene with
  | nil => rfl
  | cons action rest ih =>
      have later := ih (scene.perform platform property action)
      rw [perform_unwatched] at later
      exact later

/-- No handler looks at an onlooker before it decides. -/
theorem actions_unwatched (handling : Handling) :
    handling.actions platform.unwatched scene.unwatched = handling.actions platform scene := by
  obtain ⟨key, update, chained⟩ := handling
  cases key <;> rfl

theorem handleAll_unwatched (handlings : List Handling) :
    (scene.handleAll platform handlings).unwatched =
      scene.unwatched.handleAll platform.unwatched handlings := by
  induction handlings generalizing scene with
  | nil => rfl
  | cons handling rest ih =>
      have first : (scene.handle platform handling).unwatched =
          scene.unwatched.handle platform.unwatched handling := by
        rw [handle, performAll_unwatched, handle, actions_unwatched]
      have later := ih (scene.handle platform handling)
      rw [first] at later
      exact later

end Scene

namespace Session

variable {n : Nat}

/-- What is left of a session when its onlookers, and all that was recorded, are taken away. -/
def unwatched (session : Session n) : Session n :=
  { session with
    options.hasSecondaryBrushes := false
    options.keepsJournal := false
    shared.journal := {} }

/-- What is left of a report without what was recorded and the word sent to the owner of the
secondary brushes. -/
def Report.unwatched (report : Report) : Report :=
  { report with calls := report.calls.filter Call.isChange, entries := [] }

/-- Whether a step reads the journal or empties it. -/
def Step.usesJournal : Step n → Bool
  | .journal (.record _) => false
  | .journal _ => true
  | _ => false

theorem step_unwatched (session : Session n) (place : Fin n) {step : Step n}
    (blind : step.usesJournal = false) :
    (session.unwatched.step place step).1 = (session.step place step).1 ∧
      (session.unwatched.step place step).2.1 =
        (session.step place step).2.1.filter Call.isChange ∧
      (session.unwatched.step place step).2.2.unwatched =
        (session.step place step).2.2.unwatched := by
  cases gives : step.givesUpdates with
  | true =>
      have handled : session.unwatched.handled place step =
          (session.handled place step).unwatched :=
        ((session.scene place).handleAll_unwatched session.platform _).symm
      rw [session.step_of_givesUpdates place gives,
        session.unwatched.step_of_givesUpdates place gives, handled]
      exact ⟨rfl, rfl, rfl⟩
  | false =>
      cases step with
      | apply | applyAll | applyBag | offer => cases gives
      | refresh paint value =>
          have word : (session.unwatched.scene place).refresh session.unwatched.platform paint
              (Brush.ofValue? value) =
                ((session.scene place).refresh session.platform paint
                  (Brush.ofValue? value)).unwatched :=
            ((session.scene place).refresh_unwatched session.platform paint _).symm
          have taken := congrArg (session.unwatched.conclude place .done) word
          exact ⟨rfl, congrArg (fun result => result.2.1) taken,
            congrArg (fun result => result.2.2.unwatched) taken⟩
      | journal query =>
          cases query with
          | record entry => exact ⟨rfl, rfl, rfl⟩
          | _ => cases blind
      | _ => exact ⟨rfl, rfl, rfl⟩

variable {session other : Session n}

/-- Sessions that differ in their onlookers are reported alike at each step, and differ in nothing
else afterwards. -/
theorem advance_unwatched (alike : session.unwatched = other.unwatched) (place : Fin n)
    {step : Step n} (blind : step.usesJournal = false) :
    (session.advance place step).1.unwatched = (other.advance place step).1.unwatched ∧
      (session.advance place step).2.unwatched = (other.advance place step).2.unwatched := by
  obtain ⟨answer, calls, after⟩ := session.step_unwatched place blind
  obtain ⟨otherAnswer, otherCalls, otherAfter⟩ := other.step_unwatched place blind
  rw [alike] at answer calls after
  have sameAfter := after.symm.trans otherAfter
  refine ⟨?_, sameAfter⟩
  have shown (session : Session n) : (session.advance place step).1.unwatched =
      { answer := (session.step place step).1
        calls := (session.step place step).2.1.filter Call.isChange
        entries := []
        pair := (session.step place step).2.2.unwatched.pairs[place]
        defaultBorderMade := (session.step place step).2.2.unwatched.shared.defaultBorder.isMade
        brushRuns := (session.step place step).2.2.unwatched.brushRuns
        checkRuns := (session.step place step).2.2.unwatched.checkRuns } := rfl
  rw [shown session, shown other, ← answer, ← otherAnswer, ← calls, ← otherCalls, sameAfter]

/-- Recording decisions and looking after secondary brushes change nothing but what is recorded and
what the owner of those brushes is told. However two sessions differ in these and in what has been
recorded before, each step that does not read or empty the journal gives the same answer, makes the
same calls to the view in the same order, leaves the same node and view, and has made the default
brush and run the check for text decorations as often; and after any such steps the sessions differ
in nothing else. -/
theorem run_unwatched (alike : session.unwatched = other.unwatched) (steps : List (Fin n × Step n))
    (blind : ∀ taken ∈ steps, taken.2.usesJournal = false) :
    (session.run steps).1.map Report.unwatched = (other.run steps).1.map Report.unwatched ∧
      (session.run steps).2.unwatched = (other.run steps).2.unwatched := by
  induction steps generalizing session other with
  | nil => exact ⟨rfl, alike⟩
  | cons taken rest ih =>
      obtain ⟨place, step⟩ := taken
      obtain ⟨report, after⟩ := advance_unwatched alike place (blind _ List.mem_cons_self)
      obtain ⟨reports, last⟩ := ih after fun later member =>
        blind later (List.mem_cons_of_mem _ member)
      exact ⟨congrArg₂ List.cons report reports, last⟩

/-- A null colour on a border that shows, an unknown weight and a new answer of the check, with both
onlookers and with none. -/
theorem run_unwatched_of_unknown_weight :
    let options : SessionOptions :=
      { groups := [.border, .font, .textDecoration], decorationCheck := some false
        defaultBorder := some (.solid ⟨0xFF, 0xFF, 0xFF, 0xFF⟩) }
    let watched := start 1 options
    let alone : Session 1 :=
      { start 1 { options with hasSecondaryBrushes := false, keepsJournal := false } with
        shared.journal := ⟨[⟨"color", .applied, none⟩]⟩ }
    let steps : List (Fin 1 × Step 1) :=
      [(0, .setThickness ⟨.minusOne, .zero, .zero, .zero⟩),
        (0, .apply ⟨"borderColor", .null⟩),
        (0, .offer .font ⟨"fontWeight", .text "heavy"⟩),
        (0, .apply ⟨"textDecorationLine", .text "underline"⟩),
        (0, .setCheck true), (0, .forgetDecorations),
        (0, .applyAll [⟨"textDecorationLine", .text "underline"⟩, ⟨"borderWidth", .null⟩]),
        (0, .journal (.record ⟨"borderColor", .cleared, none⟩))]
    watched.unwatched = alone.unwatched ∧
    (∀ taken ∈ steps, taken.2.usesJournal = false) ∧
    (watched.run steps).1 ≠ (alone.run steps).1 ∧
    (watched.run steps).1.map Report.unwatched = (alone.run steps).1.map Report.unwatched ∧
    (watched.run steps).2.unwatched = (alone.run steps).2.unwatched := by
  intro options watched alone steps
  have alike : watched.unwatched = alone.unwatched := by decide +kernel
  have blind : ∀ taken ∈ steps, taken.2.usesJournal = false := by decide +kernel
  have apart : (watched.run steps).1 ≠ (alone.run steps).1 := by decide +kernel
  exact ⟨alike, blind, apart, run_unwatched alike steps blind⟩

end Session

end ViewStyle
