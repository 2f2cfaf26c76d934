import ViewStyle.Proofs.Outcomes

/-!
# Lost updates

Main statement: the record of a handled update closes with a loss exactly when nothing was called
for it and it is of no pointer event. The journal alone tells which updates were dropped, and why.
-/

set_option autoImplicit false

namespace ViewStyle

namespace Action

variable (platform : Platform) (fallback : Brush)

theorem calls_of_quiet (node : Node) {actions : List Action}
    (quiet : ∀ action ∈ actions, action.isQuiet = true) :
    calls platform fallback node actions = [] := by
  induction actions generalizing node with
  | nil => rfl
  | cons action rest ih =>
      obtain ⟨first, later⟩ := List.forall_mem_cons.mp quiet
      have silent : action.call? platform fallback node = none := by
        cases action with
        | askDecorations | note | noteToken => rfl
        | _ => cases first
      rw [calls, silent, ih _ later]
      rfl

theorem exists_change_of_call (node : Node) {actions : List Action}
    (called : ∃ action ∈ actions, action.isCall = true) :
    ∃ made, Call.change made ∈ calls platform fallback node actions := by
  induction actions generalizing node with
  | nil =>
      obtain ⟨_, member, -⟩ := called
      cases member
  | cons action rest ih =>
      obtain ⟨found, member, isCall⟩ := called
      rcases List.mem_cons.mp member with rfl | later
      · have made : ∃ made, found.call? platform fallback node = some (.change made) := by
          cases found with
          | change | present | substituteBorderBrush => exact ⟨_, rfl⟩
          | _ => cases isCall
        obtain ⟨made, isMade⟩ := made
        exact ⟨made, List.mem_append_left _ (by simp [isMade])⟩
      · obtain ⟨made, among⟩ := ih (action.writeTo node) ⟨found, later, isCall⟩
        exact ⟨made, List.mem_append_right _ among⟩

end Action

namespace Scene

variable (platform : Platform) (property : String)

theorem perform_of_quiet (scene : Scene) {action : Action} (quiet : action.isQuiet = true) :
    (scene.perform platform property action).node = scene.node ∧
      (scene.perform platform property action).view = scene.view ∧
      (scene.perform platform property action).shared.defaultBorder =
        scene.shared.defaultBorder := by
  cases action with
  | askDecorations => exact ⟨rfl, rfl, rfl⟩
  | note | noteToken =>
      simp only [perform, record]
      split <;> exact ⟨rfl, rfl, rfl⟩
  | _ => cases quiet

theorem performAll_of_quiet (scene : Scene) {actions : List Action}
    (quiet : ∀ action ∈ actions, action.isQuiet = true) :
    (scene.performAll platform property actions).node = scene.node ∧
      (scene.performAll platform property actions).view = scene.view ∧
      (scene.performAll platform property actions).shared.defaultBorder =
        scene.shared.defaultBorder := by
  induction actions generalizing scene with
  | nil => exact ⟨rfl, rfl, rfl⟩
  | cons action rest ih =>
      obtain ⟨first, later⟩ := List.forall_mem_cons.mp quiet
      obtain ⟨sameNode, sameView, sameBrush⟩ := scene.perform_of_quiet platform property first
      obtain ⟨node, view, brush⟩ := ih (scene.perform platform property action) later
      exact ⟨node.trans sameNode, view.trans sameView, brush.trans sameBrush⟩

end Scene

/-- The outcomes that an update is recorded with, in their order. -/
def Key.outcomes (view : View) (decoratesText : Bool) (value : Value) (key : Key) : List Outcome :=
  key.opening view value ++ [key.closing view decoratesText value]

/-- The record of a handled update tells what has become of it: `entries` are what was recorded for
it, with the outcomes that its property has for its value, `last` among them closes the record, and
`calls` are what was called for it. -/
structure Told (key : Key) (platform : Platform) (update : Update) (before after : Scene)
    (calls : List Call) (entries : List Entry) (last : Entry) : Prop where
  puts : before.Puts after calls entries
  recorded : entries =
    (key.outcomes before.view (before.decoratesText platform) update.value).map
      (Entry.about update.name update.value)
  closes : entries.getLast? = some last
  loss_iff : last.outcome.isLoss = true ↔ key.group ≠ .mouseEvents ∧ calls = []
  loss : last.outcome.isLoss = true → entries = [last] ∧ after.node = before.node ∧
    after.view = before.view ∧ after.shared.defaultBorder = before.shared.defaultBorder
  mismatch : ∀ entry ∈ entries, ∀ kind, entry.outcome = .typeMismatch kind →
    kind = update.value.kind ∧ key.group ≠ .cornerRadius ∧ key.group ≠ .mouseEvents
  unsupported : (∃ entry ∈ entries, entry.outcome = .unsupported) ↔
    key = .textDecorationLine ∧ before.decoratesText platform = false
  unrecognized : last.outcome = .unrecognizedToken ↔ key = .orientation ∧
    ∃ token, update.value = .text token ∧ token ≠ "horizontal" ∧ token ≠ "vertical"
  effect : last.outcome.isLoss = false →
    (last.outcome = .applied ∨ last.outcome = .cleared ∨ last.outcome = .defaultBorderBrush) ∧
      (key.group ≠ .mouseEvents → ∃ change, Call.change change ∈ calls)
  mouse : ∀ event, key = .mouse event → last.outcome = .applied ∧ calls = [] ∧
    after.view = before.view ∧ after.shared.defaultBorder = before.shared.defaultBorder ∧
    ∃ interest, after.node = { before.node with mouse := interest } ∧
      ∀ other, interest.wants other =
        if event = other then update.value.isTruthy else before.node.mouse.wants other
  token : ∀ entry ∈ entries, entry.property = update.name ∧
    (entry.token.isSome = true ↔ entry.outcome = .unrecognizedToken) ∧
    ∀ token, entry.token = some token → update.value = .text token

theorem Value.strays_orientation_iff (value : Value) :
    value.strays Orientation.ofToken? = true ↔
      ∃ token, value = .text token ∧ token ≠ "horizontal" ∧ token ≠ "vertical" := by
  cases value with
  | text token =>
      have unknown : Orientation.ofToken? token = none ↔
          token ≠ "horizontal" ∧ token ≠ "vertical" := by
        unfold Orientation.ofToken?
        split <;> simp_all
      simp [unknown]
  | null | bool | number => simp [Value.strays, Value.text?]

namespace Key

variable {platform : Platform} (scene : Scene) (update : Update) {key : Key}

theorem mem_outcomes {view : View} {decoratesText : Bool} {value : Value} {outcome : Outcome}
    (member : outcome ∈ key.outcomes view decoratesText value) :
    outcome = key.closing view decoratesText value ∨ outcome = .applied ∨
      outcome = .unrecognizedToken ∧ value.kind = .text := by
  rcases List.mem_append.mp member with among | last
  · exact .inr (eq_of_mem_opening among)
  · exact .inl (List.mem_singleton.mp last)

/-- Where an outcome says that a text was no token, that text was given and is on record. -/
theorem token_about {view : View} {decoratesText : Bool} {value : Value} {outcome : Outcome}
    (property : String) (member : outcome ∈ key.outcomes view decoratesText value) :
    ((Entry.about property value outcome).token.isSome = true ↔ outcome = .unrecognizedToken) ∧
      ∀ token, (Entry.about property value outcome).token = some token → value = .text token := by
  by_cases unrecognized : outcome = .unrecognizedToken
  · have isText : value.kind = .text := by
      rcases mem_outcomes member with closing | applied | ⟨-, isText⟩
      · have closed := closing.symm.trans unrecognized
        exact Value.isText_of_strays (closing_eq_unrecognizedToken_iff.mp closed).2
      · cases applied.symm.trans unrecognized
      · exact isText
    cases value with
    | text token => simp [Entry.about, unrecognized, Value.text?]
    | null | bool | number => cases isText
  · simp [Entry.about, unrecognized]

theorem told_of_noMouse (keeps : platform.keepsJournal = true)
    (noMouse : key.group ≠ .mouseEvents) :
    ∃ calls entries last,
      Told key platform update scene (scene.carryOut platform key update) calls entries last := by
  let actions := key.actions platform scene update.value ++ key.group.followUp
  let closing := key.closing scene.view (scene.decoratesText platform) update.value
  let outcomes := key.outcomes scene.view (scene.decoratesText platform) update.value
  let calls := Action.calls platform (scene.defaultBorder platform) scene.node actions
  have closes := key.closes platform scene update.name update.value noMouse
  have quiet (loss : closing.isLoss = true) : calls = [] :=
    Action.calls_of_quiet platform _ scene.node (closes.quiet loss)
  have called (noLoss : closing.isLoss = false) : ∃ change, Call.change change ∈ calls :=
    Action.exists_change_of_call platform _ scene.node (closes.calls noLoss)
  have puts : scene.Puts (scene.carryOut platform key update) calls
      (outcomes.map (Entry.about update.name update.value)) := by
    have all := scene.performAll_puts platform update.name actions
    rwa [closes.recorded, Scene.kept, if_pos keeps] at all
  refine ⟨calls, _, .about update.name update.value closing, puts, rfl, ?closes, ?lossIff,
    ?loss, ?mismatch, ?unsupported, ?unrecognized, ?effect, ?mouse, ?token⟩
  case closes => simp [outcomes, Key.outcomes, closing]
  case lossIff =>
    refine ⟨fun loss => ⟨noMouse, quiet loss⟩, fun silent => ?_⟩
    cases decided : closing.isLoss with
    | true => exact decided
    | false =>
        obtain ⟨change, member⟩ := called decided
        rw [silent.2] at member
        cases member
  case loss =>
    intro loss
    have alone := opening_of_loss loss
    have kept := scene.performAll_of_quiet platform update.name (closes.quiet loss)
    refine ⟨?_, kept⟩
    simp only [outcomes, Key.outcomes, alone, List.nil_append, List.map_cons, List.map_nil, closing]
  case mismatch =>
    intro entry member kind isMismatch
    obtain ⟨outcome, among, rfl⟩ := List.mem_map.mp member
    rcases mem_outcomes among with rfl | rfl | ⟨rfl, -⟩
    · exact closing_eq_typeMismatch isMismatch
    · cases isMismatch
    · cases isMismatch
  case unsupported =>
    rw [← closing_eq_unsupported_iff]
    constructor
    · rintro ⟨entry, member, isUnsupported⟩
      obtain ⟨outcome, among, rfl⟩ := List.mem_map.mp member
      rcases mem_outcomes among with rfl | rfl | ⟨rfl, -⟩
      · exact isUnsupported
      · cases isUnsupported
      · cases isUnsupported
    · intro isUnsupported
      exact ⟨_, List.mem_map_of_mem (List.mem_append_right _ List.mem_cons_self), isUnsupported⟩
  case unrecognized =>
    rw [Entry.about_outcome, ← update.value.strays_orientation_iff]
    exact closing_eq_unrecognizedToken_iff
  case effect =>
    intro noLoss
    refine ⟨?_, fun _ => called noLoss⟩
    rw [Entry.about_outcome] at noLoss ⊢
    cases decided : closing with
    | applied | cleared | defaultBorderBrush => simp
    | typeMismatch | unrecognizedToken | unsupported =>
        rw [decided] at noLoss
        cases noLoss
  case mouse =>
    rintro event rfl
    exact absurd rfl noMouse
  case token =>
    intro entry member
    obtain ⟨outcome, among, rfl⟩ := List.mem_map.mp member
    exact ⟨rfl, token_about update.name among⟩

theorem told_mouse (event : MouseEvent) (keeps : platform.keepsJournal = true) :
    ∃ calls entries last,
      Told (.mouse event) platform update scene
        (scene.carryOut platform (.mouse event) update) calls entries last := by
  let entry : Entry := ⟨update.name, .applied, none⟩
  let interest := scene.node.mouse.set update.value.isTruthy event
  have after : scene.carryOut platform (.mouse event) update =
      { scene with
        node.mouse := interest
        shared.journal := scene.shared.journal.record entry } := by
    simp [Scene.carryOut, actions, Handler.mouseEvent, group, Group.followUp, Scene.performAll,
      Scene.perform, Scene.record, keeps, interest, entry, Node.write]
  have only {found : Entry} (member : found ∈ [entry]) : found = entry :=
    List.mem_singleton.mp member
  refine ⟨[], [entry], entry, ?_⟩
  rw [after]
  refine ⟨⟨(List.append_nil _).symm, rfl⟩, rfl, rfl, ?lossIff, fun loss => ?loss, ?mismatch,
    ?unsupported, ?unrecognized, fun _ => ⟨.inl rfl, fun noMouse => absurd rfl noMouse⟩, ?mouse,
    ?token⟩
  case lossIff =>
    constructor
    · intro loss
      cases loss
    · rintro ⟨noMouse, -⟩
      exact absurd rfl noMouse
  case loss => cases loss
  case mismatch =>
    intro found member kind isMismatch
    cases only member
    cases isMismatch
  case unsupported =>
    constructor
    · rintro ⟨found, member, isUnsupported⟩
      cases only member
      cases isUnsupported
    · rintro ⟨isDecoration, -⟩
      cases isDecoration
  case unrecognized =>
    constructor
    · intro isUnrecognized
      cases isUnrecognized
    · rintro ⟨isOrientation, -⟩
      cases isOrientation
  case mouse =>
    rintro _ ⟨⟩
    exact ⟨rfl, rfl, rfl, rfl, interest, rfl, scene.node.mouse.wants_set _ event⟩
  case token =>
    intro found member
    cases only member
    simp [entry]

end Key

namespace Chain

variable {platform : Platform} (scene : Scene) (update : Update)

theorem apply_told (chain : Chain) (keeps : platform.keepsJournal = true)
    (taken : (chain.apply platform scene update).1.isSome = true) :
    ∃ key, Key.ofName? update.name = some key ∧
      ∃ calls entries last,
        Told key platform update scene (chain.apply platform scene update).2 calls entries
          last := by
  cases found : chain.property? update with
  | none =>
      rw [chain.apply_of_no_property platform scene update found] at taken
      cases taken
  | some key =>
      rw [chain.apply_of_property platform scene update found]
      refine ⟨key, ((chain.property?_eq_some_iff update key).mp found).1, ?_⟩
      by_cases isMouse : key.group = .mouseEvents
      · cases key with
        | mouse event => exact Key.told_mouse scene update event keeps
        | _ => cases isMouse
      · exact Key.told_of_noMouse scene update keeps isMouse

/-- Where text cannot be decorated, not even taking a decoration away is a change. -/
theorem apply_told_null_decoration :
    let chain := ofList [.padding, .textDecoration]
    let platform : Platform := { decoratesText := false, keepsJournal := true }
    let update : Update := ⟨"textDecorationLine", .null⟩
    let entry : Entry := ⟨"textDecorationLine", .unsupported, none⟩
    platform.keepsJournal = true ∧ (chain.apply platform {} update).1.isSome = true ∧
      Told .textDecorationLine platform update {} (chain.apply platform {} update).2 [] [entry]
        entry := by
  intro chain platform update entry
  have taken : (chain.apply platform {} update).1.isSome = true := by decide +kernel
  refine ⟨rfl, taken, ?_⟩
  obtain ⟨key, known, calls, entries, last, told⟩ := chain.apply_told {} update rfl taken
  have isDecoration : Key.textDecorationLine = key :=
    Option.some.inj ((show Key.ofName? update.name = _ by decide +kernel).symm.trans known)
  have noCalls : [] = calls :=
    (show (chain.apply platform {} update).2.calls = [] by decide +kernel).symm.trans
      told.puts.calls
  have oneEntry : [entry] = entries :=
    (show (chain.apply platform {} update).2.shared.journal.entries = [entry] by
      decide +kernel).symm.trans told.puts.entries
  subst isDecoration noCalls oneEntry
  cases told.closes
  exact told

end Chain

end ViewStyle
