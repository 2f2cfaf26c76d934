import ViewStyle.Proofs.Accounting
import ViewStyle.Proofs.Handled

/-!
# Reports of unknown tokens

Three properties know a closed set of texts: the font weight, the orientation and the decoration
line. Main statement: of the texts outside of these sets, weights and orientations are reported
once each, and no decoration line is. A text that its property knows is never reported.
-/

set_option autoImplicit false

namespace ViewStyle

namespace Key

/-- The texts that a property knows, if they are a closed set. -/
def closedTokens? : Key → Option (List String)
  | fontWeight => some (FontWeight.tokens.map Prod.fst)
  | orientation => some (Orientation.tokens.map Prod.fst)
  | textDecorationLine => some ("none" :: TextDecorations.tokens.map Prod.fst)
  | _ => none

/-- Whether the property knows a closed set of texts and this is none of them. -/
def excludes (key : Key) (token : String) : Bool :=
  key.closedTokens?.any fun tokens => !tokens.contains token

theorem excludes_iff (key : Key) (token : String) :
    key.excludes token = true ↔
      ∃ tokens, key.closedTokens? = some tokens ∧ token ∉ tokens := by
  simp [excludes, Option.any_eq_true]

theorem excludes_fontWeight (token : String) :
    fontWeight.excludes token = (Value.text token).strays FontWeight.ofToken? := by
  rw [Bool.eq_iff_iff, excludes_iff, Value.strays_weight_iff]
  simp [closedTokens?]

theorem excludes_orientation (token : String) :
    orientation.excludes token = (Value.text token).strays Orientation.ofToken? := by
  rw [Bool.eq_iff_iff, excludes_iff, Value.strays_orientation_iff]
  simp [closedTokens?, Orientation.tokens]

/-- A text that is no decoration line asks for no line. -/
theorem ofToken_of_excludes {token : String}
    (unknown : textDecorationLine.excludes token = true) : TextDecorations.ofToken token = {} := by
  obtain ⟨_, ⟨⟩, unlisted⟩ := (excludes_iff _ token).mp unknown
  have apart : ∀ listed ∈ TextDecorations.tokens.map Prod.fst, token ≠ listed := by
    rintro listed member rfl
    exact unlisted (List.mem_cons_of_mem _ member)
  rw [TextDecorations.ofToken_eq, lookup_of_unlisted apart]
  rfl

/-- Of what is recorded for a text, a report is the first of two outcomes for the font weight, the
only one for the orientation, and nothing for any other property. -/
theorem reports_outcomes (key : Key) (view : View) (decoratesText : Bool) (token : String) :
    (key.outcomes view decoratesText (.text token)).filter (· == .unrecognizedToken) =
      if key.excludes token ∧ key ≠ .textDecorationLine then [.unrecognizedToken] else [] := by
  cases key with
  | fontWeight =>
      have applied : (Value.text token).outcomeAs .text = .applied := rfl
      simp only [outcomes, opening, closing, applied, excludes_fontWeight]
      cases (Value.text token).strays FontWeight.ofToken? <;> rfl
  | orientation =>
      have applied : (Value.text token).outcomeAs .text = .applied := rfl
      simp only [outcomes, opening, closing, applied, excludes_orientation]
      cases (Value.text token).strays Orientation.ofToken? <;> rfl
  | textDecorationLine =>
      rw [if_neg fun closed => closed.2 rfl]
      cases decoratesText <;> rfl
  | direction =>
      simp only [outcomes, opening, closing]
      cases (Value.text token).strays FlowDirection.ofToken? <;> rfl
  | _ => rfl

end Key

/-- The entries that report a text as no token. -/
def Journal.reportsIn (entries : List Entry) : List Entry :=
  entries.filter fun entry => entry.outcome == .unrecognizedToken

theorem Journal.reportsIn_about (property token : String) (outcomes : List Outcome) :
    reportsIn (outcomes.map (Entry.about property (.text token))) =
      (outcomes.filter (· == .unrecognizedToken)).map fun outcome =>
        ⟨property, outcome, some token⟩ := by
  induction outcomes with
  | nil => rfl
  | cons outcome rest ih =>
      by_cases isReport : outcome = .unrecognizedToken
      · subst isReport
        simpa [reportsIn, Entry.about, Value.text?] using ih
      · simpa [reportsIn, isReport] using ih

/-- What follows the actions of a property within a chain is not recorded. -/
theorem Handling.recorded_actions (handling : Handling) (platform : Platform) (scene : Scene) :
    (handling.actions platform scene).filterMap (Action.recorded? handling.update.name) =
      (handling.key.outcomes scene.view (scene.decoratesText platform)
        handling.update.value).map (Entry.about handling.update.name handling.update.value) := by
  obtain ⟨key, update, chained⟩ := handling
  have unrecorded : key.group.followUp.filterMap (Action.recorded? update.name) = [] := by
    cases key.group <;> rfl
  rw [← key.recorded_actions platform scene update.name update.value, List.filterMap_append,
    unrecorded]
  cases chained with
  | true => simp only [actions, if_true, List.filterMap_append, unrecorded]
  | false => simp only [actions, Bool.false_eq_true, if_false, List.append_nil]

namespace Scene

/-- An update that comes to a scene is taken, by a chain or by a handler itself, and leaves another
scene. -/
inductive Takes (platform : Platform) (before : Scene) (update : Update) : Scene → Prop where
  | applied (chain : Chain) (taken : (chain.apply platform before update).1.isSome = true) :
      Takes platform before update (chain.apply platform before update).2
  | offered (group : Group) (taken : (before.offer platform group.handler update).1 = true) :
      Takes platform before update (before.offer platform group.handler update).2

variable {platform : Platform} {before after : Scene} {update : Update}

theorem Takes.exists_handle (takes : before.Takes platform update after) :
    ∃ key chained, Key.ofName? update.name = some key ∧
      after = before.handle platform ⟨key, update, chained⟩ := by
  cases takes with
  | applied chain taken =>
      cases found : chain.property? update with
      | none =>
          rw [chain.apply_of_no_property platform before update found] at taken
          cases taken
      | some key =>
          obtain ⟨known, -⟩ := (chain.property?_eq_some_iff update key).mp found
          rw [chain.apply_of_property platform before update found]
          exact ⟨key, true, known, rfl⟩
  | offered group taken =>
      rcases offer_handler_cases platform update group with ⟨key, known, -, handled⟩ | passed
      · refine ⟨key, false, known, ?_⟩
        rw [handled before]
        simp only [handle, Handling.actions, Bool.false_eq_true, if_false, List.append_nil]
      · rw [passed before] at taken
        cases taken

/-- Where text can be decorated, a text that is no decoration line takes the lines away. -/
theorem handle_unknown_line {property token : String} (chained : Bool)
    (decorates : before.decoratesText platform = true)
    (unknown : Key.textDecorationLine.excludes token = true) :
    (before.handle platform
      ⟨.textDecorationLine, ⟨property, .text token⟩, chained⟩).view.textDecorations =
        some {} := by
  have actions :
      (⟨.textDecorationLine, ⟨property, .text token⟩, chained⟩ : Handling).actions platform before =
        [.askDecorations, .change (.textDecorations (some {})), .note .applied] := by
    simp [Handling.actions, Key.actions, Handler.decorationLine, Key.group, Group.followUp,
      decorates, Handler.settle, Value.text?, Key.ofToken_of_excludes unknown]
  rw [handle, actions, view_performAll]
  rfl

end Scene

/-- What is told of a text that a property is given, where `entries` are recorded for it. -/
structure Reads (key : Key) (platform : Platform) (property token : String)
    (before after : Scene) (entries : List Entry) : Prop where
  recorded : after.shared.journal.entries = before.shared.journal.entries ++ entries
  reports : Journal.reportsIn entries =
    if key.excludes token ∧ key ≠ .textDecorationLine then
      [⟨property, .unrecognizedToken, some token⟩]
    else []
  /-- The lines are gone, and the journal says no more than of a text that asks for that. -/
  unreported : key = .textDecorationLine → before.decoratesText platform = true →
    key.excludes token = true →
      entries = [⟨property, .applied, none⟩] ∧ after.view.textDecorations = some {}

/-- A text outside of the closed set of its property is reported, once and with that text, unless
the property is the decoration line: that one falls back to no line, and the journal does not tell.
No other text is reported. -/
theorem Scene.Takes.reports_unknown_tokens {platform : Platform} {before after : Scene}
    {property token : String} (keeps : platform.keepsJournal = true)
    (takes : before.Takes platform ⟨property, .text token⟩ after) :
    ∃ key, Key.ofName? property = some key ∧
      ∃ entries, Reads key platform property token before after entries := by
  obtain ⟨key, chained, known, rfl⟩ := takes.exists_handle
  let handling : Handling := ⟨key, ⟨property, .text token⟩, chained⟩
  let outcomes := key.outcomes before.view (before.decoratesText platform) (.text token)
  have puts := before.performAll_puts platform property (handling.actions platform before)
  rw [handling.recorded_actions platform before, kept, if_pos keeps] at puts
  refine ⟨key, known, outcomes.map (Entry.about property (.text token)), puts.entries, ?_, ?_⟩
  · rw [Journal.reportsIn_about, key.reports_outcomes]
    split <;> rfl
  · rintro rfl decorates unknown
    refine ⟨?_, handle_unknown_line chained decorates unknown⟩
    simp only [outcomes, decorates]
    rfl

/-- A handler outside of any chain reports an orientation with a capital. -/
theorem Scene.Takes.reports_capital_orientation :
    let platform : Platform := { keepsJournal := true }
    let after :=
      (offer platform Group.orientation.handler {} ⟨"orientation", .text "Vertical"⟩).2
    platform.keepsJournal = true ∧ Takes platform {} ⟨"orientation", .text "Vertical"⟩ after ∧
      Reads .orientation platform "orientation" "Vertical" {} after
        [⟨"orientation", .unrecognizedToken, some "Vertical"⟩] := by
  intro platform after
  have keeps : platform.keepsJournal = true := rfl
  have takes : Takes platform {} ⟨"orientation", .text "Vertical"⟩ after :=
    .offered .orientation (by decide +kernel)
  obtain ⟨key, known, entries, told⟩ := takes.reports_unknown_tokens keeps
  have isOrientation : Key.orientation = key :=
    Option.some.inj ((show Key.ofName? "orientation" = _ by decide +kernel).symm.trans known)
  have oneEntry : [⟨"orientation", .unrecognizedToken, some "Vertical"⟩] = entries :=
    (show after.shared.journal.entries = _ by decide +kernel).symm.trans told.recorded
  subst isOrientation oneEntry
  exact ⟨keeps, takes, told⟩

/-- A wavy line is none that is known; where text can be decorated it is recorded as applied, and
not reported. -/
theorem Scene.wavy_line_not_reported :
    let platform : Platform := { keepsJournal := true }
    let chain := Chain.ofList [.textDecoration]
    let applied := chain.apply platform {} ⟨"textDecorationLine", .text "wavy"⟩
    Scene.decoratesText {} platform = true ∧ applied.1 = some .textDecoration ∧
      Key.textDecorationLine.excludes "wavy" = true ∧
      ⟨"textDecorationLine", .unrecognizedToken, some "wavy"⟩ ∉
        applied.2.shared.journal.entries := by
  decide +kernel

end ViewStyle
