import ViewStyle.Proofs.BorderBrush
import ViewStyle.Proofs.Commutation
import ViewStyle.Proofs.LastEffective
import ViewStyle.Proofs.Losses

/-!
# Accounting for a batch

Main statement: a batch is recorded in blocks, one for each update and in their order. The block of
an update is empty where nothing takes the update, and is one entry for any other but two kinds: a
text that is no font weight, and a border width that brings the default brush, leave two.
-/

set_option autoImplicit false

namespace ViewStyle

namespace Update

/-- The update gives the weight of a font a text that is no weight. -/
def StraysAsWeight (update : Update) (token : String) : Prop :=
  Key.ofName? update.name = some .fontWeight ∧ update.value = .text token ∧
    token ∉ FontWeight.tokens.map Prod.fst

/-- The update gives an edge of the border a number other than zero, and finds no brush. -/
def BringsBrush (update : Update) (view : View) : Prop :=
  update.widensBorder = true ∧ view.borderBrush = none

end Update

namespace Entry

/-- Whether the entry reports a text that is no font weight. -/
def reportsWeight (entry : Entry) : Bool :=
  Key.ofName? entry.property == some .fontWeight && entry.outcome == .unrecognizedToken

/-- Whether the entry records that a border width has brought the default brush. -/
def recordsBrought (entry : Entry) : Bool :=
  (Key.ofName? entry.property).any Key.isBorderWidth && entry.outcome == .defaultBorderBrush

end Entry

theorem Value.strays_weight_iff (value : Value) :
    value.strays FontWeight.ofToken? = true ↔
      ∃ token, value = .text token ∧ token ∉ FontWeight.tokens.map Prod.fst := by
  cases value with
  | text token =>
      have unknown : FontWeight.ofToken? token = none ↔
          token ∉ FontWeight.tokens.map Prod.fst := by
        unfold FontWeight.ofToken?
        split <;> simp_all [FontWeight.tokens]
      simp [-List.mem_map, unknown]
  | null | bool | number => simp [Value.strays, Value.text?]

namespace Key

/-- The ways in which an update of a property can be recorded. -/
inductive Recorded (view : View) (decoratesText : Bool) (value : Value) :
    Key → List Outcome → Prop where
  | strayWeight (strays : value.strays FontWeight.ofToken? = true) :
      Recorded view decoratesText value .fontWeight [.unrecognizedToken, .applied]
  | broughtBrush (edge : Edge) (brings : value.wantsBrush view = true) :
      Recorded view decoratesText value (.borderWidth edge) [.applied, .defaultBorderBrush]
  | once (key : Key) (outcome : Outcome)
      (known : key = .fontWeight →
        value.strays FontWeight.ofToken? = false ∧ outcome ≠ .unrecognizedToken)
      (painted : key.isBorderWidth = true →
        value.wantsBrush view = false ∧ outcome ≠ .defaultBorderBrush) :
      Recorded view decoratesText value key [outcome]

theorem recorded_outcomes (key : Key) (view : View) (decoratesText : Bool) (value : Value) :
    key.Recorded view decoratesText value (key.outcomes view decoratesText value) := by
  cases key with
  | fontWeight =>
      cases strays : value.strays FontWeight.ofToken? with
      | true =>
          have applied := Value.outcomeAs_of_kind (Value.isText_of_strays strays)
          simp only [outcomes, opening, closing, strays, if_true, applied]
          exact .strayWeight strays
      | false =>
          simp only [outcomes, opening, strays, Bool.false_eq_true, if_false]
          refine .once _ _ (fun _ => ⟨strays, ?_⟩) (fun isWidth => ?_)
          · exact value.outcomeAs_ne_unrecognizedToken .text
          · cases isWidth
  | borderWidth edge =>
      cases brings : value.wantsBrush view with
      | true =>
          simp only [outcomes, opening, closing, brings, if_true]
          exact .broughtBrush edge brings
      | false =>
          simp only [outcomes, opening, closing, brings, Bool.false_eq_true, if_false]
          refine .once _ _ (fun isWeight => ?_) (fun _ => ⟨brings, ?_⟩)
          · cases isWeight
          · exact value.outcomeAs_ne_defaultBorderBrush .number
  | _ =>
      refine .once _ _ (fun isWeight => ?_) (fun isWidth => ?_)
      · cases isWeight
      · cases isWidth

/-- The journal gets an entry for each outcome of an update, of pointer events too. -/
theorem recorded_actions (key : Key) (platform : Platform) (scene : Scene) (property : String)
    (value : Value) :
    (key.actions platform scene value ++ key.group.followUp).filterMap
        (Action.recorded? property) =
      (key.outcomes scene.view (scene.decoratesText platform) value).map
        (Entry.about property value) := by
  by_cases isMouse : key.group = .mouseEvents
  · cases key with
    | mouse event => rfl
    | _ => cases isMouse
  · exact (key.closes platform scene property value isMouse).recorded

end Key

namespace Update

variable {update : Update} {key : Key}

theorem straysAsWeight_iff (known : Key.ofName? update.name = some key) :
    (∃ token, update.StraysAsWeight token) ↔
      key = .fontWeight ∧ update.value.strays FontWeight.ofToken? = true := by
  rw [Value.strays_weight_iff]
  constructor
  · rintro ⟨token, isWeight, isText, unlisted⟩
    exact ⟨Option.some.inj (known.symm.trans isWeight), token, isText, unlisted⟩
  · rintro ⟨rfl, token, isText, unlisted⟩
    exact ⟨token, known, isText, unlisted⟩

theorem bringsBrush_iff (known : Key.ofName? update.name = some key) (view : View) :
    update.BringsBrush view ↔
      key.isBorderWidth = true ∧ update.value.wantsBrush view = true := by
  unfold BringsBrush widensBorder Value.wantsBrush
  cases key with
  | borderWidth edge => simp [known, Key.isBorderWidth]
  | _ => simp [known, Key.isBorderWidth]

theorem border_of_widensBorder (widens : update.widensBorder = true) :
    ∃ edge, Key.ofName? update.name = some (.borderWidth edge) := by
  unfold widensBorder at widens
  split at widens
  · next edge known => exact ⟨edge, known⟩
  · cases widens

theorem StraysAsWeight.not_bringsBrush {token : String} (strays : update.StraysAsWeight token)
    (view : View) : ¬update.BringsBrush view := by
  rintro ⟨widens, -⟩
  obtain ⟨edge, known⟩ := border_of_widensBorder widens
  rw [strays.1] at known
  cases known

end Update

namespace Chain

/-- The block in which an update is recorded that a chain applies to a scene. -/
structure Block (chain : Chain) (platform : Platform) (met : Scene) (update : Update)
    (block : List Entry) : Prop where
  named : ∀ entry ∈ block, entry.property = update.name
  empty_iff : block = [] ↔ (chain.apply platform met update).1 = none
  two_iff : block.length = 2 ↔ (chain.apply platform met update).1.isSome = true ∧
    ((∃ token, update.StraysAsWeight token) ∨ update.BringsBrush met.view)
  weight : (chain.apply platform met update).1.isSome = true →
    ∀ token, update.StraysAsWeight token →
      block = [⟨update.name, .unrecognizedToken, some token⟩, ⟨update.name, .applied, none⟩]
  brush : (chain.apply platform met update).1.isSome = true → update.BringsBrush met.view →
    block = [⟨update.name, .applied, none⟩, ⟨update.name, .defaultBorderBrush, none⟩]
  one : (chain.apply platform met update).1.isSome = true →
    (∀ token, ¬update.StraysAsWeight token) → ¬update.BringsBrush met.view →
      ∃ entry, block = [entry] ∧ entry.reportsWeight = false ∧ entry.recordsBrought = false

variable (chain : Chain) {platform : Platform} (met : Scene) {update : Update}

theorem block_of_no_property (missing : chain.property? update = none) :
    chain.Block platform met update [] := by
  have passed := chain.apply_of_no_property platform met update missing
  constructor <;> simp [passed]

section Taken

variable {chain met} (taken : (chain.apply platform met update).1.isSome = true)

include taken

theorem block_of_strays {token : String} (strays : update.StraysAsWeight token) :
    chain.Block platform met update
      [⟨update.name, .unrecognizedToken, some token⟩, ⟨update.name, .applied, none⟩] where
  named := by simp
  empty_iff := iff_of_false (List.cons_ne_nil _ _) (Option.isSome_iff_ne_none.mp taken)
  two_iff := iff_of_true rfl ⟨taken, .inl ⟨token, strays⟩⟩
  weight _ other strayed := by
    have same : Value.text token = .text other := strays.2.1.symm.trans strayed.2.1
    cases same
    rfl
  brush _ brings := absurd brings (strays.not_bringsBrush met.view)
  one _ none := absurd strays (none token)

theorem block_of_bringsBrush (brings : update.BringsBrush met.view) :
    chain.Block platform met update
      [⟨update.name, .applied, none⟩, ⟨update.name, .defaultBorderBrush, none⟩] where
  named := by simp
  empty_iff := iff_of_false (List.cons_ne_nil _ _) (Option.isSome_iff_ne_none.mp taken)
  two_iff := iff_of_true rfl ⟨taken, .inr brings⟩
  weight _ _ strays := absurd brings (strays.not_bringsBrush met.view)
  brush _ _ := rfl
  one _ _ none := absurd brings none

theorem block_of_entry {entry : Entry} (unstrayed : ∀ token, ¬update.StraysAsWeight token)
    (unbrought : ¬update.BringsBrush met.view) (named : entry.property = update.name)
    (noReport : entry.reportsWeight = false) (noBrush : entry.recordsBrought = false) :
    chain.Block platform met update [entry] where
  named := by simp [named]
  empty_iff := iff_of_false (List.cons_ne_nil _ _) (Option.isSome_iff_ne_none.mp taken)
  two_iff := by simp [unstrayed, unbrought]
  weight _ token strays := absurd strays (unstrayed token)
  brush _ brings := absurd brings unbrought
  one _ _ _ := ⟨entry, rfl, noReport, noBrush⟩

end Taken

theorem block_of_property {key : Key} (found : chain.property? update = some key) :
    chain.Block platform met update
      ((key.outcomes met.view (met.decoratesText platform) update.value).map
        (Entry.about update.name update.value)) := by
  obtain ⟨known, -⟩ := (chain.property?_eq_some_iff update key).mp found
  have taken : (chain.apply platform met update).1.isSome = true := by
    rw [chain.apply_of_property platform met update found]
    rfl
  have strays := Update.straysAsWeight_iff known
  have brings := Update.bringsBrush_iff known met.view
  have recorded := key.recorded_outcomes met.view (met.decoratesText platform) update.value
  generalize key.outcomes met.view (met.decoratesText platform) update.value = outcomes at recorded
  cases recorded with
  | strayWeight isStray =>
      obtain ⟨token, stray⟩ := strays.mpr ⟨rfl, isStray⟩
      have entries : [Outcome.unrecognizedToken, .applied].map
          (Entry.about update.name update.value) =
            [⟨update.name, .unrecognizedToken, some token⟩, ⟨update.name, .applied, none⟩] := by
        simp [Entry.about, stray.2.1, Value.text?]
      rw [entries]
      exact block_of_strays taken stray
  | broughtBrush edge isBrought => exact block_of_bringsBrush taken (brings.mpr ⟨rfl, isBrought⟩)
  | once _ outcome ofWeight ofWidth =>
      have unstrayed : ∀ token, ¬update.StraysAsWeight token := by
        intro token stray
        obtain ⟨isWeight, isStray⟩ := strays.mp ⟨token, stray⟩
        rw [(ofWeight isWeight).1] at isStray
        cases isStray
      have unbrought : ¬update.BringsBrush met.view := by
        intro brought
        obtain ⟨isWidth, isBrought⟩ := brings.mp brought
        rw [(ofWidth isWidth).1] at isBrought
        cases isBrought
      refine block_of_entry taken unstrayed unbrought rfl ?report ?brush
      case report =>
        by_cases isWeight : key = .fontWeight
        · simp [Entry.reportsWeight, Entry.about, (ofWeight isWeight).2]
        · simp [Entry.reportsWeight, Entry.about, known, isWeight]
      case brush =>
        by_cases isWidth : key.isBorderWidth = true
        · simp [Entry.recordsBrought, Entry.about, (ofWidth isWidth).2]
        · simp [Entry.recordsBrought, Entry.about, known, isWidth]

/-- The extra entry of a block is the one that reports a weight or records a brush. -/
theorem Block.length_eq {chain : Chain} {met : Scene} {block : List Entry}
    (recorded : chain.Block platform met update block) :
    block.length = (if (chain.apply platform met update).1.isSome then 1 else 0) +
      block.countP Entry.reportsWeight + block.countP Entry.recordsBrought := by
  cases taker : (chain.apply platform met update).1 with
  | none =>
      rw [recorded.empty_iff.mpr taker]
      rfl
  | some group =>
      have taken : (chain.apply platform met update).1.isSome = true := by rw [taker]; rfl
      by_cases stray : ∃ token, update.StraysAsWeight token
      · obtain ⟨token, stray⟩ := stray
        rw [recorded.weight taken token stray]
        simp [Entry.reportsWeight, Entry.recordsBrought, stray.1]
      · by_cases brought : update.BringsBrush met.view
        · obtain ⟨edge, known⟩ := Update.border_of_widensBorder brought.1
          rw [recorded.brush taken brought]
          simp [Entry.reportsWeight, Entry.recordsBrought, known, Key.isBorderWidth]
        · have unstray : ∀ token, ¬update.StraysAsWeight token := fun token is => stray ⟨token, is⟩
          obtain ⟨entry, alone, noReport, noBrush⟩ := recorded.one taken unstray brought
          rw [alone]
          simp [noReport, noBrush]

/-- The blocks in which a batch is recorded, from the scene that it meets. -/
inductive Blocks (chain : Chain) (platform : Platform) :
    Scene → List Update → List (List Entry) → Prop where
  | nil (met : Scene) : Blocks chain platform met [] []
  | cons {met : Scene} {update : Update} {rest : List Update} {block : List Entry}
      {blocks : List (List Entry)} :
      chain.Block platform met update block →
      Blocks chain platform (chain.apply platform met update).2 rest blocks →
      Blocks chain platform met (update :: rest) (block :: blocks)

theorem apply_blocks (keeps : platform.keepsJournal = true) (update : Update) :
    ∃ block, chain.Block platform met update block ∧
      (chain.apply platform met update).2.shared.journal.entries =
        met.shared.journal.entries ++ block := by
  cases found : chain.property? update with
  | none =>
      refine ⟨[], chain.block_of_no_property met found, ?_⟩
      rw [chain.apply_of_no_property platform met update found, List.append_nil]
  | some key =>
      refine ⟨_, chain.block_of_property met found, ?_⟩
      have puts := met.performAll_puts platform update.name
        (key.actions platform met update.value ++ key.group.followUp)
      rw [chain.apply_of_property platform met update found, Scene.carryOut, puts.entries,
        Scene.kept, if_pos keeps, Key.recorded_actions]

theorem applyAll_blocks (keeps : platform.keepsJournal = true) (batch : List Update) :
    ∃ blocks, chain.Blocks platform met batch blocks ∧
      (chain.applyAll platform met batch).2.shared.journal.entries =
        met.shared.journal.entries ++ blocks.flatten := by
  induction batch generalizing met with
  | nil => exact ⟨[], .nil met, (List.append_nil _).symm⟩
  | cons update rest ih =>
      obtain ⟨block, first, entries⟩ := chain.apply_blocks met keeps update
      obtain ⟨blocks, later, laterEntries⟩ := ih (chain.apply platform met update).2
      refine ⟨block :: blocks, .cons first later, ?_⟩
      rw [List.flatten_cons, ← List.append_assoc, ← entries]
      exact laterEntries

theorem Blocks.length_flatten {chain : Chain} {met : Scene} {batch : List Update}
    {blocks : List (List Entry)} (recorded : chain.Blocks platform met batch blocks) :
    blocks.flatten.length = (chain.applyAll platform met batch).1 +
      blocks.flatten.countP Entry.reportsWeight + blocks.flatten.countP Entry.recordsBrought := by
  induction recorded with
  | nil => rfl
  | @cons met update rest block blocks first later ih =>
      have here := first.length_eq
      simp only [List.flatten_cons, List.length_append, List.countP_append, applyAll]
      omega

/-- A batch is recorded in blocks, one for each update and in their order. So the journal grows by
the number of updates taken, by the texts that are no font weights and by the default brushes that
border widths bring. -/
theorem applyAll_accounts (keeps : platform.keepsJournal = true) (batch : List Update) :
    ∃ blocks, chain.Blocks platform met batch blocks ∧
      (chain.applyAll platform met batch).2.shared.journal.entries =
        met.shared.journal.entries ++ blocks.flatten ∧
      (chain.applyAll platform met batch).2.shared.journal.size =
        met.shared.journal.size + (chain.applyAll platform met batch).1 +
          blocks.flatten.countP Entry.reportsWeight +
          blocks.flatten.countP Entry.recordsBrought := by
  obtain ⟨blocks, recorded, entries⟩ := chain.applyAll_blocks met keeps batch
  refine ⟨blocks, recorded, entries, ?_⟩
  have growth := recorded.length_flatten
  rw [Journal.size, Journal.size, entries, List.length_append]
  omega

/-- A width of minus one and then a null colour both bring the default brush, of which only the
first is an extra entry, as is the unknown weight. -/
theorem applyAll_accounts_two_default_brushes :
    let chain := ofList [.border, .font]
    let platform : Platform := { keepsJournal := true }
    let batch : List Update :=
      [⟨"fontWeight", .text "heavy"⟩, ⟨"margin", .null⟩, ⟨"borderTopWidth", .number .minusOne⟩,
        ⟨"borderLeftWidth", .number ⟨0x3FF0000000000000⟩⟩, ⟨"borderColor", .null⟩]
    let entries : List Entry :=
      [⟨"fontWeight", .unrecognizedToken, some "heavy"⟩, ⟨"fontWeight", .applied, none⟩,
        ⟨"borderTopWidth", .applied, none⟩, ⟨"borderTopWidth", .defaultBorderBrush, none⟩,
        ⟨"borderLeftWidth", .applied, none⟩, ⟨"borderColor", .defaultBorderBrush, none⟩]
    platform.keepsJournal = true ∧
    ∃ blocks, chain.Blocks platform {} batch blocks ∧ entries = blocks.flatten ∧
      entries.length = 4 + blocks.flatten.countP Entry.reportsWeight +
        blocks.flatten.countP Entry.recordsBrought := by
  intro chain platform batch entries
  have recorded : (chain.applyAll platform {} batch).2.shared.journal.entries = entries := by
    decide +kernel
  have count : (chain.applyAll platform {} batch).1 = 4 := by decide +kernel
  have keeps : platform.keepsJournal = true := rfl
  obtain ⟨blocks, inBlocks, written, size⟩ := chain.applyAll_accounts {} keeps batch
  refine ⟨keeps, blocks, inBlocks, recorded.symm.trans written, ?_⟩
  rw [Journal.size, recorded, count] at size
  rw [size]
  rfl

end Chain

end ViewStyle
