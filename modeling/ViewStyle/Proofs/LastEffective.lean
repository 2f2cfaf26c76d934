import ViewStyle.Proofs.LastWrite
import ViewStyle.Proofs.PackedColors

/-!
# The last effective value

A property without slots takes values of some kinds and passes all others over. Main statement:
through a batch, each such property of a view ends as the last value reads that it took, or as it
began; what it passed over in between has no effect. Texts are read by a list of tokens, and each
property says what it makes of a text that is not listed. Colours and spacings are told by the
integer part of their number, sizes by the number itself.
-/

set_option autoImplicit false

namespace ViewStyle

theorem lookup_of_unlisted {α : Type} {tokens : List (String × α)} {token : String}
    (unlisted : ∀ listed ∈ tokens.map Prod.fst, token ≠ listed) : tokens.lookup token = none := by
  refine List.lookup_eq_none_iff.mpr fun entry member => ?_
  simpa using unlisted entry.1 (List.mem_map_of_mem member)

namespace FontWeight

def tokens : List (String × Nat) :=
  [("normal", 400), ("bold", 700), ("100", 100), ("200", 200), ("300", 300), ("400", 400),
    ("500", 500), ("600", 600), ("700", 700), ("800", 800), ("900", 900)]

theorem value_ofToken? (token : String) :
    ((ofToken? token).getD normal).value = (tokens.lookup token).getD 400 := by
  unfold ofToken?
  split
  case h_12 =>
      rw [lookup_of_unlisted (by simp_all [tokens])]
      rfl
  all_goals rfl

/-- The weights that tokens ask for. -/
def hundreds : List Nat := [100, 200, 300, 400, 500, 600, 700, 800, 900]

theorem value_mem_hundreds (token : String) :
    ((ofToken? token).getD normal).value ∈ hundreds := by
  unfold ofToken?
  split <;> decide

end FontWeight

namespace FontStyle

def tokens : List (String × FontStyle) := [("italic", .italic)]

theorem ofToken_eq (token : String) : ofToken token = (tokens.lookup token).getD .normal := by
  unfold ofToken
  split
  · next listed =>
      rw [listed]
      rfl
  · next unlisted =>
      rw [lookup_of_unlisted (by simpa [tokens] using unlisted)]
      rfl

end FontStyle

namespace TextAlignment

def tokens : List (String × TextAlignment) :=
  [("left", .left), ("center", .center), ("right", .right), ("justify", .justify)]

theorem ofToken_eq (token : String) :
    ofToken token = (tokens.lookup token).getD .detectFromContent := by
  unfold ofToken
  split
  case h_5 =>
      rw [lookup_of_unlisted (by simp_all [tokens])]
      rfl
  all_goals rfl

end TextAlignment

namespace TextTrimming

def tokens : List (String × TextTrimming) :=
  [("clip", .clip), ("head", .characterEllipsis), ("middle", .characterEllipsis),
    ("tail", .characterEllipsis)]

theorem ofToken_eq (token : String) : ofToken token = (tokens.lookup token).getD .none := by
  unfold ofToken
  split
  case h_5 =>
      rw [lookup_of_unlisted (by simp_all [tokens])]
      rfl
  all_goals rfl

end TextTrimming

namespace TextDecorations

def tokens : List (String × TextDecorations) :=
  [("underline", ⟨true, false⟩), ("line-through", ⟨false, true⟩),
    ("underline line-through", ⟨true, true⟩)]

theorem ofToken_eq (token : String) :
    ofToken token = (tokens.lookup token).getD ⟨false, false⟩ := by
  unfold ofToken
  split
  case h_4 =>
      rw [lookup_of_unlisted (by simp_all [tokens])]
      rfl
  all_goals rfl

end TextDecorations

namespace FlowDirection

def tokens : List (String × FlowDirection) := [("ltr", .leftToRight), ("rtl", .rightToLeft)]

theorem ofToken?_eq (token : String) : ofToken? token = tokens.lookup token := by
  unfold ofToken?
  split
  case h_3 => rw [lookup_of_unlisted (by simp_all [tokens])]
  all_goals rfl

end FlowDirection

namespace Orientation

def tokens : List (String × Orientation) := [("horizontal", .horizontal), ("vertical", .vertical)]

theorem ofToken?_eq (token : String) : ofToken? token = tokens.lookup token := by
  unfold ofToken?
  split
  case h_3 => rw [lookup_of_unlisted (by simp_all [tokens])]
  all_goals rfl

end Orientation

namespace Value

/-- Whether a property of numbers takes a value. -/
def takenAsNumber : Value → Bool
  | null | number _ => true
  | bool _ | text _ => false

/-- Whether a property of texts takes a value. -/
def takenAsText : Value → Bool
  | null | text _ => true
  | bool _ | number _ => false

/-- What the text of a value stands for by a list of tokens, and what any other text does. -/
def token? {α : Type} (tokens : List (String × α)) (other : Option α) (value : Value) : Option α :=
  value.text?.bind fun token => (tokens.lookup token).or other

section Settled

variable {α : Type} (value : Value)

theorem settled?_number (read : Binary64 → α) :
    value.settled? (fun value => value.number?.map read) =
      if value.takenAsNumber then some (value.number?.map read) else none := by
  cases value <;> rfl

theorem settled?_text (read : String → α) :
    value.settled? (fun value => value.text?.map read) =
      if value.takenAsText then some (value.text?.map read) else none := by
  cases value <;> rfl

theorem text?_map_eq {tokens : List (String × α)} {other : α} {read : String → α}
    (listed : ∀ token, read token = (tokens.lookup token).getD other) :
    value.text?.map read = value.token? tokens (some other) := by
  cases value with
  | text token =>
      simp only [text?, token?, Option.map_some, Option.bind_some, listed]
      cases tokens.lookup token <;> rfl
  | _ => rfl

theorem direction?_eq : value.direction? =
    if value.takenAsText then some (value.token? FlowDirection.tokens none) else none := by
  cases value with
  | text token =>
      simp only [direction?, FlowDirection.ofToken?_eq, token?, text?, Option.bind_some,
        Option.or_none]
      rfl
  | _ => rfl

/-- Whether the orientation takes a value: no value, or one of its tokens. -/
def orients : Value → Bool
  | null => true
  | text token => token == "horizontal" || token == "vertical"
  | bool _ | number _ => false

theorem orientation?_eq : value.orientation? =
    if value.orients then some (value.token? Orientation.tokens none) else none := by
  cases value with
  | text token =>
      simp only [orientation?, orients, Orientation.ofToken?_eq, token?, text?, Option.bind_some,
        Option.or_none]
      by_cases horizontal : token = "horizontal"
      · subst horizontal
        rfl
      · by_cases vertical : token = "vertical"
        · subst vertical
          rfl
        · rw [lookup_of_unlisted (by simp [Orientation.tokens, horizontal, vertical])]
          simp [horizontal, vertical]
  | _ => rfl

end Settled

end Value

/-- A field of a view that the changes of one property write, and no others. -/
structure View.Field (α : Type) where
  key : Key
  read : View → Option α
  write : Option α → Change
  read_plain : ∀ view : View, read view.plain = read view := by
    intro view
    rfl
  read_write : ∀ (view : View) content, read (view.change (write content)) = content := by
    intro view content
    rfl
  read_other : ∀ (view : View) (made : Change), made.subject? ≠ some key →
      read (view.change made) = read view := by
    intro view made other
    cases made with
    | brush paint => cases paint <;> simp_all [Change.subject?, View.change, View.setBrush]
    | _ => simp_all [Change.subject?, View.change]

namespace View.Field

def background : Field Brush where
  key := .backgroundColor
  read := View.background
  write := .brush .background

def foreground : Field Brush where
  key := .color
  read := View.foreground
  write := .brush .foreground

def fontSize : Field Binary64 where
  key := .fontSize
  read := View.fontSize
  write := .fontSize

def fontFamily : Field String where
  key := .fontFamily
  read := View.fontFamily
  write := .fontFamily

def fontWeight : Field FontWeight where
  key := .fontWeight
  read := View.fontWeight
  write := .fontWeight

def fontStyle : Field FontStyle where
  key := .fontStyle
  read := View.fontStyle
  write := .fontStyle

def textAlignment : Field TextAlignment where
  key := .textAlign
  read := View.textAlignment
  write := .textAlignment

def textTrimming : Field TextTrimming where
  key := .ellipsizeMode
  read := View.textTrimming
  write := .textTrimming

def textDecorations : Field TextDecorations where
  key := .textDecorationLine
  read := View.textDecorations
  write := .textDecorations

def flowDirection : Field FlowDirection where
  key := .direction
  read := View.flowDirection
  write := .flowDirection

def characterSpacing : Field Int32 where
  key := .characterSpacing
  read := View.characterSpacing
  write := .characterSpacing

def orientation : Field Orientation where
  key := .orientation
  read := View.orientation
  write := .orientation

section Read

variable {α : Type} (field : Field α) {decorates : Bool} {takes : Value → Bool}
  {content : Value → Option α}

/-- How a value that comes to a property leaves a field, where the field's own property takes some
values and passes the others over. -/
theorem read_elim_change?
    (settles : ∀ value, field.key.change? decorates value =
      if takes value then some (field.write (content value)) else none)
    (key : Key) (value : Value) (view : View) :
    field.read ((key.change? decorates value).elim view view.change) =
      if key = field.key ∧ takes value = true then content value else field.read view := by
  by_cases own : key = field.key
  · subst own
    rw [settles]
    cases taken : takes value with
    | true => simp [field.read_write]
    | false => simp
  · rw [if_neg fun both => own both.1]
    cases changes : key.change? decorates value with
    | none => rfl
    | some made =>
        refine field.read_other view made ?_
        rw [Key.subject?_of_change? changes]
        intro same
        exact own (Option.some.inj same)

theorem read_applyAll (chain : Chain) (platform : Platform) (before : Scene) (batch : List Update)
    (settles : ∀ value, field.key.change? (before.decoratesText platform) value =
      if takes value then some (field.write (content value)) else none) :
    field.read (chain.applyAll platform before batch).2.view =
      chain.lastAccepted field.key takes content (field.read before.view) batch := by
  have last := chain.applyAll_lastAccepted platform before batch
    (fun parts => field.read parts.plain)
    fun key value parts => field.read_elim_change? settles key value parts.plain
  have plain (scene : Scene) : field.read scene.parts.plain = field.read scene.view :=
    field.read_plain scene.view
  simpa only [plain] using last

end Read

end View.Field

namespace Chain

section Last

variable {α β : Type} (chain : Chain) {key : Key} {takes : Value → Bool} {content : Value → α}
  {initial : α} {batch : List Update}

theorem map_lastAccepted (read : α → β) :
    read (chain.lastAccepted key takes content initial batch) =
      chain.lastAccepted key takes (fun value => read (content value)) (read initial) batch := by
  unfold lastAccepted
  cases ((chain.received key batch).filter takes).getLast? <;> rfl

/-- What a batch ends with was there before, or was given. -/
theorem lastAccepted_eq_or :
    chain.lastAccepted key takes content initial batch = initial ∨
      ∃ value, chain.lastAccepted key takes content initial batch = content value := by
  unfold lastAccepted
  cases ((chain.received key batch).filter takes).getLast? with
  | none => exact .inl rfl
  | some value => exact .inr ⟨value, rfl⟩

end Last

end Chain

theorem Brush.ofNumber_readsWhole : Binary64.ReadsWhole ofNumber Packs :=
  Binary64.readsWhole_of_told fun _ _ truncates => packs_ofNumber truncates

/-- A spacing is held to the range of its word and does not wrap around. -/
theorem Handler.spacing_readsWhole :
    Binary64.ReadsWhole (fun x => (spacing x).toInt)
      fun n units => units = max (-2147483648) (min 2147483647 n) := by
  refine Binary64.readsWhole_of_told fun x n truncates => ?_
  have least : Int32.minValue.toInt = -2147483648 := by decide
  have most : Int32.maxValue.toInt = 2147483647 := by decide
  simp only [spacing, Binary64.truncateWithin, ← truncates.eq_truncate, least, most]
  exact Int32.toInt_ofInt_of_le (by omega) (by omega)

/-- How the properties without slots stand after a batch has gone through a chain. No value takes a
property back to the toolkit's default. -/
structure Scene.Settles (decorates : Bool) (chain : Chain) (batch : List Update)
    (before after : Scene) : Prop where
  background : ∃ read, Binary64.ReadsWhole read Brush.Packs ∧ after.view.background =
    chain.lastAccepted .backgroundColor Value.takenAsNumber (fun value => value.number?.map read)
      before.view.background batch
  foreground : ∃ read, Binary64.ReadsWhole read Brush.Packs ∧ after.view.foreground =
    chain.lastAccepted .color Value.takenAsNumber (fun value => value.number?.map read)
      before.view.foreground batch
  fontSize : after.view.fontSize =
    chain.lastAccepted .fontSize Value.takenAsNumber Value.number?
      before.view.fontSize batch
  fontFamily : after.view.fontFamily =
    chain.lastAccepted .fontFamily Value.takenAsText Value.text?
      before.view.fontFamily batch
  fontWeight : after.view.fontWeight.map FontWeight.value =
    chain.lastAccepted .fontWeight Value.takenAsText
      (Value.token? FontWeight.tokens (some 400)) (before.view.fontWeight.map FontWeight.value)
      batch
  /-- A weight that the batch has set is one that a token asks for. -/
  setWeight : ∀ weight, after.view.fontWeight = some weight →
    before.view.fontWeight = some weight ∨ weight.value ∈ FontWeight.hundreds
  fontStyle : after.view.fontStyle =
    chain.lastAccepted .fontStyle Value.takenAsText
      (Value.token? FontStyle.tokens (some .normal)) before.view.fontStyle batch
  textAlignment : after.view.textAlignment =
    chain.lastAccepted .textAlign Value.takenAsText
      (Value.token? TextAlignment.tokens (some .detectFromContent)) before.view.textAlignment batch
  textTrimming : after.view.textTrimming =
    chain.lastAccepted .ellipsizeMode Value.takenAsText
      (Value.token? TextTrimming.tokens (some .none)) before.view.textTrimming batch
  textDecorations : after.view.textDecorations =
    chain.lastAccepted .textDecorationLine (fun value => decorates && value.takenAsText)
      (Value.token? TextDecorations.tokens (some ⟨false, false⟩)) before.view.textDecorations batch
  flowDirection : after.view.flowDirection =
    chain.lastAccepted .direction Value.takenAsText
      (Value.token? FlowDirection.tokens none) before.view.flowDirection batch
  characterSpacing : ∃ read,
    Binary64.ReadsWhole read (fun n units => units = max (-2147483648) (min 2147483647 n)) ∧
      after.view.characterSpacing.map Int32.toInt =
        chain.lastAccepted .characterSpacing Value.takenAsNumber
          (fun value => value.number?.map read) (before.view.characterSpacing.map Int32.toInt) batch
  orientation : after.view.orientation =
    chain.lastAccepted .orientation Value.orients (Value.token? Orientation.tokens none)
      before.view.orientation batch

namespace Key

section Settling

variable (decorates : Bool) (value : Value)

/-- A property that takes texts is settled by what their tokens stand for. -/
theorem map_settled?_text {α : Type} {tokens : List (String × α)} {other : α} {read : String → α}
    (listed : ∀ token, read token = (tokens.lookup token).getD other)
    (write : Option α → Change) :
    (value.settled? fun value => value.text?.map read).map write =
      if value.takenAsText then some (write (value.token? tokens (some other)))
      else none := by
  rw [Value.settled?_text, value.text?_map_eq listed]
  split <;> rfl

theorem map_settled?_number {α : Type} (read : Binary64 → α) (write : Option α → Change) :
    (value.settled? fun value => value.number?.map read).map write =
      if value.takenAsNumber then some (write (value.number?.map read)) else none := by
  rw [Value.settled?_number]
  split <;> rfl

end Settling

end Key

namespace Chain

theorem fontWeight_applyAll (chain : Chain) (platform : Platform) (before : Scene)
    (batch : List Update) :
    (chain.applyAll platform before batch).2.view.fontWeight =
      chain.lastAccepted .fontWeight Value.takenAsText Handler.fontWeight?
        before.view.fontWeight batch :=
  View.Field.fontWeight.read_applyAll chain platform before batch fun value => by
    cases value <;> rfl

/-- Each property without slots ends as the last value that it took reads, and as it began if it
took none. Text decorations take nothing where text cannot be decorated. -/
theorem applyAll_settles (chain : Chain) (platform : Platform) (before : Scene)
    (batch : List Update) :
    before.Settles (before.decoratesText platform) chain batch
      (chain.applyAll platform before batch).2 where
  background := by
    refine ⟨Brush.ofNumber, Brush.ofNumber_readsWhole, ?_⟩
    exact View.Field.background.read_applyAll chain platform before batch fun value =>
      Key.map_settled?_number value Brush.ofNumber _
  foreground := by
    refine ⟨Brush.ofNumber, Brush.ofNumber_readsWhole, ?_⟩
    exact View.Field.foreground.read_applyAll chain platform before batch fun value =>
      Key.map_settled?_number value Brush.ofNumber _
  fontSize := View.Field.fontSize.read_applyAll chain platform before batch fun value => by
    cases value <;> rfl
  fontFamily := View.Field.fontFamily.read_applyAll chain platform before batch fun value => by
    cases value <;> rfl
  fontWeight := by
    have weighed := chain.fontWeight_applyAll platform before batch
    have shown := (congrArg (Option.map FontWeight.value) weighed).trans
      (chain.map_lastAccepted (Option.map FontWeight.value))
    have read (value : Value) : (Handler.fontWeight? value).map FontWeight.value =
        value.token? FontWeight.tokens (some 400) := by
      rw [← value.text?_map_eq FontWeight.value_ofToken?, Handler.fontWeight?, Option.map_map]
      rfl
    simpa only [read] using shown
  setWeight := by
    intro weight isSet
    rw [chain.fontWeight_applyAll platform before batch] at isSet
    rcases chain.lastAccepted_eq_or with initial | ⟨value, given⟩
    · exact .inl (initial.symm.trans isSet)
    · rw [given] at isSet
      obtain ⟨token, -, rfl⟩ := Option.map_eq_some_iff.mp isSet
      exact .inr (FontWeight.value_mem_hundreds token)
  fontStyle := View.Field.fontStyle.read_applyAll chain platform before batch fun value =>
    Key.map_settled?_text value FontStyle.ofToken_eq _
  textAlignment := View.Field.textAlignment.read_applyAll chain platform before batch fun value =>
    Key.map_settled?_text value TextAlignment.ofToken_eq _
  textTrimming := View.Field.textTrimming.read_applyAll chain platform before batch fun value =>
    Key.map_settled?_text value TextTrimming.ofToken_eq _
  textDecorations := by
    -- The answer of the check is settled before the batch, so the cases are not split by values.
    refine View.Field.textDecorations.read_applyAll chain platform before batch fun value => ?_
    have decorated := Key.map_settled?_text value TextDecorations.ofToken_eq .textDecorations
    cases decorates : before.decoratesText platform with
    | false => rfl
    | true => exact decorated
  flowDirection := by
    refine View.Field.flowDirection.read_applyAll chain platform before batch fun value => ?_
    have directed := congrArg (Option.map Change.flowDirection) value.direction?_eq
    refine directed.trans ?_
    split <;> rfl
  characterSpacing := by
    have spaced := View.Field.characterSpacing.read_applyAll chain platform before batch
      fun value => Key.map_settled?_number value Handler.spacing _
    have shown := (congrArg (Option.map Int32.toInt) spaced).trans
      (chain.map_lastAccepted (Option.map Int32.toInt))
    simp only [Option.map_map] at shown
    exact ⟨_, Handler.spacing_readsWhole, shown⟩
  orientation := by
    refine View.Field.orientation.read_applyAll chain platform before batch fun value => ?_
    have oriented := congrArg (Option.map Change.orientation) value.orientation?_eq
    refine oriented.trans ?_
    split <;> rfl

/-- An orientation that is no token keeps the one before it; a direction that is none does not. -/
example :
    let chain := Chain.ofList [.flowDirection, .orientation]
    let view := (chain.applyAll {} {} [⟨"orientation", .text "vertical"⟩,
      ⟨"writingDirection", .text "rtl"⟩, ⟨"orientation", .text "diagonal"⟩,
      ⟨"direction", .text "sideways"⟩]).2.view
    view.orientation = some .vertical ∧ view.flowDirection = none := by
  decide +kernel

end Chain

end ViewStyle
