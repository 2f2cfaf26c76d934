import ViewStyle.Chain

/-!
# Dispatch by name

Offering an update to one group after the other comes to the same as looking its name up: at most
one group knows a name, and a group that does not know it leaves the scene alone. What a chain
does depends on the set of its groups and not on the order in which they were registered.
-/

set_option autoImplicit false

namespace ViewStyle

/-- The actions by which the handler of a property's group carries out an update of it. -/
def Key.actions (key : Key) (platform : Platform) (scene : Scene) (value : Value) :
    List Action :=
  match key with
  | .backgroundColor => Handler.paint .background value
  | .color => Handler.paint .foreground value
  | .borderColor => Handler.borderColor scene.view value
  | .borderWidth edge => Handler.borderWidth scene.view edge value
  | .padding edge => Handler.paddingWidth edge value
  | .borderRadius corner => Handler.radius corner value
  | .fontSize => Handler.fontSize value
  | .fontFamily => Handler.fontFamily value
  | .fontWeight => Handler.fontWeight value
  | .fontStyle => Handler.fontStyle value
  | .textAlign => Handler.textAlign value
  | .ellipsizeMode => Handler.ellipsizeMode value
  | .textDecorationLine => Handler.decorationLine (scene.decoratesText platform) value
  | .direction => Handler.direction value
  | .characterSpacing => Handler.letterSpacing value
  | .orientation => Handler.orient value
  | .mouse event => Handler.mouseEvent event value

namespace Group

variable (group : Group) (platform : Platform) (scene : Scene) (update : Update)

/-- A handler turns down every name that stands for no property of its group, whatever the value
and the scene. -/
theorem handler_of_foreign
    (foreign : ∀ key, Key.ofName? update.name = some key → key.group ≠ group) :
    group.handler platform scene update = none := by
  cases known : Key.ofName? update.name with
  | none =>
      cases group <;>
        simp only [handler, Handler.background, Handler.foreground, Handler.border,
          Handler.padding, Handler.cornerRadius, Handler.font, Handler.textAlignment,
          Handler.textTrimming, Handler.textDecoration, Handler.flowDirection,
          Handler.characterSpacing, Handler.orientation, Handler.mouseEvents, known]
  | some key =>
      have other := foreign key known
      cases group <;>
        simp only [handler, Handler.background, Handler.foreground, Handler.border,
          Handler.padding, Handler.cornerRadius, Handler.font, Handler.textAlignment,
          Handler.textTrimming, Handler.textDecoration, Handler.flowDirection,
          Handler.characterSpacing, Handler.orientation, Handler.mouseEvents, known] <;>
        cases key <;> simp [Key.group] at other ⊢

/-- A handler takes every name of its group's properties, whatever the value and the scene. -/
theorem handler_of_own {key : Key} (known : Key.ofName? update.name = some key) :
    key.group.handler platform scene update =
      some (key.actions platform scene update.value) := by
  cases key <;>
    simp only [Key.group, handler, Handler.background, Handler.foreground, Handler.border,
      Handler.padding, Handler.cornerRadius, Handler.font, Handler.textAlignment,
      Handler.textTrimming, Handler.textDecoration, Handler.flowDirection,
      Handler.characterSpacing, Handler.orientation, Handler.mouseEvents, Key.actions, known]

theorem ofName?_eq_some_iff (name : String) :
    Group.ofName? name = some group ↔
      ∃ key, Key.ofName? name = some key ∧ key.group = group := by
  simp [Group.ofName?]

end Group

namespace Scene

/-- What a chain makes of an update of a property that it handles. -/
def carryOut (platform : Platform) (scene : Scene) (key : Key) (update : Update) : Scene :=
  scene.performAll platform update.name
    (key.actions platform scene update.value ++ key.group.followUp)

variable (platform : Platform) (scene : Scene) (update : Update)

theorem offer_chained_of_own {key : Key} (known : Key.ofName? update.name = some key) :
    scene.offer platform key.group.chained update =
      (true, scene.carryOut platform key update) := by
  simp only [offer, Group.chained, Group.handler_of_own platform scene update known,
    Option.map_some, carryOut]

theorem offer_chained_of_foreign {group : Group}
    (foreign : ∀ key, Key.ofName? update.name = some key → key.group ≠ group) :
    scene.offer platform group.chained update = (false, scene) := by
  simp only [offer, Group.chained, Group.handler_of_foreign group platform scene update foreign,
    Option.map_none]

/-- A handler by itself carries out the actions of a property of its group, or leaves the scene
alone. -/
theorem offer_handler_cases (group : Group) :
    (∃ key, Key.ofName? update.name = some key ∧ key.group = group ∧
      ∀ scene : Scene, scene.offer platform group.handler update =
        (true, scene.performAll platform update.name
          (key.actions platform scene update.value))) ∨
    ∀ scene : Scene, scene.offer platform group.handler update = (false, scene) := by
  by_cases own : Group.ofName? update.name = some group
  · obtain ⟨key, known, rfl⟩ := (Group.ofName?_eq_some_iff group update.name).mp own
    refine .inl ⟨key, known, rfl, fun scene => ?_⟩
    simp only [offer, Group.handler_of_own platform scene update known]
  · have foreign : ∀ key, Key.ofName? update.name = some key → key.group ≠ group :=
      fun key known equal => own ((Group.ofName?_eq_some_iff group update.name).mpr
        ⟨key, known, equal⟩)
    refine .inr fun scene => ?_
    simp only [offer, Group.handler_of_foreign group platform scene update foreign]

end Scene

namespace Chain

/-- The property that an update is of, if the chain has its group. -/
def property? (chain : Chain) (update : Update) : Option Key :=
  (Key.ofName? update.name).filter fun key => key.group ∈ chain.groups

theorem property?_eq_some_iff (chain : Chain) (update : Update) (key : Key) :
    chain.property? update = some key ↔
      Key.ofName? update.name = some key ∧ key.group ∈ chain.groups := by
  simp [property?]

theorem property?_isSome_iff (chain : Chain) (update : Update) :
    (chain.property? update).isSome = true ↔
      ∃ group ∈ chain.groups, Group.ofName? update.name = some group := by
  simp only [Option.isSome_iff_exists, property?_eq_some_iff, Group.ofName?_eq_some_iff]
  constructor
  · rintro ⟨key, known, member⟩
    exact ⟨key.group, member, key, known, rfl⟩
  · rintro ⟨_, member, key, known, rfl⟩
    exact ⟨key, known, member⟩

/-- Trial ends at the group of the property, wherever it stands among the others. -/
theorem offerEach_of_mem (platform : Platform) (scene : Scene) (update : Update) {key : Key}
    (known : Key.ofName? update.name = some key) (groups : List Group)
    (member : key.group ∈ groups) :
    offerEach platform scene update groups =
      (some key.group, scene.carryOut platform key update) := by
  induction groups with
  | nil => cases member
  | cons group rest ih =>
      by_cases own : key.group = group
      · subst own
        simp only [offerEach, Scene.offer_chained_of_own platform scene update known]
      · have foreign : ∀ other, Key.ofName? update.name = some other → other.group ≠ group := by
          intro other found
          rw [known] at found
          cases found
          exact own
        have later : key.group ∈ rest := (List.mem_cons.mp member).resolve_left own
        simp only [offerEach, Scene.offer_chained_of_foreign platform scene update foreign]
        exact ih later

/-- Trial passes by groups that do not know the name, and leaves the scene to the next as it was. -/
theorem offerEach_of_foreign (platform : Platform) (scene : Scene) (update : Update)
    (groups : List Group)
    (foreign : ∀ key, Key.ofName? update.name = some key → key.group ∉ groups) :
    offerEach platform scene update groups = (none, scene) := by
  induction groups with
  | nil => rfl
  | cons group rest ih =>
      have notFirst : ∀ key, Key.ofName? update.name = some key → key.group ≠ group :=
        fun key known equal => foreign key known (equal ▸ List.mem_cons_self)
      simp only [offerEach, Scene.offer_chained_of_foreign platform scene update notFirst]
      exact ih fun key known later => foreign key known (List.mem_cons_of_mem group later)

variable (chain : Chain) (platform : Platform) (scene : Scene) (update : Update)

theorem apply_of_property {key : Key} (found : chain.property? update = some key) :
    chain.apply platform scene update =
      (some key.group, scene.carryOut platform key update) := by
  obtain ⟨known, member⟩ := (chain.property?_eq_some_iff update key).mp found
  exact offerEach_of_mem platform scene update known chain.groups member

theorem apply_of_no_property (missing : chain.property? update = none) :
    chain.apply platform scene update = (none, scene) := by
  apply offerEach_of_foreign
  intro key known member
  have found := (chain.property?_eq_some_iff update key).mpr ⟨known, member⟩
  rw [missing] at found
  cases found

/-- The number of updates taken depends on their names alone. -/
theorem applyAll_count (batch : List Update) :
    (chain.applyAll platform scene batch).1 =
      batch.countP fun update => (chain.property? update).isSome := by
  induction batch generalizing scene with
  | nil => rfl
  | cons update rest ih =>
      cases found : chain.property? update with
      | none =>
          simp only [applyAll, chain.apply_of_no_property platform scene update found]
          simp [found, ih]
      | some key =>
          simp only [applyAll, chain.apply_of_property platform scene update found]
          simp [found, ih, Nat.add_comm]

end Chain

namespace Scene

variable (group : Group) (platform : Platform) (scene : Scene) (update : Update)

theorem offer_handler_taken_iff :
    (scene.offer platform group.handler update).1 = true ↔
      ∃ key, Key.ofName? update.name = some key ∧ key.group = group := by
  constructor
  · intro taken
    rcases offer_handler_cases platform update group with ⟨key, known, own, -⟩ | passed
    · exact ⟨key, known, own⟩
    · rw [passed scene] at taken
      cases taken
  · rintro ⟨key, known, rfl⟩
    simp only [offer, Group.handler_of_own platform scene update known]

/-- A handler takes the updates of its group's properties, whatever they carry and wherever they
come, and an update that it turns down leaves nothing behind. Of all handlers one takes an update
whose name is recognized, and none takes any other. -/
theorem offer_by_name :
    ((scene.offer platform group.handler update).1 = true ↔
      ∃ key, Key.ofName? update.name = some key ∧ key.group = group) ∧
    ((scene.offer platform group.handler update).1 = false →
      (scene.offer platform group.handler update).2 = scene) ∧
    (Group.every.filter fun other => (scene.offer platform other.handler update).1) =
      (Group.ofName? update.name).toList := by
  refine ⟨offer_handler_taken_iff group platform scene update, fun refused => ?_, ?_⟩
  · rcases offer_handler_cases platform update group with ⟨key, -, -, taken⟩ | passed
    · rw [taken scene] at refused
      cases refused
    · rw [passed scene]
  · have takers : ∀ other : Group, (scene.offer platform other.handler update).1 =
        decide (Group.ofName? update.name = some other) := by
      intro other
      rw [Bool.eq_iff_iff, offer_handler_taken_iff, decide_eq_true_iff,
        Group.ofName?_eq_some_iff]
    simp only [takers]
    cases Group.ofName? update.name with
    | none => rfl
    | some owner => cases owner <;> decide

end Scene

end ViewStyle
