import ViewStyle.Proofs.LastWrite
import ViewStyle.Proofs.Output

/-!
# Corner radii shown at the end

A host can write the corner radii of a batch to the node alone and have them shown once, when the
batch is over. Main statement: this comes to the same as showing them after each update. The view
gets the last radii and misses those between.
-/

set_option autoImplicit false

namespace ViewStyle

namespace Call

/-- The corner radii that a call shows, if it shows any. -/
def radii? : Call → Option Radii
  | .change (.cornerRadius radii) => some radii
  | _ => none

def leavesRadii (call : Call) : Bool := call.radii?.isNone

end Call

theorem View.cornerRadius_receive (view : View) (call : Call) :
    (view.receive call).cornerRadius = call.radii?.or view.cornerRadius := by
  cases call with
  | refresh => rfl
  | change made =>
      cases made with
      | brush paint => cases paint <;> rfl
      | _ => rfl

/-- A view shows the last radii that a call has brought. -/
theorem View.cornerRadius_foldl_receive (view : View) (calls : List Call) :
    (calls.foldl View.receive view).cornerRadius =
      (calls.filterMap Call.radii?).getLast?.or view.cornerRadius := by
  induction calls using List.reverseRecOn with
  | nil => rfl
  | append_singleton earlier last ih =>
      rw [List.foldl_append, List.foldl_cons, List.foldl_nil, cornerRadius_receive, ih,
        List.filterMap_append]
      cases shown : last.radii? <;> simp [shown]

namespace Scene

/-- What is left of a scene when the corner radii that its view shows are taken away. -/
def withoutRadii (scene : Scene) : Scene :=
  { scene with
    view.cornerRadius := none
    calls := scene.calls.filter Call.leavesRadii }

variable (platform : Platform) (property : String) (scene : Scene)

theorem change_withoutRadii (change : Change) :
    (scene.change change).withoutRadii = (scene.withoutRadii.change change).withoutRadii := by
  have view : { scene.view.change change with cornerRadius := none } =
      { ({ scene.view with cornerRadius := none } : View).change change with
        cornerRadius := none } := by
    cases change with
    | brush paint => cases paint <;> rfl
    | _ => rfl
  have calls : (scene.calls ++ [Call.change change]).filter Call.leavesRadii =
      (scene.calls.filter Call.leavesRadii ++ [Call.change change]).filter Call.leavesRadii := by
    simp [List.filter_append]
  simp only [Scene.change, withoutRadii, view, calls]

theorem refresh_withoutRadii (paint : Paint) (brush : Option Brush) :
    (scene.refresh platform paint brush).withoutRadii =
      (scene.withoutRadii.refresh platform paint brush).withoutRadii := by
  unfold refresh
  split
  · simp [withoutRadii, List.filter_append]
  · simp [withoutRadii]

theorem record_withoutRadii (entry : Entry) :
    (scene.record platform entry).withoutRadii =
      (scene.withoutRadii.record platform entry).withoutRadii := by
  unfold record
  split <;> simp [withoutRadii]

theorem withoutRadii_withoutRadii : scene.withoutRadii.withoutRadii = scene.withoutRadii := by
  simp [withoutRadii]

/-- No action looks at the radii that the view shows. -/
theorem perform_withoutRadii (action : Action) :
    (scene.perform platform property action).withoutRadii =
      (scene.withoutRadii.perform platform property action).withoutRadii := by
  cases action with
  | write | askDecorations => simp [perform, askDecorations, withoutRadii]
  | change change => exact scene.change_withoutRadii change
  | present part => exact scene.change_withoutRadii (scene.node.presented part)
  | substituteBorderBrush => exact (scene.askDefaultBorder platform).change_withoutRadii _
  | refresh paint brush => exact scene.refresh_withoutRadii platform paint brush
  | note | noteToken => exact scene.record_withoutRadii platform _

theorem performAll_withoutRadii (actions : List Action) :
    (scene.performAll platform property actions).withoutRadii =
      (scene.withoutRadii.performAll platform property actions).withoutRadii := by
  induction actions generalizing scene with
  | nil => exact scene.withoutRadii_withoutRadii.symm
  | cons action rest ih =>
      have later := ih (scene.perform platform property action)
      have laterWithout := ih (scene.withoutRadii.perform platform property action)
      rw [perform_withoutRadii, ← laterWithout] at later
      exact later

theorem present_corners_withoutRadii :
    (scene.perform platform property (.present .corners)).withoutRadii = scene.withoutRadii := by
  have calls : (scene.calls ++ [Call.change (scene.node.presented .corners)]).filter
      Call.leavesRadii = scene.calls.filter Call.leavesRadii := by
    rw [List.filter_append]
    exact List.append_nil _
  simp only [perform, Scene.change, withoutRadii, calls]
  rfl

theorem actions_withoutRadii (key : Key) (value : Value) :
    key.actions platform scene.withoutRadii value = key.actions platform scene value := by
  cases key <;> rfl

/-- On scenes that differ in the radii shown, the actions of a property do the same, and radii shown
after them on one of the two are one more such difference. -/
theorem performAll_actions_alike {scene other : Scene}
    (alike : scene.withoutRadii = other.withoutRadii) (key : Key) (value : Value) :
    (scene.performAll platform property
        (key.actions platform scene value ++ key.group.followUp)).withoutRadii =
      (other.performAll platform property (key.actions platform other value)).withoutRadii := by
  have same : key.actions platform scene value = key.actions platform other value := by
    rw [← actions_withoutRadii, alike, actions_withoutRadii]
  have followed (after : Scene) :
      (after.performAll platform property key.group.followUp).withoutRadii =
        after.withoutRadii := by
    cases key with
    | borderRadius => exact after.present_corners_withoutRadii platform property
    | _ => rfl
  rw [performAll, List.foldl_append]
  refine (followed _).trans ?_
  rw [same]
  refine (scene.performAll_withoutRadii platform property _).trans ?_
  rw [alike, ← performAll_withoutRadii]

/-- The actions of a property by themselves show no radii. A view whose radii are not set would have
them afterwards. -/
theorem radii_calls_actions (key : Key) (value : Value) :
    (Action.calls platform (scene.defaultBorder platform) scene.node
      (key.actions platform scene value)).filterMap Call.radii? = [] := by
  let bare : Scene := { scene with view.cornerRadius := none }
  have same : key.actions platform bare value = key.actions platform scene value := by
    cases key <;> rfl
  have unset : (bare.performAll platform ""
      (key.actions platform bare value)).view.cornerRadius = none := by
    have parts := bare.parts_performAll_actions platform "" key value
    refine (congrArg (fun parts => parts.corners.image) parts).trans ?_
    cases key <;> rfl
  rw [view_performAll, View.cornerRadius_foldl_receive, same, Option.or_none] at unset
  exact List.getLast?_eq_none_iff.mp unset

end Scene

namespace Chain

/-- Applies an update and shows no radii: an update of a corner goes to its handler alone. -/
def applyOnNode (chain : Chain) (platform : Platform) (scene : Scene) (update : Update) :
    Bool × Scene :=
  if Group.ofName? update.name = some .cornerRadius then
    scene.offer platform Group.cornerRadius.handler update
  else
    let (taker, after) := chain.apply platform scene update
    (taker.isSome, after)

/-- Applies updates in order without showing radii, and counts those that were taken. -/
def applyAllOnNode (chain : Chain) (platform : Platform) (scene : Scene) :
    List Update → Nat × Scene
  | [] => (0, scene)
  | update :: rest =>
    let (taken, after) := chain.applyOnNode platform scene update
    let (count, done) := chain.applyAllOnNode platform after rest
    ((if taken then 1 else 0) + count, done)

/-- Applies updates in order, and shows the radii of the node once, when all have been applied. -/
def applyAllDeferring (chain : Chain) (platform : Platform) (scene : Scene)
    (batch : List Update) : Nat × Scene :=
  let (count, after) := chain.applyAllOnNode platform scene batch
  (count, after.change (after.node.presented .corners))

section OnNode

variable {chain : Chain} (hasCorners : Group.cornerRadius ∈ chain.groups) (platform : Platform)
  (scene : Scene) {update : Update}

omit hasCorners in
theorem applyOnNode_of_property {key : Key} (found : chain.property? update = some key) :
    chain.applyOnNode platform scene update =
      (true, scene.performAll platform update.name
        (key.actions platform scene update.value)) := by
  obtain ⟨known, -⟩ := (chain.property?_eq_some_iff update key).mp found
  have owner : Group.ofName? update.name = some key.group := by simp [Group.ofName?, known]
  unfold applyOnNode
  by_cases corner : key.group = .cornerRadius
  · rw [owner, corner, if_pos rfl, ← corner, Scene.offer,
      Group.handler_of_own platform scene update known]
  · have silent : key.group.followUp = [] := by
      cases key with
      | borderRadius => exact absurd rfl corner
      | _ => rfl
    have other : ¬Group.ofName? update.name = some .cornerRadius := by
      rw [owner]
      exact fun same => corner (Option.some.inj same)
    rw [if_neg other, chain.apply_of_property platform scene update found, Scene.carryOut, silent,
      List.append_nil]
    rfl

include hasCorners in
theorem applyOnNode_of_no_property (missing : chain.property? update = none) :
    chain.applyOnNode platform scene update = (false, scene) := by
  have other : ¬Group.ofName? update.name = some .cornerRadius := by
    intro ofCorners
    obtain ⟨key, known, corner⟩ := (Group.ofName?_eq_some_iff _ _).mp ofCorners
    have found := (chain.property?_eq_some_iff update key).mpr ⟨known, corner ▸ hasCorners⟩
    rw [missing] at found
    cases found
  unfold applyOnNode
  rw [if_neg other, chain.apply_of_no_property platform scene update missing]
  rfl

include hasCorners in
theorem applyAllOnNode_count (batch : List Update) :
    (chain.applyAllOnNode platform scene batch).1 =
      batch.countP fun update => (chain.property? update).isSome := by
  induction batch generalizing scene with
  | nil => rfl
  | cons update rest ih =>
      cases found : chain.property? update with
      | none =>
          simp only [applyAllOnNode, applyOnNode_of_no_property hasCorners platform scene found]
          simp [found, ih]
      | some key =>
          simp only [applyAllOnNode, applyOnNode_of_property platform scene found]
          simp [found, ih, Nat.add_comm]

include hasCorners in
/-- One step of both ways, from scenes that differ in the radii shown. -/
theorem apply_alike {eager deferred : Scene}
    (alike : eager.withoutRadii = deferred.withoutRadii) (update : Update) :
    (chain.apply platform eager update).2.withoutRadii =
      (chain.applyOnNode platform deferred update).2.withoutRadii := by
  cases found : chain.property? update with
  | none =>
      rw [chain.apply_of_no_property platform eager update found,
        applyOnNode_of_no_property hasCorners platform deferred found]
      exact alike
  | some key =>
      rw [chain.apply_of_property platform eager update found,
        applyOnNode_of_property platform deferred found]
      exact Scene.performAll_actions_alike platform update.name alike key update.value

include hasCorners in
theorem applyAll_alike {eager deferred : Scene}
    (alike : eager.withoutRadii = deferred.withoutRadii) (batch : List Update) :
    (chain.applyAll platform eager batch).2.withoutRadii =
      (chain.applyAllOnNode platform deferred batch).2.withoutRadii := by
  induction batch generalizing eager deferred with
  | nil => exact alike
  | cons update rest ih => exact ih (apply_alike hasCorners platform alike update)

include hasCorners in
theorem applyAllOnNode_calls (batch : List Update) :
    ∃ calls, (chain.applyAllOnNode platform scene batch).2.calls = scene.calls ++ calls ∧
      calls.filterMap Call.radii? = [] := by
  induction batch generalizing scene with
  | nil => exact ⟨[], (List.append_nil _).symm, rfl⟩
  | cons update rest ih =>
      obtain ⟨later, laterCalls, laterSilent⟩ := ih (chain.applyOnNode platform scene update).2
      have first : ∃ calls, (chain.applyOnNode platform scene update).2.calls =
          scene.calls ++ calls ∧ calls.filterMap Call.radii? = [] := by
        cases found : chain.property? update with
        | none =>
            rw [applyOnNode_of_no_property hasCorners platform scene found]
            exact ⟨[], (List.append_nil _).symm, rfl⟩
        | some key =>
            rw [applyOnNode_of_property platform scene found]
            exact ⟨_, (scene.performAll_puts platform update.name _).calls,
              scene.radii_calls_actions platform key update.value⟩
      obtain ⟨calls, made, silent⟩ := first
      refine ⟨calls ++ later, ?_, ?_⟩
      · rw [← List.append_assoc, ← made]
        exact laterCalls
      · rw [List.filterMap_append, silent, laterSilent]
        rfl

end OnNode

section Eager

variable (chain : Chain) (platform : Platform) (scene : Scene)

/-- What a chain calls for an update is all that reaches the view, and of an update of a corner the
new radii do. -/
theorem apply_calls (update : Update) :
    ∃ calls, (chain.apply platform scene update).2.calls = scene.calls ++ calls ∧
      (chain.apply platform scene update).2.view = calls.foldl View.receive scene.view ∧
      (chain.brings Key.takesRadius update = true → calls.filterMap Call.radii? ≠ []) := by
  cases found : chain.property? update with
  | none =>
      rw [chain.apply_of_no_property platform scene update found]
      refine ⟨[], (List.append_nil _).symm, rfl, fun brings => ?_⟩
      simp [Chain.brings, found] at brings
  | some key =>
      rw [chain.apply_of_property platform scene update found]
      refine ⟨_, (scene.performAll_puts platform update.name _).calls,
        scene.view_performAll platform update.name _, fun brings => ?_⟩
      cases key with
      | borderRadius corner =>
          simp [Key.actions, Handler.radius, Key.group, Group.followUp, Action.calls,
            Action.call?, Call.radii?, Node.presented]
      | _ => simp [Chain.brings, found, Key.takesRadius] at brings

theorem applyAll_calls (batch : List Update) :
    ∃ calls, (chain.applyAll platform scene batch).2.calls = scene.calls ++ calls ∧
      (chain.applyAll platform scene batch).2.view = calls.foldl View.receive scene.view ∧
      (batch.any (chain.brings Key.takesRadius) = true → calls.filterMap Call.radii? ≠ []) := by
  induction batch generalizing scene with
  | nil => exact ⟨[], (List.append_nil _).symm, rfl, fun brings => by cases brings⟩
  | cons update rest ih =>
      obtain ⟨calls, made, shown, brought⟩ := chain.apply_calls platform scene update
      obtain ⟨later, laterMade, laterShown, laterBrought⟩ :=
        ih (chain.apply platform scene update).2
      refine ⟨calls ++ later, ?_, ?_, fun brings => ?_⟩
      · rw [← List.append_assoc, ← made]
        exact laterMade
      · rw [List.foldl_append, ← shown]
        exact laterShown
      · rw [List.any_cons, Bool.or_eq_true] at brings
        rw [List.filterMap_append]
        rcases brings with first | among
        · exact List.append_ne_nil_of_left_ne_nil (brought first) _
        · exact List.append_ne_nil_of_right_ne_nil _ (laterBrought among)

/-- The last radii that a batch has shown are those of its node, if it has an update of a corner. -/
theorem applyAll_last_radii (batch : List Update)
    (someCorner : batch.any (chain.brings Key.takesRadius) = true) :
    ∃ calls, (chain.applyAll platform scene batch).2.calls = scene.calls ++ calls ∧
      (calls.filterMap Call.radii?).getLast? =
        some (chain.applyAll platform scene batch).2.node.corners.radii ∧
      (chain.applyAll platform scene batch).2.view.cornerRadius =
        some (chain.applyAll platform scene batch).2.node.corners.radii := by
  have shown : (chain.applyAll platform scene batch).2.view.cornerRadius =
      some (chain.applyAll platform scene batch).2.node.corners.radii := by
    refine (chain.applyAll_shown platform scene batch (fun parts => parts.corners.image)
      (fun parts => some parts.corners.slots.radii) ?_ ?_).trans (if_pos someCorner)
    · exact fun key value parts takes => Key.moveCorners_image parts.corners takes
    · intro key value parts passes
      have same := Key.moveCorners_of_not_takes parts.corners passes
      exact ⟨congrArg Shown.image same, congrArg (fun shown => some shown.slots.radii) same⟩
  obtain ⟨calls, made, view, brought⟩ := chain.applyAll_calls platform scene batch
  refine ⟨calls, made, ?_, shown⟩
  rw [view, View.cornerRadius_foldl_receive] at shown
  cases last : (calls.filterMap Call.radii?).getLast? with
  | none => exact absurd (List.getLast?_eq_none_iff.mp last) (brought someCorner)
  | some radii =>
      rw [last] at shown
      exact shown

end Eager

/-- Showing the radii at the end comes to the same as showing them after each update: for the node,
the view, the number of updates taken, and all that pairs share, the journal among it. Of the calls
only those that show radii differ. At the end there is one, which shows what the last of the others
would have shown. -/
theorem applyAllDeferring_eq {chain : Chain} (hasCorners : Group.cornerRadius ∈ chain.groups)
    (platform : Platform) (scene : Scene) (batch : List Update)
    (someCorner : ∃ update ∈ batch, Group.ofName? update.name = some .cornerRadius) :
    let eager := chain.applyAll platform scene batch
    let deferred := chain.applyAllDeferring platform scene batch
    deferred.1 = eager.1 ∧ deferred.2.node = eager.2.node ∧ deferred.2.view = eager.2.view ∧
    deferred.2.shared = eager.2.shared ∧
    ∃ radii eagerCalls deferredCalls,
      eager.2.calls = scene.calls ++ eagerCalls ∧
      deferred.2.calls = scene.calls ++ deferredCalls ∧
      deferredCalls.filterMap Call.radii? = [radii] ∧
      (eagerCalls.filterMap Call.radii?).getLast? = some radii ∧
      deferredCalls.filter Call.leavesRadii = eagerCalls.filter Call.leavesRadii := by
  intro eager deferred
  let unshown := (chain.applyAllOnNode platform scene batch).2
  have brought : batch.any (chain.brings Key.takesRadius) = true := by
    obtain ⟨update, member, ofCorners⟩ := someCorner
    obtain ⟨key, known, corner⟩ := (Group.ofName?_eq_some_iff _ _).mp ofCorners
    have found := (chain.property?_eq_some_iff update key).mpr ⟨known, corner ▸ hasCorners⟩
    refine List.any_eq_true.mpr ⟨update, member, ?_⟩
    cases key with
    | borderRadius => simp [brings, found, Key.takesRadius]
    | _ => cases corner
  obtain ⟨eagerCalls, eagerMade, last, shown⟩ :=
    chain.applyAll_last_radii platform scene batch brought
  obtain ⟨calls, made, silent⟩ := applyAllOnNode_calls hasCorners platform scene batch
  have alike : eager.2.withoutRadii = unshown.withoutRadii :=
    applyAll_alike hasCorners platform rfl batch
  have node : unshown.node = eager.2.node := (congrArg Scene.node alike).symm
  refine ⟨?count, node, ?view, (congrArg Scene.shared alike).symm, eager.2.node.corners.radii,
    eagerCalls, calls ++ [.change (unshown.node.presented .corners)], eagerMade, ?calls, ?once,
    last, ?others⟩
  case count =>
    exact (applyAllOnNode_count hasCorners platform scene batch).trans
      (chain.applyAll_count platform scene batch).symm
  case view =>
    have others : { unshown.view with cornerRadius := none } =
        { eager.2.view with cornerRadius := none } := (congrArg Scene.view alike).symm
    calc deferred.2.view
        = { ({ unshown.view with cornerRadius := none } : View) with
            cornerRadius := some unshown.node.corners.radii } := rfl
      _ = { eager.2.view with cornerRadius := eager.2.view.cornerRadius } := by
        rw [others, node, shown]
      _ = eager.2.view := rfl
  case calls =>
    rw [← List.append_assoc, ← made]
    rfl
  case once =>
    rw [List.filterMap_append, silent, node]
    rfl
  case others =>
    have same : eager.2.calls.filter Call.leavesRadii = unshown.calls.filter Call.leavesRadii :=
      congrArg Scene.calls alike
    have shows : [Call.change (unshown.node.presented .corners)].filter Call.leavesRadii = [] := rfl
    rw [eagerMade, made, List.filter_append, List.filter_append] at same
    rw [List.filter_append, shows, List.append_nil]
    exact (List.append_cancel_left same).symm

/-- Three updates of corners, the last of which empties a slot, around a padding: the view is called
four times in one way and twice in the other. -/
theorem applyAllDeferring_eq_after_emptied_corner :
    let chain := ofList [.padding, .cornerRadius]
    let scene : Scene :=
      { view.cornerRadius := some ⟨.minusOne, .zero, .zero, .zero⟩
        calls := [.refresh .border none] }
    let two : Value := .number ⟨0x4000000000000000⟩
    let batch : List Update :=
      [⟨"borderTopLeftRadius", two⟩, ⟨"padding", two⟩, ⟨"borderRadius", .number .minusOne⟩,
        ⟨"borderTopLeftRadius", .text "round"⟩]
    let eager := chain.applyAll {} scene batch
    let deferred := chain.applyAllDeferring {} scene batch
    Group.cornerRadius ∈ chain.groups ∧
    (∃ update ∈ batch, Group.ofName? update.name = some .cornerRadius) ∧
    eager.2.calls.length = 1 + 4 ∧ deferred.2.calls.length = 1 + 2 ∧
    deferred.1 = eager.1 ∧ deferred.2.node = eager.2.node ∧ deferred.2.view = eager.2.view ∧
    deferred.2.shared = eager.2.shared := by
  intro chain scene two batch eager deferred
  have hasCorners : Group.cornerRadius ∈ chain.groups := by decide +kernel
  have someCorner : ∃ update ∈ batch, Group.ofName? update.name = some .cornerRadius :=
    ⟨⟨"borderTopLeftRadius", two⟩, List.mem_cons_self, by decide +kernel⟩
  obtain ⟨count, node, view, shared, -⟩ :=
    applyAllDeferring_eq hasCorners {} scene batch someCorner
  exact ⟨hasCorners, someCorner, by decide +kernel, by decide +kernel, count, node, view, shared⟩

end Chain

end ViewStyle
