import Mathlib.Data.List.Basic
import Mathlib.Data.List.Induction
import ViewStyle.Proofs.Dispatch

/-!
# Registration

A chain lists each registered group once, where it was first registered. Main statement: a chain
built by registrations does to every update what looking its name up and going straight to the
handler of its group does.
-/

set_option autoImplicit false

namespace ViewStyle

/-- Direct routing: an update goes straight to the handler of the group that its name belongs to, if
that group was registered. -/
def Group.route (registered : List Group) (platform : Platform) (scene : Scene)
    (update : Update) : Option Group × Scene :=
  match Group.ofName? update.name with
  | some group =>
    if group ∈ registered then (some group, (scene.offer platform group.chained update).2)
    else (none, scene)
  | none => (none, scene)

namespace Chain

theorem register_groups (chain : Chain) (group : Group) :
    (chain.register group).groups =
      if group ∈ chain.groups then chain.groups else chain.groups ++ [group] := by
  unfold register
  split <;> simp_all

theorem ofList_append_singleton (groups : List Group) (group : Group) :
    ofList (groups ++ [group]) = (ofList groups).register group := by
  simp [ofList]

theorem mem_ofList_groups (groups : List Group) (group : Group) :
    group ∈ (ofList groups).groups ↔ group ∈ groups := by
  induction groups using List.reverseRecOn with
  | nil => simp [ofList, empty]
  | append_singleton earlier last ih =>
      rw [ofList_append_singleton, register_groups]
      by_cases present : last ∈ (ofList earlier).groups
      · rw [if_pos present, ih, List.mem_append, List.mem_singleton]
        constructor
        · exact .inl
        · rintro (member | rfl)
          · exact member
          · exact ih.mp present
      · rw [if_neg present, List.mem_append, List.mem_append, ih]

/-- Groups stand in the order of their first registrations. -/
theorem ofList_groups_pairwise (groups : List Group) :
    (ofList groups).groups.Pairwise
      fun first second => groups.idxOf first < groups.idxOf second := by
  induction groups using List.reverseRecOn with
  | nil => exact .nil
  | append_singleton earlier last ih =>
      have before : ∀ group ∈ (ofList earlier).groups,
          (earlier ++ [last]).idxOf group = earlier.idxOf group := by
        intro group member
        exact List.idxOf_append_of_mem ((mem_ofList_groups earlier group).mp member)
      have kept : (ofList earlier).groups.Pairwise fun first second =>
          (earlier ++ [last]).idxOf first < (earlier ++ [last]).idxOf second := by
        refine ih.imp_of_mem fun firstMember secondMember inOrder => ?_
        rwa [before _ firstMember, before _ secondMember]
      rw [ofList_append_singleton, register_groups]
      by_cases present : last ∈ (ofList earlier).groups
      · rwa [if_pos present]
      · rw [if_neg present, List.pairwise_append]
        refine ⟨kept, List.pairwise_singleton _ _, fun group member added isLast => ?_⟩
        obtain rfl := List.mem_singleton.mp isLast
        have missing : added ∉ earlier := fun member =>
          present ((mem_ofList_groups earlier added).mpr member)
        rw [before group member, List.idxOf_append_of_notMem missing]
        have listed := (mem_ofList_groups earlier group).mp member
        exact Nat.lt_of_lt_of_le (List.idxOf_lt_length_of_mem listed) (Nat.le_add_right _ _)

theorem apply_eq_route (chain : Chain) (platform : Platform) (scene : Scene) (update : Update) :
    chain.apply platform scene update = Group.route chain.groups platform scene update := by
  cases known : Key.ofName? update.name with
  | none =>
      rw [chain.apply_of_no_property platform scene update (by simp [property?, known])]
      simp [Group.route, Group.ofName?, known]
  | some key =>
      by_cases member : key.group ∈ chain.groups
      · have found : chain.property? update = some key :=
          (chain.property?_eq_some_iff update key).mpr ⟨known, member⟩
        rw [chain.apply_of_property platform scene update found]
        simp [Group.route, Group.ofName?, known, member,
          Scene.offer_chained_of_own platform scene update known]
      · rw [chain.apply_of_no_property platform scene update (by simp [property?, known, member])]
        simp [Group.route, Group.ofName?, known, member]

theorem route_congr {registered others : List Group}
    (sameGroups : ∀ group, group ∈ registered ↔ group ∈ others) :
    Group.route registered = Group.route others := by
  funext platform scene update
  simp only [Group.route, sameGroups]

theorem applyAll_congr {chain other : Chain} {platform : Platform}
    (same : chain.apply platform = other.apply platform) (scene : Scene)
    (batch : List Update) :
    chain.applyAll platform scene batch = other.applyAll platform scene batch := by
  induction batch generalizing scene with
  | nil => rfl
  | cons update rest ih => simp only [applyAll, same, ih]

/-- Trial in the order of registration comes to direct routing: the groups are listed once each in
the order of their first registrations, an update is taken exactly when its name belongs to a
registered group, and then nothing but that group's handler has run. The order and the repetitions
of the registrations are therefore without consequence, and the number of updates taken depends on
their names alone. -/
theorem ofList_dispatches_by_name (groups others : List Group)
    (sameGroups : ∀ group, group ∈ groups ↔ group ∈ others) :
    (∀ group, (ofList groups).groups.count group = if group ∈ groups then 1 else 0) ∧
    ((ofList groups).groups.Pairwise
      fun first second => groups.idxOf first < groups.idxOf second) ∧
    (∀ platform scene update,
      (ofList groups).apply platform scene update =
        Group.route groups platform scene update) ∧
    (∀ platform scene update group,
      ((ofList groups).apply platform scene update).1 = some group ↔
        (∃ key, Key.ofName? update.name = some key ∧ key.group = group) ∧ group ∈ groups) ∧
    (∀ platform scene batch,
      ((ofList groups).applyAll platform scene batch).1 =
        batch.countP fun update =>
          decide (∃ group ∈ groups, Group.ofName? update.name = some group)) ∧
    (∀ platform scene update,
      (ofList groups).apply platform scene update =
        (ofList others).apply platform scene update) ∧
    ∀ platform scene batch,
      (ofList groups).applyAll platform scene batch =
        (ofList others).applyAll platform scene batch := by
  have routed : ∀ registered : List Group,
      (ofList registered).apply = Group.route registered := by
    intro registered
    funext platform scene update
    rw [apply_eq_route, route_congr (mem_ofList_groups registered)]
  have sameApply : (ofList groups).apply = (ofList others).apply := by
    rw [routed, routed, route_congr sameGroups]
  refine ⟨fun group => ?_, ofList_groups_pairwise groups, fun platform scene update => ?_,
    fun platform scene update group => ?_, fun platform scene batch => ?_,
    fun platform scene update => ?_, fun platform scene batch => ?_⟩
  · rw [(ofList groups).nodup.count]
    simp only [mem_ofList_groups]
  · rw [routed]
  · rw [routed, ← Group.ofName?_eq_some_iff]
    unfold Group.route
    cases known : Group.ofName? update.name with
    | none => simp
    | some owner =>
        by_cases member : owner ∈ groups
        · simp only [member, if_true, Option.some.injEq]
          constructor
          · rintro rfl
            exact ⟨rfl, member⟩
          · exact And.left
        · simp only [member, if_false, reduceCtorEq, Option.some.injEq, false_iff]
          rintro ⟨rfl, registered⟩
          exact member registered
  · rw [applyAll_count]
    congr 1
    funext update
    rw [Bool.eq_iff_iff, property?_isSome_iff, decide_eq_true_iff]
    simp only [mem_ofList_groups]
  · rw [sameApply]
  · exact applyAll_congr (congrFun sameApply platform) scene batch

/-- Padding, fonts and padding again make the chain that fonts and padding make. -/
theorem ofList_repeated_padding :
    (∀ group, group ∈ [Group.padding, .font, .padding] ↔ group ∈ [Group.font, .padding]) ∧
    ((ofList [.padding, .font, .padding]).applyAll {} {}
      [⟨"paddingTop", .text "wide"⟩, ⟨"color", .null⟩, ⟨"fontSize", .number .minusOne⟩]).1 = 2 ∧
    ∀ platform scene batch,
      (ofList [.padding, .font, .padding]).applyAll platform scene batch =
        (ofList [.font, .padding]).applyAll platform scene batch := by
  have sameGroups : ∀ group,
      group ∈ [Group.padding, .font, .padding] ↔ group ∈ [Group.font, .padding] := by
    intro group
    cases group <;> decide
  obtain ⟨-, -, -, -, counted, -, same⟩ := ofList_dispatches_by_name _ _ sameGroups
  refine ⟨sameGroups, ?_, same⟩
  rw [counted]
  decide +kernel

end Chain

end ViewStyle
