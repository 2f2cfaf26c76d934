import ViewStyle.Proofs.Simulation

/-!
# Calls and entries

Besides moving a node and its view, updates put out calls to the native side and entries in the
journal. Both only grow, and by what the actions, the node and the backdrop say: nothing that was
put out earlier has a say in it.
-/

set_option autoImplicit false

namespace ViewStyle

namespace Action

/-- The entry that an action makes for a property, if it makes one. -/
def recorded? (property : String) : Action → Option Entry
  | .note outcome => some ⟨property, outcome, none⟩
  | .noteToken token => some ⟨property, .unrecognizedToken, some token⟩
  | _ => none

/-- The call that an action makes on behalf of a node, if it makes one. -/
def call? (platform : Platform) (fallback : Brush) (node : Node) : Action → Option Call
  | .change made => some (.change made)
  | .present part => some (.change (node.presented part))
  | .substituteBorderBrush => some (.change (.brush .border (some fallback)))
  | .refresh paint brush =>
    if platform.hasSecondaryBrushes then some (.refresh paint brush) else none
  | _ => none

def writeTo (node : Node) : Action → Node
  | .write made => node.write made
  | _ => node

/-- The calls that actions make one after the other, on behalf of a node that they may write to. -/
def calls (platform : Platform) (fallback : Brush) : Node → List Action → List Call
  | _, [] => []
  | node, action :: rest =>
    (action.call? platform fallback node).toList ++
      calls platform fallback (action.writeTo node) rest

end Action

namespace View

/-- What a view makes of a call. Word to the owner of the secondary brushes passes it by. -/
def receive (view : View) : Call → View
  | .change made => view.change made
  | .refresh _ _ => view

end View

namespace Scene

/-- Between two scenes these calls and these entries have been put out, and none was taken back. -/
structure Puts (before after : Scene) (calls : List Call) (entries : List Entry) : Prop where
  calls : after.calls = before.calls ++ calls
  entries : after.shared.journal.entries = before.shared.journal.entries ++ entries

theorem Puts.refl (scene : Scene) : scene.Puts scene [] [] := by
  constructor <;> simp

theorem Puts.trans {before middle after : Scene} {calls laterCalls : List Call}
    {entries laterEntries : List Entry} (first : before.Puts middle calls entries)
    (second : middle.Puts after laterCalls laterEntries) :
    before.Puts after (calls ++ laterCalls) (entries ++ laterEntries) where
  calls := by rw [second.calls, first.calls, List.append_assoc]
  entries := by rw [second.entries, first.entries, List.append_assoc]

theorem Puts.drop_entries {before after : Scene} {calls : List Call} {entries : List Entry}
    (puts : before.Puts after calls entries) :
    after.shared.journal.entries.drop before.shared.journal.size = entries := by
  rw [puts.entries, Journal.size, List.drop_left]

/-- What is added to the journal where one is kept. -/
def kept (platform : Platform) (entries : List Entry) : List Entry :=
  if platform.keepsJournal then entries else []

variable (platform : Platform) (scene : Scene)

theorem refresh_puts (paint : Paint) (brush : Option Brush) :
    scene.Puts (scene.refresh platform paint brush)
      (if platform.hasSecondaryBrushes then some (.refresh paint brush) else none).toList [] := by
  unfold refresh
  split
  · exact ⟨rfl, (List.append_nil _).symm⟩
  · exact Puts.refl scene

theorem record_puts (entry : Entry) :
    scene.Puts (scene.record platform entry) [] (kept platform [entry]) := by
  unfold record kept
  split
  · exact ⟨(List.append_nil _).symm, rfl⟩
  · exact Puts.refl scene

theorem perform_puts (property : String) (action : Action) :
    scene.Puts (scene.perform platform property action)
      (action.call? platform (scene.defaultBorder platform) scene.node).toList
      (kept platform (action.recorded? property).toList) := by
  have nothing : kept platform [] = [] := by simp [kept]
  cases action with
  | write | askDecorations =>
      exact ⟨(List.append_nil _).symm, by simp [Action.recorded?, nothing, perform, askDecorations]⟩
  | change | present | substituteBorderBrush =>
      exact ⟨rfl, by simp [Action.recorded?, nothing, perform, change, askDefaultBorder]⟩
  | refresh paint brush =>
      have silent : (Action.refresh paint brush).recorded? property = none := rfl
      rw [silent, Option.toList_none, nothing]
      exact scene.refresh_puts platform paint brush
  | note | noteToken => exact scene.record_puts platform _

theorem perform_node (property : String) (action : Action) :
    (scene.perform platform property action).node = action.writeTo scene.node := by
  cases action with
  | refresh =>
      simp only [perform, refresh]
      split <;> rfl
  | note | noteToken =>
      simp only [perform, record]
      split <;> rfl
  | _ => rfl

theorem node_performAll (property : String) (actions : List Action) :
    (scene.performAll platform property actions).node =
      actions.foldl Action.writeTo scene.node := by
  induction actions generalizing scene with
  | nil => rfl
  | cons action rest ih =>
      rw [List.foldl_cons, ← scene.perform_node platform property action]
      exact ih _

theorem perform_defaultBorder (property : String) (action : Action) :
    (scene.perform platform property action).defaultBorder platform =
      scene.defaultBorder platform :=
  congrArg Backdrop.defaultBorder (scene.perform_backdrop platform property action)

/-- Actions put out their own calls and entries, in their order. -/
theorem performAll_puts (property : String) (actions : List Action) :
    scene.Puts (scene.performAll platform property actions)
      (Action.calls platform (scene.defaultBorder platform) scene.node actions)
      (kept platform (actions.filterMap (Action.recorded? property))) := by
  induction actions generalizing scene with
  | nil =>
      have nothing : kept platform [] = [] := by simp [kept]
      rw [List.filterMap_nil, nothing]
      exact Puts.refl scene
  | cons action rest ih =>
      have first := scene.perform_puts platform property action
      have later := ih (scene.perform platform property action)
      rw [perform_defaultBorder, perform_node] at later
      have both := first.trans later
      have entries : kept platform ((action :: rest).filterMap (Action.recorded? property)) =
          kept platform (action.recorded? property).toList ++
            kept platform (rest.filterMap (Action.recorded? property)) := by
        unfold kept
        split
        · cases made : action.recorded? property <;> simp [made]
        · rfl
      rw [entries]
      exact both

/-- The calls of a scene are all that reaches its view. -/
theorem view_performAll (property : String) (actions : List Action) :
    (scene.performAll platform property actions).view =
      (Action.calls platform (scene.defaultBorder platform) scene.node actions).foldl
        View.receive scene.view := by
  induction actions generalizing scene with
  | nil => rfl
  | cons action rest ih =>
      have first : (scene.perform platform property action).view =
          (action.call? platform (scene.defaultBorder platform) scene.node).toList.foldl
            View.receive scene.view := by
        cases action with
        | refresh =>
            simp only [perform, refresh, Action.call?]
            split <;> rfl
        | note | noteToken =>
            simp only [perform, record, Action.call?]
            split <;> rfl
        | _ => rfl
      have later := ih (scene.perform platform property action)
      rw [perform_defaultBorder, perform_node, first] at later
      rw [Action.calls, List.foldl_append]
      exact later

end Scene

end ViewStyle
