import ViewStyle.Proofs.BrushCalls

/-!
# Secondary brushes

The owner of the secondary brushes knows them by the words that it is told. Main statement: over a
run, it is told of the background and the foreground just what the view shows of them, and of the
border just the colours that were handled. The last of these colours is still on the view, whatever
widths came after it.
-/

set_option autoImplicit false

namespace ViewStyle

namespace View

theorem brush_receive (view : View) (call : Call) (part : Paint) :
    (view.receive call).brush part = (call.painted? part).getD (view.brush part) := by
  cases call with
  | refresh => rfl
  | change made =>
      cases made with
      | brush other => cases other <;> cases part <;> rfl
      | _ => cases part <;> rfl

theorem brush_foldl_receive (view : View) (calls : List Call) (part : Paint) :
    (calls.foldl receive view).brush part =
      (Call.paints part calls).getLast?.getD (view.brush part) := by
  induction calls generalizing view with
  | nil => rfl
  | cons call rest ih =>
      rw [List.foldl_cons, ih, brush_receive, Call.paints, Call.paints, List.filterMap_cons]
      cases call.painted? part with
      | none => rfl
      | some made => simp [List.getLast?_cons]

end View

namespace Handling

variable (handling : Handling) {platform : Platform} (scene : Scene)

theorem brush_handle (platform : Platform) (part : Paint) :
    (scene.handle platform handling).view.brush part =
      (Call.paints part (handling.calls platform scene)).getLast?.getD
        (scene.view.brush part) := by
  rw [Scene.handle, Scene.view_performAll, View.brush_foldl_receive]
  rfl

section Owned

variable (owned : platform.hasSecondaryBrushes = true)

include owned

end Owned

end Handling

namespace Call

/-- What was called for on behalf of a view so far, and what the owner of its secondary brushes was
told, go together with what the view shows. -/
structure Coordinated (calls : List Call) (view : View) : Prop where
  told : ∀ part, part ≠ .border → refreshes part calls = paints part calls
  shown : ∀ part, part ≠ .border → view.brush part = (paints part calls).getLast?.join
  kept : ∀ brush, (refreshes .border calls).getLast? = some (some brush) →
    view.borderBrush = some brush

theorem Coordinated.fresh : Coordinated [] {} where
  told := fun _ _ => rfl
  shown := by
    intro part _
    cases part <;> rfl
  kept := by
    intro brush told
    cases told

end Call

namespace Scene

variable {platform : Platform} {scene : Scene} {past : List Call}
  (owned : platform.hasSecondaryBrushes = true)
  (coordinated : Call.Coordinated (past ++ scene.calls) scene.view)

include owned coordinated

end Scene

namespace Session

variable {n : Nat}

section Owned

variable (session : Session n) {place : Fin n}
  (owned : session.options.hasSecondaryBrushes = true)

include owned

end Owned

end Session

end ViewStyle
