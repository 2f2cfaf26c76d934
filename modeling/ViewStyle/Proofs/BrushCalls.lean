import ViewStyle.Proofs.Handled
import ViewStyle.Proofs.Outcomes

/-!
# Calls about brushes

What updates call for about brushes: changes of a painted part, and word of them to the owner of the
secondary brushes. Main statement: word follows each change once, except where a border width brings
the default brush. Of that the owner is not told.
-/

set_option autoImplicit false

namespace ViewStyle

namespace Call

def isOfBrush : Call → Bool
  | .change (.brush _ _) | .refresh _ _ => true
  | .change _ => false

/-- The brush that a call gives to a part, or takes from it. -/
def painted? (part : Paint) : Call → Option (Option Brush)
  | .change (.brush other brush) => if other = part then some brush else none
  | _ => none

/-- The brush that the owner of the secondary brushes is told of for a part. -/
def refreshed? (part : Paint) : Call → Option (Option Brush)
  | .refresh other brush => if other = part then some brush else none
  | _ => none

def paints (part : Paint) (calls : List Call) : List (Option Brush) :=
  calls.filterMap (painted? part)

def refreshes (part : Paint) (calls : List Call) : List (Option Brush) :=
  calls.filterMap (refreshed? part)

/-- Each change of a part's brush is followed by the only word of that part, and without a change
there is no word. -/
structure Followed (part : Paint) (calls : List Call) : Prop where
  told : ∀ before made after, calls = before ++ .change (.brush part made) :: after →
    refreshes part before = [] ∧ (refreshes part after).length = 1
  silent : paints part calls = [] → refreshes part calls = []

theorem paints_filter (part : Paint) (calls : List Call) :
    paints part (calls.filter isOfBrush) = paints part calls := by
  rw [paints, paints, List.filterMap_filter]
  congr 1
  funext call
  cases call with
  | change made => cases made <;> rfl
  | refresh => rfl

theorem refreshes_filter (part : Paint) (calls : List Call) :
    refreshes part (calls.filter isOfBrush) = refreshes part calls := by
  rw [refreshes, refreshes, List.filterMap_filter]
  congr 1
  funext call
  cases call with
  | change made => cases made <;> rfl
  | refresh => rfl

variable {calls : List Call}

theorem followed_of_unpainted {part : Paint} (unpainted : paints part calls = [])
    (untold : refreshes part calls = []) : Followed part calls where
  told := by
    intro before made after split
    have painted : made ∈ paints part calls :=
      List.mem_filterMap.mpr ⟨.change (.brush part made), by simp [split], if_pos rfl⟩
    rw [unpainted] at painted
    cases painted
  silent := fun _ => untold

theorem followed_of_no_brush (whole : calls.filter isOfBrush = []) (part : Paint) :
    Followed part calls := by
  refine followed_of_unpainted ?_ ?_
  · rw [← paints_filter, whole]
    rfl
  · rw [← refreshes_filter, whole]
    rfl

theorem followed_of_change_and_word {changed : Paint} {made told : Option Brush}
    (whole : calls.filter isOfBrush =
      [.change (.brush changed made), .refresh changed told]) (part : Paint) :
    Followed part calls where
  told := by
    intro before other after split
    have wholeSplit : before.filter isOfBrush ++
        .change (.brush part other) :: after.filter isOfBrush =
          [.change (.brush changed made), .refresh changed told] := by
      rw [← whole, split, List.filter_append, List.filter_cons_of_pos rfl]
    rw [← refreshes_filter part before, ← refreshes_filter part after]
    -- The change can only be the first of the two calls.
    cases beforehand : before.filter isOfBrush with
    | nil =>
        rw [beforehand, List.nil_append] at wholeSplit
        obtain ⟨sameChange, rest⟩ := List.cons.inj wholeSplit
        cases sameChange
        rw [rest]
        simp [refreshes, refreshed?]
    | cons first others =>
        rw [beforehand, List.cons_append] at wholeSplit
        obtain ⟨-, rest⟩ := List.cons.inj wholeSplit
        cases others with
        | nil => cases (List.cons.inj rest).1
        | cons second others => simp at rest
  silent := by
    intro unpainted
    rw [← paints_filter, whole] at unpainted
    rw [← refreshes_filter, whole]
    by_cases same : changed = part
    · simp [paints, painted?, same] at unpainted
    · simp [refreshes, refreshed?, same]

theorem not_followed_of_change_alone {part : Paint} {made : Option Brush}
    (whole : calls.filter isOfBrush = [.change (.brush part made)]) : ¬Followed part calls := by
  intro followed
  have member : .change (.brush part made) ∈ calls :=
    (List.mem_filter.mp (whole ▸ List.mem_cons_self)).1
  obtain ⟨before, after, split⟩ := List.append_of_mem member
  obtain ⟨-, oneWord⟩ := followed.told before made after split
  have noWord : refreshes part calls = [] := by
    rw [← refreshes_filter, whole]
    rfl
  rw [split, refreshes, List.filterMap_append, List.append_eq_nil_iff] at noWord
  have noneAfter : refreshes part after = [] := noWord.2
  rw [noneAfter] at oneWord
  cases oneWord

end Call

namespace Action

/-- The call about a brush that an action makes, if it makes one. No node has a say in it. -/
def brushCall? (platform : Platform) (fallback : Brush) : Action → Option Call
  | .change (.brush part brush) => some (.change (.brush part brush))
  | .substituteBorderBrush => some (.change (.brush .border (some fallback)))
  | .refresh part brush =>
    if platform.hasSecondaryBrushes then some (.refresh part brush) else none
  | _ => none

theorem brushCall?_eq_none {action : Action} (other : action.concern? ≠ some .brushes)
    (platform : Platform) (fallback : Brush) : action.brushCall? platform fallback = none := by
  cases action with
  | change made =>
      cases made with
      | brush => exact absurd rfl other
      | _ => rfl
  | substituteBorderBrush | refresh => exact absurd rfl other
  | _ => rfl

theorem filter_calls (platform : Platform) (fallback : Brush) (node : Node)
    (actions : List Action) :
    (calls platform fallback node actions).filter Call.isOfBrush =
      actions.filterMap (brushCall? platform fallback) := by
  induction actions generalizing node with
  | nil => rfl
  | cons action rest ih =>
      have first : (action.call? platform fallback node).toList.filter Call.isOfBrush =
          (action.brushCall? platform fallback).toList := by
        cases action with
        | change made => cases made <;> rfl
        | present part => cases part <;> rfl
        | refresh =>
            simp only [call?, brushCall?]
            split <;> rfl
        | _ => rfl
      rw [calls, List.filter_append, ih, first, List.filterMap_cons]
      cases action.brushCall? platform fallback <;> rfl

end Action

def Value.repaints (part : Paint) (value : Value) : List Call :=
  match value.settled? Brush.ofValue? with
  | some brush => [.change (.brush part brush), .refresh part brush]
  | none => []

namespace Key

/-- The calls about brushes that an update of a property makes, where there are secondary ones. -/
def brushCalls (view : View) (fallback : Brush) (value : Value) : Key → List Call
  | .backgroundColor => value.repaints .background
  | .color => value.repaints .foreground
  | .borderColor =>
    if value.isNull && view.borderThickness.isVisible then
      [.change (.brush .border (some fallback)), .refresh .border none]
    else value.repaints .border
  | .borderWidth _ =>
    if value.wantsBrush view then [.change (.brush .border (some fallback))] else []
  | _ => []

section Table

variable {platform : Platform} (owned : platform.hasSecondaryBrushes = true) (fallback : Brush)
  (value : Value)

include owned

theorem filterMap_paint (part : Paint) :
    (Handler.paint part value).filterMap (Action.brushCall? platform fallback) =
      value.repaints part := by
  cases value <;>
    simp [Handler.paint, Value.repaints, Value.settled?, Brush.ofValue?, Value.number?,
      Value.isNull, Value.kind, Handler.mismatch, Action.brushCall?, owned]

theorem filterMap_borderColor (view : View) :
    (Handler.borderColor view value).filterMap (Action.brushCall? platform fallback) =
      Key.borderColor.brushCalls view fallback value := by
  cases value with
  | null =>
      rw [Handler.borderColor_null, brushCalls]
      cases view.borderThickness.isVisible with
      | true => simp [Action.brushCall?, Value.isNull, Value.kind, owned, List.filterMap_cons]
      | false => exact filterMap_paint owned fallback .null .border
  | number x => exact filterMap_paint owned fallback (.number x) .border
  | bool | text => rfl

omit owned in
theorem filterMap_borderWidth (view : View) (edge : Edge) :
    (Handler.borderWidth view edge value).filterMap (Action.brushCall? platform fallback) =
      (Key.borderWidth edge).brushCalls view fallback value := by
  cases value with
  | number width =>
      have asks : (Value.number width).wantsBrush view =
          (!width.isZero && view.borderBrush.isNone) := rfl
      simp only [Handler.borderWidth, Value.number?, brushCalls, asks]
      cases !width.isZero && view.borderBrush.isNone <;> rfl
  | null | bool | text => rfl

end Table

end Key

namespace Handling

variable (handling : Handling) {platform : Platform} (scene : Scene)

def calls (platform : Platform) (scene : Scene) : List Call :=
  Action.calls platform (scene.defaultBorder platform) scene.node
    (handling.actions platform scene)

theorem calls_handle : (scene.handle platform handling).calls =
    scene.calls ++ handling.calls platform scene :=
  (scene.performAll_puts platform handling.update.name _).calls

/-- Nothing follows an update of a brush within a chain. -/
theorem actions_of_brushes (brushes : handling.key.concern? = some .brushes) :
    handling.actions platform scene =
      handling.key.actions platform scene handling.update.value := by
  obtain ⟨key, update, chained⟩ := handling
  cases key with
  | backgroundColor | color | borderColor | borderWidth =>
      cases chained <;> exact List.append_nil _
  | _ => cases brushes

theorem filter_calls (owned : platform.hasSecondaryBrushes = true) :
    (handling.calls platform scene).filter Call.isOfBrush =
      handling.key.brushCalls scene.view (scene.defaultBorder platform)
        handling.update.value := by
  rw [calls, Action.filter_calls]
  by_cases brushes : handling.key.concern? = some .brushes
  · rw [handling.actions_of_brushes scene brushes]
    obtain ⟨key, update, chained⟩ := handling
    cases key with
    | backgroundColor | color => exact Key.filterMap_paint owned _ update.value _
    | borderColor => exact Key.filterMap_borderColor owned _ update.value scene.view
    | borderWidth edge => exact Key.filterMap_borderWidth _ update.value scene.view edge
    | _ => cases brushes
  · have silent : (handling.actions platform scene).filterMap
        (Action.brushCall? platform (scene.defaultBorder platform)) = [] := by
      refine List.filterMap_eq_nil_iff.mpr fun action member => ?_
      refine Action.brushCall?_eq_none (fun concerned => ?_) platform _
      exact brushes (concern_of_mem member concerned)
    rw [silent]
    obtain ⟨key, update, chained⟩ := handling
    cases key with
    | backgroundColor | color | borderColor | borderWidth => exact absurd rfl brushes
    | _ => rfl

/-- Of a property's calls about brushes only those of a border width that finds no brush are not
followed by word to the owner. -/
theorem followed_iff (owned : platform.hasSecondaryBrushes = true) (part : Paint) :
    Call.Followed part (handling.calls platform scene) ↔
      ¬(part = .border ∧ (∃ edge, handling.key = .borderWidth edge) ∧
        handling.update.value.wantsBrush scene.view = true) := by
  obtain ⟨key, update, chained⟩ := handling
  have whole := filter_calls ⟨key, update, chained⟩ scene owned
  have repainted {changed : Paint} (whole : (calls ⟨key, update, chained⟩ platform scene).filter
      Call.isOfBrush = update.value.repaints changed) :
      Call.Followed part (calls ⟨key, update, chained⟩ platform scene) := by
    unfold Value.repaints at whole
    split at whole
    · exact Call.followed_of_change_and_word whole part
    · exact Call.followed_of_no_brush whole part
  cases key with
  | borderWidth edge =>
      cases wants : update.value.wantsBrush scene.view with
      | true =>
          simp only [Key.brushCalls, wants, if_true] at whole
          by_cases isBorder : part = .border
          · subst isBorder
            have unfollowed := Call.not_followed_of_change_alone whole
            simp [unfollowed]
          · have apart : Paint.border ≠ part := fun same => isBorder same.symm
            refine iff_of_true (Call.followed_of_unpainted ?_ ?_) fun exception =>
              isBorder exception.1
            · rw [← Call.paints_filter, whole]
              simp [Call.paints, Call.painted?, apart]
            · rw [← Call.refreshes_filter, whole]
              rfl
      | false =>
          simp only [Key.brushCalls, wants, Bool.false_eq_true, if_false] at whole
          exact iff_of_true (Call.followed_of_no_brush whole part) (by simp)
  | borderColor =>
      refine iff_of_true ?_ (by simp)
      simp only [Key.brushCalls] at whole
      split at whole
      · exact Call.followed_of_change_and_word whole part
      · exact repainted whole
  | backgroundColor | color => exact iff_of_true (repainted whole) (by simp)
  | _ => exact iff_of_true (Call.followed_of_no_brush whole part) (by simp)

end Handling

namespace Chain

variable (chain : Chain) {platform : Platform} (scene : Scene) (update : Update)

/-- Where there are secondary brushes, their owner is told once of each change that an update makes
to a brush, after the change, and is told of nothing else. The one exception is a border width other
than zero that finds no brush: the border is painted with the default brush, and its owner is not
told. -/
theorem apply_followed_iff (owned : platform.hasSecondaryBrushes = true) :
    ∃ calls, (chain.apply platform scene update).2.calls = scene.calls ++ calls ∧
      (∀ part, Call.Followed part calls ↔
        ¬(part = .border ∧ (∃ edge, chain.property? update = some (.borderWidth edge)) ∧
          update.value.wantsBrush scene.view = true)) ∧
      ((∃ edge, chain.property? update = some (.borderWidth edge)) →
        update.value.wantsBrush scene.view = true →
          Call.paints .border calls = [some (scene.defaultBorder platform)] ∧
            Call.refreshes .border calls = []) := by
  cases found : chain.property? update with
  | none =>
      refine ⟨[], ?_, fun part => ?_, ?_⟩
      · rw [chain.apply_of_no_property platform scene update found, List.append_nil]
      · exact iff_of_true (Call.followed_of_no_brush rfl part) (by simp)
      · rintro ⟨edge, isWidth⟩
        cases isWidth
  | some key =>
      let handling : Handling := ⟨key, update, true⟩
      refine ⟨handling.calls platform scene, ?_, fun part => ?_, ?_⟩
      · have handled : chain.handlings [update] = [handling] := by simp [handlings, found, handling]
        rw [(chain.apply_eq_handleAll platform scene update).2, handled]
        exact handling.calls_handle scene
      · simpa [handling] using handling.followed_iff scene owned part
      · rintro ⟨edge, isWidth⟩ wants
        cases isWidth
        have whole := handling.filter_calls scene owned
        simp only [handling, Key.brushCalls, wants, if_true] at whole
        rw [← Call.paints_filter, ← Call.refreshes_filter, whole]
        exact ⟨rfl, rfl⟩

/-- A null for the colour of a border that shows brings the default brush, and is followed by word
that the border has none. -/
theorem apply_followed_null_color :
    let chain := ofList [.padding, .border]
    let platform : Platform := { hasSecondaryBrushes := true }
    let shown : Scene :=
      (chain.apply platform {} ⟨"borderTopWidth", .number ⟨0x4000000000000000⟩⟩).2
    let calls : List Call := [.change (.brush .border (some .black)), .refresh .border none]
    platform.hasSecondaryBrushes = true ∧
      (chain.apply platform shown ⟨"borderColor", .null⟩).2.calls = shown.calls ++ calls ∧
      ∀ part, Call.Followed part calls := by
  intro chain platform shown calls
  let update : Update := ⟨"borderColor", .null⟩
  have owned : platform.hasSecondaryBrushes = true := rfl
  have called : (chain.apply platform shown update).2.calls = shown.calls ++ calls := by
    decide +kernel
  have isColor : chain.property? update = some .borderColor := by decide +kernel
  obtain ⟨made, whole, followed, -⟩ := chain.apply_followed_iff shown update owned
  obtain rfl : calls = made := List.append_cancel_left (called.symm.trans whole)
  refine ⟨owned, called, fun part => (followed part).mpr ?_⟩
  simp [isColor]

/-- A width of one paints a border that had no brush, and the owner of the secondary brushes does
not hear of it. -/
theorem apply_width_not_followed :
    let chain := ofList [.border]
    let platform : Platform := { hasSecondaryBrushes := true }
    let one : Binary64 := ⟨0x3FF0000000000000⟩
    let calls : List Call :=
      [.change (.borderThickness ⟨one, one, one, one⟩), .change (.brush .border (some .black))]
    (chain.apply platform {} ⟨"borderWidth", .number one⟩).2.calls = calls ∧
      ¬Call.Followed .border calls := by
  intro chain platform one calls
  exact ⟨by decide +kernel, Call.not_followed_of_change_alone rfl⟩

end Chain

end ViewStyle
