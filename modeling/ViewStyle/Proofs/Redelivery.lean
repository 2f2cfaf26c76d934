import ViewStyle.Proofs.Absorption
import ViewStyle.Proofs.DefaultBrush

/-!
# Batches that come again

Hosts send whole bags of properties again. Main statement: a batch that comes a second time changes
neither the node nor the view, unless it takes the colour of a border away and also gives the border
a width. By then the host may make another default border brush. What it said about the decoration
of text has to stand.
-/

set_option autoImplicit false

namespace ViewStyle

namespace Scene

section Unmade

variable (platform : Platform) (brush : Brush) (scene : Scene)

/-- Actions that make no use of the default border brush do not care which one would be made. -/
theorem performAll_of_not_mem (property : String) {actions : List Action}
    (free : .substituteBorderBrush ∉ actions) :
    scene.performAll { platform with defaultBorder := brush } property actions =
      scene.performAll platform property actions := by
  refine List.foldl_ext _ _ scene fun before action member => ?_
  cases action with
  | substituteBorderBrush => exact absurd member free
  | _ => rfl

theorem handle_of_unmade (handling : Handling)
    (unmade : (scene.handle platform handling).shared.defaultBorder.isMade = false) :
    scene.handle { platform with defaultBorder := brush } handling =
      scene.handle platform handling := by
  refine scene.performAll_of_not_mem platform brush handling.update.name fun member => ?_
  have substitutes :=
    (handling.substituteBorderBrush_mem_iff platform scene).mp member
  rw [handle_defaultBorder, if_pos substitutes, Once.isMade_ask] at unmade
  cases unmade

/-- Where the default border brush has not been made by the end, nothing before depends on it. -/
theorem handleAll_of_unmade (handlings : List Handling)
    (unmade : (scene.handleAll platform handlings).shared.defaultBorder.isMade = false) :
    scene.handleAll { platform with defaultBorder := brush } handlings =
      scene.handleAll platform handlings := by
  induction handlings generalizing scene with
  | nil => rfl
  | cons handling rest ih =>
      have firstUnmade :
          (scene.handle platform handling).shared.defaultBorder.isMade = false := by
        by_contra isMade
        rw [Bool.not_eq_false] at isMade
        have became := (scene.handle platform handling).handleAll_becomes platform rest
        have stays := became.eq_of_isMade isMade
        have laterMade := (congrArg Once.isMade stays).trans isMade
        exact absurd (unmade.symm.trans laterMade) Bool.false_ne_true
      have first := scene.handle_of_unmade platform brush handling firstUnmade
      rw [handleAll, List.foldl_cons, first]
      exact ih (scene.handle platform handling) unmade

end Unmade

end Scene

theorem Update.not_givesBorderWidth_of_clears (update : Update)
    (clears : update.clearsBorderColor = true) : ¬update.givesBorderWidth = true := by
  obtain ⟨known, -⟩ : Key.ofName? update.name = some .borderColor ∧ update.value.isNull = true := by
    simpa [clearsBorderColor] using clears
  simp [givesBorderWidth, known, Key.takesBorderWidth]

namespace Chain

variable (chain : Chain) {platform again : Platform} (scene : Scene)

theorem applyAll_of_unmade (brush : Brush) (batch : List Update)
    (unmade : (chain.applyAll platform scene batch).2.shared.defaultBorder.isMade = false) :
    (chain.applyAll { platform with defaultBorder := brush } scene batch).2 =
      (chain.applyAll platform scene batch).2 := by
  rw [applyAll_eq_handleAll] at unmade ⊢
  rw [applyAll_eq_handleAll]
  exact scene.handleAll_of_unmade platform brush _ unmade

/-- What a batch has made of the parts of a pair, told by what it leaves around the pair for a host
that may make another default border brush. -/
theorem parts_applyAll_after (steady : again.decoratesText = platform.decoratesText)
    (batch : List Update) :
    let after := (chain.applyAll platform scene batch).2
    after.parts =
      batch.foldl (chain.through (Key.effect (after.backdrop again))) scene.parts := by
  intro after
  cases made : after.shared.defaultBorder.isMade with
  | true =>
      -- The brush is kept, so both hosts find the same around the pair.
      obtain ⟨brush, kept⟩ := Option.isSome_iff_exists.mp made
      have sameBackdrop : after.backdrop again = after.backdrop platform := by
        simp [Scene.backdrop, Scene.defaultBorder, Scene.decoratesText, Once.answer, kept, steady]
      rw [sameBackdrop, chain.backdrop_applyAll]
      exact chain.parts_applyAll platform scene batch
  | false =>
      -- No border asked for the brush, so the first host may as well have been making the other.
      let other : Platform := { platform with defaultBorder := again.defaultBorder }
      have sameAfter : (chain.applyAll other scene batch).2 = after :=
        chain.applyAll_of_unmade scene again.defaultBorder batch made
      have sameBackdrop : after.backdrop again = after.backdrop other := by
        simp [Scene.backdrop, Scene.defaultBorder, Scene.decoratesText, other, steady]
      rw [sameBackdrop, ← sameAfter, chain.backdrop_applyAll]
      exact chain.parts_applyAll other scene batch

/-- A batch that comes a second time changes nothing: unless it both takes the colour of a border
away and gives the border a width, the node and the view stay as they are, and as many updates are
taken as the first time. A single update that comes twice never changes anything. -/
theorem applyAll_redelivered (steady : again.decoratesText = platform.decoratesText) :
    (∀ batch : List Update,
      ¬(batch.any Update.clearsBorderColor = true ∧ batch.any Update.givesBorderWidth = true) →
      let first := chain.applyAll platform scene batch
      let second := chain.applyAll again first.2 batch
      second.1 = first.1 ∧ second.2.node = first.2.node ∧ second.2.view = first.2.view) ∧
    ∀ update : Update,
      let first := chain.apply platform scene update
      let second := chain.apply again first.2 update
      second.1 = first.1 ∧ second.2.node = first.2.node ∧ second.2.view = first.2.view := by
  have batches : ∀ batch : List Update,
      ¬(batch.any Update.clearsBorderColor = true ∧ batch.any Update.givesBorderWidth = true) →
      let after := (chain.applyAll platform scene batch).2
      (chain.applyAll again after batch).2.parts = after.parts := by
    intro batch free after
    have settled : batch.any Update.clearsBorderColor = false ∨
        batch.any Update.givesBorderWidth = false := by
      simpa only [Bool.not_eq_true] using not_and_or.mp free
    have firstParts := chain.parts_applyAll_after scene steady batch
    rw [parts_applyAll, firstParts]
    exact chain.foldl_effect_again (after.backdrop again) settled scene.parts
  refine ⟨fun batch free => ?_, fun update => ?_⟩
  · refine ⟨?_, Parts.of_injective (batches batch free)⟩
    rw [applyAll_count, applyAll_count]
  · have free : ¬([update].any Update.clearsBorderColor = true ∧
        [update].any Update.givesBorderWidth = true) := by
      rintro ⟨clears, gives⟩
      simp only [List.any_cons, List.any_nil, Bool.or_false] at clears gives
      exact absurd gives (update.not_givesBorderWidth_of_clears clears)
    refine ⟨?_, Parts.of_injective (batches [update] free)⟩
    rw [(chain.apply_eq_handleAll ..).1, (chain.apply_eq_handleAll ..).1]

/-- The border keeps the brush that its first width brought, though the host would now make another
and the last width is zero. -/
theorem applyAll_redelivered_default_brush :
    let chain := ofList [.border]
    let again : Platform := { defaultBorder := .solid ⟨0xFF, 0xFF, 0xFF, 0xFF⟩ }
    let batch : List Update :=
      [⟨"borderWidth", .number ⟨0x4000000000000000⟩⟩, ⟨"borderColor", .text "red"⟩,
        ⟨"borderWidth", .number .zero⟩]
    let first := chain.applyAll {} {} batch
    let second := chain.applyAll again first.2 batch
    again.decoratesText = ({} : Platform).decoratesText ∧
    ¬(batch.any Update.clearsBorderColor = true ∧ batch.any Update.givesBorderWidth = true) ∧
    second.1 = 3 ∧ second.2.node = first.2.node ∧ second.2.view = first.2.view ∧
    second.2.view.borderBrush = some .black := by
  intro chain again batch first second
  have steady : again.decoratesText = ({} : Platform).decoratesText := rfl
  have free : ¬(batch.any Update.clearsBorderColor = true ∧
      batch.any Update.givesBorderWidth = true) := by
    decide +kernel
  obtain ⟨count, node, view⟩ := (applyAll_redelivered chain {} steady).1 batch free
  have three : first.1 = 3 := by decide +kernel
  have brush : first.2.view.borderBrush = some .black := by decide +kernel
  exact ⟨steady, free, count.trans three, node, view, (congrArg View.borderBrush view).trans brush⟩

/-- A null colour leaves the default brush as long as the border shows, and none once a zero that
came after it has hidden the border. -/
example :
    let chain := ofList [.border]
    let before := (chain.applyAll {} {} [⟨"borderWidth", .number ⟨0x4000000000000000⟩⟩]).2
    let batch : List Update := [⟨"borderColor", .null⟩, ⟨"borderWidth", .number .zero⟩]
    let first := chain.applyAll {} before batch
    let second := chain.applyAll {} first.2 batch
    first.2.view.borderBrush = some .black ∧ second.2.view.borderBrush = none := by
  decide +kernel

end Chain

end ViewStyle
