import ViewStyle.Proofs.Handled

/-!
# Values made on demand

The default border brush and the answer about text decorations are made when they are first asked
for. Main statement: carrying out actions asks for such a value just where one of the actions does,
and however often they ask, it is made once.
-/

set_option autoImplicit false

namespace ViewStyle

namespace Once

variable {α : Type}

@[simp] theorem isMade_ask (once : Once α) (made : α) : (once.ask made).isMade = true := by
  cases kept : once.kept? <;> simp [ask, isMade, kept]

theorem kept?_ask (once : Once α) (made : α) : (once.ask made).kept? = some (once.answer made) := by
  cases kept : once.kept? <;> simp [ask, answer, kept]

theorem ask_of_isMade {once : Once α} (isMade : once.isMade = true) (made : α) :
    once.ask made = once := by
  obtain ⟨value, kept⟩ := Option.isSome_iff_exists.mp isMade
  simp only [ask, kept]

theorem kept?_of_unmade {once : Once α} (unmade : once.isMade = false) : once.kept? = none :=
  Option.isNone_iff_eq_none.mp (by simpa [isMade] using unmade)

theorem answer_of_unmade {once : Once α} (unmade : once.isMade = false) (made : α) :
    once.answer made = made := by
  rw [answer, kept?_of_unmade unmade, Option.getD_none]

theorem runs_ask {once : Once α} (unmade : once.isMade = false) (made : α) :
    (once.ask made).runs = once.runs + 1 := by
  simp only [ask, kept?_of_unmade unmade]

@[simp] theorem isMade_forget (once : Once α) : once.forget.isMade = false := rfl

@[simp] theorem runs_forget (once : Once α) : once.forget.runs = once.runs := rfl

/-- What can become of a value: it is left alone, or it is asked for. -/
def Became (once later : Once α) : Prop := later = once ∨ ∃ made, later = once.ask made

theorem Became.refl (once : Once α) : once.Became once := .inl rfl

theorem Became.trans {once middle later : Once α} (first : once.Became middle)
    (second : middle.Became later) : once.Became later := by
  obtain rfl | ⟨made, rfl⟩ := first
  · exact second
  · refine .inr ⟨made, ?_⟩
    obtain rfl | ⟨again, rfl⟩ := second
    · rfl
    · exact once.ask_ask made again

theorem Became.eq_of_isMade {once later : Once α} (became : once.Became later)
    (isMade : once.isMade = true) : later = once := by
  obtain same | ⟨made, asked⟩ := became
  · exact same
  · exact asked.trans (ask_of_isMade isMade made)

/-- A value that was not there has been made once if it is there now, and else never. -/
theorem Became.runs_eq {once later : Once α} (became : once.Became later)
    (unmade : once.isMade = false) :
    later.runs = once.runs + if later.isMade then 1 else 0 := by
  obtain rfl | ⟨made, rfl⟩ := became
  · rw [unmade]
    rfl
  · rw [runs_ask unmade, isMade_ask]
    rfl

end Once

namespace Scene

variable (platform : Platform) (property : String) (scene : Scene)

/-- Where one action alone asks for a value, a list of actions asks for it once if it has that
action. -/
theorem performAll_asks {α : Type} {kept : Scene → Once α} {asking : Action} {made : α}
    (performed : ∀ scene action, kept (perform platform property scene action) =
      if action = asking then (kept scene).ask made else kept scene)
    (actions : List Action) :
    kept (scene.performAll platform property actions) =
      if asking ∈ actions then (kept scene).ask made else kept scene := by
  induction actions generalizing scene with
  | nil => rfl
  | cons action rest ih =>
      refine (ih (scene.perform platform property action)).trans ?_
      rw [performed]
      by_cases first : action = asking
      · simp [first]
      · have apart : asking ≠ action := fun same => first same.symm
        simp [first, apart]

theorem defaultBorder_perform (action : Action) :
    (scene.perform platform property action).shared.defaultBorder =
      if action = .substituteBorderBrush then
        scene.shared.defaultBorder.ask platform.defaultBorder
      else scene.shared.defaultBorder := by
  cases action with
  | refresh =>
      simp only [perform, refresh]
      split <;> rfl
  | note | noteToken =>
      simp only [perform, record]
      split <;> rfl
  | _ => rfl

theorem defaultBorder_performAll (actions : List Action) :
    (scene.performAll platform property actions).shared.defaultBorder =
      if .substituteBorderBrush ∈ actions then
        scene.shared.defaultBorder.ask platform.defaultBorder
      else scene.shared.defaultBorder :=
  @performAll_asks platform property scene Brush (fun scene => scene.shared.defaultBorder)
    .substituteBorderBrush platform.defaultBorder (defaultBorder_perform platform property) actions

theorem decorations_perform (action : Action) :
    (scene.perform platform property action).shared.decorations =
      if action = .askDecorations then scene.shared.decorations.ask platform.decoratesText
      else scene.shared.decorations := by
  cases action with
  | refresh =>
      simp only [perform, refresh]
      split <;> rfl
  | note | noteToken =>
      simp only [perform, record]
      split <;> rfl
  | _ => rfl

theorem decorations_performAll (actions : List Action) :
    (scene.performAll platform property actions).shared.decorations =
      if .askDecorations ∈ actions then scene.shared.decorations.ask platform.decoratesText
      else scene.shared.decorations :=
  @performAll_asks platform property scene Bool (fun scene => scene.shared.decorations)
    .askDecorations platform.decoratesText (decorations_perform platform property) actions

end Scene

end ViewStyle
