import Mathlib.Data.List.FinRange
import Mathlib.Logic.Equiv.Defs
import ViewStyle.Proofs.Commutation
import ViewStyle.Proofs.Simulation

/-!
# Order of arrival

Main statement: a batch can arrive in any order that keeps the updates of each property in theirs,
and null border colours in theirs among the border widths. The node and the view then end the same.
-/

set_option autoImplicit false

namespace ViewStyle

section Folds

variable {State : Type}

/-- A move may come first if it may change places with all that stand before it. -/
theorem foldl_bubble {α : Type} {move : State → α → State} {first : α} (front back : List α)
    (free : ∀ other ∈ front, ∀ state,
      move (move state other) first = move (move state first) other)
    (state : State) :
    (front ++ first :: back).foldl move state = (front ++ back).foldl move (move state first) := by
  induction front generalizing state with
  | nil => rfl
  | cons other rest ih =>
      have later := ih (fun another member => free another (List.mem_cons_of_mem other member))
        (move state other)
      rw [free other List.mem_cons_self state] at later
      exact later

/-- Moves end the same in every order in which only moves that may change places are reversed. -/
theorem foldl_of_inOrder {n : Nat} {tied : Fin n → Fin n → Prop} {move : State → Fin n → State}
    (free : ∀ first second, ¬tied first second → ∀ state,
      move (move state second) first = move (move state first) second)
    {source target : List (Fin n)} (sorted : source.Pairwise (· < ·))
    (same : target.Perm source)
    (inOrder : target.Pairwise fun first second => second < first → ¬tied second first)
    (state : State) : target.foldl move state = source.foldl move state := by
  induction source generalizing target state with
  | nil => rw [same.eq_nil]
  | cons first rest ih =>
      obtain ⟨firstBelow, restSorted⟩ := List.pairwise_cons.mp sorted
      obtain ⟨front, back, rfl⟩ := List.append_of_mem (same.mem_iff.mpr List.mem_cons_self)
      have restSame : (front ++ back).Perm rest := (List.perm_middle.symm.trans same).cons_inv
      have frontFree : ∀ other ∈ front, ¬tied first other := by
        intro other member
        have below := firstBelow other (restSame.mem_iff.mp (List.mem_append_left back member))
        exact (List.pairwise_append.mp inOrder).2.2 other member first List.mem_cons_self below
      have restInOrder := inOrder.sublist
        ((List.Sublist.refl front).append (List.sublist_cons_self first back))
      rw [foldl_bubble front back fun other member => free first other (frontFree other member)]
      exact ih restSorted restSame restInOrder (move state first)

end Folds

namespace Update

/-- Whether the update takes the colour from the border. -/
def clearsBorderColor (update : Update) : Bool :=
  Key.ofName? update.name == some .borderColor && update.value.isNull

/-- Whether the update is of the width of an edge of the border. -/
def setsBorderWidth (update : Update) : Bool :=
  (Key.ofName? update.name).any Key.isBorderWidth

/-- Updates that have to keep their order: those of one property, under whatever names, and a null
border colour with a border width. -/
def Tied (first second : Update) : Prop :=
  (Key.ofName? first.name).isSome = true ∧ Key.ofName? first.name = Key.ofName? second.name ∨
    first.clearsBorderColor = true ∧ second.setsBorderWidth = true ∨
    first.setsBorderWidth = true ∧ second.clearsBorderColor = true

instance (first second : Update) : Decidable (first.Tied second) :=
  inferInstanceAs (Decidable (_ ∨ _))

end Update

namespace Chain

variable (chain : Chain)

theorem through_comm (backdrop : Backdrop) {first second : Update} (free : ¬first.Tied second)
    (parts : Parts) :
    chain.through (Key.effect backdrop) (chain.through (Key.effect backdrop) parts second) first =
      chain.through (Key.effect backdrop) (chain.through (Key.effect backdrop) parts first)
        second := by
  cases firstFound : chain.property? first with
  | none => simp only [through_of_no_property _ _ firstFound]
  | some key =>
      cases secondFound : chain.property? second with
      | none => simp only [through_of_no_property _ _ secondFound]
      | some other =>
          obtain ⟨firstKnown, -⟩ := (chain.property?_eq_some_iff first key).mp firstFound
          obtain ⟨secondKnown, -⟩ := (chain.property?_eq_some_iff second other).mp secondFound
          have different : key ≠ other := by
            rintro rfl
            exact free (.inl ⟨by rw [firstKnown]; rfl, firstKnown.trans secondKnown.symm⟩)
          have firstKeeps : key = .borderColor → other.isBorderWidth = true →
              first.value.isNull = false := by
            intro isColor isWidth
            by_contra isNull
            have clears : first.clearsBorderColor = true := by
              simpa [Update.clearsBorderColor, firstKnown, isColor] using isNull
            have sets : second.setsBorderWidth = true := by
              simpa [Update.setsBorderWidth, secondKnown] using isWidth
            exact free (.inr (.inl ⟨clears, sets⟩))
          have secondKeeps : other = .borderColor → key.isBorderWidth = true →
              second.value.isNull = false := by
            intro isColor isWidth
            by_contra isNull
            have clears : second.clearsBorderColor = true := by
              simpa [Update.clearsBorderColor, secondKnown, isColor] using isNull
            have sets : first.setsBorderWidth = true := by
              simpa [Update.setsBorderWidth, firstKnown] using isWidth
            exact free (.inr (.inr ⟨sets, clears⟩))
          simp only [through_of_property _ _ firstFound, through_of_property _ _ secondFound]
          exact (Key.effect_comm backdrop different firstKeeps secondKeeps parts).symm

variable (platform : Platform) (scene : Scene)

/-- The order of arrival does not matter beyond that of tied updates: after two batches with the
same updates at other places, in which tied updates stand in the same order, as many have been
taken, and the node and the view are the same. -/
theorem applyAll_of_inOrder (before after : List Update)
    (place : Fin before.length ≃ Fin after.length)
    (moved : ∀ i, after[place i] = before[i])
    (inOrder : ∀ i j, i < j → before[i].Tied before[j] → place i < place j) :
    (chain.applyAll platform scene before).1 = (chain.applyAll platform scene after).1 ∧
    (chain.applyAll platform scene before).2.node = (chain.applyAll platform scene after).2.node ∧
    (chain.applyAll platform scene before).2.view =
      (chain.applyAll platform scene after).2.view := by
  -- Both batches are read by the places in the first.
  let source := List.finRange before.length
  let target := (List.finRange after.length).map place.symm
  have beforeRead : before = source.map before.get := (List.map_get_finRange before).symm
  have afterRead : after = target.map before.get := by
    rw [List.map_map]
    refine (List.map_get_finRange after).symm.trans (List.map_congr_left fun j _ => ?_)
    simpa using moved (place.symm j)
  have same : target.Perm source := by
    refine (List.perm_ext_iff_of_nodup ?_ (List.nodup_finRange _)).mpr fun i => ?_
    · exact (List.nodup_finRange _).map place.symm.injective
    · simpa [source, target] using place.symm.surjective i
  have targetInOrder : target.Pairwise fun first second =>
      second < first → ¬before[second].Tied before[first] := by
    refine List.pairwise_map.mpr ((List.pairwise_lt_finRange _).imp fun below reversed tied => ?_)
    have above := inOrder _ _ reversed tied
    simp only [Equiv.apply_symm_apply] at above
    exact absurd above (Nat.lt_asymm below)
  have parts : (chain.applyAll platform scene before).2.parts =
      (chain.applyAll platform scene after).2.parts := by
    rw [parts_applyAll, parts_applyAll, beforeRead, afterRead, List.foldl_map, List.foldl_map]
    exact (foldl_of_inOrder (fun first second free => chain.through_comm _ free)
      (List.pairwise_lt_finRange _) same targetInOrder scene.parts).symm
  refine ⟨?_, Parts.of_injective parts⟩
  rw [applyAll_count, applyAll_count, beforeRead, afterRead]
  exact (same.symm.map before.get).countP_eq _

/-- A padding may come before a border width and a null colour, which stay in their order. -/
theorem applyAll_padding_first :
    let before : List Update :=
      [⟨"borderWidth", .number ⟨0x4000000000000000⟩⟩, ⟨"borderColor", .null⟩,
        ⟨"paddingTop", .number .minusOne⟩]
    let after : List Update :=
      [⟨"paddingTop", .number .minusOne⟩, ⟨"borderWidth", .number ⟨0x4000000000000000⟩⟩,
        ⟨"borderColor", .null⟩]
    let place : Fin before.length ≃ Fin after.length :=
      { toFun := fun i => i + (1 : Fin 3)
        invFun := fun j => j - (1 : Fin 3)
        left_inv := by unfold Function.LeftInverse; decide
        right_inv := by unfold Function.RightInverse Function.LeftInverse; decide }
    (∀ i, after[place i] = before[i]) ∧
    (∀ i j, i < j → before[i].Tied before[j] → place i < place j) ∧
    ((ofList Group.every).applyAll {} {} before).2.view =
      ((ofList Group.every).applyAll {} {} after).2.view := by
  intro before after place
  have moved : ∀ i, after[place i] = before[i] := by decide +kernel
  have inOrder : ∀ i j, i < j → before[i].Tied before[j] → place i < place j := by
    decide +kernel
  have result := applyAll_of_inOrder (ofList Group.every) {} {} before after place moved inOrder
  exact ⟨moved, inOrder, result.2.2⟩

end Chain

end ViewStyle
