import ViewStyle.Proofs.Output
import ViewStyle.Proofs.Places

/-!
# Separate pairs

The pairs of a session share the default border brush, the answer about text decorations and the
journal. Main statement: what updates answer, call, record and leave at one pair is what they would
in a session without the others, however the updates of all pairs are interleaved.
-/

set_option autoImplicit false

namespace ViewStyle

namespace Scene

/-- Two scenes that no update can tell apart. What was called and recorded may differ, and a value
that one has made the other may still have to make, if it comes out the same. -/
structure Alike (platform : Platform) (scene other : Scene) : Prop where
  parts : scene.parts = other.parts
  backdrop : scene.backdrop platform = other.backdrop platform

/-- Two scenes went on alike and put out the same calls and entries. -/
structure MovedAlike (platform : Platform) (scene after other otherAfter : Scene) : Prop where
  alike : after.Alike platform otherAfter
  puts : ∃ calls entries, scene.Puts after calls entries ∧ other.Puts otherAfter calls entries

variable {platform : Platform} {scene other : Scene}

theorem Alike.node_eq (alike : scene.Alike platform other) : scene.node = other.node :=
  (Parts.of_injective alike.parts).1

theorem Alike.view_eq (alike : scene.Alike platform other) : scene.view = other.view :=
  (Parts.of_injective alike.parts).2

theorem Alike.defaultBorder_eq (alike : scene.Alike platform other) :
    scene.defaultBorder platform = other.defaultBorder platform :=
  congrArg Backdrop.defaultBorder alike.backdrop

theorem Alike.decoratesText_eq (alike : scene.Alike platform other) :
    scene.decoratesText platform = other.decoratesText platform :=
  congrArg Backdrop.decoratesText alike.backdrop

theorem Alike.stay (alike : scene.Alike platform other) :
    MovedAlike platform scene scene other other :=
  ⟨alike, [], [], Puts.refl scene, Puts.refl other⟩

theorem MovedAlike.trans {middle after otherMiddle otherAfter : Scene}
    (first : MovedAlike platform scene middle other otherMiddle)
    (second : MovedAlike platform middle after otherMiddle otherAfter) :
    MovedAlike platform scene after other otherAfter := by
  obtain ⟨calls, entries, puts, otherPuts⟩ := first.puts
  obtain ⟨laterCalls, laterEntries, laterPuts, otherLaterPuts⟩ := second.puts
  exact ⟨second.alike, _, _, puts.trans laterPuts, otherPuts.trans otherLaterPuts⟩

theorem Alike.performAll (alike : scene.Alike platform other) (property : String)
    (actions : List Action) :
    MovedAlike platform scene (scene.performAll platform property actions) other
      (other.performAll platform property actions) := by
  refine ⟨⟨?_, ?_⟩, _, _, scene.performAll_puts platform property actions, ?_⟩
  · rw [performAll_parts, performAll_parts, alike.parts, alike.backdrop]
  · rw [performAll_backdrop, performAll_backdrop, alike.backdrop]
  · rw [alike.node_eq, alike.defaultBorder_eq]
    exact other.performAll_puts platform property actions

/-- A handler decides by the view and by whether text can be decorated. -/
theorem Alike.actions_eq (alike : scene.Alike platform other) (key : Key) (value : Value) :
    key.actions platform scene value = key.actions platform other value := by
  cases key with
  | borderColor | borderWidth => simp only [Key.actions, alike.view_eq]
  | textDecorationLine => simp only [Key.actions, alike.decoratesText_eq]
  | _ => rfl

theorem Alike.offer (alike : scene.Alike platform other) (group : Group) (update : Update) :
    (scene.offer platform group.handler update).1 =
        (other.offer platform group.handler update).1 ∧
      MovedAlike platform scene (scene.offer platform group.handler update).2 other
        (other.offer platform group.handler update).2 := by
  rcases offer_handler_cases platform update group with ⟨key, -, -, taken⟩ | passed
  · rw [taken scene, taken other, alike.actions_eq]
    exact ⟨rfl, alike.performAll update.name _⟩
  · rw [passed scene, passed other]
    exact ⟨rfl, alike.stay⟩

theorem Alike.apply (alike : scene.Alike platform other) (chain : Chain) (update : Update) :
    (chain.apply platform scene update).1 = (chain.apply platform other update).1 ∧
      MovedAlike platform scene (chain.apply platform scene update).2 other
        (chain.apply platform other update).2 := by
  cases found : chain.property? update with
  | none =>
      rw [chain.apply_of_no_property platform scene update found,
        chain.apply_of_no_property platform other update found]
      exact ⟨rfl, alike.stay⟩
  | some key =>
      rw [chain.apply_of_property platform scene update found,
        chain.apply_of_property platform other update found, carryOut, carryOut,
        alike.actions_eq]
      exact ⟨rfl, alike.performAll update.name _⟩

theorem Alike.applyAll (alike : scene.Alike platform other) (chain : Chain)
    (batch : List Update) :
    (chain.applyAll platform scene batch).1 = (chain.applyAll platform other batch).1 ∧
      MovedAlike platform scene (chain.applyAll platform scene batch).2 other
        (chain.applyAll platform other batch).2 := by
  refine ⟨by rw [Chain.applyAll_count, Chain.applyAll_count], ?_⟩
  induction batch generalizing scene other with
  | nil => exact alike.stay
  | cons update rest ih =>
      have first := (alike.apply chain update).2
      exact first.trans (ih first.alike)

end Scene

/-- A way in which updates are given to a pair. -/
inductive Delivery where
  | single (update : Update)
  | batch (updates : List Update)
  | bag (json : Json)
  /-- An update is given to one handler, outside the chain. -/
  | direct (group : Group) (update : Update)
  /-- The view is given the corner radii of its node. -/
  | corners

/-- The step of a session that a delivery is. -/
def Delivery.step {n : Nat} : Delivery → Session.Step n
  | .single update => .apply update
  | .batch updates => .applyAll updates
  | .bag json => .applyBag json
  | .direct group update => .offer group update
  | .corners => .presentCorners

namespace Session

variable {n m : Nat}

/-- What updates find around the pairs of a session. -/
def backdrop (session : Session n) : Backdrop where
  defaultBorder := session.shared.defaultBorder.answer session.platform.defaultBorder
  decoratesText := session.shared.decorations.answer session.platform.decoratesText

/-- The pairs at a place of one session and at a place of another, which may have other pairs and
another past, are so far the same. -/
structure Alike (session : Session n) (place : Fin n) (other : Session m) (seat : Fin m) :
    Prop where
  chain : session.chain = other.chain
  platform : session.platform = other.platform
  backdrop : session.backdrop = other.backdrop
  pair : session.pair place = other.pair seat

variable {session : Session n} {place taken : Fin n} {other : Session m} {seat : Fin m}

theorem parts_scene (session : Session n) (place : Fin n) :
    (session.scene place).parts = .of (session.pair place).node (session.pair place).view := rfl

theorem backdrop_scene (session : Session n) (place : Fin n) :
    (session.scene place).backdrop session.platform = session.backdrop := rfl

theorem Alike.scene (alike : session.Alike place other seat) :
    (session.scene place).Alike session.platform (other.scene seat) where
  parts := by rw [parts_scene, parts_scene, alike.pair]
  backdrop := by rw [backdrop_scene, alike.platform, backdrop_scene, alike.backdrop]

theorem Alike.adopt (alike : session.Alike place other seat) {after otherAfter : Scene}
    (moved : after.Alike session.platform otherAfter) :
    (session.adopt place after).Alike place (other.adopt seat otherAfter) seat where
  chain := alike.chain
  platform := alike.platform
  backdrop := by
    have ofSession : (session.adopt place after).backdrop = after.backdrop session.platform := rfl
    have ofOther :
        (other.adopt seat otherAfter).backdrop = otherAfter.backdrop other.platform := rfl
    rw [ofSession, ofOther, moved.backdrop, alike.platform]
  pair := by
    obtain ⟨sameNode, sameView⟩ := Parts.of_injective moved.parts
    rw [pair_adopt_self, pair_adopt_self, sameNode, sameView]

/-- What a report says of the pair at which the step was taken, and not of what pairs share. -/
def Report.ofPair (report : Report) : Answer × List Call × List Entry × Pair :=
  (report.answer, report.calls, report.entries, report.pair)

/-- Steps that take over scenes which went on alike are reported alike. -/
theorem Alike.conclude (alike : session.Alike place other seat) {step : Step n}
    {otherStep : Step m} {answer otherAnswer : Answer} {after otherAfter : Scene}
    (taken : session.step place step = session.conclude place answer after)
    (otherTaken : other.step seat otherStep = other.conclude seat otherAnswer otherAfter)
    (sameAnswer : answer = otherAnswer)
    (moved : Scene.MovedAlike session.platform (session.scene place) after (other.scene seat)
      otherAfter) :
    (session.advance place step).1.ofPair = (other.advance seat otherStep).1.ofPair ∧
      (session.advance place step).2.Alike place (other.advance seat otherStep).2 seat := by
  obtain ⟨calls, entries, puts, otherPuts⟩ := moved.puts
  have adopted := alike.adopt moved.alike
  refine ⟨?_, ?_⟩
  · have sameCalls : after.calls = otherAfter.calls := puts.calls.trans otherPuts.calls.symm
    have sameEntries :
        after.shared.journal.entries.drop session.shared.journal.size =
          otherAfter.shared.journal.entries.drop other.shared.journal.size :=
      puts.drop_entries.trans otherPuts.drop_entries.symm
    simp only [advance, taken, otherTaken, Report.ofPair, Session.conclude, Prod.mk.injEq]
    exact ⟨sameAnswer, sameCalls, sameEntries, adopted.pair⟩
  · simp only [advance, taken, otherTaken]
    exact adopted

theorem Alike.advance_batch (alike : session.Alike place other seat) {step : Step n}
    {otherStep : Step m} (updates : List Update)
    (isBatch : session.step place step = session.step place (.applyAll updates))
    (otherIsBatch : other.step seat otherStep = other.step seat (.applyAll updates)) :
    (session.advance place step).1.ofPair = (other.advance seat otherStep).1.ofPair ∧
      (session.advance place step).2.Alike place (other.advance seat otherStep).2 seat := by
  obtain ⟨sameCount, moved⟩ := alike.scene.applyAll session.chain updates
  refine alike.conclude isBatch (otherIsBatch.trans ?_) (congrArg Answer.taken sameCount) moved
  rw [alike.chain, alike.platform]
  rfl

/-- A delivery is reported alike at a pair and at one that is so far the same. -/
theorem Alike.advance_here (alike : session.Alike place other seat) (delivery : Delivery) :
    (session.advance place delivery.step).1.ofPair =
        (other.advance seat delivery.step).1.ofPair ∧
      (session.advance place delivery.step).2.Alike place
        (other.advance seat delivery.step).2 seat := by
  cases delivery with
  | single update =>
      obtain ⟨sameTaker, moved⟩ := alike.scene.apply session.chain update
      refine alike.conclude rfl ?_ (congrArg Answer.taker sameTaker) moved
      rw [alike.chain, alike.platform]
      rfl
  | batch updates => exact alike.advance_batch updates rfl rfl
  | bag json =>
      cases conversion : Update.ofJson json with
      | ok updates =>
          exact alike.advance_batch updates (session.step_applyBag conversion)
            (other.step_applyBag conversion)
      | error error =>
          have here : session.step place (.applyBag json) = (.refused error, [], session) :=
            session.step_applyBag_refused conversion
          have there : other.step seat (.applyBag json) = (.refused error, [], other) :=
            other.step_applyBag_refused conversion
          simp only [advance, Delivery.step, here, there, Report.ofPair, Journal.size,
            List.drop_length, Prod.mk.injEq, true_and]
          exact ⟨alike.pair, alike⟩
  | direct group update =>
      obtain ⟨sameFlag, moved⟩ := alike.scene.offer group update
      refine alike.conclude rfl ?_ (congrArg Answer.flag sameFlag) moved
      rw [alike.platform]
      rfl
  | corners =>
      have moved := alike.scene.performAll "" [.present .corners]
      exact alike.conclude rfl rfl rfl moved

/-- A delivery leaves the chain, the platform and what updates find around the pairs. -/
theorem step_delivery_frame (session : Session n) (taken : Fin n) (delivery : Delivery) :
    (session.step taken delivery.step).2.2.chain = session.chain ∧
      (session.step taken delivery.step).2.2.platform = session.platform ∧
      (session.step taken delivery.step).2.2.backdrop = session.backdrop := by
  have batch (updates : List Update) :
      (session.step taken (.applyAll updates)).2.2.backdrop = session.backdrop :=
    session.chain.backdrop_applyAll session.platform (session.scene taken) updates
  cases delivery with
  | single update =>
      have kept := session.chain.backdrop_apply session.platform (session.scene taken) update
      exact ⟨rfl, rfl, kept⟩
  | batch updates => exact ⟨rfl, rfl, batch updates⟩
  | bag json =>
      cases conversion : Update.ofJson json with
      | ok updates =>
          simp only [Delivery.step, session.step_applyBag conversion]
          exact ⟨rfl, rfl, batch updates⟩
      | error error =>
          simp only [Delivery.step, session.step_applyBag_refused conversion]
          exact ⟨trivial, trivial, trivial⟩
  | direct group update =>
      have kept := (session.scene taken).backdrop_offer session.platform group update
      exact ⟨rfl, rfl, kept⟩
  | corners => exact ⟨rfl, rfl, rfl⟩

theorem Alike.advance_elsewhere (alike : session.Alike place other seat)
    (elsewhere : taken ≠ place) (delivery : Delivery) :
    (session.advance taken delivery.step).2.Alike place other seat := by
  obtain ⟨sameChain, samePlatform, sameBackdrop⟩ := session.step_delivery_frame taken delivery
  exact ⟨sameChain.trans alike.chain, samePlatform.trans alike.platform,
    sameBackdrop.trans alike.backdrop,
    (session.step_pair_of_ne elsewhere delivery.step).trans alike.pair⟩

/-- Deliveries to many pairs come down, at one of them, to the deliveries to that pair alone. -/
theorem Alike.run (alike : session.Alike place other seat)
    (deliveries : List (Fin n × Delivery)) :
    let together := session.run (deliveries.map fun given => (given.1, given.2.step))
    let alone := other.run
      ((deliveries.filter fun given => given.1 = place).map fun given => (seat, given.2.step))
    (((deliveries.zip together.1).filter fun taken => taken.1.1 = place).map
        fun taken => taken.2.ofPair) = alone.1.map Report.ofPair ∧
      together.2.Alike place alone.2 seat := by
  induction deliveries generalizing session other with
  | nil => exact ⟨rfl, alike⟩
  | cons first rest ih =>
      obtain ⟨taken, delivery⟩ := first
      by_cases here : taken = place
      · subst here
        obtain ⟨sameReport, after⟩ := alike.advance_here delivery
        obtain ⟨sameReports, atEnd⟩ := ih after
        simp only [List.map_cons, Session.run, List.zip_cons_cons, List.filter_cons, decide_true,
          if_true, sameReport, sameReports]
        exact ⟨trivial, atEnd⟩
      · have after := alike.advance_elsewhere here delivery
        obtain ⟨sameReports, atEnd⟩ := ih after
        simp only [List.map_cons, Session.run, List.zip_cons_cons, List.filter_cons, here,
          decide_false, Bool.false_eq_true, if_false]
        exact ⟨sameReports, atEnd⟩

theorem start_alike (options : SessionOptions) (place : Fin n) (seat : Fin m) :
    (start n options).Alike place (start m options) seat where
  chain := rfl
  platform := rfl
  backdrop := rfl
  pair := by rw [pair_start, pair_start]

/-- Pairs that share a chain, a default brush, an answer about decorations and a journal do not
influence each other. However updates are spread over the pairs of a session, the answers, calls and
entries that those given to one pair bring, the states of the pair on the way, and how it ends, are
those of a fresh session of the same options, with any number of pairs, in which the updates of that
pair are all that happens. -/
theorem run_eq_run_alone (options : SessionOptions) (deliveries : List (Fin n × Delivery))
    (place : Fin n) (seat : Fin m) :
    let together :=
      (start n options).run (deliveries.map fun given => (given.1, given.2.step))
    let alone := (start m options).run
      ((deliveries.filter fun given => given.1 = place).map fun given => (seat, given.2.step))
    (((deliveries.zip together.1).filter fun taken => taken.1.1 = place).map
        fun taken => taken.2.ofPair) = alone.1.map Report.ofPair ∧
      together.2.pair place = alone.2.pair seat := by
  intro together alone
  obtain ⟨sameReports, atEnd⟩ := (start_alike options place seat).run deliveries
  exact ⟨sameReports, atEnd.pair⟩

end Session

end ViewStyle
