import ViewStyle.Bag
import ViewStyle.Chain

/-!
# Sessions

A session has one chain and several pairs of a node and a view, which share the default border
brush, the answer about text decorations and the journal. Its steps are updates, questions, and
what the host does on its own: writing to nodes and views, and replacing parts.
-/

set_option autoImplicit false

namespace ViewStyle

/-- A node and the view it is shown by. -/
structure Pair where
  node : Node := {}
  view : View := {}
  deriving DecidableEq, Repr, Inhabited

/-- What a session is started with. -/
structure SessionOptions where
  /-- The groups in the order of their registration, repetitions included. -/
  groups : List Group
  hasSecondaryBrushes : Bool := true
  keepsJournal : Bool := true
  /-- What the host's check for text decorations answers at first; without a check, the answer is
  always yes. -/
  decorationCheck : Option Bool := none
  /-- The default border brush that the host makes; without one, it is black. -/
  defaultBorder : Option Brush := none
  deriving DecidableEq, Repr

/-- The state of a session with `n` pairs. -/
structure Session (n : Nat) where
  options : SessionOptions
  chain : Chain
  /-- What the host's check answers now, if there is one. -/
  decorationCheck : Option Bool
  shared : Shared := {}
  pairs : Vector Pair n
  deriving DecidableEq, Repr

namespace Session

variable {n : Nat}

def start (n : Nat) (options : SessionOptions) : Session n where
  options := options
  chain := .ofList options.groups
  decorationCheck := options.decorationCheck
  pairs := Vector.replicate n {}

/-- What updates are carried out for at this moment. -/
def platform (session : Session n) : Platform where
  defaultBorder := session.options.defaultBorder.getD .black
  decoratesText := session.decorationCheck.getD true
  hasSecondaryBrushes := session.options.hasSecondaryBrushes
  keepsJournal := session.options.keepsJournal

/-- What an update of one pair can see or touch. -/
def scene (session : Session n) (place : Fin n) : Scene where
  node := session.pairs[place].node
  view := session.pairs[place].view
  shared := session.shared

/-- Takes a pair and what is shared over from a scene. -/
def adopt (session : Session n) (place : Fin n) (scene : Scene) : Session n :=
  { session with
    shared := scene.shared
    pairs := session.pairs.set place ⟨scene.node, scene.view⟩ }

/-- How often the host has made the default border brush. -/
def brushRuns (session : Session n) : Nat :=
  if session.options.defaultBorder.isSome then session.shared.defaultBorder.runs else 0

/-- How often the host's check for text decorations has run. -/
def checkRuns (session : Session n) : Nat :=
  if session.options.decorationCheck.isSome then session.shared.decorations.runs else 0

/-- A step of a session, taken at one of its pairs. -/
inductive Step (n : Nat) where
  | apply (update : Update)
  | applyAll (updates : List Update)
  /-- Apply a bag through the chain, if it converts. -/
  | applyBag (bag : Json)
  /-- Offer an update to one handler outside the chain. -/
  | offer (group : Group) (update : Update)
  | presentCorners
  | lookUp (name : String)
  | askDecorations
  /-- Look at the kept answer about text decorations without asking. -/
  | peekDecorations
  | askDefaultBorder
  /-- Tell the owner of the secondary brushes of the brush of a value. -/
  | refresh (paint : Paint) (value : Value)
  /-- From now on the host's check gives another answer. -/
  | setCheck (answer : Bool)
  | forgetDecorations
  | showChain
  | resetView
  | resetNode
  /-- The host paints the border with the brush of a value. -/
  | paintBorder (value : Value)
  | setThickness (thickness : Insets)
  | write (write : NodeWrite)
  | setInterest (interest : MouseInterest)
  | copyNode (source : Fin n)
  | compareNode (other : Fin n)
  | journal (query : Journal.Query)
  deriving Repr

inductive Answer where
  | done
  | taker (group : Option Group)
  | taken (count : Nat)
  | refused (error : UnsupportedValue)
  | flag (flag : Bool)
  | key (key : Option Key)
  | keptDecorations (names : Nat) (answer : Option Bool)
  | brush (brush : Brush)
  | chain (chain : Chain)
  | journal (answer : Journal.Answer)
  deriving DecidableEq, Repr

/-- Takes over a scene that gave an answer. -/
def conclude (session : Session n) (place : Fin n) (answer : Answer) (scene : Scene) :
    Answer × List Call × Session n :=
  (answer, scene.calls, session.adopt place scene)

/-- Changes a pair on behalf of the host, which makes no calls. -/
def editPair (session : Session n) (place : Fin n) (edit : Pair → Pair) :
    Answer × List Call × Session n :=
  (.done, [], { session with pairs := session.pairs.set place (edit session.pairs[place]) })

/-- Takes a step at a pair. Gives the answer, the calls made and the session afterwards. -/
def step (session : Session n) (place : Fin n) : Step n → Answer × List Call × Session n
  | .apply update =>
    let (taker, scene) := session.chain.apply session.platform (session.scene place) update
    session.conclude place (.taker taker) scene
  | .applyAll updates =>
    let (count, scene) := session.chain.applyAll session.platform (session.scene place) updates
    session.conclude place (.taken count) scene
  | .applyBag bag =>
    match Update.ofJson bag with
    | .error error => (.refused error, [], session)
    | .ok updates =>
      let (count, scene) := session.chain.applyAll session.platform (session.scene place) updates
      session.conclude place (.taken count) scene
  | .offer group update =>
    let (taken, scene) := (session.scene place).offer session.platform group.handler update
    session.conclude place (.flag taken) scene
  | .presentCorners =>
    let scene := session.scene place
    session.conclude place .done (scene.change (scene.node.presented .corners))
  | .lookUp name => (.key (Key.ofName? name), [], session)
  | .askDecorations =>
    let scene := session.scene place
    session.conclude place (.flag (scene.decoratesText session.platform))
      (scene.askDecorations session.platform)
  | .peekDecorations =>
    (.keptDecorations Key.names.length session.shared.decorations.kept?, [], session)
  | .askDefaultBorder =>
    let scene := session.scene place
    session.conclude place (.brush (scene.defaultBorder session.platform))
      (scene.askDefaultBorder session.platform)
  | .refresh paint value =>
    session.conclude place .done
      ((session.scene place).refresh session.platform paint (Brush.ofValue? value))
  | .setCheck answer =>
    (.done, [], { session with decorationCheck := session.decorationCheck.map fun _ => answer })
  | .forgetDecorations =>
    (.done, [], { session with shared.decorations := session.shared.decorations.forget })
  | .showChain => (.chain session.chain, [], session)
  | .resetView => session.editPair place fun pair => { pair with view := {} }
  | .resetNode => session.editPair place fun pair => { pair with node := {} }
  | .paintBorder value =>
    session.editPair place fun pair =>
      { pair with view.borderBrush := Brush.ofValue? value }
  | .setThickness thickness =>
    session.editPair place fun pair => { pair with view.borderThickness := thickness }
  | .write write =>
    session.editPair place fun pair => { pair with node := pair.node.write write }
  | .setInterest interest =>
    session.editPair place fun pair => { pair with node.mouse := interest }
  | .copyNode source =>
    session.editPair place fun pair => { pair with node := session.pairs[source].node }
  | .compareNode other =>
    (.flag (session.pairs[place].node.same session.pairs[other].node), [], session)
  | .journal query =>
    let (answer, journal) := session.shared.journal.answer query
    (.journal answer, [], { session with shared.journal := journal })

/-- What can be seen of a session after a step. -/
structure Report where
  answer : Answer
  calls : List Call
  /-- The entries that the step added to the journal. -/
  entries : List Entry
  /-- The pair at which the step was taken. -/
  pair : Pair
  defaultBorderMade : Bool
  brushRuns : Nat
  checkRuns : Nat
  deriving DecidableEq, Repr

/-- Takes a step at a pair and reports it. -/
def advance (session : Session n) (place : Fin n) (step : Step n) : Report × Session n :=
  let (answer, calls, after) := session.step place step
  ({ answer, calls
     entries := after.shared.journal.entries.drop session.shared.journal.size
     pair := after.pairs[place]
     defaultBorderMade := after.shared.defaultBorder.isMade
     brushRuns := after.brushRuns
     checkRuns := after.checkRuns }, after)

/-- Takes steps in order and reports each. -/
def run (session : Session n) : List (Fin n × Step n) → List Report × Session n
  | [] => ([], session)
  | (place, step) :: rest =>
    let (report, after) := session.advance place step
    let (reports, last) := after.run rest
    (report :: reports, last)

end Session

end ViewStyle
