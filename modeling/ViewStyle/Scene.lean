import ViewStyle.Journal
import ViewStyle.Node
import ViewStyle.Once
import ViewStyle.View

/-!
# Scenes and actions

A scene is all that an update can see or touch: one node and its view, what is shared with
other pairs, and the calls that have reached the native side. An update is decided first, as a
list of actions, and then carried out on the scene, action by action.
-/

set_option autoImplicit false

namespace ViewStyle

/-- What updates are carried out for. -/
structure Platform where
  /-- The brush of borders that have a width and no colour. -/
  defaultBorder : Brush := .black
  /-- What the toolkit answers now when asked whether it can decorate text. -/
  decoratesText : Bool := true
  /-- Whether the views have secondary brushes, whose owner is told of new brushes. -/
  hasSecondaryBrushes : Bool := false
  keepsJournal : Bool := false
  deriving DecidableEq, Repr, Inhabited

/-- What all pairs of a node and a view have in common. -/
structure Shared where
  /-- The default border brush, made when it is first needed. -/
  defaultBorder : Once Brush := {}
  /-- Whether text can be decorated, asked when that first matters. -/
  decorations : Once Bool := {}
  journal : Journal := {}
  deriving DecidableEq, Repr, Inhabited

/-- All that an update can see or touch. -/
structure Scene where
  node : Node := {}
  view : View := {}
  shared : Shared := {}
  /-- The calls made so far, the oldest first. -/
  calls : List Call := []
  deriving DecidableEq, Repr, Inhabited

/-- The parts of a node that are resolved before a view sees them. -/
inductive BoxPart where
  | padding
  | border
  | corners
  deriving DecidableEq, Repr, Inhabited

/-- One step in carrying out an update. -/
inductive Action where
  | write (write : NodeWrite)
  | change (change : Change)
  /-- Resolve a part of the node and give the result to the view. -/
  | present (part : BoxPart)
  | substituteBorderBrush
  | refresh (paint : Paint) (brush : Option Brush)
  | askDecorations
  | note (outcome : Outcome)
  /-- Record a text that is no token of the property. -/
  | noteToken (token : String)
  deriving DecidableEq, Repr

/-- The change that gives a part of a node to its view. -/
def Node.presented (node : Node) : BoxPart → Change
  | .padding => .padding node.padding.insets
  | .border => .borderThickness node.border.insets
  | .corners => .cornerRadius node.corners.radii

namespace Scene

def decoratesText (scene : Scene) (platform : Platform) : Bool :=
  scene.shared.decorations.answer platform.decoratesText

def defaultBorder (scene : Scene) (platform : Platform) : Brush :=
  scene.shared.defaultBorder.answer platform.defaultBorder

/-- Calls for a change to the view. -/
def change (scene : Scene) (change : Change) : Scene :=
  { scene with view := scene.view.change change, calls := scene.calls ++ [.change change] }

def askDefaultBorder (scene : Scene) (platform : Platform) : Scene :=
  { scene with
    shared.defaultBorder := scene.shared.defaultBorder.ask platform.defaultBorder }

def askDecorations (scene : Scene) (platform : Platform) : Scene :=
  { scene with shared.decorations := scene.shared.decorations.ask platform.decoratesText }

/-- Tells the owner of the secondary brushes, if there is one. -/
def refresh (scene : Scene) (platform : Platform) (paint : Paint) (brush : Option Brush) :
    Scene :=
  if platform.hasSecondaryBrushes then
    { scene with calls := scene.calls ++ [.refresh paint brush] }
  else scene

/-- Records a decision, if decisions are recorded. -/
def record (scene : Scene) (platform : Platform) (entry : Entry) : Scene :=
  if platform.keepsJournal then
    { scene with shared.journal := scene.shared.journal.record entry }
  else scene

/-- Carries out one action for an update of a property. -/
def perform (platform : Platform) (property : String) (scene : Scene) : Action → Scene
  | .write write => { scene with node := scene.node.write write }
  | .change change => scene.change change
  | .present part => scene.change (scene.node.presented part)
  | .substituteBorderBrush =>
    (scene.askDefaultBorder platform).change
      (.brush .border (some (scene.defaultBorder platform)))
  | .refresh paint brush => scene.refresh platform paint brush
  | .askDecorations => scene.askDecorations platform
  | .note outcome => scene.record platform ⟨property, outcome, none⟩
  | .noteToken token => scene.record platform ⟨property, .unrecognizedToken, some token⟩

def performAll (platform : Platform) (property : String) (scene : Scene)
    (actions : List Action) : Scene :=
  actions.foldl (perform platform property) scene

end Scene

end ViewStyle
