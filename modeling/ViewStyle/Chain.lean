import ViewStyle.Handler.Box
import ViewStyle.Handler.Layout
import ViewStyle.Handler.Paint
import ViewStyle.Handler.Text

/-!
# Chains

A control handles the groups that its view supports. They are tried in the order in which
they were registered, and the first whose handler knows a property takes the update.
-/

set_option autoImplicit false

namespace ViewStyle

namespace Group

def handler : Group → Handler
  | background => Handler.background
  | foreground => Handler.foreground
  | border => Handler.border
  | padding => Handler.padding
  | cornerRadius => Handler.cornerRadius
  | font => Handler.font
  | textAlignment => Handler.textAlignment
  | textTrimming => Handler.textTrimming
  | textDecoration => Handler.textDecoration
  | flowDirection => Handler.flowDirection
  | characterSpacing => Handler.characterSpacing
  | orientation => Handler.orientation
  | mouseEvents => Handler.mouseEvents

/-- What follows the actions of a group within a chain: new radii are shown at once. -/
def followUp : Group → List Action
  | cornerRadius => [.present .corners]
  | _ => []

/-- The handler of a group within a chain. -/
def chained (group : Group) : Handler := fun platform scene update =>
  (group.handler platform scene update).map (· ++ group.followUp)

end Group

namespace Scene

/-- Gives an update to one handler, and says whether it was taken. -/
def offer (platform : Platform) (handler : Handler) (scene : Scene) (update : Update) :
    Bool × Scene :=
  match handler platform scene update with
  | some actions => (true, scene.performAll platform update.name actions)
  | none => (false, scene)

end Scene

/-- The groups that a control handles, in the order in which they are tried. -/
structure Chain where
  groups : List Group
  nodup : groups.Nodup
  deriving DecidableEq, Repr

namespace Chain

def empty : Chain := ⟨[], .nil⟩

instance : Inhabited Chain := ⟨empty⟩

/-- Adds a group behind the others. A group that is already there keeps its place. -/
def register (chain : Chain) (group : Group) : Chain :=
  if present : group ∈ chain.groups then chain
  else
    ⟨chain.groups ++ [group], List.nodup_append.mpr ⟨chain.nodup, by simp, by
      intro listed inChain added isGroup equal
      exact present (List.mem_singleton.mp isGroup ▸ equal ▸ inChain)⟩⟩

/-- The chain of groups registered in an order. -/
def ofList (groups : List Group) : Chain := groups.foldl register empty

def contains (chain : Chain) (group : Group) : Bool := chain.groups.contains group

def size (chain : Chain) : Nat := chain.groups.length

def isEmpty (chain : Chain) : Bool := chain.groups.isEmpty

/-- A chain as it is shown: the names of its groups in brackets. -/
def render (chain : Chain) : String :=
  "[" ++ ", ".intercalate (chain.groups.map Group.name) ++ "]"

/-- Offers an update to the groups one after the other until one takes it. -/
def offerEach (platform : Platform) (scene : Scene) (update : Update) :
    List Group → Option Group × Scene
  | [] => (none, scene)
  | group :: rest =>
    match scene.offer platform group.chained update with
    | (true, after) => (some group, after)
    | (false, after) => offerEach platform after update rest

/-- Applies one update, and names the group that took it. -/
def apply (chain : Chain) (platform : Platform) (scene : Scene) (update : Update) :
    Option Group × Scene :=
  offerEach platform scene update chain.groups

/-- Applies updates in order, and counts those that were taken. -/
def applyAll (chain : Chain) (platform : Platform) (scene : Scene) :
    List Update → Nat × Scene
  | [] => (0, scene)
  | update :: rest =>
    let (taker, after) := chain.apply platform scene update
    let (count, done) := chain.applyAll platform after rest
    ((if taker.isSome then 1 else 0) + count, done)

end Chain

end ViewStyle
