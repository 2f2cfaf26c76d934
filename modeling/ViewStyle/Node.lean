import ViewStyle.Property.Key

/-!
# Nodes

A node keeps what a view cannot: every slot of its box properties, so that a broad width and
a narrow one add up whichever came first, and the pointer events that it asks for.
-/

set_option autoImplicit false

namespace ViewStyle

/-- The pointer events a node asks for. -/
structure MouseInterest where
  enter : Bool := false
  leave : Bool := false
  move : Bool := false
  deriving DecidableEq, Repr, Inhabited

namespace MouseInterest

def set (interest : MouseInterest) (wanted : Bool) : MouseEvent → MouseInterest
  | .enter => { interest with enter := wanted }
  | .leave => { interest with leave := wanted }
  | .move => { interest with move := wanted }

def wants (interest : MouseInterest) : MouseEvent → Bool
  | .enter => interest.enter
  | .leave => interest.leave
  | .move => interest.move

def every : MouseInterest := ⟨true, true, true⟩

/-- The events as a number: one for enter, two for leave, four for move. -/
def bits (interest : MouseInterest) : Nat :=
  interest.enter.toNat + 2 * interest.leave.toNat + 4 * interest.move.toNat

/-- The events of a number. Bits that stand for no event are dropped. -/
def ofBits (bits : Nat) : MouseInterest :=
  ⟨bits.testBit 0, bits.testBit 1, bits.testBit 2⟩

end MouseInterest

/-- What a node keeps between updates. -/
structure Node where
  padding : Slots Edge := .empty
  border : Slots Edge := .empty
  corners : Slots Corner := .empty
  mouse : MouseInterest := {}
  deriving DecidableEq, Repr, Inhabited

inductive NodeWrite where
  | padding (edge : Edge) (width : Option Binary64)
  | border (edge : Edge) (width : Option Binary64)
  | corner (corner : Corner) (radius : Option Binary64)
  | mouse (event : MouseEvent) (wanted : Bool)
  deriving DecidableEq, Repr

namespace Node

def write (node : Node) : NodeWrite → Node
  | .padding edge width => { node with padding := node.padding.set edge width }
  | .border edge width => { node with border := node.border.set edge width }
  | .corner corner radius => { node with corners := node.corners.set corner radius }
  | .mouse event wanted => { node with mouse := node.mouse.set wanted event }

/-- Equality of nodes, where slots are compared as numbers. -/
def same (a b : Node) : Bool :=
  a.padding.same b.padding && a.border.same b.border && a.corners.same b.corners &&
    a.mouse == b.mouse

end Node

end ViewStyle
