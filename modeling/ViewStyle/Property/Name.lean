import ViewStyle.Property.Key

/-!
# Property names

The names that updates arrive under. Each name stands for one key. Border widths have no
names for an axis, and two keys have two names each: the writing direction and the
spacing of characters.
-/

set_option autoImplicit false

namespace ViewStyle

namespace Key

/-- Every recognized name with its key. -/
def names : List (String × Key) :=
  [("backgroundColor", .backgroundColor),
    ("color", .color),
    ("borderColor", .borderColor),
    ("borderWidth", .borderWidth .all),
    ("borderLeftWidth", .borderWidth .left),
    ("borderTopWidth", .borderWidth .top),
    ("borderRightWidth", .borderWidth .right),
    ("borderBottomWidth", .borderWidth .bottom),
    ("borderStartWidth", .borderWidth .leading),
    ("borderEndWidth", .borderWidth .trailing),
    ("padding", .padding .all),
    ("paddingHorizontal", .padding .horizontal),
    ("paddingVertical", .padding .vertical),
    ("paddingLeft", .padding .left),
    ("paddingTop", .padding .top),
    ("paddingRight", .padding .right),
    ("paddingBottom", .padding .bottom),
    ("paddingStart", .padding .leading),
    ("paddingEnd", .padding .trailing),
    ("borderRadius", .borderRadius .all),
    ("borderTopLeftRadius", .borderRadius .topLeft),
    ("borderTopRightRadius", .borderRadius .topRight),
    ("borderTopStartRadius", .borderRadius .topLeading),
    ("borderTopEndRadius", .borderRadius .topTrailing),
    ("borderBottomLeftRadius", .borderRadius .bottomLeft),
    ("borderBottomRightRadius", .borderRadius .bottomRight),
    ("borderBottomStartRadius", .borderRadius .bottomLeading),
    ("borderBottomEndRadius", .borderRadius .bottomTrailing),
    ("fontSize", .fontSize),
    ("fontFamily", .fontFamily),
    ("fontWeight", .fontWeight),
    ("fontStyle", .fontStyle),
    ("textAlign", .textAlign),
    ("ellipsizeMode", .ellipsizeMode),
    ("textDecorationLine", .textDecorationLine),
    ("direction", .direction),
    ("writingDirection", .direction),
    ("letterSpacing", .characterSpacing),
    ("characterSpacing", .characterSpacing),
    ("orientation", .orientation),
    ("onMouseEnter", .mouse .enter),
    ("onMouseLeave", .mouse .leave),
    ("onMouseMove", .mouse .move)]

theorem names_nodup : (names.map Prod.fst).Nodup := by decide

/-- The key of a name, if it is recognized. Capitals matter, and so do blanks. -/
def ofName? (name : String) : Option Key := names.lookup name

/-- The recognized names with their keys, in the order of the names. -/
def sortedNames : List (String × Key) :=
  names.mergeSort fun a b => decide (a.1 ≤ b.1)

end Key

/-- The group that handles the property of a name, if it is recognized. -/
def Group.ofName? (name : String) : Option Group := (Key.ofName? name).map Key.group

end ViewStyle
