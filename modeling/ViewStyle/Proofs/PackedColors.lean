import ViewStyle.Color
import ViewStyle.Proofs.WholeNumbers

/-!
# Packed colours

A number is a colour by the low 32 bits of its integer part. Main statement: the bytes of the colour
are those of the integer part modulo `2 ^ 32`, so signed, unsigned and wrapped forms of one packed
colour give one brush, fractions have no influence, and of the integers that are doubles only those
that agree modulo `2 ^ 32` give the same brush.
-/

set_option autoImplicit false

namespace ViewStyle

namespace Color

/-- The number whose bytes from the top are alpha, red, green and blue. -/
def bigEndian (color : Color) : Nat :=
  [color.alpha, color.red, color.green, color.blue].foldl
    (fun high byte => 256 * high + byte.toNat) 0

theorem bigEndian_ofPacked (packed : UInt32) : (ofPacked packed).bigEndian = packed.toNat := by
  have bounded := packed.toNat_lt
  simp only [bigEndian, ofPacked, List.foldl_cons, List.foldl_nil, UInt8.toNat_ofNat']
  omega

theorem ofPacked_injective {a b : UInt32} (same : ofPacked a = ofPacked b) : a = b := by
  rw [← toPacked_ofPacked a, same, toPacked_ofPacked]

end Color

namespace Binary64

/-- An integer held to the range of a signed 64-bit word. -/
def heldToWord (n : Int) : Int := max Int64.minValue.toInt (min Int64.maxValue.toInt n)

theorem heldToWord_of_small {n : Int} (small : n.natAbs ≤ 1 <<< 53) : heldToWord n = n := by
  have low : Int64.minValue.toInt = -9223372036854775808 := by decide
  have high : Int64.maxValue.toInt = 9223372036854775807 := by decide
  have bound : (1 : Nat) <<< 53 = 9007199254740992 := by decide
  rw [heldToWord, low, high]
  omega

theorem toNat_lowWord {x : Binary64} {n : Int} (truncates : x.TruncatesTo n) :
    (x.lowWord.toNat : Int) = heldToWord n % 4294967296 := by
  rw [lowWord, truncateWithin, ← truncates.eq_truncate, ← heldToWord]
  have nonnegative := Int.emod_nonneg (heldToWord n) (show (4294967296 : Int) ≠ 0 by decide)
  have bounded := Int.emod_lt_of_pos (heldToWord n) (show (0 : Int) < 4294967296 by decide)
  simp only [UInt32.ofInt, UInt32.toNat_ofNat']
  omega

theorem toNat_lowWord_ofInt {n : Int} (small : n.natAbs ≤ 1 <<< 53) :
    ((ofInt n).lowWord.toNat : Int) = n % 4294967296 := by
  rw [toNat_lowWord (truncatesTo_ofInt small), heldToWord_of_small small]

theorem lowWord_eq_of_truncatesTo {x y : Binary64} {n : Int} (first : x.TruncatesTo n)
    (second : y.TruncatesTo n) : x.lowWord = y.lowWord := by
  apply UInt32.toNat_inj.mp
  have same := (toNat_lowWord first).trans (toNat_lowWord second).symm
  omega

theorem lowWord_ofInt_add {c : UInt32} {k : Int}
    (small : (c.toNat + k * 4294967296).natAbs ≤ 1 <<< 53) :
    (ofInt (c.toNat + k * 4294967296)).lowWord = c := by
  have bounded := c.toNat_lt
  have word := toNat_lowWord_ofInt small
  apply UInt32.toNat_inj.mp
  omega

theorem lowWord_ofInt_eq_iff {m n : Int} (mSmall : m.natAbs ≤ 1 <<< 53)
    (nSmall : n.natAbs ≤ 1 <<< 53) :
    (ofInt m).lowWord = (ofInt n).lowWord ↔ m % 4294967296 = n % 4294967296 := by
  rw [← toNat_lowWord_ofInt mSmall, ← toNat_lowWord_ofInt nSmall, Int.natCast_inj,
    UInt32.toNat_inj]

end Binary64

/-- A packed colour read as a signed number lies one turn lower when its top bit is set. -/
theorem toInt_toInt32 (c : UInt32) :
    ∃ k : Int, c.toInt32.toInt = c.toNat + k * 4294967296 ∧ (k = 0 ∨ k = -1) := by
  have signed : c.toInt32.toInt = if 2 * c.toNat < 4294967296 then (c.toNat : Int)
      else c.toNat - 4294967296 := BitVec.toInt_eq_toNat_cond c.toBitVec
  rw [signed]
  split
  · exact ⟨0, by omega, .inl rfl⟩
  · exact ⟨-1, by omega, .inr rfl⟩

namespace Brush

theorem ofNumber_eq_iff (x y : Binary64) : ofNumber x = ofNumber y ↔ x.lowWord = y.lowWord := by
  constructor
  · intro same
    exact Color.ofPacked_injective (Brush.solid.inj same)
  · intro same
    rw [ofNumber, ofNumber, same]

/-- The brush whose colour an integer packs: its bytes are those of the integer, held to the range
of a signed 64-bit word, modulo `2 ^ 32`. -/
def Packs (n : Int) (brush : Brush) : Prop :=
  ∃ color, brush = solid color ∧ (color.bigEndian : Int) = Binary64.heldToWord n % 4294967296

theorem packs_ofNumber {x : Binary64} {n : Int} (truncates : x.TruncatesTo n) :
    Packs n (ofNumber x) := by
  refine ⟨.ofPacked x.lowWord, rfl, ?_⟩
  rw [Color.bigEndian_ofPacked, Binary64.toNat_lowWord truncates]

/-- How numbers are read as packed colours. -/
structure ReadsPacked : Prop where
  bytes : ∀ (x : Binary64) (n : Int), x.TruncatesTo n →
    ∃ color, ofValue? (.number x) = some (solid color) ∧
      (color.bigEndian : Int) = Binary64.heldToWord n % 4294967296
  /-- Every number has exactly one integer part. -/
  integerPart : ∀ x : Binary64, ∃ n, x.TruncatesTo n ∧ ∀ other, x.TruncatesTo other → other = n
  fraction : ∀ (x y : Binary64) (n : Int), x.TruncatesTo n → y.TruncatesTo n →
    ofNumber x = ofNumber y
  /-- Integers up to `2 ^ 53` are doubles. -/
  whole : ∀ n : Int, n.natAbs ≤ 1 <<< 53 → (Binary64.ofInt n).toInt? = some n ∧
    (Binary64.ofInt n).TruncatesTo n
  wrapped : ∀ (c : UInt32) (k : Int), (c.toNat + k * 4294967296).natAbs ≤ 1 <<< 53 →
    ofNumber (.ofInt (c.toNat + k * 4294967296)) = solid (.ofPacked c)
  unsigned : ∀ c : UInt32, ofValue? (toValue c) = some (solid (.ofPacked c))
  signed : ∀ c : UInt32, ofValue? (toValue c.toInt32) = some (solid (.ofPacked c))
  repacked : ∀ c : UInt32, (Color.ofPacked c).toPacked = c
  congruent : ∀ m n : Int, m.natAbs ≤ 1 <<< 53 → n.natAbs ≤ 1 <<< 53 →
    (ofNumber (.ofInt m) = ofNumber (.ofInt n) ↔ m % 4294967296 = n % 4294967296)
  numbers : ∀ value, (ofValue? value).isSome = true ↔ ∃ x, value = .number x

theorem ofNumber_wrapped {c : UInt32} {k : Int}
    (small : (c.toNat + k * 4294967296).natAbs ≤ 1 <<< 53) :
    ofNumber (.ofInt (c.toNat + k * 4294967296)) = solid (.ofPacked c) := by
  rw [ofNumber, Binary64.lowWord_ofInt_add small]

/-- A packed colour is read as itself from its unsigned and from its signed form. -/
theorem ofNumber_turned (c : UInt32) {k : Int} (turns : k = 0 ∨ k = -1) :
    ofNumber (.ofInt (c.toNat + k * 4294967296)) = solid (.ofPacked c) := by
  have bounded := c.toNat_lt
  have bound : (1 : Nat) <<< 53 = 9007199254740992 := by decide
  apply ofNumber_wrapped
  omega

/-- Numbers are read as colours by their integer part modulo `2 ^ 32`, and no channel is lost. -/
theorem reads_packed : ReadsPacked where
  bytes := by
    intro x n truncates
    obtain ⟨color, isSolid, bytes⟩ := packs_ofNumber truncates
    exact ⟨color, congrArg some isSolid, bytes⟩
  integerPart := Binary64.exists_truncatesTo
  fraction := by
    intro x y n first second
    exact (ofNumber_eq_iff x y).mpr (Binary64.lowWord_eq_of_truncatesTo first second)
  whole := by
    intro n small
    exact ⟨Binary64.toInt?_ofInt small, Binary64.truncatesTo_ofInt small⟩
  wrapped := by
    intro c k small
    exact ofNumber_wrapped small
  unsigned := by
    intro c
    have read := ofNumber_turned c (.inl rfl)
    rw [Int.zero_mul, Int.add_zero] at read
    exact congrArg some read
  signed := by
    intro c
    obtain ⟨k, turned, turns⟩ := toInt_toInt32 c
    have read := ofNumber_turned c turns
    rw [← turned] at read
    exact congrArg some read
  repacked := Color.toPacked_ofPacked
  congruent := by
    intro m n mSmall nSmall
    rw [ofNumber_eq_iff, Binary64.lowWord_ofInt_eq_iff mSmall nSmall]
  numbers := by
    intro value
    cases value with
    | number x => exact iff_of_true rfl ⟨x, rfl⟩
    | null | bool | text =>
        refine iff_of_false Bool.false_ne_true ?_
        rintro ⟨x, isNumber⟩
        cases isNumber

end Brush

end ViewStyle
