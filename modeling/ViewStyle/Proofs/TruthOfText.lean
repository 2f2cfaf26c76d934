import Mathlib.Data.List.DropRight
import Mathlib.Data.List.Forall2
import ViewStyle.Proofs.Dispatch
import ViewStyle.Proofs.Parts

/-!
# The truth of a text

Blanks around a text and the case of its Latin letters make no difference to its truth, nor to what
the pointer events make of it. Blanks inside and letters of other scripts do.
-/

set_option autoImplicit false

namespace ViewStyle

namespace Text

/-- The characters with the Unicode property `White_Space`. -/
def WhiteSpace (c : Char) : Prop :=
  (0x0009 ≤ c.toNat ∧ c.toNat ≤ 0x000D) ∨ c.toNat = 0x0020 ∨ c.toNat = 0x0085 ∨ c.toNat = 0x00A0 ∨
    c.toNat = 0x1680 ∨ (0x2000 ≤ c.toNat ∧ c.toNat ≤ 0x200A) ∨
    (0x2028 ≤ c.toNat ∧ c.toNat ≤ 0x2029) ∨ c.toNat = 0x202F ∨ c.toNat = 0x205F ∨ c.toNat = 0x3000

theorem isBlank_iff (c : Char) : isBlank c = true ↔ WhiteSpace c := by
  have single (k n : Nat) : k ≤ n ∧ n ≤ k ↔ n = k := by omega
  simp only [isBlank, inRanges_iff, blankRanges, WhiteSpace, List.mem_cons, List.not_mem_nil,
    or_false, exists_eq_or_imp, exists_eq_left, single]

theorem isBlank_eq_false_iff (c : Char) : isBlank c = false ↔ ¬WhiteSpace c := by
  rw [← isBlank_iff, Bool.not_eq_true]

def Blank (s : String) : Prop := ∀ c ∈ s.toList, WhiteSpace c

/-- `core` is `s` without the blanks around it. -/
structure Trimmed (s core : String) : Prop where
  around : ∃ front back, Blank front ∧ Blank back ∧ s = front ++ core ++ back
  first : ∀ c ∈ core.toList.head?, ¬WhiteSpace c
  last : ∀ c ∈ core.toList.getLast?, ¬WhiteSpace c

/-- `t` is `s` with any of its Latin letters made small or capital. -/
def Recased (s t : String) : Prop :=
  List.Forall₂ (fun a b => b = a ∨ b = a.toLower ∨ b = a.toUpper) s.toList t.toList

/-- `t` is `s` recased, with blanks around it. -/
def Variant (s t : String) : Prop :=
  ∃ front core back, Blank front ∧ Blank back ∧ Recased s core ∧ t = front ++ core ++ back

section Trimming

theorem not_whiteSpace_head?_dropWhile (cs : List Char) :
    ∀ c ∈ (cs.dropWhile isBlank).head?, ¬WhiteSpace c := by
  intro c found
  have stopped := List.head?_dropWhile_not isBlank cs
  rw [Option.mem_def.mp found] at stopped
  exact (isBlank_eq_false_iff c).mp stopped

theorem trimmed_trim (s : String) : Trimmed s (trim s) := by
  let opened := s.toList.dropWhile isBlank
  have isTrim : (trim s).toList = opened.rdropWhile isBlank := String.toList_ofList
  refine ⟨?around, ?first, ?last⟩
  case around =>
    refine ⟨.ofList (s.toList.takeWhile isBlank), .ofList (opened.rtakeWhile isBlank), ?_, ?_, ?_⟩
    · intro c member
      rw [String.toList_ofList] at member
      exact (isBlank_iff c).mp (List.mem_takeWhile_imp member)
    · intro c member
      rw [String.toList_ofList] at member
      exact (isBlank_iff c).mp (List.mem_rtakeWhile_imp member)
    · apply String.toList_inj.mp
      rw [String.toList_append, String.toList_append, isTrim, String.toList_ofList,
        String.toList_ofList, List.append_assoc, List.rdropWhile_append_rtakeWhile,
        List.takeWhile_append_dropWhile]
  case first =>
    intro c found
    rw [isTrim] at found
    obtain ⟨rest, whole⟩ := List.rdropWhile_prefix isBlank (l := opened)
    refine not_whiteSpace_head?_dropWhile s.toList c ?_
    -- What is left at the end starts as it did before the blanks behind it went.
    change c ∈ opened.head?
    rw [← whole, List.head?_append, Option.mem_def.mp found]
    rfl
  case last =>
    intro c found
    rw [isTrim, List.rdropWhile, List.getLast?_reverse] at found
    exact not_whiteSpace_head?_dropWhile _ c found

theorem trimBlanks_surrounded {front back : List Char} (cs : List Char)
    (blankFront : ∀ c ∈ front, isBlank c = true) (blankBack : ∀ c ∈ back, isBlank c = true) :
    trimBlanks (front ++ cs ++ back) = trimBlanks cs := by
  rw [List.append_assoc, trimBlanks, List.dropWhile_append_of_pos blankFront,
    List.dropWhile_append]
  -- Where all is blank, the first pass from the front takes the back along.
  split
  · next allBlank =>
    have nothing : back.dropWhile isBlank = [] := List.dropWhile_eq_nil_iff.mpr blankBack
    rw [nothing, trimBlanks, List.isEmpty_iff.mp allBlank]
  · have blankEnd : ∀ c ∈ back.reverse, isBlank c = true :=
      fun c member => blankBack c (List.mem_reverse.mp member)
    rw [List.reverse_append, List.dropWhile_append_of_pos blankEnd, trimBlanks]

theorem trim_surrounded {front back : String} (s : String) (blankFront : Blank front)
    (blankBack : Blank back) : trim (front ++ s ++ back) = trim s := by
  rw [trim, String.toList_append, String.toList_append, trimBlanks_surrounded s.toList
    (fun c member => (isBlank_iff c).mpr (blankFront c member))
    (fun c member => (isBlank_iff c).mpr (blankBack c member)), trim]

theorem trim_of_ends {s : String} (first : ∀ c ∈ s.toList.head?, ¬WhiteSpace c)
    (last : ∀ c ∈ s.toList.getLast?, ¬WhiteSpace c) : trim s = s := by
  have closed : ∀ cs : List Char, (∀ c ∈ cs.head?, ¬WhiteSpace c) →
      cs.dropWhile isBlank = cs := by
    intro cs solid
    cases cs with
    | nil => rfl
    | cons c rest =>
        refine List.dropWhile_cons_of_neg fun blank => ?_
        exact solid c rfl ((isBlank_iff c).mp blank)
  have solidEnd : ∀ c ∈ s.toList.reverse.head?, ¬WhiteSpace c := by
    rw [List.head?_reverse]
    exact last
  rw [trim, trimBlanks, closed s.toList first, closed s.toList.reverse solidEnd,
    List.reverse_reverse, String.ofList_toList]

theorem Trimmed.eq_trim {s core : String} (trimmed : Trimmed s core) : core = trim s := by
  obtain ⟨front, back, blankFront, blankBack, rfl⟩ := trimmed.around
  rw [trim_surrounded core blankFront blankBack, trim_of_ends trimmed.first trimmed.last]

end Trimming

section Case

theorem toNat_toLower (c : Char) :
    c.toLower.toNat = if 65 ≤ c.toNat ∧ c.toNat ≤ 90 then c.toNat + 32 else c.toNat := by
  have shift : ('a'.val - 'A'.val).toNat = 32 := by decide
  by_cases between : 65 ≤ c.toNat ∧ c.toNat ≤ 90
  · have capital : 'A'.val ≤ c.val ∧ c.val ≤ 'Z'.val := between
    have lowered : c.toLower = ⟨c.val + ('a'.val - 'A'.val), _⟩ := dif_pos capital
    rw [if_pos between, lowered, ← Char.toNat_val, UInt32.toNat_add, shift, Char.toNat_val]
    omega
  · have kept : c.toLower = c := dif_neg between
    rw [if_neg between, kept]

theorem toNat_toUpper (c : Char) :
    c.toUpper.toNat = if 97 ≤ c.toNat ∧ c.toNat ≤ 122 then c.toNat - 32 else c.toNat := by
  -- The way down is a step of a whole turn less 32.
  have shift : ('A'.val - 'a'.val).toNat = 4294967264 := by decide
  by_cases between : 97 ≤ c.toNat ∧ c.toNat ≤ 122
  · have small : 'a'.val ≤ c.val ∧ c.val ≤ 'z'.val := between
    have raised : c.toUpper = ⟨c.val + ('A'.val - 'a'.val), _⟩ := dif_pos small
    rw [if_pos between, raised, ← Char.toNat_val, UInt32.toNat_add, shift, Char.toNat_val]
    omega
  · have kept : c.toUpper = c := dif_neg between
    rw [if_neg between, kept]

theorem toLower_of_recased {a b : Char} (recased : b = a ∨ b = a.toLower ∨ b = a.toUpper) :
    b.toLower = a.toLower := by
  apply Char.toNat_inj.mp
  rcases recased with rfl | rfl | rfl
  · rfl
  · simp only [toNat_toLower]
    split_ifs <;> omega
  · simp only [toNat_toLower, toNat_toUpper]
    split_ifs <;> omega

theorem recased_of_toLower (c : Char) :
    c = c.toLower ∨ c = c.toLower.toLower ∨ c = c.toLower.toUpper := by
  simp only [← Char.toNat_inj, toNat_toUpper, toNat_toLower]
  split_ifs <;> omega

theorem not_whiteSpace_of_between {c : Char} (above : 65 ≤ c.toNat) (below : c.toNat ≤ 122) :
    ¬WhiteSpace c := by
  unfold WhiteSpace
  omega

theorem isBlank_toLower (c : Char) : isBlank c.toLower = isBlank c := by
  have lowered := toNat_toLower c
  by_cases capital : 65 ≤ c.toNat ∧ c.toNat ≤ 90
  · rw [if_pos capital] at lowered
    have letter := not_whiteSpace_of_between capital.1 (by omega)
    have small := not_whiteSpace_of_between (c := c.toLower) (by omega) (by omega)
    rw [(isBlank_eq_false_iff c).mpr letter, (isBlank_eq_false_iff c.toLower).mpr small]
  · rw [if_neg capital] at lowered
    rw [Char.toNat_inj.mp lowered]

theorem lowerLatin_trim (s : String) : lowerLatin (trim s) = trim (lowerLatin s) := by
  have unmoved : isBlank ∘ Char.toLower = isBlank := funext isBlank_toLower
  simp only [lowerLatin, trim, trimBlanks, String.toList_ofList, List.dropWhile_map,
    ← List.map_reverse, unmoved]

theorem Recased.lowerLatin_eq {s t : String} (recased : Recased s t) :
    lowerLatin t = lowerLatin s := by
  have lowered : List.Forall₂ (fun a b => Char.toLower a = Char.toLower b) s.toList t.toList :=
    recased.imp fun _ _ alike => (toLower_of_recased alike).symm
  rw [← List.forall₂_map_right_iff, ← List.forall₂_map_left_iff, List.forall₂_eq_eq_eq] at lowered
  rw [lowerLatin, lowerLatin, lowered]

/-- A text in small letters is recased to those texts that have it for their small form. -/
theorem recased_iff {word s : String} (small : lowerLatin word = word) :
    Recased word s ↔ lowerLatin s = word := by
  constructor
  · intro recased
    rw [recased.lowerLatin_eq, small]
  · rintro rfl
    rw [Recased, lowerLatin, String.toList_ofList, List.forall₂_map_left_iff, List.forall₂_same]
    exact fun c _ => recased_of_toLower c

theorem lowerLatin_eq_empty_iff (s : String) : lowerLatin s = "" ↔ s = "" := by
  simp [lowerLatin]

end Case

theorem Variant.word_eq {s t : String} (variant : Variant s t) :
    lowerLatin (trim t) = lowerLatin (trim s) := by
  obtain ⟨front, core, back, blankFront, blankBack, recased, rfl⟩ := variant
  rw [trim_surrounded core blankFront blankBack, lowerLatin_trim, lowerLatin_trim,
    recased.lowerLatin_eq]

end Text

namespace Value

theorem meansNo_iff (s : String) :
    meansNo s = true ↔
      Text.lowerLatin (Text.trim s) = "" ∨ Text.lowerLatin (Text.trim s) ∈ falseWords := by
  rw [meansNo, Bool.or_eq_true, String.isEmpty_iff, List.contains_iff_mem,
    Text.lowerLatin_eq_empty_iff]

theorem mem_falseWords_iff (s : String) :
    Text.lowerLatin s ∈ falseWords ↔
      ∃ word ∈ ["false", "0", "no", "off", "n", "f"], Text.Recased word s := by
  have small : ∀ word ∈ falseWords, Text.lowerLatin word = word := by decide
  constructor
  · intro listed
    exact ⟨_, listed, (Text.recased_iff (small _ listed)).mpr rfl⟩
  · rintro ⟨word, listed, recased⟩
    rw [(Text.recased_iff (small word listed)).mp recased]
    exact listed

theorem isTruthy_eq_false_iff {s core : String} (trimmed : Text.Trimmed s core) :
    (text s).isTruthy = false ↔
      core = "" ∨ ∃ word ∈ ["false", "0", "no", "off", "n", "f"], Text.Recased word core := by
  rw [trimmed.eq_trim, isTruthy, Bool.not_eq_false', meansNo_iff, Text.lowerLatin_eq_empty_iff,
    mem_falseWords_iff]

theorem isTruthy_of_variant {s t : String} (variant : Text.Variant s t) :
    (text t).isTruthy = (text s).isTruthy := by
  have agree : meansNo t = meansNo s := by
    rw [Bool.eq_iff_iff, meansNo_iff, meansNo_iff, variant.word_eq]
  rw [isTruthy, isTruthy, agree]

end Value

/-- The truth of a text, and what the pointer events make of it. -/
structure ReadsTruth (s : String) : Prop where
  denied : ∃ core, Text.Trimmed s core ∧ (∀ other, Text.Trimmed s other → other = core) ∧
    ((Value.text s).isTruthy = false ↔
      core = "" ∨ ∃ word ∈ ["false", "0", "no", "off", "n", "f"], Text.Recased word core)
  variants : ∀ t, Text.Variant s t → (Value.text t).isTruthy = (Value.text s).isTruthy
  /-- Offered to the handler, all variants leave the same scene. -/
  offered : ∀ (platform : Platform) (before : Scene) (name : String) (event : MouseEvent),
    Key.ofName? name = some (.mouse event) →
      ∃ journal interest,
        (∀ t, Text.Variant s t →
          before.offer platform Group.mouseEvents.handler ⟨name, .text t⟩ =
            (true, { before with node.mouse := interest, shared.journal := journal })) ∧
        interest.wants event = (Value.text s).isTruthy ∧
        ∀ other, other ≠ event → interest.wants other = before.node.mouse.wants other
  applied : ∀ (chain : Chain) (platform : Platform) (before : Scene) (name : String)
    (event : MouseEvent), Key.ofName? name = some (.mouse event) →
      ∀ t, Text.Variant s t →
        chain.apply platform before ⟨name, .text t⟩ = chain.apply platform before ⟨name, .text s⟩

theorem Key.actions_mouse_of_variant (event : MouseEvent) (platform : Platform) (scene : Scene)
    {s t : String} (variant : Text.Variant s t) :
    (Key.mouse event).actions platform scene (.text t) =
      (Key.mouse event).actions platform scene (.text s) := by
  simp only [Key.actions, Handler.mouseEvent, Value.isTruthy_of_variant variant]

/-- A text is false exactly if nothing is left of it without the blanks around it, or one of six
words in small or capital letters. Every variant of a text says what the text says, and moves the
flag of a pointer event as the text does. -/
theorem Value.text_reads_truth (s : String) : ReadsTruth s := by
  refine ⟨?denied, fun t variant => isTruthy_of_variant variant, ?offered, ?applied⟩
  case denied =>
    have trimmed := Text.trimmed_trim s
    exact ⟨Text.trim s, trimmed, fun _ other => other.eq_trim, isTruthy_eq_false_iff trimmed⟩
  case offered =>
    intro platform before name event known
    let journal := before.shared.journal
    refine ⟨if platform.keepsJournal then journal.record ⟨name, .applied, none⟩ else journal,
      before.node.mouse.set (text s).isTruthy event, ?_, ?_, ?_⟩
    · intro t variant
      have handled : Group.mouseEvents.handler platform before ⟨name, .text t⟩ = _ :=
        Group.handler_of_own platform before ⟨name, .text t⟩ known
      rw [Scene.offer, handled, Key.actions_mouse_of_variant event platform before variant]
      change (true, Scene.record _ _ _) = _
      rw [Scene.record]
      split <;> rfl
    · rw [MouseInterest.wants_set, if_pos rfl]
    · intro other apart
      rw [MouseInterest.wants_set, if_neg apart.symm]
  case applied =>
    intro chain platform before name event known t variant
    -- The chain looks the property up by the name, which the variants share.
    have sameProperty : chain.property? ⟨name, .text t⟩ = chain.property? ⟨name, .text s⟩ := rfl
    cases found : chain.property? ⟨name, .text s⟩ with
    | none =>
        rw [chain.apply_of_no_property platform before _ found,
          chain.apply_of_no_property platform before _ (sameProperty.trans found)]
    | some key =>
        have isMouse : key = .mouse event := by
          have knownKey := ((chain.property?_eq_some_iff _ key).mp found).1
          exact Option.some.inj (knownKey.symm.trans known)
        subst isMouse
        rw [chain.apply_of_property platform before _ found,
          chain.apply_of_property platform before _ (sameProperty.trans found), Scene.carryOut,
          Scene.carryOut, Key.actions_mouse_of_variant event platform before variant]

/-- The long s is no Latin letter that is made small. -/
example : (Value.text "fal\u017fe").isTruthy = true := by decide

end ViewStyle
