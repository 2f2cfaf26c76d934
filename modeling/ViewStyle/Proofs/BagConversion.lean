import Mathlib.Data.List.Forall2
import Mathlib.Data.List.Induction
import ViewStyle.Proofs.Places

/-!
# Conversion of bags

The entries of a bag are its members in the order of their names, where the last value of a name
counts. Plain entries become one update each. One container among them spoils the bag: it is refused
for the first of them, and a session that was given it stays as it was.
-/

set_option autoImplicit false

namespace ViewStyle

namespace Json

/-- The kind of container that a value is, if it holds others. -/
def container? : Json → Option Container
  | array _ => some .array
  | object _ => some .object
  | _ => none

/-- The names increase from each member to all later ones. -/
def Increasing (members : List (String × Json)) : Prop :=
  members.Pairwise fun earlier later => earlier.1 < later.1

/-- The entries of an object: each name of a member once, in increasing order, with the last value
that it was given. -/
structure EntriesOf (members entries : List (String × Json)) : Prop where
  increasing : Increasing entries
  lookup : ∀ name, entries.lookup name = members.reverse.lookup name

/-- A JSON value stands for a property value of the same sort. Containers stand for none. -/
inductive Stands : Json → Value → Prop where
  | null : Stands .null .null
  | bool (flag : Bool) : Stands (.bool flag) (.bool flag)
  | number (x : Binary64) : Stands (.number x) (.number x)
  | text (s : String) : Stands (.text s) (.text s)

theorem exists_stands {json : Json} (plain : json.container? = none) :
    ∃ value, json.Stands value := by
  cases json with
  | null => exact ⟨_, .null⟩
  | bool flag => exact ⟨_, .bool flag⟩
  | number x => exact ⟨_, .number x⟩
  | text s => exact ⟨_, .text s⟩
  | array | object => cases plain

section Order

variable {name : String} {value : Json} {members : List (String × Json)}

theorem eq_or_mem_of_mem_insertMember {member : String × Json}
    (found : member ∈ insertMember name value members) :
    member = (name, value) ∨ member ∈ members := by
  induction members with
  | nil => exact .inl (List.mem_singleton.mp found)
  | cons head rest ih =>
      rw [insertMember] at found
      split at found
      · exact List.mem_cons.mp found
      · split at found
        · exact (List.mem_cons.mp found).imp_right (List.mem_cons_of_mem head)
        · rcases List.mem_cons.mp found with rfl | later
          · exact .inr List.mem_cons_self
          · exact (ih later).imp_right (List.mem_cons_of_mem head)

theorem insertMember_increasing (increasing : Increasing members) :
    Increasing (insertMember name value members) := by
  induction members with
  | nil => exact List.pairwise_singleton _ _
  | cons head rest ih =>
      obtain ⟨above, later⟩ := List.pairwise_cons.mp increasing
      rw [insertMember]
      split
      next before =>
        refine List.pairwise_cons.mpr ⟨fun other member => ?_, increasing⟩
        rcases List.mem_cons.mp member with rfl | among
        · exact before
        · exact String.lt_trans before (above other among)
      next notBefore =>
        split
        next same =>
          subst same
          exact List.pairwise_cons.mpr ⟨above, later⟩
        next different =>
          refine List.pairwise_cons.mpr ⟨fun other member => ?_, ih later⟩
          rcases eq_or_mem_of_mem_insertMember member with rfl | among
          · exact Std.lt_of_le_of_ne (String.not_lt.mp notBefore) (Ne.symm different)
          · exact above other among

theorem lookup_cons_eq (member : String × Json) (wanted : String) :
    (member :: members).lookup wanted =
      if wanted = member.1 then some member.2 else members.lookup wanted := by
  obtain ⟨name, value⟩ := member
  rw [List.lookup_cons]
  by_cases isName : wanted = name
  · simp [isName]
  · simp [isName, beq_eq_false_iff_ne.mpr isName]

theorem lookup_insertMember (wanted : String) :
    (insertMember name value members).lookup wanted =
      if wanted = name then some value else members.lookup wanted := by
  induction members with
  | nil => exact lookup_cons_eq (name, value) wanted
  | cons head rest ih =>
      rw [insertMember]
      split
      · exact lookup_cons_eq (name, value) wanted
      next =>
        split
        next same =>
          -- The old value under the name is hidden by the new one.
          rw [lookup_cons_eq, lookup_cons_eq, same]
          split <;> rfl
        next different =>
          rw [lookup_cons_eq, lookup_cons_eq, ih]
          by_cases isName : wanted = name
          · simp [isName, different]
          · simp [isName]

theorem insertMember_of_above (above : ∀ member ∈ members, member.1 < name) :
    insertMember name value members = members ++ [(name, value)] := by
  induction members with
  | nil => rfl
  | cons head rest ih =>
      obtain ⟨first, later⟩ := List.forall_mem_cons.mp above
      have notSame : name ≠ head.1 := fun same => String.lt_irrefl _ (same ▸ first)
      rw [insertMember, if_neg (String.lt_asymm first), if_neg notSame, ih later]
      rfl

theorem orderMembers_append_singleton (member : String × Json) :
    orderMembers (members ++ [member]) =
      insertMember member.1 member.2 (orderMembers members) :=
  List.foldl_append

theorem entriesOf_orderMembers (members : List (String × Json)) :
    EntriesOf members (orderMembers members) := by
  induction members using List.reverseRecOn with
  | nil => exact ⟨.nil, fun _ => rfl⟩
  | append_singleton earlier member ih =>
      rw [orderMembers_append_singleton]
      refine ⟨insertMember_increasing ih.increasing, fun name => ?_⟩
      rw [lookup_insertMember, ih.lookup, List.reverse_concat, lookup_cons_eq]

theorem orderMembers_of_increasing (increasing : Increasing members) :
    orderMembers members = members := by
  induction members using List.reverseRecOn with
  | nil => rfl
  | append_singleton earlier member ih =>
      obtain ⟨start, -, above⟩ := List.pairwise_append.mp increasing
      rw [orderMembers_append_singleton, ih start]
      exact insertMember_of_above fun other among => above other among member List.mem_cons_self

end Order

end Json

namespace Value

theorem ofJson_eq_ok_iff {json : Json} {value : Value} :
    ofJson json = .ok value ↔ json.Stands value := by
  constructor
  · intro converts
    cases json with
    | null =>
        cases converts
        exact .null
    | bool flag =>
        cases converts
        exact .bool flag
    | number x =>
        cases converts
        exact .number x
    | text s =>
        cases converts
        exact .text s
    | array | object => cases converts
  · intro stands
    cases stands <;> rfl

theorem ofJson_of_container {json : Json} {container : Json.Container}
    (isContainer : json.container? = some container) : ofJson json = .error ⟨none, container⟩ := by
  cases json with
  | array | object =>
      cases isContainer
      rfl
  | null | bool | number | text => cases isContainer

/-- The JSON value that is made of a property value. JSON has no numbers that are not finite. -/
def toJson : Value → Json
  | null => .null
  | bool flag => .bool flag
  | number x => if x.isFinite then .number x else .null
  | text s => .text s

theorem stands_toJson (value : Value) (finite : ∀ x, value = .number x → x.isFinite = true) :
    value.toJson.Stands value := by
  cases value with
  | number x =>
      rw [toJson, if_pos (finite x rfl)]
      exact .number x
  | null | bool | text => constructor

end Value

namespace Update

/-- An update says of its property what an entry of a bag says. -/
structure Tells (entry : String × Json) (update : Update) : Prop where
  name : update.name = entry.1
  value : entry.2.Stands update.value

theorem ofMember_eq_ok_iff {entry : String × Json} {update : Update} :
    ofMember entry = .ok update ↔ Tells entry update := by
  obtain ⟨name, value⟩ := update
  unfold ofMember
  constructor
  · intro converts
    cases conversion : Value.ofJson entry.2 with
    | error error =>
        rw [conversion] at converts
        cases converts
    | ok found =>
        rw [conversion] at converts
        cases converts
        exact ⟨rfl, Value.ofJson_eq_ok_iff.mp conversion⟩
  · rintro ⟨rfl, stands⟩
    rw [Value.ofJson_eq_ok_iff.mpr stands]

theorem ofMember_of_container {entry : String × Json} {container : Json.Container}
    (isContainer : entry.2.container? = some container) :
    ofMember entry = .error ⟨some entry.1, container⟩ := by
  simp only [ofMember, Value.ofJson_of_container isContainer]

section Entries

variable {entries : List (String × Json)}

/-- Entries convert together exactly if each of them converts. -/
theorem ofMembers_eq_ok_iff {updates : List Update} :
    ofMembers entries = .ok updates ↔ List.Forall₂ Tells entries updates := by
  constructor
  · intro converts
    induction entries generalizing updates with
    | nil =>
        cases converts
        exact .nil
    | cons entry rest ih =>
        rw [ofMembers] at converts
        cases first : ofMember entry with
        | error error =>
            rw [first] at converts
            cases converts
        | ok update =>
            cases others : ofMembers rest with
            | error error =>
                rw [first, others] at converts
                cases converts
            | ok later =>
                rw [first, others] at converts
                cases converts
                exact .cons (ofMember_eq_ok_iff.mp first) (ih others)
  · intro tells
    induction tells with
    | nil => rfl
    | cons first _ ih => rw [ofMembers, ofMember_eq_ok_iff.mpr first, ih]

theorem exists_tells (plain : ∀ entry ∈ entries, entry.2.container? = none) :
    ∃ updates, List.Forall₂ Tells entries updates := by
  induction entries with
  | nil => exact ⟨[], .nil⟩
  | cons entry rest ih =>
      obtain ⟨first, others⟩ := List.forall_mem_cons.mp plain
      obtain ⟨value, stands⟩ := Json.exists_stands first
      obtain ⟨updates, tells⟩ := ih others
      exact ⟨⟨entry.1, value⟩ :: updates, .cons ⟨rfl, stands⟩ tells⟩

/-- The container with the least name spoils the entries, however many convert before it. -/
theorem ofMembers_of_spoiled (increasing : Json.Increasing entries)
    (spoiled : ∃ entry ∈ entries, entry.2.container?.isSome = true) :
    ∃ first ∈ entries, ∃ container, first.2.container? = some container ∧
      (∀ other ∈ entries, other.2.container?.isSome = true → first.1 ≤ other.1) ∧
      ofMembers entries = .error ⟨some first.1, container⟩ := by
  induction entries with
  | nil =>
      obtain ⟨_, member, -⟩ := spoiled
      cases member
  | cons entry rest ih =>
      obtain ⟨above, later⟩ := List.pairwise_cons.mp increasing
      cases kind : entry.2.container? with
      | some container =>
          refine ⟨entry, List.mem_cons_self, container, kind, fun other member _ => ?_, ?_⟩
          · rcases List.mem_cons.mp member with rfl | among
            · exact String.le_refl _
            · exact Std.le_of_lt (above other among)
          · rw [ofMembers, ofMember_of_container kind]
      | none =>
          have among : ∃ entry ∈ rest, entry.2.container?.isSome = true := by
            simpa [kind] using spoiled
          obtain ⟨first, member, container, isFirst, least, refused⟩ := ih later among
          obtain ⟨value, stands⟩ := Json.exists_stands kind
          have converts : ofMember entry = .ok ⟨entry.1, value⟩ :=
            ofMember_eq_ok_iff.mpr ⟨rfl, stands⟩
          refine ⟨first, List.mem_cons_of_mem _ member, container, isFirst, ?_, ?_⟩
          · intro other isMember isContainer
            rcases List.mem_cons.mp isMember with rfl | inRest
            · rw [kind] at isContainer
              cases isContainer
            · exact least other inRest isContainer
          · rw [ofMembers, converts, refused]

end Entries

def toMember (update : Update) : String × Json := (update.name, update.value.toJson)

/-- A batch in the order of its names comes back from the bag that is made of it. -/
theorem ofJson_toMember {batch : List Update}
    (increasing : batch.Pairwise fun earlier later => earlier.name < later.name)
    (finite : ∀ update ∈ batch, ∀ x, update.value = .number x → x.isFinite = true) :
    ofJson (.object (batch.map toMember)) = .ok batch := by
  have ordered : Json.orderMembers (batch.map toMember) = batch.map toMember :=
    Json.orderMembers_of_increasing (List.pairwise_map.mpr increasing)
  have tells : List.Forall₂ Tells (batch.map toMember) batch := by
    rw [List.forall₂_map_left_iff, List.forall₂_same]
    exact fun update member => ⟨rfl, update.value.stands_toJson (finite update member)⟩
  rw [ofJson, ordered]
  exact ofMembers_eq_ok_iff.mpr tells

end Update

namespace Session

variable {n : Nat}

/-- A bag is applied as the batch of its entries, or refused for the container with the least name
and nothing happens. A batch in the order of its names is the batch of the bag made of it. -/
theorem applyBag_all_or_nothing (session : Session n) (place : Fin n) :
    (∀ bag : Json, (∀ members, bag ≠ .object members) →
      Update.ofJson bag = .ok [] ∧
      session.step place (.applyBag bag) = session.step place (.applyAll [])) ∧
    (∀ members, ∃ entries, Json.EntriesOf members entries ∧
      ((∀ entry ∈ entries, entry.2.container? = none) →
        ∃ updates, List.Forall₂ Update.Tells entries updates ∧
          Update.ofJson (.object members) = .ok updates ∧
          session.step place (.applyBag (.object members)) =
            session.step place (.applyAll updates)) ∧
      ((∃ entry ∈ entries, entry.2.container?.isSome = true) →
        ∃ first ∈ entries, ∃ container, first.2.container? = some container ∧
          (∀ other ∈ entries, other.2.container?.isSome = true → first.1 ≤ other.1) ∧
          Update.ofJson (.object members) = .error ⟨some first.1, container⟩ ∧
          session.step place (.applyBag (.object members)) =
            (.refused ⟨some first.1, container⟩, [], session))) ∧
    ∀ batch : List Update, (batch.Pairwise fun earlier later => earlier.name < later.name) →
      (∀ update ∈ batch, ∀ x, update.value = .number x → x.isFinite = true) →
      Update.ofJson (.object (batch.map Update.toMember)) = .ok batch ∧
      session.step place (.applyBag (.object (batch.map Update.toMember))) =
        session.step place (.applyAll batch) := by
  refine ⟨?noObject, ?object, ?back⟩
  case noObject =>
    intro bag noObject
    have empty : Update.ofJson bag = .ok [] := by
      cases bag with
      | object members => exact absurd rfl (noObject members)
      | null | bool | number | text | array => rfl
    exact ⟨empty, session.step_applyBag empty⟩
  case object =>
    intro members
    have isEntries := Json.entriesOf_orderMembers members
    refine ⟨_, isEntries, fun plain => ?_, fun spoiled => ?_⟩
    · obtain ⟨updates, tells⟩ := Update.exists_tells plain
      have converts : Update.ofJson (.object members) = .ok updates :=
        Update.ofMembers_eq_ok_iff.mpr tells
      exact ⟨updates, tells, converts, session.step_applyBag converts⟩
    · obtain ⟨first, member, container, isContainer, least, refused⟩ :=
        Update.ofMembers_of_spoiled isEntries.increasing spoiled
      exact ⟨first, member, container, isContainer, least, refused,
        session.step_applyBag_refused refused⟩
  case back =>
    intro batch increasing finite
    have converts := Update.ofJson_toMember increasing finite
    exact ⟨converts, session.step_applyBag converts⟩

theorem applyBag_refused_for_least_name :
    let session := start 1 { groups := [.padding] }
    let members := [("padding", .array [.null]), ("color", .null), ("border", .object [])]
    let batch : List Update := [⟨"color", .number .zero⟩, ⟨"padding", .null⟩]
    session.step 0 (.applyBag (.object members)) =
      (.refused ⟨some "border", .object⟩, [], session) ∧
    session.step 0 (.applyBag (.object (batch.map Update.toMember))) =
      session.step 0 (.applyAll batch) := by
  intro session members batch
  obtain ⟨-, objects, back⟩ := session.applyBag_all_or_nothing 0
  constructor
  · obtain ⟨entries, isEntries, -, refuses⟩ := objects members
    have found : entries.lookup "padding" = some (.array [.null]) := isEntries.lookup "padding"
    obtain ⟨before, after, rfl, -⟩ := List.lookup_eq_some_iff.mp found
    obtain ⟨first, -, container, -, -, error, refused⟩ :=
      refuses ⟨_, List.mem_append_right before List.mem_cons_self, rfl⟩
    have isError : UnsupportedValue.mk (some first.1) container = ⟨some "border", .object⟩ :=
      Except.error.inj (error.symm.trans rfl)
    rw [← isError]
    exact refused
  · have increasing : batch.Pairwise fun earlier later => earlier.name < later.name := by
      decide +kernel
    refine (back batch increasing fun update member x isNumber => ?_).2
    rcases List.mem_cons.mp member with rfl | second
    · cases isNumber
      decide
    · cases List.mem_singleton.mp second
      cases isNumber

end Session

end ViewStyle
