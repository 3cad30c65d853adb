import NplgMcp.Json.Acceptance

/-!
# The members of the root

The two questions the preflight answers about the root object it has walked over: whether it has a
member of a name, and whether its member `id` is a request identifier. Both are answered from what the
automaton records at stack height one, and `root_members_iff` says that the answers are those of the
grammar's tree, whatever is nested below.
-/

namespace NplgMcp.Json

/-! ## The tree's answers -/

/-- The members with their decoded keys. -/
def Members.entries : Members → List (String × Value)
  | .last _ key _ _ value _ => [(decodedString key, value)]
  | .cons _ key _ _ value _ rest => (decodedString key, value) :: rest.entries

/-- The members of a root object; another root has none. -/
def Value.rootMembers : Value → List (String × Value)
  | .object members => members.entries
  | .literal _ | .number _ | .string _ | .emptyArray _ | .array _ | .emptyObject _ => []

/-- A string, or a number written without fraction and exponent. -/
def Value.IsIdentifier : Value → Prop
  | .string _ => True
  | .number n => n.fraction = none ∧ n.exponent = none
  | .literal _ | .emptyArray _ | .array _ | .emptyObject _ | .object _ => False

/-! ## The automaton's answers -/

variable {limits : JsonPreflightLimits} {finite : List UInt8 → Bool} {payload : List UInt8}

theorem Value.isRequestId_iff (v : Value) : v.isRequestId = true ↔ v.IsIdentifier := by
  cases v with
  | literal l => cases l <;> simp [Value.isRequestId, Value.kind, Value.IsIdentifier]
  | number n =>
      cases hfraction : n.fraction <;> cases hexponent : n.exponent <;>
        simp [Value.isRequestId, Value.kind, Value.IsIdentifier, Number.isInteger, hfraction,
          hexponent]
  | string | emptyArray | array | emptyObject | object =>
      simp [Value.isRequestId, Value.kind, Value.IsIdentifier]

theorem Members.keys_entries : ∀ members : Members,
    members.entries.map Prod.fst = members.decodedKeys
  | .last .. => rfl
  | .cons _ key _ _ _ _ rest => congrArg (decodedString key :: ·) rest.keys_entries

theorem Members.mem_decodedKeys {members : Members} {member : String} :
    member ∈ members.decodedKeys ↔ ∃ value, (member, value) ∈ members.entries := by
  rw [← members.keys_entries, List.mem_map]
  constructor
  · rintro ⟨⟨_, value⟩, hentry, rfl⟩
    exact ⟨value, hentry⟩
  · rintro ⟨value, hentry⟩
    exact ⟨_, hentry, rfl⟩

/-- Of members with distinct keys the one named `id` decides, and without one nothing changes. -/
theorem Members.requestId_iff : ∀ {members : Members} {valid : Bool}, members.decodedKeys.Nodup →
    (members.requestId valid = true ↔
      (∃ value, ("id", value) ∈ members.entries ∧ value.IsIdentifier) ∨
        "id" ∉ members.decodedKeys ∧ valid = true)
  | .last _ key _ _ value _, valid, _ => by
      by_cases hkey : decodedString key = "id"
      · simp [Members.requestId, Members.entries, Members.decodedKeys, Members.keys, hkey,
          Value.isRequestId_iff]
      · simp [Members.requestId, Members.entries, Members.decodedKeys, Members.keys, hkey,
          Ne.symm hkey]
  | .cons before key gap space value after rest, valid, h => by
      have hkeys : (Members.cons before key gap space value after rest).decodedKeys =
          decodedString key :: rest.decodedKeys := rfl
      rw [hkeys] at h ⊢
      obtain ⟨hnew, hrest⟩ := List.nodup_cons.1 h
      have ih := @requestId_iff rest (if decodedString key = "id" then value.isRequestId else valid)
        hrest
      rw [Members.requestId, ih, Members.entries]
      by_cases hkey : decodedString key = "id"
      · rw [hkey] at hnew
        have hnone : ∀ other, ("id", other) ∉ rest.entries := fun other hother =>
          hnew (Members.mem_decodedKeys.2 ⟨other, hother⟩)
        simp [hkey, hnew, hnone, Value.isRequestId_iff]
      · simp [hkey, Ne.symm hkey]

/-- What a validated payload has left in the parser. -/
theorem validate_eq_finished {text : Text} (haccepted : preflightJson limits finite text.bytes = true)
    (h : text.Admissible limits finite) :
    validate limits finite text.bytes =
      some (text.value.finished text.after.val 0 [] none false) := by
  obtain ⟨p, hp⟩ := Option.isSome_iff_exists.1 haccepted
  exact validate_complete (validate_sound hp).1 h

/-- **The root's members.** A payload that is accepted is an admissible text, and for the tree of
every such text: it carries a request identifier exactly when its root is an object with a member
whose decoded key is `id` and whose value is an identifier, and it has a member of a name exactly
when its root is an object with that decoded key. -/
theorem root_members_iff (haccepted : preflightJson limits finite payload = true) :
    (∃ text : Text, text.bytes = payload ∧ text.Admissible limits finite) ∧
    ∀ text : Text, text.bytes = payload → text.Admissible limits finite →
      (∃ answer, preflightJsonHasValidRootRequestId limits finite payload = some answer ∧
        (answer = true ↔
          ∃ value, ("id", value) ∈ text.value.rootMembers ∧ value.IsIdentifier)) ∧
      ∀ member, ∃ answer,
        preflightJsonHasRootObjectMember limits finite payload member = some answer ∧
        (answer = true ↔ ∃ value, (member, value) ∈ text.value.rootMembers) := by
  obtain ⟨p, hp⟩ := Option.isSome_iff_exists.1 haccepted
  refine ⟨(validate_sound hp).2, ?_⟩
  rintro text rfl hadmissible
  have hfinished := validate_eq_finished haccepted hadmissible
  refine ⟨⟨text.value.rootRequestId false, ?_, ?_⟩, fun member =>
    ⟨(text.value.rootKeys none).any (member ∈ ·), ?_, ?_⟩⟩
  · rw [preflightJsonHasValidRootRequestId, hfinished]
    rfl
  · cases hvalue : text.value with
    | object members =>
        have hdistinct := hadmissible.distinct
        rw [hvalue] at hdistinct
        exact (Members.requestId_iff hdistinct.1).trans (or_iff_left (by simp))
    | literal | number | string | emptyArray | array | emptyObject =>
        simp [Value.rootRequestId, Value.rootMembers]
  · rw [preflightJsonHasRootObjectMember, hfinished]
    rfl
  · cases hvalue : text.value with
    | object members =>
        simp [Value.rootKeys, Value.rootMembers, Members.mem_decodedKeys]
    | literal | number | string | emptyArray | array | emptyObject =>
        simp [Value.rootKeys, Value.rootMembers]

/-- The bytes of an object whose escaped key is `id` and that nests another one. -/
def escapedId : List UInt8 :=
  [0x7B, 0x22, 0x5C, 0x75, 0x30, 0x30, 0x36, 0x39, 0x64, 0x22, 0x3A, 0x37, 0x2C, 0x22, 0x61, 0x22,
    0x3A, 0x7B, 0x22, 0x69, 0x64, 0x22, 0x3A, 0x6E, 0x75, 0x6C, 0x6C, 0x7D, 0x7D]

theorem root_members_iff_escaped :
    ∃ text : Text, text.bytes = escapedId ∧
      ∃ value, ("id", value) ∈ text.value.rootMembers ∧ value.IsIdentifier := by
  have haccepted : preflightJson {} (fun _ => true) escapedId = true := by decide +kernel
  obtain ⟨⟨text, hbytes, hadmissible⟩, hanswers⟩ := root_members_iff haccepted
  obtain ⟨⟨answer, hanswer, hiff⟩, -⟩ := hanswers text hbytes hadmissible
  have hvalid : preflightJsonHasValidRootRequestId {} (fun _ => true) escapedId = some true := by
    decide +kernel
  obtain rfl := Option.some.inj (hvalid.symm.trans hanswer)
  exact ⟨text, hbytes, hiff.1 rfl⟩

end NplgMcp.Json
