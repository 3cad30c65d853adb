import Mathlib.Logic.Relation
import NplgMcp.Json.Lexical

/-!
# What the grammar derives, the automaton reads

A value of the grammar within the limits takes the automaton from where the value begins to where
it ends, over any frames that are already open (`steps_value`), in the state `Parser.finished` says.
The induction is over the tree, with one statement for values, one for the elements of an open array
and one for the members of an open object; what the parser records about the root object is part of
the state that is reached.
-/

namespace NplgMcp.Json

variable (limits : JsonPreflightLimits) (finite : List UInt8 → Bool)

/-! ## Runs of the automaton -/

/-- Turns of the loop of `validate`, none of them at a complete root. -/
def Steps : Parser → Parser → Prop :=
  Relation.ReflTransGen fun p p' => p.rootComplete = false ∧ p.advance limits finite = some p'

variable {limits finite}

theorem Steps.head {p p' q : Parser} (hp : p.rootComplete = false)
    (hadvance : p.advance limits finite = some p') (h : Steps limits finite p' q) :
    Steps limits finite p q := Relation.ReflTransGen.head ⟨hp, hadvance⟩ h

theorem Steps.trans {p p' q : Parser} (h : Steps limits finite p p')
    (h' : Steps limits finite p' q) : Steps limits finite p q := Relation.ReflTransGen.trans h h'

/-- A run to a complete root is what the loop does, given turns enough. -/
theorem Steps.scan_eq {p q : Parser} (h : Steps limits finite p q) (hq : q.rootComplete = true) :
    ∃ turns, scan limits finite turns p = .complete q := by
  induction h using Relation.ReflTransGen.head_induction_on with
  | refl => exact ⟨0, by unfold scan; simp [hq]⟩
  | head hstep _ ih =>
      obtain ⟨turns, hturns⟩ := ih
      refine ⟨turns + 1, ?_⟩
      unfold scan
      simpa [hstep.1, hstep.2] using hturns

/-! ## The beginning and the end of a value -/

/-- The parser just after the beginning of a value: past a scalar, or inside a container. -/
def Value.begun (v : Value) (next : List UInt8) (tokens : ℕ) (frames : List Frame)
    (keys : Option (List String)) (valid : Bool) : Parser :=
  let array (body : List UInt8) : Parser :=
    ⟨body ++ next, tokens + 1, { kind := .array, state := .arrayValueOrEnd } :: frames, keys, valid,
      false⟩
  let object (body : List UInt8) : Parser :=
    ⟨body ++ next, tokens + 1, { kind := .object, state := .objectKeyOrEnd } :: frames,
      if frames.isEmpty then some [] else keys, valid, false⟩
  match v with
  | .literal _ | .number _ | .string _ => ⟨next, tokens + 1, frames, keys, valid, frames.isEmpty⟩
  | .emptyArray padding => array (padding.val ++ [ord ']'])
  | .array elements => array elements.bytes
  | .emptyObject padding => object (padding.val ++ [ord '\x7d'])
  | .object members => object members.bytes

/-- The keys recorded of the root. -/
def Value.rootKeys (keys : Option (List String)) : Value → Option (List String)
  | .emptyObject _ => some []
  | .object members => some members.decodedKeys.reverse
  | _ => keys

/-- What is recorded of the request identifier of the root. -/
def Value.rootRequestId (valid : Bool) : Value → Bool
  | .object members => members.requestId valid
  | _ => valid

/-- The parser at the end of a value. -/
def Value.finished (v : Value) (next : List UInt8) (tokens : ℕ) (frames : List Frame)
    (keys : Option (List String)) (valid : Bool) : Parser :=
  ⟨next, tokens + v.tokens, frames, if frames.isEmpty then v.rootKeys keys else keys,
    if frames.isEmpty then v.rootRequestId valid else valid, frames.isEmpty⟩

/-- A digit is no other byte. -/
theorem isDigit_ne {digit byte : UInt8} (hdigit : isDigit digit = true)
    (hbyte : isDigit byte = false) : digit ≠ byte := by
  rintro rfl
  rw [hdigit] at hbyte
  cases hbyte

/-- A value begins with a byte that is neither whitespace nor a closing bracket. -/
theorem Value.bytes_eq_cons (v : Value) :
    ∃ byte tail, v.bytes = byte :: tail ∧ isWhitespace byte = false ∧ byte ≠ ord ']' := by
  cases v with
  | literal l => cases l <;> exact ⟨_, _, rfl, by decide, by decide⟩
  | number n =>
      obtain ⟨negative, ⟨digits, hne, hdigits⟩, fraction, exponent, hcanonical⟩ := n
      cases negative with
      | true => exact ⟨_, _, rfl, by decide, by decide⟩
      | false =>
          cases digits with
          | nil => exact absurd rfl hne
          | cons digit digits =>
              have hdigit := hdigits digit (by simp)
              refine ⟨digit, _, rfl, ?_, isDigit_ne hdigit (by decide)⟩
              by_contra hspace
              simp only [isWhitespace, Bool.not_eq_false, Bool.or_eq_true, beq_iff_eq] at hspace
              rcases hspace with ((rfl | rfl) | rfl) | rfl <;> exact absurd hdigit (by decide)
  | string chars => exact ⟨_, _, rfl, by decide, by decide⟩
  | emptyArray padding => exact ⟨_, _, rfl, by decide, by decide⟩
  | array elements => exact ⟨_, _, rfl, by decide, by decide⟩
  | emptyObject padding => exact ⟨_, _, rfl, by decide, by decide⟩
  | object members => exact ⟨_, _, rfl, by decide, by decide⟩

/-- A number begins with a minus sign or a digit. -/
theorem Number.bytes_eq_cons (n : Number) :
    ∃ byte tail, n.bytes = byte :: tail ∧ (byte = ord '-' ∨ isDigit byte = true) := by
  obtain ⟨negative, ⟨digits, hne, hdigits⟩, fraction, exponent, hcanonical⟩ := n
  cases negative with
  | true => exact ⟨_, _, rfl, .inl rfl⟩
  | false =>
      cases digits with
      | nil => exact absurd rfl hne
      | cons digit digits => exact ⟨digit, _, rfl, .inr (hdigits digit (by simp))⟩

variable {next : List UInt8} {tokens : ℕ} {frames : List Frame} {keys : Option (List String)}
  {valid : Bool}

/-- A literal is read. -/
theorem dispatchValue_literal (l : Literal) :
    Parser.dispatchValue limits finite ⟨l.bytes ++ next, tokens, frames, keys, valid, false⟩ =
      some ((Value.literal l).kind, ⟨next, tokens, frames, keys, valid, frames.isEmpty⟩) := by
  cases l <;>
    simp [Parser.dispatchValue, Literal.bytes, ord, isDigit, Parser.trueBytes, Parser.falseBytes,
      Parser.nullBytes, Parser.finishScalar_eq, Value.kind]

/-- A number within its limits is read. -/
theorem dispatchValue_number {n : Number} (h : n.Within limits finite) (hnext : Delimited next) :
    Parser.dispatchValue limits finite ⟨n.bytes ++ next, tokens, frames, keys, valid, false⟩ =
      some ((Value.number n).kind, ⟨next, tokens, frames, keys, valid, frames.isEmpty⟩) := by
  obtain ⟨byte, tail, hbytes, hfirst⟩ := n.bytes_eq_cons
  have hread := consumeNumber_complete h hnext
  rw [hbytes, List.cons_append] at hread ⊢
  have hbrace : byte ≠ ord '\x7b' := by
    rcases hfirst with rfl | hdigit
    · decide
    · exact isDigit_ne hdigit (by decide)
  have hbracket : byte ≠ ord '[' := by
    rcases hfirst with rfl | hdigit
    · decide
    · exact isDigit_ne hdigit (by decide)
  have hquote : byte ≠ ord '"' := by
    rcases hfirst with rfl | hdigit
    · decide
    · exact isDigit_ne hdigit (by decide)
  simp [Parser.dispatchValue, hbrace, hbracket, hquote, hfirst, hread, Parser.finishScalar_eq,
    Value.kind]

/-- A string within its limit is read. -/
theorem dispatchValue_string {chars : List StringChar}
    (h : (contentBytes chars).length ≤ limits.maxScalarBytes) :
    Parser.dispatchValue limits finite
        ⟨stringBytes chars ++ next, tokens, frames, keys, valid, false⟩ =
      some (.string, ⟨next, tokens, frames, keys, valid, frames.isEmpty⟩) := by
  have hread : consumeString limits.maxScalarBytes false (stringBytes chars ++ next) =
      some (none, next) := consumeString_eq_some.2 ⟨chars, rfl, h, rfl⟩
  have hbrace : ord '"' ≠ ord '\x7b' := by decide
  have hbracket : ord '"' ≠ ord '[' := by decide
  have hbytes : stringBytes chars ++ next = ord '"' :: (contentBytes chars ++ ord '"' :: next) := by
    simp [stringBytes]
  rw [hbytes] at hread ⊢
  simp [Parser.dispatchValue, hbrace, hbracket, hread, Parser.finishScalar_eq]

/-- An array is opened. -/
theorem dispatchValue_array {body : List UInt8} (hdepth : frames.length < limits.maxDepth) :
    Parser.dispatchValue limits finite ⟨ord '[' :: body, tokens, frames, keys, valid, false⟩ =
      some (.array, ⟨body, tokens, { kind := .array, state := .arrayValueOrEnd } :: frames, keys,
        valid, false⟩) := by
  have hbrace : ord '[' ≠ ord '\x7b' := by decide
  simp [Parser.dispatchValue, hbrace, Parser.pushContainer, Nat.not_le.2 hdepth]

/-- An object is opened, and its keys are recorded if it is the root. -/
theorem dispatchValue_object {body : List UInt8} (hdepth : frames.length < limits.maxDepth) :
    Parser.dispatchValue limits finite ⟨ord '\x7b' :: body, tokens, frames, keys, valid, false⟩ =
      some (.object, ⟨body, tokens, { kind := .object, state := .objectKeyOrEnd } :: frames,
        if frames.isEmpty then some [] else keys, valid, false⟩) := by
  simp [Parser.dispatchValue, Parser.pushContainer, Nat.not_le.2 hdepth]

/-- **The beginning of a value is read.** -/
theorem beginValue_complete {v : Value} (hfits : v.Fits limits finite frames.length tokens)
    (hnext : Delimited next) :
    Parser.beginValue limits finite ⟨v.bytes ++ next, tokens, frames, keys, valid, false⟩ =
      some (v.kind, v.begun next tokens frames keys valid) := by
  obtain ⟨-, hwithin, hdepth, htokens⟩ := hfits
  have hpos : 1 ≤ v.tokens := by
    cases v <;> simp [Value.tokens]
  have hcount : ¬ limits.maxTokens < tokens + 1 := by omega
  simp only [Parser.beginValue, Parser.countToken, if_neg hcount, Option.bind_eq_bind,
    Option.bind_some]
  cases v with
  | literal l => exact dispatchValue_literal l
  | number n => exact dispatchValue_number hwithin hnext
  | string chars => exact dispatchValue_string hwithin
  | emptyArray padding => exact dispatchValue_array hdepth
  | array elements => exact dispatchValue_array (by simp only [Value.depth] at hdepth; omega)
  | emptyObject padding => exact dispatchValue_object hdepth
  | object members => exact dispatchValue_object (by simp only [Value.depth] at hdepth; omega)

/-! ## Turns inside a container -/

/-- The end of an element delimits what stands before it. -/
theorem delimited_append (space : Whitespace) {byte : UInt8} {tail : List UInt8}
    (h : byte = ord ',' ∨ byte = ord ']' ∨ byte = ord '\x7d') :
    Delimited (space.val ++ byte :: tail) := by
  obtain ⟨space, hspace⟩ := space
  intro first hfirst
  cases space with
  | nil =>
      obtain rfl : byte = first := by simpa using hfirst
      exact .inr h
  | cons b space =>
      obtain rfl : b = first := by simpa using hfirst
      exact .inl (hspace b (by simp))

/-- The whitespace after the root delimits it. -/
theorem delimited_whitespace (space : Whitespace) : Delimited space.val := by
  intro first hfirst
  exact .inl (space.property first (List.mem_of_mem_head? hfirst))

variable {frame : Frame} {below : List Frame} {space : Whitespace} {tail : List UInt8}

/-- An element begins. -/
theorem advance_arrayValue (hstate : frame.state = .arrayValueOrEnd) {v : Value}
    (hcount : frame.members + 1 ≤ limits.maxArrayItems)
    (hfits : v.Fits limits finite (below.length + 1) tokens) (htail : Delimited tail) :
    Parser.advance limits finite
        ⟨space.val ++ (v.bytes ++ tail), tokens, frame :: below, keys, valid, false⟩ =
      some (v.begun tail tokens
        ({ frame with members := frame.members + 1, state := .arrayAfterValue } :: below) keys
        valid) := by
  obtain ⟨byte, rest, hbytes, hspace, hbracket⟩ := v.bytes_eq_cons
  have hskip : skipWhitespace (space.val ++ (v.bytes ++ tail)) = v.bytes ++ tail :=
    skipWhitespace_append space (by simpa [hbytes] using hspace)
  have hclose : consumeByte (ord ']') (v.bytes ++ tail) = none :=
    consumeByte_eq_none.2 (by simpa [hbytes] using hbracket)
  have hbegin := @beginValue_complete limits finite tail tokens
    ({ frame with members := frame.members + 1, state := .arrayAfterValue } :: below) keys valid v
    hfits htail
  simp only [Parser.advance, hskip, hstate, Parser.consumeArrayValue, hclose, ite_self,
    if_neg (Nat.not_lt.2 hcount), Parser.withFrame, hbegin, Option.map_some]

/-- Another element follows. -/
theorem advance_arrayComma (hstate : frame.state = .arrayAfterValue) :
    Parser.advance limits finite
        ⟨space.val ++ ord ',' :: tail, tokens, frame :: below, keys, valid, false⟩ =
      some ⟨tail, tokens, { frame with state := .arrayValueOrEnd, allowEnd := false } :: below, keys,
        valid, false⟩ := by
  have hskip : skipWhitespace (space.val ++ ord ',' :: tail) = ord ',' :: tail :=
    skipWhitespace_append space (by simp; decide)
  simp only [Parser.advance, hskip, hstate, Parser.consumeArraySeparator, consumeByte_cons_self,
    Parser.withFrame]

/-- An array ends after an element. -/
theorem advance_arrayEnd (hstate : frame.state = .arrayAfterValue) :
    Parser.advance limits finite
        ⟨space.val ++ ord ']' :: tail, tokens, frame :: below, keys, valid, false⟩ =
      some ⟨tail, tokens, below, keys, valid, below.isEmpty⟩ := by
  have hskip : skipWhitespace (space.val ++ ord ']' :: tail) = ord ']' :: tail :=
    skipWhitespace_append space (by simp; decide)
  have hcomma : consumeByte (ord ',') (ord ']' :: tail) = none := by
    simp [consumeByte_eq_none]
    decide
  simp only [Parser.advance, hskip, hstate, Parser.consumeArraySeparator, hcomma,
    consumeByte_cons_self, Option.map_some, Parser.finishContainer_eq]

/-- An array ends before any element. -/
theorem advance_arrayEmpty (hstate : frame.state = .arrayValueOrEnd)
    (hallow : frame.allowEnd = true) :
    Parser.advance limits finite
        ⟨space.val ++ ord ']' :: tail, tokens, frame :: below, keys, valid, false⟩ =
      some ⟨tail, tokens, below, keys, valid, below.isEmpty⟩ := by
  have hskip : skipWhitespace (space.val ++ ord ']' :: tail) = ord ']' :: tail :=
    skipWhitespace_append space (by simp; decide)
  simp only [Parser.advance, hskip, hstate, Parser.consumeArrayValue, hallow, if_true,
    consumeByte_cons_self, Parser.finishContainer_eq]

/-- An object ends before any member. -/
theorem advance_objectEmpty (hstate : frame.state = .objectKeyOrEnd)
    (hallow : frame.allowEnd = true) :
    Parser.advance limits finite
        ⟨space.val ++ ord '\x7d' :: tail, tokens, frame :: below, keys, valid, false⟩ =
      some ⟨tail, tokens, below, keys, valid, below.isEmpty⟩ := by
  have hskip : skipWhitespace (space.val ++ ord '\x7d' :: tail) = ord '\x7d' :: tail :=
    skipWhitespace_append space (by simp; decide)
  simp only [Parser.advance, hskip, hstate, Parser.consumeObjectKey, hallow, if_true,
    consumeByte_cons_self, Parser.finishContainer_eq]

/-- A key is read and recorded. -/
theorem advance_objectKey (hstate : frame.state = .objectKeyOrEnd) {key : List StringChar}
    {gap : Whitespace} (hkey : (contentBytes key).length ≤ limits.maxKeyBytes)
    (hfresh : decodedString key ∉ frame.keys) :
    Parser.advance limits finite
        ⟨space.val ++ (stringBytes key ++ (gap.val ++ ord ':' :: tail)), tokens, frame :: below,
          keys, valid, false⟩ =
      some ⟨tail, tokens,
        { frame with
            keys := decodedString key :: frame.keys
            currentKey := some (decodedString key)
            state := .objectValue } :: below,
        if below.isEmpty then keys.map (decodedString key :: ·) else keys, valid, false⟩ := by
  have hskip : skipWhitespace (space.val ++ (stringBytes key ++ (gap.val ++ ord ':' :: tail))) =
      stringBytes key ++ (gap.val ++ ord ':' :: tail) :=
    skipWhitespace_append space (by simp [stringBytes]; decide)
  have hgap : skipWhitespace (gap.val ++ ord ':' :: tail) = ord ':' :: tail :=
    skipWhitespace_append gap (by simp; decide)
  have hread : consumeString limits.maxKeyBytes true
      (stringBytes key ++ (gap.val ++ ord ':' :: tail)) =
        some (some (decodedString key), gap.val ++ ord ':' :: tail) :=
    consumeString_eq_some.2 ⟨key, rfl, hkey, rfl⟩
  have hclose : consumeByte (ord '\x7d') (stringBytes key ++ (gap.val ++ ord ':' :: tail)) = none :=
    consumeByte_eq_none.2 (by simp [stringBytes]; decide)
  have hquote : (stringBytes key ++ (gap.val ++ ord ':' :: tail)).head? = some (ord '"') := rfl
  simp only [Parser.advance, hskip, hstate, Parser.consumeObjectKey, hclose, ite_self, hquote,
    ne_eq, not_true_eq_false, if_false, hread, Option.bind_eq_bind, Option.bind_some, hfresh,
    not_false_eq_true, guard_true, hgap, consumeByte_cons_self, Parser.withFrame]
  rfl

/-- The request identifier is recorded before its value ends. -/
theorem Value.begun_withRequestId (v : Value) (id : Bool) :
    { v.begun next tokens frames keys valid with rootRequestIdIsValid := id } =
      v.begun next tokens frames keys id := by
  cases v <;> rfl

/-- The value of a member begins. -/
theorem advance_objectValue (hstate : frame.state = .objectValue) {v : Value}
    (hcount : frame.members + 1 ≤ limits.maxObjectMembers)
    (hfits : v.Fits limits finite (below.length + 1) tokens) (htail : Delimited tail) :
    Parser.advance limits finite
        ⟨space.val ++ (v.bytes ++ tail), tokens, frame :: below, keys, valid, false⟩ =
      some (v.begun tail tokens
        ({ frame with members := frame.members + 1, state := .objectAfterValue } :: below) keys
        (if Parser.isRootRequestIdValue frame below then v.isRequestId else valid)) := by
  obtain ⟨byte, rest, hbytes, hspace, -⟩ := v.bytes_eq_cons
  have hskip : skipWhitespace (space.val ++ (v.bytes ++ tail)) = v.bytes ++ tail :=
    skipWhitespace_append space (by simpa [hbytes] using hspace)
  have hbegin := @beginValue_complete limits finite tail tokens
    ({ frame with members := frame.members + 1, state := .objectAfterValue } :: below) keys valid v
    hfits htail
  simp only [Parser.advance, hskip, hstate, Parser.consumeObjectValue,
    if_neg (Nat.not_lt.2 hcount), Parser.withFrame, hbegin, Option.bind_eq_bind, Option.bind_some]
  split
  · rw [Value.begun_withRequestId]
    rfl
  · rfl

/-- Another member follows. -/
theorem advance_objectComma (hstate : frame.state = .objectAfterValue) :
    Parser.advance limits finite
        ⟨space.val ++ ord ',' :: tail, tokens, frame :: below, keys, valid, false⟩ =
      some ⟨tail, tokens,
        { frame with currentKey := none, state := .objectKeyOrEnd, allowEnd := false } :: below, keys,
        valid, false⟩ := by
  have hskip : skipWhitespace (space.val ++ ord ',' :: tail) = ord ',' :: tail :=
    skipWhitespace_append space (by simp; decide)
  simp only [Parser.advance, hskip, hstate, Parser.consumeObjectSeparator, consumeByte_cons_self,
    Parser.withFrame]

/-- An object ends after a member. -/
theorem advance_objectEnd (hstate : frame.state = .objectAfterValue) :
    Parser.advance limits finite
        ⟨space.val ++ ord '\x7d' :: tail, tokens, frame :: below, keys, valid, false⟩ =
      some ⟨tail, tokens, below, keys, valid, below.isEmpty⟩ := by
  have hskip : skipWhitespace (space.val ++ ord '\x7d' :: tail) = ord '\x7d' :: tail :=
    skipWhitespace_append space (by simp; decide)
  have hcomma : consumeByte (ord ',') (ord '\x7d' :: tail) = none := by
    simp [consumeByte_eq_none]
    decide
  simp only [Parser.advance, hskip, hstate, Parser.consumeObjectSeparator, hcomma,
    consumeByte_cons_self, Option.map_some, Parser.finishContainer_eq]

/-! ## Whole values -/

/-- Inside a container, the end of a value records nothing of the root. -/
theorem Value.finished_cons (v : Value) :
    v.finished next tokens (frame :: below) keys valid =
      ⟨next, tokens + v.tokens, frame :: below, keys, valid, false⟩ := rfl

mutual

/-- **A value is read to its end.** -/
theorem steps_value (v : Value) (next : List UInt8) (tokens : ℕ) (frames : List Frame)
    (keys : Option (List String)) (valid : Bool)
    (hfits : v.Fits limits finite frames.length tokens) :
    Steps limits finite (v.begun next tokens frames keys valid)
      (v.finished next tokens frames keys valid) := by
  match v, hfits with
  | .literal l, _ =>
      simp only [Value.begun, Value.finished, Value.rootKeys, Value.rootRequestId, ite_self]
      exact .refl
  | .number n, _ =>
      simp only [Value.begun, Value.finished, Value.rootKeys, Value.rootRequestId, ite_self]
      exact .refl
  | .string chars, _ =>
      simp only [Value.begun, Value.finished, Value.rootKeys, Value.rootRequestId, ite_self]
      exact .refl
  | .emptyArray padding, _ =>
      simp only [Value.begun, Value.finished, Value.rootKeys, Value.rootRequestId, ite_self,
        List.append_assoc, List.singleton_append]
      exact .head rfl (advance_arrayEmpty rfl rfl) .refl
  | .array elements, hfits =>
      have h := steps_elements elements next (tokens + 1)
        { kind := .array, state := .arrayValueOrEnd } frames keys valid rfl
        (Value.fits_array.1 hfits)
      rw [Nat.add_right_comm, Nat.add_assoc] at h
      simpa only [Value.begun, Value.finished, Value.rootKeys, Value.rootRequestId, ite_self,
        Value.tokens] using h
  | .emptyObject padding, _ =>
      simp only [Value.begun, Value.finished, Value.rootKeys, Value.rootRequestId, ite_self,
        List.append_assoc, List.singleton_append]
      exact .head rfl (advance_objectEmpty rfl rfl) .refl
  | .object members, hfits =>
      have h := steps_members members next (tokens + 1)
        { kind := .object, state := .objectKeyOrEnd } frames
        (if frames.isEmpty then some [] else keys) valid rfl rfl (Value.fits_object.1 hfits)
      rw [Nat.add_right_comm] at h
      cases frames <;> simpa [Value.begun, Value.finished, Value.rootKeys, Value.rootRequestId,
        Value.tokens, Nat.add_assoc] using h

/-- The elements of an open array are read to its end. -/
theorem steps_elements (elements : Elements) (next : List UInt8) (tokens : ℕ) (frame : Frame)
    (below : List Frame) (keys : Option (List String)) (valid : Bool)
    (hstate : frame.state = .arrayValueOrEnd)
    (hfits : elements.Fits limits finite (below.length + 1) tokens frame.members) :
    Steps limits finite
      ⟨elements.bytes ++ next, tokens, frame :: below, keys, valid, false⟩
      ⟨next, tokens + elements.tokens, below, keys, valid, below.isEmpty⟩ := by
  match elements, hfits with
  | .last before v after, hfits =>
      obtain ⟨hv, hcount⟩ := Elements.fits_last.1 hfits
      have hbytes : (Elements.last before v after).bytes ++ next =
          before.val ++ (v.bytes ++ (after.val ++ ord ']' :: next)) := by
        simp [Elements.bytes]
      rw [hbytes]
      refine .head rfl (advance_arrayValue hstate hcount hv (delimited_append after (by simp))) ?_
      refine .trans (steps_value v _ _ _ _ _ hv) ?_
      rw [Value.finished_cons]
      exact .head rfl (advance_arrayEnd rfl) .refl
  | .cons before v after rest, hfits =>
      obtain ⟨hv, hrest⟩ := Elements.fits_cons.1 hfits
      have hbytes : (Elements.cons before v after rest).bytes ++ next =
          before.val ++ (v.bytes ++ (after.val ++ ord ',' :: (rest.bytes ++ next))) := by
        simp [Elements.bytes]
      have hcount : frame.members + 1 ≤ limits.maxArrayItems :=
        Nat.le_trans (Nat.le_add_right _ _) hrest.count_le
      rw [hbytes]
      refine .head rfl (advance_arrayValue hstate hcount hv (delimited_append after (by simp))) ?_
      refine .trans (steps_value v _ _ _ _ _ hv) ?_
      rw [Value.finished_cons]
      refine .head rfl (advance_arrayComma rfl) ?_
      have h := steps_elements rest next (tokens + v.tokens)
        { frame with members := frame.members + 1, state := .arrayValueOrEnd, allowEnd := false }
        below keys valid rfl hrest
      simpa only [Elements.tokens, Nat.add_assoc] using h

/-- The members of an open object are read to its end. -/
theorem steps_members (members : Members) (next : List UInt8) (tokens : ℕ) (frame : Frame)
    (below : List Frame) (keys : Option (List String)) (valid : Bool)
    (hkind : frame.kind = .object) (hstate : frame.state = .objectKeyOrEnd)
    (hfits : members.Fits limits finite (below.length + 1) tokens frame.members frame.keys) :
    Steps limits finite
      ⟨members.bytes ++ next, tokens, frame :: below, keys, valid, false⟩
      ⟨next, tokens + members.tokens, below,
        if below.isEmpty then keys.map (members.decodedKeys.reverse ++ ·) else keys,
        if below.isEmpty then members.requestId valid else valid, below.isEmpty⟩ := by
  match members, hfits with
  | .last before key gap space v after, hfits =>
      obtain ⟨hv, hkey, hfresh, hcount⟩ := Members.fits_last.1 hfits
      have hbytes : (Members.last before key gap space v after).bytes ++ next =
          before.val ++ (stringBytes key ++ (gap.val ++ ord ':' ::
            (space.val ++ (v.bytes ++ (after.val ++ ord '\x7d' :: next))))) := by
        simp [Members.bytes]
      rw [hbytes]
      refine .head rfl (advance_objectKey hstate hkey hfresh) ?_
      refine .head rfl (advance_objectValue rfl hcount hv (delimited_append after (by simp))) ?_
      refine .trans (steps_value v _ _ _ _ _ hv) ?_
      rw [Value.finished_cons]
      refine .head rfl (advance_objectEnd rfl) ?_
      cases below with
      | nil =>
          simp [Parser.isRootRequestIdValue, hkind, Members.decodedKeys, Members.keys,
            Members.requestId, Members.tokens]
          exact .refl
      | cons _ below => exact .refl
  | .cons before key gap space v after rest, hfits =>
      obtain ⟨hv, hkey, hfresh, hrest⟩ := Members.fits_cons.1 hfits
      have hbytes : (Members.cons before key gap space v after rest).bytes ++ next =
          before.val ++ (stringBytes key ++ (gap.val ++ ord ':' ::
            (space.val ++ (v.bytes ++ (after.val ++ ord ',' :: (rest.bytes ++ next)))))) := by
        simp [Members.bytes]
      have hcount : frame.members + 1 ≤ limits.maxObjectMembers :=
        Nat.le_trans (Nat.le_add_right _ _) hrest.count_le
      rw [hbytes]
      refine .head rfl (advance_objectKey hstate hkey hfresh) ?_
      refine .head rfl (advance_objectValue rfl hcount hv (delimited_append after (by simp))) ?_
      refine .trans (steps_value v _ _ _ _ _ hv) ?_
      rw [Value.finished_cons]
      refine .head rfl (advance_objectComma rfl) ?_
      have h := steps_members rest next (tokens + v.tokens)
        { frame with
            keys := decodedString key :: frame.keys
            currentKey := none
            members := frame.members + 1
            state := .objectKeyOrEnd
            allowEnd := false }
        below (if below.isEmpty then keys.map (decodedString key :: ·) else keys)
        (if Parser.isRootRequestIdValue
          { frame with
              keys := decodedString key :: frame.keys
              currentKey := some (decodedString key)
              state := .objectValue } below
          then v.isRequestId else valid) hkind rfl hrest
      rw [Nat.add_assoc] at h
      cases below with
      | nil =>
          simpa [Parser.isRootRequestIdValue, hkind, Members.decodedKeys, Members.keys,
            Members.requestId, Members.tokens, Function.comp_def] using h
      | cons _ below => exact h

end

end NplgMcp.Json
