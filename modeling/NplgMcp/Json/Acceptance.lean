import NplgMcp.Json.Completeness
import NplgMcp.Json.Soundness

/-!
# The preflight accepts exactly its grammar

`preflight_accepts_iff` puts the two directions together: a payload passes exactly when it is not
longer than the body limit and is a text of the grammar with distinct keys within the other limits.
The loop of `validate` ends on every payload because every turn reads a byte (`advance_length`).
-/

namespace NplgMcp.Json

variable {limits : JsonPreflightLimits} {finite : List UInt8 → Bool}

/-! ## Termination -/

/-- The beginning of a value reads a byte. -/
theorem beginValue_length {rest : List UInt8} {tokens : ℕ} {frames : List Frame}
    {keys : Option (List String)} {valid : Bool} {kind : JsonValueKind} {p : Parser}
    (h : Parser.beginValue limits finite ⟨rest, tokens, frames, keys, valid, false⟩ =
      some (kind, p)) : p.rest.length < rest.length := by
  obtain ⟨-, next, ⟨v, rfl, -, -, -, -, rfl⟩ | ⟨rfl, -, rfl⟩ | ⟨rfl, -, keys', rfl⟩⟩ :=
    beginValue_sound h
  · obtain ⟨byte, tail, hbytes, -⟩ := v.bytes_eq_cons
    simp only [hbytes, List.cons_append, List.length_cons, List.length_append]
    omega
  · exact Nat.lt_succ_self _
  · exact Nat.lt_succ_self _

theorem length_skipWhitespace_le (rest : List UInt8) :
    (skipWhitespace rest).length ≤ rest.length := List.length_dropWhile_le _ _

theorem consumeByte_length {byte : UInt8} {rest tail : List UInt8}
    (h : consumeByte byte rest = some tail) : tail.length < rest.length := by
  rw [consumeByte_eq_some.1 h]
  exact Nat.lt_succ_self _

/-- Every turn reads a byte. -/
theorem advance_length {p p' : Parser} (hp : p.rootComplete = false)
    (h : p.advance limits finite = some p') : p'.rest.length < p.rest.length := by
  obtain ⟨rest, tokens, frames, keys, valid, complete⟩ := p
  obtain rfl : complete = false := hp
  refine Nat.lt_of_lt_of_le ?_ (length_skipWhitespace_le rest)
  cases frames with
  | nil =>
      obtain ⟨⟨kind, p⟩, hbegin, rfl⟩ := Option.map_eq_some_iff.1 h
      exact beginValue_length hbegin
  | cons frame below =>
      simp only [Parser.advance] at h
      cases hstate : frame.state with
      | arrayValueOrEnd =>
          simp only [hstate, Parser.consumeArrayValue, Parser.withFrame] at h
          split at h
          · rename_i tail hclose
            obtain rfl := Option.some.inj h
            rw [(consumeEnd_eq_some hclose).2]
            exact Nat.lt_succ_self _
          · split at h
            case isTrue => cases h
            obtain ⟨⟨kind, p⟩, hbegin, rfl⟩ := Option.map_eq_some_iff.1 h
            exact beginValue_length hbegin
      | arrayAfterValue =>
          simp only [hstate, Parser.consumeArraySeparator, Parser.withFrame] at h
          split at h
          · rename_i tail hcomma
            obtain rfl := Option.some.inj h
            exact consumeByte_length hcomma
          · obtain ⟨tail, hclose, rfl⟩ := Option.map_eq_some_iff.1 h
            exact consumeByte_length hclose
      | objectKeyOrEnd =>
          simp only [hstate, Parser.consumeObjectKey, Parser.withFrame] at h
          split at h
          · rename_i tail hclose
            obtain rfl := Option.some.inj h
            rw [(consumeEnd_eq_some hclose).2]
            exact Nat.lt_succ_self _
          · split at h
            case isTrue => cases h
            simp only [Option.bind_eq_bind, Option.bind_eq_some_iff, Option.guard_eq_some',
              Option.pure_def, Prod.exists, exists_const, consumeString_eq_some] at h
            obtain ⟨_, afterKey, ⟨key, hkey, -, rfl⟩, _, ⟨⟩, -, tail, hcolon, hp'⟩ := h
            obtain rfl := Option.some.inj hp'
            have htail := Nat.lt_of_lt_of_le (consumeByte_length hcolon)
              (length_skipWhitespace_le afterKey)
            rw [hkey, List.length_append]
            exact Nat.lt_add_left _ htail
      | objectValue =>
          simp only [hstate, Parser.consumeObjectValue, Parser.withFrame] at h
          split at h
          case isTrue => cases h
          simp only [Option.bind_eq_bind, Option.bind_eq_some_iff, Option.pure_def,
            Prod.exists] at h
          obtain ⟨kind, p, hbegin, hp'⟩ := h
          have hlength := beginValue_length hbegin
          split at hp' <;> obtain rfl := Option.some.inj hp' <;> exact hlength
      | objectAfterValue =>
          simp only [hstate, Parser.consumeObjectSeparator, Parser.withFrame] at h
          split at h
          · rename_i tail hcomma
            obtain rfl := Option.some.inj h
            exact consumeByte_length hcomma
          · obtain ⟨tail, hclose, rfl⟩ := Option.map_eq_some_iff.1 h
            exact consumeByte_length hclose

/-- More turns than bytes are turns enough. -/
theorem scan_ne_running {turns : ℕ} {p : Parser} (h : p.rest.length < turns) (stopped : Parser) :
    scan limits finite turns p ≠ .running stopped := by
  induction turns generalizing p with
  | zero => exact absurd h (Nat.not_lt_zero _)
  | succ left ih =>
      unfold scan
      cases hp : p.rootComplete with
      | true => simp
      | false =>
          cases hadvance : p.advance limits finite with
          | none => simp
          | some p' =>
              have hlength := advance_length hp hadvance
              simpa [hadvance] using ih (by omega)

/-- Once the loop has ended, turns to spare change nothing. -/
theorem scan_add {turns more : ℕ} {p : Parser}
    (h : ∀ stopped, scan limits finite turns p ≠ .running stopped) :
    scan limits finite (turns + more) p = scan limits finite turns p := by
  induction turns generalizing p with
  | zero =>
      unfold scan at h ⊢
      cases hp : p.rootComplete with
      | true => simp
      | false => exact absurd (by simp [hp]) (h p)
  | succ left ih =>
      rw [Nat.add_right_comm]
      unfold scan at h ⊢
      cases hp : p.rootComplete with
      | true => simp
      | false =>
          cases hadvance : p.advance limits finite with
          | none => simp
          | some p' =>
              simp only [hp, hadvance] at h
              simpa [hadvance] using ih h

/-- A run that completes the root in any number of turns does so in the turns `validate` allows. -/
theorem scan_eq_of_complete {turns : ℕ} {p q : Parser}
    (h : scan limits finite turns p = .complete q) :
    scan limits finite (p.rest.length + 1) p = .complete q := by
  have hturns : ∀ stopped, scan limits finite turns p ≠ .running stopped := by simp [h]
  have henough : ∀ stopped, scan limits finite (p.rest.length + 1) p ≠ .running stopped :=
    scan_ne_running (Nat.lt_succ_self p.rest.length)
  rcases Nat.le_total turns (p.rest.length + 1) with hle | hle
  · obtain ⟨more, hmore⟩ := Nat.exists_eq_add_of_le hle
    rw [hmore, scan_add hturns, h]
  · obtain ⟨more, hmore⟩ := Nat.exists_eq_add_of_le hle
    rw [← scan_add henough, ← hmore, h]

/-! ## Acceptance -/

/-- An admissible text is validated, to the parser that has read it. -/
theorem validate_complete {text : Text} (hsize : text.bytes.length ≤ limits.maxBodyBytes)
    (h : text.Admissible limits finite) :
    validate limits finite text.bytes =
      some (text.value.finished text.after.val 0 [] none false) := by
  obtain ⟨before, v, after⟩ := text
  have hfits : v.Fits limits finite 0 0 :=
    ⟨h.distinct, h.within, by simpa using h.depth, by simpa using h.tokens⟩
  obtain ⟨byte, tail, hbytes, hspace, -⟩ := v.bytes_eq_cons
  have hskip : skipWhitespace (before.val ++ (v.bytes ++ after.val)) = v.bytes ++ after.val :=
    skipWhitespace_append before (by simpa [hbytes] using hspace)
  have hadvance : Parser.advance limits finite ⟨before.val ++ (v.bytes ++ after.val), 0, [], none,
      false, false⟩ = some (v.begun after.val 0 [] none false) := by
    have hbegin := @beginValue_complete limits finite after.val 0 [] none false v hfits
      (delimited_whitespace after)
    simp only [Parser.advance, hskip, hbegin, Option.map_some]
  obtain ⟨turns, hturns⟩ :=
    (Steps.head rfl hadvance (steps_value v after.val 0 [] none false hfits)).scan_eq rfl
  have hscan := scan_eq_of_complete hturns
  have hafter : skipWhitespace after.val = [] := by
    simpa using @skipWhitespace_append after [] (by simp)
  have hne : ¬ ((before.val ++ (v.bytes ++ after.val)).isEmpty ∨
      limits.maxBodyBytes < (before.val ++ (v.bytes ++ after.val)).length) := by
    rintro (hempty | hlong)
    · simp [hbytes] at hempty
    · exact Nat.not_lt.2 hsize hlong
  simp only [Text.bytes, validate, if_neg hne, hscan]
  simp only [Value.finished, hafter, List.isEmpty_nil, if_true]

/-- What is validated is an admissible text. -/
theorem validate_sound {payload : List UInt8} {q : Parser}
    (h : validate limits finite payload = some q) :
    payload.length ≤ limits.maxBodyBytes ∧
      ∃ text : Text, text.bytes = payload ∧ text.Admissible limits finite := by
  simp only [validate] at h
  split at h
  case isTrue => cases h
  rename_i hsize
  refine ⟨Nat.not_lt.1 fun hlong => hsize (.inr hlong), ?_⟩
  split at h
  case h_2 => cases h
  rename_i p hscan
  split at h
  case isFalse => cases h
  rename_i hrest
  obtain ⟨left, p', -, hadvance, hp'⟩ := scan_eq_complete rfl hscan
  obtain ⟨⟨kind, begun⟩, hbegin, rfl⟩ := Option.map_eq_some_iff.1 hadvance
  obtain ⟨v, next, hbytes, hfits, m, -, keys, valid, hfinal⟩ :=
    value_sound (fun l _ => sound l) hbegin (Nat.zero_le _) hp'
  have hp : p = ⟨next, 0 + v.tokens, [], keys, valid, true⟩ := by
    unfold scan at hfinal
    simpa [eq_comm] using hfinal
  have hnext : (takeWhitespace next).val = next := by
    have hspace := takeWhitespace_append next
    rw [hp, List.isEmpty_iff] at hrest
    rwa [hrest, List.append_nil] at hspace
  refine ⟨⟨takeWhitespace payload, v, takeWhitespace next⟩, ?_, ?_⟩
  · rw [Text.bytes, hnext, ← hbytes]
    exact takeWhitespace_append payload
  · exact ⟨hfits.distinct, by simpa using hfits.depth_le, by simpa using hfits.tokens_le,
      hfits.within⟩

/-- **The preflight accepts exactly its grammar**, and ends on every payload. -/
theorem preflight_accepts_iff (limits : JsonPreflightLimits) (finite : List UInt8 → Bool)
    (payload : List UInt8) :
    (preflightJson limits finite payload = true ↔
      payload.length ≤ limits.maxBodyBytes ∧
        ∃ text : Text, text.bytes = payload ∧ text.Admissible limits finite) ∧
    ∀ stopped, scan limits finite (payload.length + 1) { rest := payload } ≠ .running stopped := by
  refine ⟨⟨fun h => ?_, ?_⟩, scan_ne_running (Nat.lt_succ_self _)⟩
  · obtain ⟨q, hq⟩ := Option.isSome_iff_exists.1 h
    exact validate_sound hq
  · rintro ⟨hsize, text, rfl, htext⟩
    rw [preflightJson, validate_complete hsize htext, Option.isSome_some]

/-- Limits that admit a body of one byte. -/
def oneByteBody : JsonPreflightLimits :=
  { JsonPreflightLimits.standard with maxBodyBytes := 1, maxBodyBytes_mem := by decide }

/-- Limits that admit a scalar of three bytes. -/
def threeByteScalars : JsonPreflightLimits :=
  { JsonPreflightLimits.standard with maxScalarBytes := 3, maxScalarBytes_mem := by decide }

/-- The number ten. -/
def ten : Text where
  before := ⟨[], by simp⟩
  value := .number
    { negative := false
      integer := ⟨[0x31, 0x30], by simp; decide⟩
      fraction := none
      exponent := none
      integer_canonical := by decide }
  after := ⟨[], by simp⟩

/-- The size of the body is limited on its own, and the literals are not limited as scalars: the
two bytes of a number that is admissible otherwise are refused where a body may have one, and the
four bytes of `true` pass where a scalar may have three. -/
theorem preflight_limits_body_not_literals :
    (¬ (preflightJson oneByteBody (fun _ => true) ten.bytes = true ↔
      ∃ text : Text, text.bytes = ten.bytes ∧ text.Admissible oneByteBody fun _ => true)) ∧
    preflightJson threeByteScalars (fun _ => true) Literal.true.bytes = true ∧
    threeByteScalars.maxScalarBytes < Literal.true.bytes.length := by
  refine ⟨fun h => ?_, by decide, by decide⟩
  have hrefused : preflightJson oneByteBody (fun _ => true) ten.bytes = false := by decide
  have hadmissible : ten.Admissible oneByteBody fun _ => true :=
    ⟨trivial, by decide, by decide, ⟨by decide, by simp, by decide, rfl⟩⟩
  rw [h.2 ⟨ten, rfl, hadmissible⟩] at hrefused
  cases hrefused

end NplgMcp.Json
