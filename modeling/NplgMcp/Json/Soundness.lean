import NplgMcp.Json.Lexical

/-!
# What the automaton reads, the grammar derives

A run that completes the root has read a value wherever one begins. The frames of the automaton
remember no text, so the tree is recovered from the rest of the run: from each state of a frame, a
run to the end reads what the grammar derives from there to the end of the container, and goes on
from the frames below (`Sound`). The five statements, one for each state of a frame, are proved
together by induction on the number of turns.
-/

namespace NplgMcp.Json

variable {limits : JsonPreflightLimits} {finite : List UInt8 → Bool}

/-! ## One turn -/

/-- A run that completes an incomplete root takes a turn. -/
theorem scan_eq_complete {turns : ℕ} {p q : Parser} (hp : p.rootComplete = false)
    (h : scan limits finite turns p = .complete q) :
    ∃ left p', turns = left + 1 ∧ p.advance limits finite = some p' ∧
      scan limits finite left p' = .complete q := by
  unfold scan at h
  cases turns with
  | zero => simp [hp] at h
  | succ left =>
      simp only [hp, Bool.false_eq_true, if_false] at h
      cases hadvance : p.advance limits finite with
      | none => simp [hadvance] at h
      | some p' =>
          simp only [hadvance] at h
          exact ⟨left, p', rfl, rfl, h⟩

/-- A literal that stands at the front is read. -/
theorem literal_sound {rest : List UInt8} {tokens : ℕ} {frames : List Frame}
    {keys : Option (List String)} {valid : Bool} {kind kind' : JsonValueKind} {p : Parser}
    (l : Literal) (hfront : l.bytes <+: rest)
    (h : (kind', Parser.finishScalar ⟨rest, tokens, frames, keys, valid, false⟩
      (rest.drop l.bytes.length)) = (kind, p)) :
    rest = (Value.literal l).bytes ++ rest.drop l.bytes.length ∧
      p = ⟨rest.drop l.bytes.length, tokens, frames, keys, valid, frames.isEmpty⟩ := by
  obtain ⟨next, rfl⟩ := hfront
  rw [List.drop_left] at h ⊢
  exact ⟨rfl, by rw [← (Prod.mk.inj h).2, Parser.finishScalar_eq]⟩

/-- What begins a value: a scalar that is read whole, or the opening of a container. -/
theorem beginValue_sound {rest : List UInt8} {tokens : ℕ} {frames : List Frame}
    {keys : Option (List String)} {valid : Bool} {kind : JsonValueKind} {p : Parser}
    (h : Parser.beginValue limits finite ⟨rest, tokens, frames, keys, valid, false⟩ =
      some (kind, p)) :
    tokens + 1 ≤ limits.maxTokens ∧ ∃ next,
      (∃ v : Value, rest = v.bytes ++ next ∧ v.depth = 0 ∧ v.tokens = 1 ∧ v.DistinctKeys ∧
        v.Within limits finite ∧ p = ⟨next, tokens + 1, frames, keys, valid, frames.isEmpty⟩) ∨
      (rest = ord '[' :: next ∧ frames.length < limits.maxDepth ∧
        p = ⟨next, tokens + 1, { kind := .array, state := .arrayValueOrEnd } :: frames, keys, valid,
          false⟩) ∨
      (rest = ord '\x7b' :: next ∧ frames.length < limits.maxDepth ∧ ∃ keys',
        p = ⟨next, tokens + 1, { kind := .object, state := .objectKeyOrEnd } :: frames, keys', valid,
          false⟩) := by
  simp only [Parser.beginValue, Option.bind_eq_bind, Option.bind_eq_some_iff,
    Parser.countToken] at h
  obtain ⟨counted, hcounted, h⟩ := h
  split at hcounted
  case isTrue => cases hcounted
  rename_i hcount
  obtain rfl := Option.some.inj hcounted
  refine ⟨Nat.not_lt.1 hcount, ?_⟩
  cases rest with
  | nil => cases h
  | cons value rest =>
      simp only [Parser.dispatchValue] at h
      split_ifs at h with hbrace hbracket hquote hnumber htrue hfalse hnull
      · obtain ⟨_, hpush, hp⟩ := Option.map_eq_some_iff.1 h
        simp only [Parser.pushContainer] at hpush
        split at hpush
        case isTrue => cases hpush
        rename_i hdepth
        obtain rfl := Option.some.inj hpush
        exact ⟨rest, .inr (.inr ⟨by rw [hbrace], Nat.not_le.1 hdepth, _, (Prod.mk.inj hp).2.symm⟩)⟩
      · obtain ⟨_, hpush, hp⟩ := Option.map_eq_some_iff.1 h
        simp only [Parser.pushContainer] at hpush
        split at hpush
        case isTrue => cases hpush
        rename_i hdepth
        obtain rfl := Option.some.inj hpush
        refine ⟨rest, .inr (.inl ⟨by rw [hbracket], Nat.not_le.1 hdepth, ?_⟩)⟩
        simpa using (Prod.mk.inj hp).2.symm
      · obtain ⟨⟨answer, next⟩, hread, hp⟩ := Option.map_eq_some_iff.1 h
        obtain ⟨chars, hbytes, hlength, -⟩ := consumeString_eq_some.1 hread
        refine ⟨next, .inl ⟨.string chars, hbytes, rfl, rfl, trivial, hlength, ?_⟩⟩
        rw [← (Prod.mk.inj hp).2, Parser.finishScalar_eq]
      · obtain ⟨⟨isInteger, next⟩, hread, hp⟩ := Option.map_eq_some_iff.1 h
        obtain ⟨n, hbytes, -, hwithin⟩ := consumeNumber_sound hread
        refine ⟨next, .inl ⟨.number n, hbytes, rfl, rfl, trivial, hwithin, ?_⟩⟩
        rw [← (Prod.mk.inj hp).2, Parser.finishScalar_eq]
      · obtain ⟨hbytes, hp⟩ := literal_sound .true htrue (Option.some.inj h)
        exact ⟨_, .inl ⟨_, hbytes, rfl, rfl, trivial, trivial, hp⟩⟩
      · obtain ⟨hbytes, hp⟩ := literal_sound .false hfalse (Option.some.inj h)
        exact ⟨_, .inl ⟨_, hbytes, rfl, rfl, trivial, trivial, hp⟩⟩
      · obtain ⟨hbytes, hp⟩ := literal_sound .null hnull (Option.some.inj h)
        exact ⟨_, .inl ⟨_, hbytes, rfl, rfl, trivial, trivial, hp⟩⟩

/-! ## Whole containers -/

variable (limits finite)

/-- The run goes on to its end in fewer turns, from the frames below. -/
def GoesOn (turns : ℕ) (next : List UInt8) (tokens : ℕ) (frames : List Frame) (q : Parser) : Prop :=
  ∃ left, left < turns ∧ ∃ keys valid,
    scan limits finite left ⟨next, tokens, frames, keys, valid, frames.isEmpty⟩ = .complete q

theorem GoesOn.mono {limits : JsonPreflightLimits} {finite : List UInt8 → Bool} {turns more : ℕ}
    {next : List UInt8} {tokens : ℕ} {frames : List Frame} {q : Parser}
    (h : GoesOn limits finite turns next tokens frames q) (hle : turns ≤ more) :
    GoesOn limits finite more next tokens frames q := by
  obtain ⟨left, hlt, hscan⟩ := h
  exact ⟨left, Nat.lt_of_lt_of_le hlt hle, hscan⟩

/-- What a run reads from `array_value_or_end`. -/
def ArrayValueSound (turns : ℕ) : Prop :=
  ∀ {rest tokens frame below keys valid q}, frame.state = .arrayValueOrEnd →
    below.length + 1 ≤ limits.maxDepth →
    scan limits finite turns ⟨rest, tokens, frame :: below, keys, valid, false⟩ = .complete q →
    ∃ next tokens', GoesOn limits finite turns next tokens' below q ∧
      ((frame.allowEnd = true ∧ ∃ padding : Whitespace, rest = padding.val ++ ord ']' :: next ∧
          tokens' = tokens) ∨
        ∃ elements : Elements, rest = elements.bytes ++ next ∧ tokens' = tokens + elements.tokens ∧
          elements.Fits limits finite (below.length + 1) tokens frame.members)

/-- What a run reads from `array_after_value`. -/
def ArrayAfterSound (turns : ℕ) : Prop :=
  ∀ {rest tokens frame below keys valid q}, frame.state = .arrayAfterValue →
    below.length + 1 ≤ limits.maxDepth →
    scan limits finite turns ⟨rest, tokens, frame :: below, keys, valid, false⟩ = .complete q →
    ∃ next tokens', GoesOn limits finite turns next tokens' below q ∧ ∃ after : Whitespace,
      (rest = after.val ++ ord ']' :: next ∧ tokens' = tokens ∨
        ∃ elements : Elements, rest = after.val ++ ord ',' :: (elements.bytes ++ next) ∧
          tokens' = tokens + elements.tokens ∧
          elements.Fits limits finite (below.length + 1) tokens frame.members)

/-- What a run reads from `object_key_or_end`. -/
def ObjectKeySound (turns : ℕ) : Prop :=
  ∀ {rest tokens frame below keys valid q}, frame.state = .objectKeyOrEnd →
    below.length + 1 ≤ limits.maxDepth →
    scan limits finite turns ⟨rest, tokens, frame :: below, keys, valid, false⟩ = .complete q →
    ∃ next tokens', GoesOn limits finite turns next tokens' below q ∧
      ((frame.allowEnd = true ∧ ∃ padding : Whitespace, rest = padding.val ++ ord '\x7d' :: next ∧
          tokens' = tokens) ∨
        ∃ members : Members, rest = members.bytes ++ next ∧ tokens' = tokens + members.tokens ∧
          members.Fits limits finite (below.length + 1) tokens frame.members frame.keys)

/-- What a run reads from `object_after_value`. -/
def ObjectAfterSound (turns : ℕ) : Prop :=
  ∀ {rest tokens frame below keys valid q}, frame.state = .objectAfterValue →
    below.length + 1 ≤ limits.maxDepth →
    scan limits finite turns ⟨rest, tokens, frame :: below, keys, valid, false⟩ = .complete q →
    ∃ next tokens', GoesOn limits finite turns next tokens' below q ∧ ∃ after : Whitespace,
      (rest = after.val ++ ord '\x7d' :: next ∧ tokens' = tokens ∨
        ∃ members : Members, rest = after.val ++ ord ',' :: (members.bytes ++ next) ∧
          tokens' = tokens + members.tokens ∧
          members.Fits limits finite (below.length + 1) tokens frame.members frame.keys)

/-- What a run reads from `object_value`. -/
def ObjectValueSound (turns : ℕ) : Prop :=
  ∀ {rest tokens frame below keys valid q}, frame.state = .objectValue →
    below.length + 1 ≤ limits.maxDepth →
    scan limits finite turns ⟨rest, tokens, frame :: below, keys, valid, false⟩ = .complete q →
    ∃ next tokens', GoesOn limits finite turns next tokens' below q ∧
      frame.members + 1 ≤ limits.maxObjectMembers ∧
      ∃ (space : Whitespace) (v : Value) (after : Whitespace),
        v.Fits limits finite (below.length + 1) tokens ∧
        (rest = space.val ++ (v.bytes ++ (after.val ++ ord '\x7d' :: next)) ∧
            tokens' = tokens + v.tokens ∨
          ∃ members : Members,
            rest = space.val ++ (v.bytes ++ (after.val ++ ord ',' :: (members.bytes ++ next))) ∧
            tokens' = tokens + v.tokens + members.tokens ∧
            members.Fits limits finite (below.length + 1) (tokens + v.tokens) (frame.members + 1)
              frame.keys)

/-- **What a run reads to the end of a container**, from each state of its frame. -/
structure Sound (turns : ℕ) : Prop where
  arrayValue : ArrayValueSound limits finite turns
  arrayAfter : ArrayAfterSound limits finite turns
  objectKey : ObjectKeySound limits finite turns
  objectValue : ObjectValueSound limits finite turns
  objectAfter : ObjectAfterSound limits finite turns

variable {limits finite}

/-- **What a run reads from the beginning of a value.** The request identifier may have been
recorded since. -/
theorem value_sound {turns : ℕ} (hsound : ∀ left ≤ turns, Sound limits finite left)
    {rest : List UInt8} {tokens : ℕ} {frames : List Frame} {keys : Option (List String)}
    {valid id : Bool} {kind : JsonValueKind} {p q : Parser}
    (hbegin : Parser.beginValue limits finite ⟨rest, tokens, frames, keys, valid, false⟩ =
      some (kind, p))
    (hdepth : frames.length ≤ limits.maxDepth)
    (h : scan limits finite turns { p with rootRequestIdIsValid := id } = .complete q) :
    ∃ (v : Value) (next : List UInt8), rest = v.bytes ++ next ∧
      v.Fits limits finite frames.length tokens ∧
      GoesOn limits finite (turns + 1) next (tokens + v.tokens) frames q := by
  obtain ⟨htokens, next, hscalar | ⟨rfl, hopen, rfl⟩ | ⟨rfl, hopen, keys', rfl⟩⟩ :=
    beginValue_sound hbegin
  · obtain ⟨v, rfl, hvdepth, hvtokens, hdistinct, hwithin, rfl⟩ := hscalar
    refine ⟨v, next, rfl, ⟨hdistinct, hwithin, by omega, by omega⟩, turns, by omega, keys, id, ?_⟩
    rw [hvtokens]
    exact h
  · obtain ⟨next', tokens', hgoes, ⟨-, padding, rfl, rfl⟩ | ⟨elements, rfl, rfl, hfits⟩⟩ :=
      (hsound turns le_rfl).arrayValue rfl hopen h
    · refine ⟨.emptyArray padding, next', by simp [Value.bytes], ?_, hgoes.mono (by omega)⟩
      exact ⟨trivial, trivial, hopen, htokens⟩
    · refine ⟨.array elements, next', by simp [Value.bytes], Value.fits_array.2 hfits, ?_⟩
      rw [Value.tokens, Nat.add_comm elements.tokens, ← Nat.add_assoc]
      exact hgoes.mono (by omega)
  · obtain ⟨next', tokens', hgoes, ⟨-, padding, rfl, rfl⟩ | ⟨members, rfl, rfl, hfits⟩⟩ :=
      (hsound turns le_rfl).objectKey rfl hopen h
    · refine ⟨.emptyObject padding, next', by simp [Value.bytes], ?_, hgoes.mono (by omega)⟩
      exact ⟨trivial, trivial, hopen, htokens⟩
    · refine ⟨.object members, next', by simp [Value.bytes], Value.fits_object.2 hfits, ?_⟩
      rw [Value.tokens, Nat.add_comm members.tokens, ← Nat.add_assoc]
      exact hgoes.mono (by omega)

/-- A closing byte that is admitted ends the container. -/
theorem consumeEnd_eq_some {allowEnd : Bool} {byte : UInt8} {rest tail : List UInt8}
    (h : (if allowEnd then consumeByte byte rest else none) = some tail) :
    allowEnd = true ∧ rest = byte :: tail := by
  cases allowEnd with
  | false => cases h
  | true => exact ⟨rfl, consumeByte_eq_some.1 h⟩

/-- From `array_value_or_end`: the array ends, or an element begins and the rest follows. -/
theorem arrayValue_sound {turns : ℕ} (ih : ∀ left < turns, Sound limits finite left) :
    ArrayValueSound limits finite turns := by
  intro rest tokens frame below keys valid q hstate hdepth h
  obtain ⟨left, p, rfl, hadvance, hp⟩ := scan_eq_complete rfl h
  simp only [Parser.advance, hstate, Parser.consumeArrayValue, Parser.withFrame] at hadvance
  have hspace := takeWhitespace_append rest
  split at hadvance
  · rename_i tail hclose
    obtain ⟨hallow, htail⟩ := consumeEnd_eq_some hclose
    rw [Parser.finishContainer_eq] at hadvance
    obtain rfl := Option.some.inj hadvance
    rw [htail] at hspace
    exact ⟨tail, tokens, ⟨left, by omega, keys, valid, hp⟩,
      .inl ⟨hallow, takeWhitespace rest, hspace.symm, rfl⟩⟩
  · split at hadvance
    case isTrue => cases hadvance
    rename_i hcount
    obtain ⟨⟨kind, begun⟩, hbegin, rfl⟩ := Option.map_eq_some_iff.1 hadvance
    obtain ⟨v, next, hbytes, hfits, m, hm, keys', valid', hscan⟩ :=
      value_sound (fun l hl => ih l (by omega)) hbegin hdepth hp
    obtain ⟨next', tokens', hgoes, after, hafter⟩ := (ih m hm).arrayAfter rfl hdepth hscan
    refine ⟨next', tokens', hgoes.mono (by omega), .inr ?_⟩
    rw [hbytes] at hspace
    rcases hafter with ⟨rfl, rfl⟩ | ⟨elements, rfl, rfl, helements⟩
    · refine ⟨.last (takeWhitespace rest) v after, ?_, rfl,
        Elements.fits_last.2 ⟨hfits, Nat.not_lt.1 hcount⟩⟩
      simpa [Elements.bytes] using hspace.symm
    · refine ⟨.cons (takeWhitespace rest) v after elements, ?_, Nat.add_assoc _ _ _,
        Elements.fits_cons.2 ⟨hfits, helements⟩⟩
      simpa [Elements.bytes] using hspace.symm

/-- From `array_after_value`: the array ends, or another element follows. -/
theorem arrayAfter_sound {turns : ℕ} (ih : ∀ left < turns, Sound limits finite left) :
    ArrayAfterSound limits finite turns := by
  intro rest tokens frame below keys valid q hstate hdepth h
  obtain ⟨left, p, rfl, hadvance, hp⟩ := scan_eq_complete rfl h
  simp only [Parser.advance, hstate, Parser.consumeArraySeparator,
    Parser.withFrame] at hadvance
  have hspace := takeWhitespace_append rest
  split at hadvance
  · rename_i tail hcomma
    obtain rfl := Option.some.inj hadvance
    obtain ⟨next, tokens', hgoes, ⟨hallow, -⟩ | ⟨elements, rfl, rfl, hfits⟩⟩ :=
      (ih left (by omega)).arrayValue rfl hdepth hp
    · cases hallow
    · rw [consumeByte_eq_some.1 hcomma] at hspace
      exact ⟨next, _, hgoes.mono (by omega), takeWhitespace rest,
        .inr ⟨elements, hspace.symm, rfl, hfits⟩⟩
  · obtain ⟨tail, hclose, rfl⟩ := Option.map_eq_some_iff.1 hadvance
    rw [Parser.finishContainer_eq] at hp
    rw [consumeByte_eq_some.1 hclose] at hspace
    exact ⟨tail, tokens, ⟨left, by omega, keys, valid, hp⟩, takeWhitespace rest,
      .inl ⟨hspace.symm, rfl⟩⟩

/-- From `object_key_or_end`: the object ends, or a key is read and its value follows. -/
theorem objectKey_sound {turns : ℕ} (ih : ∀ left < turns, Sound limits finite left) :
    ObjectKeySound limits finite turns := by
  intro rest tokens frame below keys valid q hstate hdepth h
  obtain ⟨left, p, rfl, hadvance, hp⟩ := scan_eq_complete rfl h
  simp only [Parser.advance, hstate, Parser.consumeObjectKey, Parser.withFrame] at hadvance
  have hspace := takeWhitespace_append rest
  split at hadvance
  · rename_i tail hclose
    obtain ⟨hallow, htail⟩ := consumeEnd_eq_some hclose
    rw [Parser.finishContainer_eq] at hadvance
    obtain rfl := Option.some.inj hadvance
    rw [htail] at hspace
    exact ⟨tail, tokens, ⟨left, by omega, keys, valid, hp⟩,
      .inl ⟨hallow, takeWhitespace rest, hspace.symm, rfl⟩⟩
  · split at hadvance
    case isTrue => cases hadvance
    simp only [Option.bind_eq_bind, Option.bind_eq_some_iff, Option.guard_eq_some', Option.pure_def,
      Prod.exists, exists_const, consumeByte_eq_some, consumeString_eq_some] at hadvance
    obtain ⟨_, afterKey, ⟨key, hkey, hlength, rfl⟩, _, ⟨⟩, hfresh, tail, hcolon, hp'⟩ := hadvance
    obtain rfl := Option.some.inj hp'
    obtain ⟨next, tokens', hgoes, hcount, space, v, after, hv, hvalue⟩ :=
      (ih left (by omega)).objectValue rfl hdepth hp
    have hgap := takeWhitespace_append afterKey
    rw [hcolon] at hgap
    rw [hkey, ← hgap] at hspace
    refine ⟨next, tokens', hgoes.mono (by omega), .inr ?_⟩
    rcases hvalue with ⟨rfl, rfl⟩ | ⟨members, rfl, rfl, hmembers⟩
    · refine ⟨.last (takeWhitespace rest) key (takeWhitespace afterKey) space v after, ?_, rfl,
        Members.fits_last.2 ⟨hv, hlength, hfresh, hcount⟩⟩
      simpa [Members.bytes] using hspace.symm
    · refine ⟨.cons (takeWhitespace rest) key (takeWhitespace afterKey) space v after members, ?_,
        Nat.add_assoc _ _ _, Members.fits_cons.2 ⟨hv, hlength, hfresh, hmembers⟩⟩
      simpa [Members.bytes] using hspace.symm

/-- From `object_value`: a value is read and what is after it follows. -/
theorem objectValue_sound {turns : ℕ} (ih : ∀ left < turns, Sound limits finite left) :
    ObjectValueSound limits finite turns := by
  intro rest tokens frame below keys valid q hstate hdepth h
  obtain ⟨left, p, rfl, hadvance, hp⟩ := scan_eq_complete rfl h
  simp only [Parser.advance, hstate, Parser.consumeObjectValue, Parser.withFrame] at hadvance
  have hspace := takeWhitespace_append rest
  split at hadvance
  case isTrue => cases hadvance
  rename_i hcount
  simp only [Option.bind_eq_bind, Option.bind_eq_some_iff, Option.pure_def, Prod.exists] at hadvance
  obtain ⟨kind, begun, hbegin, hp'⟩ := hadvance
  obtain ⟨id, rfl⟩ : ∃ id, p = { begun with rootRequestIdIsValid := id } := by
    split at hp'
    · exact ⟨_, (Option.some.inj hp').symm⟩
    · exact ⟨_, (Option.some.inj hp').symm⟩
  obtain ⟨v, next, hbytes, hfits, m, hm, keys', valid', hscan⟩ :=
    value_sound (fun l hl => ih l (by omega)) hbegin hdepth hp
  obtain ⟨next', tokens', hgoes, after, hafter⟩ := (ih m hm).objectAfter rfl hdepth hscan
  refine ⟨next', tokens', hgoes.mono (by omega), Nat.not_lt.1 hcount, takeWhitespace rest, v, after,
    hfits, ?_⟩
  rw [hbytes] at hspace
  rcases hafter with ⟨rfl, rfl⟩ | ⟨members, rfl, rfl, hmembers⟩
  · exact .inl ⟨hspace.symm, rfl⟩
  · exact .inr ⟨members, hspace.symm, rfl, hmembers⟩

/-- From `object_after_value`: the object ends, or another member follows. -/
theorem objectAfter_sound {turns : ℕ} (ih : ∀ left < turns, Sound limits finite left) :
    ObjectAfterSound limits finite turns := by
  intro rest tokens frame below keys valid q hstate hdepth h
  obtain ⟨left, p, rfl, hadvance, hp⟩ := scan_eq_complete rfl h
  simp only [Parser.advance, hstate, Parser.consumeObjectSeparator,
    Parser.withFrame] at hadvance
  have hspace := takeWhitespace_append rest
  split at hadvance
  · rename_i tail hcomma
    obtain rfl := Option.some.inj hadvance
    obtain ⟨next, tokens', hgoes, ⟨hallow, -⟩ | ⟨members, rfl, rfl, hfits⟩⟩ :=
      (ih left (by omega)).objectKey rfl hdepth hp
    · cases hallow
    · rw [consumeByte_eq_some.1 hcomma] at hspace
      exact ⟨next, _, hgoes.mono (by omega), takeWhitespace rest,
        .inr ⟨members, hspace.symm, rfl, hfits⟩⟩
  · obtain ⟨tail, hclose, rfl⟩ := Option.map_eq_some_iff.1 hadvance
    rw [Parser.finishContainer_eq] at hp
    rw [consumeByte_eq_some.1 hclose] at hspace
    exact ⟨tail, tokens, ⟨left, by omega, keys, valid, hp⟩, takeWhitespace rest,
      .inl ⟨hspace.symm, rfl⟩⟩

/-- The five statements hold for every number of turns. -/
theorem sound (turns : ℕ) : Sound limits finite turns := by
  induction turns using Nat.strong_induction_on with
  | _ turns ih =>
      exact ⟨arrayValue_sound ih, arrayAfter_sound ih, objectKey_sound ih, objectValue_sound ih,
        objectAfter_sound ih⟩

end NplgMcp.Json
