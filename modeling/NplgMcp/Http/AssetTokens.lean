import Mathlib.Data.Nat.Log
import Mathlib.Tactic.Ring
import NplgMcp.Library.PointJson
import NplgMcp.Search.CursorTokens

/-!
# Asset tokens

`sign_asset_token` and `verify_asset_token` of `tokens.py`. Strings are strings of code points, as
those of Python are, and the seconds of a datetime are those of its floating-point timestamp.
`asset_token_iff` says for which paths and media types a token is what it was signed for.
-/

open Library JsonText

namespace NplgMcp

/-! ## The model -/

/-- What signing and verifying raise. -/
inductive AssetFailure where
  | app (error : AppError)
  | valueError
  | overflowError
  deriving DecidableEq, Repr

/-- An error of a token that is refused. -/
def unauthorized (message : String) : AssetFailure :=
  .app { code := .unauthorized, message := message, httpStatus := 401 }

/-- The quotient as an integer, the nearest one, and the even one of two that are as near. -/
def roundedQuotient (numerator denominator : ℕ) : ℕ :=
  let quotient := numerator / denominator
  let remainder := numerator % denominator
  if 2 * remainder < denominator then quotient
  else if denominator < 2 * remainder then quotient + 1
  else if quotient % 2 = 0 then quotient
  else quotient + 1

/-- The integer part of microseconds in seconds, as the nearest number of 53 bits. -/
def magnitudeSeconds (microseconds : ℕ) : ℕ :=
  let scale := 2 ^ (52 - Nat.log 2 (microseconds / 1000000))
  if microseconds < 1000000 then 0 else roundedQuotient (microseconds * scale) 1000000 / scale

/-- `int(timestamp())` of an instant. -/
def wholeSeconds (instant : ℤ) : ℤ := instant.sign * magnitudeSeconds instant.natAbs

/-- An expiry without a time zone, or an instant: `astimezone` has none beyond the calendar. -/
inductive Expiry where
  | naive
  | aware (instant : ℤ)

/-- `AssetGrant`. -/
structure AssetGrant where
  path : List CodePoint
  mediaType : List CodePoint
  expiresAt : ℤ
  deriving DecidableEq

/-- `HARD_MAX_ASSET_TOKEN_TTL_SECONDS`. -/
def hardMaxAssetTokenTtlSeconds : ℤ := 86400

/-! ### Paths -/

/-- The slash. -/
def slash : CodePoint := codePoint 0x2F

/-- The full stop. -/
def dot : CodePoint := codePoint 0x2E

/-- The backslash. -/
def backslash : CodePoint := codePoint 0x5C

/-- The `parts` of a relative `PurePosixPath`. -/
def pathParts (path : List CodePoint) : List (List CodePoint) :=
  (path.splitOn slash).filter fun part => part ≠ [] ∧ part ≠ [dot]

/-- The `as_posix` of a relative `PurePosixPath`. -/
def asPosix (path : List CodePoint) : List CodePoint :=
  if pathParts path = [] then [dot] else [slash].intercalate (pathParts path)

/-- `_validate_path`. -/
def validatePath (path : List CodePoint) : Except AppError (List CodePoint) :=
  if path = [] ∨ backslash ∈ path then .error (invalid "Asset path is invalid.")
  else if path.head? = some slash ∨ path ∈ [[dot], [dot, dot]] ∨
      ∃ part ∈ pathParts path, part ∈ [[], [dot], [dot, dot]] then
    .error (invalid "Asset path is invalid.")
  else if asPosix path ≠ path then .error (invalid "Asset path is not canonical.")
  else .ok (asPosix path)

/-- A path that is relative and canonical, and has no segment of dots. -/
def IsCanonicalPath (path : List CodePoint) : Prop :=
  path ≠ [] ∧ backslash ∉ path ∧ path.head? ≠ some slash ∧
    ∀ part ∈ path.splitOn slash, part ∉ [[], [dot], [dot, dot]]

/-! ### Tokens -/

/-- What is used of `hmac` and `json`. -/
structure AssetPlatform where
  hmacSha256 : List UInt8 → List UInt8 → List UInt8
  writeFloat : ℚ → List Char
  readFloat : List Char → Option ℚ

namespace AssetPlatform

variable (p : AssetPlatform)

/-- How `json` writes and reads numbers. -/
def json : Codec := ⟨p.writeFloat, p.readFloat, 4300⟩

/-- The payload of a grant, with its keys in their order. -/
def payloadMembers (grant : AssetGrant) : List (List CodePoint × PointTree) :=
  [(pointsOf "exp", .int grant.expiresAt), (pointsOf "media_type", .str grant.mediaType),
    (pointsOf "path", .str grant.path), (pointsOf "v", .int 1)]

/-- The encoded payload of a grant. -/
def encodedPayload (grant : AssetGrant) : List Char :=
  Base64.encode (CursorCodec.bytes ((PointTree.obj (payloadMembers grant)).text p.json))

/-- The signature of an encoded payload. -/
def signature (secret : List UInt8) (payload : List Char) : List UInt8 :=
  p.hmacSha256 secret (CursorCodec.bytes payload)

/-- The token of a grant. -/
def tokenOf (secret : List UInt8) (grant : AssetGrant) : List CodePoint :=
  (p.encodedPayload grant ++
    '.' :: Base64.encode (p.signature secret (p.encodedPayload grant))).map fun c => codePoint c.toNat

/-- `sign_asset_token`. -/
def signAssetToken (secret : List UInt8) (path mediaType : List CodePoint) (expiresAt : Expiry) :
    Except AssetFailure (List CodePoint) :=
  match validatePath path, expiresAt with
  | .error error, _ => .error (.app error)
  | .ok _, .naive => .error (.app (invalid "Asset expiry must include a timezone."))
  | .ok canonicalPath, .aware instant =>
    if InCalendar instant then
      .ok (p.tokenOf secret ⟨canonicalPath, mediaType, wholeSeconds instant⟩)
    else .error .overflowError

/-- The characters of a string of ASCII. -/
def asciiChars (value : List CodePoint) : Option (List Char) :=
  if value.all fun c => c.val < 128 then some (value.map fun c => Char.ofNat c.val) else none

/-- The value of a version that equals one. -/
def isOne : Option PointTree → Bool
  | some (.int value) => value == 1
  | some (.bool value) => value
  | some (.float (some value)) => value == 1
  | _ => false

/-- `_validate_asset_claims`. -/
def validateAssetClaims (payload : List (List CodePoint × PointTree)) :
    Except AssetFailure AssetGrant :=
  if ¬ isOne (lastValue (pointsOf "v") payload) then .error .valueError
  else
    match lastValue (pointsOf "path") payload, lastValue (pointsOf "media_type") payload,
      lastValue (pointsOf "exp") payload with
    | some (.str path), some (.str mediaType), some (.int expiry) =>
      match validatePath path with
      | .error error => .error (.app error)
      | .ok path => .ok ⟨path, mediaType, expiry⟩
    | _, _, _ => .error .valueError

/-- The claims of an encoded payload; a `ValueError` is that of a token that is invalid. Payloads in
UTF-16 or UTF-32 or nested beyond the interpreter's stack, of which none is signed, are not read. -/
def claimsOf (payload : List Char) : Except AssetFailure AssetGrant :=
  let members := do
    let decoded ← Base64.decode payload
    let text ← decoded.toByteArray.utf8Decode?
    match ← loadPoints p.json text.toList with
    | .obj members => if (PointTree.obj members).isJsonValue then some members else none
    | _ => none
  match members with
  | none => .error (unauthorized "The asset token is invalid.")
  | some members =>
    match validateAssetClaims members with
    | .error .valueError => .error (unauthorized "The asset token is invalid.")
    | claims => claims

/-- `verify_asset_token`. -/
def verifyAssetToken (secret : List UInt8) (token : List CodePoint) (maxTtlSeconds : ℤ)
    (now : Datetime) : Except AssetFailure AssetGrant :=
  match token.dropWhile (· ≠ dot) with
  | [] => .error (unauthorized "The asset token is invalid.")
  | _ :: encodedSignature =>
    match (asciiChars encodedSignature).bind Base64.decode,
      asciiChars (token.takeWhile (· ≠ dot)) with
    | some supplied, some payload =>
      if supplied ≠ p.signature secret payload then
        .error (unauthorized "The asset token is invalid.")
      else
        match p.claimsOf payload with
        | .error failure => .error failure
        | .ok grant =>
          if ¬ (1 ≤ maxTtlSeconds ∧ maxTtlSeconds ≤ hardMaxAssetTokenTtlSeconds) then
            .error .valueError
          else if wholeSeconds now ≥ grant.expiresAt then
            .error (unauthorized "The asset token has expired.")
          else if grant.expiresAt - wholeSeconds now > maxTtlSeconds then
            .error (unauthorized "The asset token lifetime is invalid.")
          else .ok grant
    | _, _ => .error (unauthorized "The asset token is invalid.")

end AssetPlatform

/-! ## Seconds -/

/-- A rounded quotient is the lower or the upper one, and at most half too much. -/
theorem roundedQuotient_bounds (numerator denominator : ℕ) :
    numerator / denominator ≤ roundedQuotient numerator denominator ∧
      roundedQuotient numerator denominator ≤ numerator / denominator + 1 ∧
      2 * denominator * roundedQuotient numerator denominator ≤ 2 * numerator + denominator := by
  have hdivision := Nat.div_add_mod numerator denominator
  unfold roundedQuotient
  dsimp only
  generalize numerator / denominator = quotient at hdivision ⊢
  generalize numerator % denominator = remainder at hdivision ⊢
  subst hdivision
  have hlower : 2 * denominator * quotient = 2 * (denominator * quotient) := by ring
  have hupper : 2 * denominator * (quotient + 1) = 2 * (denominator * quotient) + 2 * denominator := by
    ring
  split_ifs with hbelow habove heven
  · exact ⟨le_rfl, Nat.le_succ _, by omega⟩
  · exact ⟨Nat.le_succ _, le_rfl, by omega⟩
  · exact ⟨le_rfl, Nat.le_succ _, by omega⟩
  · exact ⟨Nat.le_succ _, le_rfl, by omega⟩

/-- A quotient without remainder is not rounded. -/
theorem roundedQuotient_mul {denominator : ℕ} (h : 0 < denominator) (quotient : ℕ) :
    roundedQuotient (quotient * denominator) denominator = quotient := by
  unfold roundedQuotient
  rw [Nat.mul_div_cancel _ h, Nat.mul_mod_left]
  exact if_pos (by omega)

/-- The scale of a number of 53 bits is positive. -/
theorem scale_pos (seconds : ℕ) : 0 < 2 ^ (52 - Nat.log 2 seconds) := Nat.two_pow_pos _

/-- Seconds are not less than they are, and at most one more. -/
theorem magnitudeSeconds_bounds (microseconds : ℕ) :
    microseconds / 1000000 ≤ magnitudeSeconds microseconds ∧
      magnitudeSeconds microseconds ≤ microseconds / 1000000 + 1 := by
  unfold magnitudeSeconds
  dsimp only
  split_ifs with hsmall
  · rw [Nat.div_eq_of_lt hsmall]
    omega
  · have hscale := scale_pos (microseconds / 1000000)
    generalize 2 ^ (52 - Nat.log 2 (microseconds / 1000000)) = scale at hscale ⊢
    obtain ⟨hlow, hhigh, -⟩ := roundedQuotient_bounds (microseconds * scale) 1000000
    have hdivide : microseconds * scale / 1000000 / scale = microseconds / 1000000 := by
      rw [Nat.div_div_eq_div_mul, Nat.mul_div_mul_right _ _ hscale]
    refine ⟨hdivide ▸ Nat.div_le_div_right hlow, ?_⟩
    have hone : microseconds * scale / 1000000 + 1 ≤ microseconds * scale / 1000000 + 1 * scale := by
      omega
    refine (Nat.div_le_div_right (hhigh.trans hone)).trans ?_
    rw [Nat.add_mul_div_right _ _ hscale, hdivide]

/-- Seconds without a fraction are their own. -/
theorem magnitudeSeconds_mul (seconds : ℕ) : magnitudeSeconds (seconds * 1000000) = seconds := by
  unfold magnitudeSeconds
  dsimp only
  split_ifs with hsmall
  · omega
  · have hscale := scale_pos (seconds * 1000000 / 1000000)
    generalize 2 ^ (52 - Nat.log 2 (seconds * 1000000 / 1000000)) = scale at hscale ⊢
    rw [Nat.mul_right_comm, roundedQuotient_mul (by omega), Nat.mul_div_cancel _ hscale]

/-- Until the year 2514, the fraction of a second is what is left out. -/
theorem magnitudeSeconds_eq {microseconds : ℕ} (h : microseconds < 2 ^ 34 * 1000000) :
    magnitudeSeconds microseconds = microseconds / 1000000 := by
  refine le_antisymm ?_ (magnitudeSeconds_bounds microseconds).1
  unfold magnitudeSeconds
  dsimp only
  split_ifs with hsmall
  · exact Nat.zero_le _
  · have hseconds : microseconds / 1000000 < 2 ^ 34 := by omega
    have hlog : Nat.log 2 (microseconds / 1000000) ≤ 33 :=
      Nat.lt_succ_iff.1 (Nat.log_lt_of_lt_pow (by omega) hseconds)
    have hscale : 2 ^ 19 ≤ 2 ^ (52 - Nat.log 2 (microseconds / 1000000)) :=
      Nat.pow_le_pow_right (by omega) (by omega)
    generalize 2 ^ (52 - Nat.log 2 (microseconds / 1000000)) = scale at hscale ⊢
    obtain ⟨-, -, hhalf⟩ := roundedQuotient_bounds (microseconds * scale) 1000000
    have hfraction : microseconds + 1 ≤ (microseconds / 1000000 + 1) * 1000000 := by omega
    rw [← Nat.lt_succ_iff, Nat.div_lt_iff_lt_mul (by omega)]
    generalize roundedQuotient (microseconds * scale) 1000000 = rounded at hhalf ⊢
    generalize microseconds / 1000000 = seconds at hfraction ⊢
    have hscaled : (microseconds + 1) * scale ≤ (seconds + 1) * 1000000 * scale :=
      Nat.mul_le_mul_right scale hfraction
    have hsucc : seconds.succ * scale * 1000000 = (seconds + 1) * 1000000 * scale := by
      rw [Nat.succ_eq_add_one]
      ring
    rw [Nat.add_mul, Nat.one_mul] at hscaled
    omega

/-- An instant without a fraction is that of its seconds. -/
theorem wholeSeconds_mul (seconds : ℤ) : wholeSeconds (seconds * 1000000) = seconds := by
  have habs : (seconds * 1000000).natAbs = seconds.natAbs * 1000000 := by
    rw [Int.natAbs_mul]
    rfl
  have hsign : (1000000 : ℤ).sign = 1 := rfl
  rw [wholeSeconds, habs, magnitudeSeconds_mul, Int.sign_mul, hsign, mul_one]
  exact Int.sign_mul_natAbs seconds

/-- The seconds of the calendar. -/
theorem wholeSeconds_bounds {instant : ℤ} (h : InCalendar instant) :
    -62135596800 ≤ wholeSeconds instant ∧ wholeSeconds instant ≤ 253402300800 := by
  obtain ⟨hstart, hend⟩ := h
  have hbounds := magnitudeSeconds_bounds instant.natAbs
  rcases lt_trichotomy instant 0 with hnegative | rfl | hpositive
  · rw [wholeSeconds, Int.sign_eq_neg_one_of_neg hnegative]
    have hfirst : (magnitudeSeconds instant.natAbs : ℤ) ≤ 62135596800 := by
      rcases Nat.lt_or_ge (instant.natAbs / 1000000) 62135596800 with hlater | hfirst
      · omega
      · have hexact : instant.natAbs = 62135596800 * 1000000 := by omega
        rw [hexact, magnitudeSeconds_mul]
        rfl
    omega
  · decide
  · rw [wholeSeconds, Int.sign_eq_one_of_pos hpositive]
    omega

/-! ## Paths -/

/-- A segment has no separator. -/
theorem notMem_of_mem_splitOn {separator : CodePoint} :
    ∀ {path part : List CodePoint}, part ∈ path.splitOn separator → separator ∉ part
  | [], part, h => by
      rw [List.splitOn_nil, List.mem_singleton] at h
      simp [h]
  | c :: path, part, h => by
      rw [List.splitOn_cons_eq_if_modifyHead] at h
      obtain ⟨first, rest, hsplit⟩ :=
        List.exists_cons_of_ne_nil (List.splitOn_ne_nil separator path)
      have hfirst : separator ∉ first := @notMem_of_mem_splitOn separator path first (by simp [hsplit])
      split_ifs at h with hc
      · rcases List.mem_cons.1 h with rfl | h
        · simp
        · exact notMem_of_mem_splitOn h
      · rw [hsplit, List.modifyHead_cons, List.mem_cons] at h
        rcases h with rfl | h
        · have hne : separator ≠ c := fun hsame => hc (by simp [hsame])
          simp [hne, hfirst]
        · exact @notMem_of_mem_splitOn separator path part (by simp [hsplit, h])

/-- A path that is its own normal form has all its segments in it. -/
theorem pathParts_eq {path : List CodePoint} (hparts : pathParts path ≠ [])
    (h : asPosix path = path) : pathParts path = path.splitOn slash := by
  have hseparated : ∀ part ∈ pathParts path, slash ∉ part := fun part hpart =>
    notMem_of_mem_splitOn (List.mem_of_mem_filter hpart)
  rw [asPosix, if_neg hparts] at h
  have hsplit := List.splitOn_intercalate slash hseparated hparts
  rw [h] at hsplit
  exact hsplit.symm

/-- A path that is accepted is itself, and canonical. -/
theorem validatePath_ok {path found : List CodePoint} (h : validatePath path = .ok found) :
    found = path ∧ IsCanonicalPath path := by
  unfold validatePath at h
  split at h
  · cases h
  next hplain =>
    split at h
    · cases h
    next hrelative =>
      split at h
      · cases h
      next hposix =>
        rw [not_not] at hposix
        obtain rfl := Except.ok.inj h
        simp only [not_or, not_exists, not_and] at hplain hrelative
        obtain ⟨hhead, hdots, hparts⟩ := hrelative
        refine ⟨hposix, hplain.1, hplain.2, hhead, fun part hpart => ?_⟩
        have hne : pathParts path ≠ [] := by
          intro hnone
          rw [asPosix, if_pos hnone] at hposix
          exact hdots (hposix ▸ List.mem_cons_self ..)
        exact hparts part (pathParts_eq hne hposix ▸ hpart)

namespace AssetPlatform

variable {p : AssetPlatform} {secret : List UInt8} {token : List CodePoint} {grant : AssetGrant}
  {maxTtlSeconds : ℤ} {now : Datetime}

/-! ## What is signed is read -/

/-- What is read of a grant's payload. -/
def readMembers (grant : AssetGrant) : List (List CodePoint × PointTree) :=
  [(pointsOf "exp", .int grant.expiresAt),
    (pointsOf "media_type", .str (joinSurrogates grant.mediaType)),
    (pointsOf "path", .str (joinSurrogates grant.path)), (pointsOf "v", .int 1)]

/-- The members of a payload are read back with their pairs joined. -/
theorem scalarMembers_payload (h : grant.expiresAt.natAbs < 10 ^ 12) :
    ScalarMembers p.json (payloadMembers grant) (readMembers grant) := by
  have hdigits : ∀ value : ℤ, value.natAbs < 10 ^ 12 →
      (Nat.toDigits 10 value.natAbs).length ≤ p.json.maxDigits := fun value hvalue =>
    ((Nat.length_toDigits_le_iff (by omega) (by omega)).2 hvalue).trans (show 12 ≤ 4300 by omega)
  have hexp : pointsOf "exp" = joinSurrogates (pointsOf "exp") := by decide
  have hmedia : pointsOf "media_type" = joinSurrogates (pointsOf "media_type") := by decide
  have hpath : pointsOf "path" = joinSurrogates (pointsOf "path") := by decide
  have hversion : pointsOf "v" = joinSurrogates (pointsOf "v") := by decide
  exact .cons ⟨hexp, scalar_int (hdigits _ h)⟩ (.cons ⟨hmedia, scalar_str _⟩
    (.cons ⟨hpath, scalar_str _⟩ (.cons ⟨hversion, scalar_int (hdigits 1 (by decide))⟩ .nil)))

/-- The claims of a payload are those of its grant with the pairs joined. -/
theorem claimsOf_encodedPayload (h : grant.expiresAt.natAbs < 10 ^ 12) :
    p.claimsOf (p.encodedPayload grant) =
      match validatePath (joinSurrogates grant.path) with
      | .error error => .error (.app error)
      | .ok path => .ok ⟨path, joinSurrogates grant.mediaType, grant.expiresAt⟩ := by
  have hload : loadPoints p.json ((PointTree.obj (payloadMembers grant)).text p.json) =
      some (.obj (readMembers grant)) :=
    loadPoints_text (scalarMembers_payload h) (List.cons_ne_nil _ _)
  have hdecode : (CursorCodec.bytes ((PointTree.obj (payloadMembers grant)).text
      p.json)).toByteArray.utf8Decode? =
      some ((PointTree.obj (payloadMembers grant)).text p.json).toArray := List.utf8Decode?_utf8Encode
  have hvalue : (PointTree.obj (readMembers grant)).isJsonValue = true := rfl
  have hversion : isOne (lastValue (pointsOf "v") (readMembers grant)) = true := rfl
  have hpath : lastValue (pointsOf "path") (readMembers grant) =
      some (.str (joinSurrogates grant.path)) := rfl
  have hmedia : lastValue (pointsOf "media_type") (readMembers grant) =
      some (.str (joinSurrogates grant.mediaType)) := rfl
  have hexp : lastValue (pointsOf "exp") (readMembers grant) = some (.int grant.expiresAt) := rfl
  simp only [claimsOf, encodedPayload, Base64.decode_encode, hdecode, hload, hvalue,
    Option.bind_eq_bind, Option.bind_some, if_true, validateAssetClaims, hversion, hpath, hmedia,
    hexp, not_true_eq_false, if_false]
  cases validatePath (joinSurrogates grant.path) <;> rfl

/-- ASCII characters are read back from their code points. -/
theorem asciiChars_map {value : List Char} (h : ∀ c ∈ value, c.utf8Size = 1) :
    asciiChars (value.map fun c => codePoint c.toNat) = some value := by
  have hval : ∀ c ∈ value, (codePoint c.toNat).val = c.toNat ∧ c.toNat < 128 := by
    intro c hc
    have hsmall : c.toNat < 128 := by
      have hle := UInt32.le_iff_toNat_le.1 (Char.utf8Size_eq_one_iff.1 (h c hc))
      exact Nat.lt_succ_of_le hle
    exact ⟨val_codePoint (by omega), hsmall⟩
  unfold asciiChars
  rw [if_pos, List.map_map]
  · congr 1
    refine (List.map_congr_left fun c hc => ?_).trans (List.map_id value)
    rw [Function.comp_apply, (hval c hc).1, Char.ofNat_toNat, id]
  · simp only [List.all_map, List.all_eq_true, Function.comp_apply, decide_eq_true_eq]
    intro c hc
    have hc := hval c hc
    omega

/-- A token has its payload before its first dot, and its signature behind it. -/
theorem verifyAssetToken_tokenOf :
    p.verifyAssetToken secret (p.tokenOf secret grant) maxTtlSeconds now =
      match p.claimsOf (p.encodedPayload grant) with
      | .error failure => .error failure
      | .ok grant =>
        if ¬ (1 ≤ maxTtlSeconds ∧ maxTtlSeconds ≤ hardMaxAssetTokenTtlSeconds) then
          .error .valueError
        else if wholeSeconds now ≥ grant.expiresAt then
          .error (unauthorized "The asset token has expired.")
        else if grant.expiresAt - wholeSeconds now > maxTtlSeconds then
          .error (unauthorized "The asset token lifetime is invalid.")
        else .ok grant := by
  have hsymbols : ∀ bytes : List UInt8, ∀ c ∈ Base64.encode bytes, c ≠ '.' ∧ c.utf8Size = 1 :=
    fun bytes c hc => ((Base64.encode_symbols bytes).1 c hc).2
  have hpayload : ∀ c ∈ p.encodedPayload grant, c ≠ '.' ∧ c.utf8Size = 1 := hsymbols _
  have hplain : ∀ c ∈ (p.encodedPayload grant).map fun c => codePoint c.toNat,
      decide (c ≠ dot) = true := by
    intro c hc
    obtain ⟨char, hchar, rfl⟩ := List.mem_map.1 hc
    obtain ⟨hne, hsize⟩ := hpayload char hchar
    have hsmall : char.toNat ≤ 127 := UInt32.le_iff_toNat_le.1 (Char.utf8Size_eq_one_iff.1 hsize)
    refine decide_eq_true fun hdot => hne (Char.toNat_inj.1 ?_)
    have hval := congrArg Fin.val hdot
    rwa [val_codePoint (by omega)] at hval
  have hdot : decide (codePoint '.'.toNat ≠ dot) = false := by decide
  have htake : (p.tokenOf secret grant).takeWhile (· ≠ dot) =
      (p.encodedPayload grant).map fun c => codePoint c.toNat := by
    rw [tokenOf, List.map_append, List.map_cons, List.takeWhile_append_of_pos hplain,
      List.takeWhile_cons_of_neg (by rw [hdot]; decide), List.append_nil]
  have hdrop : (p.tokenOf secret grant).dropWhile (· ≠ dot) = codePoint '.'.toNat ::
      (Base64.encode (p.signature secret (p.encodedPayload grant))).map fun c =>
        codePoint c.toNat := by
    rw [tokenOf, List.map_append, List.map_cons, List.dropWhile_append_of_pos hplain,
      List.dropWhile_cons_of_neg (by rw [hdot]; decide)]
  have hsigned := asciiChars_map fun c hc =>
    (hsymbols (p.signature secret (p.encodedPayload grant)) c hc).2
  have hascii := asciiChars_map fun c hc => (hpayload c hc).2
  simp only [verifyAssetToken, hdrop, htake, hsigned, hascii, Option.bind_some, Base64.decode_encode,
    ne_eq, not_true_eq_false, if_false]

/-! ## What a token can be used for -/

variable (p) in
/-- Signing a grant and verifying the token. -/
def signAndVerify (secret : List UInt8) (path mediaType : List CodePoint) (instant : ℤ)
    (maxTtlSeconds : ℤ) (now : Datetime) : Except AssetFailure AssetGrant :=
  (p.signAssetToken secret path mediaType (.aware instant)).bind fun token =>
    p.verifyAssetToken secret token maxTtlSeconds now

variable (p) in
/-- The token is a payload with its signature. -/
def Authenticated (secret : List UInt8) (token : List CodePoint) (payload : List Char) : Prop :=
  ∃ tag, token = (payload.map fun c => codePoint c.toNat) ++ dot :: tag ∧
    (asciiChars tag).bind Base64.decode = some (p.signature secret payload)

variable (p) in
/-- What an ideal code promises of a token: if it is signed, its payload is that of a grant that was
signed. -/
def Unforged (secret : List UInt8) (signed : AssetGrant → Prop) (token : List CodePoint) : Prop :=
  ∀ payload, p.Authenticated secret token payload →
    ∃ grant, signed grant ∧ payload = p.encodedPayload grant

/-- The instant of an aware datetime, whose local time is in the calendar. -/
def IsAwareInstant (instant : ℤ) : Prop :=
  ∃ offset, -86400 * 1000000 < offset ∧ offset < 86400 * 1000000 ∧ InCalendar (instant + offset)

/-- The first second of the calendar. -/
def firstSecond : ℤ := -62135596800

/-- What is signed for an expiry in the calendar is verified with its pairs joined. -/
theorem signAndVerify_eq {path mediaType : List CodePoint} {instant : ℤ}
    (hpath : validatePath path = .ok path) (h : InCalendar instant)
    (httl : 1 ≤ maxTtlSeconds ∧ maxTtlSeconds ≤ hardMaxAssetTokenTtlSeconds) :
    p.signAndVerify secret path mediaType instant maxTtlSeconds now =
      match validatePath (joinSurrogates path) with
      | .error error => .error (.app error)
      | .ok path =>
        if wholeSeconds now ≥ wholeSeconds instant then
          .error (unauthorized "The asset token has expired.")
        else if wholeSeconds instant - wholeSeconds now > maxTtlSeconds then
          .error (unauthorized "The asset token lifetime is invalid.")
        else .ok ⟨path, joinSurrogates mediaType, wholeSeconds instant⟩ := by
  have hsign : p.signAssetToken secret path mediaType (.aware instant) =
      .ok (p.tokenOf secret ⟨path, mediaType, wholeSeconds instant⟩) := by
    simp only [signAssetToken, hpath, if_pos h]
  have hbounds := wholeSeconds_bounds h
  have hclaims := @claimsOf_encodedPayload p ⟨path, mediaType, wholeSeconds instant⟩
    (show (wholeSeconds instant).natAbs < 10 ^ 12 by omega)
  rw [signAndVerify, hsign]
  change p.verifyAssetToken secret (p.tokenOf secret _) maxTtlSeconds now = _
  rw [verifyAssetToken_tokenOf, hclaims]
  cases validatePath (joinSurrogates path) with
  | error error => rfl
  | ok path => simp only [httl, and_self, not_true_eq_false, if_false]

/-- No instant of the calendar is before its first second, and from a later one there is an instant
in the second before, up to a day beyond the calendar. -/
theorem exists_now {instant : ℤ} (haware : IsAwareInstant instant)
    (hlate : firstSecond < wholeSeconds instant) :
    ∃ (now : Datetime) (ttl : ℤ), 1 ≤ ttl ∧ ttl ≤ hardMaxAssetTokenTtlSeconds ∧
      wholeSeconds now < wholeSeconds instant ∧ wholeSeconds instant ≤ wholeSeconds now + ttl := by
  have hupper : wholeSeconds instant ≤ 253402387200 := by
    obtain ⟨offset, hoffset, -, -, hend⟩ := haware
    have hbounds := magnitudeSeconds_bounds instant.natAbs
    rcases lt_trichotomy instant 0 with hnegative | rfl | hpositive
    · rw [wholeSeconds, Int.sign_eq_neg_one_of_neg hnegative]
      omega
    · decide
    · rw [wholeSeconds, Int.sign_eq_one_of_pos hpositive]
      omega
  by_cases hin : wholeSeconds instant ≤ 253402300800
  · refine ⟨⟨(wholeSeconds instant - 1) * 1000000, ?_⟩, 1, le_rfl, by decide, ?_⟩
    · unfold firstSecond at hlate
      unfold InCalendar
      omega
    · rw [wholeSeconds_mul]
      omega
  · by_cases hlast : wholeSeconds instant ≤ 253402387199
    · refine ⟨⟨253402300799 * 1000000, by decide⟩, 86400, by decide, by decide, ?_⟩
      rw [wholeSeconds_mul]
      omega
    · have hmax : wholeSeconds (253402300799 * 1000000 + 999999) = 253402300800 := by decide
      refine ⟨⟨253402300799 * 1000000 + 999999, by decide⟩, 86400, by decide, by decide, ?_⟩
      rw [hmax]
      omega

/-- What is returned of what was signed is live. -/
theorem live_of_signAndVerify {path mediaType found : List CodePoint} {instant : ℤ}
    (hpath : validatePath path = .ok path)
    (httl : 1 ≤ maxTtlSeconds ∧ maxTtlSeconds ≤ hardMaxAssetTokenTtlSeconds)
    (h : p.signAndVerify secret path mediaType instant maxTtlSeconds now =
      .ok ⟨path, found, wholeSeconds instant⟩) :
    InCalendar instant ∧ NoPair path ∧ found = joinSurrogates mediaType ∧
      wholeSeconds now < wholeSeconds instant ∧
      wholeSeconds instant ≤ wholeSeconds now + maxTtlSeconds := by
  by_cases hin : InCalendar instant
  · rw [signAndVerify_eq hpath hin httl] at h
    split at h
    · cases h
    next joined hjoined =>
      split_ifs at h with hexpired hlong
      have hgrant := Except.ok.inj h
      simp only [AssetGrant.mk.injEq, and_true] at hgrant
      obtain ⟨rfl, hmedia⟩ := hgrant
      have hsame := (validatePath_ok hjoined).1
      exact ⟨hin, (joinSurrogates_eq_self_iff _).1 hsame.symm, hmedia.symm, by omega, by omega⟩
  · simp only [signAndVerify, signAssetToken, hpath, if_neg hin] at h
    cases h

/-- Characters of ASCII are those of their code points. -/
theorem map_of_asciiChars {value : List CodePoint} {chars : List Char}
    (h : asciiChars value = some chars) : value = chars.map fun c => codePoint c.toNat := by
  unfold asciiChars at h
  split_ifs at h with hascii
  obtain rfl := Option.some.inj h
  rw [List.map_map]
  refine (List.map_id value).symm.trans (List.map_congr_left fun c hc => ?_)
  have hsmall : c.val < 128 := by simpa using List.all_eq_true.1 hascii c hc
  have hvalue : (Char.ofNat c.val).toNat = c.val := by
    rw [Char.ofNat, dif_pos (Or.inl (by omega))]
    rfl
  rw [Function.comp_apply, hvalue, id]
  exact (Fin.ext (val_codePoint c.isLt)).symm

/-- The claims that are accepted have a canonical path. -/
theorem isCanonicalPath_of_claims {payload : List (List CodePoint × PointTree)}
    (h : validateAssetClaims payload = .ok grant) : IsCanonicalPath grant.path := by
  unfold validateAssetClaims at h
  split at h
  · cases h
  · split at h
    next path mediaType expiry _ _ _ =>
      cases hpath : validatePath path with
      | error error =>
          rw [hpath] at h
          cases h
      | ok found =>
          rw [hpath] at h
          obtain rfl := Except.ok.inj h
          obtain ⟨rfl, hcanonical⟩ := validatePath_ok hpath
          exact hcanonical
    · cases h

/-- The claims of a payload that is accepted have a canonical path. -/
theorem isCanonicalPath_of_claimsOf {payload : List Char} (h : p.claimsOf payload = .ok grant) :
    IsCanonicalPath grant.path := by
  unfold claimsOf at h
  dsimp only at h
  split at h
  · cases h
  next members _ =>
    split at h
    · cases h
    · exact isCanonicalPath_of_claims h

/-- Claims are refused with an application error or the `ValueError` that is caught. -/
theorem failure_of_claims {payload : List (List CodePoint × PointTree)} {failure : AssetFailure}
    (h : validateAssetClaims payload = .error failure) :
    failure = .valueError ∨ ∃ error, failure = .app error := by
  unfold validateAssetClaims at h
  split at h
  · exact .inl (Except.error.inj h).symm
  · split at h
    next path mediaType expiry _ _ _ =>
      cases hpath : validatePath path with
      | error error =>
          rw [hpath] at h
          exact .inr ⟨error, (Except.error.inj h).symm⟩
      | ok found =>
          rw [hpath] at h
          cases h
    · exact .inl (Except.error.inj h).symm

/-- A payload is refused with an application error. -/
theorem app_of_claimsOf {payload : List Char} {failure : AssetFailure}
    (h : p.claimsOf payload = .error failure) : ∃ error, failure = .app error := by
  unfold claimsOf at h
  dsimp only at h
  split at h
  · exact ⟨_, (Except.error.inj h).symm⟩
  next members _ =>
    split at h
    · exact ⟨_, (Except.error.inj h).symm⟩
    next hnot =>
      rcases failure_of_claims h with rfl | happ
      · exact absurd h hnot
      · exact happ

/-- What is accepted is signed, and its path is canonical. -/
theorem authenticated_of_verifyAssetToken
    (h : p.verifyAssetToken secret token maxTtlSeconds now = .ok grant) :
    (∃ payload, p.Authenticated secret token payload) ∧ IsCanonicalPath grant.path := by
  unfold verifyAssetToken at h
  split at h
  · cases h
  next separator tag hrest =>
    split at h
    next supplied payload hsupplied hpayload =>
      split at h
      · cases h
      next hsame =>
        split at h
        · cases h
        next claims hclaims =>
          split_ifs at h
          obtain rfl := Except.ok.inj h
          refine ⟨⟨payload, tag, ?_, ?_⟩, ?_⟩
          · have hdot : separator = dot := by
              have hhead := List.head?_dropWhile_not (· ≠ dot) token
              rw [hrest] at hhead
              simpa using hhead
            subst hdot
            rw [← map_of_asciiChars hpayload, ← hrest, List.takeWhile_append_dropWhile]
          · rw [hsupplied, not_not.1 hsame]
          · exact isCanonicalPath_of_claimsOf hclaims
    · cases h

/-- Everything that is raised is an application error, where the lifetime may be asked for. -/
theorem app_of_verifyAssetToken {failure : AssetFailure}
    (httl : 1 ≤ maxTtlSeconds ∧ maxTtlSeconds ≤ hardMaxAssetTokenTtlSeconds)
    (h : p.verifyAssetToken secret token maxTtlSeconds now = .error failure) :
    ∃ error, failure = .app error := by
  unfold verifyAssetToken at h
  split at h
  · exact ⟨_, (Except.error.inj h).symm⟩
  · split at h
    · split at h
      · exact ⟨_, (Except.error.inj h).symm⟩
      · split at h
        next raised hclaims =>
          obtain rfl := Except.error.inj h
          exact app_of_claimsOf hclaims
        next claims _ =>
          split_ifs at h
          all_goals exact ⟨_, (Except.error.inj h).symm⟩
    · exact ⟨_, (Except.error.inj h).symm⟩

/-- **Asset tokens.** Signing a grant and verifying the token returns the grant exactly while it is
live, what is accepted was signed and has a canonical path, and everything else is an application
error: all of this holds of a path, a media type and an expiry exactly if the expiry is in the
calendar and no high surrogate of the path or the media type has a low one behind it, or if there is
no instant before the expiry. -/
theorem asset_token_iff (p : AssetPlatform) (secret : List UInt8) (path mediaType : List CodePoint)
    (instant : ℤ) (hpath : validatePath path = .ok path) (haware : IsAwareInstant instant) :
    ((∀ (now : Datetime) (ttl : ℤ), 1 ≤ ttl → ttl ≤ hardMaxAssetTokenTtlSeconds →
      (p.signAndVerify secret path mediaType instant ttl now =
          .ok ⟨path, mediaType, wholeSeconds instant⟩ ↔
        wholeSeconds now < wholeSeconds instant ∧
          wholeSeconds instant ≤ wholeSeconds now + ttl)) ∧
    (∀ token (now : Datetime) (ttl : ℤ) grant, p.verifyAssetToken secret token ttl now = .ok grant →
      IsCanonicalPath grant.path ∧ (∃ payload, p.Authenticated secret token payload) ∧
        ∀ signed, p.Unforged secret signed token →
          ∃ grant payload, signed grant ∧ payload = p.encodedPayload grant ∧
            p.Authenticated secret token payload) ∧
    ∀ token (now : Datetime) (ttl : ℤ) failure, 1 ≤ ttl → ttl ≤ hardMaxAssetTokenTtlSeconds →
      p.verifyAssetToken secret token ttl now = .error failure → ∃ error, failure = .app error) ↔
    wholeSeconds instant ≤ firstSecond ∨ InCalendar instant ∧ NoPair path ∧ NoPair mediaType := by
  constructor
  · rintro ⟨hlive, -, -⟩
    by_cases hlate : firstSecond < wholeSeconds instant
    · obtain ⟨now, ttl, hlow, hhigh, hwindow⟩ := exists_now haware hlate
      obtain ⟨hin, hplain, hmedia, -, -⟩ :=
        live_of_signAndVerify hpath ⟨hlow, hhigh⟩ ((hlive now ttl hlow hhigh).2 hwindow)
      exact .inr ⟨hin, hplain, (joinSurrogates_eq_self_iff _).1 hmedia.symm⟩
    · exact .inl (Int.not_lt.1 hlate)
  · intro hcondition
    refine ⟨fun now ttl hlow hhigh => ⟨fun h => ?_, fun hwindow => ?_⟩, ?_, ?_⟩
    · exact (live_of_signAndVerify hpath ⟨hlow, hhigh⟩ h).2.2.2
    · rcases hcondition with hfirst | ⟨hin, hplain, hmedia⟩
      · have hnow := (wholeSeconds_bounds now.2).1
        unfold firstSecond at hfirst
        omega
      · rw [signAndVerify_eq hpath hin ⟨hlow, hhigh⟩, (joinSurrogates_eq_self_iff _).2 hplain,
          (joinSurrogates_eq_self_iff _).2 hmedia, hpath]
        dsimp only
        rw [if_neg (by omega), if_neg (by omega)]
    · intro token now ttl grant h
      obtain ⟨⟨payload, hauthenticated⟩, hcanonical⟩ := authenticated_of_verifyAssetToken h
      refine ⟨hcanonical, ⟨payload, hauthenticated⟩, fun signed hunforged => ?_⟩
      obtain ⟨found, hsigned, hpayload⟩ := hunforged payload hauthenticated
      exact ⟨found, payload, hsigned, hpayload, hauthenticated⟩
    · intro token now ttl failure hlow hhigh h
      exact app_of_verifyAssetToken ⟨hlow, hhigh⟩ h

/-- A platform with the signatures of two payloads, for a secret of zeros. -/
def pagePlatform : AssetPlatform where
  hmacSha256 _ message :=
    if message = CursorCodec.bytes ("eyJleHAiOjYwMCwibWVkaWFfdHlwZSI6ImltYWdlL2pwZWciLCJwYXRoIjoi" ++
        "XHVkODNkXHVkZTAwIiwidiI6MX0").toList then
      [151, 186, 164, 10, 213, 208, 99, 4, 90, 179, 222, 153, 127, 7, 240, 251, 69, 114, 154, 151,
        228, 120, 142, 197, 3, 21, 221, 129, 216, 205, 220, 199]
    else
      [13, 252, 188, 236, 89, 150, 86, 86, 15, 47, 11, 6, 18, 126, 174, 71, 190, 156, 85, 38, 144, 0,
        168, 198, 224, 219, 204, 8, 236, 68, 57, 249]
  writeFloat _ := []
  readFloat _ := none

/-- The token of a page is verified five minutes before it expires. -/
theorem asset_token_iff_page :
    pagePlatform.signAndVerify (List.replicate 32 0) (pointsOf "renders/rnd_abc/page-0001.jpg")
      (pointsOf "image/jpeg") (600 * 1000000) 86400 ⟨300 * 1000000, by decide⟩ =
      .ok ⟨pointsOf "renders/rnd_abc/page-0001.jpg", pointsOf "image/jpeg", 600⟩ := by
  have hseconds : wholeSeconds (600 * 1000000) = 600 := wholeSeconds_mul 600
  have hnow : wholeSeconds (300 * 1000000) = 300 := wholeSeconds_mul 300
  have hlive := ((asset_token_iff pagePlatform (List.replicate 32 0)
    (pointsOf "renders/rnd_abc/page-0001.jpg") (pointsOf "image/jpeg") (600 * 1000000)
    (by decide +kernel) ⟨0, by decide⟩).2 (.inr ⟨by decide, by decide, by decide⟩)).1
    ⟨300 * 1000000, by decide⟩ 86400 (by decide) (by decide)
  rw [hseconds, hnow] at hlive
  exact hlive.2 ⟨by decide, by decide⟩

/-- A path of a high and a low surrogate comes back as another one. -/
theorem asset_token_iff_pair :
    ¬ ∀ (now : Datetime) (ttl : ℤ), 1 ≤ ttl → ttl ≤ hardMaxAssetTokenTtlSeconds →
      (pagePlatform.signAndVerify (List.replicate 32 0) [codePoint 0xD83D, codePoint 0xDE00]
          (pointsOf "image/jpeg") (600 * 1000000) ttl now =
          .ok ⟨[codePoint 0xD83D, codePoint 0xDE00], pointsOf "image/jpeg",
            wholeSeconds (600 * 1000000)⟩ ↔
        wholeSeconds now < wholeSeconds (600 * 1000000) ∧
          wholeSeconds (600 * 1000000) ≤ wholeSeconds now + ttl) := by
  intro h
  have hseconds : wholeSeconds (600 * 1000000) = 600 := wholeSeconds_mul 600
  have hnow : wholeSeconds (300 * 1000000) = 300 := wholeSeconds_mul 300
  have hlive := (h ⟨300 * 1000000, by decide⟩ 86400 (by decide) (by decide)).2 (by
    rw [hseconds, hnow]
    decide)
  have hpair : ¬ NoPair [codePoint 0xD83D, codePoint 0xDE00] := by decide
  exact hpair (live_of_signAndVerify (by decide +kernel) (by decide) hlive).2.1

end AssetPlatform

end NplgMcp
