import NplgMcp.Http.SecurityCall

/-!
# What passes the request gate

`gateCall_sound_iff` is the statement about one request: the wrapped application is called only for
what `Acceptable` lists, and every other request is answered once. The exception is a declared length
of more digits than `int()` converts.
-/

namespace NplgMcp

/-! ## The headers -/

/-- What the checks of the headers have found, where none of them fails. -/
structure HeadersAccepted (platform : HttpPlatform) (config : AppConfig) (scope : Scope) : Prop where
  host : ∃ host, scope.values "host" = [host] ∧
    (config.mcpAuthorityMode = .direct → host ∈ config.mcpAllowedHosts.map ascii) ∧
    (config.mcpAuthorityMode = .alpicGateway → isCanonicalGatewayHost platform scope host = true)
  origin : scope.values "origin" = [] ∨
    ∃ origin ∈ config.mcpAllowedOrigins.map ascii, scope.values "origin" = [origin]
  encoding : scope.values "content-encoding" = [] ∨
    scope.values "content-encoding" = [ascii "identity"]
  authenticated : config.Authenticated scope.headers
  method : scope.method = some "POST"
  version : ∃ version, scope.values "mcp-protocol-version" = [version] ∧
    isSafeVersion version = true
  singletons : ∀ name ∈ singletonNames, (scope.values name).length ≤ 1
  contentType : ∃ value, scope.values "content-type" = [value] ∧
    lowerBytes (stripBytes (value.takeWhile (· != 0x3B))) = ascii "application/json"
  framing : scope.values "content-length" = [] ∨ scope.values "transfer-encoding" = []

section
variable {platform : HttpPlatform} {config : AppConfig} {scope : Scope}

/-- The authority is valid where there is one allowed host and at most one origin, also allowed. -/
theorem of_invalidAuthority (h : invalidAuthority platform config scope = false) :
    (∃ host, scope.values "host" = [host] ∧
      (config.mcpAuthorityMode = .direct → host ∈ config.mcpAllowedHosts.map ascii) ∧
      (config.mcpAuthorityMode = .alpicGateway →
        isCanonicalGatewayHost platform scope host = true)) ∧
    (scope.values "origin" = [] ∨
      ∃ origin ∈ config.mcpAllowedOrigins.map ascii, scope.values "origin" = [origin]) := by
  unfold invalidAuthority at h
  obtain ⟨hhost, horigin⟩ := Bool.or_eq_false_iff.1 h
  constructor
  · split at hhost
    · next host hvalues =>
        refine ⟨host, hvalues, fun hmode => ?_, fun hmode => ?_⟩
        · rw [hmode] at hhost
          simpa using hhost
        · rw [hmode] at hhost
          simpa using hhost
    · simp at hhost
  · split at horigin
    · next hvalues => exact .inl hvalues
    · next origin hvalues => exact .inr ⟨origin, by simpa using horigin, hvalues⟩
    · simp at horigin

/-- No check of the headers fails exactly where each of them has found what it looks for. -/
theorem headersAccepted_of_headerRejection (h : headerRejection platform config scope = none) :
    HeadersAccepted platform config scope := by
  have hnone : ∀ check ∈ headerChecks platform config scope, check.1 = false := by
    simpa [headerRejection, List.find?_eq_none] using h
  simp only [headerChecks, List.forall_mem_cons] at hnone
  obtain ⟨hauthority, hencoding, hauthenticated, hmethod, hversion, hsingletons, htype, hframing,
    -⟩ := hnone
  obtain ⟨hhost, horigin⟩ := of_invalidAuthority hauthority
  refine ⟨hhost, horigin, ?_, ?_, ?_, ?_, ?_, ?_, ?_⟩
  · unfold unsupportedEncoding at hencoding
    split at hencoding
    · next hvalues => exact .inl hvalues
    · next encoding hvalues => exact .inr (by simpa [hvalues] using hencoding)
    · cases hencoding
  · exact authenticatedPrincipal_isSome.1 (by simpa [← Option.not_isSome] using hauthenticated)
  · have hpost : scope.method.getD "" = "POST" := by simpa using hmethod
    cases hscope : scope.method with
    | none => rw [hscope] at hpost; exact absurd hpost (by decide)
    | some method => rw [hscope] at hpost; exact congrArg some hpost
  · unfold unsafeVersion at hversion
    split at hversion
    · next version hvalues => exact ⟨version, hvalues, by simpa using hversion⟩
    · cases hversion
  · intro name hname
    have hshort : ¬ 1 < (scope.values name).length := by
      simpa using List.any_eq_false.1 hsingletons name hname
    omega
  · unfold wrongContentType at htype
    split at htype
    · next value hvalues => exact ⟨value, hvalues, by simpa using htype⟩
    · cases htype
  · unfold ambiguousFraming at hframing
    rcases Bool.and_eq_false_iff.1 hframing with hempty | hempty
    · exact .inl (by simpa using hempty)
    · exact .inr (by simpa using hempty)

end

/-! ## The body -/

/-- The body that the messages of a request make up. -/
inductive IsBody : List Received → Bytes → Prop
  | last {chunk : Bytes} {rest : List Received} : IsBody (.request chunk false :: rest) chunk
  | more {chunk body : Bytes} {rest : List Received} :
      IsBody rest body → IsBody (.request chunk true :: rest) (chunk ++ body)
  | other {body : Bytes} {rest : List Received} : IsBody rest body → IsBody (.other :: rest) body

/-- A body that is returned is what was received, and no longer than it may be. -/
theorem boundedBody_body {maxBodyBytes : ℕ} {receive : List Received} :
    ∀ {start body : Bytes}, boundedBody maxBodyBytes start receive = .body body →
      ∃ received, body = start ++ received ∧ IsBody receive received ∧
        body.length ≤ maxBodyBytes := by
  induction receive with
  | nil =>
      intro start body h
      cases h
  | cons message rest ih =>
      intro start body h
      cases message with
      | disconnect => cases h
      | other =>
          obtain ⟨received, heq, hbody, hle⟩ := ih h
          exact ⟨received, heq, .other hbody, hle⟩
      | request chunk moreBody =>
          unfold boundedBody at h
          split at h
          · cases h
          · next hfits =>
              cases moreBody with
              | true =>
                  obtain ⟨received, heq, hbody, hle⟩ := ih h
                  exact ⟨chunk ++ received, by rw [heq, List.append_assoc], .more hbody, hle⟩
              | false =>
                  obtain rfl := BodyResult.body.inj h
                  exact ⟨chunk, rfl, .last, by rw [List.length_append]; omega⟩

/-! ## What is accepted -/

/-- What the wrapped application may be called for. -/
structure Acceptable (platform : HttpPlatform) (config : AppConfig) (scope : Scope)
    (server : HttpServer) (receive : List Received) (body : Bytes) : Prop where
  accepting : server.accepting = true
  headers : HeadersAccepted platform config scope
  received : IsBody receive body
  body_le : body.length ≤ config.mcpMaxBodyBytes
  declared : ∀ value ∈ scope.values "content-length", ∃ text,
    decodeAscii value = some text ∧ isDecimal text = true ∧ intOfDigits text = some body.length
  requestId : Json.preflightJsonHasValidRootRequestId config.preflightLimits platform.finite body =
    some true

/-- One rejection and nothing else. -/
def Rejected (platform : HttpPlatform) (trace : Trace) : Prop :=
  trace.ended = .returned ∧ ∃ response : JSONResponse, 400 ≤ response.statusCode ∧
    trace.sent = (response.messages platform.starlette).map sendWithPolicy

/-- The application is called for what is acceptable and without an answer of the middleware's own,
and a request it is not called for is rejected once. -/
structure Sound (platform : HttpPlatform) (config : AppConfig) (scope : Scope)
    (server : HttpServer) (receive : List Received) (trace : Trace) : Prop where
  called : ∀ body, trace.ended = .application body →
    Acceptable platform config scope server receive body ∧ trace.sent = []
  rejected : (∀ body, trace.ended ≠ .application body) → Rejected platform trace

/-- The declared length has more digits than `int()` converts. -/
def OverlongLength (scope : Scope) : Prop :=
  ∃ value, (scope.values "content-length").head? = some value ∧
    ∃ text, decodeAscii value = some text ∧ isDecimal text = true ∧ maxStrDigits < text.length

/-- The server takes the request in: it accepts requests, and there is a permit for its principal. -/
def HttpServer.TakesIn (config : AppConfig) (server : HttpServer) (scope : Scope) : Prop :=
  server.accepting = true ∧ ∃ principalId holdsPrincipal gates,
    authenticatedPrincipal config scope.headers = some principalId ∧
      server.gates.tryAcquireAdmission principalId = .ok ((true, holdsPrincipal), gates)

section
variable {platform : HttpPlatform} {config : AppConfig} {scope : Scope} {receive : List Received}
  {timer : Timer}

/-- A response that is sent with an error status is a rejection. -/
theorem rejected_respond {response : JSONResponse} (h : 400 ≤ response.statusCode) :
    Rejected platform (.respond platform response) :=
  ⟨rfl, response, h, rfl⟩

/-- Every response of the checks of the headers is a rejection. -/
theorem rejected_headerRejection {response : JSONResponse}
    (h : headerRejection platform config scope = some response) :
    Rejected platform (.respond platform response) := by
  obtain ⟨check, hfind, rfl⟩ := Option.map_eq_some_iff.1 h
  have hmem := List.mem_of_find?_eq_some hfind
  refine rejected_respond ?_
  simp only [headerChecks, List.mem_cons, List.not_mem_nil, or_false] at hmem
  rcases hmem with rfl | rfl | rfl | rfl | rfl | rfl | rfl | rfl <;>
    exact Nat.le_of_ble_eq_true rfl

/-- **The declared length.** It is refused, or `int()` raises, or it is read. -/
theorem declaredLength_cases :
    (∃ response, declaredLength config scope = .rejected response ∧ 400 ≤ response.statusCode ∧
        ¬ OverlongLength scope) ∨
      declaredLength config scope = .valueError ∧ OverlongLength scope ∨
      ∃ declared, declaredLength config scope = .ok declared ∧ ¬ OverlongLength scope ∧
        ∀ value, (scope.values "content-length").head? = some value → ∃ text length,
          decodeAscii value = some text ∧ isDecimal text = true ∧
            intOfDigits text = some length ∧ declared = some length := by
  unfold declaredLength OverlongLength
  cases hvalues : scope.values "content-length" with
  | nil => exact .inr (.inr ⟨none, rfl, by simp, by simp⟩)
  | cons value rest =>
      simp only [List.head?_cons, Option.some.injEq, exists_eq_left', forall_eq']
      cases htext : decodeAscii value with
      | none => exact .inl ⟨_, rfl, by decide, by simp⟩
      | some text =>
          cases hdecimal : isDecimal text with
          | false =>
              refine .inl ⟨rejection "Invalid Content-Length" 400, ?_, Nat.le_refl 400, ?_⟩
              · simp [hdecimal]
              · simp [hdecimal]
          | true =>
              simp only [Option.some.injEq, exists_eq_left', hdecimal, true_and]
              by_cases hlong : maxStrDigits < text.length
              · refine .inr (.inl ⟨?_, hlong⟩)
                simp [intOfDigits, hlong]
              · obtain ⟨length, hlength⟩ : ∃ length, intOfDigits text = some length :=
                  ⟨_, if_neg hlong⟩
                simp only [hlength, Bool.not_true, Bool.false_eq_true, if_false]
                by_cases hlarge : config.mcpMaxBodyBytes < length
                · exact .inl ⟨_, if_pos hlarge, by decide, hlong⟩
                · exact .inr (.inr ⟨some length, if_neg hlarge, hlong, text, length, rfl, hdecimal,
                    hlength, rfl⟩)

/-- The checks of a body reject it or find what they look for. -/
theorem checkBody_cases {declared : Option ℕ} {body : Bytes} :
    Rejected platform (checkBody platform config declared body) ∨
      checkBody platform config declared body = { ended := .application body } ∧
        (∀ length, declared = some length → length = body.length) ∧
        Json.preflightJsonHasValidRootRequestId config.preflightLimits platform.finite body =
          some true := by
  unfold checkBody
  split_ifs with hdeclared
  · exact .inl (rejected_respond (Nat.le_refl 400))
  · split
    · exact .inl (rejected_respond (Nat.le_refl 400))
    · exact .inl (rejected_respond (Nat.le_refl 400))
    · next hpreflight =>
        refine .inr ⟨rfl, ?_, hpreflight⟩
        rintro length rfl
        simpa using hdeclared

/-- **The pipeline.** A request is rejected, is cut off while its body is awaited, reaches `int()`
with too many digits, or has been found acceptable. -/
theorem securityCall_cases :
    (Rejected platform (securityCall platform config scope receive timer) ∨
      (securityCall platform config scope receive timer = { ended := .deadline } ∧
        HeadersAccepted platform config scope) ∨
      ∃ body, securityCall platform config scope receive timer = { ended := .application body } ∧
        HeadersAccepted platform config scope ∧ IsBody receive body ∧
        body.length ≤ config.mcpMaxBodyBytes ∧
        (∀ value, (scope.values "content-length").head? = some value → ∃ text,
          decodeAscii value = some text ∧ isDecimal text = true ∧
            intOfDigits text = some body.length) ∧
        Json.preflightJsonHasValidRootRequestId config.preflightLimits platform.finite body =
          some true) ∧
      ¬ (headerRejection platform config scope = none ∧ OverlongLength scope) ∨
    securityCall platform config scope receive timer = { ended := .valueError } ∧
      headerRejection platform config scope = none ∧ OverlongLength scope := by
  unfold securityCall
  cases hheaders : headerRejection platform config scope with
  | some response => exact .inl ⟨.inl (rejected_headerRejection hheaders), by simp⟩
  | none =>
      obtain ⟨response, heq, hstatus, hlong⟩ | ⟨heq, hlong⟩ | ⟨declared, heq, hlong, hread⟩ :=
        @declaredLength_cases config scope
      · rw [heq]
        exact .inl ⟨.inl (rejected_respond hstatus), fun h => hlong h.2⟩
      · rw [heq]
        exact .inr ⟨rfl, rfl, hlong⟩
      · rw [heq]
        refine .inl ⟨?_, fun h => hlong h.2⟩
        cases hbody : boundedBody config.mcpMaxBodyBytes [] receive with
        | timeout => exact .inl (rejected_respond (by decide))
        | overflow => exact .inl (rejected_respond (by decide))
        | waiting =>
            cases timer with
            | body => exact .inl (rejected_respond (by decide))
            | application =>
                exact .inr (.inl ⟨rfl, headersAccepted_of_headerRejection hheaders⟩)
        | body body =>
            obtain hrejected | ⟨hchecked, hlength, hpreflight⟩ :=
              @checkBody_cases platform config declared body
            · exact .inl hrejected
            · obtain ⟨received, rfl, hreceived, hle⟩ := boundedBody_body hbody
              refine .inr (.inr ⟨_, hchecked, headersAccepted_of_headerRejection hheaders,
                hreceived, hle, fun value hvalue => ?_, hpreflight⟩)
              obtain ⟨text, length, htext, hdecimal, hint, hdeclared⟩ := hread value hvalue
              exact ⟨text, htext, hdecimal, by rw [hint, hlength length hdeclared]⟩

/-- A rejection calls nothing. -/
theorem Rejected.sound {server : HttpServer} {trace : Trace} (h : Rejected platform trace) :
    Sound platform config scope server receive trace := by
  refine ⟨fun body hcalled => ?_, fun _ => h⟩
  rw [h.1] at hcalled
  cases hcalled

/-- Every value of a header that is not repeated is the first. -/
theorem HeadersAccepted.head?_of_mem (h : HeadersAccepted platform config scope) {value : Bytes}
    (hmem : value ∈ scope.values "content-length") :
    (scope.values "content-length").head? = some value := by
  have hshort := h.singletons "content-length" (by decide)
  match hvalues : scope.values "content-length", hmem with
  | [only], hmem => rw [List.mem_singleton.1 hmem]; rfl
  | _ :: _ :: _, _ => rw [hvalues] at hshort; simp at hshort

/-- A server that accepts requests asks for a permit for one to `/mcp`. -/
theorem gateCall_of_accepting {server : HttpServer} (hmcp : scope.isMcp = true)
    (haccepting : server.accepting = true) :
    gateCall platform config scope server receive timer =
      admittedCall platform config scope server.gates receive timer := by
  unfold gateCall
  rw [hmcp, haccepting]
  rfl

/-- What becomes of a request that a permit is asked for. -/
theorem admittedCall_sound_iff {server : HttpServer} (hserver : server.Invariant config)
    (haccepting : server.accepting = true) :
    Sound platform config scope server receive
        (admittedCall platform config scope server.gates receive timer) ↔
      ¬ (server.TakesIn config scope ∧ headerRejection platform config scope = none ∧
        OverlongLength scope) := by
  have htakes : ∀ {principalId : String} {granted holdsPrincipal : Bool} {gates : RequestGates},
      authenticatedPrincipal config scope.headers = some principalId →
      server.gates.tryAcquireAdmission principalId = .ok ((granted, holdsPrincipal), gates) →
      server.TakesIn config scope → granted = true := by
    rintro principalId granted holdsPrincipal gates hprincipal hasked ⟨-, other, _, _, hother, hok⟩
    obtain rfl := Option.some.inj (hprincipal.symm.trans hother)
    rw [hasked] at hok
    exact congrArg (·.1.1) (Except.ok.inj hok)
  unfold admittedCall
  cases hprincipal : authenticatedPrincipal config scope.headers with
  | none =>
      have hno : ¬ HeadersAccepted platform config scope := fun h => by
        simpa [hprincipal] using authenticatedPrincipal_isSome.2 h.authenticated
      have htakesNone : ¬ server.TakesIn config scope := by
        rintro ⟨-, other, _, _, hother, -⟩
        rw [hprincipal] at hother
        cases hother
      refine iff_of_true ?_ fun h => htakesNone h.1
      obtain ⟨hrejected | ⟨-, hheaders⟩ | ⟨body, -, hheaders, -⟩, -⟩ | ⟨-, hheaders, -⟩ :=
        @securityCall_cases platform config scope receive timer
      · exact hrejected.sound
      · exact absurd hheaders hno
      · exact absurd hheaders hno
      · exact absurd (headersAccepted_of_headerRejection hheaders) hno
  | some principalId =>
      obtain ⟨⟨⟨granted, holdsPrincipal⟩, gates⟩, hasked, -⟩ :=
        @RequestGates.tryAcquireAdmission_asked server.gates _
          ((mem_of_authenticatedPrincipal hprincipal).imp_right
            fun hmem own hown => hserver.counts.configured own hown ▸ hmem)
      simp only [hasked]
      cases granted with
      | false =>
          refine iff_of_true (rejected_respond (by decide)).sound fun h => ?_
          exact absurd (htakes hprincipal hasked h.1) (by decide)
      | true =>
          obtain ⟨hcases, hshort⟩ | ⟨htrace, hlong⟩ :=
            @securityCall_cases platform config scope receive timer
          · refine iff_of_true ?_ fun h => hshort h.2
            obtain hrejected | ⟨htrace, -⟩ | ⟨body, htrace, hheaders, hbody, hle, hdeclared,
              hid⟩ := hcases
            · rw [hrejected.1]
              exact hrejected.sound
            · rw [htrace]
              exact (@rejected_respond _ timedOutResponse (by decide)).sound
            · rw [htrace]
              refine ⟨?_, fun hnever => absurd rfl (hnever body)⟩
              rintro _ ⟨⟩
              exact ⟨⟨haccepting, hheaders, hbody, hle,
                fun value hmem => hdeclared value (hheaders.head?_of_mem hmem), hid⟩, rfl⟩
          · rw [htrace]
            refine iff_of_false (fun hsound => ?_) (not_not.2
              ⟨⟨haccepting, principalId, holdsPrincipal, gates, hprincipal, hasked⟩, hlong⟩)
            have hrejected := hsound.rejected (fun body h => by cases h)
            exact nomatch (show CallEnd.valueError = .returned from hrejected.1)

end

/-- **The request gate.** Whatever the headers and the messages of a request to `/mcp` are, and
whatever the server has been doing, the application is called only for what is acceptable and every
other request is rejected once, exactly when the request does not reach `int()` with a declared
length of more digits than it converts. -/
theorem gateCall_sound_iff {platform : HttpPlatform} {config : AppConfig}
    {run : List HttpServer.Action} {scope : Scope} (hmcp : scope.isMcp = true)
    {receive : List Received} {timer : Timer} :
    Sound platform config scope (run.foldl (HttpServer.step config) config.server) receive
        (gateCall platform config scope (run.foldl (HttpServer.step config) config.server) receive
          timer) ↔
      ¬ (HttpServer.TakesIn config (run.foldl (HttpServer.step config) config.server) scope ∧
        headerRejection platform config scope = none ∧ OverlongLength scope) := by
  have hserver : (run.foldl (HttpServer.step config) config.server).Invariant config :=
    HttpServer.invariant_run
  generalize run.foldl (HttpServer.step config) config.server = server at hserver
  cases haccepting : server.accepting with
  | false =>
      have hrespond : gateCall platform config scope server receive timer =
          .respond platform notRunningResponse := by
        unfold gateCall
        rw [hmcp, haccepting]
        rfl
      rw [hrespond]
      refine iff_of_true (rejected_respond (by decide)).sound ?_
      rintro ⟨⟨haccepting', -⟩, -⟩
      rw [haccepting] at haccepting'
      cases haccepting'
  | true =>
      rw [gateCall_of_accepting hmcp haccepting]
      exact admittedCall_sound_iff hserver haccepting

/-- `ip_address` of a dotted quad; other texts are taken for names. -/
def dottedQuad (text : List Char) : Option IpAddress :=
  let parts := text.splitOn '.'
  if parts.length = 4 && parts.all fun part =>
      isDecimal part && (part.length ≤ 1 || part.head? != some '0') && part.length ≤ 3 &&
        (intOfDigits part).any (· ≤ 255) then
    some { version := 4, compressed := text }
  else none

/-- A platform that knows no IPv6 address and no number beyond the floats. -/
def plainPlatform : HttpPlatform where
  starlette := plainStarlette
  ipAddress := dottedQuad
  finite _ := true

/-- A development server without credentials. -/
def anonymousConfig : AppConfig where
  allowAnonymous := true

/-- A request with the given length headers. -/
def pingScope (lengths : List (Bytes × Bytes)) : Scope where
  method := some "POST"
  headers := [(ascii "Host", ascii "127.0.0.1:8000"),
    (ascii "MCP-Protocol-Version", ascii "2026-01-01"),
    (ascii "Content-Type", ascii "application/json; charset=utf-8")] ++ lengths

/-- Its body. -/
def pingBody : Bytes := ascii "\x7b\"jsonrpc\":\"2.0\",\"id\":1,\"method\":\"ping\"\x7d"

/-- A request that declares no length. -/
theorem gateCall_sound_ping : Sound plainPlatform anonymousConfig (pingScope [])
    ([HttpServer.Action.start].foldl (HttpServer.step anonymousConfig) anonymousConfig.server)
    [.request pingBody false]
    (gateCall plainPlatform anonymousConfig (pingScope [])
      ([HttpServer.Action.start].foldl (HttpServer.step anonymousConfig) anonymousConfig.server)
      [.request pingBody false] .body) := by
  refine (gateCall_sound_iff (by decide)).2 ?_
  rintro ⟨-, -, value, hvalue, -⟩
  have hnone : ((pingScope []).values "content-length").head? = none := by decide
  rw [hnone] at hvalue
  cases hvalue

/-- A declared length of 4,301 digits. -/
def overlongScope : Scope := pingScope [(ascii "Content-Length", List.replicate 4301 0x31)]

theorem overlongScope_values :
    overlongScope.values "content-length" = [List.replicate 4301 0x31] := rfl

theorem overlong_digits : decodeAscii (List.replicate 4301 0x31) =
    some (List.replicate 4301 '1') := by
  unfold decodeAscii
  rw [List.all_replicate, List.map_replicate]
  rfl

theorem isDecimal_replicate {n : ℕ} {c : Char} (h : c.isDigit = true) :
    isDecimal (List.replicate (n + 1) c) = true := by
  simp [isDecimal, List.replicate_succ, h]

/-- A declared length of 4,301 digits is answered by no response. -/
theorem overlong_length_raises : ¬ ∀ (config : AppConfig) (run : List HttpServer.Action)
    (scope : Scope) (receive : List Received) (timer : Timer), scope.isMcp = true →
    Sound plainPlatform config scope (run.foldl (HttpServer.step config) config.server) receive
      (gateCall plainPlatform config scope (run.foldl (HttpServer.step config) config.server) receive
        timer) := by
  intro h
  have hsound := h anonymousConfig [.start] overlongScope [] .body (by decide)
  rw [gateCall_of_accepting (by decide) rfl] at hsound
  have hheaders : headerRejection plainPlatform anonymousConfig overlongScope = none := by
    decide +kernel
  have htakes : ([HttpServer.Action.start].foldl (HttpServer.step anonymousConfig)
      anonymousConfig.server).TakesIn anonymousConfig overlongScope :=
    ⟨rfl, "anonymous", false, _, by decide +kernel, rfl⟩
  have hoverlong : OverlongLength overlongScope :=
    ⟨_, by rw [overlongScope_values]; rfl, _, overlong_digits, isDecimal_replicate (n := 4300) (by decide),
      by rw [List.length_replicate]; decide⟩
  exact (admittedCall_sound_iff HttpServer.invariant_run rfl).1 hsound ⟨htakes, hheaders, hoverlong⟩

end NplgMcp
