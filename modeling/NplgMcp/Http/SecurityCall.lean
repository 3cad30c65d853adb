import NplgMcp.Http.Authority
import NplgMcp.Http.InFlight
import NplgMcp.Json.Preflight

/-!
# The security pipeline of one request

`_security_call` and `_bounded_body` of `McpSecurityMiddleware`, and what `__call__` and
`_admitted_call` put around them. The checks of the headers stand in the order of the source, each
with the response it is answered with; the first one that fails decides. Every `send` of a rejection
is delivered here: what a `send` that waits does to a response is the subject of another module.
-/

namespace NplgMcp

/-- An ASGI scope, as far as the middleware reads it. -/
structure Scope where
  type : String := "http"
  path : String := "/mcp"
  scheme : Option String := none
  method : Option String := none
  headers : List (Bytes × Bytes) := []

/-- The scopes the pipeline is for. -/
def Scope.isMcp (scope : Scope) : Bool := scope.type == "http" && scope.path == "/mcp"

/-- `[value for name, value in headers if name.lower() == wanted]`. -/
def Scope.values (scope : Scope) (wanted : String) : List Bytes :=
  headerValues scope.headers wanted

/-- A message of `receive`. -/
inductive Received where
  | request (body : Bytes) (moreBody : Bool)
  | disconnect
  /-- A message of any other type. -/
  | other
  deriving DecidableEq

/-- The timer that ends the waiting for a message that does not come. -/
inductive Timer where
  /-- `request_body_timeout_seconds`. -/
  | body
  /-- `mcp_application_deadline_seconds`. -/
  | application
  deriving DecidableEq

/-- How a call ends. -/
inductive CallEnd where
  | returned
  /-- `int()` has raised. -/
  | valueError
  /-- The application deadline has cancelled it. -/
  | deadline
  /-- The wrapped application is called; it is given the body. -/
  | application (body : Bytes)
  /-- The wrapped application is called with what has been received. -/
  | passed
  deriving DecidableEq

/-- What a call has sent, and how it ends. -/
structure Trace where
  sent : List Message := []
  ended : CallEnd := .returned
  deriving DecidableEq

/-- What the middleware takes from the packages it uses. -/
structure HttpPlatform where
  starlette : Starlette
  ipAddress : List Char → Option IpAddress
  /-- Whether the float a number is read as is finite. -/
  finite : List UInt8 → Bool

/-! ## The checks of the headers -/

/-- `_HANDSHAKE_VERSIONS`. -/
def handshakeVersions : List Bytes :=
  [ascii "2025-03-26", ascii "2025-06-18", ascii "2025-11-25"]

/-- `_SAFE_VERSION_BYTES`. -/
def safeVersionBytes : Bytes :=
  ascii "ABCDEFGHIJKLMNOPQRSTUVWXYZabcdefghijklmnopqrstuvwxyz0123456789!#$%&'*+-.^_`|~"

/-- `_MAX_VERSION_BYTES`. -/
def maxVersionBytes : ℕ := 32

/-- The `singleton_names`. -/
def singletonNames : List String :=
  ["content-type", "content-length", "transfer-encoding", "mcp-method", "mcp-name"]

section
variable (platform : HttpPlatform) (config : AppConfig) (scope : Scope)

/-- `canonical_gateway_host` of the one `Host` header. -/
def isCanonicalGatewayHost (host : Bytes) : Bool :=
  let defaultPort := if scope.scheme == some "https" then 443 else 80
  (decodeAscii host).any fun decoded =>
    canonicalizeMcpHost platform.ipAddress defaultPort decoded == some decoded

/-- `invalid_authority`. -/
def invalidAuthority : Bool :=
  let allowedHost : Bytes → Bool := fun host =>
    match config.mcpAuthorityMode with
    | .alpicGateway => isCanonicalGatewayHost platform scope host
    | .direct => (config.mcpAllowedHosts.map ascii).contains host
  !(match scope.values "host" with
    | [host] => allowedHost host
    | _ => false) ||
  match scope.values "origin" with
  | [] => false
  | [origin] => !(config.mcpAllowedOrigins.map ascii).contains origin
  | _ => true

/-- The content encoding is refused. -/
def unsupportedEncoding : Bool :=
  match scope.values "content-encoding" with
  | [] => false
  | [encoding] => encoding != ascii "identity"
  | _ => true

/-- `unsafe_version`, of the one version. -/
def isSafeVersion (version : Bytes) : Bool :=
  1 ≤ version.length && version.length ≤ maxVersionBytes &&
    version.all (safeVersionBytes.contains ·) && !handshakeVersions.contains version

/-- `unsafe_version`. -/
def unsafeVersion : Bool :=
  match scope.values "mcp-protocol-version" with
  | [version] => !isSafeVersion version
  | _ => true

/-- A header that must not be repeated is. -/
def ambiguousHeaders : Bool := singletonNames.any fun name => 1 < (scope.values name).length

/-- The content type is not JSON. -/
def wrongContentType : Bool :=
  match scope.values "content-type" with
  | [value] => lowerBytes (stripBytes (value.takeWhile (· != 0x3B))) != ascii "application/json"
  | _ => true

/-- Both a length and a transfer encoding are given. -/
def ambiguousFraming : Bool :=
  !(scope.values "content-length").isEmpty && !(scope.values "transfer-encoding").isEmpty

/-- A rejection of a request. -/
def rejection (text : String) (statusCode : ℕ) : JSONResponse :=
  { content := .error text, statusCode := statusCode }

/-- The checks of `_security_call` up to the declared length, with their responses. -/
def headerChecks : List (Bool × JSONResponse) :=
  [(invalidAuthority platform config scope, rejection "Host or Origin is not allowed" 403),
    (unsupportedEncoding scope, rejection "Unsupported content encoding" 415),
    ((authenticatedPrincipal config scope.headers).isNone,
      rejection "API authentication is required" 401),
    (scope.method.getD "" != "POST",
      { rejection "Method not allowed" 405 with headers := [("Allow", "POST")] }),
    (unsafeVersion scope, rejection "Invalid MCP protocol version" 400),
    (ambiguousHeaders scope, rejection "Ambiguous request headers" 400),
    (wrongContentType scope, rejection "Content-Type must be application/json" 415),
    (ambiguousFraming scope, rejection "Ambiguous request framing" 400)]

/-- The response of the first check that fails. -/
def headerRejection : Option JSONResponse :=
  ((headerChecks platform config scope).find? (·.1)).map (·.2)

/-! ## The length and the body -/

/-- What becomes of the declared length. -/
inductive Declared where
  | ok (declared : Option ℕ)
  | rejected (response : JSONResponse)
  | valueError

/-- The declared length: text that is not ASCII digits is refused, and `int()` raises for more
digits than it converts. -/
def declaredLength : Declared :=
  match scope.values "content-length" with
  | [] => .ok none
  | value :: _ =>
    match decodeAscii value with
    | none => .rejected (rejection "Invalid Content-Length" 400)
    | some text =>
      if !isDecimal text then .rejected (rejection "Invalid Content-Length" 400)
      else
        match intOfDigits text with
        | none => .valueError
        | some declared =>
          if config.mcpMaxBodyBytes < declared then
            .rejected (rejection "Request body is too large" 413)
          else .ok (some declared)

/-- What `_bounded_body` makes of the messages. -/
inductive BodyResult where
  | body (body : Bytes)
  /-- `TimeoutError`, which a disconnect raises too. -/
  | timeout
  /-- `OverflowError`. -/
  | overflow
  /-- The next message does not come. -/
  | waiting

/-- `_bounded_body`, with the body so far. -/
def boundedBody (maxBodyBytes : ℕ) : Bytes → List Received → BodyResult
  | _, [] => .waiting
  | _, .disconnect :: _ => .timeout
  | body, .other :: rest => boundedBody maxBodyBytes body rest
  | body, .request chunk moreBody :: rest =>
    if maxBodyBytes < body.length + chunk.length then .overflow
    else if moreBody then boundedBody maxBodyBytes (body ++ chunk) rest
    else .body (body ++ chunk)

/-- `body_timeout`. -/
def bodyTimeoutResponse : JSONResponse where
  content := .publicError
    { code := .requestTimeout
      message := "The request body was not received within the allowed time."
      httpStatus := 408 }
  statusCode := 408

/-- The response to a body without a request id. -/
def invalidRequestResponse : JSONResponse where
  content := .jsonRpcError (-32600) "Invalid Request"
  statusCode := 400

/-- The `JsonPreflightLimits` of a request. -/
def AppConfig.preflightLimits (config : AppConfig) : Json.JsonPreflightLimits :=
  { Json.JsonPreflightLimits.standard with
    maxBodyBytes := config.mcpMaxBodyBytes
    maxBodyBytes_mem :=
      ⟨config.maxBodyBytes_mem.1, Nat.le_trans config.maxBodyBytes_mem.2 (by decide)⟩ }

/-- A call that sends one response and returns. -/
def Trace.respond (response : JSONResponse) : Trace :=
  { sent := (response.messages platform.starlette).map sendWithPolicy }

/-- The checks of the body. -/
def checkBody (declared : Option ℕ) (body : Bytes) : Trace :=
  if declared.any (· != body.length) then
    .respond platform (rejection "Invalid Content-Length" 400)
  else
    match Json.preflightJsonHasValidRootRequestId config.preflightLimits platform.finite body with
    | none => .respond platform (rejection "Invalid JSON request body" 400)
    | some false => .respond platform invalidRequestResponse
    | some true => { ended := .application body }

/-- `_security_call` of an `/mcp` scope. -/
def securityCall (receive : List Received) (timer : Timer) : Trace :=
  match headerRejection platform config scope with
  | some response => .respond platform response
  | none =>
    match declaredLength config scope with
    | .rejected response => .respond platform response
    | .valueError => { ended := .valueError }
    | .ok declared =>
      match boundedBody config.mcpMaxBodyBytes [] receive, timer with
      | .body body, _ => checkBody platform config declared body
      | .timeout, _ | .waiting, .body => .respond platform bodyTimeoutResponse
      | .overflow, _ => .respond platform (rejection "Request body is too large" 413)
      | .waiting, .application => { ended := .deadline }

/-! ## Admission -/

/-- `_admitted_call`, of a request that is alone until it ends. -/
def admittedCall (gates : RequestGates) (receive : List Received) (timer : Timer) : Trace :=
  match authenticatedPrincipal config scope.headers with
  | none => securityCall platform config scope receive timer
  | some principalId =>
    match gates.tryAcquireAdmission principalId with
    | .error _ => { ended := .valueError }
    | .ok ((false, _), _) => .respond platform busyResponse
    | .ok ((true, _), _) =>
      let trace := securityCall platform config scope receive timer
      match trace.ended with
      | .deadline =>
        { sent := trace.sent ++
            timeoutMessages platform.starlette (trace.sent.foldl ResponseFlags.track {}) }
      | _ => trace

/-- `__call__`. -/
def gateCall (server : HttpServer) (receive : List Received) (timer : Timer) : Trace :=
  if !scope.isMcp then { ended := .passed }
  else if !server.accepting then .respond platform notRunningResponse
  else admittedCall platform config scope server.gates receive timer

end

end NplgMcp
