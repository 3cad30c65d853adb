import Mathlib.Data.Int.Notation
import NplgMcp.Encoding
import NplgMcp.Errors

/-!
# Responses

The ASGI messages of a response, the responses `McpSecurityMiddleware` makes itself, the security
headers `_send_with_policy` puts on every response, and the two flags `tracked_send` keeps. How a
content becomes bytes is Starlette's and the parameter `Starlette`.
-/

namespace NplgMcp

/-- An ASGI message that an application sends. -/
inductive Message where
  | start (status : ℕ) (headers : List (Bytes × Bytes))
  | body (body : Bytes) (moreBody : Bool)
  /-- Any other type: it passes unchanged. -/
  | other
  deriving DecidableEq

/-- `ErrorCode.value`. -/
def ErrorCode.value : ErrorCode → String
  | .invalidInput => "INVALID_INPUT"
  | .notFound => "NOT_FOUND"
  | .restricted => "RESTRICTED"
  | .upstreamFailure => "UPSTREAM_FAILURE"
  | .downloadTooLarge => "DOWNLOAD_TOO_LARGE"
  | .invalidDocument => "INVALID_DOCUMENT"
  | .pdfProcessingFailed => "PDF_PROCESSING_FAILED"
  | .rateLimited => "RATE_LIMITED"
  | .requestTimeout => "REQUEST_TIMEOUT"
  | .cacheFull => "CACHE_FULL"
  | .unauthorized => "UNAUTHORIZED"
  | .internalError => "INTERNAL_ERROR"

/-- The content of the responses that are made here. -/
inductive JsonContent where
  /-- `{"error": text}`. -/
  | error (text : String)
  /-- `{"error": to_public_error(error)}`. -/
  | publicError (error : AppError)
  /-- A JSON-RPC error without a request id. -/
  | jsonRpcError (code : ℤ) (message : String)
  deriving DecidableEq

/-- `_JSONResponse`. -/
structure JSONResponse where
  content : JsonContent
  statusCode : ℕ := 200
  headers : List (String × String) := []
  deriving DecidableEq

/-- What Starlette makes of a response. -/
structure Starlette where
  rawHeaders : JSONResponse → List (Bytes × Bytes)
  render : JsonContent → Bytes

/-- What it makes of the responses made here, whose texts need no escapes and whose errors have no
details: compact JSON, the headers given, and the length and type of the content. -/
def plainStarlette : Starlette where
  render := plain
  rawHeaders response :=
    response.headers.map (fun header => (lowerBytes (ascii header.1), ascii header.2)) ++
      [(ascii "content-length", ascii (plain response.content).length.repr),
        (ascii "content-type", ascii "application/json")]
where
  plain : JsonContent → Bytes
    | .error text => ascii ("\x7b\"error\":\"" ++ text ++ "\"\x7d")
    | .publicError error =>
      ascii ("\x7b\"error\":\x7b\"code\":\"" ++ error.code.value ++ "\",\"message\":\"" ++
        error.message ++ "\"\x7d\x7d")
    | .jsonRpcError code message =>
      ascii ("\x7b\"jsonrpc\":\"2.0\",\"id\":null,\"error\":\x7b\"code\":" ++ toString code ++
        ",\"message\":\"" ++ message ++ "\"\x7d\x7d")

/-- `Response.__call__`: the messages of a response, in order. -/
def JSONResponse.messages (starlette : Starlette) (response : JSONResponse) : List Message :=
  [.start response.statusCode (starlette.rawHeaders response),
    .body (starlette.render response.content) false]

/-! ## The policy of the responses -/

/-- `_RESPONSE_POLICY`. -/
def responsePolicy : List (Bytes × Bytes) :=
  [(ascii "content-security-policy",
      ascii "default-src 'none'; base-uri 'none'; object-src 'none'; frame-ancestors 'none'"),
    (ascii "x-content-type-options", ascii "nosniff"),
    (ascii "referrer-policy", ascii "no-referrer"),
    (ascii "cache-control", ascii "no-store, no-transform")]

/-- The headers of an application that `_send_with_policy` keeps. -/
def keepsHeader (header : Bytes × Bytes) : Bool :=
  !(responsePolicy.map (·.1)).contains (lowerBytes header.1) &&
    !(ascii "access-control-").isPrefixOf (lowerBytes header.1) &&
    lowerBytes header.1 != ascii "x-accel-buffering"

/-- The `is_sse` of `_send_with_policy`. -/
def isEventStream (headers : List (Bytes × Bytes)) : Bool :=
  headers.any fun header => lowerBytes header.1 == ascii "content-type" &&
    (ascii "text/event-stream").isPrefixOf (lowerBytes header.2)

/-- The headers `_send_with_policy` puts in place of those of an application. -/
def policyHeaders (headers : List (Bytes × Bytes)) : List (Bytes × Bytes) :=
  headers.filter keepsHeader ++ responsePolicy ++
    if isEventStream headers then [(ascii "x-accel-buffering", ascii "no")] else []

/-- `_send_with_policy`: the message it passes on. -/
def sendWithPolicy : Message → Message
  | .start status headers => .start status (policyHeaders headers)
  | message => message

/-! ## What has been sent -/

/-- The flags of `_admitted_call`. -/
structure ResponseFlags where
  responseStarted : Bool := false
  responseComplete : Bool := false
  deriving DecidableEq

/-- The flags as `tracked_send` sets them, before it awaits the outer `send`. -/
def ResponseFlags.track (flags : ResponseFlags) : Message → ResponseFlags
  | .start _ _ => { flags with responseStarted := true }
  | .body _ moreBody => if moreBody then flags else { flags with responseComplete := true }
  | .other => flags

/-- The `busy` of `_admitted_call`. -/
def busyResponse : JSONResponse where
  content := .publicError
    { code := .rateLimited
      message := "The MCP server is at its concurrent request limit."
      httpStatus := 503 }
  statusCode := 503
  headers := [("Retry-After", "1")]

/-- The `timed_out` of `_admitted_call`. -/
def timedOutResponse : JSONResponse where
  content := .publicError
    { code := .requestTimeout
      message := "The MCP request exceeded its application deadline."
      httpStatus := 504 }
  statusCode := 504

/-- The response of a server that does not accept requests. -/
def notRunningResponse : JSONResponse where
  content := .error "MCP service is not running"
  statusCode := 503

/-- The messages the `TimeoutError` handler of `_admitted_call` sends. -/
def timeoutMessages (starlette : Starlette) (flags : ResponseFlags) : List Message :=
  if flags.responseStarted then
    if flags.responseComplete then [] else [.body [] false]
  else (timedOutResponse.messages starlette).map sendWithPolicy

end NplgMcp
