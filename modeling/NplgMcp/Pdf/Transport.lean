import NplgMcp.Library.JsonSize
import NplgMcp.Pdf.Binding

/-!
# The frames of the PDF worker

The functions of `pdf_ipc.py` that write and read frames, and the two ends of the pipe: `_exchange`
of `pdf_worker_client.py` and `_read_command` of `pdf_worker_main.py`. A model is dumped to the
compact JSON of its fields. How pydantic writes a float, what `float` reads and what the adapters
validate are arguments.
-/

namespace NplgMcp.Pdf

open Library.JsonText

/-! ## Dumped models -/

/-- `ErrorCode` as a string. -/
def errorCodeText : ErrorCode → String
  | .invalidInput => "INVALID_INPUT"
  | .notFound => "NOT_FOUND"
  | .restricted => "RESTRICTED"
  | .upstreamFailure => "UPSTREAM_FAILURE"
  | .downloadTooLarge => "DOWNLOAD_TOO_LARGE"
  | .invalidDocument => "INVALID_DOCUMENT"
  | .pdfProcessingFailed => "PDF_PROCESSING_FAILED"
  | .rateLimited => "RATE_LIMITED"
  | .requestTimeout => "REQUEST_TIMEOUT"
  | .cacheFull => "CACHE_FULL"
  | .unauthorized => "UNAUTHORIZED"
  | .internalError => "INTERNAL_ERROR"

/-- `PdfOperation` as a string. -/
def operationText : PdfOperation → String
  | .inspect => "inspect"
  | .renderPages => "render_pages"
  | .renderTiles => "render_tiles"
  | .manifest => "manifest"

/-- The hexadecimal digits of a number from one position down to another. -/
def hexDigits (value high count : ℕ) : List Char :=
  (List.range count).map fun i => hexChar (value / 16 ^ (high - i) % 16)

/-- `str(uuid)`. -/
def uuidText (value : ℕ) : String :=
  String.ofList (hexDigits value 31 8 ++ '-' :: hexDigits value 23 4 ++ '-' :: hexDigits value 19 4 ++
    '-' :: hexDigits value 15 4 ++ '-' :: hexDigits value 11 12)

/-- A number of a model. -/
def natural (value : ℕ) : JsonTree := .int value

/-- A finite float of a model. -/
def finiteFloat (value : ℚ) : JsonTree := .float (some value)

/-- A value or `None`. -/
def orNull {α : Type} (json : α → JsonTree) : Option α → JsonTree
  | none => .null
  | some value => json value

/-- The fields of `PdfPipelineVersionOutput`. -/
def pipelineVersions : List (String × JsonTree) :=
  [("manifest_schema_version", .str "1.0.0"), ("render_pipeline_version", .str "1.0.0"),
    ("classification_algorithm_version", .str "1.0.0"), ("tile_pipeline_version", .str "1.0.0")]

/-- A dumped `PageInspectionOutput`. -/
def PageInspectionOutput.json (page : PageInspectionOutput) : JsonTree :=
  .obj [("page_number", natural page.pageNumber), ("width_points", finiteFloat page.widthPoints),
    ("height_points", finiteFloat page.heightPoints), ("rotation", natural page.rotation),
    ("classification", .str page.classification), ("image_count", natural page.imageCount),
    ("has_text", .bool page.hasText), ("has_drawings", .bool page.hasDrawings),
    ("crop_applied", .bool page.cropApplied),
    ("dominant_image_index", orNull natural page.dominantImageIndex),
    ("dominant_extension", orNull .str page.dominantExtension),
    ("dominant_coverage", orNull finiteFloat page.dominantCoverage),
    ("native_width", orNull natural page.nativeWidth),
    ("native_height", orNull natural page.nativeHeight),
    ("effective_dpi_x", orNull finiteFloat page.effectiveDpiX),
    ("effective_dpi_y", orNull finiteFloat page.effectiveDpiY),
    ("direct_jpeg_eligible", .bool page.directJpegEligible),
    ("native_raster_extract_eligible", .bool page.nativeRasterExtractEligible)]

/-- A dumped `PdfInspectionOutput`. -/
def PdfInspectionOutput.json (value : PdfInspectionOutput) : JsonTree :=
  .obj [("source_sha256", .str value.sourceSha256), ("page_count", natural value.pageCount),
    ("renderer_version", .str value.rendererVersion),
    ("pages", .arr (value.pages.map PageInspectionOutput.json))]

/-- A dumped `RenderedPageOutput`. -/
def RenderedPageOutput.json (page : RenderedPageOutput) : JsonTree :=
  .obj [("page_number", natural page.pageNumber), ("width", natural page.width),
    ("height", natural page.height), ("rotation", natural page.rotation),
    ("classification", .str page.classification),
    ("effective_dpi_x", finiteFloat page.effectiveDpiX),
    ("effective_dpi_y", finiteFloat page.effectiveDpiY),
    ("resolution_source", .str page.resolutionSource),
    ("conversion_path", .str page.conversionPath), ("relative_path", .str page.relativePath),
    ("sha256", .str page.sha256), ("media_type", .str "image/jpeg"),
    ("resize_applied", .bool page.resizeApplied),
    ("pixel_dimensions_preserved", .bool page.pixelDimensionsPreserved),
    ("renderer_resampling", .str page.rendererResampling), ("reencoded", .bool page.reencoded),
    ("lossy_conversion", .bool page.lossyConversion)]

/-- A dumped `RenderPagesOutput`. -/
def RenderPagesOutput.json (value : RenderPagesOutput) : JsonTree :=
  .obj (pipelineVersions ++
    [("render_id", .str value.renderId), ("source_sha256", .str value.sourceSha256),
      ("renderer_version", .str value.rendererVersion), ("mode", .str "native"),
      ("pages", .arr (value.pages.map RenderedPageOutput.json)),
      ("manifest_relative_path", .str value.manifestRelativePath)])

/-- A dumped `RenderedTileOutput`. -/
def RenderedTileOutput.json (tile : RenderedTileOutput) : JsonTree :=
  .obj [("tile_id", .str tile.tileId), ("page_number", natural tile.pageNumber),
    ("x", natural tile.x), ("y", natural tile.y), ("width", natural tile.width),
    ("height", natural tile.height), ("full_page_width", natural tile.fullPageWidth),
    ("full_page_height", natural tile.fullPageHeight), ("overlap", natural tile.overlap),
    ("relative_path", .str tile.relativePath), ("sha256", .str tile.sha256),
    ("media_type", .str "image/jpeg"), ("resize_applied", .bool false),
    ("pixel_dimensions_preserved", .bool true), ("renderer_resampling", .str "none"),
    ("reencoded", .bool true), ("lossy_conversion", .bool true)]

/-- A dumped `RenderTilesOutput`. -/
def RenderTilesOutput.json (value : RenderTilesOutput) : JsonTree :=
  .obj (pipelineVersions ++
    [("render_id", .str value.renderId), ("page_number", natural value.pageNumber),
      ("page_sha256", .str value.pageSha256), ("tile_width", natural value.tileWidth),
      ("tile_height", natural value.tileHeight), ("overlap", natural value.overlap),
      ("tiles", .arr (value.tiles.map RenderedTileOutput.json)),
      ("manifest_relative_path", .str value.manifestRelativePath)])

/-- The value of a dumped payload. -/
def PdfPayload.valueJson : PdfPayload → JsonTree
  | .inspect value => value.json
  | .renderPages value => value.json
  | .renderTiles value => value.json
  | .manifest value => value.json

/-- A dumped `PdfResult`. -/
def PdfResult.json : PdfResult → JsonTree
  | .success requestId payload =>
    .obj [("request_id", .str (uuidText requestId)), ("status", .str "ok"),
      ("payload", .obj [("operation", .str (operationText payload.operation)),
        ("value", payload.valueJson)])]
  | .failure requestId operation code message _ =>
    .obj [("request_id", .str (uuidText requestId)), ("status", .str "error"),
      ("operation", .str (operationText operation)),
      ("payload", .obj [("code", .str (errorCodeText code)), ("message", .str message)])]

/-- Dumped parameters of a command. -/
def PdfCommand.parametersJson : PdfCommand → JsonTree
  | .inspect .. => .obj []
  | .renderPages _ _ parameters _ =>
    .obj [("pages", .arr (parameters.pages.map natural)), ("mode", .str "native")]
  | .renderTiles _ parameters =>
    .obj [("render_id", .str parameters.renderId), ("page_number", natural parameters.pageNumber),
      ("tile_width", orNull natural parameters.tileWidth),
      ("tile_height", orNull natural parameters.tileHeight),
      ("overlap", orNull natural parameters.overlap)]
  | .manifest _ renderId _ => .obj [("render_id", .str renderId)]

/-- The path of a command's source, if it has one. -/
def PdfCommand.sourceJson : PdfCommand → List (String × JsonTree)
  | .inspect _ source _ | .renderPages _ source _ _ => [("source_relative_path", .str source)]
  | .renderTiles .. | .manifest .. => []

/-- A dumped `PdfCommand`. -/
def PdfCommand.json (command : PdfCommand) : JsonTree :=
  .obj ([("request_id", .str (uuidText command.requestId)),
    ("operation", .str (operationText command.operation))] ++ command.sourceJson ++
    [("parameters", command.parametersJson)])

/-! ## Frames -/

/-- `MAX_COMMAND_FRAME_BYTES`. -/
def maxCommandFrameBytes : ℕ := 65536

/-- `MAX_JSON_DEPTH`. -/
def maxJsonDepth : ℕ := 64

/-- `MAX_JSON_VALUES`. -/
def maxJsonValues : ℕ := 32768

/-- What writing or reading a frame raises: a `ValueError` each. -/
inductive FrameError where
  /-- The frame is empty or longer than its maximum. -/
  | length
  | byteOrderMark
  /-- The decoder, `json.loads` or one of its hooks. -/
  | unreadable
  /-- Too many values, or too deep. -/
  | oversized
  | notFinite
  /-- pydantic's `ValidationError`. -/
  | validation
  deriving DecidableEq, Repr

/-- `type(item) is float and not math.isfinite(item)`. -/
def isInfinite : JsonTree → Bool
  | .float none => true
  | _ => false

/-- The loop of `_preflight_json`: the values that may still be visited, and the stack with its top
first. The values of a container are pushed one after another. -/
def visitValues : ℕ → List (JsonTree × ℕ) → Except FrameError Unit
  | _, [] => .ok ()
  | 0, _ :: _ => .error .oversized
  | left + 1, (item, depth) :: stack =>
    if maxJsonDepth < depth then .error .oversized
    else if isInfinite item then .error .notFinite
    else visitValues left ((item.children.map fun child => (child, depth + 1)).reverse ++ stack)

/-- The four bytes of a frame's length. -/
def lengthPrefix (size : ℕ) : Bytes :=
  [(size / 2 ^ 24).toUInt8, (size / 2 ^ 16).toUInt8, (size / 2 ^ 8).toUInt8, size.toUInt8]

/-- `int.from_bytes(header, "big")`. -/
def bigEndian (header : Bytes) : ℕ := header.foldl (fun value byte => value * 256 + byte.toNat) 0

/-- pydantic's writing of floats and its adapters, with the reading of floats by `float`. -/
structure Codecs where
  writeFloat : ℚ → List Char
  readFloat : List Char → Option ℚ
  validateCommand : Bytes → Option PdfCommand
  validateResult : Bytes → Option PdfResult

section
variable (codecs : Codecs)

/-- The writer of `model_dump_json` and the reader of `json.loads`. -/
def Codecs.json : Codec where
  writeFloat := codecs.writeFloat
  readFloat := codecs.readFloat
  maxDigits := maxStrDigits

/-- `model_dump_json().encode("utf-8")`. -/
def dumpJson (tree : JsonTree) : Bytes := encodeUtf8 (String.ofList (tree.text codecs.json))

/-- `_preflight_json`. -/
def preflightJson (frame : Bytes) (maximum : ℕ) : Except FrameError Unit :=
  if frame = [] ∨ maximum < frame.length then .error .length
  else if [0xEF, 0xBB, 0xBF].isPrefixOf frame then .error .byteOrderMark
  else
    match String.fromUTF8? frame.toByteArray with
    | none => .error .unreadable
    | some text =>
      match loads codecs.json text.toList with
      | none => .error .unreadable
      | some value => visitValues maxJsonValues [(value, 1)]

/-- `parse_command_frame`. -/
def parseCommandFrame (frame : Bytes) : Except FrameError PdfCommand := do
  preflightJson codecs frame maxCommandFrameBytes
  match codecs.validateCommand frame with
  | none => .error .validation
  | some command => .ok command

/-- `parse_result_frame`. -/
def parseResultFrame (frame : Bytes) : Except FrameError PdfResult := do
  preflightJson codecs frame maxResultFrameBytes
  match codecs.validateResult frame with
  | none => .error .validation
  | some result => .ok result

/-- `encode_frame`. -/
def encodeFrame (model : JsonTree) (maximum : ℕ) : Except FrameError Bytes :=
  let body := dumpJson codecs model
  if body = [] ∨ maximum < body.length then .error .length
  else .ok (lengthPrefix body.length ++ body)

/-! ## The two ends of the pipe -/

/-- Why a stream is not one frame. -/
inductive StreamError where
  | truncated
  | outOfRange
  | trailing
  deriving DecidableEq, Repr

/-- The body of a stream that holds one frame and nothing else. -/
def readBody (stream : Bytes) (maximum : ℕ) : Except StreamError Bytes :=
  let size := bigEndian (stream.take 4)
  let body := stream.drop 4
  if stream.length < 4 then .error .truncated
  else if size < 1 ∨ maximum < size then .error .outOfRange
  else if body.length < size then .error .truncated
  else if size < body.length then .error .trailing
  else .ok body

/-- The command that the worker reads: a failure ends its process. -/
def receiveCommand (stream : Bytes) : Option PdfCommand :=
  match readBody stream maxCommandFrameBytes with
  | .error _ => none
  | .ok body => (parseCommandFrame codecs body).toOption

/-- What the worker leaves in its pipe: nothing, if the result cannot be encoded. -/
def sendResult (result : PdfResult) : Bytes :=
  match encodeFrame codecs result.json maxResultFrameBytes with
  | .error _ => []
  | .ok frame => frame

/-- What `_exchange` and the handler around it make of the pipe. -/
def receiveResult (stream : Bytes) : Except WorkerError PdfResult :=
  match readBody stream maxResultFrameBytes with
  | .error .truncated => .error (.operational "PDF worker transport failed")
  | .error .outOfRange =>
    .error (.operational "PDF worker result length is outside the allowed range")
  | .error .trailing => .error (.operational "PDF worker emitted trailing output")
  | .ok body =>
    match parseResultFrame codecs body with
    | .error _ => .error (.operational "PDF worker transport failed")
    | .ok result => .ok result

end

end NplgMcp.Pdf
