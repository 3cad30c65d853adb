import NplgMcp.Encoding
import NplgMcp.Pdf.Messages
import NplgMcp.Pdf.Tiling

/-!
# What the parent accepts of a worker

`_validate_result_binding` of `pdf_worker_client.py` and the identities of `pdf_identity.py`. The
worker may have sent any result that the models accept and left anything in its job directory; what
reading the staged manifest meets there is an argument.
-/

namespace NplgMcp.Pdf

/-- `PdfProcessorSettings`, with the checks of `__post_init__`. -/
structure PdfProcessorSettings where
  maxPagesPerRender : ℕ := 8
  maxPagePixels : ℕ := 120000000
  maxRenderPixels : ℕ := 480000000
  fallbackDpi : ℕ := 400
  tileWidth : ℕ := 2048
  tileHeight : ℕ := 2048
  tileOverlap : ℕ := 128
  maxTilesPerPage : ℕ := 100
  maxPagesPerRender_mem : 1 ≤ maxPagesPerRender ∧ maxPagesPerRender ≤ 8 := by decide
  maxPagePixels_mem : 1 ≤ maxPagePixels ∧ maxPagePixels ≤ 120000000 := by decide
  maxRenderPixels_mem : 1 ≤ maxRenderPixels ∧ maxRenderPixels ≤ 480000000 := by decide
  fallbackDpi_mem : 72 ≤ fallbackDpi ∧ fallbackDpi ≤ 1200 := by decide
  tileWidth_mem : isTileDimension tileWidth := by decide
  tileHeight_mem : isTileDimension tileHeight := by decide
  tileOverlap_mem : isTileOverlap tileOverlap := by decide
  maxTilesPerPage_mem : 1 ≤ maxTilesPerPage ∧ maxTilesPerPage ≤ hardMaxTilesPerPage := by decide
  tileOverlap_lt : tileOverlap < tileWidth ∧ tileOverlap < tileHeight := by decide

/-- `PdfProcessorSettings()`. -/
def PdfProcessorSettings.standard : PdfProcessorSettings := {}

/-- What the parent's code raises. -/
inductive WorkerError where
  /-- `PdfWorkerError`. -/
  | rejected (message : String)
  /-- `PdfWorkerOperationalError`, which is a `PdfWorkerError` too. -/
  | operational (message : String)
  | zeroDivision
  /-- pydantic's `ValidationError`. -/
  | validation
  | osError
  deriving DecidableEq, Repr

/-- The exceptions that are a `PdfWorkerError`. -/
def WorkerError.isPdfWorkerError : WorkerError → Bool
  | .rejected _ | .operational _ => true
  | .zeroDivision | .validation | .osError => false

/-! ## Identities -/

/-- A character of a JSON string of printable ASCII. -/
def jsonChar (c : Char) : List Char := if c == '"' || c == '\\' then ['\\', c] else [c]

/-- Decimal numbers with commas between them. -/
def jsonNumbers (values : List ℕ) : String := String.intercalate "," (values.map Nat.repr)

/-- Whether `RenderIdentityRequest` takes the renderer version: printable ASCII without spaces. -/
def isRendererVersion (value : String) : Bool :=
  1 ≤ value.toList.length && value.toList.length ≤ 256 &&
    value.toList.all fun c => 0x21 ≤ c.toNat && c.toNat ≤ 0x7E

/-- The canonical JSON of a `RenderIdentityRequest`. -/
def renderKey (sourceSha256 : String) (pages : List ℕ) (rendererVersion : String)
    (fallbackDpi : ℕ) : String :=
  "\x7b\"classification_algorithm_version\":\"1.0.0\",\"fallback_dpi\":" ++ fallbackDpi.repr ++
    ",\"manifest_schema_version\":\"1.0.0\",\"mode\":\"native\",\"pages\":[" ++ jsonNumbers pages ++
    "],\"render_pipeline_version\":\"1.0.0\",\"renderer_version\":\"" ++
    String.ofList (rendererVersion.toList.flatMap jsonChar) ++ "\",\"source_sha256\":\"" ++
    sourceSha256 ++ "\",\"tile_pipeline_version\":\"1.0.0\"\x7d"

/-- `render_identifier`; `sha256` gives the hexadecimal digest. -/
def renderIdentifier (sha256 : Bytes → String) (sourceSha256 : String) (pages : List ℕ)
    (rendererVersion : String) (fallbackDpi : ℕ) : Except WorkerError String :=
  if isRendererVersion rendererVersion then
    .ok ("rnd_" ++ String.ofList
      ((sha256 (encodeUtf8 (renderKey sourceSha256 pages rendererVersion fallbackDpi))).toList.take
        32))
  else .error .validation

/-- A number with leading zeros. -/
def padded (width value : ℕ) : String :=
  String.ofList (List.replicate (width - value.repr.toList.length) '0') ++ value.repr

/-- `tile_geometry_identifier`, whose request takes dimensions from 1 to 65,535. -/
def tileGeometryIdentifier (width height overlap : ℕ) : Except WorkerError String :=
  if (1 ≤ width ∧ width ≤ 65535) ∧ (1 ≤ height ∧ height ≤ 65535) ∧ overlap ≤ 65535 then
    .ok ("tpv1-0-0-w" ++ padded 4 width ++ "-h" ++ padded 4 height ++ "-o" ++ padded 3 overlap)
  else .error .validation

/-- The identifier of a tile. -/
def tileIdentifier (pageNumber : ℕ) (geometry : String) (x y : ℕ) : String :=
  "p" ++ padded 4 pageNumber ++ "_" ++ geometry ++ "_x" ++ padded 6 x ++ "_y" ++ padded 6 y

/-! ## The staged manifest -/

/-- What reading the staged manifest of a render meets. -/
inductive StagedFile where
  /-- The job's cache directory cannot be opened, or a read of the file fails. -/
  | osError
  /-- A part of the path cannot be opened without following a link. -/
  | invalidPath
  | notRegular
  /-- The deadline passes while the file is read. -/
  | expired
  | content (data : Bytes)

/-- `MAX_RESULT_FRAME_BYTES`. -/
def maxResultFrameBytes : ℕ := 4194304

section
variable (readManifest : Bytes → Option RenderPagesOutput) (sha256 : Bytes → String)
  (settings : PdfProcessorSettings)

/-- The loop of `_validate_render_pixel_budget`. -/
def checkPixels : ℕ → List RenderedPageOutput → Except WorkerError Unit
  | _, [] => .ok ()
  | total, page :: rest =>
    if page.width * page.height > settings.maxPagePixels then
      .error (.rejected "PDF worker response exceeded the page pixel limit")
    else if total + page.width * page.height > settings.maxRenderPixels then
      .error (.rejected "PDF worker response exceeded the aggregate pixel limit")
    else checkPixels (total + page.width * page.height) rest

/-- `_validate_render_pixel_budget`. -/
def validateRenderPixelBudget (rendered : RenderPagesOutput) : Except WorkerError Unit :=
  if rendered.pages.length > settings.maxPagesPerRender then
    .error (.rejected "PDF worker response exceeded the page-count limit")
  else checkPixels settings 0 rendered.pages

/-- `_load_staged_render_manifest`. -/
def loadStagedRenderManifest (staged : StagedFile) (renderId : String) :
    Except WorkerError RenderPagesOutput :=
  match staged with
  | .osError => .error .osError
  | .invalidPath => .error (.rejected "PDF worker output path is invalid")
  | .notRegular => .error (.rejected "PDF worker output is not a regular file")
  | .expired => .error (.operational "PDF worker deadline expired during tile source validation")
  | .content data =>
    if data.length > maxResultFrameBytes then
      .error (.rejected "PDF worker source manifest exceeded its limit")
    else
      match readManifest data with
      | none => .error (.rejected "PDF worker source manifest is invalid")
      | some manifest =>
        if manifest.renderId ≠ renderId ∨
            manifest.manifestRelativePath ≠ "renders/" ++ renderId ++ "/manifest.json" then
          .error (.rejected "PDF worker source manifest identity mismatch")
        else (validateRenderPixelBudget settings manifest).map fun _ => manifest

/-! ## The tiles -/

/-- The dimensions a command is tiled with: its own, or those of the settings. -/
def expectedWidth (parameters : RenderTilesParams) : ℕ :=
  parameters.tileWidth.getD settings.tileWidth

/-- The height a command is tiled with. -/
def expectedHeight (parameters : RenderTilesParams) : ℕ :=
  parameters.tileHeight.getD settings.tileHeight

/-- The overlap a command is tiled with. -/
def expectedOverlap (parameters : RenderTilesParams) : ℕ :=
  parameters.overlap.getD settings.tileOverlap

/-- The geometry a command is tiled with. -/
def effectiveGeometry (parameters : RenderTilesParams) : TileGeometry where
  tileWidth := expectedWidth settings parameters
  tileHeight := expectedHeight settings parameters
  overlap := expectedOverlap settings parameters

/-- `//`: a division by zero raises. -/
def floorDiv (a b : ℤ) : Except WorkerError ℤ :=
  if b = 0 then .error .zeroDivision else .ok (a.fdiv b)

/-- The box of a reported tile. -/
def RenderedTileOutput.box (tile : RenderedTileOutput) : TileBox where
  x := tile.x
  y := tile.y
  width := tile.width
  height := tile.height

/-- The checks of the tiles against the page they are cut from. -/
def validateTiles (parameters : RenderTilesParams) (rendered : RenderTilesOutput)
    (page : RenderedPageOutput) : Except WorkerError Unit := do
  let geometry := effectiveGeometry settings parameters
  let columns ← floorDiv (page.width - 1) geometry.strideX
  let rows ← floorDiv (page.height - 1) geometry.strideY
  if (columns + 1) * (rows + 1) > settings.maxTilesPerPage then
    throw (.rejected "PDF worker response exceeded the tile-count limit")
  if rendered.tiles.map (·.box) ≠ boxesOf page.width page.height geometry then
    throw (.rejected "PDF worker response tile metadata mismatch")
  let identifier ← tileGeometryIdentifier (expectedWidth settings parameters)
    (expectedHeight settings parameters) (expectedOverlap settings parameters)
  if rendered.tiles.any fun tile =>
      tile.tileId != tileIdentifier parameters.pageNumber identifier tile.x tile.y ||
        tile.pageNumber != parameters.pageNumber || tile.fullPageWidth != page.width ||
        tile.fullPageHeight != page.height ||
        tile.overlap != expectedOverlap settings parameters then
    throw (.rejected "PDF worker response tile metadata mismatch")

/-- The checks of a report against the staged manifest. -/
def validateAgainstManifest (parameters : RenderTilesParams) (rendered : RenderTilesOutput)
    (manifest : RenderPagesOutput) : Except WorkerError Unit :=
  match manifest.pages.find? (·.pageNumber == parameters.pageNumber) with
  | none => .error (.rejected "PDF worker response source page mismatch")
  | some page =>
    if rendered.pageSha256 ≠ page.sha256 then
      .error (.rejected "PDF worker response source page mismatch")
    else validateTiles settings parameters rendered page

/-- `_validate_tile_result_binding`. -/
def validateTileResultBinding (parameters : RenderTilesParams) (rendered : RenderTilesOutput)
    (staged : StagedFile) : Except WorkerError Unit :=
  if rendered.pageNumber ≠ parameters.pageNumber then
    .error (.rejected "PDF worker response page selection mismatch")
  else if (rendered.tileWidth, rendered.tileHeight, rendered.overlap) ≠
      (expectedWidth settings parameters, expectedHeight settings parameters,
        expectedOverlap settings parameters) then
    .error (.rejected "PDF worker response tile geometry mismatch")
  else do
    let manifest ← loadStagedRenderManifest readManifest settings staged parameters.renderId
    validateAgainstManifest settings parameters rendered manifest

/-! ## The result of a command -/

/-- The source digest a payload reports. -/
def PdfPayload.sourceSha256 : PdfPayload → Option String
  | .inspect value => some value.sourceSha256
  | .renderPages value => some value.sourceSha256
  | .renderTiles _ | .manifest _ => none

/-- `_validate_result_pixel_budget`. -/
def validateResultPixelBudget : PdfPayload → Except WorkerError Unit
  | .renderPages value | .manifest value => validateRenderPixelBudget settings value
  | .inspect _ | .renderTiles _ => .ok ()

/-- The part of `_validate_result_binding` for the payload of a command of the same operation. -/
def validatePayloadBinding (command : PdfCommand) (payload : PdfPayload)
    (expectedSourceSha256 : Option String) (staged : StagedFile) : Except WorkerError Unit :=
  match command, payload with
  | .renderPages _ _ parameters _, .renderPages rendered =>
    if rendered.pages.map (·.pageNumber) ≠ parameters.pages then
      .error (.rejected "PDF worker response page selection mismatch")
    else
      match expectedSourceSha256 with
      | none => .error (.rejected "PDF worker response source identity is unavailable")
      | some sourceSha256 => do
        let expected ← renderIdentifier sha256 sourceSha256 parameters.pages
          rendered.rendererVersion settings.fallbackDpi
        if rendered.renderId ≠ expected then
          throw (.rejected "PDF worker response render ID mismatch")
  | .renderTiles _ parameters, .renderTiles rendered =>
    if rendered.renderId ≠ parameters.renderId then
      .error (.rejected "PDF worker response render ID mismatch")
    else validateTileResultBinding readManifest settings parameters rendered staged
  | .manifest _ renderId _, .manifest rendered =>
    if rendered.renderId ≠ renderId then
      .error (.rejected "PDF worker response render ID mismatch")
    else .ok ()
  | _, _ => .ok ()

/-- `_validate_result_binding`. -/
def validateResultBinding (command : PdfCommand) (result : PdfResult)
    (expectedSourceSha256 : Option String) (staged : StagedFile) : Except WorkerError Unit :=
  if result.requestId ≠ command.requestId then
    .error (.rejected "PDF worker response request ID mismatch")
  else if result.operation ≠ command.operation then
    .error (.rejected "PDF worker response operation mismatch")
  else
    match result with
    | .failure .. => .ok ()
    | .success _ payload => do
      validateResultPixelBudget settings payload
      if expectedSourceSha256.any fun expected => payload.sourceSha256.any (· != expected) then
        throw (.rejected "PDF worker response source digest mismatch")
      validatePayloadBinding readManifest sha256 settings command payload expectedSourceSha256
        staged

end

end NplgMcp.Pdf
