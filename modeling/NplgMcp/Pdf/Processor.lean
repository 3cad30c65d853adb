import NplgMcp.Pdf.Identity
import NplgMcp.Pdf.Manifest

/-!
# Rendering pages and tiles

`PdfProcessor` of `pdf.py`: what a render request and a tile request write, and when they are served
from what an earlier request wrote. What pdfium and Pillow make of pages and images and the
arithmetic of floats are those of a platform. The render transaction is what it writes: the
paths and contents that are staged and committed, in order.
-/

open Library Library.JsonText

namespace NplgMcp.Pdf

/-! ## The platform -/

/-- `PageInspection`, as far as rendering reads it. -/
structure PageInspection where
  widthPoints : ℚ
  heightPoints : ℚ
  rotation : ℤ
  classification : String
  dominantImageIndex : Option ℕ
  nativeWidth : Option ℕ
  nativeHeight : Option ℕ
  effectiveDpiX : Option ℚ
  effectiveDpiY : Option ℚ
  directJpegEligible : Bool
  nativeRasterExtractEligible : Bool

/-- `_RenderGrid`. -/
structure RenderGrid where
  width : ℤ
  height : ℤ
  dpiX : ℚ
  dpiY : ℚ
  resolutionSource : String

/-- `_EncodedPage`. -/
structure EncodedPage where
  data : Bytes
  conversionPath : String
  rendererResampling : String
  reencoded : Bool
  lossy : Bool

/-- What pages and images are made with, the versions of it, and the floats. A digest is one of
SHA-256 in hexadecimal, and a rounded float is read back from its JSON text. -/
structure PdfPlatform (Page Image : Type) where
  json : Codec
  sha256 : Bytes → String
  rendererVersion : String
  /-- `float` of an integer -/
  floatOfInt : ℤ → Option ℚ
  /-- `round(value, 6)` -/
  roundDpi : ℚ → ℚ
  /-- `round(points * dpi / 72.0)` -/
  gridPixels : ℚ → ℕ → ℤ
  /-- `pixels * 72.0 / points` -/
  gridDpi : ℕ → ℚ → Except PdfError ℚ
  /-- `_inspect_page` -/
  inspectPage : Page → ℤ → Except PdfError PageInspection
  /-- `_raw_jpeg_bytes` -/
  rawJpegBytes : Page → ℕ → Except PdfError Bytes
  /-- `_visually_equivalent` -/
  visuallyEquivalent : Bytes → Page → ℤ → ℤ → Except PdfError Bool
  /-- `_page_image` -/
  pageImage : Page → ℤ → ℤ → Except PdfError Image
  /-- `_native_image` -/
  nativeImage : Page → ℕ → Except PdfError Image
  /-- `_images_visually_equivalent` -/
  imagesVisuallyEquivalent : Image → Image → Except PdfError Bool
  /-- `_jpeg_bytes` -/
  jpegBytes : Image → ℚ → ℚ → Except PdfError Bytes
  /-- `Image.open` and `load` -/
  openImage : Bytes → Except PdfError Image
  size : Image → ℤ × ℤ
  crop : Image → TileBox → Image
  sha256_valid : ∀ data, isSha256 (sha256 data) = true
  roundDpi_reads : ∀ value, json.Reads (roundDpi value)

/-- `PdfProcessor`, with the checks of its constructor. -/
structure PdfProcessor where
  maxPagesPerRender : ℕ
  maxPagePixels : ℤ
  maxRenderPixels : ℤ
  fallbackDpi : ℕ
  tiling : TileGeometry
  maxTilesPerPage : ℤ
  maxDocumentPages : ℤ
  maxPagesPerRender_mem : 1 ≤ maxPagesPerRender ∧ maxPagesPerRender ≤ 64
  pixels_pos : 0 < maxPagePixels ∧ 0 < maxRenderPixels
  fallbackDpi_mem : 72 ≤ fallbackDpi ∧ fallbackDpi ≤ 1200
  maxTilesPerPage_pos : 0 < maxTilesPerPage
  tiling_valid : tiling.Valid

/-! ## The store -/

/-- What `resolve_asset` and a read of its file find at a path. -/
inductive AssetFile where
  | refused (error : AppError)
  | unreadable
  | content (data : Bytes)

/-- The files of the store at their relative paths. -/
abbrev Assets := String → AssetFile

/-- A file that is resolved and read. -/
def AssetFile.read : AssetFile → Except PdfError Bytes
  | .refused error => .error (.app error)
  | .unreadable => .error .osError
  | .content data => .ok data

/-- A staged file with the path that it is committed at. -/
abbrev Written := String × Bytes

/-- The store once files are written, the newest last. -/
def Assets.after (assets : Assets) (written : List Written) : Assets := fun path =>
  match written.reverse.lookup path with
  | some data => .content data
  | none => assets path

/-- An internal error. -/
def internalError (message : String) : AppError where
  code := .internalError
  message := message
  httpStatus := 500

/-- A failure of the processor. -/
def processingFailed (message : String) : AppError where
  code := .pdfProcessingFailed
  message := message
  httpStatus := 422

/-- `if condition: raise error`. -/
def raiseIf (condition : Prop) [Decidable condition] (error : PdfError) : Except PdfError Unit :=
  if condition then .error error else .ok ()

/-- The `parts` of a `PurePosixPath`. -/
def pureParts (relativeName : String) : List (List Char) :=
  (relativeName.toList.splitOn '/').filter fun part => part ≠ [] ∧ part ≠ ['.']

/-- `_write_render_asset`, whose render directory has no links: the path and the contents that are
committed. -/
def writeRenderAsset (renderId relativeName : String) (data : Bytes) : Except PdfError Written :=
  if ¬ isRenderId renderId then
    .error (.app { code := .invalidInput, message := "Render identifier is invalid." })
  else if relativeName.toList.head? = some '/' ∨ (pureParts relativeName).contains ['.', '.'] ∨
      '\\' ∈ relativeName.toList then
    .error (.app { code := .invalidInput, message := "Render asset name is invalid." })
  else .ok ("renders/" ++ renderId ++ "/" ++
    String.ofList (['/'].intercalate (pureParts relativeName)), data)

/-- The path of the manifest of a render. -/
def renderManifestPath (renderId : String) : String := "renders/" ++ renderId ++ "/manifest.json"

/-- The path of a page of a render. -/
def pagePath (renderId : String) (pageNumber : ℤ) : String :=
  "renders/" ++ renderId ++ "/page-" ++ padded 4 pageNumber.toNat ++ ".jpg"

section
variable {Page Image : Type} (p : PdfPlatform Page Image)

/-! ## Reading a render -/

/-- A string of code points is a digest in hexadecimal. -/
def isSha256Points (value : List CodePoint) : Bool := (stringOf value).any isSha256

/-- The page that `_validate_manifest_assets` looks at is not like the code writes them. -/
def pageIsInvalid (renderId : String) (seenPages : List ℤ)
    (page : RenderedPage (List CodePoint)) : Bool :=
  page.pageNumber < 1 ∨ page.pageNumber ∈ seenPages ∨ page.width < 1 ∨ page.height < 1 ∨
    page.relativePath ≠ pointsOf (pagePath renderId page.pageNumber) ∨
    page.mediaType ≠ pointsOf "image/jpeg" ∨ ¬ isSha256Points page.sha256

/-- The loop of `_validate_manifest_assets`. -/
def validatePages (assets : Assets) (renderId : String) :
    List ℤ → List (RenderedPage (List CodePoint)) → Except PdfError Unit
  | _, [] => .ok ()
  | seenPages, page :: pages => do
    raiseIf (pageIsInvalid renderId seenPages page)
      (.app (internalError "The cached render manifest is invalid."))
    let data ← (assets (pagePath renderId page.pageNumber)).read
    raiseIf (pointsOf (p.sha256 data) ≠ page.sha256)
      (.app (internalError "A cached render asset failed integrity validation."))
    validatePages assets renderId (page.pageNumber :: seenPages) pages

/-- The versions of a manifest are the ones that are written now. -/
def versionsMatch (schema render classification tile : List CodePoint) : Bool :=
  schema = pointsOf pdfPipelineVersions.manifestSchemaVersion ∧
    render = pointsOf pdfPipelineVersions.renderPipelineVersion ∧
    classification = pointsOf pdfPipelineVersions.classificationAlgorithmVersion ∧
    tile = pointsOf pdfPipelineVersions.tilePipelineVersion

/-- The exceptions that `_validate_manifest_assets` and `_read_tile_manifest` replace while they look
at the files. -/
def PdfError.isAssetFailure (error : PdfError) : Bool :=
  error = .osError || error.isTypeError || error.isValueError

/-- `_validate_manifest_assets` of a manifest of this render. -/
def validateManifestAssets (assets : Assets) (renderId : String)
    (manifest : RenderManifest (List CodePoint)) : Except PdfError Unit :=
  if ¬ isSha256Points manifest.sourceSha256 ∨
      manifest.rendererVersion ≠ pointsOf p.rendererVersion ∨ manifest.mode ≠ pointsOf "native" ∨
      manifest.pages = [] ∨
      ¬ versionsMatch manifest.manifestSchemaVersion manifest.renderPipelineVersion
        manifest.classificationAlgorithmVersion manifest.tilePipelineVersion then
    .error (.app (internalError "The cached render manifest is invalid."))
  else rescue PdfError.isAssetFailure (internalError "The cached render manifest is invalid.")
    (validatePages p assets renderId [] manifest.pages)

/-- `_manifest_from_dict`. -/
def manifestFromDict (payload : List (List CodePoint × PointTree)) :
    Except PdfError (RenderManifest (List CodePoint)) :=
  rescue (fun error => error.isKeyError || error.isTypeError || error.isValueError)
    (internalError "The cached render manifest is invalid.")
    (readRenderManifest p.floatOfInt (.obj payload))

/-- `get_manifest`. -/
def getManifest (assets : Assets) (renderId : String) :
    Except PdfError (RenderManifest (List CodePoint)) := do
  raiseIf (¬ isRenderId renderId)
    (.app { code := .invalidInput, message := "Render identifier is invalid." })
  let payload ← rescue
    (fun error => error = .osError || error = .unicodeError || error = .jsonDecodeError)
    (internalError "The cached render manifest could not be read.")
    (do readRoot p.json (← (assets (renderManifestPath renderId)).read) "render manifest root")
  let manifest ← manifestFromDict p payload
  raiseIf (manifest.renderId ≠ pointsOf renderId ∨
      manifest.manifestRelativePath ≠ pointsOf (renderManifestPath renderId))
    (.app (internalError "The cached render manifest is not bound to its render identifier."))
  validateManifestAssets p assets renderId manifest
  return manifest

/-! ## Rendering pages -/

/-- `except AppError`, with a value in its place. -/
def catchAppError {α : Type} (default : α) : Except PdfError α → Except PdfError α
  | .error (.app _) => .ok default
  | outcome => outcome

/-- `_encoded_grid_render` of an image that is made for the grid. -/
def encodedGridRender (grid : RenderGrid) (conversionPath : String) (image : Image) :
    Except PdfError EncodedPage := do
  let data ← p.jpegBytes image grid.dpiX grid.dpiY
  return { data := data, conversionPath := conversionPath, rendererResampling := "possible",
           reencoded := true, lossy := true }

/-- `_encode_page`. -/
def encodePage (page : Page) (inspection : PageInspection) (grid : RenderGrid) :
    Except PdfError EncodedPage := do
  match inspection.directJpegEligible, inspection.nativeRasterExtractEligible,
      inspection.dominantImageIndex with
  | true, _, some imageIndex =>
    let extracted ← catchAppError [] (p.rawJpegBytes page imageIndex)
    let equivalent ← if extracted = [] then pure false
      else p.visuallyEquivalent extracted page grid.width grid.height
    if equivalent then
      return { data := extracted, conversionPath := "direct_extract", rendererResampling := "none",
               reencoded := false, lossy := false }
    else
      let rendered ← p.pageImage page grid.width grid.height
      encodedGridRender p grid "native_grid_render" rendered
  | _, true, some imageIndex =>
    let rendered ← p.pageImage page grid.width grid.height
    match ← catchAppError none ((p.nativeImage page imageIndex).map some) with
    | none => encodedGridRender p grid "native_grid_render" rendered
    | some decoded =>
      let equivalent ← if p.size decoded ≠ (grid.width, grid.height) then pure false
        else p.imagesVisuallyEquivalent decoded rendered
      if equivalent then
        let data ← p.jpegBytes decoded grid.dpiX grid.dpiY
        return { data := data, conversionPath := "native_raster_reencode",
                 rendererResampling := "none", reencoded := true, lossy := true }
      else encodedGridRender p grid "native_grid_render" rendered
  | _, _, _ =>
    let conversionPath := if grid.resolutionSource = "fallback_400_dpi" then "fallback_400dpi"
      else "native_grid_render"
    encodedGridRender p grid conversionPath (← p.pageImage page grid.width grid.height)

/-- `effective or pixels * 72.0 / points`. -/
def effectiveOr (effective : Option ℚ) (pixels : ℕ) (points : ℚ) : Except PdfError ℚ :=
  match effective with
  | some value => if value ≠ 0 then .ok value else p.gridDpi pixels points
  | none => p.gridDpi pixels points

namespace PdfProcessor

variable (processor : PdfProcessor)

/-- The classes of pages with a native pixel grid. -/
def gridClasses : List String := ["single_raster_jpeg", "single_raster_other", "raster_with_overlay"]

/-- `_target_grid`. -/
def targetGrid (inspection : PageInspection) : Except PdfError RenderGrid :=
  match inspection.nativeWidth, inspection.nativeHeight with
  | some (width + 1), some (height + 1) =>
    if inspection.classification ∈ gridClasses then do
      let dpiX ← effectiveOr p inspection.effectiveDpiX (width + 1) inspection.widthPoints
      let dpiY ← effectiveOr p inspection.effectiveDpiY (height + 1) inspection.heightPoints
      return { width := (width + 1 : ℕ), height := (height + 1 : ℕ), dpiX := dpiX, dpiY := dpiY,
               resolutionSource := "embedded_scan" }
    else .ok (fallbackGrid inspection)
  | _, _ => .ok (fallbackGrid inspection)
where
  /-- The grid of the fallback resolution. -/
  fallbackGrid (inspection : PageInspection) : RenderGrid :=
    { width := max 1 (p.gridPixels inspection.widthPoints processor.fallbackDpi)
      height := max 1 (p.gridPixels inspection.heightPoints processor.fallbackDpi)
      dpiX := processor.fallbackDpi
      dpiY := processor.fallbackDpi
      resolutionSource := "fallback_400_dpi" }

/-- The loop of `_render_grids`. -/
def gridsOf (inspections : List PageInspection) : Except PdfError (List RenderGrid) :=
  inspections.mapM fun inspection => do
    let grid ← processor.targetGrid p inspection
    raiseIf (grid.width * grid.height > processor.maxPagePixels)
      (.app (processingFailed "A rendered page would exceed the configured pixel limit."))
    return grid

/-- `_render_grids`. -/
def renderGrids (inspections : List PageInspection) : Except PdfError (List RenderGrid) := do
  let grids ← processor.gridsOf p inspections
  raiseIf ((grids.map fun grid => grid.width * grid.height).sum > processor.maxRenderPixels)
    (.app (processingFailed "The render request would exceed the configured total pixel limit."))
  return grids

/-- `_validated_page_count`. -/
def validatedPageCount (document : List Page) : Except PdfError ℕ :=
  if (document.length : ℤ) > processor.maxDocumentPages then
    .error (.app (processingFailed "The PDF exceeds the maximum supported page count."))
  else .ok document.length

/-- `_validate_page_selection`. -/
def validatePageSelection (pages : List ℤ) (pageCount : ℕ) : Except PdfError (List ℤ) :=
  if pages = [] ∨ pages.length > processor.maxPagesPerRender then
    .error (.app { code := .invalidInput, message := "Select between 1 and " ++
      processor.maxPagesPerRender.repr ++ " pages per render request." })
  else if ¬ pages.Nodup then
    .error (.app { code := .invalidInput, message := "Page selection must not contain duplicates." })
  else if ∃ page ∈ pages, page < 1 ∨ page > pageCount then
    .error (.app { code := .invalidInput
                   message := "Page numbers are one-based and must exist in the PDF." })
  else .ok pages

/-- `_render_id` in native mode: what `RenderIdentityRequest` does not take is a `ValueError`. -/
def renderId (sourceSha256 : String) (pages : List ℤ) : Except PdfError String :=
  if h : isSha256 sourceSha256 = true ∧ (∀ page ∈ pages.map Int.toNat, 1 ≤ page ∧ page ≤ 100000) ∧
      (1 ≤ (pages.map Int.toNat).length ∧ (pages.map Int.toNat).length ≤ 64) ∧
      isRendererVersion p.rendererVersion = true then
    let request : RenderIdentityRequest :=
      { sourceSha256 := sourceSha256
        pages := pages.map Int.toNat
        rendererVersion := p.rendererVersion
        fallbackDpi := processor.fallbackDpi
        sourceSha256_valid := h.1
        pages_mem := h.2.1
        pages_length := h.2.2.1
        rendererVersion_valid := h.2.2.2
        fallbackDpi_mem := processor.fallbackDpi_mem }
    .ok (request.identifier p.sha256)
  else .error .valueError

end PdfProcessor

/-- `document[page_number - 1]`. -/
def documentPage (document : List Page) (pageNumber : ℤ) : Except PdfError Page :=
  match document[pageNumber.toNat - 1]? with
  | none => .error .library
  | some page => .ok page

/-- `_inspect_selected_pages`. -/
def inspectSelectedPages (document : List Page) (selected : List ℤ) :
    Except PdfError (List PageInspection) :=
  selected.mapM fun pageNumber => do
    let page ← documentPage document pageNumber
    p.inspectPage page pageNumber

/-- `_render_page`: the record of a page, and the file that is written of it. -/
def renderPage (document : List Page) (renderId : String) (pageNumber : ℤ)
    (inspection : PageInspection) (grid : RenderGrid) :
    Except PdfError (RenderedPage String × Written) := do
  let page ← documentPage document pageNumber
  let encoded ← encodePage p page inspection grid
  let written ← writeRenderAsset renderId ("page-" ++ padded 4 pageNumber.toNat ++ ".jpg")
    encoded.data
  return ({
    pageNumber := pageNumber
    width := grid.width
    height := grid.height
    rotation := inspection.rotation
    classification := inspection.classification
    effectiveDpiX := p.roundDpi grid.dpiX
    effectiveDpiY := p.roundDpi grid.dpiY
    resolutionSource := grid.resolutionSource
    conversionPath := encoded.conversionPath
    relativePath := written.1
    sha256 := p.sha256 written.2
    mediaType := "image/jpeg"
    resizeApplied := false
    pixelDimensionsPreserved := grid.resolutionSource = "embedded_scan"
    rendererResampling := encoded.rendererResampling
    reencoded := encoded.reencoded
    lossyConversion := encoded.lossy }, written)

/-- The loop of `render_pages` over the selected pages. -/
def renderSelected (document : List Page) (renderId : String) :
    List ℤ → List PageInspection → List RenderGrid →
      Except PdfError (List (RenderedPage String × Written))
  | pageNumber :: selected, inspection :: inspections, grid :: grids => do
    let rendered ← renderPage p document renderId pageNumber inspection grid
    let more ← renderSelected document renderId selected inspections grids
    return rendered :: more
  | _, _, _ => .ok []

/-- The manifest of rendered pages. -/
def renderManifestOf (renderId sourceSha256 : String) (pages : List (RenderedPage String)) :
    RenderManifest String where
  renderId := renderId
  sourceSha256 := sourceSha256
  rendererVersion := p.rendererVersion
  mode := "native"
  pages := pages
  manifestRelativePath := renderManifestPath renderId
  manifestSchemaVersion := pdfPipelineVersions.manifestSchemaVersion
  renderPipelineVersion := pdfPipelineVersions.renderPipelineVersion
  classificationAlgorithmVersion := pdfPipelineVersions.classificationAlgorithmVersion
  tilePipelineVersion := pdfPipelineVersions.tilePipelineVersion

/-- `_write_render_manifest`: the manifest, and the file that is written of it. -/
def writeRenderManifest (renderId sourceSha256 : String) (pages : List (RenderedPage String)) :
    Except PdfError (RenderManifest String × Written) := do
  let manifest := renderManifestOf p renderId sourceSha256 pages
  let payload ← manifestPayload p.json manifest.members
  let written ← writeRenderAsset renderId "manifest.json" payload
  raiseIf (written.1 ≠ renderManifestPath renderId)
    (.app (internalError "Render manifest path mismatch."))
  return (manifest, written)

/-- `_cached_render_matches`; the mode is native. -/
def cachedRenderMatches (manifest : RenderManifest (List CodePoint)) (sourceSha256 : String)
    (selected : List ℤ) : Bool :=
  manifest.sourceSha256 = pointsOf sourceSha256 ∧ manifest.mode = pointsOf "native" ∧
    manifest.pages.map (·.pageNumber) = selected

/-- What a request gives: the manifest, and the files that it writes. -/
structure Publication (α : Type) where
  manifest : α
  written : List Written

/-- The exceptions that `render_pages` replaces. -/
def PdfError.isRenderFailure (error : PdfError) : Bool :=
  error = .library || error = .osError || error.isTypeError || error.isValueError

namespace PdfProcessor

variable (processor : PdfProcessor)

/-- The rendering of the selected pages, once there is no manifest to take. -/
def renderFresh (document : List Page) (renderId sourceSha256 : String) (selected : List ℤ) :
    Except PdfError (Publication (RenderManifest (List CodePoint))) := do
  let inspections ← inspectSelectedPages p document selected
  let grids ← processor.renderGrids p inspections
  let rendered ← renderSelected p document renderId selected inspections grids
  let (manifest, written) ← writeRenderManifest p renderId sourceSha256 (rendered.map Prod.fst)
  return ⟨manifest.map pointsOf, rendered.map Prod.snd ++ [written]⟩

/-- `render_pages` once the document is open and its digest is known; `complete` says that the
transaction finds a manifest of the render in the store. -/
def renderOpened (assets : Assets) (complete : String → Bool) (document : List Page)
    (sourceSha256 : String) (pages : List ℤ) :
    Except PdfError (Publication (RenderManifest (List CodePoint))) := do
  let pageCount ← processor.validatedPageCount document
  let selected ← processor.validatePageSelection pages pageCount
  let renderId ← processor.renderId p sourceSha256 selected
  if complete ("renders/" ++ renderId) then
    match getManifest p assets renderId with
    | .error (.app _) => processor.renderFresh p document renderId sourceSha256 selected
    | .error error => throw error
    | .ok cached =>
      if cachedRenderMatches cached sourceSha256 selected then return ⟨cached, []⟩
      else processor.renderFresh p document renderId sourceSha256 selected
  else processor.renderFresh p document renderId sourceSha256 selected

/-- `render_pages`; a source that is no file has no digest, and the mode is only looked at. -/
def renderPages (assets : Assets) (complete : String → Bool) (source : Option Bytes)
    (opened : Except PdfError (List Page)) (pages : List ℤ) (mode : String) :
    Except PdfError (Publication (RenderManifest (List CodePoint))) :=
  if mode ≠ "native" then
    .error (.app { code := .invalidInput
                   message := "Only native rendering mode is supported in the MVP." })
  else do
    let document ← opened
    rescue PdfError.isRenderFailure (processingFailed "The PDF renderer failed safely.")
      (processor.renderOpened p assets complete document (source.elim "" p.sha256) pages)

end PdfProcessor

/-! ## Tiles -/

/-- `_TileManifestRequest`; its path and its root are those of the geometry. -/
structure TileManifestRequest where
  renderId : String
  pageNumber : ℤ
  geometry : TileGeometryRequest
  page : RenderedPage (List CodePoint)
  boxes : List TileBox

namespace TileManifestRequest

variable (request : TileManifestRequest)

/-- The page of the tiles in their names. -/
def number : ℕ := request.pageNumber.toNat

/-- `relative_path`. -/
def relativePath : String := tileManifestPath request.renderId request.number request.geometry

/-- The `expected_id` of a box. -/
def tileId (box : TileBox) : String :=
  NplgMcp.Pdf.tileId request.number request.geometry box.x.toNat box.y.toNat

/-- The `expected_path` of a box. -/
def tilePath (box : TileBox) : String :=
  NplgMcp.Pdf.tilePath request.renderId request.number request.geometry box.x.toNat box.y.toNat

/-- The tile that `_read_tile_manifest` looks at is not the one of the box. -/
def tileIsInvalid (tile : RenderedTile (List CodePoint)) (box : TileBox) : Bool :=
  tile.tileId ≠ pointsOf (request.tileId box) ∨ tile.pageNumber ≠ request.pageNumber ∨
    (tile.x, tile.y, tile.width, tile.height) ≠ (box.x, box.y, box.width, box.height) ∨
    (tile.fullPageWidth, tile.fullPageHeight) ≠ (request.page.width, request.page.height) ∨
    tile.overlap ≠ request.geometry.overlap ∨
    tile.relativePath ≠ pointsOf (request.tilePath box) ∨ tile.mediaType ≠ pointsOf "image/jpeg" ∨
    ¬ isSha256Points tile.sha256

/-- The manifest that `_read_tile_manifest` has read is not the one of the request. -/
def isUnbound (manifest : TileManifest (List CodePoint)) : Bool :=
  manifest.renderId ≠ pointsOf request.renderId ∨ manifest.pageNumber ≠ request.pageNumber ∨
    manifest.tileWidth ≠ request.geometry.width ∨ manifest.tileHeight ≠ request.geometry.height ∨
    manifest.overlap ≠ request.geometry.overlap ∨
    manifest.manifestRelativePath ≠ pointsOf request.relativePath ∨
    manifest.pageSha256 ≠ request.page.sha256 ∨ manifest.tiles.length ≠ request.boxes.length ∨
    ¬ versionsMatch manifest.manifestSchemaVersion manifest.renderPipelineVersion
      manifest.classificationAlgorithmVersion manifest.tilePipelineVersion

/-- The loop of `_read_tile_manifest`; `zip` finds as many tiles as boxes. -/
def validateTiles (assets : Assets) :
    List (RenderedTile (List CodePoint)) → List TileBox → Except PdfError Unit
  | tile :: tiles, box :: boxes => do
    raiseIf (request.tileIsInvalid tile box)
      (.app (internalError "The cached tile manifest is invalid."))
    let data ← (assets (request.tilePath box)).read
    raiseIf (pointsOf (p.sha256 data) ≠ tile.sha256)
      (.app (internalError "A cached tile failed integrity validation."))
    validateTiles assets tiles boxes
  | _, _ => .ok ()

/-- `_read_tile_manifest`. -/
def readTileManifest (assets : Assets) : Except PdfError (TileManifest (List CodePoint)) := do
  let manifest ← rescue
    (fun error => error = .osError || error.isKeyError || error.isTypeError || error.isValueError)
    (internalError "The cached tile manifest is invalid.")
    (do
      let data ← (assets request.relativePath).read
      tileManifestFromDict (.obj (← readRoot p.json data "tile manifest root")))
  raiseIf (request.isUnbound manifest)
    (.app (internalError "The cached tile manifest is not bound to its request."))
  rescue PdfError.isAssetFailure (internalError "The cached tile manifest is invalid.")
    (request.validateTiles p assets manifest.tiles request.boxes)
  return manifest

/-- `_render_tile` of a crop of the page's image: the record of a tile, and the file that is written
of it. -/
def renderTile (source : Image) (box : TileBox) : Except PdfError (RenderedTile String × Written) := do
  let cropped := p.crop source box
  raiseIf (p.size cropped ≠ (box.width, box.height))
    (.app (internalError "A tile crop did not preserve the requested pixel rectangle."))
  let data ← p.jpegBytes cropped request.page.effectiveDpiX request.page.effectiveDpiY
  let written ← writeRenderAsset request.renderId
    (tileRoot request.number request.geometry ++ "/" ++ request.tileId box ++ ".jpg") data
  return ({
    tileId := request.tileId box
    pageNumber := request.pageNumber
    x := box.x
    y := box.y
    width := box.width
    height := box.height
    fullPageWidth := request.page.width
    fullPageHeight := request.page.height
    overlap := request.geometry.overlap
    relativePath := written.1
    sha256 := p.sha256 written.2
    mediaType := "image/jpeg"
    resizeApplied := false
    pixelDimensionsPreserved := true
    rendererResampling := "none"
    reencoded := true
    lossyConversion := true }, written)

/-- `_crop_tiles` of a page whose file is at its path in the render. -/
def cropTiles (assets : Assets) : Except PdfError (List (RenderedTile String × Written)) := do
  let source ← p.openImage (← (assets (pagePath request.renderId request.pageNumber)).read)
  raiseIf (p.size source ≠ (request.page.width, request.page.height))
    (.app (internalError "The cached page dimensions do not match its manifest."))
  request.boxes.mapM (request.renderTile p source)

/-- The manifest of tiles of a page with this digest. -/
def manifestOf (pageSha256 : String) (tiles : List (RenderedTile String)) : TileManifest String where
  renderId := request.renderId
  pageNumber := request.pageNumber
  pageSha256 := pageSha256
  tileWidth := request.geometry.width
  tileHeight := request.geometry.height
  overlap := request.geometry.overlap
  tiles := tiles
  manifestRelativePath := request.relativePath
  manifestSchemaVersion := pdfPipelineVersions.manifestSchemaVersion
  renderPipelineVersion := pdfPipelineVersions.renderPipelineVersion
  classificationAlgorithmVersion := pdfPipelineVersions.classificationAlgorithmVersion
  tilePipelineVersion := pdfPipelineVersions.tilePipelineVersion

/-- `_write_tile_manifest`: the manifest, and the file that is written of it. A digest that is no
string of characters cannot be encoded. -/
def writeTileManifest (tiles : List (RenderedTile String)) :
    Except PdfError (TileManifest String × Written) :=
  match stringOf request.page.sha256 with
  | none => .error .unicodeError
  | some pageSha256 => do
    let result := request.manifestOf pageSha256 tiles
    let payload ← manifestPayload p.json result.members
    let written ← writeRenderAsset request.renderId
      (tileRoot request.number request.geometry ++ "/manifest.json") payload
    raiseIf (written.1 ≠ request.relativePath) (.app (internalError "Tile manifest path mismatch."))
    return (result, written)

/-- The exceptions that `render_tiles` replaces while it crops: `UnidentifiedImageError` is an
`OSError`. -/
def isTilingFailure (error : PdfError) : Bool := error = .osError || error.isValueError

/-- The tiling of the page, once there is no manifest to take. -/
def renderFresh (assets : Assets) :
    Except PdfError (Publication (TileManifest (List CodePoint))) := do
  let rendered ← rescue isTilingFailure (processingFailed "The rendered page could not be tiled.")
    (request.cropTiles p assets)
  let (manifest, written) ← request.writeTileManifest p (rendered.map Prod.fst)
  return ⟨manifest.map pointsOf, rendered.map Prod.snd ++ [written]⟩

/-- What `render_tiles` does in its transaction. -/
def render (assets : Assets) (complete : String → Bool) :
    Except PdfError (Publication (TileManifest (List CodePoint))) :=
  if complete ("renders/" ++ request.renderId ++ "/" ++ tileRoot request.number request.geometry) then
    match request.readTileManifest p assets with
    | .error (.app _) => request.renderFresh p assets
    | .error error => .error error
    | .ok cached => .ok ⟨cached, []⟩
  else request.renderFresh p assets

end TileManifestRequest

/-- The geometry that `tile_geometry_identifier` takes: one that can be tiled with. -/
def TileGeometry.Valid.request {geometry : TileGeometry} (h : geometry.Valid) : TileGeometryRequest where
  width := geometry.tileWidth.toNat
  height := geometry.tileHeight.toNat
  overlap := geometry.overlap.toNat
  width_mem := by
    have hle : geometry.tileWidth ≤ 4096 := h.tileWidth_le
    have hpos := h.tileWidth_pos
    omega
  height_mem := by
    have hle : geometry.tileHeight ≤ 4096 := h.tileHeight_le
    have hpos := h.tileHeight_pos
    omega
  overlap_le := by
    have hle : geometry.overlap ≤ 512 := h.overlap_le
    omega

instance (geometry : TileGeometry) : Decidable geometry.Valid :=
  decidable_of_iff (0 < geometry.tileWidth ∧ 0 < geometry.tileHeight ∧
    geometry.tileWidth ≤ hardMaxTileDimension ∧ geometry.tileHeight ≤ hardMaxTileDimension ∧
    0 ≤ geometry.overlap ∧ geometry.overlap ≤ hardMaxTileOverlap ∧
    geometry.overlap < geometry.tileWidth ∧ geometry.overlap < geometry.tileHeight)
    ⟨fun h => ⟨h.1, h.2.1, h.2.2.1, h.2.2.2.1, h.2.2.2.2.1, h.2.2.2.2.2.1, h.2.2.2.2.2.2.1,
      h.2.2.2.2.2.2.2⟩, fun h => ⟨h.1, h.2, h.3, h.4, h.5, h.6, h.7, h.8⟩⟩

/-- The geometry of a tile request, with the processor's own values where it has none. -/
def PdfProcessor.geometry (processor : PdfProcessor) (tileWidth tileHeight overlap : Option ℤ) :
    TileGeometry where
  tileWidth := tileWidth.getD processor.tiling.tileWidth
  tileHeight := tileHeight.getD processor.tiling.tileHeight
  overlap := overlap.getD processor.tiling.overlap

/-- What `render_tiles` checks before its transaction: the request, or the first failure. A geometry
that can be tiled with is one that `tile_geometry_identifier` takes. -/
def PdfProcessor.tileRequest (processor : PdfProcessor) (assets : Assets) (renderId : String)
    (pageNumber : ℤ) (geometry : TileGeometry) : Except PdfError TileManifestRequest := do
  let manifest ← getManifest p assets renderId
  match manifest.pages.find? fun page => page.pageNumber = pageNumber with
  | none => throw (.app { code := .invalidInput
                          message := "The selected page is not present in this render." })
  | some page =>
    let (_, _, tileCount) ← (tileLayout page.width page.height geometry).mapError .app
    raiseIf (tileCount > processor.maxTilesPerPage)
      (.app (processingFailed "The requested tile geometry would exceed the tile-count limit."))
    let boxes ← (tileBoxes page.width page.height geometry).mapError .app
    if h : geometry.Valid then
      return { renderId := renderId, pageNumber := pageNumber, geometry := h.request, page := page,
               boxes := boxes }
    else throw .valueError

/-- `render_tiles`. -/
def PdfProcessor.renderTiles (processor : PdfProcessor) (assets : Assets)
    (complete : String → Bool) (renderId : String) (pageNumber : ℤ)
    (tileWidth tileHeight overlap : Option ℤ) :
    Except PdfError (Publication (TileManifest (List CodePoint))) := do
  let request ← processor.tileRequest p assets renderId pageNumber
    (processor.geometry tileWidth tileHeight overlap)
  request.render p assets complete

end

end NplgMcp.Pdf
