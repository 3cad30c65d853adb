import Mathlib.Data.Rat.Defs
import NplgMcp.Errors

/-!
# The messages of the PDF worker

The models of `pdf_ipc.py`: what the parent and its worker may send each other. The bounds and the
patterns of a model are fields of its structure, so a value that the model rejects does not exist. A
finite float is a rational number. The four pipeline versions of a render can only be the current
ones, and are left out of the structures.
-/

namespace NplgMcp.Pdf

/-! ## Constrained values -/

/-- A lower-case hexadecimal digit. -/
def isLowerHex (c : Char) : Bool := c.isDigit || ('a' ≤ c && c ≤ 'f')

/-- `Sha256`. -/
def isSha256 (value : String) : Bool := value.toList.length == 64 && value.toList.all isLowerHex

/-- `RenderId`. -/
def isRenderId (value : String) : Bool :=
  value.toList.take 4 == "rnd_".toList && value.toList.length == 36 &&
    (value.toList.drop 4).all isLowerHex

/-- A segment that `_SAFE_SEGMENT` matches and that is not a dot or two. -/
def isSafeSegment (part : List Char) : Bool :=
  !part.isEmpty && part != ['.'] && part != ['.', '.'] &&
    part.all fun c => c.isAlphanum || c == '.' || c == '_' || c == '-'

/-- `validate_safe_relative_path`. A path of safe segments is relative and canonical. -/
def isSafeRelativePath (value : String) : Bool :=
  value.toList.length ≤ 512 && (value.toList.splitOn '/').all isSafeSegment

/-- The length bounds of a text. -/
def hasLength (value : String) (maximum : ℕ) : Prop :=
  1 ≤ value.toList.length ∧ value.toList.length ≤ maximum

instance (value : String) (maximum : ℕ) : Decidable (hasLength value maximum) :=
  inferInstanceAs (Decidable (_ ∧ _))

/-- `PageNumber`. -/
def isPageNumber (value : ℕ) : Prop := 1 ≤ value ∧ value ≤ 10000

/-- `TileDimension`. -/
def isTileDimension (value : ℕ) : Prop := 256 ≤ value ∧ value ≤ 4096

/-- `TileOverlap`. -/
def isTileOverlap (value : ℕ) : Prop := value ≤ 512

instance (value : ℕ) : Decidable (isPageNumber value) := inferInstanceAs (Decidable (_ ∧ _))
instance (value : ℕ) : Decidable (isTileDimension value) := inferInstanceAs (Decidable (_ ∧ _))
instance (value : ℕ) : Decidable (isTileOverlap value) := inferInstanceAs (Decidable (_ ≤ _))

/-! ## Commands -/

/-- `RenderPagesParams`; the mode is always `native`. -/
structure RenderPagesParams where
  pages : List ℕ
  pages_mem : ∀ page ∈ pages, isPageNumber page
  pages_length : 1 ≤ pages.length ∧ pages.length ≤ 8
  deriving DecidableEq

/-- `RenderTilesParams`, with the check of `model_post_init`: only dimensions that are given are
compared with an overlap that is given. -/
structure RenderTilesParams where
  renderId : String
  pageNumber : ℕ
  tileWidth : Option ℕ := none
  tileHeight : Option ℕ := none
  overlap : Option ℕ := none
  renderId_valid : isRenderId renderId = true
  pageNumber_mem : isPageNumber pageNumber
  tileWidth_mem : ∀ value ∈ tileWidth, isTileDimension value
  tileHeight_mem : ∀ value ∈ tileHeight, isTileDimension value
  overlap_mem : ∀ value ∈ overlap, isTileOverlap value
  overlap_lt : ∀ value ∈ overlap,
    (∀ width ∈ tileWidth, value < width) ∧ ∀ height ∈ tileHeight, value < height
  deriving DecidableEq

/-- `PdfCommand`. -/
inductive PdfCommand where
  | inspect (requestId : ℕ) (sourceRelativePath : String)
      (valid : isSafeRelativePath sourceRelativePath = true)
  | renderPages (requestId : ℕ) (sourceRelativePath : String) (parameters : RenderPagesParams)
      (valid : isSafeRelativePath sourceRelativePath = true)
  | renderTiles (requestId : ℕ) (parameters : RenderTilesParams)
  | manifest (requestId : ℕ) (renderId : String) (valid : isRenderId renderId = true)
  deriving DecidableEq

/-- `PdfOperation`. -/
inductive PdfOperation where
  | inspect
  | renderPages
  | renderTiles
  | manifest
  deriving DecidableEq, Repr

namespace PdfCommand

/-- `command.request_id`: a UUID is a number below `2 ^ 128`. -/
def requestId : PdfCommand → ℕ
  | .inspect requestId _ _ => requestId
  | .renderPages requestId _ _ _ => requestId
  | .renderTiles requestId _ => requestId
  | .manifest requestId _ _ => requestId

/-- `command.operation`. -/
def operation : PdfCommand → PdfOperation
  | .inspect .. => .inspect
  | .renderPages .. => .renderPages
  | .renderTiles .. => .renderTiles
  | .manifest .. => .manifest

end PdfCommand

/-! ## Results -/

/-- `PageInspectionOutput`. -/
structure PageInspectionOutput where
  pageNumber : ℕ
  widthPoints : ℚ
  heightPoints : ℚ
  rotation : ℕ
  classification : String
  imageCount : ℕ
  hasText : Bool
  hasDrawings : Bool
  cropApplied : Bool
  dominantImageIndex : Option ℕ
  dominantExtension : Option String
  dominantCoverage : Option ℚ
  nativeWidth : Option ℕ
  nativeHeight : Option ℕ
  effectiveDpiX : Option ℚ
  effectiveDpiY : Option ℚ
  directJpegEligible : Bool
  nativeRasterExtractEligible : Bool
  pageNumber_mem : isPageNumber pageNumber
  widthPoints_pos : 0 < widthPoints
  heightPoints_pos : 0 < heightPoints
  rotation_le : rotation ≤ 359
  classification_length : hasLength classification 64
  imageCount_le : imageCount ≤ 100000
  dominantImageIndex_le : ∀ value ∈ dominantImageIndex, value ≤ 100000
  dominantExtension_length : ∀ value ∈ dominantExtension, hasLength value 32
  dominantCoverage_mem : ∀ value ∈ dominantCoverage, 0 ≤ value ∧ value ≤ 1
  nativeWidth_pos : ∀ value ∈ nativeWidth, 1 ≤ value
  nativeHeight_pos : ∀ value ∈ nativeHeight, 1 ≤ value
  effectiveDpiX_pos : ∀ value ∈ effectiveDpiX, 0 < value
  effectiveDpiY_pos : ∀ value ∈ effectiveDpiY, 0 < value
  deriving DecidableEq

/-- `PdfInspectionOutput`. -/
structure PdfInspectionOutput where
  sourceSha256 : String
  pageCount : ℕ
  rendererVersion : String
  pages : List PageInspectionOutput
  sourceSha256_valid : isSha256 sourceSha256 = true
  pageCount_le : pageCount ≤ 10000
  rendererVersion_length : hasLength rendererVersion 256
  pages_length : pages.length ≤ 10000
  deriving DecidableEq

/-- `RenderedPageOutput`; the media type is always `image/jpeg`. -/
structure RenderedPageOutput where
  pageNumber : ℕ
  width : ℕ
  height : ℕ
  rotation : ℕ
  classification : String
  effectiveDpiX : ℚ
  effectiveDpiY : ℚ
  resolutionSource : String
  conversionPath : String
  relativePath : String
  sha256 : String
  resizeApplied : Bool
  pixelDimensionsPreserved : Bool
  rendererResampling : String
  reencoded : Bool
  lossyConversion : Bool
  pageNumber_mem : isPageNumber pageNumber
  width_pos : 1 ≤ width
  height_pos : 1 ≤ height
  rotation_le : rotation ≤ 359
  classification_length : hasLength classification 64
  effectiveDpiX_pos : 0 < effectiveDpiX
  effectiveDpiY_pos : 0 < effectiveDpiY
  resolutionSource_length : hasLength resolutionSource 64
  conversionPath_length : hasLength conversionPath 64
  relativePath_safe : isSafeRelativePath relativePath = true
  sha256_valid : isSha256 sha256 = true
  rendererResampling_length : hasLength rendererResampling 64
  deriving DecidableEq

/-- `RenderPagesOutput`; the mode is always `native`. -/
structure RenderPagesOutput where
  renderId : String
  sourceSha256 : String
  rendererVersion : String
  pages : List RenderedPageOutput
  manifestRelativePath : String
  renderId_valid : isRenderId renderId = true
  sourceSha256_valid : isSha256 sourceSha256 = true
  rendererVersion_length : hasLength rendererVersion 256
  pages_length : 1 ≤ pages.length ∧ pages.length ≤ 8
  manifestRelativePath_safe : isSafeRelativePath manifestRelativePath = true
  deriving DecidableEq

/-- `RenderedTileOutput`, without the fields that can have one value only. -/
structure RenderedTileOutput where
  tileId : String
  pageNumber : ℕ
  x : ℕ
  y : ℕ
  width : ℕ
  height : ℕ
  fullPageWidth : ℕ
  fullPageHeight : ℕ
  overlap : ℕ
  relativePath : String
  sha256 : String
  tileId_length : hasLength tileId 128
  pageNumber_mem : isPageNumber pageNumber
  width_pos : 1 ≤ width
  height_pos : 1 ≤ height
  fullPageWidth_pos : 1 ≤ fullPageWidth
  fullPageHeight_pos : 1 ≤ fullPageHeight
  overlap_mem : isTileOverlap overlap
  relativePath_safe : isSafeRelativePath relativePath = true
  sha256_valid : isSha256 sha256 = true
  deriving DecidableEq

/-- `HARD_MAX_TILES_PER_PAGE`. -/
def hardMaxTilesPerPage : ℕ := 100

/-- `RenderTilesOutput`. -/
structure RenderTilesOutput where
  renderId : String
  pageNumber : ℕ
  pageSha256 : String
  tileWidth : ℕ
  tileHeight : ℕ
  overlap : ℕ
  tiles : List RenderedTileOutput
  manifestRelativePath : String
  renderId_valid : isRenderId renderId = true
  pageNumber_mem : isPageNumber pageNumber
  pageSha256_valid : isSha256 pageSha256 = true
  tileWidth_mem : isTileDimension tileWidth
  tileHeight_mem : isTileDimension tileHeight
  overlap_mem : isTileOverlap overlap
  tiles_length : 1 ≤ tiles.length ∧ tiles.length ≤ hardMaxTilesPerPage
  manifestRelativePath_safe : isSafeRelativePath manifestRelativePath = true
  deriving DecidableEq

/-- `PdfPayload`. -/
inductive PdfPayload where
  | inspect (value : PdfInspectionOutput)
  | renderPages (value : RenderPagesOutput)
  | renderTiles (value : RenderTilesOutput)
  | manifest (value : RenderPagesOutput)
  deriving DecidableEq

/-- `payload.operation`. -/
def PdfPayload.operation : PdfPayload → PdfOperation
  | .inspect _ => .inspect
  | .renderPages _ => .renderPages
  | .renderTiles _ => .renderTiles
  | .manifest _ => .manifest

/-- `PdfResult`. -/
inductive PdfResult where
  | success (requestId : ℕ) (payload : PdfPayload)
  | failure (requestId : ℕ) (operation : PdfOperation) (code : ErrorCode) (message : String)
      (message_length : hasLength message 512)
  deriving DecidableEq

/-- `result.request_id`. -/
def PdfResult.requestId : PdfResult → ℕ
  | .success requestId _ => requestId
  | .failure requestId .. => requestId

/-- `result.operation`, or that of the payload. -/
def PdfResult.operation : PdfResult → PdfOperation
  | .success _ payload => payload.operation
  | .failure _ operation .. => operation

end NplgMcp.Pdf
