import NplgMcp.Encoding
import NplgMcp.Errors
import NplgMcp.Library.JsonLoading
import NplgMcp.Library.Lines

/-!
# The manifests of renders and tiles

The manifest records of `pdf.py`, the JSON they are written as, and the readers of their fields. A
record is written with strings of characters and read with strings of code points. A finite float is
a rational number. Written records are read back (`readRenderManifest_payload`,
`tileManifestFromDict_payload`).
-/

open Library Library.JsonText

namespace NplgMcp.Pdf

/-! ## Records -/

/-- `RenderedPage`. -/
structure RenderedPage (τ : Type) where
  pageNumber : ℤ
  width : ℤ
  height : ℤ
  rotation : ℤ
  classification : τ
  effectiveDpiX : ℚ
  effectiveDpiY : ℚ
  resolutionSource : τ
  conversionPath : τ
  relativePath : τ
  sha256 : τ
  mediaType : τ
  resizeApplied : Bool
  pixelDimensionsPreserved : Bool
  rendererResampling : τ
  reencoded : Bool
  lossyConversion : Bool

/-- `RenderManifest`. -/
structure RenderManifest (τ : Type) where
  renderId : τ
  sourceSha256 : τ
  rendererVersion : τ
  mode : τ
  pages : List (RenderedPage τ)
  manifestRelativePath : τ
  manifestSchemaVersion : τ
  renderPipelineVersion : τ
  classificationAlgorithmVersion : τ
  tilePipelineVersion : τ

/-- `RenderedTile`. -/
structure RenderedTile (τ : Type) where
  tileId : τ
  pageNumber : ℤ
  x : ℤ
  y : ℤ
  width : ℤ
  height : ℤ
  fullPageWidth : ℤ
  fullPageHeight : ℤ
  overlap : ℤ
  relativePath : τ
  sha256 : τ
  mediaType : τ
  resizeApplied : Bool
  pixelDimensionsPreserved : Bool
  rendererResampling : τ
  reencoded : Bool
  lossyConversion : Bool

/-- `TileManifest`. -/
structure TileManifest (τ : Type) where
  renderId : τ
  pageNumber : ℤ
  pageSha256 : τ
  tileWidth : ℤ
  tileHeight : ℤ
  overlap : ℤ
  tiles : List (RenderedTile τ)
  manifestRelativePath : τ
  manifestSchemaVersion : τ
  renderPipelineVersion : τ
  classificationAlgorithmVersion : τ
  tilePipelineVersion : τ

section
variable {τ σ : Type} (f : τ → σ)

/-- A page with its strings changed. -/
def RenderedPage.map (page : RenderedPage τ) : RenderedPage σ where
  pageNumber := page.pageNumber
  width := page.width
  height := page.height
  rotation := page.rotation
  classification := f page.classification
  effectiveDpiX := page.effectiveDpiX
  effectiveDpiY := page.effectiveDpiY
  resolutionSource := f page.resolutionSource
  conversionPath := f page.conversionPath
  relativePath := f page.relativePath
  sha256 := f page.sha256
  mediaType := f page.mediaType
  resizeApplied := page.resizeApplied
  pixelDimensionsPreserved := page.pixelDimensionsPreserved
  rendererResampling := f page.rendererResampling
  reencoded := page.reencoded
  lossyConversion := page.lossyConversion

/-- A manifest with its strings changed. -/
def RenderManifest.map (manifest : RenderManifest τ) : RenderManifest σ where
  renderId := f manifest.renderId
  sourceSha256 := f manifest.sourceSha256
  rendererVersion := f manifest.rendererVersion
  mode := f manifest.mode
  pages := manifest.pages.map (RenderedPage.map f)
  manifestRelativePath := f manifest.manifestRelativePath
  manifestSchemaVersion := f manifest.manifestSchemaVersion
  renderPipelineVersion := f manifest.renderPipelineVersion
  classificationAlgorithmVersion := f manifest.classificationAlgorithmVersion
  tilePipelineVersion := f manifest.tilePipelineVersion

/-- A tile with its strings changed. -/
def RenderedTile.map (tile : RenderedTile τ) : RenderedTile σ where
  tileId := f tile.tileId
  pageNumber := tile.pageNumber
  x := tile.x
  y := tile.y
  width := tile.width
  height := tile.height
  fullPageWidth := tile.fullPageWidth
  fullPageHeight := tile.fullPageHeight
  overlap := tile.overlap
  relativePath := f tile.relativePath
  sha256 := f tile.sha256
  mediaType := f tile.mediaType
  resizeApplied := tile.resizeApplied
  pixelDimensionsPreserved := tile.pixelDimensionsPreserved
  rendererResampling := f tile.rendererResampling
  reencoded := tile.reencoded
  lossyConversion := tile.lossyConversion

/-- A manifest of tiles with its strings changed. -/
def TileManifest.map (manifest : TileManifest τ) : TileManifest σ where
  renderId := f manifest.renderId
  pageNumber := manifest.pageNumber
  pageSha256 := f manifest.pageSha256
  tileWidth := manifest.tileWidth
  tileHeight := manifest.tileHeight
  overlap := manifest.overlap
  tiles := manifest.tiles.map (RenderedTile.map f)
  manifestRelativePath := f manifest.manifestRelativePath
  manifestSchemaVersion := f manifest.manifestSchemaVersion
  renderPipelineVersion := f manifest.renderPipelineVersion
  classificationAlgorithmVersion := f manifest.classificationAlgorithmVersion
  tilePipelineVersion := f manifest.tilePipelineVersion

end

/-! ## Writing -/

/-- The members of a page, as `asdict` has them. -/
def RenderedPage.members (page : RenderedPage String) : List (String × JsonTree) :=
  [("page_number", .int page.pageNumber), ("width", .int page.width), ("height", .int page.height),
    ("rotation", .int page.rotation), ("classification", .str page.classification),
    ("effective_dpi_x", .float page.effectiveDpiX), ("effective_dpi_y", .float page.effectiveDpiY),
    ("resolution_source", .str page.resolutionSource),
    ("conversion_path", .str page.conversionPath), ("relative_path", .str page.relativePath),
    ("sha256", .str page.sha256), ("media_type", .str page.mediaType),
    ("resize_applied", .bool page.resizeApplied),
    ("pixel_dimensions_preserved", .bool page.pixelDimensionsPreserved),
    ("renderer_resampling", .str page.rendererResampling), ("reencoded", .bool page.reencoded),
    ("lossy_conversion", .bool page.lossyConversion)]

/-- The members of a manifest, as `asdict` has them. -/
def RenderManifest.members (manifest : RenderManifest String) : List (String × JsonTree) :=
  [("render_id", .str manifest.renderId), ("source_sha256", .str manifest.sourceSha256),
    ("renderer_version", .str manifest.rendererVersion), ("mode", .str manifest.mode),
    ("pages", .arr (manifest.pages.map fun page => .obj page.members)),
    ("manifest_relative_path", .str manifest.manifestRelativePath),
    ("manifest_schema_version", .str manifest.manifestSchemaVersion),
    ("render_pipeline_version", .str manifest.renderPipelineVersion),
    ("classification_algorithm_version", .str manifest.classificationAlgorithmVersion),
    ("tile_pipeline_version", .str manifest.tilePipelineVersion)]

/-- The members of a tile, as `asdict` has them. -/
def RenderedTile.members (tile : RenderedTile String) : List (String × JsonTree) :=
  [("tile_id", .str tile.tileId), ("page_number", .int tile.pageNumber), ("x", .int tile.x),
    ("y", .int tile.y), ("width", .int tile.width), ("height", .int tile.height),
    ("full_page_width", .int tile.fullPageWidth), ("full_page_height", .int tile.fullPageHeight),
    ("overlap", .int tile.overlap), ("relative_path", .str tile.relativePath),
    ("sha256", .str tile.sha256), ("media_type", .str tile.mediaType),
    ("resize_applied", .bool tile.resizeApplied),
    ("pixel_dimensions_preserved", .bool tile.pixelDimensionsPreserved),
    ("renderer_resampling", .str tile.rendererResampling), ("reencoded", .bool tile.reencoded),
    ("lossy_conversion", .bool tile.lossyConversion)]

/-- The members of a manifest of tiles, as `asdict` has them. -/
def TileManifest.members (manifest : TileManifest String) : List (String × JsonTree) :=
  [("render_id", .str manifest.renderId), ("page_number", .int manifest.pageNumber),
    ("page_sha256", .str manifest.pageSha256), ("tile_width", .int manifest.tileWidth),
    ("tile_height", .int manifest.tileHeight), ("overlap", .int manifest.overlap),
    ("tiles", .arr (manifest.tiles.map fun tile => .obj tile.members)),
    ("manifest_relative_path", .str manifest.manifestRelativePath),
    ("manifest_schema_version", .str manifest.manifestSchemaVersion),
    ("render_pipeline_version", .str manifest.renderPipelineVersion),
    ("classification_algorithm_version", .str manifest.classificationAlgorithmVersion),
    ("tile_pipeline_version", .str manifest.tilePipelineVersion)]

/-! ## Exceptions -/

/-- What the code of `pdf.py` raises. `UnicodeError` and `JSONDecodeError` are a `ValueError` too,
and `library` is a `PdfiumError` or a `RuntimeError`. -/
inductive PdfError where
  | app (error : AppError)
  | keyError (name : String)
  | typeError (message : String)
  | valueError
  | unicodeError
  | jsonDecodeError
  | overflowError
  | zeroDivisionError
  | osError
  | library
  deriving DecidableEq

/-- The exceptions that are a `ValueError`. -/
def PdfError.isValueError : PdfError → Bool
  | .valueError | .unicodeError | .jsonDecodeError => true
  | _ => false

/-- The exceptions that are a `TypeError`. -/
def PdfError.isTypeError : PdfError → Bool
  | .typeError _ => true
  | _ => false

/-- The exceptions that are a `KeyError`. -/
def PdfError.isKeyError : PdfError → Bool
  | .keyError _ => true
  | _ => false

/-- `except` of some exceptions, with another one raised in their place. -/
def rescue {α : Type} (caught : PdfError → Bool) (error : AppError) :
    Except PdfError α → Except PdfError α
  | .error raised => .error (if caught raised then .app error else raised)
  | .ok value => .ok value

/-! ## Payloads -/

/-- The `payload` of a manifest of these members: `json.dumps` with sorted keys, in UTF-8. An integer
of too many digits is a `ValueError`. -/
def manifestPayload (json : Codec) (members : List (String × JsonTree)) : Except PdfError Bytes :=
  if (JsonTree.obj members).integersFit json then
    .ok (encodeUtf8 (String.ofList ((JsonTree.obj members).sortKeys.text json)))
  else .error .valueError

/-- `read_text` in UTF-8, of a file with these contents. -/
def readUtf8 (data : Bytes) : Except PdfError (List Char) :=
  match data.toByteArray.utf8Decode? with
  | none => .error .unicodeError
  | some text => .ok (Lines.universalNewlines text.toList)

/-- `load_json_value`. -/
def loadJsonValue (json : Codec) (text : List Char) : Except PdfError PointTree :=
  match loadText json text with
  | .error .syntactic => .error .jsonDecodeError
  | .error .digits => .error .valueError
  | .ok tree =>
    if tree.isJsonValue then .ok tree
    else .error (.typeError "JSON decoder returned a non-JSON value")

/-- `require_json_object`. -/
def requireJsonObject (value : PointTree) (context : String) :
    Except PdfError (List (List CodePoint × PointTree)) :=
  match value with
  | .obj payload =>
    if (PointTree.obj payload).isJsonValue then .ok payload
    else .error (.typeError (context ++ " must be a JSON object"))
  | _ => .error (.typeError (context ++ " must be a JSON object"))

/-- The JSON object in a file with these contents. -/
def readRoot (json : Codec) (data : Bytes) (context : String) :
    Except PdfError (List (List CodePoint × PointTree)) := do
  let text ← readUtf8 data
  let value ← loadJsonValue json text
  requireJsonObject value context

/-! ## Fields -/

section
variable (payload : List (List CodePoint × PointTree)) (name : String)

/-- `_field`. -/
def readField : Except PdfError PointTree :=
  match payload.lookup (pointsOf name) with
  | none => .error (.keyError name)
  | some value => .ok value

/-- The `TypeError` of a field reader. -/
def fieldError (kind : String) : PdfError := .typeError ("manifest field " ++ name ++ " must be " ++ kind)

/-- `_string_field`. -/
def stringField : Except PdfError (List CodePoint) := do
  match ← readField payload name with
  | .str value => return value
  | _ => throw (fieldError name "a string")

/-- `_integer_field`. -/
def integerField : Except PdfError ℤ := do
  match ← readField payload name with
  | .int value => return value
  | _ => throw (fieldError name "an integer")

/-- `_boolean_field`. -/
def booleanField : Except PdfError Bool := do
  match ← readField payload name with
  | .bool value => return value
  | _ => throw (fieldError name "a boolean")

/-- `_float_field`; `floatOfInt` is `float` of an integer, which may be too large. -/
def floatField (floatOfInt : ℤ → Option ℚ) : Except PdfError ℚ := do
  match ← readField payload name with
  | .float (some value) => return value
  | .int value => match floatOfInt value with
    | none => throw .overflowError
    | some value => return value
  | _ => throw (fieldError name "numeric")

/-- `_list_field`. -/
def listField : Except PdfError (List PointTree) := do
  match ← readField payload name with
  | .arr items => return items
  | _ => throw (fieldError name "an array")

end

/-- `_closed_object`. -/
def closedObject (value : PointTree) (context : String) (fields : List String) :
    Except PdfError (List (List CodePoint × PointTree)) := do
  let payload ← requireJsonObject value context
  if payload.map Prod.fst ⊆ fields.map pointsOf ∧ fields.map pointsOf ⊆ payload.map Prod.fst then
    return payload
  else throw (.typeError (context ++ " has unknown or missing fields"))

/-- The fields of a rendered page. -/
def renderedPageFields : List String :=
  ["page_number", "width", "height", "rotation", "classification", "effective_dpi_x",
    "effective_dpi_y", "resolution_source", "conversion_path", "relative_path", "sha256",
    "media_type", "resize_applied", "pixel_dimensions_preserved", "renderer_resampling",
    "reencoded", "lossy_conversion"]

/-- The fields of a rendered tile. -/
def renderedTileFields : List String :=
  ["tile_id", "page_number", "x", "y", "width", "height", "full_page_width", "full_page_height",
    "overlap", "relative_path", "sha256", "media_type", "resize_applied",
    "pixel_dimensions_preserved", "renderer_resampling", "reencoded", "lossy_conversion"]

/-- The fields of a render manifest. -/
def renderManifestFields : List String :=
  ["render_id", "source_sha256", "renderer_version", "mode", "pages", "manifest_relative_path",
    "manifest_schema_version", "render_pipeline_version", "classification_algorithm_version",
    "tile_pipeline_version"]

/-- The fields of a tile manifest. -/
def tileManifestFields : List String :=
  ["render_id", "page_number", "page_sha256", "tile_width", "tile_height", "overlap", "tiles",
    "manifest_relative_path", "manifest_schema_version", "render_pipeline_version",
    "classification_algorithm_version", "tile_pipeline_version"]

section
variable (floatOfInt : ℤ → Option ℚ)

/-- `_rendered_page_from_json`. -/
def renderedPageFromJson (value : PointTree) : Except PdfError (RenderedPage (List CodePoint)) := do
  let payload ← closedObject value "rendered page" renderedPageFields
  return {
    pageNumber := ← integerField payload "page_number"
    width := ← integerField payload "width"
    height := ← integerField payload "height"
    rotation := ← integerField payload "rotation"
    classification := ← stringField payload "classification"
    effectiveDpiX := ← floatField payload "effective_dpi_x" floatOfInt
    effectiveDpiY := ← floatField payload "effective_dpi_y" floatOfInt
    resolutionSource := ← stringField payload "resolution_source"
    conversionPath := ← stringField payload "conversion_path"
    relativePath := ← stringField payload "relative_path"
    sha256 := ← stringField payload "sha256"
    mediaType := ← stringField payload "media_type"
    resizeApplied := ← booleanField payload "resize_applied"
    pixelDimensionsPreserved := ← booleanField payload "pixel_dimensions_preserved"
    rendererResampling := ← stringField payload "renderer_resampling"
    reencoded := ← booleanField payload "reencoded"
    lossyConversion := ← booleanField payload "lossy_conversion" }

/-- `_rendered_tile_from_json`. -/
def renderedTileFromJson (value : PointTree) : Except PdfError (RenderedTile (List CodePoint)) := do
  let payload ← closedObject value "rendered tile" renderedTileFields
  return {
    tileId := ← stringField payload "tile_id"
    pageNumber := ← integerField payload "page_number"
    x := ← integerField payload "x"
    y := ← integerField payload "y"
    width := ← integerField payload "width"
    height := ← integerField payload "height"
    fullPageWidth := ← integerField payload "full_page_width"
    fullPageHeight := ← integerField payload "full_page_height"
    overlap := ← integerField payload "overlap"
    relativePath := ← stringField payload "relative_path"
    sha256 := ← stringField payload "sha256"
    mediaType := ← stringField payload "media_type"
    resizeApplied := ← booleanField payload "resize_applied"
    pixelDimensionsPreserved := ← booleanField payload "pixel_dimensions_preserved"
    rendererResampling := ← stringField payload "renderer_resampling"
    reencoded := ← booleanField payload "reencoded"
    lossyConversion := ← booleanField payload "lossy_conversion" }

/-- What `_manifest_from_dict` reads before its errors are replaced. -/
def readRenderManifest (value : PointTree) :
    Except PdfError (RenderManifest (List CodePoint)) := do
  let payload ← closedObject value "render manifest" renderManifestFields
  let pages ← (← listField payload "pages").mapM (renderedPageFromJson floatOfInt)
  return {
    renderId := ← stringField payload "render_id"
    sourceSha256 := ← stringField payload "source_sha256"
    rendererVersion := ← stringField payload "renderer_version"
    mode := ← stringField payload "mode"
    pages := pages
    manifestRelativePath := ← stringField payload "manifest_relative_path"
    manifestSchemaVersion := ← stringField payload "manifest_schema_version"
    renderPipelineVersion := ← stringField payload "render_pipeline_version"
    classificationAlgorithmVersion := ← stringField payload "classification_algorithm_version"
    tilePipelineVersion := ← stringField payload "tile_pipeline_version" }

/-- What `_read_tile_manifest` reads of an object. -/
def tileManifestFromDict (value : PointTree) :
    Except PdfError (TileManifest (List CodePoint)) := do
  let payload ← closedObject value "tile manifest" tileManifestFields
  let values ← listField payload "tiles"
  return {
    renderId := ← stringField payload "render_id"
    pageNumber := ← integerField payload "page_number"
    pageSha256 := ← stringField payload "page_sha256"
    tileWidth := ← integerField payload "tile_width"
    tileHeight := ← integerField payload "tile_height"
    overlap := ← integerField payload "overlap"
    tiles := ← values.mapM renderedTileFromJson
    manifestRelativePath := ← stringField payload "manifest_relative_path"
    manifestSchemaVersion := ← stringField payload "manifest_schema_version"
    renderPipelineVersion := ← stringField payload "render_pipeline_version"
    classificationAlgorithmVersion := ← stringField payload "classification_algorithm_version"
    tilePipelineVersion := ← stringField payload "tile_pipeline_version" }

end

/-! ## Fields are read back -/

section
variable {members : List (String × JsonTree)} {name : String}

/-- A member is a field of the object that is read. -/
theorem readField_sorted (hkeys : (members.map Prod.fst).Nodup) (index : ℕ) {value : JsonTree}
    (h : members[index]? = some (name, value)) :
    readField (membersPoints (sortedByKeys members)) name = .ok value.sortKeys.points := by
  rw [readField, lookup_sortedByKeys hkeys (List.mem_of_getElem? h)]

theorem stringField_sorted (hkeys : (members.map Prod.fst).Nodup) (index : ℕ) {value : String}
    (h : members[index]? = some (name, .str value)) :
    stringField (membersPoints (sortedByKeys members)) name = .ok (pointsOf value) := by
  rw [stringField, readField_sorted hkeys index h]
  rfl

theorem integerField_sorted (hkeys : (members.map Prod.fst).Nodup) (index : ℕ) {value : ℤ}
    (h : members[index]? = some (name, .int value)) :
    integerField (membersPoints (sortedByKeys members)) name = .ok value := by
  rw [integerField, readField_sorted hkeys index h]
  rfl

theorem booleanField_sorted (hkeys : (members.map Prod.fst).Nodup) (index : ℕ) {value : Bool}
    (h : members[index]? = some (name, .bool value)) :
    booleanField (membersPoints (sortedByKeys members)) name = .ok value := by
  rw [booleanField, readField_sorted hkeys index h]
  rfl

theorem floatField_sorted (hkeys : (members.map Prod.fst).Nodup) (index : ℕ) {value : ℚ}
    (h : members[index]? = some (name, .float (some value))) (floatOfInt : ℤ → Option ℚ) :
    floatField (membersPoints (sortedByKeys members)) name floatOfInt = .ok value := by
  rw [floatField, readField_sorted hkeys index h]
  rfl

theorem listField_sorted (hkeys : (members.map Prod.fst).Nodup) (index : ℕ)
    {items : List JsonTree} (h : members[index]? = some (name, .arr items)) :
    listField (membersPoints (sortedByKeys members)) name =
      .ok (items.map fun item => item.sortKeys.points) := by
  have hitems : (JsonTree.arr items).sortKeys.points =
      .arr (items.map fun item => item.sortKeys.points) := by
    rw [JsonTree.sortKeys, JsonTree.points, sortItems_eq, itemsPoints_eq, List.map_map]
    rfl
  rw [listField, readField_sorted hkeys index h, hitems]
  rfl

/-- A readable object is a JSON object. -/
theorem requireJsonObject_sorted {json : Codec} (h : (JsonTree.obj members).Readable json)
    (context : String) : requireJsonObject (JsonTree.obj members).sortKeys.points context =
      .ok (membersPoints (sortedByKeys members)) :=
  if_pos h.sortKeys.isJsonValue_points

/-- An object with exactly its own fields is closed. -/
theorem closedObject_sorted {json : Codec} (h : (JsonTree.obj members).Readable json)
    (context : String) {fields : List String} (hfields : members.map Prod.fst = fields) :
    closedObject (JsonTree.obj members).sortKeys.points context fields =
      .ok (membersPoints (sortedByKeys members)) := by
  have hkeys : ∀ key, key ∈ (membersPoints (sortedByKeys members)).map Prod.fst ↔
      key ∈ fields.map pointsOf := by
    intro key
    rw [mem_keys_sortedByKeys, hfields]
  rw [closedObject, requireJsonObject_sorted h]
  exact if_pos ⟨fun key hkey => (hkeys key).1 hkey, fun key hkey => (hkeys key).2 hkey⟩

end

/-- A record of each of the items is read. -/
theorem mapM_eq_ok {α β γ : Type} {f : β → Except γ α} {g : δ → β} {r : δ → α} {items : List δ}
    (h : ∀ item ∈ items, f (g item) = .ok (r item)) : (items.map g).mapM f = .ok (items.map r) := by
  induction items with
  | nil => rfl
  | cons item items ih =>
      rw [List.map_cons, List.mapM_cons, h item List.mem_cons_self,
        ih fun other hother => h other (List.mem_cons_of_mem _ hother)]
      rfl

section
variable {json : Codec} (floatOfInt : ℤ → Option ℚ)

/-- A page is read back. -/
theorem renderedPageFromJson_members {page : RenderedPage String}
    (h : (JsonTree.obj page.members).Readable json) :
    renderedPageFromJson floatOfInt (JsonTree.obj page.members).sortKeys.points =
      .ok (page.map pointsOf) := by
  have hkeys : (page.members.map Prod.fst).Nodup := h.1
  rw [renderedPageFromJson, closedObject_sorted h _ (show _ = renderedPageFields from rfl)]
  simp only [bind, Except.bind, integerField_sorted hkeys 0 rfl, integerField_sorted hkeys 1 rfl,
    integerField_sorted hkeys 2 rfl, integerField_sorted hkeys 3 rfl, stringField_sorted hkeys 4 rfl,
    floatField_sorted hkeys 5 rfl, floatField_sorted hkeys 6 rfl, stringField_sorted hkeys 7 rfl,
    stringField_sorted hkeys 8 rfl, stringField_sorted hkeys 9 rfl, stringField_sorted hkeys 10 rfl,
    stringField_sorted hkeys 11 rfl, booleanField_sorted hkeys 12 rfl,
    booleanField_sorted hkeys 13 rfl, stringField_sorted hkeys 14 rfl,
    booleanField_sorted hkeys 15 rfl, booleanField_sorted hkeys 16 rfl]
  rfl

/-- A tile is read back. -/
theorem renderedTileFromJson_members {tile : RenderedTile String}
    (h : (JsonTree.obj tile.members).Readable json) :
    renderedTileFromJson (JsonTree.obj tile.members).sortKeys.points = .ok (tile.map pointsOf) := by
  have hkeys : (tile.members.map Prod.fst).Nodup := h.1
  rw [renderedTileFromJson, closedObject_sorted h _ (show _ = renderedTileFields from rfl)]
  simp only [bind, Except.bind, stringField_sorted hkeys 0 rfl, integerField_sorted hkeys 1 rfl,
    integerField_sorted hkeys 2 rfl, integerField_sorted hkeys 3 rfl,
    integerField_sorted hkeys 4 rfl, integerField_sorted hkeys 5 rfl,
    integerField_sorted hkeys 6 rfl, integerField_sorted hkeys 7 rfl,
    integerField_sorted hkeys 8 rfl, stringField_sorted hkeys 9 rfl, stringField_sorted hkeys 10 rfl,
    stringField_sorted hkeys 11 rfl, booleanField_sorted hkeys 12 rfl,
    booleanField_sorted hkeys 13 rfl, stringField_sorted hkeys 14 rfl,
    booleanField_sorted hkeys 15 rfl, booleanField_sorted hkeys 16 rfl]
  rfl

/-- A manifest of pages is read back. -/
theorem readRenderManifest_members {manifest : RenderManifest String}
    (h : (JsonTree.obj manifest.members).Readable json) :
    readRenderManifest floatOfInt (JsonTree.obj manifest.members).sortKeys.points =
      .ok (manifest.map pointsOf) := by
  have hkeys : (manifest.members.map Prod.fst).Nodup := h.1
  have hpages : ∀ page ∈ manifest.pages, (JsonTree.obj page.members).Readable json := by
    intro page hpage
    have harr : (JsonTree.arr (manifest.pages.map fun page => .obj page.members)).Readable json :=
      membersReadable_iff.1 h.2 _ (List.mem_map.2 ⟨_, List.mem_of_getElem? (i := 4) rfl, rfl⟩)
    exact itemsReadable_iff.1 harr _ (List.mem_map_of_mem hpage)
  have hread := mapM_eq_ok fun page hpage =>
    renderedPageFromJson_members floatOfInt (hpages page hpage)
  rw [readRenderManifest, closedObject_sorted h _ (show _ = renderManifestFields from rfl)]
  simp only [bind, Except.bind, listField_sorted hkeys 4 rfl, List.map_map, Function.comp_def, hread,
    stringField_sorted hkeys 0 rfl, stringField_sorted hkeys 1 rfl, stringField_sorted hkeys 2 rfl,
    stringField_sorted hkeys 3 rfl, stringField_sorted hkeys 5 rfl, stringField_sorted hkeys 6 rfl,
    stringField_sorted hkeys 7 rfl, stringField_sorted hkeys 8 rfl, stringField_sorted hkeys 9 rfl]
  rfl

/-- A manifest of tiles is read back. -/
theorem tileManifestFromDict_members {manifest : TileManifest String}
    (h : (JsonTree.obj manifest.members).Readable json) :
    tileManifestFromDict (JsonTree.obj manifest.members).sortKeys.points =
      .ok (manifest.map pointsOf) := by
  have hkeys : (manifest.members.map Prod.fst).Nodup := h.1
  have htiles : ∀ tile ∈ manifest.tiles, (JsonTree.obj tile.members).Readable json := by
    intro tile htile
    have harr : (JsonTree.arr (manifest.tiles.map fun tile => .obj tile.members)).Readable json :=
      membersReadable_iff.1 h.2 _ (List.mem_map.2 ⟨_, List.mem_of_getElem? (i := 6) rfl, rfl⟩)
    exact itemsReadable_iff.1 harr _ (List.mem_map_of_mem htile)
  have hread := mapM_eq_ok fun tile htile => renderedTileFromJson_members (htiles tile htile)
  rw [tileManifestFromDict, closedObject_sorted h _ (show _ = tileManifestFields from rfl)]
  simp only [bind, Except.bind, listField_sorted hkeys 6 rfl, List.map_map, Function.comp_def, hread,
    stringField_sorted hkeys 0 rfl, integerField_sorted hkeys 1 rfl, stringField_sorted hkeys 2 rfl,
    integerField_sorted hkeys 3 rfl, integerField_sorted hkeys 4 rfl,
    integerField_sorted hkeys 5 rfl, stringField_sorted hkeys 7 rfl, stringField_sorted hkeys 8 rfl,
    stringField_sorted hkeys 9 rfl, stringField_sorted hkeys 10 rfl,
    stringField_sorted hkeys 11 rfl]
  rfl

/-! ## Payloads are read back -/

/-- The integers of what is written can be written. -/
theorem manifestPayload_eq_ok {members : List (String × JsonTree)} {payload : Bytes}
    (h : manifestPayload json members = .ok payload) :
    (JsonTree.obj members).integersFit json = true ∧
      payload = encodeUtf8 (String.ofList ((JsonTree.obj members).sortKeys.text json)) := by
  unfold manifestPayload at h
  split_ifs at h with hfit
  exact ⟨hfit, (Except.ok.inj h).symm⟩

/-- A payload is read back as its tree. -/
theorem loadJsonValue_payload {members : List (String × JsonTree)} {payload : Bytes}
    (hreadable : (JsonTree.obj members).Readable json)
    (h : manifestPayload json members = .ok payload) :
    (readUtf8 payload).bind (loadJsonValue json) = .ok (JsonTree.obj members).sortKeys.points := by
  have hsorted := hreadable.sortKeys
  have hdecode : readUtf8 payload = .ok ((JsonTree.obj members).sortKeys.text json) := by
    have hbytes : payload.toByteArray.utf8Decode? =
        some ((JsonTree.obj members).sortKeys.text json).toArray := by
      rw [(manifestPayload_eq_ok h).2, encodeUtf8, String.toList_ofList]
      exact List.utf8Decode?_utf8Encode
    have hreturn : '\r' ∉ (JsonTree.obj members).sortKeys.text json := by
      intro hmem
      exact absurd (hsorted.le_toNat hmem) (by decide)
    rw [readUtf8, hbytes]
    exact congrArg Except.ok (Lines.universalNewlines_of_notMem hreturn)
  rw [hdecode]
  show loadJsonValue json _ = _
  rw [loadJsonValue, loadText_text hsorted]
  exact if_pos hsorted.isJsonValue_points

/-- A page whose integers can be written and whose resolutions are read back is readable. -/
theorem RenderedPage.readable {page : RenderedPage String}
    (hfit : (JsonTree.obj page.members).integersFit json = true)
    (hx : json.Reads page.effectiveDpiX) (hy : json.Reads page.effectiveDpiY) :
    (JsonTree.obj page.members).Readable json := by
  simp only [JsonTree.integersFit, RenderedPage.members, membersFit, Bool.and_true,
    Bool.and_eq_true, decide_eq_true_eq] at hfit
  obtain ⟨hnumber, hwidth, hheight, hrotation⟩ := hfit
  refine ⟨(by decide : renderedPageFields.Nodup), ?_⟩
  simp only [RenderedPage.members, membersReadable, JsonTree.Readable, and_true, true_and]
  exact ⟨hnumber, hwidth, hheight, hrotation, hx, hy⟩

/-- A tile whose integers can be written is readable. -/
theorem RenderedTile.readable {tile : RenderedTile String}
    (hfit : (JsonTree.obj tile.members).integersFit json = true) :
    (JsonTree.obj tile.members).Readable json := by
  simp only [JsonTree.integersFit, RenderedTile.members, membersFit, Bool.and_true, Bool.true_and,
    Bool.and_eq_true, decide_eq_true_eq] at hfit
  refine ⟨(by decide : renderedTileFields.Nodup), ?_⟩
  simp only [RenderedTile.members, membersReadable, JsonTree.Readable, and_true, true_and]
  exact hfit

/-- A manifest whose integers can be written and whose resolutions are read back is readable. -/
theorem RenderManifest.readable {manifest : RenderManifest String}
    (hfit : (JsonTree.obj manifest.members).integersFit json = true)
    (hpages : ∀ page ∈ manifest.pages,
      json.Reads page.effectiveDpiX ∧ json.Reads page.effectiveDpiY) :
    (JsonTree.obj manifest.members).Readable json := by
  simp only [JsonTree.integersFit, RenderManifest.members, membersFit, Bool.and_true,
    Bool.true_and, itemsFit_iff, List.forall_mem_map] at hfit
  refine ⟨(by decide : renderManifestFields.Nodup), ?_⟩
  simp only [RenderManifest.members, membersReadable, JsonTree.Readable, and_true, true_and,
    itemsReadable_iff, List.forall_mem_map]
  exact fun page hpage => page.readable (hfit page hpage) (hpages page hpage).1 (hpages page hpage).2

/-- A manifest of tiles whose integers can be written is readable. -/
theorem TileManifest.readable {manifest : TileManifest String}
    (hfit : (JsonTree.obj manifest.members).integersFit json = true) :
    (JsonTree.obj manifest.members).Readable json := by
  simp only [JsonTree.integersFit, TileManifest.members, membersFit, Bool.and_true, Bool.true_and,
    Bool.and_eq_true, decide_eq_true_eq, itemsFit_iff, List.forall_mem_map] at hfit
  obtain ⟨hnumber, hwidth, hheight, hoverlap, htiles⟩ := hfit
  refine ⟨(by decide : tileManifestFields.Nodup), ?_⟩
  simp only [TileManifest.members, membersReadable, JsonTree.Readable, and_true, true_and,
    itemsReadable_iff, List.forall_mem_map]
  exact ⟨hnumber, hwidth, hheight, hoverlap, fun tile htile => tile.readable (htiles tile htile)⟩

/-- The root of a payload is read back. -/
theorem readRoot_payload {members : List (String × JsonTree)} {payload : Bytes}
    (hreadable : (JsonTree.obj members).Readable json)
    (h : manifestPayload json members = .ok payload) (context : String) :
    readRoot json payload context = .ok (membersPoints (sortedByKeys members)) := by
  have hload := loadJsonValue_payload hreadable h
  cases htext : readUtf8 payload with
  | error error =>
      rw [htext] at hload
      cases hload
  | ok text =>
      rw [htext] at hload
      have hvalue : loadJsonValue json text = .ok (JsonTree.obj members).sortKeys.points := hload
      simp only [readRoot, htext, bind, Except.bind, hvalue]
      exact requireJsonObject_sorted hreadable context

/-- **Render manifests are read back.** -/
theorem readRenderManifest_payload {manifest : RenderManifest String} {payload : Bytes}
    (hpages : ∀ page ∈ manifest.pages,
      json.Reads page.effectiveDpiX ∧ json.Reads page.effectiveDpiY)
    (h : manifestPayload json manifest.members = .ok payload) :
    ∃ root, readRoot json payload "render manifest root" = .ok root ∧
      readRenderManifest floatOfInt (.obj root) = .ok (manifest.map pointsOf) := by
  have hreadable := RenderManifest.readable (manifestPayload_eq_ok h).1 hpages
  refine ⟨_, readRoot_payload hreadable h _, ?_⟩
  exact readRenderManifest_members floatOfInt hreadable

/-- **Tile manifests are read back.** -/
theorem tileManifestFromDict_payload {manifest : TileManifest String} {payload : Bytes}
    (h : manifestPayload json manifest.members = .ok payload) :
    ∃ root, readRoot json payload "tile manifest root" = .ok root ∧
      tileManifestFromDict (.obj root) = .ok (manifest.map pointsOf) := by
  have hreadable := TileManifest.readable (manifestPayload_eq_ok h).1
  refine ⟨_, readRoot_payload hreadable h _, ?_⟩
  exact tileManifestFromDict_members hreadable

end

end NplgMcp.Pdf
