import NplgMcp.Pdf.Transport

/-!
# The shapes of the worker's messages

What the models and the settings admit, in JSON: how many values a message has, how deep they nest,
and how long its text can get. An inspected page has nineteen values.
-/

namespace NplgMcp.Pdf

open Library.JsonText

/-! ## What an honest worker sends -/

/-- `max_document_pages` of the worker's `PdfProcessor`, which its settings do not change. -/
def maxDocumentPages : ℕ := 2000

/-- A number that is smaller than every infinite float. -/
def floatBound : ℕ := 2 ^ 1024

/-- The pages of an inspection are those of the document, within the worker's limit. The native
dimensions of a page are rounded floats. -/
structure PdfInspectionOutput.AdmittedBy (value : PdfInspectionOutput) : Prop where
  pages_length : value.pages.length = value.pageCount
  pageCount_le : value.pageCount ≤ maxDocumentPages
  nativeWidth_lt : ∀ page ∈ value.pages, ∀ width ∈ page.nativeWidth, width < floatBound
  nativeHeight_lt : ∀ page ∈ value.pages, ∀ height ∈ page.nativeHeight, height < floatBound

/-- Rendered pages within the limit on pixels. -/
def RenderPagesOutput.AdmittedBy (settings : PdfProcessorSettings) (value : RenderPagesOutput) :
    Prop :=
  ∀ page ∈ value.pages, page.width * page.height ≤ settings.maxPagePixels

/-- A tile within its page, which is within the limit on pixels. -/
structure RenderedTileOutput.AdmittedBy (settings : PdfProcessorSettings)
    (tile : RenderedTileOutput) : Prop where
  pixels_le : tile.fullPageWidth * tile.fullPageHeight ≤ settings.maxPagePixels
  right_le : tile.x + tile.width ≤ tile.fullPageWidth
  bottom_le : tile.y + tile.height ≤ tile.fullPageHeight

/-- The payloads that the settings admit. -/
def PdfPayload.AdmittedBy (settings : PdfProcessorSettings) : PdfPayload → Prop
  | .inspect value => value.AdmittedBy
  | .renderPages value | .manifest value => value.AdmittedBy settings
  | .renderTiles value => ∀ tile ∈ value.tiles, tile.AdmittedBy settings

/-- A message on the pipe. -/
inductive Message where
  | command (value : PdfCommand)
  | result (value : PdfResult)

/-- The messages that the settings admit. -/
def Message.AdmittedBy (settings : PdfProcessorSettings) : Message → Prop
  | .command _ => True
  | .result (.failure ..) => True
  | .result (.success _ payload) => payload.AdmittedBy settings

/-- A dumped message. -/
def Message.json : Message → JsonTree
  | .command value => value.json
  | .result value => value.json

/-- The floats of an inspected page. -/
def PageInspectionOutput.floats (page : PageInspectionOutput) : List ℚ :=
  [page.widthPoints, page.heightPoints] ++ page.dominantCoverage.toList ++
    page.effectiveDpiX.toList ++ page.effectiveDpiY.toList

/-- The floats of a payload. -/
def PdfPayload.floats : PdfPayload → List ℚ
  | .inspect value => value.pages.flatMap PageInspectionOutput.floats
  | .renderPages value | .manifest value =>
    value.pages.flatMap fun page => [page.effectiveDpiX, page.effectiveDpiY]
  | .renderTiles _ => []

/-- The floats of a message. -/
def Message.floats : Message → List ℚ
  | .command _ => []
  | .result (.failure ..) => []
  | .result (.success _ payload) => payload.floats

/-- An inspection of more pages than its JSON values leave room for. -/
def Message.IsLongInspection (message : Message) : Prop :=
  ∃ requestId value, message = .result (.success requestId (.inspect value)) ∧
    1724 < value.pages.length

section
variable (codecs : Codecs)

/-- The codecs are faithful to a message: its floats are written in at most 24 bytes and read back,
and its own text is validated as the message. -/
structure Codecs.FaithfulTo (message : Message) : Prop where
  reads : ∀ value ∈ message.floats, codecs.json.Reads value
  short : ∀ value ∈ message.floats, width (codecs.writeFloat value) ≤ 24
  command : ∀ command, message = .command command →
    codecs.validateCommand (dumpJson codecs message.json) = some command
  result : ∀ result, message = .result result →
    codecs.validateResult (dumpJson codecs message.json) = some result

/-- A message is framed, its frame is parsed as the same message, and so is the stream at the other
end of the pipe. -/
def Message.Carried : Message → Prop
  | .command value => ∃ body,
    encodeFrame codecs value.json maxCommandFrameBytes =
        .ok (lengthPrefix body.length ++ body) ∧
      parseCommandFrame codecs body = .ok value ∧
      receiveCommand codecs (lengthPrefix body.length ++ body) = some value
  | .result value => ∃ body,
    encodeFrame codecs value.json maxResultFrameBytes =
        .ok (lengthPrefix body.length ++ body) ∧
      parseResultFrame codecs body = .ok value ∧
      receiveResult codecs (sendResult codecs value) = .ok value

end

/-! ## The shapes of messages -/

section
variable {codecs : Codecs}

/-- The shape of a number below a power of ten. -/
theorem fits_number {value digits : ℕ} (h : value < 10 ^ digits)
    (hdigits : 0 < digits ∧ digits ≤ 4300 := by decide) :
    Fits codecs.json (natural value) ⟨1, 1, digits⟩ :=
  fits_natural hdigits.1 hdigits.2 h

/-- The shape of a value or a null. -/
theorem fits_orNull {α : Type} {json : α → JsonTree} {value : Option α} {bytes : ℕ}
    (h : ∀ given ∈ value, Fits codecs.json (json given) ⟨1, 1, bytes⟩) (hbytes : 4 ≤ bytes) :
    Fits codecs.json (orNull json value) ⟨1, 1, bytes⟩ := by
  cases value with
  | none => exact fits_null.mono le_rfl rfl hbytes
  | some value => exact h value rfl

/-- What the codecs do with the floats of a page. -/
def FaithfulFloats (codecs : Codecs) (floats : List ℚ) : Prop :=
  ∀ value ∈ floats, codecs.json.Reads value ∧ width (codecs.writeFloat value) ≤ 24

/-- The shape of a float of a message. -/
theorem FaithfulFloats.fits {floats : List ℚ} (h : FaithfulFloats codecs floats) {value : ℚ}
    (hmem : value ∈ floats) : Fits codecs.json (finiteFloat value) ⟨1, 1, 24⟩ :=
  fits_float (h value hmem).1 (h value hmem).2

/-- The bound on rounded floats. -/
theorem lt_pow_of_lt_floatBound {value : ℕ} (h : value < floatBound) : value < 10 ^ 309 :=
  h.trans_le (by decide +kernel)

/-- The shape of an inspected page: nineteen values. -/
theorem PageInspectionOutput.fits {page : PageInspectionOutput}
    (hfloats : FaithfulFloats codecs page.floats)
    (hwidth : ∀ width ∈ page.nativeWidth, width < floatBound)
    (hheight : ∀ height ∈ page.nativeHeight, height < floatBound) :
    Fits codecs.json page.json ⟨2, 19, 1800⟩ := by
  have hnumber : page.pageNumber < 10 ^ 5 := by
    have hmem := page.pageNumber_mem.2
    omega
  have hrotation : page.rotation < 10 ^ 3 := by
    have hmem := page.rotation_le
    omega
  have hcount : page.imageCount < 10 ^ 6 := by
    have hmem := page.imageCount_le
    omega
  have hindex : ∀ index ∈ page.dominantImageIndex,
      Fits codecs.json (natural index) ⟨1, 1, 6⟩ := fun index hindex => fits_number (by
    have hmem := page.dominantImageIndex_le index hindex
    omega)
  have hextension : ∀ extension ∈ page.dominantExtension,
      Fits codecs.json (.str extension) ⟨1, 1, 6 * 32 + 2⟩ := fun extension hextension =>
    fits_str (page.dominantExtension_length extension hextension).2
  have hfloat : ∀ {value : Option ℚ}, (∀ given ∈ value, given ∈ page.floats) →
      ∀ given ∈ value, Fits codecs.json (finiteFloat given) ⟨1, 1, 24⟩ :=
    fun hmem given hgiven => hfloats.fits (hmem given hgiven)
  refine (Fits.obj (.cons (fits_number hnumber) (.cons (hfloats.fits ?_) (.cons (hfloats.fits ?_)
    (.cons (fits_number hrotation) (.cons (fits_str page.classification_length.2)
    (.cons (fits_number hcount) (.cons (fits_bool _) (.cons (fits_bool _) (.cons (fits_bool _)
    (.cons (fits_orNull hindex (by decide)) (.cons (fits_orNull hextension (by decide))
    (.cons (fits_orNull (hfloat ?_) (by decide))
    (.cons (fits_orNull (fun n h => fits_number (lt_pow_of_lt_floatBound (hwidth n h))) ?_)
    (.cons (fits_orNull (fun n h => fits_number (lt_pow_of_lt_floatBound (hheight n h))) ?_)
    (.cons (fits_orNull (hfloat ?_) (by decide)) (.cons (fits_orNull (hfloat ?_) (by decide))
    (.cons (fits_bool _) (.cons (fits_bool _) .nil)))))))))))))))))) ?_).mono ?_ ?_ ?_
  · simp [floats]
  · simp [floats]
  · intro given hgiven
    simp [floats, Option.mem_def.1 hgiven]
  · decide
  · decide
  · intro given hgiven
    simp [floats, Option.mem_def.1 hgiven]
  · intro given hgiven
    simp [floats, Option.mem_def.1 hgiven]
  · simp only [List.map_cons, List.map_nil]
    decide
  · simp only [List.map_cons, List.map_nil]
    decide
  · rfl
  · simp only [List.map_cons, List.map_nil]
    decide

/-- The length of a digest. -/
theorem length_of_isSha256 {value : String} (h : isSha256 value = true) :
    value.toList.length ≤ 64 := by
  simp only [isSha256, Bool.and_eq_true, beq_iff_eq] at h
  exact h.1.le

/-- The length of a render identifier. -/
theorem length_of_isRenderId {value : String} (h : isRenderId value = true) :
    value.toList.length ≤ 36 := by
  simp only [isRenderId, Bool.and_eq_true, beq_iff_eq] at h
  exact h.1.2.le

/-- The length of a path. -/
theorem length_of_isSafeRelativePath {value : String} (h : isSafeRelativePath value = true) :
    value.toList.length ≤ 512 := by
  simp only [isSafeRelativePath, Bool.and_eq_true, decide_eq_true_eq] at h
  exact h.1

/-- The shape of a whole inspection. -/
theorem PdfInspectionOutput.fits {value : PdfInspectionOutput} (h : value.AdmittedBy)
    (hfloats : FaithfulFloats codecs (value.pages.flatMap PageInspectionOutput.floats)) :
    Fits codecs.json value.json
      ⟨4, value.pages.length * 19 + 5, value.pages.length * 1801 + 2100⟩ := by
  have hcount : value.pageCount < 10 ^ 5 := by
    have hle := value.pageCount_le
    omega
  have hpages : ∀ item ∈ value.pages.map PageInspectionOutput.json,
      Fits codecs.json item ⟨2, 19, 1800⟩ := by
    intro item hitem
    obtain ⟨page, hpage, rfl⟩ := List.mem_map.1 hitem
    refine PageInspectionOutput.fits (fun float hfloat => hfloats float ?_)
      (h.nativeWidth_lt page hpage) (h.nativeHeight_lt page hpage)
    exact List.mem_flatMap.2 ⟨page, hpage, hfloat⟩
  have harray := Fits.arr hpages
  rw [List.length_map] at harray
  refine (Fits.obj (.cons (fits_str (length_of_isSha256 value.sourceSha256_valid))
    (.cons (fits_number hcount) (.cons (fits_str value.rendererVersion_length.2)
    (.cons harray .nil)))) ?_).mono ?_ ?_ ?_
  · simp only [List.map_cons, List.map_nil]
    decide
  · simp only [List.map_cons, List.map_nil]
    decide
  · simp only [List.map_cons, List.map_nil, List.sum_cons, List.sum_nil]
    omega
  · have hkeys : keysWidth ["source_sha256", "page_count", "renderer_version", "pages"] ≤ 60 := by
      decide
    simp only [List.map_cons, List.map_nil, List.sum_cons, List.sum_nil]
    generalize keysWidth _ = keys at hkeys ⊢
    omega

/-- One side of a rectangle is no longer than the rectangle is large. -/
theorem side_lt {width height pixels : ℕ} (hheight : 1 ≤ height) (h : width * height ≤ pixels)
    (hpixels : pixels ≤ 120000000) : width < 10 ^ 9 := by
  have hle : width ≤ width * height := Nat.le_mul_of_pos_right width hheight
  omega

/-- The shape of a rendered page. -/
theorem RenderedPageOutput.fits {settings : PdfProcessorSettings} {page : RenderedPageOutput}
    (h : page.width * page.height ≤ settings.maxPagePixels)
    (hfloats : FaithfulFloats codecs [page.effectiveDpiX, page.effectiveDpiY]) :
    Fits codecs.json page.json ⟨2, 18, 6000⟩ := by
  have hnumber : page.pageNumber < 10 ^ 5 := by
    have hmem := page.pageNumber_mem.2
    omega
  have hrotation : page.rotation < 10 ^ 3 := by
    have hmem := page.rotation_le
    omega
  have hwidth := side_lt page.height_pos h settings.maxPagePixels_mem.2
  have hheight := side_lt page.width_pos (Nat.mul_comm _ _ ▸ h) settings.maxPagePixels_mem.2
  refine (Fits.obj (.cons (fits_number hnumber) (.cons (fits_number hwidth)
    (.cons (fits_number hheight) (.cons (fits_number hrotation)
    (.cons (fits_str page.classification_length.2) (.cons (hfloats.fits (by simp))
    (.cons (hfloats.fits (by simp)) (.cons (fits_str page.resolutionSource_length.2)
    (.cons (fits_str page.conversionPath_length.2)
    (.cons (fits_str (length_of_isSafeRelativePath page.relativePath_safe))
    (.cons (fits_str (length_of_isSha256 page.sha256_valid))
    (.cons (@fits_str _ _ 16 (by decide)) (.cons (fits_bool _) (.cons (fits_bool _)
    (.cons (fits_str page.rendererResampling_length.2) (.cons (fits_bool _)
    (.cons (fits_bool _) .nil))))))))))))))))) ?_).mono ?_ ?_ ?_
  · simp only [List.map_cons, List.map_nil]
    decide
  · simp only [List.map_cons, List.map_nil]
    decide
  · rfl
  · simp only [List.map_cons, List.map_nil]
    decide

/-- The shape of a render manifest. -/
theorem RenderPagesOutput.fits {settings : PdfProcessorSettings} {value : RenderPagesOutput}
    (h : value.AdmittedBy settings)
    (hfloats : FaithfulFloats codecs
      (value.pages.flatMap fun page => [page.effectiveDpiX, page.effectiveDpiY])) :
    Fits codecs.json value.json
      ⟨4, value.pages.length * 18 + 11, value.pages.length * 6001 + 6000⟩ := by
  have hpages : ∀ item ∈ value.pages.map RenderedPageOutput.json,
      Fits codecs.json item ⟨2, 18, 6000⟩ := by
    intro item hitem
    obtain ⟨page, hpage, rfl⟩ := List.mem_map.1 hitem
    refine RenderedPageOutput.fits (h page hpage) fun float hfloat => hfloats float ?_
    exact List.mem_flatMap.2 ⟨page, hpage, hfloat⟩
  have harray := Fits.arr hpages
  rw [List.length_map] at harray
  have hversion : ("1.0.0" : String).toList.length ≤ 5 := by decide
  refine (Fits.obj (.cons (fits_str hversion) (.cons (fits_str hversion)
    (.cons (fits_str hversion) (.cons (fits_str hversion)
    (.cons (fits_str (length_of_isRenderId value.renderId_valid))
    (.cons (fits_str (length_of_isSha256 value.sourceSha256_valid))
    (.cons (fits_str value.rendererVersion_length.2) (.cons (@fits_str _ _ 6 (by decide))
    (.cons harray (.cons
      (fits_str (length_of_isSafeRelativePath value.manifestRelativePath_safe))
    .nil)))))))))) ?_).mono ?_ ?_ ?_
  · simp only [List.map_cons, List.map_nil]
    decide
  · simp only [List.map_cons, List.map_nil]
    decide
  · simp only [List.map_cons, List.map_nil, List.sum_cons, List.sum_nil]
    omega
  · have hkeys : keysWidth ["manifest_schema_version", "render_pipeline_version",
        "classification_algorithm_version", "tile_pipeline_version", "render_id", "source_sha256",
        "renderer_version", "mode", "pages", "manifest_relative_path"] ≤ 300 := by
      decide
    simp only [List.map_cons, List.map_nil, List.sum_cons, List.sum_nil]
    generalize keysWidth _ = keys at hkeys ⊢
    omega

/-- The shape of a rendered tile. -/
theorem RenderedTileOutput.fits {settings : PdfProcessorSettings} {tile : RenderedTileOutput}
    (h : tile.AdmittedBy settings) : Fits codecs.json tile.json ⟨2, 18, 6000⟩ := by
  have hnumber : tile.pageNumber < 10 ^ 5 := by
    have hmem := tile.pageNumber_mem.2
    omega
  have hoverlap : tile.overlap < 10 ^ 3 := by
    have hmem : tile.overlap ≤ 512 := tile.overlap_mem
    omega
  have hfullWidth := side_lt tile.fullPageHeight_pos h.pixels_le settings.maxPagePixels_mem.2
  have hfullHeight := side_lt tile.fullPageWidth_pos (Nat.mul_comm _ _ ▸ h.pixels_le)
    settings.maxPagePixels_mem.2
  have hright := h.right_le
  have hbottom := h.bottom_le
  have hx : tile.x < 10 ^ 9 := by omega
  have hy : tile.y < 10 ^ 9 := by omega
  have hwidth : tile.width < 10 ^ 9 := by omega
  have hheight : tile.height < 10 ^ 9 := by omega
  refine (Fits.obj (.cons (fits_str tile.tileId_length.2) (.cons (fits_number hnumber)
    (.cons (fits_number hx) (.cons (fits_number hy) (.cons (fits_number hwidth)
    (.cons (fits_number hheight) (.cons (fits_number hfullWidth) (.cons (fits_number hfullHeight)
    (.cons (fits_number hoverlap)
    (.cons (fits_str (length_of_isSafeRelativePath tile.relativePath_safe))
    (.cons (fits_str (length_of_isSha256 tile.sha256_valid))
    (.cons (@fits_str _ _ 16 (by decide)) (.cons (fits_bool _) (.cons (fits_bool _)
    (.cons (@fits_str _ _ 16 (by decide)) (.cons (fits_bool _)
    (.cons (fits_bool _) .nil))))))))))))))))) ?_).mono ?_ ?_ ?_
  · simp only [List.map_cons, List.map_nil]
    decide
  · simp only [List.map_cons, List.map_nil]
    decide
  · rfl
  · simp only [List.map_cons, List.map_nil]
    decide

/-- The shape of a tile manifest. -/
theorem RenderTilesOutput.fits {settings : PdfProcessorSettings} {value : RenderTilesOutput}
    (h : ∀ tile ∈ value.tiles, tile.AdmittedBy settings) :
    Fits codecs.json value.json
      ⟨4, value.tiles.length * 18 + 13, value.tiles.length * 6001 + 6000⟩ := by
  have hnumber : value.pageNumber < 10 ^ 5 := by
    have hmem := value.pageNumber_mem.2
    omega
  have hwidth : value.tileWidth < 10 ^ 4 := by
    have hmem := value.tileWidth_mem.2
    omega
  have hheight : value.tileHeight < 10 ^ 4 := by
    have hmem := value.tileHeight_mem.2
    omega
  have hoverlap : value.overlap < 10 ^ 3 := by
    have hmem : value.overlap ≤ 512 := value.overlap_mem
    omega
  have htiles : ∀ item ∈ value.tiles.map RenderedTileOutput.json,
      Fits codecs.json item ⟨2, 18, 6000⟩ := by
    intro item hitem
    obtain ⟨tile, htile, rfl⟩ := List.mem_map.1 hitem
    exact RenderedTileOutput.fits (h tile htile)
  have harray := Fits.arr htiles
  rw [List.length_map] at harray
  have hversion : ("1.0.0" : String).toList.length ≤ 5 := by decide
  refine (Fits.obj (.cons (fits_str hversion) (.cons (fits_str hversion)
    (.cons (fits_str hversion) (.cons (fits_str hversion)
    (.cons (fits_str (length_of_isRenderId value.renderId_valid)) (.cons (fits_number hnumber)
    (.cons (fits_str (length_of_isSha256 value.pageSha256_valid)) (.cons (fits_number hwidth)
    (.cons (fits_number hheight) (.cons (fits_number hoverlap) (.cons harray (.cons
      (fits_str (length_of_isSafeRelativePath value.manifestRelativePath_safe))
    .nil)))))))))))) ?_).mono ?_ ?_ ?_
  · simp only [List.map_cons, List.map_nil]
    decide
  · simp only [List.map_cons, List.map_nil]
    decide
  · simp only [List.map_cons, List.map_nil, List.sum_cons, List.sum_nil]
    omega
  · have hkeys : keysWidth ["manifest_schema_version", "render_pipeline_version",
        "classification_algorithm_version", "tile_pipeline_version", "render_id", "page_number",
        "page_sha256", "tile_width", "tile_height", "overlap", "tiles",
        "manifest_relative_path"] ≤ 300 := by
      decide
    simp only [List.map_cons, List.map_nil, List.sum_cons, List.sum_nil]
    generalize keysWidth _ = keys at hkeys ⊢
    omega

/-- The length of a UUID. -/
theorem length_uuidText (value : ℕ) : (uuidText value).toList.length ≤ 36 := by
  simp [uuidText, hexDigits]

/-- The length of the name of an operation. -/
theorem length_operationText (operation : PdfOperation) :
    (operationText operation).toList.length ≤ 12 := by
  cases operation <;> decide

/-- The shape of a result is that of its payload with an envelope of five values. -/
theorem fits_success {requestId : ℕ} {payload : PdfPayload} {shape : Shape}
    (h : Fits codecs.json payload.valueJson shape) (hheight : 1 ≤ shape.height) :
    Fits codecs.json (PdfResult.success requestId payload).json
      ⟨shape.height + 2, shape.size + 5, shape.bytes + 500⟩ := by
  have hpayload : Fits codecs.json (.obj [("operation",
      .str (operationText payload.operation)), ("value", payload.valueJson)])
      ⟨shape.height + 1, shape.size + 2, shape.bytes + 150⟩ := by
    refine (Fits.obj (.cons (fits_str (length_operationText _)) (.cons h .nil)) ?_).mono ?_ ?_ ?_
    · simp only [List.map_cons, List.map_nil]
      decide
    · simp only [List.map_cons, List.map_nil, List.foldr_cons, List.foldr_nil]
      omega
    · simp only [List.map_cons, List.map_nil, List.sum_cons, List.sum_nil]
      omega
    · have hkeys : keysWidth ["operation", "value"] ≤ 30 := by decide
      simp only [List.map_cons, List.map_nil, List.sum_cons, List.sum_nil]
      generalize keysWidth _ = keys at hkeys ⊢
      omega
  refine (Fits.obj (.cons (fits_str (length_uuidText _)) (.cons (@fits_str _ _ 2 (by decide))
    (.cons hpayload .nil))) ?_).mono ?_ ?_ ?_
  · simp only [List.map_cons, List.map_nil]
    decide
  · simp only [List.map_cons, List.map_nil, List.foldr_cons, List.foldr_nil]
    omega
  · simp only [List.map_cons, List.map_nil, List.sum_cons, List.sum_nil]
    omega
  · have hkeys : keysWidth ["request_id", "status", "payload"] ≤ 50 := by decide
    simp only [List.map_cons, List.map_nil, List.sum_cons, List.sum_nil]
    generalize keysWidth _ = keys at hkeys ⊢
    omega

/-- The shape of a failure. -/
theorem fits_failure {requestId : ℕ} {operation : PdfOperation} {code : ErrorCode}
    {message : String} (h : hasLength message 512) :
    Fits codecs.json (PdfResult.failure requestId operation code message h).json
      ⟨3, 7, 4000⟩ := by
  have hcode : (errorCodeText code).toList.length ≤ 21 := by cases code <;> decide
  have hpayload : Fits codecs.json (.obj [("code", .str (errorCodeText code)),
      ("message", .str message)]) ⟨2, 3, 3400⟩ := by
    refine (Fits.obj (.cons (fits_str hcode) (.cons (fits_str h.2) .nil)) ?_).mono ?_ ?_ ?_
    · simp only [List.map_cons, List.map_nil]
      decide
    · simp only [List.map_cons, List.map_nil]
      decide
    · rfl
    · simp only [List.map_cons, List.map_nil]
      decide
  refine (Fits.obj (.cons (fits_str (length_uuidText _)) (.cons (@fits_str _ _ 5 (by decide))
    (.cons (fits_str (length_operationText _)) (.cons hpayload .nil)))) ?_).mono ?_ ?_ ?_
  · simp only [List.map_cons, List.map_nil]
    decide
  · simp only [List.map_cons, List.map_nil]
    decide
  · rfl
  · simp only [List.map_cons, List.map_nil]
    decide

/-- The shape of the parameters of a command. -/
theorem fits_parameters (codecs : Codecs) (command : PdfCommand) : ∃ shape,
    Fits codecs.json command.parametersJson shape ∧ shape.height ≤ 3 ∧ shape.size ≤ 20 ∧
      shape.bytes ≤ 1000 := by
  cases command with
  | inspect requestId source valid =>
      exact ⟨_, (Fits.obj .nil List.nodup_nil).mono le_rfl rfl le_rfl, by decide, by decide,
        by decide⟩
  | renderPages requestId source parameters valid =>
      have hpages : ∀ item ∈ parameters.pages.map natural, Fits codecs.json item ⟨1, 1, 5⟩ := by
        intro item hitem
        obtain ⟨page, hpage, rfl⟩ := List.mem_map.1 hitem
        have hmem := (parameters.pages_mem page hpage).2
        exact fits_number (by omega)
      have harray := Fits.arr hpages
      have hlength := parameters.pages_length.2
      rw [List.length_map] at harray
      refine ⟨_, Fits.obj (.cons harray (.cons (@fits_str _ _ 6 (by decide)) .nil)) ?_, ?_, ?_, ?_⟩
      · simp only [List.map_cons, List.map_nil]
        decide
      · simp only [List.map_cons, List.map_nil]
        decide
      · simp only [List.map_cons, List.map_nil, List.sum_cons, List.sum_nil]
        omega
      · have hkeys : keysWidth ["pages", "mode"] ≤ 20 := by decide
        simp only [List.map_cons, List.map_nil, List.sum_cons, List.sum_nil]
        generalize keysWidth _ = keys at hkeys ⊢
        omega
  | renderTiles requestId parameters =>
      have hnumber : parameters.pageNumber < 10 ^ 5 := by
        have hmem := parameters.pageNumber_mem.2
        omega
      have hwidth : ∀ n ∈ parameters.tileWidth, Fits codecs.json (natural n) ⟨1, 1, 4⟩ :=
        fun n hn => fits_number (by have hmem := (parameters.tileWidth_mem n hn).2; omega)
      have hheight : ∀ n ∈ parameters.tileHeight, Fits codecs.json (natural n) ⟨1, 1, 4⟩ :=
        fun n hn => fits_number (by have hmem := (parameters.tileHeight_mem n hn).2; omega)
      have hoverlap : ∀ n ∈ parameters.overlap, Fits codecs.json (natural n) ⟨1, 1, 4⟩ :=
        fun n hn => fits_number (by
          have hmem : n ≤ 512 := parameters.overlap_mem n hn
          omega)
      refine ⟨_, Fits.obj (.cons (fits_str (length_of_isRenderId parameters.renderId_valid))
        (.cons (fits_number hnumber) (.cons (fits_orNull hwidth le_rfl)
        (.cons (fits_orNull hheight le_rfl) (.cons (fits_orNull hoverlap le_rfl) .nil))))) ?_,
        ?_, ?_, ?_⟩
      · simp only [List.map_cons, List.map_nil]
        decide
      · simp only [List.map_cons, List.map_nil]
        decide
      · simp only [List.map_cons, List.map_nil]
        decide
      · simp only [List.map_cons, List.map_nil]
        decide
  | manifest requestId renderId valid =>
      refine ⟨_, Fits.obj (.cons (fits_str (length_of_isRenderId valid)) .nil) ?_, ?_, ?_, ?_⟩
      · simp only [List.map_cons, List.map_nil]
        decide
      · simp only [List.map_cons, List.map_nil]
        decide
      · simp only [List.map_cons, List.map_nil]
        decide
      · simp only [List.map_cons, List.map_nil]
        decide

/-- The shape of a command. -/
theorem PdfCommand.fits (codecs : Codecs) (command : PdfCommand) : ∃ shape,
    Fits codecs.json command.json shape ∧ shape.height ≤ maxJsonDepth ∧
      shape.size ≤ maxJsonValues ∧ shape.bytes ≤ maxCommandFrameBytes := by
  obtain ⟨shape, hparameters, hheight, hsize, hbytes⟩ := fits_parameters codecs command
  have hid := @fits_str codecs.json _ _ (length_uuidText command.requestId)
  have hoperation := @fits_str codecs.json _ _ (length_operationText command.operation)
  have hsource : ∀ source, isSafeRelativePath source = true →
      Fits codecs.json (.str source) ⟨1, 1, 6 * 512 + 2⟩ :=
    fun source valid => fits_str (length_of_isSafeRelativePath valid)
  have hlong : ∀ source, isSafeRelativePath source = true →
      command.sourceJson = [("source_relative_path", .str source)] → ∃ shape,
      Fits codecs.json command.json shape ∧ shape.height ≤ maxJsonDepth ∧
        shape.size ≤ maxJsonValues ∧ shape.bytes ≤ maxCommandFrameBytes := by
    intro source valid hjson
    unfold PdfCommand.json
    rw [hjson]
    simp only [List.cons_append, List.nil_append]
    refine ⟨_, Fits.obj (.cons hid (.cons hoperation (.cons (hsource source valid)
      (.cons hparameters .nil)))) ?_, ?_, ?_, ?_⟩
    · simp only [List.map_cons, List.map_nil]
      decide
    · simp only [List.map_cons, List.map_nil, List.foldr_cons, List.foldr_nil, maxJsonDepth]
      omega
    · simp only [List.map_cons, List.map_nil, List.sum_cons, List.sum_nil, maxJsonValues]
      omega
    · have hkeys : keysWidth ["request_id", "operation", "source_relative_path",
          "parameters"] ≤ 100 := by
        decide
      simp only [List.map_cons, List.map_nil, List.sum_cons, List.sum_nil, maxCommandFrameBytes]
      generalize keysWidth _ = keys at hkeys ⊢
      omega
  have hshort : command.sourceJson = [] → ∃ shape,
      Fits codecs.json command.json shape ∧ shape.height ≤ maxJsonDepth ∧
        shape.size ≤ maxJsonValues ∧ shape.bytes ≤ maxCommandFrameBytes := by
    intro hjson
    unfold PdfCommand.json
    rw [hjson]
    simp only [List.cons_append, List.nil_append]
    refine ⟨_, Fits.obj (.cons hid (.cons hoperation (.cons hparameters .nil))) ?_, ?_, ?_, ?_⟩
    · simp only [List.map_cons, List.map_nil]
      decide
    · simp only [List.map_cons, List.map_nil, List.foldr_cons, List.foldr_nil, maxJsonDepth]
      omega
    · simp only [List.map_cons, List.map_nil, List.sum_cons, List.sum_nil, maxJsonValues]
      omega
    · have hkeys : keysWidth ["request_id", "operation", "parameters"] ≤ 100 := by decide
      simp only [List.map_cons, List.map_nil, List.sum_cons, List.sum_nil, maxCommandFrameBytes]
      generalize keysWidth _ = keys at hkeys ⊢
      omega
  cases command with
  | inspect requestId source valid => exact hlong source valid rfl
  | renderPages requestId source parameters valid => exact hlong source valid rfl
  | renderTiles requestId parameters => exact hshort rfl
  | manifest requestId renderId valid => exact hshort rfl

end

end NplgMcp.Pdf
