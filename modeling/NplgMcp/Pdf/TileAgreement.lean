import NplgMcp.Pdf.Binding

/-!
# Tiles that are accepted are the tiles of the page

The parent compares the tiles a worker reports with boxes it computes itself, without the checks
`_tile_layout` makes first. `tileBinding_agrees_iff` says when that comes to the same.
-/

namespace NplgMcp.Pdf

section
variable (readManifest : Bytes → Option RenderPagesOutput) (settings : PdfProcessorSettings)

/-- The reported tiles are those the worker's own tiling makes of a page of the staged manifest, in
order and under their derived identifiers. -/
structure TilesOf (parameters : RenderTilesParams) (rendered : RenderTilesOutput)
    (staged : StagedFile) : Prop where
  geometry : rendered.tileWidth = expectedWidth settings parameters ∧
    rendered.tileHeight = expectedHeight settings parameters ∧
    rendered.overlap = expectedOverlap settings parameters
  pageNumber : rendered.pageNumber = parameters.pageNumber
  tiles : ∃ manifest page, loadStagedRenderManifest readManifest settings staged
      parameters.renderId = .ok manifest ∧
    page ∈ manifest.pages ∧ page.pageNumber = parameters.pageNumber ∧
    page.sha256 = rendered.pageSha256 ∧
    tileBoxes page.width page.height (effectiveGeometry settings parameters) =
      .ok (rendered.tiles.map (·.box)) ∧
    ∃ identifier, tileGeometryIdentifier (expectedWidth settings parameters)
        (expectedHeight settings parameters) (expectedOverlap settings parameters) =
        .ok identifier ∧
      ∀ tile ∈ rendered.tiles,
        tile.tileId = tileIdentifier parameters.pageNumber identifier tile.x tile.y ∧
        tile.pageNumber = parameters.pageNumber ∧ tile.fullPageWidth = page.width ∧
        tile.fullPageHeight = page.height ∧ tile.overlap = expectedOverlap settings parameters

/-- What the parent may make of a result: a `PdfWorkerError`, or tiles that are the worker's. -/
inductive Agrees (parameters : RenderTilesParams) (payload : PdfPayload) (staged : StagedFile) :
    Except WorkerError Unit → Prop
  | raised {error : WorkerError} : error.isPdfWorkerError = true →
      Agrees parameters payload staged (.error error)
  | accepted {rendered : RenderTilesOutput} : payload = .renderTiles rendered →
      TilesOf readManifest settings parameters rendered staged →
      Agrees parameters payload staged (.ok ())

/-- The report is for the page and the geometry of the command. -/
structure ReportMatches (parameters : RenderTilesParams) (rendered : RenderTilesOutput) :
    Prop where
  renderId : rendered.renderId = parameters.renderId
  pageNumber : rendered.pageNumber = parameters.pageNumber
  geometry : (rendered.tileWidth, rendered.tileHeight, rendered.overlap) =
    (expectedWidth settings parameters, expectedHeight settings parameters,
      expectedOverlap settings parameters)

/-- The report names a page of the staged manifest. -/
def NamesPage (parameters : RenderTilesParams) (rendered : RenderTilesOutput)
    (staged : StagedFile) : Prop :=
  ∃ manifest page, loadStagedRenderManifest readManifest settings staged parameters.renderId =
      .ok manifest ∧
    manifest.pages.find? (·.pageNumber == parameters.pageNumber) = some page ∧
    rendered.pageSha256 = page.sha256

/-- A stride of the geometry is zero: the overlap is as wide or as high as a tile. -/
def ZeroStride (parameters : RenderTilesParams) : Prop :=
  expectedOverlap settings parameters = expectedWidth settings parameters ∨
    expectedOverlap settings parameters = expectedHeight settings parameters

end

section
variable {readManifest : Bytes → Option RenderPagesOutput} {sha256 : Bytes → String}
  {settings : PdfProcessorSettings} {parameters : RenderTilesParams}
  {rendered : RenderTilesOutput} {page : RenderedPageOutput} {staged : StagedFile}

/-- A geometry that a report repeats has dimensions and an overlap that the model takes. -/
theorem ReportMatches.bounds (h : ReportMatches settings parameters rendered) :
    isTileDimension (expectedWidth settings parameters) ∧
      isTileDimension (expectedHeight settings parameters) ∧
      isTileOverlap (expectedOverlap settings parameters) := by
  obtain ⟨hwidth, hrest⟩ := Prod.mk.inj h.geometry
  obtain ⟨hheight, hoverlap⟩ := Prod.mk.inj hrest
  rw [← hwidth, ← hheight, ← hoverlap]
  exact ⟨rendered.tileWidth_mem, rendered.tileHeight_mem, rendered.overlap_mem⟩

/-- Its geometry identifier exists. -/
theorem ReportMatches.identifier (h : ReportMatches settings parameters rendered) :
    ∃ identifier, tileGeometryIdentifier (expectedWidth settings parameters)
      (expectedHeight settings parameters) (expectedOverlap settings parameters) =
        .ok identifier := by
  obtain ⟨⟨hwidth, hwidth'⟩, ⟨hheight, hheight'⟩, hoverlap⟩ := h.bounds
  unfold isTileOverlap at hoverlap
  exact ⟨_, if_pos ⟨⟨by omega, by omega⟩, ⟨by omega, by omega⟩, by omega⟩⟩

/-- **A geometry with boxes is one the worker tiles with**, unless a stride is zero. -/
theorem ReportMatches.valid (h : ReportMatches settings parameters rendered)
    (hzero : ¬ ZeroStride settings parameters)
    (hboxes : boxesOf page.width page.height (effectiveGeometry settings parameters) ≠ []) :
    (effectiveGeometry settings parameters).Valid := by
  obtain ⟨⟨hwidth, hwidth'⟩, ⟨hheight, hheight'⟩, hoverlap⟩ := h.bounds
  have hpositive : ¬ ((effectiveGeometry settings parameters).strideX < 0 ∨
      (effectiveGeometry settings parameters).strideY < 0) := fun hneg =>
    hboxes (boxesOf_of_neg (by exact_mod_cast page.width_pos)
      (by exact_mod_cast page.height_pos) hneg)
  simp only [ZeroStride, not_or] at hzero
  simp only [TileGeometry.strideX, TileGeometry.strideY, effectiveGeometry, not_or,
    not_lt] at hpositive
  unfold isTileOverlap at hoverlap
  constructor <;> simp only [effectiveGeometry, hardMaxTileDimension, hardMaxTileOverlap] <;> omega

/-- Where a stride is zero the count of the tiles divides by it. -/
theorem validateTiles_of_zeroStride (h : ZeroStride settings parameters) :
    validateTiles settings parameters rendered page = .error .zeroDivision := by
  unfold validateTiles
  by_cases hwidth : (effectiveGeometry settings parameters).strideX = 0
  · have hcolumns : floorDiv (page.width - 1) (effectiveGeometry settings parameters).strideX =
        .error .zeroDivision := if_pos hwidth
    simp only [hcolumns, bind, Except.bind]
  · have hheight : (effectiveGeometry settings parameters).strideY = 0 := by
      simp only [TileGeometry.strideX, TileGeometry.strideY, effectiveGeometry] at hwidth ⊢
      rcases h with h | h <;> omega
    have hcolumns : floorDiv (page.width - 1) (effectiveGeometry settings parameters).strideX =
        .ok _ := if_neg hwidth
    have hrows : floorDiv (page.height - 1) (effectiveGeometry settings parameters).strideY =
        .error .zeroDivision := if_pos hheight
    simp only [hcolumns, hrows, bind, Except.bind]

/-- Otherwise the tiles are refused, or they are the worker's. -/
theorem validateTiles_cases (h : ReportMatches settings parameters rendered)
    (hzero : ¬ ZeroStride settings parameters) :
    (∃ message, validateTiles settings parameters rendered page = .error (.rejected message)) ∨
      validateTiles settings parameters rendered page = .ok () ∧
      tileBoxes page.width page.height (effectiveGeometry settings parameters) =
        .ok (rendered.tiles.map (·.box)) ∧
      ∃ identifier, tileGeometryIdentifier (expectedWidth settings parameters)
          (expectedHeight settings parameters) (expectedOverlap settings parameters) =
          .ok identifier ∧
        ∀ tile ∈ rendered.tiles,
          tile.tileId = tileIdentifier parameters.pageNumber identifier tile.x tile.y ∧
          tile.pageNumber = parameters.pageNumber ∧ tile.fullPageWidth = page.width ∧
          tile.fullPageHeight = page.height ∧
          tile.overlap = expectedOverlap settings parameters := by
  obtain ⟨identifier, hidentifier⟩ := h.identifier
  have hstrideX : (effectiveGeometry settings parameters).strideX ≠ 0 := fun hstride =>
    hzero (.inl (by simp only [TileGeometry.strideX, effectiveGeometry] at hstride; omega))
  have hstrideY : (effectiveGeometry settings parameters).strideY ≠ 0 := fun hstride =>
    hzero (.inr (by simp only [TileGeometry.strideY, effectiveGeometry] at hstride; omega))
  have hcolumns : floorDiv (page.width - 1) (effectiveGeometry settings parameters).strideX =
      .ok _ := if_neg hstrideX
  have hrows : floorDiv (page.height - 1) (effectiveGeometry settings parameters).strideY =
      .ok _ := if_neg hstrideY
  unfold validateTiles
  simp only [hcolumns, hrows, hidentifier, bind, Except.bind]
  by_cases hcount : ((page.width - 1 : ℤ).fdiv (effectiveGeometry settings parameters).strideX + 1) *
      ((page.height - 1 : ℤ).fdiv (effectiveGeometry settings parameters).strideY + 1) >
        settings.maxTilesPerPage
  · rw [if_pos hcount]
    exact .inl ⟨_, rfl⟩
  by_cases hboxes : rendered.tiles.map (·.box) ≠
      boxesOf page.width page.height (effectiveGeometry settings parameters)
  · rw [if_neg hcount, if_pos hboxes]
    exact .inl ⟨_, rfl⟩
  rw [if_neg hcount, if_neg hboxes]
  have hsame := not_not.1 hboxes
  have hnonempty : boxesOf page.width page.height (effectiveGeometry settings parameters) ≠ [] := by
    rw [← hsame, ne_eq, List.map_eq_nil_iff, ← List.length_eq_zero_iff]
    have hlength := rendered.tiles_length.1
    omega
  simp only [pure, Except.pure]
  split_ifs with hmetadata
  · exact .inl ⟨_, rfl⟩
  · refine .inr ⟨rfl, ?_, identifier, rfl, fun tile hmem => ?_⟩
    · rw [hsame]
      exact tileBoxes_eq (by exact_mod_cast page.width_pos) (by exact_mod_cast page.height_pos)
        (h.valid hzero hnonempty)
    · have htile := List.any_eq_false.1 (Bool.eq_false_iff.2 hmetadata) tile hmem
      simpa [and_assoc] using htile

/-- The pixel budget is refused with a `PdfWorkerError`. -/
theorem validateRenderPixelBudget_error {manifest : RenderPagesOutput} {error : WorkerError}
    (h : validateRenderPixelBudget settings manifest = .error error) :
    error.isPdfWorkerError = true := by
  have hpixels : ∀ {pages : List RenderedPageOutput} {total : ℕ},
      checkPixels settings total pages = .error error → error.isPdfWorkerError = true := by
    intro pages
    induction pages with
    | nil =>
        intro total h
        cases h
    | cons page rest ih =>
        intro total h
        unfold checkPixels at h
        split_ifs at h
        · cases h
          rfl
        · cases h
          rfl
        · exact ih h
  unfold validateRenderPixelBudget at h
  split_ifs at h
  · cases h
    rfl
  · exact hpixels h

/-- Reading the staged manifest raises an `OSError` or a `PdfWorkerError`. -/
theorem loadStagedRenderManifest_error {renderId : String} {error : WorkerError}
    (h : loadStagedRenderManifest readManifest settings staged renderId = .error error) :
    staged = .osError ∧ error = .osError ∨ error.isPdfWorkerError = true := by
  unfold loadStagedRenderManifest at h
  split at h
  · exact .inl ⟨rfl, (Except.error.inj h).symm⟩
  · exact .inr (by cases h; rfl)
  · exact .inr (by cases h; rfl)
  · exact .inr (by cases h; rfl)
  · split_ifs at h
    · exact .inr (by cases h; rfl)
    · split at h
      · exact .inr (by cases h; rfl)
      · next manifest _ =>
          split_ifs at h
          · exact .inr (by cases h; rfl)
          · cases hbudget : validateRenderPixelBudget settings manifest with
            | ok => rw [hbudget] at h; cases h
            | error error' =>
                rw [hbudget] at h
                obtain rfl := Except.error.inj h
                exact .inr (validateRenderPixelBudget_error hbudget)

/-- **One report.** The binding of a report that matches its command is refused, is the tiles of the
page, or reaches a division by zero or a cache directory that cannot be read. -/
theorem validateTileResultBinding_cases (h : ReportMatches settings parameters rendered) :
    ((∃ error, validateTileResultBinding readManifest settings parameters rendered staged =
          .error error ∧ error.isPdfWorkerError = true) ∨
        validateTileResultBinding readManifest settings parameters rendered staged = .ok () ∧
          TilesOf readManifest settings parameters rendered staged) ∧
      ¬ (staged = .osError ∨ ZeroStride settings parameters ∧
        NamesPage readManifest settings parameters rendered staged) ∨
    (∃ error, validateTileResultBinding readManifest settings parameters rendered staged =
        .error error ∧ error.isPdfWorkerError = false) ∧
      (staged = .osError ∨ ZeroStride settings parameters ∧
        NamesPage readManifest settings parameters rendered staged) := by
  unfold validateTileResultBinding
  rw [if_neg (not_not.2 h.pageNumber), if_neg (not_not.2 h.geometry)]
  cases hload : loadStagedRenderManifest readManifest settings staged parameters.renderId with
  | error error =>
      obtain ⟨hstaged, rfl⟩ | herror := loadStagedRenderManifest_error hload
      · exact .inr ⟨⟨_, rfl, rfl⟩, .inl hstaged⟩
      · refine .inl ⟨.inl ⟨_, rfl, herror⟩, ?_⟩
        rintro (rfl | ⟨-, manifest, page, hok, -⟩)
        · obtain rfl := Except.error.inj hload
          cases herror
        · rw [hload] at hok
          cases hok
  | ok manifest =>
      have hstaged : staged ≠ .osError := by
        rintro rfl
        cases hload
      have hnamed : ∀ {page : RenderedPageOutput},
          NamesPage readManifest settings parameters rendered staged →
          manifest.pages.find? (·.pageNumber == parameters.pageNumber) = some page →
          rendered.pageSha256 = page.sha256 := by
        rintro page ⟨_, page', hok, hfind', hsha⟩ hfind
        obtain rfl := Except.ok.inj (hload.symm.trans hok)
        obtain rfl := Option.some.inj (hfind.symm.trans hfind')
        exact hsha
      change ((∃ error, validateAgainstManifest settings parameters rendered manifest = _ ∧ _) ∨
        validateAgainstManifest settings parameters rendered manifest = _ ∧ _) ∧ _ ∨
        (∃ error, validateAgainstManifest settings parameters rendered manifest = _ ∧ _) ∧ _
      unfold validateAgainstManifest
      cases hfind : manifest.pages.find? (·.pageNumber == parameters.pageNumber) with
      | none =>
          refine .inl ⟨.inl ⟨_, rfl, rfl⟩, ?_⟩
          rintro (hos | ⟨-, _, page, hok, hpage, -⟩)
          · exact hstaged hos
          · obtain rfl := Except.ok.inj (hload.symm.trans hok)
            rw [hfind] at hpage
            cases hpage
      | some page =>
          dsimp only
          by_cases hsha : rendered.pageSha256 = page.sha256
          · rw [if_neg (not_not.2 hsha)]
            by_cases hzero : ZeroStride settings parameters
            · refine .inr ⟨⟨_, validateTiles_of_zeroStride hzero, rfl⟩, .inr ⟨hzero, ?_⟩⟩
              exact ⟨manifest, page, hload, hfind, hsha⟩
            · refine .inl ⟨?_, fun hbad => hbad.elim hstaged fun hbad => hzero hbad.1⟩
              obtain ⟨message, herror⟩ | ⟨hok, htiles, hmetadata⟩ := validateTiles_cases h hzero
              · exact .inl ⟨_, herror, rfl⟩
              · obtain ⟨hwidth, hrest⟩ := Prod.mk.inj h.geometry
                obtain ⟨hheight, hoverlap⟩ := Prod.mk.inj hrest
                refine .inr ⟨hok, ⟨hwidth, hheight, hoverlap⟩, h.pageNumber, manifest, page, hload,
                  List.mem_of_find?_eq_some hfind, ?_, hsha.symm, htiles, hmetadata⟩
                simpa using List.find?_some hfind
          · rw [if_pos hsha]
            refine .inl ⟨.inl ⟨_, rfl, rfl⟩, ?_⟩
            rintro (hos | ⟨-, hnames⟩)
            · exact hstaged hos
            · exact hsha (hnamed hnames hfind)

/-- What becomes of a report of tiles. -/
theorem reportBinding_agrees_iff :
    Agrees readManifest settings parameters (.renderTiles rendered) staged
        (if rendered.renderId ≠ parameters.renderId then
          .error (.rejected "PDF worker response render ID mismatch")
        else validateTileResultBinding readManifest settings parameters rendered staged) ↔
      ¬ (ReportMatches settings parameters rendered ∧
        (staged = .osError ∨ ZeroStride settings parameters ∧
          NamesPage readManifest settings parameters rendered staged)) := by
  by_cases hrender : rendered.renderId = parameters.renderId
  · rw [if_neg (not_not.2 hrender)]
    by_cases hmatches : rendered.pageNumber = parameters.pageNumber ∧
        (rendered.tileWidth, rendered.tileHeight, rendered.overlap) =
          (expectedWidth settings parameters, expectedHeight settings parameters,
            expectedOverlap settings parameters)
    · have hreport : ReportMatches settings parameters rendered :=
        ⟨hrender, hmatches.1, hmatches.2⟩
      obtain ⟨hgood, hnot⟩ | ⟨⟨error, heq, herror⟩, hbad⟩ :=
        @validateTileResultBinding_cases readManifest settings parameters rendered staged hreport
      · refine iff_of_true ?_ fun h => hnot h.2
        obtain ⟨error, heq, herror⟩ | ⟨heq, htiles⟩ := hgood
        · rw [heq]
          exact .raised herror
        · rw [heq]
          exact .accepted rfl htiles
      · rw [heq]
        refine iff_of_false (fun hgood => ?_) (not_not.2 ⟨hreport, hbad⟩)
        cases hgood with
        | raised hworker => rw [herror] at hworker; cases hworker
    · refine iff_of_true ?_ fun h => hmatches ⟨h.1.pageNumber, h.1.geometry⟩
      unfold validateTileResultBinding
      by_cases hpage : rendered.pageNumber = parameters.pageNumber
      · rw [if_neg (not_not.2 hpage), if_pos fun hgeometry => hmatches ⟨hpage, hgeometry⟩]
        exact .raised rfl
      · rw [if_pos hpage]
        exact .raised rfl
  · rw [if_pos hrender]
    exact iff_of_true (.raised rfl) fun h => hrender h.1.renderId

/-- A report of tiles under the identifier of its request. -/
theorem validateResultBinding_report {requestId : ℕ} {expectedSourceSha256 : Option String} :
    validateResultBinding readManifest sha256 settings (.renderTiles requestId parameters)
        (.success requestId (.renderTiles rendered)) expectedSourceSha256 staged =
      if rendered.renderId ≠ parameters.renderId then
        .error (.rejected "PDF worker response render ID mismatch")
      else validateTileResultBinding readManifest settings parameters rendered staged := by
  have hid : ¬ (PdfResult.success requestId (.renderTiles rendered)).requestId ≠
      (PdfCommand.renderTiles requestId parameters).requestId := not_not.2 rfl
  have hoperation : ¬ (PdfResult.success requestId (.renderTiles rendered)).operation ≠
      (PdfCommand.renderTiles requestId parameters).operation := not_not.2 rfl
  unfold validateResultBinding
  rw [if_neg hid, if_neg hoperation]
  cases expectedSourceSha256 <;> rfl

/-- **Tiles that are accepted.** Whatever a worker reports and leaves behind, the parent raises a
`PdfWorkerError` or accepts exactly the tiles of the page under the effective geometry, unless the
report matches its command and its render, and the job's cache directory cannot be read or the
effective overlap is as wide or as high as a tile. -/
theorem tileBinding_agrees_iff {requestId resultId : ℕ} {payload : PdfPayload}
    {expectedSourceSha256 : Option String} :
    Agrees readManifest settings parameters payload staged
        (validateResultBinding readManifest sha256 settings (.renderTiles requestId parameters)
          (.success resultId payload) expectedSourceSha256 staged) ↔
      ¬ (resultId = requestId ∧ ∃ rendered, payload = .renderTiles rendered ∧
        ReportMatches settings parameters rendered ∧
        (staged = .osError ∨ ZeroStride settings parameters ∧
          NamesPage readManifest settings parameters rendered staged)) := by
  by_cases hid : resultId = requestId
  · subst hid
    have hsame : ¬ (PdfResult.success resultId payload).requestId ≠
        (PdfCommand.renderTiles resultId parameters).requestId := not_not.2 rfl
    cases payload with
    | renderTiles rendered =>
        rw [validateResultBinding_report]
        exact reportBinding_agrees_iff.trans (not_congr ⟨fun h => ⟨rfl, rendered, rfl, h⟩,
          fun ⟨_, _, heq, h⟩ => PdfPayload.renderTiles.inj heq ▸ h⟩)
    | inspect value =>
        unfold validateResultBinding
        rw [if_neg hsame]
        exact iff_of_true (.raised rfl) (by simp)
    | renderPages value =>
        unfold validateResultBinding
        rw [if_neg hsame]
        exact iff_of_true (.raised rfl) (by simp)
    | manifest value =>
        unfold validateResultBinding
        rw [if_neg hsame]
        exact iff_of_true (.raised rfl) (by simp)
  · have hother : (PdfResult.success resultId payload).requestId ≠
        (PdfCommand.renderTiles requestId parameters).requestId := hid
    unfold validateResultBinding
    rw [if_pos hother]
    exact iff_of_true (.raised rfl) fun h => hid h.1

/-- A manifest that is read, is where it says it is, and keeps to the budget is loaded. -/
theorem loadStagedRenderManifest_ok {data : Bytes} {renderId : String}
    {manifest : RenderPagesOutput} (hlength : data.length ≤ maxResultFrameBytes)
    (hread : readManifest data = some manifest) (hrender : manifest.renderId = renderId)
    (hpath : manifest.manifestRelativePath = "renders/" ++ renderId ++ "/manifest.json")
    (hbudget : validateRenderPixelBudget settings manifest = .ok ()) :
    loadStagedRenderManifest readManifest settings (.content data) renderId = .ok manifest := by
  unfold loadStagedRenderManifest
  dsimp only
  rw [if_neg (not_lt.2 hlength), hread]
  dsimp only
  rw [if_neg (not_or.2 ⟨not_not.2 hrender, not_not.2 hpath⟩), hbudget]
  rfl

end

/-! ## An overlap as wide as a tile -/

/-- Sixty-four zeros. -/
def zeroDigest : String :=
  "0000000000000000000000000000000000000000000000000000000000000000"

/-- The render of the examples. -/
def zeroRender : String := "rnd_00000000000000000000000000000000"

/-- The settings of a parent with small tiles. -/
def smallTiles : PdfProcessorSettings :=
  { PdfProcessorSettings.standard with
    tileWidth := 300
    tileHeight := 300
    tileWidth_mem := by decide
    tileHeight_mem := by decide
    tileOverlap_lt := by decide }

/-- A command that sets the overlap and leaves the dimensions to the settings. -/
def wideOverlap : RenderTilesParams where
  renderId := zeroRender
  pageNumber := 1
  overlap := some 300
  renderId_valid := by decide +kernel
  pageNumber_mem := by decide
  tileWidth_mem := by simp
  tileHeight_mem := by simp
  overlap_mem := by simp [isTileOverlap]
  overlap_lt := by simp

/-- A rendered page of a thousand pixels square. -/
def thousandPage : RenderedPageOutput where
  pageNumber := 1
  width := 1000
  height := 1000
  rotation := 0
  classification := "vector"
  effectiveDpiX := 400
  effectiveDpiY := 400
  resolutionSource := "fallback"
  conversionPath := "render"
  relativePath := "renders/page.jpg"
  sha256 := zeroDigest
  resizeApplied := false
  pixelDimensionsPreserved := true
  rendererResampling := "none"
  reencoded := true
  lossyConversion := true
  pageNumber_mem := by decide
  width_pos := by decide
  height_pos := by decide
  rotation_le := by decide
  classification_length := by decide
  effectiveDpiX_pos := by decide +kernel
  effectiveDpiY_pos := by decide +kernel
  resolutionSource_length := by decide
  conversionPath_length := by decide
  relativePath_safe := by decide
  sha256_valid := by decide +kernel
  rendererResampling_length := by decide

/-- Its manifest. -/
def thousandManifest : RenderPagesOutput where
  renderId := zeroRender
  sourceSha256 := zeroDigest
  rendererVersion := "r1"
  pages := [thousandPage]
  manifestRelativePath := "renders/" ++ zeroRender ++ "/manifest.json"
  renderId_valid := by decide +kernel
  sourceSha256_valid := by decide +kernel
  rendererVersion_length := by decide
  pages_length := by decide
  manifestRelativePath_safe := by decide +kernel

/-- The manifest as it is written. -/
def thousandManifestJson : Bytes :=
  ascii "\x7b\"manifest_schema_version\":\"1.0.0\",\"render_pipeline_version\":\"1.0.0\"," ++
  ascii "\"classification_algorithm_version\":\"1.0.0\",\"tile_pipeline_version\":\"1.0.0\"," ++
  ascii "\"render_id\":\"" ++ ascii zeroRender ++ ascii "\",\"source_sha256\":\"" ++
  ascii zeroDigest ++ ascii "\",\"renderer_version\":\"r1\",\"mode\":\"native\",\"pages\":[" ++
  ascii "\x7b\"page_number\":1,\"width\":1000,\"height\":1000,\"rotation\":0," ++
  ascii "\"classification\":\"vector\",\"effective_dpi_x\":400.0,\"effective_dpi_y\":400.0," ++
  ascii "\"resolution_source\":\"fallback\",\"conversion_path\":\"render\"," ++
  ascii "\"relative_path\":\"renders/page.jpg\",\"sha256\":\"" ++ ascii zeroDigest ++
  ascii "\",\"media_type\":\"image/jpeg\",\"resize_applied\":false," ++
  ascii "\"pixel_dimensions_preserved\":true,\"renderer_resampling\":\"none\"," ++
  ascii "\"reencoded\":true,\"lossy_conversion\":true\x7d],\"manifest_relative_path\":\"" ++
  ascii "renders/" ++ ascii zeroRender ++ ascii "/manifest.json\"\x7d"

/-- A reader of that manifest. -/
def readThousandManifest (data : Bytes) : Option RenderPagesOutput :=
  if data = thousandManifestJson then some thousandManifest else none

/-- A tile of the size of the settings. -/
def cornerTile : RenderedTileOutput where
  tileId := "tile"
  pageNumber := 1
  x := 0
  y := 0
  width := 300
  height := 300
  fullPageWidth := 1000
  fullPageHeight := 1000
  overlap := 300
  relativePath := "renders/tile.jpg"
  sha256 := zeroDigest
  tileId_length := by decide
  pageNumber_mem := by decide
  width_pos := by decide
  height_pos := by decide
  fullPageWidth_pos := by decide
  fullPageHeight_pos := by decide
  overlap_mem := by decide
  relativePath_safe := by decide
  sha256_valid := by decide +kernel

/-- A report that repeats the geometry of the command. -/
def wideReport : RenderTilesOutput where
  renderId := zeroRender
  pageNumber := 1
  pageSha256 := zeroDigest
  tileWidth := 300
  tileHeight := 300
  overlap := 300
  tiles := [cornerTile]
  manifestRelativePath := "renders/manifest.json"
  renderId_valid := by decide +kernel
  pageNumber_mem := by decide
  pageSha256_valid := by decide +kernel
  tileWidth_mem := by decide
  tileHeight_mem := by decide
  overlap_mem := by decide
  tiles_length := by decide
  manifestRelativePath_safe := by decide

theorem wideReport_matches : ReportMatches smallTiles wideOverlap wideReport :=
  ⟨Eq.refl zeroRender, Eq.refl 1, Eq.refl (300, 300, 300)⟩

theorem thousandManifest_renderId : thousandManifest.renderId = zeroRender := rfl

theorem wideOverlap_renderId : wideOverlap.renderId = zeroRender := rfl

theorem thousandManifest_path : thousandManifest.manifestRelativePath =
    "renders/" ++ zeroRender ++ "/manifest.json" := rfl

theorem thousandManifest_loads : loadStagedRenderManifest readThousandManifest smallTiles
    (.content thousandManifestJson) wideOverlap.renderId = .ok thousandManifest := by
  refine loadStagedRenderManifest_ok (by decide +kernel) ?_ ?_ ?_ rfl
  · unfold readThousandManifest
    rw [if_pos rfl]
  · rw [thousandManifest_renderId, wideOverlap_renderId]
  · rw [thousandManifest_path, wideOverlap_renderId]

/-- The report names the page of the manifest. -/
theorem wideReport_names : NamesPage readThousandManifest smallTiles wideOverlap wideReport
    (.content thousandManifestJson) :=
  ⟨thousandManifest, thousandPage, thousandManifest_loads, rfl, Eq.refl zeroDigest⟩

/-- An overlap as wide as a tile divides by zero. -/
theorem wide_overlap_divides_by_zero : ¬ ∀ (settings : PdfProcessorSettings)
    (parameters : RenderTilesParams) (payload : PdfPayload) (staged : StagedFile),
    Agrees readThousandManifest settings parameters payload staged
      (validateResultBinding readThousandManifest (fun _ => zeroDigest) settings
        (.renderTiles 1 parameters) (.success 1 payload) none staged) := by
  intro h
  have hagrees := validateResultBinding_report ▸
    h smallTiles wideOverlap (.renderTiles wideReport) (.content thousandManifestJson)
  exact (reportBinding_agrees_iff.1 hagrees) ⟨wideReport_matches,
    .inr ⟨.inl (Eq.refl 300), wideReport_names⟩⟩

end NplgMcp.Pdf
