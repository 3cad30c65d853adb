import NplgMcp.Pdf.Processor

/-!
# What is accepted of a cached render

Whatever bytes are stored as a manifest, `get_manifest` returns what they say if and only if it
names the render and the versions of now and lists each of its pages once, at its own path and with
the digest of the file there (`getManifest_eq_ok_iff`), and `_read_tile_manifest` likewise for the
tiles of its request (`readTileManifest_eq_ok_iff`). Both look at the listed files only.
-/

open Library Library.JsonText

namespace NplgMcp.Pdf

/-! ## Exceptions -/

theorem rescue_eq_ok_iff {α : Type} {caught : PdfError → Bool} {error : AppError}
    {outcome : Except PdfError α} {value : α} :
    rescue caught error outcome = .ok value ↔ outcome = .ok value := by
  cases outcome with
  | error raised => simp [rescue]
  | ok found => exact Iff.rfl

theorem raiseIf_eq_ok_iff {condition : Prop} [Decidable condition] {error : PdfError} {u : Unit} :
    raiseIf condition error = .ok u ↔ ¬ condition := by
  rw [raiseIf]
  split_ifs with h
  · exact ⟨fun hok => (by cases hok), fun hno => absurd h hno⟩
  · exact ⟨fun _ => h, fun _ => rfl⟩

theorem AssetFile.read_eq_ok_iff {file : AssetFile} {data : Bytes} :
    file.read = .ok data ↔ file = .content data := by
  cases file with
  | refused error => simp [AssetFile.read]
  | unreadable => simp [AssetFile.read]
  | content found => simp [AssetFile.read]

theorem bind_eq_ok_iff {α β : Type} {outcome : Except PdfError α} {next : α → Except PdfError β}
    {value : β} : (outcome >>= next) = .ok value ↔
      ∃ found, outcome = .ok found ∧ next found = .ok value := by
  cases outcome with
  | error raised => simp [bind, Except.bind]
  | ok found => simp [bind, Except.bind]

/-! ## Pages -/

section
variable {Page Image : Type} {p : PdfPlatform Page Image} {assets assets' : Assets}
  {renderId : String}

/-- The file at a path has the digest. -/
def HasDigest (p : PdfPlatform Page Image) (assets : Assets) (path : String)
    (sha256 : List CodePoint) : Prop :=
  ∃ data, assets path = .content data ∧ pointsOf (p.sha256 data) = sha256

/-- A page of a render that is accepted. -/
structure AcceptedPage (p : PdfPlatform Page Image) (assets : Assets) (renderId : String)
    (page : RenderedPage (List CodePoint)) : Prop where
  pageNumber_pos : 1 ≤ page.pageNumber
  width_pos : 1 ≤ page.width
  height_pos : 1 ≤ page.height
  relativePath : page.relativePath = pointsOf (pagePath renderId page.pageNumber)
  mediaType : page.mediaType = pointsOf "image/jpeg"
  digest : HasDigest p assets (pagePath renderId page.pageNumber) page.sha256

/-- The digest of a file is one in hexadecimal. -/
theorem HasDigest.isSha256Points {path : String} {sha256 : List CodePoint}
    (h : HasDigest p assets path sha256) : isSha256Points sha256 = true := by
  obtain ⟨data, -, rfl⟩ := h
  rw [NplgMcp.Pdf.isSha256Points, stringOf_pointsOf, Option.any_some]
  exact p.sha256_valid data

/-- A digest stays that of a file that stays. -/
theorem HasDigest.congr {path : String} {sha256 : List CodePoint}
    (h : HasDigest p assets path sha256) (hsame : assets' path = assets path) :
    HasDigest p assets' path sha256 := by
  obtain ⟨data, hdata, hdigest⟩ := h
  exact ⟨data, hsame.trans hdata, hdigest⟩

/-- Pages are accepted if and only if each of them is, and no number twice. -/
theorem validatePages_eq_ok_iff {seenPages : List ℤ} {pages : List (RenderedPage (List CodePoint))} :
    validatePages p assets renderId seenPages pages = .ok () ↔
      (∀ page ∈ pages, AcceptedPage p assets renderId page) ∧
        (pages.map (·.pageNumber)).Nodup ∧ ∀ page ∈ pages, page.pageNumber ∉ seenPages := by
  induction pages generalizing seenPages with
  | nil => simp [validatePages]
  | cons page pages ih =>
      rw [validatePages]
      constructor
      · intro h
        obtain ⟨_, hvalid, h⟩ := bind_eq_ok_iff.1 h
        obtain ⟨data, hread, h⟩ := bind_eq_ok_iff.1 h
        obtain ⟨_, hdigest, h⟩ := bind_eq_ok_iff.1 h
        have hinvalid := raiseIf_eq_ok_iff.1 hvalid
        have hsha := raiseIf_eq_ok_iff.1 hdigest
        obtain ⟨hpages, hnodup, hseen⟩ := ih.1 h
        simp only [pageIsInvalid, decide_eq_true_eq, not_or, not_not, not_lt] at hinvalid
        obtain ⟨hnumber, hunseen, hwidth, hheight, hpath, hmedia, -⟩ := hinvalid
        have hcontent := AssetFile.read_eq_ok_iff.1 hread
        refine ⟨List.forall_mem_cons.2 ⟨?_, hpages⟩, ?_, List.forall_mem_cons.2 ⟨hunseen, ?_⟩⟩
        · exact ⟨hnumber, hwidth, hheight, hpath, hmedia, data, hcontent, not_not.1 hsha⟩
        · refine List.nodup_cons.2 ⟨fun hmem => ?_, hnodup⟩
          obtain ⟨other, hother, heq⟩ := List.mem_map.1 hmem
          exact hseen other hother (heq ▸ List.mem_cons_self)
        · exact fun other hother hmem => hseen other hother (List.mem_cons_of_mem _ hmem)
      · rintro ⟨hpages, hnodup, hseen⟩
        obtain ⟨hpage, hrest⟩ := List.forall_mem_cons.1 hpages
        obtain ⟨hunseen, hothers⟩ := List.forall_mem_cons.1 hseen
        obtain ⟨hnew, hnodup⟩ := List.nodup_cons.1 hnodup
        have hvalid : pageIsInvalid renderId seenPages page = false := by
          have hsha := hpage.digest.isSha256Points
          simp only [pageIsInvalid, decide_eq_false_iff_not, not_or, not_not, not_lt]
          exact ⟨hpage.pageNumber_pos, hunseen, hpage.width_pos, hpage.height_pos,
            hpage.relativePath, hpage.mediaType, hsha⟩
        obtain ⟨data, hdata, hdigest⟩ := hpage.digest
        have hmore : validatePages p assets renderId (page.pageNumber :: seenPages) pages = .ok () := by
          refine ih.2 ⟨hrest, hnodup, fun other hother hmem => ?_⟩
          rcases List.mem_cons.1 hmem with heq | hmem
          · exact hnew (List.mem_map.2 ⟨other, hother, heq⟩)
          · exact hothers other hother hmem
        refine bind_eq_ok_iff.2 ⟨(), raiseIf_eq_ok_iff.2 (by rw [hvalid]; exact Bool.false_ne_true), ?_⟩
        refine bind_eq_ok_iff.2 ⟨data, AssetFile.read_eq_ok_iff.2 hdata, ?_⟩
        exact bind_eq_ok_iff.2 ⟨(), raiseIf_eq_ok_iff.2 (not_not.2 hdigest), hmore⟩

/-! ## Renders -/

/-- A manifest of a render that is accepted. -/
structure AcceptedRender (p : PdfPlatform Page Image) (assets : Assets) (renderId : String)
    (manifest : RenderManifest (List CodePoint)) : Prop where
  renderId_valid : isRenderId renderId = true
  renderId_eq : manifest.renderId = pointsOf renderId
  manifestRelativePath : manifest.manifestRelativePath = pointsOf (renderManifestPath renderId)
  sourceSha256_valid : isSha256Points manifest.sourceSha256 = true
  rendererVersion : manifest.rendererVersion = pointsOf p.rendererVersion
  mode : manifest.mode = pointsOf "native"
  versions : versionsMatch manifest.manifestSchemaVersion manifest.renderPipelineVersion
    manifest.classificationAlgorithmVersion manifest.tilePipelineVersion = true
  pages_ne : manifest.pages ≠ []
  pages_nodup : (manifest.pages.map (·.pageNumber)).Nodup
  page : ∀ page ∈ manifest.pages, AcceptedPage p assets renderId page

/-- The manifest that is stored of a render says this. -/
def Stored (p : PdfPlatform Page Image) (assets : Assets) (renderId : String)
    (manifest : RenderManifest (List CodePoint)) : Prop :=
  ∃ data root, assets (renderManifestPath renderId) = .content data ∧
    readRoot p.json data "render manifest root" = .ok root ∧
    readRenderManifest p.floatOfInt (.obj root) = .ok manifest

/-- The assets of a manifest are accepted. -/
theorem validateManifestAssets_eq_ok_iff {manifest : RenderManifest (List CodePoint)} :
    validateManifestAssets p assets renderId manifest = .ok () ↔
      (isSha256Points manifest.sourceSha256 = true ∧
        manifest.rendererVersion = pointsOf p.rendererVersion ∧
        manifest.mode = pointsOf "native" ∧ manifest.pages ≠ [] ∧
        versionsMatch manifest.manifestSchemaVersion manifest.renderPipelineVersion
          manifest.classificationAlgorithmVersion manifest.tilePipelineVersion = true) ∧
      (∀ page ∈ manifest.pages, AcceptedPage p assets renderId page) ∧
        (manifest.pages.map (·.pageNumber)).Nodup := by
  rw [validateManifestAssets]
  split_ifs with hbad
  · refine ⟨fun h => (by cases h), fun h => ?_⟩
    obtain ⟨⟨hsource, hrenderer, hmode, hpages, hversions⟩, -⟩ := h
    simp [hsource, hrenderer, hmode, hpages, hversions] at hbad
  · simp only [not_or, not_not] at hbad
    rw [rescue_eq_ok_iff, validatePages_eq_ok_iff]
    refine ⟨fun h => ⟨?_, h.1, h.2.1⟩, fun h => ⟨h.2.1, h.2.2, fun page _ => List.not_mem_nil⟩⟩
    obtain ⟨hsource, hrenderer, hmode, hpages, hversions⟩ := hbad
    exact ⟨hsource, hrenderer, hmode, hpages, hversions⟩

/-- **Renders that are accepted.** `get_manifest` returns what is stored exactly if it is accepted. -/
theorem getManifest_eq_ok_iff {manifest : RenderManifest (List CodePoint)} :
    getManifest p assets renderId = .ok manifest ↔
      Stored p assets renderId manifest ∧ AcceptedRender p assets renderId manifest := by
  rw [getManifest]
  constructor
  · intro h
    obtain ⟨_, hid, h⟩ := bind_eq_ok_iff.1 h
    obtain ⟨root, hroot, h⟩ := bind_eq_ok_iff.1 h
    obtain ⟨found, hfound, h⟩ := bind_eq_ok_iff.1 h
    obtain ⟨_, hbound, h⟩ := bind_eq_ok_iff.1 h
    obtain ⟨_, hassets, h⟩ := bind_eq_ok_iff.1 h
    obtain rfl := Except.ok.inj h
    have hid' := raiseIf_eq_ok_iff.1 hid
    have hbound' := raiseIf_eq_ok_iff.1 hbound
    obtain ⟨data, hdata, hroot⟩ := bind_eq_ok_iff.1 (rescue_eq_ok_iff.1 hroot)
    obtain ⟨hfields, hpages, hnodup⟩ := validateManifestAssets_eq_ok_iff.1 hassets
    obtain ⟨hsource, hrenderer, hmode, hne, hversions⟩ := hfields
    obtain ⟨hrenderId, hpath⟩ := not_or.1 hbound'
    refine ⟨⟨data, root, AssetFile.read_eq_ok_iff.1 hdata, hroot, rescue_eq_ok_iff.1 hfound⟩, ?_⟩
    exact ⟨not_not.1 hid', not_not.1 hrenderId, not_not.1 hpath, hsource, hrenderer, hmode,
      hversions, hne, hnodup, hpages⟩
  · rintro ⟨⟨data, root, hdata, hroot, hread⟩, h⟩
    have hassets : validateManifestAssets p assets renderId manifest = .ok () :=
      validateManifestAssets_eq_ok_iff.2 ⟨⟨h.sourceSha256_valid, h.rendererVersion, h.mode,
        h.pages_ne, h.versions⟩, h.page, h.pages_nodup⟩
    have hfound : manifestFromDict p root = .ok manifest := rescue_eq_ok_iff.2 hread
    refine bind_eq_ok_iff.2 ⟨(), raiseIf_eq_ok_iff.2 (not_not.2 h.renderId_valid), ?_⟩
    refine bind_eq_ok_iff.2 ⟨root, rescue_eq_ok_iff.2 ?_, ?_⟩
    · exact bind_eq_ok_iff.2 ⟨data, AssetFile.read_eq_ok_iff.2 hdata, hroot⟩
    · refine bind_eq_ok_iff.2 ⟨manifest, hfound, ?_⟩
      refine bind_eq_ok_iff.2 ⟨(), raiseIf_eq_ok_iff.2 ?_, ?_⟩
      · exact not_or.2 ⟨not_not.2 h.renderId_eq, not_not.2 h.manifestRelativePath⟩
      · exact bind_eq_ok_iff.2 ⟨(), hassets, rfl⟩

/-- The files that a manifest of a render needs. -/
def RenderManifest.paths {τ : Type} (manifest : RenderManifest τ) (renderId : String) : List String :=
  renderManifestPath renderId :: manifest.pages.map fun page => pagePath renderId page.pageNumber

/-- A render is accepted as long as its files stay. -/
theorem getManifest_congr {manifest : RenderManifest (List CodePoint)}
    (h : getManifest p assets renderId = .ok manifest)
    (hsame : ∀ path ∈ manifest.paths renderId, assets' path = assets path) :
    getManifest p assets' renderId = .ok manifest := by
  obtain ⟨⟨data, root, hdata, hroot, hread⟩, haccepted⟩ := getManifest_eq_ok_iff.1 h
  obtain ⟨hmanifest, hpages⟩ := List.forall_mem_cons.1 hsame
  refine getManifest_eq_ok_iff.2 ⟨⟨data, root, hmanifest.trans hdata, hroot, hread⟩, ?_⟩
  refine { haccepted with page := fun page hpage => ?_ }
  have hfile := hpages _ (List.mem_map_of_mem hpage)
  exact { haccepted.page page hpage with digest := (haccepted.page page hpage).digest.congr hfile }

/-! ## Tiles -/

/-- A tile of a box that is accepted. -/
structure AcceptedTile (p : PdfPlatform Page Image) (assets : Assets) (request : TileManifestRequest)
    (tile : RenderedTile (List CodePoint)) (box : TileBox) : Prop where
  tileId : tile.tileId = pointsOf (request.tileId box)
  pageNumber : tile.pageNumber = request.pageNumber
  rectangle : (tile.x, tile.y, tile.width, tile.height) = (box.x, box.y, box.width, box.height)
  fullPage : (tile.fullPageWidth, tile.fullPageHeight) = (request.page.width, request.page.height)
  overlap : tile.overlap = request.geometry.overlap
  relativePath : tile.relativePath = pointsOf (request.tilePath box)
  mediaType : tile.mediaType = pointsOf "image/jpeg"
  digest : HasDigest p assets (request.tilePath box) tile.sha256

/-- A manifest of tiles that is accepted. -/
structure AcceptedTiles (p : PdfPlatform Page Image) (assets : Assets) (request : TileManifestRequest)
    (manifest : TileManifest (List CodePoint)) : Prop where
  renderId : manifest.renderId = pointsOf request.renderId
  pageNumber : manifest.pageNumber = request.pageNumber
  tileWidth : manifest.tileWidth = request.geometry.width
  tileHeight : manifest.tileHeight = request.geometry.height
  overlap : manifest.overlap = request.geometry.overlap
  manifestRelativePath : manifest.manifestRelativePath = pointsOf request.relativePath
  pageSha256 : manifest.pageSha256 = request.page.sha256
  versions : versionsMatch manifest.manifestSchemaVersion manifest.renderPipelineVersion
    manifest.classificationAlgorithmVersion manifest.tilePipelineVersion = true
  tiles : List.Forall₂ (AcceptedTile p assets request) manifest.tiles request.boxes

variable {request : TileManifestRequest}

/-- Tiles are accepted if and only if each of them is, for its own box. -/
theorem validateTiles_eq_ok_iff {tiles : List (RenderedTile (List CodePoint))} {boxes : List TileBox}
    (hlength : tiles.length = boxes.length) :
    request.validateTiles p assets tiles boxes = .ok () ↔
      List.Forall₂ (AcceptedTile p assets request) tiles boxes := by
  induction tiles generalizing boxes with
  | nil =>
      obtain rfl : boxes = [] := List.length_eq_zero_iff.1 hlength.symm
      exact ⟨fun _ => .nil, fun _ => rfl⟩
  | cons tile tiles ih =>
      obtain ⟨box, boxes, rfl⟩ := List.exists_cons_of_length_eq_add_one hlength.symm
      have hrest : tiles.length = boxes.length := Nat.succ.inj hlength
      rw [TileManifestRequest.validateTiles, List.forall₂_cons, ← ih hrest]
      constructor
      · intro h
        obtain ⟨_, hvalid, h⟩ := bind_eq_ok_iff.1 h
        obtain ⟨data, hread, h⟩ := bind_eq_ok_iff.1 h
        obtain ⟨_, hdigest, h⟩ := bind_eq_ok_iff.1 h
        have hinvalid := raiseIf_eq_ok_iff.1 hvalid
        simp only [TileManifestRequest.tileIsInvalid, decide_eq_true_eq, not_or, not_not] at hinvalid
        obtain ⟨hid, hnumber, hbox, hpage, hoverlap, hpath, hmedia, -⟩ := hinvalid
        have hsha := not_not.1 (raiseIf_eq_ok_iff.1 hdigest)
        have hcontent := AssetFile.read_eq_ok_iff.1 hread
        exact ⟨⟨hid, hnumber, hbox, hpage, hoverlap, hpath, hmedia, data, hcontent, hsha⟩, h⟩
      · rintro ⟨htile, h⟩
        have hvalid : request.tileIsInvalid tile box = false := by
          have hsha := htile.digest.isSha256Points
          simp only [TileManifestRequest.tileIsInvalid, decide_eq_false_iff_not, not_or, not_not]
          exact ⟨htile.tileId, htile.pageNumber, htile.rectangle, htile.fullPage, htile.overlap,
            htile.relativePath, htile.mediaType, hsha⟩
        obtain ⟨data, hdata, hdigest⟩ := htile.digest
        refine bind_eq_ok_iff.2 ⟨(), raiseIf_eq_ok_iff.2 (by rw [hvalid]; exact Bool.false_ne_true), ?_⟩
        refine bind_eq_ok_iff.2 ⟨data, AssetFile.read_eq_ok_iff.2 hdata, ?_⟩
        exact bind_eq_ok_iff.2 ⟨(), raiseIf_eq_ok_iff.2 (not_not.2 hdigest), h⟩

/-- The manifest that is stored of a tile set says this. -/
def TilesStored (p : PdfPlatform Page Image) (assets : Assets) (request : TileManifestRequest)
    (manifest : TileManifest (List CodePoint)) : Prop :=
  ∃ data root, assets request.relativePath = .content data ∧
    readRoot p.json data "tile manifest root" = .ok root ∧
    tileManifestFromDict (.obj root) = .ok manifest

/-- **Tile sets that are accepted.** `_read_tile_manifest` returns what is stored exactly if it is
accepted. -/
theorem readTileManifest_eq_ok_iff {manifest : TileManifest (List CodePoint)} :
    request.readTileManifest p assets = .ok manifest ↔
      TilesStored p assets request manifest ∧ AcceptedTiles p assets request manifest := by
  rw [TileManifestRequest.readTileManifest]
  constructor
  · intro h
    obtain ⟨found, hfound, h⟩ := bind_eq_ok_iff.1 h
    obtain ⟨_, hbound, h⟩ := bind_eq_ok_iff.1 h
    obtain ⟨_, htiles, h⟩ := bind_eq_ok_iff.1 h
    obtain rfl := Except.ok.inj h
    obtain ⟨data, hdata, hfound⟩ := bind_eq_ok_iff.1 (rescue_eq_ok_iff.1 hfound)
    obtain ⟨root, hroot, hread⟩ := bind_eq_ok_iff.1 hfound
    have hunbound := raiseIf_eq_ok_iff.1 hbound
    simp only [TileManifestRequest.isUnbound, decide_eq_true_eq, not_or, not_not] at hunbound
    obtain ⟨hid, hnumber, hwidth, hheight, hoverlap, hpath, hsha, hlength, hversions⟩ := hunbound
    refine ⟨⟨data, root, AssetFile.read_eq_ok_iff.1 hdata, hroot, hread⟩, ?_⟩
    exact ⟨hid, hnumber, hwidth, hheight, hoverlap, hpath, hsha, hversions,
      (validateTiles_eq_ok_iff hlength).1 (rescue_eq_ok_iff.1 htiles)⟩
  · rintro ⟨⟨data, root, hdata, hroot, hread⟩, h⟩
    have hlength := h.tiles.length_eq
    have hunbound : request.isUnbound manifest = false := by
      simp only [TileManifestRequest.isUnbound, decide_eq_false_iff_not, not_or, not_not]
      exact ⟨h.renderId, h.pageNumber, h.tileWidth, h.tileHeight, h.overlap, h.manifestRelativePath,
        h.pageSha256, hlength, h.versions⟩
    refine bind_eq_ok_iff.2 ⟨manifest, rescue_eq_ok_iff.2 ?_, ?_⟩
    · refine bind_eq_ok_iff.2 ⟨data, AssetFile.read_eq_ok_iff.2 hdata, ?_⟩
      exact bind_eq_ok_iff.2 ⟨root, hroot, hread⟩
    · refine bind_eq_ok_iff.2 ⟨(), raiseIf_eq_ok_iff.2 (by rw [hunbound]; exact Bool.false_ne_true), ?_⟩
      refine bind_eq_ok_iff.2 ⟨(), rescue_eq_ok_iff.2 ?_, rfl⟩
      exact (validateTiles_eq_ok_iff hlength).2 h.tiles

/-- The files that a manifest of tiles needs. -/
def TileManifestRequest.paths (request : TileManifestRequest) : List String :=
  request.relativePath :: request.boxes.map request.tilePath

/-- A tile set is accepted as long as its files stay. -/
theorem readTileManifest_congr {manifest : TileManifest (List CodePoint)}
    (h : request.readTileManifest p assets = .ok manifest)
    (hsame : ∀ path ∈ request.paths, assets' path = assets path) :
    request.readTileManifest p assets' = .ok manifest := by
  obtain ⟨⟨data, root, hdata, hroot, hread⟩, haccepted⟩ := readTileManifest_eq_ok_iff.1 h
  obtain ⟨hmanifest, htiles⟩ := List.forall_mem_cons.1 hsame
  refine readTileManifest_eq_ok_iff.2 ⟨⟨data, root, hmanifest.trans hdata, hroot, hread⟩, ?_⟩
  have hfiles : ∀ box ∈ request.boxes, assets' (request.tilePath box) = assets (request.tilePath box) :=
    fun box hbox => htiles _ (List.mem_map_of_mem hbox)
  have hkept : List.Forall₂ (AcceptedTile p assets' request) manifest.tiles request.boxes := by
    refine List.forall₂_iff_get.2 ⟨haccepted.tiles.length_eq, fun i htile hbox => ?_⟩
    have htile' := (List.forall₂_iff_get.1 haccepted.tiles).2 i htile hbox
    exact { htile' with digest := htile'.digest.congr (hfiles _ (List.get_mem _ _)) }
  exact { haccepted with tiles := hkept }

end

end NplgMcp.Pdf
