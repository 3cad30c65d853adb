import NplgMcp.Library.Fields
import NplgMcp.Pdf.Binding

/-!
# The identities of derivatives

`pdf_identity.py`, with the pipeline versions as an argument, and the paths that `render_tiles` makes
of its identifiers. Every identifier is a text of fields with marks between them, so that its fields
can be read off it; what is not among its fields it does not depend on. Main result:
`derivative_identities`.
-/

open Library Library.Fields

namespace NplgMcp.Pdf

/-! ## Pipeline versions -/

/-- A positive number of three digits at most, without leading zeros. -/
def isVersionMajor (part : List Char) : Bool :=
  1 ≤ part.length && part.length ≤ 3 && part.all Char.isDigit && part.head? != some '0'

/-- Such a number or zero. -/
def isVersionMinor (part : List Char) : Bool := part == ['0'] || isVersionMajor part

/-- `SemanticVersion`. -/
def isSemanticVersion (value : String) : Bool :=
  match value.toList.splitOn '.' with
  | [major, minor, patch] => isVersionMajor major && isVersionMinor minor && isVersionMinor patch
  | _ => false

/-- `PdfPipelineVersions`. -/
structure PdfPipelineVersions where
  manifestSchemaVersion : String
  renderPipelineVersion : String
  classificationAlgorithmVersion : String
  tilePipelineVersion : String
  manifestSchemaVersion_valid : isSemanticVersion manifestSchemaVersion = true
  renderPipelineVersion_valid : isSemanticVersion renderPipelineVersion = true
  classificationAlgorithmVersion_valid : isSemanticVersion classificationAlgorithmVersion = true
  tilePipelineVersion_valid : isSemanticVersion tilePipelineVersion = true
  deriving DecidableEq

/-- `PDF_PIPELINE_VERSIONS`. -/
def pdfPipelineVersions : PdfPipelineVersions where
  manifestSchemaVersion := "1.0.0"
  renderPipelineVersion := "1.0.0"
  classificationAlgorithmVersion := "1.0.0"
  tilePipelineVersion := "1.0.0"
  manifestSchemaVersion_valid := by decide +kernel
  renderPipelineVersion_valid := by decide +kernel
  classificationAlgorithmVersion_valid := by decide +kernel
  tilePipelineVersion_valid := by decide +kernel

/-! ## Renders -/

/-- `RenderIdentityRequest`; the mode is always `native`. -/
structure RenderIdentityRequest where
  sourceSha256 : String
  pages : List ℕ
  rendererVersion : String
  fallbackDpi : ℕ
  pipelineVersions : PdfPipelineVersions := pdfPipelineVersions
  sourceSha256_valid : isSha256 sourceSha256 = true
  pages_mem : ∀ page ∈ pages, 1 ≤ page ∧ page ≤ 100000
  pages_length : 1 ≤ pages.length ∧ pages.length ≤ 64
  rendererVersion_valid : isRendererVersion rendererVersion = true
  fallbackDpi_mem : 72 ≤ fallbackDpi ∧ fallbackDpi ≤ 1200

/-- The text that `render_identifier` hashes: the canonical JSON of the request. -/
def RenderIdentityRequest.key (request : RenderIdentityRequest) : String :=
  "\x7b\"classification_algorithm_version\":\"" ++
    request.pipelineVersions.classificationAlgorithmVersion ++ "\",\"fallback_dpi\":" ++
    request.fallbackDpi.repr ++ ",\"manifest_schema_version\":\"" ++
    request.pipelineVersions.manifestSchemaVersion ++ "\",\"mode\":\"native\",\"pages\":[" ++
    jsonNumbers request.pages ++ "],\"render_pipeline_version\":\"" ++
    request.pipelineVersions.renderPipelineVersion ++ "\",\"renderer_version\":\"" ++
    String.ofList (request.rendererVersion.toList.flatMap jsonChar) ++ "\",\"source_sha256\":\"" ++
    request.sourceSha256 ++ "\",\"tile_pipeline_version\":\"" ++
    request.pipelineVersions.tilePipelineVersion ++ "\"\x7d"

/-- The digest of a key as far as an identifier has it. -/
def truncatedSha256 (sha256 : Bytes → String) (key : String) : String :=
  String.ofList ((sha256 (encodeUtf8 key)).toList.take 32)

/-- `render_identifier`. -/
def RenderIdentityRequest.identifier (sha256 : Bytes → String) (request : RenderIdentityRequest) :
    String :=
  "rnd_" ++ truncatedSha256 sha256 request.key

/-! ## Tiles -/

/-- `TileGeometryRequest`. -/
structure TileGeometryRequest where
  width : ℕ
  height : ℕ
  overlap : ℕ
  pipelineVersions : PdfPipelineVersions := pdfPipelineVersions
  width_mem : 1 ≤ width ∧ width ≤ 65535
  height_mem : 1 ≤ height ∧ height ≤ 65535
  overlap_le : overlap ≤ 65535
  deriving DecidableEq

/-- `value.replace(".", "-")`. -/
def dashed (value : String) : String :=
  String.ofList (value.toList.map fun c => if c = '.' then '-' else c)

/-- `tile_geometry_identifier`. -/
def TileGeometryRequest.identifier (request : TileGeometryRequest) : String :=
  "tpv" ++ dashed request.pipelineVersions.tilePipelineVersion ++ "-w" ++ padded 4 request.width ++
    "-h" ++ padded 4 request.height ++ "-o" ++ padded 3 request.overlap

/-- The `tile_root` of `render_tiles`. -/
def tileRoot (pageNumber : ℕ) (geometry : TileGeometryRequest) : String :=
  "tiles/page-" ++ padded 4 pageNumber ++ "/" ++ geometry.identifier

/-- The `tile_manifest_path` of `render_tiles`. -/
def tileManifestPath (renderId : String) (pageNumber : ℕ) (geometry : TileGeometryRequest) : String :=
  "renders/" ++ renderId ++ "/" ++ tileRoot pageNumber geometry ++ "/manifest.json"

/-- The `tile_id` of `_render_tile`. -/
def tileId (pageNumber : ℕ) (geometry : TileGeometryRequest) (x y : ℕ) : String :=
  tileIdentifier pageNumber geometry.identifier x y

/-- The path that `_render_tile` writes a tile to. -/
def tilePath (renderId : String) (pageNumber : ℕ) (geometry : TileGeometryRequest) (x y : ℕ) :
    String :=
  "renders/" ++ renderId ++ "/" ++ tileRoot pageNumber geometry ++ "/" ++
    tileId pageNumber geometry x y ++ ".jpg"

/-! ## What the fields are made of -/

/-- A padded number is a numeral. -/
theorem toList_padded (width value : ℕ) : (padded width value).toList = numeral width value := by
  rw [padded, String.toList_append, String.toList_ofList, Nat.toList_repr, numeral]

/-- The characters of a version are digits and dots. -/
theorem mem_semanticVersion {value : String} (h : isSemanticVersion value = true) {c : Char}
    (hc : c ∈ value.toList) : c.isDigit = true ∨ c = '.' := by
  have hmajor {part : List Char} (hpart : isVersionMajor part = true) :
      ∀ c ∈ part, c.isDigit = true := by
    unfold isVersionMajor at hpart
    simp only [Bool.and_eq_true, List.all_eq_true] at hpart
    exact hpart.1.2
  have hminor {part : List Char} (hpart : isVersionMinor part = true) :
      ∀ c ∈ part, c.isDigit = true := by
    unfold isVersionMinor at hpart
    rcases Bool.or_eq_true_iff.1 hpart with hzero | hpart
    · rw [eq_of_beq hzero]
      intro c hc
      rw [List.mem_singleton.1 hc]
      rfl
    · exact hmajor hpart
  unfold isSemanticVersion at h
  split at h
  · rename_i major minor patch hsplit
    simp only [Bool.and_eq_true] at h
    have hvalue : ['.'].intercalate (value.toList.splitOn '.') = value.toList :=
      List.intercalate_splitOn '.'
    rw [hsplit] at hvalue
    rw [← hvalue] at hc
    simp only [List.intercalate, List.intersperse, List.flatten_cons, List.flatten_nil,
      List.append_nil, List.mem_append, List.mem_singleton] at hc
    rcases hc with hc | hc | hc | hc | hc
    · exact .inl (hmajor h.1.1 c hc)
    · exact .inr hc
    · exact .inl (hminor h.1.2 c hc)
    · exact .inr hc
    · exact .inl (hminor h.2 c hc)
  · cases h

/-- Another character is in no version. -/
theorem notMem_semanticVersion {value : String} (h : isSemanticVersion value = true) {c : Char}
    (hdigit : c.isDigit = false) (hdot : c ≠ '.') : c ∉ value.toList := by
  intro hc
  rcases mem_semanticVersion h hc with hmem | hmem
  · rw [hdigit] at hmem
    cases hmem
  · exact hdot hmem

/-- A version has eleven characters at most. -/
theorem length_semanticVersion_le {value : String} (h : isSemanticVersion value = true) :
    value.toList.length ≤ 11 := by
  have hmajor {part : List Char} (hpart : isVersionMajor part = true) : part.length ≤ 3 := by
    unfold isVersionMajor at hpart
    simp only [Bool.and_eq_true, decide_eq_true_eq] at hpart
    exact hpart.1.1.2
  have hminor {part : List Char} (hpart : isVersionMinor part = true) : part.length ≤ 3 := by
    unfold isVersionMinor at hpart
    rcases Bool.or_eq_true_iff.1 hpart with hzero | hpart
    · rw [eq_of_beq hzero]
      decide
    · exact hmajor hpart
  unfold isSemanticVersion at h
  split at h
  · rename_i major minor patch hsplit
    simp only [Bool.and_eq_true] at h
    have hvalue : ['.'].intercalate (value.toList.splitOn '.') = value.toList :=
      List.intercalate_splitOn '.'
    rw [hsplit] at hvalue
    have hlength := congrArg List.length hvalue
    simp only [List.intercalate, List.intersperse, List.flatten_cons, List.flatten_nil,
      List.append_nil, List.length_append, List.length_singleton] at hlength
    have h1 := hmajor h.1.1
    have h2 := hminor h.1.2
    have h3 := hminor h.2
    omega
  · cases h

/-- Versions have no dashes, so that dots can be read back from dashes. -/
theorem dashed_injective {a b : String} (ha : isSemanticVersion a = true)
    (hb : isSemanticVersion b = true) (h : dashed a = dashed b) : a = b := by
  have hback {value : String} (hvalue : isSemanticVersion value = true) :
      (dashed value).toList.map (fun c => if c = '-' then '.' else c) = value.toList := by
    rw [dashed, String.toList_ofList, List.map_map]
    refine (List.map_congr_left fun c hc => ?_).trans (List.map_id _)
    by_cases hdot : c = '.'
    · subst hdot
      rfl
    · have hdash : c ≠ '-' := fun heq =>
        notMem_semanticVersion hvalue (by decide) (by decide) (heq ▸ hc)
      rw [Function.comp_apply, if_neg hdot, if_neg hdash, id]
  rw [← String.toList_inj, ← hback ha, h, hback hb]

/-! ## The fields can be read off -/

/-- A geometry identifier, up to its marks. -/
theorem toList_identifier (request : TileGeometryRequest) : request.identifier.toList =
    "tpv".toList ++ (((dashed request.pipelineVersions.tilePipelineVersion).toList ++ ['-']) ++
      'w' :: (numeral 4 request.width ++ '-' :: ('h' :: (numeral 4 request.height ++
        '-' :: ('o' :: numeral 3 request.overlap))))) := by
  have hw : "-w".toList = ['-', 'w'] := by decide
  have hh : "-h".toList = ['-', 'h'] := by decide
  have ho : "-o".toList = ['-', 'o'] := by decide
  rw [TileGeometryRequest.identifier]
  simp only [String.toList_append, toList_padded, hw, hh, ho, List.append_assoc, List.cons_append,
    List.nil_append]

/-- A letter other than a dash is in no dashed version. -/
theorem notMem_dashed {value : String} (h : isSemanticVersion value = true) {c : Char}
    (hdigit : c.isDigit = false) (hdash : c ≠ '-') : c ∉ (dashed value).toList := by
  rw [dashed, String.toList_ofList]
  intro hc
  obtain ⟨d, hd, rfl⟩ := List.mem_map.1 hc
  split at hdash
  · exact hdash rfl
  · rename_i hdot
    rw [if_neg hdot] at hdigit
    exact notMem_semanticVersion h hdigit hdot hd

/-- **Geometry identifiers.** They have the dimensions, the overlap and the tile version. -/
theorem identifier_inj {a b : TileGeometryRequest} (h : a.identifier = b.identifier) :
    a.pipelineVersions.tilePipelineVersion = b.pipelineVersions.tilePipelineVersion ∧
      a.width = b.width ∧ a.height = b.height ∧ a.overlap = b.overlap := by
  have hlists := congrArg String.toList h
  rw [toList_identifier, toList_identifier] at hlists
  have hversion {request : TileGeometryRequest} :
      'w' ∉ (dashed request.pipelineVersions.tilePipelineVersion).toList ++ ['-'] := by
    rw [List.mem_append, List.mem_singleton]
    rintro (hmem | hmem)
    · exact notMem_dashed request.pipelineVersions.tilePipelineVersion_valid (by decide)
        (by decide) hmem
    · exact absurd hmem (by decide)
  have hdash {width value : ℕ} : '-' ∉ numeral width value := notMem_numeral (by decide)
  obtain ⟨htile, hrest⟩ := append_mark_inj hversion hversion (List.append_cancel_left hlists)
  obtain ⟨hwidth, hrest⟩ := append_mark_inj hdash hdash hrest
  obtain ⟨hheight, hrest⟩ := append_mark_inj hdash hdash (List.cons.inj hrest).2
  have hoverlap := (List.cons.inj hrest).2
  exact ⟨dashed_injective a.pipelineVersions.tilePipelineVersion_valid
      b.pipelineVersions.tilePipelineVersion_valid
      (String.toList_inj.1 (List.append_cancel_right htile)),
    numeral_injective 4 hwidth, numeral_injective 4 hheight, numeral_injective 3 hoverlap⟩

/-- A geometry identifier is made of letters, digits and dashes. -/
theorem mem_identifier {request : TileGeometryRequest} {c : Char}
    (hc : c ∈ request.identifier.toList) : c.isAlphanum = true ∨ c = '-' := by
  have hnumeral {width value : ℕ} (hmem : c ∈ numeral width value) :
      c.isAlphanum = true ∨ c = '-' := by
    refine .inl ?_
    rw [Char.isAlphanum, isDigit_of_mem_numeral hmem, Bool.or_true]
  have hliteral : ∀ c ∈ "tpvwho".toList, c.isAlphanum = true ∨ c = '-' := fun c hc =>
    .inl (List.all_eq_true.1 (show "tpvwho".toList.all Char.isAlphanum = true by decide) c hc)
  rw [toList_identifier] at hc
  simp only [List.mem_append, List.mem_cons, List.not_mem_nil, or_false] at hc
  rcases hc with hc | (hc | hc) | hc | hc | hc | hc | hc | hc | hc | hc
  · exact hliteral c (List.mem_of_mem_take (i := 3) hc)
  · rw [dashed, String.toList_ofList] at hc
    obtain ⟨d, hd, rfl⟩ := List.mem_map.1 hc
    split
    · exact .inr rfl
    · rename_i hdot
      have hdigit := (mem_semanticVersion request.pipelineVersions.tilePipelineVersion_valid
        hd).resolve_right hdot
      exact .inl (by rw [Char.isAlphanum, hdigit, Bool.or_true])
  · exact .inr hc
  · exact hliteral c (hc ▸ by decide)
  · exact hnumeral hc
  · exact .inr hc
  · exact hliteral c (hc ▸ by decide)
  · exact hnumeral hc
  · exact .inr hc
  · exact hliteral c (hc ▸ by decide)
  · exact hnumeral hc

/-- A character of another kind is in no geometry identifier. -/
theorem notMem_identifier {request : TileGeometryRequest} {c : Char} (halnum : c.isAlphanum = false)
    (hdash : c ≠ '-') : c ∉ request.identifier.toList := by
  intro hc
  rcases mem_identifier hc with hmem | hmem
  · rw [halnum] at hmem
    cases hmem
  · exact hdash hmem

/-- A tile identifier, up to its marks. -/
theorem toList_tileId (pageNumber : ℕ) (geometry : TileGeometryRequest) (x y : ℕ) :
    (tileId pageNumber geometry x y).toList = 'p' :: (numeral 4 pageNumber ++
      '_' :: (geometry.identifier.toList ++ '_' :: ('x' :: (numeral 6 x ++
        '_' :: ('y' :: numeral 6 y))))) := by
  have hp : "p".toList = ['p'] := by decide
  have hmark : "_".toList = ['_'] := by decide
  have hx : "_x".toList = ['_', 'x'] := by decide
  have hy : "_y".toList = ['_', 'y'] := by decide
  rw [tileId, tileIdentifier]
  simp only [String.toList_append, toList_padded, hp, hmark, hx, hy, List.append_assoc,
    List.cons_append, List.nil_append]

/-- **Tile identifiers.** They have the page, what the geometry has, and the corner. -/
theorem tileId_inj {pageNumber pageNumber' x y x' y' : ℕ} {geometry geometry' : TileGeometryRequest}
    (h : tileId pageNumber geometry x y = tileId pageNumber' geometry' x' y') :
    pageNumber = pageNumber' ∧ geometry.identifier = geometry'.identifier ∧ x = x' ∧ y = y' := by
  have hlists := congrArg String.toList h
  rw [toList_tileId, toList_tileId] at hlists
  have hmark {width value : ℕ} : '_' ∉ numeral width value := notMem_numeral (by decide)
  have hidentifier {request : TileGeometryRequest} : '_' ∉ request.identifier.toList :=
    notMem_identifier (by decide) (by decide)
  obtain ⟨hpage, hrest⟩ := append_mark_inj hmark hmark (List.cons.inj hlists).2
  obtain ⟨hgeometry, hrest⟩ := append_mark_inj hidentifier hidentifier hrest
  obtain ⟨hx, hrest⟩ := append_mark_inj hmark hmark (List.cons.inj hrest).2
  exact ⟨numeral_injective 4 hpage, String.toList_inj.1 hgeometry, numeral_injective 6 hx,
    numeral_injective 6 (List.cons.inj hrest).2⟩

/-- A tile is a file of the root that its manifest is in. -/
theorem tilePath_eq {renderId : String} {pageNumber x y : ℕ} {geometry : TileGeometryRequest} :
    tilePath renderId pageNumber geometry x y = "renders/" ++ renderId ++ "/tiles/page-" ++
      padded 4 pageNumber ++ "/" ++ geometry.identifier ++ "/" ++
        (tileId pageNumber geometry x y ++ ".jpg") := by
  have hroot : "/tiles/page-" = "/" ++ "tiles/page-" := by decide
  rw [tilePath, tileRoot, hroot]
  simp only [String.append_assoc]

/-- That root, and the manifest in it. -/
theorem tileManifestPath_eq {renderId : String} {pageNumber : ℕ} {geometry : TileGeometryRequest} :
    tileManifestPath renderId pageNumber geometry = "renders/" ++ renderId ++ "/tiles/page-" ++
      padded 4 pageNumber ++ "/" ++ geometry.identifier ++ "/manifest.json" := by
  have hroot : "/tiles/page-" = "/" ++ "tiles/page-" := by decide
  rw [tileManifestPath, tileRoot, hroot]
  simp only [String.append_assoc]

/-- The segments of a path of a tile set. -/
def tileSegments (renderId : String) (pageNumber : ℕ) (geometry : TileGeometryRequest)
    (name : String) : List (List Char) :=
  ["renders".toList, renderId.toList, "tiles".toList, "page-".toList ++ numeral 4 pageNumber,
    geometry.identifier.toList, name.toList]

/-- The paths of a tile set are their segments with slashes between them. -/
theorem toList_tileRoot (renderId : String) (pageNumber : ℕ) (geometry : TileGeometryRequest)
    (name : String) :
    ("renders/" ++ renderId ++ "/" ++ tileRoot pageNumber geometry ++ "/" ++ name).toList =
      ['/'].intercalate (tileSegments renderId pageNumber geometry name) := by
  have hrenders : "renders/".toList = "renders".toList ++ ['/'] := by decide
  have htiles : "tiles/page-".toList = "tiles".toList ++ '/' :: "page-".toList := by decide
  have hmark : "/".toList = ['/'] := by decide
  simp only [tileRoot, tileSegments, String.toList_append, toList_padded, hrenders, htiles, hmark,
    List.intercalate, List.intersperse, List.flatten_cons, List.flatten_nil, List.append_assoc,
    List.cons_append, List.nil_append, List.append_nil]

/-- A manifest is a file of its tile set. -/
theorem toList_tileManifestPath (renderId : String) (pageNumber : ℕ)
    (geometry : TileGeometryRequest) : (tileManifestPath renderId pageNumber geometry).toList =
      ['/'].intercalate (tileSegments renderId pageNumber geometry "manifest.json") := by
  have hname : "/manifest.json" = "/" ++ "manifest.json" := by decide
  rw [tileManifestPath, hname, ← String.append_assoc, toList_tileRoot]

/-- A tile is a file of its tile set. -/
theorem toList_tilePath (renderId : String) (pageNumber : ℕ) (geometry : TileGeometryRequest)
    (x y : ℕ) : (tilePath renderId pageNumber geometry x y).toList = ['/'].intercalate
      (tileSegments renderId pageNumber geometry (tileId pageNumber geometry x y ++ ".jpg")) := by
  rw [tilePath, String.append_assoc, toList_tileRoot]

/-! ## Safe paths -/

/-- A character that `_SAFE_SEGMENT` takes. -/
def IsSafeChar (c : Char) : Prop := c.isAlphanum = true ∨ c = '.' ∨ c = '_' ∨ c = '-'

/-- The characters of a literal are safe if they pass the test. -/
theorem isSafeChar_of_all {text : List Char}
    (h : (text.all fun c => c.isAlphanum || c == '.' || c == '_' || c == '-') = true) :
    ∀ c ∈ text, IsSafeChar c := by
  intro c hc
  have hsafe := List.all_eq_true.1 h c hc
  simp only [Bool.or_eq_true, beq_iff_eq, or_assoc] at hsafe
  exact hsafe

/-- A text of such characters that does not start with a dot is a safe segment. -/
theorem isSafeSegment_of_forall {first : Char} {rest : List Char} (hfirst : first ≠ '.')
    (hall : ∀ c ∈ first :: rest, IsSafeChar c) : isSafeSegment (first :: rest) = true := by
  have hdot : (first :: rest != ['.']) = true :=
    bne_iff_ne.2 fun heq => hfirst (List.cons.inj heq).1
  have hdots : (first :: rest != ['.', '.']) = true :=
    bne_iff_ne.2 fun heq => hfirst (List.cons.inj heq).1
  have hchars : ((first :: rest).all fun c => c.isAlphanum || c == '.' || c == '_' || c == '-') =
      true := by
    refine List.all_eq_true.2 fun c hc => ?_
    simp only [Bool.or_eq_true, beq_iff_eq, or_assoc]
    exact hall c hc
  rw [isSafeSegment, hdot, hdots, hchars]
  rfl

/-- A safe segment has no slash. -/
theorem slash_notMem_of_isSafeSegment {part : List Char} (h : isSafeSegment part = true) :
    '/' ∉ part := by
  unfold isSafeSegment at h
  simp only [Bool.and_eq_true, List.all_eq_true] at h
  exact fun hmem => absurd (h.2 _ hmem) (by decide)

theorem isSafeChar_of_mem_numeral {width value : ℕ} {c : Char} (h : c ∈ numeral width value) :
    IsSafeChar c :=
  .inl (by rw [Char.isAlphanum, isDigit_of_mem_numeral h, Bool.or_true])

theorem isSafeChar_of_mem_identifier {request : TileGeometryRequest} {c : Char}
    (h : c ∈ request.identifier.toList) : IsSafeChar c :=
  (mem_identifier h).imp_right fun hdash => .inr (.inr hdash)

/-- Every character of a tile identifier is safe. -/
theorem isSafeChar_of_mem_tileId {pageNumber x y : ℕ} {geometry : TileGeometryRequest} {c : Char}
    (h : c ∈ (tileId pageNumber geometry x y).toList) : IsSafeChar c := by
  have hliteral : ∀ c ∈ ['p', '_', 'x', 'y'], IsSafeChar c := isSafeChar_of_all (by decide)
  rw [toList_tileId] at h
  simp only [List.mem_cons, List.mem_append] at h
  rcases h with h | h | h | h | h | h | h | h | h | h
  · exact h ▸ hliteral 'p' (by decide)
  · exact isSafeChar_of_mem_numeral h
  · exact h ▸ hliteral '_' (by decide)
  · exact isSafeChar_of_mem_identifier h
  · exact h ▸ hliteral '_' (by decide)
  · exact h ▸ hliteral 'x' (by decide)
  · exact isSafeChar_of_mem_numeral h
  · exact h ▸ hliteral '_' (by decide)
  · exact h ▸ hliteral 'y' (by decide)
  · exact isSafeChar_of_mem_numeral h

/-- A geometry identifier is a safe segment. -/
theorem isSafeSegment_identifier (request : TileGeometryRequest) :
    isSafeSegment request.identifier.toList = true := by
  have hfirst : "tpv".toList = 't' :: "pv".toList := by decide
  obtain ⟨rest, hrest⟩ : ∃ rest, request.identifier.toList = 't' :: rest := by
    rw [toList_identifier, hfirst]
    exact ⟨_, rfl⟩
  rw [hrest]
  exact isSafeSegment_of_forall (by decide) fun c hc =>
    isSafeChar_of_mem_identifier (hrest ▸ hc : c ∈ request.identifier.toList)

/-- A tile identifier is a safe segment, with or without the suffix of its file. -/
theorem isSafeSegment_tileId (pageNumber : ℕ) (geometry : TileGeometryRequest) (x y : ℕ) :
    isSafeSegment (tileId pageNumber geometry x y).toList = true ∧
      isSafeSegment (tileId pageNumber geometry x y ++ ".jpg").toList = true := by
  have hsuffix : ∀ c ∈ ".jpg".toList, IsSafeChar c := isSafeChar_of_all (by decide)
  have hall : ∀ c ∈ (tileId pageNumber geometry x y).toList, IsSafeChar c :=
    fun c hc => isSafeChar_of_mem_tileId hc
  rw [String.toList_append]
  rw [toList_tileId] at hall ⊢
  refine ⟨isSafeSegment_of_forall (by decide) hall, isSafeSegment_of_forall (by decide) ?_⟩
  intro c hc
  rw [← List.cons_append] at hc
  exact (List.mem_append.1 hc).elim (hall c) (hsuffix c)

/-- The identifier of a render is a safe segment. -/
theorem isSafeSegment_renderId {renderId : String} (h : isRenderId renderId = true) :
    isSafeSegment renderId.toList = true ∧ renderId.toList.length = 36 := by
  unfold isRenderId at h
  simp only [Bool.and_eq_true, beq_iff_eq, List.all_eq_true] at h
  have hprefix : "rnd_".toList = ['r', 'n', 'd', '_'] := by decide
  have hlist := List.take_append_drop 4 renderId.toList
  rw [h.1.1, hprefix] at hlist
  refine ⟨?_, h.1.2⟩
  rw [← hlist]
  refine isSafeSegment_of_forall (by decide) fun c hc => ?_
  have hliteral : ∀ c ∈ ['r', 'n', 'd', '_'], IsSafeChar c := isSafeChar_of_all (by decide)
  rcases (List.mem_append (s := ['r', 'n', 'd', '_'])).1 hc with hc | hc
  · exact hliteral c hc
  · have hhex := h.2 c hc
    unfold isLowerHex at hhex
    refine .inl ?_
    simp only [Bool.or_eq_true, Bool.and_eq_true, decide_eq_true_eq] at hhex
    rcases hhex with hdigit | ⟨hlow, hhigh⟩
    · rw [Char.isAlphanum, hdigit, Bool.or_true]
    · have hlower : c.isLower = true := Bool.and_eq_true_iff.2
        ⟨decide_eq_true hlow, decide_eq_true (UInt32.le_trans hhigh (by decide : 'f'.val ≤ 'z'.val))⟩
      have halpha : c.isAlpha = true := (congrArg (c.isUpper || ·) hlower).trans (Bool.or_true _)
      rw [Char.isAlphanum, halpha, Bool.true_or]

/-- A geometry identifier has thirty-five characters at most. -/
theorem length_identifier_le (request : TileGeometryRequest) :
    request.identifier.toList.length ≤ 35 := by
  have hversion := length_semanticVersion_le request.pipelineVersions.tilePipelineVersion_valid
  have hwidth := @length_numeral_le 4 request.width 5 (by decide)
    (request.width_mem.2.trans_lt (by decide))
  have hheight := @length_numeral_le 4 request.height 5 (by decide)
    (request.height_mem.2.trans_lt (by decide))
  have hoverlap := @length_numeral_le 3 request.overlap 5 (by decide)
    (request.overlap_le.trans_lt (by decide))
  have hfirst : "tpv".toList.length = 3 := by decide
  rw [toList_identifier]
  simp only [List.length_append, List.length_cons, List.length_nil, dashed, String.toList_ofList,
    List.length_map, hfirst]
  omega

/-- The corners and page numbers of tiles: pages are numbered up to a hundred thousand, and no page
has more than a hundred and twenty million pixels. -/
structure IsCorner (pageNumber x y : ℕ) : Prop where
  pageNumber_mem : 1 ≤ pageNumber ∧ pageNumber ≤ 100000
  x_lt : x < 120000000
  y_lt : y < 120000000

/-- A tile identifier has sixty-five characters at most. -/
theorem length_tileId_le {pageNumber x y : ℕ} (h : IsCorner pageNumber x y)
    (geometry : TileGeometryRequest) : (tileId pageNumber geometry x y).toList.length ≤ 65 := by
  have hpage := @length_numeral_le 4 pageNumber 6 (by decide)
    (h.pageNumber_mem.2.trans_lt (by decide))
  have hx := @length_numeral_le 6 x 9 (by decide) (h.x_lt.trans (by decide))
  have hy := @length_numeral_le 6 y 9 (by decide) (h.y_lt.trans (by decide))
  have hgeometry := length_identifier_le geometry
  rw [toList_tileId]
  simp only [List.length_append, List.length_cons]
  omega

/-- A text of one safe segment is a safe path. -/
theorem isSafeRelativePath_of_segment {value : String} (hlength : value.toList.length ≤ 512)
    (h : isSafeSegment value.toList = true) : isSafeRelativePath value = true := by
  unfold isSafeRelativePath
  rw [List.splitOn_eq_singleton (slash_notMem_of_isSafeSegment h), List.all_cons, h,
    decide_eq_true hlength]
  rfl

/-- The segments of a tile set are safe. -/
theorem isSafeSegment_of_mem_tileSegments {renderId name : String} {pageNumber : ℕ}
    {geometry : TileGeometryRequest} (hrender : isRenderId renderId = true)
    (hname : isSafeSegment name.toList = true) :
    ∀ segment ∈ tileSegments renderId pageNumber geometry name, isSafeSegment segment = true := by
  have hfixed : isSafeSegment "renders".toList = true ∧ isSafeSegment "tiles".toList = true := by
    decide
  have hpage : isSafeSegment ("page-".toList ++ numeral 4 pageNumber) = true := by
    have hliteral : ∀ c ∈ "page-".toList, IsSafeChar c := isSafeChar_of_all (by decide)
    have hfirst : "page-".toList = 'p' :: "age-".toList := by decide
    rw [hfirst] at hliteral ⊢
    refine isSafeSegment_of_forall (by decide) fun c hc => ?_
    rcases List.mem_append.1 (List.cons_append ▸ hc) with hc | hc
    · exact hliteral c hc
    · exact isSafeChar_of_mem_numeral hc
  intro segment hsegment
  simp only [tileSegments, List.mem_cons, List.not_mem_nil, or_false] at hsegment
  rcases hsegment with rfl | rfl | rfl | rfl | rfl | rfl
  · exact hfixed.1
  · exact (isSafeSegment_renderId hrender).1
  · exact hfixed.2
  · exact hpage
  · exact isSafeSegment_identifier geometry
  · exact hname

/-- The paths of a tile set are safe. -/
theorem isSafeRelativePath_of_segments {renderId name value : String} {pageNumber : ℕ}
    {geometry : TileGeometryRequest} (hrender : isRenderId renderId = true)
    (hpage : pageNumber ≤ 100000) (hname : isSafeSegment name.toList = true)
    (hlength : name.toList.length ≤ 69)
    (hvalue : value.toList = ['/'].intercalate (tileSegments renderId pageNumber geometry name)) :
    isSafeRelativePath value = true := by
  have hsafe := @isSafeSegment_of_mem_tileSegments renderId name pageNumber geometry hrender hname
  have hnumeral := @length_numeral_le 4 pageNumber 6 (by decide)
    (hpage.trans_lt (by decide))
  have hgeometry := length_identifier_le geometry
  have hrenderLength := (isSafeSegment_renderId hrender).2
  have hfixed : "renders".toList.length = 7 ∧ "tiles".toList.length = 5 ∧
      "page-".toList.length = 5 := by decide
  unfold isSafeRelativePath
  rw [hvalue, List.splitOn_intercalate '/'
    (fun segment hsegment => slash_notMem_of_isSafeSegment (hsafe segment hsegment))
    (List.cons_ne_nil _ _), List.all_eq_true.2 hsafe, Bool.and_true, decide_eq_true_eq]
  simp only [tileSegments, List.intercalate, List.intersperse, List.flatten_cons, List.flatten_nil,
    List.length_append, List.length_cons, List.length_nil, hfixed.1, hfixed.2.1, hfixed.2.2]
  omega

/-- The path of a tile is safe. -/
theorem isSafeRelativePath_tilePath {renderId : String} {pageNumber x y : ℕ}
    (hrender : isRenderId renderId = true) (hcorner : IsCorner pageNumber x y)
    (geometry : TileGeometryRequest) :
    isSafeRelativePath (tilePath renderId pageNumber geometry x y) = true := by
  refine isSafeRelativePath_of_segments hrender hcorner.pageNumber_mem.2
    (isSafeSegment_tileId pageNumber geometry x y).2 ?_ (toList_tilePath renderId pageNumber geometry
      x y)
  have hlength := length_tileId_le hcorner geometry
  have hsuffix : ".jpg".toList.length = 4 := by decide
  rw [String.toList_append, List.length_append, hsuffix]
  omega

/-! ## The key of a render -/

/-- Numbers with commas between them. -/
theorem toList_jsonNumbers (values : List ℕ) :
    (jsonNumbers values).toList = [','].intercalate (values.map (Nat.toDigits 10)) := by
  have hmark : ",".toList = [','] := by decide
  rw [jsonNumbers, String.toList_intercalate, hmark, List.map_map]
  exact congrArg _ (List.map_congr_left fun value _ => Nat.toList_repr)

/-- The key of a render, up to the mark of each field. -/
theorem toList_key (request : RenderIdentityRequest) : request.key.toList =
    "\x7b\"classification_algorithm_version\":\"".toList ++
    (request.pipelineVersions.classificationAlgorithmVersion.toList ++ '"' ::
    (",\"fallback_dpi\":".toList ++ (Nat.toDigits 10 request.fallbackDpi ++ ',' ::
    ("\"manifest_schema_version\":\"".toList ++
    (request.pipelineVersions.manifestSchemaVersion.toList ++ '"' ::
    (",\"mode\":\"native\",\"pages\":[".toList ++
    ([','].intercalate (request.pages.map (Nat.toDigits 10)) ++ ']' ::
    (",\"render_pipeline_version\":\"".toList ++
    (request.pipelineVersions.renderPipelineVersion.toList ++ '"' ::
    (",\"renderer_version\":\"".toList ++
    (escaped (fun c => c == '"' || c == '\\') '\\' request.rendererVersion.toList ++ '"' ::
    (",\"source_sha256\":\"".toList ++ (request.sourceSha256.toList ++ '"' ::
    (",\"tile_pipeline_version\":\"".toList ++
    (request.pipelineVersions.tilePipelineVersion.toList ++ '"' ::
      "\x7d".toList))))))))))))))) := by
  have hquote : "\"".toList = ['"'] := by decide
  have hcomma : ",".toList = [','] := by decide
  have hbracket : "]".toList = [']'] := by decide
  have hescaped : (request.rendererVersion.toList.flatMap jsonChar) =
      escaped (fun c => c == '"' || c == '\\') '\\' request.rendererVersion.toList := rfl
  have hdpi : "\",\"fallback_dpi\":" = "\"" ++ ",\"fallback_dpi\":" := by
    simp only [String.reduceAppend]
  have hmanifest : ",\"manifest_schema_version\":\"" = "," ++ "\"manifest_schema_version\":\"" := by
    simp only [String.reduceAppend]
  have hmode : "\",\"mode\":\"native\",\"pages\":[" =
      "\"" ++ ",\"mode\":\"native\",\"pages\":[" := by
    simp only [String.reduceAppend]
  have hrender : "],\"render_pipeline_version\":\"" = "]" ++ ",\"render_pipeline_version\":\"" := by
    simp only [String.reduceAppend]
  have hrenderer : "\",\"renderer_version\":\"" = "\"" ++ ",\"renderer_version\":\"" := by
    simp only [String.reduceAppend]
  have hsource : "\",\"source_sha256\":\"" = "\"" ++ ",\"source_sha256\":\"" := by
    simp only [String.reduceAppend]
  have htile : "\",\"tile_pipeline_version\":\"" = "\"" ++ ",\"tile_pipeline_version\":\"" := by
    simp only [String.reduceAppend]
  have hend : "\"\x7d" = "\"" ++ "\x7d" := by
    simp only [String.reduceAppend]
  unfold RenderIdentityRequest.key
  simp only [hdpi, hmanifest, hmode, hrender, hrenderer, hsource, htile, hend]
  simp only [String.toList_append, String.toList_ofList, Nat.toList_repr, toList_jsonNumbers, hescaped,
    hquote, hcomma, hbracket, List.append_assoc, List.cons_append, List.nil_append]

/-- A digest has no quote. -/
theorem quote_notMem_sha256 {value : String} (h : isSha256 value = true) : '"' ∉ value.toList := by
  unfold isSha256 at h
  simp only [Bool.and_eq_true, List.all_eq_true] at h
  exact fun hmem => absurd (h.2 _ hmem) (by decide)

/-- **Render keys.** The key has all fields of the request. -/
theorem key_injective : Function.Injective RenderIdentityRequest.key := by
  intro a b h
  have hlists := congrArg String.toList h
  rw [toList_key, toList_key] at hlists
  have hversion {value : String} (hvalue : isSemanticVersion value = true) : '"' ∉ value.toList :=
    notMem_semanticVersion hvalue (by decide) (by decide)
  have hdigits {c : Char} (hc : c.isDigit = false) {value : ℕ} : c ∉ Nat.toDigits 10 value :=
    notMem_toDigits hc
  have hfields {c : Char} (hc : c.isDigit = false) {values : List ℕ} :
      ∀ field ∈ values.map (Nat.toDigits 10), c ∉ field := by
    intro field hfield
    obtain ⟨value, -, rfl⟩ := List.mem_map.1 hfield
    exact notMem_toDigits hc
  have hnumbers {values : List ℕ} : ']' ∉ [','].intercalate (values.map (Nat.toDigits 10)) :=
    notMem_intercalate (by decide) (hfields (by decide))
  have hnonempty {request : RenderIdentityRequest} :
      request.pages.map (Nat.toDigits 10) ≠ [] := by
    intro hnil
    have hlength := request.pages_length.1
    rw [List.map_eq_nil_iff.1 hnil] at hlength
    cases hlength
  obtain ⟨hclassification, hrest⟩ := append_mark_inj
    (hversion a.pipelineVersions.classificationAlgorithmVersion_valid)
    (hversion b.pipelineVersions.classificationAlgorithmVersion_valid)
    (List.append_cancel_left hlists)
  obtain ⟨hdpi, hrest⟩ := append_mark_inj (hdigits (by decide)) (hdigits (by decide))
    (List.append_cancel_left hrest)
  obtain ⟨hmanifest, hrest⟩ := append_mark_inj
    (hversion a.pipelineVersions.manifestSchemaVersion_valid)
    (hversion b.pipelineVersions.manifestSchemaVersion_valid) (List.append_cancel_left hrest)
  obtain ⟨hpages, hrest⟩ := append_mark_inj hnumbers hnumbers (List.append_cancel_left hrest)
  obtain ⟨hrender, hrest⟩ := append_mark_inj
    (hversion a.pipelineVersions.renderPipelineVersion_valid)
    (hversion b.pipelineVersions.renderPipelineVersion_valid) (List.append_cancel_left hrest)
  obtain ⟨hrenderer, hrest⟩ := escaped_mark_inj (by decide) (by decide) (by decide)
    (List.append_cancel_left hrest)
  obtain ⟨hsource, hrest⟩ := append_mark_inj (quote_notMem_sha256 a.sourceSha256_valid)
    (quote_notMem_sha256 b.sourceSha256_valid) (List.append_cancel_left hrest)
  obtain ⟨htile, -⟩ := append_mark_inj (hversion a.pipelineVersions.tilePipelineVersion_valid)
    (hversion b.pipelineVersions.tilePipelineVersion_valid) (List.append_cancel_left hrest)
  have hpages := toDigits_injective.list_map
    (intercalate_inj (hfields (by decide)) (hfields (by decide)) hnonempty hnonempty hpages)
  have hdpi := toDigits_injective hdpi
  obtain ⟨_, pages, _, dpi, ⟨_, _, _, _, _, _, _, _⟩, _, _, _, _, _⟩ := a
  obtain ⟨_, pages', _, dpi', ⟨_, _, _, _, _, _, _, _⟩, _, _, _, _, _⟩ := b
  rw [String.toList_inj] at hclassification hmanifest hrender hrenderer hsource htile
  dsimp only at *
  subst hclassification hmanifest hrender hrenderer hsource htile hpages hdpi
  rfl

/-! ## The identities of the current versions -/

/-- The geometry identifier of the current versions. -/
theorem tileGeometryIdentifier_eq (request : TileGeometryRequest)
    (h : request.pipelineVersions = pdfPipelineVersions) :
    tileGeometryIdentifier request.width request.height request.overlap =
      .ok request.identifier := by
  have hversion : "tpv1-0-0-w" = "tpv" ++ dashed pdfPipelineVersions.tilePipelineVersion ++ "-w" := by
    decide +kernel
  unfold tileGeometryIdentifier TileGeometryRequest.identifier
  rw [if_pos ⟨request.width_mem, request.height_mem, request.overlap_le⟩, h, hversion]

/-- The render identifier of the current versions. -/
theorem renderIdentifier_eq (sha256 : Bytes → String) (request : RenderIdentityRequest)
    (h : request.pipelineVersions = pdfPipelineVersions) :
    renderIdentifier sha256 request.sourceSha256 request.pages request.rendererVersion
      request.fallbackDpi = .ok (request.identifier sha256) := by
  have hclassification : "\x7b\"classification_algorithm_version\":\"1.0.0\",\"fallback_dpi\":" =
      "\x7b\"classification_algorithm_version\":\"" ++ "1.0.0" ++ "\",\"fallback_dpi\":" := by
    simp only [String.reduceAppend]
  have hmanifest : ",\"manifest_schema_version\":\"1.0.0\",\"mode\":\"native\",\"pages\":[" =
      ",\"manifest_schema_version\":\"" ++ "1.0.0" ++ "\",\"mode\":\"native\",\"pages\":[" := by
    simp only [String.reduceAppend]
  have hrender : "],\"render_pipeline_version\":\"1.0.0\",\"renderer_version\":\"" =
      "],\"render_pipeline_version\":\"" ++ "1.0.0" ++ "\",\"renderer_version\":\"" := by
    simp only [String.reduceAppend]
  have htile : "\",\"tile_pipeline_version\":\"1.0.0\"\x7d" =
      "\",\"tile_pipeline_version\":\"" ++ "1.0.0" ++ "\"\x7d" := by
    simp only [String.reduceAppend]
  have hkey : renderKey request.sourceSha256 request.pages request.rendererVersion
      request.fallbackDpi = request.key := by
    unfold renderKey RenderIdentityRequest.key
    rw [h]
    simp only [pdfPipelineVersions, hclassification, hmanifest, hrender, htile, String.append_assoc]
  unfold renderIdentifier
  rw [if_pos request.rendererVersion_valid, hkey]
  rfl

/-! ## All identities -/

/-- The requests have the same dimensions, overlap and tile version. -/
structure TileGeometryRequest.Same (a b : TileGeometryRequest) : Prop where
  tilePipelineVersion :
    a.pipelineVersions.tilePipelineVersion = b.pipelineVersions.tilePipelineVersion
  width : a.width = b.width
  height : a.height = b.height
  overlap : a.overlap = b.overlap

/-- Geometry identifiers are those of the fields they have. -/
theorem identifier_eq_iff {a b : TileGeometryRequest} :
    a.identifier = b.identifier ↔ a.Same b := by
  constructor
  · intro h
    obtain ⟨hversion, hwidth, hheight, hoverlap⟩ := identifier_inj h
    exact ⟨hversion, hwidth, hheight, hoverlap⟩
  · rintro ⟨hversion, hwidth, hheight, hoverlap⟩
    unfold TileGeometryRequest.identifier
    rw [hversion, hwidth, hheight, hoverlap]

/-- Paths of tile sets are those of the render, the page, the geometry and the name. -/
theorem tileSegments_inj {renderId renderId' name name' : String} {pageNumber pageNumber' : ℕ}
    {geometry geometry' : TileGeometryRequest} (hrender : isRenderId renderId = true)
    (hrender' : isRenderId renderId' = true) (hname : isSafeSegment name.toList = true)
    (hname' : isSafeSegment name'.toList = true)
    (h : ['/'].intercalate (tileSegments renderId pageNumber geometry name) =
      ['/'].intercalate (tileSegments renderId' pageNumber' geometry' name')) :
    renderId = renderId' ∧ pageNumber = pageNumber' ∧ geometry.identifier = geometry'.identifier ∧
      name = name' := by
  have hslash {renderId name : String} {pageNumber : ℕ} {geometry : TileGeometryRequest}
      (hrender : isRenderId renderId = true) (hname : isSafeSegment name.toList = true) :
      ∀ segment ∈ tileSegments renderId pageNumber geometry name, '/' ∉ segment := fun segment hmem =>
    slash_notMem_of_isSafeSegment (isSafeSegment_of_mem_tileSegments hrender hname segment hmem)
  have hsegments := intercalate_inj (hslash hrender hname) (hslash hrender' hname')
    (List.cons_ne_nil _ _) (List.cons_ne_nil _ _) h
  unfold tileSegments at hsegments
  simp only [List.cons.injEq, and_true, true_and, List.append_cancel_left_eq,
    String.toList_inj] at hsegments
  exact ⟨hsegments.1, numeral_injective 4 hsegments.2.1, hsegments.2.2⟩

theorem isSafeSegment_manifest : isSafeSegment "manifest.json".toList = true := by decide

/-- **Derivative identities.** Geometry identifiers, tile identifiers and tile manifest paths have
the fields of their requests, of the versions the tile version, and are safe paths; a render key has
all fields of its request, and so has a render identifier unless the digests of two keys collide. -/
theorem derivative_identities (sha256 : Bytes → String) :
    (∀ a b : TileGeometryRequest, a.identifier = b.identifier ↔ a.Same b) ∧
    (∀ (a b : TileGeometryRequest) (pageNumber pageNumber' x y x' y' : ℕ),
      tileId pageNumber a x y = tileId pageNumber' b x' y' ↔
        pageNumber = pageNumber' ∧ a.Same b ∧ x = x' ∧ y = y') ∧
    (∀ (a b : TileGeometryRequest) (renderId renderId' : String) (pageNumber pageNumber' : ℕ),
      isRenderId renderId = true → isRenderId renderId' = true →
      (tileManifestPath renderId pageNumber a = tileManifestPath renderId' pageNumber' b ↔
        renderId = renderId' ∧ pageNumber = pageNumber' ∧ a.Same b)) ∧
    (∀ (geometry : TileGeometryRequest) (renderId : String) (pageNumber x y : ℕ),
      isRenderId renderId = true → IsCorner pageNumber x y →
      isSafeRelativePath geometry.identifier = true ∧
      isSafeRelativePath (tileId pageNumber geometry x y) = true ∧
      hasLength (tileId pageNumber geometry x y) 128 ∧
      isSafeRelativePath (tileManifestPath renderId pageNumber geometry) = true ∧
      isSafeRelativePath (tilePath renderId pageNumber geometry x y) = true) ∧
    (∀ a b : RenderIdentityRequest, a.key = b.key → a = b) ∧
    (∀ a b : RenderIdentityRequest,
      (truncatedSha256 sha256 a.key = truncatedSha256 sha256 b.key → a.key = b.key) →
      a.identifier sha256 = b.identifier sha256 → a = b) := by
  refine ⟨fun a b => identifier_eq_iff, fun a b pageNumber pageNumber' x y x' y' => ⟨fun h => ?_, ?_⟩,
    fun a b renderId renderId' pageNumber pageNumber' hrender hrender' => ⟨fun h => ?_, ?_⟩,
    fun geometry renderId pageNumber x y hrender hcorner => ⟨?_, ?_, ?_, ?_, ?_⟩,
    fun a b h => key_injective h, fun a b hcollision h => ?_⟩
  · obtain ⟨hpage, hgeometry, hx, hy⟩ := tileId_inj h
    exact ⟨hpage, identifier_eq_iff.1 hgeometry, hx, hy⟩
  · rintro ⟨rfl, hsame, rfl, rfl⟩
    rw [tileId, identifier_eq_iff.2 hsame]
    rfl
  · have hlists := congrArg String.toList h
    rw [toList_tileManifestPath, toList_tileManifestPath] at hlists
    obtain ⟨hid, hpage, hgeometry, -⟩ := tileSegments_inj hrender hrender' isSafeSegment_manifest
      isSafeSegment_manifest hlists
    exact ⟨hid, hpage, identifier_eq_iff.1 hgeometry⟩
  · rintro ⟨rfl, rfl, hsame⟩
    unfold tileManifestPath tileRoot
    rw [identifier_eq_iff.2 hsame]
  · exact isSafeRelativePath_of_segment ((length_identifier_le geometry).trans (by decide))
      (isSafeSegment_identifier geometry)
  · exact isSafeRelativePath_of_segment ((length_tileId_le hcorner geometry).trans (by decide))
      (isSafeSegment_tileId pageNumber geometry x y).1
  · refine ⟨?_, (length_tileId_le hcorner geometry).trans (by decide)⟩
    rw [toList_tileId]
    exact Nat.succ_pos _
  · exact isSafeRelativePath_of_segments hrender hcorner.pageNumber_mem.2 isSafeSegment_manifest
      (by decide) (toList_tileManifestPath renderId pageNumber geometry)
  · exact isSafeRelativePath_tilePath hrender hcorner geometry
  · refine key_injective (hcollision ?_)
    have hlists := congrArg String.toList h
    simp only [RenderIdentityRequest.identifier, String.toList_append] at hlists
    exact String.toList_inj.1 (List.append_cancel_left hlists)

/-- A request for one page of a source. -/
def pageRequest (page : ℕ) (h : 1 ≤ page ∧ page ≤ 100000) : RenderIdentityRequest where
  sourceSha256 := "0000000000000000000000000000000000000000000000000000000000000000"
  pages := [page]
  rendererVersion := "r1"
  fallbackDpi := 400
  sourceSha256_valid := by decide +kernel
  pages_mem := fun _ hmem => List.mem_singleton.1 hmem ▸ h
  pages_length := ⟨le_rfl, by rw [List.length_singleton]; decide⟩
  rendererVersion_valid := by decide +kernel
  fallbackDpi_mem := PdfProcessorSettings.standard.fallbackDpi_mem

/-- The digests of the keys of its first two pages. -/
def pageDigest (data : Bytes) : String :=
  if data = encodeUtf8 (pageRequest 1 (by decide)).key then
    "2456e692053b917f812ee2d84db5283371bed666390565d203d765423c057ddd"
  else "a8bd93a042b4f922f3880a2ce4eaec4fe4d7e7ade8434a18db67b9c8ec65f818"

/-- The first two pages of a source are different renders. -/
theorem derivative_identities_pages : (pageRequest 1 (by decide)).identifier pageDigest ≠
    (pageRequest 2 (by decide)).identifier pageDigest := by
  have hkeys : encodeUtf8 (pageRequest 2 (by decide)).key ≠
      encodeUtf8 (pageRequest 1 (by decide)).key := fun heq =>
    absurd (congrArg RenderIdentityRequest.pages (key_injective (encodeUtf8_injective heq)))
      (by decide)
  have hfirst : truncatedSha256 pageDigest (pageRequest 1 (by decide)).key =
      "2456e692053b917f812ee2d84db52833" := by
    rw [truncatedSha256, pageDigest, if_pos rfl]
    decide +kernel
  have hsecond : truncatedSha256 pageDigest (pageRequest 2 (by decide)).key =
      "a8bd93a042b4f922f3880a2ce4eaec4f" := by
    rw [truncatedSha256, pageDigest, if_neg hkeys]
    decide +kernel
  intro h
  have hsame := (derivative_identities pageDigest).2.2.2.2.2 (pageRequest 1 (by decide))
    (pageRequest 2 (by decide)) (fun heq => absurd (hfirst.symm.trans (heq.trans hsecond)) (by decide)) h
  exact absurd (congrArg RenderIdentityRequest.pages hsame) (by decide)

/-- The versions after a change of the manifest schema. -/
def laterSchemaVersions : PdfPipelineVersions :=
  { pdfPipelineVersions with
    manifestSchemaVersion := "2.0.0"
    manifestSchemaVersion_valid := by decide +kernel }

/-- A geometry of the current versions. -/
def currentGeometry : TileGeometryRequest where
  width := 256
  height := 256
  overlap := 0
  width_mem := by decide
  height_mem := by decide
  overlap_le := by decide

/-- A geometry identifier has the tile version only: it does not tell manifest schemas apart. -/
theorem geometry_identifier_not_injective : ¬ Function.Injective TileGeometryRequest.identifier := by
  intro h
  have hsame := @h currentGeometry { currentGeometry with pipelineVersions := laterSchemaVersions } rfl
  exact absurd (congrArg (·.pipelineVersions.manifestSchemaVersion) hsame) (by decide)

end NplgMcp.Pdf
