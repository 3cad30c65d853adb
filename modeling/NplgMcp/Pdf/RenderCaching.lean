import NplgMcp.Pdf.RenderReading
import NplgMcp.Pdf.TileGrid

/-!
# Renders are served from what was written

What `render_pages` and `render_tiles` write is accepted by `get_manifest` and
`_read_tile_manifest`, which return the value that was written. A request that succeeded therefore
gives the same manifest again and writes nothing, as long as the files that it needs stay
(`renderPages_again`, `renderTiles_again`). `squarePlatform` is one on which both can be followed.
-/

open Library Library.JsonText

namespace NplgMcp.Pdf

/-! ## What is written -/

section
variable {renderId relativeName : String} {data : Bytes}

/-- A name of safe segments is written below the render. -/
theorem writeRenderAsset_of_segments (hid : isRenderId renderId = true) {segments : List (List Char)}
    (hne : segments ≠ []) (hsafe : ∀ segment ∈ segments, isSafeSegment segment = true)
    (hname : relativeName.toList = ['/'].intercalate segments) :
    writeRenderAsset renderId relativeName data =
      .ok ("renders/" ++ renderId ++ "/" ++ relativeName, data) := by
  have hsplit : relativeName.toList.splitOn '/' = segments := by
    rw [hname]
    exact List.splitOn_intercalate '/'
      (fun segment hsegment => slash_notMem_of_isSafeSegment (hsafe segment hsegment)) hne
  have hproper : ∀ segment ∈ segments, segment ≠ [] ∧ segment ≠ ['.'] ∧ segment ≠ ['.', '.'] ∧
      '\\' ∉ segment := by
    intro segment hsegment
    have h := hsafe segment hsegment
    unfold isSafeSegment at h
    simp only [Bool.and_eq_true, bne_iff_ne, List.all_eq_true, Bool.not_eq_true',
      List.isEmpty_eq_false_iff] at h
    obtain ⟨⟨⟨hempty, hdot⟩, hdots⟩, hchars⟩ := h
    exact ⟨hempty, hdot, hdots, fun hmem => absurd (hchars _ hmem) (by decide)⟩
  have hparts : pureParts relativeName = segments := by
    rw [pureParts, hsplit, List.filter_eq_self]
    intro segment hsegment
    exact decide_eq_true ⟨(hproper segment hsegment).1, (hproper segment hsegment).2.1⟩
  have hback : '\\' ∉ relativeName.toList := by
    rw [hname]
    exact Fields.notMem_intercalate (by decide) fun segment hsegment =>
      (hproper segment hsegment).2.2.2
  have hhead : relativeName.toList.head? ≠ some '/' := by
    obtain ⟨segment, rest, rfl⟩ := List.exists_cons_of_ne_nil hne
    have hslash := slash_notMem_of_isSafeSegment (hsafe segment List.mem_cons_self)
    obtain ⟨c, tail, rfl⟩ := List.exists_cons_of_ne_nil (hproper segment List.mem_cons_self).1
    rw [hname]
    intro h
    have hc : c = '/' := by
      cases rest with
      | nil => simpa using h
      | cons next rest => simpa using h
    exact hslash (hc ▸ List.mem_cons_self)
  have hdots : ['.', '.'] ∉ pureParts relativeName := by
    rw [hparts]
    exact fun hmem => (hproper _ hmem).2.2.1 rfl
  rw [writeRenderAsset, if_neg (not_not.2 hid), if_neg (by simp only [List.contains_iff_mem, hhead,
    hdots, hback, or_self, not_false_eq_true]), hparts, ← hname, String.ofList_toList]

/-- A safe name is written below the render. -/
theorem writeRenderAsset_of_segment (hid : isRenderId renderId = true)
    (hsafe : isSafeSegment relativeName.toList = true) :
    writeRenderAsset renderId relativeName data =
      .ok ("renders/" ++ renderId ++ "/" ++ relativeName, data) := by
  refine writeRenderAsset_of_segments hid (List.cons_ne_nil relativeName.toList []) ?_ ?_
  · intro segment hsegment
    rwa [List.mem_singleton.1 hsegment]
  · simp [List.intercalate]

/-- The name of a page's file is safe. -/
theorem isSafeSegment_pageName (pageNumber : ℕ) :
    isSafeSegment ("page-" ++ padded 4 pageNumber ++ ".jpg").toList = true := by
  have hliteral : ∀ c ∈ "page-".toList, IsSafeChar c := isSafeChar_of_all (by decide)
  have hsuffix : ∀ c ∈ ".jpg".toList, IsSafeChar c := isSafeChar_of_all (by decide)
  have hfirst : "page-".toList = 'p' :: "age-".toList := by decide
  have hname : ("page-" ++ padded 4 pageNumber ++ ".jpg").toList =
      'p' :: ("age-".toList ++ (Fields.numeral 4 pageNumber ++ ".jpg".toList)) := by
    rw [String.toList_append, String.toList_append, toList_padded, hfirst, List.append_assoc,
      List.cons_append]
  rw [hfirst] at hliteral
  rw [hname]
  refine isSafeSegment_of_forall (by decide) fun c hc => ?_
  rw [← List.cons_append] at hc
  rcases List.mem_append.1 hc with hc | hc
  · exact hliteral c hc
  · rcases List.mem_append.1 hc with hc | hc
    · exact isSafeChar_of_mem_numeral hc
    · exact hsuffix c hc

/-- The path of a page is below its render. -/
theorem pagePath_eq (renderId : String) (pageNumber : ℤ) : pagePath renderId pageNumber =
    "renders/" ++ renderId ++ "/" ++ ("page-" ++ padded 4 pageNumber.toNat ++ ".jpg") := by
  have hpage : "/page-" = "/" ++ "page-" := by decide
  rw [pagePath, hpage]
  simp only [String.append_assoc]

/-- The path of the manifest is below its render. -/
theorem renderManifestPath_eq (renderId : String) :
    renderManifestPath renderId = "renders/" ++ renderId ++ "/" ++ "manifest.json" := by
  have hname : "/manifest.json" = "/" ++ "manifest.json" := by decide
  rw [renderManifestPath, hname]
  simp only [String.append_assoc]

/-- Two texts that go on after the same one are the same. -/
theorem append_left_injective (front : String) : Function.Injective (front ++ ·) := by
  intro a b h
  have hlists := congrArg String.toList h
  simp only [String.toList_append] at hlists
  exact String.toList_inj.1 (List.append_cancel_left hlists)

/-- The path of a page tells its number. -/
theorem pagePath_inj {a b : ℤ} (ha : 1 ≤ a) (hb : 1 ≤ b)
    (h : pagePath renderId a = pagePath renderId b) : a = b := by
  rw [pagePath_eq, pagePath_eq] at h
  have hlists := congrArg String.toList (append_left_injective _ h)
  simp only [String.toList_append, toList_padded] at hlists
  have hnumber := Fields.numeral_injective 4
    (List.append_cancel_left (List.append_cancel_right hlists))
  omega

/-- The manifest is at no page's path. -/
theorem pagePath_ne_renderManifestPath (pageNumber : ℤ) :
    pagePath renderId pageNumber ≠ renderManifestPath renderId := by
  intro h
  rw [pagePath_eq, renderManifestPath_eq] at h
  have hhead := congrArg (fun text => text.toList.head?) (append_left_injective _ h)
  have hpage : "page-".toList = 'p' :: "age-".toList := by decide
  have hmanifest : "manifest.json".toList.head? = some 'm' := by decide
  simp only [String.toList_append, hpage, hmanifest, List.cons_append, List.head?_cons] at hhead
  exact absurd (Option.some.inj hhead) (by decide)

end

/-! ## The store after a request -/

section
variable {assets : Assets} {written : List Written}

/-- A file that is written once is there. -/
theorem after_of_mem (hpaths : (written.map Prod.fst).Nodup) {path : String} {data : Bytes}
    (h : (path, data) ∈ written) : assets.after written path = .content data := by
  have hlookup : written.reverse.lookup path = some data := by
    have hnodup : (written.reverse.map Prod.fst).Nodup := by
      rwa [List.map_reverse, List.nodup_reverse]
    have hmem := List.mem_reverse.2 h
    generalize written.reverse = files at hnodup hmem
    induction files with
    | nil => cases hmem
    | cons file files ih =>
        obtain ⟨name, first⟩ := file
        obtain ⟨hname, hrest⟩ := List.nodup_cons.1 hnodup
        rcases List.mem_cons.1 hmem with heq | hlater
        · obtain ⟨rfl, rfl⟩ := Prod.mk.inj heq
          exact List.lookup_cons_self
        · have hne : (path == name) = false := by
            refine beq_eq_false_iff_ne.2 ?_
            rintro rfl
            exact hname (List.mem_map.2 ⟨_, hlater, rfl⟩)
          rw [List.lookup_cons, hne]
          exact ih hrest hlater
  rw [Assets.after, hlookup]

/-- Nothing changes without writing. -/
@[simp] theorem after_nil : assets.after [] = assets := rfl

end

/-- What a loop finds, one thing for each. -/
theorem mapM_eq_ok_iff {α β : Type} {f : α → Except PdfError β} {items : List α} {found : List β} :
    items.mapM f = .ok found ↔ List.Forall₂ (fun item value => f item = .ok value) items found := by
  induction items generalizing found with
  | nil =>
      rw [List.mapM_nil, List.forall₂_nil_left_iff]
      exact ⟨fun h => (Except.ok.inj h).symm, fun h => congrArg _ h.symm⟩
  | cons item items ih =>
      rw [List.mapM_cons, List.forall₂_cons_left_iff]
      constructor
      · intro h
        obtain ⟨value, hvalue, h⟩ := bind_eq_ok_iff.1 h
        obtain ⟨rest, hrest, h⟩ := bind_eq_ok_iff.1 h
        exact ⟨value, rest, hvalue, ih.1 hrest, (Except.ok.inj h).symm⟩
      · rintro ⟨value, rest, hvalue, hrest, rfl⟩
        exact bind_eq_ok_iff.2 ⟨value, hvalue, bind_eq_ok_iff.2 ⟨rest, ih.2 hrest, rfl⟩⟩

/-! ## Renders -/

section
variable {Page Image : Type} {p : PdfPlatform Page Image} {processor : PdfProcessor}
  {assets assets' : Assets} {renderId sourceSha256 : String} {document : List Page}
  {selected : List ℤ}

/-- A grid has pixels. -/
theorem targetGrid_pos {inspection : PageInspection} {grid : RenderGrid}
    (h : processor.targetGrid p inspection = .ok grid) : 1 ≤ grid.width ∧ 1 ≤ grid.height := by
  have hfallback : ∀ {grid : RenderGrid},
      (.ok (PdfProcessor.targetGrid.fallbackGrid p processor inspection) : Except PdfError _) =
        .ok grid → 1 ≤ grid.width ∧ 1 ≤ grid.height := by
    intro grid h
    obtain rfl := Except.ok.inj h
    exact ⟨le_max_left _ _, le_max_left _ _⟩
  unfold PdfProcessor.targetGrid at h
  split at h
  · split_ifs at h with hclass
    · obtain ⟨dpiX, -, h⟩ := bind_eq_ok_iff.1 h
      obtain ⟨dpiY, -, h⟩ := bind_eq_ok_iff.1 h
      obtain rfl := Except.ok.inj h
      constructor <;> push_cast <;> omega
    · exact hfallback h
  · exact hfallback h

/-- A page as it is rendered, with its file. -/
structure WrittenPage (p : PdfPlatform Page Image) (renderId : String)
    (rendered : RenderedPage String × Written) : Prop where
  path : rendered.2.1 = pagePath renderId rendered.1.pageNumber
  relativePath : rendered.1.relativePath = rendered.2.1
  sha256 : rendered.1.sha256 = p.sha256 rendered.2.2
  mediaType : rendered.1.mediaType = "image/jpeg"
  width_pos : 1 ≤ rendered.1.width
  height_pos : 1 ≤ rendered.1.height
  readsX : p.json.Reads rendered.1.effectiveDpiX
  readsY : p.json.Reads rendered.1.effectiveDpiY

/-- What `_render_page` gives. -/
theorem renderPage_eq_ok {pageNumber : ℤ} {inspection : PageInspection} {grid : RenderGrid}
    {rendered : RenderedPage String × Written} (hid : isRenderId renderId = true)
    (hgrid : 1 ≤ grid.width ∧ 1 ≤ grid.height)
    (h : renderPage p document renderId pageNumber inspection grid = .ok rendered) :
    rendered.1.pageNumber = pageNumber ∧ WrittenPage p renderId rendered := by
  obtain ⟨page, -, h⟩ := bind_eq_ok_iff.1 h
  obtain ⟨encoded, -, h⟩ := bind_eq_ok_iff.1 h
  obtain ⟨written, hwritten, h⟩ := bind_eq_ok_iff.1 h
  rw [writeRenderAsset_of_segment hid (isSafeSegment_pageName _), ← pagePath_eq] at hwritten
  obtain rfl := Except.ok.inj hwritten
  obtain rfl := Except.ok.inj h
  exact ⟨rfl, rfl, rfl, rfl, rfl, hgrid.1, hgrid.2, p.roundDpi_reads _, p.roundDpi_reads _⟩

/-- What the loop over the selected pages gives. -/
theorem renderSelected_eq_ok {inspections : List PageInspection} {grids : List RenderGrid}
    {rendered : List (RenderedPage String × Written)} (hid : isRenderId renderId = true)
    (hinspections : inspections.length = selected.length) (hlength : grids.length = selected.length)
    (hgrids : ∀ grid ∈ grids, 1 ≤ grid.width ∧ 1 ≤ grid.height)
    (h : renderSelected p document renderId selected inspections grids = .ok rendered) :
    rendered.map (·.1.pageNumber) = selected ∧ ∀ page ∈ rendered, WrittenPage p renderId page := by
  induction selected generalizing inspections grids rendered with
  | nil =>
      obtain rfl := Except.ok.inj h
      exact ⟨rfl, fun page hpage => by cases hpage⟩
  | cons pageNumber selected ih =>
      obtain ⟨inspection, inspections, rfl⟩ := List.exists_cons_of_length_eq_add_one hinspections
      obtain ⟨grid, grids, rfl⟩ := List.exists_cons_of_length_eq_add_one hlength
      obtain ⟨hgrid, hgrids⟩ := List.forall_mem_cons.1 hgrids
      obtain ⟨first, hfirst, h⟩ := bind_eq_ok_iff.1 h
      obtain ⟨more, hmore, h⟩ := bind_eq_ok_iff.1 h
      obtain rfl := Except.ok.inj h
      obtain ⟨hnumber, hwritten⟩ := renderPage_eq_ok hid hgrid hfirst
      obtain ⟨hnumbers, hrest⟩ := ih (Nat.succ.inj hinspections) (Nat.succ.inj hlength) hgrids hmore
      exact ⟨by rw [List.map_cons, hnumber, hnumbers], List.forall_mem_cons.2 ⟨hwritten, hrest⟩⟩

/-- The grids of the selected pages. -/
theorem renderGrids_eq_ok {inspections : List PageInspection} {grids : List RenderGrid}
    (h : processor.renderGrids p inspections = .ok grids) :
    grids.length = inspections.length ∧ ∀ grid ∈ grids, 1 ≤ grid.width ∧ 1 ≤ grid.height := by
  obtain ⟨found, hfound, h⟩ := bind_eq_ok_iff.1 h
  obtain ⟨_, -, h⟩ := bind_eq_ok_iff.1 h
  obtain rfl := Except.ok.inj h
  have hall := mapM_eq_ok_iff.1 hfound
  refine ⟨hall.length_eq.symm, fun grid hgrid => ?_⟩
  obtain ⟨i, hi, rfl⟩ := List.getElem_of_mem hgrid
  have hinspection : i < inspections.length := by
    rw [hall.length_eq]
    exact hi
  obtain ⟨found, htarget, hlast⟩ := bind_eq_ok_iff.1
    ((List.forall₂_iff_get.1 hall).2 i hinspection hi)
  obtain ⟨_, -, hlast⟩ := bind_eq_ok_iff.1 hlast
  have hpos := targetGrid_pos htarget
  rw [Except.ok.inj hlast] at hpos
  exact hpos

/-- The paths that a render is written at are distinct. -/
theorem nodup_written {rendered : List (RenderedPage String × Written)} {payload : Bytes}
    (hwritten : ∀ page ∈ rendered, WrittenPage p renderId page)
    (hnumbers : (rendered.map (·.1.pageNumber)).Nodup)
    (hpos : ∀ page ∈ rendered, 1 ≤ page.1.pageNumber) :
    ((rendered.map Prod.snd ++ [(renderManifestPath renderId, payload)]).map Prod.fst).Nodup := by
  have hpaths : (rendered.map Prod.snd).map Prod.fst =
      rendered.map fun page => pagePath renderId page.1.pageNumber := by
    rw [List.map_map]
    exact List.map_congr_left fun page hpage => (hwritten page hpage).path
  rw [List.map_append, hpaths, List.nodup_append]
  refine ⟨?_, List.nodup_singleton _, ?_⟩
  · rw [List.Nodup, List.pairwise_map] at hnumbers ⊢
    refine hnumbers.imp_of_mem fun ha hb hne heq => hne ?_
    exact pagePath_inj (hpos _ ha) (hpos _ hb) heq
  · rintro path hpath other hother rfl
    obtain ⟨page, -, rfl⟩ := List.mem_map.1 hpath
    exact pagePath_ne_renderManifestPath _ (List.mem_singleton.1 hother)

/-- What a fresh rendering gives. -/
structure FreshRender (p : PdfPlatform Page Image) (renderId sourceSha256 : String)
    (selected : List ℤ) (publication : Publication (RenderManifest (List CodePoint)))
    (rendered : List (RenderedPage String × Written)) (payload : Bytes) : Prop where
  manifest : publication.manifest =
    (renderManifestOf p renderId sourceSha256 (rendered.map Prod.fst)).map pointsOf
  written : publication.written = rendered.map Prod.snd ++ [(renderManifestPath renderId, payload)]
  payload : manifestPayload p.json
    (renderManifestOf p renderId sourceSha256 (rendered.map Prod.fst)).members = .ok payload
  numbers : rendered.map (·.1.pageNumber) = selected
  pages : ∀ page ∈ rendered, WrittenPage p renderId page

theorem renderFresh_eq_ok {publication : Publication (RenderManifest (List CodePoint))}
    (hid : isRenderId renderId = true)
    (h : processor.renderFresh p document renderId sourceSha256 selected = .ok publication) :
    ∃ rendered payload, FreshRender p renderId sourceSha256 selected publication rendered payload := by
  obtain ⟨inspections, hinspections, h⟩ := bind_eq_ok_iff.1 h
  obtain ⟨grids, hgrids, h⟩ := bind_eq_ok_iff.1 h
  obtain ⟨rendered, hrendered, h⟩ := bind_eq_ok_iff.1 h
  obtain ⟨⟨manifest, written⟩, hmanifest, h⟩ := bind_eq_ok_iff.1 h
  obtain ⟨payload, hpayload, hmanifest⟩ := bind_eq_ok_iff.1 hmanifest
  obtain ⟨asset, hasset, hmanifest⟩ := bind_eq_ok_iff.1 hmanifest
  obtain ⟨_, -, hmanifest⟩ := bind_eq_ok_iff.1 hmanifest
  obtain ⟨rfl, rfl⟩ := Prod.mk.inj (Except.ok.inj hmanifest)
  rw [writeRenderAsset_of_segment hid (by decide), ← renderManifestPath_eq] at hasset
  obtain rfl := Except.ok.inj hasset
  obtain rfl := Except.ok.inj h
  obtain ⟨hlength, hpos⟩ := renderGrids_eq_ok hgrids
  have hselected := (mapM_eq_ok_iff.1 hinspections).length_eq
  obtain ⟨hnumbers, hpages⟩ :=
    renderSelected_eq_ok hid hselected.symm (hlength.trans hselected.symm) hpos hrendered
  exact ⟨rendered, payload, rfl, rfl, hpayload, hnumbers, hpages⟩

/-- A fresh render is accepted as long as its files stay as they were written. -/
theorem FreshRender.getManifest {publication : Publication (RenderManifest (List CodePoint))}
    {rendered : List (RenderedPage String × Written)} {payload : Bytes}
    (h : FreshRender p renderId sourceSha256 selected publication rendered payload)
    (hid : isRenderId renderId = true) (hsource : isSha256 sourceSha256 = true)
    (hne : selected ≠ []) (hnodup : selected.Nodup) (hpos : ∀ number ∈ selected, 1 ≤ number)
    (hsame : ∀ path ∈ publication.manifest.paths renderId,
      assets' path = assets.after publication.written path) :
    NplgMcp.Pdf.getManifest p assets' renderId = .ok publication.manifest := by
  obtain ⟨hmanifest, hwritten, hpayload, hnumbers, hpages⟩ := h
  have hnumber : ∀ page ∈ rendered, 1 ≤ page.1.pageNumber := by
    intro page hpage
    exact hpos _ (hnumbers ▸ List.mem_map.2 ⟨page, hpage, rfl⟩)
  have hpaths := @nodup_written _ _ p renderId rendered payload hpages (hnumbers ▸ hnodup) hnumber
  have hfile : ∀ path data, path ∈ publication.manifest.paths renderId →
      (path, data) ∈ publication.written → assets' path = .content data := by
    intro path data hpath hmem
    rw [hsame path hpath]
    exact after_of_mem (hwritten ▸ hpaths) hmem
  have hreads : ∀ page ∈ (renderManifestOf p renderId sourceSha256 (rendered.map Prod.fst)).pages,
      p.json.Reads page.effectiveDpiX ∧ p.json.Reads page.effectiveDpiY := by
    intro page hpage
    obtain ⟨page, hmem, rfl⟩ := List.mem_map.1 hpage
    exact ⟨(hpages page hmem).readsX, (hpages page hmem).readsY⟩
  obtain ⟨root, hroot, hread⟩ := readRenderManifest_payload p.floatOfInt hreads hpayload
  have hstored : Stored p assets' renderId publication.manifest := by
    refine ⟨payload, root, hfile _ _ List.mem_cons_self ?_, hroot, hmanifest ▸ hread⟩
    rw [hwritten]
    exact List.mem_append_right _ (List.mem_singleton.2 rfl)
  have hlist : publication.manifest.pages =
      rendered.map fun page => page.1.map pointsOf := by
    rw [hmanifest]
    exact (List.map_map ..)
  have haccepted : ∀ page ∈ publication.manifest.pages, AcceptedPage p assets' renderId page := by
    intro page hpage
    have hpath : pagePath renderId page.pageNumber ∈ publication.manifest.paths renderId :=
      List.mem_cons_of_mem _ (List.mem_map.2 ⟨page, hpage, rfl⟩)
    rw [hlist] at hpage
    obtain ⟨⟨page, file⟩, hmem, rfl⟩ := List.mem_map.1 hpage
    have hpage := hpages _ hmem
    have hdata : assets' (pagePath renderId page.pageNumber) = .content file.2 := by
      refine hfile _ _ hpath ?_
      rw [hwritten]
      refine List.mem_append_left _ (List.mem_map.2 ⟨_, hmem, ?_⟩)
      exact Prod.ext hpage.path rfl
    exact { pageNumber_pos := hnumber _ hmem
            width_pos := hpage.width_pos
            height_pos := hpage.height_pos
            relativePath := congrArg pointsOf (hpage.relativePath.trans hpage.path)
            mediaType := congrArg pointsOf hpage.mediaType
            digest := ⟨file.2, hdata, congrArg pointsOf hpage.sha256.symm⟩ }
  have hsha : isSha256Points (pointsOf sourceSha256) = true := by
    rw [isSha256Points, stringOf_pointsOf, Option.any_some]
    exact hsource
  have hnumbersOf : publication.manifest.pages.map (·.pageNumber) = selected := by
    rw [hlist, List.map_map, ← hnumbers]
    rfl
  refine getManifest_eq_ok_iff.2 ⟨hstored, ?_⟩
  refine ⟨hid, ?_, ?_, ?_, ?_, ?_, ?_, ?_, hnumbersOf ▸ hnodup, haccepted⟩
  · rw [hmanifest]
    rfl
  · rw [hmanifest]
    rfl
  · rw [hmanifest]
    exact hsha
  · rw [hmanifest]
    rfl
  · have hmode : (renderManifestOf p renderId sourceSha256 (rendered.map Prod.fst)).mode = "native" :=
      rfl
    rw [hmanifest]
    exact congrArg pointsOf hmode
  · rw [hmanifest]
    simp [RenderManifest.map, renderManifestOf, versionsMatch]
  · rintro hnil
    rw [hnil] at hnumbersOf
    exact hne hnumbersOf.symm

/-- A truncated digest is the identifier of a render. -/
theorem isRenderId_identifier (request : RenderIdentityRequest) :
    isRenderId (request.identifier p.sha256) = true := by
  have hvalid := p.sha256_valid (encodeUtf8 request.key)
  unfold isSha256 at hvalid
  simp only [Bool.and_eq_true, beq_iff_eq, List.all_eq_true] at hvalid
  obtain ⟨hlength, hhex⟩ := hvalid
  have hstart : "rnd_".toList = ['r', 'n', 'd', '_'] := by decide
  have hlist : (request.identifier p.sha256).toList = ['r', 'n', 'd', '_'] ++
      (p.sha256 (encodeUtf8 request.key)).toList.take 32 := by
    rw [RenderIdentityRequest.identifier, truncatedSha256, String.toList_append,
      hstart, String.toList_ofList]
  unfold isRenderId
  rw [hlist, hstart]
  simp only [List.length_append, List.length_take, hlength, Bool.and_eq_true, beq_iff_eq,
    List.all_eq_true]
  refine ⟨⟨rfl, rfl⟩, fun c hc => hhex c (List.mem_of_mem_take (i := 32) ?_)⟩
  exact hc

/-- What the processor has checked when it names a render. -/
theorem renderId_eq_ok {source : String} {pages : List ℤ}
    (h : processor.renderId p source pages = .ok renderId) :
    isSha256 source = true ∧ isRenderId renderId = true := by
  unfold PdfProcessor.renderId at h
  split_ifs at h with hvalid
  obtain rfl := Except.ok.inj h
  exact ⟨hvalid.1, isRenderId_identifier _⟩

/-- What the processor has checked when it takes a selection. -/
theorem validatePageSelection_eq_ok {pages : List ℤ} {pageCount : ℕ}
    (h : processor.validatePageSelection pages pageCount = .ok selected) :
    selected ≠ [] ∧ selected.Nodup ∧ ∀ number ∈ selected, 1 ≤ number := by
  unfold PdfProcessor.validatePageSelection at h
  split_ifs at h with hlength hnodup hrange
  obtain rfl := Except.ok.inj h
  refine ⟨fun hnil => hlength (.inl hnil), hnodup, fun number hnumber => ?_⟩
  exact not_lt.1 fun hlt => hrange ⟨number, hnumber, .inl hlt⟩

/-- A fresh render is one of the request. -/
theorem FreshRender.matches {publication : Publication (RenderManifest (List CodePoint))}
    {rendered : List (RenderedPage String × Written)} {payload : Bytes}
    (h : FreshRender p renderId sourceSha256 selected publication rendered payload) :
    cachedRenderMatches publication.manifest sourceSha256 selected = true := by
  have hnumbers : publication.manifest.pages.map (·.pageNumber) = selected := by
    rw [h.manifest, ← h.numbers]
    simp only [RenderManifest.map, renderManifestOf, List.map_map]
    rfl
  have hmode : (renderManifestOf p renderId sourceSha256 (rendered.map Prod.fst)).mode = "native" :=
    rfl
  refine decide_eq_true ⟨?_, ?_, hnumbers⟩
  · rw [h.manifest]
    rfl
  · rw [h.manifest]
    exact congrArg pointsOf hmode

/-- A fresh render writes the files that its manifest lists. -/
theorem FreshRender.written_mem {publication : Publication (RenderManifest (List CodePoint))}
    {rendered : List (RenderedPage String × Written)} {payload : Bytes}
    (h : FreshRender p renderId sourceSha256 selected publication rendered payload) :
    ∀ file ∈ publication.written, file.1 ∈ publication.manifest.paths renderId := by
  intro file hfile
  rw [h.written] at hfile
  rcases List.mem_append.1 hfile with hpage | hmanifest
  · obtain ⟨page, hmem, rfl⟩ := List.mem_map.1 hpage
    have hpath := (h.pages page hmem).path.symm
    refine List.mem_cons_of_mem _ (List.mem_map.2 ⟨page.1.map pointsOf, ?_, hpath⟩)
    rw [h.manifest]
    exact List.mem_map_of_mem (List.mem_map_of_mem hmem)
  · rw [List.mem_singleton.1 hmanifest]
    exact List.mem_cons_self

/-- What a request gives is the render of its identifier, which is accepted as long as its files
stay, and is what the request asks for. -/
theorem renderOpened_eq_ok {complete : String → Bool} {pages : List ℤ}
    {publication : Publication (RenderManifest (List CodePoint))}
    (h : processor.renderOpened p assets complete document sourceSha256 pages = .ok publication) :
    ∃ pageCount selected renderId, processor.validatedPageCount document = .ok pageCount ∧
      processor.validatePageSelection pages pageCount = .ok selected ∧
      processor.renderId p sourceSha256 selected = .ok renderId ∧
      publication.manifest.renderId = pointsOf renderId ∧
      cachedRenderMatches publication.manifest sourceSha256 selected = true ∧
      (∀ file ∈ publication.written, file.1 ∈ publication.manifest.paths renderId) ∧
      ∀ assets' : Assets, (∀ path ∈ publication.manifest.paths renderId,
          assets' path = assets.after publication.written path) →
        getManifest p assets' renderId = .ok publication.manifest := by
  obtain ⟨pageCount, hcount, h⟩ := bind_eq_ok_iff.1 h
  obtain ⟨selected, hselected, h⟩ := bind_eq_ok_iff.1 h
  obtain ⟨renderId, hrenderId, h⟩ := bind_eq_ok_iff.1 h
  obtain ⟨hsource, hid⟩ := renderId_eq_ok hrenderId
  obtain ⟨hne, hnodup, hpos⟩ := validatePageSelection_eq_ok hselected
  refine ⟨pageCount, selected, renderId, hcount, hselected, hrenderId, ?_⟩
  have hfresh : processor.renderFresh p document renderId sourceSha256 selected = .ok publication →
      publication.manifest.renderId = pointsOf renderId ∧
        cachedRenderMatches publication.manifest sourceSha256 selected = true ∧
        (∀ file ∈ publication.written, file.1 ∈ publication.manifest.paths renderId) ∧
        ∀ assets' : Assets, (∀ path ∈ publication.manifest.paths renderId,
            assets' path = assets.after publication.written path) →
          getManifest p assets' renderId = .ok publication.manifest := by
    intro h
    obtain ⟨rendered, payload, hrender⟩ := renderFresh_eq_ok hid h
    refine ⟨?_, hrender.matches, hrender.written_mem, fun assets' hsame => ?_⟩
    · rw [hrender.manifest]
      rfl
    · exact hrender.getManifest hid hsource hne hnodup hpos hsame
  split_ifs at h with hcomplete
  · split at h
    · exact hfresh h
    · cases h
    · next cached hcached =>
      split_ifs at h with hmatches
      · obtain rfl := Except.ok.inj h
        have haccepted := (getManifest_eq_ok_iff.1 hcached).2
        exact ⟨haccepted.renderId_eq, hmatches, fun file hfile => (by cases hfile),
          fun assets' hsame => getManifest_congr hcached hsame⟩
      · exact hfresh h
  · exact hfresh h

/-- **Renders are served from what was written.** A render request that succeeded names its render in
the manifest; as long as the files that the manifest lists stay as they are after it, `get_manifest`
returns the same manifest, and so does the same request, which then writes nothing. -/
theorem renderPages_again {complete : String → Bool} {source : Option Bytes}
    {opened : Except PdfError (List Page)} {pages : List ℤ} {mode : String}
    {publication : Publication (RenderManifest (List CodePoint))}
    (h : processor.renderPages p assets complete source opened pages mode = .ok publication) :
    ∃ renderId, publication.manifest.renderId = pointsOf renderId ∧
      ∀ (assets' : Assets) (complete' : String → Bool), complete' ("renders/" ++ renderId) = true →
        (∀ path ∈ publication.manifest.paths renderId,
          assets' path = assets.after publication.written path) →
        getManifest p assets' renderId = .ok publication.manifest ∧
          processor.renderPages p assets' complete' source opened pages mode =
            .ok ⟨publication.manifest, []⟩ := by
  unfold PdfProcessor.renderPages at h
  split_ifs at h with hmode
  obtain ⟨document, hopened, h⟩ := bind_eq_ok_iff.1 h
  obtain ⟨pageCount, selected, renderId, hcount, hselected, hrenderId, hnamed, hmatches, -, hkept⟩ :=
    renderOpened_eq_ok (rescue_eq_ok_iff.1 h)
  refine ⟨renderId, hnamed, fun assets' complete' hcomplete hsame => ?_⟩
  have hmanifest := hkept assets' hsame
  refine ⟨hmanifest, ?_⟩
  unfold PdfProcessor.renderPages
  rw [if_neg hmode]
  refine bind_eq_ok_iff.2 ⟨document, hopened, rescue_eq_ok_iff.2 ?_⟩
  refine bind_eq_ok_iff.2 ⟨pageCount, hcount, bind_eq_ok_iff.2 ⟨selected, hselected, ?_⟩⟩
  refine bind_eq_ok_iff.2 ⟨renderId, hrenderId, ?_⟩
  simp only [hcomplete, if_true, hmanifest, hmatches]
  rfl

/-- The text of a resolution of 400. -/
def fallbackDecimal : Decimal where
  negative := false
  integer := ['4', '0', '0']
  fraction := ['0']

theorem wellFormed_fallbackDecimal : fallbackDecimal.WellFormed := by
  constructor <;> simp [fallbackDecimal]

/-- A platform on which every page is a square inch without images, drawn in one way. -/
def squarePlatform : PdfPlatform Unit (ℤ × ℤ) where
  json := ⟨fun _ => fallbackDecimal.text, fun _ => some 400, 4300⟩
  sha256 data :=
    if data = ascii "%PDF-1.7" then
      "86edbaa24831badfa0a8b04bb410141e2ee4182b6d0014493fe262a7a331c20b"
    else if data = [0xFF, 0xD8, 0xFF] then
      "6e568e1f67fba258184c78181539e5e8fdee447e49bb706fc0ea34fbf12336a5"
    else "f43330f95df998d0baba8526eafa55144f7acf93876967778caa82a5f8fd6813"
  rendererVersion := "pdfium-7857_pypdfium2-5.3.0_pillow-12.0.0"
  floatOfInt value := some value
  roundDpi _ := 400
  gridPixels points dpi := (points * dpi / 72).floor
  gridDpi _ _ := .ok 400
  inspectPage _ _ := .ok
    { widthPoints := 72, heightPoints := 72, rotation := 0, classification := "vector",
      dominantImageIndex := none, nativeWidth := none, nativeHeight := none, effectiveDpiX := none,
      effectiveDpiY := none, directJpegEligible := false, nativeRasterExtractEligible := false }
  rawJpegBytes _ _ := .error .library
  visuallyEquivalent _ _ _ _ := .ok false
  pageImage _ width height := .ok (width, height)
  nativeImage _ _ := .error .library
  imagesVisuallyEquivalent _ _ := .ok false
  jpegBytes _ _ _ := .ok [0xFF, 0xD8, 0xFF]
  openImage _ := .ok (400, 400)
  size image := image
  crop _ box := (box.width, box.height)
  sha256_valid data := by split_ifs <;> decide +kernel
  roundDpi_reads _ := ⟨fallbackDecimal, wellFormed_fallbackDecimal, rfl, rfl, rfl⟩

/-- A processor with the limits of the defaults. -/
def standardProcessor : PdfProcessor where
  maxPagesPerRender := 8
  maxPagePixels := 120000000
  maxRenderPixels := 480000000
  fallbackDpi := 400
  tiling := ⟨2048, 2048, 128⟩
  maxTilesPerPage := 100
  maxDocumentPages := 10000
  maxPagesPerRender_mem := by decide
  pixels_pos := by decide
  fallbackDpi_mem := PdfProcessorSettings.standard.fallbackDpi_mem
  maxTilesPerPage_pos := by decide
  tiling_valid := by decide

/-- The identifier of a render of the one page. -/
def squareRenderId : String := "rnd_f43330f95df998d0baba8526eafa5514"

/-- The rendering of the one page. -/
def squareFresh : Except PdfError (Publication (RenderManifest (List CodePoint))) :=
  standardProcessor.renderFresh squarePlatform [()] squareRenderId
    (squarePlatform.sha256 (ascii "%PDF-1.7")) [1]

/-- What the rendering gives. -/
def squarePublication : Publication (RenderManifest (List CodePoint)) :=
  squareFresh.toOption.get (by decide +kernel)

/-- A request for the page. -/
def squareRender (assets : Assets) (complete : Bool) :
    Except PdfError (Publication (RenderManifest (List CodePoint))) :=
  standardProcessor.renderPages squarePlatform assets (fun _ => complete)
    (some (ascii "%PDF-1.7")) (.ok [()]) [1] "native"

/-- The store before the request, and after it. -/
def squareAssets (rendered : Bool) : Assets :=
  Assets.after (fun _ => .unreadable) (if rendered then squarePublication.written else [])

theorem squareFresh_eq_ok : squareFresh = .ok squarePublication := by
  have hsome : squareFresh.toOption = some squarePublication := (Option.some_get _).symm
  cases hfresh : squareFresh with
  | error error =>
      rw [hfresh] at hsome
      cases hsome
  | ok publication =>
      rw [hfresh] at hsome
      exact congrArg Except.ok (Option.some.inj hsome)

/-- The key of a request is a JSON object. -/
theorem head_key (request : RenderIdentityRequest) : (encodeUtf8 request.key).head? = some 0x7B := by
  have hopen : "\x7b\"classification_algorithm_version\":\"".toList.head? = some '\x7b' := by decide
  have hbyte : String.utf8EncodeChar '\x7b' = [0x7B] := by decide
  obtain ⟨rest, hrest⟩ := List.head?_eq_some_iff.1 hopen
  unfold encodeUtf8 RenderIdentityRequest.key
  simp only [String.toList_append, List.append_assoc, hrest, List.cons_append, List.flatMap_cons,
    hbyte, List.head?_cons]

/-- It is hashed as what is no file. -/
theorem sha256_key (request : RenderIdentityRequest) :
    squarePlatform.sha256 (encodeUtf8 request.key) =
      "f43330f95df998d0baba8526eafa55144f7acf93876967778caa82a5f8fd6813" := by
  have hne : ∀ data : Bytes, data.head? ≠ some 0x7B → encodeUtf8 request.key ≠ data := by
    rintro data hdata rfl
    exact hdata (head_key request)
  have hpdf := hne (ascii "%PDF-1.7") (by decide)
  have hjpeg := hne [0xFF, 0xD8, 0xFF] (by decide)
  simp only [squarePlatform, if_neg hpdf, if_neg hjpeg]

theorem renderId_squarePlatform : standardProcessor.renderId squarePlatform
    (squarePlatform.sha256 (ascii "%PDF-1.7")) [1] = .ok squareRenderId := by
  unfold PdfProcessor.renderId
  rw [dif_pos (by decide +kernel)]
  simp only [RenderIdentityRequest.identifier, truncatedSha256, sha256_key]
  decide +kernel

theorem squareRender_eq_ok : squareRender (squareAssets false) false = .ok squarePublication := by
  rw [squareRender, PdfProcessor.renderPages, if_neg (not_not.2 rfl)]
  refine bind_eq_ok_iff.2 ⟨[()], rfl, rescue_eq_ok_iff.2 ?_⟩
  rw [PdfProcessor.renderOpened]
  refine bind_eq_ok_iff.2 ⟨1, rfl, bind_eq_ok_iff.2 ⟨[1], rfl, ?_⟩⟩
  refine bind_eq_ok_iff.2 ⟨squareRenderId, renderId_squarePlatform, ?_⟩
  rw [if_neg Bool.false_ne_true]
  exact squareFresh_eq_ok

theorem renderPages_again_square : ∃ renderId,
    squarePublication.manifest.renderId = pointsOf renderId ∧
      getManifest squarePlatform (squareAssets true) renderId = .ok squarePublication.manifest ∧
      squareRender (squareAssets true) true = .ok ⟨squarePublication.manifest, []⟩ := by
  obtain ⟨renderId, hnamed, hagain⟩ := renderPages_again squareRender_eq_ok
  exact ⟨renderId, hnamed, hagain (squareAssets true) (fun _ => true) rfl fun _ _ => rfl⟩

/-! ## Tile sets -/

section
variable {request : TileManifestRequest} {box box' : TileBox}

/-- The directory of a tile set. -/
def TileManifestRequest.front (request : TileManifestRequest) : String :=
  "renders/" ++ request.renderId ++ "/" ++ tileRoot request.number request.geometry ++ "/"

/-- A tile is in the directory of its set. -/
theorem tilePath_eq_front : request.tilePath box = request.front ++ (request.tileId box ++ ".jpg") := by
  rw [TileManifestRequest.tilePath, NplgMcp.Pdf.tilePath, TileManifestRequest.front,
    TileManifestRequest.tileId]
  simp only [String.append_assoc]

/-- The manifest is in the directory of its set. -/
theorem relativePath_eq_front : request.relativePath = request.front ++ "manifest.json" := by
  have hname : "/manifest.json" = "/" ++ "manifest.json" := by decide
  rw [TileManifestRequest.relativePath, tileManifestPath, TileManifestRequest.front, hname]
  simp only [String.append_assoc]

/-- The path of a tile tells its corner. -/
theorem tilePath_inj (hbox : 0 ≤ box.x ∧ 0 ≤ box.y) (hbox' : 0 ≤ box'.x ∧ 0 ≤ box'.y)
    (h : request.tilePath box = request.tilePath box') : box.corner = box'.corner := by
  rw [tilePath_eq_front, tilePath_eq_front] at h
  have hlists := congrArg String.toList (append_left_injective _ h)
  rw [String.toList_append, String.toList_append] at hlists
  have hid : request.tileId box = request.tileId box' :=
    String.toList_inj.1 (List.append_cancel_right hlists)
  obtain ⟨-, -, hx, hy⟩ := tileId_inj hid
  refine Prod.ext ?_ ?_
  · show box.x = box'.x
    omega
  · show box.y = box'.y
    omega

/-- The manifest is at no tile's path. -/
theorem tilePath_ne_relativePath : request.tilePath box ≠ request.relativePath := by
  intro h
  rw [tilePath_eq_front, relativePath_eq_front] at h
  have hhead := congrArg (fun text => text.toList.head?) (append_left_injective _ h)
  have hmanifest : "manifest.json".toList.head? = some 'm' := by decide
  simp only [String.toList_append, TileManifestRequest.tileId, toList_tileId, hmanifest,
    List.cons_append, List.head?_cons] at hhead
  exact absurd (Option.some.inj hhead) (by decide)

/-- A tile set has no file of the render itself. -/
theorem front_append_notMem_paths {manifest : RenderManifest (List CodePoint)} (name : String) :
    request.front ++ name ∉ manifest.paths request.renderId := by
  have hfront : request.front ++ name = "renders/" ++ request.renderId ++ "/" ++
      (tileRoot request.number request.geometry ++ "/" ++ name) := by
    rw [TileManifestRequest.front]
    simp only [String.append_assoc]
  have hroot : ∀ rest, (tileRoot request.number request.geometry ++ "/" ++ rest).toList.head? =
      some 't' := by
    intro rest
    have htiles : "tiles/page-".toList = 't' :: "iles/page-".toList := by decide
    simp only [tileRoot, String.toList_append, htiles, List.cons_append, List.head?_cons]
  have hother : ∀ {other : String}, request.front ++ name =
      "renders/" ++ request.renderId ++ "/" ++ other → other.toList.head? = some 't' := by
    intro other heq
    rw [hfront] at heq
    rw [← append_left_injective _ heq]
    exact hroot name
  intro hmem
  rcases List.mem_cons.1 hmem with heq | hpage
  · have hhead := hother (heq.trans (renderManifestPath_eq _))
    exact absurd hhead (by decide)
  · obtain ⟨page, -, heq⟩ := List.mem_map.1 hpage
    have hhead := hother (heq.symm.trans (pagePath_eq _ _))
    have hname : "page-".toList = 'p' :: "age-".toList := by decide
    simp only [String.toList_append, hname, List.cons_append, List.head?_cons] at hhead
    exact absurd (Option.some.inj hhead) (by decide)

/-- A file in the directory of a tile set is written there. -/
theorem writeRenderAsset_of_tileRoot (hid : isRenderId request.renderId = true) {name : String}
    (hname : isSafeSegment name.toList = true) (data : Bytes) :
    writeRenderAsset request.renderId (tileRoot request.number request.geometry ++ "/" ++ name)
      data = .ok (request.front ++ name, data) := by
  have hsegments : (tileRoot request.number request.geometry ++ "/" ++ name).toList =
      ['/'].intercalate ((tileSegments request.renderId request.number request.geometry name).drop
        2) := by
    have htiles : "tiles/page-".toList = "tiles".toList ++ '/' :: "page-".toList := by decide
    have hmark : "/".toList = ['/'] := by decide
    simp only [tileRoot, tileSegments, String.toList_append, toList_padded, htiles, hmark,
      List.drop_succ_cons, List.drop_zero, List.intercalate, List.intersperse, List.flatten_cons,
      List.flatten_nil, List.append_assoc, List.cons_append, List.nil_append, List.append_nil]
  have hsafe : ∀ segment ∈ (tileSegments request.renderId request.number request.geometry name).drop 2,
      isSafeSegment segment = true := fun segment hsegment =>
    isSafeSegment_of_mem_tileSegments hid hname segment (List.mem_of_mem_drop hsegment)
  rw [writeRenderAsset_of_segments hid (by simp [tileSegments]) hsafe hsegments,
    TileManifestRequest.front]
  simp only [String.append_assoc]

/-- A tile as it is cropped, with its file. -/
structure WrittenTile (p : PdfPlatform Page Image) (request : TileManifestRequest) (box : TileBox)
    (rendered : RenderedTile String × Written) : Prop where
  path : rendered.2.1 = request.tilePath box
  tileId : rendered.1.tileId = request.tileId box
  pageNumber : rendered.1.pageNumber = request.pageNumber
  rectangle : (rendered.1.x, rendered.1.y, rendered.1.width, rendered.1.height) =
    (box.x, box.y, box.width, box.height)
  fullPage : (rendered.1.fullPageWidth, rendered.1.fullPageHeight) =
    (request.page.width, request.page.height)
  overlap : rendered.1.overlap = request.geometry.overlap
  relativePath : rendered.1.relativePath = rendered.2.1
  mediaType : rendered.1.mediaType = "image/jpeg"
  sha256 : rendered.1.sha256 = p.sha256 rendered.2.2

/-- What `_render_tile` gives. -/
theorem renderTile_eq_ok {source : Image} {rendered : RenderedTile String × Written}
    (hid : isRenderId request.renderId = true)
    (h : request.renderTile p source box = .ok rendered) : WrittenTile p request box rendered := by
  obtain ⟨_, -, h⟩ := bind_eq_ok_iff.1 h
  obtain ⟨data, -, h⟩ := bind_eq_ok_iff.1 h
  obtain ⟨written, hwritten, h⟩ := bind_eq_ok_iff.1 h
  have hname : tileRoot request.number request.geometry ++ "/" ++ request.tileId box ++ ".jpg" =
      tileRoot request.number request.geometry ++ "/" ++ (request.tileId box ++ ".jpg") :=
    String.append_assoc
  have hsafe : isSafeSegment (request.tileId box ++ ".jpg").toList = true :=
    (isSafeSegment_tileId _ _ _ _).2
  rw [hname, writeRenderAsset_of_tileRoot hid hsafe, ← tilePath_eq_front] at hwritten
  obtain rfl := Except.ok.inj hwritten
  obtain rfl := Except.ok.inj h
  exact ⟨rfl, rfl, rfl, rfl, rfl, rfl, rfl, rfl, rfl⟩

/-- What a fresh tiling gives. -/
structure FreshTiles (p : PdfPlatform Page Image) (request : TileManifestRequest)
    (publication : Publication (TileManifest (List CodePoint)))
    (rendered : List (RenderedTile String × Written)) (pageSha256 : String) (payload : Bytes) :
    Prop where
  digest : pointsOf pageSha256 = request.page.sha256
  manifest : publication.manifest =
    (request.manifestOf pageSha256 (rendered.map Prod.fst)).map pointsOf
  written : publication.written = rendered.map Prod.snd ++ [(request.relativePath, payload)]
  payload : manifestPayload p.json
    (request.manifestOf pageSha256 (rendered.map Prod.fst)).members = .ok payload
  tiles : List.Forall₂ (WrittenTile p request) request.boxes rendered

theorem renderTilesFresh_eq_ok {publication : Publication (TileManifest (List CodePoint))}
    (hid : isRenderId request.renderId = true)
    (h : request.renderFresh p assets = .ok publication) :
    ∃ rendered pageSha256 payload, FreshTiles p request publication rendered pageSha256 payload := by
  obtain ⟨rendered, hrendered, h⟩ := bind_eq_ok_iff.1 h
  obtain ⟨⟨manifest, written⟩, hmanifest, h⟩ := bind_eq_ok_iff.1 h
  obtain rfl := Except.ok.inj h
  obtain ⟨data, -, hrendered⟩ := bind_eq_ok_iff.1 (rescue_eq_ok_iff.1 hrendered)
  obtain ⟨source, -, hrendered⟩ := bind_eq_ok_iff.1 hrendered
  obtain ⟨_, -, hrendered⟩ := bind_eq_ok_iff.1 hrendered
  have htiles := (mapM_eq_ok_iff.1 hrendered).imp fun box tile htile => renderTile_eq_ok hid htile
  unfold TileManifestRequest.writeTileManifest at hmanifest
  split at hmanifest
  · cases hmanifest
  · next pageSha256 hsha =>
    obtain ⟨payload, hpayload, hmanifest⟩ := bind_eq_ok_iff.1 hmanifest
    obtain ⟨asset, hasset, hmanifest⟩ := bind_eq_ok_iff.1 hmanifest
    obtain ⟨_, -, hmanifest⟩ := bind_eq_ok_iff.1 hmanifest
    obtain ⟨rfl, rfl⟩ := Prod.mk.inj (Except.ok.inj hmanifest)
    have hname : "/manifest.json" = "/" ++ "manifest.json" := by decide
    have hsafe : isSafeSegment "manifest.json".toList = true := by decide
    rw [hname, ← String.append_assoc, writeRenderAsset_of_tileRoot hid hsafe,
      ← relativePath_eq_front] at hasset
    obtain rfl := Except.ok.inj hasset
    exact ⟨rendered, pageSha256, payload, pointsOf_of_stringOf hsha, rfl, rfl, hpayload, htiles⟩

/-- The paths of a tile set are distinct. -/
theorem FreshTiles.nodup_written {publication : Publication (TileManifest (List CodePoint))}
    {rendered : List (RenderedTile String × Written)} {pageSha256 : String} {payload : Bytes}
    (h : FreshTiles p request publication rendered pageSha256 payload)
    (hcorners : ∀ box ∈ request.boxes, 0 ≤ box.x ∧ 0 ≤ box.y)
    (hboxes : request.boxes.Pairwise RowMajor) : (publication.written.map Prod.fst).Nodup := by
  obtain ⟨-, -, hwritten, -, htiles⟩ := h
  have hpaths : (rendered.map Prod.snd).map Prod.fst = request.boxes.map request.tilePath := by
    clear hcorners hboxes hwritten
    generalize request.boxes = boxes at htiles
    induction htiles with
    | nil => rfl
    | cons htile _ ih => rw [List.map_cons, List.map_cons, List.map_cons, htile.path, ih]
  rw [hwritten, List.map_append, hpaths, List.nodup_append]
  refine ⟨?_, List.nodup_singleton _, ?_⟩
  · rw [List.Nodup, List.pairwise_map]
    refine hboxes.imp_of_mem fun ha hb hlt heq => ?_
    exact hlt.corner_ne (tilePath_inj (hcorners _ ha) (hcorners _ hb) heq)
  · rintro path hpath other hother rfl
    obtain ⟨box, -, rfl⟩ := List.mem_map.1 hpath
    exact tilePath_ne_relativePath (List.mem_singleton.1 hother)

/-- A fresh tile set is accepted as long as its files stay as they were written. -/
theorem FreshTiles.readTileManifest {publication : Publication (TileManifest (List CodePoint))}
    {rendered : List (RenderedTile String × Written)} {pageSha256 : String} {payload : Bytes}
    (h : FreshTiles p request publication rendered pageSha256 payload)
    (hcorners : ∀ box ∈ request.boxes, 0 ≤ box.x ∧ 0 ≤ box.y)
    (hboxes : request.boxes.Pairwise RowMajor)
    (hsame : ∀ path ∈ request.paths, assets' path = assets.after publication.written path) :
    request.readTileManifest p assets' = .ok publication.manifest := by
  have hpaths := h.nodup_written hcorners hboxes
  obtain ⟨hsha, hmanifest, hwritten, hpayload, htiles⟩ := h
  have hfile : ∀ path data, path ∈ request.paths → (path, data) ∈ publication.written →
      assets' path = .content data := by
    intro path data hpath hmem
    rw [hsame path hpath]
    exact after_of_mem hpaths hmem
  obtain ⟨root, hroot, hread⟩ := tileManifestFromDict_payload hpayload
  have hstored : TilesStored p assets' request publication.manifest := by
    refine ⟨payload, root, hfile _ _ List.mem_cons_self ?_, hroot, hmanifest ▸ hread⟩
    rw [hwritten]
    exact List.mem_append_right _ (List.mem_singleton.2 rfl)
  have haccepted : List.Forall₂ (AcceptedTile p assets' request)
      (rendered.map fun tile => tile.1.map pointsOf) request.boxes := by
    refine List.forall₂_iff_get.2 ⟨by rw [List.length_map, htiles.length_eq], fun i hi hi' => ?_⟩
    have hrendered : i < rendered.length := by rwa [List.length_map] at hi
    have htile := (List.forall₂_iff_get.1 htiles).2 i hi' hrendered
    have hdata : assets' (request.tilePath (request.boxes.get ⟨i, hi'⟩)) =
        .content (rendered.get ⟨i, hrendered⟩).2.2 := by
      refine hfile _ _ (List.mem_cons_of_mem _ (List.mem_map_of_mem (List.get_mem _ _))) ?_
      rw [hwritten]
      refine List.mem_append_left _ (List.mem_map.2 ⟨_, List.get_mem rendered ⟨i, hrendered⟩, ?_⟩)
      exact Prod.ext htile.path rfl
    have hget : (rendered.map fun tile => tile.1.map pointsOf).get ⟨i, hi⟩ =
        (rendered.get ⟨i, hrendered⟩).1.map pointsOf := by
      simp
    rw [hget]
    exact { tileId := congrArg pointsOf htile.tileId
            pageNumber := htile.pageNumber
            rectangle := htile.rectangle
            fullPage := htile.fullPage
            overlap := htile.overlap
            relativePath := congrArg pointsOf (htile.relativePath.trans htile.path)
            mediaType := congrArg pointsOf htile.mediaType
            digest := ⟨_, hdata, congrArg pointsOf htile.sha256.symm⟩ }
  refine readTileManifest_eq_ok_iff.2 ⟨hstored, ?_⟩
  have hlist : publication.manifest.tiles = rendered.map fun tile => tile.1.map pointsOf := by
    rw [hmanifest]
    exact (List.map_map ..)
  refine ⟨?_, ?_, ?_, ?_, ?_, ?_, ?_, ?_, hlist ▸ haccepted⟩
  · rw [hmanifest]
    rfl
  · rw [hmanifest]
    rfl
  · rw [hmanifest]
    rfl
  · rw [hmanifest]
    rfl
  · rw [hmanifest]
    rfl
  · rw [hmanifest]
    rfl
  · rw [hmanifest]
    exact hsha
  · rw [hmanifest]
    simp [TileManifest.map, TileManifestRequest.manifestOf, versionsMatch]

/-- What the processor has checked when it tiles a page. -/
theorem tileRequest_eq_ok {pageNumber : ℤ} {geometry : TileGeometry}
    (h : processor.tileRequest p assets renderId pageNumber geometry = .ok request) :
    request.renderId = renderId ∧ (∀ box ∈ request.boxes, 0 ≤ box.x ∧ 0 ≤ box.y) ∧
      request.boxes.Pairwise RowMajor ∧
      ∃ render, getManifest p assets renderId = .ok render ∧ request.page ∈ render.pages ∧
        request.page.pageNumber = pageNumber ∧ request.pageNumber = pageNumber ∧
        ∀ assets', getManifest p assets' renderId = .ok render →
          processor.tileRequest p assets' renderId pageNumber geometry = .ok request := by
  have hrequest := h
  obtain ⟨render, hrender, h⟩ := bind_eq_ok_iff.1 h
  split at h
  · cases h
  · next page hpage =>
    obtain ⟨layout, hlayout, h⟩ := bind_eq_ok_iff.1 h
    obtain ⟨_, -, h⟩ := bind_eq_ok_iff.1 h
    obtain ⟨boxes, hboxes, h⟩ := bind_eq_ok_iff.1 h
    split_ifs at h with hvalid
    obtain rfl := Except.ok.inj h
    have hfound : boxes = boxesOf page.width page.height geometry := by
      unfold tileBoxes at hboxes
      cases htile : tileLayout page.width page.height geometry with
      | error error =>
          rw [htile] at hboxes
          cases hboxes
      | ok layout =>
          rw [htile] at hboxes
          exact (Except.ok.inj hboxes).symm
    have hstart : ∀ {stop step x : ℤ}, 0 < step → Segments.IsStart stop step x → 0 ≤ x := by
      rintro stop step x hstep ⟨i, rfl, -⟩
      exact Int.mul_nonneg (Int.natCast_nonneg i) hstep.le
    refine ⟨rfl, fun box hbox => ?_, ?_, render, hrender, List.mem_of_find?_eq_some hpage, ?_, rfl, ?_⟩
    · rw [hfound] at hbox
      obtain ⟨hx, hy, -⟩ := (mem_boxesOf hvalid).1 hbox
      exact ⟨hstart hvalid.strideX_pos hx, hstart hvalid.strideY_pos hy⟩
    · rw [hfound]
      exact pairwise_boxesOf hvalid
    · have hnumber := List.find?_some hpage
      exact of_decide_eq_true hnumber
    · intro assets' hsame
      rw [← hrequest, PdfProcessor.tileRequest, PdfProcessor.tileRequest, hsame, hrender]

/-- Nothing changes at a path that is not written. -/
theorem after_of_notMem {written : List Written} {path : String}
    (h : path ∉ written.map Prod.fst) : assets.after written path = assets path := by
  have hnone : written.reverse.lookup path = none := by
    refine List.lookup_eq_none_iff.2 fun file hfile => bne_iff_ne.2 ?_
    rintro rfl
    exact h (List.mem_map_of_mem (List.mem_reverse.1 hfile))
  rw [Assets.after, hnone]

/-- What a tile request gives is accepted as long as its files stay, and has no file of the render
itself. -/
theorem render_eq_ok {complete : String → Bool}
    {publication : Publication (TileManifest (List CodePoint))}
    (hid : isRenderId request.renderId = true)
    (hcorners : ∀ box ∈ request.boxes, 0 ≤ box.x ∧ 0 ≤ box.y)
    (hboxes : request.boxes.Pairwise RowMajor)
    (h : request.render p assets complete = .ok publication) :
    (∀ file ∈ publication.written, ∃ name, file.1 = request.front ++ name) ∧
      ∀ assets' : Assets, (∀ path ∈ request.paths,
          assets' path = assets.after publication.written path) →
        request.readTileManifest p assets' = .ok publication.manifest := by
  have hfresh : request.renderFresh p assets = .ok publication →
      (∀ file ∈ publication.written, ∃ name, file.1 = request.front ++ name) ∧
        ∀ assets' : Assets, (∀ path ∈ request.paths,
            assets' path = assets.after publication.written path) →
          request.readTileManifest p assets' = .ok publication.manifest := by
    intro h
    obtain ⟨rendered, pageSha256, payload, htiles⟩ := renderTilesFresh_eq_ok hid h
    refine ⟨fun file hfile => ?_, fun assets' hsame =>
      htiles.readTileManifest hcorners hboxes hsame⟩
    rw [htiles.written] at hfile
    rcases List.mem_append.1 hfile with htile | hmanifest
    · obtain ⟨tile, hmem, rfl⟩ := List.mem_map.1 htile
      obtain ⟨i, hi, rfl⟩ := List.getElem_of_mem hmem
      have hbox : i < request.boxes.length := by
        rw [htiles.tiles.length_eq]
        exact hi
      have hwritten := (List.forall₂_iff_get.1 htiles.tiles).2 i hbox hi
      exact ⟨_, hwritten.path.trans tilePath_eq_front⟩
    · rw [List.mem_singleton.1 hmanifest]
      exact ⟨_, relativePath_eq_front⟩
  unfold TileManifestRequest.render at h
  split_ifs at h with hcomplete
  · split at h
    · exact hfresh h
    · cases h
    · next cached hcached =>
      obtain rfl := Except.ok.inj h
      refine ⟨fun file hfile => (by cases hfile), fun assets' hsame => ?_⟩
      exact readTileManifest_congr hcached hsame
  · exact hfresh h

/-- **Tile sets are served from what was written.** A tile request that succeeded was made of a render
that `get_manifest` accepts, and writes no file of that; as long as the files of the render and of
the tile set stay as they are after it, `_read_tile_manifest` returns the same manifest, and so does
the same request, which then writes nothing. -/
theorem renderTiles_again {complete : String → Bool} {pageNumber : ℤ}
    {tileWidth tileHeight overlap : Option ℤ}
    {publication : Publication (TileManifest (List CodePoint))}
    (h : processor.renderTiles p assets complete renderId pageNumber tileWidth tileHeight overlap =
      .ok publication) :
    ∃ render request, getManifest p assets renderId = .ok render ∧
      processor.tileRequest p assets renderId pageNumber
        (processor.geometry tileWidth tileHeight overlap) = .ok request ∧
      (∀ path ∈ render.paths renderId, path ∉ publication.written.map Prod.fst) ∧
      ∀ (assets' : Assets) (complete' : String → Bool),
        complete' ("renders/" ++ renderId ++ "/" ++ tileRoot request.number request.geometry) = true →
        (∀ path ∈ render.paths renderId ++ request.paths,
          assets' path = assets.after publication.written path) →
        request.readTileManifest p assets' = .ok publication.manifest ∧
          processor.renderTiles p assets' complete' renderId pageNumber tileWidth tileHeight
            overlap = .ok ⟨publication.manifest, []⟩ := by
  obtain ⟨request, hrequest, hrendered⟩ := bind_eq_ok_iff.1 h
  obtain ⟨rfl, hcorners, hboxes, render, hrender, -, -, -, hagain⟩ := tileRequest_eq_ok hrequest
  have hid := (getManifest_eq_ok_iff.1 hrender).2.renderId_valid
  obtain ⟨hwritten, hkept⟩ := render_eq_ok hid hcorners hboxes hrendered
  have hdisjoint : ∀ path ∈ render.paths request.renderId,
      path ∉ publication.written.map Prod.fst := by
    intro path hpath hmem
    obtain ⟨file, hfile, rfl⟩ := List.mem_map.1 hmem
    obtain ⟨name, hname⟩ := hwritten file hfile
    rw [hname] at hpath
    exact front_append_notMem_paths name hpath
  refine ⟨render, request, hrender, hrequest, hdisjoint, fun assets' complete' hcomplete hsame => ?_⟩
  have hread := hkept assets' fun path hpath => hsame path (List.mem_append_right _ hpath)
  have hrender' : getManifest p assets' request.renderId = .ok render := by
    refine getManifest_congr hrender fun path hpath => ?_
    rw [hsame path (List.mem_append_left _ hpath), after_of_notMem (hdisjoint path hpath)]
  refine ⟨hread, bind_eq_ok_iff.2 ⟨request, hagain assets' hrender', ?_⟩⟩
  simp only [TileManifestRequest.render, hcomplete, if_true, hread]

theorem getManifest_squareAssets :
    getManifest squarePlatform (squareAssets true) squareRenderId = .ok squarePublication.manifest := by
  obtain ⟨hsource, hid⟩ := renderId_eq_ok renderId_squarePlatform
  obtain ⟨rendered, payload, hrender⟩ := renderFresh_eq_ok hid squareFresh_eq_ok
  exact hrender.getManifest hid hsource (by decide) (by decide) (by decide) fun _ _ => rfl

/-- A request for the tiles of the page. -/
def squareTiles (assets : Assets) (complete : Bool) :
    Except PdfError (Publication (TileManifest (List CodePoint))) :=
  standardProcessor.renderTiles squarePlatform assets (fun _ => complete) squareRenderId 1 none none
    none

/-- The page of the render. -/
def squarePage : RenderedPage (List CodePoint) :=
  squarePublication.manifest.pages.head (by decide +kernel)

/-- The request that the processor makes of it. -/
def squareRequest : TileManifestRequest where
  renderId := squareRenderId
  pageNumber := 1
  geometry := standardProcessor.tiling_valid.request
  page := squarePage
  boxes := [⟨0, 0, 400, 400⟩]

theorem tileRequest_squarePlatform : standardProcessor.tileRequest squarePlatform (squareAssets true)
    squareRenderId 1 (standardProcessor.geometry none none none) = .ok squareRequest := by
  have hpage : squarePublication.manifest.pages.find? (fun page => page.pageNumber = 1) =
      some squarePage := by
    obtain ⟨page, hpages⟩ := List.length_eq_one_iff.1
      (show squarePublication.manifest.pages.length = 1 by decide +kernel)
    have hnumber : squarePage.pageNumber = 1 := by decide +kernel
    have hhead : squarePage = page := by simp only [squarePage, hpages, List.head_cons]
    rw [hpages, ← hhead]
    exact List.find?_cons_of_pos (decide_eq_true hnumber)
  have hsize : squarePage.width = 400 ∧ squarePage.height = 400 := by decide +kernel
  rw [PdfProcessor.tileRequest, getManifest_squareAssets]
  refine bind_eq_ok_iff.2 ⟨_, rfl, ?_⟩
  simp only [hpage, hsize.1, hsize.2]
  rfl

theorem isOk_squareTiles : (squareTiles (squareAssets true) false).isOk = true := by
  rw [squareTiles, PdfProcessor.renderTiles, tileRequest_squarePlatform]
  decide +kernel

theorem renderTiles_again_square : ∃ publication, ∃ request : TileManifestRequest,
    squareTiles (squareAssets true) false = .ok publication ∧
      request.readTileManifest squarePlatform ((squareAssets true).after publication.written) =
        .ok publication.manifest ∧
      squareTiles ((squareAssets true).after publication.written) true =
        .ok ⟨publication.manifest, []⟩ := by
  have hok := isOk_squareTiles
  cases htiles : squareTiles (squareAssets true) false with
  | error error =>
      rw [htiles] at hok
      cases hok
  | ok publication =>
      obtain ⟨render, request, -, -, -, hagain⟩ := renderTiles_again htiles
      exact ⟨publication, request, rfl, hagain _ (fun _ => true) rfl fun _ _ => rfl⟩

end

end

end NplgMcp.Pdf
