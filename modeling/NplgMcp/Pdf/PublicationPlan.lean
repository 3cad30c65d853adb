import NplgMcp.Pdf.Confinement
import NplgMcp.Pdf.Identity
import NplgMcp.Storage.Inodes

/-!
# The plans of publications

The plans of `pdf_executor.py`: how many inodes are reserved for the outputs of a command and for the
resource indexes after it, as closed forms apart from the code that makes the directories, the
records and the temporary files. Main result: `publication_plans_cover_iff`, which says when a plan
covers what is published.
-/

namespace NplgMcp.Pdf

/-! ## The plans -/

/-- `HARD_MAX_CACHE_BYTES`. -/
def hardMaxCacheBytes : ℕ := 1024 * 1024 * 1024 * 1024

/-- The fields of `PdfWorkerSlotPolicy` that a plan is derived from. -/
structure PdfWorkerSlotPolicy where
  maximumTotalBytes : ℕ
  maximumTotalInodes : ℕ
  maximumTotalBytes_pos : 0 < maximumTotalBytes
  maximumTotalInodes_pos : 0 < maximumTotalInodes

/-- `PdfPublicationPlan`, with the bounds of its fields and the check of
`_require_complete_tree_capacity`. -/
structure PdfPublicationPlan where
  operation : PdfOperation
  maximumOutputFiles : ℕ
  maximumOutputDirectories : ℕ
  maximumTemporaryFiles : ℕ
  maximumNewBytes : ℕ
  maximumNewObjects : ℕ
  maximumNewInodes : ℕ
  operation_mem : operation = .renderPages ∨ operation = .renderTiles
  maximumOutputFiles_mem : 2 ≤ maximumOutputFiles ∧ maximumOutputFiles ≤ hardMaxTilesPerPage + 1
  maximumOutputDirectories_mem : 1 ≤ maximumOutputDirectories ∧ maximumOutputDirectories ≤ 3
  maximumTemporaryFiles_mem : 1 ≤ maximumTemporaryFiles ∧ maximumTemporaryFiles ≤ 1
  maximumNewBytes_mem : 1 ≤ maximumNewBytes ∧ maximumNewBytes ≤ hardMaxCacheBytes
  maximumNewObjects_mem : 1 ≤ maximumNewObjects ∧ maximumNewObjects ≤ 1
  maximumNewInodes_mem : 1 ≤ maximumNewInodes ∧ maximumNewInodes ≤ 10000000
  complete_bytes : maximumOutputFiles ≤ maximumNewBytes
  complete_inodes : maximumOutputFiles + maximumOutputDirectories + maximumTemporaryFiles ≤
    maximumNewInodes

/-- The plan for so many files and directories. -/
def publicationPlan (operation : PdfOperation) (maximumOutputFiles maximumOutputDirectories : ℕ)
    (slotPolicy : PdfWorkerSlotPolicy) : Except WorkerError PdfPublicationPlan :=
  let maximumTemporaryFiles := 1
  let minimumTopologyInodes :=
    maximumOutputFiles + maximumOutputDirectories + maximumTemporaryFiles
  let maximumNewBytes := max slotPolicy.maximumTotalBytes maximumOutputFiles
  let maximumNewInodes := max slotPolicy.maximumTotalInodes minimumTopologyInodes
  if h : (operation = .renderPages ∨ operation = .renderTiles) ∧
      (2 ≤ maximumOutputFiles ∧ maximumOutputFiles ≤ hardMaxTilesPerPage + 1) ∧
      (1 ≤ maximumOutputDirectories ∧ maximumOutputDirectories ≤ 3) ∧
      (1 ≤ maximumNewBytes ∧ maximumNewBytes ≤ hardMaxCacheBytes) ∧
      (1 ≤ maximumNewInodes ∧ maximumNewInodes ≤ 10000000) then
    .ok {
      operation, maximumOutputFiles, maximumOutputDirectories, maximumTemporaryFiles,
      maximumNewBytes, maximumNewInodes
      maximumNewObjects := 1
      operation_mem := h.1
      maximumOutputFiles_mem := h.2.1
      maximumOutputDirectories_mem := h.2.2.1
      maximumTemporaryFiles_mem := ⟨le_rfl, le_rfl⟩
      maximumNewBytes_mem := h.2.2.2.1
      maximumNewObjects_mem := ⟨le_rfl, le_rfl⟩
      maximumNewInodes_mem := h.2.2.2.2
      complete_bytes := le_max_right _ _
      complete_inodes := le_max_right _ _ }
  else .error .validation

/-- `_derive_validated_publication_plan`: only pages and tiles are published. -/
def derivePdfPublicationPlan (command : PdfCommand) (slotPolicy : PdfWorkerSlotPolicy) :
    Except WorkerError (Option PdfPublicationPlan) :=
  match command with
  | .renderPages _ _ parameters _ =>
    (publicationPlan .renderPages (parameters.pages.length + 1) 1 slotPolicy).map some
  | .renderTiles .. => (publicationPlan .renderTiles (hardMaxTilesPerPage + 1) 3 slotPolicy).map some
  | .inspect .. | .manifest .. => .ok none

/-- `PdfPostprocessingPublicationPlan`. -/
structure PdfPostprocessingPublicationPlan where
  maximumIndexFiles : ℕ
  maximumIndexFiles_mem : 1 ≤ maximumIndexFiles ∧ maximumIndexFiles ≤ hardMaxTilesPerPage + 1

namespace PdfPostprocessingPublicationPlan

/-- `MAX_RENDER_RESOURCE_INDEX_BYTES`. -/
def maxRenderResourceIndexBytes : ℕ := 4096

/-- `maximum_new_bytes`. -/
def maximumNewBytes (plan : PdfPostprocessingPublicationPlan) : ℕ :=
  plan.maximumIndexFiles * maxRenderResourceIndexBytes

/-- `maximum_new_objects`. -/
def maximumNewObjects (_ : PdfPostprocessingPublicationPlan) : ℕ := 1

/-- `maximum_new_inodes`. -/
def maximumNewInodes (plan : PdfPostprocessingPublicationPlan) : ℕ := 2 * plan.maximumIndexFiles + 2

end PdfPostprocessingPublicationPlan

/-! ## What is published -/

/-- The files of a rendering, in the order they are published in. -/
def Rendering.destinations (rendering : Rendering) : List Path :=
  (PublishContext.publicationOrder rendering).filterMap renderPath

/-- An artifact that is registered: its file, and the identifier from its digest. -/
structure RegisteredArtifact where
  file : Path
  artifactId : String

/-- `_resource_index_relative_path`. -/
def resourceIndexPath (renderId artifactId : String) : Path :=
  ⟨⟨.renders, renderId⟩, ["resources", artifactId, "index.json"]⟩

/-- `_render_artifact_content_identity` can read the artifact: it is a file of the render. -/
def RegisteredArtifact.Readable (artifact : RegisteredArtifact) (d : Disk) (renderId : String) : Prop :=
  artifact.file ∈ d.files ∧ artifact.file.key = ⟨.renders, renderId⟩ ∧ artifact.file.parts ≠ []

instance (artifact : RegisteredArtifact) (d : Disk) (renderId : String) :
    Decidable (artifact.Readable d renderId) := inferInstanceAs (Decidable (_ ∧ _ ∧ _))

/-- The indexes that are published of the artifacts, on the disk that the first one is published on.
The first artifact has been read before, and an artifact that is registered twice has its index
already. -/
def indexDestinations (d : Disk) (renderId : String) : List RegisteredArtifact → List Path
  | [] => []
  | first :: rest =>
    ((first :: rest.takeWhile (·.Readable d renderId)).map
      fun artifact => resourceIndexPath renderId artifact.artifactId).dedup

/-! ## Their directories -/

/-- The beginnings of a list are distinct. -/
theorem nodup_inits {α : Type} (parts : List α) : parts.inits.Nodup := by
  induction parts with
  | nil => exact List.nodup_singleton _
  | cons part parts ih =>
      rw [List.inits, List.nodup_cons]
      refine ⟨fun hmem => ?_, ih.map (List.cons_injective)⟩
      obtain ⟨_, -, heq⟩ := List.mem_map.1 hmem
      cases heq

/-- The directories of the children of a directory: itself and those above it. -/
theorem card_chain_children {destinations : List Path} {root : Path} (hnonempty : destinations ≠ [])
    (hchild : ∀ destination ∈ destinations, ∃ name, destination = root.child name) :
    (Disk.chain destinations).card = root.parts.length + 1 := by
  have hparents (name : String) :
      (root.child name).parents = root.parts.inits.map (⟨root.key, ·⟩) := by
    rw [Path.parents_eq (List.append_ne_nil_of_right_ne_nil _ (List.cons_ne_nil _ _))]
    exact congrArg (List.map _ ·.inits) List.dropLast_concat
  have hchain : Disk.chain destinations = (root.parts.inits.map (Path.mk root.key)).toFinset := by
    ext directory
    rw [Disk.chain, List.mem_toFinset, List.mem_toFinset, List.mem_flatMap]
    constructor
    · rintro ⟨destination, hmem, hparent⟩
      obtain ⟨name, rfl⟩ := hchild destination hmem
      rwa [hparents] at hparent
    · intro hparent
      obtain ⟨destination, hmem⟩ := List.exists_mem_of_ne_nil _ hnonempty
      obtain ⟨name, rfl⟩ := hchild destination hmem
      exact ⟨_, hmem, hparents name ▸ hparent⟩
  rw [hchain, List.toFinset_card_of_nodup
    ((nodup_inits _).map fun _ _ heq => congrArg Path.parts heq), List.length_map,
    List.length_inits]

section
variable {context : PublishContext} {job : JobDirectory} {rendering : Rendering} {root : Path}

/-- The files of a validated rendering are children of its root. -/
theorem child_of_mem_destinations (hvalid : Validated context job rendering)
    (hin : rendering.In root) {destination : Path} (h : destination ∈ rendering.destinations) :
    ∃ name, destination = root.child name ∧ (root.child name).IsArtifact := by
  obtain ⟨hlisted, hmanifest⟩ := hvalid.renderPath hin
  obtain ⟨relativePath, hmem, hpath⟩ := List.mem_filterMap.1 h
  rcases mem_publicationOrder.1 hmem with rfl | ⟨listed, hlistedMem, rfl⟩
  · exact ⟨_, Option.some.inj (hpath.symm.trans hmanifest), Path.child_isArtifact (by decide)⟩
  · exact ⟨_, Option.some.inj (hpath.symm.trans (hlisted listed hlistedMem)),
      Path.child_isArtifact (hin.names listed hlistedMem)⟩

/-- The manifest is among the files. -/
theorem manifest_mem_destinations (hvalid : Validated context job rendering)
    (hin : rendering.In root) : root.child "manifest.json" ∈ rendering.destinations :=
  List.mem_filterMap.2 ⟨_, mem_publicationOrder.2 (.inl rfl), (hvalid.renderPath hin).2⟩

/-- The files of a validated rendering can be published. -/
theorem outputs_destinations (hvalid : Validated context job rendering) (hin : rendering.In root) :
    Disk.Outputs rendering.destinations root.key where
  nonempty := List.ne_nil_of_mem (manifest_mem_destinations hvalid hin)
  nodup := nodup_publicationOrder.filterMap fun _ _ _ ha hb => renderPath_injective ha hb
  key destination h := by
    obtain ⟨name, rfl, -⟩ := child_of_mem_destinations hvalid hin h
    rfl
  below destination h := by
    obtain ⟨name, rfl, -⟩ := child_of_mem_destinations hvalid hin h
    exact List.append_ne_nil_of_right_ne_nil _ (List.cons_ne_nil _ _)
  isArtifact destination h := by
    obtain ⟨name, rfl, hartifact⟩ := child_of_mem_destinations hvalid hin h
    exact hartifact

/-- There are at most as many files as are listed, and the manifest. -/
theorem length_destinations_le : rendering.destinations.length ≤ rendering.files.length + 1 := by
  refine (List.length_filterMap_le _ _).trans ?_
  have hsubset : rendering.expected.filter (· ≠ rendering.manifestRelativePath) ⊆
      rendering.files.map (·.relativePath) := by
    intro relativePath hmem
    obtain ⟨hmem, hne⟩ := List.mem_filter.1 hmem
    rcases mem_expected.1 hmem with rfl | ⟨listed, hlisted, rfl⟩
    · exact absurd rfl (of_decide_eq_true hne)
    · exact List.mem_map_of_mem hlisted
  have hlength := (List.subperm_of_subset ((List.nodup_dedup _).filter _) hsubset).length_le
  rw [List.length_map] at hlength
  rw [PublishContext.publicationOrder, List.length_append, List.length_insertionSort]
  exact Nat.add_le_add_right hlength 1

end

/-! ## The indexes -/

section
variable {d : Disk} {renderId : String} {artifacts : List RegisteredArtifact}

/-- There are at most as many indexes as artifacts. -/
theorem length_indexDestinations_le :
    (indexDestinations d renderId artifacts).length ≤ artifacts.length := by
  cases artifacts with
  | nil => exact le_rfl
  | cons first rest =>
      refine (List.dedup_sublist _).length_le.trans ?_
      rw [List.length_map, List.length_cons, List.length_cons]
      exact Nat.succ_le_succ (List.takeWhile_sublist _).length_le

/-- An index is of an artifact. -/
theorem mem_indexDestinations {destination : Path}
    (h : destination ∈ indexDestinations d renderId artifacts) :
    ∃ artifactId, destination = resourceIndexPath renderId artifactId := by
  cases artifacts with
  | nil => cases h
  | cons first rest =>
      obtain ⟨artifact, -, rfl⟩ := List.mem_map.1 (List.mem_dedup.1 h)
      exact ⟨_, rfl⟩

/-- The indexes of artifacts can be published. -/
theorem outputs_indexDestinations (hnonempty : indexDestinations d renderId artifacts ≠ []) :
    Disk.Outputs (indexDestinations d renderId artifacts) ⟨.renders, renderId⟩ where
  nonempty := hnonempty
  nodup := by
    cases artifacts with
    | nil => exact absurd rfl hnonempty
    | cons first rest => exact List.nodup_dedup _
  key destination h := by
    obtain ⟨artifactId, rfl⟩ := mem_indexDestinations h
    rfl
  below destination h := by
    obtain ⟨artifactId, rfl⟩ := mem_indexDestinations h
    exact List.cons_ne_nil _ _
  isArtifact destination h := by
    obtain ⟨artifactId, rfl⟩ := mem_indexDestinations h
    exact (by decide : "index.json" ≠ insertionSequenceFilename)

/-- The directories of the indexes: the object, its resources, and one for each artifact. -/
theorem card_chain_indexDestinations_le :
    (Disk.chain (indexDestinations d renderId artifacts)).card ≤
      (indexDestinations d renderId artifacts).length + 2 := by
  have hsubset : Disk.chain (indexDestinations d renderId artifacts) ⊆
      insert ⟨⟨.renders, renderId⟩, []⟩ (insert ⟨⟨.renders, renderId⟩, ["resources"]⟩
        ((indexDestinations d renderId artifacts).map
          fun destination => Path.mk destination.key destination.parts.dropLast).toFinset) := by
    intro directory hdirectory
    obtain ⟨destination, hmem, hparent⟩ := List.mem_flatMap.1 (List.mem_toFinset.1 hdirectory)
    have hlast := List.mem_map_of_mem
      (f := fun destination : Path => Path.mk destination.key destination.parts.dropLast) hmem
    obtain ⟨artifactId, rfl⟩ := mem_indexDestinations hmem
    have hcases : directory = ⟨⟨.renders, renderId⟩, []⟩ ∨
        directory = ⟨⟨.renders, renderId⟩, ["resources"]⟩ ∨
        directory = ⟨⟨.renders, renderId⟩, ["resources", artifactId]⟩ := by
      simpa only [resourceIndexPath, Path.parents, List.dropLast, List.inits, List.map_cons,
        List.map_nil, List.mem_cons, List.not_mem_nil, or_false] using hparent
    rw [Finset.mem_insert, Finset.mem_insert, List.mem_toFinset]
    refine hcases.imp_right fun h => h.imp_right fun h => ?_
    rw [h]
    exact hlast
  refine (Finset.card_le_card hsubset).trans ((Finset.card_insert_le _ _).trans
    (Nat.succ_le_succ ((Finset.card_insert_le _ _).trans (Nat.succ_le_succ ?_))))
  exact (List.toFinset_card_le _).trans (List.length_map _).le

/-- Where the render is gone, only the first artifact has been read in time. -/
theorem length_indexDestinations_of_absent (htree : d.IsTree)
    (hnonempty : indexDestinations d renderId artifacts ≠ [])
    (habsent : d.Absent (indexDestinations d renderId artifacts) ⟨.renders, renderId⟩) :
    (indexDestinations d renderId artifacts).length = 1 ∧
      (Disk.chain (indexDestinations d renderId artifacts)).card = 3 := by
  cases artifacts with
  | nil => exact absurd rfl hnonempty
  | cons first rest =>
      have hroot : (⟨.renders, renderId⟩ : ObjectKey).root ∉ d.directories := by
        obtain ⟨destination, hmem⟩ := List.exists_mem_of_ne_nil _ hnonempty
        refine habsent.1 _ (List.mem_toFinset.2 (List.mem_flatMap.2 ⟨destination, hmem, ?_⟩))
        rw [← (outputs_indexDestinations hnonempty).key destination hmem]
        exact Disk.root_mem_parents ((outputs_indexDestinations hnonempty).below destination hmem)
      have hnone : rest.takeWhile (·.Readable d renderId) = [] := by
        cases rest with
        | nil => rfl
        | cons second rest =>
            refine List.takeWhile_cons_of_neg fun hreadable => hroot ?_
            obtain ⟨hmem, hkey, hbelow⟩ := of_decide_eq_true hreadable
            exact htree _ hmem _ (hkey ▸ Disk.root_mem_parents hbelow)
      have hone : indexDestinations d renderId (first :: rest) =
          [resourceIndexPath renderId first.artifactId] := by
        rw [indexDestinations, hnone]
        rfl
      rw [hone]
      refine ⟨rfl, ?_⟩
      exact @card_chain_children _ ⟨⟨.renders, renderId⟩, ["resources", first.artifactId]⟩
        (List.cons_ne_nil _ _) fun destination hmem => ⟨"index.json", List.mem_singleton.1 hmem⟩

end

/-! ## When the plans cover what is published -/

/-- The tile set of a render that is gone has the most tiles, and the slot is not larger than the
topology that is planned for. -/
def TilesOverflow (slotPolicy : PdfWorkerSlotPolicy) (start : Disk) (destinations : List Path)
    (key : ObjectKey) : Prop :=
  slotPolicy.maximumTotalInodes ≤ (hardMaxTilesPerPage + 1) + 3 + 1 ∧
    destinations.length = hardMaxTilesPerPage + 1 ∧ start.Absent destinations key

/-- An index is published of a render that is gone, and it is the only one that is planned for. -/
def IndexOverflow (plan : PdfPostprocessingPublicationPlan) (start : Disk)
    (destinations : List Path) (key : ObjectKey) : Prop :=
  plan.maximumIndexFiles = 1 ∧ destinations ≠ [] ∧ start.Absent destinations key

section
variable {context : PublishContext} {job : JobDirectory} {command : PdfCommand}
  {payload : PdfPayload} {rendering : Rendering} {slotPolicy : PdfWorkerSlotPolicy}
  {plan : PdfPublicationPlan} {subtree : Path} {start : Disk}

/-- The inodes of a plan that is derived. -/
theorem publicationPlan_inodes {operation : PdfOperation} {files directories : ℕ}
    (h : (publicationPlan operation files directories slotPolicy).map some = .ok (some plan)) :
    plan.maximumNewInodes = max slotPolicy.maximumTotalInodes (files + directories + 1) := by
  unfold publicationPlan at h
  dsimp only at h
  split_ifs at h
  · cases h
    rfl
  · cases h

/-- A report of pages that is bound lists as many pages as the command asks for. -/
theorem length_pages_of_binding {commandId requestId : ℕ} {path : String}
    {parameters : RenderPagesParams} {valid : isSafeRelativePath path = true}
    {rendered : RenderPagesOutput} {sourceSha256 : Option String} {staged : StagedFile}
    (h : validateResultBinding context.readPages context.env.sha256 context.settings
      (.renderPages commandId path parameters valid) (.success requestId (.renderPages rendered))
      sourceSha256 staged = .ok ()) : rendered.pages.length = parameters.pages.length := by
  unfold validateResultBinding at h
  split_ifs at h with hid hoperation
  obtain ⟨_, -, h⟩ := exists_of_bind_ok h
  simp only [bind, Except.bind, throw, throwThe, MonadExceptOf.throw] at h
  split_ifs at h with hsource
  unfold validatePayloadBinding at h
  dsimp only at h
  split_ifs at h with hpages
  rw [← not_not.1 hpages, List.length_map]

/-- The plan of a command covers its outputs, unless they are the most tiles of a render that is
gone. -/
theorem plan_covers_iff {requestId : ℕ} {sourceSha256 : Option String} {staged : StagedFile}
    (hplan : derivePdfPublicationPlan command slotPolicy = .ok (some plan))
    (hbinding : validateResultBinding context.readPages context.env.sha256 context.settings command
      (.success requestId payload) sourceSha256 staged = .ok ())
    (hrendering : payloadRendering context command payload = some rendering)
    (hvalid : Validated context job rendering) (hsubtree : renderPath rendering.root = some subtree)
    (htree : start.IsTree) (hstaged : start.staged = 0) (hwriting : start.writing = false) :
    Disk.Covers plan.maximumNewInodes plan.maximumNewObjects start rendering.destinations
        (some subtree) ↔
      ¬ TilesOverflow slotPolicy start rendering.destinations subtree.key := by
  obtain ⟨root, hroot, hin⟩ := in_of_binding hbinding hrendering
  obtain rfl : root = subtree := Option.some.inj (hin.root.symm.trans hsubtree)
  have hout := outputs_destinations hvalid hin
  have hcard := card_chain_children hout.nonempty fun destination hmem =>
    (child_of_mem_destinations hvalid hin hmem).imp fun _ h => h.1
  have hlength := @length_destinations_le rendering
  have hobjects := plan.maximumNewObjects_mem.1
  cases command with
  | inspect | manifest => cases payload <;> cases hrendering
  | renderPages commandId path parameters valid =>
      have hinodes := publicationPlan_inodes hplan
      cases payload with
      | inspect | renderTiles | manifest => cases hrendering
      | renderPages rendered =>
          have hpages := length_pages_of_binding hbinding
          obtain rfl := Option.some.inj hrendering
          obtain ⟨_, -, hroot⟩ := Option.bind_eq_some_iff.1 hroot
          obtain ⟨_, -, rfl⟩ := Option.map_eq_some_iff.1 hroot
          have hbound := parameters.pages_length
          rw [show (context.pageRendering rendered).files.length = rendered.pages.length from
            List.length_map _] at hlength
          change (Disk.chain _).card = 0 + 1 at hcard
          refine (hout.covers_iff htree hstaged hwriting (by omega) hobjects).trans (not_congr ?_)
          refine iff_of_false (fun hroom => ?_) fun hoverflow => ?_
          · omega
          · have htiles := hoverflow.2.1
            rw [hardMaxTilesPerPage] at htiles
            omega
  | renderTiles commandId parameters =>
      have hinodes := publicationPlan_inodes hplan
      cases payload with
      | inspect | renderPages | manifest => cases hrendering
      | renderTiles rendered =>
          obtain ⟨_, -, rfl⟩ := Option.map_eq_some_iff.1 hrendering
          obtain ⟨_, -, rfl⟩ := Option.map_eq_some_iff.1 hroot
          have htiles := rendered.tiles_length.2
          rw [show (context.tileRendering parameters _ rendered).files.length =
            rendered.tiles.length from List.length_map _] at hlength
          change (Disk.chain _).card = 3 + 1 at hcard
          rw [hardMaxTilesPerPage] at htiles hinodes
          refine (hout.covers_iff htree hstaged hwriting (by omega) hobjects).trans (not_congr ?_)
          unfold TilesOverflow
          rw [hardMaxTilesPerPage]
          constructor
          · rintro ⟨hroom, habsent⟩
            exact ⟨by omega, by omega, habsent⟩
          · rintro ⟨hslot, hmost, habsent⟩
            exact ⟨by omega, habsent⟩

/-- The plan of indexes covers them, unless it is for one and the render is gone. -/
theorem postprocessingPlan_covers_iff {plan : PdfPostprocessingPublicationPlan} {renderId : String}
    {artifacts : List RegisteredArtifact} (hartifacts : artifacts.length ≤ plan.maximumIndexFiles)
    (htree : start.IsTree) (hstaged : start.staged = 0) (hwriting : start.writing = false) :
    Disk.Covers plan.maximumNewInodes plan.maximumNewObjects start
        (indexDestinations start renderId artifacts) none ↔
      ¬ IndexOverflow plan start (indexDestinations start renderId artifacts)
        ⟨.renders, renderId⟩ := by
  have hlength := (@length_indexDestinations_le start renderId artifacts).trans hartifacts
  by_cases hnonempty : indexDestinations start renderId artifacts = []
  · rw [hnonempty]
    refine iff_of_true (fun run hrun => ?_) fun hoverflow => hoverflow.2.1 rfl
    have hkey : ∀ destination ∈ ([] : List Path), destination.key = ⟨.renders, renderId⟩ :=
      fun _ hmem => absurd hmem List.not_mem_nil
    obtain ⟨hcreated, hone⟩ := Disk.created_le hkey hstaged hwriting hrun
    refine ⟨hcreated.trans ?_, hone⟩
    have hnone : Disk.chain [] \ start.directories = ∅ := Finset.empty_sdiff _
    rw [hnone, Finset.card_empty, List.length_nil]
    change _ ≤ 2 * plan.maximumIndexFiles + 2
    split <;> omega
  · have hcard := @card_chain_indexDestinations_le start renderId artifacts
    have hroom : (Disk.chain (indexDestinations start renderId artifacts)).card +
        (indexDestinations start renderId artifacts).length ≤ plan.maximumNewInodes := by
      change _ ≤ 2 * plan.maximumIndexFiles + 2
      omega
    refine ((outputs_indexDestinations hnonempty).covers_iff htree hstaged hwriting hroom
      le_rfl).trans (not_congr ⟨fun ⟨hroom, habsent⟩ => ⟨?_, hnonempty, habsent⟩,
        fun ⟨hone, _, habsent⟩ => ⟨?_, habsent⟩⟩)
    · obtain ⟨hlengthOne, hcardThree⟩ := length_indexDestinations_of_absent htree hnonempty habsent
      have hmem := plan.maximumIndexFiles_mem
      change 2 * plan.maximumIndexFiles + 2 < _ at hroom
      omega
    · obtain ⟨hlengthOne, hcardThree⟩ := length_indexDestinations_of_absent htree hnonempty habsent
      change 2 * plan.maximumIndexFiles + 2 < _
      omega

end

/-- **Publication plans.** For every command whose outputs are published into a store, and every
number of registered artifacts whose indexes are published into another, the plans cover the
publications exactly if neither is one that a plan has no room for. -/
theorem publication_plans_cover_iff {context : PublishContext} {job : JobDirectory}
    {command : PdfCommand} {payload : PdfPayload} {rendering : Rendering}
    {slotPolicy : PdfWorkerSlotPolicy} {plan : PdfPublicationPlan} {subtree : Path} {requestId : ℕ}
    {sourceSha256 : Option String} {staged : StagedFile}
    {indexPlan : PdfPostprocessingPublicationPlan} {renderId : String}
    {artifacts : List RegisteredArtifact} {s s' : Store}
    (hplan : derivePdfPublicationPlan command slotPolicy = .ok (some plan))
    (hbinding : validateResultBinding context.readPages context.env.sha256 context.settings command
      (.success requestId payload) sourceSha256 staged = .ok ())
    (hrendering : payloadRendering context command payload = some rendering)
    (hvalid : Validated context job rendering) (hsubtree : renderPath rendering.root = some subtree)
    (hartifacts : artifacts.length ≤ indexPlan.maximumIndexFiles) (htree : s.IsTree)
    (htree' : s'.IsTree) :
    Disk.Covers plan.maximumNewInodes plan.maximumNewObjects
          (s.disk.step (.removeTree subtree)) rendering.destinations (some subtree) ∧
        Disk.Covers indexPlan.maximumNewInodes indexPlan.maximumNewObjects s'.disk
          (indexDestinations s'.disk renderId artifacts) none ↔
      ¬ TilesOverflow slotPolicy (s.disk.step (.removeTree subtree)) rendering.destinations
          subtree.key ∧
        ¬ IndexOverflow indexPlan s'.disk (indexDestinations s'.disk renderId artifacts)
          ⟨.renders, renderId⟩ :=
  and_congr
    (plan_covers_iff hplan hbinding hrendering hvalid hsubtree
      (Disk.IsTree.removeTree (htree.disk) subtree) rfl rfl)
    (postprocessingPlan_covers_iff hartifacts htree'.disk rfl rfl)

/-! ## A tile set of a render that is gone -/

/-- Tiles of 256 pixels square without overlap. -/
def gridGeometry : TileGeometryRequest where
  width := 256
  height := 256
  overlap := 0
  width_mem := currentGeometry.width_mem
  height_mem := currentGeometry.height_mem
  overlap_le := currentGeometry.overlap_le

theorem zeroRender_valid : isRenderId zeroRender = true := by decide +kernel

theorem isCorner_grid (column row : Fin 10) : IsCorner 1 (256 * column) (256 * row) where
  pageNumber_mem := by decide
  x_lt := by omega
  y_lt := by omega

/-- A tile of a page of ten by ten. -/
def gridTile (column row : Fin 10) : RenderedTileOutput where
  tileId := tileId 1 gridGeometry (256 * column) (256 * row)
  pageNumber := 1
  x := 256 * column
  y := 256 * row
  width := 256
  height := 256
  fullPageWidth := 2560
  fullPageHeight := 2560
  overlap := 0
  relativePath := tilePath zeroRender 1 gridGeometry (256 * column) (256 * row)
  sha256 := zeroDigest
  tileId_length := by
    refine ⟨?_, (length_tileId_le (isCorner_grid column row) _).trans (by decide)⟩
    rw [toList_tileId]
    exact Nat.succ_pos _
  pageNumber_mem := wideOverlap.pageNumber_mem
  width_pos := by decide
  height_pos := by decide
  fullPageWidth_pos := by decide
  fullPageHeight_pos := by decide
  overlap_mem := by decide
  relativePath_safe := isSafeRelativePath_tilePath zeroRender_valid (isCorner_grid column row) _
  sha256_valid := thousandPage.sha256_valid

/-- The tiles in row-major order. -/
def gridTiles : List RenderedTileOutput :=
  (List.finRange 10).flatMap fun row => (List.finRange 10).map fun column => gridTile column row

theorem length_gridTiles : gridTiles.length = 100 := by
  unfold gridTiles
  simp only [List.length_flatMap, List.length_map, List.length_finRange, List.map_const',
    List.sum_replicate]
  decide

/-- The report of all of them. -/
def gridReport : RenderTilesOutput where
  renderId := zeroRender
  pageNumber := 1
  pageSha256 := zeroDigest
  tileWidth := 256
  tileHeight := 256
  overlap := 0
  tiles := gridTiles
  manifestRelativePath := tileManifestPath zeroRender 1 gridGeometry
  renderId_valid := zeroRender_valid
  pageNumber_mem := wideOverlap.pageNumber_mem
  pageSha256_valid := thousandPage.sha256_valid
  tileWidth_mem := by decide
  tileHeight_mem := by decide
  overlap_mem := by decide
  tiles_length := by
    rw [length_gridTiles]
    decide
  manifestRelativePath_safe := isSafeRelativePath_of_segments zeroRender_valid (by decide)
    isSafeSegment_manifest (by decide) (toList_tileManifestPath _ _ _)

/-- The parameters of its command. -/
def gridParams : RenderTilesParams where
  renderId := zeroRender
  pageNumber := 1
  tileWidth := some 256
  tileHeight := some 256
  overlap := some 0
  renderId_valid := zeroRender_valid
  pageNumber_mem := wideOverlap.pageNumber_mem
  tileWidth_mem := by decide
  tileHeight_mem := by decide
  overlap_mem := by decide
  overlap_lt := by decide

/-- A page of ten by ten tiles. -/
def gridPage : RenderedPageOutput :=
  { storedPage with
    width := 2560
    height := 2560
    width_pos := by decide
    height_pos := by decide }

/-- The manifest of its render. -/
def gridManifest : RenderPagesOutput :=
  { storedManifest with
    pages := [gridPage]
    pages_length := by decide }

/-- That manifest as it is written. -/
def gridManifestJson : Bytes :=
  ascii "\x7b\"manifest_schema_version\":\"1.0.0\",\"render_pipeline_version\":\"1.0.0\"," ++
  ascii "\"classification_algorithm_version\":\"1.0.0\",\"tile_pipeline_version\":\"1.0.0\"," ++
  ascii "\"render_id\":\"" ++ ascii zeroRender ++ ascii "\",\"source_sha256\":\"" ++
  ascii zeroDigest ++ ascii "\",\"renderer_version\":\"r1\",\"mode\":\"native\",\"pages\":[" ++
  ascii "\x7b\"page_number\":1,\"width\":2560,\"height\":2560,\"rotation\":0," ++
  ascii "\"classification\":\"vector\",\"effective_dpi_x\":400.0,\"effective_dpi_y\":400.0," ++
  ascii "\"resolution_source\":\"fallback\",\"conversion_path\":\"render\"," ++
  ascii "\"relative_path\":\"renders/" ++ ascii zeroRender ++ ascii "/page-0001.jpg\"," ++
  ascii "\"sha256\":\"" ++ ascii zeroDigest ++
  ascii "\",\"media_type\":\"image/jpeg\",\"resize_applied\":false," ++
  ascii "\"pixel_dimensions_preserved\":true,\"renderer_resampling\":\"none\"," ++
  ascii "\"reencoded\":true,\"lossy_conversion\":true\x7d],\"manifest_relative_path\":\"" ++
  ascii "renders/" ++ ascii zeroRender ++ ascii "/manifest.json\"\x7d"

/-- A tile as it is written. -/
def gridTileJson (tile : RenderedTileOutput) : Bytes :=
  ascii "\x7b\"full_page_height\":2560,\"full_page_width\":2560,\"height\":256," ++
  ascii "\"lossy_conversion\":true,\"media_type\":\"image/jpeg\",\"overlap\":0,\"page_number\":1," ++
  ascii "\"pixel_dimensions_preserved\":true,\"reencoded\":true,\"relative_path\":\"" ++
  ascii tile.relativePath ++ ascii "\",\"renderer_resampling\":\"none\",\"resize_applied\":false," ++
  ascii "\"sha256\":\"" ++ ascii zeroDigest ++ ascii "\",\"tile_id\":\"" ++ ascii tile.tileId ++
  ascii "\",\"width\":256,\"x\":" ++ ascii tile.x.repr ++ ascii ",\"y\":" ++ ascii tile.y.repr ++
  ascii "\x7d"

/-- The report as it is written. -/
def gridReportJson : Bytes :=
  ascii "\x7b\"classification_algorithm_version\":\"1.0.0\",\"manifest_relative_path\":\"" ++
  ascii gridReport.manifestRelativePath ++ ascii "\",\"manifest_schema_version\":\"1.0.0\"," ++
  ascii "\"overlap\":0,\"page_number\":1,\"page_sha256\":\"" ++ ascii zeroDigest ++
  ascii "\",\"render_id\":\"" ++ ascii zeroRender ++
  ascii "\",\"render_pipeline_version\":\"1.0.0\",\"tile_height\":256," ++
  ascii "\"tile_pipeline_version\":\"1.0.0\",\"tile_width\":256,\"tiles\":[" ++
  (ascii ",").intercalate (gridTiles.map gridTileJson) ++ ascii "]\x7d"

/-- A parent that reads the two manifests, and takes the tiles for images of their size. -/
def gridContext : PublishContext where
  env := ⟨fun _ => zeroDigest⟩
  readPages data := if data = gridManifestJson then some gridManifest else none
  readTiles data := if data = gridReportJson then some gridReport else none
  readImage _ := some ⟨true, 256, 256, true⟩
  settings := .standard
  fileSizeBytes := 1048576
  expiry _ _ _ := false

/-- The job directory of a worker that cut the tiles. -/
def gridJob : JobDirectory where
  opens := true
  file path :=
    if path = gridReport.manifestRelativePath then .content gridReportJson
    else if path = gridManifest.manifestRelativePath then .content gridManifestJson
    else .content (ascii "tile")
  stable _ := true
  walk _ := .paths (gridReport.manifestRelativePath :: gridTiles.map (·.relativePath))

/-- The rendering that the report lists. -/
def gridRendering : Rendering := gridContext.tileRendering gridParams gridGeometry.identifier gridReport

/-- The files of the tiles are distinct. -/
theorem nodup_gridTiles : (gridTiles.map (·.relativePath)).Nodup := by
  have hmap : gridTiles.map (·.relativePath) = ((List.finRange 10).product (List.finRange 10)).map
      fun corner => tilePath zeroRender 1 gridGeometry (256 * corner.2) (256 * corner.1) := by
    unfold gridTiles List.product
    rw [List.map_flatMap, List.map_flatMap]
    refine List.flatMap_congr fun row _ => ?_
    rw [List.map_map, List.map_map]
    rfl
  rw [hmap]
  refine ((List.nodup_finRange 10).product (List.nodup_finRange 10)).map fun corner corner' h => ?_
  have hlists := congrArg String.toList h
  rw [toList_tilePath, toList_tilePath] at hlists
  obtain ⟨-, -, -, hname⟩ := tileSegments_inj zeroRender_valid zeroRender_valid
    (isSafeSegment_tileId _ _ _ _).2 (isSafeSegment_tileId _ _ _ _).2 hlists
  have hid : tileId 1 gridGeometry (256 * corner.2) (256 * corner.1) =
      tileId 1 gridGeometry (256 * corner'.2) (256 * corner'.1) := by
    have hnames := congrArg String.toList hname
    rw [String.toList_append, String.toList_append] at hnames
    exact String.toList_inj.1 (List.append_cancel_right hnames)
  obtain ⟨-, -, hx, hy⟩ := tileId_inj hid
  exact Prod.ext (Fin.ext (by omega)) (Fin.ext (by omega))

/-- The manifest is not one of the tiles. -/
theorem gridManifest_notMem :
    gridReport.manifestRelativePath ∉ gridTiles.map (·.relativePath) := by
  intro hmem
  obtain ⟨tile, htile, hpath⟩ := List.mem_map.1 hmem
  obtain ⟨row, -, hrow⟩ := List.mem_flatMap.1 htile
  obtain ⟨column, -, rfl⟩ := List.mem_map.1 hrow
  have hsame : tilePath zeroRender 1 gridGeometry (256 * column) (256 * row) =
      tileManifestPath zeroRender 1 gridGeometry := hpath
  have hlists := congrArg String.toList hsame
  rw [toList_tilePath, toList_tileManifestPath] at hlists
  obtain ⟨-, -, -, hname⟩ := tileSegments_inj zeroRender_valid zeroRender_valid
    (isSafeSegment_tileId _ _ _ _).2 isSafeSegment_manifest hlists
  have hnames := congrArg String.toList hname
  have hfirst : "manifest.json".toList = 'm' :: "anifest.json".toList := by decide
  rw [String.toList_append, toList_tileId, hfirst] at hnames
  exact absurd (List.cons.inj hnames).1 (by decide)

/-- A hundred tiles and their manifest are published. -/
theorem length_gridDestinations (hvalid : Validated gridContext gridJob gridRendering)
    (hin : gridRendering.In ⟨⟨.renders, zeroRender⟩,
      ["tiles", "page-" ++ padded 4 1, gridGeometry.identifier]⟩) :
    gridRendering.destinations.length = 101 := by
  have hsome : ∀ relativePath ∈ PublishContext.publicationOrder gridRendering,
      (renderPath relativePath).isSome := by
    obtain ⟨hlisted, hmanifest⟩ := hvalid.renderPath hin
    intro relativePath hmem
    rcases mem_publicationOrder.1 hmem with rfl | ⟨listed, hlistedMem, rfl⟩
    · rw [hmanifest]
      rfl
    · rw [hlisted listed hlistedMem]
      rfl
  have hfiles : gridRendering.files.map (·.relativePath) = gridTiles.map (·.relativePath) := by
    unfold gridRendering PublishContext.tileRendering
    rw [List.map_map]
    rfl
  have hexpected : gridRendering.expected =
      gridReport.manifestRelativePath :: gridTiles.map (·.relativePath) := by
    rw [Rendering.expected, hfiles]
    exact (List.nodup_cons.2 ⟨gridManifest_notMem, nodup_gridTiles⟩).dedup
  have hothers : gridRendering.expected.filter (· ≠ gridRendering.manifestRelativePath) =
      gridTiles.map (·.relativePath) := by
    rw [hexpected]
    change List.filter (· ≠ gridReport.manifestRelativePath) _ = _
    rw [List.filter_cons_of_neg (by simp), List.filter_eq_self]
    exact fun path hpath => decide_eq_true fun heq => gridManifest_notMem (heq ▸ hpath)
  rw [Rendering.destinations, List.filterMap_length_eq_length.2 hsome,
    PublishContext.publicationOrder, hothers, List.length_append, List.length_insertionSort,
    List.length_map, length_gridTiles]
  rfl

/-- The files of the job are where they belong. -/
theorem gridRendering_validated : Validated gridContext gridJob gridRendering where
  listed listed hlisted := by
    unfold gridRendering PublishContext.tileRendering at hlisted
    obtain ⟨tile, htile, rfl⟩ := List.mem_map.1 hlisted
    obtain ⟨row, -, hrow⟩ := List.mem_flatMap.1 (htile : tile ∈ gridTiles)
    obtain ⟨column, -, rfl⟩ := List.mem_map.1 hrow
    exact ⟨@tilePath_eq zeroRender 1 (256 * column) (256 * row) gridGeometry, fun _ _ => rfl⟩
  manifest := by
    constructor
    · exact @tileManifestPath_eq zeroRender 1 gridGeometry
    · intro data hdata
      have hfile : gridJob.file gridReport.manifestRelativePath = .content gridReportJson := by
        dsimp only [gridJob]
        rw [if_pos rfl]
      have hread : gridContext.readTiles gridReportJson = some gridReport := by
        dsimp only [gridContext]
        rw [if_pos rfl]
      obtain rfl : gridReportJson = data := OutputFile.content.inj (hfile.symm.trans hdata)
      unfold gridRendering PublishContext.tileRendering
      dsimp only
      rw [hread, Option.map_some, decide_eq_true rfl]

/-- Tiles that pass all checks are accepted. -/
theorem validateTiles_ok {settings : PdfProcessorSettings} {parameters : RenderTilesParams}
    {rendered : RenderTilesOutput} {page : RenderedPageOutput} {columns rows : ℤ}
    {identifier : String}
    (hcolumns : floorDiv (page.width - 1) (effectiveGeometry settings parameters).strideX =
      .ok columns)
    (hrows : floorDiv (page.height - 1) (effectiveGeometry settings parameters).strideY = .ok rows)
    (hcount : (columns + 1) * (rows + 1) ≤ settings.maxTilesPerPage)
    (hboxes : rendered.tiles.map (·.box) =
      boxesOf page.width page.height (effectiveGeometry settings parameters))
    (hidentifier : tileGeometryIdentifier (expectedWidth settings parameters)
      (expectedHeight settings parameters) (expectedOverlap settings parameters) = .ok identifier)
    (htiles : (rendered.tiles.any fun tile =>
      tile.tileId != tileIdentifier parameters.pageNumber identifier tile.x tile.y ||
        tile.pageNumber != parameters.pageNumber || tile.fullPageWidth != page.width ||
        tile.fullPageHeight != page.height ||
        tile.overlap != expectedOverlap settings parameters) = false) :
    validateTiles settings parameters rendered page = .ok () := by
  unfold validateTiles
  simp only [hcolumns, hrows, hidentifier, bind, Except.bind]
  rw [if_neg (not_lt.2 hcount)]
  simp only [pure, Except.pure]
  rw [if_neg (not_not.2 hboxes)]
  simp only [htiles]
  rfl

/-- The boxes of the tiles are those of the page. -/
theorem boxes_gridTiles : gridTiles.map (·.box) =
    boxesOf 2560 2560 { tileWidth := 256, tileHeight := 256, overlap := 0 } := by
  decide +kernel

/-- The report is bound to its command. -/
theorem gridReport_binding : validateResultBinding gridContext.readPages gridContext.env.sha256
    gridContext.settings (.renderTiles 0 gridParams) (.success 0 (.renderTiles gridReport)) none
    (.content gridManifestJson) = .ok () := by
  have hload : loadStagedRenderManifest gridContext.readPages gridContext.settings
      (.content gridManifestJson) gridParams.renderId = .ok gridManifest := by
    refine loadStagedRenderManifest_ok (by decide +kernel) ?_ rfl rfl rfl
    dsimp only [gridContext]
    rw [if_pos rfl]
  have hgeometry := tileGeometryIdentifier_eq gridGeometry rfl
  have htiles : (gridReport.tiles.any fun tile =>
      tile.tileId != tileIdentifier gridParams.pageNumber gridGeometry.identifier tile.x tile.y ||
        tile.pageNumber != gridParams.pageNumber || tile.fullPageWidth != 2560 ||
        tile.fullPageHeight != 2560 || tile.overlap != 0) = false := by
    refine List.any_eq_false.2 fun tile htile => ?_
    obtain ⟨row, -, hrow⟩ := List.mem_flatMap.1 (htile : tile ∈ gridTiles)
    obtain ⟨column, -, rfl⟩ := List.mem_map.1 hrow
    simp only [Bool.or_eq_true, bne_iff_ne, ne_eq]
    exact fun h => by
      rcases h with ((((h | h) | h) | h) | h) <;> exact h rfl
  have hfind : gridManifest.pages.find? (·.pageNumber == gridParams.pageNumber) = some gridPage := rfl
  have hsha : gridReport.pageSha256 = gridPage.sha256 := rfl
  have hmatches : ReportMatches gridContext.settings gridParams gridReport := ⟨rfl, rfl, rfl⟩
  rw [validateResultBinding_report, if_neg (not_not.2 hmatches.renderId)]
  unfold validateTileResultBinding
  rw [if_neg (not_not.2 hmatches.pageNumber), if_neg (not_not.2 hmatches.geometry), hload]
  rw [show (Except.ok gridManifest >>= validateAgainstManifest gridContext.settings gridParams
    gridReport) = validateAgainstManifest gridContext.settings gridParams gridReport gridManifest from
      rfl]
  unfold validateAgainstManifest
  rw [hfind]
  dsimp only
  rw [if_neg (not_not.2 hsha)]
  exact @validateTiles_ok _ _ _ _ 9 9 _ rfl rfl (by decide) boxes_gridTiles hgeometry htiles

/-- The directory of the tiles. -/
def gridSubtree : Path :=
  ⟨⟨.renders, zeroRender⟩, ["tiles", "page-" ++ padded 4 1, gridGeometry.identifier]⟩

theorem gridRendering_eq : payloadRendering gridContext (.renderTiles 0 gridParams)
    (.renderTiles gridReport) = some gridRendering := by
  have hgeometry : tileGeometryIdentifier (expectedWidth gridContext.settings gridParams)
      (expectedHeight gridContext.settings gridParams)
      (expectedOverlap gridContext.settings gridParams) = .ok gridGeometry.identifier :=
    tileGeometryIdentifier_eq gridGeometry rfl
  simp only [payloadRendering, hgeometry, Except.toOption, Option.map_some, gridRendering]

/-- The rendering is published in that directory. -/
theorem gridRendering_in : gridRendering.In gridSubtree := by
  obtain ⟨root, hroot, hin⟩ := in_of_binding gridReport_binding gridRendering_eq
  have hgeometry : tileGeometryIdentifier (expectedWidth gridContext.settings gridParams)
      (expectedHeight gridContext.settings gridParams)
      (expectedOverlap gridContext.settings gridParams) = .ok gridGeometry.identifier :=
    tileGeometryIdentifier_eq gridGeometry rfl
  simp only [outputRoot, hgeometry, Except.toOption, Option.map_some, Option.some.injEq] at hroot
  cases hroot
  exact hin

/-- A slot of fewer inodes than a tile set has. -/
def smallSlot : PdfWorkerSlotPolicy where
  maximumTotalBytes := 536870912
  maximumTotalInodes := 64
  maximumTotalBytes_pos := by decide
  maximumTotalInodes_pos := by decide

/-- The plan that is derived for the tiles. -/
def gridPlan : PdfPublicationPlan where
  operation := .renderTiles
  maximumOutputFiles := 101
  maximumOutputDirectories := 3
  maximumTemporaryFiles := 1
  maximumNewBytes := 536870912
  maximumNewObjects := 1
  maximumNewInodes := 105
  operation_mem := .inr rfl
  maximumOutputFiles_mem := by decide
  maximumOutputDirectories_mem := by decide
  maximumTemporaryFiles_mem := by decide
  maximumNewBytes_mem := by decide
  maximumNewObjects_mem := by decide
  maximumNewInodes_mem := by decide
  complete_bytes := by decide
  complete_inodes := by decide

theorem gridPlan_derived :
    derivePdfPublicationPlan (.renderTiles 0 gridParams) smallSlot = .ok (some gridPlan) := rfl

theorem isTree_empty : (Store.empty 4096 none).IsTree := fun _ hmem => absurd hmem Finmap.notMem_empty

/-- Nothing of the render is in an empty store, and the plan has no room for it. -/
theorem gridTiles_overflow : TilesOverflow smallSlot
    ((Store.empty 4096 none).disk.step (.removeTree gridSubtree)) gridRendering.destinations
    gridSubtree.key := by
  refine ⟨by decide, length_gridDestinations gridRendering_validated gridRendering_in,
    fun directory _ hmem => ?_, fun hmem => ?_⟩
  · exact absurd (Finset.mem_filter.1 hmem).1 (Finset.notMem_empty _)
  · exact absurd hmem (Finset.notMem_empty _)

/-- The tiles and an empty list of artifacts. -/
theorem publication_plans_cover_iff_grid :
    ¬ (Disk.Covers gridPlan.maximumNewInodes gridPlan.maximumNewObjects
          ((Store.empty 4096 none).disk.step (.removeTree gridSubtree)) gridRendering.destinations
          (some gridSubtree) ∧
        Disk.Covers 204 1 (Store.empty 4096 none).disk
          (indexDestinations (Store.empty 4096 none).disk zeroRender []) none) := by
  intro h
  let indexPlan : PdfPostprocessingPublicationPlan := ⟨101, by decide⟩
  have hiff := @publication_plans_cover_iff gridContext gridJob (.renderTiles 0 gridParams)
    (.renderTiles gridReport) gridRendering smallSlot gridPlan gridSubtree 0 none
    (.content gridManifestJson) indexPlan zeroRender [] (Store.empty 4096 none)
    (Store.empty 4096 none) gridPlan_derived gridReport_binding gridRendering_eq
    gridRendering_validated gridRendering_in.root (Nat.zero_le _) isTree_empty isTree_empty
  exact (hiff.1 h).1 gridTiles_overflow

/-- A hundred tiles of a render that is gone need a hundred and six inodes, one more than is
planned. -/
theorem tile_plan_does_not_cover : ¬ ∀ (context : PublishContext) (job : JobDirectory)
    (command : PdfCommand) (payload : PdfPayload) (rendering : Rendering)
    (slotPolicy : PdfWorkerSlotPolicy) (plan : PdfPublicationPlan) (subtree : Path)
    (staged : StagedFile) (s : Store),
    derivePdfPublicationPlan command slotPolicy = .ok (some plan) →
    validateResultBinding context.readPages context.env.sha256 context.settings command
      (.success 0 payload) none staged = .ok () →
    payloadRendering context command payload = some rendering →
    Validated context job rendering → renderPath rendering.root = some subtree → s.IsTree →
    Disk.Covers plan.maximumNewInodes plan.maximumNewObjects (s.disk.step (.removeTree subtree))
      rendering.destinations (some subtree) := by
  intro h
  have hcovers := h gridContext gridJob (.renderTiles 0 gridParams) (.renderTiles gridReport)
    gridRendering smallSlot gridPlan gridSubtree (.content gridManifestJson) (Store.empty 4096 none)
    gridPlan_derived gridReport_binding gridRendering_eq gridRendering_validated
    gridRendering_in.root isTree_empty
  exact (plan_covers_iff gridPlan_derived gridReport_binding gridRendering_eq
    gridRendering_validated gridRendering_in.root (Disk.IsTree.removeTree isTree_empty.disk _) rfl
    rfl).1 hcovers gridTiles_overflow

end NplgMcp.Pdf
