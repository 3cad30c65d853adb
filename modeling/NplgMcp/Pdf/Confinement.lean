import NplgMcp.Pdf.Publication
import NplgMcp.Pdf.TileAgreement
import NplgMcp.Storage.Delivery

/-!
# The confinement of a worker

Whatever the worker replied and left in its job directory, an execution either publishes exactly the
files its result lists and their manifest, below a root that depends on the command, the digest of
the source, the renderer version and the settings, or it publishes nothing. The invariant is that of
a transaction at work (`Store.Working`): until the commit, a rollback takes back everything.
-/

open Library

namespace NplgMcp.Pdf

/-! ## Paths -/

/-- The text has no separator. -/
def IsSegment (value : String) : Prop := '/' ∉ value.toList

theorem IsSegment.append {a b : String} (ha : IsSegment a) (hb : IsSegment b) :
    IsSegment (a ++ b) := by
  unfold IsSegment
  rw [String.toList_append, List.mem_append]
  exact fun h => h.elim ha hb

theorem isSegment_repr (value : ℕ) : IsSegment value.repr := by
  unfold IsSegment
  rw [Nat.toList_repr]
  intro h
  have hdigit := Nat.isDigit_of_mem_toDigits (by decide) (by decide) h
  exact absurd hdigit (by decide)

theorem isSegment_padded (width value : ℕ) : IsSegment (padded width value) := by
  refine IsSegment.append ?_ (isSegment_repr value)
  unfold IsSegment
  rw [String.toList_ofList, List.mem_replicate]
  exact fun h => absurd h.2 (by decide)

theorem IsSegment.splitOn {value : String} (h : IsSegment value) :
    value.toList.splitOn '/' = [value.toList] := by
  rw [List.splitOn_eq_splitOnP]
  refine List.splitOnP_eq_singleton fun c hc => ?_
  exact beq_eq_false_iff_ne.2 fun heq => h (heq ▸ hc)

/-- Equal paths have equal texts. -/
theorem renderPath_injective {a b : String} {path : Path} (ha : renderPath a = some path)
    (hb : renderPath b = some path) : a = b := by
  have hpieces (text : String) (h : renderPath text = some path) :
      text.toList.splitOn '/' =
        "renders".toList :: path.key.name.toList :: path.parts.map String.toList := by
    unfold renderPath at h
    split at h
    · rename_i top name parts heq
      split_ifs at h with htop
      cases h
      have hparts : (parts.map String.ofList).map String.toList = parts := by
        rw [List.map_map]
        exact List.map_id'' (fun _ => String.toList_ofList) parts
      show _ = "renders".toList :: (String.ofList name).toList ::
        (parts.map String.ofList).map String.toList
      rw [heq, htop, hparts, @String.toList_ofList name]
    · cases h
  refine String.toList_injective ?_
  rw [← @List.intercalate_splitOn _ a.toList _ _ '/', ← @List.intercalate_splitOn _ b.toList _ _ '/',
    hpieces a ha, hpieces b hb]

/-- A segment below a path is a child. -/
theorem renderPath_child {root name : String} {path : Path} (h : renderPath root = some path)
    (hname : IsSegment name) : renderPath (root ++ "/" ++ name) = some (path.child name) := by
  have hlist : (root ++ "/" ++ name).toList = root.toList ++ '/' :: name.toList := by
    rw [String.toList_append, String.toList_append, List.append_assoc]
    rfl
  unfold renderPath at h ⊢
  rw [hlist, List.splitOn_append_cons_self, hname.splitOn]
  split at h
  · rename_i top first parts heq
    rw [heq]
    split_ifs at h with htop
    cases h
    simp only [List.cons_append, if_pos htop, Path.child, List.map_append, List.map_cons,
      List.map_nil, String.ofList_toList]
  · cases h

/-- The directory of a render. -/
theorem renderPath_render {renderId : String} (h : IsSegment renderId) :
    renderPath ("renders/" ++ renderId) = some ⟨⟨.renders, renderId⟩, []⟩ := by
  have hlist : ("renders/" ++ renderId).toList = "renders".toList ++ '/' :: renderId.toList := by
    rw [String.toList_append]
    rfl
  have htop : "renders".toList.splitOn '/' = ["renders".toList] :=
    IsSegment.splitOn (by unfold IsSegment; decide)
  unfold renderPath
  rw [hlist, List.splitOn_append_cons_self, h.splitOn, htop]
  simp only [List.cons_append, List.nil_append, if_true, String.ofList_toList, List.map_nil]

/-- The identifier of a render is a segment. -/
theorem isSegment_of_isRenderId {renderId : String} (h : isRenderId renderId = true) :
    IsSegment renderId := by
  unfold isRenderId at h
  simp only [Bool.and_eq_true, beq_iff_eq, List.all_eq_true] at h
  unfold IsSegment
  rw [← List.take_append_drop 4 renderId.toList, h.1.1, List.mem_append]
  rintro (hmem | hmem)
  · exact absurd hmem (by decide)
  · exact absurd (h.2 _ hmem) (by decide)

/-- The identifier of a geometry is a segment. -/
theorem isSegment_of_tileGeometryIdentifier {width height overlap : ℕ} {geometry : String}
    (h : tileGeometryIdentifier width height overlap = .ok geometry) : IsSegment geometry := by
  unfold tileGeometryIdentifier at h
  split_ifs at h
  cases h
  have htext : IsSegment "tpv1-0-0-w" ∧ IsSegment "-h" ∧ IsSegment "-o" := by
    unfold IsSegment
    decide
  exact ((((htext.1.append (isSegment_padded 4 width)).append htext.2.1).append
    (isSegment_padded 4 height)).append htext.2.2).append (isSegment_padded 3 overlap)

/-! ## Writing a file -/

/-- The pieces of a file are the file. -/
theorem flatten_readChunks {size bound : ℕ} {data : Bytes} (hsize : 1 ≤ size)
    (hbound : data.length ≤ bound) : (readChunks size bound data).flatten = data := by
  induction bound generalizing data with
  | zero =>
      rw [List.eq_nil_of_length_eq_zero (Nat.le_zero.1 hbound)]
      rfl
  | succ bound ih =>
      unfold readChunks
      split
      · rename_i hempty
        rw [hempty]
        rfl
      · rename_i hnonempty
        have hpositive := List.length_pos_iff.2 hnonempty
        rw [List.flatten_cons, ih (by rw [List.length_drop]; omega), List.take_append_drop]

section
variable {context : PublishContext} {job : JobDirectory} {s s' : Store} {token : Token}
  {staged : StagedPath} {caller : Context} {subtree : Path} {relativePath expectedSha256 : String}
  {faults : PublishFaults} {p : Path → Prop}

/-- Writing the chunks adds nothing. -/
theorem advances_writeChunks {number : ℕ} {chunks : List Bytes} :
    Store.Advances p s
      (context.writeChunks s staged caller relativePath faults number chunks).2 := by
  induction chunks generalizing s number with
  | nil => exact .refl
  | cons chunk rest ih =>
      have hstart := Store.Advances.of_core (p := p)
        (@Store.core_startWrite s staged caller faults.root chunk)
      unfold PublishContext.writeChunks
      split
      · exact .refl
      · split <;> rename_i heq <;> rw [heq] at hstart
        · exact hstart
        · rename_i started
          have hfinish := Store.Advances.of_core (p := p) (@Store.core_finishWrite started staged
            ((faults.writes number).getD (.returned chunk.length)))
          split <;> rename_i heq' <;> rw [heq'] at hfinish
          · exact hstart.trans hfinish
          · split
            · exact hstart.trans hfinish
            · exact (hstart.trans hfinish).trans ih

/-- When all chunks are written the staged file has them all. -/
theorem stagedFor_writeChunks {number : ℕ} {chunks : List Bytes} {data : Bytes}
    (h : s.StagedFor staged token data)
    (hok : (context.writeChunks s staged caller relativePath faults number chunks).1 = .ok ()) :
    (context.writeChunks s staged caller relativePath faults number chunks).2.StagedFor staged token
      (data ++ chunks.flatten) := by
  induction chunks generalizing s number data with
  | nil =>
      rw [List.flatten_nil, List.append_nil]
      exact h
  | cons chunk rest ih =>
      rw [List.flatten_cons, ← List.append_assoc]
      unfold PublishContext.writeChunks at hok ⊢
      split at hok
      · cases hok
      · rename_i hexpired
        rw [if_neg hexpired]
        split at hok
        · cases hok
        · rename_i hstart
          obtain ⟨hstarted, hpending⟩ := h.startWrite hstart
          split at hok
          · cases hok
          · rename_i hfinish
            split at hok
            · cases hok
            · rename_i hall
              rw [if_neg hall]
              exact ih (hstarted.finishWrite hpending hfinish (not_not.1 hall)) hok

/-- The path a relative path names, strictly below the subtree. -/
def Destination (subtree : Path) (relativePath : String) (path : Path) : Prop :=
  renderPath relativePath = some path ∧ path.StrictlyWithin subtree

/-- What is done with a staged file adds its destination. -/
theorem advances_publishStaged (hw : s.Working token caller subtree)
    (h : s.StagedFor staged token []) {contents : Option Bytes} :
    Store.Advances (Destination subtree relativePath) s (context.publishStaged s staged caller
      relativePath contents expectedSha256 faults).2 := by
  unfold PublishContext.publishStaged
  split
  · exact .refl
  · cases contents with
    | none => exact .refl
    | some data =>
        dsimp only
        have hwritten := @advances_writeChunks context s staged caller relativePath faults
          (Destination subtree relativePath) 0 (readChunks 1048576 data.length data)
        have hstaged := @stagedFor_writeChunks context s token staged caller relativePath faults 0
          (readChunks 1048576 data.length data) [] h
        split <;> rename_i heq <;> rw [heq] at hwritten hstaged
        · exact hwritten
        · rename_i written
          have hw' := hw.advances (hwritten.mono fun _ hpath => hpath)
          split
          · exact hwritten
          · split
            · exact hwritten
            · split
              · exact hwritten.trans (.of_core Store.core_closeWriter)
              · rename_i destination hdestination
                refine hwritten.trans ⟨?_, ?_⟩
                · refine (Store.adds_commitRender (hstaged rfl).writer hw'.live).mono ?_
                  rintro path ⟨rfl, hwithin⟩
                  exact ⟨hdestination, hwithin⟩
                · exact Store.keepsLeases_of_authority Store.authority_commitRender

/-- What is done with a staged file that returns leaves bytes of the expected digest, those of the
file if nothing was at the destination. -/
theorem publishStaged_ok (h : s.StagedFor staged token []) {contents : Option Bytes} {path : Path}
    (hpath : renderPath relativePath = some path) (hartifact : path.IsArtifact)
    (hok : (context.publishStaged s staged caller relativePath contents expectedSha256 faults).1 =
      .ok ()) :
    ∃ data stored, contents = some data ∧
      (context.publishStaged s staged caller relativePath contents expectedSha256
        faults).2.files.lookup path = some stored ∧
      context.env.sha256 data = expectedSha256 ∧ context.env.sha256 stored = expectedSha256 ∧
      (path ∉ s.files → stored = data) := by
  unfold PublishContext.publishStaged at hok ⊢
  split at hok
  · cases hok
  · rename_i hexpired
    rw [if_neg hexpired]
    cases contents with
    | none => cases hok
    | some data =>
        dsimp only at hok ⊢
        have hwritten := @advances_writeChunks context s staged caller relativePath faults
          (fun _ => False) 0 (readChunks 1048576 data.length data)
        have hstaged := @stagedFor_writeChunks context s token staged caller relativePath faults 0
          (readChunks 1048576 data.length data) [] h
        split at hok <;> rename_i heq <;> rw [heq] at hwritten hstaged
        · cases hok
        · rename_i written
          split at hok
          · cases hok
          · rename_i hdigest
            split at hok
            · cases hok
            · rename_i hlate
              rw [if_neg hdigest, if_neg hlate]
              rw [hpath] at hok ⊢
              dsimp only at hok ⊢
              have hcontents := (hstaged rfl).contents
              rw [List.nil_append, flatten_readChunks (by decide) le_rfl] at hcontents
              have hcommit : (written.commitRender context.env staged caller path
                  faults.commit).1 = .ok () := by
                unfold ofStore at hok
                cases hresult : (written.commitRender context.env staged caller path
                  faults.commit).1 with
                | ok value => rfl
                | error error =>
                    rw [hresult] at hok
                    cases hok
              obtain ⟨stored, hstored, hsha, hfree⟩ := Store.commitRender_ok hartifact hcontents hcommit
              refine ⟨data, stored, rfl, hstored, not_not.1 hdigest,
                hsha.trans (not_not.1 hdigest), fun hnot => hfree fun hmem => hnot ?_⟩
              exact (hwritten.adds.added path hartifact hmem).resolve_right fun hnew => hnew.1

/-- A descriptor of a file that can be read is one of its contents. -/
theorem validatedDescriptor_ok {data : Bytes}
    (h : PublishContext.validatedDescriptor job relativePath = .ok (some data)) :
    job.file relativePath = .content data := by
  unfold PublishContext.validatedDescriptor at h
  split_ifs at h
  split at h <;> cases h
  assumption

/-- Publishing one file adds its destination. -/
theorem advances_publishOne (hw : s.Working token caller subtree) :
    Store.Advances (Destination subtree relativePath) s (context.publishOne job s token caller
      relativePath expectedSha256 faults).2 := by
  have hstage := @Store.advances_stage s caller (Destination subtree relativePath) (some token)
    faults.root faults.opened
  unfold PublishContext.publishOne
  split
  · exact .refl
  · split
    · exact .refl
    · rename_i contents _
      split <;> rename_i heq <;> rw [heq] at hstage
      · exact hstage
      · rename_i staged started
        have hpublished : Store.Advances (Destination subtree relativePath) started
            (context.publishStaged started staged caller relativePath contents expectedSha256
              faults).2 := advances_publishStaged (hw.advances hstage) (Store.stage_ok heq)
        split
        rename_i outcome published heq'
        rw [heq'] at hpublished
        have hdiscarded := (hstage.trans hpublished).trans (.of_core (@Store.core_discard published staged caller
          faults.root faults.unlinkStaged))
        split <;> rename_i heq'' <;> rw [heq''] at hdiscarded <;> exact hdiscarded

/-- A file that is published has the expected digest, and its bytes where nothing was. -/
theorem publishOne_ok {path : Path} (hpath : renderPath relativePath = some path)
    (hartifact : path.IsArtifact) (hfree : path ∉ s.files)
    (hok : (context.publishOne job s token caller relativePath expectedSha256 faults).1 = .ok ()) :
    ∃ data, job.file relativePath = .content data ∧ context.env.sha256 data = expectedSha256 ∧
      (context.publishOne job s token caller relativePath expectedSha256 faults).2.files.lookup
        path = some data := by
  unfold PublishContext.publishOne at hok ⊢
  split at hok
  · cases hok
  · rename_i hexpired
    rw [if_neg hexpired]
    split at hok
    · cases hok
    · rename_i contents hdescriptor
      have hstage := @Store.advances_stage s caller (fun _ => False) (some token)
        faults.root faults.opened
      split at hok <;> rename_i heq <;> rw [heq] at hstage
      · cases hok
      · rename_i staged started
        have hnot : path ∉ started.files := fun hmem =>
          (hstage.adds.added path hartifact hmem).elim hfree fun hnew => hnew.1
        split at hok
        rename_i outcome published heq'
        split at hok
        · cases hok
        · rename_i left heq''
          have houtcome : (context.publishStaged started staged caller relativePath contents
              expectedSha256 faults).1 = .ok () := heq' ▸ (hok : outcome = .ok ())
          obtain ⟨data, stored, rfl, hstored, hdata, -, hsame⟩ :=
            publishStaged_ok (Store.stage_ok heq) hpath hartifact houtcome
          obtain rfl := hsame hnot
          have hleft := congrArg Store.files (@Store.core_discard published staged caller faults.root
            faults.unlinkStaged)
          rw [heq''] at hleft
          refine ⟨stored, validatedDescriptor_ok hdescriptor, hdata, ?_⟩
          rw [heq'] at hstored
          exact (congrArg (·.lookup path) hleft).trans hstored

/-- Publishing the files adds their destinations. -/
theorem advances_publishAll {digests : List (String × String)} {faults : String → PublishFaults}
    {relativePaths : List String} (hw : s.Working token caller subtree) :
    Store.Advances (fun path => (∃ relativePath ∈ relativePaths, renderPath relativePath = some path) ∧
        path.StrictlyWithin subtree) s
      (context.publishAll job s token caller digests faults relativePaths).2 := by
  induction relativePaths generalizing s with
  | nil => exact .refl
  | cons relativePath rest ih =>
      have hone := @advances_publishOne context job s token caller subtree relativePath
        ((digests.lookup relativePath).getD "") (faults relativePath) hw
      have hhead := hone.mono fun path hpath =>
        (⟨⟨relativePath, List.mem_cons_self, hpath.1⟩, hpath.2⟩ :
          (∃ other ∈ relativePath :: rest, renderPath other = some path) ∧
            path.StrictlyWithin subtree)
      unfold PublishContext.publishAll
      split <;> rename_i heq <;> rw [heq] at hone hhead
      · exact hhead
      · refine hhead.trans ((ih (hw.advances hone)).mono ?_)
        rintro path ⟨⟨other, hother, hpath⟩, hwithin⟩
        exact ⟨⟨other, List.mem_cons_of_mem _ hother, hpath⟩, hwithin⟩

/-- When all files are published, each has the bytes the worker left and the expected digest. -/
theorem publishAll_ok {digests : List (String × String)} {faults : String → PublishFaults}
    {relativePaths : List String} (hw : s.Working token caller subtree)
    (hnodup : relativePaths.Nodup)
    (hpaths : ∀ relativePath ∈ relativePaths, ∃ path, renderPath relativePath = some path ∧
      path.IsArtifact ∧ path ∉ s.files)
    (hok : (context.publishAll job s token caller digests faults relativePaths).1 = .ok ()) :
    ∀ relativePath ∈ relativePaths, ∀ path, renderPath relativePath = some path →
      ∃ data, job.file relativePath = .content data ∧
        context.env.sha256 data = (digests.lookup relativePath).getD "" ∧
        (context.publishAll job s token caller digests faults relativePaths).2.files.lookup path =
          some data := by
  induction relativePaths generalizing s with
  | nil => exact fun _ hmem => absurd hmem List.not_mem_nil
  | cons first rest ih =>
      obtain ⟨hnotMem, hnodup⟩ := List.nodup_cons.1 hnodup
      have hone := @advances_publishOne context job s token caller subtree first
        ((digests.lookup first).getD "") (faults first) hw
      obtain ⟨path, hpath, hartifact, hfree⟩ := hpaths first List.mem_cons_self
      have hfirst := @publishOne_ok context job s token caller first
        ((digests.lookup first).getD "") (faults first) path hpath hartifact hfree
      unfold PublishContext.publishAll at hok ⊢
      split at hok <;> rename_i heq <;> rw [heq] at hone hfirst
      · cases hok
      · rename_i published
        obtain ⟨data, hdata, hsha, hstored⟩ := hfirst rfl
        have hw' := hw.advances hone
        have hrest := @advances_publishAll context job published token caller subtree digests faults
          rest hw'
        intro relativePath hmem other hother
        rcases List.mem_cons.1 hmem with rfl | hmem
        · obtain rfl := Option.some.inj (hother.symm.trans hpath)
          exact ⟨data, hdata, hsha, hrest.adds.kept other data hartifact hstored⟩
        · refine ih hw' hnodup (fun later hlater => ?_) hok relativePath hmem other hother
          obtain ⟨path', hpath', hartifact', hfree'⟩ := hpaths later (List.mem_cons_of_mem _ hlater)
          refine ⟨path', hpath', hartifact', fun hadded => ?_⟩
          rcases hone.adds.added path' hartifact' hadded with hold | ⟨⟨hsame, -⟩, -⟩
          · exact hfree' hold
          · exact hnotMem (renderPath_injective hsame hpath' ▸ hlater)

end

/-! ## Publishing a rendering -/

/-- The rendering is published in the subtree, under names that are segments. -/
structure Rendering.In (rendering : Rendering) (subtree : Path) : Prop where
  root : renderPath rendering.root = some subtree
  isArtifact : subtree.IsArtifact
  segments : ∀ listed ∈ rendering.files, IsSegment listed.name
  names : ∀ listed ∈ rendering.files, listed.name ≠ insertionSequenceFilename

/-- The subtree holds exactly the listed files and the manifest, with the reported digests and a
manifest that is the result; no other artifact has changed. -/
structure Delivered (context : PublishContext) (rendering : Rendering) (subtree : Path)
    (s s' : Store) : Prop where
  listed : ∀ listed ∈ rendering.files,
    renderPath listed.relativePath = some (subtree.child listed.name) ∧
    ∃ data, s'.files.lookup (subtree.child listed.name) = some data ∧
      context.env.sha256 data = listed.sha256
  manifest : renderPath rendering.manifestRelativePath = some (subtree.child "manifest.json") ∧
    ∃ data, s'.files.lookup (subtree.child "manifest.json") = some data ∧
      rendering.reads data = some true
  only : ∀ path, path.IsArtifact → path.Within subtree → path ∈ s'.files →
    path = subtree.child "manifest.json" ∨
      ∃ listed ∈ rendering.files, path = subtree.child listed.name
  others : ∀ path, path.IsArtifact → ¬ path.Within subtree →
    s'.files.lookup path = s.files.lookup path

/-- The store has files of the same digests already: the listed ones, and one of the digest of a
manifest that is the result. -/
structure AlreadyStored (context : PublishContext) (rendering : Rendering) (subtree : Path)
    (s : Store) : Prop where
  listed : ∀ listed ∈ rendering.files,
    renderPath listed.relativePath = some (subtree.child listed.name) ∧
    ∃ stored, s.files.lookup (subtree.child listed.name) = some stored ∧
      context.env.sha256 stored = listed.sha256
  manifest : renderPath rendering.manifestRelativePath = some (subtree.child "manifest.json") ∧
    ∃ stored data, s.files.lookup (subtree.child "manifest.json") = some stored ∧
      context.env.sha256 stored = context.env.sha256 data ∧ rendering.reads data = some true

theorem Path.child_isArtifact {path : Path} {name : String} (h : name ≠ insertionSequenceFilename) :
    (path.child name).IsArtifact := by
  unfold Path.IsArtifact Path.name Path.child
  rwa [List.getLastD_concat]

theorem Path.child_strictlyWithin {path : Path} {name : String} :
    (path.child name).StrictlyWithin path := by
  refine ⟨⟨rfl, List.prefix_append _ _⟩, fun heq => ?_⟩
  have hparts := congrArg (List.length ∘ Path.parts) heq
  simp [Path.child] at hparts

section
variable {context : PublishContext} {job : JobDirectory} {s s' : Store} {token : Token}
  {caller : Context} {subtree : Path} {rendering : Rendering}

/-- What the validation has found when the transaction begins. -/
structure Validated (context : PublishContext) (job : JobDirectory) (rendering : Rendering) :
    Prop where
  listed : ∀ listed ∈ rendering.files,
    listed.relativePath = rendering.root ++ "/" ++ listed.name ∧
      ∀ data, job.file listed.relativePath = .content data →
        context.env.sha256 data = listed.sha256
  manifest : rendering.manifestRelativePath = rendering.root ++ "/manifest.json" ∧
    ∀ data, job.file rendering.manifestRelativePath = .content data →
      rendering.reads data = some true

/-- A computation that returns has done its first part. -/
theorem exists_of_bind_ok {α β : Type} {x : Except WorkerError α} {f : α → Except WorkerError β}
    {b : β} (h : (x >>= f) = .ok b) : ∃ a, x = .ok a ∧ f a = .ok b := by
  cases x with
  | error error => cases h
  | ok a => exact ⟨a, rfl, h⟩

/-- The descriptor of a file with contents has them. -/
theorem contents_of_validatedDescriptor {relativePath : String} {contents : Option Bytes}
    {data : Bytes} (h : PublishContext.validatedDescriptor job relativePath = .ok contents)
    (hdata : job.file relativePath = .content data) : contents = some data := by
  unfold PublishContext.validatedDescriptor at h
  rw [hdata] at h
  split_ifs at h
  cases h
  rfl

/-- A file that is validated has its digest. -/
theorem sha256_of_validateOutputFile {listed : ListedFile} {data : Bytes}
    (h : context.validateOutputFile job listed = .ok ())
    (hdata : job.file listed.relativePath = .content data) :
    context.env.sha256 data = listed.sha256 := by
  unfold PublishContext.validateOutputFile at h
  split at h
  · cases h
  · obtain ⟨-, -, h⟩ := exists_of_bind_ok h
    obtain ⟨contents, hcontents, h⟩ := exists_of_bind_ok h
    obtain rfl := contents_of_validatedDescriptor hcontents hdata
    unfold PublishContext.validateOutputData at h
    dsimp only at h
    split_ifs at h with hexpired hsize hdigest hlate
    exact not_not.1 (not_or.1 hdigest).1

/-- The files that are validated are at their paths and have their digests. -/
theorem listed_of_validateFiles {files : List ListedFile}
    (h : context.validateFiles job rendering files = .ok ()) : ∀ listed ∈ files,
    listed.relativePath = rendering.root ++ "/" ++ listed.name ∧
      ∀ data, job.file listed.relativePath = .content data →
        context.env.sha256 data = listed.sha256 := by
  induction files with
  | nil => exact fun _ hmem => absurd hmem List.not_mem_nil
  | cons first rest ih =>
      unfold PublishContext.validateFiles at h
      split at h
      · cases h
      · rename_i hpath
        split at h
        · cases h
        · rename_i hfirst
          intro listed hmem
          rcases List.mem_cons.1 hmem with rfl | hmem
          · exact ⟨not_not.1 hpath, fun data => sha256_of_validateOutputFile hfirst⟩
          · exact ih h listed hmem

/-- A manifest that is validated is the result. -/
theorem reads_of_validateManifestFile {digest : String} {data : Bytes}
    (h : context.validateManifestFile job rendering = .ok digest)
    (hdata : job.file rendering.manifestRelativePath = .content data) :
    rendering.reads data = some true := by
  unfold PublishContext.validateManifestFile at h
  split at h
  · cases h
  · obtain ⟨contents, hcontents, h⟩ := exists_of_bind_ok h
    obtain rfl := contents_of_validatedDescriptor hcontents hdata
    unfold PublishContext.validateManifestData at h
    dsimp only at h
    split_ifs at h
    split at h
    · cases h
    · cases h
    · assumption

theorem validated_of_validateRendering {digests : List (String × String)}
    (h : context.validateRendering job rendering = .ok digests) :
    Validated context job rendering := by
  unfold PublishContext.validateRendering at h
  split at h
  · cases h
  · rename_i hmanifest
    obtain ⟨_, hfiles, h⟩ := exists_of_bind_ok h
    obtain ⟨digest, hdigest, -⟩ := exists_of_bind_ok h
    exact ⟨listed_of_validateFiles hfiles, not_not.1 hmanifest,
      fun data => reads_of_validateManifestFile hdigest⟩

/-! ## The transaction -/

/-- Every output is published, the manifest too. -/
theorem mem_publicationOrder {relativePath : String} :
    relativePath ∈ PublishContext.publicationOrder rendering ↔
      relativePath = rendering.manifestRelativePath ∨
        ∃ listed ∈ rendering.files, relativePath = listed.relativePath := by
  unfold PublishContext.publicationOrder Rendering.expected
  simp only [List.mem_append, List.mem_insertionSort, List.mem_filter, List.mem_dedup, List.mem_cons,
    List.mem_map, List.not_mem_nil, or_false, decide_eq_true_eq, ne_eq]
  constructor
  · rintro (⟨hmanifest | ⟨listed, hlisted, rfl⟩, -⟩ | hmanifest)
    · exact .inl hmanifest
    · exact .inr ⟨listed, hlisted, rfl⟩
    · exact .inl hmanifest
  · rintro (h | ⟨listed, hlisted, rfl⟩)
    · exact .inr h
    · by_cases hmanifest : listed.relativePath = rendering.manifestRelativePath
      · exact .inr hmanifest
      · exact .inl ⟨.inr ⟨listed, hlisted, rfl⟩, hmanifest⟩

theorem nodup_publicationOrder : (PublishContext.publicationOrder rendering).Nodup := by
  unfold PublishContext.publicationOrder
  refine List.Nodup.append ((List.perm_insertionSort _ _).nodup_iff.2
    ((List.nodup_dedup _).filter _)) (List.nodup_singleton _) ?_
  intro relativePath hmem hmanifest
  rw [List.mem_insertionSort, List.mem_filter] at hmem
  exact absurd (List.mem_singleton.1 hmanifest) (by simpa using hmem.2)

/-- Where the validated outputs go. -/
theorem Validated.renderPath (hvalid : Validated context job rendering) (hin : rendering.In subtree) :
    (∀ listed ∈ rendering.files,
        renderPath listed.relativePath = some (subtree.child listed.name)) ∧
      renderPath rendering.manifestRelativePath = some (subtree.child "manifest.json") := by
  refine ⟨fun listed hlisted => ?_, ?_⟩
  · rw [(hvalid.listed listed hlisted).1]
    exact renderPath_child hin.root (hin.segments listed hlisted)
  · have hname : "/manifest.json" = "/" ++ "manifest.json" := by decide
    rw [hvalid.manifest.1, hname, ← String.append_assoc]
    exact renderPath_child hin.root (by unfold IsSegment; decide)

/-- In a cleared subtree the outputs are delivered, or the transaction is still at work. -/
theorem publishAndCommit_cases {start : Store} {digests : List (String × String)}
    {faults : String → PublishFaults} (hw : s.Working token caller subtree)
    (hclears : Store.Clears subtree start s) (hvalid : Validated context job rendering)
    (hin : rendering.In subtree) :
    (∃ error s', context.publishAndCommit job s token caller rendering digests faults =
        (.error error, s') ∧ s'.Working token caller subtree ∧
        Store.Adds (fun path => True ∧ path.StrictlyWithin subtree) s s') ∨
      ∃ s', context.publishAndCommit job s token caller rendering digests faults = (.ok (), s') ∧
        s'.Ended token ∧ Delivered context rendering subtree start s' := by
  obtain ⟨hlistedPath, hmanifestPath⟩ := hvalid.renderPath hin
  have hall := @advances_publishAll context job s token caller subtree digests faults
    (PublishContext.publicationOrder rendering) hw
  have hpaths : ∀ relativePath ∈ PublishContext.publicationOrder rendering,
      ∃ path, renderPath relativePath = some path ∧ path.IsArtifact ∧ path ∉ s.files := by
    intro relativePath hmem
    obtain rfl | ⟨listed, hlisted, rfl⟩ := mem_publicationOrder.1 hmem
    · have hartifact : (subtree.child "manifest.json").IsArtifact :=
        Path.child_isArtifact (by decide)
      exact ⟨_, hmanifestPath, hartifact,
        hclears.cleared _ hartifact Path.child_strictlyWithin.1⟩
    · have hartifact := @Path.child_isArtifact subtree _ (hin.names listed hlisted)
      exact ⟨_, hlistedPath listed hlisted, hartifact,
        hclears.cleared _ hartifact Path.child_strictlyWithin.1⟩
  have hok := @publishAll_ok context job s token caller subtree digests faults
    (PublishContext.publicationOrder rendering) hw nodup_publicationOrder hpaths
  unfold PublishContext.publishAndCommit
  split <;> rename_i heq <;> rw [heq] at hall hok
  · rename_i error published
    exact .inl ⟨error, published, rfl, hw.advances hall, hall.adds.mono fun path hpath =>
      ⟨trivial, hpath.2⟩⟩
  · rename_i published
    have hstored := hok rfl
    obtain ⟨data, hdata, -, hmanifest⟩ := hstored _ (mem_publicationOrder.2 (.inl rfl)) _ hmanifestPath
    obtain ⟨s', hcommit, hfiles, hended⟩ := Store.commitTransaction_ok (hw.advances hall).toHolds
      (Finmap.mem_of_lookup_eq_some hmanifest)
    refine .inr ⟨s', by rw [hcommit]; rfl, hended, fun listed hlisted => ?_, ?_,
      fun path hpath hwithin hmem => ?_, fun path hpath hnot => ?_⟩
    · obtain ⟨data, hdata, -, hpublished⟩ := hstored _
        (mem_publicationOrder.2 (.inr ⟨listed, hlisted, rfl⟩)) _ (hlistedPath listed hlisted)
      exact ⟨hlistedPath listed hlisted, data, hfiles ▸ hpublished,
        (hvalid.listed listed hlisted).2 data hdata⟩
    · exact ⟨hmanifestPath, data, hfiles ▸ hmanifest, hvalid.manifest.2 data hdata⟩
    · rw [hfiles] at hmem
      rcases hall.adds.added path hpath hmem with hold | ⟨⟨⟨relativePath, horder, hsome⟩, -⟩, -⟩
      · exact absurd hold (hclears.cleared path hpath hwithin)
      · obtain rfl | ⟨listed, hlisted, rfl⟩ := mem_publicationOrder.1 horder
        · exact .inl (Option.some.inj (hsome.symm.trans hmanifestPath))
        · exact .inr ⟨listed, hlisted,
            Option.some.inj (hsome.symm.trans (hlistedPath listed hlisted))⟩
    · rw [hfiles, hall.adds.lookup_eq hpath fun hp => hnot hp.2.1]
      exact hclears.others path hpath hnot

/-- Where the comparison succeeds, the store has a file of the same digest at every path. -/
theorem stored_of_authoritativeMatches {resolved : String → Bool} {relativePaths : List String}
    (h : context.authoritativeMatches job s resolved relativePaths = .ok true) :
    ∀ relativePath ∈ relativePaths, ∃ path stored data, renderPath relativePath = some path ∧
      s.files.lookup path = some stored ∧ job.file relativePath = .content data ∧
      context.env.sha256 stored = context.env.sha256 data := by
  induction relativePaths with
  | nil => exact fun _ hmem => absurd hmem List.not_mem_nil
  | cons first rest ih =>
      unfold PublishContext.authoritativeMatches at h
      split at h
      · cases h
      · split at h
        · rename_i stored data hstored hdata
          split_ifs at h with hresolved hexpired hdigest
          · cases h
          · cases h
          · intro relativePath hmem
            rcases List.mem_cons.1 hmem with rfl | hmem
            · obtain ⟨path, hpath, hlookup⟩ := Option.bind_eq_some_iff.1 hstored
              exact ⟨path, stored, data, hpath, hlookup, hdata, not_not.1 hdigest⟩
            · exact ih h relativePath hmem
        · cases h

/-- Every output is expected. -/
theorem mem_expected {relativePath : String} : relativePath ∈ rendering.expected ↔
    relativePath = rendering.manifestRelativePath ∨
      ∃ listed ∈ rendering.files, listed.relativePath = relativePath := by
  unfold Rendering.expected
  rw [List.mem_dedup, List.mem_cons, List.mem_map]

/-- A complete subtree that matches has the outputs already. -/
theorem alreadyStored_of_matches {resolved : String → Bool} (hvalid : Validated context job rendering)
    (hin : rendering.In subtree)
    (h : context.authoritativeMatches job s resolved rendering.expected = .ok true) :
    AlreadyStored context rendering subtree s := by
  obtain ⟨hlistedPath, hmanifestPath⟩ := hvalid.renderPath hin
  have hstored := stored_of_authoritativeMatches h
  refine ⟨fun listed hlisted => ⟨hlistedPath listed hlisted, ?_⟩, hmanifestPath, ?_⟩
  · obtain ⟨path, stored, data, hpath, hlookup, hdata, hdigest⟩ :=
      hstored _ (mem_expected.2 (.inr ⟨listed, hlisted, rfl⟩))
    obtain rfl := Option.some.inj (hpath.symm.trans (hlistedPath listed hlisted))
    exact ⟨stored, hlookup, hdigest.trans ((hvalid.listed listed hlisted).2 data hdata)⟩
  · obtain ⟨path, stored, data, hpath, hlookup, hdata, hdigest⟩ :=
      hstored _ (mem_expected.2 (.inl rfl))
    obtain rfl := Option.some.inj (hpath.symm.trans hmanifestPath)
    exact ⟨stored, data, hlookup, hdigest, hvalid.manifest.2 data hdata⟩

/-- What a publication comes to: no artifact is added, and none is taken away outside the subtree;
or the store has the outputs already and stays as it is; or they are delivered. -/
inductive PublicationOf (context : PublishContext) (rendering : Rendering) (subtree : Path)
    (s : Store) : PublishOutcome Unit → Prop
  | refused {error : PublishError} {s' : Store} :
      s'.files = s.files ∨ Store.Clears subtree s s' →
      PublicationOf context rendering subtree s (.error error, s')
  | stored {s' : Store} : s'.files = s.files → AlreadyStored context rendering subtree s →
      PublicationOf context rendering subtree s (.ok (), s')
  | delivered {s' : Store} : Delivered context rendering subtree s s' →
      PublicationOf context rendering subtree s (.ok (), s')

/-- The `try` block and the rollback after it, in a cleared subtree. -/
theorem publicationOf_publishAndCommit {start s'' : Store} {outcome : Except PublishError Unit}
    {digests : List (String × String)} {faults : String → PublishFaults}
    (hw : s.Working token caller subtree) (hclears : Store.Clears subtree start s)
    (hvalid : Validated context job rendering) (hin : rendering.In subtree)
    (hpublish : context.publishAndCommit job s token caller rendering digests faults =
      (outcome, s'')) :
    ∃ s', s''.rollbackTransaction token caller = (.ok (), s') ∧
      PublicationOf context rendering subtree start (outcome, s') := by
  rcases @publishAndCommit_cases context job s token caller subtree rendering start digests faults hw
      hclears hvalid hin with
    ⟨error, left, heq, hleft, hadds⟩ | ⟨left, heq, hended, hdelivered⟩
  · obtain ⟨rfl, rfl⟩ := Prod.mk.inj (heq.symm.trans hpublish)
    obtain ⟨s', hrolled, hcleared⟩ := Store.rollbackTransaction_of_working hleft
    exact ⟨s', hrolled, .refused (.inr (hclears.of_added hadds hcleared))⟩
  · obtain ⟨rfl, rfl⟩ := Prod.mk.inj (heq.symm.trans hpublish)
    obtain ⟨s', hrolled, hfiles⟩ := @Store.rollbackTransaction_of_ended left token caller hended
    refine ⟨s', hrolled, .delivered ⟨?_, ?_, ?_, ?_⟩⟩
    · rw [hfiles]
      exact hdelivered.listed
    · rw [hfiles]
      exact hdelivered.manifest
    · rw [hfiles]
      exact hdelivered.only
    · rw [hfiles]
      exact hdelivered.others

/-- The `try` block and the rollback after it, in a subtree that is complete. -/
theorem publicationOf_complete {start s'' : Store} {outcome : Except PublishError Unit}
    {digests : List (String × String)} {resolved : String → Bool}
    {faults : String → PublishFaults} (hholds : s.Holds token caller subtree true)
    (hmanifest : subtree.child "manifest.json" ∈ s.files) (hfiles : s.files = start.files)
    (hrooted : s.Rooted subtree)
    (hvalid : Validated context job rendering) (hin : rendering.In subtree)
    (hpublish : context.publishInTransaction job s token caller rendering digests resolved faults =
      (outcome, s'')) :
    ∃ s', s''.rollbackTransaction token caller = (.ok (), s') ∧
      PublicationOf context rendering subtree start (outcome, s') := by
  obtain ⟨rolled, hrolled, hsame⟩ := Store.rollbackTransaction_of_complete hholds
  have hcomplete : (s.transactions.lookup token).any (·.complete) = true := by
    rw [hholds.live]
    rfl
  unfold PublishContext.publishInTransaction at hpublish
  rw [if_pos hcomplete] at hpublish
  split at hpublish
  · obtain ⟨rfl, rfl⟩ := Prod.mk.inj hpublish
    exact ⟨rolled, hrolled, .refused (.inl (hsame.trans hfiles))⟩
  · rename_i hmatches
    obtain ⟨committed, hcommit, hkept, hended⟩ := Store.commitTransaction_ok hholds hmanifest
    rw [hcommit] at hpublish
    obtain ⟨rfl, rfl⟩ := Prod.mk.inj hpublish
    obtain ⟨s', hrolled', hsame'⟩ := @Store.rollbackTransaction_of_ended committed token caller
      hended
    have halready := alreadyStored_of_matches hvalid hin hmatches
    refine ⟨s', hrolled', .stored ((hsame'.trans hkept).trans hfiles) ⟨?_, ?_⟩⟩
    · rw [← hfiles]
      exact halready.listed
    · rw [← hfiles]
      exact halready.manifest
  · rcases Store.resetRenderTransaction_cases hholds hin.isArtifact hrooted with
      ⟨error, hreset⟩ | ⟨reset, hreset, hworking, hclears⟩
    · rw [hreset] at hpublish
      obtain ⟨rfl, rfl⟩ := Prod.mk.inj hpublish
      exact ⟨rolled, hrolled, .refused (.inl (hsame.trans hfiles))⟩
    · rw [hreset] at hpublish
      have hcleared : Store.Clears subtree start reset :=
        ⟨hclears.cleared, fun path hpath hnot => (hclears.others path hpath hnot).trans
          (by rw [hfiles])⟩
      exact publicationOf_publishAndCommit hworking hcleared hvalid hin hpublish

/-- **One rendering.** Publishing a rendering is refused, finds the outputs in the store or delivers
them. -/
theorem publicationOf_publishRendering {resolved : String → Bool}
    {faults : String → PublishFaults} (hin : rendering.In subtree)
    (hrooted : s.Rooted subtree) :
    PublicationOf context rendering subtree s
      (context.publishRendering job s caller rendering resolved faults) := by
  unfold PublishContext.publishRendering
  cases hvalidation : context.validateRendering job rendering with
  | error error => exact .refused (.inl rfl)
  | ok digests =>
      have hvalid := validated_of_validateRendering hvalidation
      unfold beginRenderTransaction
      rw [hin.root]
      dsimp only
      rcases @Store.beginRenderTransaction_cases s caller subtree hin.isArtifact hrooted with
        ⟨error, begun, heq, hfiles⟩ | ⟨token, begun, heq, hfiles, hdirectories, hholds, hmanifest⟩ |
        ⟨token, begun, heq, hworking, hclears⟩
      · rw [heq]
        exact .refused (.inl hfiles)
      · rw [heq]
        dsimp only
        have hrooted' : begun.Rooted subtree := by
          unfold Store.Rooted
          rw [hfiles, hdirectories]
          exact hrooted
        cases hpublish : context.publishInTransaction job begun token caller rendering digests
            resolved faults with
        | mk outcome left =>
            obtain ⟨s', hrolled, hpublication⟩ := publicationOf_complete hholds hmanifest hfiles
              hrooted' hvalid hin hpublish
            dsimp only
            rw [hrolled]
            exact hpublication
      · rw [heq]
        dsimp only
        have hincomplete : (begun.transactions.lookup token).any (·.complete) ≠ true := by
          rw [hworking.live]
          exact Bool.false_ne_true
        cases hpublish : context.publishInTransaction job begun token caller rendering digests
            resolved faults with
        | mk outcome left =>
            unfold PublishContext.publishInTransaction at hpublish
            rw [if_neg hincomplete] at hpublish
            obtain ⟨s', hrolled, hpublication⟩ := publicationOf_publishAndCommit hworking hclears
              hvalid hin hpublish
            dsimp only
            rw [hrolled]
            exact hpublication

end

/-! ## One execution -/

/-- The renderer version a payload reports. -/
def PdfPayload.rendererVersion : PdfPayload → String
  | .inspect value => value.rendererVersion
  | .renderPages value | .manifest value => value.rendererVersion
  | .renderTiles _ => ""

/-- The directory the outputs of a command belong in: it depends on the command, the digest of the
source, the renderer version and the settings. -/
def outputRoot (sha256 : Bytes → String) (settings : PdfProcessorSettings) (command : PdfCommand)
    (sourceSha256 : Option String) (rendererVersion : String) : Option Path :=
  match command with
  | .renderPages _ _ parameters _ =>
    sourceSha256.bind fun sourceSha256 =>
      (renderIdentifier sha256 sourceSha256 parameters.pages rendererVersion
        settings.fallbackDpi).toOption.map fun renderId => ⟨⟨.renders, renderId⟩, []⟩
  | .renderTiles _ parameters =>
    (tileGeometryIdentifier (expectedWidth settings parameters) (expectedHeight settings parameters)
      (expectedOverlap settings parameters)).toOption.map fun geometry =>
        ⟨⟨.renders, parameters.renderId⟩,
          ["tiles", "page-" ++ padded 4 parameters.pageNumber, geometry]⟩
  | .inspect .. | .manifest .. => none

/-- The outputs of a command that the payload lists. -/
def payloadRendering (context : PublishContext) (command : PdfCommand) (payload : PdfPayload) :
    Option Rendering :=
  match command, payload with
  | .renderPages .., .renderPages rendered => some (context.pageRendering rendered)
  | .renderTiles _ parameters, .renderTiles rendered =>
    (tileGeometryIdentifier (expectedWidth context.settings parameters)
      (expectedHeight context.settings parameters)
      (expectedOverlap context.settings parameters)).toOption.map fun geometry =>
        context.tileRendering parameters geometry rendered
  | _, _ => none

/-- No artifact is added or changed. -/
def AddsNothing (s s' : Store) : Prop :=
  ∀ path, path.IsArtifact → path ∈ s'.files → s'.files.lookup path = s.files.lookup path

/-- The reply is a success that lists this rendering, and this is where its outputs belong. -/
structure Lists (context : PublishContext) (command : PdfCommand)
    (staging : Except WorkerError (Option String)) (reply : Except WorkerError PdfResult)
    (rendering : Rendering) (root : Path) : Prop where
  listed : ∃ requestId payload sourceSha256, reply = .ok (.success requestId payload) ∧
    staging = .ok sourceSha256 ∧ payloadRendering context command payload = some rendering ∧
    outputRoot context.env.sha256 context.settings command sourceSha256 payload.rendererVersion =
      some root

/-- What an execution may do to the store. -/
structure Confined (context : PublishContext) (command : PdfCommand)
    (staging : Except WorkerError (Option String)) (reply : Except WorkerError PdfResult)
    (s : Store) (outcome : PublishOutcome PdfResult) : Prop where
  below : ∀ path, path.IsArtifact → outcome.2.files.lookup path ≠ s.files.lookup path →
    ∃ rendering root, Lists context command staging reply rendering root ∧ path.Within root
  exact : AddsNothing s outcome.2 ∨ ∃ rendering root,
    Lists context command staging reply rendering root ∧
      Delivered context rendering root s outcome.2
  returned : ∀ result, outcome.1 = .ok result → reply = .ok result ∧
    ∀ requestId payload, result = .success requestId payload →
      (payloadRendering context command payload = none ∧ outcome.2 = s) ∨
      ∃ rendering root, Lists context command staging reply rendering root ∧
        (outcome.2.files = s.files ∧ AlreadyStored context rendering root s ∨
          Delivered context rendering root s outcome.2)

section
variable {context : PublishContext} {job : JobDirectory} {s s' : Store} {caller : Context}
  {command : PdfCommand} {payload : PdfPayload} {sourceSha256 : Option String}
  {staged : StagedFile}

/-- An image is not the insertion-sequence record. -/
theorem jpg_ne (base : String) : base ++ ".jpg" ≠ insertionSequenceFilename := by
  intro heq
  have hlast := congrArg (fun value : String => value.toList.getLast?) heq
  simp only [String.toList_append] at hlast
  rw [List.getLast?_append, show ".jpg".toList.getLast? = some 'g' by decide, Option.some_or] at hlast
  exact absurd hlast (by decide)

/-- The rendering of pages is published below the directory of its render. -/
theorem pageRendering_in {rendered : RenderPagesOutput} :
    (context.pageRendering rendered).In ⟨⟨.renders, rendered.renderId⟩, []⟩ where
  root := renderPath_render (isSegment_of_isRenderId rendered.renderId_valid)
  isArtifact := by
    intro hname
    have hvalid := rendered.renderId_valid
    have hrecord : rendered.renderId = insertionSequenceFilename := hname
    rw [hrecord] at hvalid
    revert hvalid
    decide
  segments listed hlisted := by
    obtain ⟨page, -, rfl⟩ := List.mem_map.1 hlisted
    have htext : IsSegment "page-" ∧ IsSegment ".jpg" := by
      unfold IsSegment
      decide
    exact (htext.1.append (isSegment_padded 4 page.pageNumber)).append htext.2
  names listed hlisted := by
    obtain ⟨page, -, rfl⟩ := List.mem_map.1 hlisted
    exact jpg_ne _

/-- The rendering of tiles is published below the directory of its geometry. -/
theorem tileRendering_in {parameters : RenderTilesParams} {geometry : String}
    {rendered : RenderTilesOutput} (hgeometry : IsSegment geometry)
    (hrecord : geometry ≠ insertionSequenceFilename)
    (htiles : ∀ tile ∈ rendered.tiles, IsSegment tile.tileId) :
    (context.tileRendering parameters geometry rendered).In ⟨⟨.renders, parameters.renderId⟩,
      ["tiles", "page-" ++ padded 4 parameters.pageNumber, geometry]⟩ where
  root := by
    have htext : IsSegment "tiles" ∧ IsSegment "page-" := by
      unfold IsSegment
      decide
    have hpage := htext.2.append (isSegment_padded 4 parameters.pageNumber)
    have hsplit : "/tiles/page-" = "/" ++ "tiles" ++ "/" ++ "page-" := by decide
    have hroot : "renders/" ++ parameters.renderId ++ "/tiles/page-" ++
        padded 4 parameters.pageNumber ++ "/" ++ geometry =
        "renders/" ++ parameters.renderId ++ "/" ++ "tiles" ++ "/" ++
          ("page-" ++ padded 4 parameters.pageNumber) ++ "/" ++ geometry := by
      rw [hsplit]
      simp only [String.append_assoc]
    have hrender := renderPath_render (isSegment_of_isRenderId parameters.renderId_valid)
    show renderPath ("renders/" ++ parameters.renderId ++ "/tiles/page-" ++
      padded 4 parameters.pageNumber ++ "/" ++ geometry) = _
    rw [hroot]
    exact renderPath_child (renderPath_child (renderPath_child hrender htext.1) hpage) hgeometry
  isArtifact := hrecord
  segments listed hlisted := by
    obtain ⟨tile, htile, rfl⟩ := List.mem_map.1 hlisted
    exact (htiles tile htile).append (by unfold IsSegment; decide)
  names listed hlisted := by
    obtain ⟨tile, -, rfl⟩ := List.mem_map.1 hlisted
    exact jpg_ne _

/-- The identifier of a tile is a segment. -/
theorem isSegment_tileIdentifier {pageNumber x y : ℕ} {geometry : String} (h : IsSegment geometry) :
    IsSegment (tileIdentifier pageNumber geometry x y) := by
  have htext : IsSegment "p" ∧ IsSegment "_" ∧ IsSegment "_x" ∧ IsSegment "_y" := by
    unfold IsSegment
    decide
  exact ((((((htext.1.append (isSegment_padded 4 pageNumber)).append htext.2.1).append h).append
    htext.2.2.1).append (isSegment_padded 6 x)).append htext.2.2.2).append (isSegment_padded 6 y)

/-- The identifier of a geometry is not the insertion-sequence record. -/
theorem ne_of_tileGeometryIdentifier {width height overlap : ℕ} {geometry : String}
    (h : tileGeometryIdentifier width height overlap = .ok geometry) :
    geometry ≠ insertionSequenceFilename := by
  unfold tileGeometryIdentifier at h
  split_ifs at h
  cases h
  intro heq
  have hfirst := congrArg (fun value : String => value.toList.head?) heq
  simp only [String.toList_append, List.append_assoc] at hfirst
  rw [List.head?_append, show "tpv1-0-0-w".toList.head? = some 't' by decide, Option.some_or]
    at hfirst
  exact absurd hfirst (by decide)

/-- A report of tiles that is bound is the tiles of its command. -/
theorem tilesOf_of_binding {parameters : RenderTilesParams} {rendered : RenderTilesOutput}
    {readManifest : Bytes → Option RenderPagesOutput} {settings : PdfProcessorSettings}
    (hid : rendered.renderId = parameters.renderId)
    (h : validateTileResultBinding readManifest settings parameters rendered staged = .ok ()) :
    TilesOf readManifest settings parameters rendered staged := by
  have hmatches : ReportMatches settings parameters rendered := by
    unfold validateTileResultBinding at h
    split_ifs at h with hpage hgeometry
    exact ⟨hid, not_not.1 hpage, not_not.1 hgeometry⟩
  rcases @validateTileResultBinding_cases readManifest settings parameters rendered staged hmatches with
    ⟨⟨error, herror, -⟩ | ⟨-, htiles⟩, -⟩ | ⟨⟨error, herror, -⟩, -⟩
  · rw [herror] at h
    cases h
  · exact htiles
  · rw [herror] at h
    cases h

/-- What the binding gives of a success: the listed outputs belong at the root of the command. -/
theorem in_of_binding {requestId : ℕ} {rendering : Rendering}
    (hbinding : validateResultBinding context.readPages context.env.sha256 context.settings command
      (.success requestId payload) sourceSha256 staged = .ok ())
    (hrendering : payloadRendering context command payload = some rendering) :
    ∃ root, outputRoot context.env.sha256 context.settings command sourceSha256
        payload.rendererVersion = some root ∧ rendering.In root := by
  unfold validateResultBinding at hbinding
  split_ifs at hbinding with hid hoperation
  obtain ⟨_, hbudget, hpayload⟩ := exists_of_bind_ok hbinding
  simp only [bind, Except.bind, throw, throwThe, MonadExceptOf.throw] at hpayload
  split_ifs at hpayload with hsource
  unfold validatePayloadBinding at hpayload
  split at hpayload
  · rename_i parameters _ rendered
    obtain rfl := Option.some.inj hrendering
    split_ifs at hpayload with hpages
    cases sourceSha256 with
    | none => cases hpayload
    | some sourceSha256 =>
        obtain ⟨expected, hidentifier, hsame⟩ := exists_of_bind_ok hpayload
        split_ifs at hsame with hrenderId
        have hroot := @pageRendering_in context rendered
        rw [not_not.1 hrenderId] at hroot
        refine ⟨_, ?_, hroot⟩
        simp only [outputRoot, PdfPayload.rendererVersion, Option.bind_some, hidentifier,
          Except.toOption, Option.map_some]
  · rename_i parameters rendered
    split_ifs at hpayload with hrenderId
    obtain ⟨-, -, _, page, -, -, -, -, -, geometry, hgeometry, htiles⟩ :=
      tilesOf_of_binding (not_not.1 hrenderId) hpayload
    have hsegment := isSegment_of_tileGeometryIdentifier hgeometry
    simp only [payloadRendering, hgeometry, Except.toOption, Option.map_some,
      Option.some.injEq] at hrendering
    subst hrendering
    refine ⟨_, ?_, tileRendering_in hsegment (ne_of_tileGeometryIdentifier hgeometry) ?_⟩
    · simp only [outputRoot, hgeometry, Except.toOption, Option.map_some]
    · intro tile htile
      rw [(htiles tile htile).1]
      exact isSegment_tileIdentifier hsegment
  · cases hrendering
  · rename_i hnoPages hnoTiles _
    unfold payloadRendering at hrendering
    split at hrendering
    · exact (hnoPages _ _ _ _ _ rfl rfl).elim
    · exact (hnoTiles _ _ _ rfl rfl).elim
    · cases hrendering

/-- A publication of a rendering changes artifacts below its root only. -/
theorem PublicationOf.within {rendering : Rendering} {root : Path} {outcome : PublishOutcome Unit}
    (h : PublicationOf context rendering root s outcome) {path : Path} (hpath : path.IsArtifact)
    (hchanged : outcome.2.files.lookup path ≠ s.files.lookup path) : path.Within root := by
  by_contra hnot
  refine hchanged ?_
  cases h with
  | refused hrefused =>
      rcases hrefused with hfiles | hclears
      · rw [hfiles]
      · exact hclears.others path hpath hnot
  | stored hfiles _ => rw [hfiles]
  | delivered hdelivered => exact hdelivered.others path hpath hnot

/-- A publication of a rendering adds nothing, or delivers it. -/
theorem PublicationOf.exact {rendering : Rendering} {root : Path} {outcome : PublishOutcome Unit}
    (h : PublicationOf context rendering root s outcome) :
    AddsNothing s outcome.2 ∨ Delivered context rendering root s outcome.2 := by
  cases h with
  | refused hrefused =>
      refine .inl fun path hpath hmem => ?_
      rcases hrefused with hfiles | hclears
      · rw [hfiles]
      · by_cases hwithin : path.Within root
        · exact absurd hmem (hclears.cleared path hpath hwithin)
        · exact hclears.others path hpath hwithin
  | stored hfiles _ => exact .inl fun path _ _ => by rw [hfiles]
  | delivered hdelivered => exact .inr hdelivered

/-- What is done with the outputs of a success that is bound. -/
theorem publishOutputs_cases {requestId : ℕ} {faults : ExecuteFaults} (htree : s.IsTree)
    (hbinding : validateResultBinding context.readPages context.env.sha256 context.settings command
      (.success requestId payload) sourceSha256 staged = .ok ()) :
    (payloadRendering context command payload = none ∧
        (context.publishOutputs job s caller command payload faults.resolved faults.publish).2 = s) ∨
      ∃ rendering root, Lists context command (.ok sourceSha256) (.ok (.success requestId payload))
          rendering root ∧
        PublicationOf context rendering root s
          (context.publishOutputs job s caller command payload faults.resolved faults.publish) := by
  have hlists {rendering : Rendering}
      (hrendering : payloadRendering context command payload = some rendering)
      (hpublication : ∀ root, rendering.In root → PublicationOf context rendering root s
        (context.publishOutputs job s caller command payload faults.resolved faults.publish)) :
      ∃ rendering root, Lists context command (.ok sourceSha256) (.ok (.success requestId payload))
          rendering root ∧ PublicationOf context rendering root s
        (context.publishOutputs job s caller command payload faults.resolved faults.publish) := by
    obtain ⟨root, hroot, hin⟩ := in_of_binding hbinding hrendering
    exact ⟨rendering, root, ⟨requestId, payload, sourceSha256, rfl, rfl, hrendering, hroot⟩,
      hpublication root hin⟩
  have hoperation : payload.operation = command.operation := by
    unfold validateResultBinding at hbinding
    split_ifs at hbinding with hid hoperation
    exact not_not.1 hoperation
  cases payload with
  | inspect | manifest =>
      refine .inl ⟨by cases command <;> rfl, ?_⟩
      cases command <;> rfl
  | renderPages rendered =>
      cases command with
      | inspect | renderTiles | manifest => cases hoperation
      | renderPages =>
          refine .inr (hlists rfl fun root hin => ?_)
          show PublicationOf context _ root s (context.publishPageRender job s caller rendered
            faults.resolved faults.publish)
          unfold PublishContext.publishPageRender
          split
          · exact .refused (.inl rfl)
          · exact publicationOf_publishRendering hin htree.rooted
  | renderTiles rendered =>
      cases command with
      | inspect | renderPages | manifest => cases hoperation
      | renderTiles commandId parameters =>
          cases hgeometry : tileGeometryIdentifier (expectedWidth context.settings parameters)
              (expectedHeight context.settings parameters)
              (expectedOverlap context.settings parameters) with
          | error error =>
              have hnone : payloadRendering context (.renderTiles commandId parameters)
                  (.renderTiles rendered) = none := by
                simp only [payloadRendering, hgeometry, Except.toOption, Option.map_none]
              refine .inl ⟨hnone, ?_⟩
              show (context.publishTileRender job s caller parameters rendered faults.resolved
                faults.publish).2 = s
              unfold PublishContext.publishTileRender
              rw [hgeometry]
              split <;> rfl
          | ok geometry =>
              have hsome : payloadRendering context (.renderTiles commandId parameters)
                  (.renderTiles rendered) =
                    some (context.tileRendering parameters geometry rendered) := by
                simp only [payloadRendering, hgeometry, Except.toOption, Option.map_some]
              refine .inr (hlists hsome fun root hin => ?_)
              show PublicationOf context _ root s (context.publishTileRender job s caller parameters
                rendered faults.resolved faults.publish)
              unfold PublishContext.publishTileRender
              rw [hgeometry]
              split
              · exact .refused (.inl rfl)
              · exact publicationOf_publishRendering hin htree.rooted

/-- What `_validate_and_publish` comes to. -/
theorem validateAndPublish_cases {result : PdfResult} {faults : ExecuteFaults} (htree : s.IsTree) :
    ((context.validateAndPublish job s caller command result sourceSha256 faults).2 = s ∧
        ((context.validateAndPublish job s caller command result sourceSha256 faults).1 = .ok () →
          ∀ requestId payload, result = .success requestId payload →
            payloadRendering context command payload = none)) ∨
      ∃ rendering root, Lists context command (.ok sourceSha256) (.ok result) rendering root ∧
        PublicationOf context rendering root s
          (context.validateAndPublish job s caller command result sourceSha256 faults) := by
  unfold PublishContext.validateAndPublish
  split
  · exact .inl ⟨rfl, nofun⟩
  · rename_i hbinding
    cases result with
    | failure => exact .inl ⟨rfl, fun _ _ _ => nofun⟩
    | success requestId payload =>
        rcases @publishOutputs_cases context job s caller command payload sourceSha256 _
          requestId faults htree hbinding with ⟨hnone, hsame⟩ | hpublished
        · refine .inl ⟨hsame, fun _ requestId' payload' heq => ?_⟩
          cases heq
          exact hnone
        · exact .inr hpublished

/-- An execution that raises without touching the store. -/
theorem confined_of_error {staging : Except WorkerError (Option String)}
    {reply : Except WorkerError PdfResult} {error : PublishError} :
    Confined context command staging reply s (.error error, s) where
  below _ _ hchanged := absurd rfl hchanged
  exact := .inl fun _ _ _ => rfl
  returned _ h := nomatch h

/-- Raising after the publication changes nothing more. -/
theorem Confined.raise {staging : Except WorkerError (Option String)}
    {reply : Except WorkerError PdfResult} {error : PublishError} {outcome : PublishOutcome PdfResult}
    (h : Confined context command staging reply s outcome) :
    Confined context command staging reply s (.error error, outcome.2) where
  below := h.below
  exact := h.exact
  returned _ h := nomatch h

/-- Returning the result after `_validate_and_publish` has returned. -/
theorem confined_of_published {result : PdfResult} {faults : ExecuteFaults} (htree : s.IsTree)
    (hok : (context.validateAndPublish job s caller command result sourceSha256 faults).1 = .ok ()) :
    Confined context command (.ok sourceSha256) (.ok result) s (.ok result,
      (context.validateAndPublish job s caller command result sourceSha256 faults).2) := by
  rcases validateAndPublish_cases htree with ⟨hsame, hnone⟩ | ⟨rendering, root, hlists, hpublished⟩
  · rw [hsame]
    refine ⟨fun _ _ hchanged => absurd rfl hchanged, .inl fun _ _ _ => rfl, fun _ heq => ?_⟩
    cases heq
    exact ⟨rfl, fun requestId payload heq => .inl ⟨hnone hok requestId payload heq, rfl⟩⟩
  · refine ⟨fun path hpath hchanged => ⟨rendering, root, hlists, hpublished.within hpath hchanged⟩,
      hpublished.exact.imp_right fun hdelivered => ⟨rendering, root, hlists, hdelivered⟩,
      fun _ heq => ?_⟩
    cases heq
    refine ⟨rfl, fun requestId payload _ => .inr ⟨rendering, root, hlists, ?_⟩⟩
    generalize context.validateAndPublish job s caller command result sourceSha256 faults = outcome
      at hok hpublished
    cases hpublished with
    | refused _ => cases hok
    | stored hfiles halready => exact .inl ⟨hfiles, halready⟩
    | delivered hdelivered => exact .inr hdelivered

/-- Raising what `_validate_and_publish` raised. -/
theorem confined_of_refused {result : PdfResult} {faults : ExecuteFaults} {error : PublishError}
    (htree : s.IsTree) :
    Confined context command (.ok sourceSha256) (.ok result) s (.error error,
      (context.validateAndPublish job s caller command result sourceSha256 faults).2) := by
  rcases validateAndPublish_cases htree with ⟨hsame, -⟩ | ⟨rendering, root, hlists, hpublished⟩
  · rw [hsame]
    exact confined_of_error
  · exact ⟨fun path hpath hchanged => ⟨rendering, root, hlists, hpublished.within hpath hchanged⟩,
      hpublished.exact.imp_right fun hdelivered => ⟨rendering, root, hlists, hdelivered⟩, nofun⟩

end

/-- **Worker confinement.** Whatever the worker replies and leaves in its job directory, an
execution changes artifacts only below the directory of its command, publishes exactly the listed
outputs and their manifest or nothing, and returns a result only if the store has its outputs. -/
theorem worker_confined (context : PublishContext) (job : JobDirectory) (s : Store)
    (caller : Context) (command : PdfCommand) (staging : Except WorkerError (Option String))
    (reply : Except WorkerError PdfResult) (returncode : ℤ) (faults : ExecuteFaults)
    (htree : s.IsTree) :
    Confined context command staging reply s
      (context.executeWithPermit job s caller command staging reply returncode faults) := by
  have hcleanup {outcome : PublishOutcome PdfResult}
      (h : Confined context command staging reply s outcome) :
      Confined context command staging reply s (if faults.cleanup then (outcome.1, outcome.2)
        else (.error (.worker (.operational "PDF worker job cleanup failed")), outcome.2)) := by
    split
    · exact h
    · exact h.raise
  refine hcleanup ?_
  cases staging with
  | error error => exact confined_of_error
  | ok sourceSha256 =>
      cases reply with
      | error error => exact confined_of_error
      | ok result =>
          dsimp only
          split
          · exact confined_of_error
          · have hpublished := @confined_of_published context job s caller command sourceSha256
              result faults htree
            have hrefused (error : PublishError) := @confined_of_refused context job s caller
              command sourceSha256 result faults error htree
            split <;> rename_i heq <;> rw [heq] at hpublished hrefused
            · exact hrefused _
            · split
              · exact hrefused _
              · exact hpublished rfl

/-! ## A page that is delivered -/

/-- The page of the examples, at its path. -/
def storedPage : RenderedPageOutput :=
  { thousandPage with
    relativePath := "renders/" ++ zeroRender ++ "/page-0001.jpg"
    relativePath_safe := by decide +kernel }

/-- Its manifest. -/
def storedManifest : RenderPagesOutput :=
  { thousandManifest with
    pages := [storedPage]
    pages_length := by decide }

/-- The manifest as it is written. -/
def storedManifestJson : Bytes :=
  ascii "\x7b\"manifest_schema_version\":\"1.0.0\",\"render_pipeline_version\":\"1.0.0\"," ++
  ascii "\"classification_algorithm_version\":\"1.0.0\",\"tile_pipeline_version\":\"1.0.0\"," ++
  ascii "\"render_id\":\"" ++ ascii zeroRender ++ ascii "\",\"source_sha256\":\"" ++
  ascii zeroDigest ++ ascii "\",\"renderer_version\":\"r1\",\"mode\":\"native\",\"pages\":[" ++
  ascii "\x7b\"page_number\":1,\"width\":1000,\"height\":1000,\"rotation\":0," ++
  ascii "\"classification\":\"vector\",\"effective_dpi_x\":400.0,\"effective_dpi_y\":400.0," ++
  ascii "\"resolution_source\":\"fallback\",\"conversion_path\":\"render\"," ++
  ascii "\"relative_path\":\"renders/" ++ ascii zeroRender ++ ascii "/page-0001.jpg\"," ++
  ascii "\"sha256\":\"" ++ ascii zeroDigest ++
  ascii "\",\"media_type\":\"image/jpeg\",\"resize_applied\":false," ++
  ascii "\"pixel_dimensions_preserved\":true,\"renderer_resampling\":\"none\"," ++
  ascii "\"reencoded\":true,\"lossy_conversion\":true\x7d],\"manifest_relative_path\":\"" ++
  ascii "renders/" ++ ascii zeroRender ++ ascii "/manifest.json\"\x7d"

/-- A parent that reads that manifest, and takes the page for an image of its size. -/
def pageContext : PublishContext where
  env := ⟨fun _ => zeroDigest⟩
  readPages data := if data = storedManifestJson then some storedManifest else none
  readTiles _ := none
  readImage _ := some ⟨true, 1000, 1000, true⟩
  settings := .standard
  fileSizeBytes := 1048576
  expiry _ _ _ := false

/-- The job directory of a worker that rendered the page. -/
def pageJob : JobDirectory where
  opens := true
  file path :=
    if path = storedPage.relativePath then .content (ascii "page") else .content storedManifestJson
  stable _ := true
  walk _ := .paths [storedPage.relativePath, storedManifest.manifestRelativePath]

/-- The command that asks for the page. -/
def pageCommand : PdfCommand :=
  .renderPages 0 "document.pdf" ⟨[1], by decide, by decide⟩ (by decide)

/-- The worker's report of the page. -/
def pageReply : PdfResult := .success 0 (.renderPages storedManifest)

/-- The page is delivered into an empty store. -/
theorem worker_confined_page :
    (pageContext.executeWithPermit pageJob (Store.empty 4096 none) 0 pageCommand
      (.ok (some zeroDigest)) (.ok pageReply) 0 {}).1.isOk = true ∧
    Confined pageContext pageCommand (.ok (some zeroDigest)) (.ok pageReply) (Store.empty 4096 none)
      (pageContext.executeWithPermit pageJob (Store.empty 4096 none) 0 pageCommand
        (.ok (some zeroDigest)) (.ok pageReply) 0 {}) :=
  ⟨by decide +kernel,
    worker_confined _ _ _ _ _ _ _ _ _ fun _ hmem => absurd hmem Finmap.notMem_empty⟩

end NplgMcp.Pdf
