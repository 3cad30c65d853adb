import NplgMcp.Pdf.Binding
import NplgMcp.Storage.Transaction
import Mathlib.Data.List.Sort

/-!
# What the parent publishes of a worker

`_validate_and_publish` of `pdf_worker_client.py`, from the reply of the worker and the files it left
to the render transaction they are published in. The job directory is whatever the worker made of
it. When the deadline passes, how far a write comes and what a commit meets are arguments; the
transaction's own calls on the operating system succeed.
-/

namespace NplgMcp.Pdf

/-! ## What the worker left -/

/-- What `_validated_descriptor` and the reads after it find at a path of the job's cache. -/
inductive OutputFile where
  | invalidPath
  | notRegular
  | unreadable
  | content (data : Bytes)

/-- What `os.walk` finds below a directory of the job's cache. -/
inductive OutputWalk where
  | symlink
  | specialFile
  | paths (found : List String)

/-- An image that Pillow opens: whether its format is JPEG, its size, and whether `verify` and `load`
accept it. -/
structure OutputImage where
  isJpeg : Bool
  width : ℕ
  height : ℕ
  intact : Bool

/-- The job directory as the worker left it. -/
structure JobDirectory where
  /-- the cache directory can be opened -/
  opens : Bool
  file : String → OutputFile
  /-- the two `fstat` fingerprints of a file agree -/
  stable : String → Bool
  walk : String → OutputWalk

/-- Whether the deadline is found to have passed: in a phase, for a path, at one of its checks. -/
abbrev Expiry := String → String → ℕ → Bool

/-- What the parent's code raises during the publication. -/
inductive PublishError where
  | worker (error : WorkerError)
  | store (error : StoreError)
  deriving DecidableEq, Repr

/-- `_require_deadline` of a deadline that has passed. -/
def deadlineExpired (phase : String) : WorkerError :=
  .operational ("PDF worker deadline expired during " ++ phase)

/-- A file that the worker's result lists: its path, the name the path must end in, the digest and
the dimensions. -/
structure ListedFile where
  relativePath : String
  name : String
  sha256 : String
  width : ℕ
  height : ℕ

/-- What the publications of pages and of tiles differ in. -/
structure Rendering where
  root : String
  files : List ListedFile
  manifestRelativePath : String
  /-- what the errors call the manifest and the files -/
  manifestKind : String
  fileKind : String
  /-- `model_validate_json` of the result's model, compared with the result -/
  reads : Bytes → Option Bool

/-- The paths of the outputs, as `expected` has them. -/
def Rendering.expected (rendering : Rendering) : List String :=
  (rendering.manifestRelativePath :: rendering.files.map (·.relativePath)).dedup

/-- What validation and publication share: the third-party readers, the limits and the clock. -/
structure PublishContext where
  env : Encoding
  readPages : Bytes → Option RenderPagesOutput
  readTiles : Bytes → Option RenderTilesOutput
  readImage : Bytes → Option OutputImage
  settings : PdfProcessorSettings
  fileSizeBytes : ℕ
  expiry : Expiry

namespace PublishContext

variable (context : PublishContext) (job : JobDirectory)

/-! ## Validation -/

/-- `_validated_descriptor`, and whether the file it opens can be read. -/
def validatedDescriptor (relativePath : String) : Except WorkerError (Option Bytes) :=
  if !job.opens then .error .osError
  else match job.file relativePath with
    | .invalidPath => .error (.rejected "PDF worker output path is invalid")
    | .notRegular => .error (.rejected "PDF worker output is not a regular file")
    | .unreadable => .ok none
    | .content data => .ok (some data)

/-- `_validate_image_dimensions`. -/
def validateImageDimensions (width height : ℕ) : Except WorkerError Unit :=
  if width * height > context.settings.maxPagePixels then
    .error (.rejected "PDF worker image exceeded the page pixel limit")
  else .ok ()

/-- The image that is opened, verified and loaded in `_validate_output_file`. -/
def validateImage (listed : ListedFile) (data : Bytes) : Except WorkerError Unit :=
  match context.readImage data with
  | none => .error (.rejected "PDF worker image body is invalid")
  | some image => do
    context.validateImageDimensions image.width image.height
    if !image.isJpeg ∨ (image.width, image.height) ≠ (listed.width, listed.height) then
      throw (.rejected "PDF worker image dimensions are invalid")
    if !image.intact then throw (.rejected "PDF worker image body is invalid")

/-- The checks of `_validate_output_file` once the file is open. -/
def validateOutputData (listed : ListedFile) : Option Bytes → Except WorkerError Unit
  | none => .error (.rejected "PDF worker image body is invalid")
  | some data =>
    if context.expiry "output validation" listed.relativePath 1 then
      .error (deadlineExpired "output validation")
    else if data.length > context.fileSizeBytes then
      .error (.rejected "PDF worker output exceeded its file-size limit")
    else if context.env.sha256 data ≠ listed.sha256 ∨ !job.stable listed.relativePath then
      .error (.rejected "PDF worker output failed identity or digest validation")
    else if context.expiry "output validation" listed.relativePath 2 then
      .error (deadlineExpired "output validation")
    else context.validateImage listed data

/-- `_validate_output_file`. -/
def validateOutputFile (listed : ListedFile) : Except WorkerError Unit :=
  if context.expiry "output validation" listed.relativePath 0 then
    .error (deadlineExpired "output validation")
  else do
    context.validateImageDimensions listed.width listed.height
    let contents ← validatedDescriptor job listed.relativePath
    context.validateOutputData job listed contents

/-- The loop over the listed files. -/
def validateFiles (rendering : Rendering) : List ListedFile → Except WorkerError Unit
  | [] => .ok ()
  | listed :: rest =>
    if listed.relativePath ≠ rendering.root ++ "/" ++ listed.name then
      .error (.rejected
        ("PDF worker returned an unexpected " ++ rendering.fileKind ++ " path"))
    else match context.validateOutputFile job listed with
      | .error error => .error error
      | .ok _ => validateFiles rendering rest

/-- The checks of `_validate_manifest_file` once the file is open. -/
def validateManifestData (rendering : Rendering) : Option Bytes → Except WorkerError String
  | none => .error .osError
  | some data =>
    if context.expiry "manifest validation" rendering.manifestRelativePath 1 then
      .error (deadlineExpired "manifest validation")
    else if data.length > maxResultFrameBytes then
      .error (.rejected "PDF worker manifest exceeded its limit")
    else match rendering.reads data with
      | none => .error (.rejected "PDF worker manifest is invalid")
      | some false => .error (.rejected "PDF worker manifest does not match its result")
      | some true => .ok (context.env.sha256 data)

/-- `_validate_manifest_file`. -/
def validateManifestFile (rendering : Rendering) : Except WorkerError String :=
  if context.expiry "manifest validation" rendering.manifestRelativePath 0 then
    .error (deadlineExpired "manifest validation")
  else do
    let contents ← validatedDescriptor job rendering.manifestRelativePath
    context.validateManifestData rendering contents

/-- `_require_exact_output_set`. -/
def requireExactOutputSet (rendering : Rendering) : Except WorkerError Unit :=
  if context.expiry "output inventory" rendering.root 0 then
    .error (deadlineExpired "output inventory")
  else match job.walk rendering.root with
    | .symlink => .error (.rejected "PDF worker output contains a symlink")
    | .specialFile => .error (.rejected "PDF worker output contains a special file")
    | .paths found =>
      if context.expiry "output inventory" rendering.root 1 then
        .error (deadlineExpired "output inventory")
      else if found ⊆ rendering.expected ∧ rendering.expected ⊆ found then .ok ()
      else .error (.rejected "PDF worker returned unexpected or missing output paths")

/-- Everything that is checked before the transaction begins; the value is `expected_digests`, the
newest entry first. -/
def validateRendering (rendering : Rendering) : Except WorkerError (List (String × String)) :=
  if rendering.manifestRelativePath ≠ rendering.root ++ "/manifest.json" then
    .error (.rejected
      ("PDF worker returned an unexpected " ++ rendering.manifestKind ++ " manifest path"))
  else do
    context.validateFiles job rendering rendering.files
    let digest ← context.validateManifestFile job rendering
    context.requireExactOutputSet job rendering
    return (rendering.manifestRelativePath, digest) ::
      (rendering.files.map fun listed => (listed.relativePath, listed.sha256)).reverse

end PublishContext

/-! ## The store's side -/

/-- The path that a relative path of `renders/` names. -/
def renderPath (relativePath : String) : Option Path :=
  match relativePath.toList.splitOn '/' with
  | top :: name :: parts =>
    if top = "renders".toList then some ⟨⟨.renders, String.ofList name⟩, parts.map String.ofList⟩
    else none
  | _ => none

/-- The pieces that `os.read` gives of a file; there are at most as many as it has bytes. -/
def readChunks (size : ℕ) : ℕ → Bytes → List Bytes
  | 0, _ => []
  | bound + 1, data =>
    if data = [] then [] else data.take size :: readChunks size bound (data.drop size)

/-- What the operating system answers while one file is published. -/
structure PublishFaults where
  root : Bool := true
  opened : Bool := true
  /-- what the stream does with the chunk of a number; by default it takes all of it -/
  writes : ℕ → Option Store.WriteOutcome := fun _ => none
  commit : CommitFaults := {}
  unlinkStaged : Bool := true

/-- What an operation returns or raises, with the store it leaves. -/
abbrev PublishOutcome (α : Type) := Except PublishError α × Store

/-- The outcome of a call on the store, as the publication passes it on. -/
def ofStore {α : Type} (outcome : Outcome α) : PublishOutcome α :=
  (outcome.1.mapError .store, outcome.2)

/-- `begin_render_transaction` of a relative subtree. -/
def beginRenderTransaction (s : Store) (caller : Context) (relativeRoot : String) :
    Outcome Token :=
  match renderPath relativeRoot with
  | none => (.error .invalidSubtree, s)
  | some subtree => s.beginRenderTransaction caller subtree "manifest.json"

namespace PublishContext

variable (context : PublishContext) (job : JobDirectory)

/-- The loop over the chunks of a file; the number counts those that are written. -/
def writeChunks (s : Store) (staged : StagedPath) (caller : Context) (relativePath : String)
    (faults : PublishFaults) : ℕ → List Bytes → PublishOutcome Unit
  | _, [] => (.ok (), s)
  | number, chunk :: rest =>
    if context.expiry "output publication" relativePath (number + 3) then
      (.error (.worker (deadlineExpired "output publication")), s)
    else match s.startWrite staged caller faults.root chunk with
      | (.error error, s) => (.error (.store error), s)
      | (.ok _, s) =>
        match s.finishWrite staged ((faults.writes number).getD (.returned chunk.length)) with
        | (.error error, s) => (.error (.store error), s)
        | (.ok written, s) =>
          if written ≠ chunk.length then
            (.error (.worker (.rejected "PDF worker output publication was incomplete")), s)
          else writeChunks s staged caller relativePath faults (number + 1) rest

/-- What `_publish_one` does with the staged file it has made. -/
def publishStaged (s : Store) (staged : StagedPath) (caller : Context) (relativePath : String)
    (contents : Option Bytes) (expectedSha256 : String) (faults : PublishFaults) :
    PublishOutcome Unit :=
  if context.expiry "output publication" relativePath 1 then
    (.error (.worker (deadlineExpired "output publication")), s)
  else match contents with
    | none => (.error (.worker .osError), s)
    | some data =>
      match context.writeChunks s staged caller relativePath faults 0
          (readChunks 1048576 data.length data) with
      | (.error error, s) => (.error error, s)
      | (.ok _, s) =>
        if context.env.sha256 data ≠ expectedSha256 then
          (.error (.worker (.rejected "PDF worker output publication digest mismatch")), s)
        else if context.expiry "output publication" relativePath 2 then
          (.error (.worker (deadlineExpired "output publication")), s)
        else match renderPath relativePath with
          | none => (.error (.store .invalidRenderPath), s.closeWriter staged)
          | some destination =>
            ofStore (s.commitRender context.env staged caller destination faults.commit)

/-- `_publish_one`: leaving the `with` block discards what is still staged. -/
def publishOne (s : Store) (token : Token) (caller : Context) (relativePath : String)
    (expectedSha256 : String) (faults : PublishFaults) : PublishOutcome Unit :=
  if context.expiry "output publication" relativePath 0 then
    (.error (.worker (deadlineExpired "output publication")), s)
  else match validatedDescriptor job relativePath with
    | .error error => (.error (.worker error), s)
    | .ok contents =>
      match s.stage (some token) caller faults.root faults.opened with
      | (.error error, s) => (.error (.store error), s)
      | (.ok staged, s) =>
        match context.publishStaged s staged caller relativePath contents expectedSha256 faults with
        | (outcome, s) =>
          match s.discard staged caller faults.root faults.unlinkStaged with
          | (.error error, s) => (.error (.store error), s)
          | (.ok _, s) => (outcome, s)

/-- The loop over the paths that are published. A path without a digest is a `KeyError`, which
cannot happen: every expected path has one. -/
def publishAll (s : Store) (token : Token) (caller : Context) (digests : List (String × String))
    (faults : String → PublishFaults) : List String → PublishOutcome Unit
  | [] => (.ok (), s)
  | relativePath :: rest =>
    match context.publishOne job s token caller relativePath
        ((digests.lookup relativePath).getD "") (faults relativePath) with
    | (.error error, s) => (.error error, s)
    | (.ok _, s) => publishAll s token caller digests faults rest

/-- `_authoritative_matches`; `resolved` says that `resolve_asset` accepts the file it finds. -/
def authoritativeMatches (s : Store) (resolved : String → Bool) :
    List String → Except WorkerError Bool
  | [] => .ok true
  | relativePath :: rest =>
    if context.expiry "authoritative comparison" relativePath 0 then
      .error (deadlineExpired "authoritative comparison")
    else match (renderPath relativePath).bind s.files.lookup, job.file relativePath with
      | some contents, .content data =>
        if !resolved relativePath then .ok false
        else if context.expiry "authoritative comparison" relativePath 1 then
          .error (deadlineExpired "authoritative comparison")
        else if context.env.sha256 contents ≠ context.env.sha256 data then .ok false
        else authoritativeMatches s resolved rest
      | _, _ => .ok false

/-- The paths in the order they are published in: the manifest comes last. -/
def publicationOrder (rendering : Rendering) : List String :=
  (rendering.expected.filter (· ≠ rendering.manifestRelativePath)).insertionSort (· ≤ ·) ++
    [rendering.manifestRelativePath]

/-- The files are published one after another, and the transaction is committed. -/
def publishAndCommit (s : Store) (token : Token) (caller : Context) (rendering : Rendering)
    (digests : List (String × String)) (faults : String → PublishFaults) : PublishOutcome Unit :=
  match context.publishAll job s token caller digests faults (publicationOrder rendering) with
  | (.error error, s) => (.error error, s)
  | (.ok _, s) => ofStore (s.commitTransaction token caller)

/-- The `try` block of the publication. -/
def publishInTransaction (s : Store) (token : Token) (caller : Context) (rendering : Rendering)
    (digests : List (String × String)) (resolved : String → Bool)
    (faults : String → PublishFaults) : PublishOutcome Unit :=
  if (s.transactions.lookup token).any (·.complete) then
    match context.authoritativeMatches job s resolved rendering.expected with
    | .error error => (.error (.worker error), s)
    | .ok true => ofStore (s.commitTransaction token caller)
    | .ok false =>
      match s.resetRenderTransaction token caller true {} with
      | (.error error, s) => (.error (.store error), s)
      | (.ok _, s) => context.publishAndCommit job s token caller rendering digests faults
  else context.publishAndCommit job s token caller rendering digests faults

/-- What `_publish_page_render` and `_publish_tile_render` share. -/
def publishRendering (s : Store) (caller : Context) (rendering : Rendering)
    (resolved : String → Bool) (faults : String → PublishFaults) : PublishOutcome Unit :=
  match context.validateRendering job rendering with
  | .error error => (.error (.worker error), s)
  | .ok digests =>
    match beginRenderTransaction s caller rendering.root with
    | (.error error, s) => (.error (.store error), s)
    | (.ok token, s) =>
      match context.publishInTransaction job s token caller rendering digests resolved faults with
      | (outcome, s) =>
        match s.rollbackTransaction token caller with
        | (.error error, s) => (.error (.store error), s)
        | (.ok _, s) => (outcome, s)

/-- What `_publish_page_render` publishes. -/
def pageRendering (rendered : RenderPagesOutput) : Rendering where
  root := "renders/" ++ rendered.renderId
  files := rendered.pages.map fun page =>
    { relativePath := page.relativePath
      name := "page-" ++ padded 4 page.pageNumber ++ ".jpg"
      sha256 := page.sha256
      width := page.width
      height := page.height }
  manifestRelativePath := rendered.manifestRelativePath
  manifestKind := "render"
  fileKind := "page"
  reads data := (context.readPages data).map fun actual => decide (actual = rendered)

/-- `_publish_page_render`. -/
def publishPageRender (s : Store) (caller : Context) (rendered : RenderPagesOutput)
    (resolved : String → Bool) (faults : String → PublishFaults) : PublishOutcome Unit :=
  if context.expiry "output validation" "" 0 then
    (.error (.worker (deadlineExpired "output validation")), s)
  else context.publishRendering job s caller (context.pageRendering rendered) resolved faults

/-- What `_publish_tile_render` publishes: the root is that of the command. -/
def tileRendering (parameters : RenderTilesParams) (geometry : String)
    (rendered : RenderTilesOutput) : Rendering where
  root := "renders/" ++ parameters.renderId ++ "/tiles/page-" ++ padded 4 parameters.pageNumber ++
    "/" ++ geometry
  files := rendered.tiles.map fun tile =>
    { relativePath := tile.relativePath
      name := tile.tileId ++ ".jpg"
      sha256 := tile.sha256
      width := tile.width
      height := tile.height }
  manifestRelativePath := rendered.manifestRelativePath
  manifestKind := "tile"
  fileKind := "tile"
  reads data := (context.readTiles data).map fun actual => decide (actual = rendered)

/-- `_publish_tile_render`. -/
def publishTileRender (s : Store) (caller : Context) (parameters : RenderTilesParams)
    (rendered : RenderTilesOutput) (resolved : String → Bool) (faults : String → PublishFaults) :
    PublishOutcome Unit :=
  if context.expiry "output validation" "" 0 then
    (.error (.worker (deadlineExpired "output validation")), s)
  else match tileGeometryIdentifier (expectedWidth context.settings parameters)
      (expectedHeight context.settings parameters)
      (expectedOverlap context.settings parameters) with
    | .error error => (.error (.worker error), s)
    | .ok geometry =>
      context.publishRendering job s caller (context.tileRendering parameters geometry rendered)
        resolved faults

/-- `_publish_outputs`. -/
def publishOutputs (s : Store) (caller : Context) (command : PdfCommand) (payload : PdfPayload)
    (resolved : String → Bool) (faults : String → PublishFaults) : PublishOutcome Unit :=
  match command, payload with
  | _, .renderPages rendered => context.publishPageRender job s caller rendered resolved faults
  | .renderTiles _ parameters, .renderTiles rendered =>
    context.publishTileRender job s caller parameters rendered resolved faults
  | _, _ => (.ok (), s)

end PublishContext

/-! ## One execution -/

/-- What reading the staged manifest of a command's render meets. -/
def JobDirectory.stagedManifest (job : JobDirectory) (expired : Bool) (command : PdfCommand) :
    StagedFile :=
  if !job.opens then .osError
  else match command with
    | .renderTiles _ parameters =>
      match job.file ("renders/" ++ parameters.renderId ++ "/manifest.json") with
      | .invalidPath => .invalidPath
      | .notRegular => .notRegular
      | .unreadable => .osError
      | .content data => if expired then .expired else .content data
    | _ => .invalidPath

/-- What an execution meets besides its worker's outputs. -/
structure ExecuteFaults where
  /-- `resolve_asset` accepts the file it finds -/
  resolved : String → Bool := fun _ => true
  publish : String → PublishFaults := fun _ => {}
  /-- the job tree is removed -/
  cleanup : Bool := true

namespace PublishContext

variable (context : PublishContext) (job : JobDirectory)

/-- `_validate_and_publish`. -/
def validateAndPublish (s : Store) (caller : Context) (command : PdfCommand) (result : PdfResult)
    (expectedSourceSha256 : Option String) (faults : ExecuteFaults) : PublishOutcome Unit :=
  match validateResultBinding context.readPages context.env.sha256 context.settings command result
      expectedSourceSha256 (job.stagedManifest
        (context.expiry "tile source validation" "" 0) command) with
  | .error error => (.error (.worker error), s)
  | .ok _ =>
    match result with
    | .failure .. => (.ok (), s)
    | .success _ payload =>
      context.publishOutputs job s caller command payload faults.resolved faults.publish

/-- `_execute_with_permit` from the staged inputs on: `staging` is the digest of the source or what
`_stage_inputs` raised, and `reply` is what `_exchange` returned or raised. -/
def executeWithPermit (s : Store) (caller : Context) (command : PdfCommand)
    (staging : Except WorkerError (Option String)) (reply : Except WorkerError PdfResult)
    (returncode : ℤ) (faults : ExecuteFaults) : PublishOutcome PdfResult :=
  let (outcome, s) : PublishOutcome PdfResult :=
    match staging, reply with
    | .error error, _ => (.error (.worker error), s)
    | .ok _, .error error => (.error (.worker error), s)
    | .ok expectedSourceSha256, .ok result =>
      if returncode ≠ 0 then
        (.error (.worker (.operational "PDF worker exited unsuccessfully")), s)
      else match context.validateAndPublish job s caller command result expectedSourceSha256
          faults with
        | (.error error, s) => (.error error, s)
        | (.ok _, s) =>
          if context.expiry "result validation" "" 0 then
            (.error (.worker (deadlineExpired "result validation")), s)
          else (.ok result, s)
  if faults.cleanup then (outcome, s)
  else (.error (.worker (.operational "PDF worker job cleanup failed")), s)

end PublishContext

end NplgMcp.Pdf
