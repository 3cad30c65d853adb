import NplgMcp.Library.Run
import NplgMcp.Storage.Staging

/-!
# The persistent insertion order

`PersistentInsertionOrder` of `storage_lifecycle.py`: one sequence number for each artifact object,
held in a record inside the object's directory, and one high-water record at the store root that is
written before each allocation. A process keeps the next number and the numbers of its objects in
memory, and `initialize` reads both back after a restart. The digest of a record's canonical JSON is
the parameter `jsonDigest`.

`_write_private_record` replaces a file by a rename: a write that stops before it leaves the old
file, one that stops after it the new one (`WritePoint`), whether it raises or the process ends
there. `insertion_order_kept` is the statement about histories with any such stops and restarts.
-/

open Library

namespace NplgMcp

open Store (maxFilesystemCount)

/-! ## Records and files -/

/-- What the canonical JSON of a record says, its digest apart. -/
inductive InsertionPayload where
  | highWater (nextSequence : ℕ)
  | sequence (objectKey : ObjectKey) (sequence : ℕ)
  deriving DecidableEq, Repr

/-- `InsertionHighWaterRecord` as it stands in the file, before any validation. -/
structure InsertionHighWaterRecord where
  schemaVersion : String
  nextSequence : ℕ
  recordDigest : String
  deriving DecidableEq, Repr

/-- `InsertionSequenceRecord` as it stands in the file, before any validation. -/
structure InsertionSequenceRecord where
  schemaVersion : String
  objectKey : ObjectKey
  sequence : ℕ
  recordDigest : String
  deriving DecidableEq, Repr

/-- The range of `InsertionSequence`. -/
def isInsertionSequence (sequence : ℕ) : Bool := 1 ≤ sequence && sequence ≤ maxFilesystemCount

/-- What stands at a state path: nothing, something `_read_private_record` refuses, or the fields of
a record. -/
inductive StateFile (α : Type) where
  | missing
  | damaged
  | record (record : α)
  deriving DecidableEq, Repr

/-- `path.exists()` is false. -/
def StateFile.isMissing {α : Type} : StateFile α → Bool
  | .missing => true
  | .damaged | .record _ => false

/-- What the functions of the class raise. -/
inductive InsertionError where
  | invalidRecord
  | objectPath
  | exhausted
  | damagedState
  | invalidSequence
  | notBelowHighWater
  | notUnique
  | notCanonical
  | duplicateKeys
  | missingHighWater
  | invalidHighWater
  | os
  deriving DecidableEq, Repr

/-- The messages of the source; a record that does not validate and a failing system call bring
their own. -/
def InsertionError.message : InsertionError → Option String
  | .invalidRecord | .os => none
  | .objectPath => "insertion-order object path does not match its key"
  | .exhausted => "insertion-order sequence space is exhausted"
  | .damagedState => "insertion-order state is not a safe regular file"
  | .invalidSequence => "artifact insertion sequence state is invalid"
  | .notBelowHighWater => "artifact insertion sequence is not bound below high-water"
  | .notUnique => "artifact insertion sequences must be unique"
  | .notCanonical => "insertion-order bootstrap objects must be canonical"
  | .duplicateKeys => "insertion-order bootstrap contains duplicate object keys"
  | .missingHighWater => "insertion high-water state is missing"
  | .invalidHighWater => "insertion high-water state is invalid"

/-- A call does not return: it raises, or the process ends in it. -/
inductive Stop where
  | raised (error : InsertionError)
  | crashed
  deriving DecidableEq, Repr

/-- The system calls of `_write_private_record`, in their order. -/
inductive WritePoint where
  | openTemporary
  | write
  | sync
  | replace
  | syncDirectory
  | unlinkTemporary
  deriving DecidableEq, Repr

/-- The call comes after the rename. -/
def WritePoint.renamed : WritePoint → Bool
  | .openTemporary | .write | .sync | .replace => false
  | .syncDirectory | .unlinkTemporary => true

/-- How a write of a record ends: it returns, a call of it raises, or the process ends before a
call. -/
inductive WriteEnd where
  | returned
  | raised (point : WritePoint)
  | crashed (point : WritePoint)
  deriving DecidableEq, Repr

/-- The new record stands at the path. -/
def WriteEnd.renamed : WriteEnd → Bool
  | .returned => true
  | .raised point | .crashed point => point.renamed

/-- What the caller of the write sees. -/
def WriteEnd.result : WriteEnd → Except Stop Unit
  | .returned => .ok ()
  | .raised _ => .error (.raised .os)
  | .crashed _ => .error .crashed

/-- `_write_private_record`: what stands at the path afterwards. -/
def WriteEnd.file {α : Type} (ends : WriteEnd) (file : StateFile α) (record : α) : StateFile α :=
  if ends.renamed then .record record else file

/-- The store root as the class sees it, with the two attributes of the running process. -/
structure InsertionOrder where
  highWater : StateFile InsertionHighWaterRecord
  directories : Finset ObjectKey
  records : ObjectKey → StateFile InsertionSequenceRecord
  nextSequence : ℕ
  sequences : Dict ObjectKey ℕ

section
variable (jsonDigest : InsertionPayload → String)

/-- The validators of `InsertionHighWaterRecord`. -/
structure InsertionHighWaterRecord.Valid (record : InsertionHighWaterRecord) : Prop where
  schema : record.schemaVersion = "1.0"
  next : isInsertionSequence record.nextSequence = true
  digest : record.recordDigest = jsonDigest (.highWater record.nextSequence)

instance InsertionHighWaterRecord.decidableValid (record : InsertionHighWaterRecord) :
    Decidable (record.Valid jsonDigest) :=
  decidable_of_iff (record.schemaVersion = "1.0" ∧ isInsertionSequence record.nextSequence = true ∧
      record.recordDigest = jsonDigest (.highWater record.nextSequence))
    ⟨fun ⟨h1, h2, h3⟩ => ⟨h1, h2, h3⟩, fun ⟨h1, h2, h3⟩ => ⟨h1, h2, h3⟩⟩

/-- The validators of `InsertionSequenceRecord`. -/
structure InsertionSequenceRecord.Valid (record : InsertionSequenceRecord) : Prop where
  schema : record.schemaVersion = "1.0"
  key : record.objectKey.isInsertionKey = true
  sequence : isInsertionSequence record.sequence = true
  digest : record.recordDigest = jsonDigest (.sequence record.objectKey record.sequence)

instance InsertionSequenceRecord.decidableValid (record : InsertionSequenceRecord) :
    Decidable (record.Valid jsonDigest) :=
  decidable_of_iff (record.schemaVersion = "1.0" ∧ record.objectKey.isInsertionKey = true ∧
      isInsertionSequence record.sequence = true ∧
      record.recordDigest = jsonDigest (.sequence record.objectKey record.sequence))
    ⟨fun ⟨h1, h2, h3, h4⟩ => ⟨h1, h2, h3, h4⟩, fun ⟨h1, h2, h3, h4⟩ => ⟨h1, h2, h3, h4⟩⟩

/-- `InsertionHighWaterRecord.build`: the constructor validates, `none` is its `ValidationError`. -/
def InsertionHighWaterRecord.build (nextSequence : ℕ) : Option InsertionHighWaterRecord :=
  if isInsertionSequence nextSequence then
    some ⟨"1.0", nextSequence, jsonDigest (.highWater nextSequence)⟩
  else none

/-- `InsertionSequenceRecord.build`. -/
def InsertionSequenceRecord.build (objectKey : ObjectKey) (sequence : ℕ) :
    Option InsertionSequenceRecord :=
  if objectKey.isInsertionKey && isInsertionSequence sequence then
    some ⟨"1.0", objectKey, sequence, jsonDigest (.sequence objectKey sequence)⟩
  else none

end

namespace InsertionOrder

variable (jsonDigest : InsertionPayload → String)

/-! ## The class -/

/-- `__init__` over a store root. -/
def restarted (o : InsertionOrder) : InsertionOrder := { o with nextSequence := 1, sequences := ∅ }

/-- `_validated_object_path`: the error it raises, if any. -/
def objectPathError (o : InsertionOrder) (key : ObjectKey) : Option InsertionError :=
  match InsertionSequenceRecord.build jsonDigest key 1 with
  | none => some .invalidRecord
  | some _ => if key ∈ o.directories then none else some .objectPath

/-- `_write_high_water`. -/
def writeHighWater (o : InsertionOrder) (nextSequence : ℕ) (ends : WriteEnd) :
    Except Stop Unit × InsertionOrder :=
  match InsertionHighWaterRecord.build jsonDigest nextSequence with
  | none => (.error (.raised .invalidRecord), o)
  | some record =>
    let o := { o with highWater := ends.file o.highWater record }
    match ends.result with
    | .error stop => (.error stop, o)
    | .ok _ => (.ok (), { o with nextSequence })

/-- The second write of `_allocate`, and the attribute it sets last. -/
def writeSequence (o : InsertionOrder) (key : ObjectKey) (sequence : ℕ) (ends : WriteEnd) :
    Except Stop ℕ × InsertionOrder :=
  match InsertionSequenceRecord.build jsonDigest key sequence with
  | none => (.error (.raised .invalidRecord), o)
  | some record =>
    let o := { o with records := Function.update o.records key (ends.file (o.records key) record) }
    match ends.result with
    | .error stop => (.error stop, o)
    | .ok _ => (.ok sequence, { o with sequences := o.sequences.insert key sequence })

/-- `_allocate`. -/
def allocate (o : InsertionOrder) (key : ObjectKey) (ends : WriteEnd × WriteEnd) :
    Except Stop ℕ × InsertionOrder :=
  match o.objectPathError jsonDigest key with
  | some error => (.error (.raised error), o)
  | none =>
    if maxFilesystemCount ≤ o.nextSequence then (.error (.raised .exhausted), o)
    else match o.writeHighWater jsonDigest (o.nextSequence + 1) ends.1 with
      | (.error stop, o') => (.error stop, o')
      | (.ok _, o') => o'.writeSequence jsonDigest key o.nextSequence ends.2

/-- `_load_object_sequence`. -/
def loadObjectSequence (o : InsertionOrder) (key : ObjectKey) (ends : WriteEnd × WriteEnd) :
    Except Stop ℕ × InsertionOrder :=
  match o.objectPathError jsonDigest key with
  | some error => (.error (.raised error), o)
  | none =>
    match o.records key with
    | .missing => o.allocate jsonDigest key ends
    | .damaged => (.error (.raised .damagedState), o)
    | .record record =>
      if ¬ record.Valid jsonDigest then (.error (.raised .invalidSequence), o)
      else if record.objectKey ≠ key ∨ o.nextSequence ≤ record.sequence then
        (.error (.raised .notBelowHighWater), o)
      else (.ok record.sequence, { o with sequences := o.sequences.insert key record.sequence })

/-- The loop of `initialize`, with its `used_sequences`. -/
def loadObjectSequences (ends : ObjectKey → WriteEnd × WriteEnd) :
    InsertionOrder → List ObjectKey → Finset ℕ → Except Stop Unit × InsertionOrder
  | o, [], _ => (.ok (), o)
  | o, key :: rest, used =>
    match o.loadObjectSequence jsonDigest key (ends key) with
    | (.error stop, o') => (.error stop, o')
    | (.ok sequence, o') =>
      if sequence ∈ used then (.error (.raised .notUnique), o')
      else loadObjectSequences ends o' rest (insert sequence used)

/-- `initializeOrder`, the `initialize` of the source. How each write of it ends is given for the
high-water record and for each object that has no record. -/
def initializeOrder (o : InsertionOrder) (objects : List ObjectKey) (first : WriteEnd)
    (ends : ObjectKey → WriteEnd × WriteEnd) : Except Stop Unit × InsertionOrder :=
  if ¬ objects.Pairwise (· ≤ ·) then (.error (.raised .notCanonical), o)
  else if ¬ objects.Nodup then (.error (.raised .duplicateKeys), o)
  else match o.highWater with
    | .damaged => (.error (.raised .damagedState), o)
    | .missing =>
      if objects.any fun key => !(o.records key).isMissing then
        (.error (.raised .missingHighWater), o)
      else match o.writeHighWater jsonDigest 1 first with
        | (.error stop, o') => (.error stop, o')
        | (.ok _, o') => loadObjectSequences jsonDigest ends o' objects ∅
    | .record record =>
      if ¬ record.Valid jsonDigest then (.error (.raised .invalidHighWater), o)
      else loadObjectSequences jsonDigest ends { o with nextSequence := record.nextSequence } objects ∅

/-- `ensure`. -/
def ensure (o : InsertionOrder) (key : ObjectKey) (ends : WriteEnd × WriteEnd) :
    Except Stop ℕ × InsertionOrder :=
  match o.objectPathError jsonDigest key with
  | some error => (.error (.raised error), o)
  | none =>
    match o.sequences.lookup key with
    | some existing => (.ok existing, o)
    | none => o.allocate jsonDigest key ends

/-- `remove`. -/
def remove (o : InsertionOrder) (key : ObjectKey) : InsertionOrder :=
  { o with sequences := o.sequences.erase key }

/-! ## What a call can do -/

variable {jsonDigest} {o o' : InsertionOrder} {key : ObjectKey} {ends : WriteEnd × WriteEnd}

/-- The record `build` makes for a next sequence. -/
def markRecord (jsonDigest : InsertionPayload → String) (nextSequence : ℕ) :
    InsertionHighWaterRecord :=
  ⟨"1.0", nextSequence, jsonDigest (.highWater nextSequence)⟩

/-- The record `build` makes for an object. -/
def objectRecord (jsonDigest : InsertionPayload → String) (key : ObjectKey) (sequence : ℕ) :
    InsertionSequenceRecord :=
  ⟨"1.0", key, sequence, jsonDigest (.sequence key sequence)⟩

theorem isInsertionSequence_iff {n : ℕ} :
    isInsertionSequence n = true ↔ 1 ≤ n ∧ n ≤ maxFilesystemCount := by
  simp [isInsertionSequence]

theorem objectPathError_eq_none :
    o.objectPathError jsonDigest key = none ↔ key.isInsertionKey = true ∧ key ∈ o.directories := by
  have hone : isInsertionSequence 1 = true := by decide
  unfold objectPathError InsertionSequenceRecord.build
  cases hkey : key.isInsertionKey with
  | false => simp
  | true => simp [hone]

/-- A write that does not return, and one that does. -/
theorem WriteEnd.cases_result (w : WriteEnd) :
    (∃ stop, w.result = .error stop) ∨ w.result = .ok () ∧ w.renamed = true := by
  cases w with
  | returned => exact .inr ⟨rfl, rfl⟩
  | raised | crashed => exact .inl ⟨_, rfl⟩

/-- What `_allocate` can leave behind, in the order of its calls. -/
inductive Allocates (jsonDigest : InsertionPayload → String) (o : InsertionOrder) (key : ObjectKey) :
    Except Stop ℕ → InsertionOrder → Prop
  /-- Nothing has been renamed. -/
  | refused {stop : Stop} : Allocates jsonDigest o key (.error stop) o
  /-- The high-water record stands, but its write has not returned. -/
  | marked {stop : Stop} (room : o.nextSequence < maxFilesystemCount) :
      Allocates jsonDigest o key (.error stop)
        { o with highWater := .record (markRecord jsonDigest (o.nextSequence + 1)) }
  /-- The number is taken, but the object has not got it. -/
  | skipped {stop : Stop} (room : o.nextSequence < maxFilesystemCount) :
      Allocates jsonDigest o key (.error stop)
        { o with
          highWater := .record (markRecord jsonDigest (o.nextSequence + 1))
          nextSequence := o.nextSequence + 1 }
  /-- The object's record stands, but its write has not returned. -/
  | recorded {stop : Stop} (room : o.nextSequence < maxFilesystemCount)
      (path : key.isInsertionKey = true ∧ key ∈ o.directories) :
      Allocates jsonDigest o key (.error stop)
        { o with
          highWater := .record (markRecord jsonDigest (o.nextSequence + 1))
          nextSequence := o.nextSequence + 1
          records := Function.update o.records key
            (.record (objectRecord jsonDigest key o.nextSequence)) }
  /-- The object has the number. -/
  | allocated (room : o.nextSequence < maxFilesystemCount)
      (path : key.isInsertionKey = true ∧ key ∈ o.directories) :
      Allocates jsonDigest o key (.ok o.nextSequence)
        { o with
          highWater := .record (markRecord jsonDigest (o.nextSequence + 1))
          nextSequence := o.nextSequence + 1
          records := Function.update o.records key
            (.record (objectRecord jsonDigest key o.nextSequence))
          sequences := o.sequences.insert key o.nextSequence }

/-- **What an allocation can do.** -/
theorem allocates_allocate (hnext : 1 ≤ o.nextSequence) :
    Allocates jsonDigest o key (o.allocate jsonDigest key ends).1
      (o.allocate jsonDigest key ends).2 := by
  unfold allocate
  split
  · exact .refused
  · rename_i hpath
    have hpath := objectPathError_eq_none.1 hpath
    split
    · exact .refused
    · rename_i hroom
      have hroom : o.nextSequence < maxFilesystemCount := not_le.1 hroom
      have hmark : isInsertionSequence (o.nextSequence + 1) = true :=
        isInsertionSequence_iff.2 ⟨by omega, hroom⟩
      have hsequence : isInsertionSequence o.nextSequence = true :=
        isInsertionSequence_iff.2 ⟨hnext, hroom.le⟩
      simp only [writeHighWater, InsertionHighWaterRecord.build, hmark, if_true]
      rcases WriteEnd.cases_result ends.1 with ⟨stop, hstop⟩ | ⟨hok, hrenamed⟩
      · simp only [hstop, WriteEnd.file]
        split_ifs
        · exact .marked hroom
        · exact .refused
      · simp only [hok, WriteEnd.file, hrenamed, if_true, writeSequence,
          InsertionSequenceRecord.build, hpath.1, hsequence, Bool.and_self]
        rcases WriteEnd.cases_result ends.2 with ⟨stop, hstop⟩ | ⟨hok', hrenamed'⟩
        · simp only [hstop]
          split_ifs
          · exact .recorded hroom hpath
          · simp only [Function.update_eq_self]
            exact .skipped hroom
        · simp only [hok', hrenamed', if_true]
          exact .allocated hroom hpath

end InsertionOrder

end NplgMcp
