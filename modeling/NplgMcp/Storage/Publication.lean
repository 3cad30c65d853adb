import NplgMcp.Storage.Transaction

/-!
# Publication reservations and pruning

`_PublicationReservation` with the four checks of its admission and of its commit, the inventory
`_stored_objects` they count, and `prune`, which evicts objects in insertion order and reopens a
closed admission. The clock authority is a model of its own; here it is its answer.
-/

open Library

namespace NplgMcp

/-- `_StoredObject`. -/
structure StoredObject where
  key : ObjectKey
  size : ℕ
  inodes : ℕ
  modifiedNs : ℤ
  insertionSequence : ℕ
  deriving DecidableEq, Repr

/-- What the file system says of the object trees: the least modification time in each, and
whether every entry can be read. -/
structure Listing where
  modifiedNs : ObjectKey → ℤ := fun _ => 0
  readable : Bool := true

/-- What begin and commit are told: the sampled capacity unless sampling raises, and whether the
clock authority trusts the observation. -/
structure PublicationSample where
  capacity : Option StorageCapacity
  trusted : Bool := true
  listing : Listing := {}

/-- `_MAX_LIFECYCLE_OBJECTS`. -/
def maxLifecycleObjects : ℕ := 10000000

namespace Store

/-! ## The inventory -/

/-- What `iterdir` finds in the two namespaces. -/
def children (s : Store) : Finset ObjectKey :=
  s.objectKeys ∪ (s.files.keys.filter (·.parts = [])).image Path.key

/-- One turn of the loop of `_stored_objects`, with `_tree_stats`. -/
def describeObject (s : Store) (listing : Listing) (key : ObjectKey) :
    Except StoreError StoredObject :=
  if key.root ∈ s.files || !listing.readable then .error .corruptedStorage
  else match s.sequences.lookup key with
    | none => .error .noInsertionSequence
    | some insertionSequence => .ok
      { key
        size := Dict.total (fun path contents => if path.key = key then path.weight contents else 0)
          s.files
        inodes := (s.directories.filter (·.key = key)).card +
          (s.files.keys.filter (·.key = key)).card
        modifiedNs := listing.modifiedNs key
        insertionSequence }

/-- `_stored_objects`. -/
def storedObjects (s : Store) (listing : Listing) : Except StoreError (List StoredObject) :=
  if s.retentionPolicy.isNone then .error .wrongPolicy
  else match (inOrder s.children).mapM (s.describeObject listing) with
    | .error error => .error error
    | .ok objects =>
      if objects.length > maxLifecycleObjects then .error .inventoryBound else .ok objects

/-! ## Reservations -/

/-- `_close_admission` through `_publication_denial`: the first blocker stays, and is raised. -/
def publicationDenial (s : Store) (blocker : PublicationBlocker) : Outcome Unit :=
  match s.admissionClosedBlocker with
  | some existing => (.error (.publicationRejected existing), s)
  | none => (.error (.publicationRejected blocker), { s with
      admissionClosedBlocker := some blocker
      alerts := s.alerts ++ [.admissionClosed blocker] })

/-- `reserve_publication`: the reservation object, not yet entered. -/
def reservePublication (s : Store) (policy : RetentionPolicy)
    (maximumNewBytes maximumNewObjects maximumNewInodes : ℕ) : Outcome Token :=
  if s.retentionPolicy ≠ some policy then (.error .wrongPolicy, s)
  else if maximumNewBytes ∉ Set.Icc 1 s.maxBytes ∨
      maximumNewObjects ∉ Set.Icc 1 maxLifecycleObjects ∨
      maximumNewInodes ∉ Set.Icc 1 maxLifecycleObjects then (.error .invalidAmount, s)
  else (.ok s.nextToken, { s with
    nextToken := s.nextToken + 1
    reservations := s.reservations.insert s.nextToken
      { reservedBytes := maximumNewBytes
        reservedObjects := maximumNewObjects
        reservedInodes := maximumNewInodes
        active := false, closed := false
        baselineUsedBytes := 0, baselineStoredObjects := 0, baselineAvailableInodes := 0 } })

/-- The four checks of begin and of commit, in their order, over what each adds up. -/
def publicationBlocker (policy : RetentionPolicy) (bytes objects headroomBytes headroomInodes : ℤ)
    (capacity : StorageCapacity) : Option PublicationBlocker :=
  if bytes > policy.maximumBytes then some .byteBudget
  else if objects > policy.maximumObjects then some .objectBudget
  else if capacity.availableBytes < policy.minimumFreeBytes + headroomBytes then
    some .byteHeadroom
  else if capacity.availableInodes < policy.minimumFreeInodes + headroomInodes then
    some .inodeHeadroom
  else none

/-- The checks of `_activate_publication_reservation_locked`. -/
def beginBlocker (s : Store) (policy : RetentionPolicy) (reservation : PublicationReservation)
    (objects : ℕ) (capacity : StorageCapacity) : Option PublicationBlocker :=
  publicationBlocker policy
    (s.usedBytes + s.reservedBytes + s.publicationReservedBytes + reservation.reservedBytes)
    (objects + s.publicationReservedObjects + reservation.reservedObjects)
    (s.reservedBytes + s.publicationReservedBytes + reservation.reservedBytes)
    (s.publicationReservedInodes + reservation.reservedInodes) capacity

/-- The state change of `_activate_publication_reservation_locked`. -/
def activateReservation (s : Store) (token : Token) (reservation : PublicationReservation)
    (objects : ℕ) (capacity : StorageCapacity) : Store :=
  { s with
    reservations := s.reservations.insert token { reservation with
      active := true
      baselineUsedBytes := s.usedBytes
      baselineStoredObjects := objects
      baselineAvailableInodes := capacity.availableInodes }
    publicationReservations := insert token s.publicationReservations
    publicationReservedBytes := s.publicationReservedBytes + reservation.reservedBytes
    publicationReservedObjects := s.publicationReservedObjects + reservation.reservedObjects
    publicationReservedInodes := s.publicationReservedInodes + reservation.reservedInodes }

/-- `begin_publication_reservation`. -/
def beginPublication (s : Store) (token : Token) (sample : PublicationSample) : Outcome Unit :=
  match s.retentionPolicy, s.reservations.lookup token, sample.capacity with
  | some policy, some reservation, some capacity =>
    if reservation.active || reservation.closed then (.error .reservationEntered, s)
    else match s.admissionClosedBlocker with
      | some blocker => (.error (.publicationRejected blocker), s)
      | none =>
        if !sample.trusted then s.publicationDenial .clockAnomaly
        else match s.storedObjects sample.listing with
          | .error error => (.error error, s)
          | .ok objects =>
            match s.beginBlocker policy reservation objects.length capacity with
            | some blocker => s.publicationDenial blocker
            | none => (.ok (), s.activateReservation token reservation objects.length capacity)
  | _, _, _ => (.error .os, s)

/-- `_release_publication_reservation_locked` of an active reservation. -/
def releasePublication (s : Store) (token : Token) (reservation : PublicationReservation) : Store :=
  { s with
    publicationReservations := s.publicationReservations.erase token
    publicationReservedBytes := s.publicationReservedBytes - reservation.reservedBytes
    publicationReservedObjects := s.publicationReservedObjects - reservation.reservedObjects
    publicationReservedInodes := s.publicationReservedInodes - reservation.reservedInodes
    reservations := s.reservations.insert token
      { reservation with active := false, closed := true } }

/-- The actual values a commit reports. -/
structure ActualPublication where
  bytes : ℕ
  objects : ℕ
  inodes : ℕ
  deriving DecidableEq, Repr

/-- The checks of `_commit_publication_reservation_locked`. What has become visible since the
reservation began counts towards the actual values; the others count with their full maxima. -/
def commitBlocker (s : Store) (policy : RetentionPolicy) (reservation : PublicationReservation)
    (actual : ActualPublication) (objects : ℕ) (capacity : StorageCapacity) :
    Option PublicationBlocker :=
  let observedBytes := max 0 (s.usedBytes - reservation.baselineUsedBytes)
  let remainingBytes := max 0 (actual.bytes - observedBytes)
  let observedObjects := max 0 ((objects : ℤ) - reservation.baselineStoredObjects)
  let remainingObjects := max 0 (actual.objects - observedObjects)
  let observedInodes := max 0 ((reservation.baselineAvailableInodes : ℤ) - capacity.availableInodes)
  let remainingInodes := max 0 (actual.inodes - observedInodes)
  let otherReservedBytes := s.publicationReservedBytes - reservation.reservedBytes
  let otherReservedObjects := s.publicationReservedObjects - reservation.reservedObjects
  let otherReservedInodes := s.publicationReservedInodes - reservation.reservedInodes
  publicationBlocker policy
    (s.usedBytes + s.reservedBytes + otherReservedBytes + remainingBytes)
    (objects + otherReservedObjects + remainingObjects)
    (s.reservedBytes + otherReservedBytes + remainingBytes)
    (otherReservedInodes + remainingInodes) capacity

/-- `_PublicationReservation.commit` with `commit_publication_reservation`. -/
def commitPublication (s : Store) (token : Token) (actual : ActualPublication)
    (sample : PublicationSample) : Outcome Unit :=
  match s.reservations.lookup token with
  | none => (.error .reservationInactive, s)
  | some reservation =>
    if reservation.closed then (.error .reservationClosed, s)
    else if actual.bytes > reservation.reservedBytes ∨
        actual.objects > reservation.reservedObjects ∨
        actual.inodes > reservation.reservedInodes then (.error .invalidAmount, s)
    else if token ∉ s.publicationReservations then (.error .reservationInactive, s)
    else match s.retentionPolicy, sample.capacity with
      | some policy, some capacity =>
        if !sample.trusted then s.publicationDenial .clockAnomaly
        else match s.storedObjects sample.listing with
          | .error error => (.error error, s)
          | .ok objects =>
            match s.commitBlocker policy reservation actual objects.length capacity with
            | some blocker => s.publicationDenial blocker
            | none => (.ok (), s.releasePublication token reservation)
      | _, _ => (.error .os, s)

/-- `_PublicationReservation.abort` with `abort_publication_reservation`. -/
def abortPublication (s : Store) (token : Token) : Outcome Unit :=
  match s.reservations.lookup token with
  | none => (.error .reservationInactive, s)
  | some reservation =>
    if reservation.closed then (.error .reservationClosed, s)
    else if token ∉ s.publicationReservations then (.error .reservationInactive, s)
    else (.ok (), s.releasePublication token reservation)

/-- `_PublicationReservationContext.__aexit__`. -/
def exitPublication (s : Store) (token : Token) : Outcome Unit :=
  if (s.reservations.lookup token).any (·.closed) then (.ok (), s) else s.abortPublication token

end Store

/-! ## Pruning -/

/-- What a prune is told, and how far each of its deletions comes. -/
structure PruneSample where
  before : Option StorageCapacity
  after : Option StorageCapacity
  trusted : Bool := true
  nowNs : ℤ
  listing : Listing := {}
  listingAfter : Listing := {}
  removal : ObjectKey → Store.Removal := fun _ => .complete
  /-- the namespace directory is synchronized after the deletion -/
  sync : ObjectKey → Bool := fun _ => true
  scan : Bool := true
  scanAgain : Bool := true

/-- The numbers of a prune report; it is satisfied when it names no blocker. -/
structure PruneReport where
  blockers : List PruneBlocker
  freedBytes : ℕ
  freedObjects : ℕ
  retainedLeasedObjects : ℕ
  postStoredBytes : ℕ
  postStoredObjects : ℕ
  postAvailableBytes : ℕ
  postAvailableInodes : ℕ
  deriving DecidableEq, Repr

/-- `HARD_MAX_CACHE_BYTES`. -/
def hardMaxCacheBytes : ℕ := 1024 * 1024 * 1024 * 1024

/-- `_MAX_STORED_OBJECTS`. -/
def maxStoredObjects : ℕ := 10000000

/-- `_MAX_FILESYSTEM_COUNT`. -/
def maxFilesystemCount : ℕ := 9223372036854775807

/-- The fields of `SatisfiedPruneReport` and `UnsatisfiedPruneReport` are within their bounds. -/
def PruneReport.IsValid (report : PruneReport) : Prop :=
  report.freedBytes ≤ hardMaxCacheBytes ∧ report.freedObjects ≤ maxStoredObjects ∧
    report.retainedLeasedObjects ≤ maxStoredObjects ∧ report.postStoredBytes ≤ hardMaxCacheBytes ∧
    report.postStoredObjects ≤ maxStoredObjects ∧
    report.postAvailableBytes ≤ maxFilesystemCount ∧
    report.postAvailableInodes ≤ maxFilesystemCount

instance (report : PruneReport) : Decidable report.IsValid :=
  inferInstanceAs (Decidable (_ ∧ _))

namespace Store

/-- `_stored_object_order`. -/
def storedObjectOrder (a b : StoredObject) : Prop :=
  toLex (a.insertionSequence, a.key) ≤ toLex (b.insertionSequence, b.key)

instance : DecidableRel storedObjectOrder := fun _ _ => inferInstanceAs (Decidable (_ ≤ _))

/-- `_prune_pressure`. -/
def prunePressure (objects : List StoredObject) (policy : RetentionPolicy)
    (capacity : StorageCapacity) : Bool :=
  (objects.map (·.size)).sum > policy.maximumBytes || objects.length > policy.maximumObjects ||
    capacity.availableBytes < policy.minimumFreeBytes ||
    capacity.availableInodes < policy.minimumFreeInodes

/-- `_prune_unleased`: the candidates in order, the objects still stored, and what was freed. -/
def pruneUnleased (policy : RetentionPolicy) (capacity : StorageCapacity) (cutoffNs : ℤ)
    (clockTrusted : Bool) (sample : PruneSample) :
    Store → List StoredObject → List StoredObject → ℕ × ℕ → Outcome (ℕ × ℕ)
  | s, [], _, freed => (.ok freed, s)
  | s, candidate :: rest, objects, freed =>
    let expired := clockTrusted && candidate.modifiedNs < cutoffNs
    if !expired && !prunePressure objects policy capacity then
      pruneUnleased policy capacity cutoffNs clockTrusted sample s rest objects freed
    else if s.isLeased candidate.key then
      pruneUnleased policy capacity cutoffNs clockTrusted sample s rest objects freed
    else match s.removeStoragePath candidate.key.root (sample.removal candidate.key) with
      | (.error error, s') => (.error error, s')
      | (.ok _, s') =>
        let s' := s'.forgetSequence candidate.key
        if !sample.sync candidate.key then (.error .os, s')
        else pruneUnleased policy capacity cutoffNs clockTrusted sample s' rest
          (objects.erase candidate) (freed.1 + candidate.size, freed.2 + 1)

/-- The blockers of `_finish_prune_locked`, in the order of the class. -/
def pruneBlockers (policy : RetentionPolicy) (objects : List StoredObject) (retainedLeased : ℕ)
    (capacity : StorageCapacity) (clockTrusted : Bool) : List PruneBlocker :=
  let overBudget := (objects.map (·.size)).sum > policy.maximumBytes ∨
    objects.length > policy.maximumObjects
  (if overBudget ∧ 0 < retainedLeased then [.leasedObjects] else []) ++
  (if overBudget ∧ retainedLeased = 0 ∨ capacity.availableBytes < policy.minimumFreeBytes then
    [.byteHeadroom] else []) ++
  (if capacity.availableInodes < policy.minimumFreeInodes then [.inodeHeadroom] else []) ++
  (if clockTrusted then [] else [.clockAnomaly])

/-- The publication blocker `_record_unsatisfied_prune` closes admission with. -/
def latchedBlocker (blockers : List PruneBlocker) : PublicationBlocker :=
  if .clockAnomaly ∈ blockers then .clockAnomaly
  else if .inodeHeadroom ∈ blockers then .inodeHeadroom
  else if .byteHeadroom ∈ blockers then .byteHeadroom
  else .objectBudget

/-- The latch after a prune: reopened by a satisfied one, and otherwise closed with the first
blocker it was closed with. -/
def latchPrune (s : Store) (blockers : List PruneBlocker) : Store :=
  if blockers = [] then { s with admissionClosedBlocker := none }
  else match s.admissionClosedBlocker with
    | some _ => s
    | none => { s with
        admissionClosedBlocker := some (latchedBlocker blockers)
        alerts := s.alerts ++ [.pruneUnsatisfied blockers] }

/-- `_finish_prune_locked`. The latch is set before the report is built. -/
def finishPrune (s : Store) (policy : RetentionPolicy) (sample : PruneSample) (freed : ℕ × ℕ)
    (capacity : StorageCapacity) : Outcome PruneReport :=
  match s.storedObjects sample.listingAfter with
  | .error error => (.error error, s)
  | .ok objects =>
    if !sample.scanAgain then (.error .os, s)
    else
      let s := s.rescan
      let clockTrusted := sample.trusted && !objects.any (·.modifiedNs > sample.nowNs)
      let retainedLeased := (objects.filter fun object => s.isLeased object.key).length
      let blockers := pruneBlockers policy objects retainedLeased capacity clockTrusted
      let report : PruneReport :=
        { blockers
          freedBytes := freed.1
          freedObjects := freed.2
          retainedLeasedObjects := retainedLeased
          postStoredBytes := (objects.map (·.size)).sum
          postStoredObjects := objects.length
          postAvailableBytes := capacity.availableBytes
          postAvailableInodes := capacity.availableInodes }
      (if report.IsValid then .ok report else .error .invalidReport, s.latchPrune blockers)

/-- `prune`, and `reconcile_lifecycle` with the configured samples. -/
def prune (s : Store) (policy : RetentionPolicy) (sample : PruneSample) : Outcome PruneReport :=
  if s.retentionPolicy ≠ some policy then (.error .wrongPolicy, s)
  else match sample.before, s.storedObjects sample.listing with
    | none, _ => (.error .os, s)
    | some _, .error error => (.error error, s)
    | some capacity, .ok objects =>
      let future := objects.any (·.modifiedNs > sample.nowNs)
      let cutoffNs := sample.nowNs - policy.maximumAgeSeconds * 1000000000
      match pruneUnleased policy capacity cutoffNs (sample.trusted && !future) sample s
          (objects.insertionSort storedObjectOrder) objects (0, 0) with
      | (.error error, s') => (.error error, s')
      | (.ok freed, s') =>
        if !sample.scan then (.error .os, s')
        else
          let s' := s'.rescan
          match sample.after with
          | none => (.error .os, s')
          | some after => s'.finishPrune policy sample freed after

end Store

end NplgMcp
