import NplgMcp.Storage.System

/-!
# What an operation leaves alone

"Nothing else changes" is one equation between stores with blank fields, and what any field does
follows by projection: an operation on the disk keeps `withoutDisk`, one on the staging area keeps
`core`, one on the leases, the transactions or the reservations keeps `material`, and commits and
deletions keep `authority`.
-/

open Library

namespace NplgMcp

namespace Store

variable {env : Encoding} {s s' : Store} {staged : StagedPath} {key : ObjectKey} {path : Path}

/-- The store with a blank disk. -/
def withoutDisk (s : Store) : Store :=
  { s with
    files := ∅, directories := ∅, stagedFiles := ∅, sequences := ∅, nextSequence := 0
    writers := ∅ }

/-- The store with a blank disk and a blank quota. -/
def authority (s : Store) : Store :=
  { s.withoutDisk with usedBytes := 0, reservedBytes := 0, stagingReservations := ∅ }

/-- What keeps all but the disk keeps the two counters, the reservations and the quota. -/
theorem quota_of_withoutDisk (h : s'.withoutDisk = s.withoutDisk) :
    s'.usedBytes = s.usedBytes ∧ s'.reservedBytes = s.reservedBytes ∧
      s'.stagingReservations = s.stagingReservations ∧ s'.maxBytes = s.maxBytes ∧
      s'.nextToken = s.nextToken := by
  have hused := congrArg Store.usedBytes h
  have hreserved := congrArg Store.reservedBytes h
  have hstaging := congrArg Store.stagingReservations h
  have hmax := congrArg Store.maxBytes h
  have htoken := congrArg Store.nextToken h
  exact ⟨hused, hreserved, hstaging, hmax, htoken⟩

/-- What keeps all but the disk keeps the authority. -/
theorem authority_of_withoutDisk (h : s'.withoutDisk = s.withoutDisk) :
    s'.authority = s.authority := by
  simp only [authority, h]

/-- The store with a blank staging area. -/
def core (s : Store) : Store :=
  { s with stagedFiles := ∅, reservedBytes := 0, stagingReservations := ∅, writers := ∅ }

/-- What keeps all but the staging area keeps the authority. -/
theorem authority_of_core (h : s'.core = s.core) : s'.authority = s.authority := by
  have hauthority := congrArg Store.authority h
  exact hauthority

/-! ## The steps of a commit -/

@[simp] theorem withoutDisk_modifyWriter {f : StagedWriter → StagedWriter} :
    (s.modifyWriter staged f).withoutDisk = s.withoutDisk := by
  unfold modifyWriter
  split <;> rfl

@[simp] theorem withoutDisk_closeWriter : (s.closeWriter staged).withoutDisk = s.withoutDisk :=
  withoutDisk_modifyWriter

@[simp] theorem withoutDisk_appendStaged {data : Bytes} :
    (s.appendStaged staged data).withoutDisk = s.withoutDisk := by
  unfold appendStaged
  split <;> rfl

/-- Making directories changes the directories only. -/
theorem ensurePrivateDirectories_snd {directories : List Path} {failAt : Option ℕ} :
    (s.ensurePrivateDirectories directories failAt).2 =
      { s with directories := (s.ensurePrivateDirectories directories failAt).2.directories } := by
  fun_induction ensurePrivateDirectories s directories failAt with
  | case1 | case2 | case3 => rfl
  | case4 s directory rest failAt _ _ ih => exact ih

@[simp] theorem withoutDisk_ensurePrivateDirectories {directories : List Path}
    {failAt : Option ℕ} :
    (s.ensurePrivateDirectories directories failAt).2.withoutDisk = s.withoutDisk := by
  rw [ensurePrivateDirectories_snd]
  rfl

@[simp] theorem withoutDisk_allocateSequence {fault : SequenceFault} :
    (s.allocateSequence env key fault).2.withoutDisk = s.withoutDisk := by
  unfold allocateSequence
  split
  · rfl
  · rcases fault with _ | _ | _ | _ <;> rfl

@[simp] theorem withoutDisk_ensureInsertionSequence {fault : SequenceFault} :
    (s.ensureInsertionSequence env key fault).2.withoutDisk = s.withoutDisk := by
  unfold ensureInsertionSequence
  split_ifs
  · rfl
  · rfl
  · rfl
  · exact withoutDisk_allocateSequence

@[simp] theorem withoutDisk_forgetSequence : (s.forgetSequence key).withoutDisk = s.withoutDisk := by
  unfold forgetSequence
  split_ifs <;> rfl

@[simp] theorem withoutDisk_renameStaged {swapped : Option Bytes} :
    (s.renameStaged staged path swapped).withoutDisk = s.withoutDisk := rfl

@[simp] theorem withoutDisk_rmtree {removal : Removal} :
    (s.rmtree path removal).2.withoutDisk = s.withoutDisk := by
  cases removal <;> rfl

@[simp] theorem withoutDisk_removeStoragePath {removal : Removal} :
    (s.removeStoragePath path removal).2.withoutDisk = s.withoutDisk := by
  unfold removeStoragePath
  split_ifs
  · exact withoutDisk_rmtree
  · cases removal <;> rfl

@[simp] theorem withoutDisk_unlinkFile : (s.unlinkFile path).withoutDisk = s.withoutDisk := rfl

@[simp] theorem withoutDisk_unlinkStaged : (s.unlinkStaged staged).withoutDisk = s.withoutDisk :=
  rfl

@[simp] theorem withoutDisk_undoPublication {error : StoreError} {f : CommitFaults} :
    (s.undoPublication path error f).2.withoutDisk = s.withoutDisk := by
  unfold undoPublication
  split_ifs
  · rfl
  · split <;> rename_i heq <;> simpa using congrArg (·.2.withoutDisk) heq.symm

theorem synchronized_snd {sync : Bool} {outcome : Outcome Unit} :
    (synchronized sync outcome).2 = outcome.2 := by
  unfold synchronized
  split <;> rfl

/-! ## The staged file -/

@[simp] theorem stagedFiles_ensurePrivateDirectories {directories : List Path}
    {failAt : Option ℕ} :
    (s.ensurePrivateDirectories directories failAt).2.stagedFiles = s.stagedFiles := by
  rw [ensurePrivateDirectories_snd]

@[simp] theorem stagedFiles_ensureInsertionSequence {fault : SequenceFault} :
    (s.ensureInsertionSequence env key fault).2.stagedFiles = s.stagedFiles := by
  unfold ensureInsertionSequence allocateSequence
  split_ifs
  · rfl
  · rfl
  · rfl
  · rfl
  · rcases fault with _ | _ | _ | _ <;> rfl

@[simp] theorem stagedFiles_closeWriter :
    (s.closeWriter staged).stagedFiles = s.stagedFiles := by
  unfold closeWriter modifyWriter
  split <;> rfl

/-- A staged file with the snapshot's identity has its size. -/
theorem hasStagedIdentity_iff {snapshot : StagedSnapshot} {same : Bool} :
    s.hasStagedIdentity staged snapshot same = true ↔ same = true ∧
      ∃ contents, s.stagedFiles.lookup staged = some contents ∧
        contents.length = snapshot.size := by
  simp [hasStagedIdentity, Option.any_eq_true]

/-- A reconciled reservation is exactly the size, and nothing on disk has moved. -/
theorem reconcileStagedSize_ok {size : ℕ} (h : s.reconcileStagedSize staged size = (.ok (), s')) :
    s'.stagingReservations.lookup staged = some size ∧
      s' = { s with
        stagingReservations := s'.stagingReservations, reservedBytes := s'.reservedBytes } := by
  unfold reconcileStagedSize at h
  split at h
  · cases h
  · rename_i reserved hreserved
    split_ifs at h with hlt hfull hgt
    · cases h
    · cases h
      refine ⟨?_, rfl⟩
      dsimp only
      rw [Finmap.lookup_insert]
      congr 1
      omega
    · cases h
      exact ⟨Finmap.lookup_insert _, rfl⟩
    · cases h
      refine ⟨?_, rfl⟩
      rw [hreserved]
      congr 1
      omega

/-- A refused reconciliation changes nothing. -/
theorem reconcileStagedSize_error {size : ℕ} {error : StoreError}
    (h : s.reconcileStagedSize staged size = (.error error, s')) : s' = s := by
  unfold reconcileStagedSize at h
  split at h
  · cases h; rfl
  · split_ifs at h
    · cases h; rfl
    all_goals cases h

/-- A staged file that passes the checks of a render commit has a reservation of its size. -/
theorem stagedRenderError_eq_none {snapshot : StagedSnapshot} {identity : Bool}
    (h : s.stagedRenderError staged snapshot identity = none) :
    s.stagingReservations.lookup staged = some snapshot.size ∧
      ∃ contents, s.stagedFiles.lookup staged = some contents ∧
        contents.length = snapshot.size := by
  unfold stagedRenderError at h
  split at h
  · cases h
  · rename_i hidentity
    refine ⟨?_, (hasStagedIdentity_iff.1 (by simpa using hidentity)).2⟩
    split at h
    · cases h
    · rename_i reserved hreserved
      split_ifs at h with hne
      rw [hreserved, not_not.1 hne]

@[simp] theorem files_closeWriter : (s.closeWriter staged).files = s.files := by
  unfold closeWriter modifyWriter
  split <;> rfl

/-- A snapshot has the size the writer recorded. -/
theorem snapshot_ok {caller : Context} {root stable : Bool} {snapshot : StagedSnapshot}
    (h : s.snapshot env staged caller root stable = .ok snapshot) :
    ∃ writer, s.writers.lookup staged = some writer ∧ snapshot.size = writer.recorded.length := by
  unfold Store.snapshot at h
  split at h
  · cases h
  · rename_i writer hwriter
    split at h
    · cases h
    · split at h
      · cases h
      · split at h
        · cases h
        · split at h
          · cases h
          · cases h
            exact ⟨writer, hwriter, rfl⟩

/-! ## Staging -/

theorem core_modifyWriter {g : StagedWriter → StagedWriter} :
    (s.modifyWriter staged g).core = s.core := by
  unfold modifyWriter
  split <;> rfl

theorem core_closeWriter : (s.closeWriter staged).core = s.core :=
  core_modifyWriter

theorem core_appendStaged {data : Bytes} :
    (s.appendStaged staged data).core = s.core := by
  unfold appendStaged
  split <;> rfl

theorem core_reserveStagingBytes {amount : ℕ} :
    (s.reserveStagingBytes staged amount).2.core = s.core := by
  unfold reserveStagingBytes
  split
  · rfl
  · split
    · rfl
    · split <;> rfl

theorem core_releaseStagingBytes {amount : ℕ} :
    (s.releaseStagingBytes staged amount).2.core = s.core := by
  unfold releaseStagingBytes
  split
  · rfl
  · split
    · rfl
    · split <;> rfl

theorem core_reconcileStagedSize {size : ℕ} :
    (s.reconcileStagedSize staged size).2.core = s.core := by
  unfold reconcileStagedSize
  split
  · rfl
  · split
    · split <;> rfl
    · split <;> rfl

/-- Staging a file uses up a name. -/
theorem core_stage {transaction : Option Token} {caller : Context} {root opened : Bool} :
    ∃ next, s.nextToken ≤ next ∧
      (s.stage transaction caller root opened).2.core = { s.core with nextToken := next } := by
  unfold stage
  split
  · exact ⟨s.nextToken, le_rfl, rfl⟩
  · split
    · exact ⟨s.nextToken, le_rfl, rfl⟩
    · split
      · exact ⟨s.nextToken, le_rfl, rfl⟩
      · exact ⟨s.nextToken + 1, Nat.le_succ _, rfl⟩

theorem core_startWrite {caller : Context} {root : Bool} {data : Bytes} :
    (s.startWrite staged caller root data).2.core = s.core := by
  have hreserve := @core_reserveStagingBytes s staged data.length
  unfold startWrite
  split
  · rfl
  · split
    · rfl
    · split
      · rfl
      · split <;> rename_i heq <;> rw [heq] at hreserve
        · exact hreserve
        · exact core_modifyWriter.trans hreserve

theorem core_finishWrite {outcome : WriteOutcome} :
    (s.finishWrite staged outcome).2.core = s.core := by
  have happend (taken : Bytes) :
      ((s.modifyWriter staged ({ · with pending := none })).appendStaged staged taken).core =
        s.core := core_appendStaged.trans core_modifyWriter
  unfold finishWrite
  split
  · rfl
  · rename_i data _
    cases outcome with
    | raised flushed => exact core_releaseStagingBytes.trans (happend _)
    | returned written =>
        have hrelease := (@core_releaseStagingBytes _ staged
          (data.length - (data.take written).length)).trans (happend (data.take written))
        dsimp only
        split <;> rename_i heq <;> rw [heq] at hrelease
        · exact hrelease
        · exact core_modifyWriter.trans hrelease

theorem core_discard {caller : Context} {root unlink : Bool} :
    (s.discard staged caller root unlink).2.core = s.core := by
  have hclosed := @core_closeWriter s staged
  unfold discard
  split
  · rfl
  · split
    · rfl
    · dsimp only
      split
      · exact hclosed
      · split <;> exact hclosed

/-! ## Publication -/

/-- A `mapM` that returns returns one result for each element. -/
theorem length_of_mapM_ok {α β : Type} {g : α → Except StoreError β} :
    ∀ {l : List α} {results : List β}, l.mapM g = .ok results → results.length = l.length
  | [], results, h => by
      obtain rfl : [] = results := Except.ok.inj h
      rfl
  | a :: rest, results, h => by
      rw [List.mapM_cons] at h
      cases ha : g a with
      | error error =>
          rw [ha] at h
          cases h
      | ok b =>
          rw [ha] at h
          cases hrest : rest.mapM g with
          | error error =>
              simp only [hrest] at h
              cases h
          | ok bs =>
              simp only [hrest] at h
              obtain rfl : b :: bs = results := Except.ok.inj h
              exact congrArg (· + 1) (length_of_mapM_ok hrest)

/-- A `mapM` that raises raises what one of its calls raises. -/
theorem exists_mem_of_mapM_error {α β : Type} {g : α → Except StoreError β} {error : StoreError} :
    ∀ {l : List α}, l.mapM g = .error error → ∃ a ∈ l, g a = .error error
  | [], h => by cases h
  | a :: rest, h => by
      rw [List.mapM_cons] at h
      cases ha : g a with
      | error error' =>
          rw [ha] at h
          obtain rfl : error' = error := Except.error.inj h
          exact ⟨a, List.mem_cons_self, ha⟩
      | ok value =>
          rw [ha] at h
          cases hrest : rest.mapM g with
          | error error' =>
              rw [hrest] at h
              obtain rfl : error' = error := Except.error.inj h
              obtain ⟨b, hb, hgb⟩ := exists_mem_of_mapM_error hrest
              exact ⟨b, List.mem_cons_of_mem _ hb, hgb⟩
          | ok values =>
              rw [hrest] at h
              cases h

/-- The inventory raises nothing that a denial raises. -/
theorem ne_publicationRejected_of_storedObjects {listing : Listing} {error : StoreError}
    (h : s.storedObjects listing = .error error) (blocker : PublicationBlocker) :
    error ≠ .publicationRejected blocker := by
  rintro rfl
  unfold storedObjects at h
  split at h
  · cases h
  · split at h
    · rename_i error hmap
      obtain rfl : error = .publicationRejected blocker := Except.error.inj h
      obtain ⟨key, -, hdescribe⟩ := exists_mem_of_mapM_error hmap
      unfold describeObject at hdescribe
      split at hdescribe
      · cases hdescribe
      · split at hdescribe <;> cases hdescribe
    · split at h <;> cases h

/-- No check raises when all four amounts fit. -/
theorem publicationBlocker_eq_none_iff {policy : RetentionPolicy}
    {bytes objects headroomBytes headroomInodes : ℤ} {capacity : StorageCapacity} :
    publicationBlocker policy bytes objects headroomBytes headroomInodes capacity = none ↔
      bytes ≤ policy.maximumBytes ∧ objects ≤ policy.maximumObjects ∧
        policy.minimumFreeBytes + headroomBytes ≤ capacity.availableBytes ∧
        policy.minimumFreeInodes + headroomInodes ≤ capacity.availableInodes := by
  unfold publicationBlocker
  constructor
  · intro h
    split_ifs at h
    omega
  · rintro ⟨hbytes, hobjects, hfree, hinodes⟩
    rw [if_neg (by omega), if_neg (by omega), if_neg (by omega), if_neg (by omega)]

/-- What admits a reservation. -/
structure Admits (s : Store) (token : Token) (sample : PublicationSample)
    (policy : RetentionPolicy) (reservation : PublicationReservation) (objects : List StoredObject)
    (capacity : StorageCapacity) : Prop where
  configured : s.retentionPolicy = some policy
  reserved : s.reservations.lookup token = some reservation
  sampled : sample.capacity = some capacity
  fresh : reservation.active = false ∧ reservation.closed = false
  opened : s.admissionClosedBlocker = none
  listed : s.storedObjects sample.listing = .ok objects
  unblocked : s.beginBlocker policy reservation objects.length capacity = none

/-- A reservation is refused, denied or admitted. -/
theorem beginPublication_cases {token : Token} {sample : PublicationSample} :
    (∃ error, s.beginPublication token sample = (.error error, s)) ∨
      (∃ blocker, s.beginPublication token sample = s.publicationDenial blocker) ∨
      ∃ policy reservation objects capacity,
        s.Admits token sample policy reservation objects capacity ∧
        s.beginPublication token sample =
          (.ok (), s.activateReservation token reservation objects.length capacity) := by
  unfold beginPublication
  split
  · rename_i policy reservation capacity hpolicy hreservation hcapacity
    split
    · exact .inl ⟨_, rfl⟩
    · rename_i hfresh
      simp only [Bool.or_eq_true, not_or, Bool.not_eq_true] at hfresh
      split
      · exact .inl ⟨_, rfl⟩
      · rename_i hopened
        split
        · exact .inr (.inl ⟨_, rfl⟩)
        · split
          · exact .inl ⟨_, rfl⟩
          · rename_i objects hobjects
            split
            · exact .inr (.inl ⟨_, rfl⟩)
            · rename_i hblocker
              exact .inr (.inr ⟨policy, reservation, objects, capacity,
                ⟨hpolicy, hreservation, hcapacity, hfresh, hopened, hobjects, hblocker⟩, rfl⟩)
  · exact .inl ⟨_, rfl⟩

/-- What brings a commit of a reservation to its four checks. -/
structure ReachesChecks (s : Store) (token : Token) (actual : ActualPublication)
    (sample : PublicationSample) (policy : RetentionPolicy) (reservation : PublicationReservation)
    (objects : List StoredObject) (capacity : StorageCapacity) : Prop where
  reserved : s.reservations.lookup token = some reservation
  opened : reservation.closed = false
  within : actual.bytes ≤ reservation.reservedBytes ∧
    actual.objects ≤ reservation.reservedObjects ∧ actual.inodes ≤ reservation.reservedInodes
  active : token ∈ s.publicationReservations
  configured : s.retentionPolicy = some policy
  sampled : sample.capacity = some capacity
  trusted : sample.trusted = true
  listed : s.storedObjects sample.listing = .ok objects

/-- A commit of a reservation is refused, denied for its clock, denied by one of the four checks, or
releases the reservation. -/
theorem commitPublication_cases {token : Token} {actual : ActualPublication}
    {sample : PublicationSample} :
    (∃ error, (∀ blocker, error ≠ .publicationRejected blocker) ∧
        s.commitPublication token actual sample = (.error error, s)) ∨
      (sample.trusted = false ∧
        s.commitPublication token actual sample = s.publicationDenial .clockAnomaly) ∨
      ∃ policy reservation objects capacity,
        s.ReachesChecks token actual sample policy reservation objects capacity ∧
        ((∃ blocker, s.commitBlocker policy reservation actual objects.length capacity =
              some blocker ∧
            s.commitPublication token actual sample = s.publicationDenial blocker) ∨
          (s.commitBlocker policy reservation actual objects.length capacity = none ∧
            s.commitPublication token actual sample =
              (.ok (), s.releasePublication token reservation))) := by
  unfold commitPublication
  split
  · exact .inl ⟨.reservationInactive, nofun, rfl⟩
  · rename_i reservation hreservation
    split
    · exact .inl ⟨.reservationClosed, nofun, rfl⟩
    · rename_i hclosed
      split
      · exact .inl ⟨.invalidAmount, nofun, rfl⟩
      · rename_i hwithin
        simp only [not_or, not_lt] at hwithin
        split
        · exact .inl ⟨.reservationInactive, nofun, rfl⟩
        · rename_i hactive
          split
          · rename_i policy capacity hpolicy hcapacity
            split
            · rename_i htrusted
              exact .inr (.inl ⟨by simpa using htrusted, rfl⟩)
            · rename_i htrusted
              split
              · rename_i error hlisted
                exact .inl ⟨error, ne_publicationRejected_of_storedObjects hlisted, rfl⟩
              · rename_i objects hlisted
                refine .inr (.inr ⟨policy, reservation, objects, capacity, ⟨hreservation,
                  by simpa using hclosed, hwithin, not_not.1 hactive, hpolicy, hcapacity,
                  by simpa using htrusted, hlisted⟩, ?_⟩)
                split
                · rename_i blocker hblocker
                  exact .inl ⟨blocker, hblocker, rfl⟩
                · rename_i hblocker
                  exact .inr ⟨hblocker, rfl⟩
          · exact .inl ⟨.os, nofun, rfl⟩

/-- A commit that comes to its checks and passes them returns. -/
theorem ReachesChecks.commitPublication_eq {token : Token} {actual : ActualPublication}
    {sample : PublicationSample} {policy : RetentionPolicy} {reservation : PublicationReservation}
    {objects : List StoredObject} {capacity : StorageCapacity}
    (h : s.ReachesChecks token actual sample policy reservation objects capacity)
    (hpasses : s.commitBlocker policy reservation actual objects.length capacity = none) :
    s.commitPublication token actual sample = (.ok (), s.releasePublication token reservation) := by
  obtain ⟨hbytes, hobjects, hinodes⟩ := h.within
  simp [commitPublication, h.reserved, h.opened, not_lt.2 hbytes, not_lt.2 hobjects,
    not_lt.2 hinodes, h.active, h.configured, h.sampled, h.trusted, h.listed, hpasses]

/-- An abort is refused, or releases the reservation. -/
theorem abortPublication_cases {token : Token} :
    (∃ error, s.abortPublication token = (.error error, s)) ∨
      ∃ reservation, s.reservations.lookup token = some reservation ∧
        reservation.closed = false ∧ token ∈ s.publicationReservations ∧
        s.abortPublication token = (.ok (), s.releasePublication token reservation) := by
  unfold abortPublication
  split
  · exact .inl ⟨_, rfl⟩
  · rename_i reservation hreservation
    split
    · exact .inl ⟨_, rfl⟩
    · rename_i hclosed
      split
      · exact .inl ⟨_, rfl⟩
      · rename_i hactive
        exact .inr ⟨reservation, hreservation, by simpa using hclosed, not_not.1 hactive, rfl⟩

/-! ## Operations on the authority alone -/

/-- The store with blank leases, transactions and reservations. -/
def material (s : Store) : Store :=
  { s with
    publicationReservations := ∅, reservations := ∅, publicationReservedBytes := 0
    publicationReservedObjects := 0, publicationReservedInodes := 0
    admissionClosedBlocker := none, alerts := [], assetLeases := ∅, leaseHolders := ∅
    renderTransactionLeases := ∅, transactions := ∅, nextToken := 0 }

/-- The disk and the quota stay, and names are only used up. -/
structure KeepsMaterial (s s' : Store) : Prop where
  same : s'.material = s.material
  tokens : s.nextToken ≤ s'.nextToken

theorem KeepsMaterial.refl : KeepsMaterial s s := ⟨rfl, le_rfl⟩

theorem keepsMaterial_publicationDenial {blocker : PublicationBlocker} :
    KeepsMaterial s (s.publicationDenial blocker).2 := by
  unfold publicationDenial
  split
  · exact .refl
  · exact ⟨rfl, le_rfl⟩

theorem keepsMaterial_reservePublication {policy : RetentionPolicy} {bytes objects inodes : ℕ} :
    KeepsMaterial s (s.reservePublication policy bytes objects inodes).2 := by
  unfold reservePublication
  split
  · exact .refl
  · split
    · exact .refl
    · exact ⟨rfl, Nat.le_succ _⟩

theorem keepsMaterial_beginPublication {token : Token} {sample : PublicationSample} :
    KeepsMaterial s (s.beginPublication token sample).2 := by
  rcases @beginPublication_cases s token sample with
    ⟨error, heq⟩ | ⟨blocker, heq⟩ | ⟨_, _, _, _, -, heq⟩ <;> rw [heq]
  · exact .refl
  · exact keepsMaterial_publicationDenial
  · exact ⟨rfl, le_rfl⟩

theorem keepsMaterial_commitPublication {token : Token} {actual : ActualPublication}
    {sample : PublicationSample} :
    KeepsMaterial s (s.commitPublication token actual sample).2 := by
  rcases @commitPublication_cases s token actual sample with
    ⟨error, -, heq⟩ | ⟨-, heq⟩ | ⟨_, _, _, _, -, ⟨blocker, -, heq⟩ | ⟨-, heq⟩⟩ <;> rw [heq]
  · exact .refl
  · exact keepsMaterial_publicationDenial
  · exact keepsMaterial_publicationDenial
  · exact ⟨rfl, le_rfl⟩

theorem keepsMaterial_abortPublication {token : Token} :
    KeepsMaterial s (s.abortPublication token).2 := by
  rcases @abortPublication_cases s token with ⟨error, heq⟩ | ⟨_, -, -, -, heq⟩ <;> rw [heq]
  · exact .refl
  · exact ⟨rfl, le_rfl⟩

theorem keepsMaterial_exitPublication {token : Token} :
    KeepsMaterial s (s.exitPublication token).2 := by
  unfold exitPublication
  split
  · exact .refl
  · exact keepsMaterial_abortPublication

theorem keepsMaterial_acquireAssetLease {resolved : Bool} :
    KeepsMaterial s (s.acquireAssetLease path resolved).2 := by
  unfold acquireAssetLease
  split
  · exact .refl
  · split
    · exact .refl
    · split
      · exact .refl
      · exact ⟨rfl, Nat.le_succ _⟩

theorem keepsMaterial_releaseAssetLease {lease : Token} :
    KeepsMaterial s (s.releaseAssetLease lease).2 := by
  unfold releaseAssetLease
  split
  · exact .refl
  · dsimp only
    split <;> exact ⟨rfl, le_rfl⟩

theorem keepsMaterial_setTransaction {token : Token} {transaction : RenderTransaction} :
    KeepsMaterial s (s.setTransaction token transaction) := ⟨rfl, le_rfl⟩

theorem keepsMaterial_registerRenderTransaction {caller : Context} {completionFile : String}
    {root : Bool} :
    KeepsMaterial s (s.registerRenderTransaction caller path completionFile root).2 := by
  unfold registerRenderTransaction
  dsimp only
  split
  · exact .refl
  · split
    · exact .refl
    · split
      · exact .refl
      · split
        · exact .refl
        · exact ⟨rfl, Nat.le_succ _⟩

theorem keepsMaterial_releaseRenderTransaction {token : Token} :
    KeepsMaterial s (s.releaseRenderTransaction token).2 := by
  unfold releaseRenderTransaction
  split
  · exact .refl
  · split
    · exact .refl
    · dsimp only
      split <;> exact ⟨rfl, le_rfl⟩

/-! ## Steps of a transaction -/

/-- What a step of a transaction other than its last can do: nothing, or for a transaction that is
not closing delete its subtree or not, and change its status or not. -/
def TransactionStep (s : Store) (token : Token) (f : DeleteFaults) (s' : Store) : Prop :=
  s' = s ∨ ∃ transaction, s.transactions.lookup token = some transaction ∧
    (transaction.status = .starting ∨ transaction.status = .live) ∧
    ∃ middle, (middle = s ∨
        middle = (s.deleteRenderSubtreeLocked transaction.subtree (some token) f).2) ∧
      (s' = middle ∨ ∃ complete status, status ≠ .closed ∧
        s' = middle.setTransaction token { transaction with complete, status })

theorem transactionStep_recover {token : Token} {f : DeleteFaults} :
    TransactionStep s token f (s.recoverRenderTransaction token f).2 := by
  unfold recoverRenderTransaction
  split
  · exact .inl rfl
  · rename_i transaction hlookup
    split
    · exact .inl rfl
    · rename_i hstatus
      refine .inr ⟨transaction, hlookup, .inl (not_not.1 hstatus), _, .inr rfl, .inr ?_⟩
      split <;> rename_i heq <;> rw [heq]
      · exact ⟨transaction.complete, .closing, by decide, rfl⟩
      · exact ⟨transaction.complete, .live, by decide, rfl⟩

theorem transactionStep_rollbackLive {token : Token} {transaction : RenderTransaction}
    {root : Bool} {f : DeleteFaults} (hlookup : s.transactions.lookup token = some transaction)
    (hlive : transaction.status = .live) :
    TransactionStep s token f (s.rollbackLive token transaction root f).2 := by
  refine .inr ⟨transaction, hlookup, .inr hlive, ?_⟩
  unfold rollbackLive
  dsimp only
  split
  · exact ⟨s, .inl rfl, .inr ⟨transaction.complete, .closing, by decide, rfl⟩⟩
  · split
    · exact ⟨s, .inl rfl, .inr ⟨transaction.complete, .closing, by decide, rfl⟩⟩
    · exact ⟨_, .inr rfl, .inr ⟨transaction.complete, .closing, by decide, rfl⟩⟩

theorem transactionStep_commit {token : Token} {caller : Context} {root rootAgain : Bool}
    {f : DeleteFaults} :
    TransactionStep s token f
      (s.commitRenderTransaction token caller root rootAgain f).2 := by
  unfold commitRenderTransaction
  split
  · exact .inl rfl
  · rename_i transaction hlookup
    split
    · exact .inl rfl
    · rename_i hstatus
      have hlive := not_not.1 hstatus
      have hrolled := @transactionStep_rollbackLive s token transaction rootAgain f hlookup hlive
      have hclosing : TransactionStep s token f
          (s.setTransaction token { transaction with status := .closing }) :=
        .inr ⟨transaction, hlookup, .inr hlive, s, .inl rfl,
          .inr ⟨transaction.complete, .closing, by decide, rfl⟩⟩
      split
      · exact .inl rfl
      · split
        · exact hclosing
        · split
          · split <;> rename_i heq <;> rw [heq] at hrolled <;> exact hrolled
          · exact hclosing

theorem transactionStep_rollback {token : Token} {caller : Context} {root : Bool}
    {f : DeleteFaults} :
    TransactionStep s token f (s.rollbackRenderTransaction token caller root f).2 := by
  unfold rollbackRenderTransaction
  split
  · exact .inl rfl
  · rename_i transaction hlookup
    split
    · exact .inl rfl
    · rename_i hstatus
      split
      · exact .inl rfl
      · exact transactionStep_rollbackLive hlookup (not_not.1 hstatus)

theorem transactionStep_reset {token : Token} {caller : Context} {root : Bool}
    {f : DeleteFaults} :
    TransactionStep s token f (s.resetRenderTransaction token caller root f).2 := by
  unfold resetRenderTransaction
  split
  · exact .inl rfl
  · rename_i transaction hlookup
    split
    · exact .inl rfl
    · rename_i hstatus
      have hlive := not_not.1 hstatus
      split
      · exact .inl rfl
      · split
        · exact .inl rfl
        · refine .inr ⟨transaction, hlookup, .inr hlive, _, .inr rfl, ?_⟩
          split <;> rename_i heq <;> rw [heq]
          · exact .inl rfl
          · exact .inr ⟨false, transaction.status, by rw [hlive]; decide, rfl⟩

/-! ## Prunes -/

/-- What a prune can do: nothing, or evict objects, and then scan the bytes, and then scan them again
and set the latch. -/
theorem prune_cases {policy : RetentionPolicy} {sample : PruneSample} :
    (s.prune policy sample).2 = s ∨
      ∃ capacity cutoffNs clockTrusted candidates objects pruned,
        (pruneUnleased policy capacity cutoffNs clockTrusted sample s candidates objects (0, 0)).2 =
          pruned ∧
        ((s.prune policy sample).2 = pruned ∨ (s.prune policy sample).2 = pruned.rescan ∨
          ∃ blockers, (s.prune policy sample).2 = pruned.rescan.rescan.latchPrune blockers) := by
  unfold prune
  split
  · exact .inl rfl
  · split
    · exact .inl rfl
    · exact .inl rfl
    · rename_i capacity objects _ _
      refine .inr ⟨capacity, sample.nowNs - policy.maximumAgeSeconds * 1000000000,
        sample.trusted && !objects.any (·.modifiedNs > sample.nowNs),
        objects.insertionSort storedObjectOrder, objects, _, rfl, ?_⟩
      dsimp only
      split <;> rename_i heq <;> rw [heq]
      · exact .inl rfl
      · split
        · exact .inl rfl
        · split
          · exact .inr (.inl rfl)
          · unfold finishPrune
            split
            · exact .inr (.inl rfl)
            · split
              · exact .inr (.inl rfl)
              · exact .inr (.inr ⟨_, rfl⟩)

end Store

end NplgMcp
