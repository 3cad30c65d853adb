import NplgMcp.Library.Lines
import NplgMcp.Library.Run
import NplgMcp.Pdf.PublicationPlan
import NplgMcp.Storage.State

/-!
# The slot of the PDF worker

`pdf_worker_slot.py`: the policy of the dedicated filesystem, the reading of `/proc/self/mountinfo`,
the validation of the mounted slot, and `WorkerStagingQuota`, which leases the slot as a whole. Every
call on the quota runs under its lock, so a run is a list of calls in any order, from any thread and
task. What the operating system answers to a validation is an argument of the call. The opening of
the root at startup, which is not used afterwards, is left out.
-/

open Library Library.Lines

namespace NplgMcp.Pdf

/-! ## The policy -/

/-- What a call raises. -/
inductive SlotError where
  | notDirectory
  | unavailableMounts
  | malformedMounts
  | foreignDevice
  | notOneMount
  | filesystemType
  | mountOptions
  | totalBytes
  | availableBytes
  | totalInodes
  | availableInodes
  | alreadyLeased
  | released
  | invalidLease
  | foreignContext
  | alreadyEntered
  /-- an `OSError` or a `UnicodeDecodeError` that is not translated -/
  | system
  deriving DecidableEq, Repr

/-- The message of the `PdfWorkerSlotError`. -/
def SlotError.message : SlotError → String
  | .notDirectory => "PDF worker slot root is not a regular directory"
  | .unavailableMounts => "PDF worker slot mount metadata is unavailable"
  | .malformedMounts => "PDF worker slot mount metadata is malformed"
  | .foreignDevice => "PDF worker slot mount device does not match its root"
  | .notOneMount => "PDF worker slot must be exactly one non-nested mount"
  | .filesystemType => "PDF worker slot filesystem type does not match policy"
  | .mountOptions => "PDF worker slot mount options do not match policy"
  | .totalBytes => "PDF worker slot total byte capacity does not match policy"
  | .availableBytes => "PDF worker slot available byte headroom is insufficient"
  | .totalInodes => "PDF worker slot total inode capacity does not match policy"
  | .availableInodes => "PDF worker slot available inode headroom is insufficient"
  | .alreadyLeased => "PDF worker slot is already leased"
  | .released => "PDF worker slot lease was already released"
  | .invalidLease => "PDF worker slot lease is invalid"
  | .foreignContext => "PDF worker slot lease belongs to another execution context"
  | .alreadyEntered => "PDF worker slot lease is already entered"
  | .system => ""

/-- All of `PdfWorkerSlotPolicy`, with its validators; the version and the concurrency are 1, the
type of the filesystem is `ext4`, and the mount options are the required ones. -/
structure WorkerSlotPolicy extends PdfWorkerSlotPolicy where
  root : List Char
  minimumAvailableBytes : ℕ
  minimumAvailableInodes : ℕ
  root_absolute : root.head? = some '/'
  minimumAvailableBytes_mem : 0 < minimumAvailableBytes ∧ minimumAvailableBytes ≤ maximumTotalBytes
  minimumAvailableInodes_mem :
    0 < minimumAvailableInodes ∧ minimumAvailableInodes ≤ maximumTotalInodes

/-- `filesystem_type`. -/
def WorkerSlotPolicy.filesystemType (_ : WorkerSlotPolicy) : List Char := "ext4".toList

/-- `_REQUIRED_MOUNT_OPTIONS`. -/
def requiredMountOptions : List (List Char) :=
  ["rw".toList, "nodev".toList, "nosuid".toList, "noexec".toList]

/-! ## The mount table -/

/-- `character in "01234567"`. -/
def isOctal (c : Char) : Bool := '0' ≤ c && c ≤ '7'

/-- `int(character, 8)`. -/
def octalValue (c : Char) : ℕ := c.toNat - '0'.toNat

/-- `_decode_mountinfo_path`. -/
def decodeMountinfoPath : List Char → List Char
  | '\\' :: a :: b :: c :: rest =>
    if isOctal a && isOctal b && isOctal c then
      Char.ofNat (64 * octalValue a + 8 * octalValue b + octalValue c) :: decodeMountinfoPath rest
    else '\\' :: decodeMountinfoPath (a :: b :: c :: rest)
  | c :: rest => c :: decodeMountinfoPath rest
  | [] => []

/-- A device number, as `os.major` and `os.minor` take it apart. -/
structure Device where
  major : ℕ
  minor : ℕ
  deriving DecidableEq, Repr

/-- `f"{os.major(device)}:{os.minor(device)}"`. -/
def Device.text (device : Device) : List Char :=
  Nat.toDigits 10 device.major ++ ':' :: Nat.toDigits 10 device.minor

/-- What is read of a line. -/
structure MountLine where
  mountpoint : List Char
  device : List Char
  mountOptions : List (List Char)
  filesystemType : List Char
  deriving DecidableEq, Repr

/-- The `try` block of the loop; `none` is an `IndexError` or a `ValueError`. -/
def parseMountLine (line : List Char) : Option MountLine := do
  let fields := line.splitOn ' '
  let separator ← fields.idxOf? ['-']
  let mountpoint ← fields[4]?
  let device ← fields[2]?
  let options ← fields[5]?
  let filesystemType ← fields[separator + 1]?
  return ⟨decodeMountinfoPath mountpoint, device, options.splitOn ',', filesystemType⟩

/-- The loop of `_mount_details` over the lines, with `matches` and `nested_mount`. -/
def mountLoop (root expectedDevice : List Char) :
    List (List Char) → List (List (List Char) × List Char) → Bool →
      Except SlotError (List (List Char) × List Char)
  | [], found, nested =>
    if nested then .error .notOneMount
    else match found with
      | [details] => .ok details
      | _ => .error .notOneMount
  | line :: lines, found, nested =>
    match parseMountLine line with
    | none => .error .malformedMounts
    | some mount =>
      if mount.mountpoint = root ∧ mount.device ≠ expectedDevice then .error .foreignDevice
      else mountLoop root expectedDevice lines
        (if mount.mountpoint = root then found ++ [(mount.mountOptions, mount.filesystemType)]
          else found)
        (nested || (root ++ ['/']).isPrefixOf mount.mountpoint)

/-- `_mount_details` of the text of `/proc/self/mountinfo`. `read_text` has made newlines of carriage
returns, which end the same lines. -/
def mountDetails (text root : List Char) (device : Device) :
    Except SlotError (List (List Char) × List Char) :=
  mountLoop root device.text (splitlines text) [] false

/-! ## Validation -/

/-- What reading `/proc/self/mountinfo` gives. -/
inductive MountText where
  | osError
  | undecodable
  | content (text : List Char)
  deriving DecidableEq, Repr

/-- What `statvfs` says. -/
structure SlotCapacity where
  blocks : ℕ
  availableBlocks : ℕ
  fragmentSize : ℕ
  inodes : ℕ
  availableInodes : ℕ
  deriving DecidableEq, Repr

/-- What the operating system says of the root; a call without an answer raises an `OSError`. -/
structure SlotFacts where
  /-- whether `lstat` finds a directory that is no link -/
  isDirectory : Option Bool
  device : Device
  mountinfo : MountText
  capacity : Option SlotCapacity
  deriving DecidableEq, Repr

/-- `WorkerSlotFilesystem`. -/
structure WorkerSlotFilesystem where
  filesystemType : List Char
  mountOptions : List (List Char)
  totalBytes : ℕ
  availableBytes : ℕ
  totalInodes : ℕ
  availableInodes : ℕ
  deriving DecidableEq, Repr

/-- `_SystemWorkerSlotFilesystemInspector.inspect`. -/
def inspectSlot (root : List Char) (facts : SlotFacts) : Except SlotError WorkerSlotFilesystem :=
  match facts.isDirectory, facts.mountinfo with
  | none, _ => .error .system
  | some false, _ => .error .notDirectory
  | some true, .osError => .error .unavailableMounts
  | some true, .undecodable => .error .system
  | some true, .content text =>
    match mountDetails text root facts.device, facts.capacity with
    | .error error, _ => .error error
    | .ok _, none => .error .system
    | .ok (mountOptions, filesystemType), some capacity => .ok {
        filesystemType
        mountOptions
        totalBytes := capacity.blocks * capacity.fragmentSize
        availableBytes := capacity.availableBlocks * capacity.fragmentSize
        totalInodes := capacity.inodes
        availableInodes := capacity.availableInodes }

/-- The checks of `validate_quota_bound_staging_root`. -/
def slotViolation (policy : WorkerSlotPolicy) (observed : WorkerSlotFilesystem) :
    Option SlotError :=
  if observed.filesystemType ≠ policy.filesystemType then some .filesystemType
  else if ¬ requiredMountOptions ⊆ observed.mountOptions then some .mountOptions
  else if observed.totalBytes ≠ policy.maximumTotalBytes then some .totalBytes
  else if observed.availableBytes < policy.minimumAvailableBytes then some .availableBytes
  else if observed.totalInodes ≠ policy.maximumTotalInodes then some .totalInodes
  else if observed.availableInodes < policy.minimumAvailableInodes then some .availableInodes
  else none

/-- `validate_quota_bound_staging_root`. -/
def validateQuotaBoundStagingRoot (policy : WorkerSlotPolicy) (facts : SlotFacts) :
    Except SlotError Unit :=
  match inspectSlot policy.root facts with
  | .error error => .error error
  | .ok observed => match slotViolation policy observed with
    | some error => .error error
    | none => .ok ()

/-! ## Leases -/

/-- The lease that is active: `_active_lease`, whether it has been entered, and its owner. -/
structure ActiveLease where
  lease : Token
  entered : Bool
  owner : Context
  deriving DecidableEq, Repr

/-- `WorkerStagingQuota`. The leases are numbered in the order they are issued in. -/
structure WorkerStagingQuota where
  policy : WorkerSlotPolicy
  active : Option ActiveLease
  released : List Token
  nextLease : Token

namespace WorkerStagingQuota

variable (quota : WorkerStagingQuota)

/-- The quota after a startup whose validation succeeded. -/
def new (policy : WorkerSlotPolicy) : WorkerStagingQuota := ⟨policy, none, [], 0⟩

/-- `lease`. -/
def lease (caller : Context) (facts : SlotFacts) :
    Except SlotError Token × WorkerStagingQuota :=
  if quota.active.isSome then (.error .alreadyLeased, quota)
  else match validateQuotaBoundStagingRoot quota.policy facts with
    | .error error => (.error error, quota)
    | .ok _ => (.ok quota.nextLease,
        { quota with
          active := some ⟨quota.nextLease, false, caller⟩
          nextLease := quota.nextLease + 1 })

/-- `enter`. -/
def enter (caller : Context) (lease : Token) : Except SlotError Unit × WorkerStagingQuota :=
  if lease ∈ quota.released then (.error .released, quota)
  else match quota.active with
    | none => (.error .invalidLease, quota)
    | some active =>
      if active.lease ≠ lease then (.error .invalidLease, quota)
      else if active.owner ≠ caller then (.error .foreignContext, quota)
      else if active.entered then (.error .alreadyEntered, quota)
      else (.ok (), { quota with active := some { active with entered := true } })

/-- `release`. -/
def release (caller : Context) (lease : Token) : Except SlotError Unit × WorkerStagingQuota :=
  if quota.active.any (·.lease = lease) then
    if quota.active.any (·.owner = caller) then
      (.ok (), { quota with active := none, released := lease :: quota.released })
    else (.error .foreignContext, quota)
  else if lease ∈ quota.released then (.ok (), quota)
  else (.error .invalidLease, quota)

end WorkerStagingQuota

/-- A call on the quota, of a thread and task, with a lease that the caller may have from anywhere. -/
inductive SlotCall where
  | lease (caller : Context) (facts : SlotFacts)
  | enter (caller : Context) (lease : Token)
  | release (caller : Context) (lease : Token)

/-! ## One holder at a time -/

/-- What a call has done. -/
inductive SlotEvent where
  | issued (lease : Token) (owner : Context)
  | entered (lease : Token) (owner : Context)
  | returned (lease : Token) (owner : Context)
  deriving DecidableEq, Repr

/-- The quota with what has been done on it, oldest first. -/
structure SlotSystem where
  quota : WorkerStagingQuota
  events : List SlotEvent

namespace SlotSystem

/-- What a call has done to the quota; a second release has done nothing. -/
def event (quota : WorkerStagingQuota) : SlotCall → Option SlotEvent
  | .lease caller facts => ((quota.lease caller facts).1.toOption).map (.issued · caller)
  | .enter caller lease => ((quota.enter caller lease).1.toOption).map fun _ => .entered lease caller
  | .release caller lease =>
    if quota.active.isSome ∧ (quota.release caller lease).2.active.isNone then
      some (.returned lease caller)
    else none

/-- The quota after a call. -/
def after (quota : WorkerStagingQuota) : SlotCall → WorkerStagingQuota
  | .lease caller facts => (quota.lease caller facts).2
  | .enter caller lease => (quota.enter caller lease).2
  | .release caller lease => (quota.release caller lease).2

/-- A call. -/
def step (s : SlotSystem) (call : SlotCall) : SlotSystem :=
  ⟨after s.quota call, s.events ++ (event s.quota call).toList⟩

/-- The slot before the first call. -/
def new (policy : WorkerSlotPolicy) : SlotSystem := ⟨.new policy, []⟩

/-- What has been done with a lease that is over: it was issued, entered at most once and returned,
all by one owner. -/
def IsTurn (lease : Token) (turn : List SlotEvent) : Prop :=
  ∃ owner, turn = [.issued lease owner, .returned lease owner] ∨
    turn = [.issued lease owner, .entered lease owner, .returned lease owner]

/-- What has been done with the lease that is active. -/
def begun : Option ActiveLease → List SlotEvent
  | none => []
  | some ⟨lease, false, owner⟩ => [.issued lease owner]
  | some ⟨lease, true, owner⟩ => [.issued lease owner, .entered lease owner]

/-- The turns of the leases before the active one, one after another, then what has been done with
that. -/
structure Serial (s : SlotSystem) : Prop where
  turns : ∃ turns : List (List SlotEvent), s.events = turns.flatten ++ begun s.quota.active ∧
    List.Forall₂ IsTurn s.quota.released.reverse turns
  nodup : s.quota.released.Nodup
  issued : ∀ lease ∈ s.quota.released, lease < s.quota.nextLease
  fresh : ∀ active ∈ s.quota.active,
    active.lease ∉ s.quota.released ∧ active.lease < s.quota.nextLease

theorem serial_new (policy : WorkerSlotPolicy) : (new policy).Serial where
  turns := ⟨[], rfl, .nil⟩
  nodup := .nil
  issued := nofun
  fresh := nofun

variable {s : SlotSystem} {caller : Context} {lease : Token}

/-- A call that does nothing. -/
theorem Serial.unchanged (h : s.Serial) {call : SlotCall} (hafter : after s.quota call = s.quota)
    (hevent : event s.quota call = none) : (s.step call).Serial := by
  have hstep : s.step call = s := by
    unfold SlotSystem.step
    rw [hafter, hevent, Option.toList_none, List.append_nil]
  rw [hstep]
  exact h

/-- A lease is issued when none is active. -/
theorem Serial.issue (h : s.Serial) (facts : SlotFacts) :
    (s.step (.lease caller facts)).Serial := by
  cases hactive : s.quota.active with
  | some active =>
      have hlease : s.quota.lease caller facts = (.error .alreadyLeased, s.quota) := by
        rw [WorkerStagingQuota.lease, hactive]
        rfl
      refine h.unchanged (congrArg Prod.snd hlease) ?_
      rw [event, hlease]
      rfl
  | none =>
      cases hvalid : validateQuotaBoundStagingRoot s.quota.policy facts with
      | error error =>
          have hlease : s.quota.lease caller facts = (.error error, s.quota) := by
            rw [WorkerStagingQuota.lease, hactive, hvalid]
            rfl
          refine h.unchanged (congrArg Prod.snd hlease) ?_
          rw [event, hlease]
          rfl
      | ok valid =>
          have hlease : s.quota.lease caller facts = (.ok s.quota.nextLease, { s.quota with
              active := some ⟨s.quota.nextLease, false, caller⟩
              nextLease := s.quota.nextLease + 1 }) := by
            rw [WorkerStagingQuota.lease, hactive, hvalid]
            rfl
          obtain ⟨turns, hevents, hturns⟩ := h.turns
          unfold SlotSystem.step
          rw [after, event, hlease]
          refine ⟨⟨turns, ?_, hturns⟩, h.nodup, fun other hother => ?_, ?_⟩
          · rw [hevents, hactive]
            simp [begun, Except.toOption]
          · exact Nat.lt_succ_of_lt (h.issued other hother)
          · rintro active ⟨⟩
            exact ⟨fun hmem => Nat.lt_irrefl _ (h.issued _ hmem), Nat.lt_succ_self _⟩

/-- A lease is entered once, by its owner. -/
theorem Serial.enter (h : s.Serial) : (s.step (.enter caller lease)).Serial := by
  have hcases : (∃ error, s.quota.enter caller lease = (.error error, s.quota)) ∨
      s.quota.active = some ⟨lease, false, caller⟩ ∧ s.quota.enter caller lease =
        (.ok (), { s.quota with active := some ⟨lease, true, caller⟩ }) := by
    unfold WorkerStagingQuota.enter
    split
    · exact .inl ⟨_, rfl⟩
    · cases hactive : s.quota.active with
      | none => exact .inl ⟨_, rfl⟩
      | some active =>
          obtain ⟨other, entered, owner⟩ := active
          dsimp only
          split
          · exact .inl ⟨_, rfl⟩
          · rename_i hlease
            obtain rfl := not_not.1 hlease
            split
            · exact .inl ⟨_, rfl⟩
            · rename_i howner
              obtain rfl := not_not.1 howner
              cases entered with
              | true => exact .inl ⟨_, rfl⟩
              | false => exact .inr ⟨rfl, rfl⟩
  rcases hcases with ⟨error, henter⟩ | ⟨hactive, henter⟩
  · refine h.unchanged (congrArg Prod.snd henter) ?_
    rw [event, henter]
    rfl
  · obtain ⟨turns, hevents, hturns⟩ := h.turns
    have hfresh := h.fresh _ hactive
    unfold SlotSystem.step
    rw [after, event, henter]
    refine ⟨⟨turns, ?_, hturns⟩, h.nodup, h.issued, ?_⟩
    · rw [hevents, hactive]
      simp [begun, Except.toOption]
    · rintro active ⟨⟩
      exact hfresh

/-- A lease is returned by its owner, and a lease that has been returned already is left alone. -/
theorem Serial.release (h : s.Serial) : (s.step (.release caller lease)).Serial := by
  cases hactive : s.quota.active with
  | none =>
      have hrelease : (s.quota.release caller lease).2 = s.quota := by
        rw [WorkerStagingQuota.release, hactive]
        simp only [Option.any_none, Bool.false_eq_true, if_false]
        split <;> rfl
      refine h.unchanged hrelease ?_
      rw [event, hactive]
      rfl
  | some active =>
      by_cases hmine : active.lease = lease ∧ active.owner = caller
      · obtain ⟨rfl, rfl⟩ := hmine
        have hrelease : s.quota.release active.owner active.lease = (.ok (), { s.quota with
            active := none, released := active.lease :: s.quota.released }) := by
          simp [WorkerStagingQuota.release, hactive]
        obtain ⟨turns, hevents, hturns⟩ := h.turns
        obtain ⟨hfresh, hissued⟩ := h.fresh active hactive
        have hturn : IsTurn active.lease (begun s.quota.active ++ [.returned active.lease active.owner]) := by
          obtain ⟨lease, entered, owner⟩ := active
          rw [hactive]
          cases entered with
          | false => exact ⟨owner, .inl rfl⟩
          | true => exact ⟨owner, .inr rfl⟩
        unfold SlotSystem.step
        rw [after, event, hrelease, hactive]
        refine ⟨⟨turns ++ [begun s.quota.active ++ [.returned active.lease active.owner]], ?_, ?_⟩,
          List.nodup_cons.2 ⟨hfresh, h.nodup⟩, List.forall_mem_cons.2 ⟨hissued, h.issued⟩, nofun⟩
        · rw [hevents]
          simp [begun, List.append_assoc]
        · rw [List.reverse_cons]
          exact List.rel_append hturns (.cons hturn .nil)
      · have hrelease : (s.quota.release caller lease).2 = s.quota := by
          rw [WorkerStagingQuota.release, hactive]
          simp only [Option.any_some, decide_eq_true_eq]
          split
          · rename_i hlease
            rw [if_neg fun howner => hmine ⟨hlease, howner⟩]
          · split <;> rfl
        refine h.unchanged hrelease ?_
        rw [event, hrelease, hactive]
        rfl

/-- Every call keeps the order. -/
theorem Serial.step (h : s.Serial) (call : SlotCall) : (s.step call).Serial := by
  cases call with
  | lease caller facts => exact h.issue facts
  | enter caller lease => exact h.enter
  | release caller lease => exact h.release

/-- Every run keeps it. -/
theorem Serial.run (h : s.Serial) (run : List SlotCall) : (run.foldl SlotSystem.step s).Serial := by
  induction run generalizing s with
  | nil => exact h
  | cons call run ih => exact ih (h.step call)

/-- The holder can return the slot, and nobody else can. -/
theorem release_active_iff {active : ActiveLease} (hactive : s.quota.active = some active) :
    (s.quota.release caller active.lease).2.active = none ↔ caller = active.owner := by
  unfold WorkerStagingQuota.release
  rw [hactive]
  simp only [Option.any_some, decide_true, if_true, decide_eq_true_eq]
  constructor
  · intro h
    by_contra hne
    rw [if_neg (Ne.symm hne), hactive] at h
    cases h
  · rintro rfl
    rw [if_pos rfl]

/-- **The slot has one holder at a time.** Whatever is called, by whomever and with whatever lease,
the leases have their turns one after another, each issued, entered at most once and returned by the
one context it was issued to; and the holder, and nobody else, can return the slot at any time. -/
theorem slot_serial (policy : WorkerSlotPolicy) (run : List SlotCall) :
    let s := run.foldl SlotSystem.step (new policy)
    (∃ leases turns, leases.Nodup ∧ List.Forall₂ IsTurn leases turns ∧
      s.events = turns.flatten ++ begun s.quota.active ∧
        ∀ active ∈ s.quota.active, active.lease ∉ leases) ∧
      ∀ active ∈ s.quota.active, ∀ caller,
        (s.quota.release caller active.lease).2.active = none ↔ caller = active.owner := by
  intro s
  have hserial : s.Serial := (serial_new policy).run run
  obtain ⟨turns, hevents, hturns⟩ := hserial.turns
  refine ⟨⟨s.quota.released.reverse, turns, List.nodup_reverse.2 hserial.nodup, hturns, hevents, ?_⟩,
    fun active hactive caller => release_active_iff hactive⟩
  intro active hactive hmem
  exact (hserial.fresh active hactive).1 (List.mem_reverse.1 hmem)

end SlotSystem

end NplgMcp.Pdf
