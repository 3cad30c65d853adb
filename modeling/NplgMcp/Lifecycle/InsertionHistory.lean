import NplgMcp.Lifecycle.InsertionOrder

/-!
# Histories of the insertion order

A store root over any number of processes. `Durable` is what the files say between any two system
calls: every record is valid, bound to its object and below the high-water record, and no two
objects share a number. `Loaded` is what a process has in memory on top of it. An allocation that
stops anywhere keeps both, so a restart finds what `initializeOrder` asks for.
-/

open Library

namespace NplgMcp

open Store (maxFilesystemCount)

namespace InsertionOrder

variable {jsonDigest : InsertionPayload → String} {o o' : InsertionOrder} {key : ObjectKey}
  {ends : WriteEnd × WriteEnd} {held : ObjectKey → Option ℕ} {issued : Set ℕ}

/-- The next number that the high-water record promises. -/
def persistedNext (o : InsertionOrder) : ℕ :=
  match o.highWater with
  | .missing | .damaged => 1
  | .record record => record.nextSequence

/-- What the files say: `held` are the numbers of the objects that have been given one, `issued` all
numbers ever given. -/
structure Durable (jsonDigest : InsertionPayload → String) (held : ObjectKey → Option ℕ)
    (issued : Set ℕ) (o : InsertionOrder) : Prop where
  highWater : (o.highWater = .missing ∧ ∀ key, o.records key = .missing) ∨
    ∃ next, o.highWater = .record (markRecord jsonDigest next) ∧ 1 ≤ next ∧ next ≤ maxFilesystemCount
  records : ∀ key, o.records key = .missing ∨ ∃ n, 1 ≤ n ∧ n < o.persistedNext ∧
    key.isInsertionKey = true ∧ key ∈ o.directories ∧
    o.records key = .record (objectRecord jsonDigest key n)
  distinct : ∀ key key' n, o.records key = .record (objectRecord jsonDigest key n) →
    o.records key' = .record (objectRecord jsonDigest key' n) → key = key'
  issued : ∀ n ∈ issued, n < o.persistedNext
  held : ∀ key n, held key = some n → o.records key = .record (objectRecord jsonDigest key n)

/-- What a process has in memory. -/
structure Loaded (jsonDigest : InsertionPayload → String) (issued : Set ℕ) (o : InsertionOrder) :
    Prop where
  next_pos : 1 ≤ o.nextSequence
  next_le : o.nextSequence ≤ o.persistedNext
  present : o.highWater ≠ .missing
  recorded : ∀ key n, o.records key = .record (objectRecord jsonDigest key n) → n < o.nextSequence
  issued : ∀ n ∈ issued, n < o.nextSequence
  sequences : ∀ key n, o.sequences.lookup key = some n →
    o.records key = .record (objectRecord jsonDigest key n)

@[simp] theorem persistedNext_mark {next : ℕ}
    (h : o.highWater = .record (markRecord jsonDigest next)) : o.persistedNext = next := by
  simp [persistedNext, h, markRecord]

theorem Durable.persistedNext_pos (h : Durable jsonDigest held issued o) : 1 ≤ o.persistedNext := by
  rcases h.highWater with ⟨hmissing, -⟩ | ⟨next, hmark, hpos, -⟩
  · simp [persistedNext, hmissing]
  · rw [persistedNext_mark hmark]
    exact hpos

theorem Durable.persistedNext_le (h : Durable jsonDigest held issued o) :
    o.persistedNext ≤ maxFilesystemCount := by
  rcases h.highWater with ⟨hmissing, -⟩ | ⟨next, hmark, -, hle⟩
  · simp [persistedNext, hmissing, maxFilesystemCount]
  · rw [persistedNext_mark hmark]
    exact hle

/-- The next number is written to the high-water record. -/
theorem Durable.mark (h : Durable jsonDigest held issued o) (hloaded : Loaded jsonDigest issued o)
    (hroom : o.nextSequence < maxFilesystemCount) :
    Durable jsonDigest held issued
      { o with highWater := .record (markRecord jsonDigest (o.nextSequence + 1)) } where
  highWater := .inr ⟨_, rfl, by omega, hroom⟩
  records := by
    intro key
    rcases h.records key with hmissing | ⟨n, hpos, -, hkey, hdirectory, hrecord⟩
    · exact .inl hmissing
    · have hbelow := hloaded.recorded key n hrecord
      exact .inr ⟨n, hpos, Nat.lt_succ_of_lt hbelow, hkey, hdirectory, hrecord⟩
  distinct := h.distinct
  issued := fun n hn => Nat.lt_succ_of_lt (hloaded.issued n hn)
  held := h.held

/-- An object that is given nothing else gets the number below the high-water record. -/
theorem Durable.record (h : Durable jsonDigest held issued o) {n : ℕ}
    (hpos : 1 ≤ n) (hnext : n < o.persistedNext)
    (hpath : key.isInsertionKey = true ∧ key ∈ o.directories)
    (hfresh : ∀ key', o.records key' ≠ .record (objectRecord jsonDigest key' n))
    (hfree : held key = none) :
    Durable jsonDigest held issued
      { o with
        records := Function.update o.records key (.record (objectRecord jsonDigest key n)) } where
  highWater := by
    rcases h.highWater with ⟨hmissing, -⟩ | hmark
    · simp [persistedNext, hmissing] at hnext
      omega
    · exact .inr hmark
  records := by
    intro key'
    by_cases heq : key' = key
    · subst heq
      exact .inr ⟨n, hpos, hnext, hpath.1, hpath.2, Function.update_self ..⟩
    · simp only [Function.update_of_ne heq]
      exact h.records key'
  distinct := by
    intro key₁ key₂ n' h₁ h₂
    by_cases heq₁ : key₁ = key <;> by_cases heq₂ : key₂ = key
    · exact heq₁.trans heq₂.symm
    · subst heq₁
      simp only [Function.update_self, Function.update_of_ne heq₂, StateFile.record.injEq,
        objectRecord, InsertionSequenceRecord.mk.injEq] at h₁ h₂
      obtain rfl : n = n' := h₁.2.2.1
      exact absurd h₂ (hfresh key₂)
    · subst heq₂
      simp only [Function.update_self, Function.update_of_ne heq₁, StateFile.record.injEq,
        objectRecord, InsertionSequenceRecord.mk.injEq] at h₁ h₂
      obtain rfl : n = n' := h₂.2.2.1
      exact absurd h₁ (hfresh key₁)
    · simp only [Function.update_of_ne heq₁, Function.update_of_ne heq₂] at h₁ h₂
      exact h.distinct key₁ key₂ n' h₁ h₂
  issued := h.issued
  held := by
    intro key' n' hheld
    have hne : key' ≠ key := by
      rintro rfl
      rw [hfree] at hheld
      cases hheld
    simp only [Function.update_of_ne hne]
    exact h.held key' n' hheld

/-- More is known to be given, or held. -/
theorem Durable.give (h : Durable jsonDigest held issued o) {n : ℕ} (hnext : n < o.persistedNext)
    (hrecord : o.records key = .record (objectRecord jsonDigest key n)) :
    Durable jsonDigest (Function.update held key (some n)) (insert n issued) o where
  highWater := h.highWater
  records := h.records
  distinct := h.distinct
  issued := by
    rintro m (rfl | hm)
    · exact hnext
    · exact h.issued m hm
  held := by
    intro key' n' hheld
    by_cases heq : key' = key
    · subst heq
      rw [Function.update_self] at hheld
      rw [← Option.some.inj hheld]
      exact hrecord
    · rw [Function.update_of_ne heq] at hheld
      exact h.held key' n' hheld

/-- No object has the next number. -/
theorem Loaded.fresh (h : Loaded jsonDigest issued o) (key' : ObjectKey) :
    o.records key' ≠ .record (objectRecord jsonDigest key' o.nextSequence) :=
  fun hrecord => lt_irrefl _ (h.recorded key' _ hrecord)

/-- Only the files matter. -/
theorem Durable.of_files (h : Durable jsonDigest held issued o) (hmark : o'.highWater = o.highWater)
    (hdirectories : o'.directories = o.directories) (hrecords : o'.records = o.records) :
    Durable jsonDigest held issued o' := by
  have hnext : o'.persistedNext = o.persistedNext := by simp only [persistedNext, hmark]
  refine ⟨?_, ?_, ?_, ?_, ?_⟩
  · rw [hmark, hrecords]
    exact h.highWater
  · rw [hrecords, hnext, hdirectories]
    exact h.records
  · rw [hrecords]
    exact h.distinct
  · rw [hnext]
    exact h.issued
  · rw [hrecords]
    exact h.held

/-- The number is taken, whether or not the object has got its record. -/
theorem Loaded.take (h : Loaded jsonDigest issued o) (hnew : o.sequences.lookup key = none)
    {records : ObjectKey → StateFile InsertionSequenceRecord}
    (hrecords : records = o.records ∨
      records = Function.update o.records key (.record (objectRecord jsonDigest key o.nextSequence))) :
    Loaded jsonDigest issued
      { o with
        highWater := .record (markRecord jsonDigest (o.nextSequence + 1))
        nextSequence := o.nextSequence + 1
        records := records } where
  next_pos := Nat.succ_pos _
  next_le := le_rfl
  present := nofun
  recorded := by
    intro key' n hrecord
    rcases hrecords with rfl | rfl
    · exact Nat.lt_succ_of_lt (h.recorded key' n hrecord)
    · by_cases heq : key' = key
      · subst heq
        simp only [Function.update_self, StateFile.record.injEq, objectRecord,
          InsertionSequenceRecord.mk.injEq] at hrecord
        obtain rfl : o.nextSequence = n := hrecord.2.2.1
        exact Nat.lt_succ_self _
      · simp only [Function.update_of_ne heq] at hrecord
        exact Nat.lt_succ_of_lt (h.recorded key' n hrecord)
  issued := fun n hn => Nat.lt_succ_of_lt (h.issued n hn)
  sequences := by
    intro key' n hlookup
    have hrecord := h.sequences key' n hlookup
    rcases hrecords with rfl | rfl
    · exact hrecord
    · have hne : key' ≠ key := by
        rintro rfl
        rw [hnew] at hlookup
        cases hlookup
      simp only [Function.update_of_ne hne]
      exact hrecord

/-- An object is found with a number below the next one. -/
theorem Loaded.give (h : Loaded jsonDigest issued o) {n : ℕ} (hnext : n < o.nextSequence)
    (hrecord : o.records key = .record (objectRecord jsonDigest key n)) :
    Loaded jsonDigest (insert n issued) { o with sequences := o.sequences.insert key n } where
  next_pos := h.next_pos
  next_le := h.next_le
  present := h.present
  recorded := h.recorded
  issued := by
    rintro m (rfl | hm)
    · exact hnext
    · exact h.issued m hm
  sequences := by
    intro key' n' hlookup
    by_cases heq : key' = key
    · subst heq
      rw [Finmap.lookup_insert] at hlookup
      rw [← Option.some.inj hlookup]
      exact hrecord
    · rw [Finmap.lookup_insert_of_ne _ heq] at hlookup
      exact h.sequences key' n' hlookup

section
variable {result : Except Stop ℕ} (halloc : Allocates jsonDigest o key result o')
  (hdurable : Durable jsonDigest held issued o) (hloaded : Loaded jsonDigest issued o)
include halloc hdurable hloaded

/-- Wherever an allocation stops, the files are in order. -/
theorem Allocates.durable (hfree : held key = none) : Durable jsonDigest held issued o' := by
  have hmark (room : o.nextSequence < maxFilesystemCount) := hdurable.mark hloaded room
  cases halloc with
  | refused => exact hdurable
  | marked room => exact hmark room
  | skipped room => exact (hmark room).of_files rfl rfl rfl
  | recorded room path | allocated room path =>
      have hrecord :=
        (hmark room).record hloaded.next_pos (Nat.lt_succ_self _) path hloaded.fresh hfree
      exact hrecord.of_files rfl rfl rfl

omit hdurable in
/-- Wherever an allocation raises, the process has loaded what it should. -/
theorem Allocates.loaded (hnew : o.sequences.lookup key = none) {stop : Stop}
    (hstop : result = .error stop) : Loaded jsonDigest issued o' := by
  cases halloc with
  | refused => exact hloaded
  | marked room =>
      exact ⟨hloaded.next_pos, Nat.le_succ _, nofun, hloaded.recorded, hloaded.issued,
        hloaded.sequences⟩
  | skipped room => exact hloaded.take hnew (.inl rfl)
  | recorded room path => exact hloaded.take hnew (.inr rfl)
  | allocated room path => cases hstop

/-- A number that is allocated is greater than all that were given, and given to the object. -/
theorem Allocates.given (hfree : held key = none) (hnew : o.sequences.lookup key = none) {n : ℕ}
    (hok : result = .ok n) :
    (∀ m ∈ issued, m < n) ∧
      Durable jsonDigest (Function.update held key (some n)) (insert n issued) o' ∧
      Loaded jsonDigest (insert n issued) o' ∧ o'.sequences = o.sequences.insert key n := by
  have hfiles := halloc.durable hdurable hloaded hfree
  cases halloc with
  | refused | marked | skipped | recorded => cases hok
  | allocated room path =>
      obtain rfl : o.nextSequence = n := Except.ok.inj hok
      have htaken := hloaded.take hnew (.inr rfl)
      refine ⟨hloaded.issued, hfiles.give (Nat.lt_succ_self _) (Function.update_self ..), ?_, rfl⟩
      exact htaken.give (Nat.lt_succ_self _) (Function.update_self ..)

end

/-! ## A restart -/

/-- A process that has read the high-water record and nothing else. -/
theorem Durable.loaded (h : Durable jsonDigest held issued o) (hpresent : o.highWater ≠ .missing)
    (hnext : o'.nextSequence = o.persistedNext) (hempty : o'.sequences = ∅)
    (hmark : o'.highWater = o.highWater) (hrecords : o'.records = o.records) :
    Loaded jsonDigest issued o' where
  next_pos := by
    rw [hnext]
    exact h.persistedNext_pos
  next_le := by
    rw [hnext]
    simp only [persistedNext, hmark, le_refl]
  present := by
    rw [hmark]
    exact hpresent
  recorded := by
    intro key n hrecord
    rw [hrecords] at hrecord
    rcases h.records key with hmissing | ⟨m, -, hbelow, -, -, hm⟩
    · rw [hmissing] at hrecord
      cases hrecord
    · rw [hm] at hrecord
      simp only [StateFile.record.injEq, objectRecord, InsertionSequenceRecord.mk.injEq] at hrecord
      rw [hnext, ← hrecord.2.2.1]
      exact hbelow
  issued := by
    rw [hnext]
    exact h.issued
  sequences := by
    intro key n hlookup
    rw [hempty, Finmap.lookup_empty] at hlookup
    cases hlookup

/-- Fewer numbers count as given. -/
theorem Loaded.mono {issued' : Set ℕ} (h : Loaded jsonDigest issued o) (hsub : issued' ⊆ issued) :
    Loaded jsonDigest issued' o :=
  ⟨h.next_pos, h.next_le, h.present, h.recorded, fun n hn => h.issued n (hsub hn), h.sequences⟩

/-- An object without a record has no number. -/
theorem Durable.held_eq_none (h : Durable jsonDigest held issued o)
    (hmissing : o.records key = .missing) : held key = none := by
  cases hheld : held key with
  | none => rfl
  | some n =>
      have hrecord := h.held key n hheld
      rw [hmissing] at hrecord
      cases hrecord

theorem Loaded.lookup_eq_none (h : Loaded jsonDigest issued o)
    (hmissing : o.records key = .missing) : o.sequences.lookup key = none := by
  cases hlookup : o.sequences.lookup key with
  | none => rfl
  | some n =>
      have hrecord := h.sequences key n hlookup
      rw [hmissing] at hrecord
      cases hrecord

/-- A record that stands is accepted. -/
theorem objectRecord_valid {n : ℕ} (hkey : key.isInsertionKey = true) (hpos : 1 ≤ n)
    (hle : n ≤ maxFilesystemCount) : (objectRecord jsonDigest key n).Valid jsonDigest :=
  ⟨rfl, hkey, isInsertionSequence_iff.2 ⟨hpos, hle⟩, rfl⟩

/-- What loading one object does where it returns: the object has its record, no other record
changes, and a number that was not on record is greater than all that were given. -/
structure Loads (jsonDigest : InsertionPayload → String) (issued : Set ℕ) (o : InsertionOrder)
    (key : ObjectKey) (n : ℕ) (o' : InsertionOrder) : Prop where
  loaded : Loaded jsonDigest issued o'
  sequences : o'.sequences = o.sequences.insert key n
  record : o'.records key = .record (objectRecord jsonDigest key n)
  others : ∀ key', key' ≠ key → o'.records key' = o.records key'
  directories : o'.directories = o.directories
  number : (o.records key = .record (objectRecord jsonDigest key n) ∧
      o'.nextSequence = o.nextSequence) ∨
    (o.records key = .missing ∧ (∀ m ∈ issued, m < n) ∧ o'.nextSequence = o.nextSequence + 1)

/-- An allocation for an object that has no record. -/
theorem Allocates.loads {result : Except Stop ℕ} (halloc : Allocates jsonDigest o key result o')
    (hdurable : Durable jsonDigest held issued o) (hloaded : Loaded jsonDigest issued o)
    (hmissing : o.records key = .missing) {n : ℕ} (hok : result = .ok n) :
    Loads jsonDigest issued o key n o' := by
  obtain ⟨hgreater, -, hloaded', hsequences⟩ := halloc.given hdurable hloaded
    (hdurable.held_eq_none hmissing) (hloaded.lookup_eq_none hmissing) hok
  refine ⟨hloaded'.mono (Set.subset_insert n issued), hsequences, ?_, ?_, ?_, ?_⟩
  · refine hloaded'.sequences key n ?_
    rw [hsequences, Finmap.lookup_insert]
  all_goals
    cases halloc with
    | refused | marked | skipped | recorded => cases hok
    | allocated room path => first
      | exact fun key' hne => Function.update_of_ne hne _ _
      | rfl
      | exact .inr ⟨hmissing, hgreater, rfl⟩

/-- Loading an object keeps the files in order. -/
theorem Durable.loadOne (h : Durable jsonDigest held issued o)
    (hloaded : Loaded jsonDigest issued o) :
    Durable jsonDigest held issued (o.loadObjectSequence jsonDigest key ends).2 ∧
      ∀ n, (o.loadObjectSequence jsonDigest key ends).1 = .ok n →
        Loads jsonDigest issued o key n (o.loadObjectSequence jsonDigest key ends).2 := by
  unfold InsertionOrder.loadObjectSequence
  split
  · exact ⟨h, nofun⟩
  · split
    · rename_i hmissing
      have halloc := @allocates_allocate jsonDigest o key ends hloaded.next_pos
      exact ⟨halloc.durable h hloaded (h.held_eq_none hmissing),
        fun n hok => halloc.loads h hloaded hmissing hok⟩
    · exact ⟨h, nofun⟩
    · rename_i record hrecord
      rcases h.records key with hmissing | ⟨n, hpos, hnext, hkey, -, hn⟩
      · rw [hmissing] at hrecord
        cases hrecord
      · obtain rfl : objectRecord jsonDigest key n = record := by
          rw [hn] at hrecord
          exact StateFile.record.inj hrecord
        split
        · exact ⟨h, nofun⟩
        · split
          · exact ⟨h, nofun⟩
          · refine ⟨h.of_files rfl rfl rfl, fun n' hok => ?_⟩
            obtain rfl : n = n' := Except.ok.inj hok
            have hgiven := hloaded.give (hloaded.recorded key n hn) hn
            exact ⟨hgiven.mono (Set.subset_insert n issued), rfl, hn, fun _ _ => rfl, rfl,
              .inl ⟨hn, rfl⟩⟩

/-- An object in a directory is loaded, if every write returns and a number is left for it. -/
theorem Durable.loadOne_ok (h : Durable jsonDigest held issued o)
    (hloaded : Loaded jsonDigest issued o) (hkey : key.isInsertionKey = true)
    (hdirectory : key ∈ o.directories) (hends : ends = (.returned, .returned))
    (hroom : o.records key = .missing → o.nextSequence < maxFilesystemCount) :
    ∃ n, (o.loadObjectSequence jsonDigest key ends).1 = .ok n := by
  have hpath := @objectPathError_eq_none jsonDigest o key |>.2 ⟨hkey, hdirectory⟩
  unfold InsertionOrder.loadObjectSequence
  simp only [hpath]
  rcases h.records key with hmissing | ⟨n, hpos, hnext, -, -, hn⟩
  · have hroom := hroom hmissing
    have hmark : isInsertionSequence (o.nextSequence + 1) = true :=
      isInsertionSequence_iff.2 ⟨by omega, hroom⟩
    have hsequence : isInsertionSequence o.nextSequence = true :=
      isInsertionSequence_iff.2 ⟨hloaded.next_pos, hroom.le⟩
    refine ⟨o.nextSequence, ?_⟩
    simp [hmissing, allocate, hpath, not_le.2 hroom, writeHighWater,
      InsertionHighWaterRecord.build, hmark, hends, WriteEnd.result, writeSequence,
      InsertionSequenceRecord.build, hkey, hsequence]
  · have hvalid : (objectRecord jsonDigest key n).Valid jsonDigest :=
      objectRecord_valid hkey hpos (hnext.le.trans h.persistedNext_le)
    have hbelow := hloaded.recorded key n hn
    have hbound : ¬ ((objectRecord jsonDigest key n).objectKey ≠ key ∨
        o.nextSequence ≤ (objectRecord jsonDigest key n).sequence) := by
      rintro (hne | hle)
      · exact hne rfl
      · exact absurd hbelow (not_lt.2 hle)
    exact ⟨n, by simp only [hn, not_not.2 hvalid, if_false, hbound]; rfl⟩

/-- What the loop does where it returns: every object has a number, the one on record or a greater
one than all that were given. -/
structure LoadsAll (jsonDigest : InsertionPayload → String) (issued : Set ℕ) (o : InsertionOrder)
    (objects : List ObjectKey) (o' : InsertionOrder) : Prop where
  loaded : Loaded jsonDigest issued o'
  numbers : ∀ key ∈ objects, ∃ n, o'.sequences.lookup key = some n ∧
    (o.records key = .record (objectRecord jsonDigest key n) ∨
      o.records key = .missing ∧ ∀ m ∈ issued, m < n)
  others : ∀ key, key ∉ objects → o'.sequences.lookup key = o.sequences.lookup key

variable {objects : List ObjectKey} {used : Finset ℕ} {all : ObjectKey → WriteEnd × WriteEnd}

/-- The loop keeps the files in order, wherever it stops. -/
theorem Durable.loadAll (h : Durable jsonDigest held issued o)
    (hloaded : Loaded jsonDigest issued o) (hnodup : objects.Nodup) :
    Durable jsonDigest held issued (loadObjectSequences jsonDigest all o objects used).2 ∧
      ((loadObjectSequences jsonDigest all o objects used).1 = .ok () →
        LoadsAll jsonDigest issued o objects
          (loadObjectSequences jsonDigest all o objects used).2) := by
  induction objects generalizing o used with
  | nil => exact ⟨h, fun _ => ⟨hloaded, nofun, fun _ _ => rfl⟩⟩
  | cons key rest ih =>
      obtain ⟨hkey, hrest⟩ := List.nodup_cons.1 hnodup
      have hload := @Durable.loadOne jsonDigest o key (all key) held issued h hloaded
      unfold InsertionOrder.loadObjectSequences
      split <;> rename_i heq <;> rw [heq] at hload
      · exact ⟨hload.1, nofun⟩
      · rename_i n o'
        obtain ⟨hdurable', hloads⟩ := hload
        have hone := hloads n rfl
        split_ifs
        · exact ⟨hdurable', nofun⟩
        · obtain ⟨hdurable, hall⟩ := @ih o' (insert n used) hdurable' hone.loaded hrest
          refine ⟨hdurable, fun hok => ?_⟩
          obtain ⟨hloaded'', hnumbers, hothers⟩ := hall hok
          refine ⟨hloaded'', fun key' hkey' => ?_, fun key' hkey' => ?_⟩
          · rcases List.mem_cons.1 hkey' with rfl | hmem
            · refine ⟨n, ?_, ?_⟩
              · rw [hothers _ hkey, hone.sequences, Finmap.lookup_insert]
              · exact hone.number.imp And.left fun hnew => ⟨hnew.1, hnew.2.1⟩
            · have hne : key' ≠ key := ne_of_mem_of_not_mem hmem hkey
              rw [← hone.others key' hne]
              exact hnumbers key' hmem
          · have hmem := List.not_mem_of_not_mem_cons hkey'
            have hne := List.ne_of_not_mem_cons hkey'
            rw [hothers key' hmem, hone.sequences, Finmap.lookup_insert_of_ne _ hne]

/-- How many of the objects have no record. -/
def missingRecords (o : InsertionOrder) (objects : List ObjectKey) : ℕ :=
  (objects.filter fun key => (o.records key).isMissing).length

theorem missingRecords_cons {rest : List ObjectKey} :
    o.missingRecords (key :: rest) =
      o.missingRecords rest + if (o.records key).isMissing then 1 else 0 := by
  unfold missingRecords
  rw [List.filter_cons]
  split_ifs <;> rfl

/-- The loop returns if every write does, every object has its directory and numbers are left. -/
theorem Durable.loadAll_ok (h : Durable jsonDigest held issued o)
    (hloaded : Loaded jsonDigest issued o) (hnodup : objects.Nodup)
    (hobjects : ∀ key ∈ objects, key.isInsertionKey = true ∧ key ∈ o.directories)
    (hused : ∀ n ∈ used, ∃ key, key ∉ objects ∧
      o.records key = .record (objectRecord jsonDigest key n))
    (hroom : o.nextSequence + o.missingRecords objects ≤ maxFilesystemCount) :
    (loadObjectSequences jsonDigest (fun _ => (.returned, .returned)) o objects used).1 = .ok () := by
  induction objects generalizing o used with
  | nil => rfl
  | cons key rest ih =>
      obtain ⟨hkey, hrest⟩ := List.nodup_cons.1 hnodup
      obtain ⟨hvalid, hdirectory⟩ := hobjects key List.mem_cons_self
      have hload := @Durable.loadOne jsonDigest o key (.returned, .returned) held issued h hloaded
      obtain ⟨n, hok⟩ := h.loadOne_ok hloaded hvalid hdirectory rfl fun hmissing => by
        simp only [missingRecords_cons, hmissing, StateFile.isMissing, if_true] at hroom
        omega
      obtain ⟨hdurable', hloads⟩ := hload
      have hone := hloads n hok
      unfold InsertionOrder.loadObjectSequences
      split <;> rename_i heq <;> rw [heq] at hok hone hdurable'
      · cases hok
      · rename_i n' o'
        obtain rfl : n' = n := Except.ok.inj hok
        change Loads jsonDigest issued o key n' o' at hone
        have hnew : n' ∉ used := by
          intro hmem
          obtain ⟨key', hkey', hrecord⟩ := hused n' hmem
          have hne := List.ne_of_not_mem_cons hkey'
          rw [← hone.others key' hne] at hrecord
          exact hne (hdurable'.distinct key' key n' hrecord hone.record)
        rw [if_neg hnew]
        refine ih hdurable' hone.loaded hrest (fun key' hkey' => ?_) (fun m hm => ?_) ?_
        · rw [hone.directories]
          exact hobjects key' (List.mem_cons_of_mem _ hkey')
        · rcases Finset.mem_insert.1 hm with rfl | hold
          · exact ⟨key, hkey, hone.record⟩
          · obtain ⟨key', hkey', hrecord⟩ := hused m hold
            refine ⟨key', List.not_mem_of_not_mem_cons hkey', ?_⟩
            rw [hone.others key' (List.ne_of_not_mem_cons hkey')]
            exact hrecord
        · have hsame : o'.missingRecords rest = o.missingRecords rest := by
            refine congrArg List.length (List.filter_congr fun key' hkey' => ?_)
            rw [hone.others key' (ne_of_mem_of_not_mem hkey' hkey)]
          rw [hsame]
          rcases hone.number with ⟨hrecord, hnext⟩ | ⟨hmissing, -, hnext⟩
          · simp only [missingRecords_cons, hrecord, StateFile.isMissing] at hroom
            omega
          · simp only [missingRecords_cons, hmissing, StateFile.isMissing, if_true] at hroom
            omega

/-- The first high-water record. -/
theorem Durable.markFirst (h : Durable jsonDigest held issued o) (hmissing : o.highWater = .missing) :
    Durable jsonDigest held issued { o with highWater := .record (markRecord jsonDigest 1) } := by
  have hnext : o.persistedNext = 1 := by simp [persistedNext, hmissing]
  refine ⟨.inr ⟨1, rfl, le_rfl, by decide⟩, fun key => ?_, h.distinct, fun n hn => ?_, h.held⟩
  · have hrecord := h.records key
    rw [hnext] at hrecord
    exact hrecord
  · have hlt := h.issued n hn
    rw [hnext] at hlt
    exact hlt

theorem markRecord_valid {next : ℕ} (hpos : 1 ≤ next) (hle : next ≤ maxFilesystemCount) :
    (markRecord jsonDigest next).Valid jsonDigest :=
  ⟨rfl, isInsertionSequence_iff.2 ⟨hpos, hle⟩, rfl⟩

/-- A process that starts either finds the list of objects not in order, or stops at its first
write, or comes to the loop with the high-water record before it. -/
theorem Durable.initializeOrder_cases (h : Durable jsonDigest held issued o) {first : WriteEnd} :
    (¬ (objects.Pairwise (· ≤ ·) ∧ objects.Nodup) ∧
        ∃ error, o.restarted.initializeOrder jsonDigest objects first all =
          (.error (.raised error), o.restarted)) ∨
      (o.highWater = .missing ∧ first.result ≠ .ok () ∧
        ∃ stop file, o.restarted.initializeOrder jsonDigest objects first all =
            (.error stop, { o.restarted with highWater := file }) ∧
          (file = .missing ∨ file = .record (markRecord jsonDigest 1))) ∨
      (objects.Pairwise (· ≤ ·) ∧ objects.Nodup ∧ ∃ started : InsertionOrder,
        Durable jsonDigest held issued started ∧ Loaded jsonDigest issued started ∧
        started.records = o.records ∧ started.directories = o.directories ∧
        started.sequences = ∅ ∧ started.nextSequence = o.persistedNext ∧
        o.restarted.initializeOrder jsonDigest objects first all =
          loadObjectSequences jsonDigest all started objects ∅) := by
  have hone : isInsertionSequence 1 = true := by decide
  unfold initializeOrder
  split
  · rename_i hsorted
    exact .inl ⟨fun hboth => hsorted hboth.1, _, rfl⟩
  · rename_i hsorted
    split
    · rename_i hnodup
      exact .inl ⟨fun hboth => hnodup hboth.2, _, rfl⟩
    · rename_i hnodup
      refine .inr ?_
      rcases h.highWater with ⟨hmissing, hrecords⟩ | ⟨next, hmark, hpos, hle⟩
      · have hnone : (objects.any fun key => !(o.restarted.records key).isMissing) = false := by
          simp [restarted, hrecords, StateFile.isMissing]
        have hhigh : o.restarted.highWater = .missing := hmissing
        simp only [hhigh, hnone, Bool.false_eq_true, if_false, writeHighWater,
          InsertionHighWaterRecord.build, hone, if_true]
        rcases WriteEnd.cases_result first with ⟨stop, hstop⟩ | ⟨hok, hrenamed⟩
        · have hraised : first.result ≠ .ok () := by simp [hstop]
          refine .inl ⟨hmissing, hraised, ?_⟩
          simp only [hstop]
          refine ⟨stop, _, rfl, ?_⟩
          unfold WriteEnd.file
          split_ifs
          · exact .inr rfl
          · exact .inl rfl
        · have hfirst := h.markFirst hmissing
          have hnext : o.persistedNext = 1 := by simp [persistedNext, hmissing]
          have hmarked : StateFile.record (markRecord jsonDigest 1) ≠ .missing := by simp
          refine .inr ⟨not_not.1 hsorted, not_not.1 hnodup,
            { o.restarted with highWater := .record (markRecord jsonDigest 1) },
            hfirst.of_files rfl rfl rfl,
            hfirst.loaded hmarked rfl rfl rfl rfl, rfl, rfl, rfl, hnext.symm, ?_⟩
          simp only [hok, WriteEnd.file, hrenamed, if_true]
          rfl
      · have hhigh : o.restarted.highWater = .record (markRecord jsonDigest next) := hmark
        have hvalid := @markRecord_valid jsonDigest next hpos hle
        have hnext := persistedNext_mark hmark
        simp only [hhigh, not_not.2 hvalid, if_false]
        have hmarked : o.highWater ≠ .missing := by simp [hmark]
        refine .inr ⟨not_not.1 hsorted, not_not.1 hnodup, { o.restarted with nextSequence := next },
          h.of_files rfl rfl rfl, h.loaded hmarked hnext.symm rfl rfl rfl, rfl,
          rfl, rfl, hnext.symm, ?_⟩
        rw [← hhigh]
        rfl

/-- Starting keeps the files in order, wherever it stops. -/
theorem Durable.start (h : Durable jsonDigest held issued o) {first : WriteEnd} :
    Durable jsonDigest held issued (o.restarted.initializeOrder jsonDigest objects first all).2 ∧
      ((o.restarted.initializeOrder jsonDigest objects first all).1 = .ok () →
        LoadsAll jsonDigest issued { o with sequences := ∅ } objects
          (o.restarted.initializeOrder jsonDigest objects first all).2) := by
  rcases @Durable.initializeOrder_cases jsonDigest o held issued objects all h first with
    ⟨-, error, heq⟩ | ⟨hmissing, -, stop, file, heq, hfile⟩ |
    ⟨-, hnodup, started, hdurable, hloaded, hrecords, -, hempty, -, heq⟩ <;> rw [heq]
  · exact ⟨h.of_files rfl rfl rfl, nofun⟩
  · refine ⟨?_, nofun⟩
    rcases hfile with rfl | rfl
    · exact h.of_files hmissing.symm rfl rfl
    · exact (h.markFirst hmissing).of_files rfl rfl rfl
  · obtain ⟨hdurable', hall⟩ := @Durable.loadAll jsonDigest started held issued objects ∅ all hdurable hloaded hnodup
    refine ⟨hdurable', fun hok => ?_⟩
    obtain ⟨hloaded', hnumbers, hothers⟩ := hall hok
    rw [hrecords] at hnumbers
    rw [hempty] at hothers
    exact ⟨hloaded', hnumbers, hothers⟩

/-- **A restart succeeds** if every write of it returns and numbers are left for the objects without
a record. -/
theorem Durable.start_ok (h : Durable jsonDigest held issued o) (hsorted : objects.Pairwise (· ≤ ·))
    (hnodup : objects.Nodup)
    (hobjects : ∀ key ∈ objects, key.isInsertionKey = true ∧ key ∈ o.directories)
    (hroom : o.persistedNext + o.missingRecords objects ≤ maxFilesystemCount) :
    (o.restarted.initializeOrder jsonDigest objects .returned
      fun _ => (.returned, .returned)).1 = .ok () := by
  rcases @Durable.initializeOrder_cases jsonDigest o held issued objects
      (fun _ => (.returned, .returned)) h .returned with
    ⟨hnot, -⟩ | ⟨-, hstop, -⟩ |
    ⟨-, -, started, hdurable, hloaded, hrecords, hdirectories, -, hnext, heq⟩
  · exact absurd ⟨hsorted, hnodup⟩ hnot
  · exact absurd rfl hstop
  · rw [heq]
    refine hdurable.loadAll_ok hloaded hnodup ?_ (by simp) ?_
    · rw [hdirectories]
      exact hobjects
    · rw [hnext]
      simp only [missingRecords, hrecords]
      exact hroom

/-! ## Objects that come and go -/

/-- The directory of an object is deleted with its record, and the process is told. -/
def deleted (o : InsertionOrder) (key : ObjectKey) : InsertionOrder :=
  { o with
    directories := o.directories.erase key
    records := Function.update o.records key .missing
    sequences := o.sequences.erase key }

/-- An object whose directory is gone, or that nobody counts on. -/
theorem Durable.forget (h : Durable jsonDigest held issued o) :
    Durable jsonDigest (Function.update held key none) issued o where
  highWater := h.highWater
  records := h.records
  distinct := h.distinct
  issued := h.issued
  held := by
    intro key' n hheld
    by_cases heq : key' = key
    · rw [heq, Function.update_self] at hheld
      cases hheld
    · rw [Function.update_of_ne heq] at hheld
      exact h.held key' n hheld

/-- Files that are gone. -/
theorem update_missing_eq_record {key' : ObjectKey} {record : InsertionSequenceRecord} :
    Function.update o.records key .missing key' = .record record ↔
      key' ≠ key ∧ o.records key' = .record record := by
  by_cases heq : key' = key
  · simp [heq]
  · simp [heq]

theorem Durable.deleted (h : Durable jsonDigest held issued o) :
    Durable jsonDigest (Function.update held key none) issued (o.deleted key) where
  highWater := by
    rcases h.highWater with ⟨hmissing, hrecords⟩ | hmark
    · exact .inl ⟨hmissing, fun key' => by simp [InsertionOrder.deleted, Function.update_apply,
        hrecords]⟩
    · exact .inr hmark
  records := by
    intro key'
    by_cases heq : key' = key
    · rw [heq]
      exact .inl (Function.update_self ..)
    · rcases h.records key' with hmissing | ⟨n, hpos, hnext, hkey, hdirectory, hrecord⟩
      · exact .inl ((Function.update_of_ne heq ..).trans hmissing)
      · exact .inr ⟨n, hpos, hnext, hkey, Finset.mem_erase.2 ⟨heq, hdirectory⟩,
          update_missing_eq_record.2 ⟨heq, hrecord⟩⟩
  distinct := by
    intro key₁ key₂ n h₁ h₂
    exact h.distinct key₁ key₂ n (update_missing_eq_record.1 h₁).2 (update_missing_eq_record.1 h₂).2
  issued := h.issued
  held := by
    intro key' n hheld
    by_cases heq : key' = key
    · rw [heq, Function.update_self] at hheld
      cases hheld
    · rw [Function.update_of_ne heq] at hheld
      exact update_missing_eq_record.2 ⟨heq, h.held key' n hheld⟩

theorem lookup_remove_eq_some {key' : ObjectKey} {n : ℕ} :
    (o.remove key).sequences.lookup key' = some n ↔
      key' ≠ key ∧ o.sequences.lookup key' = some n := by
  by_cases heq : key' = key
  · subst heq
    simp [remove, Finmap.lookup_erase]
  · simp [remove, Finmap.lookup_erase_ne heq, heq]

theorem Loaded.remove (h : Loaded jsonDigest issued o) : Loaded jsonDigest issued (o.remove key) :=
  ⟨h.next_pos, h.next_le, h.present, h.recorded, h.issued,
    fun key' n hlookup => h.sequences key' n (lookup_remove_eq_some.1 hlookup).2⟩

theorem Loaded.deleted (h : Loaded jsonDigest issued o) :
    Loaded jsonDigest issued (o.deleted key) where
  next_pos := h.next_pos
  next_le := h.next_le
  present := h.present
  recorded := fun key' n hrecord => h.recorded key' n (update_missing_eq_record.1 hrecord).2
  issued := h.issued
  sequences := by
    intro key' n hlookup
    obtain ⟨hne, hlookup⟩ := lookup_remove_eq_some.1 hlookup
    exact update_missing_eq_record.2 ⟨hne, h.sequences key' n hlookup⟩

theorem Durable.makeDirectory (h : Durable jsonDigest held issued o) :
    Durable jsonDigest held issued { o with directories := insert key o.directories } where
  highWater := h.highWater
  records := by
    intro key'
    rcases h.records key' with hmissing | ⟨n, hpos, hnext, hkey, hdirectory, hrecord⟩
    · exact .inl hmissing
    · exact .inr ⟨n, hpos, hnext, hkey, Finset.mem_insert_of_mem hdirectory, hrecord⟩
  distinct := h.distinct
  issued := h.issued
  held := h.held

end InsertionOrder

/-! ## Histories -/

/-- What happens at a store root: a process starts with the object directories it has listed, calls
`ensure` or `remove`, or ends; directories come, and go with their records, the process being told.
-/
inductive InsertionAction where
  | start (objects : List ObjectKey) (first : WriteEnd) (ends : ObjectKey → WriteEnd × WriteEnd)
  | ensure (key : ObjectKey) (ends : WriteEnd × WriteEnd)
  | remove (key : ObjectKey)
  | crash
  | makeDirectory (key : ObjectKey)
  | deleteDirectory (key : ObjectKey)

/-- A store root, whether a process runs on it, the number of each surviving object that was given
one, and all numbers ever given. -/
structure InsertionHistory where
  order : InsertionOrder
  running : Bool
  held : ObjectKey → Option ℕ
  issued : Set ℕ

namespace InsertionHistory

/-- A store root without state files. -/
def fresh (directories : Finset ObjectKey) : InsertionHistory where
  order := ⟨.missing, directories, fun _ => .missing, 1, ∅⟩
  running := false
  held _ := none
  issued := ∅

/-- One step. An object that a new process does not list has not survived. -/
def step (jsonDigest : InsertionPayload → String) (h : InsertionHistory) :
    InsertionAction → InsertionHistory
  | .start objects first ends =>
    match h.order.restarted.initializeOrder jsonDigest objects first ends with
    | (.error _, order) => { h with order, running := false }
    | (.ok _, order) =>
      { order
        running := true
        held := fun key => if key ∈ objects then h.held key else none
        issued := h.issued ∪ { n | ∃ key, order.sequences.lookup key = some n } }
  | .ensure key ends =>
    if h.running then
      match h.order.ensure jsonDigest key ends with
      | (.error .crashed, order) => { h with order, running := false }
      | (.error (.raised _), order) => { h with order }
      | (.ok n, order) =>
        { h with order, held := Function.update h.held key (some n), issued := insert n h.issued }
    else h
  | .remove key =>
    if h.running then
      { h with order := h.order.remove key, held := Function.update h.held key none }
    else h
  | .crash => { h with running := false }
  | .makeDirectory key =>
    { h with order := { h.order with directories := insert key h.order.directories } }
  | .deleteDirectory key =>
    { h with order := h.order.deleted key, held := Function.update h.held key none }

variable {jsonDigest : InsertionPayload → String} {h : InsertionHistory} {action : InsertionAction}

/-- What holds in every state: the files are in order, and a running process has what they say. -/
structure Ordered (jsonDigest : InsertionPayload → String) (h : InsertionHistory) : Prop where
  durable : h.order.Durable jsonDigest h.held h.issued
  loaded : h.running = true → h.order.Loaded jsonDigest h.issued ∧
    ∀ key n, h.held key = some n → h.order.sequences.lookup key = some n

theorem ordered_fresh {directories : Finset ObjectKey} : Ordered jsonDigest (fresh directories) where
  durable := ⟨.inl ⟨rfl, fun _ => rfl⟩, fun _ => .inl rfl, nofun, nofun, nofun⟩
  loaded := nofun

namespace Ordered

/-- A process starts. -/
theorem start (hord : Ordered jsonDigest h) {objects : List ObjectKey} {first : WriteEnd}
    {ends : ObjectKey → WriteEnd × WriteEnd} :
    Ordered jsonDigest (h.step jsonDigest (.start objects first ends)) := by
  obtain ⟨hdurable, hall⟩ :=
    @InsertionOrder.Durable.start jsonDigest _ _ _ objects ends hord.durable first
  simp only [step]
  split <;> rename_i order heq <;> rw [heq] at hdurable hall
  · exact ⟨hdurable, nofun⟩
  · obtain ⟨hloaded, hnumbers, hothers⟩ := hall rfl
    have hbelow : ∀ n ∈ h.issued ∪ { n | ∃ key, order.sequences.lookup key = some n },
        n < order.nextSequence := by
      rintro n (hn | ⟨key, hlookup⟩)
      · exact hloaded.issued n hn
      · exact hloaded.recorded key n (hloaded.sequences key n hlookup)
    refine ⟨⟨hdurable.highWater, hdurable.records, hdurable.distinct, fun n hn => ?_, ?_⟩,
      fun _ => ⟨⟨hloaded.next_pos, hloaded.next_le, hloaded.present, hloaded.recorded, hbelow,
        hloaded.sequences⟩, ?_⟩⟩
    · exact lt_of_lt_of_le (hbelow n hn) hloaded.next_le
    · intro key n hheld
      dsimp only at hheld
      split_ifs at hheld
      exact hdurable.held key n hheld
    · intro key n hheld
      dsimp only at hheld
      split_ifs at hheld with hkey
      obtain ⟨m, hlookup, -⟩ := hnumbers key hkey
      have hrecord := hloaded.sequences key m hlookup
      rw [hdurable.held key n hheld] at hrecord
      simp only [StateFile.record.injEq, InsertionOrder.objectRecord,
        InsertionSequenceRecord.mk.injEq] at hrecord
      rw [hlookup, hrecord.2.2.1]

/-- What is held once an object is given a number. -/
theorem held_of_given {key key' : ObjectKey} {n n' : ℕ}
    (hheld : Function.update h.held key (some n) key' = some n') :
    key' = key ∧ n' = n ∨ key' ≠ key ∧ h.held key' = some n' := by
  by_cases heq : key' = key
  · rw [heq, Function.update_self] at hheld
    exact .inl ⟨heq, (Option.some.inj hheld).symm⟩
  · rw [Function.update_of_ne heq] at hheld
    exact .inr ⟨heq, hheld⟩

/-- A process asks for the number of an object. -/
theorem ensure (hord : Ordered jsonDigest h) {key : ObjectKey} {ends : WriteEnd × WriteEnd} :
    Ordered jsonDigest (h.step jsonDigest (.ensure key ends)) := by
  simp only [step]
  split_ifs with hrunning
  · obtain ⟨hloaded, hheld⟩ := hord.loaded hrunning
    unfold InsertionOrder.ensure
    cases hpath : h.order.objectPathError jsonDigest key with
    | some error => exact ⟨hord.durable, fun _ => ⟨hloaded, hheld⟩⟩
    | none =>
        cases hlookup : h.order.sequences.lookup key with
        | some n =>
            have hrecord := hloaded.sequences key n hlookup
            have hnext := hloaded.recorded key n hrecord
            refine ⟨hord.durable.give (lt_of_lt_of_le hnext hloaded.next_le) hrecord, fun _ =>
              ⟨⟨hloaded.next_pos, hloaded.next_le, hloaded.present, hloaded.recorded, ?_,
                hloaded.sequences⟩, ?_⟩⟩
            · rintro m (rfl | hm)
              · exact hnext
              · exact hloaded.issued m hm
            · intro key' n' hheld'
              rcases held_of_given hheld' with ⟨rfl, rfl⟩ | ⟨-, hheld'⟩
              · exact hlookup
              · exact hheld key' n' hheld'
        | none =>
            have hfree : h.held key = none := by
              cases hkey : h.held key with
              | none => rfl
              | some n =>
                  have hsome := hheld key n hkey
                  rw [hlookup] at hsome
                  cases hsome
            have halloc := @InsertionOrder.allocates_allocate jsonDigest _ key ends hloaded.next_pos
            have hdurable := halloc.durable hord.durable hloaded hfree
            dsimp only
            split <;> rename_i heq <;> rw [heq] at halloc hdurable
            · exact ⟨hdurable, nofun⟩
            · refine ⟨hdurable, fun _ => ⟨halloc.loaded hloaded hlookup rfl, fun key' n hkey' => ?_⟩⟩
              have hsame := hheld key' n hkey'
              cases halloc <;> exact hsame
            · rename_i n order
              obtain ⟨-, hdurable', hloaded', hsequences⟩ :=
                halloc.given hord.durable hloaded hfree hlookup rfl
              refine ⟨hdurable', fun _ => ⟨hloaded', fun key' n' hkey' => ?_⟩⟩
              change order.sequences.lookup key' = some n'
              change order.sequences = _ at hsequences
              rw [hsequences]
              rcases held_of_given hkey' with ⟨rfl, rfl⟩ | ⟨hne, hkey'⟩
              · exact Finmap.lookup_insert _
              · rw [Finmap.lookup_insert_of_ne _ hne]
                exact hheld key' n' hkey'
  · exact hord

/-- What is still held once an object is forgotten. -/
theorem held_of_forgotten {key key' : ObjectKey} {n : ℕ}
    (hheld : Function.update h.held key none key' = some n) :
    key' ≠ key ∧ h.held key' = some n := by
  by_cases heq : key' = key
  · rw [heq, Function.update_self] at hheld
    cases hheld
  · rw [Function.update_of_ne heq] at hheld
    exact ⟨heq, hheld⟩

/-- **One step keeps the order**, wherever a write in it stops. -/
theorem step (hord : Ordered jsonDigest h) : Ordered jsonDigest (h.step jsonDigest action) := by
  cases action with
  | start objects first ends => exact hord.start
  | ensure key ends => exact hord.ensure
  | remove key =>
      simp only [InsertionHistory.step]
      split_ifs with hrunning
      · obtain ⟨hloaded, hheld⟩ := hord.loaded hrunning
        refine ⟨hord.durable.forget.of_files rfl rfl rfl, fun _ =>
          ⟨hloaded.remove, fun key' n hkey' => ?_⟩⟩
        obtain ⟨hne, hkey'⟩ := held_of_forgotten hkey'
        exact InsertionOrder.lookup_remove_eq_some.2 ⟨hne, hheld key' n hkey'⟩
      · exact hord
  | crash => exact ⟨hord.durable, nofun⟩
  | makeDirectory key =>
      refine ⟨hord.durable.makeDirectory, fun hrunning => ?_⟩
      obtain ⟨hloaded, hheld⟩ := hord.loaded hrunning
      exact ⟨⟨hloaded.next_pos, hloaded.next_le, hloaded.present, hloaded.recorded, hloaded.issued,
        hloaded.sequences⟩, hheld⟩
  | deleteDirectory key =>
      refine ⟨hord.durable.deleted, fun hrunning => ?_⟩
      obtain ⟨hloaded, hheld⟩ := hord.loaded hrunning
      refine ⟨hloaded.deleted, fun key' n hkey' => ?_⟩
      obtain ⟨hne, hkey'⟩ := held_of_forgotten hkey'
      exact InsertionOrder.lookup_remove_eq_some.2 ⟨hne, hheld key' n hkey'⟩

end Ordered

/-- **What the insertion order promises** in a state: a restart on any of the object directories
succeeds and gives every object back the number it was given; a running process answers with that
number, all its numbers differ and lie below the next one; and a new number is greater than all that
were ever given. -/
structure KeepsOrder (jsonDigest : InsertionPayload → String) (h : InsertionHistory) : Prop where
  starts : ∀ objects : List ObjectKey, objects.Pairwise (· ≤ ·) → objects.Nodup →
    (∀ key ∈ objects, key.isInsertionKey = true ∧ key ∈ h.order.directories) →
    h.order.persistedNext + h.order.missingRecords objects ≤ maxFilesystemCount →
    (h.order.restarted.initializeOrder jsonDigest objects .returned
      fun _ => (.returned, .returned)).1 = .ok ()
  restores : ∀ objects first ends order,
    h.order.restarted.initializeOrder jsonDigest objects first ends = (.ok (), order) →
    ∀ key ∈ objects, ∃ n, order.sequences.lookup key = some n ∧
      (∀ m, h.held key = some m → n = m) ∧
      (h.order.records key = .missing → ∀ m ∈ h.issued, m < n)
  kept : h.running = true → ∀ key n, h.held key = some n →
    ∀ ends, h.order.ensure jsonDigest key ends = (.ok n, h.order)
  distinct : h.running = true → ∀ key key' n, h.order.sequences.lookup key = some n →
    h.order.sequences.lookup key' = some n → key = key'
  below : h.running = true → ∀ key n, h.order.sequences.lookup key = some n →
    n < h.order.nextSequence
  greater : h.running = true → ∀ key ends n order,
    h.order.ensure jsonDigest key ends = (.ok n, order) → h.order.sequences.lookup key = none →
    ∀ m ∈ h.issued, m < n

theorem Ordered.keepsOrder (hord : Ordered jsonDigest h) : KeepsOrder jsonDigest h where
  starts := fun objects hsorted hnodup hobjects hroom =>
    hord.durable.start_ok hsorted hnodup hobjects hroom
  restores := by
    intro objects first ends order heq key hkey
    obtain ⟨hdurable, hall⟩ :=
      @InsertionOrder.Durable.start jsonDigest _ _ _ objects ends hord.durable first
    rw [heq] at hdurable hall
    obtain ⟨n, hlookup, hnumber⟩ := (hall rfl).numbers key hkey
    refine ⟨n, hlookup, fun m hheld => ?_, fun hmissing => ?_⟩
    · have hrecord := (hall rfl).loaded.sequences key n hlookup
      rw [hdurable.held key m hheld] at hrecord
      simp only [StateFile.record.injEq, InsertionOrder.objectRecord,
        InsertionSequenceRecord.mk.injEq] at hrecord
      exact hrecord.2.2.1.symm
    · rcases hnumber with hrecord | ⟨-, hgreater⟩
      · change h.order.records key = _ at hrecord
        rw [hmissing] at hrecord
        cases hrecord
      · exact hgreater
  kept := by
    intro hrunning key n hheld ends
    have hlookup := (hord.loaded hrunning).2 key n hheld
    have hrecord := hord.durable.held key n hheld
    have hpath : h.order.objectPathError jsonDigest key = none := by
      rcases hord.durable.records key with hmissing | ⟨-, -, -, hkey, hdirectory, -⟩
      · rw [hmissing] at hrecord
        cases hrecord
      · exact InsertionOrder.objectPathError_eq_none.2 ⟨hkey, hdirectory⟩
    simp only [InsertionOrder.ensure, hpath, hlookup]
  distinct := by
    intro hrunning key key' n hkey hkey'
    have hloaded := (hord.loaded hrunning).1
    exact hord.durable.distinct key key' n (hloaded.sequences key n hkey)
      (hloaded.sequences key' n hkey')
  below := by
    intro hrunning key n hkey
    have hloaded := (hord.loaded hrunning).1
    exact hloaded.recorded key n (hloaded.sequences key n hkey)
  greater := by
    intro hrunning key ends n order heq hlookup
    have hloaded := (hord.loaded hrunning).1
    unfold InsertionOrder.ensure at heq
    split at heq
    · cases heq
    · simp only [hlookup] at heq
      have halloc := @InsertionOrder.allocates_allocate jsonDigest _ key ends hloaded.next_pos
      rw [heq] at halloc
      cases halloc with
      | allocated room path => exact hloaded.issued

/-- Two objects. -/
def firstObject : ObjectKey := ⟨.renders, "rnd_00000000000000000000000000000000"⟩

@[inherit_doc firstObject]
def secondObject : ObjectKey := ⟨.renders, "rnd_11111111111111111111111111111111"⟩

/-- An object is given a number and forgotten. -/
def ensureAndRemove : List InsertionAction :=
  [.ensure firstObject (.returned, .returned), .remove firstObject]

/-- All numbers are given; then a directory is made, and the process ends. -/
def exhaustingRun : List InsertionAction :=
  [.start [] .returned fun _ => (.returned, .returned), .makeDirectory firstObject] ++
    (List.replicate (maxFilesystemCount - 1) ensureAndRemove).flatten ++
    [.makeDirectory secondObject, .crash]

/-- A process that has given all numbers below this one and knows no object. -/
structure HasGiven (jsonDigest : InsertionPayload → String) (next : ℕ) (h : InsertionHistory) :
    Prop where
  running : h.running = true
  highWater : h.order.highWater = .record (InsertionOrder.markRecord jsonDigest next)
  next : h.order.nextSequence = next
  sequences : h.order.sequences = ∅
  directory : firstObject ∈ h.order.directories
  second : h.order.records secondObject = .missing

theorem HasGiven.succ {next : ℕ} (hgiven : HasGiven jsonDigest next h) (hpos : 1 ≤ next)
    (hroom : next < maxFilesystemCount) :
    HasGiven jsonDigest (next + 1) (ensureAndRemove.foldl (step jsonDigest) h) := by
  have hkey : firstObject.isInsertionKey = true := by decide
  have hne : secondObject ≠ firstObject := by decide
  have hmark : isInsertionSequence (next + 1) = true :=
    InsertionOrder.isInsertionSequence_iff.2 ⟨by omega, hroom⟩
  have hsequence : isInsertionSequence next = true :=
    InsertionOrder.isInsertionSequence_iff.2 ⟨hpos, hroom.le⟩
  have hpath := @InsertionOrder.objectPathError_eq_none jsonDigest _ _ |>.2 ⟨hkey, hgiven.directory⟩
  simp only [ensureAndRemove, List.foldl_cons, List.foldl_nil, step, hgiven.running, if_true,
    InsertionOrder.ensure, hpath, hgiven.sequences, Finmap.lookup_empty, InsertionOrder.allocate,
    hgiven.next, not_le.2 hroom, if_false, InsertionOrder.writeHighWater,
    InsertionHighWaterRecord.build, hmark, WriteEnd.result, InsertionOrder.writeSequence,
    InsertionSequenceRecord.build, hkey, hsequence, Bool.and_self]
  refine ⟨rfl, rfl, rfl, ?_, hgiven.directory, ?_⟩
  · exact Dict.erase_insert.trans (Dict.erase_of_lookup_none (Finmap.lookup_empty _))
  · simp only [InsertionOrder.remove, Function.update_of_ne hne]
    exact hgiven.second

theorem HasGiven.add {next : ℕ} (hgiven : HasGiven jsonDigest next h) (hpos : 1 ≤ next) {count : ℕ}
    (hroom : next + count ≤ maxFilesystemCount) :
    HasGiven jsonDigest (next + count)
      ((List.replicate count ensureAndRemove).flatten.foldl (step jsonDigest) h) := by
  induction count generalizing next h with
  | zero => exact hgiven
  | succ count ih =>
      rw [List.replicate_succ, List.flatten_cons, List.foldl_append, Nat.add_comm count 1,
        ← Nat.add_assoc]
      exact ih (hgiven.succ hpos (by omega)) (by omega) (by omega)

theorem hasGiven_start : HasGiven jsonDigest 1
    ([.start [] .returned fun _ => (.returned, .returned), .makeDirectory firstObject].foldl
      (step jsonDigest) (fresh ∅)) where
  running := rfl
  highWater := rfl
  next := rfl
  sequences := rfl
  directory := Finset.mem_insert_self ..
  second := rfl

/-- A directory is made, and the next process finds no number for it. -/
theorem HasGiven.exhausted (hgiven : HasGiven jsonDigest maxFilesystemCount h) :
    secondObject ∈
        ([.makeDirectory secondObject, .crash].foldl (step jsonDigest) h).order.directories ∧
      (([.makeDirectory secondObject, .crash].foldl (step jsonDigest) h).order.restarted.initializeOrder
        jsonDigest [secondObject] .returned fun _ => (.returned, .returned)).1 =
          .error (.raised .exhausted) := by
  have hmem : secondObject ∈ insert secondObject h.order.directories := Finset.mem_insert_self ..
  refine ⟨hmem, ?_⟩
  have hkey : secondObject.isInsertionKey = true := by decide
  have hone : isInsertionSequence 1 = true := by decide
  have hvalid : (InsertionOrder.markRecord jsonDigest maxFilesystemCount).Valid jsonDigest :=
    InsertionOrder.markRecord_valid (by decide) le_rfl
  have hnext : (InsertionOrder.markRecord jsonDigest maxFilesystemCount).nextSequence =
    maxFilesystemCount := rfl
  simp [step, InsertionOrder.initializeOrder, InsertionOrder.restarted, hgiven.highWater, hvalid,
    InsertionOrder.loadObjectSequences, InsertionOrder.loadObjectSequence,
    InsertionOrder.objectPathError, InsertionSequenceRecord.build, hkey, hone, hgiven.second,
    InsertionOrder.allocate, hnext]

/-- After `exhaustingRun` there is a directory that a process cannot start with. -/
def Exhausts (jsonDigest : InsertionPayload → String) : Prop :=
  secondObject ∈ (exhaustingRun.foldl (step jsonDigest) (fresh ∅)).order.directories ∧
    ((exhaustingRun.foldl (step jsonDigest) (fresh ∅)).order.restarted.initializeOrder jsonDigest
      [secondObject] .returned fun _ => (.returned, .returned)).1 = .error (.raised .exhausted)

theorem exhausts : Exhausts jsonDigest := by
  have hgiven := @HasGiven.add jsonDigest _ 1 hasGiven_start le_rfl (maxFilesystemCount - 1)
    (Nat.add_sub_of_le (by decide)).le
  rw [Nat.add_sub_of_le (by decide)] at hgiven
  rw [Exhausts, exhaustingRun, List.foldl_append, List.foldl_append]
  exact hgiven.exhausted

end InsertionHistory

end NplgMcp
