import Kiosk.Storage.JournalOps

/-! The simulation between the live index and the log. `Mirrors view bodies index`
says that replaying the bodies gives the records of the index, as far as `view`
sees them; each operation of the journal keeps it. -/
namespace Kiosk.Storage

open Library Protocol

/-- A way of looking at a record that transitions respect. -/
structure RecordView (α : Type) where
  of : JournalRecord → α
  transition {r r' : JournalRecord} (same : of r = of r') (t : JournalTransition) :
    of (r.transition t) = of (r'.transition t)

def wholeRecord : RecordView JournalRecord where
  of := id
  transition := by
    intro r r' same t
    rw [show r = r' from same]

def statusOnly : RecordView JournalSyncStatus where
  of := JournalRecord.syncStatus
  transition _ _ := rfl

structure Mirrors (view : RecordView α) (bodies : List Bytes) (records : Records) : Prop where
  small : ∀ body ∈ bodies, body.length < 2 ^ 32
  lookup : ∀ id : Bytes, ((replayBodies bodies)[id]?).map view.of = (records[id]?).map view.of

/-- Records stand under their own id, and the codec reads them back under it. -/
def Keyed (records : Records) : Prop :=
  ∀ (id : Bytes) (r : JournalRecord), records[id]? = some r →
    r.eventId = id ∧ r.Decodable ∧ Clean r.eventId

theorem Mirrors.nil (view : RecordView α) : Mirrors view [] ∅ := ⟨by simp, by simp⟩

theorem Mirrors.self (view : RecordView α) (small : ∀ body ∈ bodies, body.length < 2 ^ 32) :
    Mirrors view bodies (replayBodies bodies) := ⟨small, fun _ => rfl⟩

theorem Keyed.event (keyed : Keyed records) (decodable : r.Decodable) (clean : Clean r.eventId) :
    Keyed (records.insert r.eventId r) := by
  intro id found known
  rw [KeyedLog.lookup_insert] at known
  split at known
  · rename_i same
    cases known
    exact ⟨same, decodable, clean⟩
  · exact keyed id found known

theorem Keyed.transition (keyed : Keyed records) (t : JournalTransition) :
    Keyed (records.modify t.eventId (·.transition t)) := by
  intro id found known
  rw [KeyedLog.lookup_modify] at known
  split at known
  · obtain ⟨before, here, rfl⟩ := Option.map_eq_some_iff.mp known
    exact keyed id before here
  · exact keyed id found known

theorem Mirrors.event (mirrors : Mirrors view bodies records) (fresh : records[r.eventId]? = none)
    (decodable : r.Decodable) (clean : Clean r.eventId) (same : view.of r.stored = view.of r)
    (small : (encodeJournalEvent r).length < 2 ^ 32) :
    Mirrors view (bodies ++ [encodeJournalEvent r]) (records.insert r.eventId r) where
  small body member := by
    rcases List.mem_append.mp member with earlier | last
    · exact mirrors.small body earlier
    · rw [List.mem_singleton.mp last]; exact small
  lookup id := by
    have before := mirrors.lookup id
    rw [replayBodies_append, entryOf_event, if_pos decodable, sanitize_clean clean,
      KeyedLog.lookup_create, KeyedLog.lookup_insert]
    by_cases here : r.eventId = id
    · subst here
      rw [fresh] at before
      have absent : (replayBodies bodies)[r.eventId]? = none := by simpa using before
      simp [absent, same]
    · simpa [here] using before

theorem Mirrors.transition (mirrors : Mirrors view bodies records) (t : JournalTransition)
    (nonempty : t.eventId ≠ []) (clean : Clean t.eventId)
    (same : ∀ r : JournalRecord, view.of (r.transition t.stored) = view.of (r.transition t))
    (small : (encodeJournalTransition t).length < 2 ^ 32) :
    Mirrors view (bodies ++ [encodeJournalTransition t])
      (records.modify t.eventId (·.transition t)) where
  small body member := by
    rcases List.mem_append.mp member with earlier | last
    · exact mirrors.small body earlier
    · rw [List.mem_singleton.mp last]; exact small
  lookup id := by
    have before := mirrors.lookup id
    rw [replayBodies_append, entryOf_transition, if_pos nonempty, sanitize_clean clean,
      KeyedLog.lookup_change, KeyedLog.lookup_modify]
    by_cases here : t.eventId = id
    · subst here
      simp only [↓reduceIte, Option.map_map]
      cases left : (replayBodies bodies)[t.eventId]? with
      | none =>
        rw [left] at before
        have absent : records[t.eventId]? = none := by simpa using before.symm
        simp [absent]
      | some r =>
        rw [left] at before
        obtain ⟨r', known, viewed⟩ := Option.map_eq_some_iff.mp before.symm
        simp [known, same, view.transition viewed t]
    · simpa [here] using before

/-! Rewriting the log by a compaction. -/

open EventJournalIndex in
theorem lookup_keepRecord (records kept : Records) (used : UInt32) (keep : List Bytes)
    (id : Bytes) :
    ((keep.foldl (keepRecord records) (kept, used)).1)[id]? =
      if id ∈ keep then (records[id]?).or (kept[id]?) else kept[id]? := by
  induction keep generalizing kept used with
  | nil => simp
  | cons head rest ih =>
    rw [List.foldl_cons, keepRecord]
    cases found : records[head]? with
    | none =>
      rw [ih]
      by_cases same : id = head
      · subst same; simp [found]
      · simp [same]
    | some r =>
      rw [ih, KeyedLog.lookup_insert]
      by_cases same : head = id
      · subst same; simp [found]
      · simp [same, Ne.symm same]

theorem lookup_rebuild (index : EventJournalIndex) (keep : List Bytes) (id : Bytes) :
    (index.rebuildAfterCompaction keep).records[id]? = if id ∈ keep then index.records[id]?
      else none := by
  rw [EventJournalIndex.rebuildAfterCompaction, lookup_keepRecord]
  simp

theorem usedBytes_rebuild (index : EventJournalIndex) (keep : List Bytes) :
    (index.rebuildAfterCompaction keep).usedBytes =
      usedBytesOf ((EventJournal.recordsOf index keep).map encodeJournalEvent) := by
  have fold : ∀ (kept : Records) (used : UInt32),
        (keep.foldl (EventJournalIndex.keepRecord index.records) (kept, used)).2 =
      ((EventJournal.recordsOf index keep).map encodeJournalEvent).foldl
        (fun used body => used + frameSizeOf body) used := by
    induction keep with
    | nil => intro _ _; rfl
    | cons head rest ih =>
      intro kept used
      rw [List.foldl_cons, EventJournalIndex.keepRecord]
      cases found : index.records[head]? with
      | none => simpa [EventJournal.recordsOf, EventJournalIndex.find, found] using ih kept used
      | some r =>
        simpa [EventJournal.recordsOf, EventJournalIndex.find, found] using ih _
          (used + frameSizeOf (encodeJournalEvent r))
  exact fold ∅ 0

/-- A log of whole records replays to the first record of each id. -/
theorem lookup_records {written : List JournalRecord}
    (readable : ∀ r ∈ written, r.Decodable ∧ Clean r.eventId) (id : Bytes) :
    (replayBodies (written.map encodeJournalEvent))[id]? =
      (written.find? fun r => r.eventId = id).map JournalRecord.stored := by
  have entries : (written.map encodeJournalEvent).map entryOf =
      KeyedLog.snapshot (written.map fun r => (r.eventId, r.stored)) := by
    rw [KeyedLog.snapshot, List.map_map, List.map_map]
    refine List.map_congr_left fun r member => ?_
    have fine := readable r member
    simp [entryOf_event, fine.1, sanitize_clean fine.2]
  rw [replayBodies, entries, KeyedLog.lookup_snapshot, List.find?_map]
  simp [Function.comp_def]

/-- The rewritten log mirrors the rebuilt index when it holds one record for each
kept id, seen as the index sees it. -/
theorem Mirrors.rebuild {view : RecordView α} {index : EventJournalIndex}
    {written : List JournalRecord} {keep : List Bytes}
    (readable : ∀ r ∈ written, r.Decodable ∧ Clean r.eventId)
    (small : ∀ r ∈ written, (encodeJournalEvent r).length < 2 ^ 32)
    (sound : ∀ r ∈ written,
      r.eventId ∈ keep ∧ (index.records[r.eventId]?).map view.of = some (view.of r.stored))
    (complete : ∀ id ∈ keep, index.records[id]? ≠ none → ∃ r ∈ written, r.eventId = id) :
    Mirrors view (written.map encodeJournalEvent) (index.rebuildAfterCompaction keep).records where
  small body member := by
    obtain ⟨r, inside, rfl⟩ := List.mem_map.mp member
    exact small r inside
  lookup id := by
    rw [lookup_records readable, lookup_rebuild]
    cases found : written.find? fun r => r.eventId = id with
    | none =>
      have absent : ∀ r ∈ written, r.eventId ≠ id := by simpa using found
      by_cases kept : id ∈ keep
      · have missing : index.records[id]? = none := by
          by_contra known
          obtain ⟨r, inside, same⟩ := complete id kept known
          exact absent r inside same
        simp [missing]
      · simp [kept]
    | some r =>
      have inside := List.mem_of_find?_eq_some found
      have same : r.eventId = id := by simpa using List.find?_some found
      obtain ⟨kept, viewed⟩ := sound r inside
      rw [same] at kept viewed
      simp [kept, viewed]

theorem Keyed.rebuild {index : EventJournalIndex} (keyed : Keyed index.records)
    (keep : List Bytes) :
    Keyed (index.rebuildAfterCompaction keep).records := by
  intro id r known
  rw [lookup_rebuild] at known
  split at known
  · exact keyed id r known
  · cases known

theorem decideAppend_ok {index : EventJournalIndex}
    (decision : index.decideAppend eventId size = .ok) :
    index.records[eventId]? = none := by
  unfold EventJournalIndex.decideAppend at decision
  split at decision
  · cases decision
  · rename_i absent
    rw [EventJournalIndex.hasEvent, Std.ExtTreeMap.contains_eq_isSome_getElem?] at absent
    simpa using absent

theorem hasEvent_some {index : EventJournalIndex} (known : index.hasEvent eventId = true) :
    ∃ r, index.records[eventId]? = some r := by
  rw [EventJournalIndex.hasEvent, Std.ExtTreeMap.contains_eq_isSome_getElem?] at known
  exact Option.isSome_iff_exists.mp known

end Kiosk.Storage
