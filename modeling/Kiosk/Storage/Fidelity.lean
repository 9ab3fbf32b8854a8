import Kiosk.Storage.Compaction

/-! What the log and the index agree on whatever is appended while a compaction is
active: a view of the records that no transition of a record already rewritten
changes. Two of them: the strings a replay sends, and whether an outcome is final. -/
namespace Kiosk.Storage

open Library Protocol

/-- What a replay sends of a record, with the hash it was recorded under. -/
structure Carried where
  eventId : Bytes
  payload : Bytes
  payloadHash : Bytes
  deriving DecidableEq, Repr

def carried : RecordView Carried where
  of r := ⟨r.eventId, r.payload, r.payloadHash⟩
  transition same _ := same

/-- No string has a byte that the codec changes. -/
def Carried.Plain (strings : Carried) : Prop :=
  Clean strings.eventId ∧ Clean strings.payload ∧ Clean strings.payloadHash

theorem Carried.Plain.stored (plain : Carried.Plain (carried.of r)) :
    carried.of r.stored = carried.of r := by
  obtain ⟨eventId, payload, payloadHash⟩ := plain
  simp only [carried] at eventId payload payloadHash
  simp only [carried, JournalRecord.stored, sanitize_clean eventId, sanitize_clean payload,
    sanitize_clean payloadHash]

/-- Whether the outcome of an event is final. -/
def settled : RecordView Bool where
  of r := EventJournalIndex.isTerminal r.syncStatus
  transition _ _ := rfl

namespace EventJournal

section Writing
open Spiffs

/-- The ids of the records written for a chunk stand before the cursor it leaves. -/
theorem writeChunk_written {index : EventJournalIndex}
    (filed : ∀ (id : Bytes) (r : JournalRecord), index.records[id]? = some r → r.eventId = id)
    (fs : Spiffs) (i cursor : Nat) (ids : List Bytes) (behind : cursor ≤ i)
    (done : writeChunk index fs i cursor ids = (fs', reached, true)) :
    cursor ≤ reached ∧
      fs'.contentOf .tmp =
        fs.contentOf .tmp ++ framesOf ((recordsOf index ids).map encodeJournalEvent) ∧
      (∀ r ∈ recordsOf index ids, (encodeJournalEvent r).length < 2 ^ 32) ∧
      ((recordsOf index ids).map JournalRecord.eventId).Sublist (ids.take (reached - i)) := by
  induction ids generalizing fs i cursor with
  | nil =>
    rw [writeChunk] at done
    cases done
    simp [recordsOf]
  | cons id rest ih =>
    rw [writeChunk] at done
    cases found : index.find id with
    | none =>
      rw [found] at done
      obtain ⟨forward, content, small, ordered⟩ := ih fs (i + 1) cursor (by omega) done
      have spelled : recordsOf index (id :: rest) = recordsOf index rest := by
        simp [recordsOf, found]
      rw [spelled]
      refine ⟨forward, content, small, ordered.trans ?_⟩
      cases passed : reached - i with
      | zero => simp [show reached - (i + 1) = 0 by omega]
      | succ left =>
        rw [show reached - (i + 1) = left by omega, List.take_succ_cons]
        exact List.sublist_cons_self _ _
    | some r =>
      have appended := appendJournalFrame_appends fs .tmp (encodeJournalEvent r)
      rw [found] at done
      simp only at done
      cases result : fs.appendJournalFrame .tmp (encodeJournalEvent r) with
      | mk middle ok =>
        rw [result] at done appended
        cases ok with
        | false => cases done
        | true =>
          obtain ⟨forward, content, small, ordered⟩ := ih middle (i + 1) (i + 1) le_rfl done
          have spelled : recordsOf index (id :: rest) = r :: recordsOf index rest := by
            simp [recordsOf, found]
          have same : r.eventId = id := filed id r found
          rw [spelled]
          refine ⟨by omega, ?_, ?_, ?_⟩
          · rw [content, appended.whole, List.map_cons, framesOf_cons, List.append_assoc]
          · intro written member
            rcases List.mem_cons.mp member with rfl | later
            · exact appended.small
            · exact small written later
          · rw [show reached - i = reached - (i + 1) + 1 by omega, List.take_succ_cons,
              List.map_cons, same]
            exact ordered.cons_cons id

/-- A swap has counted one frame for each kept id. -/
theorem finishCompaction_counted (j : EventJournal) (keep : List Bytes)
    (swapped : (j.finishCompaction keep).2 = true) :
    (j.fs.scan .tmp).length = keep.length := by
  unfold finishCompaction at swapped
  simp only at swapped
  split at swapped
  · cases swapped
  · rename_i valid
    by_contra different
    exact valid (by simp [different])

/-- On a medium that refused nothing no temp file is left. -/
theorem finishCompaction_tmp (j : EventJournal) (keep : List Bytes) (noOld : j.fs.files .old = none)
    (healthy : (j.finishCompaction keep).1.fs.failed = false) :
    (j.finishCompaction keep).1.fs.files .tmp = none := by
  unfold finishCompaction at healthy ⊢
  simp only at healthy ⊢
  split at healthy
  · rename_i invalid
    rw [if_pos invalid]
    simp [remove]
  · rename_i valid
    rw [if_neg valid]
    cases live : j.fs.files .dat with
    | none =>
      simp only [fileExists, live, Option.isSome_none, Bool.false_eq_true, ↓reduceIte,
        Bool.not_true, rename] at healthy ⊢
      cases temp : j.fs.files .tmp with
      | none => simp [noOld, temp]
      | some written =>
        by_cases renames : j.fs.medium.renames = true
        · simp [renames, remove]
        · simp [temp, renames, noOld] at healthy
    | some content =>
      simp only [fileExists, live, Option.isSome_some, ↓reduceIte, rename, noOld] at healthy ⊢
      by_cases renames : j.fs.medium.renames = true
      · simp only [renames, ↓reduceIte, Bool.not_true, Bool.false_eq_true] at healthy ⊢
        cases temp : j.fs.files .tmp with
        | none =>
          simp only [Function.update_of_ne (show JournalPath.tmp ≠ .old by decide),
            Function.update_of_ne (show JournalPath.tmp ≠ .dat by decide), temp,
              Function.update_self,
            Option.isSome_some, ↓reduceIte,
              Function.update_of_ne (show JournalPath.dat ≠ .old by decide), renames]
        | some written =>
          simp only [Function.update_of_ne (show JournalPath.tmp ≠ .old by decide),
            Function.update_of_ne (show JournalPath.tmp ≠ .dat by decide), temp,
              Function.update_self,
            Function.update_of_ne (show JournalPath.dat ≠ .old by decide), remove]
      · simp [renames, remove]

theorem scan_length (fs : Spiffs) (path : JournalPath)
    (content : fs.contentOf path = framesOf bodies)
    (small : ∀ body ∈ bodies, body.length < 2 ^ 32) (opens : fs.medium.opens = true) :
    (fs.scan path).length = bodies.length := by
  have scanned : fs.scan path = scanJournal (framesOf bodies ++ []) := by
    rw [List.append_nil, ← content, scan, contentOf]
    cases fs.files path with
    | none => rfl
    | some content => simp [opens]
  rw [scanned, scanJournal_frames small, List.length_append, okFrames_length]
  rfl

end Writing

section Invariant
variable {α : Type} (view : RecordView α) (copied : α → Prop)

/-- The temp file of an active compaction: some of the records before the cursor. -/
def Rewriting (j : EventJournal) : Prop :=
  ∃ written : List JournalRecord,
    j.fs.contentOf .tmp = framesOf (written.map encodeJournalEvent) ∧
      (written.map JournalRecord.eventId).Sublist (j.compactionKeep.take j.compactionWriteIndex) ∧
      ∀ r ∈ written, (r.Decodable ∧ Clean r.eventId) ∧ (encodeJournalEvent r).length < 2 ^ 32 ∧
        (j.index.records[r.eventId]?).map view.of = some (view.of r)

/-- Log and index show the same, and only what is copied. -/
structure Intact (j : EventJournal) : Prop where
  log : ∃ bodies, j.fs.contentOf .dat = framesOf bodies ∧ (∀ body ∈ bodies, Encoded body) ∧
    Mirrors view bodies j.index.records
  keyed : Keyed j.index.records
  copies : ∀ (id : Bytes) (r : JournalRecord), j.index.records[id]? = some r → copied (view.of r)
  noOld : j.fs.files .old = none
  rewriting : j.compactionActive = true → Rewriting view j

/-- The codec shows what was written, and a transition leaves a copied record copied. -/
structure Lossless : Prop where
  stored : ∀ r : JournalRecord, copied (view.of r) → view.of r.stored = view.of r
  change : ∀ (r : JournalRecord) (t : JournalTransition),
    view.of (r.transition t.stored) = view.of (r.transition t)
  kept : ∀ (r : JournalRecord) (t : JournalTransition), copied (view.of r) →
    copied (view.of (r.transition t))

variable {view copied} {j : EventJournal}

theorem Intact.mono {more : α → Prop} (intact : Intact view copied j)
    (wider : ∀ seen, copied seen → more seen) :
    Intact view more j :=
  { intact with copies := fun id r found => wider _ (intact.copies id r found) }

theorem Intact.on (intact : Intact view copied j) (medium : Medium) :
    Intact view copied (j.on medium) :=
  ⟨intact.log, intact.keyed, intact.copies, intact.noOld, intact.rewriting⟩

theorem intact_fresh (capacityBytes : UInt32) : Intact view copied (fresh capacityBytes) := by
  have booted := init_index {} capacityBytes [] [] rfl rfl rfl rfl (by simp) (.inl rfl)
  have empty : (fresh capacityBytes).index.records = ∅ := by rw [fresh, booted.1]; rfl
  refine ⟨⟨[], rfl, by simp, ?_⟩, ?_, ?_, rfl, ?_⟩
  · rw [empty]; exact .nil _
  · rw [empty]; exact fun id r known => by simp at known
  · rw [empty]; exact fun id r known => by simp at known
  · intro active
    simp [fresh, init] at active

/-- The next boot rebuilds the strings. -/
theorem Intact.reboot (intact : Intact view copied j) :
    Intact view copied j.reboot ∧
      ∀ id : Bytes, (j.reboot.index.find id).map view.of = (j.index.find id).map view.of := by
  obtain ⟨bodies, log, encoded, mirrors⟩ := intact.log
  obtain ⟨index, files, _⟩ :=
    init_index { files := j.fs.files } j.index.capacityBytes bodies [] rfl rfl intact.noOld
    (log.trans (List.append_nil _).symm) mirrors.small (.inl rfl)
  obtain ⟨dat, old, _⟩ := recoverOrphans_noOld { files := j.fs.files } intact.noOld
  have records : j.reboot.index.records = replayBodies bodies := by rw [EventJournal.reboot, index]
  have seen :
      ∀ id : Bytes, (j.reboot.index.find id).map view.of = (j.index.find id).map view.of := by
    intro id
    rw [EventJournalIndex.find, records]
    exact mirrors.lookup id
  refine ⟨⟨⟨bodies, ?_, encoded, ?_⟩, ?_, ?_, ?_, ?_⟩, seen⟩
  · rw [EventJournal.reboot, files, dat]
    exact log
  · rw [records]; exact .self _ mirrors.small
  · rw [records]; exact keyed_replay encoded
  · intro id r found
    have viewed := seen id
    rw [EventJournalIndex.find, found] at viewed
    obtain ⟨live, here, same⟩ := Option.map_eq_some_iff.mp viewed.symm
    exact same ▸ intact.copies id live here
  · rw [EventJournal.reboot, files, old]
  · intro active
    simp [EventJournal.reboot, init] at active

/-- A transition that shows nothing new of a record the temp file already holds. -/
def Unseen (view : RecordView α) (j : EventJournal) (t : JournalTransition) : Prop :=
  j.compactionActive = true → t.eventId ∈ j.compactionKeep.take j.compactionWriteIndex →
    ∀ r : JournalRecord, j.index.records[t.eventId]? = some r → view.of (r.transition t) = view.of r

/-- The calls that leave log and index in agreement. -/
def Appendable (view : RecordView α) (copied : α → Prop) (j : EventJournal) : JournalCall → Prop
  | .appendEvent record => record.Decodable ∧ Clean record.eventId ∧ copied (view.of record)
  | .appendTransition transition => Unseen view j transition
  | _ => True

private theorem Rewriting.empty (temp : j.fs.files .tmp = none) : Rewriting view j :=
  ⟨[], by simp [Spiffs.contentOf, temp], by simp, by simp⟩

private theorem appendEvent_intact (lossless : Lossless view copied) (intact : Intact view copied j)
    (decodable : record.Decodable) (clean : Clean record.eventId) (copy : copied (view.of record))
    (healthy : (j.appendEvent record).1.fs.failed = false) :
    Intact view copied (j.appendEvent record).1 := by
  have outcome := appendEvent_outcome j record
  generalize j.appendEvent record = result at outcome healthy
  cases outcome with
  | refused unguarded => exact intact
  | cut guarded appended => exact absurd (appended.succeeds healthy) (by simp)
  | written guarded appended =>
    obtain ⟨bodies, log, encoded, mirrors⟩ := intact.log
    have unknown := decideAppend_ok guarded.2
    refine ⟨⟨bodies ++ [encodeJournalEvent record], dat_append log appended, ?_, ?_⟩, ?_, ?_,
      ?_, ?_⟩
    · intro body member
      rcases List.mem_append.mp member with earlier | last
      · exact encoded body earlier
      · rw [List.mem_singleton.mp last]; exact .event record
    · exact mirrors.event unknown decodable clean (lossless.stored _ copy) appended.small
    · exact intact.keyed.event decodable clean
    · intro id r found
      rw [EventJournalIndex.recordAppendedEvent, KeyedLog.lookup_insert] at found
      split at found
      · cases found; exact copy
      · exact intact.copies id r found
    · exact (appended.others .old (by decide)).trans intact.noOld
    · intro active
      obtain ⟨written, content, ids, all⟩ := intact.rewriting active
      refine ⟨written, ?_, ids, fun r member => ?_⟩
      · rw [← content, Spiffs.contentOf, appended.others .tmp (by decide), Spiffs.contentOf]
      · obtain ⟨readable, small, viewed⟩ := all r member
        have other : record.eventId ≠ r.eventId :=
          fun same => by rw [← same, unknown] at viewed; cases viewed
        exact ⟨readable, small,
          by simpa [EventJournalIndex.recordAppendedEvent, KeyedLog.lookup_insert,
          other] using viewed⟩

private theorem appendTransition_intact (lossless : Lossless view copied)
    (intact : Intact view copied j) (unseen : Unseen view j transition)
    (healthy : (j.appendTransition transition).1.fs.failed = false) :
    Intact view copied (j.appendTransition transition).1 := by
  have outcome := appendTransition_outcome j transition
  generalize j.appendTransition transition = result at outcome healthy
  cases outcome with
  | refused unguarded => exact intact
  | cut guarded appended => exact absurd (appended.succeeds healthy) (by simp)
  | written guarded appended =>
    obtain ⟨bodies, log, encoded, mirrors⟩ := intact.log
    obtain ⟨record, known⟩ := hasEvent_some guarded.2
    obtain ⟨same, decodable, clean⟩ := intact.keyed _ _ known
    rw [same] at clean
    have nonempty : transition.eventId ≠ [] := by rw [← same]; exact decodable.2.1
    refine ⟨⟨bodies ++ [encodeJournalTransition transition], dat_append log appended, ?_, ?_⟩, ?_,
      ?_, ?_, ?_⟩
    · intro body member
      rcases List.mem_append.mp member with earlier | last
      · exact encoded body earlier
      · rw [List.mem_singleton.mp last]; exact .transition transition
    · exact mirrors.transition transition nonempty clean (lossless.change · transition)
        appended.small
    · exact intact.keyed.transition transition
    · intro id r found
      rw [EventJournalIndex.recordAppendedTransition, KeyedLog.lookup_modify] at found
      split at found
      · obtain ⟨before, here, rfl⟩ := Option.map_eq_some_iff.mp found
        exact lossless.kept before transition (intact.copies id before here)
      · exact intact.copies id r found
    · exact (appended.others .old (by decide)).trans intact.noOld
    · intro active
      obtain ⟨written, content, ids, all⟩ := intact.rewriting active
      refine ⟨written, ?_, ids, fun r member => ?_⟩
      · rw [← content, Spiffs.contentOf, appended.others .tmp (by decide), Spiffs.contentOf]
      · obtain ⟨readable, small, viewed⟩ := all r member
        refine ⟨readable, small, ?_⟩
        rw [EventJournalIndex.recordAppendedTransition, KeyedLog.lookup_modify]
        split
        · rename_i here
          obtain ⟨live, indexed, shown⟩ := Option.map_eq_some_iff.mp viewed
          have copied : transition.eventId ∈ j.compactionKeep.take j.compactionWriteIndex := by
            rw [here]
            exact ids.subset (List.mem_map_of_mem member)
          rw [indexed, Option.map_some, Option.map_some,
            unseen active copied live (here ▸ indexed), shown]
        · exact viewed

/-- A rewrite whose temp file became the log. -/
private theorem Intact.swap {written : List JournalRecord} (lossless : Lossless view copied)
    (intact : Intact view copied j)
    (dat : after.contentOf .dat = framesOf (written.map encodeJournalEvent))
    (old : after.files .old = none) (ids : written.map JournalRecord.eventId = keep)
    (all : ∀ r ∈ written, (r.Decodable ∧ Clean r.eventId) ∧ (encodeJournalEvent r).length < 2 ^ 32 ∧
      (j.index.records[r.eventId]?).map view.of = some (view.of r))
    (rewritten : List Bytes) (cursor : Nat) (active : Bool)
    (idle : active = true → after.files .tmp = none) :
    Intact view copied { j with
      fs := after
      index := j.index.rebuildAfterCompaction keep
      compactionActive := active
      compactionKeep := rewritten
      compactionWriteIndex := cursor } := by
  refine ⟨⟨_, dat, ?_, ?_⟩, intact.keyed.rebuild _, ?_, old, fun running => .empty (idle running)⟩
  · intro body member
    obtain ⟨r, _, rfl⟩ := List.mem_map.mp member
    exact .event r
  · refine Mirrors.rebuild (fun r member => (all r member).1) (fun r member => (all r member).2.1)
      (fun r member => ⟨?_, ?_⟩) fun id kept _ => ?_
    · rw [← ids]; exact List.mem_map_of_mem member
    · obtain ⟨_, _, viewed⟩ := all r member
      obtain ⟨live, here, same⟩ := Option.map_eq_some_iff.mp viewed
      have copy := intact.copies _ live here
      rw [same] at copy
      rw [viewed, lossless.stored _ copy]
    · rw [← ids] at kept
      simpa using kept
  · intro id r found
    rw [lookup_rebuild] at found
    split at found
    · exact intact.copies id r found
    · cases found

/-- Another temp file, or none: the log and the index are as they were. -/
private theorem Intact.retemp (intact : Intact view copied j)
    (dat : after.files .dat = j.fs.files .dat)
    (old : after.files .old = j.fs.files .old) (keep : List Bytes) (cursor : Nat) (active : Bool)
    (rewriting : active = true →
      Rewriting view
      { j with fs := after, compactionKeep := keep, compactionWriteIndex := cursor }) :
    Intact view copied { j with
      fs := after
      compactionActive := active
      compactionKeep := keep
      compactionWriteIndex := cursor } := by
  refine ⟨?_, intact.keyed, intact.copies, old.trans intact.noOld, rewriting⟩
  obtain ⟨bodies, log, rest⟩ := intact.log
  exact ⟨bodies, by rw [← log, Spiffs.contentOf, Spiffs.contentOf, dat], rest⟩

section Compacting
variable [StdSort]

private theorem beginCompaction_intact (intact : Intact view copied j) (policy : CompactionPolicy) :
    Intact view copied (j.beginCompaction policy).1 := by
  unfold beginCompaction
  split
  · exact intact
  rename_i idle
  have inactive : j.compactionActive = false := by
    cases active : j.compactionActive with
    | false => rfl
    | true => simp [active] at idle
  simp only
  split
  · exact ⟨intact.log, intact.keyed, intact.copies, intact.noOld,
      fun active => by simp [inactive] at active⟩
  · exact intact.retemp (by simp [Spiffs.remove]) (by simp [Spiffs.remove]) _ _ _
      fun _ => .empty (by simp [Spiffs.remove])

omit [StdSort] in
/-- A written chunk moves the cursor over records as they stand. -/
private theorem Rewriting.chunk (rewriting : Rewriting view j) (keyed : Keyed j.index.records)
    (result : writeChunk j.index j.fs j.compactionWriteIndex j.compactionWriteIndex
      ((j.compactionKeep.drop j.compactionWriteIndex).take kCompactionRecordsPerTick) =
        (after, cursor, true)) :
    Rewriting view { j with fs := after, compactionWriteIndex := cursor } := by
  obtain ⟨forward, content, small, ordered⟩ :=
    writeChunk_written (fun id r found => (keyed id r found).1) _ _ _ _ le_rfl result
  obtain ⟨written, temp, ids, all⟩ := rewriting
  refine ⟨written ++ recordsOf j.index
    ((j.compactionKeep.drop j.compactionWriteIndex).take kCompactionRecordsPerTick), ?_, ?_, ?_⟩
  · rw [content, temp, List.map_append, framesOf_append]
  · have split : j.compactionKeep.take cursor = j.compactionKeep.take j.compactionWriteIndex ++
        (j.compactionKeep.drop j.compactionWriteIndex).take (cursor - j.compactionWriteIndex) := by
      rw [← List.take_add, Nat.add_sub_cancel' forward]
    rw [List.map_append, split]
    refine ids.append (ordered.trans ?_)
    rw [List.take_take]
    exact List.take_sublist_take_left (Nat.min_le_left _ _)
  · intro r member
    rcases List.mem_append.mp member with earlier | added
    · exact all r earlier
    · obtain ⟨id, _, found⟩ := mem_recordsOf.mp added
      obtain ⟨same, readable⟩ := keyed id r found
      exact ⟨readable, small r added, by rw [same, found]; rfl⟩

omit [StdSort] in
/-- As many frames as kept ids: the temp file holds the kept records. -/
private theorem Rewriting.whole {written : List JournalRecord}
    (content : j.fs.contentOf .tmp = framesOf (written.map encodeJournalEvent))
    (ids : (written.map JournalRecord.eventId).Sublist keep)
    (small : ∀ r ∈ written, (encodeJournalEvent r).length < 2 ^ 32)
    (counted : (j.fs.scan .tmp).length = keep.length) :
    written.map JournalRecord.eventId = keep := by
  refine ids.eq_of_length_le ?_
  rw [List.length_map]
  by_cases opens : j.fs.medium.opens = true
  · have frames := scan_length j.fs .tmp content (by simpa using small) opens
    rw [List.length_map] at frames
    omega
  · have unread : (j.fs.scan .tmp).length = 0 := by
      rw [Spiffs.scan]
      split <;> simp [opens]
    omega

omit [StdSort] in
private theorem compactTick_intact (lossless : Lossless view copied)
    (intact : Intact view copied j) :
    Intact view copied j.compactTick := by
  unfold compactTick
  split
  · exact intact
  rename_i running
  have rewriting := intact.rewriting (by simpa using running)
  have untouched :
      ∀ other, other ≠ .tmp → (writeChunk j.index j.fs j.compactionWriteIndex j.compactionWriteIndex
      ((j.compactionKeep.drop j.compactionWriteIndex).take kCompactionRecordsPerTick)).1.files
          other =
        j.fs.files other :=
    fun other different => writeChunk_others _ _ _ _ _ different
  simp only
  split
  · rename_i after cursor result
    rw [result] at untouched
    refine intact.retemp ?_ ?_ _ _ _ (by simp)
    · simpa [Spiffs.remove] using untouched .dat (by decide)
    · simpa [Spiffs.remove] using untouched .old (by decide)
  · rename_i after cursor result
    rw [result] at untouched
    have advanced := rewriting.chunk intact.keyed result
    have still : Intact view copied { j with fs := after, compactionWriteIndex := cursor } :=
      intact.retemp (untouched .dat (by decide)) (untouched .old (by decide)) _ _ _ fun _ =>
        advanced
    split
    · exact still
    · rename_i finished
      have counted := finishCompaction_counted
        { j with fs := after, compactionWriteIndex := cursor } j.compactionKeep
      have outcome :=
        finishCompaction_outcome { j with fs := after, compactionWriteIndex := cursor }
        j.compactionKeep still.noOld
      generalize ({ j with fs := after, compactionWriteIndex := cursor } :
        EventJournal).finishCompaction j.compactionKeep = result at outcome counted
      cases outcome with
      | kept live noOld =>
        refine ⟨?_, intact.keyed, intact.copies, noOld, by simp⟩
        obtain ⟨bodies, log, rest⟩ := still.log
        exact ⟨bodies, live.trans log, rest⟩
      | swapped live noOld temp =>
        obtain ⟨written, content, ids, all⟩ := advanced
        rw [List.take_of_length_le (by simpa using finished)] at ids
        have whole := Rewriting.whole content ids (fun r member => (all r member).2.1) (counted rfl)
        exact still.swap lossless (live.trans content) noOld whole all [] 0 false (by simp)

private theorem compact_intact (lossless : Lossless view copied) (intact : Intact view copied j)
    (policy : CompactionPolicy) (healthy : (j.compact policy).1.fs.failed = false) :
    Intact view copied (j.compact policy).1 := by
  unfold compact at healthy ⊢
  split at healthy
  · rename_i unready
    rw [if_pos unready]
    exact intact
  rename_i ready
  rw [if_neg ready]
  simp only at healthy ⊢
  split at healthy
  · rename_i same
    rw [if_pos same]
    exact intact
  rename_i fewer
  rw [if_neg fewer]
  have untouched : ∀ other, other ≠ .tmp → (writeRecords j.index (j.fs.remove .tmp)
      (j.index.selectRecordsToKeep policy)).1.files other = j.fs.files other :=
        fun other different => by
    rw [writeRecords_others _ _ _ different]
    simp [Spiffs.remove, Function.update_of_ne different]
  generalize writing :
    writeRecords j.index (j.fs.remove .tmp) (j.index.selectRecordsToKeep policy) = wrote
    at healthy untouched ⊢
  obtain ⟨after, done⟩ := wrote
  cases done with
  | false =>
    exact intact.retemp (by simpa [Spiffs.remove] using untouched .dat (by decide))
      (by simpa [Spiffs.remove] using untouched .old (by decide)) _ _ _ fun _ =>
        .empty (by simp [Spiffs.remove])
  | true =>
    simp only at healthy ⊢
    obtain ⟨temp, _, small⟩ := writeRecords_true _ _ _ writing
    have content : after.contentOf .tmp =
        framesOf ((recordsOf j.index (j.index.selectRecordsToKeep policy)).map
          encodeJournalEvent) := by
      rw [temp]
      simp [Spiffs.contentOf, Spiffs.remove]
    have noOld : after.files .old = none := (untouched .old (by decide)).trans intact.noOld
    have gone :=
      finishCompaction_tmp { j with fs := after } (j.index.selectRecordsToKeep policy) noOld healthy
    have outcome :=
      finishCompaction_outcome { j with fs := after } (j.index.selectRecordsToKeep policy) noOld
    generalize ({ j with fs := after } : EventJournal).finishCompaction
        (j.index.selectRecordsToKeep policy) =
      finished at outcome gone
    cases outcome with
    | kept dat old =>
      refine ⟨?_, intact.keyed, intact.copies, old, fun _ => .empty gone⟩
      obtain ⟨bodies, log, rest⟩ := intact.log
      have live : after.files .dat = j.fs.files .dat := untouched .dat (by decide)
      refine ⟨bodies, dat.trans ?_, rest⟩
      rw [← log, Spiffs.contentOf, Spiffs.contentOf, live]
    | swapped dat old tmp =>
      refine intact.swap lossless (dat.trans content) old ?_ ?_ _ _ _ fun _ => tmp
      · exact recordsOf_ids intact.keyed fun id kept => EventJournalIndex.known_of_select kept
      · intro r member
        obtain ⟨id, _, found⟩ := mem_recordsOf.mp member
        obtain ⟨same, readable⟩ := intact.keyed id r found
        exact ⟨readable, small r member, by rw [same, found]; rfl⟩

/-- What a call leaves on a medium that refused nothing. -/
theorem call_intact (lossless : Lossless view copied) (intact : Intact view copied j)
    (medium : Medium) (call : JournalCall) (appendable : Appendable view copied j call)
    (healthy : (j.call medium call).1.fs.failed = false) :
    Intact view copied (j.call medium call).1 := by
  have awake := intact.on medium
  cases call with
  | appendEvent record =>
    exact appendEvent_intact lossless awake appendable.1 appendable.2.1 appendable.2.2 healthy
  | appendTransition transition => exact appendTransition_intact lossless awake appendable healthy
  | compact policy => exact compact_intact lossless awake policy healthy
  | beginCompaction policy => exact beginCompaction_intact awake policy
  | compactTick => exact compactTick_intact lossless awake

end Compacting

end Invariant

theorem lossless_carried (plain : ∀ strings, copied strings → strings.Plain) :
    Lossless carried copied where
  stored _ copy := (plain _ copy).stored
  change _ _ := rfl
  kept _ _ copy := copy

theorem unseen_carried (j : EventJournal) (t : JournalTransition) : Unseen carried j t :=
  fun _ _ _ _ => rfl

theorem lossless_settled : Lossless settled fun _ => True :=
  ⟨fun _ _ => rfl, fun _ _ => rfl, fun _ _ _ => trivial⟩

end EventJournal

end Kiosk.Storage
