import Kiosk.Protocol.SequenceLife
import Kiosk.Storage.CompactionCrash
import Kiosk.Storage.IndexSteps

/-! The order of replay over the life of a device. A number out of the reservation, the
record it goes into, the log and the index, with a boot between any two calls and in the
middle of one. -/
namespace Kiosk.Storage

open Library Protocol EventJournalIndex SequenceReservation TransitionSystem CrashPoints

namespace EventJournal

/-- The files when the power fails after so many operations, and so many bytes into the
frame that comes next. -/
def cutAt (fs : Spiffs) (ops : List FileOp) (done bytes : Nat) : Spiffs :=
  let fs := run FileOp.apply fs (ops.take done)
  match ops[done]? with
  | some (.append path bodyJson) =>
    { fs with files :=
      Function.update fs.files path (some (fs.contentOf path ++ (frameOf bodyJson).take bytes)) }
  | _ => fs

theorem cutAt_crash (fs : Spiffs) (ops : List FileOp) (done bytes : Nat) :
    Crash FileOp.apply FileOp.Torn fs ops (cutAt fs ops done bytes) := by
  induction ops generalizing fs done with
  | nil => simpa [cutAt] using Crash.stopped fs []
  | cons op rest ih =>
    cases done with
    | zero =>
      cases op with
      | append path bodyJson => exact .during (.append path bodyJson _ (List.take_prefix _ _)) rest
      | remove path => exact .stopped fs _
      | rename source target => exact .stopped fs _
    | succ done => exact .later (ih (op.apply fs) done)

end EventJournal

/-- An event as it is ordered: its id and its number. -/
abbrev Created := Bytes × UInt64

def created (r : JournalRecord) : Created := (r.eventId, r.deviceSeq)

/-- The reservation with the mark in NVS, the journal, the events in the order of their
creation, and the bodies of the frames in front of the first one that is not whole. -/
structure CreationLife where
  sequence : SequenceReservation
  journal : EventJournal
  creations : List Created := []
  frames : List Bytes := []

/-- A power failure within `append_event` or `append_transition` is an append that comes
back short, and a boot. -/
inductive CreationInput where
  | create (medium : Medium) (record : JournalRecord)
  | transition (medium : Medium) (transition : JournalTransition)
  | compact (medium : Medium) (policy : CompactionPolicy)
  | boot
  | bootInCompact (medium : Medium) (policy : CompactionPolicy) (done bytes : Nat)

namespace CreationLife
variable [StdSort]

/-- The first power on. -/
def start (mark blockSize : UInt64) (capacityBytes : UInt32) : CreationLife where
  sequence := .load mark blockSize
  journal := EventJournal.fresh capacityBytes

/-- Every frame is whole so far. -/
def Untorn (life : CreationLife) : Prop := life.journal.fs.contentOf .dat = framesOf life.frames

instance (life : CreationLife) : Decidable life.Untorn := by unfold Untorn; infer_instance

/-- The frames after an append. -/
def noteFrame (life : CreationLife) (body : Bytes) (appended : Bool) : List Bytes :=
  if appended = true ∧ life.Untorn then life.frames ++ [body] else life.frames

/-- The frames after a rewrite, which left the log alone or replaced it by these. -/
def noteRewrite (life : CreationLife) (policy : CompactionPolicy) (content : Bytes) : List Bytes :=
  if content = life.journal.fs.contentOf .dat then life.frames
  else (EventJournal.recordsOf life.journal.index
    (life.journal.index.selectRecordsToKeep policy)).map encodeJournalEvent

/-- The record of a new event, with the number it gets. -/
def numbered (life : CreationLife) (record : JournalRecord) : JournalRecord :=
  { record with deviceSeq := life.sequence.next.2 }

def bootOn (life : CreationLife) (fs : Spiffs) : CreationLife :=
  { life with
    sequence := .load life.sequence.highWaterMark life.sequence.blockSize
    journal := EventJournal.init { files := fs.files } life.journal.index.capacityBytes }

def step (life : CreationLife) : CreationInput → CreationLife
  | .create medium record =>
    let record := life.numbered record
    let result := life.journal.call medium (.appendEvent record)
    { sequence := life.sequence.next.1
      journal := result.1
      creations := life.creations ++ [created record]
      frames := life.noteFrame (encodeJournalEvent record) result.2 }
  | .transition medium transition =>
    let result := life.journal.call medium (.appendTransition transition)
    { life with
      journal := result.1
      frames := life.noteFrame (encodeJournalTransition transition) result.2 }
  | .compact medium policy =>
    let result := life.journal.call medium (.compact policy)
    { life with
      journal := result.1
      frames := life.noteRewrite policy (result.1.fs.contentOf .dat) }
  | .boot => life.bootOn life.journal.fs
  | .bootInCompact medium policy done bytes =>
    let cut := EventJournal.cutAt (life.journal.on medium).fs
      ((life.journal.on medium).compactOps policy) done bytes
    { life with frames := life.noteRewrite policy ((EventJournal.durable cut).getD []) }.bootOn cut

/-- Records within the range of the codec, and no overflow of the 64 bits. -/
def InRange (life : CreationLife) : CreationInput → Prop
  | .create _ record => InCodecRange (life.numbered record) ∧
      (life.sequence.current ≥ life.sequence.reservedCeiling →
        Fits life.sequence.current life.sequence.blockSize)
  | .transition _ transition => Clean transition.lastErrorCode
  | .compact _ _ => True
  | .boot | .bootInCompact _ _ _ _ => Fits life.sequence.highWaterMark life.sequence.blockSize

/-- What follows the whole frames is not taken for one. -/
def tearSeen (frames : List Bytes) (content : Bytes) : Bool :=
  match readFrame (content.drop (framesOf frames).length) with
  | .body _ _ => false
  | _ => true

/-- The next boot stops at the first frame that was torn. -/
def TearSeen (life : CreationLife) : CreationInput → Prop
  | .boot => tearSeen life.frames (life.journal.fs.contentOf .dat) = true
  | .bootInCompact medium policy done bytes =>
    let cut := EventJournal.cutAt (life.journal.on medium).fs
      ((life.journal.on medium).compactOps policy) done bytes
    tearSeen (life.noteRewrite policy ((EventJournal.durable cut).getD []))
      ((EventJournal.durable cut).getD []) = true
  | _ => True

/-- The replay queue is the live records, each once, in the order of their creation. -/
structure OrderedByCreation (life : CreationLife) : Prop where
  members : ∀ r, r ∈ life.journal.index.pendingInDeviceSeqOrder ↔
    (∃ eventId, life.journal.index.find eventId = some r) ∧ isLive r.syncStatus = true
  once : (life.journal.index.pendingInDeviceSeqOrder.map JournalRecord.eventId).Nodup
  order : (life.journal.index.pendingInDeviceSeqOrder.map created).Sublist life.creations

end CreationLife

/-- The codec gives the id and the number of the record back. -/
structure Readable (r : JournalRecord) : Prop where
  decodable : r.Decodable
  eventId : Clean r.eventId
  deviceSeq : r.deviceSeq.toNat < 2 ^ 63

/-- The records are those of created events, each under its id. -/
def Indexed (creations : List Created) (records : Records) : Prop :=
  ∀ (id : Bytes) (r : JournalRecord), records[id]? = some r →
    r.eventId = id ∧ Readable r ∧ created r ∈ creations

/-- The body of a created event, as it was or after transitions, or of a transition. -/
inductive Genuine (creations : List Created) : Bytes → Prop where
  | event (r : JournalRecord) (readable : Readable r) (member : created r ∈ creations) :
      Genuine creations (encodeJournalEvent r)
  | transition (t : JournalTransition) : Genuine creations (encodeJournalTransition t)

/-- The log begins with these frames. -/
structure Logged (creations : List Created) (frames : List Bytes) (content : Bytes) : Prop where
  front : framesOf frames <+: content
  small : ∀ body ∈ frames, body.length < 2 ^ 32
  genuine : ∀ body ∈ frames, Genuine creations body

section Creations
variable {creations : List Created} {records : Records}

theorem Indexed.insert (indexed : Indexed creations records) (readable : Readable r)
    (member : created r ∈ creations) :
    Indexed creations (records.insert r.eventId r) := by
  intro id found known
  rw [KeyedLog.lookup_insert] at known
  split at known
  · rename_i same
    cases known
    exact ⟨same, readable, member⟩
  · exact indexed id found known

theorem Indexed.change (indexed : Indexed creations records) (t : JournalTransition) :
    Indexed creations (records.modify t.eventId (·.transition t)) := by
  intro id found known
  rw [KeyedLog.lookup_modify] at known
  split at known
  · obtain ⟨before, here, rfl⟩ := Option.map_eq_some_iff.mp known
    obtain ⟨same, readable, member⟩ := indexed id before here
    exact ⟨same, ⟨readable.decodable, readable.eventId, readable.deviceSeq⟩, member⟩
  · exact indexed id found known

theorem Indexed.rebuild {index : EventJournalIndex} (indexed : Indexed creations index.records)
    (keep : List Bytes) :
    Indexed creations (index.rebuildAfterCompaction keep).records := by
  intro id r known
  rw [lookup_rebuild] at known
  split at known
  · exact indexed id r known
  · cases known

theorem Indexed.mono (indexed : Indexed creations records) (more : Created) :
    Indexed (creations ++ [more]) records :=
  fun id r known =>
    ⟨(indexed id r known).1, (indexed id r known).2.1,
    List.mem_append_left _ (indexed id r known).2.2⟩

theorem Genuine.mono (genuine : Genuine creations body) (more : Created) :
    Genuine (creations ++ [more]) body := by
  cases genuine with
  | event r readable member => exact .event r readable (List.mem_append_left _ member)
  | transition t => exact .transition t

theorem Logged.mono (logged : Logged creations frames content) (more : Created) :
    Logged (creations ++ [more]) frames content :=
  ⟨logged.front, logged.small, fun body member => (logged.genuine body member).mono more⟩

/-- Genuine bodies replay to created events. -/
theorem indexed_replay (genuine : ∀ body ∈ frames, Genuine creations body) :
    Indexed creations (replayBodies frames) := by
  induction frames using List.reverseRecOn with
  | nil => exact fun id r known => by simp at known
  | append_singleton frames body ih =>
    have earlier := ih fun other member => genuine other (by simp [member])
    have last := genuine body (by simp)
    rw [replayBodies_append]
    cases last with
    | event r readable member =>
      have whole : r.stored.eventId = r.eventId := sanitize_clean readable.eventId
      have number : r.stored.deviceSeq = r.deviceSeq := stored64_eq readable.deviceSeq
      have stored : Readable r.stored := by
        refine ⟨⟨readable.decodable.1, ?_, ?_⟩, clean_sanitize _, number ▸ readable.deviceSeq⟩
        · exact fun empty => readable.decodable.2.1 ((sanitize_eq_nil _).mp empty)
        · exact fun empty => readable.decodable.2.2 ((sanitize_eq_nil _).mp empty)
      rw [entryOf_event, if_pos readable.decodable, KeyedLog.apply]
      split
      · exact earlier
      · have pair : created r.stored = created r := by simp only [created, whole, number]
        exact earlier.insert stored (pair ▸ member)
    | transition t =>
      rw [entryOf_transition]
      split
      · exact earlier.change t.stored
      · exact earlier

/-- An append puts its frame behind the log, or a part of it. -/
theorem Logged.grow (logged : Logged creations frames content) (part : Bytes) :
    Logged creations frames (content ++ part) :=
  ⟨logged.front.trans (List.prefix_append _ _), logged.small, logged.genuine⟩

theorem Logged.whole (logged : Logged creations frames (framesOf frames))
    (genuine : Genuine creations body) (small : body.length < 2 ^ 32) :
    Logged creations (frames ++ [body]) (framesOf frames ++ frameOf body) := by
  refine ⟨by simp, ?_, ?_⟩
  · intro other member
    rcases List.mem_append.mp member with earlier | last
    · exact logged.small other earlier
    · rw [List.mem_singleton.mp last]; exact small
  · intro other member
    rcases List.mem_append.mp member with earlier | last
    · exact logged.genuine other earlier
    · rw [List.mem_singleton.mp last]; exact genuine

end Creations

namespace CreationLife

/-- Numbers, log and index of a life. -/
structure Lawful (blockSize : UInt64) (life : CreationLife) : Prop where
  reserved : life.sequence.Reserved
  sized : life.sequence.blockSize = blockSize
  increasing : life.creations.Pairwise fun a b => a.2 < b.2
  below : ∀ c ∈ life.creations, c.2 ≤ life.sequence.current
  logged : Logged life.creations life.frames (life.journal.fs.contentOf .dat)
  indexed : Indexed life.creations life.journal.index.records
  noOld : life.journal.fs.files .old = none

section Steps
variable [StdSort] {life : CreationLife} {blockSize : UInt64}

omit [StdSort] in
private theorem noteFrame_logged {guard : Prop} {recorded : EventJournalIndex}
    {result : EventJournal × Bool} {creations : List Created} {body : Bytes} {medium : Medium}
    (logged : Logged creations life.frames (life.journal.fs.contentOf .dat))
    (genuine : Genuine creations body)
    (outcome : EventJournal.AppendOutcome (life.journal.on medium) guard body recorded result) :
    Logged creations (life.noteFrame body result.2) (result.1.fs.contentOf .dat) ∧
      result.1.fs.files .old = life.journal.fs.files .old := by
  cases outcome with
  | refused unguarded =>
    rw [noteFrame, if_neg (by simp)]
    exact ⟨logged, rfl⟩
  | cut guarded appended =>
    obtain ⟨part, _, content, _⟩ := appended.content
    refine ⟨?_, appended.others .old (by decide)⟩
    simp only [noteFrame, Bool.false_eq_true, false_and, ↓reduceIte]
    rw [content]
    exact logged.grow part
  | written guarded appended =>
    refine ⟨?_, appended.others .old (by decide)⟩
    simp only [noteFrame, true_and, appended.whole]
    split
    · rename_i untorn
      have log : life.journal.fs.contentOf .dat = framesOf life.frames := untorn
      change Logged creations _ (life.journal.fs.contentOf .dat ++ frameOf body)
      rw [log] at logged ⊢
      exact logged.whole genuine appended.small
    · exact logged.grow _

private theorem create_lawful (positive : 0 < blockSize) (lawful : Lawful blockSize life)
    (medium : Medium) (record : JournalRecord) (range : life.InRange (.create medium record)) :
    Lawful blockSize (life.step (.create medium record)) := by
  obtain ⟨codec, fits⟩ := range
  obtain ⟨reserved, _, value, above⟩ := next_reserved (lawful.sized ▸ positive) lawful.reserved fits
  have readable : Readable (life.numbered record) :=
    ⟨codec.decodable, codec.eventId, codec.deviceSeq⟩
  have member :
      created (life.numbered record) ∈ life.creations ++ [created (life.numbered record)] := by
    simp
  have number : (created (life.numbered record)).2 = life.sequence.next.2 := rfl
  have outcome := EventJournal.appendEvent_outcome (life.journal.on medium) (life.numbered record)
  obtain ⟨logged, old⟩ := noteFrame_logged (lawful.logged.mono (created (life.numbered record)))
    (.event _ readable member) outcome
  refine ⟨reserved, ?_, ?_, ?_, logged, ?_, old.trans lawful.noOld⟩
  · exact (next_blockSize life.sequence).trans lawful.sized
  · refine List.pairwise_append.mpr ⟨lawful.increasing, List.pairwise_singleton _ _, ?_⟩
    intro earlier old last new
    rw [List.mem_singleton.mp new, number]
    exact UInt64.lt_of_le_of_lt (lawful.below earlier old) above
  · intro c among
    change c.2 ≤ life.sequence.next.1.current
    rw [← value]
    rcases List.mem_append.mp among with earlier | last
    · exact UInt64.le_of_lt (UInt64.lt_of_le_of_lt (lawful.below c earlier) above)
    · rw [List.mem_singleton.mp last, number]
      exact UInt64.le_refl _
  · have earlier := lawful.indexed.mono (created (life.numbered record))
    change Indexed _ ((life.journal.on medium).appendEvent (life.numbered record)).1.index.records
    rcases EventJournal.appendEvent_index (life.journal.on medium) (life.numbered record) with
      ⟨_, same⟩ | ⟨_, _, size, recorded⟩
    · rw [same]; exact earlier
    · rw [recorded]; exact earlier.insert readable member

private theorem transition_lawful (lawful : Lawful blockSize life) (medium : Medium)
    (transition : JournalTransition) :
    Lawful blockSize (life.step (.transition medium transition)) := by
  have outcome := EventJournal.appendTransition_outcome (life.journal.on medium) transition
  obtain ⟨logged, old⟩ := noteFrame_logged lawful.logged (.transition transition) outcome
  refine ⟨lawful.reserved, lawful.sized, lawful.increasing, lawful.below, logged, ?_,
    old.trans lawful.noOld⟩
  change Indexed _ ((life.journal.on medium).appendTransition transition).1.index.records
  rcases EventJournal.appendTransition_index (life.journal.on medium)
    transition with same | ⟨size, recorded⟩
  · rw [same]; exact lawful.indexed
  · rw [recorded]; exact lawful.indexed.change transition

/-- A rewrite that may have been cut: the log of the next boot begins with the noted frames. -/
private theorem noteRewrite_logged (lawful : Lawful blockSize life) (medium : Medium)
    (policy : CompactionPolicy) (crash : Crash FileOp.apply FileOp.Torn (life.journal.on medium).fs
      ((life.journal.on medium).compactOps policy) after) :
    Logged life.creations (life.noteRewrite policy ((EventJournal.durable after).getD []))
      ((EventJournal.durable after).getD []) := by
  unfold noteRewrite
  split
  · rename_i same
    rw [same]
    exact lawful.logged
  · rename_i different
    rcases EventJournal.compactOps_crash (j := life.journal.on medium) lawful.noOld
      crash with kept | ⟨swapped, small⟩
    · exact absurd (by rw [kept]; rfl) different
    · rw [swapped]
      refine ⟨List.prefix_rfl, ?_, ?_⟩
      · intro body member
        obtain ⟨r, written, rfl⟩ := List.mem_map.mp member
        exact small r written
      · intro body member
        obtain ⟨r, written, rfl⟩ := List.mem_map.mp member
        obtain ⟨id, _, found⟩ := EventJournal.mem_recordsOf.mp written
        obtain ⟨_, readable, listed⟩ := lawful.indexed id r found
        exact .event r readable listed

private theorem compact_lawful (lawful : Lawful blockSize life) (medium : Medium)
    (policy : CompactionPolicy) :
    Lawful blockSize (life.step (.compact medium policy)) := by
  obtain ⟨old, index⟩ := EventJournal.compact_outcome (life.journal.on medium) policy lawful.noOld
  have whole : Crash FileOp.apply FileOp.Torn (life.journal.on medium).fs
    ((life.journal.on medium).compactOps policy)
      ((life.journal.on medium).compact policy).1.fs := by
    have all := @Crash.of_take _ _ FileOp.apply FileOp.Torn (life.journal.on medium).fs
      ((life.journal.on medium).compactOps policy)
        ((life.journal.on medium).compactOps policy).length
    rwa [List.take_length, EventJournal.compactOps_run] at all
  have logged := noteRewrite_logged lawful medium policy whole
  rw [EventJournal.durable, old, Option.or_none] at logged
  refine ⟨lawful.reserved, lawful.sized, lawful.increasing, lawful.below, logged, ?_, old⟩
  change Indexed _ ((life.journal.on medium).compact policy).1.index.records
  rcases index with same | rebuilt
  · rw [same]; exact lawful.indexed
  · rw [rebuilt]; exact lawful.indexed.rebuild _

omit [StdSort] in
/-- A boot over files whose log begins with genuine frames and is not mistaken behind them. -/
private theorem bootOn_lawful (positive : 0 < blockSize) (lawful : Lawful blockSize life)
    (frames : List Bytes) (fs : Spiffs)
    (logged : Logged life.creations frames ((EventJournal.durable fs).getD []))
    (seen : tearSeen frames ((EventJournal.durable fs).getD []) = true)
    (fits : Fits life.sequence.highWaterMark life.sequence.blockSize) :
    Lawful blockSize ({ life with frames := frames }.bootOn fs) := by
  obtain ⟨reserved, _, current⟩ := load_reserved (lawful.sized ▸ positive) fits
  obtain ⟨dat, _, old, medium⟩ := EventJournal.recoverOrphans_durable { files := fs.files } rfl
  obtain ⟨tail, content⟩ := logged.front
  have stops : EventJournal.Stops tail := by
    rw [← content, tearSeen, List.drop_left] at seen
    cases read : readFrame tail with
    | eof => exact .inl (readFrame_eof read)
    | bad outcome => exact .inr ⟨outcome, readFrame_bad read, read⟩
    | body bytes rest => simp [read] at seen
  have log : (EventJournal.recoverOrphans { files := fs.files }).contentOf .dat =
      framesOf frames ++ tail := by
    rw [content, Spiffs.contentOf, dat]
    rfl
  have recovered :=
    EventJournal.recoverIndex_frames _ life.journal.index.capacityBytes (by rw [medium]) log
    logged.small stops
  refine ⟨reserved, lawful.sized, lawful.increasing, ?_, ?_, ?_, old⟩
  · intro c member
    change c.2 ≤ (load life.sequence.highWaterMark life.sequence.blockSize).current
    rw [current, lawful.reserved.durable]
    exact UInt64.le_trans (lawful.below c member) lawful.reserved.below
  · change Logged life.creations frames
      ((EventJournal.recoverOrphans { files := fs.files }).contentOf .dat)
    rw [log, content]
    exact logged
  · change Indexed life.creations
      (EventJournal.recoverIndex (EventJournal.recoverOrphans { files := fs.files })
        life.journal.index.capacityBytes).records
    rw [recovered]
    exact indexed_replay logged.genuine

private theorem step_lawful (positive : 0 < blockSize) (lawful : Lawful blockSize life)
    (input : CreationInput) (range : life.InRange input) (seen : life.TearSeen input) :
    Lawful blockSize (life.step input) := by
  cases input with
  | create medium record => exact create_lawful positive lawful medium record range
  | transition medium transition => exact transition_lawful lawful medium transition
  | compact medium policy => exact compact_lawful lawful medium policy
  | boot =>
    have durable :
        (EventJournal.durable life.journal.fs).getD [] = life.journal.fs.contentOf .dat := by
      rw [EventJournal.durable, lawful.noOld, Option.or_none]
      rfl
    exact bootOn_lawful positive lawful life.frames life.journal.fs (durable ▸ lawful.logged)
      (durable ▸ seen) range
  | bootInCompact medium policy done bytes =>
    exact bootOn_lawful positive lawful _ _
      (noteRewrite_logged lawful medium policy (EventJournal.cutAt_crash _ _ done bytes)) seen range

/-- The queue is sorted by numbers that grow with every creation. -/
private theorem pending_increasing (lawful : Lawful blockSize life)
    (once : (life.journal.index.pendingInDeviceSeqOrder.map JournalRecord.eventId).Nodup)
    (listed : ∀ r ∈ life.journal.index.pendingInDeviceSeqOrder, created r ∈ life.creations) :
    (life.journal.index.pendingInDeviceSeqOrder.map created).Pairwise fun a b => a.2 < b.2 := by
  have sorted : life.journal.index.pendingInDeviceSeqOrder.Pairwise fun a b =>
      decide (b.deviceSeq < a.deviceSeq) = false := by
    refine StdSort.sorted _ _ ?_ ?_
    · intro a b less
      simpa using UInt64.le_of_lt (by simpa using less)
    · intro a b c ba cb
      simp only [decide_eq_false_iff_not, UInt64.not_lt] at ba cb ⊢
      exact UInt64.le_trans ba cb
  have apart : life.creations.Pairwise fun a b => a.2 ≠ b.2 :=
    lawful.increasing.imp fun less same => absurd less (by rw [same]; exact UInt64.lt_irrefl _)
  have symm : Std.Symm fun a b : Created => a.2 ≠ b.2 := ⟨fun _ _ => Ne.symm⟩
  have different : ∀ a ∈ life.creations, ∀ b ∈ life.creations, a ≠ b → a.2 ≠ b.2 :=
    fun a inA b inB => apart.forall inA inB
  rw [List.pairwise_map]
  refine (sorted.and (List.pairwise_map.mp once)).imp_of_mem fun {a b} inA inB both => ?_
  obtain ⟨le, ids⟩ := both
  have pairs : created a ≠ created b := fun same => ids (congrArg Prod.fst same)
  have numbers : a.deviceSeq ≠ b.deviceSeq := different _ (listed a inA) _ (listed b inB) pairs
  simp only [decide_eq_false_iff_not, UInt64.not_lt] at le
  exact UInt64.lt_of_le_of_ne le numbers

private theorem ordered_of_lawful (lawful : Lawful blockSize life) : life.OrderedByCreation := by
  have members : ∀ r, r ∈ life.journal.index.pendingInDeviceSeqOrder ↔
      (∃ eventId, life.journal.index.find eventId = some r) ∧ isLive r.syncStatus = true := by
    intro r
    rw [pendingInDeviceSeqOrder, (StdSort.perm _ _).mem_iff, List.mem_filter, List.mem_map]
    refine and_congr_left fun _ => ?_
    constructor
    · rintro ⟨entry, member, rfl⟩
      exact ⟨entry.1, Std.ExtTreeMap.mem_toList_iff_getElem?_eq_some.mp member⟩
    · rintro ⟨eventId, found⟩
      exact ⟨(eventId, r), Std.ExtTreeMap.mem_toList_iff_getElem?_eq_some.mpr found, rfl⟩
  have once : (life.journal.index.pendingInDeviceSeqOrder.map JournalRecord.eventId).Nodup :=
    Filed.pending_nodup fun id r found => (lawful.indexed id r found).1
  have listed : ∀ r ∈ life.journal.index.pendingInDeviceSeqOrder, created r ∈ life.creations := by
    intro r member
    obtain ⟨⟨eventId, found⟩, _⟩ := (members r).mp member
    exact (lawful.indexed eventId r found).2.2
  refine ⟨members, once, ?_⟩
  have antisymm : Std.Antisymm fun a b : Created => a.2 < b.2 :=
    ⟨fun a b less more => absurd less (UInt64.lt_asymm more)⟩
  refine List.sublist_of_subperm_of_pairwise (r := fun a b : Created => a.2 < b.2)
    (List.subperm_of_subset ?_ ?_)
    (pending_increasing lawful once listed) lawful.increasing
  · refine List.Nodup.of_map Prod.fst ?_
    rw [List.map_map]
    exact once
  · intro pair member
    obtain ⟨r, inside, rfl⟩ := List.mem_map.mp member
    exact listed r inside

omit [StdSort] in
private theorem start_lawful (positive : 0 < blockSize) (mark : UInt64) (capacityBytes : UInt32)
    (fits : Fits mark blockSize) :
    Lawful blockSize (start mark blockSize capacityBytes) := by
  obtain ⟨reserved, _, _⟩ := load_reserved positive fits
  have booted := EventJournal.init_index {} capacityBytes [] [] rfl rfl rfl rfl (by simp) (.inl rfl)
  refine ⟨reserved, rfl, List.Pairwise.nil, by simp [start],
    ⟨by simp [start], by simp [start], by simp [start]⟩, ?_, rfl⟩
  change Indexed _ (EventJournal.init {} capacityBytes).index.records
  rw [booted.1]
  exact fun id r known => by simp at known

/-- Over every history whose boots see the torn frames for what they are, the replay
order is the creation order, across boots, crashes and compactions. -/
theorem pending_in_creation_order (positive : 0 < blockSize) (mark : UInt64)
    (capacityBytes : UInt32) (fits : Fits mark blockSize) (inputs : List CreationInput)
    (along : Along step (fun life input => life.InRange input ∧ life.TearSeen input)
      (start mark blockSize capacityBytes) inputs) :
    (run step (start mark blockSize capacityBytes) inputs).OrderedByCreation :=
  ordered_of_lawful (along.invariant (start_lawful positive mark capacityBytes fits)
    fun _ input lawful good => step_lawful positive lawful input good.1 good.2)

end Steps

instance (life : CreationLife) (input : CreationInput) : Decidable (life.InRange input) := by
  cases input <;> (simp only [InRange]; infer_instance)

instance [StdSort] (life : CreationLife) (input : CreationInput) :
    Decidable (life.TearSeen input) := by
  cases input <;> (simp only [TearSeen]; infer_instance)

/-- An event, a crash early in the frame of a second one, a boot and a third event. -/
theorem pending_in_creation_order_torn :
    @OrderedByCreation .insertion (@run _ _ (@step .insertion) (start 0 1000 65536) [
      .create { room := 65536 } { eventId := text "a", eventType := text "S" },
      .create { room := 60 } { eventId := text "b", eventType := text "S" }, .boot,
      .create { room := 65536 } { eventId := text "c", eventType := text "S" }, .boot]) :=
  @pending_in_creation_order .insertion 1000 (by decide) 0 65536 (by decide) _ (by decide +kernel)

/-- The frame of `b` is torn behind the key of its number, and two later frames complete
it: the payload of the second ends with the checksum and the marker. -/
private def completed : List CreationInput := [
  .create { room := 65536 } { eventId := text "a", eventType := text "S" },
  .create { room := 60 }
    { eventId := text "b", eventType := text "S", payload := List.replicate 198 46 }, .boot,
  .create { room := 65536 }
    { eventId := text "c", eventType := text "S", payload := List.replicate 23 46 },
  .create { room := 65536 }
    { eventId := text "d", eventType := text "S", payload := [97, 190, 91, 106, 255, 195] }, .boot]

/-- `b` is recovered with the number 0 and replayed before `a`. -/
theorem completed_frame_out_of_order :
    let life := @run _ _ (@step .insertion) (start 0 1000 65536) completed
    @Along _ _ (@step .insertion) (fun life input => life.InRange input) (start 0 1000 65536)
        completed ∧
      life.creations.map Prod.fst = [text "a", text "b", text "c", text "d"] ∧
      (@pendingInDeviceSeqOrder .insertion life.journal.index).map JournalRecord.eventId =
        [text "b", text "a"] ∧
      ¬ @OrderedByCreation .insertion life := by
  intro life
  have facts : @Along _ _ (@step .insertion) (fun life input => life.InRange input)
        (start 0 1000 65536) completed ∧
      life.creations.map Prod.fst = [text "a", text "b", text "c", text "d"] ∧
      (@pendingInDeviceSeqOrder .insertion life.journal.index).map JournalRecord.eventId =
        [text "b", text "a"] := by
    decide +kernel
  refine ⟨facts.1, facts.2.1, facts.2.2, fun ordered => ?_⟩
  have order := (@OrderedByCreation.order .insertion _ ordered).map Prod.fst
  rw [List.map_map, facts.2.1] at order
  rw [show Prod.fst ∘ created = JournalRecord.eventId from rfl, facts.2.2] at order
  revert order
  decide +kernel

end CreationLife

end Kiosk.Storage
