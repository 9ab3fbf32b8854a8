import Kiosk.Library.TopSelection
import Kiosk.Protocol.EventJournalIndex

/-! Which records `select_records_to_keep` retains. The terminal buckets are sorted by
an uptime that starts again at every boot, while `device_seq` goes on. -/
namespace Kiosk.Protocol

open Library TopSelection

def CompactionPolicy.retention (policy : CompactionPolicy) : JournalSyncStatus → UInt32
  | .acked => policy.ackedRetentionCount
  | .rejected => policy.rejectedRetentionCount
  | .conflict => policy.conflictRetentionCount
  | .humanReview => policy.humanReviewRetentionCount
  | .pending | .inFlight => 0

/-- Sorted as `StdSort.insertion`, equal elements the other way round. -/
@[reducible] def StdSort.reversed : StdSort where
  sort less items := StdSort.insertion.sort less items.reverse
  perm less items := (StdSort.insertion.perm less items.reverse).trans (List.reverse_perm items)
  sorted less items := StdSort.insertion.sorted less items.reverse

namespace EventJournalIndex

abbrev Filing := Bytes × JournalRecord

/-- The records of one status under their ids. -/
def bucket (index : EventJournalIndex) (status : JournalSyncStatus) : List Filing :=
  index.records.toList.filter fun kv => kv.2.syncStatus = status

def uptime (filing : Filing) : Nat := filing.2.createdUptimeMs.toNat

def sequence (filing : Filing) : Nat := filing.2.deviceSeq.toNat

/-- As many records of a bucket as it retains, those created last. -/
def newest (index : EventJournalIndex) (policy : CompactionPolicy) (status : JournalSyncStatus) :
    List Filing :=
  ((index.bucket status).insertionSort fun a b => sequence b ≤ sequence a).take
    (policy.retention status).toNat

/-- The records created last in a bucket have a greater uptime than the others of the
bucket, in whatever boots they were created. -/
def ClockAgrees (index : EventJournalIndex) (policy : CompactionPolicy) : Prop :=
  ∀ status, isTerminal status = true →
    Separates uptime (index.newest policy status) (index.bucket status)

/-- Every record stems from one of the creations, whatever became of it since. -/
def StemsFrom (index : EventJournalIndex) (created : List JournalRecord) : Prop :=
  ∀ id r, index.find id = some r → ∃ creation ∈ created,
    creation.eventId = id ∧ creation.deviceSeq = r.deviceSeq ∧
      creation.createdUptimeMs = r.createdUptimeMs

structure RetainsNewest [StdSort] (index : EventJournalIndex) (policy : CompactionPolicy) :
    Prop where
  newest : ∀ status, isTerminal status = true →
      ∀ kept ∈ index.bucket status, ∀ dropped ∈ index.bucket status,
    kept.1 ∈ index.selectRecordsToKeep policy → dropped.1 ∉ index.selectRecordsToKeep policy →
      dropped.2.deviceSeq < kept.2.deviceSeq
  count : ∀ status, isTerminal status = true →
    ((index.bucket status).filter fun kv => kv.1 ∈ index.selectRecordsToKeep policy).length =
      min (policy.retention status).toNat (index.bucket status).length
  live : ∀ id r, index.find id = some r → isLive r.syncStatus = true →
    id ∈ index.selectRecordsToKeep policy
  once : (index.selectRecordsToKeep policy).Nodup

section Buckets

variable {index : EventJournalIndex} {policy : CompactionPolicy} {status : JournalSyncStatus}

theorem mem_bucket (filing : Filing) :
    filing ∈ index.bucket status ↔
      index.records[filing.1]? = some filing.2 ∧ filing.2.syncStatus = status := by
  rw [bucket, List.mem_filter, decide_eq_true_iff, Std.ExtTreeMap.mem_toList_iff_getElem?_eq_some]

private theorem keys_nodup : (index.records.toList.map Prod.fst).Nodup := by
  rw [Std.ExtTreeMap.map_fst_toList_eq_keys]
  exact Std.ExtTreeMap.nodup_keys

theorem bucket_nodup : (index.bucket status).Nodup :=
  (List.Nodup.of_map Prod.fst keys_nodup).filter _

private theorem newest_descending :
    Descending sequence ((index.bucket status).insertionSort fun a b => sequence b ≤ sequence a)
      (index.bucket status) := by
  have total : Std.Total fun a b : Filing => sequence b ≤ sequence a :=
    ⟨fun a b => Nat.le_total _ _⟩
  have trans : IsTrans Filing fun a b => sequence b ≤ sequence a :=
    ⟨fun _ _ _ first second => second.trans first⟩
  exact ⟨List.perm_insertionSort _ _, List.pairwise_insertionSort _ _⟩

/-- The record the index has under the id of an entry of `collect_and_trim`. -/
private def filingOf (index : EventJournalIndex) (entry : UInt32 × Bytes) : Filing :=
  (entry.2, (index.records[entry.2]?).getD { eventId := entry.2, eventType := [] })

private theorem filingOf_entry {filing : Filing} (member : filing ∈ index.bucket status) :
    filingOf index (filing.2.createdUptimeMs, filing.1) = filing := by
  rw [filingOf, ((mem_bucket filing).mp member).1]
  rfl

variable [StdSort]

/-- A bucket in the order of `collect_and_trim`. -/
def mostRecent (index : EventJournalIndex) (status : JournalSyncStatus) : List Filing :=
  (StdSort.sort (fun a b => decide (a.1 > b.1))
    ((index.bucket status).map fun kv => (kv.2.createdUptimeMs, kv.1))).map (filingOf index)

theorem collectAndTrim_eq (retention : UInt32) :
    index.collectAndTrim status retention =
      ((index.mostRecent status).take retention.toNat).map Prod.fst := by
  rw [mostRecent, ← List.map_take, List.map_map]
  rfl

theorem mostRecent_descending :
    Descending uptime (index.mostRecent status) (index.bucket status) := by
  constructor
  · have same :
        ((index.bucket status).map fun kv => (kv.2.createdUptimeMs, kv.1)).map (filingOf index) =
        index.bucket status := by
      rw [List.map_map]
      exact List.map_congr_left (fun filing member => filingOf_entry member) |>.trans
        (List.map_id _)
    exact ((StdSort.perm _ _).map _).trans (List.Perm.of_eq same)
  · rw [mostRecent, List.pairwise_map]
    have ordered := StdSort.sorted (fun a b : UInt32 × Bytes => decide (a.1 > b.1))
      ((index.bucket status).map fun kv => (kv.2.createdUptimeMs, kv.1))
      (by
        intro a b greater
        simp only [gt_iff_lt, decide_eq_true_eq, decide_eq_false_iff_not,
          UInt32.not_lt] at greater ⊢
        exact UInt32.le_of_lt greater)
      (by
        intro a b c first second
        simp only [gt_iff_lt, decide_eq_false_iff_not, UInt32.not_lt] at first second ⊢
        exact UInt32.le_trans second first)
    refine ordered.imp_of_mem fun {a b} first second less => ?_
    have stored : ∀ entry ∈ (index.bucket status).map fun kv => (kv.2.createdUptimeMs, kv.1),
        uptime (filingOf index entry) = entry.1.toNat := by
      intro entry member
      obtain ⟨filing, inside, rfl⟩ := List.mem_map.mp member
      rw [filingOf_entry inside, uptime]
    rw [stored a ((StdSort.perm _ _).mem_iff.mp first),
      stored b ((StdSort.perm _ _).mem_iff.mp second)]
    simpa [UInt32.le_iff_toNat_le] using less

/-- What is kept is live or among the first of its bucket. -/
theorem mem_select {id : Bytes} {r : JournalRecord} (known : index.records[id]? = some r) :
    id ∈ index.selectRecordsToKeep policy ↔
      isLive r.syncStatus = true ∨
        isTerminal r.syncStatus = true ∧
          (id, r) ∈ (index.mostRecent r.syncStatus).take (policy.retention r.syncStatus).toNat := by
  have collected (status : JournalSyncStatus) (retention : UInt32) :
      id ∈ index.collectAndTrim status retention ↔
      r.syncStatus = status ∧ (id, r) ∈ (index.mostRecent status).take retention.toNat := by
    rw [collectAndTrim_eq, List.mem_map]
    constructor
    · rintro ⟨filing, taken, rfl⟩
      obtain ⟨here, same⟩ := (mem_bucket filing).mp (mostRecent_descending.mem_of_take taken)
      obtain rfl : r = filing.2 := Option.some.inj (known.symm.trans here)
      exact ⟨same, taken⟩
    · rintro ⟨_, taken⟩
      exact ⟨_, taken, rfl⟩
  have open' :
      id ∈ (index.records.toList.filter fun kv => !isTerminal kv.2.syncStatus).map Prod.fst ↔
      isLive r.syncStatus = true := by
    rw [List.mem_map]
    constructor
    · rintro ⟨filing, filtered, rfl⟩
      obtain ⟨stored, running⟩ := List.mem_filter.mp filtered
      have here := Std.ExtTreeMap.mem_toList_iff_getElem?_eq_some.mp stored
      obtain rfl : r = filing.2 := Option.some.inj (known.symm.trans here)
      simpa [isTerminal_eq] using running
    · intro running
      refine ⟨(id, r),
        List.mem_filter.mpr ⟨Std.ExtTreeMap.mem_toList_iff_getElem?_eq_some.mpr known, ?_⟩, rfl⟩
      simpa [isTerminal_eq] using running
  simp only [selectRecordsToKeep, List.mem_append, collected, open']
  cases status : r.syncStatus <;> simp [isLive, isTerminal, CompactionPolicy.retention]

private theorem kept_iff {filing : Filing} (terminal : isTerminal status = true)
    (member : filing ∈ index.bucket status) :
    filing.1 ∈ index.selectRecordsToKeep policy ↔
      filing ∈ (index.mostRecent status).take (policy.retention status).toNat := by
  obtain ⟨known, rfl⟩ := (mem_bucket filing).mp member
  have ended : isLive filing.2.syncStatus = false := by simpa [isTerminal_eq] using terminal
  rw [mem_select known]
  simp [terminal, ended]

/-- No id is listed twice: the parts have different statuses. -/
theorem select_nodup : (index.selectRecordsToKeep policy).Nodup := by
  have parts : index.selectRecordsToKeep policy =
      (index.records.toList.filter fun kv => !isTerminal kv.2.syncStatus).map Prod.fst ++
        [JournalSyncStatus.acked, .rejected, .conflict, .humanReview].flatMap fun status =>
          index.collectAndTrim status (policy.retention status) := by
    simp [selectRecordsToKeep, CompactionPolicy.retention]
  have stored : ∀ status retention, ∀ id ∈ index.collectAndTrim status retention,
      ∃ r, index.records[id]? = some r ∧ r.syncStatus = status := by
    intro status retention id member
    rw [collectAndTrim_eq] at member
    obtain ⟨filing, taken, rfl⟩ := List.mem_map.mp member
    exact ⟨filing.2, (mem_bucket filing).mp (mostRecent_descending.mem_of_take taken)⟩
  rw [parts, List.nodup_append', List.nodup_flatMap]
  refine ⟨keys_nodup.sublist (List.filter_sublist.map _), ⟨?_, ?_⟩, ?_⟩
  · intro status _
    rw [collectAndTrim_eq]
    refine List.Nodup.map_on ?_ (mostRecent_descending.nodup bucket_nodup _)
    intro a first b second same
    have here := ((mem_bucket a).mp (mostRecent_descending.mem_of_take first)).1
    have there := ((mem_bucket b).mp (mostRecent_descending.mem_of_take second)).1
    rw [same, there] at here
    exact Prod.ext same (Option.some.inj here).symm
  · refine List.Pairwise.imp ?_
      (show [JournalSyncStatus.acked, .rejected, .conflict, .humanReview].Pairwise
      (· ≠ ·) by decide)
    intro a b differ id first second
    obtain ⟨r, here, status⟩ := stored a _ id first
    obtain ⟨other, there, otherStatus⟩ := stored b _ id second
    rw [here, Option.some.injEq] at there
    exact differ (status.symm.trans ((congrArg _ there).trans otherStatus))
  · intro id running ended
    obtain ⟨filing, filtered, rfl⟩ := List.mem_map.mp running
    obtain ⟨listed, live⟩ := List.mem_filter.mp filtered
    obtain ⟨status, terminal, member⟩ := List.mem_flatMap.mp ended
    obtain ⟨r, here, same⟩ := stored status _ _ member
    rw [Std.ExtTreeMap.mem_toList_iff_getElem?_eq_some.mp listed, Option.some.injEq] at here
    rw [here, same] at live
    revert terminal live
    cases status <;> simp [isTerminal]

theorem select_count (terminal : isTerminal status = true) :
    ((index.bucket status).filter fun kv => kv.1 ∈ index.selectRecordsToKeep policy).length =
      min (policy.retention status).toNat (index.bucket status).length := by
  have descending : Descending uptime (index.mostRecent status) (index.bucket status) :=
    mostRecent_descending
  have same : ((index.bucket status).filter fun kv => kv.1 ∈ index.selectRecordsToKeep policy).Perm
      ((index.mostRecent status).take (policy.retention status).toNat) := by
    rw [List.perm_ext_iff_of_nodup (bucket_nodup.filter _) (descending.nodup bucket_nodup _)]
    intro filing
    rw [List.mem_filter, decide_eq_true_iff]
    constructor
    · rintro ⟨member, kept⟩
      exact (kept_iff terminal member).mp kept
    · intro taken
      have member := descending.mem_of_take taken
      exact ⟨member, (kept_iff terminal member).mpr taken⟩
  rw [same.length_eq, descending.length_take]

/-- The selection is the newest ones of a bucket exactly when it is separated by number. -/
theorem newest_iff (terminal : isTerminal status = true) :
    (∀ kept ∈ index.bucket status, ∀ dropped ∈ index.bucket status,
      kept.1 ∈ index.selectRecordsToKeep policy → dropped.1 ∉ index.selectRecordsToKeep policy →
        dropped.2.deviceSeq < kept.2.deviceSeq) ↔
    Separates sequence ((index.mostRecent status).take (policy.retention status).toNat)
      (index.bucket status) := by
  constructor
  · intro newest kept taken dropped member outside
    have inside := mostRecent_descending.mem_of_take taken
    have less := newest kept inside dropped member ((kept_iff terminal inside).mpr taken)
      (fun here => outside ((kept_iff terminal member).mp here))
    exact UInt64.lt_iff_toNat_lt.mp less
  · intro separates kept inside dropped member here gone
    refine UInt64.lt_iff_toNat_lt.mpr
      (separates kept ((kept_iff terminal inside).mp here) dropped member ?_)
    exact fun taken => gone ((kept_iff terminal member).mpr taken)

omit [StdSort] in
/-- A bucket has one record of a number. -/
theorem StemsFrom.single {created : List JournalRecord} (stems : index.StemsFrom created)
    (increasing : created.Pairwise fun earlier later => earlier.deviceSeq < later.deviceSeq) :
    ∀ a ∈ index.bucket status, ∀ b ∈ index.bucket status, sequence a = sequence b → a = b := by
  intro a first b second same
  have here := ((mem_bucket a).mp first).1
  have there := ((mem_bucket b).mp second).1
  obtain ⟨creation, listed, id, number, _⟩ := stems a.1 a.2 here
  obtain ⟨other, known, otherId, otherNumber, _⟩ := stems b.1 b.2 there
  have equal : creation.deviceSeq = other.deviceSeq := by
    rw [number, otherNumber]
    exact UInt64.toNat_inj.mp same
  have distinct : (created.map JournalRecord.deviceSeq).Nodup :=
    List.pairwise_map.mpr (increasing.imp fun less => UInt64.ne_of_lt less)
  have one : creation = other := List.inj_on_of_nodup_map distinct listed known equal
  have ids : a.1 = b.1 := by rw [← id, ← otherId, one]
  rw [ids, there, Option.some.injEq] at here
  exact Prod.ext ids here.symm

omit [StdSort] in
private theorem newest_length (index : EventJournalIndex) (policy : CompactionPolicy)
    (status : JournalSyncStatus) :
    (index.newest policy status).length =
      min (policy.retention status).toNat (index.bucket status).length :=
  newest_descending.length_take _

/-- Where the clock agrees, the selection of any sort is the newest ones. -/
theorem retainsNewest_of_clockAgrees (agrees : index.ClockAgrees policy)
    (single : ∀ status, ∀ a ∈ index.bucket status, ∀ b ∈ index.bucket status,
      sequence a = sequence b → a = b) :
    RetainsNewest index policy := by
  refine ⟨?_, fun status => select_count, ?_, select_nodup⟩
  · intro status terminal
    rw [newest_iff terminal]
    have selected :=
      mostRecent_descending.mem_take_iff bucket_nodup (newest_descending.nodup bucket_nodup _)
      (fun _ taken => newest_descending.mem_of_take taken) (newest_length index policy status)
        (agrees status terminal)
    intro kept taken dropped member outside
    rw [selected] at taken outside
    exact newest_descending.separates (single status) _ kept taken dropped member outside
  · intro id r known live
    exact (mem_select known).mpr (.inl live)

omit [StdSort] in
/-- A stable sort leaves records of one uptime as they stand. -/
private theorem before_sorted {a b : Filing} {items : List Filing} (same : uptime a = uptime b)
    (first : a ∈ index.bucket status) (second : b ∈ index.bucket status)
    (order : [a, b].Sublist items) :
    [a, b].Sublist ((StdSort.insertion.sort (fun a b => decide (a.1 > b.1))
      (items.map fun kv => (kv.2.createdUptimeMs, kv.1))).map (filingOf index)) := by
  have equal : a.2.createdUptimeMs = b.2.createdUptimeMs := UInt32.toNat_inj.mp same
  have entries : [(a.2.createdUptimeMs, a.1), (b.2.createdUptimeMs, b.1)].Sublist
      (items.map fun kv => (kv.2.createdUptimeMs, kv.1)) :=
        order.map fun kv : Filing => (kv.2.createdUptimeMs, kv.1)
  have kept : [(a.2.createdUptimeMs, a.1), (b.2.createdUptimeMs, b.1)].Sublist
      ((items.map fun kv => (kv.2.createdUptimeMs, kv.1)).insertionSort fun x y =>
        decide (y.1 > x.1) = false) :=
    List.pair_sublist_insertionSort (by simp [equal]) entries
  have mapped := kept.map (filingOf index)
  rw [List.map_cons, List.map_cons, List.map_nil, filingOf_entry first,
    filingOf_entry second] at mapped
  exact mapped

omit [StdSort] in
/-- Where every sort retains the newest, the clock agrees: of two records with one uptime
some sort puts the older one first. -/
theorem clockAgrees_of_retainsNewest (all : ∀ sort : StdSort, @RetainsNewest sort index policy) :
    index.ClockAgrees policy := by
  intro status terminal
  have selected (sort : StdSort) (filing : Filing) :
      filing ∈ index.newest policy status ↔
        filing ∈ (@mostRecent sort index status).take (policy.retention status).toNat := by
    have descending := @mostRecent_descending index status sort
    exact newest_descending.mem_take_iff bucket_nodup (descending.nodup bucket_nodup _)
      (fun _ taken => descending.mem_of_take taken) (descending.length_take _)
      ((@newest_iff index policy status sort terminal).mp ((all sort).newest status terminal))
        filing
  intro kept inside dropped member outside
  have descending (sort : StdSort) := @mostRecent_descending index status sort
  have taken (sort : StdSort) := (selected sort kept).mp inside
  have left (sort : StdSort) := fun here => outside ((selected sort dropped).mpr here)
  have bucketed := (descending .insertion).mem_of_take (taken .insertion)
  have behind := ((descending .insertion).mem_take_or_drop _ member).resolve_left (left .insertion)
  refine lt_of_le_of_ne ((descending .insertion).take_le (taken .insertion) behind) fun same => ?_
  have differ : dropped ≠ kept := by
    rintro rfl
    exact outside inside
  rcases before_or_reverse member bucketed differ with order | order
  · have before : [dropped, kept].Sublist (@mostRecent .insertion index status) :=
      before_sorted same member bucketed order
    exact left .insertion
      ((descending .insertion).taken_of_before bucket_nodup before (taken .insertion))
  · have before : [dropped, kept].Sublist (@mostRecent .reversed index status) := by
      have sorted := before_sorted same member bucketed order
      rw [List.map_reverse] at sorted
      exact sorted
    exact left .reversed
      ((descending .reversed).taken_of_before bucket_nodup before (taken .reversed))

omit [StdSort] in
/-- Whatever the history of the index: a compaction retains the newest of every bucket,
with any sort, exactly when the clock agrees with the numbers. -/
theorem retainsNewest_iff (index : EventJournalIndex) (policy : CompactionPolicy)
    (created : List JournalRecord)
    (increasing : created.Pairwise fun earlier later => earlier.deviceSeq < later.deviceSeq)
    (stems : index.StemsFrom created) :
    (∀ sort : StdSort, @RetainsNewest sort index policy) ↔ index.ClockAgrees policy := by
  constructor
  · exact clockAgrees_of_retainsNewest
  · intro agrees sort
    exact retainsNewest_of_clockAgrees agrees fun status => stems.single increasing

end Buckets

/-- Two acked events, the second created after a reboot. -/
private def beforeReboot : JournalRecord :=
  { eventId := text "e1", eventType := text "SCAN", deviceSeq := 1, createdUptimeMs := 60000 }

private def afterReboot : JournalRecord :=
  { eventId := text "e2", eventType := text "SCAN", deviceSeq := 101, createdUptimeMs := 3000 }

private def acked (eventId : Bytes) : JournalTransition :=
  { eventId := eventId, syncStatus := .acked }

/-- The second boot scans the frames of the first and goes on. -/
private def twoBoots : EventJournalIndex :=
  let scanned : EventJournalIndex :=
    [encodeJournalEvent beforeReboot, encodeJournalTransition (acked (text "e1"))].foldl
      (fun index body => applyScannedFrame index body (frameSizeOf body)) { capacityBytes := 65536 }
  let recorded :=
    scanned.recordAppendedEvent afterReboot (frameSizeOf (encodeJournalEvent afterReboot))
  recorded.recordAppendedTransition (acked (text "e2"))
    (frameSizeOf (encodeJournalTransition (acked (text "e2"))))

private def ackedRecord (r : JournalRecord) : Filing := (r.eventId, { r with syncStatus := .acked })

private theorem twoBoots_stems : twoBoots.StemsFrom [beforeReboot, afterReboot] := by
  have listed : twoBoots.records.toList = [ackedRecord beforeReboot, ackedRecord afterReboot] := by
    decide +kernel
  intro id r found
  have member : (id, r) ∈ twoBoots.records.toList :=
    Std.ExtTreeMap.mem_toList_iff_getElem?_eq_some.mpr found
  rw [listed] at member
  simp only [List.mem_cons, List.not_mem_nil, or_false, ackedRecord, Prod.mk.injEq] at member
  rcases member with ⟨rfl, rfl⟩ | ⟨rfl, rfl⟩
  · exact ⟨beforeReboot, by simp, rfl, rfl, rfl⟩
  · exact ⟨afterReboot, by simp, rfl, rfl, rfl⟩

/-- With room for both of them everything is retained. -/
theorem retainsNewest_both :
    (∀ sort : StdSort, @RetainsNewest sort twoBoots {}) ∧ twoBoots.ClockAgrees {} := by
  have agrees : twoBoots.ClockAgrees {} := by
    intro status terminal
    revert terminal
    cases status <;> decide +kernel
  exact ⟨(retainsNewest_iff twoBoots {} _ (by decide) twoBoots_stems).mpr agrees, agrees⟩

/-- With room for one of them the later one is dropped. -/
theorem newest_dropped : ¬ @RetainsNewest .insertion twoBoots { ackedRetentionCount := 1 } := by
  intro retains
  have dropped := @RetainsNewest.newest .insertion _ _ retains .acked rfl (ackedRecord beforeReboot)
    (by decide +kernel) (ackedRecord afterReboot) (by decide +kernel) (by decide +kernel)
      (by decide +kernel)
  exact absurd dropped (by decide)

end EventJournalIndex

end Kiosk.Protocol
