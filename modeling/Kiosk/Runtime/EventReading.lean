import Kiosk.Backend.EventRead
import Kiosk.Runtime.EventBody
import Kiosk.Runtime.OfflineWork

/-! What the backend makes of the events the runtime sends, over whole runs: where the names,
the clock texts and the scanned lines are UTF-8, each event is read as it was created. -/
namespace Kiosk.Runtime

open Library Library.KeySearch Library.TransitionSystem Library.JsonText Protocol Network
  Storage Backend

namespace KioskRuntime

/-- Where a step has the strings of a new event from. -/
structure Made (k : KioskRuntime) (input : RuntimeStep) (event : KioskEvent) : Prop where
  version : event.protocolVersion = 1
  device : event.device = ⟨cStr k.deviceId, cStr k.hardwareId, cStr k.bootId⟩
  drawn : ∃ env,
      input.operatorEnv = some env ∧ event.event.eventId = generateRandomHexId 16 env.espRandom ∧
    event.time.timestampDeviceIso = cStr env.iso8601Now
  source : event.payload.source = text "GM65" ∨ event.payload.source = text "KEYPAD"
  raw : event.payload.raw = [] ∨ ∃ env rawCode,
    input = .scan env rawCode ∧ event.payload.raw = cStr rawCode

/-- Under the same names, the events after a step are those before it and those it made. -/
structure Makes (k : KioskRuntime) (input : RuntimeStep) (after : BodyView) : Prop where
  names : (⟨after.deviceId, after.hardwareId, after.bootId⟩ : EventDeviceInfo) =
    ⟨k.deviceId, k.hardwareId, k.bootId⟩
  created : ∀ event ∈ after.createdEvents, event ∈ k.createdEvents ∨ Made k input event

section Steps

variable {k : KioskRuntime} {input : RuntimeStep} {env : LoopEnv}

private theorem Makes.same (same : after = k.bodyView) : Makes k input after := by
  subst same
  exact ⟨rfl, fun event member => .inl member⟩

private theorem Makes.send (operator : input.operatorEnv = some env)
    (line : rawPayload = [] ∨ ∃ env, input = .scan env rawPayload)
    (type : EventType) (good defect rework : OptionalQuantity) :
    Makes k input ((k.touchActivity env).sendBusinessEvent env type rawPayload good defect
      rework).bodyView := by
  unfold sendBusinessEvent
  split
  · exact .same rfl
  simp only
  split
  · exact .same rfl
  · rw [bodyView_dispatchEvent]
    refine ⟨rfl, fun event member => ?_⟩
    rcases List.mem_cons.mp member with rfl | before
    · refine .inr ⟨rfl, rfl, ⟨env, operator, rfl, rfl⟩, ?_, ?_⟩
      · simp only [newEvent]
        split
        · exact .inl rfl
        · exact .inr rfl
      · rcases line with rfl | ⟨other, scanned⟩
        · exact .inl rfl
        · exact .inr ⟨other, rawPayload, scanned, rfl⟩
    · exact .inl before

private theorem Makes.key (operator : input.operatorEnv = some env) (key : UInt8) :
    Makes k input (k.handleKeyDown env key).bodyView := by
  have quantity : Makes k input ((k.touchActivity env).handleQuantityKey env key).bodyView := by
    unfold handleQuantityKey
    split
    · exact .send operator (.inl rfl) _ _ _ _
    · split
      · exact .same rfl
      · exact .same rfl
  unfold handleKeyDown handleBusinessKey
  repeat' split
  all_goals first
    | exact .same rfl
    | exact .send operator (.inl rfl) _ _ _ _
    | exact quantity

private theorem Makes.timeout (operator : input.operatorEnv = some env) :
    Makes k input (k.checkUiTimeout env).bodyView := by
  unfold checkUiTimeout
  repeat' split
  all_goals first
    | exact .same rfl
    | exact .send operator (.inl rfl) _ _ _ _

private theorem Makes.scan (rawCode : Bytes) :
    Makes k (.scan env rawCode) (k.handleScan env rawCode).bodyView := by
  unfold handleScan
  repeat' split
  all_goals first
    | exact .same rfl
    | exact .send rfl (.inr ⟨env, rfl⟩) _ _ _ _

end Steps

variable [StdSort]

theorem step_makes (k : KioskRuntime) (input : RuntimeStep)
    (stays : ∀ config, input ≠ .reboot config) :
    Makes k input (k.step input).bodyView := by
  cases input with
  | scan env rawCode => exact .scan rawCode
  | keyDown env key => exact .key rfl key
  | checkUiTimeout env => exact .timeout rfl
  | pollResult env => exact .same (bodyView_pollResult k env)
  | replayFallback env =>
    simp only [step]
    unfold replayFallback
    split
    · exact .same (bodyView_startOfflineReplay _)
    · exact .same rfl
  | checkOfflineReplay env => exact .same (bodyView_checkOfflineReplay k env)
  | startOfflineReplay => exact .same (bodyView_startOfflineReplay k)
  | bootstrapResult env result => exact .same (bodyView_onBootstrapResult k env result)
  | requestManualResync env =>
    simp only [step, requestManualResync]
    split <;> exact .same rfl
  | reboot config => exact absurd rfl (stays config)
  | enqueueBootstrap | enqueueHeartbeat | enqueueUiBundleFetch | takeBootstrapResult
  | takeUiBundleFetchResult | task | beginCompaction | compactTick => exact .same rfl

/-- The names of a device, in UTF-8. -/
structure Named (info : EventDeviceInfo) : Prop where
  deviceId : IsUtf8 info.deviceId
  hardwareId : IsUtf8 info.hardwareId
  bootId : IsUtf8 info.bootId

/-- What a step brings in from outside is UTF-8. -/
def TextInput : RuntimeStep → Prop
  | .scan env rawCode => IsUtf8 env.iso8601Now ∧ IsUtf8 rawCode
  | .keyDown env _ => IsUtf8 env.iso8601Now
  | .checkUiTimeout env => IsUtf8 env.iso8601Now
  | .reboot config => Named ⟨config.deviceId, config.hardwareId, config.bootId⟩
  | _ => True

/-- An event that can be read, under the id that was drawn for it. -/
structure ReadableEvent (event : KioskEvent) : Prop where
  version : event.protocolVersion = 1
  spelled : ∃ texts, SpellsEvent inUtf8 event texts
  eventId : ∀ byte ∈ event.event.eventId, byte < 128

/-- Every event so far can be read. -/
structure Readable (k : KioskRuntime) : Prop where
  named : Named ⟨k.deviceId, k.hardwareId, k.bootId⟩
  created : ∀ event ∈ k.createdEvents, ReadableEvent event

variable {k : KioskRuntime} {input : RuntimeStep} {event : KioskEvent}

omit [StdSort] in
/-- The cut falls before an ASCII byte, and so between two characters. -/
theorem isUtf8_cStr (whole : IsUtf8 content) : IsUtf8 (cStr content) := by
  cases cut : content.dropWhile (· ≠ 0) with
  | nil =>
    have kept : cStr content = content := by
      rw [cStr, List.takeWhile_eq_self_iff]
      exact List.dropWhile_eq_nil_iff.mp cut
    rwa [kept]
  | cons byte rest =>
    have zero : byte = 0 := by
      have stops := List.head?_dropWhile_not (p := fun byte : UInt8 => decide (byte ≠ 0)) content
      rw [cut] at stops
      simpa using stops
    have split : cStr content ++ byte :: rest = content := by
      rw [cStr, ← cut, List.takeWhile_append_dropWhile]
    rw [← split] at whole
    exact (isUtf8_split (by rw [zero]; decide) whole).1

omit [StdSort] in
private theorem Made.readable (made : Made k input event)
    (named : Named ⟨k.deviceId, k.hardwareId, k.bootId⟩)
    (within : TextInput input) : ReadableEvent event := by
  obtain ⟨env, operator, drawn, clock⟩ := made.drawn
  have digits : ∀ byte ∈ event.event.eventId, byte < 128 := by
    intro byte member
    rw [drawn] at member
    exact generateRandomHexId_ascii member
  have clockText : IsUtf8 event.time.timestampDeviceIso := by
    rw [clock]
    refine isUtf8_cStr ?_
    cases input with
    | scan other rawCode =>
      obtain rfl : other = env := Option.some.inj operator
      exact within.1
    | keyDown other key =>
      obtain rfl : other = env := Option.some.inj operator
      exact within
    | checkUiTimeout other =>
      obtain rfl : other = env := Option.some.inj operator
      exact within
    | _ => cases operator
  have line : IsUtf8 event.payload.raw := by
    rcases made.raw with empty | ⟨env, rawCode, scan, cut⟩
    · rw [empty]
      exact isUtf8_ascii (by simp)
    · subst scan
      rw [cut]
      exact isUtf8_cStr within.2
  have source : IsUtf8 event.payload.source := by
    rcases made.source with gm65 | keypad
    · rw [gm65]
      exact isUtf8_ascii (ascii_of_all (by decide))
    · rw [keypad]
      exact isUtf8_ascii (ascii_of_all (by decide))
  have device := made.device
  obtain ⟨deviceId, spelledDevice⟩ := exists_inUtf8 (isUtf8_cStr named.deviceId)
  obtain ⟨hardwareId, spelledHardware⟩ := exists_inUtf8 (isUtf8_cStr named.hardwareId)
  obtain ⟨bootId, spelledBoot⟩ := exists_inUtf8 (isUtf8_cStr named.bootId)
  obtain ⟨timestamp, spelledTime⟩ := exists_inUtf8 clockText
  obtain ⟨name, spelledSource⟩ := exists_inUtf8 source
  obtain ⟨raw, spelledRaw⟩ := exists_inUtf8 line
  refine ⟨made.version,
    ⟨⟨deviceId, hardwareId, bootId, _, timestamp, name, raw⟩, ?_, ?_, ?_, inUtf8_ascii digits,
    fun _ => spelledTime, spelledSource, spelledRaw⟩, digits⟩
  all_goals
    rw [device]
    assumption

/-- A step with text from outside keeps every event readable. -/
theorem Readable.step (readable : Readable k) (within : TextInput input) :
    Readable (k.step input) := by
  by_cases restart : ∃ config, input = .reboot config
  · obtain ⟨config, rfl⟩ := restart
    have view := bodyView_reboot k config
    simp only [TextInput] at within
    refine ⟨?_, fun event member => ?_⟩
    · change Named
        ⟨(k.reboot config).bodyView.deviceId, (k.reboot config).bodyView.hardwareId,
        (k.reboot config).bodyView.bootId⟩
      rw [view]
      exact within
    · simp only [KioskRuntime.step, reboot] at member
      exact readable.created event member
  · have makes := step_makes k input fun config same => restart ⟨config, same⟩
    refine ⟨?_, fun event member => ?_⟩
    · have named := readable.named
      rw [← makes.names] at named
      exact named
    · rcases makes.created event member with before | made
      · exact readable.created event before
      · exact made.readable readable.named within

/-- Along every run whose names, clock texts and lines are UTF-8 and within their lengths,
the backend reads each event the device sends as the event that was created: the fields the
handler takes out of its body are those of the event, and it is filed under its own id. -/
theorem created_read {δ : Type} (digest : Json → δ) (isdigit : PyStr → Bool) (config : BootConfig)
    (highWaterMark : UInt64)
    (journal : EventJournal) (inputs : List RuntimeStep) (sized : config.Sized)
    (named : Named ⟨config.deviceId, config.hardwareId, config.bootId⟩)
    (along : Along KioskRuntime.step (fun _ input => SizedInput input ∧ TextInput input)
      (boot config highWaterMark journal) inputs) :
    ∀ event ∈ (run KioskRuntime.step (boot config highWaterMark journal) inputs).createdEvents,
      ∃ texts, SpellsEvent inUtf8 event texts ∧
        (python digest isdigit).fields (liveBody event) = fieldsOf event texts ∧
        Joint.Decodes (python digest isdigit) (fieldsOf event texts).cacheKey.1 event := by
  have whole := createdEvents_sized config highWaterMark journal inputs sized
    (along.mono fun _ _ both => both.1)
  have readable : Readable (run KioskRuntime.step (boot config highWaterMark journal) inputs) :=
    along.invariant ⟨named, by simp [boot]⟩ fun k input readable both => readable.step both.2
  intro event member
  obtain ⟨_, ⟨texts, spelled⟩, ascii⟩ := readable.created event member
  have body : liveBody event = encodeEventJson event :=
    fillBody_whole (eventBody_whole event (whole event member)).1
  have taken := python_fields digest isdigit spelled
  have ownId : texts.eventId = event.event.eventId.map UInt8.toNat :=
    inUtf8_functional spelled.eventId (inUtf8_ascii ascii)
  refine ⟨texts, spelled, ?_, ?_, ?_⟩
  · rw [body, taken]
  · rw [EventTrace.keyOf, body, taken, ← ownId]
    rfl
  · rw [body, taken]
    rfl

omit [StdSort] in
/-- A worker's card scanned at a new device, and the event read under its own id. -/
theorem created_read_card :
    let isdigit : PyStr → Bool := fun string => string ≠ [] && string.all fun c => 48 ≤ c && c ≤ 57
    let config : BootConfig :=
      { deviceId := text "MESFLOW-KIOSK-000001", bootId := text "0badcafe",
        apiEndpoint := text "http://b/events" }
    let inputs : List RuntimeStep :=
      [.bootstrapResult {}
        { status := .ok, snapshot := some { state := .waitEmployee, stateVersion := 1 } },
        .scan {} (text "WF|EMP|NV001")]
    ∃ event ∈ (run (@step .insertion) (boot config 0 (.init {} 65536)) inputs).createdEvents,
      ∃ texts, event.payload.raw = text "WF|EMP|NV001" ∧
        (python Json.get isdigit).fields (liveBody event) = fieldsOf event texts := by
  intro isdigit config inputs
  have sized : config.Sized := by constructor <;> decide
  have named : Named ⟨config.deviceId, config.hardwareId, config.bootId⟩ := by
    constructor
    all_goals exact isUtf8_ascii (ascii_of_all (by decide))
  have clock : IsUtf8 ({} : LoopEnv).iso8601Now := isUtf8_ascii (ascii_of_all (by decide))
  have along : Along (@step .insertion) (fun _ input => SizedInput input ∧ TextInput input)
      (boot config 0 (.init {} 65536)) inputs := by
    apply Along.of_mem
    intro input member k
    simp only [inputs, List.mem_cons, List.not_mem_nil, or_false] at member
    rcases member with rfl | rfl
    · exact ⟨trivial, trivial⟩
    · exact ⟨⟨by decide, by decide⟩, clock, isUtf8_ascii (ascii_of_all (by decide))⟩
  have scanned :
      ∃ event ∈ (run (@step .insertion) (boot config 0 (.init {} 65536)) inputs).createdEvents,
      event.payload.raw = text "WF|EMP|NV001" := by decide +kernel
  obtain ⟨event, created, raw⟩ := scanned
  obtain ⟨texts, _, read, _⟩ :=
    @created_read .insertion _ Json.get isdigit config 0 (.init {} 65536) inputs sized named along
      event created
  exact ⟨event, created, texts, raw, read⟩

end KioskRuntime

end Kiosk.Runtime
