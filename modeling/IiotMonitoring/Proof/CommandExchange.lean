import IiotMonitoring.Proof.ContractAgree
import IiotMonitoring.Proof.NetworkStrings
import IiotMonitoring.Proof.PublishedAck
import IiotMonitoring.Proof.RelayTasks

/-!
# From the server to the relay and back

An issued command reaches `command_task` and is applied as requested, whatever happens between the
task's steps, and the acknowledgement reaches the server's decoder.
-/

namespace IiotMonitoring

/-! ### The names on both sides -/

/-- The names that a gateway with a configuration has started with. -/
structure GatewayIdentity.Of (identity : GatewayIdentity) (config : IiotConfig) : Prop where
  site : decodeUtf8 (cText config.siteId) = some (codes identity.siteId)
  device : decodeUtf8 (cText config.deviceId) = some (codes identity.deviceId)
  topic : ∃ availabilityTopic strings, gatewayNetworkStart availabilityTopic config = some strings ∧
    decodeUtf8 (cText strings.commandTopic) = some (codes identity.commandTopic)

theorem commandsSuffix_text :
    decodeUtf8 commandsSuffix.bytes = some (codes (TopicKind.text .commands)) := by
  rw [decodeUtf8_iff_ascii (codes_text_ascii _)]
  exact literalText_text .commands

theorem commandTopic_of_start {config : IiotConfig} {availabilityTopic : Vector UInt8 iiotTopicMax}
    {strings : NetworkStrings} (h : gatewayNetworkStart availabilityTopic config = some strings) :
    strings.commandTopic = (iiotMakeTopic (zeroArray iiotTopicMax) (cString config.siteId)
      (cString config.deviceId) commandsSuffix).2 := by
  unfold gatewayNetworkStart at h
  dsimp only at h
  split_ifs at h
  rw [← Option.some.inj h]

/-- The topic a gateway listens on is the one the server makes of the same names. -/
theorem GatewayIdentity.Of.commandTopic {identity : GatewayIdentity} {config : IiotConfig}
    (h : identity.Of config) {value : Text}
    (hvalue : TopicKind.topic .commands (codes identity.siteId) (codes identity.deviceId) = .ok value) :
    codes identity.commandTopic = value := by
  obtain ⟨availabilityTopic, strings, hstart, htopic⟩ := h.topic
  have hmade := (sameTopic (zeroArray iiotTopicMax) (cString config.siteId) (cString config.deviceId)
    commandsSuffix).text _ _ .commands value h.site h.device commandsSuffix_text hvalue
  rw [commandTopic_of_start hstart, hmade.1] at htopic
  exact (Option.some.inj htopic).symm

/-! ### Between the steps of `command_task` -/

/-- No step of `command_task`. -/
def RelayEvent.Outside : RelayEvent → Prop
  | .receive | .check _ | .unlock | .apply | .answer _ => False
  | _ => True

/-- What other events leave as it is. A relay that is not locked stays so. -/
structure TaskKept (before after : RelayTasks) : Prop where
  command : after.command = before.command
  applied : after.applied = before.applied
  acks : after.acks = before.acks
  unlocked : before.relayLocked = false → after.relayLocked = false

theorem TaskKept.refl (tasks : RelayTasks) : TaskKept tasks tasks := ⟨rfl, rfl, rfl, id⟩

theorem TaskKept.trans {first second third : RelayTasks} (h : TaskKept first second)
    (h' : TaskKept second third) : TaskKept first third where
  command := h'.command.trans h.command
  applied := h'.applied.trans h.applied
  acks := h'.acks.trans h.acks
  unlocked := h'.unlocked ∘ h.unlocked

section Run

variable {parse : List UInt8 → Option CJson} {identity : GatewayIdentity}

theorem taskKept_step (tasks : RelayTasks) {event : RelayEvent} (h : event.Outside) :
    TaskKept tasks (relayStep parse identity tasks event) := by
  cases event with
  | wifiDisconnected => exact ⟨rfl, rfl, rfl, id⟩
  | gotIp => exact ⟨rfl, rfl, rfl, id⟩
  | mqttConnected => exact ⟨rfl, rfl, rfl, id⟩
  | mqttDisconnected => exact ⟨rfl, rfl, rfl, id⟩
  | mqttData topic payload =>
      obtain ⟨queue, delivered, hstep⟩ := relayStep_mqttData parse identity tasks topic payload
      rw [hstep]
      exact ⟨rfl, rfl, rfl, id⟩
  | expire =>
      unfold relayStep
      dsimp only
      split
      · split_ifs
        · exact ⟨rfl, rfl, rfl, id⟩
        · exact .refl tasks
      · exact .refl tasks
  | callback =>
      unfold relayStep
      dsimp only
      split
      · exact ⟨rfl, rfl, rfl, id⟩
      · exact .refl tasks
  | tick =>
      unfold relayStep
      dsimp only
      split_ifs
      · exact .refl tasks
      · exact ⟨rfl, rfl, rfl, id⟩
  | stable => exact ⟨rfl, rfl, rfl, fun _ => rfl⟩
  | receive => exact h.elim
  | check clock => exact h.elim
  | unlock => exact h.elim
  | apply => exact h.elim
  | answer accepted => exact h.elim

theorem taskKept_exec {events : List RelayEvent} (h : ∀ event ∈ events, event.Outside)
    (tasks : RelayTasks) : TaskKept tasks (exec (relayStep parse identity) tasks events) :=
  exec_related TaskKept TaskKept.refl (fun _ _ _ => TaskKept.trans)
    (fun tasks event hevent => taskKept_step tasks (h event hevent)) tasks

/-! ### The run of an issued command -/

def RelayCommandCreate.resultCode (request : RelayCommandCreate) : String :=
  if request.relayOn then "RELAY_ON" else "RELAY_OFF"

/-- What `command_task` has done when it applied the command: the relay and its timer are as requested,
and the answer is to come. -/
structure Applied (issue : CommandIssue) (before after : RelayTasks) : Prop where
  relay : after.relayOn = issue.request.relayOn
  timer : after.deadline =
    if issue.request.relayOn then some (after.now + issue.request.timeoutS * 1000000) else none
  record : ∃ command, after.applied = before.applied ++
    [⟨command, ⟨issue.commandId, issue.request.relayOn, issue.request.timeoutS⟩, false, after.now⟩]
  acks : after.acks = before.acks
  answer : after.command = .answering issue.commandId "completed" issue.request.resultCode

theorem relayStep_receive {tasks : RelayTasks} {payload : List UInt8} {rest : List (List UInt8)}
    (hcommand : tasks.command = .receiving) (hqueue : tasks.commandQueue = payload :: rest) :
    relayStep parse identity tasks .receive =
      { tasks with commandQueue := rest, command := .checking payload } := by
  unfold relayStep
  dsimp only
  rw [hcommand, hqueue]

theorem relayStep_check {tasks : RelayTasks} {payload : List UInt8} {clock : Option String}
    {command : CheckedCommand} (hcommand : tasks.command = .checking payload)
    (hchecked : checkCommand identity clock (parse payload) = .ok command) :
    relayStep parse identity tasks (.check clock) = { tasks with command := .unlocking command } := by
  unfold relayStep
  dsimp only
  rw [hcommand]
  dsimp only
  rw [hchecked]

theorem relayStep_unlock {tasks : RelayTasks} {command : CheckedCommand} {change : RelayChange}
    (hcommand : tasks.command = .unlocking command) (hunlocked : tasks.relayLocked = false)
    (hchecked : checkParameters command = .ok change) :
    relayStep parse identity tasks .unlock = { tasks with command := .applying command change } := by
  unfold relayStep
  dsimp only
  rw [hcommand]
  dsimp only
  rw [hunlocked, if_neg (by decide), hchecked]

theorem relayStep_apply {tasks : RelayTasks} {command : CheckedCommand} {change : RelayChange}
    (hcommand : tasks.command = .applying command change) :
    relayStep parse identity tasks .apply = tasks.applyChange command change := by
  unfold relayStep
  dsimp only
  rw [hcommand]

/-- From the queue to the relay, with other events between the steps. -/
theorem applied_run {issue : CommandIssue} {tasks : RelayTasks} {payload : List UInt8}
    {rest : List (List UInt8)} {clock : Option String} {command : CheckedCommand}
    (hcommand : tasks.command = .receiving) (hqueue : tasks.commandQueue = payload :: rest)
    (hunlocked : tasks.relayLocked = false)
    (hchecked : checkCommand identity clock (parse payload) = .ok command)
    (hparameters : checkParameters command =
      .ok ⟨issue.commandId, issue.request.relayOn, issue.request.timeoutS⟩)
    {first second third : List RelayEvent} (hfirst : ∀ event ∈ first, event.Outside)
    (hsecond : ∀ event ∈ second, event.Outside) (hthird : ∀ event ∈ third, event.Outside) :
    Applied issue tasks (exec (relayStep parse identity) tasks
      (.receive :: first ++ .check clock :: second ++ .unlock :: third ++ [.apply])) := by
  rw [exec_append, exec_append, exec_append, exec_cons, exec_cons, exec_cons, exec_cons, exec_nil,
    relayStep_receive hcommand hqueue]
  have hkept := @taskKept_exec parse identity _ hfirst
    { tasks with commandQueue := rest, command := .checking payload }
  generalize exec (relayStep parse identity) _ first = received at hkept ⊢
  rw [relayStep_check hkept.command hchecked]
  have hkept' := @taskKept_exec parse identity _ hsecond { received with command := .unlocking command }
  generalize exec (relayStep parse identity) _ second = checked at hkept' ⊢
  rw [relayStep_unlock hkept'.command (hkept'.unlocked (hkept.unlocked hunlocked)) hparameters]
  have hkept'' := @taskKept_exec parse identity _ hthird
    { checked with
      command := .applying command ⟨issue.commandId, issue.request.relayOn, issue.request.timeoutS⟩ }
  generalize exec (relayStep parse identity) _ third = unlocked at hkept'' ⊢
  rw [relayStep_apply hkept''.command]
  constructor
  · rfl
  · rfl
  · refine ⟨command, ?_⟩
    have happlied := hkept''.applied.trans (hkept'.applied.trans hkept.applied)
    have hlocked := hkept''.unlocked (hkept'.unlocked (hkept.unlocked hunlocked))
    unfold RelayTasks.applyChange
    dsimp only
    rw [happlied, hlocked]
    rfl
  · exact hkept''.acks.trans (hkept'.acks.trans hkept.acks)
  · rfl

/-- The acknowledgement of an applied command. -/
def CommandIssue.ack (issue : CommandIssue) (tasks : RelayTasks) : CommandAck where
  commandId := issue.commandId
  status := "completed"
  resultCode := issue.request.resultCode
  relayOn := tasks.relayOn

theorem answered_run {issue : CommandIssue} {before after : RelayTasks} (h : Applied issue before after)
    {events : List RelayEvent} (hevents : ∀ event ∈ events, event.Outside) (accepted : Bool) :
    let ready := exec (relayStep parse identity) after events
    (relayStep parse identity ready (.answer accepted)).acks =
      if ready.mqttConnected && accepted then before.acks ++ [issue.ack ready] else before.acks := by
  intro ready
  have hkept := @taskKept_exec parse identity _ hevents after
  have hcommand : ready.command = .answering issue.commandId "completed" issue.request.resultCode :=
    hkept.command.trans h.answer
  unfold relayStep
  dsimp only
  rw [hcommand]
  dsimp only
  rw [hkept.acks.trans h.acks]
  rfl

end Run

/-! ### The exchange -/

/-- What `publish_command_ack` publishes of an acknowledgement is the whole text, and the server decodes
it. -/
def AckDecoded (pydantic : Pydantic) (config : IiotConfig) (siteId deviceId : String)
    (status : AckStatus) (ack : CommandAck) : Prop :=
  ∀ (payload : Vector UInt8 768) (topic : Vector UInt8 iiotTopicMax) (random : Vector UInt8 16) (time : Int),
    time * 1000000 ≤ datetimeMax →
      let text := commandAckText config (gatewayMakeUuid random) (jsonTime time) ack
      ∃ topicBytes topicText,
        publishCommandAck true config payload topic random time ack = some (topicBytes, text) ∧
          decodeUtf8 topicBytes = some topicText ∧
          decodeCommandAck pydantic topicText text =
            .ok (ackEnvelope siteId deviceId (uuid4 random)
              ((gatewayUtcNow time 32).map fun _ => time * 1000000) status ack)

theorem ackDecoded {pydantic : Pydantic} (hpydantic : pydantic.ReadsAcks) {config : IiotConfig}
    {issue : CommandIssue} {siteId : String} (h : issue.Valid siteId)
    (hnames : config.Names siteId issue.deviceId) (tasks : RelayTasks) :
    AckDecoded pydantic config siteId issue.deviceId .completed (issue.ack tasks) := by
  intro payload topic random time hmax text
  obtain ⟨random', hid⟩ := h.commandId
  have hcommand : isUuidText issue.commandId.toList = true := by
    rw [hid]
    exact isUuidText_uuid4 random'
  have hresult : codePattern (codes issue.request.resultCode) = true ∧
      Verbatim (codes issue.request.resultCode) ∧ (codes issue.request.resultCode).length ≤ 48 := by
    unfold RelayCommandCreate.resultCode
    split_ifs
    · decide
    · decide
  have hstatus : Verbatim (codes "completed") ∧ (codes "completed").length ≤ 9 := by decide
  have htexts : AckTexts siteId issue.deviceId (uuid4 random) (issue.ack tasks) :=
    ⟨((identifierPattern_iff _).mp h.site).verbatim, ((identifierPattern_iff _).mp h.device).verbatim,
      (verbatim_uuid4 random).1, h.verbatim_commandId.1, hstatus.1, hresult.2.1⟩
  obtain ⟨topicBytes, topicText, hdecoded, hparsed, hpublished, htext, hfits⟩ :=
    publishCommandAck_eq hnames payload topic random hmax htexts h.verbatim_commandId.2.le
      hstatus.2 hresult.2.2
  refine ⟨topicBytes, topicText, hpublished, hdecoded, ?_⟩
  have hsize : text.length ≤ maxPayloadBytes := hfits.le.trans (by decide)
  rw [show text = _ from htext] at hsize ⊢
  exact @decodeCommandAck_ackJson _ _ _ _ (issue.ack tasks) _ hpydantic hmax h.site h.device
    (isUuidText_uuid4 random) hcommand .completed rfl hresult.1 topicText hparsed hsize

section Exchange

variable {parse : List UInt8 → Option CJson} {identity : GatewayIdentity}

/-- What arrives on the command topic and fits is queued as it is, where there is room. -/
theorem commandQueue_mqttData {tasks : RelayTasks} {payload : List UInt8}
    (hroom : tasks.commandQueue.length < commandQueueLength) (hpositive : 0 < payload.length)
    (hfits : payload.length < commandPayloadMax) :
    (relayStep parse identity tasks (.mqttData identity.commandTopic payload)).commandQueue =
      tasks.commandQueue ++ [payload] := by
  have haccepts : tasks.accepts identity identity.commandTopic payload = true := by
    unfold RelayTasks.accepts isCommand
    simp [hroom, hpositive, hfits]
  have hreceived : tasks.commandReceived identity identity.commandTopic payload =
      { tasks with commandQueue := tasks.commandQueue ++ [payload] } := if_pos haccepts
  unfold relayStep
  dsimp only
  rw [hreceived]
  unfold RelayTasks.noteDelivery
  split
  · split_ifs
    · rfl
    · rfl
  · rfl

/-- The message of a valid command, as the gateway reads it. -/
theorem CommandIssue.Valid.message {issue : CommandIssue} {siteId : String} (h : issue.Valid siteId)
    (hparse : ReadsTrees parse) :
    ∃ topic actor, issue.message siteId = some ⟨topic, plainBytes (issue.payload siteId).print⟩ ∧
      TopicKind.topic .commands (codes siteId) (codes issue.deviceId) = .ok topic ∧
      parse (plainBytes (issue.payload siteId).print) = some (issue.tree siteId actor) := by
  obtain ⟨actor, htree⟩ := h.tree_payload
  have htopic : TopicKind.topic .commands (codes siteId) (codes issue.deviceId) = .ok _ :=
    topic_ok_iff.mpr ⟨h.site, h.device, rfl⟩
  refine ⟨_, actor, ?_, htopic, hparse _ _ h.restorable htree⟩
  unfold CommandIssue.message
  rw [if_neg (not_lt.mpr h.finish), htopic]

/-- **Issued commands.** A valid command is published on the topic that its gateway listens on, in at
most 2047 bytes, and is queued there as it is. When `command_task` takes it from the queue, the relay is
not locked and the clock is behind the expiry, the task applies the request and answers that it is
completed, whatever else happens between its steps. This answer is published in full, and the server
decodes it. -/
theorem issued_command_completes (hparse : ReadsTrees parse) {pydantic : Pydantic}
    (hpydantic : pydantic.ReadsAcks) {issue : CommandIssue} {siteId : String} (h : issue.Valid siteId)
    {config : IiotConfig} (hidentity : identity.Of config) (hsite : identity.siteId = siteId)
    (hdevice : identity.deviceId = issue.deviceId) :
    ∃ message, issue.message siteId = some message ∧ message.payload.length ≤ 2047 ∧
      message.topic = codes identity.commandTopic ∧
      (∀ tasks : RelayTasks, tasks.commandQueue.length < commandQueueLength →
        (relayStep parse identity tasks (.mqttData identity.commandTopic message.payload)).commandQueue =
          tasks.commandQueue ++ [message.payload]) ∧
      ∀ (tasks : RelayTasks) (rest : List (List UInt8)), tasks.command = .receiving →
        tasks.commandQueue = message.payload :: rest → tasks.relayLocked = false →
        ∀ (time : Int) (now : String), gatewayUtcNow time 32 = some now →
          time * 1000000 < issue.command.expiresAt →
        ∀ first second third : List RelayEvent, (∀ event ∈ first, event.Outside) →
          (∀ event ∈ second, event.Outside) → (∀ event ∈ third, event.Outside) →
          let after := exec (relayStep parse identity) tasks
            (.receive :: first ++ .check (some now) :: second ++ .unlock :: third ++ [.apply])
          Applied issue tasks after ∧
          ∀ fourth : List RelayEvent, (∀ event ∈ fourth, event.Outside) →
            let ready := exec (relayStep parse identity) after fourth
            (∀ accepted, (relayStep parse identity ready (.answer accepted)).acks =
              if ready.mqttConnected && accepted then tasks.acks ++ [issue.ack ready]
              else tasks.acks) ∧
            AckDecoded pydantic config siteId issue.deviceId .completed (issue.ack ready) := by
  obtain ⟨topic, actor, hmessage, htopic, hread⟩ := h.message hparse
  have hlength : (plainBytes (issue.payload siteId).print).length ≤ 2047 := by
    rw [plainBytes, List.length_map]
    exact h.length_payload
  have hpositive : 0 < (plainBytes (issue.payload siteId).print).length := by
    unfold CommandIssue.payload
    rw [plainBytes, List.length_map, Json.print]
    exact Nat.succ_pos _
  have hnames : config.Names siteId issue.deviceId :=
    ⟨hsite ▸ hidentity.site, hdevice ▸ hidentity.device, h.site, h.device⟩
  rw [← hsite, ← hdevice] at htopic
  refine ⟨_, hmessage, hlength, (hidentity.commandTopic htopic).symm, ?_, ?_⟩
  · intro tasks hroom
    exact commandQueue_mqttData hroom hpositive (Nat.lt_succ_of_le hlength)
  · intro tasks rest hcommand hqueue hunlocked time now hnow hbefore first second third hfirst hsecond
      hthird after
    have hchecked := @CommandIssue.Valid.checkCommand _ _ identity actor h hsite hdevice _ hbefore _ hnow
    rw [← hread] at hchecked
    have happlied : Applied issue tasks after :=
      applied_run hcommand hqueue hunlocked hchecked (h.checkParameters now) hfirst hsecond hthird
    refine ⟨happlied, ?_⟩
    intro fourth hfourth ready
    exact ⟨fun accepted => answered_run happlied hfourth accepted, ackDecoded hpydantic h hnames ready⟩

end Exchange

/-! ### A command to the demo gateway -/

/-- A gateway that is set up with the names of a device listens on its topic. -/
theorem GatewayIdentity.of_names {config : IiotConfig} (hvalid : iiotConfigValidate config = true)
    {siteId deviceId topic : String} (hnames : config.Names siteId deviceId)
    (htopic : TopicKind.topic .commands (codes siteId) (codes deviceId) = .ok (codes topic)) :
    GatewayIdentity.Of ⟨siteId, deviceId, topic⟩ config := by
  obtain ⟨strings, hstart, -⟩ := gatewayNetworkStart_valid hvalid (zeroArray iiotTopicMax)
  refine ⟨hnames.site, hnames.device, _, strings, hstart, ?_⟩
  have hmade := (sameTopic (zeroArray iiotTopicMax) (cString config.siteId) (cString config.deviceId)
    commandsSuffix).text _ _ .commands _ hnames.site hnames.device commandsSuffix_text htopic
  rw [commandTopic_of_start hstart]
  exact hmade.1

/-- A reader for trees. -/
def treeParse (bytes : List UInt8) : Option CJson :=
  match jsonLoads cJsonLimits bytes with
  | .ok value => value.tree
  | .error _ => none

theorem readsTrees_treeParse : ReadsTrees treeParse := by
  intro value tree hvalue htree
  unfold treeParse
  rw [jsonLoads_restorable hvalue]
  exact htree

def readTime : Json → Option Int
  | .string text => readZulu text
  | _ => none

def ackScalars : PydanticScalars := { strictScalars with datetime := readTime }

def ackPydantic : Pydantic :=
  ⟨ackScalars, ackScalars, fun bytes => (jsonLoads pydanticLimits bytes).toOption, fun _ => 1⟩

theorem ackScalars_lax : ackScalars.Lax where
  literalOne := strictScalars_lax.literalOne
  int_number := strictScalars_lax.int_number
  int_bool := strictScalars_lax.int_bool
  int_scalar := strictScalars_lax.int_scalar
  float_nonFinite := strictScalars_lax.float_nonFinite
  float_bool := strictScalars_lax.float_bool
  float_array := strictScalars_lax.float_array
  float_object := strictScalars_lax.float_object
  bool_bool := strictScalars_lax.bool_bool
  uuid_string := strictScalars_lax.uuid_string
  string_iff := strictScalars_lax.string_iff
  boundedString_iff := strictScalars_lax.boundedString_iff

theorem ackScalars_uuid (text : String) : ackScalars.uuid (.string (codes text)) = some text :=
  textString_iff.mpr rfl

theorem readsAcks_ackPydantic : ackPydantic.ReadsAcks where
  lax := ackScalars_lax
  parse value hvalue := by
    unfold ackPydantic
    dsimp only
    rw [jsonLoads_restorable hvalue]
    rfl
  uuid text _ := ackScalars_uuid text
  datetime time hmin hmax := by
    have hread : ackPydantic.json.datetime = readTime := rfl
    rw [hread, readTime, readZulu_zuluText hmin hmax]

/-- An ON for half a minute, a quarter of a second into the year. -/
def demoIssue : CommandIssue where
  commandId := uuid4 (Vector.replicate 16 0)
  deviceId := "motor-01"
  actor := "Zo\u00eb"
  request := ⟨true, 30⟩
  now := 1798761600250000

theorem demoIssue_valid : demoIssue.Valid "workshop-demo" where
  site := by decide
  device := by decide
  actor := by decide
  timeout := by decide
  commandId := ⟨_, rfl⟩
  start := by decide
  finish := by decide

theorem demo_names : iiotConfigDefaults.Names "workshop-demo" "motor-01" where
  site := by
    have htext : cText iiotConfigDefaults.siteId = literalText "workshop-demo" :=
      cText_printText (by decide +kernel) (by decide +kernel)
    rw [htext, literalText_eq (by decide)]
    exact decodeUtf8_ascii (by decide)
  device := by
    have htext : cText iiotConfigDefaults.deviceId = literalText "motor-01" :=
      cText_printText (by decide +kernel) (by decide +kernel)
    rw [htext, literalText_eq (by decide)]
    exact decodeUtf8_ascii (by decide)
  sitePattern := by decide
  devicePattern := by decide

theorem sampleIdentity_of : sampleIdentity.Of iiotConfigDefaults :=
  GatewayIdentity.of_names validate_defaults_gateway demo_names (by decide)

/-- The relay goes on while a lost link does not keep it off. -/
theorem issued_command_completes_demo :
    ∃ message, demoIssue.message "workshop-demo" = some message ∧ message.payload.length ≤ 2047 ∧
      Applied demoIssue { RelayTasks.boot ⟨0, 0⟩ true with commandQueue := [message.payload] }
        (exec (relayStep treeParse sampleIdentity)
          { RelayTasks.boot ⟨0, 0⟩ true with commandQueue := [message.payload] }
          [.receive, .tick, .check (some sampleNow), .unlock, .mqttDisconnected, .apply]) := by
  obtain ⟨message, hmessage, hlength, -, -, hrun⟩ := issued_command_completes readsTrees_treeParse
    readsAcks_ackPydantic demoIssue_valid sampleIdentity_of rfl rfl
  refine ⟨message, hmessage, hlength, ?_⟩
  exact (hrun { RelayTasks.boot ⟨0, 0⟩ true with commandQueue := [message.payload] } [] rfl rfl rfl
    1798761600 sampleNow (by decide) (by decide) [.tick] [] [.mqttDisconnected]
    (List.forall_mem_singleton.mpr trivial) (List.forall_mem_nil _)
    (List.forall_mem_singleton.mpr trivial)).1

end IiotMonitoring
