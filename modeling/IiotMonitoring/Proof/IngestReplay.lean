import IiotMonitoring.Proof.AlarmLevel
import IiotMonitoring.Proof.IngestOnce

/-!
# Replayed messages

The messages of one device arrive in some order. Which of them are accepted does not depend on the
order, but the device row shows the one accepted last, and an alarm's level is what the last reading
outside its hysteresis band calls for. Two orders end in the same view exactly if these last ones agree.
-/

namespace IiotMonitoring

/-- What the server shows of a device from its messages. -/
structure DeviceView where
  reportedStatus : ReportedStatus
  activeFaults : List String
  firmwareVersion : Option String
  deriving DecidableEq

def Device.view (device : Device) : DeviceView :=
  ⟨device.reportedStatus, device.activeFaults, device.firmwareVersion⟩

def TelemetryEnvelope.view (envelope : TelemetryEnvelope) : DeviceView :=
  ⟨if envelope.quality ≠ .good then .degraded else .online, envelope.faultFlags,
    some envelope.firmwareVersion⟩

/-- The same view of the device, and the same alarms active with the same severity. -/
def SameView (deviceId : String) (db db' : Database) : Prop :=
  (db.devices deviceId).map Device.view = (db'.devices deviceId).map Device.view ∧
    ∀ code, alarmLevel db.alarms deviceId code = alarmLevel db'.alarms deviceId code

section Order

variable (format : FloatFormat) (db : Database)

/-- Neither the message nor its sequence is stored, the device is registered at its site, and the event
fits. -/
def Ingest.admitted (ingest : Ingest) : Bool :=
  (db.findMessage ingest.envelope.messageId).isNone &&
    (db.findSequence ingest.envelope.deviceId ingest.envelope.sequence).isNone &&
    (ingest.rows (db.devices ingest.envelope.deviceId)).isSome &&
    (ingest.liveEvent format).print.length ≤ 7000

/-- The view of the admitted message that arrives last. -/
def lastView (arrivals : List Ingest) : Option DeviceView :=
  (arrivals.filter (Ingest.admitted format db)).getLast?.map (·.envelope.view)

/-- The level the last admitted reading outside the hysteresis band calls for. -/
def lastVerdict (config : ThresholdConfig) (code : AlarmCode) (arrivals : List Ingest) :
    Option (Option Severity) :=
  ((arrivals.filter (Ingest.admitted format db)).filterMap (·.verdict format config code)).getLast?

/-- The level of an alarm after the messages. -/
def levelAfter (deviceId : String) (config : ThresholdConfig) (code : AlarmCode)
    (arrivals : List Ingest) : Option Severity :=
  (lastVerdict format db config code arrivals).getD (alarmLevel db.alarms deviceId code)

/-- An admitted message with a higher sequence has arrived before. -/
def Late (before : List Ingest) (ingest : Ingest) : Prop :=
  ∃ newer ∈ before, newer.admitted format db = true ∧
    ingest.envelope.sequence < newer.envelope.sequence

/-- The arrivals end in the view that sequence order gives, and no late message changes the view. -/
structure ReplayKeepsView (deviceId : String) (arrivals ordered : List Ingest) : Prop where
  final : SameView deviceId (exec (deliver format) db arrivals) (exec (deliver format) db ordered)
  late : ∀ before ingest after, arrivals = before ++ ingest :: after → Late format db before ingest →
    SameView deviceId (exec (deliver format) db before)
      (exec (deliver format) db (before ++ [ingest]))

/-- The admitted messages that arrive last are like those with the highest sequence, and a late one
brings the view of the one before it and no reading for another level. -/
structure NewestLast (deviceId : String) (config : ThresholdConfig) (arrivals ordered : List Ingest) :
    Prop where
  view : lastView format db arrivals = lastView format db ordered
  verdict : ∀ code,
    lastVerdict format db config code arrivals = lastVerdict format db config code ordered
  late : ∀ before ingest after, arrivals = before ++ ingest :: after → Late format db before ingest →
    ingest.admitted format db = true →
    lastView format db before = some ingest.envelope.view ∧
      ∀ code level, ingest.verdict format config code = some level →
        level = levelAfter format db deviceId config code before

end Order

/-- Messages of one device, with different ids and sequences. -/
structure DistinctMessages (deviceId : String) (arrivals : List Ingest) : Prop where
  device : ∀ ingest ∈ arrivals, ingest.envelope.deviceId = deviceId
  messages : (arrivals.map (·.envelope.messageId)).Nodup
  sequences : (arrivals.map (·.envelope.sequence)).Nodup

/-- A registered device with a threshold row, and at most one active alarm for each code. -/
structure DeviceReady (db : Database) (deviceId : String) (config : ThresholdConfig) : Prop where
  device : (db.devices deviceId).isSome
  thresholds : db.thresholds deviceId = some config
  single : ∀ code, SingleActive db.alarms deviceId code

/-! ### One message -/

section Message

variable {format : FloatFormat} {db : Database} {ingest : Ingest} {config : ThresholdConfig}

theorem deliver_not_admitted (hadmitted : ingest.admitted format db = false) :
    deliver format db ingest = db := by
  unfold deliver
  cases hmessage : db.findMessage ingest.envelope.messageId with
  | some row => rw [runAlone_duplicate (by rw [hmessage]; rfl)]
  | none =>
      cases howner : db.findSequence ingest.envelope.deviceId ingest.envelope.sequence with
      | some row => rw [runAlone_collision hmessage (by rw [howner]; rfl)]
      | none =>
          cases hrows : ingest.rows (db.devices ingest.envelope.deviceId) with
          | none => rw [runAlone_mismatch hmessage howner hrows]
          | some rows =>
              have hsize : ingest.TooLarge format := by
                simpa [Ingest.admitted, hmessage, howner, hrows, Ingest.TooLarge] using hadmitted
              rw [runAlone_tooLarge hsize hmessage howner (by rw [hrows]; rfl)]

/-- An admitted message of a registered device with thresholds is stored, sets the device row, and
moves the alarms. -/
theorem deliver_admitted {stored : Device} (hdevice : db.devices ingest.envelope.deviceId = some stored)
    (hconfig : db.thresholds ingest.envelope.deviceId = some config)
    (hadmitted : ingest.admitted format db = true) :
    stored.siteId = ingest.envelope.siteId ∧
      deliver format db ingest =
        { telemetry := db.telemetry ++ [ingest.telemetryRow]
          devices := Function.update db.devices ingest.envelope.deviceId (some (ingest.touch stored))
          thresholds := db.thresholds
          alarms := (ingest.alarmWrites format db).foldl Database.writeAlarms db.alarms } := by
  simp only [Ingest.admitted, Bool.and_eq_true, Option.isNone_iff_eq_none, decide_eq_true_eq]
    at hadmitted
  obtain ⟨⟨⟨hmessage, howner⟩, hrows⟩, hsize⟩ := hadmitted
  obtain ⟨rows, hrows⟩ := Option.isSome_iff_exists.mp hrows
  have hloaded := hrows
  rw [hdevice] at hloaded
  have hsite := (rows_loaded_some hloaded).1
  rw [rows_of_site hsite] at hloaded
  obtain rfl := Option.some.inj hloaded
  refine ⟨hsite, ?_⟩
  unfold deliver
  rw [runAlone_inserted (Nat.not_lt.mpr hsize) hmessage howner hrows]
  unfold Database.commit Database.writeRows Ingest.rowsOn RowWrites.device
  rw [Option.elim_some, hconfig]
  simp only [Option.isSome_some, if_true, Ingest.telemetryRow, hdevice, Option.map_some,
    writeDevice_touch]

theorem DeviceReady.deliver (hready : DeviceReady db ingest.envelope.deviceId config) :
    DeviceReady (deliver format db ingest) ingest.envelope.deviceId config := by
  obtain ⟨stored, hstored⟩ := Option.isSome_iff_exists.mp hready.device
  cases hadmitted : ingest.admitted format db with
  | false =>
      rw [deliver_not_admitted hadmitted]
      exact hready
  | true =>
      rw [(deliver_admitted hstored hready.thresholds hadmitted).2]
      refine ⟨?_, hready.thresholds, fun code => ?_⟩
      · dsimp only
        rw [Function.update_self]
        rfl
      · exact (hready.single code).foldl_writeAlarms alarmWrites_fit alarmWrites_apart

/-- An admitted message leaves the others as they were: their keys are free, and the device keeps its
site. -/
theorem admitted_deliver {other : Ingest} (hready : DeviceReady db ingest.envelope.deviceId config)
    (hadmitted : ingest.admitted format db = true)
    (hdevice : other.envelope.deviceId = ingest.envelope.deviceId)
    (hmessage : ingest.envelope.messageId ≠ other.envelope.messageId)
    (hsequence : ingest.envelope.sequence ≠ other.envelope.sequence) :
    other.admitted format (deliver format db ingest) = other.admitted format db := by
  obtain ⟨stored, hstored⟩ := Option.isSome_iff_exists.mp hready.device
  rw [(deliver_admitted hstored hready.thresholds hadmitted).2]
  have hkey : Database.findMessage ⟨db.telemetry ++ [ingest.telemetryRow], db.devices, db.thresholds,
      db.alarms⟩ other.envelope.messageId = db.findMessage other.envelope.messageId := by
    unfold Database.findMessage
    rw [List.find?_append, List.find?_cons_of_neg (by simp [Ingest.telemetryRow, hmessage])]
    simp
  have howner : Database.findSequence ⟨db.telemetry ++ [ingest.telemetryRow], db.devices,
      db.thresholds, db.alarms⟩ other.envelope.deviceId other.envelope.sequence =
      db.findSequence other.envelope.deviceId other.envelope.sequence := by
    unfold Database.findSequence
    rw [List.find?_append, List.find?_cons_of_neg (by simp [Ingest.telemetryRow, hsequence])]
    simp
  have hrows : (other.rows (some (ingest.touch stored))).isSome = (other.rows (some stored)).isSome := by
    unfold Ingest.rows
    have hsite : (ingest.touch stored).siteId = stored.siteId := rfl
    simp only [hsite]
    split <;> rfl
  unfold Database.findMessage at hkey
  unfold Database.findSequence at howner
  unfold Ingest.admitted Database.findMessage Database.findSequence
  dsimp only at hkey howner ⊢
  rw [hkey, howner, hdevice, Function.update_self, hrows, hstored]

/-- What an admitted message does to the view and the levels. -/
theorem deliver_view (hready : DeviceReady db ingest.envelope.deviceId config)
    (hadmitted : ingest.admitted format db = true) :
    ((deliver format db ingest).devices ingest.envelope.deviceId).map Device.view =
        some ingest.envelope.view ∧
      ∀ code, alarmLevel (deliver format db ingest).alarms ingest.envelope.deviceId code =
        (ingest.verdict format config code).getD
          (alarmLevel db.alarms ingest.envelope.deviceId code) := by
  obtain ⟨stored, hstored⟩ := Option.isSome_iff_exists.mp hready.device
  rw [(deliver_admitted hstored hready.thresholds hadmitted).2]
  constructor
  · dsimp only
    rw [Function.update_self]
    rfl
  · intro code
    have hconfig : ingest.config db = config := by
      unfold Ingest.config
      rw [hready.thresholds]
      rfl
    rw [← hconfig]
    exact alarmLevel_commit (hready.single code)

end Message

/-! ### A run of messages -/

section Runs

variable {format : FloatFormat} {db : Database} {deviceId : String} {config : ThresholdConfig}
  {ingest : Ingest} {arrivals : List Ingest}

theorem DistinctMessages.tail (hdistinct : DistinctMessages deviceId (ingest :: arrivals)) :
    DistinctMessages deviceId arrivals where
  device other hother := hdistinct.device other (List.mem_cons_of_mem _ hother)
  messages := (List.nodup_cons.mp hdistinct.messages).2
  sequences := (List.nodup_cons.mp hdistinct.sequences).2

theorem DistinctMessages.left {before after : List Ingest}
    (hdistinct : DistinctMessages deviceId (before ++ after)) : DistinctMessages deviceId before where
  device other hother := hdistinct.device other (List.mem_append_left _ hother)
  messages := (List.nodup_append.mp (List.map_append ▸ hdistinct.messages)).1
  sequences := (List.nodup_append.mp (List.map_append ▸ hdistinct.sequences)).1

/-- The messages that follow an admitted one are admitted as before it. -/
theorem filter_admitted_deliver (hready : DeviceReady db deviceId config)
    (hdistinct : DistinctMessages deviceId (ingest :: arrivals))
    (hadmitted : ingest.admitted format db = true) :
    arrivals.filter (Ingest.admitted format (deliver format db ingest)) =
      arrivals.filter (Ingest.admitted format db) := by
  obtain rfl := hdistinct.device ingest (List.mem_cons_self ..)
  have hmessages := (List.nodup_cons.mp hdistinct.messages).1
  have hsequences := (List.nodup_cons.mp hdistinct.sequences).1
  apply List.filter_congr
  intro other hother
  refine admitted_deliver hready hadmitted (hdistinct.device other (List.mem_cons_of_mem _ hother)) ?_ ?_
  · intro hsame
    exact hmessages (List.mem_map.mpr ⟨other, hother, hsame.symm⟩)
  · intro hsame
    exact hsequences (List.mem_map.mpr ⟨other, hother, hsame.symm⟩)

/-- The view is that of the last admitted message, and the level what the last verdict calls for. -/
theorem exec_view (hready : DeviceReady db deviceId config)
    (hdistinct : DistinctMessages deviceId arrivals) :
    ((exec (deliver format) db arrivals).devices deviceId).map Device.view =
        (lastView format db arrivals).or ((db.devices deviceId).map Device.view) ∧
      ∀ code, alarmLevel (exec (deliver format) db arrivals).alarms deviceId code =
        levelAfter format db deviceId config code arrivals := by
  induction arrivals generalizing db with
  | nil => exact ⟨rfl, fun _ => rfl⟩
  | cons ingest arrivals ih =>
      obtain rfl := hdistinct.device ingest (List.mem_cons_self ..)
      rw [exec_cons]
      unfold levelAfter lastVerdict lastView at ih ⊢
      cases hadmitted : ingest.admitted format db with
      | false =>
          rw [deliver_not_admitted hadmitted, List.filter_cons_of_neg (by simp [hadmitted])]
          exact ih hready hdistinct.tail
      | true =>
          obtain ⟨hview, hlevel⟩ := ih (@DeviceReady.deliver format _ _ _ hready) hdistinct.tail
          obtain ⟨hviewed, hleveled⟩ := deliver_view hready hadmitted
          rw [filter_admitted_deliver hready hdistinct hadmitted] at hview
          rw [List.filter_cons_of_pos hadmitted]
          constructor
          · rw [hview, hviewed, List.getLast?_cons]
            cases (arrivals.filter (Ingest.admitted format db)).getLast? with
            | none => rfl
            | some last => rfl
          · intro code
            rw [hlevel code, hleveled code, filter_admitted_deliver hready hdistinct hadmitted,
              List.filterMap_cons]
            cases ingest.verdict format config code with
            | none => rfl
            | some level =>
                dsimp only
                rw [List.getLast?_cons]
                rfl

theorem sameView_exec_iff {others : List Ingest} (hready : DeviceReady db deviceId config)
    (hdistinct : DistinctMessages deviceId arrivals) (hothers : DistinctMessages deviceId others) :
    SameView deviceId (exec (deliver format) db arrivals) (exec (deliver format) db others) ↔
      (lastView format db arrivals).or ((db.devices deviceId).map Device.view) =
          (lastView format db others).or ((db.devices deviceId).map Device.view) ∧
        ∀ code, levelAfter format db deviceId config code arrivals =
          levelAfter format db deviceId config code others := by
  obtain ⟨hview, hlevel⟩ := @exec_view format _ _ _ _ hready hdistinct
  obtain ⟨hview', hlevel'⟩ := @exec_view format _ _ _ _ hready hothers
  unfold SameView
  rw [hview, hview']
  simp only [hlevel, hlevel']

/-! ### Another order -/

theorem admitted_congr {other : Ingest} (hsame : ingest.envelope = other.envelope) :
    ingest.admitted format db = other.admitted format db := by
  have hevent : ingest.liveEvent format = other.liveEvent format := by
    unfold Ingest.liveEvent
    rw [hsame]
  have hrows : (ingest.rows (db.devices other.envelope.deviceId)).isSome =
      (other.rows (db.devices other.envelope.deviceId)).isSome := by
    unfold Ingest.rows
    rw [hsame]
    cases db.devices other.envelope.deviceId with
    | none => rfl
    | some stored =>
        dsimp only
        split <;> rfl
  unfold Ingest.admitted
  rw [hsame, hevent, hrows]

theorem verdict_congr {other : Ingest} (hsame : ingest.envelope = other.envelope) (code : AlarmCode) :
    ingest.verdict format config code = other.verdict format config code := by
  unfold Ingest.verdict Ingest.metricRules
  rw [hsame]
  cases code <;> rfl

/-- A message in one order is in the other. -/
theorem mem_other_order {ordered : List Ingest}
    (hperm : (arrivals.map (·.envelope)).Perm (ordered.map (·.envelope))) (hingest : ingest ∈ arrivals) :
    ∃ other ∈ ordered, other.envelope = ingest.envelope :=
  List.mem_map.mp (hperm.mem_iff.mp (List.mem_map_of_mem hingest))

theorem lastView_some {ordered : List Ingest}
    (hperm : (arrivals.map (·.envelope)).Perm (ordered.map (·.envelope)))
    (hsome : (lastView format db arrivals).isSome) : (lastView format db ordered).isSome := by
  unfold lastView at hsome ⊢
  rw [Option.isSome_map, List.getLast?_isSome] at hsome ⊢
  obtain ⟨ingest, hingest⟩ := List.exists_mem_of_ne_nil _ hsome
  obtain ⟨hmem, hadmitted⟩ := List.mem_filter.mp hingest
  obtain ⟨other, hother, hsame⟩ := mem_other_order hperm hmem
  exact List.ne_nil_of_mem (List.mem_filter.mpr ⟨hother, (admitted_congr hsame).trans hadmitted⟩)

theorem lastVerdict_some {ordered : List Ingest} {code : AlarmCode}
    (hperm : (arrivals.map (·.envelope)).Perm (ordered.map (·.envelope)))
    (hsome : (lastVerdict format db config code arrivals).isSome) :
    (lastVerdict format db config code ordered).isSome := by
  unfold lastVerdict at hsome ⊢
  rw [List.getLast?_isSome] at hsome ⊢
  obtain ⟨level, hlevel⟩ := List.exists_mem_of_ne_nil _ hsome
  obtain ⟨ingest, hingest, hverdict⟩ := List.mem_filterMap.mp hlevel
  obtain ⟨hmem, hadmitted⟩ := List.mem_filter.mp hingest
  obtain ⟨other, hother, hsame⟩ := mem_other_order hperm hmem
  refine List.ne_nil_of_mem (List.mem_filterMap.mpr ⟨other, ?_, (verdict_congr hsame code).trans hverdict⟩)
  exact List.mem_filter.mpr ⟨hother, (admitted_congr hsame).trans hadmitted⟩

end Runs

section Options

variable {α : Type} {left right : Option α}

theorem or_right_inj_of_isSome (initial : Option α) (hsome : left.isSome ↔ right.isSome) :
    left.or initial = right.or initial ↔ left = right := by
  cases left with
  | none =>
      obtain rfl : right = none := by simpa using hsome
      exact ⟨fun _ => rfl, fun _ => rfl⟩
  | some level =>
      obtain ⟨level', rfl⟩ := Option.isSome_iff_exists.mp (hsome.mp rfl)
      rfl

theorem getD_inj_of_isSome (initial : α) (hsome : left.isSome ↔ right.isSome) :
    left.getD initial = right.getD initial ↔ left = right := by
  cases left with
  | none =>
      obtain rfl : right = none := by simpa using hsome
      exact ⟨fun _ => rfl, fun _ => rfl⟩
  | some level =>
      obtain ⟨level', rfl⟩ := Option.isSome_iff_exists.mp (hsome.mp rfl)
      simp

end Options

section Late

variable {format : FloatFormat} {db : Database} {deviceId : String} {config : ThresholdConfig}
  {ingest : Ingest} {before after : List Ingest}

theorem Late.lastView_some (hlate : Late format db before ingest) :
    (lastView format db before).isSome := by
  obtain ⟨newer, hnewer, hadmitted, -⟩ := hlate
  unfold lastView
  rw [Option.isSome_map, List.getLast?_isSome]
  exact List.ne_nil_of_mem (List.mem_filter.mpr ⟨hnewer, hadmitted⟩)

/-- What a late message must bring to leave the view. -/
theorem late_sameView_iff (hready : DeviceReady db deviceId config)
    (hdistinct : DistinctMessages deviceId (before ++ ingest :: after))
    (hlate : Late format db before ingest) :
    SameView deviceId (exec (deliver format) db before)
        (exec (deliver format) db (before ++ [ingest])) ↔
      (ingest.admitted format db = true →
        lastView format db before = some ingest.envelope.view ∧
          ∀ code level, ingest.verdict format config code = some level →
            level = levelAfter format db deviceId config code before) := by
  have hboth : DistinctMessages deviceId (before ++ [ingest]) :=
    @DistinctMessages.left deviceId (before ++ [ingest]) after (by simpa using hdistinct)
  rw [sameView_exec_iff hready hdistinct.left hboth]
  obtain ⟨last, hlast⟩ := Option.isSome_iff_exists.mp hlate.lastView_some
  cases hadmitted : ingest.admitted format db with
  | false =>
      have hfilter : (before ++ [ingest]).filter (Ingest.admitted format db) =
          before.filter (Ingest.admitted format db) := by
        simp [List.filter_append, hadmitted]
      unfold levelAfter lastVerdict lastView
      rw [hfilter]
      simp
  | true =>
      have hfilter : (before ++ [ingest]).filter (Ingest.admitted format db) =
          before.filter (Ingest.admitted format db) ++ [ingest] := by
        simp [List.filter_append, hadmitted]
      have hview : lastView format db (before ++ [ingest]) = some ingest.envelope.view := by
        unfold lastView
        rw [hfilter, List.getLast?_concat]
        rfl
      rw [hview, hlast]
      have hlevel : ∀ code, levelAfter format db deviceId config code before =
          levelAfter format db deviceId config code (before ++ [ingest]) ↔
            ∀ level, ingest.verdict format config code = some level →
              level = levelAfter format db deviceId config code before := by
        intro code
        unfold levelAfter lastVerdict
        rw [hfilter, List.filterMap_append, List.filterMap_cons, List.filterMap_nil]
        cases ingest.verdict format config code with
        | none => simp
        | some level => simp [eq_comm]
      simp only [hlevel, Option.some_or, forall_const]

end Late

/-- **When replay keeps the view.** -/
theorem replay_keeps_view_iff (format : FloatFormat) (db : Database) (deviceId : String)
    (config : ThresholdConfig) (arrivals ordered : List Ingest)
    (hready : DeviceReady db deviceId config) (hdistinct : DistinctMessages deviceId arrivals)
    (hperm : (arrivals.map (·.envelope)).Perm (ordered.map (·.envelope)))
    (hordered : (ordered.map (·.envelope.sequence)).Pairwise (· < ·)) :
    ReplayKeepsView format db deviceId arrivals ordered ↔
      NewestLast format db deviceId config arrivals ordered := by
  have hdistinct' : DistinctMessages deviceId ordered := by
    constructor
    · intro ingest hingest
      obtain ⟨other, hother, hsame⟩ := mem_other_order hperm.symm hingest
      rw [← hsame]
      exact hdistinct.device other hother
    · have hmap := hperm.map (·.messageId)
      rw [List.map_map, List.map_map] at hmap
      exact hmap.nodup_iff.mp hdistinct.messages
    · exact hordered.imp Nat.ne_of_lt
  have hfinal := @sameView_exec_iff format _ _ _ _ _ hready hdistinct hdistinct'
  rw [or_right_inj_of_isSome _ ⟨lastView_some hperm, lastView_some hperm.symm⟩] at hfinal
  have hlevels : ∀ code, levelAfter format db deviceId config code arrivals =
      levelAfter format db deviceId config code ordered ↔
        lastVerdict format db config code arrivals = lastVerdict format db config code ordered :=
    fun code => getD_inj_of_isSome _ ⟨lastVerdict_some hperm, lastVerdict_some hperm.symm⟩
  constructor
  · intro hkeeps
    obtain ⟨hview, hlevel⟩ := hfinal.mp hkeeps.final
    refine ⟨hview, fun code => (hlevels code).mp (hlevel code), ?_⟩
    intro before ingest after hsplit hlate
    exact (late_sameView_iff hready (hsplit ▸ hdistinct) hlate).mp
      (hkeeps.late before ingest after hsplit hlate)
  · intro hnewest
    refine ⟨hfinal.mpr ⟨hnewest.view, fun code => (hlevels code).mpr (hnewest.verdict code)⟩, ?_⟩
    intro before ingest after hsplit hlate
    exact (late_sameView_iff hready (hsplit ▸ hdistinct) hlate).mpr
      (hnewest.late before ingest after hsplit hlate)

/-! ### A late fault -/

def registeredDatabase : Database where
  telemetry := []
  devices := Function.update (fun _ => none) "motor-1" (some (firstMessages 0).newDevice)
  thresholds := Function.update (fun _ => none) "motor-1" (some (.default "motor-1"))
  alarms := []

/-- The first message of a device, with a fault. -/
def faultyMessage : Ingest :=
  { firstMessages 0 with
    envelope := { (firstMessages 0).envelope with faultFlags := ["temperature_missing"] } }

theorem registeredDatabase_ready :
    DeviceReady registeredDatabase "motor-1" (.default "motor-1") where
  device := by decide
  thresholds := by simp [registeredDatabase]
  single code left right alarm alarm' hleft := by simp [registeredDatabase] at hleft

theorem replay_keeps_view_iff_reversed :
    ReplayKeepsView sampleFormat registeredDatabase "motor-1" [firstMessages 1, faultyMessage]
        [faultyMessage, firstMessages 1] ↔
      NewestLast sampleFormat registeredDatabase "motor-1" (.default "motor-1")
        [firstMessages 1, faultyMessage] [faultyMessage, firstMessages 1] :=
  replay_keeps_view_iff _ _ _ _ _ _ registeredDatabase_ready
    ⟨by decide, by decide, by decide⟩ (List.Perm.swap ..) (by decide)

/-- The older message arrives last, and its fault is shown. -/
theorem replay_shows_older_fault :
    ¬ ReplayKeepsView sampleFormat registeredDatabase "motor-1" [firstMessages 1, faultyMessage]
      [faultyMessage, firstMessages 1] := by
  intro hkeeps
  have hview := hkeeps.final.1
  revert hview
  decide +kernel

end IiotMonitoring
