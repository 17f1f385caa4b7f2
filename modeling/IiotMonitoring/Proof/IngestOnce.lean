import IiotMonitoring.Proof.IngestAlone
import Mathlib.Data.List.Nodup

/-!
# Deliveries one after another

A delivery that is turned down or has been stored before leaves everything as it was. The others append
their row, so the telemetry table is the start and the rows of the accepted deliveries in order, under
keys that stay unique.
-/

namespace IiotMonitoring

/-! ### Deliveries -/

/-- Reported as a duplicate, or refused for its sequence or its site. -/
def discarded : IngestOutcome → Bool
  | .ok (.duplicate, _) => true
  | .error (.sequenceCollision _) => true
  | .error .siteMismatch => true
  | _ => false

def accepted : IngestOutcome → Bool
  | .ok (.inserted, _) => true
  | _ => false

section Deliveries

variable (format : FloatFormat)

/-- The notifications a call queues in its transaction. -/
def notifications (db : Database) (ingest : Ingest) : List Text :=
  ((ingest.persistTelemetry format).trace sessionDevice (db, none)).filterMap fun answered =>
    match answered.1 with
    | .notify payload => some payload
    | _ => none

def deliver (db : Database) (ingest : Ingest) : Database := (runAlone format db ingest).2

/-- The deliveries whose outcome passes, each on the tables it finds. -/
def deliveriesWith (passes : IngestOutcome → Bool) : Database → List Ingest → List Ingest
  | _, [] => []
  | db, ingest :: rest =>
      if passes (runAlone format db ingest).1 then
        ingest :: deliveriesWith passes (deliver format db ingest) rest
      else
        deliveriesWith passes (deliver format db ingest) rest

end Deliveries

/-- The unique constraints of the telemetry table. -/
structure UniqueKeys (rows : List Telemetry) : Prop where
  messages : (rows.map (·.messageId)).Nodup
  sequences : (rows.map fun row => (row.deviceId, row.sequence)).Nodup

/-- Deliveries are ingested once: the accepted ones are stored, each with its first content, and the
discarded ones do not matter. -/
structure IngestedOnce (format : FloatFormat) (start : Database) (deliveries : List Ingest) :
    Prop where
  rows : (exec (deliver format) start deliveries).telemetry =
    start.telemetry ++
      (deliveriesWith format accepted start deliveries).map Ingest.telemetryRow
  once : ∀ ingest ∈ deliveriesWith format accepted start deliveries,
    (exec (deliver format) start deliveries).telemetry.filter
        (·.messageId = ingest.envelope.messageId) = [ingest.telemetryRow]
  keys : UniqueKeys (exec (deliver format) start deliveries).telemetry
  untouched : StepsMeet (deliver format)
    (fun db ingest => discarded (runAlone format db ingest).1 = true →
      deliver format db ingest = db ∧ notifications format db ingest = []) start deliveries
  removable : exec (deliver format) start
      (deliveriesWith format (fun outcome => !discarded outcome) start deliveries) =
    exec (deliver format) start deliveries

/-! ### One delivery -/

section Delivery

variable {format : FloatFormat} {db : Database} {ingest : Ingest}

theorem notifications_duplicate (hmessage : (db.findMessage ingest.envelope.messageId).isSome) :
    notifications format db ingest = [] := by
  unfold notifications
  rw [persistTelemetry_eq, Program.trace_call]
  simp only [sessionDevice, hmessage, if_true, Program.trace_done, List.filterMap_cons,
    List.filterMap_nil]

theorem notifications_collision (hmessage : db.findMessage ingest.envelope.messageId = none)
    (howner : (db.findSequence ingest.envelope.deviceId ingest.envelope.sequence).isSome) :
    notifications format db ingest = [] := by
  unfold notifications
  rw [persistTelemetry_eq, Program.trace_call]
  simp only [sessionDevice, hmessage, Option.isSome_none, Bool.false_eq_true, if_false]
  rw [checkSequence_eq, Program.trace_call]
  simp only [sessionDevice, howner, if_true, Program.trace_done, List.filterMap_cons,
    List.filterMap_nil]

theorem notifications_mismatch (hmessage : db.findMessage ingest.envelope.messageId = none)
    (howner : db.findSequence ingest.envelope.deviceId ingest.envelope.sequence = none)
    (hsite : ingest.rows (db.devices ingest.envelope.deviceId) = none) :
    notifications format db ingest = [] := by
  unfold notifications
  rw [persistTelemetry_eq, Program.trace_call]
  simp only [sessionDevice, hmessage, Option.isSome_none, Bool.false_eq_true, if_false]
  rw [checkSequence_eq, Program.trace_call]
  simp only [sessionDevice, howner, Option.isSome_none, Bool.false_eq_true, if_false]
  rw [loadDevice_eq, Program.trace_call]
  simp only [sessionDevice, hsite, Program.trace_done, List.filterMap_cons, List.filterMap_nil]

/-- **What a delivery can do.** It is discarded without a trace, or its event does not fit, or its keys
are free and its row is appended. -/
theorem delivery_cases (format : FloatFormat) (db : Database) (ingest : Ingest) :
    (discarded (runAlone format db ingest).1 = true ∧ accepted (runAlone format db ingest).1 = false ∧
        deliver format db ingest = db ∧ notifications format db ingest = []) ∨
      (discarded (runAlone format db ingest).1 = false ∧
        accepted (runAlone format db ingest).1 = false ∧ deliver format db ingest = db) ∨
      (discarded (runAlone format db ingest).1 = false ∧
        accepted (runAlone format db ingest).1 = true ∧
        db.findMessage ingest.envelope.messageId = none ∧
        db.findSequence ingest.envelope.deviceId ingest.envelope.sequence = none ∧
        (deliver format db ingest).telemetry = db.telemetry ++ [ingest.telemetryRow]) := by
  unfold deliver
  cases hmessage : db.findMessage ingest.envelope.messageId with
  | some row =>
      have hsome : (db.findMessage ingest.envelope.messageId).isSome := by rw [hmessage]; rfl
      rw [runAlone_duplicate hsome]
      exact .inl ⟨rfl, rfl, rfl, notifications_duplicate hsome⟩
  | none =>
      cases howner : db.findSequence ingest.envelope.deviceId ingest.envelope.sequence with
      | some row =>
          have hsome : (db.findSequence ingest.envelope.deviceId ingest.envelope.sequence).isSome := by
            rw [howner]; rfl
          rw [runAlone_collision hmessage hsome]
          exact .inl ⟨rfl, rfl, rfl, notifications_collision hmessage hsome⟩
      | none =>
          cases hrows : ingest.rows (db.devices ingest.envelope.deviceId) with
          | none =>
              rw [runAlone_mismatch hmessage howner hrows]
              exact .inl ⟨rfl, rfl, rfl, notifications_mismatch hmessage howner hrows⟩
          | some rows =>
              by_cases hsize : ingest.TooLarge format
              · rw [runAlone_tooLarge hsize hmessage howner (by rw [hrows]; rfl)]
                exact .inr (.inl ⟨rfl, rfl, rfl⟩)
              · rw [runAlone_inserted hsize hmessage howner hrows]
                refine .inr (.inr ⟨rfl, rfl, rfl, rfl, ?_⟩)
                have htelemetry := rows_telemetry hrows
                unfold Database.commit Database.writeRows Ingest.rowsOn
                rw [Option.elim_some, htelemetry]

end Delivery

/-! ### All deliveries -/

section Runs

variable {format : FloatFormat} {db : Database} {ingest : Ingest}

theorem findMessage_none_iff {messageId : String} :
    db.findMessage messageId = none ↔ messageId ∉ db.telemetry.map (·.messageId) := by
  unfold Database.findMessage
  rw [List.find?_eq_none]
  simp

theorem findSequence_none_iff {deviceId : String} {sequence : Nat} :
    db.findSequence deviceId sequence = none ↔
      (deviceId, sequence) ∉ db.telemetry.map fun row => (row.deviceId, row.sequence) := by
  unfold Database.findSequence
  rw [List.find?_eq_none]
  simp

theorem UniqueKeys.deliver (hkeys : UniqueKeys db.telemetry) :
    UniqueKeys (deliver format db ingest).telemetry := by
  rcases delivery_cases format db ingest with
    ⟨-, -, hsame, -⟩ | ⟨-, -, hsame⟩ | ⟨-, -, hmessage, howner, hrow⟩
  · rw [hsame]
    exact hkeys
  · rw [hsame]
    exact hkeys
  · rw [hrow]
    constructor
    · rw [List.map_append, List.map_singleton, ← List.concat_eq_append]
      exact hkeys.messages.concat (findMessage_none_iff.mp hmessage)
    · rw [List.map_append, List.map_singleton, ← List.concat_eq_append]
      exact hkeys.sequences.concat (findSequence_none_iff.mp howner)

theorem exec_telemetry (start : Database) (deliveries : List Ingest) :
    (exec (deliver format) start deliveries).telemetry =
      start.telemetry ++
        (deliveriesWith format accepted start deliveries).map Ingest.telemetryRow := by
  induction deliveries generalizing start with
  | nil => simp [deliveriesWith]
  | cons ingest deliveries ih =>
      rw [exec_cons, ih, deliveriesWith]
      rcases delivery_cases format start ingest with
        ⟨-, haccepted, hsame, -⟩ | ⟨-, haccepted, hsame⟩ | ⟨-, haccepted, -, -, hrow⟩
      · simp [haccepted, hsame]
      · simp [haccepted, hsame]
      · simp [haccepted, hrow]

/-- Without the discarded deliveries the run ends in the same tables. -/
theorem exec_removable (start : Database) (deliveries : List Ingest) :
    exec (deliver format) start
        (deliveriesWith format (fun outcome => !discarded outcome) start deliveries) =
      exec (deliver format) start deliveries := by
  induction deliveries generalizing start with
  | nil => rfl
  | cons ingest deliveries ih =>
      rw [exec_cons, deliveriesWith]
      rcases delivery_cases format start ingest with
        ⟨hdiscarded, -, hsame, -⟩ | ⟨hdiscarded, -⟩ | ⟨hdiscarded, -⟩
      · simp [hdiscarded, hsame, ih]
      · simp [hdiscarded, ih]
      · simp [hdiscarded, ih]

/-- A row is the only one with its key. -/
theorem filter_key_eq {rows : List Telemetry} {row : Telemetry}
    (hkeys : (rows.map (·.messageId)).Nodup) (hrow : row ∈ rows) :
    rows.filter (·.messageId = row.messageId) = [row] := by
  induction rows with
  | nil => cases hrow
  | cons first rows ih =>
      rw [List.map_cons, List.nodup_cons] at hkeys
      rcases List.mem_cons.mp hrow with rfl | hrow
      · rw [List.filter_cons_of_pos (by simp), List.filter_eq_nil_iff.mpr]
        intro other hother hsame
        exact hkeys.1 (List.mem_map.mpr ⟨other, hother, by simpa using hsame⟩)
      · rw [List.filter_cons_of_neg, ih hkeys.2 hrow]
        intro hsame
        exact hkeys.1 (List.mem_map.mpr ⟨row, hrow, (of_decide_eq_true hsame).symm⟩)

end Runs

/-- **Idempotent ingestion.** -/
theorem ingested_once (format : FloatFormat) (start : Database) (deliveries : List Ingest)
    (hkeys : UniqueKeys start.telemetry) : IngestedOnce format start deliveries := by
  have hfinal : UniqueKeys (exec (deliver format) start deliveries).telemetry := by
    have hstep : ∀ (db : Database) (ingest : Ingest), UniqueKeys db.telemetry →
        UniqueKeys (deliver format db ingest).telemetry := fun db ingest h => h.deliver
    exact (statesMeet_of_invariant hstep hkeys deliveries).last
  constructor
  · exact exec_telemetry start deliveries
  · intro ingest hingest
    have hrow : ingest.telemetryRow ∈ (exec (deliver format) start deliveries).telemetry := by
      rw [exec_telemetry]
      exact List.mem_append_right _ (List.mem_map_of_mem hingest)
    exact filter_key_eq hfinal.messages hrow
  · exact hfinal
  · apply stepsMeet_of_forall
    intro db ingest hdiscarded
    rcases delivery_cases format db ingest with ⟨-, -, hsame, hquiet⟩ | ⟨hkept, -⟩ | ⟨hkept, -⟩
    · exact ⟨hsame, hquiet⟩
    · rw [hkept] at hdiscarded
      cases hdiscarded
    · rw [hkept] at hdiscarded
      cases hdiscarded
  · exact exec_removable start deliveries

/-- The first message of a device, twice. -/
theorem ingested_once_repeated :
    IngestedOnce sampleFormat emptyDatabase [firstMessages 0, firstMessages 0] :=
  ingested_once _ _ _ ⟨List.nodup_nil, List.nodup_nil⟩

end IiotMonitoring
