import IiotMonitoring.Proof.IngestOnce
import IiotMonitoring.Proof.MessageOutcomes
import IiotMonitoring.System.TelemetryPipeline

/-!
# What a handled message does to the telemetry

Only a telemetry message that is decoded can add a row. It adds its own row, if neither its message nor
its sequence is stored, and no message moves a device to another site.
-/

namespace IiotMonitoring

/-! ### Persisting -/

section Persist

variable {format : FloatFormat} {storesText : String → Bool} {db : Database} {ingest : Ingest}
  {siteId deviceId : String}

theorem deliver_stored (hmessage : (db.findMessage ingest.envelope.messageId).isSome) :
    deliver format db ingest = db := by
  rw [deliver, runAlone_duplicate hmessage]

/-- A row that does not fit its columns is not written. -/
theorem persist_unfit (hfits : ingest.telemetryRow.fits storesText = false) :
    (persistTelemetry format storesText db ingest).2 = db := by
  unfold persistTelemetry
  by_cases hhits : ingest.hitsColumn format storesText db = true
  · rw [if_pos hhits]
  · rw [if_neg hhits]
    have hwrites : ¬ ingest.Writes format db := fun hwrites => hhits (hitsColumn_iff.mpr ⟨hwrites, hfits⟩)
    cases hmessage : db.findMessage ingest.envelope.messageId with
    | some row =>
        rw [runAlone_duplicate (by rw [hmessage]; rfl)]
        rfl
    | none =>
        cases howner : db.findSequence ingest.envelope.deviceId ingest.envelope.sequence with
        | some row => rw [runAlone_collision hmessage (by rw [howner]; rfl)]
        | none =>
            cases hrows : ingest.rows (db.devices ingest.envelope.deviceId) with
            | none => rw [runAlone_mismatch hmessage howner hrows]
            | some rows =>
                have hsize : ingest.TooLarge format := by
                  by_contra hsize
                  exact hwrites ⟨hmessage, howner, by rw [hrows]; rfl, .inr hsize⟩
                rw [runAlone_tooLarge hsize hmessage howner (by rw [hrows]; rfl)]

theorem persist_fits (hfits : ingest.telemetryRow.fits storesText = true) :
    (persistTelemetry format storesText db ingest).2 = deliver format db ingest := by
  have hhits : ingest.hitsColumn format storesText db ≠ true := by
    intro hhits
    have hunfit := (hitsColumn_iff.mp hhits).2
    rw [hfits] at hunfit
    cases hunfit
  unfold persistTelemetry deliver
  rw [if_neg hhits]
  rcases runAlone format db ingest with ⟨outcome, after⟩
  cases outcome <;> rfl

theorem persist_cases : (persistTelemetry format storesText db ingest).2 = db ∨
    (persistTelemetry format storesText db ingest).2 = deliver format db ingest := by
  cases hfits : ingest.telemetryRow.fits storesText with
  | false => exact .inl (persist_unfit hfits)
  | true => exact .inr (persist_fits hfits)

/-- A new row of a device at its site is appended. -/
theorem deliver_new (hmessage : db.findMessage ingest.envelope.messageId = none)
    (howner : db.findSequence ingest.envelope.deviceId ingest.envelope.sequence = none)
    (hsite : db.AtSite ingest.envelope.siteId ingest.envelope.deviceId)
    (hsize : ¬ ingest.TooLarge format) :
    (deliver format db ingest).telemetry = db.telemetry ++ [ingest.telemetryRow] := by
  obtain ⟨rows, hrows⟩ : ∃ rows, ingest.rows (db.devices ingest.envelope.deviceId) = some rows := by
    cases hdevice : db.devices ingest.envelope.deviceId with
    | none => exact ⟨_, rfl⟩
    | some device => exact ⟨_, if_neg (not_not.mpr (hsite device hdevice))⟩
  rw [deliver, runAlone_inserted hsize hmessage howner hrows]
  unfold Database.commit Database.writeRows Ingest.rowsOn
  rw [Option.elim_some, rows_telemetry hrows]

/-- A device row that a call leaves is of the site that it was of, or of the message's. -/
theorem atSite_deliver (h : db.AtSite siteId deviceId)
    (hsite : ingest.envelope.deviceId = deviceId → ingest.envelope.siteId = siteId) :
    (deliver format db ingest).AtSite siteId deviceId := by
  unfold deliver
  cases hmessage : db.findMessage ingest.envelope.messageId with
  | some row =>
      rw [runAlone_duplicate (by rw [hmessage]; rfl)]
      exact h
  | none =>
      cases howner : db.findSequence ingest.envelope.deviceId ingest.envelope.sequence with
      | some row =>
          rw [runAlone_collision hmessage (by rw [howner]; rfl)]
          exact h
      | none =>
          cases hrows : ingest.rows (db.devices ingest.envelope.deviceId) with
          | none =>
              rw [runAlone_mismatch hmessage howner hrows]
              exact h
          | some rows =>
              by_cases hsize : ingest.TooLarge format
              · rw [runAlone_tooLarge hsize hmessage howner (by rw [hrows]; rfl)]
                exact h
              · rw [runAlone_inserted hsize hmessage howner hrows]
                intro device hdevice
                change Function.update db.devices rows.telemetry.deviceId
                  (rows.device (db.devices rows.telemetry.deviceId)) deviceId = some device at hdevice
                rw [rows_telemetry hrows] at hdevice
                by_cases hsame : deviceId = ingest.telemetryRow.deviceId
                · subst hsame
                  rw [Function.update_self] at hdevice
                  cases hstored : db.devices ingest.telemetryRow.deviceId with
                  | none =>
                      have hnew : ingest.rows none = some rows := by
                        rw [← hrows]
                        exact congrArg ingest.rows hstored.symm
                      obtain rfl := Option.some.inj hnew
                      obtain rfl := Option.some.inj hdevice
                      exact hsite rfl
                  | some stored =>
                      have hloaded := (rows_loaded hrows).1
                      have hheld : rows.loaded = some stored := hloaded.trans hstored
                      rw [RowWrites.device, hheld, hstored] at hdevice
                      obtain rfl := Option.some.inj hdevice
                      exact h stored hstored
                · rw [Function.update_of_ne hsame] at hdevice
                  exact h device hdevice

theorem atSite_persist (h : db.AtSite siteId deviceId)
    (hsite : ingest.envelope.deviceId = deviceId → ingest.envelope.siteId = siteId) :
    (persistTelemetry format storesText db ingest).2.AtSite siteId deviceId := by
  rcases @persist_cases format storesText db ingest with hsame | hdelivered
  · rw [hsame]
    exact h
  · rw [hdelivered]
    exact atSite_deliver h hsite

/-- At most one row is appended, and the keys stay unique. -/
theorem persist_telemetry (hkeys : UniqueKeys db.telemetry) :
    ((persistTelemetry format storesText db ingest).2.telemetry = db.telemetry ∨
        (persistTelemetry format storesText db ingest).2.telemetry =
          db.telemetry ++ [ingest.telemetryRow]) ∧
      UniqueKeys (persistTelemetry format storesText db ingest).2.telemetry := by
  rcases @persist_cases format storesText db ingest with hsame | hdelivered
  · rw [hsame]
    exact ⟨.inl rfl, hkeys⟩
  · rw [hdelivered]
    refine ⟨?_, hkeys.deliver⟩
    rcases delivery_cases format db ingest with ⟨-, -, hsame, -⟩ | ⟨-, -, hsame⟩ | ⟨-, -, -, -, hrow⟩
    · exact .inl (by rw [hsame])
    · exact .inl (by rw [hsame])
    · exact .inr hrow

theorem persistHealth_telemetry (tables : DataTables) (envelope : HealthEnvelope) (now : Int) :
    (persistHealth storesText tables envelope now).2.db.telemetry = tables.db.telemetry := by
  unfold persistHealth
  split
  · rfl
  · split
    · rfl
    · dsimp only
      split_ifs
      all_goals rfl

theorem atSite_persistHealth {tables : DataTables} {envelope : HealthEnvelope} {now : Int}
    (h : tables.db.AtSite siteId deviceId)
    (hsite : envelope.deviceId = deviceId → envelope.siteId = siteId) :
    (persistHealth storesText tables envelope now).2.db.AtSite siteId deviceId := by
  unfold persistHealth
  split
  · exact h
  · split
    · exact h
    · rename_i device hdevice
      dsimp only
      split_ifs
      · exact h
      · intro stored hstored
        change Function.update tables.db.devices envelope.deviceId _ deviceId = some stored at hstored
        by_cases hsame : deviceId = envelope.deviceId
        · subst hsame
          rw [Function.update_self] at hstored
          obtain rfl := Option.some.inj hstored
          change device.siteId = siteId
          unfold HealthEnvelope.device at hdevice
          split at hdevice
          · rw [← Option.some.inj hdevice]
            exact hsite rfl
          · rename_i held hheld
            split_ifs at hdevice
            rw [← Option.some.inj hdevice]
            exact h held hheld
        · rw [Function.update_of_ne hsame] at hstored
          exact h stored hstored
      · exact h

end Persist

/-! ### Decoding -/

section Handle

variable {limits : JsonLimits} {pydantic : Pydantic} {format : FloatFormat} {storesText : String → Bool}
  {clock : MessageClock} {tables : ServerTables} {topic : Text} {payload : List UInt8}
  {siteId deviceId : String}

theorem accept_identity {α : Type} {parsed : ParsedTopic} {siteId deviceId : String} {value envelope : α}
    (h : parsed.accept siteId deviceId value = .ok envelope) :
    value = envelope ∧ codes siteId = parsed.siteId ∧ codes deviceId = parsed.deviceId := by
  unfold ParsedTopic.accept at h
  split_ifs at h with hsame
  exact ⟨Except.ok.inj h, hsame⟩

/-- Telemetry that is decoded is of the site and the device of its topic. -/
theorem decodePayload_identity {envelope : TelemetryEnvelope}
    (h : decodePayload limits pydantic topic payload = .ok envelope) :
    ∃ parsed, parseTopic topic = .ok parsed ∧ parsed.kind = .telemetry ∧
      codes envelope.siteId = parsed.siteId ∧ codes envelope.deviceId = parsed.deviceId := by
  obtain ⟨parsed, htopic, hkind⟩ := decodePayload_topic h
  unfold decodePayload at h
  rw [htopic] at h
  dsimp only at h
  split_ifs at h
  split at h
  · cases h
  · split at h
    · cases h
    · obtain ⟨rfl, hidentity⟩ := accept_identity h
      exact ⟨parsed, htopic, hkind, hidentity⟩

theorem decodeHealth_identity {envelope : HealthEnvelope}
    (h : decodeHealth pydantic topic payload = .ok envelope) :
    ∃ parsed, parseTopic topic = .ok parsed ∧
      codes envelope.siteId = parsed.siteId ∧ codes envelope.deviceId = parsed.deviceId := by
  obtain ⟨parsed, htopic, hkind⟩ := decodeJson_topic h
  unfold decodeHealth decodeJson at h
  rw [htopic] at h
  dsimp only at h
  split_ifs at h
  split at h
  · cases h
  · obtain ⟨rfl, hidentity⟩ := accept_identity h
    exact ⟨parsed, htopic, hidentity⟩

/-! ### Handling -/

theorem refuse_db (count : Nat) (error : MessageError) : (tables.refuse count error).2.db = tables.db := by
  cases error <;> rfl

theorem finish_db (result : Except PersistError PersistResult × DataTables) :
    (tables.finish result).2.db = result.2.db := by
  obtain ⟨outcome, data⟩ := result
  cases outcome with
  | ok result => rfl
  | error error => cases error <;> rfl

/-- Telemetry that is decoded is persisted. -/
theorem handle_decoded {envelope : TelemetryEnvelope}
    (h : decodePayload limits pydantic topic payload = .ok envelope) :
    (handleMessage limits pydantic format storesText clock tables topic payload).2.db =
      (persistTelemetry format storesText tables.db (clock.ingest envelope)).2 := by
  obtain ⟨parsed, htopic, hkind⟩ := decodePayload_topic h
  unfold handleMessage
  simp only [htopic, hkind, h]
  rw [finish_db]

/-- Telemetry that is not decoded changes no row. -/
theorem handle_undecoded {parsed : ParsedTopic} (htopic : parseTopic topic = .ok parsed)
    (hkind : parsed.kind = .telemetry)
    (h : ∀ envelope, decodePayload limits pydantic topic payload ≠ .ok envelope) :
    (handleMessage limits pydantic format storesText clock tables topic payload).2.db = tables.db := by
  unfold handleMessage
  simp only [htopic, hkind]
  cases hdecode : decodePayload limits pydantic topic payload with
  | error error => exact refuse_db ..
  | ok envelope => exact absurd hdecode (h envelope)

/-- Rows that a message adds are its own. -/
theorem handle_rows (hkeys : UniqueKeys tables.db.telemetry) :
    (∃ added, (handleMessage limits pydantic format storesText clock tables topic payload).2.db.telemetry =
        tables.db.telemetry ++ added ∧ ∀ row ∈ added, ∃ envelope,
          decodePayload limits pydantic topic payload = .ok envelope ∧
            row = (clock.ingest envelope).telemetryRow) ∧
      UniqueKeys (handleMessage limits pydantic format storesText clock tables topic payload).2.db.telemetry := by
  have hsame : (handleMessage limits pydantic format storesText clock tables topic payload).2.db.telemetry =
      tables.db.telemetry →
      (∃ added, (handleMessage limits pydantic format storesText clock tables topic payload).2.db.telemetry =
        tables.db.telemetry ++ added ∧ ∀ row ∈ added, ∃ envelope,
          decodePayload limits pydantic topic payload = .ok envelope ∧
            row = (clock.ingest envelope).telemetryRow) ∧
      UniqueKeys
        (handleMessage limits pydantic format storesText clock tables topic payload).2.db.telemetry := by
    intro h
    refine ⟨⟨[], by rw [h, List.append_nil], fun row hrow => absurd hrow List.not_mem_nil⟩, ?_⟩
    rw [h]
    exact hkeys
  cases hdecode : decodePayload limits pydantic topic payload with
  | ok envelope =>
      rw [handle_decoded hdecode]
      obtain ⟨hrow, hunique⟩ := @persist_telemetry format storesText tables.db (clock.ingest envelope) hkeys
      refine ⟨?_, hunique⟩
      rcases hrow with hrow | hrow
      · exact ⟨[], by rw [hrow, List.append_nil], fun row hmem => absurd hmem List.not_mem_nil⟩
      · exact ⟨_, hrow, fun row hmem => ⟨envelope, rfl, List.mem_singleton.mp hmem⟩⟩
  | error error =>
      rw [← hdecode]
      apply hsame
      unfold handleMessage
      dsimp only
      split
      · rw [refuse_db]
      · split
        · rw [hdecode]
          dsimp only
          rw [refuse_db]
        · split
          · rw [refuse_db]
          · rw [finish_db, persistHealth_telemetry]
        · split
          · rw [refuse_db]
          · rw [finish_db]
        · rw [refuse_db]

/-- No message moves a device from its site, if those that name it name the site. -/
theorem atSite_handle (h : tables.db.AtSite siteId deviceId)
    (hsite : ∀ parsed, parseTopic topic = .ok parsed → parsed.deviceId = codes deviceId →
      parsed.siteId = codes siteId) :
    (handleMessage limits pydantic format storesText clock tables topic payload).2.db.AtSite siteId
      deviceId := by
  unfold handleMessage
  dsimp only
  split
  · rw [refuse_db]
    exact h
  · split
    · split
      · rw [refuse_db]
        exact h
      · rename_i envelope hdecode
        rw [finish_db]
        apply atSite_persist h
        intro hdevice
        obtain ⟨parsed', htopic', -, hsite', hdevice'⟩ := decodePayload_identity hdecode
        apply codes_injective
        exact hsite'.trans (hsite parsed' htopic' (hdevice'.symm.trans (congrArg codes hdevice)))
    · split
      · rw [refuse_db]
        exact h
      · rename_i envelope hdecode
        rw [finish_db]
        apply atSite_persistHealth h
        intro hdevice
        obtain ⟨parsed', htopic', hsite', hdevice'⟩ := decodeHealth_identity hdecode
        apply codes_injective
        exact hsite'.trans (hsite parsed' htopic' (hdevice'.symm.trans (congrArg codes hdevice)))
    · split
      · rw [refuse_db]
        exact h
      · rw [finish_db]
        exact h
    · rw [refuse_db]
      exact h

end Handle

end IiotMonitoring
