import IiotMonitoring.Proof.CommandAck

/-!
# The issuer against the acknowledgements

The issuer writes the row twice, from the row of its first commit. An acknowledgement writes what
differs from the row it read. What a session read before any acknowledgement fixes how far the issuer
was, and so which columns its commit writes.
-/

namespace IiotMonitoring

variable {race : CommandRace}

/-! ### Writes -/

theorem write_commands (tables : CommandTables) (loaded held : DeviceCommand) :
    (tables.write loaded held).commands loaded.commandId =
      (tables.commands loaded.commandId).map (writeChanged loaded held) :=
  Function.update_self _ _ _

/-- An acknowledgement leaves the row acknowledged, if it was where the session read it so. -/
theorem writeChanged_acknowledgedAt {loaded stored : DeviceCommand} (envelope : CommandAckEnvelope)
    (utcNow : Int) (hkept : loaded.acknowledgedAt.isSome → stored.acknowledgedAt.isSome) :
    (writeChanged loaded (loaded.acknowledge envelope utcNow) stored).acknowledgedAt.isSome := by
  unfold writeChanged
  dsimp only
  split
  · rename_i hsame
    apply hkept
    rw [← hsame]
    rfl
  · rfl

theorem writeChanged_status (loaded held stored : DeviceCommand) :
    (writeChanged loaded held stored).status =
      if held.status = loaded.status then stored.status else held.status := rfl

/-! ### The invariant -/

/-- What an open session knows of the row. -/
structure SessionTracked (race : CommandRace) (opened : AckSession) : Prop where
  id : opened.loaded.commandId = race.issue.commandId
  held : ∃ utcNow, opened.held = opened.loaded.acknowledge opened.envelope utcNow
  issued : race.point ≠ .inserting
  stored : ∃ command, race.stored = some command ∧
    (opened.loaded.acknowledgedAt.isSome → command.acknowledgedAt.isSome)
  /-- A session that will not write the status read what the issuer left, and only acknowledgements
  can have changed it since. -/
  unchanged : opened.loaded.status = opened.envelope.status.toCommandStatus →
    race.point = .done ∧ ∀ command, race.stored = some command →
      command.acknowledgedAt = none → command.status = opened.loaded.status

structure RaceTracked (race : CommandRace) : Prop where
  unissued : race.point = .inserting → race.stored = none
  id : ∀ command, race.stored = some command → command.commandId = race.issue.commandId
  saving : ∀ held, race.point = .saving held →
    held.status ≠ .queued ∧ held.acknowledgedAt = none
  queued : race.point ≠ .done → ∀ command, race.stored = some command →
    command.acknowledgedAt = none → command.status = .queued
  sessions : ∀ session opened, race.sessions session = some opened → SessionTracked race opened

theorem raceTracked_insert (h : RaceTracked race) :
    RaceTracked (commandRaceStep race .insert) := by
  simp only [commandRaceStep]
  split
  · rename_i hpoint hstored
    rw [h.unissued hpoint] at hstored
    cases hstored
  · rename_i hpoint hstored
    have hclosed : ∀ session opened, race.sessions session ≠ some opened := by
      intro session opened hopened
      exact (h.sessions session opened hopened).issued hpoint
    refine ⟨(fun h => by cases h), ?_, (fun _ h => by cases h), ?_, ?_⟩
    · intro command hcommand
      unfold CommandRace.stored at hcommand
      simp only [Function.update_self, Option.some.injEq] at hcommand
      rw [← hcommand]
      rfl
    · intro _ command hcommand _
      unfold CommandRace.stored at hcommand
      simp only [Function.update_self, Option.some.injEq] at hcommand
      rw [← hcommand]
      rfl
    · intro session opened hopened
      exact absurd hopened (hclosed session opened)
  · exact h

theorem outcome_saving (issue : CommandIssue) (raised : Option String) :
    (issue.outcome raised).status ≠ .queued ∧ (issue.outcome raised).acknowledgedAt = none := by
  cases raised with
  | none => exact ⟨(fun h => by cases h), rfl⟩
  | some exception => exact ⟨(fun h => by cases h), rfl⟩

theorem raceTracked_publish (raised : Option String) (h : RaceTracked race) :
    RaceTracked (commandRaceStep race (.publish raised)) := by
  simp only [commandRaceStep]
  split
  · rename_i hpoint
    refine ⟨(fun h => by cases h), h.id, ?_, ?_, ?_⟩
    · intro held hheld
      obtain rfl := IssuePoint.saving.inj hheld
      exact outcome_saving race.issue raised
    · intro _
      apply h.queued
      rw [hpoint]
      intro h
      cases h
    · intro session opened hopened
      have htracked := h.sessions session opened hopened
      refine ⟨htracked.id, htracked.held, (fun h => by cases h), htracked.stored, ?_⟩
      intro hstatus
      have hdone := (htracked.unchanged hstatus).1
      rw [hpoint] at hdone
      cases hdone
  · exact h

/-- What the second commit stores: the status of the publish, and no other time of acknowledgement. -/
theorem stored_save {held : DeviceCommand} (hpoint : race.point = .saving held)
    (h : RaceTracked race) :
    ∃ write : DeviceCommand → DeviceCommand,
      (commandRaceStep race .save).stored = race.stored.map write ∧
      ∀ command, (write command).commandId = command.commandId ∧
        (write command).status = held.status ∧
        (write command).acknowledgedAt = command.acknowledgedAt := by
  obtain ⟨hstatus, hacknowledged⟩ := h.saving held hpoint
  refine ⟨writeChanged race.issue.command held, ?_, ?_⟩
  · simp only [commandRaceStep, hpoint]
    exact write_commands race.tables race.issue.command held
  · intro command
    refine ⟨rfl, ?_, ?_⟩
    · rw [writeChanged_status, if_neg (show held.status ≠ race.issue.command.status from hstatus)]
    · unfold writeChanged
      dsimp only
      rw [if_pos (show held.acknowledgedAt = race.issue.command.acknowledgedAt from hacknowledged)]

theorem raceTracked_save (h : RaceTracked race) : RaceTracked (commandRaceStep race .save) := by
  by_cases hpoint : ∃ held, race.point = .saving held
  · obtain ⟨held, hpoint⟩ := hpoint
    obtain ⟨write, hstored, hwrite⟩ := stored_save hpoint h
    have hdone : (commandRaceStep race .save).point = .done := by
      simp only [commandRaceStep, hpoint]
    have hissue : (commandRaceStep race .save).issue = race.issue := by
      simp only [commandRaceStep, hpoint]
    have hsessions : (commandRaceStep race .save).sessions = race.sessions := by
      simp only [commandRaceStep, hpoint]
    refine ⟨?_, ?_, ?_, ?_, ?_⟩
    · rw [hdone]
      intro h
      cases h
    · intro command hcommand
      rw [hstored, Option.map_eq_some_iff] at hcommand
      obtain ⟨before, hbefore, rfl⟩ := hcommand
      rw [hissue, (hwrite before).1]
      exact h.id before hbefore
    · rw [hdone]
      intro _ h
      cases h
    · rw [hdone]
      exact fun hne => absurd rfl hne
    · intro session opened hopened
      rw [hsessions] at hopened
      have htracked := h.sessions session opened hopened
      refine ⟨?_, htracked.held, ?_, ?_, ?_⟩
      · rw [hissue]
        exact htracked.id
      · rw [hdone]
        intro h
        cases h
      · obtain ⟨command, hcommand, hkept⟩ := htracked.stored
        refine ⟨write command, ?_, ?_⟩
        · rw [hstored, hcommand]
          rfl
        · rw [(hwrite command).2.2]
          exact hkept
      · intro hstatus
        have hsaved := (htracked.unchanged hstatus).1
        rw [hpoint] at hsaved
        cases hsaved
  · have hsame : commandRaceStep race .save = race := by
      simp only [commandRaceStep]
      split
      · exact absurd ⟨_, by assumption⟩ hpoint
      · rfl
    rwa [hsame]

/-- A session opens on the stored row. -/
theorem readCommandAck_update {tables : CommandTables} {envelope : CommandAckEnvelope}
    {utcNow : Int} {loaded held : DeviceCommand}
    (h : readCommandAck tables envelope utcNow = .update loaded held) :
    tables.commands envelope.commandId = some loaded ∧
      held = loaded.acknowledge envelope utcNow ∧
      ¬ (loaded.acknowledgedAt.isSome ∧ loaded.status = envelope.status.toCommandStatus) := by
  unfold readCommandAck at h
  split at h
  · cases h
  · rename_i command hcommand
    split at h
    · cases h
    · split at h
      · cases h
      · rename_i hnew
        obtain ⟨rfl, rfl⟩ := AckRead.update.inj h
        exact ⟨hcommand, rfl, hnew⟩

theorem toCommandStatus_ne_queued (status : AckStatus) : status.toCommandStatus ≠ .queued := by
  intro hqueued
  cases status <;> cases hqueued

theorem raceTracked_readAck (session : Nat) (envelope : CommandAckEnvelope) (utcNow : Int)
    (h : RaceTracked race) : RaceTracked (commandRaceStep race (.readAck session envelope utcNow)) := by
  simp only [commandRaceStep]
  split
  · rename_i hopens
    split
    · rename_i loaded held hread
      obtain ⟨hcommand, rfl, hnew⟩ := readCommandAck_update hread
      rw [hopens.1] at hcommand
      have hstored : race.stored = some loaded := hcommand
      refine ⟨h.unissued, h.id, h.saving, h.queued, ?_⟩
      intro session' opened hopened
      by_cases hsession : session' = session
      · rw [hsession] at hopened
        simp only [Function.update_self, Option.some.injEq] at hopened
        subst hopened
        refine ⟨h.id loaded hstored, ⟨utcNow, rfl⟩, ?_, ⟨loaded, hstored, id⟩, ?_⟩
        · intro hinserting
          rw [h.unissued hinserting] at hstored
          cases hstored
        · intro hstatus
          have hunacknowledged : loaded.acknowledgedAt = none := by
            by_contra hne
            exact hnew ⟨Option.isSome_iff_ne_none.mpr hne, hstatus⟩
          constructor
          · by_contra hpoint
            have hqueued := h.queued hpoint loaded hstored hunacknowledged
            exact toCommandStatus_ne_queued _ (hstatus.symm.trans hqueued)
          · intro command hcommand' _
            have hsame : race.stored = some command := hcommand'
            rw [hstored] at hsame
            obtain rfl := Option.some.inj hsame
            rfl
      · simp only [Function.update_of_ne hsession] at hopened
        exact ⟨(h.sessions session' opened hopened).id, (h.sessions session' opened hopened).held,
          (h.sessions session' opened hopened).issued, (h.sessions session' opened hopened).stored,
          (h.sessions session' opened hopened).unchanged⟩
    · exact h
  · exact h

/-- What the commit of a session stores: an acknowledged row, with the status of its envelope or, where
the session does not write it, the status before. -/
theorem stored_commitAck {session : Nat} {opened : AckSession}
    (hopened : race.sessions session = some opened) (h : RaceTracked race) :
    ∃ before after, race.stored = some before ∧
      (commandRaceStep race (.commitAck session)).stored = some after ∧
      (commandRaceStep race (.commitAck session)).acknowledged =
        race.acknowledged ++ [after.status] ∧
      after.commandId = before.commandId ∧ after.acknowledgedAt.isSome ∧
      (after.status = opened.envelope.status.toCommandStatus ∨
        opened.loaded.status = opened.envelope.status.toCommandStatus ∧
          after.status = before.status) := by
  have htracked := h.sessions session opened hopened
  obtain ⟨utcNow, hheld⟩ := htracked.held
  obtain ⟨before, hbefore, hkept⟩ := htracked.stored
  have hwritten : (commitCommandAck race.tables opened.envelope opened.loaded opened.held).commands
      race.issue.commandId = some (writeChanged opened.loaded opened.held before) := by
    have hwrite := write_commands race.tables opened.loaded opened.held
    rw [htracked.id, show race.tables.commands race.issue.commandId = some before from hbefore]
      at hwrite
    exact hwrite
  refine ⟨before, writeChanged opened.loaded opened.held before, hbefore, ?_, ?_, rfl, ?_, ?_⟩
  · simp only [commandRaceStep, hopened]
    exact hwritten
  · simp only [commandRaceStep, hopened, hwritten, Option.map_some, Option.toList_some]
  · rw [hheld]
    exact writeChanged_acknowledgedAt _ _ hkept
  · rw [writeChanged_status]
    have hstatus : opened.held.status = opened.envelope.status.toCommandStatus := by
      rw [hheld]
      rfl
    by_cases hsame : opened.held.status = opened.loaded.status
    · rw [if_pos hsame]
      exact .inr ⟨hsame.symm.trans hstatus, rfl⟩
    · rw [if_neg hsame]
      exact .inl hstatus

theorem raceTracked_commitAck (session : Nat) (h : RaceTracked race) :
    RaceTracked (commandRaceStep race (.commitAck session)) := by
  cases hopened : race.sessions session with
  | none =>
      have hsame : commandRaceStep race (.commitAck session) = race := by
        simp only [commandRaceStep, hopened]
      rwa [hsame]
  | some opened =>
      obtain ⟨before, after, hbefore, hafter, -, hid, hacknowledged, -⟩ := stored_commitAck hopened h
      have hpoint : (commandRaceStep race (.commitAck session)).point = race.point := by
        simp only [commandRaceStep, hopened]
      have hissue : (commandRaceStep race (.commitAck session)).issue = race.issue := by
        simp only [commandRaceStep, hopened]
      have hissued := (h.sessions session opened hopened).issued
      -- the row is acknowledged from here on, so what is known of unacknowledged rows is moot
      have hmoot : ∀ command, (commandRaceStep race (.commitAck session)).stored = some command →
          command.acknowledgedAt ≠ none := by
        intro command hcommand
        rw [hafter] at hcommand
        obtain rfl := Option.some.inj hcommand
        exact Option.isSome_iff_ne_none.mp hacknowledged
      refine ⟨?_, ?_, ?_, ?_, ?_⟩
      · rw [hpoint]
        exact fun hinserting => absurd hinserting hissued
      · intro command hcommand
        rw [hafter] at hcommand
        obtain rfl := Option.some.inj hcommand
        rw [hissue, hid]
        exact h.id before hbefore
      · rw [hpoint]
        exact h.saving
      · intro _ command hcommand hnone
        exact absurd hnone (hmoot command hcommand)
      · intro session' opened' hopened'
        have hold : race.sessions session' = some opened' := by
          simp only [commandRaceStep, hopened] at hopened'
          by_cases hsession : session' = session
          · rw [hsession, Function.update_self] at hopened'
            cases hopened'
          · rwa [Function.update_of_ne hsession] at hopened'
        have htracked := h.sessions session' opened' hold
        refine ⟨?_, htracked.held, ?_, ⟨after, hafter, fun _ => hacknowledged⟩, ?_⟩
        · rw [hissue]
          exact htracked.id
        · rw [hpoint]
          exact htracked.issued
        · intro hstatus
          rw [hpoint]
          exact ⟨(htracked.unchanged hstatus).1,
            fun command hcommand hnone => absurd hnone (hmoot command hcommand)⟩

theorem raceTracked_step (event : CommandRaceEvent) (h : RaceTracked race) :
    RaceTracked (commandRaceStep race event) := by
  cases event with
  | insert => exact raceTracked_insert h
  | publish raised => exact raceTracked_publish raised h
  | save => exact raceTracked_save h
  | readAck session envelope utcNow => exact raceTracked_readAck session envelope utcNow h
  | commitAck session => exact raceTracked_commitAck session h

/-! ### When the second commit is harmless -/

theorem acknowledgementKept_commitAck (session : Nat) (h : RaceTracked race)
    (hkept : AcknowledgementKept race) :
    AcknowledgementKept (commandRaceStep race (.commitAck session)) := by
  cases hopened : race.sessions session with
  | none =>
      have hsame : commandRaceStep race (.commitAck session) = race := by
        simp only [commandRaceStep, hopened]
      rwa [hsame]
  | some opened =>
      obtain ⟨before, after, hbefore, hafter, hlist, -, -, hstatus⟩ := stored_commitAck hopened h
      have henvelopes : (commandRaceStep race (.commitAck session)).envelopes =
          race.envelopes ++ [opened.envelope] := by
        simp only [commandRaceStep, hopened]
      intro command hcommand _
      rw [hafter] at hcommand
      obtain rfl := Option.some.inj hcommand
      rw [hlist, henvelopes]
      refine ⟨List.getLast?_concat, ?_⟩
      rcases hstatus with hstatus | ⟨hloaded, hsame⟩
      · exact ⟨opened.envelope, by simp, hstatus⟩
      · -- the session does not write the status, which is the issuer's or an acknowledgement's
        have hunchanged := ((h.sessions session opened hopened).unchanged hloaded).2 before hbefore
        by_cases hnone : before.acknowledgedAt = none
        · refine ⟨opened.envelope, by simp, ?_⟩
          rw [hsame, hunchanged hnone, hloaded]
        · obtain ⟨-, envelope, hmem, henvelope⟩ :=
            hkept before hbefore (Option.isSome_iff_ne_none.mpr hnone)
          exact ⟨envelope, by simp [hmem], hsame.trans henvelope⟩

theorem acknowledgementKept_save (h : RaceTracked race) (hkept : AcknowledgementKept race) :
    SavesBeforeAck race .save ↔ AcknowledgementKept (commandRaceStep race .save) := by
  by_cases hpoint : ∃ held, race.point = .saving held
  · obtain ⟨held, hpoint⟩ := hpoint
    obtain ⟨write, hstored, hwrite⟩ := stored_save hpoint h
    have hacknowledged : (commandRaceStep race .save).acknowledged = race.acknowledged := by
      simp only [commandRaceStep, hpoint]
    have henvelopes : (commandRaceStep race .save).envelopes = race.envelopes := by
      simp only [commandRaceStep, hpoint]
    unfold SavesBeforeAck AcknowledgementKept
    rw [hpoint, hstored, hacknowledged, henvelopes]
    constructor
    · intro hsaves command hcommand hsome
      obtain ⟨before, hbefore, rfl⟩ := Option.map_eq_some_iff.mp hcommand
      obtain ⟨-, hstatus, htime⟩ := hwrite before
      rw [htime] at hsome
      rcases hsaves before hbefore with hnone | hsame
      · rw [hnone] at hsome
        cases hsome
      · rw [hstatus, ← hsame]
        exact hkept before hbefore hsome
    · intro hafter before hbefore
      by_cases hnone : before.acknowledgedAt = none
      · exact .inl hnone
      · right
        have hsome := Option.isSome_iff_ne_none.mpr hnone
        obtain ⟨-, hstatus, htime⟩ := hwrite before
        have hlast := (hafter (write before) (by rw [hbefore]; rfl) (by rw [htime]; exact hsome)).1
        rw [(hkept before hbefore hsome).1, hstatus] at hlast
        exact Option.some.inj hlast
  · have hsame : commandRaceStep race .save = race := by
      simp only [commandRaceStep]
      split
      · exact absurd ⟨_, by assumption⟩ hpoint
      · rfl
    rw [hsame]
    refine ⟨fun _ => hkept, fun _ => ?_⟩
    unfold SavesBeforeAck
    split
    · exact absurd ⟨_, by assumption⟩ hpoint
    · trivial

theorem acknowledgementKept_step_iff (event : CommandRaceEvent) (h : RaceTracked race)
    (hkept : AcknowledgementKept race) :
    SavesBeforeAck race event ↔ AcknowledgementKept (commandRaceStep race event) := by
  cases event with
  | insert =>
      refine ⟨fun _ => ?_, fun _ => trivial⟩
      simp only [commandRaceStep]
      split
      · exact hkept
      · intro command hcommand hsome
        unfold CommandRace.stored at hcommand
        simp only [Function.update_self, Option.some.injEq] at hcommand
        rw [← hcommand] at hsome
        cases hsome
      · exact hkept
  | publish raised =>
      refine ⟨fun _ => ?_, fun _ => trivial⟩
      simp only [commandRaceStep]
      split
      · exact hkept
      · exact hkept
  | save => exact acknowledgementKept_save h hkept
  | readAck session envelope utcNow =>
      refine ⟨fun _ => ?_, fun _ => trivial⟩
      simp only [commandRaceStep]
      split
      · split
        · exact hkept
        · exact hkept
      · exact hkept
  | commitAck session =>
      exact ⟨fun _ => acknowledgementKept_commitAck session h hkept, fun _ => trivial⟩

/-- **Acknowledgements are kept.** In every interleaving, every state has the status that the last
acknowledgement left exactly when the second commit of the issuer finds the row unacknowledged, or with
the status it writes. -/
theorem command_ack_kept_iff {tables : CommandTables} {issue : CommandIssue}
    (hfresh : tables.commands issue.commandId = none) (events : List CommandRaceEvent) :
    StatesMeet commandRaceStep AcknowledgementKept (.start tables issue) events ↔
      StepsMeet commandRaceStep SavesBeforeAck (.start tables issue) events := by
  have hnone : (CommandRace.start tables issue).stored = none := hfresh
  have htracked : RaceTracked (.start tables issue) := by
    refine ⟨fun _ => hnone, ?_, (fun _ h => by cases h), ?_, fun _ _ h => by cases h⟩
    · rw [hnone]
      intro _ h
      cases h
    · rw [hnone]
      intro _ _ h
      cases h
  refine statesMeet_iff_stepsMeet (fun _ event h => raceTracked_step event h)
    (fun _ event h hkept => acknowledgementKept_step_iff event h hkept) htracked ?_ events
  unfold AcknowledgementKept
  rw [hnone]
  intro _ h
  cases h

def emptyTables : CommandTables := ⟨fun _ => none, [], []⟩

theorem command_ack_kept_iff_sample :
    StatesMeet commandRaceStep AcknowledgementKept (.start emptyTables sampleIssue)
      [.insert, .publish none, .save, .readAck 0 (sampleAck "a" .completed) 1, .commitAck 0] := by
  apply (@command_ack_kept_iff emptyTables sampleIssue rfl _).mpr
  simp [StepsMeet, SavesBeforeAck, commandRaceStep, CommandRace.start, CommandRace.stored, emptyTables,
    CommandIssue.command]

/-- The acknowledgement is committed between the publish and the second commit. -/
theorem command_ack_overwritten :
    ¬ ∀ (tables : CommandTables) (issue : CommandIssue) (events : List CommandRaceEvent),
        tables.commands issue.commandId = none →
        StatesMeet commandRaceStep AcknowledgementKept (.start tables issue) events := by
  intro hall
  have hkept := (hall emptyTables sampleIssue
    [.insert, .publish none, .readAck 0 (sampleAck "a" .completed) 1, .commitAck 0, .save] rfl).last
  simp [AcknowledgementKept, commandRaceStep, CommandRace.start, CommandRace.stored, emptyTables,
    sampleAck, readCommandAck, commitCommandAck, CommandTables.write, writeChanged,
    DeviceCommand.acknowledge, CommandIssue.command, CommandIssue.outcome, sampleIssue,
    AckStatus.toCommandStatus] at hkept

end IiotMonitoring
