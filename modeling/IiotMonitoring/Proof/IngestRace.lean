import IiotMonitoring.Proof.IngestAlone
import Mathlib.Data.List.Nodup

/-!
# Concurrent ingestion is serializable

The serial order grows with the race. A call that commits goes last. A call that only reads goes where
the tables were as it found them, which is a state of the serial run since every past of the race is
one. In between, each call is at a point of its program that says what its earlier reads are still good
for.
-/

namespace IiotMonitoring

variable {format : FloatFormat} {calls : Nat → Ingest} {start : Database} {race : IngestRace}

/-! ### Serial runs -/

section SerialRuns

variable {sessions sessions' : Nat → Statement IngestOutcome} {first middle last : Database}
variable {order before after : List Nat}

/-- The tables after the calls of a list, one by one. -/
def serialDb (format : FloatFormat) (calls : Nat → Ingest) (db : Database) (order : List Nat) :
    Database :=
  order.foldl (fun db call => (runAlone format db (calls call)).2) db

theorem serialDb_append :
    serialDb format calls first (before ++ after) =
      serialDb format calls (serialDb format calls first before) after :=
  List.foldl_append

theorem serialDb_cons (call : Nat) :
    serialDb format calls first (call :: order) =
      serialDb format calls (runAlone format first (calls call)).2 order := rfl

theorem SerialRun.database (hrun : SerialRun format calls sessions first order last) :
    serialDb format calls first order = last := by
  induction hrun with
  | nil => rfl
  | cons _ _ ih => exact ih

theorem SerialRun.append (hbefore : SerialRun format calls sessions first before middle)
    (hafter : SerialRun format calls sessions middle after last) :
    SerialRun format calls sessions first (before ++ after) last := by
  induction hbefore with
  | nil => exact hafter
  | cons returned _ ih => exact .cons returned (ih hafter)

theorem SerialRun.of_append (hrun : SerialRun format calls sessions first (before ++ after) last) :
    SerialRun format calls sessions first before (serialDb format calls first before) ∧
      SerialRun format calls sessions (serialDb format calls first before) after last := by
  induction before generalizing first with
  | nil => exact ⟨.nil first, hrun⟩
  | cons call before ih =>
      cases hrun with
      | cons returned rest =>
          obtain ⟨hbefore, hafter⟩ := ih rest
          exact ⟨.cons returned hbefore, hafter⟩

theorem SerialRun.congr (hrun : SerialRun format calls sessions first order last)
    (hsame : ∀ call ∈ order, sessions' call = sessions call) :
    SerialRun format calls sessions' first order last := by
  induction hrun with
  | nil db => exact .nil db
  | cons returned _ ih =>
      refine .cons ?_ (ih fun call hmem => hsame call (List.mem_cons_of_mem _ hmem))
      rw [hsame _ (List.mem_cons_self ..), returned]

/-- A call of the order returned what it returns on some tables, and the run went on from there. -/
theorem SerialRun.of_mem (hrun : SerialRun format calls sessions first order last) {call : Nat}
    (hmem : call ∈ order) :
    ∃ past rest, sessions call = .done (runAlone format past (calls call)).1 ∧
      SerialRun format calls sessions (runAlone format past (calls call)).2 rest last := by
  induction hrun with
  | nil => cases hmem
  | cons returned rest ih =>
      rcases List.mem_cons.mp hmem with rfl | hmem
      · exact ⟨_, _, returned, rest⟩
      · exact ih hmem

theorem SerialRun.findMessage (hrun : SerialRun format calls sessions first order last)
    {messageId : String} (hmessage : (first.findMessage messageId).isSome) :
    (last.findMessage messageId).isSome := by
  induction hrun with
  | nil => exact hmessage
  | cons _ _ ih => exact ih (findMessage_runAlone hmessage)

theorem SerialRun.oneActive (hrun : SerialRun format calls sessions first order last)
    (hone : OneActive first.alarms) : OneActive last.alarms := by
  induction hrun with
  | nil => exact hone
  | cons _ _ ih => exact ih (runAlone_oneActive hone)

end SerialRuns

theorem SerialOrder.serializable {order : List Nat}
    (horder : SerialOrder format calls start race order) :
    Serializable format calls start race where
  order := ⟨order, horder⟩
  handled := by
    intro call hreturned
    obtain ⟨past, -, houtcome, -⟩ := horder.run.of_mem ((horder.returned call).mpr ⟨_, hreturned⟩)
    rw [hreturned] at houtcome
    exact runAlone_handled (Program.done.inj houtcome).symm
  stored := by
    intro call result hreturned
    obtain ⟨past, rest, houtcome, hrest⟩ :=
      horder.run.of_mem ((horder.returned call).mpr ⟨_, hreturned⟩)
    rw [hreturned] at houtcome
    exact hrest.findMessage (runAlone_stored (Program.done.inj houtcome).symm)
  oneActive := horder.run.oneActive

/-! ### Tables under a commit -/

/-- Sequences stay taken, device rows keep their site, and threshold rows stay. -/
structure TablesGrow (db db' : Database) : Prop where
  sequences : ∀ deviceId sequence, (db.findSequence deviceId sequence).isSome →
    (db'.findSequence deviceId sequence).isSome
  devices : ∀ id device, db.devices id = some device →
    ∃ stored, db'.devices id = some stored ∧ stored.siteId = device.siteId
  thresholds : ∀ id, (db.thresholds id).isSome → (db'.thresholds id).isSome

theorem TablesGrow.refl (db : Database) : TablesGrow db db :=
  ⟨fun _ _ => id, fun _ device hdevice => ⟨device, hdevice, rfl⟩, fun _ => id⟩

theorem TablesGrow.trans {db db' db'' : Database} (hfirst : TablesGrow db db')
    (hsecond : TablesGrow db' db'') : TablesGrow db db'' where
  sequences deviceId sequence hsome :=
    hsecond.sequences deviceId sequence (hfirst.sequences deviceId sequence hsome)
  devices id device hdevice := by
    obtain ⟨stored, hstored, hsite⟩ := hfirst.devices id device hdevice
    obtain ⟨stored', hstored', hsite'⟩ := hsecond.devices id stored hstored
    exact ⟨stored', hstored', hsite'.trans hsite⟩
  thresholds id hsome := hsecond.thresholds id (hfirst.thresholds id hsome)

/-- A device that is registered at the site later was so before, or not yet registered. -/
theorem TablesGrow.rows_isSome {ingest : Ingest} {db db' : Database} (hgrow : TablesGrow db db')
    (hrows : (ingest.rows (db'.devices ingest.envelope.deviceId)).isSome) :
    (ingest.rows (db.devices ingest.envelope.deviceId)).isSome := by
  cases hdevice : db.devices ingest.envelope.deviceId with
  | none => rfl
  | some device =>
      obtain ⟨stored, hstored, hsite⟩ := hgrow.devices _ device hdevice
      obtain ⟨rows, hrows⟩ := Option.isSome_iff_exists.mp hrows
      rw [hstored] at hrows
      rw [rows_of_site (hsite.symm.trans (rows_loaded_some hrows).1)]
      rfl

/-- Tables that agree on the keys of these rows. -/
structure SameKeys (rows : RowWrites) (db db' : Database) : Prop where
  message : db'.findMessage rows.telemetry.messageId = db.findMessage rows.telemetry.messageId
  sequence : db'.findSequence rows.telemetry.deviceId rows.telemetry.sequence =
    db.findSequence rows.telemetry.deviceId rows.telemetry.sequence
  device : db'.devices rows.telemetry.deviceId = db.devices rows.telemetry.deviceId
  thresholds : db'.thresholds rows.telemetry.deviceId = db.thresholds rows.telemetry.deviceId

theorem SameKeys.refl (rows : RowWrites) (db : Database) : SameKeys rows db db := ⟨rfl, rfl, rfl, rfl⟩

theorem sharesKey_eq_false_iff {left right : RowWrites} :
    left.sharesKey right = false ↔
      left.telemetry.messageId ≠ right.telemetry.messageId ∧
        left.telemetry.deviceId ≠ right.telemetry.deviceId := by
  unfold RowWrites.sharesKey
  simp

section Commits

variable {db : Database} {ingest ingest' : Ingest} {rows rows' : RowWrites}
variable {alarms : List (Option AlarmWrite)}

theorem thresholds_commit (hmade : RowsMade ingest db rows) (id : String) :
    (db.commit (some rows) alarms).thresholds id =
      if id = rows.telemetry.deviceId ∧ rows.thresholds.isSome then rows.thresholds
      else db.thresholds id := by
  unfold Database.commit Database.writeRows
  rw [Option.elim_some]
  dsimp only
  cases hrows : rows.thresholds with
  | none => simp
  | some config =>
      have hdevice := hmade.config_deviceId hrows
      dsimp only
      rw [hdevice, Function.update_apply]
      simp only [Option.isSome_some, and_true]

theorem TablesGrow.commit (hmade : RowsMade ingest db rows) (hviolates : db.violates rows = false) :
    TablesGrow db (db.commit (some rows) alarms) where
  sequences := by
    intro deviceId sequence hsome
    unfold Database.findSequence Database.commit Database.writeRows at *
    rw [Option.elim_some, List.find?_append, Option.isSome_or, hsome, Bool.true_or]
  devices := by
    intro id device hdevice
    by_cases hid : id = rows.telemetry.deviceId
    · obtain ⟨-, -, hnew, -⟩ := violates_eq_false_iff.mp hviolates
      unfold Database.commit Database.writeRows RowWrites.device
      rw [Option.elim_some]
      dsimp only
      rw [← hid, Function.update_self, hdevice]
      cases hloaded : rows.loaded with
      | none =>
          rw [← hid, hdevice] at hnew
          cases hnew hloaded
      | some loaded => exact ⟨_, rfl, rfl⟩
    · exact ⟨device, by rw [devices_commit_of_ne hid, hdevice], rfl⟩
  thresholds := by
    intro id hsome
    rw [thresholds_commit hmade]
    split
    · rename_i h
      exact h.2
    · exact hsome

theorem SameKeys.commit (hmade : RowsMade ingest db rows)
    (hapart : rows'.sharesKey rows = false) :
    SameKeys rows' db (db.commit (some rows) alarms) := by
  obtain ⟨hmessage, hdevice⟩ := sharesKey_eq_false_iff.mp hapart
  constructor
  · rw [findMessage_commit, if_neg hmessage.symm, Option.or_none]
  · exact findSequence_commit _ _ hdevice.symm
  · exact devices_commit_of_ne hdevice
  · rw [thresholds_commit hmade, if_neg fun h => hdevice h.1]

end Commits

/-! ### Points of a call -/

theorem RowsMade.grow {ingest : Ingest} {db db' : Database} {rows : RowWrites}
    (hmade : RowsMade ingest db rows) (hgrow : TablesGrow db db') : RowsMade ingest db' rows where
  made := hmade.made
  registered := by
    intro hloaded
    obtain ⟨device, hdevice, hsite⟩ := hmade.registered hloaded
    obtain ⟨stored, hstored, hsame⟩ := hgrow.devices _ device hdevice
    exact ⟨stored, hstored, hsame.trans hsite⟩
  config := hmade.config

/-- What a flush that went through keeps until the commit. -/
structure FlushHolds (ingest : Ingest) (db : Database) (rows : RowWrites) : Prop where
  made : RowsMade ingest db rows
  config : rows.thresholds.isSome
  free : db.violates rows = false
  stands : rows.Stands ingest db

theorem FlushHolds.keep {ingest : Ingest} {db db' : Database} {rows : RowWrites}
    (hholds : FlushHolds ingest db rows) (hgrow : TablesGrow db db')
    (hsame : SameKeys rows db db') : FlushHolds ingest db' rows where
  made := hholds.made.grow hgrow
  config := hholds.config
  free := by
    obtain ⟨hmessage, hsequence, hdevice, hconfig⟩ := violates_eq_false_iff.mp hholds.free
    apply violates_eq_false_iff.mpr
    rw [hsame.message, hsame.sequence, hsame.device]
    refine ⟨hmessage, hsequence, hdevice, ?_⟩
    intro config hmem
    have hfree := hconfig config hmem
    rw [hholds.made.config_deviceId hmem] at hfree ⊢
    rw [hsame.thresholds, hfree]
  stands := by
    intro loaded stored hloaded hstored
    exact hholds.stands loaded stored hloaded (hsame.device ▸ hstored)

/-- Some past tables had neither the message nor its sequence, and the device at its site or not at
all. -/
def Ingest.Admitted (ingest : Ingest) (history : List Database) : Prop :=
  ∃ past ∈ history, past.findMessage ingest.envelope.messageId = none ∧
    past.findSequence ingest.envelope.deviceId ingest.envelope.sequence = none ∧
    (ingest.rows (past.devices ingest.envelope.deviceId)).isSome

/-- Some past tables, which have grown since, did not have the message, and had the property. -/
def Ingest.Unseen (ingest : Ingest) (history : List Database) (db : Database)
    (property : Database → Prop) : Prop :=
  ∃ past ∈ history, TablesGrow past db ∧ past.findMessage ingest.envelope.messageId = none ∧
    property past

theorem Ingest.Unseen.grow {ingest : Ingest} {history history' : List Database} {db db' : Database}
    {property : Database → Prop} (hunseen : ingest.Unseen history db property)
    (hgrow : TablesGrow db db') (hsub : history ⊆ history') :
    ingest.Unseen history' db' property := by
  obtain ⟨past, hpast, hgrown, hrest⟩ := hunseen
  exact ⟨past, hsub hpast, hgrown.trans hgrow, hrest⟩

/-- Where a call is in its program, and what it still knows. -/
inductive IngestPoint (format : FloatFormat) (ingest : Ingest) (history : List Database)
    (db : Database) (flushed : Option RowWrites) : Statement IngestOutcome → Prop where
  | start : IngestPoint format ingest history db flushed (ingest.persistTelemetry format)
  | sequence (unseen : ingest.Unseen history db fun _ => True) :
      IngestPoint format ingest history db flushed (ingest.checkSequence format)
  | device (unseen : ingest.Unseen history db fun past =>
        past.findSequence ingest.envelope.deviceId ingest.envelope.sequence = none) :
      IngestPoint format ingest history db flushed (ingest.loadDevice format)
  | thresholds {rows : RowWrites} (admitted : ingest.Admitted history)
      (made : RowsMade ingest db rows) (hnone : rows.thresholds = none) :
      IngestPoint format ingest history db flushed (ingest.applyThresholdAlarms format rows)
  | flush {rows : RowWrites} (admitted : ingest.Admitted history) (made : RowsMade ingest db rows)
      (hnone : rows.thresholds = none) :
      IngestPoint format ingest history db flushed (ingest.flushThresholds format rows)
  | alarms {rows : RowWrites} {rules : List MetricRule} {alarms : List (Option AlarmWrite)}
      (admitted : ingest.Admitted history) (made : RowsMade ingest db rows)
      (hnone : rows.thresholds = none)
      (known : (db.thresholds ingest.envelope.deviceId).isSome) :
      IngestPoint format ingest history db flushed
        (ingest.applyMetricAlarms format (some rows) rules alarms)
  | flushedAlarms {rows : RowWrites} {rules : List MetricRule} {alarms : List (Option AlarmWrite)}
      (admitted : ingest.Admitted history) (hflushed : flushed = some rows) :
      IngestPoint format ingest history db flushed
        (ingest.applyMetricAlarms format none rules alarms)
  | commit {rows : RowWrites} {alarms : List (Option AlarmWrite)} (fits : ¬ ingest.TooLarge format)
      (made : RowsMade ingest db rows) (hnone : rows.thresholds = none)
      (known : (db.thresholds ingest.envelope.deviceId).isSome) :
      IngestPoint format ingest history db flushed (ingest.commitSession (some rows) alarms)
  | flushedCommit {rows : RowWrites} {alarms : List (Option AlarmWrite)}
      (fits : ¬ ingest.TooLarge format) (hflushed : flushed = some rows) :
      IngestPoint format ingest history db flushed (ingest.commitSession none alarms)
  | rollback : IngestPoint format ingest history db flushed ingest.afterRollback
  | done (outcome : IngestOutcome) : IngestPoint format ingest history db flushed (.done outcome)

theorem IngestPoint.grow {ingest : Ingest} {history history' : List Database} {db db' : Database}
    {flushed : Option RowWrites} {rest : Statement IngestOutcome}
    (hpoint : IngestPoint format ingest history db flushed rest) (hgrow : TablesGrow db db')
    (hsub : history ⊆ history') : IngestPoint format ingest history' db' flushed rest := by
  have hadmitted : ingest.Admitted history → ingest.Admitted history' := by
    rintro ⟨past, hpast, hrest⟩
    exact ⟨past, hsub hpast, hrest⟩
  cases hpoint with
  | start => exact .start
  | sequence unseen => exact .sequence (unseen.grow hgrow hsub)
  | device unseen => exact .device (unseen.grow hgrow hsub)
  | thresholds admitted made hnone => exact .thresholds (hadmitted admitted) (made.grow hgrow) hnone
  | flush admitted made hnone => exact .flush (hadmitted admitted) (made.grow hgrow) hnone
  | alarms admitted made hnone known =>
      exact .alarms (hadmitted admitted) (made.grow hgrow) hnone (hgrow.thresholds _ known)
  | flushedAlarms admitted hflushed => exact .flushedAlarms (hadmitted admitted) hflushed
  | commit fits made hnone known =>
      exact .commit fits (made.grow hgrow) hnone (hgrow.thresholds _ known)
  | flushedCommit fits hflushed => exact .flushedCommit fits hflushed
  | rollback => exact .rollback
  | done outcome => exact .done outcome

/-- The calls of `_apply_metric_alarm` that are left look up an alarm, or go to the commit. -/
theorem applyMetricAlarms_cases (ingest : Ingest) (rows : Option RowWrites) (rules : List MetricRule)
    (alarms : List (Option AlarmWrite)) :
    (∃ alarms', ingest.applyMetricAlarms format rows rules alarms =
        ingest.commitTelemetry format rows alarms') ∨
      ∃ code next, ingest.applyMetricAlarms format rows rules alarms =
          .call (.activeAlarm ingest.envelope.deviceId code) next ∧
        ∀ answer, ∃ rules' alarms', next answer =
          ingest.applyMetricAlarms format rows rules' alarms' := by
  induction rules generalizing alarms with
  | nil => exact .inl ⟨alarms, rfl⟩
  | cons rule rules ih =>
      cases hvalue : rule.value with
      | none =>
          rw [applyMetricAlarms_none hvalue]
          exact ih _
      | some value =>
          rw [applyMetricAlarms_some hvalue]
          exact .inr ⟨rule.code, _, rfl, fun answer => ⟨rules, _, rfl⟩⟩

/-- The call goes on, or its event does not fit a notification. -/
def Proceeds (format : FloatFormat) (ingest : Ingest) (rest : Statement IngestOutcome) : Prop :=
  (ingest.TooLarge format ∧ rest = .done (.error .eventTooLarge)) ∨ ∃ op next, rest = .call op next

theorem commitTelemetry_proceeds (ingest : Ingest) (rows : Option RowWrites)
    (alarms : List (Option AlarmWrite)) :
    Proceeds format ingest (ingest.commitTelemetry format rows alarms) := by
  by_cases hsize : ingest.TooLarge format
  · exact .inl ⟨hsize, commitTelemetry_tooLarge hsize rows alarms⟩
  · exact .inr ⟨_, _, commitTelemetry_eq hsize rows alarms⟩

theorem applyMetricAlarms_proceeds (ingest : Ingest) (rows : Option RowWrites)
    (rules : List MetricRule) (alarms : List (Option AlarmWrite)) :
    Proceeds format ingest (ingest.applyMetricAlarms format rows rules alarms) := by
  rcases applyMetricAlarms_cases ingest rows rules alarms with
    ⟨alarms', hcommit⟩ | ⟨code, next, hnext, -⟩
  · rw [hcommit]
    exact commitTelemetry_proceeds ingest rows alarms'
  · exact .inr ⟨_, _, hnext⟩

/-! ### The race after a statement -/

section After

variable {call other : Nat} {db : Database} {flushed : Option RowWrites} {rows : RowWrites}
variable {rest : Statement IngestOutcome}

theorem mem_flushed_after {entry : Nat × RowWrites} :
    entry ∈ (race.after call db flushed rest).flushed ↔
      entry ∈ race.flushed ∧ entry.1 ≠ call ∨ entry.1 = call ∧ flushed = some entry.2 := by
  unfold IngestRace.after
  rw [List.mem_append, List.mem_filter, decide_eq_true_eq, List.mem_map]
  apply or_congr Iff.rfl
  constructor
  · rintro ⟨rows, hrows, rfl⟩
    exact ⟨rfl, Option.mem_toList.mp hrows⟩
  · rintro ⟨rfl, hflushed⟩
    exact ⟨entry.2, Option.mem_toList.mpr hflushed, rfl⟩

theorem flushedBy_after_self : (race.after call db flushed rest).flushedBy call = flushed := by
  have hothers : (race.flushed.filter (·.1 ≠ call)).find? (·.1 = call) = none := by
    simp
  unfold IngestRace.flushedBy IngestRace.after
  rw [List.find?_append, hothers]
  cases flushed with
  | none => rfl
  | some rows => simp

theorem flushedBy_after_of_ne (hne : other ≠ call) :
    (race.after call db flushed rest).flushedBy other = race.flushedBy other := by
  have hnew : (flushed.toList.map fun rows => (call, rows)).find? (·.1 = other) = none := by
    simp [hne.symm]
  unfold IngestRace.flushedBy IngestRace.after
  rw [List.find?_append, hnew, Option.or_none, List.find?_filter]
  congr 2
  funext entry
  by_cases hother : entry.1 = other
  · simp [hother, hne]
  · simp [hother]

theorem mem_of_flushedBy (hflushed : race.flushedBy call = some rows) :
    (call, rows) ∈ race.flushed := by
  obtain ⟨⟨owner, rows'⟩, hfind, rfl⟩ := Option.map_eq_some_iff.mp hflushed
  have howner := List.find?_some hfind
  obtain rfl : owner = call := by simpa using howner
  exact List.mem_of_find?_eq_some hfind

theorem sharesKey_of_not_blocked (hblocked : race.blocked call rows = false) :
    ∀ entry ∈ race.flushed, entry.1 ≠ call → entry.2.sharesKey rows = false := by
  intro entry hmem hne
  have hentry := List.any_eq_false.mp hblocked entry hmem
  simpa [hne] using hentry

end After

/-! ### The invariant -/

/-- The past tables of the race are met in this order. -/
def Covers (format : FloatFormat) (calls : Nat → Ingest) (start : Database) (order : List Nat)
    (history : List Database) : Prop :=
  ∀ past ∈ history, ∃ before after, order = before ++ after ∧
    serialDb format calls start before = past

/-- The invariant: the serial order of the race so far, every call at a point of its program, and
flushed rows with keys of their own. -/
structure IngestTracked (format : FloatFormat) (calls : Nat → Ingest) (start : Database)
    (race : IngestRace) : Prop where
  point : ∀ call,
    IngestPoint format (calls call) race.history race.db (race.flushedBy call) (race.sessions call)
  flushed : ∀ entry ∈ race.flushed, FlushHolds (calls entry.1) race.db entry.2
  apart : ∀ entry ∈ race.flushed, ∀ entry' ∈ race.flushed, entry.1 ≠ entry'.1 →
    entry.2.sharesKey entry'.2 = false
  current : race.db ∈ race.history
  order : ∃ order, SerialOrder format calls start race order ∧
    Covers format calls start order race.history

theorem ingestTracked_start (format : FloatFormat) (calls : Nat → Ingest) (start : Database) :
    IngestTracked format calls start (.start format calls start) where
  point := fun _ => .start
  flushed := fun _ hmem => absurd hmem (List.not_mem_nil)
  apart := fun _ hmem => absurd hmem (List.not_mem_nil)
  current := List.mem_singleton_self _
  order := by
    refine ⟨[], ⟨List.nodup_nil, ?_, .nil start⟩, ?_⟩
    · intro call
      constructor
      · intro hmem
        cases hmem
      · rintro ⟨outcome, houtcome⟩
        cases houtcome
    · intro past hpast
      obtain rfl := List.mem_singleton.mp hpast
      exact ⟨[], [], rfl, rfl⟩

section Orders

variable {call : Nat} {db : Database} {flushed : Option RowWrites} {order : List Nat}
variable {rest : Statement IngestOutcome}

/-- A call that has not returned is not in the order, and its session can change. -/
theorem SerialOrder.running (horder : SerialOrder format calls start race order) {op : SessionOp}
    {next : op.Answer → Statement IngestOutcome} (hsession : race.sessions call = .call op next)
    (rest : Statement IngestOutcome) :
    call ∉ order ∧ ∀ other ∈ order,
      Function.update race.sessions call rest other = race.sessions other := by
  have hnot : call ∉ order := by
    intro hmem
    obtain ⟨outcome, houtcome⟩ := (horder.returned call).mp hmem
    rw [hsession] at houtcome
    cases houtcome
  refine ⟨hnot, ?_⟩
  intro other hmem
  have hne : other ≠ call := by
    rintro rfl
    exact hnot hmem
  exact Function.update_of_ne hne _ _

/-- A statement that does not end its call keeps the order. -/
theorem SerialOrder.read (horder : SerialOrder format calls start race order) {op op' : SessionOp}
    {next : op.Answer → Statement IngestOutcome} {next' : op'.Answer → Statement IngestOutcome}
    (hsession : race.sessions call = .call op next) :
    SerialOrder format calls start (race.after call race.db flushed (.call op' next')) order where
  nodup := horder.nodup
  returned := by
    intro other
    rw [horder.returned other]
    unfold IngestRace.after
    dsimp only
    by_cases hother : other = call
    · rw [hother, Function.update_self, hsession]
      simp
    · rw [Function.update_of_ne hother]
  run := horder.run.congr (horder.running hsession _).2

/-- A call that ends has a place in the order where what it does alone fits the rest. -/
theorem SerialOrder.returns {before after : List Nat} {middle : Database} {outcome : IngestOutcome}
    (horder : SerialOrder format calls start race (before ++ after)) {op : SessionOp}
    {next : op.Answer → Statement IngestOutcome} (hsession : race.sessions call = .call op next)
    (halone : runAlone format (serialDb format calls start before) (calls call) = (outcome, middle))
    (hafter : SerialRun format calls race.sessions middle after db) :
    SerialOrder format calls start (race.after call db flushed (.done outcome))
      (before ++ call :: after) := by
  obtain ⟨hnot, hsame⟩ := horder.running hsession (.done outcome)
  constructor
  · exact List.nodup_middle.mpr (List.nodup_cons.mpr ⟨hnot, horder.nodup⟩)
  · intro other
    have hmem : other ∈ before ++ call :: after ↔ other = call ∨ other ∈ before ++ after := by
      simp only [List.mem_append, List.mem_cons]
      tauto
    rw [hmem, horder.returned other]
    unfold IngestRace.after
    dsimp only
    by_cases hother : other = call
    · rw [hother, Function.update_self]
      simp
    · rw [Function.update_of_ne hother]
      simp [hother]
  · have hbefore := horder.run.of_append.1
    refine (hbefore.congr fun other hmem => hsame other (List.mem_append_left _ hmem)).append ?_
    refine .cons ?_ ?_
    · rw [halone]
      exact Function.update_self _ _ _
    · rw [halone]
      exact hafter.congr fun other hmem => hsame other (List.mem_append_right _ hmem)

theorem Covers.insert {before after : List Nat} {history : List Database}
    (hcovers : Covers format calls start (before ++ after) history)
    (hsame : (runAlone format (serialDb format calls start before) (calls call)).2 =
      serialDb format calls start before) :
    Covers format calls start (before ++ call :: after) history := by
  intro past hpast
  obtain ⟨before', after', horder, hpast⟩ := hcovers past hpast
  rcases List.append_eq_append_iff.mp horder with ⟨between, hbefore, hafter⟩ | ⟨between, hbefore, hafter⟩
  · refine ⟨before ++ call :: between, after', ?_, ?_⟩
    · rw [hafter, List.append_assoc, List.cons_append]
    · rw [serialDb_append, serialDb_cons, hsame, ← serialDb_append, ← hbefore]
      exact hpast
  · refine ⟨before', between ++ call :: after, ?_, hpast⟩
    rw [hbefore, List.append_assoc]

theorem Covers.append {history : List Database} (hcovers : Covers format calls start order history)
    (later : List Nat) : Covers format calls start (order ++ later) history := by
  intro past hpast
  obtain ⟨before, after, horder, hpast⟩ := hcovers past hpast
  exact ⟨before, after ++ later, by rw [horder, List.append_assoc], hpast⟩

/-- The tables at the end of the order are met in it. -/
theorem Covers.last {history : List Database} (hcovers : Covers format calls start order history)
    (hdb : serialDb format calls start order = db) :
    Covers format calls start order (history ++ [db]) := by
  intro past hpast
  rcases List.mem_append.mp hpast with hpast | hpast
  · exact hcovers past hpast
  · rw [List.mem_singleton.mp hpast]
    exact ⟨order, [], (List.append_nil _).symm, hdb⟩

end Orders

/-! ### Steps -/

section Steps

variable {call : Nat} {db : Database} {flushed : Option RowWrites} {rows : RowWrites}
variable {rest : Statement IngestOutcome}

theorem IngestTracked.after (htracked : IngestTracked format calls start race)
    (hgrow : TablesGrow race.db db)
    (hkeys : ∀ entry ∈ race.flushed, entry.1 ≠ call → SameKeys entry.2 race.db db)
    (hflushed : ∀ rows, flushed = some rows → FlushHolds (calls call) db rows ∧
      ∀ entry ∈ race.flushed, entry.1 ≠ call → entry.2.sharesKey rows = false)
    (hpoint : IngestPoint format (calls call) (race.history ++ [db]) db flushed rest)
    (horder : ∃ order, SerialOrder format calls start (race.after call db flushed rest) order ∧
      Covers format calls start order (race.history ++ [db])) :
    IngestTracked format calls start (race.after call db flushed rest) where
  point := by
    intro other
    by_cases hother : other = call
    · rw [hother, flushedBy_after_self]
      unfold IngestRace.after
      dsimp only
      rw [Function.update_self]
      exact hpoint
    · rw [flushedBy_after_of_ne hother]
      unfold IngestRace.after
      dsimp only
      rw [Function.update_of_ne hother]
      exact (htracked.point other).grow hgrow (List.subset_append_left _ _)
  flushed := by
    intro entry hentry
    rcases mem_flushed_after.mp hentry with ⟨hmem, hne⟩ | ⟨hcall, hrows⟩
    · exact (htracked.flushed entry hmem).keep hgrow (hkeys entry hmem hne)
    · rw [hcall]
      exact (hflushed _ hrows).1
  apart := by
    intro entry hentry entry' hentry' hdifferent
    rcases mem_flushed_after.mp hentry with ⟨hmem, hne⟩ | ⟨hcall, hrows⟩
    · rcases mem_flushed_after.mp hentry' with ⟨hmem', -⟩ | ⟨-, hrows'⟩
      · exact htracked.apart entry hmem entry' hmem' hdifferent
      · exact (hflushed _ hrows').2 entry hmem hne
    · rcases mem_flushed_after.mp hentry' with ⟨hmem', hne'⟩ | ⟨hcall', -⟩
      · have hshares := sharesKey_eq_false_iff.mp ((hflushed _ hrows).2 entry' hmem' hne')
        exact sharesKey_eq_false_iff.mpr ⟨hshares.1.symm, hshares.2.symm⟩
      · exact absurd (hcall.trans hcall'.symm) hdifferent
  current := List.mem_append_right _ (List.mem_singleton_self _)
  order := horder

/-- The rows a call has flushed hold, and share no key with those of another. -/
theorem IngestTracked.own (htracked : IngestTracked format calls start race) (call : Nat)
    (rows : RowWrites) (hflushed : race.flushedBy call = some rows) :
    FlushHolds (calls call) race.db rows ∧
      ∀ entry ∈ race.flushed, entry.1 ≠ call → entry.2.sharesKey rows = false := by
  have hmem := mem_of_flushedBy hflushed
  exact ⟨htracked.flushed _ hmem, fun entry hentry hne => htracked.apart entry hentry _ hmem hne⟩

variable {op : SessionOp} {next : op.Answer → Statement IngestOutcome}

theorem IngestTracked.continues (htracked : IngestTracked format calls start race)
    (hsession : race.sessions call = .call op next)
    (hflushed : ∀ rows, flushed = some rows → FlushHolds (calls call) race.db rows ∧
      ∀ entry ∈ race.flushed, entry.1 ≠ call → entry.2.sharesKey rows = false)
    (hpoint : IngestPoint format (calls call) race.history race.db flushed rest)
    (hrest : ∃ op' next', rest = .call op' next') :
    IngestTracked format calls start
      (race.after call race.db (keptFlushed rest flushed) rest) := by
  obtain ⟨order, horder, hcovers⟩ := htracked.order
  obtain ⟨op', next', rfl⟩ := hrest
  apply htracked.after (TablesGrow.refl _) (fun entry _ _ => SameKeys.refl _ _) hflushed
    (hpoint.grow (TablesGrow.refl _) (List.subset_append_left _ _))
  exact ⟨order, horder.read hsession, hcovers.last horder.run.database⟩

/-- A call that ends as it would alone, and changing nothing, on some past tables. -/
theorem IngestTracked.returns (htracked : IngestTracked format calls start race)
    (hsession : race.sessions call = .call op next)
    {past : Database} {outcome : IngestOutcome} (hpast : past ∈ race.history)
    (halone : runAlone format past (calls call) = (outcome, past)) (flushed : Option RowWrites) :
    IngestTracked format calls start
      (race.after call race.db (keptFlushed (.done outcome) flushed) (.done outcome)) := by
  obtain ⟨order, horder, hcovers⟩ := htracked.order
  apply htracked.after (TablesGrow.refl _) (fun entry _ _ => SameKeys.refl _ _)
    (fun rows hrows => by cases hrows) (.done _)
  obtain ⟨before, after, rfl, rfl⟩ := hcovers past hpast
  have hreturned : SerialOrder format calls start (race.after call race.db none (.done outcome))
      (before ++ call :: after) :=
    horder.returns hsession halone horder.run.of_append.2
  refine ⟨_, hreturned, Covers.last ?_ hreturned.run.database⟩
  apply hcovers.insert
  rw [halone]

/-- A call that was admitted goes on, or ends where it was. -/
theorem IngestTracked.proceeds (htracked : IngestTracked format calls start race)
    (hsession : race.sessions call = .call op next)
    (hflushed : ∀ rows, flushed = some rows → FlushHolds (calls call) race.db rows ∧
      ∀ entry ∈ race.flushed, entry.1 ≠ call → entry.2.sharesKey rows = false)
    (hadmitted : (calls call).Admitted race.history)
    (hpoint : IngestPoint format (calls call) race.history race.db flushed rest)
    (hrest : Proceeds format (calls call) rest) :
    IngestTracked format calls start
      (race.after call race.db (keptFlushed rest flushed) rest) := by
  rcases hrest with ⟨hsize, rfl⟩ | hrest
  · obtain ⟨past, hpast, hmessage, howner, hrows⟩ := hadmitted
    exact htracked.returns hsession hpast (runAlone_tooLarge hsize hmessage howner hrows) flushed
  · exact htracked.continues hsession hflushed hpoint hrest

theorem IngestTracked.commits (htracked : IngestTracked format calls start race)
    (hsession : race.sessions call = .call op next) (hmade : RowsMade (calls call) race.db rows)
    (hfree : race.db.violates rows = false)
    (hapart : ∀ entry ∈ race.flushed, entry.1 ≠ call → entry.2.sharesKey rows = false)
    {alarms : List (Option AlarmWrite)} {outcome : IngestOutcome}
    (halone : runAlone format race.db (calls call) =
      (outcome, race.db.commit (some rows) alarms)) :
    IngestTracked format calls start
      (race.after call (race.db.commit (some rows) alarms) none (.done outcome)) := by
  obtain ⟨order, horder, hcovers⟩ := htracked.order
  apply htracked.after (TablesGrow.commit hmade hfree)
    (fun entry hentry hne => SameKeys.commit hmade (hapart entry hentry hne))
    (fun rows hrows => by cases hrows) (.done _)
  have hall : order = order ++ [] := (List.append_nil _).symm
  rw [hall] at horder
  have hlast : serialDb format calls start order = race.db := by
    rw [hall]
    exact horder.run.database
  have hreturned : SerialOrder format calls start
      (race.after call (race.db.commit (some rows) alarms) none (.done outcome)) (order ++ [call]) :=
    horder.returns hsession (by rw [hlast]; exact halone) (.nil _)
  exact ⟨_, hreturned, (hcovers.append [call]).last hreturned.run.database⟩

theorem ingestStep_call (hsession : race.sessions call = .call op next)
    (hwaits : race.waits call op = false) :
    ingestStep race call =
      race.after call (sessionDevice op (race.db, race.flushedBy call)).2.1
        (keptFlushed (next (sessionDevice op (race.db, race.flushedBy call)).1)
          (sessionDevice op (race.db, race.flushedBy call)).2.2)
        (next (sessionDevice op (race.db, race.flushedBy call)).1) := by
  unfold ingestStep
  rw [hsession]
  simp only [hwaits, Bool.false_eq_true, if_false]

theorem ingestStep_waits (hsession : race.sessions call = .call op next)
    (hwaits : race.waits call op = true) : ingestStep race call = race := by
  unfold ingestStep
  rw [hsession]
  simp only [hwaits, if_true]

/-- The commit of rows that were flushed. -/
theorem IngestTracked.step_commit_flushed (htracked : IngestTracked format calls start race)
    {alarms : List (Option AlarmWrite)} (hsize : ¬ (calls call).TooLarge format)
    (hsession : race.sessions call = (calls call).commitSession none alarms)
    (hcurrent : StatementCurrent format calls race call)
    (hflushed : race.flushedBy call = some rows) :
    IngestTracked format calls start (ingestStep race call) := by
  rw [commitSession_eq] at hsession
  unfold StatementCurrent at hcurrent
  simp only [hsession] at hcurrent
  rw [ingestStep_call hsession rfl]
  simp only [sessionDevice, Option.any_none, Bool.false_eq_true, if_false, if_true, hflushed,
    keptFlushed]
  obtain ⟨hholds, hapart⟩ := htracked.own call rows hflushed
  have hnone : rows.thresholds ≠ none := Option.isSome_iff_ne_none.mp hholds.config
  have halone := runAlone_commit hsize hholds.made hholds.free (fun h => absurd h hnone)
    hholds.stands hcurrent
  exact htracked.commits hsession hholds.made hholds.free hapart halone

/-- The commit of rows that were not. -/
theorem IngestTracked.step_commit (htracked : IngestTracked format calls start race)
    {alarms : List (Option AlarmWrite)} (hsize : ¬ (calls call).TooLarge format)
    (hsession : race.sessions call = (calls call).commitSession (some rows) alarms)
    (hcurrent : StatementCurrent format calls race call)
    (hmade : RowsMade (calls call) race.db rows)
    (hknown : (race.db.thresholds (calls call).envelope.deviceId).isSome) :
    IngestTracked format calls start (ingestStep race call) := by
  rw [commitSession_eq] at hsession
  unfold StatementCurrent at hcurrent
  simp only [hsession] at hcurrent
  cases hblocked : race.blocked call rows with
  | true =>
      rw [ingestStep_waits hsession hblocked]
      exact htracked
  | false =>
      rw [ingestStep_call hsession hblocked]
      cases hfree : race.db.violates rows with
      | true =>
          simp only [sessionDevice, Option.any_some, hfree, if_true, Bool.false_eq_true, if_false]
          exact htracked.continues hsession (fun rows hrows => by cases hrows) .rollback ⟨_, _, rfl⟩
      | false =>
          simp only [sessionDevice, Option.any_some, hfree, Bool.false_eq_true, if_false, if_true,
            keptFlushed]
          obtain ⟨hstands, halarms⟩ := hcurrent hblocked hfree
          have halone := runAlone_commit hsize hmade hfree (fun _ => hknown) hstands halarms
          exact htracked.commits hsession hmade hfree (sharesKey_of_not_blocked hblocked) halone

/-- The notification, which is sent with the commit. -/
theorem IngestTracked.step_notify (htracked : IngestTracked format calls start race)
    {rows : Option RowWrites} {alarms : List (Option AlarmWrite)}
    (hsession : race.sessions call = (calls call).commitTelemetry format rows alarms)
    (hrunning : ∀ outcome, race.sessions call ≠ .done outcome)
    (hpoint : ¬ (calls call).TooLarge format →
      IngestPoint format (calls call) race.history race.db (race.flushedBy call)
        ((calls call).commitSession rows alarms)) :
    IngestTracked format calls start (ingestStep race call) := by
  by_cases hsize : (calls call).TooLarge format
  · rw [commitTelemetry_tooLarge hsize] at hsession
    exact absurd hsession (hrunning _)
  · rw [commitTelemetry_eq hsize] at hsession
    rw [ingestStep_call hsession rfl]
    exact htracked.continues hsession (htracked.own call) (hpoint hsize) ⟨_, _, rfl⟩

theorem ingestStep_done {outcome : IngestOutcome} (hsession : race.sessions call = .done outcome) :
    ingestStep race call = race := by
  unfold ingestStep
  rw [hsession]

theorem IngestTracked.step (htracked : IngestTracked format calls start race) (call : Nat)
    (hcurrent : StatementCurrent format calls race call) :
    IngestTracked format calls start (ingestStep race call) := by
  by_cases hdone : ∃ outcome, race.sessions call = .done outcome
  · obtain ⟨outcome, hdone⟩ := hdone
    rw [ingestStep_done hdone]
    exact htracked
  · have hrunning : ∀ outcome, race.sessions call ≠ .done outcome := not_exists.mp hdone
    have hpoint := htracked.point call
    have hown := htracked.own call
    generalize hsession : race.sessions call = program at hpoint
    cases hpoint with
    | start =>
        rw [persistTelemetry_eq] at hsession
        rw [ingestStep_call hsession rfl]
        cases hmessage : race.db.findMessage (calls call).envelope.messageId with
        | some row =>
            simp only [sessionDevice, hmessage, Option.isSome_some, if_true]
            exact htracked.returns hsession htracked.current
              (runAlone_duplicate (by rw [hmessage]; rfl)) _
        | none =>
            simp only [sessionDevice, hmessage, Option.isSome_none, Bool.false_eq_true, if_false]
            exact htracked.continues hsession hown
              (.sequence ⟨race.db, htracked.current, TablesGrow.refl _, hmessage, trivial⟩)
              ⟨_, _, rfl⟩
    | sequence unseen =>
        rw [checkSequence_eq] at hsession
        unfold StatementCurrent at hcurrent
        simp only [hsession] at hcurrent
        rw [ingestStep_call hsession rfl]
        cases howner : race.db.findSequence (calls call).envelope.deviceId
            (calls call).envelope.sequence with
        | some row =>
            simp only [sessionDevice, howner, Option.isSome_some, if_true]
            obtain ⟨past, hpast, hmessage, howner⟩ := hcurrent (by rw [howner]; rfl)
            exact htracked.returns hsession hpast (runAlone_collision hmessage howner) _
        | none =>
            simp only [sessionDevice, howner, Option.isSome_none, Bool.false_eq_true, if_false]
            obtain ⟨past, hpast, hgrow, hmessage, -⟩ := unseen
            refine htracked.continues hsession hown (.device ⟨past, hpast, hgrow, hmessage, ?_⟩)
              ⟨_, _, rfl⟩
            apply Option.not_isSome_iff_eq_none.mp
            intro hsome
            have hlater := hgrow.sequences _ _ hsome
            rw [howner] at hlater
            cases hlater
    | device unseen =>
        rw [loadDevice_eq] at hsession
        unfold StatementCurrent at hcurrent
        simp only [hsession] at hcurrent
        rw [ingestStep_call hsession rfl]
        cases hrows : (calls call).rows (race.db.devices (calls call).envelope.deviceId) with
        | none =>
            simp only [sessionDevice, hrows]
            obtain ⟨past, hpast, hmessage, howner, hsite⟩ := hcurrent hrows
            exact htracked.returns hsession hpast (runAlone_mismatch hmessage howner hsite) _
        | some rows =>
            simp only [sessionDevice, hrows]
            obtain ⟨past, hpast, hgrow, hmessage, howner⟩ := unseen
            have hsome := hgrow.rows_isSome (by rw [hrows]; rfl)
            exact htracked.continues hsession hown
              (.thresholds ⟨past, hpast, hmessage, howner, hsome⟩ (rowsMade_of_rows hrows)
                (rows_loaded hrows).2) ⟨_, _, rfl⟩
    | @thresholds rows admitted made hnone =>
        rw [applyThresholdAlarms_eq] at hsession
        rw [ingestStep_call hsession rfl]
        cases hconfig : race.db.thresholds (calls call).envelope.deviceId with
        | some config =>
            simp only [sessionDevice, hconfig]
            exact htracked.proceeds hsession hown admitted
              (.alarms admitted made hnone (by rw [hconfig]; rfl))
              (applyMetricAlarms_proceeds ..)
        | none =>
            simp only [sessionDevice, hconfig]
            exact htracked.continues hsession hown (.flush admitted made hnone) ⟨_, _, rfl⟩
    | @flush rows admitted made hnone =>
        rw [flushThresholds_eq] at hsession
        unfold StatementCurrent at hcurrent
        simp only [hsession] at hcurrent
        cases hblocked : race.blocked call { rows with
            thresholds := some (ThresholdConfig.default (calls call).envelope.deviceId) } with
        | true =>
            rw [ingestStep_waits hsession hblocked]
            exact htracked
        | false =>
            obtain ⟨hfree, hstands⟩ := hcurrent hblocked
            rw [ingestStep_call hsession hblocked]
            simp only [sessionDevice, hfree, Bool.false_eq_true, if_false, if_true]
            refine htracked.proceeds hsession ?_ admitted (.flushedAlarms admitted rfl)
              (applyMetricAlarms_proceeds ..)
            intro flushed hflushed
            obtain rfl := Option.some.inj hflushed
            exact ⟨⟨made.flushed, rfl, hfree, hstands⟩, sharesKey_of_not_blocked hblocked⟩
    | @alarms rows rules alarms admitted made hnone known =>
        rcases applyMetricAlarms_cases (calls call) (some rows) rules alarms with
          ⟨alarms', hcommit⟩ | ⟨code, next, hnext, hrest⟩
        · rw [hcommit] at hsession
          exact htracked.step_notify hsession hrunning fun fits => .commit fits made hnone known
        · rw [hnext] at hsession
          rw [ingestStep_call hsession rfl]
          simp only [sessionDevice]
          obtain ⟨rules', alarms', hrest⟩ := hrest _
          rw [hrest]
          exact htracked.proceeds hsession hown admitted (.alarms admitted made hnone known)
            (applyMetricAlarms_proceeds ..)
    | @flushedAlarms rows rules alarms admitted hflushed =>
        rcases applyMetricAlarms_cases (calls call) none rules alarms with
          ⟨alarms', hcommit⟩ | ⟨code, next, hnext, hrest⟩
        · rw [hcommit] at hsession
          exact htracked.step_notify hsession hrunning fun fits => .flushedCommit fits hflushed
        · rw [hnext] at hsession
          rw [ingestStep_call hsession rfl]
          simp only [sessionDevice]
          obtain ⟨rules', alarms', hrest⟩ := hrest _
          rw [hrest]
          exact htracked.proceeds hsession hown admitted (.flushedAlarms admitted hflushed)
            (applyMetricAlarms_proceeds ..)
    | commit fits made hnone known => exact htracked.step_commit fits hsession hcurrent made known
    | flushedCommit fits hflushed =>
        exact htracked.step_commit_flushed fits hsession hcurrent hflushed
    | rollback =>
        rw [afterRollback_eq] at hsession
        unfold StatementCurrent at hcurrent
        simp only [hsession] at hcurrent
        rw [ingestStep_call hsession rfl]
        simp only [sessionDevice, hcurrent, if_true]
        exact htracked.returns hsession htracked.current (runAlone_duplicate hcurrent) _
    | done outcome => exact absurd hsession (hrunning outcome)

end Steps

/-- **Validated ingestion is serializable.** -/
theorem ingest_serializable (format : FloatFormat) (calls : Nat → Ingest) (start : Database)
    (schedule : List Nat)
    (hcurrent : StepsMeet ingestStep (StatementCurrent format calls) (.start format calls start)
      schedule) :
    StatesMeet ingestStep (Serializable format calls start) (.start format calls start) schedule := by
  have htracked := statesMeet_of_guarded (fun race call h hguard => h.step call hguard)
    (ingestTracked_start format calls start) hcurrent
  refine htracked.mono ?_
  intro race h
  obtain ⟨order, horder, -⟩ := h.order
  exact horder.serializable

section Sample

set_option maxRecDepth 20000 in
/-- The second looks up its message before the first is stored, and the rest after. -/
theorem ingest_serializable_first :
    StatesMeet ingestStep (Serializable sampleFormat firstMessages emptyDatabase)
      (.start sampleFormat firstMessages emptyDatabase)
      [0, 1, 0, 0, 0, 0, 0, 0, 1, 1, 1, 1, 1] := by
  apply ingest_serializable
  refine ⟨trivial, trivial, ?_, ?_, trivial, ?_, trivial, ?_, ?_, ?_, trivial, trivial, ?_, trivial⟩
  · intro howner
    cases howner
  · intro hrows
    cases hrows
  · intro _
    refine ⟨rfl, ?_⟩
    intro loaded stored hloaded
    cases hloaded
  · exact .cons trivial (.cons trivial (.cons trivial .nil))
  · intro howner
    cases howner
  · intro hrows
    cases hrows
  · intro _ _
    refine ⟨?_, .cons trivial (.cons trivial (.cons trivial .nil))⟩
    intro loaded stored hloaded hstored
    obtain rfl := Option.some.inj (hloaded.symm.trans hstored)
    obtain rfl := Option.some.inj hloaded
    rfl

set_option maxRecDepth 20000 in
/-- Both read that the device and its thresholds are new. The second flush finds the rows of the first
and raises. -/
theorem ingest_not_serializable :
    ¬ ∀ (format : FloatFormat) (calls : Nat → Ingest) (start : Database) (schedule : List Nat),
      StatesMeet ingestStep (Serializable format calls start) (.start format calls start)
        schedule := by
  intro h
  have hlast := (h sampleFormat firstMessages emptyDatabase 
    [0, 0, 0, 0, 1, 1, 1, 1, 0, 0, 0, 1]).last
  exact hlast.handled 1 rfl

end Sample

end IiotMonitoring
