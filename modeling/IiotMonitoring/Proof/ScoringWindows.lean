import IiotMonitoring.Proof.FeatureWindows
import IiotMonitoring.Proof.ScoringProgress

/-!
# Polls and one pass

The context rows of a poll are a part of the device's history that begins at its start or eleven rows
before the first target. So every target is given what one pass over the complete history gives it,
however the rows come in.
-/

namespace IiotMonitoring.AnomalyWorker

/-! ### Context rows -/

section Context

variable {rows : List TelemetryRow} {deviceId : String}

def deviceRows (deviceId : String) (rows : List TelemetryRow) : List TelemetryRow :=
  rows.filter (·.telemetry.deviceId = deviceId)

/-- In the order of `received_at` and `id`, with keys that differ. -/
structure InOrder (rows : List TelemetryRow) : Prop where
  pairwise : rows.Pairwise fun left right => left.before right = true
  keys : (rows.map (·.id)).Nodup

/-- A list whose first items are those with a property. -/
theorem filter_split {α : Type} {relation : α → α → Prop} {property : α → Bool} {items : List α}
    (hordered : items.Pairwise relation)
    (hclosed : ∀ left right, relation left right → property right = true → property left = true) :
    items = items.filter property ++ items.filter fun item => !property item := by
  induction items with
  | nil => rfl
  | cons item items ih =>
      obtain ⟨hhead, hrest⟩ := List.pairwise_cons.mp hordered
      cases hitem : property item with
      | true =>
          rw [List.filter_cons_of_pos hitem, List.filter_cons_of_neg (by simp [hitem]),
            List.cons_append, ← ih hrest]
      | false =>
          have hnone : items.filter property = [] := by
            rw [List.filter_eq_nil_iff]
            intro later hlater hproperty
            have hearlier := hclosed item later (hhead later hlater) hproperty
            rw [hitem] at hearlier
            cases hearlier
          have hall : items.filter (fun item => !property item) = items := by
            have hsplit := ih hrest
            rw [hnone, List.nil_append] at hsplit
            exact hsplit.symm
          rw [List.filter_cons_of_neg (by simp [hitem]), List.filter_cons_of_pos (by simp [hitem]),
            hnone, hall, List.nil_append]

theorem InOrder.sublist {rows' : List TelemetryRow} (h : InOrder rows) (hsub : rows'.Sublist rows) :
    InOrder rows' :=
  ⟨h.pairwise.sublist hsub, h.keys.sublist (hsub.map _)⟩

/-- The query in descending order. -/
theorem InOrder.descending (h : InOrder rows) :
    rows.mergeSort (fun left right => right.before left) = rows.reverse := by
  apply @List.Perm.eq_of_pairwise _ fun left right : TelemetryRow => right.before left = true
  · intro left right hleft hright hle hge
    rw [TelemetryRow.before_iff] at hle hge
    rw [List.mem_mergeSort] at hleft
    rw [List.mem_reverse] at hright
    exact List.inj_on_of_nodup_map h.keys hleft hright (by omega)
  · apply List.pairwise_mergeSort
    · exact fun a b c hab hbc => TelemetryRow.before_trans c b a hbc hab
    · exact fun a b => TelemetryRow.before_total b a
  · rw [List.pairwise_reverse]
    exact h.pairwise
  · exact (List.mergeSort_perm _ _).trans (List.reverse_perm rows).symm

/-- The context rows as a part of the device's rows: some before the first target, and a batch. -/
structure ContextSplit (rows : List TelemetryRow) (deviceId : String) (first last : Int)
    (earlier low batch later : List TelemetryRow) : Prop where
  split : deviceRows deviceId rows = earlier ++ (low ++ batch) ++ later
  context : contextRows rows deviceId first last = low ++ batch
  low_before : ∀ row ∈ low, row.receivedAt < first
  enough : earlier = [] ∨ low.length = contextSize - 1

theorem contextRows_split (h : InOrder (deviceRows deviceId rows)) (first last : Int) :
    ∃ earlier low batch later, ContextSplit rows deviceId first last earlier low batch later := by
  have hfirst := @filter_split _ _ (fun row : TelemetryRow => row.receivedAt < first) _
    h.pairwise (by
      intro left right hbefore hright
      have hle := TelemetryRow.receivedAt_le hbefore
      rw [decide_eq_true_eq] at hright ⊢
      omega)
  have hbelow : rows.filter (fun row => row.telemetry.deviceId = deviceId && row.receivedAt < first) =
      (deviceRows deviceId rows).filter fun row => row.receivedAt < first := by
    rw [deviceRows, List.filter_filter]
    exact List.filter_congr fun row _ => Bool.and_comm ..
  have hrest : InOrder ((deviceRows deviceId rows).filter fun row => !(row.receivedAt < first)) :=
    h.sublist List.filter_sublist
  have hlast := @filter_split _ _ (fun row : TelemetryRow => row.receivedAt ≤ last) _
    hrest.pairwise (by
      intro left right hbefore hright
      have hle := TelemetryRow.receivedAt_le hbefore
      rw [decide_eq_true_eq] at hright ⊢
      omega)
  have hbatch : rows.filter (fun row => row.telemetry.deviceId = deviceId && first ≤ row.receivedAt &&
      row.receivedAt ≤ last) = ((deviceRows deviceId rows).filter fun row =>
        !(row.receivedAt < first)).filter fun row => row.receivedAt ≤ last := by
    rw [deviceRows, List.filter_filter, List.filter_filter]
    apply List.filter_congr
    intro row _
    rw [Bool.eq_iff_iff]
    simp only [Bool.and_eq_true, Bool.not_eq_true', decide_eq_true_eq, decide_eq_false_iff_not, not_lt]
    constructor
    · rintro ⟨⟨hdevice, hlow⟩, hhigh⟩
      exact ⟨⟨hhigh, hlow⟩, hdevice⟩
    · rintro ⟨⟨hhigh, hlow⟩, hdevice⟩
      exact ⟨⟨hdevice, hlow⟩, hhigh⟩
  have hbelow_order : InOrder ((deviceRows deviceId rows).filter fun row => row.receivedAt < first) :=
    h.sublist List.filter_sublist
  have hlow : ∀ row ∈ (deviceRows deviceId rows).filter (fun row => row.receivedAt < first),
      row.receivedAt < first := fun row hrow => of_decide_eq_true (List.mem_filter.mp hrow).2
  have hbatch_order := hrest.sublist
    (@List.filter_sublist _ (fun row : TelemetryRow => row.receivedAt ≤ last) _)
  have hcontext : contextRows rows deviceId first last =
      ((deviceRows deviceId rows).filter fun row => row.receivedAt < first).drop
        (((deviceRows deviceId rows).filter fun row => row.receivedAt < first).length -
          (contextSize - 1)) ++
      ((deviceRows deviceId rows).filter fun row => !(row.receivedAt < first)).filter fun row =>
        row.receivedAt ≤ last := by
    rw [contextRows, hbelow, hbatch, hbelow_order.descending, List.take_reverse, List.reverse_reverse,
      List.mergeSort_of_pairwise hbatch_order.pairwise]
  generalize (deviceRows deviceId rows).filter (fun row => row.receivedAt < first) = below at *
  generalize (deviceRows deviceId rows).filter (fun row => !(row.receivedAt < first)) = rest at *
  refine ⟨below.take (below.length - (contextSize - 1)), below.drop (below.length - (contextSize - 1)),
    rest.filter fun row => row.receivedAt ≤ last, rest.filter fun row => !(row.receivedAt ≤ last),
    ?_, hcontext, fun row hrow => hlow row (List.mem_of_mem_drop hrow), ?_⟩
  · calc deviceRows deviceId rows = below ++ rest := hfirst
      _ = below.take (below.length - (contextSize - 1)) ++
            below.drop (below.length - (contextSize - 1)) ++
            (rest.filter (fun row => row.receivedAt ≤ last) ++
              rest.filter fun row => !(row.receivedAt ≤ last)) := by
          rw [List.take_append_drop, ← hlast]
      _ = _ := by simp only [List.append_assoc]
  · by_cases hmany : below.length ≤ contextSize - 1
    · left
      rw [Nat.sub_eq_zero_of_le hmany, List.take_zero]
    · right
      rw [List.length_drop]
      omega

end Context

/-! ### What is visible -/

section Visible

/-- A row without the columns that scoring writes. -/
def TelemetryRow.unscored (row : TelemetryRow) : TelemetryRow :=
  { row with anomalyScore := none, anomalyPercentile := none, anomalyReason := none }

/-- The rows are the first ones of the history, but for what scoring has written. -/
def Shows (rows history : List TelemetryRow) : Prop :=
  (rows.map (·.unscored)) <+: (history.map (·.unscored))

variable {rows history : List TelemetryRow}

theorem Shows.inOrder (h : Shows rows history) (hordered : InOrder history) : InOrder rows where
  pairwise := by
    have hall : (history.map (·.unscored)).Pairwise fun left right => left.before right = true :=
      List.pairwise_map.mpr hordered.pairwise
    exact List.pairwise_map.mp (hall.sublist h.sublist)
  keys := by
    have hall : ((history.map (·.unscored)).map (·.id)).Nodup := by
      rw [List.map_map]
      exact hordered.keys
    have hkeys := hall.sublist (h.sublist.map _)
    rwa [List.map_map] at hkeys

theorem Shows.samples (h : Shows rows history) :
    (rows.map (·.sample)) <+: (history.map (·.sample)) := by
  have hsamples := h.map (·.sample)
  rwa [List.map_map, List.map_map] at hsamples

end Visible

/-! ### One poll -/

section Poll

variable (math : FloatMath) {deviceId : String}

/-- What one pass over a history finds for a row of it. -/
def onePass (history : List TelemetryRow) (scored : List ScoreResult) : TelemetryRow → Judged :=
  found math (history.map (·.sample)) (history.map (·.id))
    (scored.map fun result => (result.sampleId, result))

variable {rows history : List TelemetryRow} {first last : TelemetryRow}

/-- A target is at a place of the history from which the context rows reach back far enough. -/
theorem target_covered (hordered : InOrder history) (hshows : Shows (deviceRows deviceId rows) history)
    {modelReady : Bool} (hfirst : (targets rows deviceId modelReady).head? = some first)
    (hlast : (targets rows deviceId modelReady).getLast? = some last) {row : TelemetryRow}
    (hrow : row ∈ targets rows deviceId modelReady) :
    ∃ earlier later place,
      history.map (·.sample) = earlier ++ samplesBetween rows deviceId first last ++ later ∧
      place < (samplesBetween rows deviceId first last).length ∧
      (samplesBetween rows deviceId first last)[place]? = some row.sample ∧ Covered earlier place := by
  obtain ⟨earlier, low, batch, later, hsplit⟩ :=
    contextRows_split (hshows.inOrder hordered) first.receivedAt last.receivedAt
  obtain ⟨future, hfuture⟩ := hshows.samples
  obtain ⟨hstored, htarget⟩ := mem_targets hrow
  obtain ⟨hafter, hbefore⟩ := targets_between hrow hfirst hlast
  have hcontext := mem_contextRows hstored (isTarget_device htarget) hafter hbefore
  have hbatch : row ∈ batch := by
    rw [hsplit.context] at hcontext
    rcases List.mem_append.mp hcontext with hlow | hbatch
    · exact absurd (hsplit.low_before row hlow) (not_lt.mpr hafter)
    · exact hbatch
  obtain ⟨place, hplace⟩ := List.mem_iff_getElem?.mp hbatch
  have hinside := (List.getElem?_eq_some_iff.mp hplace).1
  have hlength : (samplesBetween rows deviceId first last).length = low.length + batch.length := by
    rw [samplesBetween, List.length_map, hsplit.context, List.length_append]
  refine ⟨earlier.map (·.sample), later.map (·.sample) ++ future, low.length + place, ?_, ?_, ?_, ?_⟩
  · rw [← hfuture, hsplit.split, samplesBetween, hsplit.context]
    simp only [List.map_append, List.append_assoc]
  · omega
  · rw [samplesBetween, hsplit.context, List.getElem?_map,
      List.getElem?_append_right (Nat.le_add_right _ _), Nat.add_sub_cancel_left, hplace,
      Option.map_some]
  · rcases hsplit.enough with rfl | henough
    · exact .inl rfl
    · right
      rw [henough]
      change 12 ≤ 11 + place + 1
      omega

variable {bundle : ModelBundle} {score : List PyFloat → PyFloat} {prediction : List PyFloat → Int}

/-- **One target.** A call finds for it what one pass over the history finds. -/
theorem found_onePass (hchecked : bundle.Checked) (hflat : bundle.Flat)
    (hrows : bundle.estimator.RowByRow score prediction) (hordered : InOrder history)
    (hchronological : Chronological (history.map (·.sample))) {scored : List ScoreResult}
    (hscored : scoreRows math bundle
      (generateFeatures math .default (history.map (·.sample))) = .ok scored)
    (hshows : Shows (deviceRows deviceId rows) history) {registry : AnomalyModel}
    (hfirst : (targets rows deviceId true).head? = some first)
    (hlast : (targets rows deviceId true).getLast? = some last) {results : List (Nat × ScoreResult)}
    (hresults : resultsById math (.ready registry bundle) (samplesBetween rows deviceId first last)
      ((targets rows deviceId true).map (·.id)) = .ok results)
    {row : TelemetryRow} (hrow : row ∈ targets rows deviceId true) :
    found math (samplesBetween rows deviceId first last) ((targets rows deviceId true).map (·.id))
      results row = onePass math history scored row := by
  obtain ⟨earlier, later, place, hhistory, hplace, hsample, hcovered⟩ :=
    target_covered hordered hshows hfirst hlast hrow
  obtain ⟨scored', hscored', hlast⟩ := bind_eq_ok.mp hresults
  cases hlast
  have hkeys : ((history.map (·.sample)).map (·.sampleId)).Nodup := by
    rw [List.map_map]
    exact hordered.keys
  have hkey : ∀ items : List TelemetryRow, row ∈ items → row.sample.sampleId ∈ items.map (·.id) :=
    fun items hmem => List.mem_map_of_mem hmem
  have hids : history.map (·.id) = (history.map (·.sample)).map (·.sampleId) := by
    rw [List.map_map]
    rfl
  rw [onePass, hids]
  rw [hhistory] at hchronological hkeys hscored ⊢
  generalize samplesBetween rows deviceId first last = part at *
  have hwhole : (earlier ++ part ++ later)[earlier.length + place]? = some row.sample := by
    rw [getElem?_part hplace, hsample]
  have hpart : part.Sublist (earlier ++ part ++ later) :=
    (List.sublist_append_right ..).trans (List.sublist_append_left ..)
  have hpart_keys := hkeys.sublist (hpart.map _)
  have hwhole_key : row.sample.sampleId ∈ (earlier ++ part ++ later).map (·.sampleId) :=
    List.mem_map_of_mem (List.mem_of_getElem? hwhole)
  have hdiagnostics := lookup_diagnostics math hpart_keys hsample (hkey _ hrow)
  have hdiagnostics' := lookup_diagnostics math hkeys hwhole hwhole_key
  rw [trailing_part hplace hcovered] at hdiagnostics'
  have hresult := lookup_results math hchecked hflat hrows (hchronological.sublist hpart) hpart_keys
    hsample (fun result hsame => decide_eq_true (hsame ▸ hkey _ hrow)) hscored'
  have hresult' := lookup_results math hchecked hflat hrows hchronological hkeys hwhole
    (fun _ _ => rfl) hscored
  rw [List.filter_true, resultAt, featuresAt_part math hplace hcovered, ← resultAt, ← hresult]
    at hresult'
  have hid : row.sample.sampleId = row.id := rfl
  rw [hid] at hdiagnostics hdiagnostics' hresult'
  rw [found, found, hdiagnostics, hdiagnostics', hresult']

end Poll

/-! ### Runs of polls -/

section Polls

variable (math : FloatMath) {P : Type} (runtime : Runtime P) (deviceId : String)

/-- A loaded model that scores the rows of a matrix one by one. -/
structure RowModel where
  bundle : ModelBundle
  checked : bundle.Checked
  flat : bundle.Flat
  score : List PyFloat → PyFloat
  prediction : List PyFloat → Int
  rowByRow : bundle.estimator.RowByRow score prediction

/-- Rows that become visible, and the call that follows. -/
structure Poll where
  arrivals : List TelemetryRow
  call : ScoringCall

def WorkerTables.arrive (tables : WorkerTables) (rows : List TelemetryRow) : WorkerTables :=
  { tables with rows := tables.rows ++ rows }

def pollStep (tables : WorkerTables) (poll : Poll) : WorkerTables :=
  callStep math runtime deviceId (tables.arrive poll.arrivals) poll.call

/-- All rows of a run, as they become visible. -/
def arrived (tables : WorkerTables) (polls : List Poll) : List TelemetryRow :=
  tables.rows ++ polls.flatMap (·.arrivals)

/-- What a call computes for its targets. -/
def ScoringCall.judged (call : ScoringCall) (tables : WorkerTables) :
    Except PyError (List Judged) := do
  let loaded ← call.loaded runtime deviceId
  let batch := targets tables.rows deviceId loaded.isReady
  match batch.head?, batch.getLast? with
  | some first, some last =>
      judge math tables.rows deviceId loaded batch first.receivedAt last.receivedAt
  | _, _ => .ok []

variable (model : RowModel) (history : List TelemetryRow) (scored : List ScoreResult)

/-- The row with what the one pass finds for it: score, percentile and reason, or that its window is not
ready. -/
def Scored (before after : TelemetryRow) : Prop :=
  match (onePass math history scored before).result with
  | none =>
      after = { before with
        anomalyReason := some "FEATURE_WINDOW_NOT_READY: waiting for causal context" }
  | some result =>
      after = { before with
        anomalyScore := some result.rawAnomalyScore
        anomalyPercentile := some result.empiricalPercentile
        anomalyReason := some (match (onePass math history scored before).diagnostics with
          | [] => result.reason
          | diagnostics => diagnosticReason diagnostics) }

/-- The call computes for its targets what the one pass finds. It returns, with each of them written so
and the other rows as they were. -/
structure CallMeets (tables : WorkerTables) (call : ScoringCall) : Prop where
  judged : call.judged math runtime deviceId tables =
    .ok ((targets tables.rows deviceId true).map (onePass math history scored))
  returns : ∃ count tables', call.score math runtime deviceId tables = .ok (count, tables') ∧
    List.Forall₂ (fun before after =>
      if before ∈ targets tables.rows deviceId true then Scored math history scored before after
      else after = before) tables.rows tables'.rows

/-- The row is as it became visible, or scored. -/
def Stored (before after : TelemetryRow) : Prop :=
  after = before ∨ (isTarget deviceId true before = true ∧ Scored math history scored before after)

/-- One pass over the complete history succeeds. Every call of the polls computes what it finds, the
stored rows show it, and when no targets are left all rows that were to be scored do. -/
structure MeetsOnePass (tables : WorkerTables) (polls : List Poll) : Prop where
  onePass : scoreRows math model.bundle
    (generateFeatures math .default (history.map (·.sample))) = .ok scored
  computed : StepsMeet (pollStep math runtime deviceId)
    (fun tables poll => CallMeets math runtime deviceId history scored (tables.arrive poll.arrivals)
      poll.call) tables polls
  stored : List.Forall₂ (Stored math deviceId history scored) (arrived tables polls)
    (exec (pollStep math runtime deviceId) tables polls).rows
  settled : targets (exec (pollStep math runtime deviceId) tables polls).rows deviceId true = [] →
    List.Forall₂ (fun before after => isTarget deviceId true before = true →
      Scored math history scored before after) (arrived tables polls)
      (exec (pollStep math runtime deviceId) tables polls).rows

end Polls

section Rows

variable {rows part : List TelemetryRow}

/-- The written rows take the place of those with their keys. -/
theorem writeRows_part (hkeys : (rows.map (·.id)).Nodup) (hpart : ∀ row ∈ part, row ∈ rows)
    {change : TelemetryRow → TelemetryRow} (hchange : ∀ row, (change row).id = row.id) :
    writeRows rows (part.map change) = rows.map fun row => if row ∈ part then change row else row := by
  apply List.map_congr_left
  intro row hrow
  have hsame : ∀ row' ∈ part, (change row').id = row.id → row' = row := by
    intro row' hrow' hid
    rw [hchange] at hid
    exact List.inj_on_of_nodup_map hkeys (hpart row' hrow') hrow hid
  cases hfound : (part.map change).find? (·.id = row.id) with
  | none =>
      rw [if_neg]
      · rfl
      · intro hmem
        have hnone := List.find?_eq_none.mp hfound _ (List.mem_map_of_mem hmem)
        rw [hchange] at hnone
        exact hnone (decide_eq_true rfl)
  | some written =>
      obtain ⟨row', hrow', rfl⟩ := List.mem_map.mp (List.mem_of_find?_eq_some hfound)
      have hid := List.find?_some hfound
      obtain rfl := hsame row' hrow' (of_decide_eq_true hid)
      rw [if_pos hrow']
      rfl

theorem written_unscored (judged : Judged) (loaded : Loaded) :
    (judged.written loaded).unscored = judged.row.unscored := by
  cases hready : loaded.isReady <;> cases hresult : judged.result <;>
    simp [Judged.written, TelemetryRow.unscored, hready, hresult]

theorem deviceRows_unscored (deviceId : String) (rows : List TelemetryRow) :
    (deviceRows deviceId rows).map (·.unscored) = deviceRows deviceId (rows.map (·.unscored)) := by
  rw [deviceRows, deviceRows, List.filter_map]
  rfl

theorem ids_of_unscored {rows shown : List TelemetryRow}
    (h : rows.map (·.unscored) = shown.map (·.unscored)) : rows.map (·.id) = shown.map (·.id) :=
  calc rows.map (·.id) = (rows.map (·.unscored)).map (·.id) := by rw [List.map_map]; rfl
    _ = (shown.map (·.unscored)).map (·.id) := by rw [h]
    _ = shown.map (·.id) := by rw [List.map_map]; rfl

theorem shows_of_unscored {rows shown : List TelemetryRow} (deviceId : String)
    (h : rows.map (·.unscored) = shown.map (·.unscored)) (later : List TelemetryRow) :
    Shows (deviceRows deviceId rows) (deviceRows deviceId (shown ++ later)) := by
  rw [Shows, deviceRows_unscored, h, ← deviceRows_unscored, deviceRows, deviceRows,
    List.filter_append, List.map_append]
  exact List.prefix_append ..

end Rows

section Call

variable (math : FloatMath) {P : Type} {runtime : Runtime P} {deviceId : String} {model : RowModel}
  {history : List TelemetryRow} {scored : List ScoreResult}

/-- The history is in one order by either time, and scored in one pass. -/
structure OnePassed (math : FloatMath) (model : RowModel) (history : List TelemetryRow)
    (scored : List ScoreResult) : Prop where
  ordered : InOrder history
  chronological : Chronological (history.map (·.sample))
  scored : scoreRows math model.bundle
    (generateFeatures math .default (history.map (·.sample))) = .ok scored

/-- What a ready call writes for a target. -/
theorem scored_iff {registry : AnomalyModel} {bundle : ModelBundle} {before after : TelemetryRow} :
    Scored math history scored before after ↔
      after = (onePass math history scored before).written (.ready registry bundle) := by
  have hrow : (onePass math history scored before).row = before := rfl
  unfold Scored Judged.written Judged.reason
  rw [hrow]
  cases (onePass math history scored before).result with
  | none => exact Iff.rfl
  | some result => cases (onePass math history scored before).diagnostics <;> exact Iff.rfl

/-- The rows after a call of the run. -/
def rowsAfter (math : FloatMath) (deviceId : String) (history : List TelemetryRow)
    (scored : List ScoreResult) (loaded : Loaded) (rows : List TelemetryRow) : List TelemetryRow :=
  rows.map fun row =>
    if row ∈ targets rows deviceId true then (onePass math history scored row).written loaded else row

theorem RowModel.scores (model : RowModel) (rows : List FeatureRow) :
    ∃ results, scoreRows math model.bundle rows = .ok results := by
  apply scoreRows_succeeds math model.checked fun _ => model.flat
  exact fun _ => model.rowByRow.answers _

theorem judged_none {tables : WorkerTables} {call : ScoringCall} {loaded : Loaded}
    (hloaded : call.loaded runtime deviceId = .ok loaded)
    (hnone : targets tables.rows deviceId loaded.isReady = []) :
    call.judged math runtime deviceId tables = .ok [] := by
  rw [ScoringCall.judged, hloaded, ok_bind]
  dsimp only
  rw [hnone]
  rfl

theorem judged_some {tables : WorkerTables} {call : ScoringCall} {loaded : Loaded}
    (hloaded : call.loaded runtime deviceId = .ok loaded) {first last : TelemetryRow}
    (hfirst : (targets tables.rows deviceId loaded.isReady).head? = some first)
    (hlast : (targets tables.rows deviceId loaded.isReady).getLast? = some last) :
    call.judged math runtime deviceId tables =
      (resultsById math loaded (samplesBetween tables.rows deviceId first last)
        ((targets tables.rows deviceId loaded.isReady).map (·.id))).map
          (foundAll math tables.rows deviceId loaded first last) := by
  rw [ScoringCall.judged, hloaded, ok_bind]
  dsimp only
  rw [hfirst, hlast]
  exact judge_eq math (targets_context hfirst hlast)

theorem rowsAfter_scored {registry : AnomalyModel} {bundle : ModelBundle}
    {rows rows' : List TelemetryRow}
    (h : rows' = rowsAfter math deviceId history scored (.ready registry bundle) rows) :
    List.Forall₂ (fun before after =>
      if before ∈ targets rows deviceId true then Scored math history scored before after
      else after = before) rows rows' := by
  rw [h, rowsAfter, List.forall₂_map_right_iff, List.forall₂_same]
  intro row _
  split
  · exact (scored_iff math).mpr rfl
  · rfl

/-- **One call.** It computes what the one pass finds, and writes it. -/
theorem call_meets (hdevice : deviceId.length ≤ 63) (hpassed : OnePassed math model history scored)
    {tables : WorkerTables} (hkeys : (tables.rows.map (·.id)).Nodup)
    (hshows : Shows (deviceRows deviceId tables.rows) history) {call : ScoringCall}
    (hversions : ∀ registered ∈ call.models, registered.modelVersion.length ≤ 80)
    {registry : AnomalyModel}
    (hloaded : call.loaded runtime deviceId = .ok (.ready registry model.bundle)) :
    CallMeets math runtime deviceId history scored tables call ∧
      (callStep math runtime deviceId tables call).rows =
        rowsAfter math deviceId history scored (.ready registry model.bundle) tables.rows := by
  have hscore := call.score_eq math tables hloaded
  by_cases hnone : targets tables.rows deviceId true = []
  · have hjudged := judged_none math hloaded hnone
    have hcall : scoreLoaded math { tables with models := call.models } deviceId
        (.ready registry model.bundle) call.clock = _ := scoreLoaded_none math hnone
    have hrows : tables.rows =
        rowsAfter math deviceId history scored (.ready registry model.bundle) tables.rows := by
      rw [rowsAfter, hnone]
      simp only [List.not_mem_nil, if_false, List.map_id']
    refine ⟨⟨by rw [hjudged, hnone, List.map_nil], _, _, hscore.trans hcall, rowsAfter_scored math hrows⟩, ?_⟩
    rw [callStep, hscore, hcall]
    exact hrows
  · obtain ⟨first, hfirst⟩ := Option.isSome_iff_exists.mp
      (Option.isSome_iff_ne_none.mpr (mt List.head?_eq_none_iff.mp hnone))
    obtain ⟨last, hlast⟩ := Option.isSome_iff_exists.mp (List.getLast?_isSome.mpr hnone)
    obtain ⟨results, hresults⟩ := model.scores math
      (generateFeatures math .default (samplesBetween tables.rows deviceId first last))
    have hbyId : resultsById math (.ready registry model.bundle)
        (samplesBetween tables.rows deviceId first last)
        ((targets tables.rows deviceId true).map (·.id)) =
          .ok ((results.filter (·.sampleId ∈ (targets tables.rows deviceId true).map (·.id))).map
            fun result => (result.sampleId, result)) := by
      rw [resultsById, hresults, ok_bind]
      rfl
    have hall : foundAll math tables.rows deviceId (.ready registry model.bundle) first last _ =
        (targets tables.rows deviceId true).map (onePass math history scored) :=
      List.map_congr_left fun row hrow => found_onePass math model.checked model.flat model.rowByRow
        hpassed.ordered hpassed.chronological hpassed.scored hshows hfirst hlast hbyId hrow
    have hjudged := judged_some math hloaded hfirst hlast
    have hcall : scoreLoaded math { tables with models := call.models } deviceId
        (.ready registry model.bundle) call.clock = _ :=
      scoreLoaded_some math hdevice (loaded_sound hversions hloaded).1 hfirst hlast
    dsimp only [Loaded.isReady] at hjudged hcall
    rw [hbyId, Except.map, hall] at hjudged hcall
    have hrows : writeRows tables.rows (((targets tables.rows deviceId true).map
        (onePass math history scored)).map (·.written (.ready registry model.bundle))) =
          rowsAfter math deviceId history scored (.ready registry model.bundle) tables.rows := by
      rw [rowsAfter, List.map_map]
      exact writeRows_part hkeys (fun row hrow => (mem_targets hrow).1) fun row => written_id _ _
    refine ⟨⟨hjudged, _, _, hscore.trans hcall, rowsAfter_scored math hrows⟩, ?_⟩
    rw [callStep, hscore, hcall]
    exact hrows

end Call

/-! ### Runs -/

section Run

variable {math : FloatMath} {P : Type} {runtime : Runtime P} {deviceId : String} {model : RowModel}
  {history : List TelemetryRow} {scored : List ScoreResult}

theorem Stored.unscored {before after : TelemetryRow}
    (h : Stored math deviceId history scored before after) : after.unscored = before.unscored := by
  rcases h with rfl | ⟨-, hscored⟩
  · rfl
  · unfold Scored at hscored
    cases hresult : (onePass math history scored before).result with
    | none =>
        rw [hresult] at hscored
        rw [hscored]
        rfl
    | some result =>
        rw [hresult] at hscored
        rw [hscored]
        rfl

theorem stored_unscored {shown rows : List TelemetryRow}
    (h : List.Forall₂ (Stored math deviceId history scored) shown rows) :
    rows.map (·.unscored) = shown.map (·.unscored) := by
  induction h with
  | nil => rfl
  | cons hhead _ ih => rw [List.map_cons, List.map_cons, hhead.unscored, ih]

/-- A row that is scored once more was not scored before. -/
theorem Stored.step {before row : TelemetryRow} {rows : List TelemetryRow} {registry : AnomalyModel}
    {bundle : ModelBundle} (h : Stored math deviceId history scored before row) :
    Stored math deviceId history scored before
      (if row ∈ targets rows deviceId true then
        (onePass math history scored row).written (.ready registry bundle)
      else row) := by
  split
  · rename_i hrow
    have htarget := (mem_targets hrow).2
    rcases h with rfl | ⟨-, hscored⟩
    · exact .inr ⟨htarget, (scored_iff math).mpr rfl⟩
    · rw [(scored_iff math).mp hscored] at htarget
      have hdone : isTarget deviceId (Loaded.ready registry bundle).isReady
          ((onePass math history scored before).written (.ready registry bundle)) = false :=
        isTarget_written
      rw [Loaded.isReady, htarget] at hdone
      cases hdone
  · exact h

theorem stored_rowsAfter {shown rows : List TelemetryRow} {registry : AnomalyModel}
    {bundle : ModelBundle}
    (h : List.Forall₂ (Stored math deviceId history scored) shown rows) :
    List.Forall₂ (Stored math deviceId history scored) shown
      (rowsAfter math deviceId history scored (.ready registry bundle) rows) := by
  rw [rowsAfter, List.forall₂_map_right_iff]
  exact h.imp fun _ _ hrow => hrow.step

/-- The call of the poll finds the model. -/
structure Poll.Finds (runtime : Runtime P) (deviceId : String) (model : RowModel) (poll : Poll) :
    Prop where
  versions : ∀ registered ∈ poll.call.models, registered.modelVersion.length ≤ 80
  ready : ∃ registry, poll.call.loaded runtime deviceId = .ok (.ready registry model.bundle)

theorem polls_meet (hdevice : deviceId.length ≤ 63) (hpassed : OnePassed math model history scored)
    {polls : List Poll} (hpolls : ∀ poll ∈ polls, poll.Finds runtime deviceId model)
    {shown : List TelemetryRow}
    (hkeys : ((shown ++ polls.flatMap (·.arrivals)).map (·.id)).Nodup)
    (hhistory : history = deviceRows deviceId (shown ++ polls.flatMap (·.arrivals)))
    {tables : WorkerTables}
    (hstored : List.Forall₂ (Stored math deviceId history scored) shown tables.rows) :
    StepsMeet (pollStep math runtime deviceId)
        (fun tables poll => CallMeets math runtime deviceId history scored
          (tables.arrive poll.arrivals) poll.call) tables polls ∧
      List.Forall₂ (Stored math deviceId history scored)
        (shown ++ polls.flatMap (·.arrivals))
        (exec (pollStep math runtime deviceId) tables polls).rows := by
  induction polls generalizing shown tables with
  | nil =>
      rw [List.flatMap_nil, List.append_nil]
      exact ⟨trivial, hstored⟩
  | cons poll polls ih =>
      rw [List.flatMap_cons, ← List.append_assoc] at hkeys hhistory ⊢
      have hvisible : List.Forall₂ (Stored math deviceId history scored)
          (shown ++ poll.arrivals) (tables.arrive poll.arrivals).rows :=
        List.rel_append hstored (List.forall₂_same.mpr fun row _ => .inl rfl)
      have hsame := stored_unscored hvisible
      have hids : ((tables.arrive poll.arrivals).rows.map (·.id)).Nodup := by
        rw [ids_of_unscored hsame]
        exact hkeys.sublist ((List.sublist_append_left ..).map _)
      have hshows : Shows (deviceRows deviceId (tables.arrive poll.arrivals).rows) history := by
        rw [hhistory]
        exact shows_of_unscored deviceId hsame _
      obtain ⟨hversions, registry, hready⟩ := hpolls poll List.mem_cons_self
      obtain ⟨hmeets, hrows⟩ := call_meets math hdevice hpassed hids hshows hversions hready
      have hnext := hrows ▸ stored_rowsAfter hvisible
      obtain ⟨hrest, hlast⟩ := ih (fun poll' hpoll' => hpolls poll' (.tail _ hpoll')) hkeys hhistory hnext
      exact ⟨⟨hmeets, hrest⟩, hlast⟩

/-- **Incremental scoring is one-pass scoring.** However the rows come in, every poll computes for its
targets what one pass over the complete history finds for them. -/
theorem polls_onePass (hdevice : deviceId.length ≤ 63) {polls : List Poll}
    (hpolls : ∀ poll ∈ polls, poll.Finds runtime deviceId model) (tables : WorkerTables)
    (hkeys : ((arrived tables polls).map (·.id)).Nodup)
    (hordered : InOrder (deviceRows deviceId (arrived tables polls)))
    (hchronological : Chronological ((deviceRows deviceId (arrived tables polls)).map (·.sample))) :
    ∃ scored, MeetsOnePass math runtime deviceId model (deviceRows deviceId (arrived tables polls))
      scored tables polls := by
  obtain ⟨scored, hscored⟩ := model.scores math
    (generateFeatures math .default ((deviceRows deviceId (arrived tables polls)).map (·.sample)))
  have hpassed : OnePassed math model (deviceRows deviceId (arrived tables polls)) scored :=
    ⟨hordered, hchronological, hscored⟩
  obtain ⟨hcomputed, hstored⟩ := polls_meet hdevice hpassed hpolls hkeys rfl
    (List.forall₂_same.mpr fun row _ => .inl rfl)
  refine ⟨scored, hscored, hcomputed, hstored, ?_⟩
  intro hnone
  rw [targets_eq_nil_iff] at hnone
  obtain ⟨hlength, hpairs⟩ := List.forall₂_iff_zip.mp hstored
  refine List.forall₂_iff_zip.mpr ⟨hlength, ?_⟩
  intro before after hpair htarget
  rcases hpairs hpair with rfl | ⟨-, hscored⟩
  · rw [hnone _ (List.of_mem_zip hpair).2] at htarget
    cases htarget
  · exact hscored

end Run

/-- Eight rows in three polls. -/
def demoPolls : List Poll :=
  [⟨[], demoCall [demoModel]⟩,
    ⟨[demoTables.demoRow 4 30000000 none, demoTables.demoRow 5 40000000 none,
      demoTables.demoRow 6 50000000 none, demoTables.demoRow 7 60000000 none], demoCall [demoModel]⟩,
    ⟨[demoTables.demoRow 8 70000000 none], demoCall [demoModel]⟩]

theorem polls_onePass_demo : ∃ model scored, MeetsOnePass demoMath demoRuntime "motor-01" model
    (deviceRows "motor-01" (arrived demoTables demoPolls)) scored demoTables demoPolls := by
  obtain ⟨registry, bundle, hloaded⟩ := demoCall_loads
  have hversions : ∀ registered ∈ (demoCall [demoModel]).models,
      registered.modelVersion.length ≤ 80 := by
    decide
  obtain ⟨hchecked, hunpickled⟩ := (loaded_sound hversions hloaded).2 registry bundle rfl
  obtain ⟨hforest, hflat⟩ := demo_unpickled hunpickled
  let model : RowModel :=
    { bundle
      checked := hchecked
      flat := hflat
      score := fun values => (values.headD (.finite 0)).neg
      prediction := fun _ => 1
      rowByRow := by
        rw [hforest]
        exact ⟨fun _ => rfl, fun _ => rfl⟩ }
  refine ⟨model, ?_⟩
  have hpolls : ∀ poll ∈ demoPolls, poll.Finds demoRuntime "motor-01" model := by
    intro poll hpoll
    have hcall : poll.call = demoCall [demoModel] := by
      simp only [demoPolls, List.mem_cons, List.not_mem_nil, or_false] at hpoll
      rcases hpoll with rfl | rfl | rfl <;> rfl
    refine ⟨?_, registry, ?_⟩
    · rw [hcall]
      exact hversions
    · rw [hcall]
      exact hloaded
  exact polls_onePass (by decide) hpolls demoTables (by decide) ⟨by decide, by decide⟩
    (by rw [Chronological]; decide)

end IiotMonitoring.AnomalyWorker
