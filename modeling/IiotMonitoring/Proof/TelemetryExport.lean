import IiotMonitoring.Proof.CommandExpiry
import IiotMonitoring.Server.TelemetryQuery

/-!
# Exported telemetry

Whoever reads an exported file gets the rows of the query back, one record each, and no cell that a
spreadsheet would evaluate.
-/

namespace IiotMonitoring

/-! ### Ranges -/

theorem boundedRange_eq_ok {maxQueryDays : Nat} {now : Int} {start finish : Option QueryTime}
    {rangeStart rangeEnd : QueryTime}
    (h : boundedRange maxQueryDays now start finish = .ok (rangeStart, rangeEnd)) :
    rangeEnd = finish.getD ⟨now, some 0⟩ ∧ (∀ time, start = some time → rangeStart = time) ∧
      rangeStart.offset.isSome = rangeEnd.offset.isSome ∧ rangeStart.moment < rangeEnd.moment ∧
      rangeEnd.moment - rangeStart.moment ≤ maxQueryDays * 86400000000 := by
  unfold boundedRange at h
  dsimp only at h
  generalize hfirst : QueryTime.orDayBefore? start (finish.getD ⟨now, some 0⟩) = first at h
  cases first with
  | none => cases h
  | some first =>
      dsimp only at h
      cases hspan : (finish.getD ⟨now, some 0⟩).minus? first with
      | none =>
          rw [hspan] at h
          cases h
      | some span =>
          rw [hspan] at h
          dsimp only at h
          split_ifs at h with hshort hlong
          obtain ⟨rfl, rfl⟩ := Prod.mk.inj (Except.ok.inj h)
          unfold QueryTime.minus? at hspan
          split_ifs at hspan with hkind
          obtain rfl := Option.some.inj hspan
          refine ⟨rfl, fun time htime => ?_, hkind.symm, by omega, by omega⟩
          rw [htime] at hfirst
          exact (Option.some.inj hfirst).symm

/-! ### Formulas -/

theorem startsFormula_safeCsvText (value : List Char) : startsFormula (safeCsvText value) = false := by
  unfold safeCsvText
  split_ifs with hformula
  · rfl
  · exact Bool.eq_false_iff.mpr hformula

theorem startsFormula_digit {first : Char} (rest : List Char) (h : first.isDigit = true) :
    startsFormula (first :: rest) = false := by
  apply Bool.eq_false_iff.mpr
  intro hformula
  have hmem : first ∈ formulaStarts := List.contains_iff_mem.mp hformula
  simp only [formulaStarts, List.mem_cons, List.not_mem_nil, or_false] at hmem
  rcases hmem with rfl | rfl | rfl | rfl | rfl | rfl <;> simp at h

/-- A time starts with the digits of its year. -/
theorem startsFormula_utcIsoformat (time : Int) : startsFormula (utcIsoformat time) = false := by
  unfold utcIsoformat
  dsimp only
  generalize hyear : fixedDigits 4 (dateFrom 0 (time / 86400000000 + 719528).toNat).year = year
  cases year with
  | nil =>
      have hlength := length_fixedDigits 4 (dateFrom 0 (time / 86400000000 + 719528).toNat).year
      rw [hyear] at hlength
      cases hlength
  | cons first rest =>
      apply startsFormula_digit
      have hmem : first ∈ fixedDigits 4 (dateFrom 0 (time / 86400000000 + 719528).toNat).year :=
        hyear ▸ List.mem_cons_self
      exact isDigit_fixedDigits hmem

theorem startsFormula_metric (metric : ExportMetric) : startsFormula metric.text.toList = false := by
  cases metric <;> rfl

/-- A cell of a row, other than its value, is not a formula. -/
theorem startsFormula_cell {str : FloatNumber ℚ → String} {metric : ExportMetric} {row : Telemetry}
    {column : Nat} {cell : List Char} (hcell : (csvCells str metric row)[column]? = some cell)
    (hvalue : column ≠ 3) : startsFormula cell = false := by
  unfold csvCells at hcell
  match column with
  | 0 =>
      obtain rfl := Option.some.inj hcell
      exact startsFormula_safeCsvText _
  | 1 =>
      obtain rfl := Option.some.inj hcell
      exact startsFormula_utcIsoformat _
  | 2 =>
      obtain rfl := Option.some.inj hcell
      exact startsFormula_metric metric
  | 3 => exact absurd rfl hvalue
  | 4 | 5 =>
      obtain rfl := Option.some.inj hcell
      exact startsFormula_safeCsvText _
  | _ + 6 => cases hcell

theorem startsFormula_header : ∀ cell ∈ csvHeader, startsFormula cell = false := by decide

/-! ### The file -/

theorem return_not_mem_header : ∀ cell ∈ csvHeader, '\r' ∉ cell := by decide

/-- `csv.writer` quotes carriage returns, or there are none. -/
def ExportParts.KeepsReturns (parts : ExportParts) (db : Database) : Prop :=
  parts.quotesReturns = true ∨ ∀ row ∈ db.telemetry, ∀ metric, ∀ cell ∈ csvCells parts.str metric row,
    '\r' ∉ cell

theorem read_csvStream {dialect : CsvDialect Char} {str : FloatNumber ℚ → String} {metric : ExportMetric}
    {rows : List Telemetry} (hheader : ∀ cell ∈ csvHeader, dialect.Keeps cell)
    (hrows : ∀ row ∈ rows, ∀ cell ∈ csvCells str metric row, dialect.Keeps cell) :
    dialect.read (csvStream dialect str metric rows).flatten =
      csvHeader :: rows.map (csvCells str metric) := by
  have hkeeps : ∀ record ∈ csvHeader :: rows.map (csvCells str metric), ∀ cell ∈ record,
      dialect.Keeps cell := by
    simp only [List.forall_mem_cons, List.forall_mem_map]
    exact ⟨hheader, hrows⟩
  rw [← read_rows hkeeps]
  apply congrArg dialect.read
  rw [csvStream, List.flatten_cons, List.flatMap_cons, List.flatMap_map, List.flatMap_def]

theorem exportTelemetry_eq_ok {parts : ExportParts} {select : Int → Int → Nat → List Telemetry}
    {request : ExportRequest} {response : CsvResponse}
    (h : exportTelemetry parts select request = .ok response) :
    ∃ username user metric rangeStart rangeEnd,
      decodeAccessToken parts.decode parts.now request.token = .ok username ∧
        parts.activeUser username = some user ∧ ExportMetric.ofText? request.metric = some metric ∧
        boundedRange parts.maxQueryDays parts.now request.start request.finish =
          .ok (rangeStart, rangeEnd) ∧
        response = exportFile parts request.deviceId metric
          (select (rangeStart.instantIn parts.zone) (rangeEnd.instantIn parts.zone) exportLimit) := by
  unfold exportTelemetry at h
  cases hdecode : decodeAccessToken parts.decode parts.now request.token with
  | error error =>
      rw [hdecode] at h
      cases h
  | ok username =>
      rw [hdecode] at h
      dsimp only at h
      cases huser : parts.activeUser username with
      | none =>
          rw [huser] at h
          cases h
      | some user =>
          rw [huser] at h
          cases hmetric : ExportMetric.ofText? request.metric with
          | none =>
              rw [hmetric] at h
              cases h
          | some metric =>
              rw [hmetric] at h
              dsimp only at h
              cases hrange : boundedRange parts.maxQueryDays parts.now request.start request.finish with
              | error error =>
                  rw [hrange] at h
                  cases h
              | ok range =>
                  rw [hrange] at h
                  exact ⟨username, user, metric, range.1, range.2, rfl, huser, rfl, rfl,
                    (Except.ok.inj h).symm⟩

/-- What the reader of an exported file gets. -/
structure ReadsExport (parts : ExportParts) (db : Database) (request : ExportRequest)
    (records : List (List (List Char))) : Prop where
  signedIn : ∃ username, decodeAccessToken parts.decode parts.now request.token = .ok username ∧
    (parts.activeUser username).isSome
  rows : ∃ metric rangeStart rangeEnd rows, metric.text = request.metric ∧
    boundedRange parts.maxQueryDays parts.now request.start request.finish = .ok (rangeStart, rangeEnd) ∧
    rangeEnd.moment - rangeStart.moment ≤ parts.maxQueryDays * 86400000000 ∧
    db.Oldest request.deviceId (rangeStart.instantIn parts.zone) (rangeEnd.instantIn parts.zone)
      exportLimit rows ∧
    records = csvHeader :: rows.map (csvCells parts.str metric)
  safe : ∀ record ∈ records, ∀ (column : Nat) (cell : List Char), record[column]? = some cell →
    column ≠ 3 → startsFormula cell = false

/-- **An exported file is read back.** -/
theorem export_read_back {parts : ExportParts} {db : Database}
    {select : Int → Int → Nat → List Telemetry} {request : ExportRequest} {response : CsvResponse}
    (hselect : ∀ start finish limit,
      db.Oldest request.deviceId start finish limit (select start finish limit))
    (hreturns : parts.KeepsReturns db)
    (hexport : exportTelemetry parts select request = .ok response) :
    ReadsExport parts db request ((excelDialect parts.quotesReturns).read response.text) := by
  obtain ⟨username, user, metric, rangeStart, rangeEnd, hdecode, huser, hmetric, hrange, rfl⟩ :=
    exportTelemetry_eq_ok hexport
  have hrows := hselect (rangeStart.instantIn parts.zone) (rangeEnd.instantIn parts.zone) exportLimit
  generalize select (rangeStart.instantIn parts.zone) (rangeEnd.instantIn parts.zone) exportLimit = rows
    at hrows
  have hstored : ∀ row ∈ rows, row ∈ db.telemetry := by
    obtain ⟨ordered, hperm, -, rfl⟩ := hrows
    intro row hrow
    exact List.mem_of_mem_filter (hperm.mem_iff.mp (List.mem_of_mem_take hrow))
  have hread : (excelDialect parts.quotesReturns).read
      (exportFile parts request.deviceId metric rows).text =
        csvHeader :: rows.map (csvCells parts.str metric) := by
    apply read_csvStream
    · exact fun cell hcell => .inr (return_not_mem_header cell hcell)
    · intro row hrow cell hcell
      apply hreturns.imp_right
      exact fun hnone => hnone row (hstored row hrow) metric cell hcell
  rw [hread]
  constructor
  · exact ⟨username, hdecode, Option.isSome_iff_exists.mpr ⟨user, huser⟩⟩
  · have hname := List.find?_some hmetric
    exact ⟨metric, rangeStart, rangeEnd, rows, of_decide_eq_true hname, hrange,
      (boundedRange_eq_ok hrange).2.2.2.2, hrows, rfl⟩
  · simp only [List.forall_mem_cons, List.forall_mem_map]
    constructor
    · exact fun column cell hcell _ => startsFormula_header cell (List.mem_of_getElem? hcell)
    · exact fun row _ column cell hcell hvalue => startsFormula_cell hcell hvalue

/-! ### A fault with commas and quotes -/

/-- A row whose fault is a formula with a comma and quotes. -/
def formulaRow : Telemetry where
  messageId := "12345678-1234-4234-8234-123456789abc"
  deviceId := "motor-1"
  siteId := "site-1"
  sequence := 1
  deviceTime := none
  receivedAt := 0
  clockSynchronized := false
  uptimeMs := 1000
  firmwareVersion := "0.1.0"
  quality := .good
  replayed := false
  measurements := ⟨some (.finite 25), none, none, none, none⟩
  sampleQuality := ⟨⟨"good", 10, 10, none⟩, ⟨"good", 10, 10, none⟩, ⟨"good", 10, 10, none⟩⟩
  faultFlags := ["=HYPERLINK(\"http://a\",1)"]

def formulaDatabase : Database := ⟨[formulaRow], fun _ => none, fun _ => none, []⟩

def exportParts : ExportParts where
  now := 1000000
  decode := fun _ token => some ⟨some token⟩
  activeUser := fun username => some ⟨⟨username, "admin"⟩, true⟩
  maxQueryDays := 31
  zone := id
  str := fun _ => "25.0"
  quotesReturns := true

def exportRequest : ExportRequest := ⟨"admin", "motor-1", "temperature_c", none, none⟩

def formulaSelect (start finish : Int) (limit : Nat) : List Telemetry :=
  (formulaDatabase.telemetry.filter fun row =>
    row.deviceId = exportRequest.deviceId && start ≤ row.receivedAt && row.receivedAt ≤ finish).take limit

theorem formulaRow_read_back : ∃ response, exportTelemetry exportParts formulaSelect exportRequest = .ok response ∧
    ReadsExport exportParts formulaDatabase exportRequest
      ((excelDialect exportParts.quotesReturns).read response.text) := by
  have hselect : ∀ start finish limit, formulaDatabase.Oldest exportRequest.deviceId start finish limit
      (formulaSelect start finish limit) := by
    intro start finish limit
    refine ⟨_, List.Perm.refl _, ?_, rfl⟩
    apply List.Pairwise.filter
    exact List.pairwise_singleton ..
  have hexport : ∃ response, exportTelemetry exportParts formulaSelect exportRequest = .ok response :=
    ⟨_, rfl⟩
  obtain ⟨response, hresponse⟩ := hexport
  exact ⟨response, hresponse, export_read_back hselect (.inl rfl) hresponse⟩

end IiotMonitoring
