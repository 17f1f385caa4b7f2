import IiotMonitoring.Lib.Csv
import IiotMonitoring.Server.CommandPayload
import IiotMonitoring.Server.Operators

/-!
# Telemetry of a time range

`bounded_range` and `export_telemetry` of `main.py`. The file is what the chunks of the response are
together. The `csv.writer` of the Python that the image is built on quotes a field with a carriage
return; that of older releases does so only where the line terminator has one.
-/

namespace IiotMonitoring

/-! ### Ranges -/

/-- A `datetime` of a query: its fields in microseconds since 1970, and its offset from UTC. -/
structure QueryTime where
  fields : Int
  offset : Option Int
  deriving DecidableEq, Repr

namespace QueryTime

/-- The order and the difference of two values are of this, for two of the same kind. -/
def moment (time : QueryTime) : Int := time.fields - time.offset.getD 0

/-- `self - other` in microseconds, which raises `TypeError` for a naive and an aware value, as `<=`
does. -/
def minus? (time other : QueryTime) : Option Int :=
  if time.offset.isSome = other.offset.isSome then some (time.moment - other.moment) else none

/-- `self - timedelta(hours=24)`, which raises `OverflowError`. -/
def dayBefore? (time : QueryTime) : Option QueryTime :=
  if datetimeMin ≤ time.fields - 86400000000 then some { time with fields := time.fields - 86400000000 }
  else none

/-- What the column is compared with. -/
def instantIn (zone : Int → Int) (time : QueryTime) : Int :=
  if time.offset.isSome then time.moment else zone time.fields

/-- `start or range_end - timedelta(hours=24)`. -/
def orDayBefore? (start : Option QueryTime) (rangeEnd : QueryTime) : Option QueryTime :=
  match start with
  | some start => some start
  | none => rangeEnd.dayBefore?

end QueryTime

def boundedRange (maxQueryDays : Nat) (now : Int) (start finish : Option QueryTime) :
    Except RouteError (QueryTime × QueryTime) :=
  let rangeEnd := finish.getD ⟨now, some 0⟩
  match QueryTime.orDayBefore? start rangeEnd with
  | none => .error .serverError
  | some rangeStart =>
      match rangeEnd.minus? rangeStart with
      | none => .error .serverError
      | some span =>
          if span ≤ 0 then .error (.unprocessable "end must be after start")
          else if maxQueryDays * 86400000000 < span then
            .error (.unprocessable "requested time range is too large")
          else .ok (rangeStart, rangeEnd)

/-! ### The file -/

inductive ExportMetric where
  | temperatureC | vibrationRmsMps2 | vibrationPeakMps2 | currentA
  deriving DecidableEq, Repr

namespace ExportMetric

def text : ExportMetric → String
  | temperatureC => "temperature_c"
  | vibrationRmsMps2 => "vibration_rms_mps2"
  | vibrationPeakMps2 => "vibration_peak_mps2"
  | currentA => "current_a"

/-- The `Literal` of the query. -/
def ofText? (text : String) : Option ExportMetric :=
  [temperatureC, vibrationRmsMps2, vibrationPeakMps2, currentA].find? (·.text = text)

/-- `getattr(row, metric)`. -/
def value (metric : ExportMetric) (measurements : Measurements) : Option (FloatNumber ℚ) :=
  match metric with
  | temperatureC => measurements.temperatureC
  | vibrationRmsMps2 => measurements.vibrationRmsMps2
  | vibrationPeakMps2 => measurements.vibrationPeakMps2
  | currentA => measurements.currentA

end ExportMetric

/-- The characters that a spreadsheet takes for the start of a formula. -/
def formulaStarts : List Char := ['=', '+', '-', '@', '\t', '\r']

def startsFormula (value : List Char) : Bool := value.head?.any fun first => formulaStarts.contains first

def safeCsvText (value : List Char) : List Char :=
  if startsFormula value then '\'' :: value else value

/-- The dialect `excel` with the line terminator of the route. -/
def excelDialect (quotesReturns : Bool) : CsvDialect Char where
  delimiter := ','
  quote := '"'
  lineFeed := '\n'
  carriageReturn := '\r'
  quotesReturns := quotesReturns
  distinct := by decide

def csvHeader : List (List Char) :=
  ["device_id", "received_at_utc", "metric", "value", "quality", "fault_flags"].map String.toList

/-- The row of the file, where `str` gives the text of a `float`. -/
def csvCells (str : FloatNumber ℚ → String) (metric : ExportMetric) (row : Telemetry) : List (List Char) :=
  [safeCsvText row.deviceId.toList, utcIsoformat row.receivedAt, metric.text.toList,
    ((metric.value row.measurements).map fun value => (str value).toList).getD [],
    safeCsvText row.quality.text.toList, safeCsvText ("|".intercalate row.faultFlags).toList]

/-- What `csv_stream` yields. -/
def csvStream (dialect : CsvDialect Char) (str : FloatNumber ℚ → String) (metric : ExportMetric)
    (rows : List Telemetry) : List (List Char) :=
  dialect.writeRow csvHeader :: rows.map fun row => dialect.writeRow (csvCells str metric row)

structure CsvResponse where
  filename : String
  chunks : List (List Char)

def CsvResponse.text (response : CsvResponse) : List Char := response.chunks.flatten

/-! ### The route -/

structure ExportRequest where
  token : String
  deviceId : String
  metric : String
  start : Option QueryTime
  finish : Option QueryTime

/-- What the route uses: the clock, `jwt.decode`, the users, the settings, the zone of the session, the
text of a float and the kind of `csv.writer`. -/
structure ExportParts where
  now : Int
  decode : JwtDecode
  activeUser : String → Option Account
  maxQueryDays : Nat
  zone : Int → Int
  str : FloatNumber ℚ → String
  quotesReturns : Bool

def exportLimit : Nat := 10000

/-- The rows of a device in a range, from the oldest on. Rows of the same time come in any order. -/
def Database.Oldest (db : Database) (deviceId : String) (start finish : Int) (limit : Nat)
    (rows : List Telemetry) : Prop :=
  ∃ ordered : List Telemetry,
    ordered.Perm (db.telemetry.filter fun row =>
      row.deviceId = deviceId && start ≤ row.receivedAt && row.receivedAt ≤ finish) ∧
      (ordered.Pairwise fun earlier later => earlier.receivedAt ≤ later.receivedAt) ∧
      rows = ordered.take limit

/-- The response with its rows. -/
def exportFile (parts : ExportParts) (deviceId : String) (metric : ExportMetric) (rows : List Telemetry) :
    CsvResponse where
  filename := deviceId ++ "-" ++ metric.text ++ ".csv"
  chunks := csvStream (excelDialect parts.quotesReturns) parts.str metric rows

/-- `export_telemetry`, where `select` is the answer of the query to its bounds and its limit. -/
def exportTelemetry (parts : ExportParts) (select : Int → Int → Nat → List Telemetry)
    (request : ExportRequest) : Except RouteError CsvResponse :=
  match decodeAccessToken parts.decode parts.now request.token with
  | .error error => .error error
  | .ok username =>
      match parts.activeUser username, ExportMetric.ofText? request.metric with
      | none, _ => .error (.unauthorized "User is inactive")
      | some _, none => .error .invalid
      | some _, some metric =>
          match boundedRange parts.maxQueryDays parts.now request.start request.finish with
          | .error error => .error error
          | .ok (rangeStart, rangeEnd) =>
              .ok (exportFile parts request.deviceId metric
                (select (rangeStart.instantIn parts.zone) (rangeEnd.instantIn parts.zone) exportLimit))

end IiotMonitoring
