import IiotMonitoring.Server.Contract

/-!
# The proxy to the API

`route.ts` of the dashboard's `api/backend`: the requests it allows, and what it does with a request. The
segments of a path are decoded.
-/

namespace IiotMonitoring.Web

/-- `DEVICE_ID`, `^[a-z0-9][a-z0-9-]{0,62}$`. -/
def deviceId (text : Text) : Bool := identifierPattern text

def isDecimalDigit (code : Nat) : Bool := 48 ≤ code && code ≤ 57

/-- `RECORD_ID`, `^[1-9][0-9]{0,10}$`. -/
def recordId : Text → Bool
  | [] => false
  | head :: tail => isDecimalDigit head && head ≠ 48 && tail.all isDecimalDigit && tail.length ≤ 10

/-- What can be read of a device. -/
def deviceReads : List String :=
  ["telemetry", "anomaly-model", "calibrations", "maintenance", "thresholds", "commands", "export.csv"]

/-- `segments[index]` is the literal. -/
def segmentIs (segments : List Text) (index : Nat) (literal : String) : Bool :=
  segments[index]? = some (codes literal)

def requestIsAllowed (method : String) (segments : List Text) : Bool :=
  if method = "GET" && segments.length = 2 && segmentIs segments 0 "auth" &&
      segmentIs segments 1 "me" then
    true
  else if segmentIs segments 0 "devices" then
    if method = "GET" && segments.length = 1 then
      true
    else if !deviceId (segments.getD 1 []) then
      false
    else if method = "GET" && segments.length = 2 then
      true
    else if method = "GET" && segments.length = 3 && deviceReads.any (segmentIs segments 2) then
      true
    else if method = "POST" && segments.length = 3 &&
        ["calibrations", "maintenance"].any (segmentIs segments 2) then
      true
    else if method = "PUT" && segments.length = 3 && segmentIs segments 2 "thresholds" then
      true
    else if method = "POST" && segments.length = 4 && segmentIs segments 2 "commands" &&
        segmentIs segments 3 "relay" then
      true
    else
      false
  else if method = "GET" && segments.length = 2 && segmentIs segments 0 "anomaly" &&
      segmentIs segments 1 "evaluation-demo" then
    true
  else if segmentIs segments 0 "alarms" then
    if method = "GET" && segments.length = 1 then
      true
    else
      method = "POST" && segments.length = 3 && recordId (segments.getD 1 []) &&
        segmentIs segments 2 "acknowledge"
  else
    method = "PATCH" && segments.length = 2 && segmentIs segments 0 "maintenance" &&
      recordId (segments.getD 1 [])

/-- The path that is joined of the segments. -/
def backendPath (segments : List Text) : Text := codes "/api/v1/" ++ [47].intercalate segments

/-- What `forward` reads of a request. -/
structure ProxyRequest where
  method : String
  segments : List Text
  origin : Option String
  token : Option String

/-- A refusal, or the method and the path that are fetched from the API. -/
inductive Forwarded where
  | notAllowed
  | crossOrigin
  | unauthenticated
  | fetched (method : String) (path : Text)
  deriving DecidableEq

/-- `forward`, up to the fetch. An empty token counts as none. -/
def forward (isSameOrigin : String → Bool) (request : ProxyRequest) : Forwarded :=
  if !requestIsAllowed request.method request.segments then
    .notAllowed
  else if !(["GET", "HEAD"].contains request.method) &&
      request.origin.any fun origin => !isSameOrigin origin then
    .crossOrigin
  else if request.token.all (· = "") then
    .unauthenticated
  else
    .fetched request.method (backendPath request.segments)

end IiotMonitoring.Web
