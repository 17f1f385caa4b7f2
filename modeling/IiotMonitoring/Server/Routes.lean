import IiotMonitoring.Lib.Json

/-!
# The routes of the API

The routes that `create_app` of `main.py` declares, in their order, and how a request finds one.
-/

namespace IiotMonitoring

/-- A segment of a route's path: a literal, or a parameter, which is one or more characters without a
slash. -/
inductive PathPart where
  | literal (text : String)
  | parameter (name : String)
  deriving DecidableEq, Repr

inductive RouteProtocol where
  | http (method : String)
  | websocket
  deriving DecidableEq, Repr

structure ApiRoute where
  protocol : RouteProtocol
  path : List PathPart
  /-- The endpoint depends on `get_current_user`. -/
  currentUser : Bool
  deriving DecidableEq, Repr

/-- A route under `/api/v1` with a `CurrentUser`. -/
def userRoute (method : String) (path : List PathPart) : ApiRoute :=
  ⟨.http method, .literal "api" :: .literal "v1" :: path, true⟩

/-- A route under `/api/v1/devices/` of one device. -/
def deviceRoute (method : String) (path : List String) : ApiRoute :=
  userRoute method (.literal "devices" :: .parameter "device_id" :: path.map .literal)

def apiRoutes : List ApiRoute :=
  [⟨.http "GET", [.literal "healthz"], false⟩,
    ⟨.http "POST", [.literal "api", .literal "v1", .literal "auth", .literal "token"], false⟩,
    userRoute "GET" [.literal "auth", .literal "me"],
    userRoute "GET" [.literal "devices"],
    deviceRoute "GET" [],
    deviceRoute "GET" ["telemetry"],
    deviceRoute "GET" ["anomaly-model"],
    ⟨.http "POST", [.literal "internal", .literal "v1", .literal "telemetry"], false⟩,
    userRoute "GET" [.literal "alarms"],
    userRoute "GET" [.literal "anomaly", .literal "evaluation-demo"],
    userRoute "POST" [.literal "alarms", .parameter "alarm_id", .literal "acknowledge"],
    deviceRoute "GET" ["calibrations"],
    deviceRoute "POST" ["calibrations"],
    deviceRoute "GET" ["maintenance"],
    deviceRoute "POST" ["maintenance"],
    userRoute "PATCH" [.literal "maintenance", .parameter "record_id"],
    deviceRoute "GET" ["thresholds"],
    deviceRoute "PUT" ["thresholds"],
    deviceRoute "POST" ["commands", "relay"],
    deviceRoute "GET" ["commands"],
    deviceRoute "GET" ["export.csv"],
    ⟨.websocket, [.literal "api", .literal "v1", .literal "ws"], false⟩]

def partsMatch : List PathPart → List Text → Bool
  | [], [] => true
  | .literal text :: parts, segment :: segments => segment = codes text && partsMatch parts segments
  | .parameter _ :: parts, segment :: segments => segment ≠ [] && partsMatch parts segments
  | _, _ => false

/-- The path of a request, from its first slash on, is that of the route. -/
def ApiRoute.matchesPath (route : ApiRoute) (path : Text) : Bool :=
  path.head? = some 47 && partsMatch route.path ((path.drop 1).splitOn 47)

/-- The route that serves an HTTP request: the first that matches it. -/
def findRoute (method : String) (path : Text) : Option ApiRoute :=
  apiRoutes.find? fun route => route.protocol = .http method && route.matchesPath path

end IiotMonitoring
