import Mathlib.Data.List.DropRight
import IiotMonitoring.Lib.Run
import IiotMonitoring.Server.Live
import IiotMonitoring.Server.Operators

/-!
# Access to the live events

Signing in, and `live_events` of `main.py` with the credentials that it takes from a WebSocket's headers.
Endpoints, broadcasts, sign-ins and changes of the users run side by side, one step from one `await` to
the next. The header values are those of an HTTP request, so that `str.lower` changes no character outside
ASCII into one of `bearer`.
-/

namespace IiotMonitoring

/-! ### Credentials -/

/-- `str.isspace`. -/
def isPythonSpace (character : Char) : Bool :=
  let code := character.toNat
  (9 ≤ code && code ≤ 13) || (28 ≤ code && code ≤ 32) || code = 133 || code = 160 || code = 5760 ||
    (8192 ≤ code && code ≤ 8202) || code = 8232 || code = 8233 || code = 8239 || code = 8287 ||
    code = 12288

def pythonStrip (text : List Char) : List Char := (text.dropWhile isPythonSpace).rdropWhile isPythonSpace

def bearerSubprotocolToken (header : Option String) : Option String :=
  match header.map fun header => (header.toList.splitOn ',').map pythonStrip with
  | some [scheme, token] =>
      if scheme.map Char.toLower = "bearer".toList ∧ token ≠ [] ∧ token.length ≤ 4096 then
        some (String.ofList token)
      else
        none
  | _ => none

/-- `Settings.allowed_origins`. -/
def allowedOrigins (corsOrigins : String) : List String :=
  ((corsOrigins.toList.splitOn ',').map pythonStrip).filterMap fun origin =>
    if origin = [] then none else some (String.ofList origin)

def websocketOriginIsAllowed (origin : Option String) (allowed : List String) : Bool :=
  origin.all allowed.contains

/-- The headers and the cookie of a WebSocket that the endpoint reads. -/
structure LiveRequest where
  origin : Option String
  subprotocols : Option String
  sessionCookie : Option String

/-- The cookie counts only for a page of an allowed origin. -/
def LiveRequest.credential (allowed : List String) (request : LiveRequest) : Option String :=
  match bearerSubprotocolToken request.subprotocols with
  | some token => some token
  | none => if request.origin.any allowed.contains then request.sessionCookie else none

/-- `websocket.close`. -/
structure LiveClose where
  code : Nat
  reason : String
  deriving DecidableEq, Repr

/-- `live_events` up to its query, with the name of the user or how it closes the socket. -/
def LiveRequest.username (decode : JwtDecode) (now : Int) (allowed : List String) (request : LiveRequest) :
    Except LiveClose String :=
  if websocketOriginIsAllowed request.origin allowed then
    match request.credential allowed with
    | none => .error ⟨4401, "Missing WebSocket credential"⟩
    | some token =>
        match decodeAccessToken decode now token with
        | .error _ => .error ⟨4401, "Invalid access token"⟩
        | .ok username => .ok username
  else
    .error ⟨4403, "Origin not allowed"⟩

/-! ### Signing in -/

structure PasswordAccount extends Account where
  passwordHash : String
  deriving DecidableEq

/-- `select(User).where(User.username == username, User.active.is_(True))`. -/
def activeAccount (users : List PasswordAccount) (username : String) : Option PasswordAccount :=
  users.find? fun account => account.username = username && account.active

/-- The claims of an access token, with its times in seconds. -/
structure TokenClaims where
  sub : String
  iat : Int
  exp : Int

/-- The library that signs and checks tokens under the secret, the one that checks passwords, and the
settings. `verify` is `none` where it raises anything but a mismatch. -/
structure LiveParts where
  encode : TokenClaims → String
  decode : JwtDecode
  verify : String → String → Option Bool
  corsOrigins : String
  accessTokenMinutes : Nat

namespace LiveParts

variable (parts : LiveParts)

def allowed : List String := allowedOrigins parts.corsOrigins

/-- `create_access_token`. -/
def createAccessToken (now : Int) (username : String) : String :=
  parts.encode ⟨username, now / 1000000, (now + parts.accessTokenMinutes * 60000000) / 1000000⟩

def login (now : Int) (users : List PasswordAccount) (username password : String) :
    Except RouteError String :=
  match activeAccount users username with
  | none => .error (.unauthorized "Incorrect username or password")
  | some account =>
      match parts.verify password account.passwordHash with
      | none => .error .serverError
      | some false => .error (.unauthorized "Incorrect username or password")
      | some true => .ok (parts.createAccessToken now account.username)

end LiveParts

/-! ### Endpoints side by side -/

/-- A sign-in that succeeded, which nothing reads. -/
structure SignIn where
  account : PasswordAccount
  password : String
  time : Int
  token : String

/-- What an endpoint found of its request: the name in the token, and when the token was read. -/
structure LiveGrant where
  request : LiveRequest
  username : String
  decodedAt : Int

/-- Where an endpoint is. `account` is the row that its query found. -/
inductive LiveStage where
  | decoded (grant : LiveGrant)
  | admitted (grant : LiveGrant) (account : PasswordAccount)
  | connected (grant : LiveGrant) (account : PasswordAccount)
  | closed (close : LiveClose)

/-- The locals of `broadcast`: the sockets it has not come to, and those that raised. -/
structure LiveBroadcast (Socket : Type) where
  remaining : List Socket
  stale : List Socket

structure LiveServer (Socket : Type) where
  now : Int
  users : List PasswordAccount
  signIns : List SignIn
  stages : Socket → Option LiveStage
  manager : LiveConnectionManager Socket
  broadcast : Option (LiveBroadcast Socket)
  delivered : List Socket

inductive LiveLabel (Socket : Type) where
  | clock (now : Int)
  | users (users : List PasswordAccount)
  | login (username password : String)
  | opened (socket : Socket) (request : LiveRequest)
  | queried (socket : Socket)
  | registered (socket : Socket)
  | left (socket : Socket)
  | notified
  | sent (raised : Option SendError)
  | finished

namespace LiveServer

variable {Socket : Type}

def start (now : Int) (users : List PasswordAccount) : LiveServer Socket :=
  ⟨now, users, [], fun _ => none, ⟨[], [], List.nodup_nil, fun _ h => h⟩, none, []⟩

variable [DecidableEq Socket]

def setStage (state : LiveServer Socket) (socket : Socket) (stage : LiveStage) : LiveServer Socket :=
  { state with stages := Function.update state.stages socket (some stage) }

end LiveServer

section Steps

variable {Socket : Type} [DecidableEq Socket] (parts : LiveParts)

/-- What an endpoint decides about its headers. -/
def LiveServer.openStage (state : LiveServer Socket) (request : LiveRequest) : LiveStage :=
  match request.username parts.decode state.now parts.allowed with
  | .error close => .closed close
  | .ok username => .decoded ⟨request, username, state.now⟩

/-- What it decides about its user. -/
def LiveServer.queryStage (state : LiveServer Socket) (grant : LiveGrant) : LiveStage :=
  match activeAccount state.users grant.username with
  | none => .closed ⟨4403, "Inactive user"⟩
  | some account => .admitted grant account

inductive LiveStep : LiveServer Socket → LiveLabel Socket → LiveServer Socket → Prop where
  | clock {state : LiveServer Socket} {now : Int} : LiveStep state (.clock now) { state with now := now }
  /-- Users are added, changed and removed. -/
  | users {state : LiveServer Socket} {users : List PasswordAccount} :
      LiveStep state (.users users) { state with users := users }
  | login {state : LiveServer Socket} {username password token : String} {account : PasswordAccount}
      (haccount : activeAccount state.users username = some account)
      (hlogin : parts.login state.now state.users username password = .ok token) :
      LiveStep state (.login username password)
        { state with signIns := state.signIns ++ [⟨account, password, state.now, token⟩] }
  | opened {state : LiveServer Socket} {socket : Socket} {request : LiveRequest}
      (hnew : state.stages socket = none) :
      LiveStep state (.opened socket request) (state.setStage socket (state.openStage parts request))
  | queried {state : LiveServer Socket} {socket : Socket} {grant : LiveGrant}
      (hstage : state.stages socket = some (.decoded grant)) :
      LiveStep state (.queried socket) (state.setStage socket (state.queryStage grant))
  | registered {state : LiveServer Socket} {socket : Socket} {grant : LiveGrant}
      {account : PasswordAccount} (hstage : state.stages socket = some (.admitted grant account)) :
      LiveStep state (.registered socket)
        { state.setStage socket (.connected grant account) with
          manager := state.manager.connect socket }
  | left {state : LiveServer Socket} {socket : Socket} {grant : LiveGrant} {account : PasswordAccount}
      (hstage : state.stages socket = some (.connected grant account)) :
      LiveStep state (.left socket) { state with manager := state.manager.disconnect socket }
  | notified {state : LiveServer Socket} (hidle : state.broadcast = none) :
      LiveStep state .notified { state with broadcast := some ⟨state.manager.connections, []⟩ }
  | sent {state : LiveServer Socket} {socket : Socket} {remaining stale : List Socket}
      (hbroadcast : state.broadcast = some ⟨socket :: remaining, stale⟩) :
      LiveStep state (.sent none)
        { state with
          broadcast := some ⟨remaining, stale⟩
          delivered := state.delivered ++ [socket] }
  | failed {state : LiveServer Socket} {socket : Socket} {remaining stale : List Socket}
      (hbroadcast : state.broadcast = some ⟨socket :: remaining, stale⟩) :
      LiveStep state (.sent (some .runtimeError))
        { state with broadcast := some ⟨remaining, stale ++ [socket]⟩ }
  /-- Another exception leaves the broadcast. -/
  | raised {state : LiveServer Socket} {broadcast : LiveBroadcast Socket} {error : SendError}
      (hbroadcast : state.broadcast = some broadcast) (herror : error ≠ .runtimeError) :
      LiveStep state (.sent (some error)) { state with broadcast := none }
  | finished {state : LiveServer Socket} {stale : List Socket}
      (hbroadcast : state.broadcast = some ⟨[], stale⟩) :
      LiveStep state .finished
        { state with
          broadcast := none
          manager := stale.foldl LiveConnectionManager.disconnect state.manager }

/-- No one else has the secret: a token that a client presents, and that is taken, is one that was
issued. -/
def Unforged (state : LiveServer Socket) : LiveLabel Socket → Prop
  | .opened _ request => ∀ token, request.credential parts.allowed = some token →
      (parts.decode state.now token).isSome → ∃ signIn ∈ state.signIns, signIn.token = token
  | _ => True

/-- A run from a server that no one has signed in to. -/
abbrev LiveRun (now : Int) (users : List PasswordAccount) :
    List (LiveLabel Socket) → LiveServer Socket → Prop :=
  Trail (fun state label after => LiveStep parts state label after ∧ Unforged parts state label)
    (.start now users)

end Steps

end IiotMonitoring
