import Mathlib.Data.List.Nodup

/-!
# Live events

`LiveConnectionManager` of `live.py`, and the loop of `listen_for_events` over the notifications of one
database connection. Other tasks run where a coroutine waits, so a send comes with the calls that they
make meanwhile. `events.py` notifies with objects only.
-/

namespace IiotMonitoring

/-- What `send_json` raises, `runtimeError` for the class with its subclasses. -/
inductive SendError where
  | runtimeError
  | webSocketDisconnect (code : Nat)
  | other (name : String)
  deriving DecidableEq, Repr

/-- A call that another task completes. -/
inductive ConnectionCall (Socket : Type) where
  | connect (websocket : Socket)
  | disconnect (websocket : Socket)
  deriving DecidableEq

/-- One `await websocket.send_json(event)`: the calls of other tasks before it ends, and how it ends. -/
structure Send (Socket : Type) where
  calls : List (ConnectionCall Socket)
  raised : Option SendError
  deriving DecidableEq

/-- The registered connections, and the sockets that were accepted. A socket is accepted once. -/
structure LiveConnectionManager (Socket : Type) where
  connections : List Socket
  accepted : List Socket
  nodup : connections.Nodup
  registered : ∀ websocket ∈ connections, websocket ∈ accepted

variable {Socket : Type} [DecidableEq Socket]

namespace LiveConnectionManager

def empty : LiveConnectionManager Socket := ⟨[], [], List.nodup_nil, fun _ h => h⟩

/-- `connect`. `accept` raises for a socket that was accepted before. -/
def connect (manager : LiveConnectionManager Socket) (websocket : Socket) :
    LiveConnectionManager Socket :=
  if hnew : websocket ∈ manager.accepted then
    manager
  else
    { connections := manager.connections ++ [websocket]
      accepted := websocket :: manager.accepted
      nodup := by
        refine manager.nodup.append (List.nodup_singleton websocket) fun other hold hother => ?_
        rw [List.mem_singleton.mp hother] at hold
        exact hnew (manager.registered websocket hold)
      registered := fun other hother => by
        rcases List.mem_append.mp hother with hold | hsame
        · exact .tail _ (manager.registered other hold)
        · rw [List.mem_singleton.mp hsame]
          exact .head _ }

/-- `disconnect`. -/
def disconnect (manager : LiveConnectionManager Socket) (websocket : Socket) :
    LiveConnectionManager Socket :=
  { manager with
    connections := manager.connections.erase websocket
    nodup := manager.nodup.erase websocket
    registered := fun other hother => manager.registered other (List.mem_of_mem_erase hother) }

def call (manager : LiveConnectionManager Socket) :
    ConnectionCall Socket → LiveConnectionManager Socket
  | .connect websocket => manager.connect websocket
  | .disconnect websocket => manager.disconnect websocket

/-- Calls one after the other. -/
def calls (manager : LiveConnectionManager Socket) (calls : List (ConnectionCall Socket)) :
    LiveConnectionManager Socket := calls.foldl call manager

end LiveConnectionManager

/-- The variables of `broadcast`, with the sockets that the event was sent to. -/
structure BroadcastState (Socket : Type) where
  manager : LiveConnectionManager Socket
  stale : List Socket
  delivered : List Socket

/-- The loop of `broadcast`, and the exception that leaves it. -/
def sendEach (sends : Socket → Send Socket) :
    List Socket → BroadcastState Socket → BroadcastState Socket × Option SendError
  | [], state => (state, none)
  | websocket :: rest, state =>
      let state := { state with manager := state.manager.calls (sends websocket).calls }
      match (sends websocket).raised with
      | none => sendEach sends rest { state with delivered := state.delivered ++ [websocket] }
      | some .runtimeError => sendEach sends rest { state with stale := state.stale ++ [websocket] }
      | some error => (state, some error)

/-- What a broadcast leaves. -/
structure Broadcast (Socket : Type) where
  manager : LiveConnectionManager Socket
  delivered : List Socket
  raised : Option SendError

/-- `broadcast`, by how the send to each socket goes. -/
def LiveConnectionManager.broadcast (manager : LiveConnectionManager Socket)
    (sends : Socket → Send Socket) : Broadcast Socket :=
  let (state, raised) := sendEach sends manager.connections ⟨manager, [], []⟩
  match raised with
  | none => ⟨state.stale.foldl disconnect state.manager, state.delivered, none⟩
  | some error => ⟨state.manager, state.delivered, some error⟩

/-- A notification: the calls of other tasks until it arrives, and how the sends of its event go. -/
structure Notification (Socket : Type) where
  before : List (ConnectionCall Socket)
  sends : Socket → Send Socket

/-- What `listen_for_events` has done: the broadcasts with the manager before each, the manager that is
left, and whether the connection was given up for a new one. -/
structure Listened (Socket : Type) where
  broadcasts : List (LiveConnectionManager Socket × Notification Socket × Broadcast Socket)
  manager : LiveConnectionManager Socket
  reconnecting : Bool

/-- The loop of `listen_for_events` over the notifications of a connection. -/
def listenForEvents (manager : LiveConnectionManager Socket) :
    List (Notification Socket) → Listened Socket
  | [] => ⟨[], manager, false⟩
  | notification :: rest =>
      let start := manager.calls notification.before
      let outcome := start.broadcast notification.sends
      match outcome.raised with
      | none =>
          let later := listenForEvents outcome.manager rest
          { later with broadcasts := (start, notification, outcome) :: later.broadcasts }
      | some _ => ⟨[(start, notification, outcome)], outcome.manager, true⟩

end IiotMonitoring
