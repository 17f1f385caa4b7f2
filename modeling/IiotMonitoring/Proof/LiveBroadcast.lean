import IiotMonitoring.Server.Live

/-!
# Fan-out to the browsers

A broadcast serves every connection that works and drops those that fail, as long as each failure is a
`RuntimeError`. Any other exception ends it, and with it the database connection.
-/

namespace IiotMonitoring

variable {Socket : Type} [DecidableEq Socket]

/-! ### One broadcast -/

/-- The send to a socket fails. -/
def Send.Fails (send : Send Socket) : Prop := send.raised ≠ none

/-- The exception is one that `broadcast` catches, if there is one. -/
def Send.Caught (send : Send Socket) : Prop :=
  send.raised = none ∨ send.raised = some .runtimeError

/-- The event reaches exactly the connections whose send does not fail, and beyond what other tasks do,
exactly the failed ones are removed. -/
structure ServesAll (start : LiveConnectionManager Socket) (sends : Socket → Send Socket)
    (outcome : Broadcast Socket) : Prop where
  delivered : ∀ websocket, websocket ∈ outcome.delivered ↔
    websocket ∈ start.connections ∧ ¬ (sends websocket).Fails
  registered : ∀ websocket, websocket ∈ outcome.manager.connections ↔
    websocket ∈ (start.calls (start.connections.flatMap fun other => (sends other).calls)).connections ∧
      ¬ (websocket ∈ start.connections ∧ (sends websocket).Fails)

/-- A broadcast that serves all connections ends without an exception. -/
def Completes (start : LiveConnectionManager Socket) (sends : Socket → Send Socket)
    (outcome : Broadcast Socket) : Prop :=
  outcome.raised = none ∧ ServesAll start sends outcome

theorem calls_append (manager : LiveConnectionManager Socket)
    (first second : List (ConnectionCall Socket)) :
    manager.calls (first ++ second) = (manager.calls first).calls second :=
  List.foldl_append

/-- The loop where every exception is caught: the calls of the other tasks, the failures and the
deliveries. -/
structure SendsEach (sends : Socket → Send Socket) (sockets : List Socket)
    (state left : BroadcastState Socket) : Prop where
  manager : left.manager = state.manager.calls (sockets.flatMap fun other => (sends other).calls)
  stale : ∀ websocket, websocket ∈ left.stale ↔
    websocket ∈ state.stale ∨ websocket ∈ sockets ∧ (sends websocket).Fails
  delivered : ∀ websocket, websocket ∈ left.delivered ↔
    websocket ∈ state.delivered ∨ websocket ∈ sockets ∧ ¬ (sends websocket).Fails

theorem sendEach_caught {sends : Socket → Send Socket} {sockets : List Socket}
    (state : BroadcastState Socket) (hcaught : ∀ websocket ∈ sockets, (sends websocket).Caught) :
    ∃ left, sendEach sends sockets state = (left, none) ∧ SendsEach sends sockets state left := by
  induction sockets generalizing state with
  | nil => exact ⟨state, rfl, rfl, by simp, by simp⟩
  | cons websocket rest ih =>
      have hrest : ∀ other ∈ rest, (sends other).Caught :=
        fun other hother => hcaught other (.tail _ hother)
      rcases hcaught websocket List.mem_cons_self with hsent | hfailed
      · obtain ⟨left, hleft, hmanager, hstale, hdelivered⟩ := ih
          { state with
            manager := state.manager.calls (sends websocket).calls
            delivered := state.delivered ++ [websocket] } hrest
        have hworks : ¬ (sends websocket).Fails := not_not.mpr hsent
        refine ⟨left, ?_, ?_, fun other => ?_, fun other => ?_⟩
        · rw [sendEach, hsent]
          exact hleft
        · rw [hmanager, List.flatMap_cons, calls_append]
        · rw [hstale, List.mem_cons, or_and_right]
          constructor
          · exact Or.imp_right Or.inr
          · rintro (h | ⟨rfl, h⟩ | h)
            · exact .inl h
            · exact absurd h hworks
            · exact .inr h
        · rw [hdelivered, List.mem_append, List.mem_singleton, List.mem_cons, or_and_right, or_assoc]
          apply or_congr_right
          apply or_congr_left
          exact ⟨fun h => ⟨h, h ▸ hworks⟩, fun h => h.1⟩
      · obtain ⟨left, hleft, hmanager, hstale, hdelivered⟩ := ih
          { state with
            manager := state.manager.calls (sends websocket).calls
            stale := state.stale ++ [websocket] } hrest
        have hfails : (sends websocket).Fails := by
          unfold Send.Fails
          rw [hfailed]
          exact Option.some_ne_none _
        refine ⟨left, ?_, ?_, fun other => ?_, fun other => ?_⟩
        · rw [sendEach, hfailed]
          exact hleft
        · rw [hmanager, List.flatMap_cons, calls_append]
        · rw [hstale, List.mem_append, List.mem_singleton, List.mem_cons, or_and_right, or_assoc]
          apply or_congr_right
          apply or_congr_left
          exact ⟨fun h => ⟨h, h ▸ hfails⟩, fun h => h.1⟩
        · rw [hdelivered, List.mem_cons, or_and_right]
          constructor
          · exact Or.imp_right Or.inr
          · rintro (h | ⟨rfl, h⟩ | h)
            · exact .inl h
            · exact absurd hfails h
            · exact .inr h

/-- Any other exception leaves the loop. -/
theorem sendEach_raises {sends : Socket → Send Socket} {sockets : List Socket}
    (state : BroadcastState Socket) (hraises : ∃ websocket ∈ sockets, ¬ (sends websocket).Caught) :
    (sendEach sends sockets state).2 ≠ none := by
  induction sockets generalizing state with
  | nil =>
      obtain ⟨websocket, hmem, -⟩ := hraises
      cases hmem
  | cons websocket rest ih =>
      have hlater : (sends websocket).Caught → ∃ other ∈ rest, ¬ (sends other).Caught := by
        intro hcaught
        obtain ⟨other, hmem, hother⟩ := hraises
        rcases List.mem_cons.mp hmem with rfl | hmem
        · exact absurd hcaught hother
        · exact ⟨other, hmem, hother⟩
      rw [sendEach]
      cases hraised : (sends websocket).raised with
      | none => exact ih _ (hlater (.inl hraised))
      | some error =>
          cases error with
          | runtimeError => exact ih _ (hlater (.inr hraised))
          | webSocketDisconnect code => exact Option.some_ne_none _
          | other name => exact Option.some_ne_none _

/-- Removing sockets removes no other. -/
theorem mem_disconnected {stale : List Socket} (manager : LiveConnectionManager Socket)
    {websocket : Socket} :
    websocket ∈ (stale.foldl LiveConnectionManager.disconnect manager).connections ↔
      websocket ∈ manager.connections ∧ websocket ∉ stale := by
  induction stale generalizing manager with
  | nil => simp
  | cons first rest ih =>
      rw [List.foldl_cons, ih, LiveConnectionManager.disconnect]
      dsimp only
      rw [manager.nodup.mem_erase_iff, List.mem_cons, not_or]
      tauto

theorem broadcast_raised (start : LiveConnectionManager Socket) (sends : Socket → Send Socket) :
    (start.broadcast sends).raised = (sendEach sends start.connections ⟨start, [], []⟩).2 := by
  unfold LiveConnectionManager.broadcast
  cases h : sendEach sends start.connections ⟨start, [], []⟩ with
  | mk state raised =>
      cases raised with
      | none => rfl
      | some error => rfl

/-- A broadcast completes if and only if every exception is one that it catches. -/
theorem broadcast_completes_iff (start : LiveConnectionManager Socket)
    (sends : Socket → Send Socket) :
    Completes start sends (start.broadcast sends) ↔
      ∀ websocket ∈ start.connections, (sends websocket).Caught := by
  constructor
  · rintro ⟨hnone, -⟩ websocket hmem
    by_contra hother
    rw [broadcast_raised] at hnone
    exact sendEach_raises ⟨start, [], []⟩ ⟨websocket, hmem, hother⟩ hnone
  · intro hcaught
    obtain ⟨left, hleft, heach⟩ := sendEach_caught ⟨start, [], []⟩ hcaught
    unfold LiveConnectionManager.broadcast
    rw [hleft]
    refine ⟨rfl, fun websocket => ?_, fun websocket => ?_⟩
    · rw [heach.delivered]
      simp only [List.not_mem_nil, false_or]
    · rw [mem_disconnected, heach.manager, heach.stale]
      simp only [List.not_mem_nil, false_or]

/-! ### The listener -/

/-- Every notification is broadcast to all connections, and the database connection is kept. -/
structure ServesNotifications (notifications : List (Notification Socket)) (listened : Listened Socket) :
    Prop where
  notified : listened.broadcasts.map (fun entry => entry.2.1) = notifications
  completes : ∀ entry ∈ listened.broadcasts, Completes entry.1 entry.2.1.sends entry.2.2
  listening : listened.reconnecting = false

/-- Every send of the run that raises raises a `RuntimeError`. -/
def SendsCaught (manager : LiveConnectionManager Socket) : List (Notification Socket) → Prop
  | [] => True
  | notification :: rest =>
      (∀ websocket ∈ (manager.calls notification.before).connections,
        (notification.sends websocket).Caught) ∧
      SendsCaught ((manager.calls notification.before).broadcast notification.sends).manager rest

/-- **One failure does not silence the others** if and only if it is a `RuntimeError`: a run of the
listener serves all of its notifications exactly where no send raises another exception. -/
theorem listen_serves_iff (manager : LiveConnectionManager Socket)
    (notifications : List (Notification Socket)) :
    ServesNotifications notifications (listenForEvents manager notifications) ↔
      SendsCaught manager notifications := by
  induction notifications generalizing manager with
  | nil => exact ⟨fun _ => trivial, fun _ => ⟨rfl, by simp [listenForEvents], rfl⟩⟩
  | cons notification rest ih =>
      have hone := broadcast_completes_iff (manager.calls notification.before) notification.sends
      rw [SendsCaught, ← hone, ← ih, listenForEvents]
      cases hraised : ((manager.calls notification.before).broadcast notification.sends).raised with
      | none =>
          constructor
          · intro h
            have hrest := (List.cons.inj h.notified).2
            exact ⟨h.completes _ (.head _), hrest, fun entry hentry => h.completes entry (.tail _ hentry),
              h.listening⟩
          · rintro ⟨hfirst, hnotified, hcompletes, hlistening⟩
            refine ⟨?_, ?_, hlistening⟩
            · exact congrArg (notification :: ·) hnotified
            · rintro entry (_ | ⟨_, hentry⟩)
              · exact hfirst
              · exact hcompletes entry hentry
      | some error =>
          apply iff_of_false
          · intro h
            cases h.listening
          · rintro ⟨⟨hnone, -⟩, -⟩
            cases hraised.symm.trans hnone

/-! ### A browser that is gone -/

/-- Two browsers, of which the first has disconnected. -/
def twoBrowsers : LiveConnectionManager Nat := (LiveConnectionManager.empty.connect 0).connect 1

def goneSends (websocket : Nat) : Send Nat :=
  ⟨[], if websocket = 0 then some (.webSocketDisconnect 1006) else none⟩

/-- The second one does not get the event, and the first one stays registered. -/
theorem gone_not_serves :
    1 ∉ (twoBrowsers.broadcast goneSends).delivered ∧
      0 ∈ (twoBrowsers.broadcast goneSends).manager.connections ∧
      ¬ ServesNotifications [⟨[], goneSends⟩] (listenForEvents twoBrowsers [⟨[], goneSends⟩]) := by
  refine ⟨by decide, by decide, fun h => ?_⟩
  exact absurd h.listening (by decide)

end IiotMonitoring
