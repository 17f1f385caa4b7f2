import IiotMonitoring.Server.LiveAccess

/-!
# Who gets the live events

An event goes only to a socket whose endpoint found an active user by a token that a sign-in with that
user's password had returned, whatever else the endpoints, the broadcasts and the sign-ins do meanwhile.
A page of an origin that is not allowed gets none, nor does one whose only credential is a cookie.
-/

namespace IiotMonitoring

/-! ### Tokens -/

/-- A token is taken from when it is issued until it expires, and names its user. -/
structure LiveParts.SignsTokens (parts : LiveParts) : Prop where
  decode_encode : ∀ now claims, parts.decode now (parts.encode claims) =
    if claims.iat * 1000000 ≤ now ∧ now < claims.exp * 1000000 then some ⟨some claims.sub⟩ else none

variable {parts : LiveParts}

/-- The sign-in was made with the password of an active user. -/
structure SignIn.Earned (parts : LiveParts) (signIn : SignIn) : Prop where
  password : parts.verify signIn.password signIn.account.passwordHash = some true
  active : signIn.account.active = true
  token : signIn.token = parts.createAccessToken signIn.time signIn.account.username

theorem activeAccount_eq_some {users : List PasswordAccount} {username : String}
    {account : PasswordAccount} (h : activeAccount users username = some account) :
    account ∈ users ∧ account.username = username ∧ account.active = true := by
  have hfound := List.find?_some h
  rw [Bool.and_eq_true, decide_eq_true_eq] at hfound
  exact ⟨List.mem_of_find?_eq_some h, hfound⟩

theorem earned_of_login {now : Int} {users : List PasswordAccount} {username password token : String}
    {account : PasswordAccount} (haccount : activeAccount users username = some account)
    (hlogin : parts.login now users username password = .ok token) :
    SignIn.Earned parts ⟨account, password, now, token⟩ := by
  unfold LiveParts.login at hlogin
  rw [haccount] at hlogin
  dsimp only at hlogin
  cases hverify : parts.verify password account.passwordHash with
  | none =>
      rw [hverify] at hlogin
      cases hlogin
  | some verified =>
      rw [hverify] at hlogin
      cases verified with
      | false => cases hlogin
      | true => exact ⟨hverify, (activeAccount_eq_some haccount).2.2, (Except.ok.inj hlogin).symm⟩

/-! ### Requests -/

theorem decodeAccessToken_eq_ok {decode : JwtDecode} {now : Int} {token username : String}
    (h : decodeAccessToken decode now token = .ok username) : decode now token = some ⟨some username⟩ := by
  unfold decodeAccessToken at h
  cases hdecode : decode now token with
  | none =>
      rw [hdecode] at h
      cases h
  | some payload =>
      rw [hdecode] at h
      obtain ⟨sub⟩ := payload
      cases sub with
      | none => cases h
      | some name =>
          dsimp only at h
          split_ifs at h
          rw [Except.ok.inj h]

theorem decodeAccessToken_ok {decode : JwtDecode} {now : Int} {token username : String}
    (h : decode now token = some ⟨some username⟩) (hname : username ≠ "") :
    decodeAccessToken decode now token = .ok username := by
  unfold decodeAccessToken
  rw [h]
  exact if_neg hname

theorem username_eq_ok {decode : JwtDecode} {now : Int} {allowed : List String} {request : LiveRequest}
    {username : String} (h : request.username decode now allowed = .ok username) :
    (∀ origin, request.origin = some origin → origin ∈ allowed) ∧
      ∃ token, request.credential allowed = some token ∧ decode now token = some ⟨some username⟩ := by
  unfold LiveRequest.username at h
  split_ifs at h with horigin
  constructor
  · intro origin hsome
    rw [websocketOriginIsAllowed, hsome] at horigin
    exact List.contains_iff_mem.mp horigin
  · cases hcredential : request.credential allowed with
    | none =>
        rw [hcredential] at h
        cases h
    | some token =>
        rw [hcredential] at h
        dsimp only at h
        cases hdecode : decodeAccessToken decode now token with
        | error error =>
            rw [hdecode] at h
            cases h
        | ok name =>
            rw [hdecode] at h
            obtain rfl := Except.ok.inj h
            exact ⟨token, rfl, decodeAccessToken_eq_ok hdecode⟩

theorem username_ok {decode : JwtDecode} {now : Int} {allowed : List String} {request : LiveRequest}
    {token username : String} (horigin : websocketOriginIsAllowed request.origin allowed = true)
    (hcredential : request.credential allowed = some token)
    (hdecode : decodeAccessToken decode now token = .ok username) :
    request.username decode now allowed = .ok username := by
  unfold LiveRequest.username
  rw [if_pos horigin, hcredential]
  dsimp only
  rw [hdecode]

/-- What the name in a grant rests on. -/
structure LiveGrant.Backed (parts : LiveParts) (grant : LiveGrant) (signIn : SignIn) : Prop where
  origin : ∀ origin, grant.request.origin = some origin → origin ∈ parts.allowed
  credential : grant.request.credential parts.allowed = some signIn.token
  user : signIn.account.username = grant.username
  issued : signIn.time < grant.decodedAt + 1000000
  unexpired : grant.decodedAt < signIn.time + parts.accessTokenMinutes * 60000000

theorem LiveGrant.Backed.cookie {grant : LiveGrant} {signIn : SignIn} (h : grant.Backed parts signIn)
    (hnone : bearerSubprotocolToken grant.request.subprotocols = none) :
    ∃ origin ∈ parts.allowed, grant.request.origin = some origin ∧
      grant.request.sessionCookie = some signIn.token := by
  have hcredential := h.credential
  unfold LiveRequest.credential at hcredential
  rw [hnone] at hcredential
  dsimp only at hcredential
  split_ifs at hcredential with horigin
  obtain ⟨origin, hsome, hmem⟩ := (Option.any_eq_true _ _).mp horigin
  exact ⟨origin, List.contains_iff_mem.mp hmem, hsome, hcredential⟩

theorem backed_of_username (hsigns : parts.SignsTokens) {signIn : SignIn} (hearned : signIn.Earned parts)
    {now : Int} {request : LiveRequest} {username : String}
    (hcredential : request.credential parts.allowed = some signIn.token)
    (horigin : ∀ origin, request.origin = some origin → origin ∈ parts.allowed)
    (hdecode : parts.decode now signIn.token = some ⟨some username⟩) :
    LiveGrant.Backed parts ⟨request, username, now⟩ signIn := by
  rw [hearned.token, LiveParts.createAccessToken, hsigns.decode_encode] at hdecode
  dsimp only at hdecode
  split_ifs at hdecode with htimes
  obtain ⟨hissued, hunexpired⟩ := htimes
  have hname : signIn.account.username = username := by
    have hpayload := congrArg TokenPayload.sub (Option.some.inj hdecode)
    exact Option.some.inj hpayload
  refine ⟨horigin, hcredential, hname, ?_, ?_⟩
  · change signIn.time < now + 1000000
    omega
  · change now < signIn.time + parts.accessTokenMinutes * 60000000
    omega

/-! ### Endpoints -/

variable {Socket : Type}

/-- The grant of an endpoint. -/
def LiveStage.grant? : LiveStage → Option LiveGrant
  | decoded grant | admitted grant _ | connected grant _ => some grant
  | closed _ => none

/-- The row that its query found. -/
def LiveStage.account? : LiveStage → Option PasswordAccount
  | admitted _ account | connected _ account => some account
  | _ => none

/-- An endpoint went on with an earned grant only, and past its query with an active user only. -/
structure LiveStage.Sound (parts : LiveParts) (signIns : List SignIn) (stage : LiveStage) : Prop where
  backed : ∀ grant, stage.grant? = some grant → ∃ signIn ∈ signIns, grant.Backed parts signIn
  active : ∀ grant account, stage.grant? = some grant → stage.account? = some account →
    account.username = grant.username ∧ account.active = true

theorem LiveStage.Sound.mono {stage : LiveStage} {signIns : List SignIn}
    (h : stage.Sound parts signIns) (signIn : SignIn) : stage.Sound parts (signIns ++ [signIn]) := by
  refine ⟨fun grant hgrant => ?_, h.active⟩
  obtain ⟨earlier, hmem, hbacked⟩ := h.backed grant hgrant
  exact ⟨earlier, List.mem_append_left _ hmem, hbacked⟩

theorem sound_closed (signIns : List SignIn) (close : LiveClose) :
    (LiveStage.closed close).Sound parts signIns := by
  constructor
  · intro grant hgrant
    cases hgrant
  · intro grant account hgrant
    cases hgrant

/-- The socket's endpoint registered it. -/
def LiveServer.Connected (state : LiveServer Socket) (socket : Socket) : Prop :=
  ∃ grant account, state.stages socket = some (.connected grant account)

structure LiveServer.Sound (parts : LiveParts) (state : LiveServer Socket) : Prop where
  earned : ∀ signIn ∈ state.signIns, signIn.Earned parts
  stages : ∀ socket stage, state.stages socket = some stage → stage.Sound parts state.signIns
  registered : ∀ socket ∈ state.manager.connections, state.Connected socket
  remaining : ∀ broadcast, state.broadcast = some broadcast → ∀ socket ∈ broadcast.remaining,
    state.Connected socket
  delivered : ∀ socket ∈ state.delivered, state.Connected socket

variable {state after : LiveServer Socket} {label : LiveLabel Socket}

theorem LiveServer.Sound.openStage (h : state.Sound parts) (hsigns : parts.SignsTokens) {socket : Socket}
    {request : LiveRequest} (hunforged : Unforged parts state (.opened socket request)) :
    (state.openStage parts request).Sound parts state.signIns := by
  unfold LiveServer.openStage
  cases husername : request.username parts.decode state.now parts.allowed with
  | error close => exact sound_closed _ close
  | ok username =>
      obtain ⟨horigin, token, hcredential, hdecode⟩ := username_eq_ok husername
      obtain ⟨signIn, hmem, rfl⟩ := hunforged token hcredential (hdecode ▸ rfl)
      constructor
      · intro grant hgrant
        obtain rfl := Option.some.inj hgrant
        exact ⟨signIn, hmem,
          backed_of_username hsigns (h.earned signIn hmem) hcredential horigin hdecode⟩
      · intro grant account _ haccount
        cases haccount

theorem LiveServer.Sound.queryStage (h : state.Sound parts) {socket : Socket} {grant : LiveGrant}
    (hstage : state.stages socket = some (.decoded grant)) :
    (state.queryStage grant).Sound parts state.signIns := by
  unfold LiveServer.queryStage
  cases haccount : activeAccount state.users grant.username with
  | none => exact sound_closed _ _
  | some account =>
      constructor
      · exact (h.stages socket _ hstage).backed
      · intro grant' account' hgrant haccount'
        obtain rfl := Option.some.inj hgrant
        obtain rfl := Option.some.inj haccount'
        exact (activeAccount_eq_some haccount).2

/-- What an event on a socket rests on. A token that is not in the subprotocols is the cookie of a page
of an allowed origin. -/
structure LiveServer.Entitled (parts : LiveParts) (state : LiveServer Socket) (socket : Socket) : Prop where
  entitled : ∃ grant account, ∃ signIn ∈ state.signIns,
    state.stages socket = some (.connected grant account) ∧ account.username = grant.username ∧
      account.active = true ∧ grant.Backed parts signIn ∧ signIn.Earned parts ∧
      (bearerSubprotocolToken grant.request.subprotocols = none → ∃ origin ∈ parts.allowed,
        grant.request.origin = some origin ∧ grant.request.sessionCookie = some signIn.token)

theorem LiveServer.Sound.entitled (h : state.Sound parts) {socket : Socket}
    (hconnected : state.Connected socket) : state.Entitled parts socket := by
  obtain ⟨grant, account, hstage⟩ := hconnected
  have hsound := h.stages socket _ hstage
  obtain ⟨signIn, hmem, hbacked⟩ := hsound.backed grant rfl
  obtain ⟨hname, hactive⟩ := hsound.active grant account rfl rfl
  exact ⟨grant, account, signIn, hmem, hstage, hname, hactive, hbacked, h.earned signIn hmem,
    hbacked.cookie⟩

variable [DecidableEq Socket]

@[simp]
theorem stages_setStage (socket : Socket) (stage : LiveStage) :
    (state.setStage socket stage).stages = Function.update state.stages socket (some stage) := rfl

theorem mem_connections_of_connect {manager : LiveConnectionManager Socket} {socket other : Socket}
    (h : other ∈ (manager.connect socket).connections) : other ∈ manager.connections ∨ other = socket := by
  unfold LiveConnectionManager.connect at h
  split_ifs at h
  · exact .inl h
  · exact (List.mem_append.mp h).imp_right List.mem_singleton.mp

theorem mem_connections_of_stale {manager : LiveConnectionManager Socket} {stale : List Socket}
    {other : Socket}
    (h : other ∈ (stale.foldl LiveConnectionManager.disconnect manager).connections) :
    other ∈ manager.connections := by
  induction stale generalizing manager with
  | nil => exact h
  | cons socket stale ih => exact List.mem_of_mem_erase (ih h)

namespace LiveServer.Sound

/-- An endpoint that is not connected goes on. -/
theorem setStage (h : state.Sound parts) {socket : Socket} {stage : LiveStage}
    (hstage : stage.Sound parts state.signIns)
    (hbefore : ¬ state.Connected socket) : (state.setStage socket stage).Sound parts := by
  have hconnected : ∀ other, state.Connected other → (state.setStage socket stage).Connected other := by
    rintro other ⟨grant, account, hother⟩
    refine ⟨grant, account, ?_⟩
    have hne : other ≠ socket := fun hsame => hbefore (hsame ▸ ⟨grant, account, hother⟩)
    exact (Function.update_of_ne hne _ _).trans hother
  constructor
  · exact h.earned
  · intro other found hfound
    by_cases hsame : other = socket
    · rw [hsame, stages_setStage, Function.update_self] at hfound
      obtain rfl := Option.some.inj hfound
      exact hstage
    · rw [stages_setStage, Function.update_of_ne hsame] at hfound
      exact h.stages other found hfound
  · exact fun other hother => hconnected other (h.registered other hother)
  · exact fun broadcast hbroadcast other hother =>
      hconnected other (h.remaining broadcast hbroadcast other hother)
  · exact fun other hother => hconnected other (h.delivered other hother)

/-- **One step.** -/
theorem step (h : state.Sound parts) (hsigns : parts.SignsTokens) (hstep : LiveStep parts state label after)
    (hunforged : Unforged parts state label) : after.Sound parts := by
  cases hstep with
  | clock => exact ⟨h.earned, h.stages, h.registered, h.remaining, h.delivered⟩
  | users => exact ⟨h.earned, h.stages, h.registered, h.remaining, h.delivered⟩
  | login haccount hlogin =>
      refine ⟨?_, fun socket stage hstage => (h.stages socket stage hstage).mono _, h.registered,
        h.remaining, h.delivered⟩
      simp only [List.forall_mem_append, List.forall_mem_singleton]
      exact ⟨h.earned, earned_of_login haccount hlogin⟩
  | opened hnew =>
      apply h.setStage (h.openStage hsigns hunforged)
      rintro ⟨grant, account, hconnected⟩
      rw [hnew] at hconnected
      cases hconnected
  | queried hstage =>
      apply h.setStage (h.queryStage hstage)
      rintro ⟨grant, account, hconnected⟩
      rw [hstage] at hconnected
      cases hconnected
  | registered hstage =>
      rename_i socket grant account
      have hsound := h.stages socket _ hstage
      have hconnect : (LiveStage.connected grant account).Sound parts state.signIns :=
        ⟨hsound.backed, hsound.active⟩
      have hset : (state.setStage socket (.connected grant account)).Sound parts := by
        apply h.setStage hconnect
        rintro ⟨grant', account', hconnected⟩
        rw [hstage] at hconnected
        cases hconnected
      refine ⟨hset.earned, hset.stages, fun other hother => ?_, hset.remaining, hset.delivered⟩
      rcases mem_connections_of_connect hother with hold | rfl
      · exact hset.registered other hold
      · exact ⟨grant, account, Function.update_self _ _ _⟩
  | left _ =>
      refine ⟨h.earned, h.stages, fun other hother => ?_, h.remaining, h.delivered⟩
      exact h.registered other (List.mem_of_mem_erase hother)
  | notified _ =>
      refine ⟨h.earned, h.stages, h.registered, fun broadcast hbroadcast => ?_, h.delivered⟩
      obtain rfl := Option.some.inj hbroadcast
      exact h.registered
  | sent hbroadcast =>
      obtain ⟨hhead, hrest⟩ := List.forall_mem_cons.mp (h.remaining _ hbroadcast)
      refine ⟨h.earned, h.stages, h.registered, fun broadcast hnext => ?_, ?_⟩
      · obtain rfl := Option.some.inj hnext
        exact hrest
      · simp only [List.forall_mem_append, List.forall_mem_singleton]
        exact ⟨h.delivered, hhead⟩
  | failed hbroadcast =>
      refine ⟨h.earned, h.stages, h.registered, fun broadcast hnext => ?_, h.delivered⟩
      obtain rfl := Option.some.inj hnext
      exact (List.forall_mem_cons.mp (h.remaining _ hbroadcast)).2
  | raised _ _ =>
      refine ⟨h.earned, h.stages, h.registered, fun broadcast hnext => ?_, h.delivered⟩
      cases hnext
  | finished _ =>
      refine ⟨h.earned, h.stages, fun other hother => ?_, fun broadcast hnext => ?_, h.delivered⟩
      · exact h.registered other (mem_connections_of_stale hother)
      · cases hnext

end LiveServer.Sound

/-! ### Broadcasts -/

/-- The loop of a broadcast, one send after the other. -/
theorem steps_sendEach {start : LiveServer Socket} {before : List (LiveLabel Socket)}
    (outcomes : Socket → Option SendError) {remaining stale earlier delivered : List Socket}
    (hrun : Trail (LiveStep parts) start before state)
    (hbroadcast : state.broadcast = some ⟨remaining, stale⟩)
    (hdelivered : state.delivered = earlier ++ delivered) {final : BroadcastState Socket}
    {raised : Option SendError}
    (hsend : sendEach (fun socket => ⟨[], outcomes socket⟩) remaining
      ⟨state.manager, stale, delivered⟩ = (final, raised)) :
    ∃ labels, Trail (LiveStep parts) start (before ++ labels)
      { state with
        broadcast := if raised = none then some ⟨[], final.stale⟩ else none
        delivered := earlier ++ final.delivered } ∧ final.manager = state.manager := by
  induction remaining generalizing state before stale delivered with
  | nil =>
      obtain ⟨rfl, rfl⟩ := Prod.mk.inj hsend
      refine ⟨[], ?_, rfl⟩
      rw [List.append_nil, if_pos rfl, ← hbroadcast, ← hdelivered]
      exact hrun
  | cons socket remaining ih =>
      unfold sendEach at hsend
      dsimp only at hsend
      cases houtcome : outcomes socket with
      | none =>
          rw [houtcome] at hsend
          have hmore : state.delivered ++ [socket] = earlier ++ (delivered ++ [socket]) := by
            rw [hdelivered, List.append_assoc]
          obtain ⟨labels, hsteps, hmanager⟩ := ih (hrun.step (.sent hbroadcast)) rfl hmore hsend
          refine ⟨.sent none :: labels, ?_, hmanager⟩
          rw [List.append_cons]
          exact hsteps
      | some error =>
          rw [houtcome] at hsend
          by_cases hruntime : error = .runtimeError
          · rw [hruntime] at hsend
            obtain ⟨labels, hsteps, hmanager⟩ := ih (hrun.step (.failed hbroadcast)) rfl hdelivered hsend
            refine ⟨.sent (some .runtimeError) :: labels, ?_, hmanager⟩
            rw [List.append_cons]
            exact hsteps
          · have hleaves : final = ⟨state.manager, stale, delivered⟩ ∧ raised = some error := by
              cases error with
              | runtimeError => exact absurd rfl hruntime
              | webSocketDisconnect _ | other _ =>
                  exact ⟨(Prod.mk.inj hsend).1.symm, (Prod.mk.inj hsend).2.symm⟩
            obtain ⟨rfl, rfl⟩ := hleaves
            refine ⟨[.sent (some error)], ?_, rfl⟩
            rw [if_neg (Option.some_ne_none error), ← hdelivered]
            exact hrun.step (.raised hbroadcast hruntime)

/-- The steps of a broadcast that nothing interrupts are `broadcast`. -/
theorem steps_broadcast (hidle : state.broadcast = none) (outcomes : Socket → Option SendError) :
    ∃ labels, Trail (LiveStep parts) state labels
      { state with
        manager := (state.manager.broadcast fun socket => ⟨[], outcomes socket⟩).manager
        delivered := state.delivered ++
          (state.manager.broadcast fun socket => ⟨[], outcomes socket⟩).delivered } := by
  have hnotified : LiveStep parts state .notified
      { state with broadcast := some ⟨state.manager.connections, []⟩ } := .notified hidle
  have hstart := Trail.start.step hnotified
  unfold LiveConnectionManager.broadcast
  rw [hidle]
  generalize hsend : sendEach (fun socket => ⟨[], outcomes socket⟩) state.manager.connections
    ⟨state.manager, [], []⟩ = sent
  obtain ⟨final, raised⟩ := sent
  obtain ⟨labels, hsteps, hmanager⟩ := steps_sendEach outcomes hstart rfl (List.append_nil _).symm hsend
  change final.manager = state.manager at hmanager
  dsimp only
  cases raised with
  | none =>
      rw [if_pos rfl] at hsteps
      dsimp only
      rw [hmanager]
      exact ⟨_, hsteps.step (.finished rfl)⟩
  | some error =>
      rw [if_neg (Option.some_ne_none error)] at hsteps
      dsimp only
      rw [hmanager]
      exact ⟨_, hsteps⟩

/-! ### Runs -/

/-- **Live events go to signed-in users.** Every socket that is registered, or that an event was sent to,
belongs to an endpoint that read an unexpired token of a sign-in with the password of its user, and that
found the user active, from no page or one of an allowed origin. -/
theorem live_events_entitled {now : Int} {users : List PasswordAccount} {labels : List (LiveLabel Socket)}
    (hsigns : parts.SignsTokens) (hrun : LiveRun parts now users labels state) :
    ∀ socket, socket ∈ state.delivered ∨ socket ∈ state.manager.connections →
      state.Entitled parts socket := by
  have hsound : state.Sound parts := by
    apply hrun.invariant (fun _ state => LiveServer.Sound parts state)
    · constructor
      · exact fun _ hmem => absurd hmem List.not_mem_nil
      · exact fun _ _ hstage => absurd hstage.symm (Option.some_ne_none _)
      · exact fun _ hmem => absurd hmem List.not_mem_nil
      · exact fun _ hbroadcast => absurd hbroadcast.symm (Option.some_ne_none _)
      · exact fun _ hmem => absurd hmem List.not_mem_nil
    · intro _ before label next hbefore hstep
      exact hbefore.step hsigns hstep.1 hstep.2
  rintro socket (hdelivered | hconnected)
  · exact hsound.entitled (hsound.delivered socket hdelivered)
  · exact hsound.entitled (hsound.registered socket hconnected)

/-- A page with a credential that is taken gets the next event. -/
theorem exists_delivery {now : Int} {users : List PasswordAccount} {labels : List (LiveLabel Socket)}
    (hrun : LiveRun parts now users labels state) {socket : Socket} {request : LiveRequest}
    {username : String} {account : PasswordAccount} (hnew : state.stages socket = none)
    (hidle : state.broadcast = none) (hempty : state.manager.connections = [])
    (haccepted : socket ∉ state.manager.accepted)
    (husername : request.username parts.decode state.now parts.allowed = .ok username)
    (haccount : activeAccount state.users username = some account)
    (hunforged : Unforged parts state (.opened socket request)) :
    ∃ labels after, LiveRun parts now users labels after ∧ socket ∈ after.delivered := by
  have hopen : state.openStage parts request = .decoded ⟨request, username, state.now⟩ := by
    rw [LiveServer.openStage, husername]
  have hopened := hrun.step ⟨.opened hnew, hunforged⟩
  rw [hopen] at hopened
  have hquery : ∀ stage : LiveStage, (state.setStage socket stage).queryStage
      ⟨request, username, state.now⟩ = .admitted ⟨request, username, state.now⟩ account := by
    intro stage
    unfold LiveServer.queryStage
    dsimp only [LiveServer.setStage]
    rw [haccount]
  have hqueried := hopened.step ⟨.queried (Function.update_self ..), trivial⟩
  rw [hquery] at hqueried
  have hregistered := hqueried.step ⟨.registered (Function.update_self ..), trivial⟩
  have hconnections : (state.manager.connect socket).connections = [socket] := by
    rw [LiveConnectionManager.connect, dif_neg haccepted]
    change state.manager.connections ++ [socket] = [socket]
    rw [hempty, List.nil_append]
  have hnotified := hregistered.step ⟨.notified hidle, trivial⟩
  have hwaiting : some (LiveBroadcast.mk (state.manager.connect socket).connections []) =
      some ⟨[socket], []⟩ := by rw [hconnections]
  have hsent := hnotified.step ⟨.sent hwaiting, trivial⟩
  exact ⟨_, _, hsent, List.mem_append_right _ (List.mem_singleton_self socket)⟩

/-! ### A page that signs in -/

/-- Tokens that anyone could write. -/
def plainEncode (claims : TokenClaims) : String :=
  String.ofList (List.replicate (Equiv.intEquivNat claims.iat) '-' ++ '.' ::
    (List.replicate (Equiv.intEquivNat claims.exp) '-' ++ '.' :: claims.sub.toList))

def plainDecode : JwtDecode := fun now token =>
  let expiry := (token.toList.dropWhile (· = '-')).tail
  let iat := Equiv.intEquivNat.symm (token.toList.takeWhile (· = '-')).length
  let exp := Equiv.intEquivNat.symm (expiry.takeWhile (· = '-')).length
  if iat * 1000000 ≤ now ∧ now < exp * 1000000 then
    some ⟨some (String.ofList (expiry.dropWhile (· = '-')).tail)⟩
  else
    none

def pageParts : LiveParts where
  encode := plainEncode
  decode := plainDecode
  verify := fun password passwordHash => some (password = passwordHash)
  corsOrigins := "http://localhost:3000, http://127.0.0.1:3000"
  accessTokenMinutes := 30

theorem takeWhile_hyphens (count : Nat) (rest : List Char) :
    (List.replicate count '-' ++ '.' :: rest).takeWhile (· = '-') = List.replicate count '-' ∧
      (List.replicate count '-' ++ '.' :: rest).dropWhile (· = '-') = '.' :: rest := by
  induction count with
  | zero => exact ⟨rfl, rfl⟩
  | succ count ih =>
      rw [List.replicate_succ, List.cons_append, List.takeWhile_cons_of_pos rfl,
        List.dropWhile_cons_of_pos rfl, ih.1, ih.2]
      exact ⟨rfl, rfl⟩

theorem pageParts_signsTokens : pageParts.SignsTokens where
  decode_encode now claims := by
    change plainDecode now (plainEncode claims) = _
    unfold plainDecode plainEncode
    simp only [String.toList_ofList, takeWhile_hyphens, List.tail_cons, List.length_replicate,
      Equiv.symm_apply_apply, String.ofList_toList]

def pageUser : PasswordAccount := ⟨⟨⟨"demo-admin", "admin"⟩, true⟩, "correct horse battery"⟩

def pageRequest : LiveRequest where
  origin := some "http://localhost:3000"
  subprotocols := none
  sessionCookie := some (pageParts.createAccessToken 0 "demo-admin")

theorem pageRequest_credential : pageRequest.credential pageParts.allowed =
    some (pageParts.createAccessToken 0 "demo-admin") := by
  have hnone : bearerSubprotocolToken pageRequest.subprotocols = none := rfl
  unfold LiveRequest.credential
  rw [hnone]
  exact if_pos (by decide)

theorem pageRequest_username :
    pageRequest.username pageParts.decode 0 pageParts.allowed = .ok "demo-admin" := by
  have horigin : websocketOriginIsAllowed pageRequest.origin pageParts.allowed = true := by decide
  have htimes : (0 : Int) / 1000000 * 1000000 ≤ 0 ∧
      0 < (0 + (pageParts.accessTokenMinutes : Int) * 60000000) / 1000000 * 1000000 := by decide
  have hdecode : pageParts.decode 0 (pageParts.createAccessToken 0 "demo-admin") =
      some ⟨some "demo-admin"⟩ := by
    rw [LiveParts.createAccessToken, pageParts_signsTokens.decode_encode]
    dsimp only
    exact if_pos htimes
  exact username_ok horigin pageRequest_credential (decodeAccessToken_ok hdecode (by decide))

theorem page_entitled : ∃ (labels : List (LiveLabel Nat)) (state : LiveServer Nat),
    LiveRun pageParts 0 [pageUser] labels state ∧ 0 ∈ state.delivered ∧ state.Entitled pageParts 0 := by
  have haccount : activeAccount [pageUser] "demo-admin" = some pageUser := by decide
  have hlogin : pageParts.login 0 [pageUser] "demo-admin" "correct horse battery" =
      .ok (pageParts.createAccessToken 0 "demo-admin") := by
    unfold LiveParts.login
    rw [haccount]
    rfl
  have hstart : LiveRun pageParts 0 [pageUser] [] (.start 0 [pageUser] : LiveServer Nat) := .start
  have hsignedIn := hstart.step ⟨.login haccount hlogin, trivial⟩
  obtain ⟨labels, state, hrun, hdelivered⟩ := exists_delivery hsignedIn rfl rfl rfl List.not_mem_nil
    pageRequest_username haccount (by
      intro token htoken _
      refine ⟨_, List.mem_singleton_self _, ?_⟩
      exact Option.some.inj (pageRequest_credential.symm.trans htoken))
  exact ⟨labels, state, hrun, hdelivered,
    live_events_entitled pageParts_signsTokens hrun 0 (.inl hdelivered)⟩

end IiotMonitoring
