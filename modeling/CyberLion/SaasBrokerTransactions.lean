import CyberLion.SaasBrokerOutcomes

/-!
# The transactions of the SaaS broker

A call that is alone with the file closes its transaction, and one that raises leaves the
tables as they were, up to the expiry, with three exceptions: `create_request` returns a claim
on another transport before its commit, it raises when the new request cannot be stored, and
a heartbeat opens its transaction before its texts are bound.
-/

namespace CyberLion

namespace SaasBroker

open PyLib SqlFile

variable {α : Type} {db : Broker} {version conn : Nat} {stamp : PyStr}

/-- A call closes its transaction, and a call that raises leaves the tables as they are, up to
the expiry at its stamp. -/
structure Transactional (stamp : PyStr) (db : Broker) (conn : Nat)
    (outcome : SqlFile Broker × Except PyError α) : Prop where
  closed : outcome.1.inTransaction conn = false
  undone : ∀ error, outcome.2 = .error error →
    (outcome.1.commit conn).committed = db ∨ (outcome.1.commit conn).committed = db.expire stamp

theorem transactional_quiet {after : Broker} {result : Except PyError α}
    (undone : ∀ error, result = .error error → after = db ∨ after = db.expire stamp) :
    Transactional stamp db conn (quiet after version, result) where
  closed := inTransaction_quiet after version conn
  undone error raised := by simpa using undone error raised

/-! ### Calls that only expire -/

theorem looks_selectRequest (requestId : PyStr) : (selectRequest conn requestId).Looks :=
  SqlProg.looks_select _ _

theorem runAlone_expire_bind (rest : SqlProg Broker α) :
    PyProg.runAlone (do
        SqlProg.atomically do
          SqlProg.write conn [] (update (Broker.expire · stamp))
          SqlProg.commit conn
        rest) (quiet db version) =
      PyProg.runAlone rest (quiet (db.expire stamp) (version + 1)) := by
  simp [PyProg.runAlone_bind, update]

theorem transactional_expire {rest : SqlProg Broker α} (looks : rest.Looks) :
    Transactional stamp db conn (PyProg.runAlone (do
        SqlProg.atomically do
          SqlProg.write conn [] (update (Broker.expire · stamp))
          SqlProg.commit conn
        rest) (quiet db version)) := by
  rw [runAlone_expire_bind]
  have kept := looks (db.expire stamp) (version + 1)
  cases outcome : PyProg.runAlone rest (quiet (db.expire stamp) (version + 1)) with
  | mk after result =>
    rw [outcome] at kept
    obtain rfl := kept
    exact transactional_quiet fun _ _ => .inr rfl

theorem transactional_requestStatus (requestId : PyStr) :
    Transactional stamp db conn
      (PyProg.runAlone (requestStatus conn requestId stamp) (quiet db version)) := by
  refine transactional_expire (.bind (looks_selectRequest requestId) fun found => ?_)
  cases found with
  | none => exact SqlProg.looks_lift _
  | some row => exact .bind (SqlProg.looks_select _ _) fun _ => SqlProg.looks_pure _

theorem transactional_pendingRequest (requestCode missionId : Option PyStr) :
    Transactional stamp db conn
      (PyProg.runAlone (pendingRequest conn requestCode missionId stamp) (quiet db version)) := by
  refine transactional_expire (.bind (SqlProg.looks_select _ _) fun found => ?_)
  cases found with
  | none => exact SqlProg.looks_pure _
  | some row => exact .bind (SqlProg.looks_select _ _) fun _ => SqlProg.looks_pure _

theorem transactional_bridgeStatus (project : BridgeStatus → Except PyError α)
    (missionId : Option PyStr) :
    Transactional stamp db conn
      (PyProg.runAlone (bridgeStatus project conn missionId stamp) (quiet db version)) := by
  refine transactional_expire (.bind (SqlProg.looks_select _ _) fun status => ?_)
  exact .bind (SqlProg.looks_lift _) fun _ => SqlProg.looks_pure _

/-! ### Calls that begin at once -/

theorem transactional_claim (requestId : PyStr) (leaseSeconds : Int) (token : PyStr) :
    Transactional stamp db conn
      (PyProg.runAlone (claim conn requestId stamp leaseSeconds token) (quiet db version)) := by
  rw [claim, (SqlProg.looks_lift _).runAlone_bind]
  split
  · rw [SqlProg.runAlone_atomically, PyProg.runAlone_bind, SqlProg.runAlone_beginImmediate_quiet]
    dsimp only
    rw [SqlProg.runAlone_immediate]
    split
    · exact transactional_quiet fun _ raised => nomatch raised
    · exact transactional_quiet fun _ _ => .inl rfl
  · exact transactional_quiet fun _ _ => .inl rfl

theorem transactional_respond (arguments : RespondArguments) (bindingHex : PyStr) :
    Transactional stamp db conn
      (PyProg.runAlone (respond conn arguments stamp bindingHex) (quiet db version)) := by
  rw [respond, SqlProg.runAlone_atomically, SqlProg.runAlone_orRollback,
    (SqlProg.looks_lift _).runAlone_bind, PyProg.runAlone_lift]
  cases arguments.check with
  | error error =>
    simp only [rollback_quiet]
    exact transactional_quiet fun _ _ => .inl rfl
  | ok _ =>
    simp only [PyProg.runAlone_bind, SqlProg.runAlone_beginImmediate_quiet,
      SqlProg.runAlone_write_held_nil]
    cases PyProg.runAlone (respondStatements arguments stamp bindingHex) db with
    | mk after result =>
      cases result with
      | ok reply =>
        simp only [SqlProg.runAlone_commit, commit_held, PyProg.runAlone_pure]
        exact transactional_quiet fun _ raised => nomatch raised
      | error error =>
        simp only [rollback_held]
        exact transactional_quiet fun _ _ => .inl rfl

/-! ### Cancellation -/

theorem exists_runAlone_requestStatus {requestId : PyStr} (bound : bindTexts [requestId] = .ok ())
    (stored : ∃ row, db.request requestId = some row) :
    ∃ view, PyProg.runAlone (requestStatus conn requestId stamp) (quiet db version) =
      (quiet (db.expire stamp) (version + 1), .ok view) := by
  have later : ∃ row, (db.expire stamp).request requestId = some row := by
    rw [exists_request_iff] at stored ⊢
    rwa [map_requestId_expire]
  obtain ⟨row, found⟩ := later
  refine ⟨⟨row, (db.expire stamp).dualRequestId requestId⟩, ?_⟩
  refine runAlone_expire_bind _ |>.trans ?_
  rw [(looks_selectRequest requestId).runAlone_bind, selectRequest,
    SqlProg.runAlone_select_quiet, bound]
  simp only [ok_bind, found]
  rw [(SqlProg.looks_select _ _).runAlone_bind, SqlProg.runAlone_select_quiet, bound]
  rfl

theorem transactional_cancelRequest (requestId : PyStr) :
    Transactional stamp db conn
      (PyProg.runAlone (cancelRequest conn requestId stamp) (quiet db version)) := by
  rw [cancelRequest, (looks_selectRequest requestId).orRollback.runAlone_bind,
    SqlProg.snd_orRollback, selectRequest, SqlProg.runAlone_select_quiet]
  cases bound : bindTexts [requestId] with
  | error error => exact transactional_quiet fun _ _ => .inl rfl
  | ok _ =>
    rw [ok_bind]
    cases found : db.request requestId with
    | none =>
      simp only [PyProg.runAlone_bind, SqlProg.runAlone_commit, commit_quiet,
        PyProg.runAlone_pure]
      exact transactional_quiet fun _ raised => nomatch raised
    | some row =>
      have stored : ∃ row, (db.cancelRows requestId).request requestId = some row := by
        have before : ∃ row, db.request requestId = some row := ⟨row, found⟩
        rw [exists_request_iff] at before ⊢
        rwa [map_requestId_cancelRows]
      obtain ⟨view, returned⟩ :=
        @exists_runAlone_requestStatus _ (version + 1) conn stamp _ bound stored
      have cancelled : PyProg.runAlone (cancelStatement requestId) db =
        (db.cancelRows requestId, .ok (db.requests.countP (cancellable requestId))) := rfl
      simp only [PyProg.runAlone_bind, SqlProg.runAlone_atomically,
        SqlProg.runAlone_orRollback, SqlProg.runAlone_write_quiet bound, cancelled,
        SqlProg.runAlone_commit, commit_held, PyProg.runAlone_pure, returned]
      exact transactional_quiet fun _ raised => nomatch raised

/-! ### Heartbeats -/

theorem transactional_recordMediatorHeartbeat_iff (payload : Json) (time : DateTime) :
    Transactional time.zulu db conn
        (PyProg.runAlone (recordMediatorHeartbeat conn payload time.zulu) (quiet db version)) ↔
      ∀ input, checkHeartbeat payload = .ok input → bindTexts input.texts = .ok () := by
  rw [recordMediatorHeartbeat, (SqlProg.looks_lift _).runAlone_bind, PyProg.runAlone_lift]
  cases checkHeartbeat payload with
  | error error =>
    constructor
    · rintro - _ ⟨⟩
    · exact fun _ => transactional_quiet fun _ _ => .inl rfl
  | ok input =>
    have details : canon (.obj [(py "authority_effect", .str (py "NONE")),
        (py "transport", .str input.transport), (py "state", .str input.state)]) =
          .ok (Json.render false (Json.sortKeys (.obj [(py "authority_effect", .str (py "NONE")),
            (py "transport", .str input.transport), (py "state", .str input.state)]))) :=
      Json.dumps_eq_ok.mpr ⟨rfl, rfl⟩
    dsimp only
    rw [(SqlProg.looks_lift _).runAlone_bind, PyProg.runAlone_lift, details]
    dsimp only
    rw [SqlProg.runAlone_atomically, PyProg.runAlone_bind]
    cases bound : bindTexts input.texts with
    | ok _ =>
      rw [SqlProg.runAlone_write_quiet bound]
      obtain ⟨after, promoted, returned⟩ := exists_runAlone_heartbeatStatements input time _ db
      rw [returned]
      constructor
      · rintro - _ ⟨⟩
        exact bound
      · intro _
        simp only [PyProg.runAlone_bind, SqlProg.runAlone_commit, commit_held,
          PyProg.runAlone_pure]
        exact transactional_quiet fun _ raised => nomatch raised
    | error error =>
      rw [SqlProg.runAlone_write_quiet_of_error bound]
      constructor
      · intro transactional
        exact absurd transactional.closed (by simp)
      · intro bindable
        have ok := bindable input rfl
        rw [bound] at ok
        exact absurd ok (by simp)

/-! ### New requests -/

variable {context : RequestContext} {secrets : RequestSecrets}

/-- The transaction of `create_request` stays open. -/
def HandoffLeftOpen (db : Broker) (context : RequestContext) (secrets : RequestSecrets)
    (stamp : PyStr) : Prop :=
  if context.legacy then
    (∃ expires, future stamp context.ttlSeconds = .ok expires) ∧ db.Clashes secrets
  else ClaimedElsewhere db context stamp ∨
    NothingLive db context stamp ∧ Unstorable db context secrets stamp

theorem not_transactional_held {work : Broker} {result : Except PyError α} :
    ¬ Transactional stamp db conn (held db work version conn, result) := by
  intro transactional
  exact absurd transactional.closed (by simp)

theorem transactional_createReply {after : Broker} {handoff : Handoff}
    (stored : Stored after handoff) :
    Transactional stamp db conn
      (PyProg.runAlone (createReply conn handoff) (quiet after version)) := by
  have replied : ∀ requestId : Utf8Bytes, ∀ deduplicated : Bool,
      requestId ∈ after.requests.map HandoffRequest.requestId →
      Transactional stamp db conn (PyProg.runAlone (do
        let found ← selectRequest conn requestId.text
        .lift (publicFound found deduplicated)) (quiet after version)) := by
    intro requestId deduplicated member
    have bound : bindTexts [requestId.text] = .ok () := bindTexts_bytes requestId
    have isStored : ∃ row, after.request requestId.text = some row :=
      exists_request_iff.mpr (List.mem_map_of_mem member)
    obtain ⟨row, found⟩ := isStored
    rw [(looks_selectRequest _).runAlone_bind, selectRequest, SqlProg.runAlone_select_quiet, bound,
      ok_bind]
    simp only [found]
    exact transactional_quiet fun _ raised => nomatch raised
  cases stored with
  | kept member => exact replied _ true member
  | created member => exact replied _ false member

theorem runAlone_commitHandoff {after : Broker} {handoff : Handoff}
    (stored : Stored after handoff) :
    PyProg.runAlone (commitHandoff conn handoff) (held db after version conn) =
      (quiet after (version + 1), .ok handoff) := by
  cases stored with
  | kept member => simp [commitHandoff, PyProg.runAlone_bind]
  | created member => simp [commitHandoff, PyProg.runAlone_bind]

theorem transactional_stored {statements : PyProg Broker Handoff} {after : Broker}
    {handoff : Handoff} (stored : Stored after handoff)
    (returned : PyProg.runAlone statements db = (after, .ok handoff)) :
    Transactional stamp db conn (PyProg.runAlone (do
        let handoff ← SqlProg.atomically do
          let handoff ← SqlProg.write conn [] statements
          commitHandoff conn handoff
        createReply conn handoff) (quiet db version)) := by
  rw [PyProg.runAlone_bind, SqlProg.runAlone_atomically, PyProg.runAlone_bind,
    SqlProg.runAlone_write_quiet_nil, returned]
  dsimp only
  rw [runAlone_commitHandoff stored]
  exact transactional_createReply stored

theorem not_transactional_failed {statements : PyProg Broker Handoff} {after : Broker}
    {error : PyError} (raised : PyProg.runAlone statements db = (after, .error error)) :
    ¬ Transactional stamp db conn (PyProg.runAlone (do
        let handoff ← SqlProg.atomically do
          let handoff ← SqlProg.write conn [] statements
          commitHandoff conn handoff
        createReply conn handoff) (quiet db version)) := by
  rw [PyProg.runAlone_bind, SqlProg.runAlone_atomically, PyProg.runAlone_bind,
    SqlProg.runAlone_write_quiet_nil, raised]
  exact not_transactional_held

/-- `create_request` closes its transaction but for three cases: a claim on another transport,
and a new request whose deadline or whose random texts are refused. -/
theorem transactional_createRequest_iff (arguments : CreateArguments) :
    Transactional stamp db conn
        (PyProg.runAlone (createRequest conn arguments secrets stamp) (quiet db version)) ↔
      ∀ context, db.contextOf arguments stamp = .ok context →
        ¬ HandoffLeftOpen db context secrets stamp := by
  rw [createRequest, PyProg.runAlone_bind, looksAs_createContext]
  dsimp only
  cases db.contextOf arguments stamp with
  | error error =>
    constructor
    · rintro - _ ⟨⟩
    · exact fun _ => transactional_quiet fun _ _ => .inl rfl
  | ok context =>
    have only : (∀ other, (Except.ok context : Except PyError RequestContext) = .ok other →
        ¬ HandoffLeftOpen db other secrets stamp) ↔
        ¬ HandoffLeftOpen db context secrets stamp := by
      simp
    rw [only]
    dsimp only
    rw [createHandoff, HandoffLeftOpen]
    split_ifs with legacy
    · cases isFuture : future stamp context.ttlSeconds with
      | error error =>
        rw [PyProg.lift_error_bind]
        simp only [reduceCtorEq, exists_false, false_and, not_false_eq_true, iff_true]
        exact transactional_quiet fun _ _ => .inl rfl
      | ok expires =>
        have known : (∃ other, (Except.ok expires : Except PyError PyStr) = .ok other) ∧
            db.Clashes secrets ↔ db.Clashes secrets := by
          simp
        rw [known, PyProg.lift_ok_bind]
        rcases @runAlone_insertStatement db stamp context secrets expires none with
          ⟨clashes, error, raised⟩ | ⟨free, returned⟩
        · exact iff_of_false (not_transactional_failed raised) (not_not_intro clashes)
        · exact iff_of_true (transactional_stored
            (.created (by simp [RequestContext.row])) returned) free
    · rcases @runAlone_reconcileStatements db stamp context secrets with
        ⟨elsewhere, after, row, returned⟩ | ⟨-, stuck, after, error, raised⟩ |
          ⟨nowhere, notStuck, after, handoff, stored, returned⟩
      · refine iff_of_false ?_ (not_not_intro (.inl elsewhere))
        rw [PyProg.runAlone_bind, SqlProg.runAlone_atomically, PyProg.runAlone_bind,
          SqlProg.runAlone_write_quiet_nil, returned]
        exact not_transactional_held
      · exact iff_of_false (not_transactional_failed raised) (not_not_intro (.inr stuck))
      · exact iff_of_true (transactional_stored stored returned)
          (not_or.mpr ⟨nowhere, notStuck⟩)

/-! ### All calls -/

inductive BrokerCall
  | createRequest (arguments : CreateArguments) (secrets : RequestSecrets)
  | claim (requestId : PyStr) (leaseSeconds : Int) (token : PyStr)
  | respond (arguments : RespondArguments) (bindingHex : PyStr)
  | cancelRequest (requestId : PyStr)
  | requestStatus (requestId : PyStr)
  | pendingRequest (requestCode missionId : Option PyStr)
  | bridgeStatus (missionId : Option PyStr)
  | recordMediatorHeartbeat (payload : Json)

inductive BrokerReply (α : Type)
  | created (request : PublicRequest)
  | claimed (reply : ClaimReply)
  | responded (reply : RespondReply)
  | cancelled (reply : CancelReply)
  | viewed (view : RequestView)
  | pending (view : Option RequestView)
  | bridge (status : BridgeStatus × α)
  | heartbeat (reply : HeartbeatReply)

/-- A call on a connection, with the stamp that its clock returns. -/
def BrokerCall.perform (project : BridgeStatus → Except PyError α) (conn : Nat) (stamp : PyStr) :
    BrokerCall → SqlProg Broker (BrokerReply α)
  | .createRequest arguments secrets => do
    return .created (← SaasBroker.createRequest conn arguments secrets stamp)
  | .claim requestId leaseSeconds token => do
    return .claimed (← SaasBroker.claim conn requestId stamp leaseSeconds token)
  | .respond arguments bindingHex => do
    return .responded (← SaasBroker.respond conn arguments stamp bindingHex)
  | .cancelRequest requestId => do
    return .cancelled (← SaasBroker.cancelRequest conn requestId stamp)
  | .requestStatus requestId => do
    return .viewed (← SaasBroker.requestStatus conn requestId stamp)
  | .pendingRequest requestCode missionId => do
    return .pending (← SaasBroker.pendingRequest conn requestCode missionId stamp)
  | .bridgeStatus missionId => do
    return .bridge (← SaasBroker.bridgeStatus project conn missionId stamp)
  | .recordMediatorHeartbeat payload => do
    return .heartbeat (← SaasBroker.recordMediatorHeartbeat conn payload stamp)

def BrokerCall.LeavesOpen (db : Broker) (stamp : PyStr) : BrokerCall → Prop
  | .createRequest arguments secrets => ∃ context,
      db.contextOf arguments stamp = .ok context ∧ HandoffLeftOpen db context secrets stamp
  | .recordMediatorHeartbeat payload => ∃ input,
      checkHeartbeat payload = .ok input ∧ bindTexts input.texts ≠ .ok ()
  | .claim .. | .respond .. | .cancelRequest _ | .requestStatus _ | .pendingRequest ..
  | .bridgeStatus _ => False

theorem transactional_map {β : Type} {program : SqlProg Broker α} {wrap : α → β}
    {file : SqlFile Broker} :
    Transactional stamp db conn
        (PyProg.runAlone (program >>= fun value => pure (wrap value)) file) ↔
      Transactional stamp db conn (PyProg.runAlone program file) := by
  rw [PyProg.runAlone_bind]
  cases PyProg.runAlone program file with
  | mk after result =>
    cases result with
    | error error =>
      constructor
      · intro transactional
        refine ⟨transactional.closed, fun other raised => ?_⟩
        cases raised
        exact transactional.undone error rfl
      · intro transactional
        refine ⟨transactional.closed, fun other raised => ?_⟩
        cases raised
        exact transactional.undone error rfl
    | ok value =>
      constructor
      · exact fun transactional => ⟨transactional.closed, fun _ raised => nomatch raised⟩
      · exact fun transactional => ⟨transactional.closed, fun _ raised => nomatch raised⟩

/-- A call closes its transaction, and undoes what it did before it raised, exactly when it is
none of the calls that leave a transaction open. -/
theorem transactional_perform_iff (project : BridgeStatus → Except PyError α)
    (db : Broker) (version conn : Nat) (call : BrokerCall) (time : DateTime) :
    Transactional time.zulu db conn
        (PyProg.runAlone (call.perform project conn time.zulu) (quiet db version)) ↔
      ¬ call.LeavesOpen db time.zulu := by
  cases call with
  | createRequest arguments secrets =>
    refine transactional_map.trans ((transactional_createRequest_iff arguments).trans ?_)
    simp only [BrokerCall.LeavesOpen, not_exists, not_and]
  | recordMediatorHeartbeat payload =>
    refine transactional_map.trans
      ((transactional_recordMediatorHeartbeat_iff payload time).trans ?_)
    simp only [BrokerCall.LeavesOpen, not_exists, not_and, ne_eq, not_not]
  | claim requestId leaseSeconds token =>
    exact iff_of_true (transactional_map.mpr (transactional_claim ..)) not_false
  | respond arguments bindingHex =>
    exact iff_of_true (transactional_map.mpr (transactional_respond ..)) not_false
  | cancelRequest requestId =>
    exact iff_of_true (transactional_map.mpr (transactional_cancelRequest _)) not_false
  | requestStatus requestId =>
    exact iff_of_true (transactional_map.mpr (transactional_requestStatus _)) not_false
  | pendingRequest requestCode missionId =>
    exact iff_of_true (transactional_map.mpr (transactional_pendingRequest ..)) not_false
  | bridgeStatus missionId =>
    exact iff_of_true (transactional_map.mpr (transactional_bridgeStatus ..)) not_false

/-! ### A retry that was not created -/

section Collision

def collisionTime : DateTime :=
  ⟨2026, 1, 1, 12, 0, 0, 0, by decide⟩

def collisionId : Utf8Bytes :=
  ⟨py "saas-1", isEncodable_py _⟩

def collisionSecrets : RequestSecrets :=
  ⟨⟨py "saas-2", isEncodable_py _⟩, py "0A0B0C0D", py "token"⟩

def collisionContext : RequestContext :=
  ⟨false, none, none, .controlPlane, some (py "GLOBAL_SUPERVISOR_CHANNEL"), none, py "why",
    sha256 ⟨py "why", isEncodable_py _⟩, TRANSPORT, 900⟩

def collisionRequest : HandoffRequest :=
  { collisionContext.row ⟨collisionId, py "0A0B0C0D", py "token"⟩ (py "2026-01-01T11:00:00Z")
      (py "2026-01-01T11:15:00Z") none with status := .waitingOperatorOverdue }

def collisionBroker : Broker :=
  ⟨[collisionRequest], [], [], [], [], none, [], none⟩

def collisionArguments : CreateArguments :=
  ⟨none, py "why", 900, some (py "CONTROL_PLANE"), none, none, py "NONE", none⟩

/-- A new request with the code of the one it retries leaves its transaction open. -/
theorem not_transactional_collision :
    ¬ ∀ (db : Broker) (version conn : Nat) (call : BrokerCall) (time : DateTime),
      Transactional time.zulu db conn (PyProg.runAlone
        (call.perform (fun _ => .ok ()) conn time.zulu) (quiet db version)) := by
  intro always
  have transactional := transactional_map.mp (always collisionBroker 0 0
    (.createRequest collisionArguments collisionSecrets) collisionTime)
  rw [transactional_createRequest_iff] at transactional
  refine transactional collisionContext rfl (.inr ⟨fun row member _ => ?_, .inr ?_⟩)
  · have isRow := mem_requests_of_mem_siblings member
    obtain rfl := List.mem_singleton.mp isRow
    rfl
  · exact ⟨collisionRequest, .head _, .inr rfl⟩

end Collision

end SaasBroker

end CyberLion
