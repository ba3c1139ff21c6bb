import CyberLion.JsonWritable
import CyberLion.ProgramSteps
import CyberLion.SaasBrokerCalls

/-!
# What the statements of the SaaS broker do

The statements of a heartbeat return.  Those of `create_request` end in one of three ways: with
a claim on another transport, with a request that is stored, or with an error when the new
request cannot be stored.
-/

namespace CyberLion

namespace SaasBroker

open PyLib SqlFile

variable {α : Type} {db : Broker} {version conn : Nat} {stamp : PyStr}

/-! ### Ids -/

theorem exists_expireRequest_eq (db : Broker) (now : PyStr) (row : HandoffRequest) :
    ∃ status progressState deadlineElapsedAt claimExpiresAt, db.expireRequest now row =
      { row with status, progressState, deadlineElapsedAt, claimExpiresAt } := by
  simp only [Broker.expireRequest, Broker.supersedeEnded, Broker.notePending,
    Broker.releaseExpired, Broker.markOverdue, Broker.supersede, Broker.overdueProgress,
    Broker.releaseClaim]
  split_ifs <;> exact ⟨_, _, _, _, rfl⟩

@[simp]
theorem map_requestId_expire (now : PyStr) :
    (db.expire now).requests.map HandoffRequest.requestId =
      db.requests.map HandoffRequest.requestId := by
  rw [Broker.expire, List.map_map]
  refine List.map_congr_left fun row _ => ?_
  obtain ⟨_, _, _, _, same⟩ := exists_expireRequest_eq db now row
  rw [Function.comp_apply, same]

@[simp]
theorem map_requestId_cancelRows (requestId : PyStr) :
    (db.cancelRows requestId).requests.map HandoffRequest.requestId =
      db.requests.map HandoffRequest.requestId :=
  @map_updateWhere _ _ (cancellable requestId) cancelRow HandoffRequest.requestId
    (fun _ _ => rfl) db.requests

theorem exists_request_iff {requestId : PyStr} :
    (∃ row, db.request requestId = some row) ↔
      requestId ∈ (db.requests.map HandoffRequest.requestId).map Utf8Bytes.text := by
  rw [← Option.isSome_iff_exists, Broker.request, List.find?_isSome]
  simp

/-! ### Heartbeats -/

theorem exists_digest {value : Json} (writable : Json.Writable value)
    (printable : value.isPrintable = true) : ∃ result, digest value = .ok result := by
  obtain ⟨text, bytes, written, encoded⟩ := writable.exists_encodeUtf8 printable true
  refine ⟨sha256 bytes, ?_⟩
  rw [digest, canon, written, ok_bind, encoded]
  rfl

theorem snd_runAlone_promoteRow {time : DateTime} {target reason progressState : PyStr}
    (targetText : isEncodable target = true) (reasonText : isEncodable reason = true)
    {row : HandoffRequest} (default : row.transportOr = TRANSPORT) (db : Broker) :
    (PyProg.runAlone (promoteRow time.zulu target reason progressState row) db).2 =
      .ok row.requestId.text := by
  have transport : isEncodable TRANSPORT = true := isEncodable_py _
  obtain ⟨transitionDigest, digested⟩ := @exists_digest (.obj [
      (py "request_id", .str row.requestId.text), (py "from_transport", .str row.transportOr),
      (py "to_transport", .str target), (py "reason", .str reason),
      (py "transitioned_at", .str time.zulu), (py "authority_effect", .str (py "NONE"))])
    (by
      refine .obj ?_ ?_
      · simp only [List.forall_mem_cons, isEncodable_py]
        simp
      · simp only [List.forall_mem_cons, Json.writable_str_iff, isEncodable_py, default, transport,
          targetText, reasonText, time.isEncodable_zulu, row.requestId.encodable]
        simp) rfl
  rw [promoteRow, PyProg.runAlone_bind, PyProg.runAlone_lift, digested]
  rfl

theorem snd_runAlone_promoteRows {time : DateTime} {target reason progressState : PyStr}
    (targetText : isEncodable target = true) (reasonText : isEncodable reason = true)
    {rows : List HandoffRequest} (default : ∀ row ∈ rows, row.transportOr = TRANSPORT)
    (db : Broker) :
    (PyProg.runAlone (promoteRows time.zulu target reason progressState rows) db).2 =
      .ok (rows.map fun row => row.requestId.text) := by
  induction rows generalizing db with
  | nil => rfl
  | cons row rows ih =>
    rw [List.forall_mem_cons] at default
    have first := @snd_runAlone_promoteRow time target reason progressState targetText
      reasonText row default.1 db
    rw [promoteRows, PyProg.runAlone_bind]
    cases outcome : PyProg.runAlone (promoteRow time.zulu target reason progressState row) db with
    | mk middle result =>
      rw [outcome] at first
      obtain rfl := first
      have later := ih default.2 middle
      dsimp only
      rw [PyProg.runAlone_bind]
      cases rest : PyProg.runAlone (promoteRows time.zulu target reason progressState rows)
          middle with
      | mk after result =>
        rw [rest] at later
        obtain rfl := later
        rfl

theorem transportOr_of_mem_promotableRows {row : HandoffRequest}
    (member : row ∈ db.promotableRows) : row.transportOr = TRANSPORT := by
  rw [Broker.promotableRows, List.mem_insertionSort, List.mem_filter, Bool.and_eq_true,
    decide_eq_true_eq] at member
  obtain ⟨-, -, default⟩ := member
  unfold HandoffRequest.transportOr
  cases isTransport : row.transport with
  | none => rfl
  | some transport =>
    rw [isTransport, Option.getD_some] at default
    subst default
    rfl

theorem exists_runAlone_heartbeatStatements (input : HeartbeatInput) (time : DateTime)
    (details : PyStr) (db : Broker) :
    ∃ after promoted, PyProg.runAlone (heartbeatStatements input time.zulu details) db =
      (after, .ok promoted) := by
  have promotes : ∀ target reason progressState : String, ∀ db : Broker, ∃ after promoted,
      PyProg.runAlone (promoteWaitingToTransport time.zulu (py target) (py reason)
        (py progressState)) db = (after, .ok promoted) := by
    intro target reason progressState db
    have returned := @snd_runAlone_promoteRows time (py target) (py reason) (py progressState)
      (isEncodable_py _) (isEncodable_py _) db.promotableRows
      (fun _ => transportOr_of_mem_promotableRows) db
    exact ⟨_, _, Prod.ext rfl returned⟩
  rw [heartbeatStatements, PyProg.runAlone_bind, update, PyProg.runAlone_transact]
  dsimp only
  split_ifs
  · exact promotes _ _ _ _
  · exact promotes _ _ _ _
  · exact promotes _ _ _ _
  · exact ⟨_, _, rfl⟩

/-! ### New requests -/

/-- The scope that the arguments name, and the digest of a legacy mission. -/
def Broker.scopeOf (db : Broker) (arguments : CreateArguments) :
    Except PyError (ScopeType × Option PyStr × Option PyStr) :=
  match arguments.scopeType with
  | none => do
    let mission ← bindTexts arguments.missionId.toList >>= fun _ =>
      db.mission arguments.missionId
    let process ← bindTexts arguments.missionId.toList >>= fun _ =>
      .ok (db.processSpec arguments.missionId)
    let mission ← missionBinding mission process
    return (.mission, arguments.missionId, some mission.specDigest)
  | some text => do
    let scopeType ← scopeTypeOf text
    arguments.checkScope scopeType
    if arguments.missionId ≠ none then
      let mission ← bindTexts arguments.missionId.toList >>= fun _ =>
        db.mission arguments.missionId
      checkScopeMission scopeType mission
    raiseIf (arguments.scopeId ≠ none ∧ arguments.scopeId ≠ arguments.expectedScope scopeType)
      (brokerError (py "scope_id mismatch"))
    return (scopeType, arguments.expectedScope scopeType, none)

def Broker.transportOf (db : Broker) (arguments : CreateArguments) (stamp : PyStr) :
    Except PyError PyStr :=
  match arguments.transport with
  | some transport => do
    raiseIf (transport ∉ mediatorTransports) (brokerError (py "explicit transport"))
    return if arguments.scopeType = none then TRANSPORT else transport
  | none => if arguments.scopeType = none then .ok TRANSPORT else preferredTransport db stamp

/-- What the checks of `create_request` say of its arguments and of the tables. -/
def Broker.contextOf (db : Broker) (arguments : CreateArguments) (stamp : PyStr) :
    Except PyError RequestContext := do
  arguments.check
  let (scopeType, scopeId, lpclDigest) ← db.scopeOf arguments
  let questionBytes ← encodeUtf8 (strip arguments.question)
  let transport ← db.transportOf arguments stamp
  return ⟨arguments.scopeType = none, arguments.missionId, lpclDigest, scopeType, scopeId,
    arguments.threadId, strip arguments.question, sha256 questionBytes, transport,
    arguments.ttlSeconds⟩

theorem looksAs_createScope (arguments : CreateArguments) :
    (createScope conn arguments).LooksAs fun db => db.scopeOf arguments := by
  unfold createScope Broker.scopeOf
  cases arguments.scopeType with
  | none =>
    exact .bind (SqlProg.looksAs_select _ _) fun _ =>
      .bind (SqlProg.looksAs_select _ _) fun _ => .bind (SqlProg.looksAs_lift _) fun _ =>
        SqlProg.looksAs_pure _
  | some text =>
    refine .bind (SqlProg.looksAs_lift _) fun scopeType =>
      .bind (SqlProg.looksAs_lift _) fun _ => ?_
    have finish : SqlProg.LooksAs (do
        let _ ← PyProg.lift (raiseIf (arguments.scopeId ≠ none ∧
          arguments.scopeId ≠ arguments.expectedScope scopeType)
            (brokerError (py "scope_id mismatch")))
        return (scopeType, arguments.expectedScope scopeType, none)) fun db : Broker => do
          raiseIf (arguments.scopeId ≠ none ∧
            arguments.scopeId ≠ arguments.expectedScope scopeType)
              (brokerError (py "scope_id mismatch"))
          return (scopeType, arguments.expectedScope scopeType, (none : Option PyStr)) :=
      .bind (SqlProg.looksAs_lift _) fun _ => SqlProg.looksAs_pure _
    by_cases given : arguments.missionId ≠ none
    · simp only [if_pos given]
      exact .bind (SqlProg.looksAs_select _ _) fun _ =>
        .bind (SqlProg.looksAs_lift _) fun _ => finish
    · simp only [if_neg given]
      exact finish

theorem looksAs_createTransport (arguments : CreateArguments) :
    (createTransport conn arguments stamp).LooksAs fun db => db.transportOf arguments stamp := by
  unfold createTransport Broker.transportOf
  cases arguments.transport with
  | some transport => exact .bind (SqlProg.looksAs_lift _) fun _ => SqlProg.looksAs_pure _
  | none =>
    by_cases legacy : arguments.scopeType = none
    · simp only [if_pos legacy]
      exact SqlProg.looksAs_pure _
    · simp only [if_neg legacy]
      exact SqlProg.looksAs_select _ _

theorem looksAs_createContext (arguments : CreateArguments) :
    (createContext conn arguments stamp).LooksAs fun db => db.contextOf arguments stamp :=
  .bind (SqlProg.looksAs_lift _) fun _ => .bind (looksAs_createScope arguments) fun _ =>
    .bind (SqlProg.looksAs_lift _) fun _ => .bind (looksAs_createTransport arguments) fun _ =>
      SqlProg.looksAs_pure _

def Broker.Clashes (db : Broker) (secrets : RequestSecrets) : Prop :=
  ∃ row ∈ db.requests,
    row.requestId = secrets.requestId ∨ row.requestCode = secrets.requestCode

variable {context : RequestContext} {secrets : RequestSecrets}

theorem insertRequest_eq_ok {row : HandoffRequest} {after : Broker} :
    db.insertRequest row = .ok after ↔
      (∀ other ∈ db.requests,
        other.requestId ≠ row.requestId ∧ other.requestCode ≠ row.requestCode) ∧
      after = { db with requests := db.requests ++ [row] } := by
  simp only [Broker.insertRequest, bind_eq_ok, pure_eq_ok, insertRow_eq_ok, decide_eq_false_iff_not]
  constructor
  · rintro ⟨_, ⟨freeId, -⟩, requests, ⟨freeCode, rfl⟩, rfl⟩
    exact ⟨fun other member => ⟨freeId other member, freeCode other member⟩, rfl⟩
  · rintro ⟨free, rfl⟩
    exact ⟨_, ⟨fun other member => (free other member).1, rfl⟩, _,
      ⟨fun other member => (free other member).2, rfl⟩, rfl⟩

theorem insertRequest_row_eq_ok {expires : PyStr} {retryOf : Option PyStr} {after : Broker} :
    db.insertRequest (context.row secrets stamp expires retryOf) = .ok after ↔
      ¬ db.Clashes secrets ∧
        after =
          { db with requests := db.requests ++ [context.row secrets stamp expires retryOf] } := by
  rw [insertRequest_eq_ok, Broker.Clashes]
  simp only [not_exists, not_and, not_or]
  rfl

theorem runAlone_insertStatement (expires : PyStr) (retryOf : Option PyStr) :
    (db.Clashes secrets ∧ ∃ error,
      PyProg.runAlone (insertStatement context secrets stamp expires retryOf) db =
        (db, .error error)) ∨
    (¬ db.Clashes secrets ∧
      PyProg.runAlone (insertStatement context secrets stamp expires retryOf) db =
        ({ db with requests := db.requests ++ [context.row secrets stamp expires retryOf] },
          .ok (.created secrets.requestId))) := by
  rw [insertStatement, PyProg.runAlone_bind, attempt, PyProg.runAlone_transact]
  cases inserted : db.insertRequest (context.row secrets stamp expires retryOf) with
  | error error =>
    refine .inl ⟨?_, error, rfl⟩
    by_contra free
    rw [insertRequest_row_eq_ok.mpr ⟨free, rfl⟩] at inserted
    exact absurd inserted (by simp)
  | ok after =>
    obtain ⟨free, rfl⟩ := insertRequest_row_eq_ok.mp inserted
    exact .inr ⟨free, rfl⟩

inductive Stored (db : Broker) : Handoff → Prop
  | kept {requestId : Utf8Bytes} (member : requestId ∈ db.requests.map HandoffRequest.requestId) :
      Stored db (.kept requestId)
  | created {requestId : Utf8Bytes}
      (member : requestId ∈ db.requests.map HandoffRequest.requestId) :
      Stored db (.created requestId)

def Unstorable (db : Broker) (context : RequestContext) (secrets : RequestSecrets)
    (stamp : PyStr) : Prop :=
  (∀ expires, future stamp context.ttlSeconds ≠ .ok expires) ∨ db.Clashes secrets

theorem runAlone_insertStatements (retryOf : Option PyStr) :
    (Unstorable db context secrets stamp ∧ ∃ error,
      PyProg.runAlone (insertStatements context secrets stamp retryOf) db = (db, .error error)) ∨
    (¬ Unstorable db context secrets stamp ∧ ∃ after handoff, Stored after handoff ∧
      PyProg.runAlone (insertStatements context secrets stamp retryOf) db =
        (after, .ok handoff)) := by
  rw [insertStatements, PyProg.runAlone_bind, PyProg.runAlone_lift]
  cases isFuture : future stamp context.ttlSeconds with
  | error error =>
    exact .inl ⟨.inl fun expires => by rw [isFuture]; simp, error, rfl⟩
  | ok expires =>
    have unstorable : Unstorable db context secrets stamp ↔ db.Clashes secrets := by
      simp [Unstorable, isFuture]
    rw [unstorable]
    dsimp only
    rcases @runAlone_insertStatement db stamp context secrets expires retryOf with
      ⟨clashes, error, raised⟩ | ⟨free, returned⟩
    · exact .inl ⟨clashes, error, raised⟩
    · exact .inr ⟨free, _, _, .created (by simp [RequestContext.row]), returned⟩

theorem clashes_congr {before after : Broker}
    (same : after.requests.map (fun row => (row.requestId, row.requestCode)) =
      before.requests.map fun row => (row.requestId, row.requestCode)) :
    after.Clashes secrets ↔ before.Clashes secrets := by
  have columns : ∀ db : Broker, db.Clashes secrets ↔
      ∃ pair ∈ db.requests.map (fun row => (row.requestId, row.requestCode)),
        pair.1 = secrets.requestId ∨ pair.2 = secrets.requestCode := by
    simp [Broker.Clashes]
  rw [columns, columns, same]

theorem clashes_supersedeRows (progressState : PyStr) (rows : List HandoffRequest) :
    (db.supersedeRows progressState rows).Clashes secrets ↔ db.Clashes secrets :=
  clashes_congr (@map_updateWhere _ _ _ (Broker.supersede progressState)
    (fun row : HandoffRequest => (row.requestId, row.requestCode)) (fun _ _ => rfl) db.requests)

theorem clashes_expire (now : PyStr) : (db.expire now).Clashes secrets ↔ db.Clashes secrets := by
  apply clashes_congr
  rw [Broker.expire, List.map_map]
  refine List.map_congr_left fun row _ => ?_
  obtain ⟨_, _, _, _, same⟩ := exists_expireRequest_eq db now row
  rw [Function.comp_apply, same]

@[simp]
theorem map_requestId_supersedeRows (progressState : PyStr) (rows : List HandoffRequest) :
    (db.supersedeRows progressState rows).requests.map HandoffRequest.requestId =
      db.requests.map HandoffRequest.requestId :=
  @map_updateWhere _ _ _ (Broker.supersede progressState) HandoffRequest.requestId
    (fun _ _ => rfl) db.requests

theorem canonical_cases (same : List HandoffRequest) :
    ((∀ row ∈ same, row.status = .waitingOperatorOverdue) ∧
      ((same.filter fun row => row.status ≠ .waitingOperatorOverdue).find? fun row =>
        row.status = .claimed).or
          (same.filter fun row => row.status ≠ .waitingOperatorOverdue).head? = none) ∨
    ∃ canonical ∈ same, canonical.status ≠ .waitingOperatorOverdue ∧
      ((same.filter fun row => row.status ≠ .waitingOperatorOverdue).find? fun row =>
        row.status = .claimed).or
          (same.filter fun row => row.status ≠ .waitingOperatorOverdue).head? =
            some canonical := by
  generalize isLive : (same.filter fun row => row.status ≠ .waitingOperatorOverdue) = live
  have members : ∀ row ∈ live, row ∈ same ∧ row.status ≠ .waitingOperatorOverdue := by
    intro row member
    rw [← isLive] at member
    simpa using member
  cases claimed : live.find? fun row => row.status = .claimed with
  | some canonical =>
    obtain ⟨member, isOther⟩ := members canonical (List.mem_of_find?_eq_some claimed)
    exact .inr ⟨canonical, member, isOther, rfl⟩
  | none =>
    cases live with
    | nil =>
      refine .inl ⟨fun row member => ?_, rfl⟩
      by_contra isOther
      have inLive : row ∈ same.filter fun row => row.status ≠ .waitingOperatorOverdue :=
        List.mem_filter.mpr ⟨member, by simpa using isOther⟩
      rw [isLive] at inLive
      exact absurd inLive (List.not_mem_nil)
    | cons canonical rest =>
      obtain ⟨member, isOther⟩ := members canonical (.head _)
      exact .inr ⟨canonical, member, isOther, rfl⟩

/-- The requests on the transport are merged, retried or none; only a new request that
cannot be stored raises. -/
theorem runAlone_sameTransportStatements (same : List HandoffRequest) (retryOf : Option PyStr)
    (members : ∀ row ∈ same, row.requestId ∈ db.requests.map HandoffRequest.requestId) :
    (((∀ row ∈ same, row.status = .waitingOperatorOverdue) ∧
        Unstorable db context secrets stamp) ∧ ∃ after error,
        PyProg.runAlone (sameTransportStatements context secrets stamp same retryOf) db =
          (after, .error error)) ∨
    (¬ ((∀ row ∈ same, row.status = .waitingOperatorOverdue) ∧
        Unstorable db context secrets stamp) ∧ ∃ after handoff, Stored after handoff ∧
        PyProg.runAlone (sameTransportStatements context secrets stamp same retryOf) db =
          (after, .ok handoff)) := by
  unfold sameTransportStatements
  cases isLast : same.getLast? with
  | none =>
    obtain rfl := List.getLast?_eq_none_iff.mp isLast
    have overdue : ∀ row ∈ ([] : List HandoffRequest), row.status = .waitingOperatorOverdue :=
      fun _ absent => nomatch absent
    rcases @runAlone_insertStatements db stamp context secrets retryOf with
      ⟨unstorable, error, raised⟩ | ⟨storable, after, handoff, stored, returned⟩
    · exact .inl ⟨⟨overdue, unstorable⟩, db, error, raised⟩
    · exact .inr ⟨fun both => storable both.2, after, handoff, stored, returned⟩
  | some last =>
    dsimp only
    rcases canonical_cases same with ⟨overdue, noCanonical⟩ | ⟨canonical, member, live, found⟩
    · simp only [noCanonical, PyProg.runAlone_bind, update, PyProg.runAlone_transact]
      have unstorable : Unstorable (db.supersedeRows (py "SUPERSEDED_BY_RETRY") same) context
          secrets stamp ↔ Unstorable db context secrets stamp := by
        rw [Unstorable, Unstorable, clashes_supersedeRows]
      have inserted := @runAlone_insertStatements
        (db.supersedeRows (py "SUPERSEDED_BY_RETRY") same) stamp context secrets
        (some last.requestId.text)
      rw [unstorable] at inserted
      rcases inserted with
        ⟨isUnstorable, error, raised⟩ | ⟨storable, after, handoff, stored, returned⟩
      · exact .inl ⟨⟨overdue, isUnstorable⟩, _, error, raised⟩
      · exact .inr ⟨fun both => storable both.2, after, handoff, stored, returned⟩
    · simp only [found, PyProg.runAlone_bind, update, PyProg.runAlone_transact]
      refine .inr ⟨fun both => live (both.1 canonical member), _, _, .kept ?_, rfl⟩
      rw [map_requestId_supersedeRows]
      exact members canonical member

/-- The requests that `create_request` finds after the expiry. -/
def Broker.siblings (db : Broker) (context : RequestContext) (stamp : PyStr) :
    List HandoffRequest :=
  (db.expire stamp).activeRequestRows context.scopeType context.scopeId context.questionDigest

def ClaimedElsewhere (db : Broker) (context : RequestContext) (stamp : PyStr) : Prop :=
  ∃ row ∈ db.siblings context stamp,
    row.transportOr ≠ context.transport ∧ row.status = .claimed

def NothingLive (db : Broker) (context : RequestContext) (stamp : PyStr) : Prop :=
  ∀ row ∈ db.siblings context stamp,
    row.transportOr = context.transport → row.status = .waitingOperatorOverdue

theorem mem_requests_of_mem_siblings {row : HandoffRequest}
    (member : row ∈ db.siblings context stamp) : row ∈ (db.expire stamp).requests := by
  rw [Broker.siblings, Broker.activeRequestRows, List.mem_insertionSort] at member
  exact List.mem_of_mem_filter member

theorem runAlone_reconcileStatements :
    (ClaimedElsewhere db context stamp ∧ ∃ after row,
      PyProg.runAlone (reconcileStatements context secrets stamp) db =
        (after, .ok (.foreign row))) ∨
    (¬ ClaimedElsewhere db context stamp ∧
      (NothingLive db context stamp ∧ Unstorable db context secrets stamp) ∧ ∃ after error,
        PyProg.runAlone (reconcileStatements context secrets stamp) db = (after, .error error)) ∨
    (¬ ClaimedElsewhere db context stamp ∧
      ¬ (NothingLive db context stamp ∧ Unstorable db context secrets stamp) ∧
      ∃ after handoff, Stored after handoff ∧
        PyProg.runAlone (reconcileStatements context secrets stamp) db =
          (after, .ok handoff)) := by
  have run : PyProg.runAlone (reconcileStatements context secrets stamp) db =
      PyProg.runAlone (siblingStatements context secrets stamp (db.siblings context stamp))
        (db.expire stamp) := rfl
  have nothingLive : NothingLive db context stamp ↔
      ∀ row ∈ (db.siblings context stamp).filter fun row => row.transportOr = context.transport,
        row.status = .waitingOperatorOverdue := by
    simp [NothingLive]
  have unstorable : Unstorable (db.expire stamp) context secrets stamp ↔
      Unstorable db context secrets stamp := by
    rw [Unstorable, Unstorable, clashes_expire]
  have members : ∀ row ∈ (db.siblings context stamp).filter fun row =>
      row.transportOr = context.transport,
      row.requestId ∈ (db.expire stamp).requests.map HandoffRequest.requestId := by
    intro row member
    exact List.mem_map_of_mem (mem_requests_of_mem_siblings (List.mem_of_mem_filter member))
  rw [run, nothingLive, siblingStatements]
  cases claimed : ((db.siblings context stamp).filter fun row =>
      row.transportOr ≠ context.transport).find? fun row => row.status = .claimed with
  | some row =>
    have member := List.mem_filter.mp (List.mem_of_find?_eq_some claimed)
    refine .inl ⟨⟨row, member.1, by simpa using member.2, ?_⟩, _, row, rfl⟩
    simpa using List.find?_some claimed
  | none =>
    have nowhere : ¬ ClaimedElsewhere db context stamp := by
      rintro ⟨row, member, isForeign, isClaimed⟩
      have notFound := List.find?_eq_none.mp claimed row
        (List.mem_filter.mpr ⟨member, by simpa using isForeign⟩)
      exact notFound (by simpa using isClaimed)
    cases isLast : ((db.siblings context stamp).filter fun row =>
        row.transportOr ≠ context.transport).getLast? with
    | none =>
      rw [← unstorable]
      rcases runAlone_sameTransportStatements _ none members with
        ⟨stuck, failed⟩ | ⟨notStuck, stored⟩
      · exact .inr (.inl ⟨nowhere, stuck, failed⟩)
      · exact .inr (.inr ⟨nowhere, notStuck, stored⟩)
    | some last =>
      have superseded : Unstorable ((db.expire stamp).supersedeRows
          (py "SUPERSEDED_TRANSPORT_MIGRATION") ((db.siblings context stamp).filter fun row =>
            row.transportOr ≠ context.transport)) context secrets stamp ↔
          Unstorable db context secrets stamp := by
        rw [← unstorable, Unstorable, Unstorable, clashes_supersedeRows]
      rw [← superseded]
      dsimp only
      rw [PyProg.runAlone_bind, update, PyProg.runAlone_transact]
      dsimp only
      have keptMembers : ∀ row ∈ (db.siblings context stamp).filter fun row =>
          row.transportOr = context.transport,
          row.requestId ∈ ((db.expire stamp).supersedeRows
            (py "SUPERSEDED_TRANSPORT_MIGRATION") ((db.siblings context stamp).filter fun row =>
              row.transportOr ≠ context.transport)).requests.map HandoffRequest.requestId := by
        intro row member
        rw [map_requestId_supersedeRows]
        exact members row member
      rcases runAlone_sameTransportStatements _ (some last.requestId.text) keptMembers with
        ⟨stuck, failed⟩ | ⟨notStuck, stored⟩
      · exact .inr (.inl ⟨nowhere, stuck, failed⟩)
      · exact .inr (.inr ⟨nowhere, notStuck, stored⟩)

end SaasBroker

end CyberLion
