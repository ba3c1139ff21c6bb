import CyberLion.SaasBrokerFencing
import CyberLion.SaasBrokerTransactions
import CyberLion.Sha256Evaluation

/-!
# Runs of the SaaS broker on several connections

Each connection makes one call after another, and between the statements of a call the others
go on.  A claim and an answer are one transaction each, and are recorded with it.
-/

namespace CyberLion

namespace SaasBroker

open PyLib

variable {α β : Type}

/-! ### Safe calls -/

theorem evolves_trans (first second third : Broker) (earlier : Evolves first second)
    (later : Evolves second third) : Evolves first third :=
  earlier.trans later

abbrev SafeCall (program : SqlProg Broker β) : Prop :=
  SqlProg.Safe Consistent Evolves program

theorem safeCall_select (conn : Nat) (texts : List PyStr) (view : Broker → Except PyError β) :
    SafeCall (SqlProg.select conn texts view) :=
  SqlProg.safe_select .refl conn texts view

theorem safeCall_commit (conn : Nat) : SafeCall (SqlProg.commit conn) :=
  SqlProg.safe_commit .refl conn

theorem safeCall_write (conn : Nat) (texts : List PyStr) {statements : PyProg Broker β}
    (sound : SqlProg.Sound Consistent Evolves statements) :
    SafeCall (SqlProg.write conn texts statements) :=
  SqlProg.safe_write .refl evolves_trans conn texts sound

theorem safeCall_atomically {statements : SqlProg Broker β} (safe : SafeCall statements) :
    SafeCall (SqlProg.atomically statements) :=
  SqlProg.safe_atomically .refl evolves_trans safe

theorem safeCall_orRollback (conn : Nat) {statements : SqlProg Broker β}
    (safe : SafeCall statements) : SafeCall (SqlProg.orRollback conn statements) :=
  SqlProg.safe_orRollback .refl evolves_trans conn safe

theorem safeCall_expire (conn : Nat) (stamp : PyStr) : SafeCall (SqlProg.atomically do
    SqlProg.write conn [] (update (Broker.expire · stamp))
    SqlProg.commit conn) :=
  safeCall_atomically (.bind (safeCall_write conn [] (sound_expire stamp))
    fun _ => safeCall_commit conn)

theorem safeCall_requestStatus (conn : Nat) (requestId stamp : PyStr) :
    SafeCall (requestStatus conn requestId stamp) := by
  refine .bind (safeCall_expire conn stamp) fun _ => .bind (safeCall_select ..) fun found => ?_
  cases found with
  | none => exact SqlProg.safe_lift _
  | some row => exact .bind (safeCall_select ..) fun _ => SqlProg.safe_pure _

theorem safeCall_pendingRequest (conn : Nat) (requestCode missionId : Option PyStr)
    (stamp : PyStr) : SafeCall (pendingRequest conn requestCode missionId stamp) := by
  refine .bind (safeCall_expire conn stamp) fun _ => .bind (safeCall_select ..) fun found => ?_
  cases found with
  | none => exact SqlProg.safe_pure _
  | some row => exact .bind (safeCall_select ..) fun _ => SqlProg.safe_pure _

theorem safeCall_bridgeStatus (project : BridgeStatus → Except PyError α) (conn : Nat)
    (missionId : Option PyStr) (stamp : PyStr) :
    SafeCall (bridgeStatus project conn missionId stamp) :=
  .bind (safeCall_expire conn stamp) fun _ => .bind (safeCall_select ..) fun _ =>
    .bind (SqlProg.safe_lift _) fun _ => SqlProg.safe_pure _

theorem safeCall_cancelRequest (conn : Nat) (requestId stamp : PyStr) :
    SafeCall (cancelRequest conn requestId stamp) := by
  refine .bind (safeCall_orRollback conn (safeCall_select ..)) fun found => ?_
  cases found with
  | none => exact .bind (safeCall_commit conn) fun _ => SqlProg.safe_pure _
  | some row =>
    refine .bind (safeCall_atomically (safeCall_orRollback conn ?_)) fun _ =>
      .bind (safeCall_requestStatus conn requestId stamp) fun _ => SqlProg.safe_pure _
    exact .bind (safeCall_write conn _ (sound_cancelStatement requestId)) fun _ =>
      .bind (safeCall_commit conn) fun _ => SqlProg.safe_pure _

theorem safeCall_recordMediatorHeartbeat (conn : Nat) (payload : Json) (stamp : PyStr) :
    SafeCall (recordMediatorHeartbeat conn payload stamp) := by
  refine .bind (SqlProg.safe_lift _) fun input => .bind (SqlProg.safe_lift _) fun details =>
    safeCall_atomically ?_
  exact .bind (safeCall_write conn _ (sound_heartbeatStatements input details)) fun _ =>
    .bind (safeCall_commit conn) fun _ => SqlProg.safe_pure _

section Create

variable {conn : Nat} {arguments : CreateArguments} {stamp : PyStr}

theorem isSome_expectedScope {scopeType : ScopeType}
    (checked : arguments.checkScope scopeType = .ok ()) :
    (arguments.expectedScope scopeType).isSome = true := by
  obtain ⟨_, isThread, checked⟩ := bind_eq_ok.mp checked
  obtain ⟨_, -, isMission⟩ := bind_eq_ok.mp checked
  rw [raiseIf_eq_ok] at isThread isMission
  cases scopeType with
  | controlPlane => rfl
  | thread =>
    rw [CreateArguments.expectedScope, Option.isSome_iff_ne_none]
    exact fun absent => isThread ⟨rfl, absent⟩
  | mission =>
    rw [CreateArguments.expectedScope, Option.isSome_iff_ne_none]
    exact fun absent => isMission ⟨rfl, .inl absent⟩

theorem yields_createScope (hasScope : arguments.scopeType ≠ none) :
    PyProg.Yields (fun scope : ScopeType × Option PyStr × Option PyStr => scope.2.1.isSome = true)
      (createScope conn arguments) := by
  obtain ⟨text, isText⟩ := Option.ne_none_iff_exists'.mp hasScope
  rw [createScope, isText]
  refine .bind (PyProg.yields_any _) fun scopeType _ => ?_
  refine .bind (PyProg.yields_lift fun _ checked => checked) fun _ checked => ?_
  have last : PyProg.Yields
      (fun scope : ScopeType × Option PyStr × Option PyStr => scope.2.1.isSome = true)
      (show SqlProg Broker _ from do
        PyProg.lift (raiseIf (arguments.scopeId ≠ none ∧
          arguments.scopeId ≠ arguments.expectedScope scopeType)
          (brokerError (py "scope_id mismatch")))
        return (scopeType, arguments.expectedScope scopeType, none)) :=
    .bind (PyProg.yields_any _) fun _ _ => PyProg.yields_pure (isSome_expectedScope checked)
  split
  · exact .bind (PyProg.yields_any _) fun _ _ => .bind (PyProg.yields_any _) fun _ _ => last
  · exact last

theorem yields_createContext (hasScope : arguments.scopeType ≠ none) :
    PyProg.Yields RequestContext.Scoped (createContext conn arguments stamp) := by
  refine .bind (PyProg.yields_any _) fun _ _ => ?_
  refine .bind (yields_createScope hasScope) fun scope isScope => ?_
  refine .bind (PyProg.yields_any _) fun _ _ => .bind (PyProg.yields_any _) fun _ _ =>
    PyProg.yields_pure ⟨?_, isScope⟩
  simpa using hasScope

theorem safeCall_createScope : SafeCall (createScope conn arguments) := by
  rw [createScope]
  split
  · exact .bind (safeCall_select ..) fun _ => .bind (safeCall_select ..) fun _ =>
      .bind (SqlProg.safe_lift _) fun _ => SqlProg.safe_pure _
  · refine .bind (SqlProg.safe_lift _) fun _ => .bind (SqlProg.safe_lift _) fun _ => ?_
    split
    · exact .bind (safeCall_select ..) fun _ => .bind (SqlProg.safe_lift _) fun _ =>
        .bind (SqlProg.safe_lift _) fun _ => SqlProg.safe_pure _
    · exact .bind (SqlProg.safe_lift _) fun _ => SqlProg.safe_pure _

theorem safeCall_createTransport : SafeCall (createTransport conn arguments stamp) := by
  rw [createTransport]
  split
  · exact .bind (SqlProg.safe_lift _) fun _ => SqlProg.safe_pure _
  · split
    · exact SqlProg.safe_pure _
    · exact safeCall_select ..

theorem safeCall_createContext : SafeCall (createContext conn arguments stamp) :=
  .bind (SqlProg.safe_lift _) fun _ => .bind safeCall_createScope fun _ =>
    .bind (SqlProg.safe_lift _) fun _ => .bind safeCall_createTransport fun _ =>
      SqlProg.safe_pure _

theorem safeCall_createReply (handoff : Handoff) : SafeCall (createReply conn handoff) := by
  cases handoff with
  | foreign row => exact SqlProg.safe_pure _
  | kept requestId => exact .bind (safeCall_select ..) fun _ => SqlProg.safe_lift _
  | created requestId => exact .bind (safeCall_select ..) fun _ => SqlProg.safe_lift _

theorem safeCall_commitHandoff (handoff : Handoff) : SafeCall (commitHandoff conn handoff) := by
  cases handoff with
  | foreign row => exact SqlProg.safe_pure _
  | kept requestId => exact .bind (safeCall_commit conn) fun _ => SqlProg.safe_pure _
  | created requestId => exact .bind (safeCall_commit conn) fun _ => SqlProg.safe_pure _

theorem safeCall_createRequest (hasScope : arguments.scopeType ≠ none)
    (secrets : RequestSecrets) : SafeCall (createRequest conn arguments secrets stamp) := by
  refine PyProg.Within.bind_of_yields safeCall_createContext (yields_createContext hasScope)
    fun context hasKey => .bind (safeCall_atomically ?_) safeCall_createReply
  rw [createHandoff, if_neg (by simp [hasKey.modern])]
  exact .bind (safeCall_write conn [] (sound_reconcileStatements hasKey)) safeCall_commitHandoff

end Create

/-! ### Calls with a history -/

structure World where
  file : SqlFile Broker
  log : List Entry

def World.setFile (world : World) (file : SqlFile Broker) : World :=
  { world with file }

theorem file_setFile (world : World) (file : SqlFile Broker) : (world.setFile file).file = file :=
  rfl

theorem log_setFile (world : World) (file : SqlFile Broker) :
    (world.setFile file).log = world.log :=
  rfl

/-- A call that is one transaction, with the entry that it adds when it returns. -/
def recorded (call : SqlProg Broker β) (entry : β → Entry) : PyProg World β :=
  .transact fun world =>
    match PyProg.runAlone call world.file with
    | (file, .ok value) => (⟨file, world.log ++ [entry value]⟩, .ok value)
    | (file, .error error) => (⟨file, world.log⟩, .error error)

def BrokerCall.enact (project : BridgeStatus → Except PyError α) (conn : Nat) (time : DateTime) :
    BrokerCall → PyProg World (BrokerReply α)
  | .claim requestId leaseSeconds token => do
    return .claimed (← recorded (SaasBroker.claim conn requestId time.zulu leaseSeconds token)
      .claimed)
  | .respond arguments bindingHex => do
    return .responded (← recorded (SaasBroker.respond conn arguments time.zulu bindingHex)
      fun _ => .answered arguments time)
  | call => PyProg.zoom World.file World.setFile (call.perform project conn time.zulu)

def session (project : BridgeStatus → Except PyError α) (conn : Nat) :
    List (BrokerCall × DateTime) → Prog World (List (Except PyError (BrokerReply α)))
  | [] => .ret []
  | (call, time) :: calls => do
    let reply ← ExceptT.run (call.enact project conn time)
    let replies ← session project conn calls
    return reply :: replies

def connections (project : BridgeStatus → Except PyError α) (db : Broker) (version : Nat)
    (calls : List (List (BrokerCall × DateTime))) :
    Pool World (List (Except PyError (BrokerReply α))) :=
  ⟨⟨.quiet db version, []⟩, calls.mapIdx (session project)⟩

/-! ### Steps -/

def Dated (_ : List Entry) : Entry → Prop
  | .claimed reply => ∃ expires : DateTime, reply.claimExpiresAt = expires.zulu
  | .answered .. => True

structure World.Keeps (world : World) : Prop where
  file : world.file.Keeps Consistent Evolves world.log
  fenced : EachEntry Fenced world.log
  dated : EachEntry Dated world.log

def World.Leads (before after : World) : Prop :=
  before.Keeps → after.Keeps ∧ Evolves before.file.committed after.file.committed ∧
    before.log <+: after.log

theorem World.Leads.refl (world : World) : world.Leads world :=
  fun keeps => ⟨keeps, .refl _, List.prefix_refl _⟩

theorem World.Leads.trans (first second third : World) (earlier : first.Leads second)
    (later : second.Leads third) : first.Leads third := by
  intro keeps
  obtain ⟨middle, firstStep, firstLog⟩ := earlier keeps
  obtain ⟨final, secondStep, secondLog⟩ := later middle
  exact ⟨final, firstStep.trans secondStep, firstLog.trans secondLog⟩

theorem leads_zoom {program : SqlProg Broker β} (safe : SafeCall program) :
    PyProg.Within World.Leads (PyProg.zoom World.file World.setFile program) := by
  refine Prog.Within.imp (Prog.Within.zoom_kept file_setFile log_setFile safe) ?_
  rintro before after ⟨step, sameLog⟩ keeps
  obtain ⟨file, leads⟩ := step before.log keeps.file
  refine ⟨⟨?_, ?_, ?_⟩, leads, ?_⟩ <;> rw [sameLog]
  · exact file
  · exact keeps.fenced
  · exact keeps.dated

theorem leads_recorded {call : SqlProg Broker β} {statements : PyProg Broker β}
    {entry : β → Entry}
    (whole : ∀ file, SqlProg.Whole statements file (PyProg.runAlone call file))
    (stands : ∀ history db after value, Consistent history db →
      PyProg.runAlone statements db = (after, .ok value) →
        Consistent (history ++ [entry value]) after ∧ Evolves db after ∧
          Fenced history (entry value) ∧ Dated history (entry value)) :
    PyProg.Within World.Leads (recorded call entry) := by
  refine PyProg.within_transact fun world keeps => ?_
  have isWhole := whole world.file
  cases outcome : PyProg.runAlone call world.file with
  | mk file result =>
    rw [outcome] at isWhole
    cases isWhole with
    | committed free ran released =>
      obtain ⟨consistent, evolves, fenced, dated⟩ :=
        stands _ _ _ _ keeps.file.committed ran
      refine ⟨⟨⟨consistent, fun conn work isWriter => ?_⟩, keeps.fenced.snoc fenced,
        keeps.dated.snoc dated⟩, evolves, List.prefix_append _ _⟩
      exact absurd (released.symm.trans isWriter) (by simp)
    | undone kept writer =>
      refine ⟨⟨⟨?_, fun conn work isWriter => ?_⟩, keeps.fenced, keeps.dated⟩, ?_,
        List.prefix_refl _⟩
      · exact kept ▸ keeps.file.committed
      · change file.writer = some (conn, work) at isWriter
        change Consistent world.log work ∧ Evolves file.committed work
        rcases writer with same | none
        · rw [kept]
          exact keeps.file.written conn work (same ▸ isWriter)
        · exact absurd (none.symm.trans isWriter) (by simp)
      · change Evolves world.file.committed file.committed
        rw [kept]
        exact .refl _

theorem exists_zulu_of_future {stamp expires : PyStr} {seconds : Int}
    (computed : future stamp seconds = .ok expires) :
    ∃ time : DateTime, expires = time.zulu := by
  obtain ⟨_, -, computed⟩ := bind_eq_ok.mp computed
  obtain ⟨_, -, computed⟩ := bind_eq_ok.mp computed
  obtain ⟨time, -, computed⟩ := bind_eq_ok.mp computed
  exact ⟨time, (Except.ok.inj computed).symm⟩

theorem leads_claim (conn : Nat) (requestId stamp : PyStr) (leaseSeconds : Int)
    (token : PyStr) : PyProg.Within World.Leads
      (recorded (SaasBroker.claim conn requestId stamp leaseSeconds token) .claimed) := by
  refine @leads_recorded _ _ (claimStatements requestId stamp leaseSeconds token) _
    (fun file => ?_) fun history db after reply consistent ran => ?_
  · rw [SaasBroker.claim, PyProg.runAlone_bind, PyProg.runAlone_lift]
    cases raiseIf (¬ (1 ≤ leaseSeconds ∧ leaseSeconds ≤ 300)) (brokerError (py "claim lease")) with
    | error error => exact .undone rfl (.inl rfl)
    | ok _ => exact SqlProg.whole_begin conn _ file
  · obtain ⟨final, step, fenced, computed⟩ := consistent.claimStatements ran
    exact ⟨final, step, fenced, exists_zulu_of_future computed⟩

theorem leads_respond (conn : Nat) (arguments : RespondArguments) (time : DateTime)
    (bindingHex : PyStr) : PyProg.Within World.Leads
      (recorded (SaasBroker.respond conn arguments time.zulu bindingHex)
        fun _ => .answered arguments time) := by
  refine @leads_recorded _ _ (respondStatements arguments time.zulu bindingHex) _
    (fun file => SqlProg.whole_orRollback conn arguments.check _ file)
    fun history db after reply consistent ran => ?_
  obtain ⟨final, step, fenced⟩ := consistent.respondStatements ran
  exact ⟨final, step, fenced, trivial⟩

/-! ### Runs -/

def BrokerCall.HasScope : BrokerCall → Prop
  | .createRequest arguments _ => arguments.scopeType ≠ none
  | _ => True

theorem leads_enact (project : BridgeStatus → Except PyError α) (conn : Nat) (time : DateTime)
    {call : BrokerCall} (hasScope : call.HasScope) :
    PyProg.Within World.Leads (call.enact project conn time) := by
  cases call with
  | claim requestId leaseSeconds token =>
    exact .bind (leads_claim ..) fun _ => PyProg.within_pure _
  | respond arguments bindingHex =>
    exact .bind (leads_respond ..) fun _ => PyProg.within_pure _
  | createRequest arguments secrets =>
    exact leads_zoom (.bind (safeCall_createRequest hasScope secrets) fun _ =>
      SqlProg.safe_pure _)
  | cancelRequest requestId =>
    exact leads_zoom (.bind (safeCall_cancelRequest ..) fun _ => SqlProg.safe_pure _)
  | requestStatus requestId =>
    exact leads_zoom (.bind (safeCall_requestStatus ..) fun _ => SqlProg.safe_pure _)
  | pendingRequest requestCode missionId =>
    exact leads_zoom (.bind (safeCall_pendingRequest ..) fun _ => SqlProg.safe_pure _)
  | bridgeStatus missionId =>
    exact leads_zoom (.bind (safeCall_bridgeStatus ..) fun _ => SqlProg.safe_pure _)
  | recordMediatorHeartbeat payload =>
    exact leads_zoom (.bind (safeCall_recordMediatorHeartbeat ..) fun _ => SqlProg.safe_pure _)

theorem leads_session (project : BridgeStatus → Except PyError α) (conn : Nat)
    {calls : List (BrokerCall × DateTime)} (hasScope : ∀ call ∈ calls, call.1.HasScope) :
    (session project conn calls).Within World.Leads := by
  induction calls with
  | nil => exact .ret _
  | cons call calls ih =>
    obtain ⟨first, rest⟩ := List.forall_mem_cons.mp hasScope
    exact .bind (leads_enact project conn call.2 first) fun _ => .bind (ih rest) fun _ => .ret _

structure Broker.Fresh (db : Broker) : Prop where
  requests : db.requests = []
  bindings : db.bindings = []
  receipts : db.receipts = []

theorem Broker.Fresh.consistent {db : Broker} (fresh : db.Fresh) : Consistent [] db where
  ids := by simp [fresh.requests]
  active := by simp [fresh.requests, activeKeys]
  shows := by simp [fresh.requests]
  known _ some := absurd rfl some
  receipts := by simp [fresh.receipts, answersOf]
  unique := by simp [fresh.receipts]
  global := by simp [fresh.bindings, Broker.globalBindings]

/-- An answer comes before the expiry of the newest claim, as instants. -/
def InTime (history : List Entry) : Entry → Prop
  | .claimed _ => True
  | .answered arguments time => ∃ claim expires,
      newestClaim history arguments.requestId = some claim ∧
      parseTs claim.claimExpiresAt = .ok (.aware expires 0) ∧ time.packed < expires.packed

/-- An answer comes in the second of the expiry of the newest claim, which is a whole one, and
after it. -/
def Slips (history : List Entry) : Entry → Prop
  | .claimed _ => False
  | .answered arguments time => ∃ claim expires,
      newestClaim history arguments.requestId = some claim ∧
      parseTs claim.claimExpiresAt = .ok (.aware expires 0) ∧
      DateTime.WholeSecondBefore expires time

theorem parseTs_zulu (time : DateTime) : parseTs time.zulu = .ok (.aware time 0) := by
  rw [parseTs, DateTime.fromIsoFormat_zulu]

theorem inTime_iff {history : List Entry} {entry : Entry} (dated : EachEntry Dated history)
    (fenced : Fenced history entry) : InTime history entry ↔ ¬ Slips history entry := by
  cases entry with
  | claimed reply => exact iff_of_true trivial not_false
  | answered arguments time =>
    obtain ⟨claim, isNewest, -, -, before⟩ := fenced
    have isClaimed : Entry.claimed claim ∈ history := by
      have member := List.mem_of_getLast? isNewest
      obtain ⟨entry, isEntry, isClaim⟩ := List.mem_filterMap.mp member
      cases entry with
      | claimed reply =>
        dsimp only at isClaim
        split at isClaim
        · obtain rfl := Option.some.inj isClaim
          exact isEntry
        · exact nomatch isClaim
      | answered _ _ => exact nomatch isClaim
    obtain ⟨first, rest, same⟩ := List.append_of_mem isClaimed
    obtain ⟨expires, isExpires⟩ := dated first _ rest same
    rw [isExpires] at before
    have parsed : parseTs claim.claimExpiresAt = .ok (.aware expires 0) := by
      rw [isExpires, parseTs_zulu]
    constructor
    · rintro ⟨_, _, isNewest', parsed', inTime⟩ ⟨_, _, isNewest'', parsed'', slips⟩
      obtain rfl := Option.some.inj (isNewest'.symm.trans isNewest)
      obtain rfl := Option.some.inj (isNewest''.symm.trans isNewest)
      obtain rfl := Moment.aware.inj (Except.ok.inj (parsed'.symm.trans parsed)) |>.1
      obtain rfl := Moment.aware.inj (Except.ok.inj (parsed''.symm.trans parsed)) |>.1
      exact (DateTime.packed_lt_iff_of_zulu_lt before).mp inTime slips
    · intro notSlips
      refine ⟨claim, expires, isNewest, parsed, ?_⟩
      exact (DateTime.packed_lt_iff_of_zulu_lt before).mpr fun slips =>
        notSlips ⟨claim, expires, isNewest, parsed, slips⟩

/-- Claims are fenced, and answers unique, in a run: what holds of the tables at each point,
what they become from one point to another, and that an answer is that of the newest claim
and in time. -/
structure Protected {ρ : Type} (pool : Pool World ρ) (schedule : List Nat) : Prop where
  tables : ∀ first rest, schedule = first ++ rest →
    Consistent (pool.run first).shared.log (pool.run first).shared.file.committed
  evolves : ∀ first middle rest, schedule = first ++ middle ++ rest →
    Evolves (pool.run first).shared.file.committed
        (pool.run (first ++ middle)).shared.file.committed ∧
      (pool.run first).shared.log <+: (pool.run (first ++ middle)).shared.log
  fenced : EachEntry Fenced (pool.run schedule).shared.log
  inTime : EachEntry InTime (pool.run schedule).shared.log

/-- The calls of a run are protected exactly when no answer slips. -/
theorem protected_iff (project : BridgeStatus → Except PyError α) {db : Broker}
    (fresh : db.Fresh) (version : Nat) {calls : List (List (BrokerCall × DateTime))}
    (hasScope : ∀ connection ∈ calls, ∀ call ∈ connection, call.1.HasScope)
    (schedule : List Nat) :
    Protected (connections project db version calls) schedule ↔
      EachEntry (fun history entry => ¬ Slips history entry)
        ((connections project db version calls).run schedule).shared.log := by
  have within : ∀ thread ∈ (connections project db version calls).threads,
      thread.Within World.Leads := by
    intro thread member
    obtain ⟨conn, bound, rfl⟩ := List.mem_mapIdx.mp member
    exact leads_session project conn (hasScope _ (List.getElem_mem bound))
  have leads : ∀ first middle, ((connections project db version calls).run first).shared.Leads
      ((connections project db version calls).run (first ++ middle)).shared := by
    intro first middle
    rw [Pool.run_append]
    exact Pool.allowed_run World.Leads.refl World.Leads.trans (Pool.within_run within first) middle
  have keeps : ∀ first,
      ((connections project db version calls).run first).shared.Keeps := by
    intro first
    refine (leads [] first ?_).1
    exact ⟨⟨fresh.consistent, fun _ _ absent => nomatch absent⟩, eachEntry_nil _, eachEntry_nil _⟩
  have timely : ∀ first entry rest,
      ((connections project db version calls).run schedule).shared.log = first ++ entry :: rest →
        (InTime first entry ↔ ¬ Slips first entry) := by
    intro first entry rest same
    have final := keeps schedule
    refine inTime_iff (fun earlier other between isOther => ?_) (final.fenced first entry rest same)
    exact final.dated earlier other (between ++ entry :: rest) (by rw [same, isOther]; simp)
  constructor
  · intro isProtected first entry rest same
    exact (timely first entry rest same).mp (isProtected.inTime first entry rest same)
  · intro noSlip
    refine ⟨fun first rest _ => (keeps first).file.committed,
      fun first middle rest _ => (leads first middle (keeps first)).2, (keeps schedule).fenced, ?_⟩
    intro first entry rest same
    exact (timely first entry rest same).mpr (noSlip first entry rest same)

/-! ### An answer in the second of the expiry -/

section LateAnswer

open SqlFile

def lateTime : DateTime :=
  ⟨2026, 1, 1, 12, 5, 0, 500000, by decide⟩

def lateSecrets : RequestSecrets :=
  ⟨⟨py "saas-1", isEncodable_py _⟩, py "0A0B0C0D", py "token"⟩

def lateArguments : CreateArguments :=
  ⟨none, py "why", 900, some (py "CONTROL_PLANE"), none, none, py "NONE",
    some SENTINELX_MCP_TRANSPORT⟩

def freshBroker : Broker :=
  ⟨[], [], [], [], [], none, [], none⟩

def lateAnswer : RespondArguments :=
  ⟨py "saas-1", py "claim", py "because", py "model", SENTINELX_MCP_TRANSPORT,
    SENTINELX_MCP_ATTESTATION_CLASS, 900, some 1⟩

def lateCalls : List (BrokerCall × DateTime) :=
  [(.createRequest lateArguments lateSecrets, collisionTime),
    (.claim (py "saas-1") 300 (py "claim"), collisionTime),
    (.respond lateAnswer (py "b"), lateTime)]

theorem exists_run_session (project : BridgeStatus → Except PyError α) (db : Broker)
    (version : Nat) (calls : List (BrokerCall × DateTime)) :
    ∃ schedule, ((connections project db version [calls]).run schedule).shared =
      ((session project 0 calls).run ⟨quiet db version, []⟩).1 := by
  have isSession : (connections project db version [calls]).threads[0]? =
      some (session project 0 calls) := rfl
  obtain ⟨schedule, ran⟩ := Pool.exists_run_alone isSession
  exact ⟨schedule, congrArg Pool.shared ran⟩

/-- An answer at the time of `lateTime` on a claim that expires in the same second. -/
def isLate : List Entry → Bool
  | [.claimed reply, .answered _ time] =>
    reply.claimExpiresAt = py "2026-01-01T12:05:00Z" ∧ time = lateTime
  | _ => false

theorem isLate_lateCalls :
    isLate ((session (fun _ => .ok ()) 0 lateCalls).run ⟨quiet freshBroker 0, []⟩).1.log = true := by
  simp only [lateCalls, session, BrokerCall.enact]
  delta SaasBroker.respond respondStatements answerStatements SaasBroker.digest
  rw [Sha256.sha256_eq_evalText]
  decide +kernel

theorem exists_of_isLate {log : List Entry} (late : isLate log = true) :
    ∃ reply arguments, log = [.claimed reply, .answered arguments lateTime] ∧
      reply.claimExpiresAt = py "2026-01-01T12:05:00Z" := by
  unfold isLate at late
  split at late
  · obtain ⟨expires, rfl⟩ := of_decide_eq_true late
    exact ⟨_, _, rfl, expires⟩
  · exact nomatch late

theorem hasScope_lateCalls : ∀ connection ∈ [lateCalls], ∀ call ∈ connection, call.1.HasScope := by
  simp only [lateCalls, List.forall_mem_cons]
  exact ⟨⟨by simp [BrokerCall.HasScope, lateArguments], trivial, trivial,
    fun _ absent => nomatch absent⟩, fun _ absent => nomatch absent⟩

/-- The answer of a claim is accepted half a second after the claim has expired. -/
theorem not_protected_late :
    ¬ ∀ (db : Broker) (version : Nat) (calls : List (List (BrokerCall × DateTime)))
      (schedule : List Nat), db.Fresh →
      (∀ connection ∈ calls, ∀ call ∈ connection, call.1.HasScope) →
      Protected (connections (fun _ => .ok ()) db version calls) schedule := by
  intro always
  have fresh : freshBroker.Fresh := ⟨rfl, rfl, rfl⟩
  obtain ⟨schedule, shared⟩ := exists_run_session (fun _ => .ok ()) freshBroker 0 lateCalls
  obtain ⟨reply, arguments, log, expiresAt⟩ := exists_of_isLate isLate_lateCalls
  have inTime : InTime [.claimed reply] (.answered arguments lateTime) :=
    (always freshBroker 0 [lateCalls] schedule fresh hasScope_lateCalls).inTime _ _ []
      ((congrArg World.log shared).trans log)
  have expires : parseTs (py "2026-01-01T12:05:00Z") =
      .ok (.aware ⟨2026, 1, 1, 12, 5, 0, 0, by decide⟩ 0) := by decide +kernel
  obtain ⟨claim, instant, isNewest, isExpires, before⟩ := inTime
  have member : claim ∈ claimsOf [.claimed reply] arguments.requestId :=
    List.mem_of_getLast? isNewest
  obtain rfl : claim = reply := by
    rw [claimsOf, List.filterMap_cons] at member
    grind
  rw [expiresAt, expires] at isExpires
  obtain ⟨rfl, -⟩ := Moment.aware.inj (Except.ok.inj isExpires)
  exact absurd before (by decide)

/-- Until the claim there is nothing to protect. -/
theorem protected_lateCalls :
    Protected (connections (fun _ => .ok ()) freshBroker 0 [lateCalls]) [0] :=
  (protected_iff (fun _ => .ok ()) ⟨rfl, rfl, rfl⟩ 0 hasScope_lateCalls [0]).mpr
    (eachEntry_nil _)

end LateAnswer

end SaasBroker

end CyberLion
