import CyberLion.AtomicProgram
import CyberLion.AuthorityVerification
import CyberLion.PyInt

/-!
# The persistent authority state

`SQLiteAuthorityStateStore` of `enterprise/persistent_authority_state.py`: the
tables of epoch states, root anchors and replay keys, and the operations on
them.  A transaction is one atomic step; a read is another.  Binding a value
that SQLite cannot store raises and leaves the tables as they were.  The
tables of origins and issuances are touched by none of these operations.
-/

namespace CyberLion

open PyLib

def persistentAuthorityStateErrorClass : ErrorClass :=
  .declared .runtimeError (py "PersistentAuthorityStateError")

/-- `PersistentAuthorityStateError(message)`. -/
def persistentError (message : PyStr) : PyError :=
  ⟨persistentAuthorityStateErrorClass, message⟩

/-- The texts that `_sha256` accepts: `int` must read all 64 characters, and a
letter that it reads must be in lower case. -/
def isDigestText (value : PyStr) : Bool :=
  value.length == 64 && isHexInt value && !value.any CodePoint.isAsciiUpper

/-- `_sha256` of the modules that check digests by `int`. -/
def digestText (raised : PyStr → PyError) (name value : PyStr) : Except PyError Unit :=
  raiseIf (¬ isDigestText value = true) (raised (name ++ py " is invalid"))

/-! ### Binding values -/

def bindText (value : PyStr) : Except PyError Unit := do
  let _ ← encodeUtf8 value

def bindInt (value : Int) : Except PyError Unit :=
  raiseIf (value < -2 ^ 63 ∨ 2 ^ 63 ≤ value)
    ⟨.overflowError, py "Python int too large to convert to SQLite INTEGER"⟩

def bindContext (context : ContextKey) : Except PyError Unit := do
  bindText context.trustDomain
  bindText context.tenantId
  bindText context.organizationId
  bindText context.missionId

/-! ### Tables -/

/-- A row of `authority_epoch_state`. -/
structure EpochRow where
  context : ContextKey
  epoch : Int
  revokedJson : PyStr
  version : Int
  deriving DecidableEq

/-- A row of `authority_root_anchor`. -/
structure PersistentRootAnchor where
  context : ContextKey
  epoch : Int
  rootGrantId : PyStr
  rootGrantDigest : PyStr
  deriving DecidableEq

/-- A row of `replay_state`. -/
structure ReplayRow where
  replayDomain : PyStr
  replayKeyDigest : PyStr
  consumedAt : PyStr
  deriving DecidableEq

structure AuthorityStore where
  epochs : List EpochRow
  roots : List PersistentRootAnchor
  replays : List ReplayRow
  deriving DecidableEq

structure PersistentBindingFinalization where
  context : ContextKey
  epoch : Int
  authorityStateVersion : Int
  grantId : PyStr
  rootGrantId : PyStr
  rootGrantDigest : PyStr
  liveAdmissionDigest : PyStr
  runtimeEvidenceDigest : PyStr
  bindingNonce : PyStr
  finalizationKeyDigest : PyStr
  finalizedAt : PyStr
  deriving DecidableEq

structure PersistentEpochSnapshot where
  context : ContextKey
  epoch : Int
  revokedGrantIds : List PyStr
  version : Int
  deriving DecidableEq

/-! ### Revoked identifiers -/

/-- `_context`. -/
def storeContext (context : ContextKey) : Except PyError Unit :=
  raiseIf (context.trustDomain = [] ∨ context.tenantId = [] ∨ context.organizationId = [] ∨
      context.missionId = []) (persistentError (py "authority context is invalid"))

def revokedJson (values : List PyStr) : Except PyError PyStr := do
  raiseIf ((∃ value ∈ values, value = []) ∨ ¬ values.Nodup)
    (persistentError (py "revoked grant ids are invalid"))
  Json.dumps true false (.arr ((pySorted values).map Json.str))

def revokedId : Json → Except PyError PyStr
  | .str value => .ok value
  | _ => .error ⟨.typeError, py "revoked grant id is not a string"⟩

/-- `json.loads` of a stored array of identifiers. -/
def revokedIds (text : PyStr) : Except PyError (List PyStr) := do
  let value ← Json.loads Json.plainHooks text
  match value with
  | .arr items => items.mapM revokedId
  | _ => .error ⟨.typeError, py "revoked grant ids are not an array"⟩

def finalizationDomain : PyStr :=
  py "live-authority-binding-finalization"

def finalizationKey (liveAdmissionDigest runtimeEvidenceDigest bindingNonce : PyStr) :
    Except PyError PyStr := do
  let payload ← encodeUtf8 (finalizationDomain ++ py "\x00" ++ liveAdmissionDigest ++ py "\x00" ++
    runtimeEvidenceDigest ++ py "\x00" ++ bindingNonce)
  return sha256 payload

namespace PersistentBindingFinalization

/-- The check of the arguments of `finalize_binding`. -/
def checkArguments (binding : PersistentBindingFinalization) : Except PyError Unit := do
  storeContext binding.context
  raiseIf (binding.epoch < 0) (persistentError (py "expected_epoch is invalid"))
  raiseIf (binding.authorityStateVersion < 1)
    (persistentError (py "expected_state_version is invalid"))
  boundedText persistentError 512 (py "grant_id") binding.grantId
  boundedText persistentError 512 (py "expected_root_grant_id") binding.rootGrantId
  boundedText persistentError 512 (py "binding_nonce") binding.bindingNonce
  boundedText persistentError 512 (py "finalized_at") binding.finalizedAt
  digestText persistentError (py "expected_root_grant_digest") binding.rootGrantDigest
  digestText persistentError (py "live_admission_digest") binding.liveAdmissionDigest
  digestText persistentError (py "runtime_evidence_digest") binding.runtimeEvidenceDigest

def validate (binding : PersistentBindingFinalization) : Except PyError Unit := do
  boundedText persistentError 512 (py "trust_domain") binding.context.trustDomain
  boundedText persistentError 512 (py "tenant_id") binding.context.tenantId
  boundedText persistentError 512 (py "organization_id") binding.context.organizationId
  boundedText persistentError 512 (py "mission_id") binding.context.missionId
  boundedText persistentError 512 (py "grant_id") binding.grantId
  boundedText persistentError 512 (py "root_grant_id") binding.rootGrantId
  boundedText persistentError 512 (py "binding_nonce") binding.bindingNonce
  boundedText persistentError 512 (py "finalized_at") binding.finalizedAt
  digestText persistentError (py "root_grant_digest") binding.rootGrantDigest
  digestText persistentError (py "live_admission_digest") binding.liveAdmissionDigest
  digestText persistentError (py "runtime_evidence_digest") binding.runtimeEvidenceDigest
  digestText persistentError (py "finalization_key_digest") binding.finalizationKeyDigest
  raiseIf (binding.epoch < 0) (persistentError (py "epoch is invalid"))
  raiseIf (binding.authorityStateVersion < 1)
    (persistentError (py "authority_state_version is invalid"))

end PersistentBindingFinalization

namespace AuthorityStore

def empty : AuthorityStore :=
  ⟨[], [], []⟩

def epochRow (store : AuthorityStore) (context : ContextKey) : Option EpochRow :=
  store.epochs.find? fun row => row.context = context

def rootRow (store : AuthorityStore) (context : ContextKey) (epoch : Int) :
    Option PersistentRootAnchor :=
  store.roots.find? fun row => row.context = context && row.epoch = epoch

def commit {α : Type} (store : AuthorityStore) (result : Except PyError (AuthorityStore × α)) :
    AuthorityStore × Except PyError α :=
  match result with
  | .ok (after, value) => (after, .ok value)
  | .error error => (store, .error error)

/-! ### Reads -/

def currentEpoch (context : ContextKey) (store : AuthorityStore) :
    Except PyError PersistentEpochSnapshot := do
  storeContext context
  bindContext context
  match store.epochRow context with
  | none => .error (persistentError (py "authority context is not bootstrapped"))
  | some row => do
    let revoked ← revokedIds row.revokedJson
    return ⟨context, row.epoch, revoked, row.version⟩

def resolveRoot (context : ContextKey) (epoch : Int) (store : AuthorityStore) :
    Except PyError PersistentRootAnchor := do
  storeContext context
  bindContext context
  bindInt epoch
  match store.rootRow context epoch with
  | none => .error (persistentError (py "root anchor is missing"))
  | some row => .ok ⟨context, epoch, row.rootGrantId, row.rootGrantDigest⟩

/-! ### Transactions -/

/-- The transaction of `bootstrap_context`. -/
def bootstrap (context : ContextKey) (epoch : Int) (revoked : PyStr) (store : AuthorityStore) :
    Except PyError (AuthorityStore × Unit) := do
  bindContext context
  bindInt epoch
  raiseIf ((store.epochRow context).isSome = true)
    (persistentError (py "authority context is already bootstrapped"))
  return ({ store with epochs := store.epochs ++ [⟨context, epoch, revoked, 1⟩] }, ())

def setEpoch (store : AuthorityStore) (context : ContextKey) (epoch : Int) (revoked : PyStr)
    (version : Int) : AuthorityStore :=
  { store with epochs := store.epochs.map fun row =>
      if row.context = context then ⟨context, epoch, revoked, version⟩ else row }

def advanceRow (row : EpochRow) (context : ContextKey) (epoch : Int) (revoked : PyStr)
    (candidate : List PyStr) (store : AuthorityStore) :
    Except PyError (AuthorityStore × Unit) := do
  let previous ← revokedIds row.revokedJson
  raiseIf (epoch < row.epoch ∨ (epoch = row.epoch ∧ ¬ previous ⊆ candidate))
    (persistentError (py "authority epoch/revocation cannot roll back"))
  bindInt epoch
  bindInt (row.version + 1)
  return (store.setEpoch context epoch revoked (row.version + 1), ())

/-- The transaction of `advance_epoch`. -/
def advance (context : ContextKey) (epoch : Int) (revoked : PyStr) (candidate : List PyStr)
    (store : AuthorityStore) : Except PyError (AuthorityStore × Unit) := do
  bindContext context
  match store.epochRow context with
  | none => .error (persistentError (py "authority context is not bootstrapped"))
  | some row => store.advanceRow row context epoch revoked candidate

/-- The transaction of `register_root`. -/
def insertRoot (context : ContextKey) (epoch : Int) (rootGrantId rootGrantDigest : PyStr)
    (store : AuthorityStore) : Except PyError (AuthorityStore × Unit) := do
  bindContext context
  raiseIf ((store.epochRow context).map EpochRow.epoch ≠ some epoch)
    (persistentError (py "root anchor must bind current epoch"))
  bindText rootGrantId
  bindText rootGrantDigest
  raiseIf ((store.rootRow context epoch).isSome = true)
    (persistentError (py "root anchor already exists"))
  return ({ store with roots := store.roots ++ [⟨context, epoch, rootGrantId, rootGrantDigest⟩] },
    ())

/-- The primary key of `replay_state`. -/
def hasReplay (store : AuthorityStore) (replayDomain replayKeyDigest : PyStr) : Prop :=
  ∃ row ∈ store.replays, row.replayDomain = replayDomain ∧ row.replayKeyDigest = replayKeyDigest

instance (store : AuthorityStore) (replayDomain replayKeyDigest : PyStr) :
    Decidable (store.hasReplay replayDomain replayKeyDigest) :=
  List.decidableBEx _ store.replays

def insertReplay (store : AuthorityStore) (row : ReplayRow) : AuthorityStore :=
  { store with replays := store.replays ++ [row] }

/-- The transaction of `consume_replay`. -/
def consume (replayDomain replayKeyDigest consumedAt : PyStr) (store : AuthorityStore) :
    Except PyError (AuthorityStore × Bool) := do
  bindText replayDomain
  bindText replayKeyDigest
  bindText consumedAt
  if store.hasReplay replayDomain replayKeyDigest then return (store, false)
  else return (store.insertReplay ⟨replayDomain, replayKeyDigest, consumedAt⟩, true)

/-- The transaction of `finalize_binding`. -/
def finalize (binding : PersistentBindingFinalization) (store : AuthorityStore) :
    Except PyError (AuthorityStore × Unit) := do
  bindContext binding.context
  match store.epochRow binding.context with
  | none => .error (persistentError (py "authority context is not bootstrapped"))
  | some row => do
    let revoked ← revokedIds row.revokedJson
    raiseIf (row.epoch ≠ binding.epoch ∨ row.version ≠ binding.authorityStateVersion ∨
        binding.grantId ∈ revoked)
      (persistentError (py "authority state changed before binding finalization"))
    raiseIf ((store.rootRow binding.context row.epoch).all fun root =>
        root.rootGrantId ≠ binding.rootGrantId || root.rootGrantDigest ≠ binding.rootGrantDigest)
      (persistentError (py "root anchor changed before binding finalization"))
    bindText binding.finalizationKeyDigest
    bindText binding.finalizedAt
    raiseIf (store.hasReplay finalizationDomain binding.finalizationKeyDigest)
      (persistentError (py "binding finalization replay rejected"))
    return (store.insertReplay ⟨finalizationDomain, binding.finalizationKeyDigest,
      binding.finalizedAt⟩, ())

end AuthorityStore

/-! ### Operations -/

def bootstrapContext (context : ContextKey) (epoch : Int) (revokedGrantIds : List PyStr) :
    PyProg AuthorityStore PersistentEpochSnapshot := do
  PyProg.lift (storeContext context)
  let revoked ← PyProg.lift (revokedJson revokedGrantIds)
  PyProg.lift (raiseIf (epoch < 0) (persistentError (py "epoch must be non-negative")))
  PyProg.transact fun store => store.commit (store.bootstrap context epoch revoked)
  PyProg.read (AuthorityStore.currentEpoch context)

def advanceEpoch (context : ContextKey) (epoch : Int) (revokedGrantIds : List PyStr) :
    PyProg AuthorityStore PersistentEpochSnapshot := do
  PyProg.lift (storeContext context)
  let revoked ← PyProg.lift (revokedJson revokedGrantIds)
  let candidate ← PyProg.lift (revokedIds revoked)
  PyProg.transact fun store => store.commit (store.advance context epoch revoked candidate)
  PyProg.read (AuthorityStore.currentEpoch context)

def registerRoot (context : ContextKey) (epoch : Int) (rootGrantId rootGrantDigest : PyStr) :
    PyProg AuthorityStore PersistentRootAnchor := do
  PyProg.lift (storeContext context)
  PyProg.lift (boundedText persistentError 512 (py "root_grant_id") rootGrantId)
  PyProg.lift (digestText persistentError (py "root_grant_digest") rootGrantDigest)
  PyProg.transact fun store =>
    store.commit (store.insertRoot context epoch rootGrantId rootGrantDigest)
  return ⟨context, epoch, rootGrantId, rootGrantDigest⟩

def consumeReplay (replayDomain replayKeyDigest consumedAt : PyStr) :
    PyProg AuthorityStore Bool := do
  PyProg.lift (boundedText persistentError 512 (py "replay_domain") replayDomain)
  PyProg.lift (digestText persistentError (py "replay_key_digest") replayKeyDigest)
  PyProg.lift (boundedText persistentError 1024 (py "consumed_at") consumedAt)
  PyProg.transact fun store =>
    store.commit (store.consume replayDomain replayKeyDigest consumedAt)

/-- `finalize_binding`.  The key of the given value is the one it computes. -/
def finalizeBinding (request : PersistentBindingFinalization) :
    PyProg AuthorityStore PersistentBindingFinalization := do
  PyProg.lift request.checkArguments
  let key ← PyProg.lift (finalizationKey request.liveAdmissionDigest
    request.runtimeEvidenceDigest request.bindingNonce)
  let binding := { request with finalizationKeyDigest := key }
  PyProg.transact fun store => store.commit (store.finalize binding)
  PyProg.lift binding.validate
  return binding

/-! ### Lookups after a write -/

namespace AuthorityStore

theorem epochRow_setEpoch (store : AuthorityStore) (context other : ContextKey) (epoch : Int)
    (revoked : PyStr) (version : Int) :
    (store.setEpoch context epoch revoked version).epochRow other =
      if other = context then
        (store.epochRow context).map fun _ => ⟨context, epoch, revoked, version⟩
      else store.epochRow other := by
  rw [epochRow, epochRow, epochRow, setEpoch]
  dsimp only
  induction store.epochs with
  | nil => simp
  | cons row rows ih =>
    rw [List.map_cons, List.find?_cons, List.find?_cons, List.find?_cons, ih]
    by_cases written : row.context = context
    · by_cases asked : other = context
      · simp [written, asked]
      · simp [written, asked, Ne.symm asked]
    · by_cases asked : other = context
      · simp [written, asked]
      · simp [written, asked]

theorem epochRow_append (store : AuthorityStore) (row : EpochRow)
    (fresh : store.epochRow row.context = none) (other : ContextKey) :
    epochRow { store with epochs := store.epochs ++ [row] } other =
      if other = row.context then some row else store.epochRow other := by
  rw [epochRow]
  dsimp only
  rw [List.find?_append, ← epochRow]
  by_cases asked : other = row.context
  · rw [if_pos asked, asked, fresh]
    simp
  · rw [if_neg asked]
    simp [Ne.symm asked]

theorem currentEpoch_congr {store after : AuthorityStore} {context : ContextKey}
    (kept : after.epochRow context = store.epochRow context) :
    after.currentEpoch context = store.currentEpoch context := by
  rw [currentEpoch, currentEpoch, kept]

theorem currentEpoch_eq_ok {store : AuthorityStore} {context : ContextKey}
    {snapshot : PersistentEpochSnapshot} :
    store.currentEpoch context = .ok snapshot ↔
      storeContext context = .ok () ∧ bindContext context = .ok () ∧
      ∃ row ids, store.epochRow context = some row ∧ revokedIds row.revokedJson = .ok ids ∧
        snapshot = ⟨context, row.epoch, ids, row.version⟩ := by
  rw [currentEpoch]
  simp only [bind_eq_ok]
  constructor
  · rintro ⟨_, contextOk, _, bound, read⟩
    cases found : store.epochRow context with
    | none => simp [found] at read
    | some row =>
      simp only [found, bind_eq_ok] at read
      obtain ⟨ids, idsRead, same⟩ := read
      exact ⟨contextOk, bound, row, ids, rfl, idsRead, (Except.ok.inj same).symm⟩
  · rintro ⟨contextOk, bound, row, ids, found, idsRead, rfl⟩
    refine ⟨_, contextOk, _, bound, ?_⟩
    rw [found]
    dsimp only
    rw [idsRead]
    rfl

theorem of_insertRoot {store : AuthorityStore} {context : ContextKey} {epoch : Int}
    {rootGrantId rootGrantDigest : PyStr} {pair : AuthorityStore × Unit}
    (inserted : store.insertRoot context epoch rootGrantId rootGrantDigest = .ok pair) :
    store.rootRow context epoch = none ∧
      pair.1 = { store with
        roots := store.roots ++ [⟨context, epoch, rootGrantId, rootGrantDigest⟩] } := by
  simp only [insertRoot, bind_eq_ok, raiseIf_eq_ok] at inserted
  obtain ⟨_, -, _, -, _, -, _, -, _, fresh, same⟩ := inserted
  exact ⟨by simpa using fresh, by rw [← Except.ok.inj same]⟩

end AuthorityStore

end CyberLion
