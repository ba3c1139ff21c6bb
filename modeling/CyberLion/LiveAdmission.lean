import CyberLion.ProgramSteps
import CyberLion.RepositoryRefAuthority

/-!
# Live admission

`admit`, `admit_repository_ref`, `revalidate` and `revalidate_repository_ref` of
`LiveAuthorityAdmission` in `enterprise/live_authority_admission.py`.  The source and the
tables are read step by step, among the steps of others.
-/

namespace CyberLion

open PyLib

/-! ### What an admission reads -/

structure AdmissionWorld where
  live : LiveWorld
  refBackend : RepositoryRefBackend

def onLive {α : Type} (program : PyProg LiveWorld α) : PyProg AdmissionWorld α :=
  PyProg.zoom AdmissionWorld.live (fun world live => { world with live }) program

/-- `values[-1]`. -/
def lastOf {α : Type} (values : List α) : Except PyError α :=
  match values.getLast? with
  | none => .error ⟨.declared .exception (py "IndexError"), py "tuple index out of range"⟩
  | some value => .ok value

def replayDigestOf (parts : List PyStr) : Except PyError PyStr := do
  let material ← encodeUtf8 (pyJoin (py "\x00") parts)
  return sha256 material

/-- `_authenticate_record` reads the lineage of a record only. -/
def authenticateLive (config : LiveAuthorityConfig) (lineage : List AuthorityGrant)
    (state : PersistentEpochSnapshot) (anchor : PersistentRootAnchor) (now : DateTime)
    (offset : Int) : Except PyError (List AuthenticatedAuthorityGrant) :=
  match lineage with
  | [] => .error (liveError (py "authority lineage is empty"))
  | root :: rest => do
    matchPersistentRoot root anchor
    let current ← now.astimezoneUtc offset
    authenticateHops config state current none (root :: rest)

/-- What `_snapshot_repository_ref` returns. -/
structure RefSnapshot where
  record : RepositoryRefAuthorityLineageRecord
  state : PersistentEpochSnapshot
  root : PersistentRootAnchor

/-- `except Exception` around the reads of `_snapshot_repository_ref`. -/
def orRefUnavailable {α : Type} (computation : Except PyError α) : Except PyError α :=
  rethrow (fun _ => true)
    (fun _ => liveError (py "canonical repository-ref authority state unavailable")) computation

/-- `_snapshot_repository_ref`. -/
def refSnapshot (context : ContextKey) (key : RepositoryRefAuthorityLookupKey) :
    PyProg AdmissionWorld RefSnapshot := do
  let record ← PyProg.read fun world =>
    orRefUnavailable (resolveRepositoryRefExact world.refBackend key)
  let state ← PyProg.read fun world => orRefUnavailable (world.live.store.currentEpoch context)
  let root ← PyProg.read fun world =>
    orRefUnavailable (world.live.store.resolveRoot context state.epoch)
  PyProg.lift record.validate
  return ⟨record, state, root⟩

/-- `_same_snapshot` of two records of a branch. -/
def sameRefSnapshot (before after : RefSnapshot) : Except PyError Bool :=
  if before.record.lookupKey = after.record.lookupKey ∧
      before.record.lineageDigest = after.record.lineageDigest ∧
      before.record.provenanceId = after.record.provenanceId then do
    let beforeDigests ← before.record.lineage.mapM AuthorityGrant.digest
    let afterDigests ← after.record.lineage.mapM AuthorityGrant.digest
    return beforeDigests = afterDigests && before.state = after.state && before.root = after.root
  else .ok false

/-! ### Admission -/

/-- `except PersistentAuthorityStateError` around the replay guard. -/
def replayUnavailable (error : PyError) : Except PyError Bool :=
  .error (if error.isInstance persistentAuthorityStateErrorClass then
    liveError (py "durable replay state unavailable") else error)

def consumeAdmission (replayDomain replayDigest consumedAt : PyStr) : PyProg LiveWorld Unit := do
  let accepted ← PyProg.handle (onStore (consumeReplay replayDomain replayDigest consumedAt))
    replayUnavailable
  PyProg.lift (raiseIf (accepted = false)
    (liveError (py "authority admission replay rejected")))

/-- The digest that `admit` consumes. -/
def admissionReplayDigest (key : AuthorityLookupKey) (snapshot : LiveSnapshot)
    (leaf : AuthorityGrant) (replayNonce : PyStr) : Except PyError PyStr := do
  let number ← formatInt key.prNumber
  let epoch ← formatInt snapshot.state.epoch
  let version ← formatInt snapshot.state.version
  replayDigestOf [snapshot.record.lineageDigest, leaf.grantId, key.repository, number, key.baseSha,
    key.headSha, key.missionId, epoch, version, replayNonce]

def admittedOf (key : AuthorityLookupKey) (snapshot : LiveSnapshot) (leaf : AuthorityGrant)
    (authenticated : List AuthenticatedAuthorityGrant) (signed : AuthenticatedAuthorityGrant)
    (replayDigest admittedAt : PyStr) : LiveAdmittedAuthority where
  repository := key.repository
  prNumber := key.prNumber
  baseSha := key.baseSha
  headSha := key.headSha
  missionId := key.missionId
  grantId := leaf.grantId
  lineageDigest := snapshot.record.lineageDigest
  provenanceId := snapshot.record.provenanceId
  epoch := snapshot.state.epoch
  epochStateVersion := snapshot.state.version
  authorityCeiling := leaf.authorityCeiling
  rootGrantId := snapshot.root.rootGrantId
  rootGrantDigest := snapshot.root.rootGrantDigest
  authenticatedGrantDigests := authenticated.map AuthenticatedAuthorityGrant.grantDigest
  leafKeyId := signed.keyId
  leafAlgorithm := signed.algorithm
  replayDigest := replayDigest
  admittedAt := admittedAt

/-- `admit` after the check of the clock. -/
def admitAt (config : LiveAuthorityConfig) (replayDomain : PyStr) (key : AuthorityLookupKey)
    (replayNonce : PyStr) (now : DateTime) (offset : Int) :
    PyProg LiveWorld LiveAdmittedAuthority := do
  PyProg.lift (raiseIf (key.missionId ≠ config.context.missionId)
    (liveError (py "mission does not match trusted authority context")))
  PyProg.lift (raiseIf (isBlank replayNonce = true) (liveError (py "replay_nonce is required")))
  let before ← liveSnapshot config.context key
  let authenticated ← PyProg.lift
    (authenticateRecord config before.record before.state before.root now offset)
  let after ← liveSnapshot config.context key
  let same ← PyProg.lift (sameSnapshot before after)
  PyProg.lift (raiseIf (same = false)
    (liveError (py "authority state changed during authentication")))
  let leaf ← PyProg.lift (lastOf before.record.lineage)
  let replayDigest ← PyProg.lift (admissionReplayDigest key before leaf replayNonce)
  let current ← PyProg.lift (now.astimezoneUtc offset)
  consumeAdmission replayDomain replayDigest current.isoformatUtc
  let signed ← PyProg.lift (lastOf authenticated)
  let admitted := admittedOf key before leaf authenticated signed replayDigest
    current.isoformatUtc
  PyProg.lift admitted.validate
  return admitted

/-- `admit`. -/
def admitLive (config : LiveAuthorityConfig) (replayDomain : PyStr) (key : AuthorityLookupKey)
    (replayNonce : PyStr) (now : Moment) : PyProg LiveWorld LiveAdmittedAuthority :=
  match now with
  | .naive _ => PyProg.lift (.error (liveError (py "trusted now must be timezone-aware")))
  | .aware time offset => admitAt config replayDomain key replayNonce time offset

/-- The digest that `admit_repository_ref` consumes. -/
def refReplayDigest (key : RepositoryRefAuthorityLookupKey) (snapshot : RefSnapshot)
    (leaf : AuthorityGrant) (replayNonce : PyStr) : Except PyError PyStr := do
  let epoch ← formatInt snapshot.state.epoch
  let version ← formatInt snapshot.state.version
  replayDigestOf [snapshot.record.lineageDigest, leaf.grantId, key.repository, key.branch,
    key.expectedHead, key.protectedMasterSha, key.missionId, epoch, version, replayNonce]

def admittedRefOf (key : RepositoryRefAuthorityLookupKey) (snapshot : RefSnapshot)
    (leaf : AuthorityGrant) (authenticated : List AuthenticatedAuthorityGrant)
    (signed : AuthenticatedAuthorityGrant) (replayDigest admittedAt : PyStr) :
    LiveAdmittedRepositoryRefAuthority where
  repository := key.repository
  branch := key.branch
  expectedHead := key.expectedHead
  protectedMasterSha := key.protectedMasterSha
  missionId := key.missionId
  grantId := leaf.grantId
  lineageDigest := snapshot.record.lineageDigest
  provenanceId := snapshot.record.provenanceId
  epoch := snapshot.state.epoch
  epochStateVersion := snapshot.state.version
  authorityCeiling := leaf.authorityCeiling
  rootGrantId := snapshot.root.rootGrantId
  rootGrantDigest := snapshot.root.rootGrantDigest
  authenticatedGrantDigests := authenticated.map AuthenticatedAuthorityGrant.grantDigest
  leafKeyId := signed.keyId
  leafAlgorithm := signed.algorithm
  replayDigest := replayDigest
  admittedAt := admittedAt

/-- `admit_repository_ref` after the checks of the key and of the clock. -/
def admitRefAt (config : LiveAuthorityConfig) (replayDomain : PyStr)
    (key : RepositoryRefAuthorityLookupKey) (replayNonce : PyStr) (now : DateTime)
    (offset : Int) : PyProg AdmissionWorld LiveAdmittedRepositoryRefAuthority := do
  PyProg.lift (raiseIf (key.missionId ≠ config.context.missionId)
    (liveError (py "mission does not match trusted authority context")))
  PyProg.lift (raiseIf (isBlank replayNonce = true) (liveError (py "replay_nonce is required")))
  let before ← refSnapshot config.context key
  let authenticated ← PyProg.lift
    (authenticateLive config before.record.lineage before.state before.root now offset)
  let after ← refSnapshot config.context key
  let same ← PyProg.lift (sameRefSnapshot before after)
  PyProg.lift (raiseIf (same = false)
    (liveError (py "authority state changed during authentication")))
  let leaf ← PyProg.lift (lastOf before.record.lineage)
  let replayDigest ← PyProg.lift (refReplayDigest key before leaf replayNonce)
  let current ← PyProg.lift (now.astimezoneUtc offset)
  onLive (consumeAdmission replayDomain replayDigest current.isoformatUtc)
  let signed ← PyProg.lift (lastOf authenticated)
  let admitted := admittedRefOf key before leaf authenticated signed replayDigest
    current.isoformatUtc
  PyProg.lift admitted.validate
  return admitted

def admitRepositoryRef (config : LiveAuthorityConfig) (replayDomain : PyStr)
    (key : RepositoryRefAuthorityLookupKey) (replayNonce : PyStr) (now : Moment) :
    PyProg AdmissionWorld LiveAdmittedRepositoryRefAuthority := do
  PyProg.lift key.validate
  match now with
  | .naive _ => PyProg.lift (.error (liveError (py "trusted now must be timezone-aware")))
  | .aware time offset => admitRefAt config replayDomain key replayNonce time offset

/-! ### Revalidation -/

def revalidate (config : LiveAuthorityConfig) (admitted : LiveAdmittedAuthority) (now : Moment) :
    PyProg LiveWorld LiveAdmittedAuthority := do
  PyProg.lift admitted.validate
  match now with
  | .naive _ => PyProg.lift (.error (liveError (py "trusted now must be timezone-aware")))
  | .aware time offset => do
    revalidateAt config admitted time offset
    return admitted

/-- What `revalidate_repository_ref` expects. -/
def expectedRefBinding (snapshot : RefSnapshot)
    (authenticated : List AuthenticatedAuthorityGrant) : ReceiptBinding :=
  ⟨snapshot.record.lineageDigest, snapshot.record.provenanceId, snapshot.state.epoch,
    snapshot.state.version,
    snapshot.record.lineage.getLast?.map AuthorityGrant.authorityCeiling,
    snapshot.root.rootGrantId, snapshot.root.rootGrantDigest,
    authenticated.map AuthenticatedAuthorityGrant.grantDigest,
    authenticated.getLast?.map AuthenticatedAuthorityGrant.keyId,
    authenticated.getLast?.map AuthenticatedAuthorityGrant.algorithm⟩

/-- `revalidate_repository_ref` after its first checks. -/
def revalidateRefAt (config : LiveAuthorityConfig)
    (admitted : LiveAdmittedRepositoryRefAuthority) (now : DateTime) (offset : Int) :
    PyProg AdmissionWorld Unit := do
  PyProg.lift (raiseIf (admitted.missionId ≠ config.context.missionId)
    (liveError (py "admission receipt mission mismatch")))
  PyProg.lift admitted.lookupKey.validate
  let before ← refSnapshot config.context admitted.lookupKey
  let authenticated ← PyProg.lift
    (authenticateLive config before.record.lineage before.state before.root now offset)
  let after ← refSnapshot config.context admitted.lookupKey
  let same ← PyProg.lift (sameRefSnapshot before after)
  PyProg.lift (raiseIf (same = false)
    (liveError (py "authority state changed during revalidation")))
  PyProg.lift (raiseIf (admitted.binding ≠ expectedRefBinding before authenticated)
    (liveError (py "live admission receipt is stale or forged")))

def revalidateRepositoryRef (config : LiveAuthorityConfig)
    (admitted : LiveAdmittedRepositoryRefAuthority) (now : Moment) :
    PyProg AdmissionWorld LiveAdmittedRepositoryRefAuthority := do
  PyProg.lift admitted.validate
  match now with
  | .naive _ => PyProg.lift (.error (liveError (py "trusted now must be timezone-aware")))
  | .aware time offset => do
    revalidateRefAt config admitted time offset
    return admitted

/-! ### What an admission found -/

theorem lastOf_eq_ok {α : Type} {values : List α} {value : α} :
    lastOf values = .ok value ↔ values.getLast? = some value := by
  unfold lastOf
  cases values.getLast? <;> simp

variable {config : LiveAuthorityConfig} {replayDomain : PyStr}
  {between : AdmissionWorld → AdmissionWorld → Prop} {instants : List AdmissionWorld}

/-- An admission that returned has found a record of the key and hashed its replay digest. -/
theorem exec_admit_found {between : LiveWorld → LiveWorld → Prop} {key : AuthorityLookupKey}
    {replayNonce : PyStr} {now : Moment} {start final : LiveWorld} {instants : List LiveWorld}
    {admitted : LiveAdmittedAuthority}
    (accepted : PyProg.Exec between (admitLive config replayDomain key replayNonce now) start instants
      final (.ok admitted)) :
    ∃ read ∈ instants, ∃ snapshot leaf authenticated signed replayDigest admittedAt,
      resolveExact read.backend key = .ok snapshot.record ∧
      snapshot.record.lineage.getLast? = some leaf ∧
      admissionReplayDigest key snapshot leaf replayNonce = .ok replayDigest ∧
      admitted = admittedOf key snapshot leaf authenticated signed replayDigest admittedAt := by
  cases now with
  | naive time =>
    rw [admitLive, PyProg.exec_lift] at accepted
    exact absurd accepted.2.2 (by simp)
  | aware time offset =>
    simp only [admitLive, admitAt, PyProg.exec_lift_bind] at accepted
    obtain ⟨_, -, _, -, accepted⟩ := accepted
    obtain ⟨first, _, snapshot, second, beforeRun, accepted, firstPart, -⟩ :=
      PyProg.exists_exec_of_bind accepted
    simp only [PyProg.exec_lift_bind] at accepted
    obtain ⟨authenticated, -, accepted⟩ := accepted
    obtain ⟨_, _, after, _, -, accepted, -⟩ := PyProg.exists_exec_of_bind accepted
    simp only [PyProg.exec_lift_bind] at accepted
    obtain ⟨_, -, _, -, leaf, isLeaf, replayDigest, isDigest, _, -, accepted⟩ := accepted
    obtain ⟨_, _, _, _, -, accepted, -⟩ := PyProg.exists_exec_of_bind accepted
    simp only [PyProg.exec_lift_bind, PyProg.exec_pure] at accepted
    obtain ⟨signed, -, _, -, -, -, same⟩ := accepted
    obtain ⟨read, _, rfl, -, -, -, isRecord, -⟩ := exec_liveSnapshot beforeRun
    exact ⟨read, firstPart.subset (by simp), snapshot, leaf, authenticated, signed, replayDigest, _,
      isRecord, lastOf_eq_ok.mp isLeaf, isDigest, Except.ok.inj same⟩

theorem exec_admit {between : LiveWorld → LiveWorld → Prop} {key : AuthorityLookupKey}
    {replayNonce : PyStr} {now : Moment} {start final : LiveWorld} {instants : List LiveWorld}
    {admitted : LiveAdmittedAuthority}
    (accepted : PyProg.Exec between (admitLive config replayDomain key replayNonce now) start instants
      final (.ok admitted)) :
    ∃ read ∈ instants, ∃ record leaf, resolveExact read.backend key = .ok record ∧
      record.lineage.getLast? = some leaf ∧ admitted.lineageDigest = record.lineageDigest ∧
      admitted.authorityCeiling = leaf.authorityCeiling := by
  obtain ⟨read, member, snapshot, leaf, _, _, _, _, isRecord, isLeaf, -, rfl⟩ :=
    exec_admit_found accepted
  exact ⟨read, member, snapshot.record, leaf, isRecord, isLeaf, rfl, rfl⟩

theorem exec_refSnapshot {context : ContextKey} {key : RepositoryRefAuthorityLookupKey}
    {start final : AdmissionWorld} {snapshot : RefSnapshot}
    (accepted : PyProg.Exec between (refSnapshot context key) start instants final (.ok snapshot)) :
    ∃ read ∈ instants, resolveRepositoryRefExact read.refBackend key = .ok snapshot.record := by
  simp only [refSnapshot, orRefUnavailable, PyProg.exec_read_bind, PyProg.exec_lift_bind,
    PyProg.exec_pure, rethrow_eq_ok] at accepted
  obtain ⟨first, _, record, rfl, -, isRecord, _, _, _, -, -, -, _, _, _, -, -, -, _, -, -, -,
    same⟩ := accepted
  obtain rfl := Except.ok.inj same
  exact ⟨first, by simp, isRecord⟩

theorem exec_admitRepositoryRef_found {key : RepositoryRefAuthorityLookupKey} {replayNonce : PyStr}
    {now : Moment} {start final : AdmissionWorld} {admitted : LiveAdmittedRepositoryRefAuthority}
    (accepted : PyProg.Exec between (admitRepositoryRef config replayDomain key replayNonce now)
      start instants final (.ok admitted)) :
    ∃ read ∈ instants, ∃ snapshot leaf authenticated signed replayDigest admittedAt,
      resolveRepositoryRefExact read.refBackend key = .ok snapshot.record ∧
      snapshot.record.lineage.getLast? = some leaf ∧
      refReplayDigest key snapshot leaf replayNonce = .ok replayDigest ∧
      admitted = admittedRefOf key snapshot leaf authenticated signed replayDigest admittedAt := by
  unfold admitRepositoryRef at accepted
  rw [PyProg.exec_lift_bind] at accepted
  obtain ⟨_, -, accepted⟩ := accepted
  cases now with
  | naive time =>
    rw [PyProg.exec_lift] at accepted
    exact absurd accepted.2.2 (by simp)
  | aware time offset =>
    simp only [admitRefAt, PyProg.exec_lift_bind] at accepted
    obtain ⟨_, -, _, -, accepted⟩ := accepted
    obtain ⟨first, _, snapshot, second, beforeRun, accepted, firstPart, -⟩ :=
      PyProg.exists_exec_of_bind accepted
    simp only [PyProg.exec_lift_bind] at accepted
    obtain ⟨authenticated, -, accepted⟩ := accepted
    obtain ⟨_, _, after, _, -, accepted, -⟩ := PyProg.exists_exec_of_bind accepted
    simp only [PyProg.exec_lift_bind] at accepted
    obtain ⟨_, -, _, -, leaf, isLeaf, replayDigest, isDigest, _, -, accepted⟩ := accepted
    obtain ⟨_, _, _, _, -, accepted, -⟩ := PyProg.exists_exec_of_bind accepted
    simp only [PyProg.exec_lift_bind, PyProg.exec_pure] at accepted
    obtain ⟨signed, -, _, -, -, -, same⟩ := accepted
    obtain ⟨read, member, isRecord⟩ := exec_refSnapshot beforeRun
    exact ⟨read, firstPart.subset member, snapshot, leaf, authenticated, signed, replayDigest, _,
      isRecord, lastOf_eq_ok.mp isLeaf, isDigest, Except.ok.inj same⟩

theorem exec_admitRepositoryRef {key : RepositoryRefAuthorityLookupKey} {replayNonce : PyStr}
    {now : Moment} {start final : AdmissionWorld} {admitted : LiveAdmittedRepositoryRefAuthority}
    (accepted : PyProg.Exec between (admitRepositoryRef config replayDomain key replayNonce now)
      start instants final (.ok admitted)) :
    ∃ read ∈ instants, ∃ record leaf, resolveRepositoryRefExact read.refBackend key = .ok record ∧
      record.lineage.getLast? = some leaf ∧ admitted.lineageDigest = record.lineageDigest ∧
      admitted.authorityCeiling = leaf.authorityCeiling := by
  obtain ⟨read, member, snapshot, leaf, _, _, _, _, isRecord, isLeaf, -, rfl⟩ :=
    exec_admitRepositoryRef_found accepted
  exact ⟨read, member, snapshot.record, leaf, isRecord, isLeaf, rfl, rfl⟩

/-! ### What an admission keeps -/

theorem liveSnapshot_looks (context : ContextKey) (key : AuthorityLookupKey) :
    PyProg.Within (fun before after => after = before) (liveSnapshot context key) := by
  refine PyProg.Within.bind (PyProg.within_read ?_ _) fun record => ?_
  · exact fun _ => rfl
  refine PyProg.Within.bind (PyProg.within_read ?_ _) fun state => ?_
  · exact fun _ => rfl
  refine PyProg.Within.bind (PyProg.within_read ?_ _) fun root => ?_
  · exact fun _ => rfl
  apply PyProg.within_lift_bind
  exact fun _ => PyProg.within_pure _

theorem keeps_onStore {α : Type} (program : PyProg AuthorityStore α) :
    PyProg.Within (fun before after : LiveWorld => after.backend = before.backend)
      (onStore program) :=
  @Prog.within_zoom _ _ _ _ LiveWorld.store LiveWorld.setStore LiveWorld.backend
    (fun _ _ => rfl) (ExceptT.run program)

theorem keeps_liveSnapshot (context : ContextKey) (key : AuthorityLookupKey) :
    PyProg.Within (fun before after => after.backend = before.backend)
      (liveSnapshot context key) :=
  Prog.Within.imp (liveSnapshot_looks context key) fun _ _ same => congrArg LiveWorld.backend same

theorem keeps_admitLive (config : LiveAuthorityConfig) (replayDomain : PyStr)
    (key : AuthorityLookupKey) (replayNonce : PyStr)
    (now : Moment) :
    PyProg.Within (fun before after => after.backend = before.backend)
      (admitLive config replayDomain key replayNonce now) := by
  cases now with
  | naive time => exact PyProg.within_lift _
  | aware time offset =>
    apply PyProg.within_lift_bind
    intro _
    apply PyProg.within_lift_bind
    intro _
    apply PyProg.Within.bind (keeps_liveSnapshot ..)
    intro before
    apply PyProg.within_lift_bind
    intro authenticated
    apply PyProg.Within.bind (keeps_liveSnapshot ..)
    intro after
    apply PyProg.within_lift_bind
    intro same
    apply PyProg.within_lift_bind
    intro _
    apply PyProg.within_lift_bind
    intro leaf
    apply PyProg.within_lift_bind
    intro replayDigest
    apply PyProg.within_lift_bind
    intro current
    refine PyProg.Within.bind (PyProg.Within.bind ((keeps_onStore _).handle _) fun accepted => ?_)
      fun _ => ?_
    · exact PyProg.within_lift _
    · apply PyProg.within_lift_bind
      intro signed
      apply PyProg.within_lift_bind
      exact fun _ => PyProg.within_pure _

end CyberLion
