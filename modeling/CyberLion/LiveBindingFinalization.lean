import CyberLion.LiveAuthorityAdmission
import CyberLion.ProgramPool

/-!
# Finalization of a binding

`LiveAuthorityAdmission.revalidate` and `finalize_binding` of
`enterprise/live_authority_admission.py`, among the calls of others on the same
store and the same source.  Each read and each transaction is one atomic step.
-/

namespace CyberLion

open PyLib
open PyProg (exec_bind_ok exec_lift exec_pure within_lift within_lift_bind within_pure
  within_read zoom_bind zoom_lift zoom_pure)

/-! ### Receipts -/

structure LiveAdmittedAuthority where
  repository : PyStr
  prNumber : Int
  baseSha : PyStr
  headSha : PyStr
  missionId : PyStr
  grantId : PyStr
  lineageDigest : PyStr
  provenanceId : PyStr
  epoch : Int
  epochStateVersion : Int
  authorityCeiling : PyStr
  rootGrantId : PyStr
  rootGrantDigest : PyStr
  authenticatedGrantDigests : List PyStr
  leafKeyId : PyStr
  leafAlgorithm : PyStr
  replayDigest : PyStr
  admittedAt : PyStr
  deriving DecidableEq

/-- `LiveAdmittedAuthority._utc`. -/
def admittedUtc (value : PyStr) : Except PyError DateTime :=
  match fromIsoFormat (pyReplace 0x5A (py "+00:00") value) with
  | none => .error (liveError (py "admitted_at is invalid"))
  | some (.naive _) => .error (liveError (py "admitted_at must be timezone-aware"))
  | some (.aware time offset) => time.astimezoneUtc offset

namespace LiveAdmittedAuthority

def validate (admitted : LiveAdmittedAuthority) : Except PyError Unit := do
  boundedText liveError 512 (py "repository") admitted.repository
  boundedText liveError 512 (py "base_sha") admitted.baseSha
  boundedText liveError 512 (py "head_sha") admitted.headSha
  boundedText liveError 512 (py "mission_id") admitted.missionId
  boundedText liveError 512 (py "grant_id") admitted.grantId
  boundedText liveError 512 (py "provenance_id") admitted.provenanceId
  boundedText liveError 512 (py "authority_ceiling") admitted.authorityCeiling
  boundedText liveError 512 (py "root_grant_id") admitted.rootGrantId
  boundedText liveError 512 (py "leaf_key_id") admitted.leafKeyId
  boundedText liveError 512 (py "leaf_algorithm") admitted.leafAlgorithm
  boundedText liveError 512 (py "admitted_at") admitted.admittedAt
  raiseIf (admitted.prNumber ≤ 0) (liveError (py "pr_number is invalid"))
  raiseIf (admitted.epoch < 0) (liveError (py "epoch is invalid"))
  raiseIf (admitted.epochStateVersion < 1) (liveError (py "epoch_state_version is invalid"))
  digestText liveError (py "lineage_digest") admitted.lineageDigest
  digestText liveError (py "root_grant_digest") admitted.rootGrantDigest
  digestText liveError (py "replay_digest") admitted.replayDigest
  raiseIf (admitted.authenticatedGrantDigests = [])
    (liveError (py "authenticated_grant_digests are invalid"))
  forM admitted.authenticatedGrantDigests
    (digestText liveError (py "authenticated_grant_digest"))
  let _ ← admittedUtc admitted.admittedAt

def payload (admitted : LiveAdmittedAuthority) : Json :=
  .obj [(py "admitted_at", .str admitted.admittedAt),
    (py "authenticated_grant_digests",
      .arr (admitted.authenticatedGrantDigests.map Json.str)),
    (py "authority_ceiling", .str admitted.authorityCeiling),
    (py "base_sha", .str admitted.baseSha),
    (py "epoch", .int admitted.epoch),
    (py "epoch_state_version", .int admitted.epochStateVersion),
    (py "grant_id", .str admitted.grantId),
    (py "head_sha", .str admitted.headSha),
    (py "leaf_algorithm", .str admitted.leafAlgorithm),
    (py "leaf_key_id", .str admitted.leafKeyId),
    (py "lineage_digest", .str admitted.lineageDigest),
    (py "mission_id", .str admitted.missionId),
    (py "pr_number", .int admitted.prNumber),
    (py "provenance_id", .str admitted.provenanceId),
    (py "replay_digest", .str admitted.replayDigest),
    (py "repository", .str admitted.repository),
    (py "root_grant_digest", .str admitted.rootGrantDigest),
    (py "root_grant_id", .str admitted.rootGrantId)]

def canonicalPayload (admitted : LiveAdmittedAuthority) : Except PyError Utf8Bytes := do
  admitted.validate
  let text ← Json.dumps true true admitted.payload
  encodeUtf8 text

def digest (admitted : LiveAdmittedAuthority) : Except PyError PyStr := do
  let payload ← admitted.canonicalPayload
  return sha256 payload

def lookupKey (admitted : LiveAdmittedAuthority) : AuthorityLookupKey :=
  ⟨admitted.repository, admitted.prNumber, admitted.baseSha, admitted.headSha,
    admitted.missionId, admitted.grantId⟩

end LiveAdmittedAuthority

/-! ### Programs -/

structure LiveWorld where
  store : AuthorityStore
  backend : AuthorityBackend

def LiveWorld.setStore (world : LiveWorld) (store : AuthorityStore) : LiveWorld :=
  { world with store }

def onStore {α : Type} (program : PyProg AuthorityStore α) : PyProg LiveWorld α :=
  PyProg.zoom LiveWorld.store LiveWorld.setStore program

/-- `except Exception` around the reads of `_snapshot`. -/
def orUnavailable {α : Type} (computation : Except PyError α) : Except PyError α :=
  rethrow (fun _ => true) (fun _ => liveError (py "canonical authority state unavailable"))
    computation

/-- What `_snapshot` returns. -/
structure LiveSnapshot where
  record : AuthorityLineageRecord
  state : PersistentEpochSnapshot
  root : PersistentRootAnchor

/-- `_snapshot`. -/
def liveSnapshot (context : ContextKey) (key : AuthorityLookupKey) :
    PyProg LiveWorld LiveSnapshot := do
  let record ← PyProg.read fun world => orUnavailable (resolveExact world.backend key)
  let state ← PyProg.read fun world => orUnavailable (world.store.currentEpoch context)
  let root ← PyProg.read fun world =>
    orUnavailable (world.store.resolveRoot context state.epoch)
  PyProg.lift record.validate
  return ⟨record, state, root⟩

/-- `_same_snapshot`, after the comparisons that come before the digests. -/
def sameDigests (before after : LiveSnapshot) : Except PyError Bool := do
  let beforeDigests ← before.record.lineage.mapM AuthorityGrant.digest
  let afterDigests ← after.record.lineage.mapM AuthorityGrant.digest
  return beforeDigests = afterDigests && before.state = after.state && before.root = after.root

def sameSnapshot (before after : LiveSnapshot) : Except PyError Bool :=
  if before.record.lookupKey = after.record.lookupKey ∧
      before.record.lineageDigest = after.record.lineageDigest ∧
      before.record.provenanceId = after.record.provenanceId then
    sameDigests before after
  else .ok false

/-- The fields of a receipt that `revalidate` compares. -/
structure ReceiptBinding where
  lineageDigest : PyStr
  provenanceId : PyStr
  epoch : Int
  version : Int
  authorityCeiling : Option PyStr
  rootGrantId : PyStr
  rootGrantDigest : PyStr
  grantDigests : List PyStr
  leafKeyId : Option PyStr
  leafAlgorithm : Option PyStr
  deriving DecidableEq

def LiveAdmittedAuthority.binding (admitted : LiveAdmittedAuthority) : ReceiptBinding :=
  ⟨admitted.lineageDigest, admitted.provenanceId, admitted.epoch, admitted.epochStateVersion,
    some admitted.authorityCeiling, admitted.rootGrantId, admitted.rootGrantDigest,
    admitted.authenticatedGrantDigests, some admitted.leafKeyId, some admitted.leafAlgorithm⟩

/-- What `revalidate` expects. -/
def expectedBinding (snapshot : LiveSnapshot)
    (authenticated : List AuthenticatedAuthorityGrant) : ReceiptBinding :=
  ⟨snapshot.record.lineageDigest, snapshot.record.provenanceId, snapshot.state.epoch,
    snapshot.state.version,
    snapshot.record.lineage.getLast?.map AuthorityGrant.authorityCeiling,
    snapshot.root.rootGrantId, snapshot.root.rootGrantDigest,
    authenticated.map AuthenticatedAuthorityGrant.grantDigest,
    authenticated.getLast?.map AuthenticatedAuthorityGrant.keyId,
    authenticated.getLast?.map AuthenticatedAuthorityGrant.algorithm⟩

/-- `revalidate` after its first checks. -/
def revalidateAt (config : LiveAuthorityConfig) (admitted : LiveAdmittedAuthority)
    (now : DateTime) (offset : Int) : PyProg LiveWorld Unit := do
  PyProg.lift (raiseIf (admitted.missionId ≠ config.context.missionId)
    (liveError (py "admission receipt mission mismatch")))
  let before ← liveSnapshot config.context admitted.lookupKey
  let authenticated ← PyProg.lift
    (authenticateRecord config before.record before.state before.root now offset)
  let after ← liveSnapshot config.context admitted.lookupKey
  let same ← PyProg.lift (sameSnapshot before after)
  PyProg.lift (raiseIf (same = false)
    (liveError (py "authority state changed during revalidation")))
  PyProg.lift (raiseIf (admitted.binding ≠ expectedBinding before authenticated)
    (liveError (py "live admission receipt is stale or forged")))

/-- `except PersistentAuthorityStateError`. -/
def failClosed (error : PyError) : Except PyError PersistentBindingFinalization :=
  .error (if error.isInstance persistentAuthorityStateErrorClass then
    liveError (py "binding finalization failed closed") else error)

def finalizeRevalidated (config : LiveAuthorityConfig) (admitted : LiveAdmittedAuthority)
    (runtimeEvidenceDigest bindingNonce finalizedAt : PyStr) :
    PyProg LiveWorld PersistentBindingFinalization := do
  let admissionDigest ← PyProg.lift admitted.digest
  onStore (finalizeBinding ⟨config.context, admitted.epoch, admitted.epochStateVersion,
    admitted.grantId, admitted.rootGrantId, admitted.rootGrantDigest, admissionDigest,
    runtimeEvidenceDigest, bindingNonce, [], finalizedAt⟩)

/-- `finalize_binding` of the admission. -/
def finalizeLiveBinding (config : LiveAuthorityConfig) (admitted : LiveAdmittedAuthority)
    (runtimeEvidenceDigest bindingNonce : PyStr) (now : Moment) :
    PyProg LiveWorld PersistentBindingFinalization :=
  match now with
  | .naive _ => PyProg.lift (.error (liveError (py "trusted now must be timezone-aware")))
  | .aware time offset => do
    PyProg.lift (digestText liveError (py "runtime_evidence_digest") runtimeEvidenceDigest)
    PyProg.lift (boundedText liveError 512 (py "binding_nonce") bindingNonce)
    PyProg.lift admitted.validate
    revalidateAt config admitted time offset
    let current ← PyProg.lift (time.astimezoneUtc offset)
    PyProg.handle (finalizeRevalidated config admitted runtimeEvidenceDigest bindingNonce
      current.isoformatUtc) failClosed

/-! ### What the store never takes back -/

/-- Rows are only replaced by rows of a later version; root anchors and replay
keys stay. -/
structure StoreGrows (before after : AuthorityStore) : Prop where
  rows : ∀ context row, before.epochRow context = some row →
    ∃ later, after.epochRow context = some later ∧ row.version ≤ later.version ∧
      (row.version = later.version → row = later)
  roots : ∀ context epoch anchor, before.rootRow context epoch = some anchor →
    after.rootRow context epoch = some anchor
  replays : ∀ replayDomain replayKeyDigest, before.hasReplay replayDomain replayKeyDigest →
    after.hasReplay replayDomain replayKeyDigest

namespace StoreGrows

theorem refl (store : AuthorityStore) : StoreGrows store store where
  rows := fun _ row found => ⟨row, found, le_refl _, fun _ => rfl⟩
  roots := fun _ _ _ found => found
  replays := fun _ _ found => found

theorem trans {first second third : AuthorityStore} (earlier : StoreGrows first second)
    (later : StoreGrows second third) : StoreGrows first third where
  rows := by
    intro context row found
    obtain ⟨middle, foundMiddle, middleLe, middleSame⟩ := earlier.rows context row found
    obtain ⟨last, foundLast, lastLe, lastSame⟩ := later.rows context middle foundMiddle
    refine ⟨last, foundLast, middleLe.trans lastLe, ?_⟩
    intro same
    rw [middleSame (le_antisymm middleLe (same ▸ lastLe)),
      lastSame (le_antisymm lastLe (same ▸ middleLe))]
  roots := fun context epoch anchor found =>
    later.roots context epoch anchor (earlier.roots context epoch anchor found)
  replays := fun replayDomain key found =>
    later.replays replayDomain key (earlier.replays replayDomain key found)

theorem of_append {before after : AuthorityStore} (epochs : after.epochs = before.epochs)
    (roots : ∃ added, after.roots = before.roots ++ added)
    (replays : before.replays ⊆ after.replays) : StoreGrows before after where
  rows := by
    intro context row found
    have kept : after.epochRow context = before.epochRow context := by
      rw [AuthorityStore.epochRow, AuthorityStore.epochRow, epochs]
    exact ⟨row, kept.trans found, le_refl _, fun _ => rfl⟩
  roots := by
    intro context epoch anchor found
    obtain ⟨added, appended⟩ := roots
    rw [AuthorityStore.rootRow] at found ⊢
    rw [appended, List.find?_append, found]
    rfl
  replays := by
    rintro replayDomain key ⟨row, member, same⟩
    exact ⟨row, replays member, same⟩

variable {store : AuthorityStore}

theorem commit {α : Type} {result : Except PyError (AuthorityStore × α)}
    (grows : ∀ pair, result = .ok pair → StoreGrows store pair.1) :
    StoreGrows store (store.commit result).1 := by
  cases result with
  | ok pair => exact grows pair rfl
  | error error => exact refl store

variable {context : ContextKey} {pair : AuthorityStore × Unit}

theorem bootstrap {epoch : Int} {revoked : PyStr}
    (made : store.bootstrap context epoch revoked = .ok pair) :
    StoreGrows store pair.1 := by
  simp only [AuthorityStore.bootstrap, bind_eq_ok, raiseIf_eq_ok] at made
  obtain ⟨_, -, _, -, _, fresh, same⟩ := made
  obtain rfl := Except.ok.inj same
  have absent : store.epochRow context = none := by simpa using fresh
  refine ⟨?_, fun _ _ _ found => found, fun _ _ found => found⟩
  intro other row found
  refine ⟨row, ?_, le_refl _, fun _ => rfl⟩
  have notNew : other ≠ context := by
    rintro rfl
    rw [absent] at found
    cases found
  exact (AuthorityStore.epochRow_append store ⟨context, epoch, revoked, 1⟩ absent other).trans
    ((if_neg notNew).trans found)

theorem setEpoch {row : EpochRow} (found : store.epochRow context = some row) (epoch : Int)
    (revoked : PyStr) :
    StoreGrows store (store.setEpoch context epoch revoked (row.version + 1)) := by
  refine ⟨?_, fun _ _ _ found => found, fun _ _ found => found⟩
  intro other otherRow foundOther
  rw [AuthorityStore.epochRow_setEpoch]
  by_cases same : other = context
  · obtain rfl : row = otherRow := by
      rw [same, found] at foundOther
      exact Option.some.inj foundOther
    rw [if_pos same, found]
    refine ⟨_, rfl, ?_, ?_⟩
    · dsimp only
      omega
    · dsimp only
      omega
  · rw [if_neg same]
    exact ⟨otherRow, foundOther, le_refl _, fun _ => rfl⟩

theorem advance {epoch : Int} {revoked : PyStr} {candidate : List PyStr}
    (made : store.advance context epoch revoked candidate = .ok pair) :
    StoreGrows store pair.1 := by
  simp only [AuthorityStore.advance, bind_eq_ok] at made
  obtain ⟨_, -, made⟩ := made
  split at made
  · cases made
  · rename_i row found
    simp only [AuthorityStore.advanceRow, bind_eq_ok] at made
    obtain ⟨_, -, _, -, _, -, _, -, same⟩ := made
    obtain rfl := Except.ok.inj same
    exact setEpoch found epoch revoked

theorem insertRoot {epoch : Int} {rootGrantId rootGrantDigest : PyStr}
    (made : store.insertRoot context epoch rootGrantId rootGrantDigest = .ok pair) :
    StoreGrows store pair.1 := by
  obtain ⟨-, same⟩ := AuthorityStore.of_insertRoot made
  rw [same]
  exact of_append rfl ⟨_, rfl⟩ (List.Subset.refl _)

theorem insertReplay (row : ReplayRow) : StoreGrows store (store.insertReplay row) :=
  of_append rfl ⟨[], (List.append_nil _).symm⟩ (List.subset_append_left _ _)

theorem consume {replayDomain replayKeyDigest consumedAt : PyStr} {pair : AuthorityStore × Bool}
    (made : store.consume replayDomain replayKeyDigest consumedAt = .ok pair) :
    StoreGrows store pair.1 := by
  simp only [AuthorityStore.consume, bind_eq_ok] at made
  obtain ⟨_, -, _, -, _, -, made⟩ := made
  split at made
  · obtain rfl := Except.ok.inj made
    exact refl store
  · obtain rfl := Except.ok.inj made
    exact insertReplay _

end StoreGrows

variable {context : ContextKey} {final : LiveWorld} {instants : List LiveWorld}
  {config : LiveAuthorityConfig}

theorem StoreGrows.currentEpoch {before after : AuthorityStore} {snapshot : PersistentEpochSnapshot}
    {row : EpochRow} (grows : StoreGrows before after)
    (read : before.currentEpoch context = .ok snapshot) (found : after.epochRow context = some row)
    (version : row.version = snapshot.version) :
    after.currentEpoch context = .ok snapshot := by
  obtain ⟨-, -, readRow, ids, foundRead, -, rfl⟩ := AuthorityStore.currentEpoch_eq_ok.mp read
  obtain ⟨later, foundLater, -, same⟩ := grows.rows _ _ foundRead
  obtain rfl := Option.some.inj (found.symm.trans foundLater)
  rw [← same version.symm] at found
  rw [AuthorityStore.currentEpoch_congr (found.trans foundRead.symm)]
  exact read

theorem StoreGrows.resolveRoot {before after : AuthorityStore} {epoch : Int}
    {anchor : PersistentRootAnchor} (grows : StoreGrows before after)
    (read : before.resolveRoot context epoch = .ok anchor) :
    after.resolveRoot context epoch = .ok anchor := by
  simp only [AuthorityStore.resolveRoot, bind_eq_ok] at read ⊢
  obtain ⟨_, contextOk, _, bound, _, epochBound, read⟩ := read
  refine ⟨_, contextOk, _, bound, _, epochBound, ?_⟩
  cases found : before.rootRow context epoch with
  | none =>
    rw [found] at read
    cases read
  | some row =>
    rw [found] at read
    rw [grows.roots context epoch row found]
    exact read

theorem finalize_eq_ok {binding : PersistentBindingFinalization} {store : AuthorityStore}
    {pair : AuthorityStore × Unit} (made : store.finalize binding = .ok pair) :
    (∃ row, store.epochRow binding.context = some row ∧ row.epoch = binding.epoch ∧
      row.version = binding.authorityStateVersion) ∧
    ¬ store.hasReplay finalizationDomain binding.finalizationKeyDigest ∧
    pair.1 = store.insertReplay
      ⟨finalizationDomain, binding.finalizationKeyDigest, binding.finalizedAt⟩ := by
  simp only [AuthorityStore.finalize, bind_eq_ok] at made
  obtain ⟨_, -, made⟩ := made
  split at made
  · exact nomatch made
  · rename_i row found
    simp only [bind_eq_ok, raiseIf_eq_ok, not_or, ne_eq, not_not] at made
    obtain ⟨_, -, _, ⟨epoch, version, -⟩, _, -, _, -, _, -, _, fresh, same⟩ := made
    obtain rfl := Except.ok.inj same
    exact ⟨⟨row, found, epoch, version⟩, fresh, rfl⟩

theorem StoreGrows.finalize {binding : PersistentBindingFinalization} {store : AuthorityStore}
    {pair : AuthorityStore × Unit} (made : store.finalize binding = .ok pair) :
    StoreGrows store pair.1 := by
  rw [(finalize_eq_ok made).2.2]
  exact .insertReplay _

/-! ### Calls of several threads -/

/-- A call of a thread.  The answers of the source may change at any time. -/
inductive LiveCall
  | finalizeBinding (config : LiveAuthorityConfig) (admitted : LiveAdmittedAuthority)
      (runtimeEvidenceDigest bindingNonce : PyStr) (now : Moment)
  | bootstrapContext (context : ContextKey) (epoch : Int) (revokedGrantIds : List PyStr)
  | advanceEpoch (context : ContextKey) (epoch : Int) (revokedGrantIds : List PyStr)
  | registerRoot (context : ContextKey) (epoch : Int) (rootGrantId rootGrantDigest : PyStr)
  | consumeReplay (replayDomain replayKeyDigest consumedAt : PyStr)
  | publish (backend : AuthorityBackend)

inductive LiveReply
  | finalized (binding : PersistentBindingFinalization)
  | epoch (snapshot : PersistentEpochSnapshot)
  | root (anchor : PersistentRootAnchor)
  | consumed (fresh : Bool)
  | published

def LiveCall.program : LiveCall → PyProg LiveWorld LiveReply
  | .finalizeBinding config admitted runtimeEvidenceDigest bindingNonce now => do
    let binding ← finalizeLiveBinding config admitted runtimeEvidenceDigest bindingNonce now
    return .finalized binding
  | .bootstrapContext context epoch revokedGrantIds => do
    let snapshot ← onStore (CyberLion.bootstrapContext context epoch revokedGrantIds)
    return .epoch snapshot
  | .advanceEpoch context epoch revokedGrantIds => do
    let snapshot ← onStore (CyberLion.advanceEpoch context epoch revokedGrantIds)
    return .epoch snapshot
  | .registerRoot context epoch rootGrantId rootGrantDigest => do
    let anchor ← onStore (CyberLion.registerRoot context epoch rootGrantId rootGrantDigest)
    return .root anchor
  | .consumeReplay replayDomain replayKeyDigest consumedAt => do
    let fresh ← onStore (CyberLion.consumeReplay replayDomain replayKeyDigest consumedAt)
    return .consumed fresh
  | .publish backend => PyProg.transact fun world => ({ world with backend }, .ok .published)

def WorldGrows (before after : LiveWorld) : Prop :=
  StoreGrows before.store after.store

theorem within_onStore {α : Type} {program : PyProg AuthorityStore α}
    (within : PyProg.Within StoreGrows program) : PyProg.Within WorldGrows (onStore program) :=
  Prog.Within.zoom (fun _ _ => rfl) within

theorem within_commit {α : Type} {transaction : AuthorityStore → Except PyError (AuthorityStore × α)}
    (grows : ∀ store pair, transaction store = .ok pair → StoreGrows store pair.1) :
    PyProg.Within StoreGrows (PyProg.transact fun store => store.commit (transaction store)) :=
  PyProg.within_transact fun store => .commit (grows store)

theorem within_bootstrapContext (context : ContextKey) (epoch : Int)
    (revokedGrantIds : List PyStr) :
    PyProg.Within StoreGrows (bootstrapContext context epoch revokedGrantIds) := by
  apply within_lift_bind
  intro _
  apply within_lift_bind
  intro revoked
  apply within_lift_bind
  intro _
  apply (within_commit fun _ _ => StoreGrows.bootstrap).bind
  intro _
  exact within_read StoreGrows.refl _

theorem within_advanceEpoch (context : ContextKey) (epoch : Int) (revokedGrantIds : List PyStr) :
    PyProg.Within StoreGrows (advanceEpoch context epoch revokedGrantIds) := by
  apply within_lift_bind
  intro _
  apply within_lift_bind
  intro revoked
  apply within_lift_bind
  intro candidate
  apply (within_commit fun _ _ => StoreGrows.advance).bind
  intro _
  exact within_read StoreGrows.refl _

theorem within_registerRoot (context : ContextKey) (epoch : Int)
    (rootGrantId rootGrantDigest : PyStr) :
    PyProg.Within StoreGrows (registerRoot context epoch rootGrantId rootGrantDigest) := by
  apply within_lift_bind
  intro _
  apply within_lift_bind
  intro _
  apply within_lift_bind
  intro _
  apply (within_commit fun _ _ => StoreGrows.insertRoot).bind
  intro _
  exact within_pure _

theorem within_consumeReplay (replayDomain replayKeyDigest consumedAt : PyStr) :
    PyProg.Within StoreGrows (consumeReplay replayDomain replayKeyDigest consumedAt) := by
  apply within_lift_bind
  intro _
  apply within_lift_bind
  intro _
  apply within_lift_bind
  intro _
  exact within_commit fun _ _ => StoreGrows.consume

theorem within_finalizeBinding (request : PersistentBindingFinalization) :
    PyProg.Within StoreGrows (finalizeBinding request) := by
  apply within_lift_bind
  intro _
  apply within_lift_bind
  intro key
  apply (within_commit fun _ _ => StoreGrows.finalize).bind
  intro _
  apply within_lift_bind
  intro _
  exact within_pure _

theorem within_liveSnapshot (context : ContextKey) (key : AuthorityLookupKey) :
    PyProg.Within WorldGrows (liveSnapshot context key) := by
  have refl : ∀ world, WorldGrows world world := fun world => StoreGrows.refl world.store
  apply (within_read refl _).bind
  intro record
  apply (within_read refl _).bind
  intro state
  apply (within_read refl _).bind
  intro root
  apply within_lift_bind
  intro _
  exact within_pure _

theorem within_finalizeLiveBinding (config : LiveAuthorityConfig)
    (admitted : LiveAdmittedAuthority) (runtimeEvidenceDigest bindingNonce : PyStr)
    (now : Moment) :
    PyProg.Within WorldGrows
      (finalizeLiveBinding config admitted runtimeEvidenceDigest bindingNonce now) := by
  cases now with
  | naive time => exact within_lift _
  | aware time offset =>
    apply within_lift_bind
    intro _
    apply within_lift_bind
    intro _
    apply within_lift_bind
    intro _
    have revalidates : PyProg.Within WorldGrows (revalidateAt config admitted time offset) := by
      apply within_lift_bind
      intro _
      apply (within_liveSnapshot _ _).bind
      intro before
      apply within_lift_bind
      intro authenticated
      apply (within_liveSnapshot _ _).bind
      intro after
      apply within_lift_bind
      intro same
      apply within_lift_bind
      intro _
      exact within_lift _
    apply revalidates.bind
    intro _
    apply within_lift_bind
    intro current
    apply PyProg.Within.handle
    apply within_lift_bind
    intro admissionDigest
    exact within_onStore (within_finalizeBinding _)

theorem LiveCall.within_program (call : LiveCall) : PyProg.Within WorldGrows call.program := by
  cases call with
  | finalizeBinding config admitted runtimeEvidenceDigest bindingNonce now =>
    exact (within_finalizeLiveBinding ..).bind fun _ => within_pure _
  | bootstrapContext context epoch revokedGrantIds =>
    exact (within_onStore (within_bootstrapContext ..)).bind fun _ => within_pure _
  | advanceEpoch context epoch revokedGrantIds =>
    exact (within_onStore (within_advanceEpoch ..)).bind fun _ => within_pure _
  | registerRoot context epoch rootGrantId rootGrantDigest =>
    exact (within_onStore (within_registerRoot ..)).bind fun _ => within_pure _
  | consumeReplay replayDomain replayKeyDigest consumedAt =>
    exact (within_onStore (within_consumeReplay ..)).bind fun _ => within_pure _
  | publish backend => exact PyProg.within_transact fun world => StoreGrows.refl world.store

theorem exec_liveSnapshot {between : LiveWorld → LiveWorld → Prop} {key : AuthorityLookupKey}
    {start : LiveWorld} {snapshot : LiveSnapshot}
    (accepted : PyProg.Exec between (liveSnapshot context key) start instants final (.ok snapshot)) :
    ∃ first second, instants = [first, second, final] ∧ between start first ∧
      between first second ∧ between second final ∧
      resolveExact first.backend key = .ok snapshot.record ∧
      second.store.currentEpoch context = .ok snapshot.state ∧
      final.store.resolveRoot context snapshot.state.epoch = .ok snapshot.root := by
  simp only [liveSnapshot, orUnavailable, exec_bind_ok, exec_lift, PyProg.exec_read,
    exec_pure, rethrow_eq_ok] at accepted
  obtain ⟨_, first, record, _, rfl, ⟨rfl, waited, isRecord⟩, _, second, state, _, rfl,
    ⟨rfl, waitedSecond, isState⟩, _, third, root, _, rfl, ⟨rfl, waitedThird, isRoot⟩, _, _, _, _,
    rfl, ⟨rfl, rfl, -⟩, rfl, rfl, same⟩ := accepted
  obtain rfl := Except.ok.inj same
  exact ⟨first, second, rfl, waited, waitedSecond, waitedThird, isRecord, isState, isRoot⟩

def finalizedTriple : Except PyError PersistentBindingFinalization → Option (PyStr × PyStr × PyStr)
  | .ok binding =>
    some (binding.liveAdmissionDigest, binding.runtimeEvidenceDigest, binding.bindingNonce)
  | .error _ => none

def repliedTriple : Except PyError LiveReply → Option (PyStr × PyStr × PyStr)
  | .ok (.finalized binding) => finalizedTriple (.ok binding)
  | _ => none

def TripleTaken (world : LiveWorld) (triple : PyStr × PyStr × PyStr) : Prop :=
  ∃ key, finalizationKey triple.1 triple.2.1 triple.2.2 = .ok key ∧
    world.store.hasReplay finalizationDomain key

theorem WorldGrows.taken {before after : LiveWorld} (grows : WorldGrows before after) :
    ∀ triple, TripleTaken before triple → TripleTaken after triple := by
  rintro triple ⟨key, isKey, recorded⟩
  exact ⟨key, isKey, grows.replays _ _ recorded⟩

theorem claims_finalizeBinding (request : PersistentBindingFinalization) :
    PyProg.Claims finalizedTriple TripleTaken (onStore (finalizeBinding request)) := by
  simp only [onStore, finalizeBinding, zoom_bind, zoom_lift, PyProg.zoom_transact,
    zoom_pure]
  apply PyProg.Claims.bind _ fun _ => rfl
  intro _
  cases isKey : finalizationKey request.liveAdmissionDigest request.runtimeEvidenceDigest
      request.bindingNonce with
  | error error => exact rfl
  | ok key =>
    intro found
    cases made : found.store.finalize { request with finalizationKeyDigest := key } with
    | error error =>
      right
      simp only [made]
      exact rfl
    | ok pair =>
      obtain ⟨-, fresh, stored⟩ := finalize_eq_ok made
      cases valid : PersistentBindingFinalization.validate
          { request with finalizationKeyDigest := key } with
      | error error =>
        right
        simp only [made, AuthorityStore.commit]
        exact rfl
      | ok _ =>
        left
        refine ⟨.ok { request with finalizationKeyDigest := key }, _, ?_, rfl, ?_, ?_⟩
        · simp only [made, AuthorityStore.commit]
          rfl
        · rintro ⟨other, isOther, recorded⟩
          obtain rfl : key = other := Except.ok.inj (isKey.symm.trans isOther)
          exact fresh recorded
        · refine ⟨key, isKey, ?_⟩
          simp only [made, AuthorityStore.commit, stored]
          exact ⟨_, List.mem_append_right _ (List.mem_singleton.mpr rfl), rfl, rfl⟩

theorem claims_finalizeLiveBinding (config : LiveAuthorityConfig)
    (admitted : LiveAdmittedAuthority) (runtimeEvidenceDigest bindingNonce : PyStr)
    (now : Moment) :
    PyProg.Claims finalizedTriple TripleTaken
      (finalizeLiveBinding config admitted runtimeEvidenceDigest bindingNonce now) := by
  cases now with
  | naive time => exact rfl
  | aware time offset =>
    have raised : ∀ error, finalizedTriple (.error error) = none := fun _ => rfl
    apply PyProg.Claims.bind _ raised
    intro _
    apply PyProg.Claims.bind _ raised
    intro _
    apply PyProg.Claims.bind _ raised
    intro _
    apply PyProg.Claims.bind _ raised
    intro _
    apply PyProg.Claims.bind _ raised
    intro current
    have handled : ∀ error, finalizedTriple (failClosed error) = finalizedTriple (.error error) :=
      fun _ => rfl
    apply PyProg.Claims.handle handled
    apply PyProg.Claims.bind _ raised
    intro admissionDigest
    exact claims_finalizeBinding _

theorem LiveCall.claims_program (call : LiveCall) :
    PyProg.Claims repliedTriple TripleTaken call.program := by
  have raised : ∀ error, repliedTriple (.error error) = none := fun _ => rfl
  cases call with
  | finalizeBinding config admitted runtimeEvidenceDigest bindingNonce now =>
    apply PyProg.Claims.map
    have tokens : (fun result => repliedTriple (Except.map LiveReply.finalized result)) =
        finalizedTriple := by
      funext result
      cases result <;> rfl
    rw [tokens]
    exact claims_finalizeLiveBinding ..
  | publish backend => exact fun _ => .inr rfl
  | _ => exact PyProg.Claims.bind _ raised fun _ => rfl

end CyberLion
