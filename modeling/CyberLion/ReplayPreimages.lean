import CyberLion.AuthorityTokens
import CyberLion.LiveAdmission

/-!
# Hashed texts

The texts that are hashed for the replay guard, for a lineage, for an observed epoch and for
the receipt of a merge.  Each joins its fields by NUL, and of every field but the last one of
a replay it was checked that it holds no NUL.
-/

namespace CyberLion

open PyLib

/-! ### Fields without NUL -/

theorem notMem_of_hasNul {value : PyStr} (noNul : hasNul value = false) :
    (0 : CodePoint) ∉ value := by
  intro member
  have isNul : hasNul value = true := List.any_eq_true.mpr ⟨0, member, rfl⟩
  rw [isNul] at noNul
  exact absurd noNul (by decide)

theorem notMem_of_boundedText {raised : PyStr → PyError} {limit : Nat} {name value : PyStr}
    (accepted : boundedText raised limit name value = .ok ()) : (0 : CodePoint) ∉ value :=
  notMem_of_hasNul (boundedText_eq_ok.mp accepted).2.2

theorem notMem_of_gitSha {raised : PyStr → PyError} {name value : PyStr}
    (accepted : gitSha raised name value = .ok ()) : (0 : CodePoint) ∉ value := by
  simp only [gitSha, bind_eq_ok] at accepted
  obtain ⟨_, bounded, -⟩ := accepted
  exact notMem_of_boundedText bounded

theorem notMem_of_isLowerHexOf {value : PyStr} (hex : isLowerHexOf 64 value = true) :
    (0 : CodePoint) ∉ value :=
  notMem_of_hasNul (solid_of_isLowerHexOf hex).2.2

theorem notMem_nul_of_formatInt {number : Int} {text : PyStr}
    (isText : formatInt number = .ok text) : (0 : CodePoint) ∉ text :=
  notMem_of_formatInt rfl (by decide) isText

/-! ### Replays -/

inductive ReplayTarget
  | pullRequest (number : Int) (baseSha headSha : PyStr)
  | branch (name expectedHead protectedMasterSha : PyStr)

def ReplayTarget.parts : ReplayTarget → Except PyError (List PyStr)
  | .pullRequest number baseSha headSha => do
    let digits ← formatInt number
    return [digits, baseSha, headSha]
  | .branch name expectedHead protectedMasterSha => .ok [name, expectedHead, protectedMasterSha]

structure ReplayFields where
  lineageDigest : PyStr
  grantId : PyStr
  repository : PyStr
  target : ReplayTarget
  missionId : PyStr
  epoch : Int
  version : Int
  replayNonce : PyStr

namespace ReplayFields

def front (fields : ReplayFields) : Except PyError (List PyStr) := do
  let target ← fields.target.parts
  let epoch ← formatInt fields.epoch
  let version ← formatInt fields.version
  return [fields.lineageDigest, fields.grantId, fields.repository] ++ target ++
    [fields.missionId, epoch, version]

/-- `replay_material`. -/
def material (fields : ReplayFields) : Except PyError Utf8Bytes := do
  let front ← fields.front
  encodeUtf8 (pyJoin (py "\x00") (front ++ [fields.replayNonce]))

end ReplayFields

def ReplayTarget.Accepted : ReplayTarget → Prop
  | .pullRequest _ baseSha headSha => (0 : CodePoint) ∉ baseSha ∧ (0 : CodePoint) ∉ headSha
  | .branch name expectedHead protectedMasterSha => validateBranchName name = .ok () ∧
    (0 : CodePoint) ∉ expectedHead ∧ (0 : CodePoint) ∉ protectedMasterSha

/-- What was checked of the fields before they are hashed: nothing of the nonce. -/
structure ReplayFields.Accepted (fields : ReplayFields) : Prop where
  lineageDigest : (0 : CodePoint) ∉ fields.lineageDigest
  grantId : (0 : CodePoint) ∉ fields.grantId
  repository : (0 : CodePoint) ∉ fields.repository
  target : fields.target.Accepted
  missionId : (0 : CodePoint) ∉ fields.missionId

/-- The name of a branch is no number. -/
theorem formatInt_ne_of_validateBranchName {branch : PyStr} {number : Int}
    (accepted : validateBranchName branch = .ok ()) : formatInt number ≠ .ok branch := by
  have literals : ∀ name ∈ maintenanceExactBranches ++ maintenancePrefixes,
      name.any (fun c => !c.isAsciiDigit && c != 0x2D) = true := by
    decide +kernel
  have letter : branch.any (fun c => !c.isAsciiDigit && c != 0x2D) = true := by
    simp only [validateBranchName, bind_eq_ok, raiseIf_eq_ok, not_and] at accepted
    obtain ⟨_, listed, -⟩ := accepted
    by_cases exact : branch ∈ maintenanceExactBranches
    · exact literals branch (List.mem_append_left _ exact)
    · have matched := Bool.eq_true_of_not_eq_false (listed exact)
      simp only [isMaintenanceBranch, List.any_eq_true, Bool.and_eq_true, decide_eq_true_eq] at matched
      obtain ⟨first, isFirst, ⟨⟨isPrefix, -⟩, -⟩, -⟩ := matched
      obtain ⟨tail, rfl⟩ := List.isPrefixOf_iff_prefix.mp isPrefix
      rw [List.any_append, literals first (List.mem_append_right _ isFirst), Bool.true_or]
  simp only [List.any_eq_true, Bool.and_eq_true, Bool.not_eq_true', bne_iff_ne, ne_eq] at letter
  obtain ⟨c, member, notDigit, notMinus⟩ := letter
  intro isText
  exact notMem_of_formatInt notDigit notMinus isText member

namespace ReplayTarget

variable {first second : ReplayTarget} {parts : List PyStr}

theorem Accepted.noNul (accepted : first.Accepted) (areParts : first.parts = .ok parts) :
    ∀ part ∈ parts, (0 : CodePoint) ∉ part := by
  cases first with
  | pullRequest number baseSha headSha =>
    simp only [ReplayTarget.parts, bind_eq_ok, pure_eq_ok] at areParts
    obtain ⟨digits, isDigits, rfl⟩ := areParts
    simpa using ⟨notMem_nul_of_formatInt isDigits, accepted⟩
  | branch name expectedHead protectedMasterSha =>
    obtain ⟨isBranch, heads⟩ := accepted
    rw [← Except.ok.inj areParts]
    simpa using ⟨notMem_of_validateBranchName (by decide) isBranch, heads⟩

theorem length_of_parts (areParts : first.parts = .ok parts) : parts.length = 3 := by
  cases first with
  | pullRequest number baseSha headSha =>
    simp only [ReplayTarget.parts, bind_eq_ok, pure_eq_ok] at areParts
    obtain ⟨digits, -, rfl⟩ := areParts
    rfl
  | branch name expectedHead protectedMasterSha =>
    rw [← Except.ok.inj areParts]
    rfl

theorem Accepted.inj (isFirst : first.Accepted) (isSecond : second.Accepted)
    (firstParts : first.parts = .ok parts) (secondParts : second.parts = .ok parts) :
    first = second := by
  cases first with
  | pullRequest number baseSha headSha =>
    simp only [ReplayTarget.parts, bind_eq_ok, pure_eq_ok] at firstParts
    obtain ⟨digits, isDigits, rfl⟩ := firstParts
    cases second with
    | pullRequest other otherBase otherHead =>
      simp only [ReplayTarget.parts, bind_eq_ok, pure_eq_ok, List.cons.injEq, and_true]
        at secondParts
      obtain ⟨_, areDigits, rfl, rfl, rfl⟩ := secondParts
      rw [formatInt_inj isDigits areDigits]
    | branch name expectedHead protectedMasterSha =>
      simp only [ReplayTarget.parts, Except.ok.injEq, List.cons.injEq, and_true] at secondParts
      obtain ⟨rfl, -, -⟩ := secondParts
      exact absurd isDigits (formatInt_ne_of_validateBranchName isSecond.1)
  | branch name expectedHead protectedMasterSha =>
    rw [← Except.ok.inj firstParts] at secondParts
    cases second with
    | pullRequest other otherBase otherHead =>
      simp only [ReplayTarget.parts, bind_eq_ok, pure_eq_ok, List.cons.injEq] at secondParts
      obtain ⟨_, areDigits, rfl, -⟩ := secondParts
      exact absurd areDigits (formatInt_ne_of_validateBranchName isFirst.1)
    | branch other otherHead otherMaster =>
      simp only [ReplayTarget.parts, Except.ok.injEq, List.cons.injEq, and_true] at secondParts
      obtain ⟨rfl, rfl, rfl⟩ := secondParts
      rfl

end ReplayTarget

namespace ReplayFields

variable {first second : ReplayFields} {bytes : Utf8Bytes}

theorem Accepted.noNul {front : List PyStr} (accepted : first.Accepted)
    (isFront : first.front = .ok front) : ∀ part ∈ front, (0 : CodePoint) ∉ part := by
  simp only [ReplayFields.front, bind_eq_ok, pure_eq_ok] at isFront
  obtain ⟨target, isTarget, epoch, isEpoch, version, isVersion, rfl⟩ := isFront
  simp only [List.mem_append, List.mem_cons, List.not_mem_nil, or_false]
  rintro part (((rfl | rfl | rfl) | inTarget) | rfl | rfl | rfl)
  · exact accepted.lineageDigest
  · exact accepted.grantId
  · exact accepted.repository
  · exact accepted.target.noNul isTarget part inTarget
  · exact accepted.missionId
  · exact notMem_nul_of_formatInt isEpoch
  · exact notMem_nul_of_formatInt isVersion

/-- The hashed text tells its fields, and whether they are of a pull request or a branch. -/
theorem Accepted.inj (isFirst : first.Accepted) (isSecond : second.Accepted)
    (firstBytes : first.material = .ok bytes) (secondBytes : second.material = .ok bytes) :
    first = second := by
  simp only [material, bind_eq_ok, encodeUtf8_eq_ok] at firstBytes secondBytes
  obtain ⟨front, isFront, joined⟩ := firstBytes
  obtain ⟨other, isOther, otherJoined⟩ := secondBytes
  have noNul := isFirst.noNul isFront
  have otherNoNul := isSecond.noNul isOther
  simp only [ReplayFields.front, bind_eq_ok, pure_eq_ok] at isFront isOther
  obtain ⟨target, isTarget, epoch, isEpoch, version, isVersion, rfl⟩ := isFront
  obtain ⟨otherTarget, isOtherTarget, otherEpoch, isOtherEpoch, otherVersion, isOtherVersion, rfl⟩ :=
    isOther
  have lengths : target.length = otherTarget.length :=
    (ReplayTarget.length_of_parts isTarget).trans (ReplayTarget.length_of_parts isOtherTarget).symm
  obtain ⟨sameFront, sameNonce⟩ := pyJoin_inj_of_length 0 (by simp [lengths]) noNul
    otherNoNul (joined.symm.trans otherJoined)
  obtain ⟨sameStart, sameEnd⟩ := List.append_inj sameFront (by simp [lengths])
  obtain ⟨sameIds, rfl⟩ := List.append_inj sameStart rfl
  simp only [List.cons.injEq, and_true] at sameIds sameEnd
  obtain ⟨sameMission, rfl, rfl⟩ := sameEnd
  cases first
  cases second
  simp only [ReplayFields.mk.injEq]
  exact ⟨sameIds.1, sameIds.2.1, sameIds.2.2, isFirst.target.inj isSecond.target isTarget isOtherTarget,
    sameMission, formatInt_inj isEpoch isOtherEpoch, formatInt_inj isVersion isOtherVersion, sameNonce⟩

end ReplayFields

/-! ### Admissions -/

theorem resolveExact_eq_ok {backend : AuthorityBackend} {key : AuthorityLookupKey}
    {record : AuthorityLineageRecord} (resolved : resolveExact backend key = .ok record) :
    key.validate = .ok () ∧ record.validate = .ok () ∧ record.lookupKey = key := by
  simp only [resolveExact, bind_eq_ok] at resolved
  obtain ⟨_, valid, candidates, -, resolved⟩ := resolved
  split at resolved
  · exact absurd resolved (by simp)
  · simp only [bind_eq_ok, raiseIf_eq_ok, pure_eq_ok, ne_eq, not_not] at resolved
    obtain ⟨_, recordValid, _, same, rfl⟩ := resolved
    exact ⟨valid, recordValid, same⟩
  · exact absurd resolved (by simp)

theorem resolveRepositoryRefExact_eq_ok {backend : RepositoryRefBackend}
    {key : RepositoryRefAuthorityLookupKey} {record : RepositoryRefAuthorityLineageRecord}
    (resolved : resolveRepositoryRefExact backend key = .ok record) :
    key.validate = .ok () ∧ record.validate = .ok () ∧ record.lookupKey = key := by
  simp only [resolveRepositoryRefExact, bind_eq_ok] at resolved
  obtain ⟨_, valid, candidates, -, resolved⟩ := resolved
  split at resolved
  · exact absurd resolved (by simp)
  · simp only [bind_eq_ok, raiseIf_eq_ok, pure_eq_ok, ne_eq, not_not] at resolved
    obtain ⟨_, recordValid, _, same, rfl⟩ := resolved
    exact ⟨valid, recordValid, same⟩
  · exact absurd resolved (by simp)

/-- The fields that the receipt of a pull request shows, with its nonce. -/
def LiveAdmittedAuthority.replayFields (admitted : LiveAdmittedAuthority) (replayNonce : PyStr) :
    ReplayFields where
  lineageDigest := admitted.lineageDigest
  grantId := admitted.grantId
  repository := admitted.repository
  target := .pullRequest admitted.prNumber admitted.baseSha admitted.headSha
  missionId := admitted.missionId
  epoch := admitted.epoch
  version := admitted.epochStateVersion
  replayNonce := replayNonce

/-- The fields that the receipt of a branch shows, with its nonce. -/
def LiveAdmittedRepositoryRefAuthority.replayFields
    (admitted : LiveAdmittedRepositoryRefAuthority) (replayNonce : PyStr) : ReplayFields where
  lineageDigest := admitted.lineageDigest
  grantId := admitted.grantId
  repository := admitted.repository
  target := .branch admitted.branch admitted.expectedHead admitted.protectedMasterSha
  missionId := admitted.missionId
  epoch := admitted.epoch
  version := admitted.epochStateVersion
  replayNonce := replayNonce

/-- Some admission, among any steps of others, returned for the fields and gave the digest to
the replay guard. -/
inductive ConsumesReplay : ReplayFields → PyStr → Prop
  | pullRequest {between : LiveWorld → LiveWorld → Prop} {config : LiveAuthorityConfig}
      {replayDomain : PyStr} {key : AuthorityLookupKey} {replayNonce : PyStr} {now : Moment}
      {start final : LiveWorld} {instants : List LiveWorld} {admitted : LiveAdmittedAuthority}
      (run : PyProg.Exec between (admitLive config replayDomain key replayNonce now) start instants
        final (.ok admitted)) :
      ConsumesReplay (admitted.replayFields replayNonce) admitted.replayDigest
  | branch {between : AdmissionWorld → AdmissionWorld → Prop} {config : LiveAuthorityConfig}
      {replayDomain : PyStr} {key : RepositoryRefAuthorityLookupKey} {replayNonce : PyStr}
      {now : Moment} {start final : AdmissionWorld} {instants : List AdmissionWorld}
      {admitted : LiveAdmittedRepositoryRefAuthority}
      (run : PyProg.Exec between (admitRepositoryRef config replayDomain key replayNonce now) start
        instants final (.ok admitted)) :
      ConsumesReplay (admitted.replayFields replayNonce) admitted.replayDigest

/-- The digest is that of the material of fields that were checked. -/
theorem ConsumesReplay.hashed {fields : ReplayFields} {digest : PyStr} (consumes : ConsumesReplay fields digest) :
    fields.Accepted ∧ ∃ bytes, fields.material = .ok bytes ∧ digest = sha256 bytes := by
  cases consumes with
  | pullRequest run =>
    obtain ⟨read, -, snapshot, leaf, _, _, _, _, isRecord, isLeaf, isDigest, rfl⟩ :=
      exec_admit_found run
    obtain ⟨keyValid, recordValid, sameKey⟩ := resolveExact_eq_ok isRecord
    simp only [AuthorityLineageRecord.validate, bind_eq_ok] at recordValid
    obtain ⟨_, -, recordValid⟩ := recordValid
    rw [isLeaf] at recordValid
    simp only [bind_eq_ok, raiseIf_eq_ok, not_not, AuthorityLineageRecord.validateLeaf, ne_eq]
      at recordValid
    obtain ⟨_, -, _, -, _, hex, _, -, _, sameGrant, -⟩ := recordValid
    simp only [AuthorityLookupKey.validate, bind_eq_ok] at keyValid
    obtain ⟨_, repository, _, -, _, base, _, head, _, mission, grant⟩ := keyValid
    rw [sameKey] at sameGrant
    refine ⟨⟨notMem_of_isLowerHexOf hex, ?_, notMem_of_boundedText repository,
      ⟨notMem_of_gitSha base, notMem_of_gitSha head⟩, notMem_of_boundedText mission⟩, ?_⟩
    · exact (congrArg ((0 : CodePoint) ∉ ·) sameGrant).mpr (notMem_of_boundedText grant)
    · simp only [admissionReplayDigest, replayDigestOf, bind_eq_ok, pure_eq_ok] at isDigest
      obtain ⟨digits, isDigits, epoch, isEpoch, version, isVersion, bytes, isBytes, rfl⟩ := isDigest
      refine ⟨bytes, ?_, rfl⟩
      simp only [ReplayFields.material, ReplayFields.front, ReplayTarget.parts,
        LiveAdmittedAuthority.replayFields, admittedOf, isDigits, isEpoch, isVersion, ok_bind,
        pure_bind]
      exact isBytes
  | branch run =>
    obtain ⟨read, -, snapshot, leaf, _, _, _, _, isRecord, isLeaf, isDigest, rfl⟩ :=
      exec_admitRepositoryRef_found run
    obtain ⟨keyValid, recordValid, sameKey⟩ := resolveRepositoryRefExact_eq_ok isRecord
    simp only [RepositoryRefAuthorityLineageRecord.validate, bind_eq_ok] at recordValid
    obtain ⟨_, -, recordValid⟩ := recordValid
    rw [isLeaf] at recordValid
    simp only [bind_eq_ok, raiseIf_eq_ok, not_not, RepositoryRefAuthorityLineageRecord.validateLeaf,
      ne_eq] at recordValid
    obtain ⟨_, -, _, -, _, hex, _, -, _, sameGrant, -⟩ := recordValid
    simp only [RepositoryRefAuthorityLookupKey.validate, bind_eq_ok, rethrow_eq_ok] at keyValid
    obtain ⟨_, repository, _, name, _, head, _, master, _, mission, grant⟩ := keyValid
    rw [sameKey] at sameGrant
    refine ⟨⟨notMem_of_isLowerHexOf hex, ?_, notMem_of_boundedText repository,
      ⟨name, notMem_of_gitSha head, notMem_of_gitSha master⟩, notMem_of_boundedText mission⟩, ?_⟩
    · exact (congrArg ((0 : CodePoint) ∉ ·) sameGrant).mpr (notMem_of_boundedText grant)
    · simp only [refReplayDigest, replayDigestOf, bind_eq_ok, pure_eq_ok] at isDigest
      obtain ⟨epoch, isEpoch, version, isVersion, bytes, isBytes, rfl⟩ := isDigest
      refine ⟨bytes, ?_, rfl⟩
      simp only [ReplayFields.material, ReplayFields.front, ReplayTarget.parts,
        LiveAdmittedRepositoryRefAuthority.replayFields, admittedRefOf, isEpoch, isVersion, ok_bind,
        pure_bind]
      exact isBytes

/-! ### Lineages -/

/-- The digests of a lineage that was digested. -/
theorem lineagePayload_inj {first second : List PyStr} {digest other : PyStr}
    (isFirst : lineageDigest first = .ok digest) (isSecond : lineageDigest second = .ok other)
    (same : lineagePayload first = lineagePayload second) : first = second := by
  simp only [lineageDigest, bind_eq_ok, raiseIf_eq_ok, not_exists, not_and, not_not]
    at isFirst isSecond
  obtain ⟨_, nonempty, _, allHex, -⟩ := isFirst
  obtain ⟨_, otherNonempty, _, otherHex, -⟩ := isSecond
  exact pyJoin_inj 0 nonempty otherNonempty
    (fun part member => notMem_of_isLowerHexOf (allHex part member))
    (fun part member => notMem_of_isLowerHexOf (otherHex part member))
    (List.append_cancel_left same)

/-! ### Observed epochs -/

structure AuthorityEpochObservationSnapshot where
  context : ContextKey
  epoch : Int
  revokedGrantIds : List PyStr
  stateDigest : PyStr

/-- The text that `_authority_epoch_observation_digest` hashes. -/
def epochObservationPayload (state : AuthorityEpochState) : Except PyError PyStr := do
  let epoch ← formatInt state.epoch
  return py "CYBER-LION/AUTHORITY-EPOCH-OBSERVATION/1.0.0\x00" ++ pyJoin (py "\x00")
    ([state.context.trustDomain, state.context.tenantId, state.context.organizationId,
      state.context.missionId, epoch] ++ state.revokedGrantIds)

def authorityEpochObservationDigest (state : AuthorityEpochState) : Except PyError PyStr := do
  let payload ← epochObservationPayload state
  let bytes ← encodeUtf8 payload
  return sha256 bytes

namespace AuthorityEpochObservationSnapshot

def state (snapshot : AuthorityEpochObservationSnapshot) : AuthorityEpochState :=
  ⟨snapshot.context, snapshot.epoch, snapshot.revokedGrantIds⟩

def validate (snapshot : AuthorityEpochObservationSnapshot) : Except PyError Unit := do
  boundedText revocationError 256 (py "trust_domain") snapshot.context.trustDomain
  boundedText revocationError 256 (py "tenant_id") snapshot.context.tenantId
  boundedText revocationError 256 (py "organization_id") snapshot.context.organizationId
  boundedText revocationError 256 (py "mission_id") snapshot.context.missionId
  validEpoch (py "epoch") snapshot.epoch
  forM snapshot.revokedGrantIds (boundedText revocationError 256 (py "revoked_grant_id"))
  raiseIf (¬ snapshot.revokedGrantIds.Nodup)
    (revocationError (py "snapshot revoked_grant_ids must be unique"))
  raiseIf (¬ isLowerHexOf 64 snapshot.stateDigest = true)
    (revocationError (py "state_digest must be canonical sha256 hex"))
  let expected ← authorityEpochObservationDigest snapshot.state
  raiseIf (snapshot.stateDigest ≠ expected)
    (revocationError (py "state_digest does not bind exact epoch snapshot"))

end AuthorityEpochObservationSnapshot

/-- A state is checked before it is hashed: its owner holds valid states only, and a snapshot
checks its own fields first. -/
theorem epochObservationPayload_inj {first second : AuthorityEpochState} {payload : PyStr}
    (isFirst : first.validate = .ok ()) (isSecond : second.validate = .ok ())
    (firstPayload : epochObservationPayload first = .ok payload)
    (secondPayload : epochObservationPayload second = .ok payload) : first = second := by
  have noNul : ∀ {state : AuthorityEpochState} {epoch : PyStr}, state.validate = .ok () →
      formatInt state.epoch = .ok epoch → ∀ part ∈ [state.context.trustDomain,
        state.context.tenantId, state.context.organizationId, state.context.missionId, epoch] ++
          state.revokedGrantIds, (0 : CodePoint) ∉ part := by
    intro state epoch valid isEpoch
    simp only [AuthorityEpochState.validate, bind_eq_ok] at valid
    obtain ⟨_, trust, _, tenant, _, organization, _, mission, _, -, _, revoked, -⟩ := valid
    have revoked := forM_eq_ok.mp revoked
    simp only [List.mem_append, List.mem_cons, List.not_mem_nil, or_false]
    rintro part ((rfl | rfl | rfl | rfl | rfl) | inRevoked)
    · exact notMem_of_boundedText trust
    · exact notMem_of_boundedText tenant
    · exact notMem_of_boundedText organization
    · exact notMem_of_boundedText mission
    · exact notMem_nul_of_formatInt isEpoch
    · exact notMem_of_boundedText (revoked part inRevoked)
  simp only [epochObservationPayload, bind_eq_ok, pure_eq_ok] at firstPayload secondPayload
  obtain ⟨epoch, isEpoch, rfl⟩ := firstPayload
  obtain ⟨other, isOther, same⟩ := secondPayload
  have parts := pyJoin_inj 0 (by simp) (by simp) (noNul isSecond isOther)
    (noNul isFirst isEpoch) (List.append_cancel_left same)
  simp only [List.cons_append, List.nil_append, List.cons.injEq] at parts
  obtain ⟨trust, tenant, organization, mission, rfl, revoked⟩ := parts
  obtain ⟨⟨_, _, _, _⟩, _, _⟩ := first
  obtain ⟨⟨_, _, _, _⟩, _, _⟩ := second
  simp only [AuthorityEpochState.mk.injEq, ContextKey.mk.injEq]
  exact ⟨⟨trust.symm, tenant.symm, organization.symm, mission.symm⟩, formatInt_inj isEpoch isOther,
    revoked.symm⟩

theorem AuthorityEpochObservationSnapshot.state_valid
    {snapshot : AuthorityEpochObservationSnapshot} (valid : snapshot.validate = .ok ()) : snapshot.state.validate = .ok () ∧
      authorityEpochObservationDigest snapshot.state = .ok snapshot.stateDigest := by
  simp only [validate, bind_eq_ok, raiseIf_eq_ok, ne_eq, not_not] at valid
  obtain ⟨_, trust, _, tenant, _, organization, _, mission, _, epoch, _, revoked, _, distinct, _, -,
    digest, isDigest, same⟩ := valid
  constructor
  · simp only [AuthorityEpochState.validate, bind_eq_ok, raiseIf_eq_ok, not_not]
    exact ⟨(), trust, (), tenant, (), organization, (), mission, (), epoch, (), revoked, distinct⟩
  · rw [isDigest, same]

/-! ### Receipts of merges -/

structure MergeExecutionReceipt where
  receiptId : PyStr
  admissionId : PyStr
  repository : PyStr
  prNumber : Int
  baseSha : PyStr
  headSha : PyStr
  mergeSha : PyStr
  mergeMethod : PyStr
  grantId : PyStr
  grantDigest : PyStr
  lineageDigest : PyStr
  epoch : Int
  executor : PyStr
  outcome : PyStr

namespace MergeExecutionReceipt

def validate (receipt : MergeExecutionReceipt) : Except PyError Unit := do
  boundedText mergeError 512 (py "receipt_id") receipt.receiptId
  boundedText mergeError 512 (py "admission_id") receipt.admissionId
  boundedText mergeError 512 (py "executor") receipt.executor
  MergeIntent.validate ⟨receipt.repository, receipt.prNumber, receipt.baseSha, receipt.headSha,
    receipt.mergeMethod, mergeAction⟩
  gitSha mergeError (py "merge_sha") receipt.mergeSha
  boundedText mergeError 512 (py "grant_id") receipt.grantId
  boundedText mergeError 512 (py "grant_digest") receipt.grantDigest
  boundedText mergeError 512 (py "lineage_digest") receipt.lineageDigest
  raiseIf (receipt.epoch < 0) (mergeError (py "receipt epoch is invalid"))
  raiseIf (receipt.outcome ∉ [py "SUCCEEDED", py "FAILED", py "PARTIAL", py "ABORTED"])
    (mergeError (py "invalid merge execution outcome"))

def payload (receipt : MergeExecutionReceipt) : Except PyError PyStr := do
  let number ← formatInt receipt.prNumber
  let epoch ← formatInt receipt.epoch
  return pyJoin (py "\x00") ([receipt.admissionId, receipt.repository, number, receipt.baseSha,
    receipt.headSha, receipt.mergeSha, receipt.mergeMethod, receipt.grantDigest,
    receipt.lineageDigest, epoch, receipt.executor] ++ [receipt.outcome])

def hashed (receipt : MergeExecutionReceipt) : MergeExecutionReceipt :=
  { receipt with receiptId := [], grantId := [] }

end MergeExecutionReceipt

def issueMergeExecutionReceipt (decision : MergeAdmissionDecision)
    (mergeSha executor outcome : PyStr) : Except PyError MergeExecutionReceipt := do
  decision.validate
  raiseIf (decision.decision ≠ .allow)
    (mergeError (py "cannot issue merge receipt for denied admission"))
  match decision.grantId, decision.grantDigest, decision.lineageDigest, decision.epoch with
  | some grantId, some grantDigest, some lineageDigest, some epoch => do
    let receipt : MergeExecutionReceipt := ⟨[], decision.admissionId, decision.repository,
      decision.prNumber, decision.baseSha, decision.headSha, mergeSha, decision.mergeMethod, grantId,
      grantDigest, lineageDigest, epoch, executor, outcome⟩
    let payload ← receipt.payload
    let bytes ← encodeUtf8 payload
    let issued := { receipt with receiptId := py "merge-receipt:" ++ sha256 bytes }
    issued.validate
    return issued
  | _, _, _, _ => .error ⟨.declared .exception (py "AssertionError"), []⟩

theorem issueMergeExecutionReceipt_eq_ok {decision : MergeAdmissionDecision}
    {mergeSha executor outcome : PyStr} {receipt : MergeExecutionReceipt}
    (issued : issueMergeExecutionReceipt decision mergeSha executor outcome = .ok receipt) :
    receipt.validate = .ok () ∧ ∃ payload bytes, receipt.payload = .ok payload ∧
      encodeUtf8 payload = .ok bytes ∧ receipt.receiptId = py "merge-receipt:" ++ sha256 bytes := by
  simp only [issueMergeExecutionReceipt, bind_eq_ok] at issued
  obtain ⟨_, -, _, -, issued⟩ := issued
  split at issued
  · simp only [bind_eq_ok, pure_eq_ok] at issued
    obtain ⟨payload, isPayload, bytes, areBytes, _, valid, rfl⟩ := issued
    exact ⟨valid, payload, bytes, isPayload, areBytes, rfl⟩
  · exact absurd issued (by simp)

/-- The fields were checked after they had been hashed. -/
theorem MergeExecutionReceipt.payload_inj {first second : MergeExecutionReceipt} {payload : PyStr}
    (isFirst : first.validate = .ok ()) (isSecond : second.validate = .ok ())
    (firstPayload : first.payload = .ok payload) (secondPayload : second.payload = .ok payload) :
    first.hashed = second.hashed := by
  have methods : ∀ method ∈ allowedMergeMethods, hasNul method = false := by decide +kernel
  have noNul : ∀ {receipt : MergeExecutionReceipt} {number epoch : PyStr},
      receipt.validate = .ok () → formatInt receipt.prNumber = .ok number →
      formatInt receipt.epoch = .ok epoch → ∀ part ∈ [receipt.admissionId, receipt.repository,
        number, receipt.baseSha, receipt.headSha, receipt.mergeSha, receipt.mergeMethod,
        receipt.grantDigest, receipt.lineageDigest, epoch, receipt.executor],
        (0 : CodePoint) ∉ part := by
    intro receipt number epoch valid isNumber isEpoch
    simp only [validate, MergeIntent.validate, bind_eq_ok, raiseIf_eq_ok, not_not] at valid
    obtain ⟨_, -, _, admission, _, executor, _, ⟨_, repository, _, -, _, base, _, head, _, method,
      -⟩, _, merge, _, -, _, grant, _, lineage, -⟩ := valid
    simp only [List.mem_cons, List.not_mem_nil, or_false]
    rintro part (rfl | rfl | rfl | rfl | rfl | rfl | rfl | rfl | rfl | rfl | rfl)
    · exact notMem_of_boundedText admission
    · exact notMem_of_boundedText repository
    · exact notMem_nul_of_formatInt isNumber
    · exact notMem_of_gitSha base
    · exact notMem_of_gitSha head
    · exact notMem_of_gitSha merge
    · exact notMem_of_hasNul (methods _ method)
    · exact notMem_of_boundedText grant
    · exact notMem_of_boundedText lineage
    · exact notMem_nul_of_formatInt isEpoch
    · exact notMem_of_boundedText executor
  simp only [MergeExecutionReceipt.payload, bind_eq_ok, pure_eq_ok] at firstPayload secondPayload
  obtain ⟨number, isNumber, epoch, isEpoch, rfl⟩ := firstPayload
  obtain ⟨other, isOther, otherEpoch, isOtherEpoch, same⟩ := secondPayload
  obtain ⟨parts, outcomes⟩ := pyJoin_inj_of_length 0 (by rfl)
    (noNul isSecond isOther isOtherEpoch) (noNul isFirst isNumber isEpoch) same
  simp only [List.cons.injEq, and_true] at parts
  obtain ⟨admission, repository, rfl, base, head, merge, method, grant, lineage, rfl, executor⟩ :=
    parts
  rw [hashed, hashed, admission, repository, formatInt_inj isNumber isOther, base, head, merge,
    method, grant, lineage, formatInt_inj isEpoch isOtherEpoch, executor, outcomes]

/-! ### Unambiguity -/

def ToldApart (first second : Except PyError Utf8Bytes) : Prop :=
  ∀ bytes other, first = .ok bytes → second = .ok other → sha256 bytes = sha256 other →
    bytes = other

def MergeExecutionReceipt.material (receipt : MergeExecutionReceipt) : Except PyError Utf8Bytes := do
  let payload ← receipt.payload
  encodeUtf8 payload

def Issued (receipt : MergeExecutionReceipt) : Prop :=
  ∃ decision mergeSha executor outcome,
    issueMergeExecutionReceipt decision mergeSha executor outcome = .ok receipt

theorem Issued.inj {first second : MergeExecutionReceipt} (isFirst : Issued first)
    (isSecond : Issued second) {bytes : Utf8Bytes} (firstBytes : first.material = .ok bytes)
    (secondBytes : second.material = .ok bytes) : first.hashed = second.hashed := by
  obtain ⟨_, _, _, _, isFirst⟩ := isFirst
  obtain ⟨_, _, _, _, isSecond⟩ := isSecond
  simp only [MergeExecutionReceipt.material, bind_eq_ok, encodeUtf8_eq_ok] at firstBytes secondBytes
  obtain ⟨payload, isPayload, rfl⟩ := firstBytes
  obtain ⟨other, isOther, rfl⟩ := secondBytes
  exact MergeExecutionReceipt.payload_inj (issueMergeExecutionReceipt_eq_ok isFirst).1
    (issueMergeExecutionReceipt_eq_ok isSecond).1 isPayload isOther

theorem Issued.hashed {receipt : MergeExecutionReceipt} (issued : Issued receipt) :
    ∃ bytes, receipt.material = .ok bytes ∧
      receipt.receiptId = py "merge-receipt:" ++ sha256 bytes := by
  obtain ⟨_, _, _, _, issued⟩ := issued
  obtain ⟨-, payload, bytes, isPayload, areBytes, isId⟩ := issueMergeExecutionReceipt_eq_ok issued
  refine ⟨bytes, ?_, isId⟩
  rw [MergeExecutionReceipt.material, isPayload, ok_bind, areBytes]

/-- The bytes that are hashed for an admission, a lineage, an observed epoch or a receipt of a
merge tell every field, and for an admission whether it was of a pull request or a branch.  So
two admissions with one replay digest agree in every field, and two receipts with one identity
in every hashed field, when the hash tells their bytes apart. -/
theorem replayPreimages_unambiguous :
    (∀ fields digest, ConsumesReplay fields digest →
      ∃ bytes, fields.material = .ok bytes ∧ digest = sha256 bytes) ∧
    (∀ first second digest other bytes, ConsumesReplay first digest → ConsumesReplay second other →
      first.material = .ok bytes → second.material = .ok bytes → first = second) ∧
    (∀ first second digest, ConsumesReplay first digest → ConsumesReplay second digest →
      ToldApart first.material second.material → first = second) ∧
    (∀ first second digest other, lineageDigest first = .ok digest →
      lineageDigest second = .ok other → lineagePayload first = lineagePayload second →
      first = second) ∧
    (∀ (first second : AuthorityEpochObservationSnapshot) payload, first.validate = .ok () →
      second.validate = .ok () → epochObservationPayload first.state = .ok payload →
      epochObservationPayload second.state = .ok payload → first.state = second.state) ∧
    (∀ first second bytes, Issued first → Issued second → first.material = .ok bytes →
      second.material = .ok bytes → first.hashed = second.hashed) ∧
    ∀ first second, Issued first → Issued second → first.receiptId = second.receiptId →
      ToldApart first.material second.material → first.hashed = second.hashed := by
  refine ⟨?_, ?_, ?_, ?_, ?_, ?_, ?_⟩
  · intro fields digest consumes
    exact consumes.hashed.2
  · intro first second digest other bytes isFirst isSecond firstBytes secondBytes
    exact isFirst.hashed.1.inj isSecond.hashed.1 firstBytes secondBytes
  · intro first second digest isFirst isSecond apart
    obtain ⟨accepted, bytes, areBytes, isDigest⟩ := isFirst.hashed
    obtain ⟨otherAccepted, other, areOther, isOther⟩ := isSecond.hashed
    obtain rfl := apart bytes other areBytes areOther (isDigest.symm.trans isOther)
    exact accepted.inj otherAccepted areBytes areOther
  · intro first second digest other isFirst isSecond same
    exact lineagePayload_inj isFirst isSecond same
  · intro first second payload isFirst isSecond firstPayload secondPayload
    exact epochObservationPayload_inj (AuthorityEpochObservationSnapshot.state_valid isFirst).1
      (AuthorityEpochObservationSnapshot.state_valid isSecond).1 firstPayload secondPayload
  · intro first second bytes isFirst isSecond firstBytes secondBytes
    exact isFirst.inj isSecond firstBytes secondBytes
  · intro first second isFirst isSecond sameId apart
    obtain ⟨bytes, areBytes, isId⟩ := isFirst.hashed
    obtain ⟨other, areOther, isOther⟩ := isSecond.hashed
    rw [isId, isOther, List.append_cancel_left_eq] at sameId
    obtain rfl := apart bytes other areBytes areOther sameId
    exact isFirst.inj isSecond areBytes areOther

end CyberLion
