import CyberLion.ReadThenWrite
import CyberLion.SchedulerAssignments

/-!
# The artifacts of a mission

`put_artifact` reads the artifact before the transaction that inserts it or gives it the next
revision.  The UNIQUE constraint of the table takes two artifacts without a phase for different
ones.
-/

namespace CyberLion

namespace GlobalScheduler

open PyLib OperatorControl

/-- A row of `mission_artifacts`. -/
structure ArtifactRow where
  artifactId : PyStr
  missionId : PyStr
  phaseId : Option PyStr
  artifactType : PyStr
  schemaId : PyStr
  revision : Int
  contentDigest : PyStr
  contentJson : PyStr
  authorityEffect : PyStr
  createdAt : PyStr
  updatedAt : PyStr

def ArtifactRow.key (row : ArtifactRow) : PyStr × PyStr × Option PyStr :=
  (row.missionId, row.artifactType, row.phaseId)

/-- The arguments of `put_artifact`, with what `now_fn` does and `uuid4().hex`. -/
structure ArtifactCall where
  missionId : PyStr
  artifactType : PyStr
  content : Json
  phaseId : Option PyStr
  schemaId : PyStr
  authorityEffect : PyStr
  stamp : Except PyError PyStr
  hex : PyStr

structure ArtifactContent where
  raw : PyStr
  digest : PyStr
  stamp : PyStr

namespace ArtifactCall

def key (call : ArtifactCall) : PyStr × PyStr × Option PyStr :=
  (call.missionId, call.artifactType, call.phaseId)

/-- What the call computes before it reads. -/
def prepare (call : ArtifactCall) : Except PyError ArtifactContent := do
  raiseIf (call.authorityEffect ≠ py "NONE")
    (valueError (py "mission artifacts are non-authoritative"))
  raiseIf (call.missionId = [] ∨ call.artifactType = []) (valueError (py "artifact identity"))
  let raw ← canon call.content
  let bytes ← encodeUtf8 raw
  let stamp ← call.stamp
  return ⟨raw, sha256 bytes, stamp⟩

/-- `SELECT * ... WHERE mission_id=? AND artifact_type=? AND phase_id IS ?`. -/
def current (call : ArtifactCall) (rows : List ArtifactRow) : Option ArtifactRow :=
  rows.find? fun row => row.key = call.key

/-- The call ends with the row of the same content, or goes on with the identity and the revision
that it found. -/
def look (call : ArtifactCall) (rows : List ArtifactRow) :
    Except PyError (Option (Option (PyStr × Int))) := do
  let content ← call.prepare
  bindTexts ([call.missionId, call.artifactType] ++ call.phaseId.toList)
  match call.current rows with
  | none => return some none
  | some row =>
    return if row.contentDigest = content.digest then none
      else some (some (row.artifactId, row.revision))

def newRow (call : ArtifactCall) (content : ArtifactContent) : ArtifactRow :=
  ⟨py "artifact-" ++ call.hex, call.missionId, call.phaseId, call.artifactType, call.schemaId, 1,
    content.digest, content.raw, call.authorityEffect, content.stamp, content.stamp⟩

def revised (call : ArtifactCall) (content : ArtifactContent) (revision : Int)
    (row : ArtifactRow) : ArtifactRow :=
  { row with
    schemaId := call.schemaId
    revision := revision
    contentDigest := content.digest
    contentJson := content.raw
    authorityEffect := call.authorityEffect
    updatedAt := content.stamp }

/-- The keys of the table: two rows without a phase do not clash. -/
def clashes (new row : ArtifactRow) : Bool :=
  row.artifactId = new.artifactId || (row.key = new.key && new.phaseId.isSome)

def write (call : ArtifactCall) (found : Option (PyStr × Int)) (rows : List ArtifactRow) :
    Except PyError (List ArtifactRow) := do
  let content ← call.prepare
  bindTexts [call.schemaId, content.stamp]
  match found with
  | none =>
    insertRow (uniqueError (py "mission_artifacts")) (clashes (call.newRow content))
      (call.newRow content) rows
  | some (artifactId, revision) => do
    raiseIf (9223372036854775807 < revision + 1) columnOverflow
    return updateWhere (fun row => row.artifactId = artifactId)
      (call.revised content (revision + 1)) rows

/-- The row is still as it was read, or already as the call makes it. -/
def Finds (call : ArtifactCall) (found : Option (PyStr × Int)) (rows : List ArtifactRow) : Prop :=
  match found with
  | none => call.current rows = none
  | some (artifactId, revision) => ∃ row, call.current rows = some row ∧
      row.artifactId = artifactId ∧ (row.revision = revision ∨
        row.revision = revision + 1 ∧ ∃ content, call.prepare = .ok content ∧
          row.contentDigest = content.digest ∧ row.contentJson = content.raw)

def currentRevision (call : ArtifactCall) (rows : List ArtifactRow) : Int :=
  ((call.current rows).map ArtifactRow.revision).getD 0

end ArtifactCall

def putArtifact : ReadThenWrite ArtifactCall (List ArtifactRow) (Option (PyStr × Int)) where
  look := ArtifactCall.look
  write := ArtifactCall.write

structure ArtifactKeys (rows : List ArtifactRow) : Prop where
  ids : (rows.map ArtifactRow.artifactId).Nodup
  keys : (rows.map ArtifactRow.key).Nodup

/-- No row is lost, no revision goes back, and the content of a revision stays. -/
def KeepsRevisions (before after : List ArtifactRow) : Prop :=
  ∀ row ∈ before, ∃ later ∈ after, later.artifactId = row.artifactId ∧
    row.revision ≤ later.revision ∧
    (row.revision = later.revision → row.contentJson = later.contentJson)

variable {call : ArtifactCall} {found : Option (PyStr × Int)} {rows written : List ArtifactRow}

theorem keepsRevisions_refl (rows : List ArtifactRow) : KeepsRevisions rows rows :=
  fun row member => ⟨row, member, rfl, le_refl _, fun _ => rfl⟩

theorem KeepsRevisions.trans (first second third : List ArtifactRow)
    (earlier : KeepsRevisions first second) (later : KeepsRevisions second third) :
    KeepsRevisions first third := by
  intro row member
  obtain ⟨middle, inSecond, middleId, grown, sameContent⟩ := earlier row member
  obtain ⟨last, inThird, lastId, grownAgain, stillSame⟩ := later middle inSecond
  refine ⟨last, inThird, lastId.trans middleId, grown.trans grownAgain, fun same => ?_⟩
  have asMiddle : row.revision = middle.revision := by omega
  have asLast : middle.revision = last.revision := by omega
  rw [sameContent asMiddle, stillSame asLast]

theorem current_eq_some (keys : ArtifactKeys rows) {row : ArtifactRow} (member : row ∈ rows)
    (isKey : row.key = call.key) : call.current rows = some row := by
  have found := find?_of_nodup_map keys.keys member
  rw [isKey] at found
  exact found

/-- What a write that finds its row as it was does. -/
inductive Written (call : ArtifactCall) (rows written : List ArtifactRow) : Prop
  | inserted (content : ArtifactContent) (prepared : call.prepare = .ok content)
      (absent : call.current rows = none)
      (fresh : ∀ row ∈ rows, row.artifactId ≠ (call.newRow content).artifactId)
      (isWritten : written = rows ++ [call.newRow content])
  | updated (content : ArtifactContent) (prepared : call.prepare = .ok content)
      (row : ArtifactRow) (isCurrent : call.current rows = some row) (revision : Int)
      (moved : row.revision + 1 = revision ∨ row.revision = revision ∧
        row.contentDigest = content.digest ∧ row.contentJson = content.raw)
      (isWritten : written = updateWhere (fun other => other.artifactId = row.artifactId)
        (call.revised content revision) rows)

theorem written_of_write (finds : call.Finds found rows)
    (wrote : call.write found rows = .ok written) : Written call rows written := by
  simp only [ArtifactCall.write, bind_eq_ok] at wrote
  obtain ⟨content, prepared, _, -, wrote⟩ := wrote
  cases found with
  | none =>
    obtain ⟨free, rfl⟩ := insertRow_eq_ok.mp wrote
    refine .inserted content prepared finds (fun row member => ?_) rfl
    have notClash := free row member
    simp only [ArtifactCall.clashes, Bool.or_eq_false_iff, decide_eq_false_iff_not] at notClash
    exact notClash.1
  | some pair =>
    obtain ⟨artifactId, revision⟩ := pair
    obtain ⟨row, isCurrent, rfl, moved⟩ := finds
    simp only [bind_eq_ok, pure_eq_ok] at wrote
    obtain ⟨_, -, rfl⟩ := wrote
    refine .updated content prepared row isCurrent (revision + 1) ?_ rfl
    rcases moved with same | ⟨next, other, otherPrepared, sameDigest, sameContent⟩
    · exact .inl (by rw [same])
    · obtain rfl := Except.ok.inj (otherPrepared.symm.trans prepared)
      exact .inr ⟨next, sameDigest, sameContent⟩

theorem Written.keys (isWritten : Written call rows written) (keys : ArtifactKeys rows) :
    ArtifactKeys written := by
  cases isWritten with
  | inserted content prepared absent fresh isWritten =>
    subst isWritten
    refine ⟨?_, ?_⟩
    · rw [List.map_append, List.map_singleton, List.nodup_append]
      simpa [keys.ids] using fun row member => fresh row member
    · rw [List.map_append, List.map_singleton, List.nodup_append]
      have others : ∀ row ∈ rows, row.key ≠ (call.newRow content).key :=
        fun row member same => List.find?_eq_none.mp absent row member (decide_eq_true same)
      simpa [keys.keys] using others
  | updated content prepared row isCurrent revision moved isWritten =>
    subst isWritten
    constructor
    · rw [map_updateWhere _ fun _ _ => by rfl]
      exact keys.ids
    · rw [map_updateWhere _ fun _ _ => by rfl]
      exact keys.keys

theorem Written.keepsRevisions (isWritten : Written call rows written) (keys : ArtifactKeys rows) :
    KeepsRevisions rows written := by
  intro old member
  cases isWritten with
  | inserted content prepared absent fresh isWritten =>
    subst isWritten
    exact ⟨old, by simp [member], rfl, le_refl _, fun _ => rfl⟩
  | updated content prepared row isCurrent revision moved isWritten =>
    subst isWritten
    refine ⟨_, mem_updateWhere.mpr ⟨old, member, rfl⟩, ?_⟩
    by_cases isRow : old.artifactId = row.artifactId
    · obtain rfl := List.inj_on_of_nodup_map keys.ids member (List.mem_of_find?_eq_some isCurrent)
        isRow
      simp only [decide_true, if_true]
      refine ⟨rfl, ?_, ?_⟩
      · simp only [ArtifactCall.revised]
        omega
      · intro same
        simp only [ArtifactCall.revised] at same
        rcases moved with next | ⟨-, -, sameContent⟩
        · omega
        · exact sameContent
    · simp [isRow]

theorem Written.revision (isWritten : Written call rows written) (keys : ArtifactKeys rows)
    {content : ArtifactContent} (prepared : call.prepare = .ok content)
    (differs : (call.current rows).map ArtifactRow.contentDigest ≠ some content.digest) :
    call.currentRevision written = call.currentRevision rows + 1 := by
  have writtenKeys := isWritten.keys keys
  cases isWritten with
  | inserted other otherPrepared absent fresh isWritten =>
    subst isWritten
    have isCurrent : call.current (rows ++ [call.newRow other]) = some (call.newRow other) :=
      current_eq_some writtenKeys (by simp) rfl
    rw [ArtifactCall.currentRevision, ArtifactCall.currentRevision, isCurrent, absent]
    rfl
  | updated other otherPrepared row isCurrent revision moved isWritten =>
    subst isWritten
    obtain rfl := Except.ok.inj (otherPrepared.symm.trans prepared)
    have member := List.mem_of_find?_eq_some isCurrent
    have isKey : row.key = call.key := by simpa using List.find?_some isCurrent
    have isNow : call.current (updateWhere (fun other => other.artifactId = row.artifactId)
        (call.revised other revision) rows) = some (call.revised other revision row) :=
      current_eq_some writtenKeys (mem_updateWhere_of_selected member (by simp)) isKey
    rw [ArtifactCall.currentRevision, ArtifactCall.currentRevision, isNow, isCurrent]
    rcases moved with next | ⟨-, sameDigest, -⟩
    · exact next.symm
    · rw [isCurrent] at differs
      exact absurd (congrArg some sameDigest) differs

open CallState in
/-- In a run in which each call writes on the row that it has read, or that is already as it makes
it, an artifact has one row, a call with another content moves its revision by one, and a revision
of an artifact has one content. -/
theorem putArtifact_revisions
    {start state : CallState ArtifactCall (List ArtifactRow) (Option (PyStr × Int))}
    (quiet : start.Quiet) (keys : ArtifactKeys start.committed)
    (run : Run putArtifact ArtifactCall.Finds start state) :
    (state.committed.map ArtifactRow.key).Nodup ∧
    (∀ conn call found content, state.phase conn = .wrote call found →
      call.prepare = .ok content →
      (call.current state.committed).map ArtifactRow.contentDigest ≠ some content.digest →
      call.currentRevision (state.step putArtifact (.commit conn)).committed =
        call.currentRevision state.committed + 1) ∧
    ∀ later, Run putArtifact ArtifactCall.Finds state later → ∀ row ∈ state.committed,
      ∀ other ∈ later.committed, other.artifactId = row.artifactId →
        other.revision = row.revision → other.contentJson = row.contentJson := by
  have sound : ∀ call found rows written, ArtifactKeys rows → call.Finds found rows →
      putArtifact.write call found rows = .ok written →
        ArtifactKeys written ∧ KeepsRevisions rows written := by
    intro call found rows written keys finds wrote
    have isWritten := written_of_write finds wrote
    exact ⟨isWritten.keys keys, isWritten.keepsRevisions keys⟩
  have orderly := run.orderly quiet
  obtain ⟨stateKeys, -⟩ := run.leads ArtifactKeys KeepsRevisions keepsRevisions_refl
    KeepsRevisions.trans sound quiet.orderly keys
  refine ⟨stateKeys.keys, ?_, ?_⟩
  · intro conn call found content wrote prepared differs
    obtain ⟨_, -, -, finds⟩ := orderly.wrote conn call found wrote
    exact (written_of_write finds (orderly.write_commit wrote)).revision stateKeys prepared differs
  · intro later after row member other isOther sameId sameRevision
    obtain ⟨laterKeys, kept⟩ := after.leads ArtifactKeys KeepsRevisions keepsRevisions_refl
      KeepsRevisions.trans sound orderly stateKeys
    obtain ⟨last, isLast, lastId, -, sameContent⟩ := kept row member
    obtain rfl := List.inj_on_of_nodup_map laterKeys.ids isOther isLast (sameId.trans lastId.symm)
    exact (sameContent sameRevision.symm).symm

/-- A call that stores a number, without a phase. -/
def numberCall (number : Int) (hex : PyStr) : ArtifactCall :=
  ⟨py "m", py "t", .int number, none, py "s", py "NONE", .ok (py "now"), hex⟩

theorem putArtifact_revisions_first :
    let start : CallState ArtifactCall (List ArtifactRow) (Option (PyStr × Int)) :=
      ⟨[], none, fun _ => .idle⟩
    let call := numberCall 1 (py "a")
    let state := (start.step putArtifact (.look 0 call)).step putArtifact (.write 0)
    call.currentRevision (state.step putArtifact (.commit 0)).committed = 1 := by
  intro start call state
  have looked : (start.step putArtifact (.look 0 call)).phase 0 = .looked call none := by rfl
  have run : CallState.Run putArtifact ArtifactCall.Finds start state := by
    refine .step (.step .refl _ ?_) _ ?_
    · rintro _ _ _ _ ⟨⟩
    · rintro _ _ _ _ ⟨⟩ isLooked - -
      obtain ⟨rfl, rfl⟩ := CallPhase.looked.inj (looked.symm.trans isLooked)
      rfl
  have quiet : start.Quiet := ⟨rfl, fun _ => rfl⟩
  have keys : ArtifactKeys start.committed := ⟨List.nodup_nil, List.nodup_nil⟩
  have none : call.current state.committed = none := by rfl
  exact (putArtifact_revisions quiet keys run).2.1 0 call Option.none _ (by rfl) (by rfl)
    (by simp [none])

/-- Both calls find no artifact, and both insert one. -/
theorem putArtifact_duplicates :
    ∃ start state : CallState ArtifactCall (List ArtifactRow) (Option (PyStr × Int)),
      start.Quiet ∧ ArtifactKeys start.committed ∧
      CallState.Run putArtifact (fun _ _ _ => True) start state ∧
      ¬ (state.committed.map ArtifactRow.key).Nodup := by
  let start : CallState ArtifactCall (List ArtifactRow) (Option (PyStr × Int)) :=
    ⟨[], none, fun _ => .idle⟩
  let events : List (CallEvent ArtifactCall) :=
    [.look 0 (numberCall 1 (py "a")), .look 1 (numberCall 2 (py "b")), .write 0, .commit 0,
      .write 1, .commit 1]
  refine ⟨start, events.foldl (CallState.step putArtifact) start, ⟨rfl, fun _ => rfl⟩,
    ⟨List.nodup_nil, List.nodup_nil⟩, CallState.Run.events _ _, ?_⟩
  have twice : (events.foldl (CallState.step putArtifact) start).committed.map ArtifactRow.key =
      [(py "m", py "t", none), (py "m", py "t", none)] := by
    rfl
  rw [twice]
  simp

end GlobalScheduler

end CyberLion
