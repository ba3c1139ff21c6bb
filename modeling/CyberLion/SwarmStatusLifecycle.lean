import CyberLion.SwarmStatusRun

/-!
# The life of actions and the chain of revisions

Every action has one record, among the current actions or in the history; its
states follow `TRANSITIONS` from `PLANNED`, and a record in the history never
changes.  The revisions form a chain of digests as long as no context replaces
a field that the chain is computed from.
-/

namespace CyberLion

namespace SwarmStatus

open PyLib

/-! ### Actions -/

/-- Every action has one record, and the history holds finished actions. -/
structure ActionInvariant (currentActions history : List ActionRecord) : Prop where
  distinct : ((currentActions ++ history).map ActionRecord.actionId).Nodup
  finished : ∀ record ∈ history, record.state.isTerminal = true

theorem findAction_eq_none {records : List ActionRecord} {actionId : PyStr} :
    findAction records actionId = none ↔ actionId ∉ records.map ActionRecord.actionId := by
  rw [findAction, List.find?_eq_none]
  simp only [List.mem_map, decide_eq_true_eq, not_exists, not_and]

variable {db : StatusDb} {currentActions : List ActionRecord} {keys : List PyStr}

theorem ActionInvariant.change {history : List ActionRecord}
    (holds : ActionInvariant db.currentActions db.history)
    (change : ActionChange db currentActions history) : ActionInvariant currentActions history := by
  obtain ⟨distinct, finished⟩ := holds
  cases change with
  | none => exact ⟨distinct, finished⟩
  | @plan record planned fresh unfinished =>
    refine ⟨?_, finished⟩
    have arrangement : ((db.currentActions ++ [record]) ++ db.history).Perm
        (record :: (db.currentActions ++ db.history)) := by
      rw [List.append_assoc]
      exact List.perm_middle
    rw [(arrangement.map _).nodup_iff, List.map_cons, List.nodup_cons, List.map_append,
      List.mem_append, not_or]
    rw [List.map_append] at distinct
    exact ⟨⟨findAction_eq_none.mp fresh, findAction_eq_none.mp unfinished⟩, distinct⟩
  | @move old new found same allowed active =>
    refine ⟨?_, finished⟩
    have ids : (db.currentActions.map fun other =>
        if other.actionId = old.actionId then new else other).map ActionRecord.actionId =
          db.currentActions.map ActionRecord.actionId := by
      rw [List.map_map]
      apply List.map_congr_left
      intro other _
      rw [Function.comp_apply]
      split
      · rename_i isOld
        rw [same, isOld]
      · rfl
    rw [List.map_append, ids, ← List.map_append]
    exact distinct
  | @finish old new found same allowed terminal unfinished =>
    constructor
    · have kept : (db.removeAction old.actionId ++ db.history).Sublist
          (db.currentActions ++ db.history) :=
        List.filter_sublist.append_right db.history
      have absent : old.actionId ∉
          (db.removeAction old.actionId ++ db.history).map ActionRecord.actionId := by
        rw [List.map_append, List.mem_append, not_or]
        refine ⟨?_, findAction_eq_none.mp unfinished⟩
        intro member
        obtain ⟨record, recordMember, isOld⟩ := List.mem_map.mp member
        simp [StatusDb.removeAction, isOld] at recordMember
      rw [← List.append_assoc, List.map_append, List.map_singleton, same,
        (List.perm_append_singleton _ _).nodup_iff, List.nodup_cons]
      exact ⟨absent, (kept.map _).nodup distinct⟩
    · intro record member
      rcases List.mem_append.mp member with old | last
      · exact finished record old
      · obtain rfl := List.mem_singleton.mp last
        exact terminal

def stateIn (currentActions history : List ActionRecord) (actionId : PyStr) :
    Option ActionState :=
  ((findAction currentActions actionId).or (findAction history actionId)).map ActionRecord.state

inductive LifecycleStep : Option ActionState → Option ActionState → Prop
  | stay (state : Option ActionState) : LifecycleStep state state
  | plan : LifecycleStep none (some .planned)
  | move {old new : ActionState} (listed : new ∈ old.transitions) :
      LifecycleStep (some old) (some new)

theorem ActionState.mem_transitions {old new : ActionState}
    (allowed : old.transitionAllowed new = true) : new ∈ old.transitions := by
  rw [ActionState.transitionAllowed] at allowed
  split at allowed
  · exact nomatch allowed
  · exact List.contains_iff_mem.mp allowed

theorem findAction_append (first second : List ActionRecord) (actionId : PyStr) :
    findAction (first ++ second) actionId =
      (findAction first actionId).or (findAction second actionId) :=
  List.find?_append

theorem findAction_singleton (record : ActionRecord) (actionId : PyStr) :
    findAction [record] actionId = if record.actionId = actionId then some record else none := by
  rw [findAction, List.find?_cons]
  by_cases same : record.actionId = actionId <;> simp [same]

theorem findAction_replace (records : List ActionRecord) {old new : ActionRecord}
    (same : new.actionId = old.actionId) (actionId : PyStr) :
    findAction (records.map fun other => if other.actionId = old.actionId then new else other)
      actionId = (findAction records actionId).map fun other =>
        if actionId = old.actionId then new else other := by
  induction records with
  | nil => rfl
  | cons record records ih =>
    rw [List.map_cons, findAction, List.find?_cons, findAction, List.find?_cons]
    rw [findAction, findAction] at ih
    by_cases isOld : record.actionId = old.actionId
    · by_cases asked : record.actionId = actionId
      · have askedOld : actionId = old.actionId := asked.symm.trans isOld
        simp [isOld, same, askedOld]
      · have notAsked : ¬ old.actionId = actionId := fun equal => asked (isOld.trans equal)
        simp only [isOld, same, notAsked, if_true, decide_false]
        exact ih
    · by_cases asked : record.actionId = actionId
      · have differ : ¬ actionId = old.actionId := fun equal => isOld (asked.trans equal)
        simp [asked, differ]
      · simp only [isOld, asked, if_false, decide_false]
        exact ih

theorem findAction_removeAction (db : StatusDb) {removed actionId : PyStr}
    (differ : actionId ≠ removed) :
    findAction (db.removeAction removed) actionId = findAction db.currentActions actionId := by
  rw [findAction, StatusDb.removeAction, List.find?_filter, findAction]
  congr 1
  funext record
  by_cases asked : record.actionId = actionId
  · simp [asked, differ]
  · simp [asked]

theorem findAction_removeAction_self (db : StatusDb) (removed : PyStr) :
    findAction (db.removeAction removed) removed = none := by
  rw [findAction, List.find?_eq_none]
  intro record member
  rw [StatusDb.removeAction, List.mem_filter] at member
  simpa using member.2

theorem lifecycleStep_of_change {history : List ActionRecord}
    (change : ActionChange db currentActions history) (actionId : PyStr) :
    LifecycleStep (stateIn db.currentActions db.history actionId)
      (stateIn currentActions history actionId) := by
  cases change with
  | none => exact .stay _
  | @plan record planned fresh unfinished =>
    rw [stateIn, stateIn, findAction_append, findAction_singleton]
    by_cases asked : record.actionId = actionId
    · subst asked
      rw [fresh, unfinished, if_pos rfl]
      simp only [Option.none_or, Option.some_or, Option.map_some, Option.map_none, planned]
      exact .plan
    · rw [if_neg asked, Option.or_none]
      exact .stay _
  | @move old new found same allowed active =>
    rw [stateIn, stateIn, findAction_replace db.currentActions same]
    by_cases asked : actionId = old.actionId
    · subst asked
      rw [found]
      simp only [Option.map_some, Option.some_or, if_true]
      exact .move (ActionState.mem_transitions allowed)
    · simp only [asked, if_false, Option.map_id']
      exact .stay _
  | @finish old new found same allowed terminal unfinished =>
    rw [stateIn, stateIn, findAction_append, findAction_singleton]
    by_cases asked : actionId = old.actionId
    · subst asked
      rw [found, findAction_removeAction_self, unfinished, if_pos same]
      simp only [Option.none_or, Option.some_or, Option.map_some]
      exact .move (ActionState.mem_transitions allowed)
    · rw [findAction_removeAction db asked, if_neg (fun equal => asked (equal.symm.trans same)),
        Option.or_none]
      exact .stay _

/-- The states of an action before a run and after each of its calls. -/
def stateTrace (store : StatusStore) (actionId : PyStr) :
    Live → List StatusCall → List (Option ActionState)
  | live, [] => [stateIn live.db.currentActions live.db.history actionId]
  | live, call :: calls => stateIn live.db.currentActions live.db.history actionId ::
      stateTrace store actionId (stepStatus store live call) calls

theorem head_stateTrace (store : StatusStore) (actionId : PyStr) (live : Live)
    (calls : List StatusCall) : (stateTrace store actionId live calls).head? =
      some (stateIn live.db.currentActions live.db.history actionId) := by
  cases calls <;> rfl

theorem isChain_stateTrace {store : StatusStore} {live : Live} (synced : Synced store live)
    (actionId : PyStr) (calls : List StatusCall) :
    (stateTrace store actionId live calls).IsChain LifecycleStep := by
  induction calls generalizing live with
  | nil => exact .singleton _
  | cons call calls ih =>
    rw [stateTrace, List.isChain_cons]
    rcases cases_of_stepStatus synced.digested call with same | ⟨⟨operation, digest, step⟩, after⟩
    · rw [same]
      refine ⟨?_, ih synced⟩
      intro next isHead
      rw [head_stateTrace] at isHead
      obtain rfl := Option.some.inj isHead
      exact .stay _
    · refine ⟨?_, ih after⟩
      intro next isHead
      rw [head_stateTrace] at isHead
      obtain rfl := Option.some.inj isHead
      exact lifecycleStep_of_change step.acted actionId

theorem ActionChange.history_prefix {history : List ActionRecord}
    (change : ActionChange db currentActions history) : db.history <+: history := by
  cases change with
  | none => exact List.prefix_rfl
  | plan planned fresh unfinished => exact List.prefix_rfl
  | move found same allowed active => exact List.prefix_rfl
  | finish found same allowed terminal unfinished => exact List.prefix_append _ _

/-! ### Contexts -/

def FreeOf (keys : List PyStr) (context : List (PyStr × Json)) : Prop :=
  ∀ key ∈ keys, key ∉ context.map Prod.fst

def StatusCall.FreeOf (keys : List PyStr) : StatusCall → Prop
  | .replaceContext _ _ update => SwarmStatus.FreeOf keys update.context
  | _ => True

theorem freeOf_storedFields {context : List (PyStr × Json)} :
    FreeOf keys (storedFields context) ↔ FreeOf keys context := by
  have keysOf : ∀ key, key ∈ (storedFields context).map Prod.fst ↔ key ∈ context.map Prod.fst := by
    intro key
    rw [storedFields, ((Json.sortFields_perm _).map Prod.fst).mem_iff, Json.keys_sortMembers]
  simp only [FreeOf, keysOf]

theorem visible_of_freeOf (free : FreeOf keys db.info.context) {key : PyStr} (member : key ∈ keys)
    (stored : Json) : db.visible key stored = stored := by
  have absent : db.info.context.reverse.lookup key = none := by
    rw [List.lookup_eq_none_iff]
    intro field fieldMember
    rw [List.mem_reverse] at fieldMember
    have differ : key ≠ field.1 := fun same =>
      free key member (List.mem_map.mpr ⟨field, fieldMember, same.symm⟩)
    simpa using differ
  rw [StatusDb.visible, absent, Option.getD_none]

theorem freeOf_stepStatus {store : StatusStore} {live : Live} (synced : Synced store live)
    (free : FreeOf keys live.db.info.context) {call : StatusCall} (update : call.FreeOf keys) :
    FreeOf keys (stepStatus store live call).db.info.context := by
  rcases cases_of_stepStatus synced.digested call with same | ⟨⟨operation, digest, step⟩, -⟩
  · rw [same]
    exact free
  · rw [step.context]
    cases call with
    | replaceContext fence clock update => exact freeOf_storedFields.mpr update
    | applyReport fence report => exact free
    | reopen => exact free

theorem synced_stepStatus {store : StatusStore} {live : Live} (synced : Synced store live)
    (call : StatusCall) : Synced store (stepStatus store live call) := by
  rcases cases_of_stepStatus synced.digested call with same | ⟨-, after⟩
  · rw [same]
    exact synced
  · exact after

theorem freeOf_initial {store : StatusStore} (start : OpenedStore store)
    (initial : FreeOf keys start.context) : FreeOf keys start.live.db.info.context := by
  obtain ⟨⟨generatedAt, statusDigest, revisionDigest, isDb⟩, -⟩ := start.exists_initialDb
  rw [isDb]
  exact freeOf_storedFields.mpr initial

theorem freeOf_runStatus {store : StatusStore} (start : OpenedStore store)
    (initial : FreeOf keys start.context) {calls : List StatusCall}
    (updates : ∀ call ∈ calls, call.FreeOf keys) :
    FreeOf keys (runStatus store start.live calls).db.info.context := by
  have synced := start.exists_initialDb.2
  have free := freeOf_initial start initial
  generalize start.live = live at synced free ⊢
  induction calls generalizing live with
  | nil => exact free
  | cons call calls ih =>
    rw [List.forall_mem_cons] at updates
    rw [runStatus, List.foldl_cons]
    exact ih updates.2 _ (synced_stepStatus synced call) (freeOf_stepStatus synced free updates.1)

/-! ### The chain of revisions -/

/-- A revision digest that is computed from the revision, the digest of its
status and the digest of the revision before it. -/
def RevisionDigested (info : StatusMeta) (previousRevisionDigest : PyStr) : Prop :=
  computeRevisionDigest (.int info.revision) (.str info.statusDigest)
    (.str previousRevisionDigest) = .ok info.revisionDigest

/-- The step of an operation that is applied: the next revision, one more
operation in the log, and the digests of the revision before it. -/
structure RevisionStep (before after : StatusDb) : Prop where
  revision : after.info.revision = before.info.revision + 1
  logged : ∃ row, after.operations = before.operations ++ [row]
  previousStatusDigest : after.info.previousStatusDigest = before.info.statusDigest
  previousRevisionDigest : after.info.previousRevisionDigest = before.info.revisionDigest

def chainKeys : List PyStr :=
  [py "revision", py "previous_revision_digest"]

theorem revisionDigested_of_digested {systemId : PyStr} (digested : Digested systemId db)
    (free : FreeOf chainKeys db.info.context) :
    RevisionDigested db.info db.info.previousRevisionDigest := by
  have shown := digested.revisionDigest
  rwa [visible_of_freeOf free (by simp [chainKeys]),
    visible_of_freeOf free (by simp [chainKeys])] at shown

theorem revisionStep_of_operationStep {store : StatusStore} {call : StatusCall}
    {operation : Operation} {payloadDigest : PyStr} {after : StatusDb}
    (step : OperationStep store call operation payloadDigest db after) : RevisionStep db after :=
  ⟨step.revision, ⟨_, step.operations⟩, step.previousStatusDigest, step.previousRevisionDigest⟩

theorem actionInvariant_runStatus {store : StatusStore} (start : OpenedStore store)
    (calls : List StatusCall) :
    ActionInvariant (runStatus store start.live calls).db.currentActions
      (runStatus store start.live calls).db.history := by
  obtain ⟨⟨generatedAt, statusDigest, revisionDigest, isDb⟩, synced⟩ := start.exists_initialDb
  have initial : ActionInvariant start.live.db.currentActions start.live.db.history := by
    rw [isDb]
    exact ⟨List.nodup_nil, nofun⟩
  exact (run_induction (P := fun db => ActionInvariant db.currentActions db.history)
    (fun step _ holds => holds.change step.acted) synced initial calls).2

theorem revision_runStatus {store : StatusStore} (start : OpenedStore store)
    (calls : List StatusCall) :
    (runStatus store start.live calls).db.info.revision =
      (runStatus store start.live calls).db.operations.length := by
  obtain ⟨⟨generatedAt, statusDigest, revisionDigest, isDb⟩, synced⟩ := start.exists_initialDb
  have initial : start.live.db.info.revision = start.live.db.operations.length := by
    rw [isDb]
    rfl
  apply (run_induction (P := fun db => db.info.revision = db.operations.length)
    _ synced initial calls).2
  intro call operation payloadDigest db after step _ holds
  rw [step.revision, step.operations, holds, List.length_append, List.length_singleton]

theorem history_prefix_runStatus {store : StatusStore} (start : OpenedStore store)
    (calls more : List StatusCall) :
    (runStatus store start.live calls).db.history <+:
      (runStatus store start.live (calls ++ more)).db.history := by
  rw [runStatus_append]
  exact (run_induction (P := fun db => (runStatus store start.live calls).db.history <+: db.history)
    (fun step _ kept => kept.trans step.acted.history_prefix) (synced_runStatus start calls)
    List.prefix_rfl more).2

/-- In every run each action has one record, its states follow `TRANSITIONS`
from `PLANNED`, finished records stay as they are, and the revision counts the
operations; the digests of the revisions form one chain when no context sets a
field that they are computed from. -/
theorem status_lifecycle (store : StatusStore) (start : OpenedStore store)
    (calls : List StatusCall) :
    let live := runStatus store start.live calls
    ((live.db.currentActions ++ live.db.history).map ActionRecord.actionId).Nodup ∧
    (∀ actionId, (stateTrace store actionId start.live calls).head? = some none ∧
      (stateTrace store actionId start.live calls).IsChain LifecycleStep) ∧
    (∀ record ∈ live.db.history, record.state.isTerminal = true) ∧
    (∀ more, live.db.history <+: (runStatus store start.live (calls ++ more)).db.history) ∧
    live.db.info.revision = live.db.operations.length ∧
    (∀ call error, call.apply store live = .error error →
      (stepStatus store live call).db = live.db) ∧
    (∀ call, (stepStatus store live call).db = live.db ∨
      RevisionStep live.db (stepStatus store live call).db) ∧
    start.live.db.info.previousRevisionDigest = zeroDigest ∧
    (FreeOf chainKeys start.context → (∀ call ∈ calls, call.FreeOf chainKeys) →
      RevisionDigested live.db.info live.db.info.previousRevisionDigest) := by
  intro live
  obtain ⟨⟨generatedAt, statusDigest, revisionDigest, isDb⟩, startSynced⟩ := start.exists_initialDb
  have synced : Synced store live := synced_runStatus start calls
  have actions := actionInvariant_runStatus start calls
  refine ⟨actions.distinct, ?_, actions.finished, history_prefix_runStatus start calls,
    revision_runStatus start calls, ?_, ?_, ?_, ?_⟩
  · intro actionId
    refine ⟨?_, isChain_stateTrace startSynced actionId calls⟩
    rw [head_stateTrace, isDb]
    rfl
  · intro call error raised
    rw [stepStatus, raised]
  · intro call
    rcases cases_of_stepStatus synced.digested call with same | ⟨⟨operation, digest, step⟩, -⟩
    · exact .inl (by rw [same])
    · exact .inr (revisionStep_of_operationStep step)
  · rw [isDb]
    rfl
  · intro initial updates
    exact revisionDigested_of_digested synced.digested (freeOf_runStatus start initial updates)

def surveyStore : StatusStore where
  systemId := py "LION"
  knownDrones := [py "drone-1"]
  interpreter := ⟨fun _ => [], .ok⟩

def surveyClock : FleetCoordination.ClockReading :=
  .ok (.aware ⟨2026, 1, 2, 3, 4, 5, 0, validDateTime_survey⟩ 0)

/-- A context that sets the revision breaks the chain at its start. -/
theorem not_revisionDigested_context :
    ∃ start : OpenedStore surveyStore, start.context = [(py "revision", .int 7)] ∧
      ¬ RevisionDigested start.live.db.info start.live.db.info.previousRevisionDigest := by
  obtain ⟨start, isContext, isStorage⟩ := exists_openedStore surveyStore
    (by decide +kernel : returned (openStatus surveyStore.systemId ⟨none, none⟩ surveyClock
      [(py "revision", .int 7)]).2 = true)
  have broken : ((openStatus surveyStore.systemId ⟨none, none⟩ surveyClock
      [(py "revision", .int 7)]).1.db.map fun db =>
        computeRevisionDigest (.int db.info.revision) (.str db.info.statusDigest)
          (.str db.info.previousRevisionDigest) == .ok db.info.revisionDigest) = some false := by
    decide +kernel
  refine ⟨start, isContext, ?_⟩
  intro digested
  rw [isStorage, Option.map_some, Option.some.injEq, beq_eq_false_iff_ne] at broken
  exact broken digested

end SwarmStatus

end CyberLion
