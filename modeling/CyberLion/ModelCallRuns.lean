import CyberLion.ModelCalls
import CyberLion.WorkerCrew

/-!
# Interleaved model calls

A transition reads the row in one statement and writes it in another, and the write does not
look at the state again.  The states of a call follow the transitions, and a final call stays
as it is, exactly when every update finds a row that its target may still follow.
-/

namespace CyberLion

namespace ModelCalls

open PyLib ProcessIR

/-! ### What one statement may do -/

/-- A call appears with a durable intent, stays, and its state follows the transitions. -/
def FollowsTransitions (before after : List ModelCall) : Prop :=
  ∀ modelCallId, match callOf modelCallId before, callOf modelCallId after with
    | none, none => True
    | none, some next => next.state = .intentDurable
    | some _, none => False
    | some row, some next => next.state = row.state ∨ next.state ∈ transitions row.state

def KeepsFinal (before after : List ModelCall) : Prop :=
  ∀ modelCallId row, callOf modelCallId before = some row → row.state.isFinal = true →
    ∃ next, callOf modelCallId after = some next ∧ next.state = row.state ∧
      next.resultDigest = row.resultDigest

def TransitionRequest.Agrees (request : TransitionRequest) (row : ModelCall) : Prop :=
  request.resultDigest = .null ∨
    ∃ digest, row.resultDigest = some digest ∧ request.resultDigest = .str digest

/-- A transition to the current state succeeds only with a result that agrees. -/
def HonestRepeat (calls : List ModelCall) : Worker → Prop
  | .inspect request stamp => ∀ row, callOf request.modelCallId calls = some row →
      request.target = row.state →
      (∃ reported, (move calls (.inspect request stamp)).2 = .done (.ok reported)) →
      request.Agrees row
  | _ => True

structure Honours (calls : List ModelCall) (worker : Worker) : Prop where
  path : FollowsTransitions calls (move calls worker).1
  final : KeepsFinal calls (move calls worker).1
  repeated : HonestRepeat calls worker

/-- An update finds a row from which its target is a transition, or one that already is in the
target and whose result it leaves when the call is over. -/
def CallUpdate.Fits (change : CallUpdate) (row : ModelCall) : Prop :=
  change.target ∈ transitions row.state ∨ (change.target = row.state ∧
    (row.state.isFinal = true →
      change.resultDigest = none ∨ change.resultDigest = row.resultDigest))

/-- A repeated transition names no other result, and an update fits the row that it finds. -/
def Fits (calls : List ModelCall) : Worker → Prop
  | .inspect request _ => ∀ row, callOf request.modelCallId calls = some row →
      request.target = row.state → request.Agrees row
  | .update change => ∀ row, callOf change.modelCallId calls = some row → change.Fits row
  | .lookUp .. | .insert .. | .readBack _ | .done _ => True

/-! ### Statements -/

theorem transitions_of_isFinal {state : CallState} (final : state.isFinal = true) :
    transitions state = [] := by
  cases state <;> first | rfl | exact absurd final (by decide)

theorem followsTransitions_refl (calls : List ModelCall) : FollowsTransitions calls calls := by
  intro modelCallId
  cases callOf modelCallId calls with
  | none => trivial
  | some row => exact .inl rfl

theorem keepsFinal_refl (calls : List ModelCall) : KeepsFinal calls calls :=
  fun _ row found _ => ⟨row, found, rfl, rfl⟩

theorem keepsFinal_trans {first second third : List ModelCall} (earlier : KeepsFinal first second)
    (later : KeepsFinal second third) : KeepsFinal first third := by
  intro modelCallId row found final
  obtain ⟨next, nextFound, sameState, sameResult⟩ := earlier modelCallId row found final
  obtain ⟨last, lastFound, lastState, lastResult⟩ :=
    later modelCallId next nextFound (sameState ▸ final)
  exact ⟨last, lastFound, lastState.trans sameState, lastResult.trans sameResult⟩

variable {calls : List ModelCall}

theorem insertCall_eq_ok {row : ModelCall} {after : List ModelCall}
    (inserted : insertCall row calls = .ok after) :
    callOf row.modelCallId calls = none ∧ after = calls ++ [row] := by
  simp only [insertCall, bind_eq_ok, insertRow_eq_ok] at inserted
  obtain ⟨-, -, -, -, fresh, rfl⟩ := inserted
  exact ⟨List.find?_eq_none.mpr fun other member => by simpa using fresh other member, rfl⟩

theorem callOf_append (modelCallId : PyStr) (calls : List ModelCall) (row : ModelCall) :
    callOf modelCallId (calls ++ [row]) = (callOf modelCallId calls).or
      (if row.modelCallId = modelCallId then some row else none) := by
  simp only [callOf, List.find?_append, List.find?_singleton, decide_eq_true_eq]

theorem callOf_updateCall (modelCallId : PyStr) (change : CallUpdate) (calls : List ModelCall) :
    callOf modelCallId (updateCall change calls) = (callOf modelCallId calls).map fun row =>
      if row.modelCallId = change.modelCallId then change.apply row else row := by
  refine (find?_updateWhere (fun row => ?_) calls).trans ?_
  · rfl
  · simp only [decide_eq_true_eq]
    rfl

theorem modelCallId_of_callOf {modelCallId : PyStr} {row : ModelCall}
    (found : callOf modelCallId calls = some row) : row.modelCallId = modelCallId := by
  simpa using List.find?_some (p := fun other : ModelCall => other.modelCallId = modelCallId) found

theorem honours_insertCall {row : ModelCall} {after : List ModelCall}
    (inserted : insertCall row calls = .ok after) (durable : row.state = .intentDurable) :
    FollowsTransitions calls after ∧ KeepsFinal calls after := by
  obtain ⟨absent, rfl⟩ := insertCall_eq_ok inserted
  constructor
  · intro modelCallId
    rw [callOf_append]
    cases found : callOf modelCallId calls with
    | none =>
      by_cases same : row.modelCallId = modelCallId
      · simp [same, durable]
      · simp [same]
    | some other => exact .inl rfl
  · intro modelCallId other found _
    exact ⟨other, by rw [callOf_append, found]; rfl, rfl, rfl⟩

theorem honours_updateCall_iff {change : CallUpdate} :
    (FollowsTransitions calls (updateCall change calls) ∧
        KeepsFinal calls (updateCall change calls)) ↔
      ∀ row, callOf change.modelCallId calls = some row → change.Fits row := by
  constructor
  · rintro ⟨path, final⟩ row found
    have sameId := modelCallId_of_callOf found
    have written : callOf change.modelCallId (updateCall change calls) =
        some (change.apply row) := by
      rw [callOf_updateCall, found, Option.map_some, if_pos sameId]
    have step := path change.modelCallId
    rw [found, written] at step
    rcases step with same | moved
    · refine .inr ⟨same, fun isFinal => ?_⟩
      obtain ⟨next, nextFound, -, sameResult⟩ := final change.modelCallId row found isFinal
      obtain rfl : change.apply row = next := Option.some.inj (written.symm.trans nextFound)
      cases named : change.resultDigest with
      | none => exact .inl rfl
      | some digest =>
        right
        rw [← sameResult, CallUpdate.apply, named]
        rfl
    · exact .inl moved
  · intro fits
    have fitting : ∀ modelCallId row, callOf modelCallId calls = some row →
        row.modelCallId = change.modelCallId → change.Fits row := by
      intro modelCallId row found same
      rw [modelCallId_of_callOf found] at same
      exact fits row (same ▸ found)
    constructor
    · intro modelCallId
      rw [callOf_updateCall]
      cases found : callOf modelCallId calls with
      | none => trivial
      | some row =>
        rw [Option.map_some]
        dsimp only
        split
        · rename_i same
          rcases fitting modelCallId row found same with moved | ⟨stays, -⟩
          · exact .inr moved
          · exact .inl stays
        · exact .inl rfl
    · intro modelCallId row found isFinal
      refine ⟨_, by rw [callOf_updateCall, found, Option.map_some], ?_⟩
      split
      · rename_i same
        rcases fitting modelCallId row found same with moved | ⟨stays, kept⟩
        · rw [transitions_of_isFinal isFinal] at moved
          exact absurd moved List.not_mem_nil
        · refine ⟨stays, ?_⟩
          rw [CallUpdate.apply]
          rcases kept isFinal with unnamed | named
          · rw [unnamed]
            rfl
          · rw [named]
            cases row.resultDigest <;> rfl
      · exact ⟨rfl, rfl⟩

theorem move_readOnly {request : TransitionRequest} {stamp : PyStr} :
    (move calls (.inspect request stamp)).1 = calls := by
  rw [move]
  split
  · rfl
  · split
    · rfl
    · split <;> rfl

theorem honestRepeat_iff {request : TransitionRequest} {stamp : PyStr} :
    HonestRepeat calls (.inspect request stamp) ↔ Fits calls (.inspect request stamp) := by
  rw [HonestRepeat, Fits]
  refine forall₃_congr fun row found same => ?_
  have reports : ∃ reported, (move calls (.inspect request stamp)).2 = .done (.ok reported) :=
    ⟨row, by rw [move, found]; dsimp only; rw [if_pos same]⟩
  exact ⟨fun honest => honest reports, fun agrees _ => agrees⟩

theorem honours_iff {worker : Worker} :
    Honours calls worker ↔ Fits calls worker := by
  have unchanged : ∀ {other : Worker}, (move calls other).1 = calls →
      HonestRepeat calls other → Honours calls other := by
    intro other same repeated
    refine ⟨?_, ?_, repeated⟩
    · rw [same]
      exact followsTransitions_refl calls
    · rw [same]
      exact keepsFinal_refl calls
  cases worker with
  | inspect request stamp =>
    rw [← honestRepeat_iff]
    exact ⟨Honours.repeated, unchanged move_readOnly⟩
  | update change =>
    rw [Fits, ← honours_updateCall_iff]
    exact ⟨fun honours => ⟨honours.path, honours.final⟩,
      fun ⟨path, final⟩ => ⟨path, final, trivial⟩⟩
  | insert intent digest stamp =>
    refine iff_of_true ?_ trivial
    cases inserted : insertCall (intent.row digest stamp) calls with
    | ok after =>
      have stored : (move calls (.insert intent digest stamp)).1 = after := by
        rw [move, inserted]
      obtain ⟨path, final⟩ := honours_insertCall inserted rfl
      exact ⟨stored ▸ path, stored ▸ final, trivial⟩
    | error error => exact unchanged (by rw [move, inserted]) trivial
  | lookUp intent digest stamp =>
    refine iff_of_true (unchanged ?_ trivial) trivial
    rw [move]
    split
    · split <;> rfl
    · rfl
  | readBack modelCallId => exact iff_of_true (unchanged rfl trivial) trivial
  | done result => exact iff_of_true (unchanged rfl trivial) trivial

/-! ### Runs -/

def connections (calls : List Call) : Crew (List ModelCall) Worker :=
  ⟨[], calls.map Call.start⟩

/-- The lifecycle of a run: each statement follows the transitions, a final call stays as it
is to the end, and no repeated transition with another result succeeds. -/
structure Fenced (crew : Crew (List ModelCall) Worker) (schedule : List Nat) : Prop where
  path : ∀ first index second, schedule = first ++ index :: second →
    FollowsTransitions (crew.run move first).shared (crew.run move (first ++ [index])).shared
  final : ∀ first middle second, schedule = first ++ middle ++ second →
    KeepsFinal (crew.run move first).shared (crew.run move (first ++ middle)).shared
  repeated : ∀ first index second worker, schedule = first ++ index :: second →
    (crew.run move first).workers[index]? = some worker →
    HonestRepeat (crew.run move first).shared worker

theorem run_concat (crew : Crew (List ModelCall) Worker) (first : List Nat) (index : Nat) :
    crew.run move (first ++ [index]) = (crew.run move first).step move index :=
  List.foldl_append ..

/-- A run is fenced exactly when each of its statements fits the table that it finds. -/
theorem fenced_iff (calls : List Call) (schedule : List Nat) :
    Fenced (connections calls) schedule ↔
      Crew.EachStep move Fits (connections calls) schedule := by
  have eachHonours : Crew.EachStep move Fits (connections calls) schedule ↔
      Crew.EachStep move Honours (connections calls) schedule :=
    (Crew.eachStep_congr (fun _ _ => honours_iff) _ _).symm
  rw [eachHonours]
  constructor
  · intro fenced first index second same worker found
    have path := fenced.path first index second same
    have final := fenced.final first [index] second (by simp [same])
    rw [run_concat] at path final
    rcases (Crew.run move (connections calls) first).step_cases index with
      ⟨absent, -⟩ | ⟨mover, moverFound, stepped⟩
    · exact absurd (absent.symm.trans found) (by simp)
    · obtain rfl : mover = worker := Option.some.inj (moverFound.symm.trans found)
      rw [stepped] at path final
      exact ⟨path, final, fenced.repeated first index second mover same found⟩
  · intro honours
    refine ⟨?_, ?_, fun first index second worker same found =>
      (honours first index second same worker found).repeated⟩
    · intro first index second same
      rw [run_concat]
      rcases (Crew.run move (connections calls) first).step_cases index with
        ⟨-, unchanged⟩ | ⟨worker, found, stepped⟩
      · rw [unchanged]
        exact followsTransitions_refl _
      · rw [stepped]
        exact (honours first index second same worker found).path
    · rintro first middle second rfl
      have later := (EachMeets.of_append (EachMeets.of_append honours).1).2
      have kept := Crew.related_run keepsFinal_refl (fun _ _ _ => keepsFinal_trans)
        (fun _ _ honours => honours.final) later
      rwa [Crew.run, ← List.foldl_append] at kept

/-! ### Two reporters -/

def intentPayload : Json :=
  .obj [(py "model_call_id", .str (py "call-1")), (py "mission_id", .str (py "m")),
    (py "phase_id", .str (py "p")), (py "task_id", .str (py "t")),
    (py "assignment_id", .str (py "a")), (py "logical_drone_id", .str (py "d")),
    (py "material_worker_id", .str (py "w")), (py "requested_capability", .str (py "c")),
    (py "provider", .str (py "v")), (py "model_requested", .null), (py "model_declared", .null),
    (py "model_attested", .null), (py "transport", .str (py "LOCAL")),
    (py "selection_reason", .str (py "r")),
    (py "candidate_set_digest", .str (List.replicate 64 0x30)), (py "context_revision", .int 0),
    (py "input_digest", .null), (py "downstream_consumer", .null),
    (py "authority_effect", .str (py "NONE"))]

def transitionCall (target : CallState) (resultDigest : Json) : Call :=
  .transition (.str (py "call-1")) (.obj [(py "state", .str (toText callStates target)),
    (py "result_digest", resultDigest), (py "model_declared", .null),
    (py "model_attested", .null), (py "downstream_consumer", .null),
    (py "authority_effect", .str (py "NONE"))]) (py "t1")

def reports : List Call :=
  [.createIntent intentPayload (py "t0"), transitionCall .sendAttempt .null,
    transitionCall .failed .null, transitionCall .sendConfirmed .null]

def sendSchedule : List Nat :=
  [0, 0, 0, 1, 1, 1]

def repeatedReports : List Call :=
  [.createIntent intentPayload (py "t0"), transitionCall .sendAttempt .null,
    transitionCall .failed .null, transitionCall .failed (.str (List.replicate 64 0x31))]

theorem not_followsTransitions {before after : List ModelCall} (modelCallId : PyStr)
    (old new : CallState) (found : (callOf modelCallId before).map ModelCall.state = some old)
    (written : (callOf modelCallId after).map ModelCall.state = some new) (moved : new ≠ old)
    (illegal : new ∉ transitions old) : ¬ FollowsTransitions before after := by
  intro follows
  obtain ⟨row, rowFound, rfl⟩ := Option.map_eq_some_iff.mp found
  obtain ⟨next, nextFound, rfl⟩ := Option.map_eq_some_iff.mp written
  have step := follows modelCallId
  rw [rowFound, nextFound] at step
  exact step.elim moved illegal

/-- The worker is about to repeat the current state with a result that is not recorded. -/
def repeatsOtherResult (crew : Crew (List ModelCall) Worker) (index : Nat) : Bool :=
  match crew.workers[index]? with
  | some (.inspect request _) =>
    (callOf request.modelCallId crew.shared).any fun row => request.target = row.state &&
      match request.resultDigest with
      | .str digest => row.resultDigest ≠ some digest
      | _ => false
  | _ => false

theorem not_fits_of_repeatsOtherResult {crew : Crew (List ModelCall) Worker} {index : Nat}
    (repeats : repeatsOtherResult crew index = true) : ¬ Crew.Meets Fits crew index := by
  intro meets
  unfold repeatsOtherResult at repeats
  split at repeats
  · rename_i request stamp worker
    obtain ⟨row, found, differs⟩ := (Option.any_eq_true _ _).mp repeats
    rw [Bool.and_eq_true, decide_eq_true_eq] at differs
    have agrees := meets _ worker row found differs.1
    rcases agrees with unnamed | ⟨digest, recorded, named⟩
    · rw [unnamed] at differs
      exact absurd differs.2 (by simp)
    · rw [named] at differs
      exact absurd recorded (by simpa using differs.2)
  · exact absurd repeats (by simp)

/-- A failed call is confirmed by the reporter that read it before, and a repeated failure
that names a result is answered with the row that has none. -/
theorem not_fenced :
    ¬ Fenced (connections reports) (sendSchedule ++ [2, 3, 2, 3]) ∧
      ¬ Fenced (connections repeatedReports) (sendSchedule ++ [2, 2, 3]) := by
  constructor
  · intro fenced
    have path := fenced.path (sendSchedule ++ [2, 3, 2]) 3 [] rfl
    revert path
    apply not_followsTransitions (py "call-1") .failed .sendConfirmed
    · decide +kernel
    · decide +kernel
    · decide
    · decide
  · intro fenced
    have fits := (fenced_iff _ _).mp fenced (sendSchedule ++ [2, 2]) 3 [] rfl
    refine not_fits_of_repeatsOtherResult ?_ fits
    decide +kernel

end ModelCalls

end CyberLion
