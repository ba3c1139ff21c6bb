import CyberLion.PolicyGate

/-!
# Runs of a policy decision point

The calls of one instance, one after the other, while others change the store and the
source between any two of their steps.  A returned result was decided by that call, or by
an earlier call with the same request identifier and the same digest of its inputs.
-/

namespace CyberLion

open PyLib

variable {config : LiveAuthorityConfig} {replayDomain : PyStr} {strRepr : PyStr → PyStr}

def OwnReplay (before after : PdpWorld) : Prop :=
  after.replay = before.replay

/-! ### One call -/

def PdpWorld.Answers (world : PdpWorld) (lineage : List AuthorityGrant) (digest : PyStr) :
    PdpKey → Prop
  | .pullRequest key => ∃ record, resolveExact world.admission.live.backend key = .ok record ∧
      record.lineage = lineage ∧ record.lineageDigest = digest
  | .repositoryRef key => ∃ record,
      resolveRepositoryRefExact world.admission.refBackend key = .ok record ∧
      record.lineage = lineage ∧ record.lineageDigest = digest

structure FoundAuthority (instants : List PdpWorld) (key : PdpKey) (authority : PdpAuthority) :
    Prop where
  receipt : ∃ read ∈ instants, ∃ lineage leaf,
    read.Answers lineage authority.admittedLineageDigest key ∧ lineage.getLast? = some leaf ∧
      authority.authorityCeiling = leaf.authorityCeiling
  record : ∃ read ∈ instants, read.Answers authority.lineage authority.lineageDigest key

structure Decided (strRepr : PyStr → PyStr) (input : PdpInput) (digests : PdpInput.Digests)
    (result : PDPResult) (instants : List PdpWorld) (authority : PdpAuthority)
    (base : GateDecision) : Prop where
  checked : input.check = .ok digests
  found : FoundAuthority instants input.authorityKey authority
  authorized : input.checkAuthority authority = .ok ()
  evaluated : input.admissionInput.evaluate strRepr = .ok base
  sealed : ∃ request, (input.requestOf authority digests).sealed = .ok request ∧
    input.resultOf authority digests request base = .ok result

/-- A call of an instance: its input, its outcome and the states that its steps found. -/
structure PdpCall where
  input : PdpInput
  outcome : Except PyError PDPResult
  instants : List PdpWorld

def PdpCall.Made (strRepr : PyStr → PyStr) (call : PdpCall) (digests : PdpInput.Digests)
    (result : PDPResult) : Prop :=
  call.outcome = .ok result ∧
    ∃ authority base, Decided strRepr call.input digests result call.instants authority base

theorem exec_onLive {program : PyProg LiveWorld LiveAdmittedAuthority}
    {between : AdmissionWorld → AdmissionWorld → Prop} {start final : AdmissionWorld}
    {instants : List AdmissionWorld} {result : Except PyError LiveAdmittedAuthority}
    (execution : PyProg.Exec between (onLive program) start instants final result) :
    PyProg.Exec (fun _ _ => True) program start.live (instants.map AdmissionWorld.live) final.live
      result :=
  Prog.Exec.of_zoom (fun _ _ => rfl) execution

variable {final : PdpWorld} {instants : List PdpWorld} {calls : List PdpCall} {last : PdpCall}

theorem exec_onAdmission {α : Type} {program : PyProg AdmissionWorld α}
    {between : PdpWorld → PdpWorld → Prop} {start : PdpWorld} {result : Except PyError α}
    (execution : PyProg.Exec between (onAdmission program) start instants final result) :
    PyProg.Exec (fun _ _ => True) program start.admission (instants.map PdpWorld.admission)
      final.admission result :=
  Prog.Exec.of_zoom (fun _ _ => rfl) execution

theorem exec_admitAuthority {between : PdpWorld → PdpWorld → Prop} {input : PdpInput}
    {start : PdpWorld} {authority : PdpAuthority}
    (execution : PyProg.Exec between (onAdmission (admitAuthority config replayDomain input)) start
      instants final (.ok authority)) : FoundAuthority instants input.authorityKey authority := by
  have inner := exec_onAdmission execution
  unfold admitAuthority at inner
  split at inner
  · rename_i key isKey
    rw [isKey]
    obtain ⟨first, middle, admitted, second, admission, lookup, firstPart, secondPart⟩ :=
      PyProg.exists_exec_of_bind inner
    simp only [PyProg.exec_read_bind, PyProg.exec_pure] at lookup
    obtain ⟨found, _, record, rfl, -, isRecord, -, -, same⟩ := lookup
    obtain rfl := Except.ok.inj same
    obtain ⟨read, member, resolved, leaf, isResolved, isLeaf, sameDigest, sameCeiling⟩ :=
      exec_admit (exec_onLive admission)
    obtain ⟨between, betweenMember, rfl⟩ := List.mem_map.mp member
    obtain ⟨whole, wholeMember, rfl⟩ := List.mem_map.mp (firstPart.subset betweenMember)
    obtain ⟨later, laterMember, rfl⟩ :=
      List.mem_map.mp (secondPart.subset (List.mem_cons_self (a := found)))
    exact ⟨⟨whole, wholeMember, resolved.lineage, leaf, ⟨resolved, isResolved, rfl, sameDigest.symm⟩,
      isLeaf, sameCeiling⟩, later, laterMember, record, isRecord, rfl, rfl⟩
  · rename_i key isKey
    rw [isKey]
    obtain ⟨first, middle, admitted, second, admission, lookup, firstPart, secondPart⟩ :=
      PyProg.exists_exec_of_bind inner
    simp only [PyProg.exec_read_bind, PyProg.exec_pure] at lookup
    obtain ⟨found, _, record, rfl, -, isRecord, -, -, same⟩ := lookup
    obtain rfl := Except.ok.inj same
    obtain ⟨read, member, resolved, leaf, isResolved, isLeaf, sameDigest, sameCeiling⟩ :=
      exec_admitRepositoryRef admission
    obtain ⟨whole, wholeMember, rfl⟩ := List.mem_map.mp (firstPart.subset member)
    obtain ⟨later, laterMember, rfl⟩ :=
      List.mem_map.mp (secondPart.subset (List.mem_cons_self (a := found)))
    exact ⟨⟨whole, wholeMember, resolved.lineage, leaf, ⟨resolved, isResolved, rfl, sameDigest.symm⟩,
      isLeaf, sameCeiling⟩, later, laterMember, record, isRecord, rfl, rfl⟩

theorem within_onAdmission {α : Type} (program : PyProg AdmissionWorld α) :
    PyProg.Within (fun before after => after.replay = before.replay) (onAdmission program) :=
  @Prog.within_zoom _ _ _ _ PdpWorld.admission (fun world admission => { world with admission })
    PdpWorld.replay (fun _ _ => rfl) _

theorem commits_evaluatePdp (input : PdpInput) :
    PyProg.Commits (fun outcome => ∃ result, outcome = .ok result) PdpWorld.replay
      (evaluatePdp config replayDomain strRepr input) := by
  have keptLift : ∀ {α : Type} (computation : Except PyError α),
      PyProg.Within (fun before after : PdpWorld => after.replay = before.replay)
        (PyProg.lift computation) := fun computation => PyProg.within_lift computation
  unfold evaluatePdp
  apply PyProg.Commits.bind (keptLift _)
  intro digests
  apply PyProg.Commits.bind
  · apply PyProg.within_read
    exact fun _ => rfl
  intro old
  cases old with
  | some entry =>
    apply PyProg.Commits.bind (keptLift _)
    exact fun _ => trivial
  | none =>
    unfold evaluateNew
    apply PyProg.Commits.bind ((within_onAdmission _).handle _)
    intro authority
    apply PyProg.Commits.bind (keptLift _)
    intro _
    apply PyProg.Commits.bind (keptLift _)
    intro request
    apply PyProg.Commits.bind (keptLift _)
    intro base
    apply PyProg.Commits.bind ((within_onAdmission _).handle _)
    intro _
    apply PyProg.Commits.bind (keptLift _)
    intro result found
    exact .inr ⟨_, rfl, result, rfl⟩

theorem replay_of_raised {input : PdpInput} {start : PdpWorld} {error : PyError}
    (execution : PyProg.Exec OwnReplay (evaluatePdp config replayDomain strRepr input) start
      instants final (.error error)) : final.replay = start.replay :=
  Prog.Commits.part_eq (commits_evaluatePdp input) (fun _ _ kept => kept) execution
    (fun ⟨_, same⟩ => nomatch same)

/-- What a call that returned did: it answered from the replay dictionary, or it decided and
remembered. -/
theorem exec_evaluatePdp {input : PdpInput} {start : PdpWorld} {result : PDPResult}
    (execution : PyProg.Exec OwnReplay (evaluatePdp config replayDomain strRepr input) start
      instants final (.ok result)) :
    ∃ digests, input.check = .ok digests ∧
      (List.lookup input.requestId start.replay = some (digests.preRequest, result) ∧
          final.replay = start.replay ∨
        List.lookup input.requestId start.replay = none ∧
          final.replay = dictSet input.requestId (digests.preRequest, result) start.replay ∧
          ∃ authority base, Decided strRepr input digests result instants authority base) := by
  unfold evaluatePdp at execution
  simp only [PyProg.exec_lift_bind, PyProg.exec_read_bind] at execution
  obtain ⟨digests, checked, found, later, old, rfl, own, looked, execution⟩ := execution
  have sameReplay : found.replay = start.replay := own
  rw [sameReplay] at looked
  obtain rfl := Except.ok.inj looked
  refine ⟨digests, checked, ?_⟩
  split at execution
  · rename_i preRequest remembered isEntry
    simp only [PyProg.exec_lift_bind, PyProg.exec_pure, raiseIf_eq_ok, ne_eq, not_not]
      at execution
    obtain ⟨_, rfl, -, rfl, same⟩ := execution
    obtain rfl := Except.ok.inj same
    exact .inl ⟨isEntry, sameReplay⟩
  · rename_i isNone
    unfold evaluateNew at execution
    obtain ⟨first, middle, authority, second, admission, execution, firstPart, -⟩ :=
      PyProg.exists_exec_of_bind execution
    have middleKept := Prog.Within.part_eq ((within_onAdmission _).handle _) (fun _ _ kept => kept)
      admission
    simp only [PyProg.exec_lift_bind] at execution
    obtain ⟨_, authorityOk, request, isRequest, base, isBase, execution⟩ := execution
    obtain ⟨_, last, _, _, revalidation, execution, -⟩ := PyProg.exists_exec_of_bind execution
    have lastKept := Prog.Within.part_eq ((within_onAdmission _).handle _) (fun _ _ kept => kept)
      revalidation
    simp only [PyProg.exec_lift_bind, PyProg.exec_transact, Prod.mk.injEq] at execution
    obtain ⟨decided, isResult, written, -, waited, rfl, same⟩ := execution
    obtain rfl := Except.ok.inj same
    have writtenKept : written.replay = last.replay := waited
    refine .inr ⟨isNone, ?_, authority, base, checked, ?_, authorityOk, isBase, request, isRequest,
      isResult⟩
    · rw [PdpWorld.remember, writtenKept, lastKept, middleKept, sameReplay]
    · rcases PyProg.exec_handle.mp admission with ⟨value, admitted, same⟩ | ⟨error, -, raised⟩
      · obtain rfl := Except.ok.inj same
        obtain ⟨receipt, record⟩ := exec_admitAuthority admitted
        obtain ⟨read, member, others⟩ := receipt
        obtain ⟨lookup, lookupMember, answers⟩ := record
        exact ⟨⟨read, List.mem_cons_of_mem _ (firstPart.subset member), others⟩, lookup,
          List.mem_cons_of_mem _ (firstPart.subset lookupMember), answers⟩
      · cases raised

/-! ### Runs -/

inductive PdpRun (config : LiveAuthorityConfig) (replayDomain : PyStr)
    (strRepr : PyStr → PyStr) (start : PdpWorld) : List PdpCall → PdpWorld → Prop
  | nil : PdpRun config replayDomain strRepr start [] start
  | call {calls : List PdpCall} {middle final : PdpWorld} {last : PdpCall}
      (earlier : PdpRun config replayDomain strRepr start calls middle)
      (execution : PyProg.Exec OwnReplay (evaluatePdp config replayDomain strRepr last.input)
        middle last.instants final last.outcome) :
      PdpRun config replayDomain strRepr start (calls ++ [last]) final

/-- An entry of the replay dictionary was decided by one of the calls. -/
def Remembers (strRepr : PyStr → PyStr) (calls : List PdpCall) (world : PdpWorld) : Prop :=
  ∀ requestId preRequest result,
    List.lookup requestId world.replay = some (preRequest, result) →
    ∃ call ∈ calls, ∃ digests, call.input.requestId = requestId ∧
      digests.preRequest = preRequest ∧ call.Made strRepr digests result

def Keeps (calls : List PdpCall) (world : PdpWorld) : Prop :=
  ∀ call ∈ calls, ∀ result, call.outcome = .ok result → ∃ digests,
    call.input.check = .ok digests ∧
    List.lookup call.input.requestId world.replay = some (digests.preRequest, result)

/-- A result of the call at an index was decided by that call or by one before it. -/
def TracedTo (strRepr : PyStr → PyStr) (calls : List PdpCall) (index : Nat) (call : PdpCall)
    (result : PDPResult) : Prop :=
  ∃ (earlier : Nat) (maker : PdpCall) (digests making : PdpInput.Digests), earlier ≤ index ∧
    calls[earlier]? = some maker ∧ maker.input.requestId = call.input.requestId ∧
    call.input.check = .ok digests ∧ making.preRequest = digests.preRequest ∧
    maker.Made strRepr making result

def Traced (strRepr : PyStr → PyStr) (calls : List PdpCall) : Prop :=
  ∀ (index : Nat) (call : PdpCall) result, calls[index]? = some call →
    call.outcome = .ok result → TracedTo strRepr calls index call result

structure Agrees (strRepr : PyStr → PyStr) (calls : List PdpCall) (world : PdpWorld) : Prop where
  remembers : Remembers strRepr calls world
  keeps : Keeps calls world
  traced : Traced strRepr calls

theorem getElem?_concat_cases {call : PdpCall} {index : Nat}
    (isCall : (calls ++ [last])[index]? = some call) :
    calls[index]? = some call ∨ index = calls.length ∧ call = last := by
  rcases lt_trichotomy index calls.length with before | same | after
  · rw [List.getElem?_append_left before] at isCall
    exact .inl isCall
  · subst same
    simp only [List.getElem?_concat_length, Option.some.injEq] at isCall
    exact .inr ⟨rfl, isCall.symm⟩
  · rw [List.getElem?_eq_none (by simpa using after)] at isCall
    exact nomatch isCall

theorem getElem?_concat_of_some {call : PdpCall} {index : Nat} (isCall : calls[index]? = some call) :
    (calls ++ [last])[index]? = some call := by
  rw [List.getElem?_append_left (List.getElem?_eq_some_iff.mp isCall).1, isCall]

theorem TracedTo.concat {index : Nat} {call : PdpCall} {result : PDPResult}
    (traced : TracedTo strRepr calls index call result) :
    TracedTo strRepr (calls ++ [last]) index call result := by
  obtain ⟨earlier, maker, digests, making, le, isMaker, others⟩ := traced
  exact ⟨earlier, maker, digests, making, le, getElem?_concat_of_some isMaker, others⟩

theorem Traced.concat (traced : Traced strRepr calls)
    (own : ∀ result, last.outcome = .ok result →
      TracedTo strRepr (calls ++ [last]) calls.length last result) :
    Traced strRepr (calls ++ [last]) := by
  intro index call result isCall returned
  rcases getElem?_concat_cases isCall with isOld | ⟨rfl, rfl⟩
  · exact (traced index call result isOld returned).concat
  · exact own result returned

theorem Remembers.concat {world : PdpWorld} (remembers : Remembers strRepr calls world) :
    Remembers strRepr (calls ++ [last]) world := by
  intro requestId preRequest result isEntry
  obtain ⟨call, member, others⟩ := remembers requestId preRequest result isEntry
  exact ⟨call, List.mem_append_left _ member, others⟩

theorem Agrees.raised {middle : PdpWorld} {error : PyError} (agrees : Agrees strRepr calls middle)
    (outcome : last.outcome = .error error) (kept : final.replay = middle.replay) :
    Agrees strRepr (calls ++ [last]) final where
  remembers := by
    intro requestId preRequest result isEntry
    rw [kept] at isEntry
    exact agrees.remembers.concat requestId preRequest result isEntry
  keeps := by
    intro call member result returned
    rw [kept]
    rcases List.mem_append.mp member with member | member
    · exact agrees.keeps call member result returned
    · obtain rfl := List.mem_singleton.mp member
      exact nomatch outcome.symm.trans returned
  traced := agrees.traced.concat fun result returned => nomatch outcome.symm.trans returned

theorem Agrees.replayed {middle : PdpWorld} {value : PDPResult} {digests : PdpInput.Digests}
    (agrees : Agrees strRepr calls middle) (outcome : last.outcome = .ok value)
    (checked : last.input.check = .ok digests)
    (isEntry : List.lookup last.input.requestId middle.replay = some (digests.preRequest, value))
    (kept : final.replay = middle.replay) : Agrees strRepr (calls ++ [last]) final where
  remembers := by
    intro requestId preRequest result isOther
    rw [kept] at isOther
    exact agrees.remembers.concat requestId preRequest result isOther
  keeps := by
    intro call member result returned
    rw [kept]
    rcases List.mem_append.mp member with member | member
    · exact agrees.keeps call member result returned
    · obtain rfl := List.mem_singleton.mp member
      obtain rfl := Except.ok.inj (outcome.symm.trans returned)
      exact ⟨digests, checked, isEntry⟩
  traced := by
    apply agrees.traced.concat
    intro result returned
    obtain rfl := Except.ok.inj (outcome.symm.trans returned)
    obtain ⟨maker, member, making, sameId, samePre, made⟩ := agrees.remembers _ _ _ isEntry
    obtain ⟨first, isMaker⟩ := List.getElem?_of_mem member
    exact ⟨first, maker, digests, making, (List.getElem?_eq_some_iff.mp isMaker).1.le,
      getElem?_concat_of_some isMaker, sameId, checked, samePre, made⟩

theorem Agrees.decided {middle : PdpWorld} {value : PDPResult} {digests : PdpInput.Digests}
    (agrees : Agrees strRepr calls middle) (checked : last.input.check = .ok digests)
    (isNone : List.lookup last.input.requestId middle.replay = none)
    (stored : final.replay = dictSet last.input.requestId (digests.preRequest, value) middle.replay)
    (made : last.Made strRepr digests value) : Agrees strRepr (calls ++ [last]) final where
  remembers := by
    intro requestId preRequest result isEntry
    rw [stored] at isEntry
    by_cases same : requestId = last.input.requestId
    · subst same
      rw [lookup_dictSet_self] at isEntry
      obtain ⟨rfl, rfl⟩ := Prod.mk.inj (Option.some.inj isEntry)
      exact ⟨last, by simp, digests, rfl, rfl, made⟩
    · rw [lookup_dictSet_of_ne same] at isEntry
      exact agrees.remembers.concat requestId preRequest result isEntry
  keeps := by
    intro call member result returned
    rw [stored]
    rcases List.mem_append.mp member with member | member
    · obtain ⟨others, otherChecked, kept⟩ := agrees.keeps call member result returned
      have notSame : call.input.requestId ≠ last.input.requestId := by
        intro same
        rw [same, isNone] at kept
        exact nomatch kept
      exact ⟨others, otherChecked, (lookup_dictSet_of_ne notSame ..).trans kept⟩
    · obtain rfl := List.mem_singleton.mp member
      obtain rfl := Except.ok.inj (made.1.symm.trans returned)
      exact ⟨digests, checked, lookup_dictSet_self ..⟩
  traced := by
    apply agrees.traced.concat
    intro result returned
    obtain rfl := Except.ok.inj (made.1.symm.trans returned)
    exact ⟨calls.length, last, digests, digests, le_refl _, by simp, rfl, checked, rfl, made⟩

theorem agrees_of_pdpRun {start : PdpWorld} (fresh : start.replay = [])
    (run : PdpRun config replayDomain strRepr start calls final) :
    Agrees strRepr calls final := by
  induction run with
  | nil =>
    refine ⟨?_, ?_, ?_⟩
    · intro requestId preRequest result found
      rw [fresh] at found
      exact nomatch found
    · intro call member
      exact nomatch member
    · intro index call result found
      exact nomatch found
  | @call calls middle final last earlier execution ih =>
    cases outcome : last.outcome with
    | error error =>
      rw [outcome] at execution
      exact ih.raised outcome (replay_of_raised execution)
    | ok value =>
      rw [outcome] at execution
      obtain ⟨digests, checked, ⟨isEntry, kept⟩ | ⟨isNone, stored, decided⟩⟩ :=
        exec_evaluatePdp execution
      · exact ih.replayed outcome checked isEntry kept
      · exact ih.decided checked isNone stored ⟨outcome, decided⟩

end CyberLion
