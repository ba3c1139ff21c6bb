import CyberLion.AgentRegistrySteps

/-!
# Runs of the agent registry

Whatever is called, in whichever order and through whichever handle, the tables fit together, a
store can be opened, a snapshot can be taken and a repeated operation gives its first result.
The names have to be visible: a specification with a blank name is accepted, and then neither a
snapshot nor the repetition of the call succeeds.
-/

namespace CyberLion

namespace AgentRegistry

open PyLib Json
open FleetCoordination (canonicalJson canonicalJson_eq_ok textList textFieldOf textsFieldOf
  textFieldOf_sorted textsFieldOf_sorted)

/-! ### Reading a sound database -/

section Reads

variable {db : Database}

theorem actualDigest_of_mem (sound : Sound db) {key : AgentSpecKey}
    (member : key ∈ db.specs.map SpecRow.key) :
    db.actualDigest key.agentId key.version = some key.specDigest := by
  obtain ⟨row, isRow, rfl⟩ := List.mem_map.mp member
  have samePredicate : (fun other : SpecRow => decide (other.agentId = row.key.agentId) &&
      decide (other.version = row.key.version)) =
      fun other => decide ((other.agentId, other.version) = (row.agentId, row.version)) := by
    funext other
    simp only [Prod.mk.injEq, Bool.decide_and]
    rfl
  rw [Database.actualDigest, samePredicate, find?_of_nodup_map sound.pairs isRow]
  rfl

theorem mem_specs_of_active (sound : Sound db) {row : ActiveRow} (member : row ∈ db.active) :
    row.key ∈ db.specs.map SpecRow.key := by
  obtain ⟨spec, isLast, same⟩ := Option.map_eq_some_iff.mp (sound.latest row member)
  have isSpec := List.mem_of_mem_filter (List.mem_of_getLast? isLast)
  exact List.mem_map.mpr ⟨spec, isSpec, same⟩

theorem openStore_of_sound (sound : Sound db) (named : db.registryId ≠ []) :
    openStore db.registryId db = .ok () := by
  have chain : verifyEventChain db = .ok db.eventHead := by
    have chained := sound.chained
    rw [Chained] at chained
    rw [verifyEventChain, chained, ok_bind, raiseIf, if_neg (by simp)]
    rfl
  have active : ∀ row ∈ db.active, raiseIf (db.actualDigest row.agentId row.version ≠
      some row.specDigest) (stateError (py "active spec projection corruption")) = .ok () := by
    intro row member
    rw [raiseIf_eq_ok, not_not]
    exact actualDigest_of_mem sound (mem_specs_of_active sound member)
  have instances : ∀ row ∈ db.instances, raiseIf (db.actualDigest row.agentId row.specVersion ≠
      some row.specDigest) (stateError (py "instance spec binding corruption")) = .ok () := by
    intro row member
    rw [raiseIf_eq_ok, not_not]
    exact actualDigest_of_mem sound (sound.bound row member)
  rw [openStore, raiseIf, if_neg named, ok_bind, raiseIf, if_neg (by simp), ok_bind, chain, ok_bind,
    verifyConsistency, forM_eq_ok.mpr active, ok_bind, forM_eq_ok.mpr instances]

theorem snapshot_of_sound (sound : Sound db) (blank : isBlank db.registryId = false)
    (noNul : hasNul db.registryId = false) : snapshot db = .ok db.view := by
  have keys : ∀ key ∈ db.view.activeSpecs, key.validate = .ok () := by
    intro key member
    obtain ⟨row, isRow, rfl⟩ := List.mem_map.mp member
    obtain ⟨spec, isSpec, same⟩ :=
      List.mem_map.mp (mem_specs_of_active sound ((List.mem_insertionSort _).mp isRow))
    change row.key.validate = .ok ()
    rw [← same]
    exact sound.keys spec isSpec
  have instances : ∀ value ∈ db.view.instances, value.validate = .ok () := by
    intro value member
    obtain ⟨row, isRow, rfl⟩ := List.mem_map.mp member
    exact (sound.readable row ((List.mem_insertionSort _).mp isRow)).valid
  have agents : (db.view.activeSpecs.map AgentSpecKey.agentId).Nodup := by
    rw [Database.view, List.map_map]
    exact (((List.perm_insertionSort _ _).map _).nodup_iff).mpr sound.agents
  have valid : db.view.validate = .ok () := by
    rw [AgentRegistrySnapshot.validate, forM_eq_ok.mpr keys, forM_eq_ok.mpr instances]
    change (text (py "registry_id") db.registryId >>= fun _ =>
      digest (py "event_head") db.eventHead >>= fun _ => _) = _
    rw [(text_eq_ok (u := ())).mpr ⟨blank, noNul⟩, ok_bind, digest_eventHead sound.chained, ok_bind,
      ok_bind,
      ok_bind, raiseIf, if_neg (not_not.mpr agents)]
  rw [snapshot, forM_eq_ok.mpr instances, ok_bind, valid]
  rfl

end Reads

/-! ### Calls -/

inductive Call
  | registerSpec (spec : RegisteredSpec) (operationId : PyStr) (refs : EvidenceRefs)
  | supersedeSpec (spec : RegisteredSpec) (expectedVersion expectedDigest operationId : PyStr)
      (refs : EvidenceRefs)
  | registerInstance (instanceId agentId specVersion specDigest operationId : PyStr)
      (refs : EvidenceRefs)
  | transitionInstance (instanceId toState operationId : PyStr) (refs : EvidenceRefs)

inductive Result
  | key (key : AgentSpecKey)
  | agent (value : AgentInstance)
  deriving DecidableEq

def tagged {α : Type} (tag : α → Result) (outcome : Except PyError (Database × α)) :
    Except PyError (Database × Result) := do
  let (db, result) ← outcome
  return (db, tag result)

namespace Call

def operationId : Call → PyStr
  | registerSpec _ operationId _ => operationId
  | supersedeSpec _ _ _ operationId _ => operationId
  | registerInstance _ _ _ _ operationId _ => operationId
  | transitionInstance _ _ operationId _ => operationId

def perform (clock : Moment) (db : Database) : Call → Except PyError (Database × Result)
  | registerSpec spec operationId refs =>
    tagged .key (AgentRegistry.registerSpec spec operationId refs clock db)
  | supersedeSpec spec expectedVersion expectedDigest operationId refs => tagged .key
      (AgentRegistry.supersedeSpec spec expectedVersion expectedDigest operationId refs clock db)
  | registerInstance instanceId agentId specVersion specDigest operationId refs => tagged .agent
      (AgentRegistry.registerInstance instanceId agentId specVersion specDigest operationId refs
        clock db)
  | transitionInstance instanceId toState operationId refs =>
    tagged .agent (AgentRegistry.transitionInstance instanceId toState operationId refs clock db)

def Fits : Call → Prop
  | registerSpec spec .. | supersedeSpec spec .. =>
    (isBlank spec.agent.agentId = false ∧ hasNul spec.agent.agentId = false) ∧
      isBlank spec.agent.version = false ∧ hasNul spec.agent.version = false
  | _ => True

def payload : Call → Except PyError Json
  | registerSpec spec _ refs => do
    let bytes ← spec.bytes
    return registerPayload (spec.key bytes) refs
  | supersedeSpec spec expectedVersion expectedDigest _ refs => do
    let bytes ← spec.bytes
    return supersedePayload (spec.key bytes) expectedVersion expectedDigest refs
  | registerInstance instanceId agentId specVersion specDigest _ refs =>
    .ok (instancePayload instanceId agentId specVersion specDigest refs)
  | transitionInstance instanceId toState _ refs => .ok (transitionPayload instanceId toState refs)

def replay : Call → Json → Except PyError Result
  | registerSpec .., value | supersedeSpec .., value => do
    let key ← AgentSpecKey.replay value
    return .key key
  | _, value => do
    let result ← AgentInstance.replay value
    return .agent result

end Call

structure Timed where
  clock : Moment
  call : Call

def Timed.execute (db : Database) (timed : Timed) : Database :=
  match timed.call.perform timed.clock db with
  | .ok (after, _) => after
  | .error _ => db

def runCalls (registryId : PyStr) (calls : List Timed) : Database :=
  calls.foldl Timed.execute (emptyDatabase registryId)

/-- The specification that a call registers: what it returns unless it is a repetition. -/
def Timed.accepted (db : Database) (timed : Timed) : List AgentSpecKey :=
  match timed.call.perform timed.clock db with
  | .ok (_, .key key) =>
    if db.operations.any (fun row => row.operationId = timed.call.operationId) then [] else [key]
  | _ => []

def acceptedBy : Database → List Timed → List AgentSpecKey
  | _, [] => []
  | db, timed :: calls => timed.accepted db ++ acceptedBy (timed.execute db) calls

/-! ### One call -/

theorem tagged_eq_ok {α : Type} {tag : α → Result} {outcome : Except PyError (Database × α)}
    {after : Database} {result : Result} :
    tagged tag outcome = .ok (after, result) ↔
      ∃ value, outcome = .ok (after, value) ∧ tag value = result := by
  simp only [tagged, bind_eq_ok, pure_eq_ok, Prod.exists, Prod.mk.injEq]
  constructor
  · rintro ⟨db, value, returned, rfl, rfl⟩
    exact ⟨value, returned, rfl⟩
  · rintro ⟨value, returned, rfl⟩
    exact ⟨after, value, returned, rfl, rfl⟩

theorem Saved.imp {α β : Type} {db : Database} {operationId : PyStr} {payload : Json}
    {replay : Json → Except PyError α} {other : Json → Except PyError β} {result : α}
    {otherResult : β} (saved : Saved db operationId payload replay result)
    (reads : ∀ value, replay value = .ok result → other value = .ok otherResult) :
    Saved db operationId payload other otherResult := by
  obtain ⟨bound, row, member, named, operationDigest, value, digested, loaded, isTrue, replayed⟩ :=
    saved
  exact ⟨bound, row, member, named, operationDigest, value, digested, loaded, isTrue,
    reads value replayed⟩

def Call.SavedIn (db : Database) (call : Call) (result : Result) : Prop :=
  ∃ payload, call.payload = .ok payload ∧ Saved db call.operationId payload call.replay result

section Step

variable {db after : Database} {timed : Timed} {result : Result}

theorem accepted_of_known {key : AgentSpecKey}
    (performed : timed.call.perform timed.clock db = .ok (after, .key key))
    {payload : Json} {replay : Json → Except PyError AgentSpecKey}
    (saved : Saved db timed.call.operationId payload replay key) : timed.accepted db = [] := by
  obtain ⟨row, member, named, -⟩ := saved.logged
  have known : db.operations.any (fun row => row.operationId = timed.call.operationId) = true :=
    List.any_eq_true.mpr ⟨row, member, by simpa using named⟩
  simp only [Timed.accepted, performed, known, if_true]

theorem accepted_of_unknown {key : AgentSpecKey}
    (performed : timed.call.perform timed.clock db = .ok (after, .key key))
    (unknown : ∀ row ∈ db.operations, row.operationId ≠ timed.call.operationId) :
    timed.accepted db = [key] := by
  have absent :
      ¬ db.operations.any (fun row => row.operationId = timed.call.operationId) = true := by
    rw [List.any_eq_true]
    rintro ⟨row, member, named⟩
    exact unknown row member (by simpa using named)
  simp only [Timed.accepted, performed, absent, if_false, Bool.false_eq_true]

theorem accepted_of_agent {value : AgentInstance}
    (performed : timed.call.perform timed.clock db = .ok (after, .agent value)) :
    timed.accepted db = [] := by
  simp only [Timed.accepted, performed]

theorem sound_operate {α : Type} {payload : Json} {replay : Json → Except PyError α}
    {work : PyStr → Except PyError (Database × α)} {value : α} (sound : Sound db)
    (isPayload : timed.call.payload = .ok payload)
    (reads : ∀ saved, replay saved = .ok value → timed.call.replay saved = .ok result)
    (operated : operate timed.call.operationId payload replay work db = .ok (after, value))
    (known : Saved db timed.call.operationId payload replay value → timed.accepted db = [])
    (works : ∀ operationDigest, bindText timed.call.operationId = .ok () →
      digestOf payload = .ok operationDigest → work operationDigest = .ok (after, value) →
      Done db after timed.call.operationId payload replay value ∧
        after.specs.map SpecRow.key = db.specs.map SpecRow.key ++ timed.accepted db) :
    Sound after ∧ Extends db after ∧ timed.call.SavedIn after result ∧
      after.specs.map SpecRow.key = db.specs.map SpecRow.key ++ timed.accepted db := by
  rcases operate_cases operated with ⟨rfl, saved⟩ | ⟨operationDigest, bound, digested, worked⟩
  · rw [known saved, List.append_nil]
    exact ⟨sound, .refl after, ⟨_, isPayload, saved.imp reads⟩, rfl⟩
  · obtain ⟨done, specs⟩ := works operationDigest bound digested worked
    exact ⟨done.sound, done.extended, ⟨_, isPayload, done.saved.imp reads⟩, specs⟩

theorem validate_key {spec : RegisteredSpec} (bytes : Utf8Bytes)
    (agentId : isBlank spec.agent.agentId = false ∧ hasNul spec.agent.agentId = false)
    (version : isBlank spec.agent.version = false ∧ hasNul spec.agent.version = false) :
    (spec.key bytes).validate = .ok () := by
  unfold RegisteredSpec.key AgentSpecKey.validate
  rw [(text_eq_ok (u := ())).mpr agentId, ok_bind, (text_eq_ok (u := ())).mpr version, ok_bind]
  exact digest_sha256 _ bytes

theorem sound_perform (sound : Sound db) (fits : timed.call.Fits)
    (performed : timed.call.perform timed.clock db = .ok (after, result)) :
    Sound after ∧ Extends db after ∧ timed.call.SavedIn after result ∧
      after.specs.map SpecRow.key = db.specs.map SpecRow.key ++ timed.accepted db := by
  obtain ⟨clock, call⟩ := timed
  have original := performed
  cases call with
  | registerSpec spec operationId refs =>
    obtain ⟨key, returned, rfl⟩ := tagged_eq_ok.mp performed
    simp only [registerSpec, bind_eq_ok] at returned
    obtain ⟨bytes, written, operated⟩ := returned
    refine @sound_operate db after ⟨clock, .registerSpec spec operationId refs⟩ (.key key)
      _ _ _ _ _ sound ?_ ?_ operated (accepted_of_known original) ?_
    · rw [Call.payload, written]
      rfl
    · intro saved replayed
      rw [Call.replay, replayed]
      rfl
    · intro operationDigest bound digested worked
      obtain ⟨done, specs⟩ :=
        done_registerWork sound bound digested (validate_key bytes fits.1 fits.2) worked
      rw [accepted_of_unknown original done.unknown]
      exact ⟨done, specs⟩
  | supersedeSpec spec expectedVersion expectedDigest operationId refs =>
    obtain ⟨key, returned, rfl⟩ := tagged_eq_ok.mp performed
    simp only [supersedeSpec, bind_eq_ok] at returned
    obtain ⟨bytes, written, operated⟩ := returned
    refine @sound_operate db after
      ⟨clock, .supersedeSpec spec expectedVersion expectedDigest operationId refs⟩ (.key key)
      _ _ _ _ _ sound ?_ ?_ operated (accepted_of_known original) ?_
    · rw [Call.payload, written]
      rfl
    · intro saved replayed
      rw [Call.replay, replayed]
      rfl
    · intro operationDigest bound digested worked
      obtain ⟨done, specs⟩ :=
        done_supersedeWork sound bound digested (validate_key bytes fits.1 fits.2) worked
      rw [accepted_of_unknown original done.unknown]
      exact ⟨done, specs⟩
  | registerInstance instanceId agentId specVersion specDigest operationId refs =>
    obtain ⟨value, returned, rfl⟩ := tagged_eq_ok.mp performed
    refine @sound_operate db after ⟨clock, .registerInstance instanceId agentId specVersion
      specDigest operationId refs⟩ (.agent value) _ _ _ _ _ sound rfl ?_ returned
      (fun _ => accepted_of_agent original) ?_
    · intro saved replayed
      simp only [Call.replay, replayed]
      rfl
    · intro operationDigest bound digested worked
      obtain ⟨done, specs⟩ := done_instanceWork sound bound digested worked
      exact ⟨done, by rw [accepted_of_agent original, specs, List.append_nil]⟩
  | transitionInstance instanceId toState operationId refs =>
    obtain ⟨value, returned, rfl⟩ := tagged_eq_ok.mp performed
    refine @sound_operate db after
      ⟨clock, .transitionInstance instanceId toState operationId refs⟩ (.agent value)
      _ _ _ _ _ sound rfl ?_ returned (fun _ => accepted_of_agent original) ?_
    · intro saved replayed
      simp only [Call.replay, replayed]
      rfl
    · intro operationDigest bound digested worked
      obtain ⟨done, specs⟩ := done_transitionWork sound bound digested worked
      exact ⟨done, by rw [accepted_of_agent original, specs, List.append_nil]⟩

end Step

/-! ### Repetitions -/

section Repetition

variable {db : Database} {call other : Call} {result : Result}

theorem Saved.exists_of_tagged {α : Type} {tag : α → Result} {operationId : PyStr} {payload : Json}
    {replay : Json → Except PyError Result} {inner : Json → Except PyError α}
    (saved : Saved db operationId payload replay result)
    (reads : ∀ value, replay value = inner value >>= fun found => pure (tag found)) :
    ∃ found, tag found = result ∧ Saved db operationId payload inner found := by
  obtain ⟨bound, row, member, named, operationDigest, value, digested, loaded, isTrue, replayed⟩ :=
    saved
  rw [reads, bind_eq_ok] at replayed
  obtain ⟨found, isFound, isResult⟩ := replayed
  exact ⟨found, pure_eq_ok.mp isResult, bound, row, member, named, operationDigest, value, digested,
    loaded, isTrue, isFound⟩

theorem perform_of_savedIn (sound : Sound db) (savedIn : call.SavedIn db result) (clock : Moment) :
    call.perform clock db = .ok (db, result) := by
  obtain ⟨payload, isPayload, saved⟩ := savedIn
  cases call with
  | registerSpec spec operationId refs =>
    simp only [Call.payload, bind_eq_ok, pure_eq_ok] at isPayload
    obtain ⟨bytes, written, rfl⟩ := isPayload
    obtain ⟨key, rfl, savedKey⟩ := saved.exists_of_tagged fun _ => rfl
    simp only [Call.operationId] at savedKey
    rw [Call.perform, registerSpec, written, ok_bind, operate_of_saved sound.operations savedKey]
    rfl
  | supersedeSpec spec expectedVersion expectedDigest operationId refs =>
    simp only [Call.payload, bind_eq_ok, pure_eq_ok] at isPayload
    obtain ⟨bytes, written, rfl⟩ := isPayload
    obtain ⟨key, rfl, savedKey⟩ := saved.exists_of_tagged fun _ => rfl
    simp only [Call.operationId] at savedKey
    rw [Call.perform, supersedeSpec, written, ok_bind, operate_of_saved sound.operations savedKey]
    rfl
  | registerInstance instanceId agentId specVersion specDigest operationId refs =>
    obtain rfl := Except.ok.inj isPayload
    obtain ⟨value, rfl, savedValue⟩ := saved.exists_of_tagged fun _ => rfl
    simp only [Call.operationId] at savedValue
    rw [Call.perform, registerInstance, operate_of_saved sound.operations savedValue]
    rfl
  | transitionInstance instanceId toState operationId refs =>
    obtain rfl := Except.ok.inj isPayload
    obtain ⟨value, rfl, savedValue⟩ := saved.exists_of_tagged fun _ => rfl
    simp only [Call.operationId] at savedValue
    rw [Call.perform, transitionInstance, operate_of_saved sound.operations savedValue]
    rfl

theorem digest_of_perform (sound : Sound db) (savedIn : call.SavedIn db result)
    (sameId : other.operationId = call.operationId) {clock : Moment} {reply : Database × Result}
    (performed : other.perform clock db = .ok reply) :
    ∃ payload otherPayload operationDigest, call.payload = .ok payload ∧
      other.payload = .ok otherPayload ∧ digestOf payload = .ok operationDigest ∧
      digestOf otherPayload = .ok operationDigest := by
  obtain ⟨payload, isPayload, saved⟩ := savedIn
  rw [← sameId] at saved
  obtain ⟨after, answer⟩ := reply
  cases other with
  | registerSpec spec operationId refs =>
    obtain ⟨key, returned, -⟩ := tagged_eq_ok.mp performed
    simp only [registerSpec, bind_eq_ok] at returned
    obtain ⟨bytes, written, operated⟩ := returned
    obtain ⟨operationDigest, digested, otherDigested⟩ :=
      digest_of_saved sound.operations saved operated
    refine ⟨payload, _, operationDigest, isPayload, ?_, digested, otherDigested⟩
    rw [Call.payload, written]
    rfl
  | supersedeSpec spec expectedVersion expectedDigest operationId refs =>
    obtain ⟨key, returned, -⟩ := tagged_eq_ok.mp performed
    simp only [supersedeSpec, bind_eq_ok] at returned
    obtain ⟨bytes, written, operated⟩ := returned
    obtain ⟨operationDigest, digested, otherDigested⟩ :=
      digest_of_saved sound.operations saved operated
    refine ⟨payload, _, operationDigest, isPayload, ?_, digested, otherDigested⟩
    rw [Call.payload, written]
    rfl
  | registerInstance instanceId agentId specVersion specDigest operationId refs =>
    obtain ⟨value, returned, -⟩ := tagged_eq_ok.mp performed
    obtain ⟨operationDigest, digested, otherDigested⟩ :=
      digest_of_saved sound.operations saved returned
    exact ⟨payload, _, operationDigest, isPayload, rfl, digested, otherDigested⟩
  | transitionInstance instanceId toState operationId refs =>
    obtain ⟨value, returned, -⟩ := tagged_eq_ok.mp performed
    obtain ⟨operationDigest, digested, otherDigested⟩ :=
      digest_of_saved sound.operations saved returned
    exact ⟨payload, _, operationDigest, isPayload, rfl, digested, otherDigested⟩

/-! ### Arguments -/

def Collide (first second : Except PyError Utf8Bytes) : Prop :=
  ∃ firstBytes secondBytes, first = .ok firstBytes ∧ second = .ok secondBytes ∧
    firstBytes ≠ secondBytes ∧ sha256 firstBytes = sha256 secondBytes

def Call.payloadBytes (call : Call) : Except PyError Utf8Bytes := do
  let payload ← call.payload
  canonicalJson payload

def Call.specBytes : Call → Except PyError Utf8Bytes
  | registerSpec spec .. | supersedeSpec spec .. => spec.bytes
  | _ => .error ⟨.typeError, py "no specification"⟩

/-- The two calls have the same arguments: specifications with one canonical text, and the same
references, in a tuple or in a list. -/
def Call.SameArguments : Call → Call → Prop
  | .registerSpec spec _ refs, .registerSpec otherSpec _ otherRefs =>
    spec.bytes = otherSpec.bytes ∧ refs.items = otherRefs.items
  | .supersedeSpec spec version digest _ refs,
      .supersedeSpec otherSpec otherVersion otherDigest _ otherRefs =>
      spec.bytes = otherSpec.bytes ∧ version = otherVersion ∧ digest = otherDigest ∧
        refs.items = otherRefs.items
  | .registerInstance instanceId agentId version digest _ refs,
      .registerInstance otherId otherAgent otherVersion otherDigest _ otherRefs =>
      instanceId = otherId ∧ agentId = otherAgent ∧ version = otherVersion ∧
        digest = otherDigest ∧ refs.items = otherRefs.items
  | .transitionInstance instanceId toState _ refs,
      .transitionInstance otherId otherState _ otherRefs =>
      instanceId = otherId ∧ toState = otherState ∧ refs.items = otherRefs.items
  | _, _ => False

end Repetition

section Fields

variable {first second : List (PyStr × Json)}

theorem text_eq_of_sortKeys_eq (firstDistinct : (first.map Prod.fst).Nodup)
    (secondDistinct : (second.map Prod.fst).Nodup)
    (same : (Json.obj first).sortKeys = (Json.obj second).sortKeys) (name : PyStr)
    {value other : PyStr} (member : (name, .str value) ∈ first)
    (otherMember : (name, .str other) ∈ second) : value = other := by
  rw [sortKeys, sortKeys, Json.obj.injEq] at same
  have read := textFieldOf_sorted firstDistinct name value member
  rw [same, textFieldOf_sorted secondDistinct name other otherMember] at read
  exact (Except.ok.inj read).symm

theorem texts_eq_of_sortKeys_eq (firstDistinct : (first.map Prod.fst).Nodup)
    (secondDistinct : (second.map Prod.fst).Nodup)
    (same : (Json.obj first).sortKeys = (Json.obj second).sortKeys) (name : PyStr)
    {values others : List PyStr} (member : (name, textList values) ∈ first)
    (otherMember : (name, textList others) ∈ second) : values = others := by
  rw [sortKeys, sortKeys, Json.obj.injEq] at same
  have read := textsFieldOf_sorted firstDistinct name values member
  rw [same, textsFieldOf_sorted secondDistinct name others otherMember] at read
  exact (Except.ok.inj read).symm

end Fields

section Arguments

variable {call other : Call} {payload otherPayload : Json}

theorem distinct_of_plain {fields : List (PyStr × Json)} (plain : Json.Plain (.obj fields)) :
    (fields.map Prod.fst).Nodup := by
  cases plain with
  | obj distinct all => exact distinct

def Call.kind : Call → PyStr
  | registerSpec .. => py "register"
  | supersedeSpec .. => py "supersede"
  | registerInstance .. => py "instance"
  | transitionInstance .. => py "transition"

theorem Call.exists_fields (isPayload : call.payload = .ok payload) :
    ∃ fields, payload = .obj fields ∧ Json.Plain payload ∧ (py "kind", .str call.kind) ∈ fields := by
  cases call with
  | registerSpec spec operationId refs =>
    simp only [Call.payload, bind_eq_ok, pure_eq_ok] at isPayload
    obtain ⟨bytes, -, rfl⟩ := isPayload
    exact ⟨_, rfl, plain_registerPayload _ _, List.mem_cons_self⟩
  | supersedeSpec spec expectedVersion expectedDigest operationId refs =>
    simp only [Call.payload, bind_eq_ok, pure_eq_ok] at isPayload
    obtain ⟨bytes, -, rfl⟩ := isPayload
    exact ⟨_, rfl, plain_supersedePayload _ _ _ _, List.mem_cons_self⟩
  | registerInstance instanceId agentId specVersion specDigest operationId refs =>
    obtain rfl := Except.ok.inj isPayload
    exact ⟨_, rfl, plain_instancePayload _ _ _ _ _, List.mem_cons_self⟩
  | transitionInstance instanceId toState operationId refs =>
    obtain rfl := Except.ok.inj isPayload
    exact ⟨_, rfl, plain_transitionPayload _ _ _, List.mem_cons_self⟩

theorem kind_eq_of_sortKeys_eq (isPayload : call.payload = .ok payload)
    (isOther : other.payload = .ok otherPayload)
    (same : payload.sortKeys = otherPayload.sortKeys) : call.kind = other.kind := by
  obtain ⟨fields, rfl, plain, member⟩ := Call.exists_fields isPayload
  obtain ⟨others, rfl, otherPlain, otherMember⟩ := Call.exists_fields isOther
  exact text_eq_of_sortKeys_eq (distinct_of_plain plain) (distinct_of_plain otherPlain) same
    (py "kind") member otherMember

theorem bytes_eq_or_collide {spec otherSpec : RegisteredSpec} {bytes otherBytes : Utf8Bytes}
    (written : spec.bytes = .ok bytes) (otherWritten : otherSpec.bytes = .ok otherBytes)
    (same : sha256 bytes = sha256 otherBytes) :
    spec.bytes = otherSpec.bytes ∨ Collide spec.bytes otherSpec.bytes := by
  by_cases sameBytes : bytes = otherBytes
  · left
    rw [written, otherWritten, sameBytes]
  · exact .inr ⟨bytes, otherBytes, written, otherWritten, sameBytes, same⟩

theorem sameArguments_or_collide (isPayload : call.payload = .ok payload)
    (isOther : other.payload = .ok otherPayload)
    (same : payload.sortKeys = otherPayload.sortKeys) :
    call.SameArguments other ∨ Collide call.specBytes other.specBytes := by
  have sameKind := kind_eq_of_sortKeys_eq isPayload isOther same
  cases call with
  | registerSpec spec operationId refs =>
    cases other with
    | registerSpec otherSpec otherId otherRefs =>
      simp only [Call.payload, bind_eq_ok, pure_eq_ok] at isPayload isOther
      obtain ⟨bytes, written, rfl⟩ := isPayload
      obtain ⟨otherBytes, otherWritten, rfl⟩ := isOther
      have distinct := distinct_of_plain (plain_registerPayload (spec.key bytes) refs)
      have otherDistinct :=
        distinct_of_plain (plain_registerPayload (otherSpec.key otherBytes) otherRefs)
      have sameDigest : sha256 bytes = sha256 otherBytes :=
        text_eq_of_sortKeys_eq distinct otherDistinct same (py "spec_digest")
          (by simp [RegisteredSpec.key]) (by simp [RegisteredSpec.key])
      have sameRefs : refs.items = otherRefs.items :=
        texts_eq_of_sortKeys_eq distinct otherDistinct same (py "evidence_refs")
          (by simp) (by simp)
      exact (bytes_eq_or_collide written otherWritten sameDigest).imp (⟨·, sameRefs⟩) id
    | _ => exact absurd sameKind (by simp only [Call.kind]; decide +kernel)
  | supersedeSpec spec expectedVersion expectedDigest operationId refs =>
    cases other with
    | supersedeSpec otherSpec otherVersion otherDigest otherId otherRefs =>
      simp only [Call.payload, bind_eq_ok, pure_eq_ok] at isPayload isOther
      obtain ⟨bytes, written, rfl⟩ := isPayload
      obtain ⟨otherBytes, otherWritten, rfl⟩ := isOther
      have distinct := distinct_of_plain
        (plain_supersedePayload (spec.key bytes) expectedVersion expectedDigest refs)
      have otherDistinct := distinct_of_plain
        (plain_supersedePayload (otherSpec.key otherBytes) otherVersion otherDigest otherRefs)
      have sameDigest : sha256 bytes = sha256 otherBytes :=
        text_eq_of_sortKeys_eq distinct otherDistinct same (py "spec_digest")
          (by simp [RegisteredSpec.key]) (by simp [RegisteredSpec.key])
      have sameVersion : expectedVersion = otherVersion :=
        text_eq_of_sortKeys_eq distinct otherDistinct same (py "expected_version")
          (by simp) (by simp)
      have sameExpected : expectedDigest = otherDigest :=
        text_eq_of_sortKeys_eq distinct otherDistinct same (py "expected_digest")
          (by simp) (by simp)
      have sameRefs : refs.items = otherRefs.items :=
        texts_eq_of_sortKeys_eq distinct otherDistinct same (py "evidence_refs")
          (by simp) (by simp)
      exact (bytes_eq_or_collide written otherWritten sameDigest).imp
        (⟨·, sameVersion, sameExpected, sameRefs⟩) id
    | _ => exact absurd sameKind (by simp only [Call.kind]; decide +kernel)
  | registerInstance instanceId agentId specVersion specDigest operationId refs =>
    cases other with
    | registerInstance otherId otherAgent otherVersion otherDigest otherOperation otherRefs =>
      obtain rfl := Except.ok.inj isPayload
      obtain rfl := Except.ok.inj isOther
      have distinct := distinct_of_plain
        (plain_instancePayload instanceId agentId specVersion specDigest refs)
      have otherDistinct := distinct_of_plain
        (plain_instancePayload otherId otherAgent otherVersion otherDigest otherRefs)
      left
      exact ⟨text_eq_of_sortKeys_eq distinct otherDistinct same (py "instance_id")
          (by simp) (by simp),
        text_eq_of_sortKeys_eq distinct otherDistinct same (py "agent_id") (by simp) (by simp),
        text_eq_of_sortKeys_eq distinct otherDistinct same (py "spec_version")
          (by simp) (by simp),
        text_eq_of_sortKeys_eq distinct otherDistinct same (py "spec_digest")
          (by simp) (by simp),
        texts_eq_of_sortKeys_eq distinct otherDistinct same (py "evidence_refs")
          (by simp) (by simp)⟩
    | _ => exact absurd sameKind (by simp only [Call.kind]; decide +kernel)
  | transitionInstance instanceId toState operationId refs =>
    cases other with
    | transitionInstance otherId otherState otherOperation otherRefs =>
      obtain rfl := Except.ok.inj isPayload
      obtain rfl := Except.ok.inj isOther
      have distinct := distinct_of_plain (plain_transitionPayload instanceId toState refs)
      have otherDistinct :=
        distinct_of_plain (plain_transitionPayload otherId otherState otherRefs)
      left
      exact ⟨text_eq_of_sortKeys_eq distinct otherDistinct same (py "instance_id")
          (by simp) (by simp),
        text_eq_of_sortKeys_eq distinct otherDistinct same (py "to_state") (by simp) (by simp),
        texts_eq_of_sortKeys_eq distinct otherDistinct same (py "evidence_refs")
          (by simp) (by simp)⟩
    | _ => exact absurd sameKind (by simp only [Call.kind]; decide +kernel)

/-- A call that succeeds under the operation of a logged call has its arguments, or the digests of
the two collide. -/
theorem sameArguments_of_perform {db : Database} {result : Result} (sound : Sound db)
    (savedIn : call.SavedIn db result) (sameId : other.operationId = call.operationId)
    {clock : Moment} {reply : Database × Result}
    (performed : other.perform clock db = .ok reply) :
    call.SameArguments other ∨ Collide call.payloadBytes other.payloadBytes ∨
      Collide call.specBytes other.specBytes := by
  obtain ⟨payload, otherPayload, operationDigest, isPayload, isOther, digested, otherDigested⟩ :=
    digest_of_perform sound savedIn sameId performed
  obtain ⟨bytes, written, rfl⟩ := digestOf_eq_ok.mp digested
  obtain ⟨otherBytes, otherWritten, same⟩ := digestOf_eq_ok.mp otherDigested
  by_cases sameBytes : bytes = otherBytes
  · subst sameBytes
    obtain ⟨-, -, plain, -⟩ := Call.exists_fields isPayload
    obtain ⟨-, -, otherPlain, -⟩ := Call.exists_fields isOther
    have sameSorted := plain.sortKeys_eq otherPlain (canonicalJson_eq_ok.mp written)
      (canonicalJson_eq_ok.mp otherWritten)
    exact (sameArguments_or_collide isPayload isOther sameSorted).imp id .inr
  · right
    left
    refine ⟨bytes, otherBytes, ?_, ?_, sameBytes, same.symm⟩
    · rw [Call.payloadBytes, isPayload, ok_bind, written]
    · rw [Call.payloadBytes, isOther, ok_bind, otherWritten]

end Arguments

/-! ### Runs -/

theorem sound_foldl {calls : List Timed} (fits : ∀ timed ∈ calls, timed.call.Fits) {db : Database}
    (sound : Sound db) :
    Sound (calls.foldl Timed.execute db) ∧ Extends db (calls.foldl Timed.execute db) ∧
      (calls.foldl Timed.execute db).specs.map SpecRow.key =
        db.specs.map SpecRow.key ++ acceptedBy db calls := by
  induction calls generalizing db with
  | nil => exact ⟨sound, .refl db, (List.append_nil _).symm⟩
  | cons timed calls ih =>
    rw [List.forall_mem_cons] at fits
    have step : Sound (timed.execute db) ∧ Extends db (timed.execute db) ∧
        (timed.execute db).specs.map SpecRow.key =
          db.specs.map SpecRow.key ++ timed.accepted db := by
      cases performed : timed.call.perform timed.clock db with
      | ok reply =>
        obtain ⟨after, result⟩ := reply
        obtain ⟨soundAfter, extended, -, specs⟩ := sound_perform sound fits.1 performed
        rw [Timed.execute, performed]
        exact ⟨soundAfter, extended, specs⟩
      | error error =>
        rw [Timed.execute, Timed.accepted, performed]
        exact ⟨sound, .refl db, (List.append_nil _).symm⟩
    obtain ⟨soundStep, extended, specs⟩ := step
    obtain ⟨soundAfter, extendedAfter, specsAfter⟩ := ih fits.2 soundStep
    refine ⟨soundAfter, extended.trans extendedAfter, ?_⟩
    rw [List.foldl_cons, specsAfter, specs, acceptedBy, List.append_assoc]

/-- What holds of an operation that was done, whatever was called since. -/
structure Remembered (call : Call) (result : Result) (db : Database) : Prop where
  repeats : ∀ clock, call.perform clock db = .ok (db, result)
  refuses : ∀ clock other, other.operationId = call.operationId → ¬ call.SameArguments other →
    (∃ error, other.perform clock db = .error error ∧ Timed.execute db ⟨clock, other⟩ = db) ∨
      Collide call.payloadBytes other.payloadBytes ∨ Collide call.specBytes other.specBytes

theorem remembered_of_savedIn {call : Call} {result : Result} {db : Database} (sound : Sound db)
    (savedIn : call.SavedIn db result) : Remembered call result db where
  repeats := perform_of_savedIn sound savedIn
  refuses := by
    intro clock other sameId different
    cases performed : other.perform clock db with
    | ok reply =>
      right
      exact (sameArguments_of_perform sound savedIn sameId performed).resolve_left different
    | error error =>
      left
      refine ⟨error, rfl, ?_⟩
      rw [Timed.execute, performed]

/-- In every run whose names are visible the tables fit together, the active specification of an
agent is the last one that was accepted, a store can be opened, a snapshot can be taken, what is
final stays, and an operation that was done is remembered. -/
theorem registry_run {registryId : PyStr}
    (visible : isBlank registryId = false ∧ hasNul registryId = false) {calls : List Timed}
    (fits : ∀ timed ∈ calls, timed.call.Fits) :
    Sound (runCalls registryId calls) ∧
      (runCalls registryId calls).specs.map SpecRow.key =
        acceptedBy (emptyDatabase registryId) calls ∧
      openStore registryId (runCalls registryId calls) = .ok () ∧
      snapshot (runCalls registryId calls) = .ok (runCalls registryId calls).view ∧
      ∀ later : List Timed, (∀ timed ∈ later, timed.call.Fits) →
        Extends (runCalls registryId calls)
          (later.foldl Timed.execute (runCalls registryId calls)) ∧
        ∀ (timed : Timed) result after, timed.call.Fits →
          timed.call.perform timed.clock (runCalls registryId calls) = .ok (after, result) →
          Remembered timed.call result (later.foldl Timed.execute after) := by
  obtain ⟨sound, extended, specs⟩ : Sound (runCalls registryId calls) ∧
      Extends (emptyDatabase registryId) (runCalls registryId calls) ∧ _ :=
    sound_foldl fits (sound_emptyDatabase registryId)
  have named : (runCalls registryId calls).registryId = registryId := extended.registryId
  have nonempty : (runCalls registryId calls).registryId ≠ [] := by
    rw [named]
    rintro rfl
    exact nomatch visible.1
  refine ⟨sound, specs, ?_, ?_, ?_⟩
  · have opened := openStore_of_sound sound nonempty
    rwa [named] at opened
  · apply snapshot_of_sound sound
    · rw [named]
      exact visible.1
    · rw [named]
      exact visible.2
  · intro later laterFits
    refine ⟨(sound_foldl laterFits sound).2.1, ?_⟩
    intro timed result after fitting performed
    obtain ⟨soundAfter, -, ⟨payload, isPayload, saved⟩, -⟩ := sound_perform sound fitting performed
    obtain ⟨soundLater, extendedLater, -⟩ := sound_foldl laterFits soundAfter
    exact remembered_of_savedIn soundLater ⟨payload, isPayload, saved.mono extendedLater.operations⟩

/-! ### A blank name -/

def noon : Moment :=
  .aware ⟨2020, 1, 1, 12, 0, 0, 0, by decide⟩ 0

def surveyor (agentId : PyStr) : RegisteredSpec where
  agent := {
    agentId := agentId
    version := py "1"
    role := py "r"
    mission := py "m"
    capabilities := [py "c"]
    authorityCeiling := py "none"
    executionDomain := py "d"
    observabilityEvents := []
    memoryRead := false
    memoryWrite := false
    memoryPolicyIds := []
    maxRuntimeSeconds := 1
    maxCostUnits := .finite 0
    riskClass := py "GREEN"
    providerClass := py "p"
    isVerifier := false
    processProfile := none }
  cost := .int 0

def registration (agentId : PyStr) : Timed :=
  ⟨noon, .registerSpec (surveyor agentId) (py "o") ⟨true, [py "e"]⟩⟩

theorem registry_run_survey :
    Sound (runCalls (py "r") [registration (py "a")]) ∧
      (runCalls (py "r") [registration (py "a")]).specs.map SpecRow.key =
        acceptedBy (emptyDatabase (py "r")) [registration (py "a")] ∧
      openStore (py "r") (runCalls (py "r") [registration (py "a")]) = .ok () ∧
      snapshot (runCalls (py "r") [registration (py "a")]) =
        .ok (runCalls (py "r") [registration (py "a")]).view ∧
      ∀ later : List Timed, (∀ timed ∈ later, timed.call.Fits) →
        Extends (runCalls (py "r") [registration (py "a")])
          (later.foldl Timed.execute (runCalls (py "r") [registration (py "a")])) ∧
        ∀ (timed : Timed) result after, timed.call.Fits →
          timed.call.perform timed.clock (runCalls (py "r") [registration (py "a")]) =
            .ok (after, result) →
          Remembered timed.call result (later.foldl Timed.execute after) := by
  apply registry_run (by decide)
  simp only [List.forall_mem_singleton, registration, Call.Fits, surveyor]
  decide

theorem not_snapshot_of_blank {db : Database} {row : ActiveRow} (member : row ∈ db.active)
    (blank : isBlank row.agentId = true) (view : AgentRegistrySnapshot) :
    snapshot db ≠ .ok view := by
  intro taken
  simp only [snapshot, AgentRegistrySnapshot.validate, bind_eq_ok] at taken
  obtain ⟨_, -, _, ⟨_, -, _, -, _, keys, -⟩, -⟩ := taken
  have valid := forM_eq_ok.mp keys _
    (List.mem_map.mpr ⟨row, (List.mem_insertionSort _).mpr member, rfl⟩)
  simp only [AgentSpecKey.validate, bind_eq_ok, text_eq_ok] at valid
  obtain ⟨_, ⟨visible, -⟩, -⟩ := valid
  rw [blank] at visible
  cases visible

/-- A blank name is accepted, and then no snapshot can be taken. -/
theorem not_snapshot_of_blank_registration :
    ¬ ∀ calls, ∃ view, snapshot (runCalls (py "r") calls) = .ok view := by
  intro taken
  obtain ⟨view, isView⟩ := taken [registration (py " ")]
  have active : ∃ row ∈ (runCalls (py "r") [registration (py " ")]).active,
      isBlank row.agentId = true := by
    decide +kernel
  obtain ⟨row, member, blank⟩ := active
  exact not_snapshot_of_blank member blank view isView

end AgentRegistry

end CyberLion
