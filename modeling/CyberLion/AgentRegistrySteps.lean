import CyberLion.AgentRegistryHistory

/-!
# What an operation of the agent registry keeps

The tables of specifications, of active specifications and of instances fit together and fit
the events, whichever operation is done.
-/

namespace CyberLion

namespace AgentRegistry

open PyLib Json
open FleetCoordination (canonicalJson canonicalJson_eq_ok textList optionalText zeroDigest
  plain_textList sortKeys_textList isEncodable_of_mem_str isEncodable_of_mem_textList)

/-! ### The invariant -/

def SpecRow.key (row : SpecRow) : AgentSpecKey :=
  ⟨row.agentId, row.version, row.specDigest⟩

def ActiveRow.key (row : ActiveRow) : AgentSpecKey :=
  ⟨row.agentId, row.version, row.specDigest⟩

def InstanceRow.key (row : InstanceRow) : AgentSpecKey :=
  ⟨row.agentId, row.specVersion, row.specDigest⟩

def lastSpec (agentId : PyStr) (specs : List SpecRow) : Option SpecRow :=
  (specs.filter fun row => row.agentId = agentId).getLast?

def EventRow.moves (instanceId : PyStr) (event : EventRow) : Bool :=
  event.eventType = .instanceTransitioned && event.instanceId = some instanceId

def transitions (instanceId : PyStr) (events : List EventRow) : Nat :=
  events.countP (EventRow.moves instanceId)

/-- A row whose texts can be written and which the contract accepts. -/
structure InstanceRow.Readable (row : InstanceRow) : Prop where
  texts : ∀ value ∈ [row.instanceId, row.agentId, row.specVersion, row.specDigest, row.createdAt,
    row.updatedAt] ++ row.evidenceRefs, isEncodable value = true
  valid : row.read.validate = .ok ()

structure Sound (db : Database) : Prop where
  pairs : (db.specs.map fun row => (row.agentId, row.version)).Nodup
  keys : ∀ row ∈ db.specs, row.key.validate = .ok ()
  agents : (db.active.map ActiveRow.agentId).Nodup
  latest : ∀ row ∈ db.active, (lastSpec row.agentId db.specs).map SpecRow.key = some row.key
  covered : ∀ spec ∈ db.specs, ∃ row ∈ db.active, row.agentId = spec.agentId
  bound : ∀ row ∈ db.instances, row.key ∈ db.specs.map SpecRow.key
  ids : (db.instances.map InstanceRow.instanceId).Nodup
  readable : ∀ row ∈ db.instances, row.Readable
  counted : ∀ row ∈ db.instances, row.generation = transitions row.instanceId db.events
  moved : ∀ event ∈ db.events, event.eventType = .instanceTransitioned →
    ∃ row ∈ db.instances, event.instanceId = some row.instanceId
  revision : db.revision = db.events.length
  chained : Chained db
  operations : (db.operations.map OperationRow.operationId).Nodup

theorem sound_emptyDatabase (registryId : PyStr) : Sound (emptyDatabase registryId) where
  pairs := List.nodup_nil
  keys := fun _ member => absurd member List.not_mem_nil
  agents := List.nodup_nil
  latest := fun _ member => absurd member List.not_mem_nil
  covered := fun _ member => absurd member List.not_mem_nil
  bound := fun _ member => absurd member List.not_mem_nil
  ids := List.nodup_nil
  readable := fun _ member => absurd member List.not_mem_nil
  counted := fun _ member => absurd member List.not_mem_nil
  moved := fun _ member => absurd member List.not_mem_nil
  revision := rfl
  chained := rfl
  operations := List.nodup_nil

structure Extends (db after : Database) : Prop where
  registryId : after.registryId = db.registryId
  specs : db.specs <+: after.specs
  operations : db.operations <+: after.operations
  final : ∀ row ∈ db.instances, row.state.isTerminal = true → row ∈ after.instances

theorem Extends.refl (db : Database) : Extends db db :=
  ⟨rfl, List.prefix_rfl, List.prefix_rfl, fun _ member _ => member⟩

theorem Extends.trans {first second third : Database} (left : Extends first second)
    (right : Extends second third) : Extends first third :=
  ⟨right.registryId.trans left.registryId, left.specs.trans right.specs,
    left.operations.trans right.operations,
    fun row member final => right.final row (left.final row member final) final⟩

theorem lastSpec_append (agentId : PyStr) (specs : List SpecRow) (row : SpecRow) :
    lastSpec agentId (specs ++ [row]) =
      if row.agentId = agentId then some row else lastSpec agentId specs := by
  rw [lastSpec, List.filter_append]
  split
  · rename_i same
    rw [List.filter_singleton, decide_eq_true same, cond_true, List.getLast?_concat]
  · rename_i different
    rw [List.filter_singleton, decide_eq_false different, cond_false, List.append_nil, lastSpec]

theorem transitions_append (instanceId : PyStr) (events : List EventRow) (event : EventRow) :
    transitions instanceId (events ++ [event]) =
      transitions instanceId events + if event.moves instanceId = true then 1 else 0 := by
  rw [transitions, List.countP_append, List.countP_singleton, transitions]

/-! ### Specifications -/

/-- What making a specification the active one does to the table. -/
structure Activates (row : ActiveRow) (before after : List ActiveRow) : Prop where
  agents : (before.map ActiveRow.agentId).Nodup → (after.map ActiveRow.agentId).Nodup
  rows : ∀ other ∈ after, other.key = row.key ∨ other ∈ before ∧ other.agentId ≠ row.agentId
  kept : ∀ other ∈ before, ∃ same ∈ after, same.agentId = other.agentId
  present : ∃ other ∈ after, other.agentId = row.agentId

theorem activates_append {row : ActiveRow} {before : List ActiveRow}
    (free : ∀ other ∈ before, other.agentId ≠ row.agentId) :
    Activates row before (before ++ [row]) where
  agents := by
    intro unique
    rw [List.map_append, List.map_singleton]
    apply List.nodup_append.mpr
    refine ⟨unique, List.nodup_singleton _, ?_⟩
    simp only [List.mem_map, List.mem_singleton]
    rintro _ ⟨other, member, rfl⟩ _ rfl
    exact free other member
  rows := by
    intro other member
    rw [List.mem_append, List.mem_singleton] at member
    rcases member with old | rfl
    · exact .inr ⟨old, free other old⟩
    · exact .inl rfl
  kept := fun other member => ⟨other, List.mem_append_left _ member, rfl⟩
  present := ⟨row, by simp, rfl⟩

theorem activates_updateWhere {row : ActiveRow} {before : List ActiveRow}
    (known : ∃ other ∈ before, other.agentId = row.agentId) :
    Activates row before
      (updateWhere (fun other => other.agentId = row.agentId) row.moved before) where
  agents := by
    intro unique
    rw [map_updateWhere ActiveRow.agentId]
    · exact unique
    · exact fun _ _ => rfl
  rows := by
    intro other member
    obtain ⟨old, isOld, rfl⟩ := mem_updateWhere.mp member
    by_cases same : old.agentId = row.agentId
    · left
      simp [same, ActiveRow.moved, ActiveRow.key]
    · right
      simp [same, isOld]
  kept := by
    intro other member
    refine ⟨_, mem_updateWhere.mpr ⟨other, member, rfl⟩, ?_⟩
    split <;> rfl
  present := by
    obtain ⟨other, member, same⟩ := known
    refine ⟨_, mem_updateWhere.mpr ⟨other, member, rfl⟩, ?_⟩
    rw [if_pos (by simpa using same)]
    exact same

theorem hasSpec_eq_false {db : Database} {agentId version : PyStr}
    (absent : ¬ db.hasSpec agentId version = true) :
    ∀ row ∈ db.specs, (row.agentId, row.version) ≠ (agentId, version) := by
  intro row member same
  apply absent
  rw [Database.hasSpec, List.any_eq_true]
  exact ⟨row, member, by simpa using same⟩

section Bind

variable {db after : Database} {eventType : EventType} {payload : Json}
  {operationId operationDigest : PyStr} {spec : RegisteredSpec} {bytes : Utf8Bytes}
  {clock : Moment} {activate : ActiveRow → Except PyError (List ActiveRow)} {key : AgentSpecKey}

theorem bindSpec_cases
    (returned : bindSpec eventType payload operationId operationDigest spec bytes clock activate
      db = .ok (after, key)) :
    key = spec.key bytes ∧ ∃ row newest active event operation observedAt,
      row.key = key ∧ newest.key = key ∧ activate newest = .ok active ∧
        Committed { db with specs := db.specs ++ [row], active } after eventType key.agentId none
          payload operationId operationDigest (.obj key.fields) observedAt event operation := by
  simp only [bindSpec, bind_eq_ok, insertRow_eq_ok, pure_eq_ok, Prod.mk.injEq] at returned
  obtain ⟨observedAt, -, specs, ⟨-, rfl⟩, active, activated, _, committed, rfl, rfl⟩ := returned
  obtain ⟨event, operation, isCommitted⟩ := commit_cases committed
  exact ⟨rfl, _, _, active, event, operation, observedAt, rfl, rfl, activated, isCommitted⟩

theorem sound_bindSpec (sound : Sound db)
    (returned : bindSpec eventType payload operationId operationDigest spec bytes clock activate
      db = .ok (after, key))
    (notMove : eventType ≠ .instanceTransitioned) (plain : Json.Plain payload)
    (valid : key.validate = .ok ()) (absent : ¬ db.hasSpec key.agentId key.version = true)
    (activates : ∀ row active, row.key = key → activate row = .ok active →
      Activates row db.active active) :
    Sound after ∧ Extends db after ∧
      after.specs.map SpecRow.key = db.specs.map SpecRow.key ++ [key] := by
  obtain ⟨-, row, newest, active, event, operation, observedAt, rowKey, newestKey, activated,
    committed⟩ := bindSpec_cases returned
  have activation := activates newest active newestKey activated
  have fresh := hasSpec_eq_false absent
  have rowAgent : row.agentId = key.agentId := congrArg AgentSpecKey.agentId rowKey
  have rowVersion : row.version = key.version := congrArg AgentSpecKey.version rowKey
  have newestAgent : newest.agentId = key.agentId := congrArg AgentSpecKey.agentId newestKey
  have still : ∀ instanceId, event.moves instanceId = false := by
    intro instanceId
    simp [EventRow.moves, committed.ofType, notMove]
  have chained := committed.chained plain sound.chained
  have tables := committed.tables
  subst tables
  refine ⟨⟨?_, ?_, activation.agents sound.agents, ?_, ?_, ?_, sound.ids, sound.readable, ?_, ?_,
    ?_, chained, ?_⟩, ⟨rfl, List.prefix_append _ _, List.prefix_append _ _,
    fun _ member _ => member⟩, ?_⟩
  · rw [List.map_append, List.map_singleton, rowAgent, rowVersion]
    apply List.nodup_append.mpr
    refine ⟨sound.pairs, List.nodup_singleton _, ?_⟩
    simp only [List.mem_map, List.mem_singleton]
    rintro _ ⟨other, member, rfl⟩ _ rfl
    exact fresh other member
  · simp only [List.forall_mem_append, List.forall_mem_singleton]
    exact ⟨sound.keys, by rw [rowKey]; exact valid⟩
  · intro other member
    rw [lastSpec_append]
    rcases activation.rows other member with same | ⟨old, different⟩
    · have sameAgent : other.agentId = newest.agentId := congrArg AgentSpecKey.agentId same
      rw [if_pos (by rw [rowAgent, sameAgent, newestAgent]), Option.map_some, rowKey, same,
        newestKey]
    · rw [if_neg (by rw [rowAgent, ← newestAgent]; exact different.symm)]
      exact sound.latest other old
  · simp only [List.forall_mem_append, List.forall_mem_singleton]
    constructor
    · intro other member
      obtain ⟨known, isActive, same⟩ := sound.covered other member
      obtain ⟨kept, isKept, sameAgent⟩ := activation.kept known isActive
      exact ⟨kept, isKept, sameAgent.trans same⟩
    · rw [rowAgent, ← newestAgent]
      exact activation.present
  · intro other member
    rw [List.map_append]
    exact List.mem_append_left _ (sound.bound other member)
  · intro other member
    rw [transitions_append, still, if_neg Bool.false_ne_true]
    exact sound.counted other member
  · simp only [List.forall_mem_append, List.forall_mem_singleton]
    refine ⟨sound.moved, fun isMove => ?_⟩
    rw [committed.ofType] at isMove
    exact absurd isMove notMove
  · rw [List.length_append, List.length_singleton, sound.revision]
  · rw [List.map_append, List.map_singleton, committed.ofOperation]
    apply List.nodup_append.mpr
    refine ⟨sound.operations, List.nodup_singleton _, ?_⟩
    simp only [List.mem_map, List.mem_singleton]
    rintro _ ⟨other, member, rfl⟩ _ rfl
    exact committed.unknown other member
  · rw [List.map_append, List.map_singleton, rowKey]

end Bind

/-! ### Instances -/

section Commit

variable {db after : Database} {instances : List InstanceRow} {eventType : EventType}
  {agentId instanceId : PyStr} {payload result : Json}
  {operationId operationDigest observedAt : PyStr} {event : EventRow} {operation : OperationRow}

theorem Committed.moves_iff
    (committed : Committed { db with instances } after eventType agentId (some instanceId) payload
      operationId operationDigest result observedAt event operation) (other : PyStr) :
    event.moves other = true ↔ eventType = .instanceTransitioned ∧ instanceId = other := by
  simp [EventRow.moves, committed.ofType, committed.ofInstance]

theorem sound_commitInstance (sound : Sound db)
    (committed : Committed { db with instances } after eventType agentId (some instanceId) payload
      operationId operationDigest result observedAt event operation)
    (plain : Json.Plain payload) (ids : (instances.map InstanceRow.instanceId).Nodup)
    (bound : ∀ row ∈ instances, row.key ∈ db.specs.map SpecRow.key)
    (readable : ∀ row ∈ instances, row.Readable)
    (counted : ∀ row ∈ instances, row.generation = transitions row.instanceId db.events +
      if event.moves row.instanceId = true then 1 else 0)
    (present : ∃ row ∈ instances, instanceId = row.instanceId)
    (kept : ∀ row ∈ db.instances, ∃ same ∈ instances, row.instanceId = same.instanceId) :
    Sound after := by
  have chained := committed.chained plain sound.chained
  have tables := committed.tables
  subst tables
  refine ⟨sound.pairs, sound.keys, sound.agents, sound.latest, sound.covered, bound, ids, readable,
    ?_, ?_, ?_, chained, ?_⟩
  · intro row member
    rw [transitions_append]
    exact counted row member
  · simp only [List.forall_mem_append, List.forall_mem_singleton]
    constructor
    · intro other member isMove
      obtain ⟨row, isRow, named⟩ := sound.moved other member isMove
      obtain ⟨same, isSame, sameId⟩ := kept row isRow
      exact ⟨same, isSame, by rw [named, sameId]⟩
    · intro _
      obtain ⟨row, isRow, named⟩ := present
      exact ⟨row, isRow, by rw [committed.ofInstance, named]⟩
  · rw [List.length_append, List.length_singleton, sound.revision]
  · rw [List.map_append, List.map_singleton, committed.ofOperation]
    apply List.nodup_append.mpr
    refine ⟨sound.operations, List.nodup_singleton _, ?_⟩
    simp only [List.mem_map, List.mem_singleton]
    rintro _ ⟨other, member, rfl⟩ _ rfl
    exact committed.unknown other member

end Commit

def AgentInstance.Encodable (value : AgentInstance) : Prop :=
  ∀ text ∈ [value.instanceId, value.agentId, value.specVersion, value.specDigest, value.createdAt,
    value.updatedAt] ++ value.evidenceRefs.items, isEncodable text = true

theorem AgentInstance.read_row {value : AgentInstance} (valid : value.validate = .ok ())
    (encodable : value.Encodable) : value.row.read = value := by
  have kept : value.evidenceRefs.items.map (decodeText true) = value.evidenceRefs.items := by
    rw [List.map_congr_left (g := id) fun text member => ?_, List.map_id]
    exact isSolid_of_isEncodable (encodable text (List.mem_append_right _ member))
  rw [InstanceRow.read, AgentInstance.row]
  simp only [kept]
  rw [← AgentInstance.isTuple_of_validate valid]

theorem AgentInstance.readable_row {value : AgentInstance} (valid : value.validate = .ok ())
    (encodable : value.Encodable) : value.row.Readable :=
  ⟨encodable, by rw [AgentInstance.read_row valid encodable, valid]⟩

theorem AgentInstance.fieldlike {value : AgentInstance} (encodable : value.Encodable) :
    ∀ field ∈ value.fields, Fieldlike field.2 := by
  have refs : ∀ text ∈ value.evidenceRefs.items, isEncodable text = true :=
    fun text member => encodable text (List.mem_append_right _ member)
  have state : isEncodable value.state.text = true := by
    cases value.state <;> decide +kernel
  simp only [AgentInstance.Encodable, List.forall_mem_append, List.forall_mem_cons] at encodable
  obtain ⟨⟨instanceId, agentId, specVersion, specDigest, createdAt, updatedAt, -⟩, -⟩ := encodable
  simp only [AgentInstance.fields, List.forall_mem_cons]
  exact ⟨.text instanceId, .text agentId, .text specVersion, .text specDigest, .text state,
    .count _, .text createdAt, .text updatedAt, .texts refs,
    fun _ member => absurd member List.not_mem_nil⟩

theorem AgentInstance.fields_keyed (value : AgentInstance) :
    (value.fields.map Prod.fst).Nodup ∧ ∀ field ∈ value.fields, IsSolid field.1 := by
  have names : value.fields.map Prod.fst =
      ["instance_id", "agent_id", "spec_version", "spec_digest", "state", "generation",
        "created_at", "updated_at", "evidence_refs"].map py := rfl
  constructor
  · rw [names]
    exact nodup_py (by decide)
  · intro field member
    have isName : field.1 ∈ _ := List.mem_map_of_mem member
    rw [names] at isName
    exact isSolid_of_isEncodable (isEncodable_of_mem_py isName)

theorem AgentSpecKey.fields_keyed (key : AgentSpecKey) :
    (key.fields.map Prod.fst).Nodup ∧ ∀ field ∈ key.fields, IsSolid field.1 := by
  have names : key.fields.map Prod.fst = ["agent_id", "version", "spec_digest"].map py := rfl
  constructor
  · rw [names]
    exact nodup_py (by decide)
  · intro field member
    have isName : field.1 ∈ _ := List.mem_map_of_mem member
    rw [names] at isName
    exact isSolid_of_isEncodable (isEncodable_of_mem_py isName)

/-! ### Payloads -/

theorem plain_registerPayload (key : AgentSpecKey) (refs : EvidenceRefs) :
    Json.Plain (registerPayload key refs) := by
  apply Plain.obj
  · exact @nodup_py ["kind", "agent_id", "version", "spec_digest", "evidence_refs"] (by decide)
  · simp

theorem plain_supersedePayload (key : AgentSpecKey) (expectedVersion expectedDigest : PyStr)
    (refs : EvidenceRefs) :
    Json.Plain (supersedePayload key expectedVersion expectedDigest refs) := by
  apply Plain.obj
  · exact @nodup_py ["kind", "agent_id", "expected_version", "expected_digest",
      "version", "spec_digest", "evidence_refs"] (by decide)
  · simp

theorem plain_instancePayload (instanceId agentId specVersion specDigest : PyStr)
    (refs : EvidenceRefs) :
    Json.Plain (instancePayload instanceId agentId specVersion specDigest refs) := by
  apply Plain.obj
  · exact @nodup_py ["kind", "instance_id", "agent_id", "spec_version",
      "spec_digest", "evidence_refs"] (by decide)
  · simp

theorem plain_transitionPayload (instanceId toState : PyStr) (refs : EvidenceRefs) :
    Json.Plain (transitionPayload instanceId toState refs) := by
  apply Plain.obj
  · exact @nodup_py ["kind", "instance_id", "to_state", "evidence_refs"] (by decide)
  · simp

structure Done {α : Type} (db after : Database) (operationId : PyStr) (payload : Json)
    (replay : Json → Except PyError α) (result : α) : Prop where
  unknown : ∀ row ∈ db.operations, row.operationId ≠ operationId
  sound : Sound after
  extended : Extends db after
  saved : Saved after operationId payload replay result

/-! ### Operations on specifications -/

section Spec

variable {db after : Database} {operationId operationDigest : PyStr} {spec : RegisteredSpec}
  {bytes : Utf8Bytes} {refs : EvidenceRefs} {clock : Moment} {key : AgentSpecKey}

theorem AgentSpecKey.fieldlike (agentId : isEncodable key.agentId = true)
    (version : isEncodable key.version = true) (specDigest : isEncodable key.specDigest = true) :
    ∀ field ∈ key.fields, Fieldlike field.2 := by
  simp only [AgentSpecKey.fields, List.forall_mem_cons]
  exact ⟨.text agentId, .text version, .text specDigest,
    fun _ member => absurd member List.not_mem_nil⟩

theorem saved_bindSpec {eventType : EventType} {payload : List (PyStr × Json)}
    {activate : ActiveRow → Except PyError (List ActiveRow)}
    (returned : bindSpec eventType (.obj payload) operationId operationDigest spec bytes clock
      activate db = .ok (after, key))
    (bound : bindText operationId = .ok ())
    (digested : digestOf (.obj payload) = .ok operationDigest)
    (valid : key.validate = .ok ()) (agentId : (py "agent_id", .str key.agentId) ∈ payload)
    (version : (py "version", .str key.version) ∈ payload)
    (specDigest : (py "spec_digest", .str key.specDigest) ∈ payload) :
    Saved after operationId (.obj payload) AgentSpecKey.replay key := by
  obtain ⟨-, row, newest, active, event, operation, observedAt, -, -, -, committed⟩ :=
    bindSpec_cases returned
  obtain ⟨payloadBytes, written, -⟩ := digestOf_eq_ok.mp digested
  have fieldlike : ∀ field ∈ key.fields, Fieldlike field.2 := AgentSpecKey.fieldlike
    (isEncodable_of_mem_str _ agentId written)
    (isEncodable_of_mem_str _ version written) (isEncodable_of_mem_str _ specDigest written)
  exact committed.isSaved bound digested (List.cons_ne_nil _ _) key.fields_keyed.1
    key.fields_keyed.2 fieldlike (AgentSpecKey.replay_sorted valid)

theorem done_registerWork (sound : Sound db)
    (bound : bindText operationId = .ok ())
    (digested : digestOf (registerPayload (spec.key bytes) refs) = .ok operationDigest)
    (valid : (spec.key bytes).validate = .ok ())
    (returned : registerWork spec bytes operationId refs clock db operationDigest =
      .ok (after, key)) :
    Done db after operationId (registerPayload (spec.key bytes) refs) AgentSpecKey.replay key ∧
      after.specs.map SpecRow.key = db.specs.map SpecRow.key ++ [key] := by
  simp only [registerWork, bind_eq_ok, raiseIf_eq_ok] at returned
  obtain ⟨_, -, _, inactive, _, absent, isBound⟩ := returned
  obtain ⟨rfl, _, _, _, _, _, _, -, -, -, committed⟩ := bindSpec_cases isBound
  have free : ∀ other ∈ db.active, other.agentId ≠ spec.agent.agentId := by
    intro other member same
    exact inactive (List.any_eq_true.mpr ⟨other, member, by simpa using same⟩)
  obtain ⟨soundAfter, extended, specs⟩ := sound_bindSpec sound isBound (by decide)
    (plain_registerPayload _ refs) valid absent fun row active rowKey activated => by
      obtain ⟨-, rfl⟩ := insertRow_eq_ok.mp activated
      apply activates_append
      rw [show row.agentId = spec.agent.agentId from congrArg AgentSpecKey.agentId rowKey]
      exact free
  refine ⟨⟨committed.unknown, soundAfter, extended, ?_⟩, specs⟩
  exact saved_bindSpec isBound bound digested valid (by simp) (by simp) (by simp)

theorem done_supersedeWork {expectedVersion expectedDigest : PyStr} (sound : Sound db)
    (bound : bindText operationId = .ok ())
    (digested : digestOf (supersedePayload (spec.key bytes) expectedVersion expectedDigest refs) =
      .ok operationDigest)
    (valid : (spec.key bytes).validate = .ok ())
    (returned : supersedeWork spec bytes expectedVersion expectedDigest operationId refs clock db
      operationDigest = .ok (after, key)) :
    Done db after operationId
        (supersedePayload (spec.key bytes) expectedVersion expectedDigest refs) AgentSpecKey.replay
        key ∧
      after.specs.map SpecRow.key = db.specs.map SpecRow.key ++ [key] := by
  simp only [supersedeWork, bind_eq_ok, raiseIf_eq_ok, not_not, ne_eq, Option.map_eq_some_iff]
    at returned
  obtain ⟨_, ⟨current, isCurrent, -⟩, _, absent, isBound⟩ := returned
  obtain ⟨rfl, _, _, _, _, _, _, -, -, -, committed⟩ := bindSpec_cases isBound
  have known : ∃ other ∈ db.active, other.agentId = spec.agent.agentId :=
    ⟨current, List.mem_of_find?_eq_some isCurrent, by simpa using List.find?_some isCurrent⟩
  obtain ⟨soundAfter, extended, specs⟩ := sound_bindSpec sound isBound (by decide)
    (plain_supersedePayload _ _ _ refs) valid absent fun row active rowKey activated => by
      obtain rfl := Except.ok.inj activated
      apply activates_updateWhere
      rw [show row.agentId = spec.agent.agentId from congrArg AgentSpecKey.agentId rowKey]
      exact known
  refine ⟨⟨committed.unknown, soundAfter, extended, ?_⟩, specs⟩
  exact saved_bindSpec isBound bound digested valid (by simp) (by simp) (by simp)

end Spec

/-! ### Operations on instances -/

section Instance

variable {db after : Database} {operationId operationDigest instanceId : PyStr}
  {refs : EvidenceRefs} {clock : Moment} {value : AgentInstance}

theorem done_instanceWork {agentId specVersion specDigest : PyStr} (sound : Sound db)
    (bound : bindText operationId = .ok ())
    (digested : digestOf (instancePayload instanceId agentId specVersion specDigest refs) =
      .ok operationDigest)
    (returned : instanceWork instanceId agentId specVersion specDigest operationId refs clock db
      operationDigest = .ok (after, value)) :
    Done db after operationId (instancePayload instanceId agentId specVersion specDigest refs)
      AgentInstance.replay value ∧ after.specs = db.specs := by
  simp only [instanceWork, bind_eq_ok, raiseIf_eq_ok, not_not, ne_eq, insertRow_eq_ok, pure_eq_ok,
    Prod.mk.injEq, Option.map_eq_some_iff] at returned
  obtain ⟨_, ⟨known, isKnown, sameDigest⟩, observedAt, read, _, valid, instances, ⟨free, rfl⟩, _,
    committed, rfl, rfl⟩ := returned
  obtain ⟨event, operation, isCommitted⟩ := commit_cases committed
  obtain ⟨time, rfl⟩ := now_eq_ok read
  obtain ⟨payloadBytes, written, -⟩ := digestOf_eq_ok.mp digested
  have encodable : AgentInstance.Encodable ⟨instanceId, agentId, specVersion, specDigest,
      .registered, 0, time.isoformatUtc, time.isoformatUtc, refs⟩ := by
    have stamp := isEncodable_isoformatUtc time
    simp only [AgentInstance.Encodable, List.forall_mem_append, List.forall_mem_cons]
    refine ⟨⟨isEncodable_of_mem_str (py "instance_id") (by simp) written,
      isEncodable_of_mem_str (py "agent_id") (by simp) written,
      isEncodable_of_mem_str (py "spec_version") (by simp) written,
      isEncodable_of_mem_str (py "spec_digest") (by simp) written, stamp, stamp,
      fun _ member => absurd member List.not_mem_nil⟩,
      isEncodable_of_mem_textList (py "evidence_refs") (by simp) written⟩
  have knownPair : known.agentId = agentId ∧ known.version = specVersion := by
    simpa using List.find?_some isKnown
  have newId : ∀ row ∈ db.instances, row.instanceId ≠ instanceId :=
    fun row member => of_decide_eq_false (free row member)
  have still : event.moves instanceId = false := by
    simp [EventRow.moves, isCommitted.ofType]
  have unmoved : transitions instanceId db.events = 0 := by
    rw [transitions, List.countP_eq_zero]
    intro other member moves
    simp only [EventRow.moves, Bool.and_eq_true, decide_eq_true_eq] at moves
    obtain ⟨row, isRow, named⟩ := sound.moved other member moves.1
    exact newId row isRow (Option.some.inj (named.symm.trans moves.2))
  refine ⟨⟨isCommitted.unknown, ?_, ?_, ?_⟩, by rw [isCommitted.tables]⟩
  · apply sound_commitInstance sound isCommitted (plain_instancePayload _ _ _ _ refs)
    · rw [List.map_append, List.map_singleton]
      apply List.nodup_append.mpr
      refine ⟨sound.ids, List.nodup_singleton _, ?_⟩
      simp only [List.mem_map, List.mem_singleton]
      rintro _ ⟨row, member, rfl⟩ _ rfl
      exact newId row member
    · simp only [List.forall_mem_append, List.forall_mem_singleton]
      refine ⟨sound.bound, List.mem_map.mpr ⟨known, List.mem_of_find?_eq_some isKnown, ?_⟩⟩
      rw [SpecRow.key, knownPair.1, knownPair.2, sameDigest]
      rfl
    · simp only [List.forall_mem_append, List.forall_mem_singleton]
      exact ⟨sound.readable, AgentInstance.readable_row valid encodable⟩
    · simp only [List.forall_mem_append, List.forall_mem_singleton]
      constructor
      · intro row member
        rw [if_neg (by simp [EventRow.moves, isCommitted.ofType])]
        exact sound.counted row member
      · simp only [AgentInstance.row, still, unmoved]
        rfl
    · exact ⟨_, List.mem_append_right _ (List.mem_singleton_self _), rfl⟩
    · exact fun row member => ⟨row, List.mem_append_left _ member, rfl⟩
  · rw [isCommitted.tables]
    exact ⟨rfl, List.prefix_rfl, List.prefix_append _ _,
      fun row member _ => List.mem_append_left _ member⟩
  · exact isCommitted.isSaved bound digested (List.cons_ne_nil _ _) (AgentInstance.fields_keyed _).1
      (AgentInstance.fields_keyed _).2 (AgentInstance.fieldlike encodable)
      (AgentInstance.replay_sorted valid)

theorem transition_eq_ok {toState : PyStr} {row : InstanceRow} {state : InstanceState}
    (found : db.transition instanceId toState = .ok (row, state)) :
    row ∈ db.instances ∧ row.instanceId = instanceId ∧ state ∈ row.state.allowed := by
  unfold Database.transition at found
  split at found
  · exact nomatch found
  · rename_i isRow
    split at found
    · exact nomatch found
    · rename_i isState
      obtain ⟨rfl, rfl⟩ := Prod.mk.inj (Except.ok.inj found)
      exact ⟨List.mem_of_find?_eq_some isRow, by simpa using List.find?_some isRow,
        List.mem_of_find?_eq_some isState⟩

theorem not_isTerminal_of_mem_allowed {state next : InstanceState}
    (allowed : next ∈ state.allowed) :
    state.isTerminal = false := by
  cases state <;> first | rfl | exact nomatch allowed

theorem done_transitionWork {toState : PyStr} (sound : Sound db)
    (bound : bindText operationId = .ok ())
    (digested : digestOf (transitionPayload instanceId toState refs) = .ok operationDigest)
    (returned : transitionWork instanceId toState operationId refs clock db operationDigest =
      .ok (after, value)) :
    Done db after operationId (transitionPayload instanceId toState refs) AgentInstance.replay
      value ∧ after.specs = db.specs := by
  simp only [transitionWork, bind_eq_ok, Prod.exists, pure_eq_ok, Prod.mk.injEq] at returned
  obtain ⟨row, state, found, observedAt, read, _, valid, _, committed, rfl, rfl⟩ := returned
  obtain ⟨event, operation, isCommitted⟩ := commit_cases committed
  obtain ⟨time, rfl⟩ := now_eq_ok read
  obtain ⟨payloadBytes, written, -⟩ := digestOf_eq_ok.mp digested
  obtain ⟨isRow, rfl, allowed⟩ := transition_eq_ok found
  have texts := (sound.readable row isRow).texts
  simp only [List.forall_mem_append, List.forall_mem_cons] at texts
  obtain ⟨⟨idText, agentText, versionText, digestText, createdText, -, -⟩, -⟩ := texts
  have refsText : ∀ text ∈ refs.items, isEncodable text = true :=
    isEncodable_of_mem_textList (py "evidence_refs") (by simp) written
  have encodable : (row.next state time.isoformatUtc refs).Encodable := by
    simp only [AgentInstance.Encodable, List.forall_mem_append, List.forall_mem_cons]
    exact ⟨⟨idText, agentText, versionText, digestText, createdText, isEncodable_isoformatUtc time,
      fun _ member => absurd member List.not_mem_nil⟩, refsText⟩
  -- the rows behind the update: the one that moved, and the others
  have rows : ∀ other ∈ updateWhere (fun other => other.instanceId = row.instanceId)
      (row.next state time.isoformatUtc refs).moveRow db.instances,
      other = (row.next state time.isoformatUtc refs).row ∨
        other ∈ db.instances ∧ other.instanceId ≠ row.instanceId := by
    intro other member
    obtain ⟨old, isOld, rfl⟩ := mem_updateWhere.mp member
    by_cases same : old.instanceId = row.instanceId
    · obtain rfl := List.inj_on_of_nodup_map sound.ids isOld isRow same
      left
      rw [if_pos (by simp)]
      rfl
    · right
      simp [same, isOld]
  have movesOnly : ∀ other, event.moves other = true ↔ row.instanceId = other := by
    intro other
    rw [isCommitted.moves_iff]
    simp
  refine ⟨⟨isCommitted.unknown, ?_, ?_, ?_⟩, by rw [isCommitted.tables]⟩
  · apply sound_commitInstance sound isCommitted (plain_transitionPayload _ _ refs)
    · rw [map_updateWhere InstanceRow.instanceId]
      · exact sound.ids
      · exact fun _ _ => rfl
    · intro other member
      rcases rows other member with rfl | ⟨old, -⟩
      · exact sound.bound row isRow
      · exact sound.bound other old
    · intro other member
      rcases rows other member with rfl | ⟨old, -⟩
      · exact AgentInstance.readable_row valid encodable
      · exact sound.readable other old
    · intro other member
      rcases rows other member with rfl | ⟨old, different⟩
      · change row.generation + 1 = transitions row.instanceId db.events +
          if event.moves row.instanceId = true then 1 else 0
        rw [if_pos ((movesOnly _).mpr rfl), sound.counted row isRow]
      · rw [if_neg fun moves => different ((movesOnly _).mp moves).symm]
        exact sound.counted other old
    · exact ⟨_, mem_updateWhere.mpr ⟨row, isRow, rfl⟩, by simp [AgentInstance.moveRow]⟩
    · intro other member
      refine ⟨_, mem_updateWhere.mpr ⟨other, member, rfl⟩, ?_⟩
      split <;> rfl
  · rw [isCommitted.tables]
    refine ⟨rfl, List.prefix_rfl, List.prefix_append _ _, fun other member final => ?_⟩
    refine mem_updateWhere.mpr ⟨other, member, ?_⟩
    rw [if_neg]
    intro same
    rw [decide_eq_true_eq] at same
    obtain rfl := List.inj_on_of_nodup_map sound.ids member isRow same
    rw [not_isTerminal_of_mem_allowed allowed] at final
    exact Bool.false_ne_true final
  · exact isCommitted.isSaved bound digested (List.cons_ne_nil _ _) (AgentInstance.fields_keyed _).1
      (AgentInstance.fields_keyed _).2 (AgentInstance.fieldlike encodable)
      (AgentInstance.replay_sorted valid)

end Instance

end AgentRegistry

end CyberLion
