import CyberLion.SaasBrokerOutcomes
import CyberLion.SqlInvariants

/-!
# Requests, claims and answers of the SaaS broker

The history of a broker is the sequence of its claims and answers.  This file says what holds
of the tables beside such a history, what one state of the tables may become, and that every
statement of the broker keeps the first and does the second.  Most changes of a request only
demote it: they claim nothing.  The claim itself and the new request are the exceptions.
-/

namespace CyberLion

namespace SaasBroker

open PyLib

/-! ### Histories -/

inductive Entry
  | claimed (reply : ClaimReply)
  | answered (arguments : RespondArguments) (time : DateTime)
  deriving DecidableEq

def claimsOf (history : List Entry) (requestId : PyStr) : List ClaimReply :=
  history.filterMap fun entry =>
    match entry with
    | .claimed reply => if reply.requestId = requestId then some reply else none
    | .answered .. => none

def newestClaim (history : List Entry) (requestId : PyStr) : Option ClaimReply :=
  (claimsOf history requestId).getLast?

@[simp]
theorem claimsOf_append (first second : List Entry) (requestId : PyStr) :
    claimsOf (first ++ second) requestId = claimsOf first requestId ++ claimsOf second requestId :=
  List.filterMap_append ..

theorem claimsOf_claimed (history : List Entry) (reply : ClaimReply) (requestId : PyStr) :
    claimsOf (history ++ [.claimed reply]) requestId =
      if reply.requestId = requestId then claimsOf history requestId ++ [reply]
      else claimsOf history requestId := by
  rw [claimsOf_append]
  by_cases same : reply.requestId = requestId
  · simp [claimsOf, same]
  · simp [claimsOf, same]

@[simp]
theorem claimsOf_answered (history : List Entry) (arguments : RespondArguments) (time : DateTime)
    (requestId : PyStr) :
    claimsOf (history ++ [.answered arguments time]) requestId = claimsOf history requestId := by
  rw [claimsOf_append]
  simp [claimsOf]

/-- The requests that were answered, in the order of their answers. -/
def answersOf (history : List Entry) : List PyStr :=
  history.filterMap fun entry =>
    match entry with
    | .claimed _ => none
    | .answered arguments _ => some arguments.requestId

@[simp]
theorem answersOf_claimed (history : List Entry) (reply : ClaimReply) :
    answersOf (history ++ [.claimed reply]) = answersOf history := by
  simp [answersOf]

@[simp]
theorem answersOf_answered (history : List Entry) (arguments : RespondArguments)
    (time : DateTime) :
    answersOf (history ++ [.answered arguments time]) =
      answersOf history ++ [arguments.requestId] := by
  simp [answersOf]

def EachEntry (holds : List Entry → Entry → Prop) (history : List Entry) : Prop :=
  ∀ first entry rest, history = first ++ entry :: rest → holds first entry

theorem eachEntry_nil (holds : List Entry → Entry → Prop) : EachEntry holds [] := by
  intro first entry rest same
  simp at same

theorem EachEntry.snoc {holds : List Entry → Entry → Prop} {history : List Entry} {entry : Entry}
    (each : EachEntry holds history) (last : holds history entry) :
    EachEntry holds (history ++ [entry]) := by
  intro first other rest same
  rcases List.eq_nil_or_concat rest with rfl | ⟨rest, final, rfl⟩
  · obtain ⟨rfl, isEntry⟩ := List.append_inj' same rfl
    obtain rfl := List.head_eq_of_cons_eq isEntry
    exact last
  · rw [List.concat_eq_append, ← List.cons_append, ← List.append_assoc] at same
    obtain ⟨earlier, -⟩ := List.append_inj' same rfl
    exact each first other rest earlier

/-- A claim counts the claims of its request, and an answer is that of the newest claim: it
has its token and its generation, and its time is, as a text, before the expiry. -/
def Fenced (history : List Entry) : Entry → Prop
  | .claimed reply =>
    reply.claimGeneration = (claimsOf history reply.requestId).length + 1
  | .answered arguments time => ∃ claim,
      newestClaim history arguments.requestId = some claim ∧
      arguments.responseToken = claim.responseToken ∧
      arguments.claimGeneration = some claim.claimGeneration ∧
      time.zulu < claim.claimExpiresAt

/-! ### What holds of the tables -/

def HandoffRequest.key (row : HandoffRequest) : ScopeType × Option PyStr × PyStr :=
  (row.scopeType, row.scopeId, row.questionDigest)

def activeKeys (requests : List HandoffRequest) : List (ScopeType × Option PyStr × PyStr) :=
  (requests.filter fun row => row.status.isActive).map HandoffRequest.key

def Broker.globalBindings (db : Broker) : List SessionBinding :=
  db.bindings.filter fun row => row.status = .bound && row.bindingScope = .globalSupervisorChannel

/-- A request that is claimed shows its newest claim, and one that has a response was
answered. -/
structure ShowsHistory (history : List Entry) (row : HandoffRequest) : Prop where
  generation : row.claimGeneration = (claimsOf history row.requestId.text).length
  current : row.status = .claimed → ∃ claim,
    newestClaim history row.requestId.text = some claim ∧
      claim.responseToken = row.responseToken ∧ claim.claimGeneration = row.claimGeneration ∧
      row.claimExpiresAt = some claim.claimExpiresAt
  responded : row.status = .responded → row.requestId.text ∈ answersOf history
  unclaimed : row.status ≠ .pending

structure Tracks (history : List Entry) (requests : List HandoffRequest) : Prop where
  ids : (requests.map HandoffRequest.requestId).Nodup
  active : (activeKeys requests).Nodup
  shows : ∀ row ∈ requests, ShowsHistory history row
  known : ∀ requestId, claimsOf history requestId ≠ [] →
    requestId ∈ (requests.map HandoffRequest.requestId).map Utf8Bytes.text

/-- What holds of the tables beside a history: each answer has one receipt. -/
structure Consistent (history : List Entry) (db : Broker) : Prop
    extends Tracks history db.requests where
  receipts : db.receipts.map BrokerReceipt.requestId = answersOf history
  unique : (db.receipts.map BrokerReceipt.requestId).Nodup
  global : db.globalBindings.length ≤ 1

/-! ### What the tables may become -/

/-- What a request may become: its generation never falls, and a final state is final. -/
structure Succeeds (row later : HandoffRequest) : Prop where
  requestId : later.requestId = row.requestId
  generation : row.claimGeneration ≤ later.claimGeneration
  final : row.status.isActive = false → later = row

/-- What a binding may become: only its state changes, and only while it is bound. -/
structure Released (row later : SessionBinding) : Prop where
  kept : later = { row with status := later.status }
  final : row.status ≠ .bound → later = row

structure Evolves (db after : Broker) : Prop where
  requests : ∀ row ∈ db.requests, ∃ later ∈ after.requests, Succeeds row later
  receipts : db.receipts <+: after.receipts
  bindings : ∀ row ∈ db.bindings, ∃ later ∈ after.bindings, Released row later

theorem Succeeds.refl (row : HandoffRequest) : Succeeds row row :=
  ⟨rfl, le_refl _, fun _ => rfl⟩

theorem Succeeds.trans {first second third : HandoffRequest} (earlier : Succeeds first second)
    (later : Succeeds second third) : Succeeds first third where
  requestId := later.requestId.trans earlier.requestId
  generation := earlier.generation.trans later.generation
  final ended := by
    obtain rfl := earlier.final ended
    exact later.final ended

theorem Released.refl (row : SessionBinding) : Released row row :=
  ⟨rfl, fun _ => rfl⟩

theorem Released.trans {first second third : SessionBinding} (earlier : Released first second)
    (later : Released second third) : Released first third where
  kept := by
    rw [later.kept, earlier.kept]
  final ended := by
    obtain rfl := earlier.final ended
    exact later.final ended

theorem Evolves.refl (db : Broker) : Evolves db db where
  requests row member := ⟨row, member, .refl row⟩
  receipts := List.prefix_refl _
  bindings row member := ⟨row, member, .refl row⟩

theorem Evolves.trans {first second third : Broker} (earlier : Evolves first second)
    (later : Evolves second third) : Evolves first third where
  requests row member := by
    obtain ⟨middle, isMiddle, firstStep⟩ := earlier.requests row member
    obtain ⟨final, isFinal, secondStep⟩ := later.requests middle isMiddle
    exact ⟨final, isFinal, firstStep.trans secondStep⟩
  receipts := earlier.receipts.trans later.receipts
  bindings row member := by
    obtain ⟨middle, isMiddle, firstStep⟩ := earlier.bindings row member
    obtain ⟨final, isFinal, secondStep⟩ := later.bindings middle isMiddle
    exact ⟨final, isFinal, firstStep.trans secondStep⟩

/-! ### Changes that claim nothing -/

structure Demotes (row later : HandoffRequest) : Prop where
  requestId : later.requestId = row.requestId
  key : later.key = row.key
  generation : later.claimGeneration = row.claimGeneration
  final : row.status.isActive = false → later = row
  claimed : later.status = .claimed → row.status = .claimed ∧
    later.responseToken = row.responseToken ∧ later.claimExpiresAt = row.claimExpiresAt
  responded : later.status = .responded → row.status = .responded
  unclaimed : later.status = .pending → row.status = .pending

theorem Demotes.refl (row : HandoffRequest) : Demotes row row :=
  ⟨rfl, rfl, rfl, fun _ => rfl, fun isClaimed => ⟨isClaimed, rfl, rfl⟩, id, id⟩

theorem Demotes.succeeds {row later : HandoffRequest} (demotes : Demotes row later) :
    Succeeds row later :=
  ⟨demotes.requestId, demotes.generation.ge, demotes.final⟩

theorem Demotes.showsHistory {history : List Entry} {row later : HandoffRequest}
    (demotes : Demotes row later) (shows : ShowsHistory history row) :
    ShowsHistory history later where
  generation := by
    rw [demotes.generation, demotes.requestId]
    exact shows.generation
  current isClaimed := by
    obtain ⟨wasClaimed, sameToken, sameExpiry⟩ := demotes.claimed isClaimed
    rw [demotes.requestId, demotes.generation, sameToken, sameExpiry]
    exact shows.current wasClaimed
  responded isResponded := by
    rw [demotes.requestId]
    exact shows.responded (demotes.responded isResponded)
  unclaimed isPending := shows.unclaimed (demotes.unclaimed isPending)

theorem sublist_activeKeys {rows : List HandoffRequest} {change : HandoffRequest → HandoffRequest}
    (keys : ∀ row ∈ rows, (change row).key = row.key)
    (active : ∀ row ∈ rows, (change row).status.isActive = true → row.status.isActive = true) :
    (activeKeys (rows.map change)).Sublist (activeKeys rows) := by
  induction rows with
  | nil => exact List.Sublist.refl _
  | cons row rows ih =>
    rw [List.forall_mem_cons] at keys active
    have rest := ih keys.2 active.2
    rw [List.map_cons, activeKeys, activeKeys]
    by_cases isActive : (change row).status.isActive = true
    · rw [List.filter_cons, List.filter_cons, if_pos isActive, if_pos (active.1 isActive),
        List.map_cons, List.map_cons, keys.1]
      exact rest.cons_cons _
    · rw [List.filter_cons, List.filter_cons, if_neg isActive]
      split
      · rw [List.map_cons]
        exact rest.cons _
      · exact rest

theorem Demotes.wasActive {row later : HandoffRequest} (demotes : Demotes row later)
    (active : later.status.isActive = true) : row.status.isActive = true := by
  by_contra ended
  obtain rfl := demotes.final (by simpa using ended)
  exact ended active

theorem Tracks.change {history later : List Entry} {requests : List HandoffRequest}
    (tracks : Tracks history requests) {change : HandoffRequest → HandoffRequest}
    (keys : ∀ row ∈ requests, (change row).key = row.key)
    (active : ∀ row ∈ requests, (change row).status.isActive = true → row.status.isActive = true)
    (ids : ∀ row ∈ requests, (change row).requestId = row.requestId)
    (shows : ∀ row ∈ requests, ShowsHistory later (change row))
    (known : ∀ requestId, claimsOf later requestId ≠ [] → claimsOf history requestId ≠ [] ∨
      ∃ row ∈ requests, row.requestId.text = requestId) :
    Tracks later (requests.map change) := by
  have sameIds : (requests.map change).map HandoffRequest.requestId =
      requests.map HandoffRequest.requestId := by
    rw [List.map_map]
    exact List.map_congr_left ids
  refine ⟨?_, tracks.active.sublist (sublist_activeKeys keys active), ?_, ?_⟩
  · rw [sameIds]
    exact tracks.ids
  · rw [List.forall_mem_map]
    exact shows
  · intro requestId some
    rw [sameIds]
    rcases known requestId some with old | ⟨row, member, rfl⟩
    · exact tracks.known requestId old
    · exact List.mem_map_of_mem (List.mem_map_of_mem member)

theorem Tracks.demote {history : List Entry} {requests : List HandoffRequest}
    (tracks : Tracks history requests) {change : HandoffRequest → HandoffRequest}
    (demotes : ∀ row ∈ requests, Demotes row (change row)) :
    Tracks history (requests.map change) :=
  tracks.change (fun row member => (demotes row member).key)
    (fun row member => (demotes row member).wasActive)
    (fun row member => (demotes row member).requestId)
    (fun row member => (demotes row member).showsHistory (tracks.shows row member))
    fun _ => .inl

theorem evolves_map {db : Broker} {change : HandoffRequest → HandoffRequest}
    (succeeds : ∀ row ∈ db.requests, Succeeds row (change row)) :
    Evolves db { db with requests := db.requests.map change } where
  requests row member := ⟨change row, List.mem_map_of_mem member, succeeds row member⟩
  receipts := List.prefix_refl _
  bindings row member := ⟨row, member, .refl row⟩

theorem Consistent.demote {history : List Entry} {db : Broker} (consistent : Consistent history db)
    {change : HandoffRequest → HandoffRequest}
    (demotes : ∀ row ∈ db.requests, Demotes row (change row)) :
    Consistent history { db with requests := db.requests.map change } ∧
      Evolves db { db with requests := db.requests.map change } :=
  ⟨⟨consistent.toTracks.demote demotes, consistent.receipts, consistent.unique, consistent.global⟩,
    evolves_map fun row member => (demotes row member).succeeds⟩

theorem Consistent.updateWhere {history : List Entry} {db : Broker}
    (consistent : Consistent history db) {selected : HandoffRequest → Bool}
    {change : HandoffRequest → HandoffRequest}
    (demotes : ∀ row ∈ db.requests, selected row = true → Demotes row (change row)) :
    Consistent history { db with requests := PyLib.updateWhere selected change db.requests } ∧
      Evolves db { db with requests := PyLib.updateWhere selected change db.requests } := by
  refine consistent.demote fun row member => ?_
  split
  · rename_i isSelected
    exact demotes row member isSelected
  · exact .refl row

theorem Consistent.release {history : List Entry} {db : Broker} (consistent : Consistent history db)
    {change : SessionBinding → SessionBinding} (releases : ∀ row, Released row (change row)) :
    Consistent history { db with bindings := db.bindings.map change } ∧
      Evolves db { db with bindings := db.bindings.map change } := by
  refine ⟨⟨consistent.toTracks, consistent.receipts, consistent.unique, ?_⟩,
    ⟨fun row member => ⟨row, member, .refl row⟩, List.prefix_refl _,
      fun row member => ⟨change row, List.mem_map_of_mem member, releases row⟩⟩⟩
  have fewer : (db.bindings.map change).countP (fun row =>
      row.status = .bound && row.bindingScope = .globalSupervisorChannel) ≤
        db.bindings.countP fun row =>
          row.status = .bound && row.bindingScope = .globalSupervisorChannel := by
    rw [List.countP_map]
    refine List.countP_mono_left fun row _ isGlobal => ?_
    simp only [Function.comp_apply, Bool.and_eq_true, decide_eq_true_eq] at isGlobal ⊢
    by_cases bound : row.status = .bound
    · have sameScope : (change row).bindingScope = row.bindingScope := by
        rw [(releases row).kept]
      exact ⟨bound, sameScope ▸ isGlobal.2⟩
    · rw [(releases row).final bound] at isGlobal
      exact isGlobal
  have before := consistent.global
  rw [Broker.globalBindings, ← List.countP_eq_length_filter] at before ⊢
  exact fewer.trans before

/-! ### The statements -/

theorem isActive_of_isQueued {status : RequestStatus} (queued : status.isQueued = true) :
    status.isActive = true := by
  cases status <;> first | rfl | exact absurd queued (by decide)

theorem isActive_of_isPromotable {status : RequestStatus}
    (promotable : status.isPromotable = true) : status.isActive = true := by
  cases status <;> first | rfl | exact absurd promotable (by decide)

theorem demotes_supersede (progressState : PyStr) {row : HandoffRequest}
    (active : row.status.isActive = true) : Demotes row (Broker.supersede progressState row) where
  requestId := rfl
  key := rfl
  generation := rfl
  final ended := by rw [active] at ended; exact absurd ended (by simp)
  claimed isClaimed := nomatch isClaimed
  responded isResponded := nomatch isResponded
  unclaimed isPending := nomatch isPending

theorem demotes_releaseClaim {row : HandoffRequest} (claimed : row.status = .claimed) :
    Demotes row (Broker.releaseClaim row) where
  requestId := rfl
  key := rfl
  generation := rfl
  final ended := by rw [claimed] at ended; exact absurd ended (by decide)
  claimed isClaimed := nomatch isClaimed
  responded isResponded := nomatch isResponded
  unclaimed isPending := nomatch isPending

theorem demotes_overdue (now : PyStr) {row : HandoffRequest}
    (active : row.status.isActive = true) :
    Demotes row { Broker.overdueProgress now row with status := .waitingOperatorOverdue } where
  requestId := rfl
  key := rfl
  generation := rfl
  final ended := by rw [active] at ended; exact absurd ended (by simp)
  claimed isClaimed := nomatch isClaimed
  responded isResponded := nomatch isResponded
  unclaimed isPending := nomatch isPending

theorem demotes_overdueProgress (now : PyStr) {row : HandoffRequest}
    (active : row.status.isActive = true) : Demotes row (Broker.overdueProgress now row) where
  requestId := rfl
  key := rfl
  generation := rfl
  final ended := by rw [active] at ended; exact absurd ended (by simp)
  claimed isClaimed := ⟨isClaimed, rfl, rfl⟩
  responded isResponded := isResponded
  unclaimed isPending := isPending

theorem Demotes.trans {first second third : HandoffRequest} (earlier : Demotes first second)
    (later : Demotes second third) : Demotes first third where
  requestId := later.requestId.trans earlier.requestId
  key := later.key.trans earlier.key
  generation := later.generation.trans earlier.generation
  final ended := by
    obtain rfl := earlier.final ended
    exact later.final ended
  claimed isClaimed := by
    obtain ⟨middleClaimed, token, expiry⟩ := later.claimed isClaimed
    obtain ⟨firstClaimed, firstToken, firstExpiry⟩ := earlier.claimed middleClaimed
    exact ⟨firstClaimed, token.trans firstToken, expiry.trans firstExpiry⟩
  responded isResponded := earlier.responded (later.responded isResponded)
  unclaimed isPending := earlier.unclaimed (later.unclaimed isPending)

theorem demotes_supersedeEnded (db : Broker) (row : HandoffRequest) :
    Demotes row (db.supersedeEnded row) := by
  unfold Broker.supersedeEnded
  split
  · rename_i ended
    simp only [Bool.and_eq_true] at ended
    exact demotes_supersede _ ended.1.2
  · exact .refl row

theorem demotes_notePending (now : PyStr) (row : HandoffRequest) :
    Demotes row (Broker.notePending now row) := by
  unfold Broker.notePending
  split
  · rename_i overdue
    simp only [Bool.and_eq_true, decide_eq_true_eq] at overdue
    exact demotes_overdueProgress now (by rw [overdue.1]; rfl)
  · exact .refl row

theorem demotes_releaseExpired (now : PyStr) (row : HandoffRequest) :
    Demotes row (Broker.releaseExpired now row) := by
  unfold Broker.releaseExpired
  split
  · rename_i expired
    simp only [Broker.claimExpired, Bool.and_eq_true, decide_eq_true_eq] at expired
    exact demotes_releaseClaim expired.1
  · exact .refl row

theorem demotes_markOverdue (now : PyStr) (row : HandoffRequest) :
    Demotes row (Broker.markOverdue now row) := by
  unfold Broker.markOverdue
  split
  · rename_i queued
    simp only [Bool.and_eq_true] at queued
    exact demotes_overdue now (isActive_of_isQueued queued.1)
  · exact .refl row

theorem demotes_expireRequest (db : Broker) (now : PyStr) (row : HandoffRequest) :
    Demotes row (db.expireRequest now row) :=
  (((demotes_supersedeEnded db row).trans (demotes_notePending now _)).trans
    (demotes_releaseExpired now _)).trans (demotes_markOverdue now _)

theorem released_expireBinding (now : PyStr) (row : SessionBinding) :
    Released row (Broker.expireBinding now row) := by
  unfold Broker.expireBinding
  split
  · rename_i expired
    simp only [Bool.and_eq_true, decide_eq_true_eq] at expired
    exact ⟨rfl, fun notBound => absurd expired.1 notBound⟩
  · exact .refl row

theorem Consistent.expire {history : List Entry} {db : Broker} (consistent : Consistent history db)
    (now : PyStr) : Consistent history (db.expire now) ∧ Evolves db (db.expire now) := by
  obtain ⟨demoted, firstStep⟩ := consistent.demote fun row _ => demotes_expireRequest db now row
  obtain ⟨released, secondStep⟩ := demoted.release (released_expireBinding now)
  exact ⟨released, firstStep.trans secondStep⟩

theorem Consistent.of_same {history : List Entry} {db after : Broker}
    (consistent : Consistent history db) (requests : after.requests = db.requests)
    (bindings : after.bindings = db.bindings) (receipts : after.receipts = db.receipts) :
    Consistent history after ∧ Evolves db after := by
  obtain ⟨_, _, _, _, _, _, _, _⟩ := after
  obtain rfl := requests
  obtain rfl := bindings
  obtain rfl := receipts
  exact ⟨⟨consistent.toTracks, consistent.receipts, consistent.unique, consistent.global⟩,
    ⟨(Evolves.refl db).requests, (Evolves.refl db).receipts, (Evolves.refl db).bindings⟩⟩

theorem Consistent.supersedeRows {history : List Entry} {db : Broker}
    (consistent : Consistent history db) (progressState : PyStr) {rows : List HandoffRequest}
    (active : ∀ row ∈ db.requests, row.requestId ∈ rows.map HandoffRequest.requestId →
      row.status.isActive = true) :
    Consistent history (db.supersedeRows progressState rows) ∧
      Evolves db (db.supersedeRows progressState rows) :=
  consistent.updateWhere fun row member isSelected =>
    demotes_supersede progressState (active row member (by simpa using isSelected))

theorem Consistent.cancelRows {history : List Entry} {db : Broker}
    (consistent : Consistent history db) (requestId : PyStr) :
    Consistent history (db.cancelRows requestId) ∧ Evolves db (db.cancelRows requestId) := by
  refine consistent.updateWhere fun row _ isSelected => ?_
  rw [cancellable, Bool.and_eq_true] at isSelected
  exact
    { requestId := rfl
      key := rfl
      generation := rfl
      final := fun ended => by rw [isSelected.2] at ended; exact absurd ended (by simp)
      claimed := fun isClaimed => nomatch isClaimed
      responded := fun isResponded => nomatch isResponded
      unclaimed := fun isPending => nomatch isPending }

def Broker.NoActive (db : Broker) (key : ScopeType × Option PyStr × PyStr) : Prop :=
  ∀ row ∈ db.requests, row.status.isActive = true → row.key ≠ key

theorem Consistent.insert {history : List Entry} {db : Broker} (consistent : Consistent history db)
    {row : HandoffRequest} (freeId : ∀ other ∈ db.requests, other.requestId ≠ row.requestId)
    (freeKey : db.NoActive row.key) (waiting : row.status = .waitingSupervisor)
    (unclaimed : row.claimGeneration = 0) :
    Consistent history { db with requests := db.requests ++ [row] } ∧
      Evolves db { db with requests := db.requests ++ [row] } := by
  have fresh : row.requestId ∉ db.requests.map HandoffRequest.requestId := by
    rintro member
    obtain ⟨other, isOther, same⟩ := List.mem_map.mp member
    exact freeId other isOther same
  have noClaims : claimsOf history row.requestId.text = [] := by
    by_contra some
    obtain ⟨requestId, member, sameText⟩ := List.mem_map.mp (consistent.known _ some)
    obtain ⟨text, encodable⟩ := requestId
    have same : (⟨text, encodable⟩ : Utf8Bytes) = row.requestId := by
      cases isId : row.requestId with
      | mk other otherEncodable =>
        rw [isId] at sameText
        obtain rfl : text = other := sameText
        rfl
    exact fresh (same ▸ member)
  refine ⟨⟨⟨?_, ?_, ?_, ?_⟩, consistent.receipts, consistent.unique, consistent.global⟩,
    ⟨fun other member => ⟨other, List.mem_append_left _ member, .refl other⟩,
      List.prefix_refl _, fun other member => ⟨other, member, .refl other⟩⟩⟩
  · rw [List.map_append]
    exact List.Nodup.append consistent.ids (List.nodup_singleton _) (by simpa using fresh)
  · have active : row.status.isActive = true := by rw [waiting]; rfl
    rw [activeKeys, List.filter_append, List.map_append, List.filter_cons, if_pos active]
    refine List.Nodup.append consistent.active (List.nodup_singleton _) ?_
    intro key isOld isNew
    obtain ⟨other, member, rfl⟩ := List.mem_map.mp isOld
    obtain ⟨stored, isActive⟩ := List.mem_filter.mp member
    exact freeKey other stored isActive (by simpa using isNew)
  · intro other member
    rcases List.mem_append.mp member with isOld | isNew
    · exact consistent.shows other isOld
    · obtain rfl := List.mem_singleton.mp isNew
      refine ⟨by rw [unclaimed, noClaims]; rfl, ?_, ?_, ?_⟩ <;> rw [waiting]
      · exact fun isClaimed => nomatch isClaimed
      · exact fun isResponded => nomatch isResponded
      · decide
  · intro requestId some
    rw [List.map_append, List.map_append]
    exact List.mem_append_left _ (consistent.known requestId some)

/-! ### New requests -/

section Create

variable {history : List Entry} {db : Broker} {context : RequestContext}
  {secrets : RequestSecrets} {stamp : PyStr}

def RequestContext.key (context : RequestContext) : ScopeType × Option PyStr × PyStr :=
  (context.scopeType, context.scopeId, context.questionDigest)

structure RequestContext.Scoped (context : RequestContext) : Prop where
  modern : context.legacy = false
  scope : context.scopeId.isSome = true

theorem Consistent.insertStatements (consistent : Consistent history db)
    (modern : context.legacy = false) (free : db.NoActive context.key) (retryOf : Option PyStr) :
    Consistent history
        (PyProg.runAlone (insertStatements context secrets stamp retryOf) db).1 ∧
      Evolves db (PyProg.runAlone (insertStatements context secrets stamp retryOf) db).1 := by
  have unchanged : Consistent history db ∧ Evolves db db := ⟨consistent, .refl db⟩
  rw [SaasBroker.insertStatements, PyProg.runAlone_bind, PyProg.runAlone_lift]
  cases future stamp context.ttlSeconds with
  | error error => exact unchanged
  | ok expires =>
    dsimp only
    rcases @runAlone_insertStatement db stamp context secrets expires retryOf with
      ⟨-, error, raised⟩ | ⟨freeTexts, returned⟩
    · rw [raised]
      exact unchanged
    · rw [returned]
      refine consistent.insert (fun other member same => ?_) free ?_ rfl
      · exact freeTexts ⟨other, member, .inl same⟩
      · simp [RequestContext.row, modern]

theorem siblings_cases (consistent : Consistent history (db.expire stamp))
    (hasScope : context.Scoped) :
    (db.siblings context stamp = [] ∧ (db.expire stamp).NoActive context.key) ∨
    ∃ row ∈ (db.expire stamp).requests, db.siblings context stamp = [row] ∧
      row.status.isActive = true ∧
      ∀ other ∈ (db.expire stamp).requests, other.status.isActive = true →
        other.key = context.key → other = row := by
  have mem_iff : ∀ row, row ∈ db.siblings context stamp ↔ row ∈ (db.expire stamp).requests ∧
      row.status.isActive = true ∧ row.key = context.key := by
    intro row
    have isScope := hasScope.scope
    simp only [Broker.siblings, Broker.activeRequestRows, List.mem_insertionSort, List.mem_filter,
      Bool.and_eq_true, decide_eq_true_eq, HandoffRequest.key, RequestContext.key, Prod.mk.injEq]
    constructor
    · rintro ⟨member, ⟨⟨⟨sameType, -⟩, sameScope⟩, sameQuestion⟩, active⟩
      exact ⟨member, active, sameType, sameScope, sameQuestion⟩
    · rintro ⟨member, active, sameType, sameScope, sameQuestion⟩
      exact ⟨member, ⟨⟨⟨sameType, sameScope ▸ isScope⟩, sameScope⟩, sameQuestion⟩, active⟩
  have distinct : ((db.siblings context stamp).map HandoffRequest.key).Nodup := by
    rw [Broker.siblings, Broker.activeRequestRows,
      ((List.perm_insertionSort _ _).map HandoffRequest.key).nodup_iff]
    refine consistent.active.sublist (List.Sublist.map _ (List.monotone_filter_right _ ?_))
    intro row selected
    rw [Bool.and_eq_true] at selected
    exact selected.2
  cases siblings : db.siblings context stamp with
  | nil =>
    refine .inl ⟨rfl, fun row member active sameKey => ?_⟩
    have inSiblings := (mem_iff row).mpr ⟨member, active, sameKey⟩
    rw [siblings] at inSiblings
    exact absurd inSiblings (List.not_mem_nil)
  | cons first rest =>
    obtain ⟨member, active, firstKey⟩ := (mem_iff first).mp (by rw [siblings]; exact .head _)
    have alone : rest = [] := by
      rw [List.eq_nil_iff_forall_not_mem]
      intro other isOther
      have sameKey := ((mem_iff other).mp (by rw [siblings]; exact .tail _ isOther)).2.2
      rw [siblings, List.map_cons, List.nodup_cons] at distinct
      exact distinct.1 (by rw [firstKey, ← sameKey]; exact List.mem_map_of_mem isOther)
    subst alone
    refine .inr ⟨first, member, rfl, active, fun other isOther isActive sameKey => ?_⟩
    have inSiblings := (mem_iff other).mpr ⟨isOther, isActive, sameKey⟩
    rw [siblings] at inSiblings
    exact List.mem_singleton.mp inSiblings

theorem noActive_supersedeRows {key : ScopeType × Option PyStr × PyStr} {row : HandoffRequest}
    (only : ∀ other ∈ db.requests, other.status.isActive = true → other.key = key → other = row)
    (progressState : PyStr) : (db.supersedeRows progressState [row]).NoActive key := by
  intro later isLater active sameKey
  obtain ⟨other, member, isChange⟩ := mem_updateWhere.mp isLater
  split at isChange
  · rw [isChange] at active
    exact absurd active (by simp [Broker.supersede, RequestStatus.isActive])
  · rename_i notSelected
    subst isChange
    obtain rfl := only _ member active sameKey
    exact notSelected (by simp)

theorem sound_reconcileStatements (hasScope : context.Scoped) :
    SqlProg.Sound Consistent Evolves (reconcileStatements context secrets stamp) := by
  intro history db consistent
  have run : PyProg.runAlone (reconcileStatements context secrets stamp) db =
      PyProg.runAlone (siblingStatements context secrets stamp (db.siblings context stamp))
        (db.expire stamp) := rfl
  obtain ⟨expired, firstStep⟩ := consistent.expire stamp
  suffices later : Consistent history (PyProg.runAlone (siblingStatements context secrets stamp
      (db.siblings context stamp)) (db.expire stamp)).1 ∧
      Evolves (db.expire stamp) (PyProg.runAlone (siblingStatements context secrets stamp
        (db.siblings context stamp)) (db.expire stamp)).1 by
    rw [run]
    exact ⟨later.1, firstStep.trans later.2⟩
  rcases siblings_cases expired hasScope with ⟨none, free⟩ | ⟨row, member, one, active, only⟩
  · rw [none]
    exact expired.insertStatements hasScope.modern free Option.none
  · rw [one]
    have superseded : ∀ progressState retryOf, Consistent history (PyProg.runAlone (do
          update (Broker.supersedeRows progressState [row])
          SaasBroker.insertStatements context secrets stamp retryOf) (db.expire stamp)).1 ∧
        Evolves (db.expire stamp) (PyProg.runAlone (do
          update (Broker.supersedeRows progressState [row])
          SaasBroker.insertStatements context secrets stamp retryOf) (db.expire stamp)).1 := by
      intro progressState retryOf
      have selectsRow : ∀ other ∈ (db.expire stamp).requests,
          other.requestId ∈ [row].map HandoffRequest.requestId → other.status.isActive = true := by
        intro other isOther isSelected
        have sameId : other.requestId = row.requestId := by simpa using isSelected
        obtain rfl := List.inj_on_of_nodup_map expired.ids isOther member sameId
        exact active
      obtain ⟨after, step⟩ := expired.supersedeRows progressState selectsRow
      obtain ⟨final, last⟩ := @Consistent.insertStatements _ _ _ secrets stamp after
        hasScope.modern (noActive_supersedeRows only progressState) retryOf
      exact ⟨final, step.trans last⟩
    by_cases isSame : row.transportOr = context.transport
    · by_cases overdue : row.status = .waitingOperatorOverdue
      · simpa [siblingStatements, sameTransportStatements, isSame, overdue] using
          superseded (py "SUPERSEDED_BY_RETRY") (some row.requestId.text)
      · -- the row is the canonical one, and no other is superseded
        have nothing : ∀ other ∈ (db.expire stamp).requests,
            other.requestId ∈ ([] : List HandoffRequest).map HandoffRequest.requestId →
              other.status.isActive = true := by
          simp
        have kept : Consistent history (PyProg.runAlone (do
              update (Broker.supersedeRows (py "SUPERSEDED_DUPLICATE") [])
              return Handoff.kept row.requestId) (db.expire stamp)).1 ∧
            Evolves (db.expire stamp) (PyProg.runAlone (do
              update (Broker.supersedeRows (py "SUPERSEDED_DUPLICATE") [])
              return Handoff.kept row.requestId) (db.expire stamp)).1 :=
          expired.supersedeRows (py "SUPERSEDED_DUPLICATE") nothing
        by_cases isClaimed : row.status = .claimed
        · simpa [siblingStatements, sameTransportStatements, isSame, isClaimed] using kept
        · simpa [siblingStatements, sameTransportStatements, isSame, overdue, isClaimed] using kept
    · by_cases isClaimed : row.status = .claimed
      · have kept : Consistent history (db.expire stamp) ∧
            Evolves (db.expire stamp) (db.expire stamp) := ⟨expired, .refl _⟩
        simpa [siblingStatements, isSame, isClaimed] using kept
      · simpa [siblingStatements, sameTransportStatements, isSame, isClaimed] using
          superseded (py "SUPERSEDED_TRANSPORT_MIGRATION") (some row.requestId.text)

theorem sound_expire (now : PyStr) :
    SqlProg.Sound Consistent Evolves (update (Broker.expire · now)) :=
  fun _ _ consistent => consistent.expire now

theorem sound_cancelStatement (requestId : PyStr) :
    SqlProg.Sound Consistent Evolves (cancelStatement requestId) :=
  fun _ _ consistent => consistent.cancelRows requestId

end Create

/-! ### Heartbeats -/

section Heartbeats

variable {stamp target reason progressState : PyStr}

theorem sound_promoteRow (row : HandoffRequest) :
    SqlProg.Sound Consistent Evolves (promoteRow stamp target reason progressState row) := by
  have trans : ∀ first second third : Broker, Evolves first second → Evolves second third →
      Evolves first third := fun _ _ _ => .trans
  refine .bind trans (SqlProg.sound_lift .refl _) fun _ => .bind trans ?_ fun _ =>
    .bind trans ?_ fun _ => SqlProg.sound_pure .refl _
  · exact fun _ _ consistent => consistent.of_same rfl rfl rfl
  · intro history db consistent
    refine consistent.updateWhere fun other _ isSelected => ?_
    rw [Bool.and_eq_true] at isSelected
    have active := isActive_of_isPromotable isSelected.2
    exact
      { requestId := rfl
        key := rfl
        generation := rfl
        final := fun ended => by rw [active] at ended; exact absurd ended (by simp)
        claimed := fun isClaimed => ⟨isClaimed, rfl, rfl⟩
        responded := id
        unclaimed := id }

theorem sound_promoteRows (rows : List HandoffRequest) :
    SqlProg.Sound Consistent Evolves (promoteRows stamp target reason progressState rows) := by
  have trans : ∀ first second third : Broker, Evolves first second → Evolves second third →
      Evolves first third := fun _ _ _ => .trans
  induction rows with
  | nil => exact SqlProg.sound_pure .refl _
  | cons row rows ih =>
    exact .bind trans (sound_promoteRow row) fun _ => .bind trans ih fun _ =>
      SqlProg.sound_pure .refl _

theorem sound_heartbeatStatements (input : HeartbeatInput) (details : PyStr) :
    SqlProg.Sound Consistent Evolves (heartbeatStatements input stamp details) := by
  have trans : ∀ first second third : Broker, Evolves first second → Evolves second third →
      Evolves first third := fun _ _ _ => .trans
  have promotes : ∀ target reason progressState : PyStr,
      SqlProg.Sound Consistent Evolves
        (promoteWaitingToTransport stamp target reason progressState) :=
    fun _ _ _ => .bind trans (SqlProg.sound_read .refl _) fun rows => sound_promoteRows rows
  refine .bind trans (fun _ _ consistent => consistent.of_same rfl rfl rfl) fun _ => ?_
  split_ifs
  · exact promotes _ _ _
  · exact promotes _ _ _
  · exact promotes _ _ _
  · exact SqlProg.sound_pure .refl _

end Heartbeats

end SaasBroker

end CyberLion
