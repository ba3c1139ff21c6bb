import CyberLion.SaasBrokerHistory

/-!
# Claims and answers of the SaaS broker

A claim that returns is the next of its request, and an answer that returns is that of the
newest claim.
-/

namespace CyberLion

namespace SaasBroker

open PyLib

variable {history : List Entry} {db after : Broker} {stamp : PyStr}

theorem runAlone_update_bind {α : Type} (change : Broker → Broker) (rest : Unit → PyProg Broker α) :
    PyProg.runAlone (update change >>= rest) db = PyProg.runAlone (rest ()) (change db) :=
  rfl

theorem runAlone_look_bind {α β : Type} (view : Broker → α) (rest : α → PyProg Broker β) :
    PyProg.runAlone (look view >>= rest) db = PyProg.runAlone (rest (view db)) db :=
  rfl

theorem runAlone_attempt_bind_ok {α : Type} {change : Broker → Except PyError Broker}
    {rest : Unit → PyProg Broker α} {result : α} :
    PyProg.runAlone (attempt change >>= rest) db = (after, .ok result) ↔
      ∃ changed, change db = .ok changed ∧
        PyProg.runAlone (rest ()) changed = (after, .ok result) := by
  rw [PyProg.runAlone_bind, attempt, PyProg.runAlone_transact]
  cases change db with
  | ok changed => simp
  | error error => simp

/-! ### Claims -/

theorem runAlone_claimStatements_ok {requestId token : PyStr} {leaseSeconds : Int}
    {reply : ClaimReply}
    (ran : PyProg.runAlone (claimStatements requestId stamp leaseSeconds token) db =
      (after, .ok reply)) :
    ∃ row expires, (db.expire stamp).request requestId = some row ∧
      row.status.isClaimable = true ∧ future stamp leaseSeconds = .ok expires ∧
      reply = ⟨requestId, row.question, row.questionDigest, token, row.claimGeneration + 1,
        expires⟩ ∧
      after = { db.expire stamp with
        requests := updateWhere (fun other => other.requestId.text = requestId)
          (claimRow token (row.claimGeneration + 1) expires) (db.expire stamp).requests } := by
  rw [claimStatements, runAlone_update_bind, PyProg.runAlone_lift_bind_ok] at ran
  obtain ⟨-, -, ran⟩ := ran
  rw [runAlone_look_bind] at ran
  cases found : (db.expire stamp).request requestId with
  | none =>
    rw [found] at ran
    exact absurd (congrArg Prod.snd ran) (by simp)
  | some row =>
    rw [found] at ran
    dsimp only at ran
    rw [PyProg.runAlone_lift_bind_ok] at ran
    obtain ⟨_, accepted, ran⟩ := ran
    rw [PyProg.runAlone_lift_bind_ok] at ran
    obtain ⟨expires, isExpires, ran⟩ := ran
    rw [runAlone_update_bind] at ran
    obtain ⟨rfl, isReply⟩ := Prod.mk.inj ran
    obtain rfl := Except.ok.inj isReply
    exact ⟨row, expires, rfl, by simpa using accepted, isExpires, rfl, rfl⟩

theorem request_eq_some {requestId : PyStr} {row : HandoffRequest}
    (found : db.request requestId = some row) :
    row ∈ db.requests ∧ row.requestId.text = requestId :=
  ⟨List.mem_of_find?_eq_some found, by simpa using List.find?_some found⟩

theorem eq_of_requestId {requests : List HandoffRequest} (tracks : Tracks history requests)
    {row other : HandoffRequest} (member : row ∈ requests) (isOther : other ∈ requests)
    (same : other.requestId.text = row.requestId.text) : other = row := by
  refine List.inj_on_of_nodup_map tracks.ids isOther member ?_
  cases firstId : other.requestId with
  | mk text encodable =>
    cases secondId : row.requestId with
    | mk otherText otherEncodable =>
      rw [firstId, secondId] at same
      obtain rfl : text = otherText := same
      rfl

theorem ShowsHistory.of_same {later : List Entry} {row : HandoffRequest}
    (shows : ShowsHistory history row)
    (claims : claimsOf later row.requestId.text = claimsOf history row.requestId.text)
    (answers : row.requestId.text ∈ answersOf history → row.requestId.text ∈ answersOf later) :
    ShowsHistory later row where
  generation := by
    rw [claims]
    exact shows.generation
  current := by
    rw [newestClaim, claims]
    exact shows.current
  responded isResponded := answers (shows.responded isResponded)
  unclaimed := shows.unclaimed

theorem isActive_of_isClaimable {status : RequestStatus} (claimable : status.isClaimable = true) :
    status.isActive = true := by
  cases status <;> first | rfl | exact absurd claimable (by decide)

theorem Consistent.claim (consistent : Consistent history db) {row : HandoffRequest}
    (member : row ∈ db.requests) (claimable : row.status.isClaimable = true)
    {token expires : PyStr} {reply : ClaimReply} (requestId : reply.requestId = row.requestId.text)
    (isToken : reply.responseToken = token) (isExpires : reply.claimExpiresAt = expires)
    (generation : reply.claimGeneration = row.claimGeneration + 1) :
    Consistent (history ++ [.claimed reply]) { db with
        requests := PyLib.updateWhere (fun other => other.requestId.text = row.requestId.text)
          (claimRow token (row.claimGeneration + 1) expires) db.requests } ∧
      Evolves db { db with
        requests := PyLib.updateWhere (fun other => other.requestId.text = row.requestId.text)
          (claimRow token (row.claimGeneration + 1) expires) db.requests } ∧
      Fenced history (.claimed reply) := by
  have active := isActive_of_isClaimable claimable
  have alone : ∀ other ∈ db.requests, other.requestId.text = row.requestId.text → other = row :=
    fun other isOther => eq_of_requestId consistent.toTracks member isOther
  have fenced : Fenced history (.claimed reply) := by
    rw [Fenced, generation, requestId, (consistent.shows row member).generation]
  refine ⟨⟨consistent.toTracks.change (fun other _ => ?_) (fun other isOther => ?_)
    (fun other _ => ?_) (fun other isOther => ?_) (fun otherId => ?_), ?_, consistent.unique,
      consistent.global⟩, evolves_map fun other isOther => ?_, fenced⟩
  · split <;> rfl
  · split
    · rename_i isSelected
      rw [alone other isOther (by simpa using isSelected)]
      exact fun _ => active
    · exact id
  · split <;> rfl
  · split
    · rename_i isSelected
      obtain rfl := alone other isOther (by simpa using isSelected)
      have newest : claimsOf (history ++ [.claimed reply]) other.requestId.text =
          claimsOf history other.requestId.text ++ [reply] := by
        rw [claimsOf_claimed, if_pos requestId]
      refine ⟨?_, fun _ => ⟨reply, ?_, isToken, generation, ?_⟩,
        (nomatch ·), (nomatch ·)⟩
      · change other.claimGeneration + 1 = (claimsOf _ other.requestId.text).length
        rw [newest, (consistent.shows other isOther).generation]
        simp
      · change newestClaim (history ++ [.claimed reply]) other.requestId.text = some reply
        rw [newestClaim, newest, List.getLast?_concat]
      · rw [isExpires]
        rfl
    · rename_i notSelected
      have different : reply.requestId ≠ other.requestId.text := by
        rw [requestId]
        exact fun same => notSelected (by simp [same])
      exact (consistent.shows other isOther).of_same (by rw [claimsOf_claimed, if_neg different])
        (fun answered => by rwa [answersOf_claimed])
  · rw [claimsOf_claimed]
    split
    · rename_i same
      exact fun _ => .inr ⟨row, member, by rw [← same, requestId]⟩
    · exact .inl
  · rw [answersOf_claimed]
    exact consistent.receipts
  · split
    · rename_i isSelected
      obtain rfl := alone other isOther (by simpa using isSelected)
      refine ⟨rfl, ?_, fun ended => ?_⟩
      · change other.claimGeneration ≤ other.claimGeneration + 1
        omega
      · rw [active] at ended
        exact absurd ended (by simp)
    · exact .refl other

theorem Consistent.claimStatements (consistent : Consistent history db)
    {requestId token : PyStr} {leaseSeconds : Int} {reply : ClaimReply}
    (ran : PyProg.runAlone (SaasBroker.claimStatements requestId stamp leaseSeconds token) db =
      (after, .ok reply)) :
    Consistent (history ++ [.claimed reply]) after ∧ Evolves db after ∧
      Fenced history (.claimed reply) ∧ future stamp leaseSeconds = .ok reply.claimExpiresAt := by
  obtain ⟨row, expires, found, claimable, isExpires, rfl, rfl⟩ := runAlone_claimStatements_ok ran
  obtain ⟨expired, firstStep⟩ := consistent.expire stamp
  obtain ⟨member, rfl⟩ := request_eq_some found
  obtain ⟨final, secondStep, fenced⟩ := @Consistent.claim _ _ expired _ member claimable token
    expires ⟨row.requestId.text, row.question, row.questionDigest, token, row.claimGeneration + 1,
      expires⟩ rfl rfl rfl rfl
  exact ⟨final, firstStep.trans secondStep, fenced, isExpires⟩

/-! ### Answers -/

theorem insertBinding_eq_ok {row : SessionBinding} (inserted : db.insertBinding row = .ok after) :
    after = { db with bindings := db.bindings ++ [row] } := by
  obtain ⟨bindings, isInserted, same⟩ := bind_eq_ok.mp inserted
  rw [(insertRow_eq_ok.mp isInserted).2] at same
  exact (Except.ok.inj same).symm

theorem insertReceipt_eq_ok {row : BrokerReceipt} (inserted : db.insertReceipt row = .ok after) :
    (∀ other ∈ db.receipts, other.requestId ≠ row.requestId) ∧
      after = { db with receipts := db.receipts ++ [row] } := by
  obtain ⟨_, isFirst, rest⟩ := bind_eq_ok.mp inserted
  obtain ⟨receipts, isInserted, same⟩ := bind_eq_ok.mp rest
  rw [(insertRow_eq_ok.mp isInserted).2] at same
  exact ⟨fun other member => by simpa using (insertRow_eq_ok.mp isFirst).1 other member,
    (Except.ok.inj same).symm⟩

def AnswerContext.endBinding (context : AnswerContext) (row : SessionBinding) : SessionBinding :=
  if row.status = .bound && (row.bindingScope = .globalSupervisorChannel ||
      row.missionId.isSome && row.missionId = context.row.missionId) then
    { row with status := .superseded }
  else row

theorem AnswerContext.released_endBinding (context : AnswerContext) (row : SessionBinding) :
    Released row (context.endBinding row) := by
  unfold endBinding
  split
  · rename_i ended
    rw [Bool.and_eq_true, decide_eq_true_eq] at ended
    exact ⟨rfl, fun notBound => absurd ended.1 notBound⟩
  · exact .refl row

theorem AnswerContext.not_global_endBinding (context : AnswerContext) (row : SessionBinding) :
    ¬ ((context.endBinding row).status = .bound ∧
      (context.endBinding row).bindingScope = .globalSupervisorChannel) := by
  unfold endBinding
  split
  · rintro ⟨bound, -⟩
    exact nomatch bound
  · rename_i notEnded
    rintro ⟨bound, isGlobal⟩
    exact notEnded (by simp [bound, isGlobal])

theorem runAlone_answerStatements_ok {context : AnswerContext} {reply : RespondReply}
    (ran : PyProg.runAlone (answerStatements context) db = (after, .ok reply)) :
    ∃ attestationJson attestationDigest receiptDigest receiptJson metaJson,
      (∀ other ∈ db.receipts, other.requestId ≠ context.row.requestId.text) ∧
      after = { db with
        requests := updateWhere (fun row => row.requestId = context.row.requestId)
          (context.answerRow metaJson receiptDigest) db.requests
        bindings := db.bindings.map context.endBinding ++
          [context.binding attestationJson attestationDigest]
        receipts := db.receipts ++
          [⟨context.row.requestId.text, receiptDigest, receiptJson, context.stamp⟩] } := by
  rw [answerStatements, PyProg.runAlone_lift_bind_ok] at ran
  obtain ⟨attestationDigest, -, ran⟩ := ran
  rw [runAlone_update_bind, PyProg.runAlone_lift_bind_ok] at ran
  obtain ⟨attestationJson, -, ran⟩ := ran
  rw [runAlone_attempt_bind_ok] at ran
  obtain ⟨_, bound, ran⟩ := ran
  obtain rfl := insertBinding_eq_ok bound
  rw [PyProg.runAlone_lift_bind_ok] at ran
  obtain ⟨receiptDigest, -, ran⟩ := ran
  rw [PyProg.runAlone_lift_bind_ok] at ran
  obtain ⟨receiptJson, -, ran⟩ := ran
  rw [runAlone_attempt_bind_ok] at ran
  obtain ⟨_, received, ran⟩ := ran
  obtain ⟨first, rfl⟩ := insertReceipt_eq_ok received
  rw [PyProg.runAlone_lift_bind_ok] at ran
  obtain ⟨metaJson, -, ran⟩ := ran
  rw [runAlone_update_bind] at ran
  obtain ⟨rfl, -⟩ := Prod.mk.inj ran
  exact ⟨attestationJson, attestationDigest, receiptDigest, receiptJson, metaJson, first, rfl⟩

theorem Consistent.answer (consistent : Consistent history db) {context : AnswerContext}
    (answerable : context.row.status.isActive = true) (member : context.row ∈ db.requests)
    {arguments : RespondArguments} (requestId : context.row.requestId.text = arguments.requestId)
    (time : DateTime) {reply : RespondReply}
    (ran : PyProg.runAlone (answerStatements context) db = (after, .ok reply)) :
    Consistent (history ++ [.answered arguments time]) after ∧ Evolves db after := by
  obtain ⟨attestationJson, attestationDigest, receiptDigest, receiptJson, metaJson, first, rfl⟩ :=
    runAlone_answerStatements_ok ran
  have alone : ∀ other ∈ db.requests, other.requestId = context.row.requestId →
      other = context.row :=
    fun other isOther => List.inj_on_of_nodup_map consistent.ids isOther member
  have answers : answersOf (history ++ [.answered arguments time]) =
      answersOf history ++ [context.row.requestId.text] := by
    rw [answersOf_answered, requestId]
  obtain ⟨-, released⟩ := consistent.release context.released_endBinding
  refine ⟨⟨consistent.toTracks.change (fun other _ => ?_) (fun other _ => ?_) (fun other _ => ?_)
    (fun other isOther => ?_) (fun otherId => ?_), ?_, ?_, ?_⟩,
      ⟨(evolves_map fun other isOther => ?_).requests, List.prefix_append _ _,
        fun row isRow => ?_⟩⟩
  · split <;> rfl
  · split
    · exact fun isActive => nomatch isActive
    · exact id
  · split <;> rfl
  · split
    · rename_i isSelected
      obtain rfl := alone other isOther (by simpa using isSelected)
      refine ⟨?_, (nomatch ·), fun _ => ?_, (nomatch ·)⟩
      · change context.row.claimGeneration = (claimsOf _ context.row.requestId.text).length
        rw [claimsOf_answered]
        exact (consistent.shows _ isOther).generation
      · change context.row.requestId.text ∈ _
        rw [answers]
        exact List.mem_append_right _ (.head _)
    · refine (consistent.shows other isOther).of_same (claimsOf_answered ..) fun answered => ?_
      rw [answers]
      exact List.mem_append_left _ answered
  · rw [claimsOf_answered]
    exact .inl
  · rw [answers, List.map_append, consistent.receipts]
    rfl
  · rw [List.map_append]
    refine consistent.unique.append (List.nodup_singleton _) ?_
    intro otherId isOld isNew
    obtain ⟨other, isOther, rfl⟩ := List.mem_map.mp isOld
    exact first other isOther (by simpa using isNew)
  · have none : (db.bindings.map context.endBinding).filter (fun row =>
        row.status = .bound && row.bindingScope = .globalSupervisorChannel) = [] := by
      rw [List.filter_eq_nil_iff]
      intro row isRow
      obtain ⟨old, -, rfl⟩ := List.mem_map.mp isRow
      simpa using context.not_global_endBinding old
    rw [Broker.globalBindings, List.filter_append, none, List.nil_append]
    exact List.length_filter_le _ _
  · split
    · rename_i isSelected
      obtain rfl := alone other isOther (by simpa using isSelected)
      refine ⟨rfl, le_refl _, fun ended => ?_⟩
      rw [answerable] at ended
      exact absurd ended (by simp)
    · exact .refl other
  · obtain ⟨later, isLater, isReleased⟩ := released.bindings row isRow
    exact ⟨later, List.mem_append_left _ isLater, isReleased⟩

theorem not_le_of_expireRequest {now : PyStr} {row : HandoffRequest} {expires : PyStr}
    (claimed : (db.expireRequest now row).status = .claimed)
    (isExpires : (db.expireRequest now row).claimExpiresAt = some expires) : now < expires := by
  rw [Broker.expireRequest] at claimed isExpires
  generalize Broker.notePending now (db.supersedeEnded row) = noted at claimed isExpires
  rw [Broker.markOverdue] at claimed isExpires
  split at claimed
  · cases claimed
  · rename_i notOverdue
    rw [if_neg notOverdue] at isExpires
    rw [Broker.releaseExpired] at claimed isExpires
    split at claimed
    · cases claimed
    · rename_i notExpired
      rw [if_neg notExpired] at isExpires
      simpa [Broker.claimExpired, claimed, isExpires] using notExpired

theorem checkAnswerable_eq_ok {arguments : RespondArguments} {row : HandoffRequest}
    (checked : checkAnswerable arguments row = .ok ()) :
    (row.status = .pending ∨ row.status = .claimed) ∧
      (row.status = .claimed → arguments.claimGeneration = some row.claimGeneration) ∧
      arguments.responseToken = row.responseToken := by
  obtain ⟨_, status, checked⟩ := bind_eq_ok.mp checked
  obtain ⟨_, generation, checked⟩ := bind_eq_ok.mp checked
  obtain ⟨same, compared, checked⟩ := bind_eq_ok.mp checked
  rw [raiseIf_eq_ok] at status generation checked
  obtain ⟨_, -, isSame⟩ := bind_eq_ok.mp compared
  obtain rfl := Except.ok.inj isSame
  exact ⟨by tauto, by tauto, by simpa using checked⟩

theorem Consistent.respondStatements (consistent : Consistent history db)
    {arguments : RespondArguments} {time : DateTime} {bindingHex : PyStr} {reply : RespondReply}
    (ran : PyProg.runAlone (SaasBroker.respondStatements arguments time.zulu bindingHex) db =
      (after, .ok reply)) :
    Consistent (history ++ [.answered arguments time]) after ∧ Evolves db after ∧
      Fenced history (.answered arguments time) := by
  obtain ⟨expired, firstStep⟩ := consistent.expire time.zulu
  rw [SaasBroker.respondStatements, runAlone_update_bind, PyProg.runAlone_lift_bind_ok] at ran
  obtain ⟨-, -, ran⟩ := ran
  rw [runAlone_look_bind] at ran
  cases found : (db.expire time.zulu).request arguments.requestId with
  | none =>
    rw [found] at ran
    exact absurd (congrArg Prod.snd ran) (by simp)
  | some row =>
    rw [found] at ran
    dsimp only at ran
    obtain ⟨member, sameId⟩ := request_eq_some found
    rw [PyProg.runAlone_lift_bind_ok] at ran
    obtain ⟨_, checked, ran⟩ := ran
    obtain ⟨pendingOrClaimed, sameGeneration, sameToken⟩ := checkAnswerable_eq_ok checked
    have shows := expired.shows row member
    have claimed := pendingOrClaimed.resolve_left shows.unclaimed
    obtain ⟨claim, isNewest, token, generation, expires⟩ := shows.current claimed
    rw [PyProg.runAlone_read_bind_ok] at ran
    obtain ⟨_, -, ran⟩ := ran
    simp only [PyProg.runAlone_lift_bind_ok] at ran
    obtain ⟨_, -, _, -, _, -, _, -, ran⟩ := ran
    obtain ⟨final, secondStep⟩ :=
      expired.answer (by simp [claimed, RequestStatus.isActive]) member sameId time ran
    refine ⟨final, firstStep.trans secondStep, claim, ?_, ?_, ?_, ?_⟩
    · rw [← sameId]
      exact isNewest
    · rw [sameToken, token]
    · rw [sameGeneration claimed, generation]
    · obtain ⟨old, -, rfl⟩ := List.mem_map.mp member
      exact not_le_of_expireRequest claimed expires

end SaasBroker

end CyberLion
