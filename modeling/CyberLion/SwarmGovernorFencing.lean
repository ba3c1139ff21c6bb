import CyberLion.PyIsoRoundTrip
import CyberLion.SwarmGovernor

/-!
# The fence of the governor

A process that is past the start of its call holds the governor's lock, so
between a fence check and the COMMIT of the status transaction no other lease is
issued.  Issued leases carry increasing epochs and tokens, and the row is that of
the lease issued last; a holder that was superseded commits nothing.
-/

namespace CyberLion

namespace SwarmGovernor

open PyLib
open FleetCoordination (ClockReading)
open SwarmStatus (Applied Live OpenedStore StatusStore)

/-! ### The log -/

def GovernorEntry.issuedLease : GovernorEntry → Option GovernorLease
  | .issued lease => some lease
  | _ => none

def GovernorEntry.grantedLease : GovernorEntry → Option GovernorLease
  | .issued lease => some lease
  | .renewed lease => some lease
  | _ => none

/-- The leases that `acquire` issued, in their order. -/
def issuedLeases (log : List GovernorEntry) : List GovernorLease :=
  log.filterMap GovernorEntry.issuedLease

/-- The leases that `acquire` and `renew` returned, in their order. -/
def grantedLeases (log : List GovernorEntry) : List GovernorLease :=
  log.filterMap GovernorEntry.grantedLease

theorem issuedLeases_concat (log : List GovernorEntry) (entry : GovernorEntry) :
    issuedLeases (log ++ [entry]) = issuedLeases log ++ entry.issuedLease.toList := by
  rw [issuedLeases, List.filterMap_append, ← issuedLeases]
  cases entry <;> rfl

theorem grantedLeases_concat (log : List GovernorEntry) (entry : GovernorEntry) :
    grantedLeases (log ++ [entry]) = grantedLeases log ++ entry.grantedLease.toList := by
  rw [grantedLeases, List.filterMap_append, ← grantedLeases]
  cases entry <;> rfl

theorem cases_of_concat {α : Type} {log before later : List α} {entry item : α}
    (split : log ++ [entry] = before ++ item :: later) :
    (entry = item ∧ log = before) ∨ ∃ rest, log = before ++ item :: rest := by
  rcases List.eq_nil_or_concat later with rfl | ⟨rest, last, rfl⟩
  · obtain ⟨same, isItem⟩ := List.append_inj' split rfl
    exact .inl ⟨List.cons.inj isItem |>.1, same⟩
  · rw [List.concat_eq_append, ← List.cons_append, ← List.append_assoc] at split
    exact .inr ⟨rest, (List.append_inj' split rfl).1⟩

/-! ### The row -/

def NotAfter (first : GovernorLease) (row : GovernorRow) : Prop :=
  first.epoch ≤ row.epoch ∧ first.fencingToken ≤ row.fencingToken

def Precedes (first second : GovernorLease) : Prop :=
  first.epoch < second.epoch ∧ first.fencingToken < second.fencingToken

/-- The row is that of the lease issued last, with the time of the lease granted
last. -/
inductive RowOf (row : GovernorRow) (log : List GovernorEntry) : Prop
  | fresh (isRow : row = initialRow) (noLease : grantedLeases log = [])
  | held {issued granted : GovernorLease} {expires : DateTime} (named : issued.instanceId ≠ [])
      (isNewest : (issuedLeases log).getLast? = some issued)
      (isLast : (grantedLeases log).getLast? = some granted)
      (matchesNewest : row.Matches issued) (matchesLast : row.Matches granted)
      (isExpiry : row.expiresAt = some expires)
      (isText : granted.expiresAt = expires.isoformatUtc)

/-- What `acquire` and `renew` do to the row. -/
inductive GrantStep (row : GovernorRow) : GovernorRow → GovernorEntry → Prop
  | issue {after : GovernorRow} {lease : GovernorLease} {expires : DateTime}
      (named : lease.instanceId ≠ []) (matchesLease : after.Matches lease)
      (isExpiry : after.expiresAt = some expires) (isText : lease.expiresAt = expires.isoformatUtc) (epoch : lease.epoch = row.epoch + 1)
      (token : lease.fencingToken = row.fencingToken + 1) : GrantStep row after (.issued lease)
  | renew {lease : GovernorLease} {expires : DateTime} (matchesLease : row.Matches lease)
      (isText : lease.expiresAt = expires.isoformatUtc) :
      GrantStep row { row with expiresAt := some expires } (.renewed lease)

theorem assertRow_eq_ok {row : GovernorRow} {lease : GovernorLease} {now : DateTime} :
    assertRow row lease now = .ok () ↔ row.Matches lease ∧ ¬ row.expired now := by
  simp only [assertRow, bind_eq_ok, raiseIf_eq_ok, not_not]
  constructor
  · rintro ⟨_, isLease, current⟩
    exact ⟨isLease, current⟩
  · rintro ⟨isLease, current⟩
    exact ⟨(), isLease, current⟩

theorem grantStep_of_acquire {row after : GovernorRow} {clock : ClockReading}
    {instanceId leaseId : PyStr} {leaseSeconds : Int} {lease : GovernorLease}
    (acquired : acquire row clock instanceId leaseSeconds leaseId = .ok (after, lease)) :
    GrantStep row after (.issued lease) := by
  simp only [acquire, bind_eq_ok, pure_eq_ok, Prod.mk.injEq] at acquired
  obtain ⟨now, -, _, -, expires, -, _, -, _, valid, rfl, rfl⟩ := acquired
  refine .issue ?_ ⟨rfl, rfl, rfl, rfl⟩ rfl rfl rfl rfl
  intro blank
  have named : ¬ (isBlank instanceId = true ∨ (0 : CodePoint) ∈ instanceId) := by
    simp only [GovernorLease.validate, textField, leaseOf, bind_eq_ok] at valid
    obtain ⟨_, isText, -⟩ := valid
    exact raiseIf_eq_ok.mp isText
  rw [show instanceId = [] from blank] at named
  exact named (.inl rfl)

theorem grantStep_of_renew {row after : GovernorRow} {clock : ClockReading}
    {lease renewed : GovernorLease} {leaseSeconds : Int}
    (isRenewed : renew row clock lease leaseSeconds = .ok (after, renewed)) :
    GrantStep row after (.renewed renewed) := by
  simp only [renew, bind_eq_ok, pure_eq_ok, Prod.mk.injEq] at isRenewed
  obtain ⟨now, -, _, asserted, expires, -, _, -, rfl, rfl⟩ := isRenewed
  obtain ⟨matchesLease, -⟩ := assertRow_eq_ok.mp asserted
  exact .renew matchesLease rfl

section Grants

variable {row after : GovernorRow} {log : List GovernorEntry} {entry : GovernorEntry}

theorem RowOf.concat (isRow : RowOf row log) (step : GrantStep row after entry) :
    RowOf after (log ++ [entry]) := by
  cases step with
  | @issue _ lease expires named matchesLease isExpiry isText epoch token =>
    refine .held named ?_ ?_ matchesLease matchesLease isExpiry isText
    · rw [issuedLeases_concat]
      exact List.getLast?_concat
    · rw [grantedLeases_concat]
      exact List.getLast?_concat
  | @renew lease expires matchesLease isText =>
    cases isRow with
    | fresh isRow noLease =>
      rw [isRow] at matchesLease
      exact nomatch matchesLease.1
    | @held issued granted _ named isNewest isLast matchesNewest matchesLast _ _ =>
      refine .held named ?_ ?_ matchesNewest matchesLease rfl isText
      · rw [issuedLeases_concat]
        exact (congrArg List.getLast? (List.append_nil _)).trans isNewest
      · rw [grantedLeases_concat]
        exact List.getLast?_concat

theorem GrantStep.notAfter (step : GrantStep row after entry) {earlier : GovernorLease}
    (before : NotAfter earlier row) : NotAfter earlier after := by
  obtain ⟨epochBefore, tokenBefore⟩ := before
  cases step with
  | issue named matchesLease isExpiry isText epoch token =>
    obtain ⟨-, sameEpoch, sameToken, -⟩ := matchesLease
    constructor <;> omega
  | renew matchesLease isText => exact ⟨epochBefore, tokenBefore⟩

theorem GrantStep.issued (step : GrantStep row after entry) {lease : GovernorLease}
    (isIssued : entry.issuedLease = some lease) :
    NotAfter lease after ∧ ∀ earlier, NotAfter earlier row → Precedes earlier lease := by
  cases step with
  | issue named matchesLease isExpiry isText epoch token =>
    obtain rfl := Option.some.inj isIssued
    obtain ⟨-, sameEpoch, sameToken, -⟩ := matchesLease
    refine ⟨⟨sameEpoch.ge, sameToken.ge⟩, ?_⟩
    rintro earlier ⟨epochBefore, tokenBefore⟩
    constructor <;> omega
  | renew matchesLease isText => exact nomatch isIssued

end Grants

/-! ### The invariant -/

/-- A fence check of the process for the lease, after which no lease was
issued. -/
structure Checked (process : Nat) (lease : GovernorLease) (log earlier : List GovernorEntry)
    (row : GovernorRow) (now : DateTime) : Prop where
  split : ∃ between, log = earlier ++ .checked process lease row now :: between ∧
    issuedLeases between = []
  current : row.Matches lease ∧ ¬ row.expired now
  isRow : RowOf row earlier
  bounded : ∀ issued ∈ issuedLeases earlier, NotAfter issued row

def IsChecked (process : Nat) (lease : GovernorLease) (log : List GovernorEntry) : Prop :=
  ∃ earlier row now, Checked process lease log earlier row now

/-- What is known of a process from the point that it has reached. -/
def PhaseOk (row : GovernorRow) (log : List GovernorEntry) (process : Nat) : Phase → Prop
  | .granted after entry => GrantStep row after entry
  | .fenced lease _ => IsChecked process lease log
  | .writing lease _ => IsChecked process lease log
  | .written lease _ => IsChecked process lease log
  | _ => True

structure Fencing (world : World) : Prop where
  held : ∀ process, world.phases process ≠ .idle → world.governorLock = some process
  phases : ∀ process, PhaseOk world.row world.log process (world.phases process)
  isRow : RowOf world.row world.log
  bounded : ∀ issued ∈ issuedLeases world.log, NotAfter issued world.row
  increasing : (issuedLeases world.log).Pairwise Precedes
  committed : ∀ before process lease later,
    world.log = before ++ .committed process lease :: later → IsChecked process lease before

theorem fencing_openedWorld (live : Live) : Fencing (openedWorld live) where
  held := fun _ busy => absurd rfl busy
  phases := fun _ => trivial
  isRow := .fresh rfl rfl
  bounded := nofun
  increasing := .nil
  committed := by
    intro before process lease later split
    exact absurd split (by simp [openedWorld])

section Steps

variable {world : World} {process : Nat}

theorem Fencing.idle_of_ne (fencing : Fencing world) (busy : world.phases process ≠ .idle)
    {other : Nat} (differ : other ≠ process) : world.phases other = .idle := by
  by_contra otherBusy
  have first := fencing.held process busy
  rw [fencing.held other otherBusy] at first
  exact differ (Option.some.inj first)

theorem Fencing.move (fencing : Fencing world) {after : World} (sameRow : after.row = world.row)
    (sameLog : after.log = world.log)
    (held : ∀ process, after.phases process ≠ .idle → after.governorLock = some process)
    (phases : ∀ process, PhaseOk world.row world.log process (after.phases process)) :
    Fencing after := by
  obtain ⟨-, -, isRow, bounded, increasing, committed⟩ := fencing
  rw [← sameRow, ← sameLog] at phases isRow
  rw [← sameRow, ← sameLog] at bounded
  rw [← sameLog] at increasing committed
  exact ⟨held, phases, isRow, bounded, increasing, committed⟩

theorem Fencing.setPhase (fencing : Fencing world) {phase : Phase} {after : World}
    (sameRow : after.row = world.row) (sameLog : after.log = world.log)
    (isPhases : after.phases = Function.update world.phases process phase)
    (locked : after.governorLock = some process)
    (free : world.governorLock = none ∨ world.governorLock = some process)
    (isOk : PhaseOk world.row world.log process phase) : Fencing after := by
  apply fencing.move sameRow sameLog
  · intro other busy
    rw [isPhases] at busy
    by_cases same : other = process
    · rw [same, locked]
    · rw [Function.update_of_ne same] at busy
      rcases free with free | free
      · exact nomatch free.symm.trans (fencing.held other busy)
      · rw [locked, ← free, fencing.held other busy]
  · intro other
    rw [isPhases]
    by_cases same : other = process
    · rw [same, Function.update_self]
      exact isOk
    · rw [Function.update_of_ne same]
      exact fencing.phases other

theorem Fencing.release (fencing : Fencing world) (process : Nat) :
    Fencing (world.release process) := by
  have isPhases : (world.release process).phases = Function.update world.phases process .idle := rfl
  refine fencing.move (show (world.release process).row = world.row from rfl) rfl ?_ ?_
  · intro other busy
    rw [isPhases] at busy
    by_cases same : other = process
    · rw [same, Function.update_self] at busy
      exact absurd rfl busy
    · rw [Function.update_of_ne same] at busy
      have locked := fencing.held other busy
      have notHere : ¬ world.governorLock = some process := by
        rw [locked, Option.some.injEq]
        exact same
      exact (if_neg notHere).trans locked
  · intro other
    rw [isPhases]
    by_cases same : other = process
    · rw [same, Function.update_self]
      trivial
    · rw [Function.update_of_ne same]
      exact fencing.phases other

theorem Fencing.record (fencing : Fencing world) {after : World} {phase : Phase}
    {entry : GovernorEntry} (busy : world.phases process ≠ .idle)
    (sameRow : after.row = world.row) (isLog : after.log = world.log ++ [entry])
    (isPhases : after.phases = Function.update world.phases process phase)
    (locked : after.governorLock = world.governorLock) (noGrant : entry.grantedLease = none)
    (isOk : PhaseOk world.row after.log process phase)
    (isCommitted : ∀ other lease, entry = .committed other lease →
      IsChecked other lease world.log) : Fencing after := by
  have noIssue : entry.issuedLease = none := by
    cases entry with
    | issued => exact nomatch noGrant
    | _ => rfl
  have issued : issuedLeases after.log = issuedLeases world.log := by
    rw [isLog, issuedLeases_concat, noIssue, Option.toList_none, List.append_nil]
  have granted : grantedLeases after.log = grantedLeases world.log := by
    rw [isLog, grantedLeases_concat, noGrant, Option.toList_none, List.append_nil]
  refine ⟨?_, ?_, ?_, ?_, ?_, ?_⟩
  · intro other otherBusy
    rw [isPhases] at otherBusy
    by_cases same : other = process
    · rw [same, locked]
      exact fencing.held process busy
    · rw [Function.update_of_ne same] at otherBusy
      exact absurd (fencing.idle_of_ne busy same) otherBusy
  · intro other
    rw [sameRow, isPhases]
    by_cases same : other = process
    · rw [same, Function.update_self]
      exact isOk
    · rw [Function.update_of_ne same, fencing.idle_of_ne busy same]
      trivial
  · rw [sameRow]
    cases fencing.isRow with
    | fresh isRow noLease => exact .fresh isRow (granted.trans noLease)
    | held named isNewest isLast matchesNewest matchesLast isExpiry isText =>
      exact .held named (issued ▸ isNewest) (granted ▸ isLast) matchesNewest matchesLast isExpiry
        isText
  · rw [issued, sameRow]
    exact fencing.bounded
  · rw [issued]
    exact fencing.increasing
  · intro before other lease later split
    rw [isLog] at split
    rcases cases_of_concat split with ⟨isEntry, isBefore⟩ | ⟨rest, earlier⟩
    · rw [← isBefore]
      exact isCommitted other lease isEntry
    · exact fencing.committed before other lease rest earlier

theorem Fencing.leave (fencing : Fencing world) {row : GovernorRow} {entry : GovernorEntry}
    (isPhase : world.phases process = .granted row entry) {after : World}
    (isRow : after.row = row) (isLog : after.log = world.log ++ [entry])
    (isPhases : after.phases = Function.update world.phases process .idle) : Fencing after := by
  have busy : world.phases process ≠ .idle := by
    rw [isPhase]
    exact nofun
  have step : GrantStep world.row row entry := by
    have known := fencing.phases process
    rwa [isPhase] at known
  have allIdle : ∀ other, after.phases other = .idle := by
    intro other
    rw [isPhases]
    by_cases same : other = process
    · rw [same, Function.update_self]
    · rw [Function.update_of_ne same]
      exact fencing.idle_of_ne busy same
  refine ⟨?_, ?_, ?_, ?_, ?_, ?_⟩
  · exact fun other otherBusy => absurd (allIdle other) otherBusy
  · intro other
    rw [allIdle other]
    trivial
  · rw [isRow, isLog]
    exact fencing.isRow.concat step
  · intro issued member
    rw [isLog, issuedLeases_concat, List.mem_append] at member
    rw [isRow]
    rcases member with old | new
    · exact step.notAfter (fencing.bounded issued old)
    · exact (step.issued (Option.mem_toList.mp new)).1
  · rw [isLog, issuedLeases_concat, List.pairwise_append]
    refine ⟨fencing.increasing, ?_, ?_⟩
    · cases entry.issuedLease <;> simp
    · intro earlier member issued new
      exact (step.issued (Option.mem_toList.mp new)).2 earlier (fencing.bounded earlier member)
  · intro before other lease later split
    rw [isLog] at split
    rcases cases_of_concat split with ⟨isEntry, -⟩ | ⟨rest, earlier⟩
    · rw [isEntry] at step
      exact nomatch step
    · exact fencing.committed before other lease rest earlier

theorem fencing_step (store : StatusStore) (fencing : Fencing world) (event : GovernorEvent) :
    Fencing (world.step store event) := by
  cases event with
  | enter process call =>
    rw [World.step, World.enter]
    split
    · rename_i _ _ _ _ isIdle free _
      exact fencing.setPhase rfl rfl rfl rfl (.inl free) trivial
    · exact fencing
  | grant process clock leaseId =>
    have granting : ∀ entry result, world.phases process ≠ .idle →
        (∀ row lease, result = .ok (row, lease) → GrantStep world.row row (entry lease)) →
        Fencing (world.granting process entry result) := by
      intro entry result busy isStep
      have locked := fencing.held process busy
      cases result with
      | ok pair =>
        exact fencing.setPhase rfl rfl rfl locked (.inr locked) (isStep pair.1 pair.2 rfl)
      | error error => exact fencing.release process
    rw [World.step, World.grant]
    split
    · rename_i isPhase
      refine granting _ _ (by simp [isPhase]) fun row lease acquired => ?_
      exact grantStep_of_acquire acquired
    · rename_i isPhase
      refine granting _ _ (by simp [isPhase]) fun row lease isRenewed => ?_
      exact grantStep_of_renew isRenewed
    · exact fencing
  | check process clock =>
    rw [World.step, World.check]
    split
    · rename_i lease call isPhase
      split
      · rename_i now passed
        simp only [fence, bind_eq_ok, pure_eq_ok] at passed
        obtain ⟨_, -, _, asserted, rfl⟩ := passed
        refine fencing.record (by simp [isPhase]) rfl rfl rfl rfl rfl ?_
          (fun _ _ never => by cases never)
        exact ⟨world.log, world.row, _, ⟨[], rfl, rfl⟩, assertRow_eq_ok.mp asserted,
          fencing.isRow, fencing.bounded⟩
      · exact fencing.release process
    · exact fencing
  | beginStatus process =>
    rw [World.step, World.beginStatus]
    split
    · rename_i lease call isPhase free
      have known := fencing.phases process
      rw [isPhase] at known
      have locked := fencing.held process (by simp [isPhase])
      exact fencing.setPhase rfl rfl rfl locked (.inr locked) known
    · exact fencing
  | write process =>
    rw [World.step, World.write]
    split
    · rename_i lease call isPhase
      split
      · have known := fencing.phases process
        rw [isPhase] at known
        have locked := fencing.held process (by simp [isPhase])
        exact fencing.setPhase rfl rfl rfl locked (.inr locked) known
      · exact fencing.release process
    · exact fencing
  | commitStatus process =>
    rw [World.step, World.commitStatus]
    split
    · rename_i lease applied isPhase
      have known := fencing.phases process
      rw [isPhase] at known
      refine fencing.record (by simp [isPhase]) rfl rfl rfl rfl rfl trivial ?_
      intro other otherLease isEntry
      obtain ⟨rfl, rfl⟩ := GovernorEntry.committed.inj isEntry
      exact known
    · exact fencing
  | leave process =>
    rw [World.step, World.leave]
    split
    · rename_i row entry isPhase
      exact fencing.leave isPhase rfl rfl rfl
    · exact fencing.release process
    · exact fencing
  | abort process => exact fencing.release process

end Steps

theorem fencing_run (store : StatusStore) {world : World} (fencing : Fencing world)
    (events : List GovernorEvent) : Fencing (world.run store events) := by
  induction events generalizing world with
  | nil => exact fencing
  | cons event events ih => exact ih (fencing_step store fencing event)

/-! ### Fencing -/

structure SameLease (first second : GovernorLease) : Prop where
  instanceId : first.instanceId = second.instanceId
  epoch : first.epoch = second.epoch
  fencingToken : first.fencingToken = second.fencingToken
  leaseId : first.leaseId = second.leaseId

theorem sameLease_of_matches {row : GovernorRow} {first second : GovernorLease}
    (matchesFirst : row.Matches first) (matchesSecond : row.Matches second) :
    SameLease first second := by
  obtain ⟨firstInstance, firstEpoch, firstToken, firstId⟩ := matchesFirst
  obtain ⟨secondInstance, secondEpoch, secondToken, secondId⟩ := matchesSecond
  exact ⟨Option.some.inj (firstInstance.symm.trans secondInstance),
    firstEpoch.symm.trans secondEpoch, firstToken.symm.trans secondToken,
    Option.some.inj (firstId.symm.trans secondId)⟩

theorem RowOf.acquire_eq_error {row : GovernorRow} {log : List GovernorEntry}
    (isRow : RowOf row log) {holder : GovernorLease} {expires now : DateTime}
    (isHolder : (grantedLeases log).getLast? = some holder)
    (isText : holder.expiresAt = expires.isoformatUtc) (current : now.packed < expires.packed)
    {clock : ClockReading} (isNow : utc clock = .ok now) {instanceId : PyStr}
    (differ : instanceId ≠ holder.instanceId) (leaseSeconds : Int) (leaseId : PyStr) :
    acquire row clock instanceId leaseSeconds leaseId =
      .error (stateError (py "active governor lease exists")) := by
  cases isRow with
  | fresh isRow noLease =>
    rw [noLease] at isHolder
    exact nomatch isHolder
  | @held issued granted rowExpires named isNewest isLast matchesNewest matchesLast isExpiry
      rowText =>
      obtain rfl := Option.some.inj (isHolder.symm.trans isLast)
      obtain rfl := isoformatUtc_injective (isText.symm.trans rowText)
      have sameInstance := (sameLease_of_matches matchesNewest matchesLast).instanceId
      have held : row.heldByOther instanceId now := by
        refine ⟨holder.instanceId, matchesLast.1, expires, isExpiry, ?_, current, differ.symm⟩
        rwa [← sameInstance]
      rw [acquire, isNow, ok_bind, raiseIf, if_pos held]
      rfl

theorem Checked.newest {process : Nat} {lease : GovernorLease} {log earlier : List GovernorEntry}
    {row : GovernorRow} {now : DateTime} (checked : Checked process lease log earlier row now) :
    ∃ (newest holder : GovernorLease) (expires : DateTime),
      (issuedLeases earlier).getLast? = some newest ∧
      SameLease lease newest ∧ (grantedLeases earlier).getLast? = some holder ∧
      holder.expiresAt = expires.isoformatUtc ∧ now.packed < expires.packed := by
  obtain ⟨-, ⟨matchesLease, notExpired⟩, isRow, -⟩ := checked
  cases isRow with
  | fresh isRow noLease =>
    rw [isRow] at matchesLease
    exact nomatch matchesLease.1
  | @held issued granted expires named isNewest isLast matchesNewest matchesLast isExpiry isText =>
    refine ⟨issued, granted, expires, isNewest, sameLease_of_matches matchesLease matchesNewest,
      isLast, isText, ?_⟩
    by_contra late
    apply notExpired
    intro other isOther
    obtain rfl := Option.some.inj (isExpiry.symm.trans isOther)
    exact not_lt.mp late

/-- A lease that was issued before the COMMIT of a status transaction is not
after the lease of that transaction. -/
theorem IsChecked.le_of_issued {process : Nat} {lease : GovernorLease}
    {log : List GovernorEntry} (isChecked : IsChecked process lease log) {issued : GovernorLease}
    (member : issued ∈ issuedLeases log) :
    issued.epoch ≤ lease.epoch ∧ issued.fencingToken ≤ lease.fencingToken := by
  obtain ⟨earlier, row, now, ⟨between, rfl, noIssue⟩, ⟨matchesLease, -⟩, -, bounded⟩ := isChecked
  have known : issued ∈ issuedLeases earlier := by
    rw [issuedLeases, List.filterMap_append, List.mem_append] at member
    rcases member with old | new
    · exact old
    · rw [List.filterMap_cons] at new
      rw [issuedLeases] at noIssue
      simp only [GovernorEntry.issuedLease, noIssue, List.not_mem_nil] at new
  obtain ⟨epoch, token⟩ := bounded issued known
  obtain ⟨-, sameEpoch, sameToken, -⟩ := matchesLease
  exact ⟨sameEpoch ▸ epoch, sameToken ▸ token⟩

theorem db_step (store : StatusStore) (world : World) (event : GovernorEvent) :
    (world.step store event).live.db = world.live.db ∨ ∃ process lease,
      (world.step store event).log = world.log ++ [.committed process lease] := by
  cases event with
  | enter process call =>
    left
    rw [World.step, World.enter]
    split <;> rfl
  | grant process clock leaseId =>
    left
    have granting : ∀ entry result, (world.granting process entry result).live = world.live := by
      intro entry result
      cases result <;> rfl
    rw [World.step, World.grant]
    split
    · rw [granting]
    · rw [granting]
    · rfl
  | check process clock =>
    left
    rw [World.step, World.check]
    split
    · split <;> rfl
    · rfl
  | beginStatus process =>
    left
    rw [World.step, World.beginStatus]
    split <;> rfl
  | write process =>
    left
    rw [World.step, World.write]
    split
    · split <;> rfl
    · rfl
  | commitStatus process =>
    rw [World.step, World.commitStatus]
    split
    · exact .inr ⟨_, _, rfl⟩
    · exact .inl rfl
  | leave process =>
    left
    rw [World.step, World.leave]
    split <;> rfl
  | abort process => exact .inl rfl

/-- In every run of any processes: epochs and tokens of issued leases increase;
while the lease granted last has not expired no other instance acquires; a COMMIT
of the status tables follows a fence check that found its lease to be the one
issued last and unexpired, with no issue in between, so it is never made under a
lease that was superseded; and the tables change in no other way. -/
theorem governor_fencing (store : StatusStore) (start : OpenedStore store)
    (events : List GovernorEvent) :
    let world := (openedWorld start.live).run store events
    (issuedLeases world.log).Pairwise Precedes ∧
    (∀ (holder : GovernorLease) (expires : DateTime),
      (grantedLeases world.log).getLast? = some holder →
      holder.expiresAt = expires.isoformatUtc →
      ∀ clock now instanceId leaseSeconds leaseId, utc clock = .ok now →
        now.packed < expires.packed → instanceId ≠ holder.instanceId →
        acquire world.row clock instanceId leaseSeconds leaseId =
          .error (stateError (py "active governor lease exists"))) ∧
    (∀ before process lease later, world.log = before ++ .committed process lease :: later →
      ∃ (earlier between : List GovernorEntry) (row : GovernorRow) (now expires : DateTime)
        (newest holder : GovernorLease),
        before = earlier ++ .checked process lease row now :: between ∧
        issuedLeases between = [] ∧ (issuedLeases earlier).getLast? = some newest ∧
        SameLease lease newest ∧ (grantedLeases earlier).getLast? = some holder ∧
        holder.expiresAt = expires.isoformatUtc ∧ now.packed < expires.packed) ∧
    (∀ before issued middle process lease later, world.log =
        before ++ .issued issued :: middle ++ .committed process lease :: later →
      issued.epoch ≤ lease.epoch ∧ issued.fencingToken ≤ lease.fencingToken) ∧
    (∀ event, (world.step store event).live.db = world.live.db ∨ ∃ process lease,
      (world.step store event).log = world.log ++ [.committed process lease]) := by
  intro world
  have fencing : Fencing world := fencing_run store (fencing_openedWorld start.live) events
  refine ⟨fencing.increasing, ?_, ?_, ?_, db_step store world⟩
  · intro holder expires isHolder isText clock now instanceId leaseSeconds leaseId isNow current
      differ
    exact fencing.isRow.acquire_eq_error isHolder isText current isNow differ leaseSeconds leaseId
  · intro before process lease later split
    obtain ⟨earlier, row, now, checked⟩ := fencing.committed before process lease later split
    obtain ⟨between, isBefore, noIssue⟩ := checked.split
    obtain ⟨newest, holder, expires, isNewest, same, isHolder, isText, current⟩ := checked.newest
    exact ⟨earlier, between, row, now, expires, newest, holder, isBefore, noIssue, isNewest, same,
      isHolder, isText, current⟩
  · intro before issued middle process lease later split
    have isChecked := fencing.committed _ process lease later split
    apply isChecked.le_of_issued
    rw [issuedLeases, List.mem_filterMap]
    exact ⟨.issued issued, by simp, rfl⟩

end SwarmGovernor

end CyberLion
