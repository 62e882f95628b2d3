/-
This file is the life of one request for agent work over any interleaving of the
operations of the agent and the owner. What an operation can leave committed is
said once: nothing, a returned proposal, a closed request, or an acceptance with
its effects and its receipt. Everything that holds of a whole run follows from
that.

The rest of the program goes on in between: it may change any row but the
request's state, revision and receipt, and the proposals.
-/

import CareerOS.AgentWork.Acceptance
import CareerOS.Library.Machine

namespace CareerOS

open Transaction

section

variable [AgentContent] [Pydantic] [TextTables]

/-! ### What an operation leaves -/

/-- The receipt of an acceptance is bound to a stored proposal whose payload has its digest. -/
structure ReceiptBound (vault : WorkVault) (receipt : AcceptanceReceipt)
    (proposal : AgentProposal) : Prop where
  stored : proposal ∈ vault.proposals
  sameRequest : proposal.requestId = vault.request.id
  forRequest : receipt.requestId = vault.request.id
  forProposal : receipt.proposalId = proposal.id
  digest : ∃ payload, AgentContent.validatePayload proposal.payload = some payload ∧
    AgentContent.payloadDigest payload.modelDump = proposal.payloadDigest

/-- What one operation can do to the vault. -/
inductive WorkStep (before : WorkVault) : WorkVault → Prop
  | unchanged : WorkStep before before
  | returned (proposal : AgentProposal) (now : DateTime)
      (queued : before.request.state = .queued)
      (bound : proposal.requestId = before.request.id)
      (only : ∀ other ∈ before.proposals, other.requestId ≠ before.request.id)
      (digest : AgentContent.payloadDigest proposal.payload = proposal.payloadDigest) :
      WorkStep before { before with
        request := { before.request with
          state := .returned
          revision := before.request.revision + 1
          updatedAt := now }
        proposals := before.proposals ++ [proposal] }
  | closed (state : WorkState) (now : DateTime) (closes : state.isClosed = true)
      (refused : state ≠ .accepted) (live : before.request.state.isClosed = false) :
      WorkStep before { before with
        request := { before.request with
          state := state
          revision := before.request.revision + 1
          updatedAt := now } }
  | accepted (rows : OwnedRows) (receipt : AcceptanceReceipt) (proposal : AgentProposal)
      (now : DateTime) (returned : before.request.state = .returned)
      (bound : ReceiptBound before receipt proposal) :
      WorkStep before { before with
        rows := rows
        request := { before.request with
          state := .accepted
          revision := before.request.revision + 1
          acceptedReceipt := some receipt
          updatedAt := now } }

/-- What a program leaves committed is one step from what was committed. -/
abbrev Steps {Value : Type} (program : Work Value) (failing : Nat → Bool)
    (store : Store WorkVault) : Prop :=
  Leaves program failing store (WorkStep store.committed)

variable {store : Store WorkVault}

omit [TextTables] in
theorem commit_expireStaleWork_steps {Value : Type} {rest : Unit → Work Value} (userId : Nat)
    (now : DateTime) (flushes : ∀ done, FlushOnly (rest done)) (failing : Nat → Bool)
    (fresh : store.working = store.committed) :
    Steps (expireStaleWork userId now >>= fun _ => Work.commit >>= rest) failing store := by
  refine FlushOnly.bind_leaves (flushOnly_statement _ _) WorkStep.unchanged
    fun changed next ran kept => ?_
  refine commit_bind_leaves flushes (kept ▸ WorkStep.unchanged) ?_
  obtain ⟨-, ⟨accepted, -, working⟩ | ⟨-, -, working⟩⟩ := updateRequest_ok ran
  · rw [working, fresh]
    rw [fresh] at accepted
    have live : store.committed.request.state.isClosed = false := by
      rcases (of_decide_eq_true accepted).2.2 with queued | returned
      · rw [queued]
        rfl
      · rw [returned]
        rfl
    exact WorkStep.closed .expired now rfl nofun live
  · rw [working, fresh]
    exact WorkStep.unchanged

omit [TextTables] in
theorem listWorkRequests_steps (seen : WorkVault) (userId : Nat) (state : Option WorkState)
    (grantId : Option String) (now : DateTime) (failing : Nat → Bool)
    (fresh : store.working = store.committed) :
    Steps (listWorkRequests seen userId state grantId now) failing store := by
  refine (readOnly_requireReady _ _).flushOnly.bind_leaves WorkStep.unchanged
    fun _ next ran kept => ?_
  have working := ((readOnly_requireReady _ _).ran ran).2
  rw [← kept]
  exact commit_expireStaleWork_steps userId now (fun _ => flushOnly_read _ _) failing
    (by rw [working, kept, fresh])

omit [TextTables] in
theorem getWorkRequest_steps (seen : WorkVault) (userId : Nat) (requestId : String)
    (now : DateTime) (failing : Nat → Bool) (fresh : store.working = store.committed) :
    Steps (getWorkRequest seen userId requestId now) failing store := by
  refine (readOnly_requireReady _ _).flushOnly.bind_leaves WorkStep.unchanged
    fun _ next ran kept => ?_
  have working := ((readOnly_requireReady _ _).ran ran).2
  rw [← kept]
  refine commit_expireStaleWork_steps userId now (fun _ => ?_) failing
    (by rw [working, kept, fresh])
  refine (flushOnly_read _ _).bind fun found => ?_
  cases found with
  | none => exact flushOnly_ofExcept _
  | some request => exact (flushOnly_read _ _).bind fun _ => flushOnly_pure _

omit [AgentContent] [Pydantic] [TextTables] in
theorem Closing.live {closing : Closing} {state : WorkState} (allowed : closing.allows state = true) :
    state.isClosed = false := by
  revert allowed
  cases closing <;> cases state <;> decide

omit [TextTables] in
theorem transition_steps (seen : WorkVault) (userId : Nat) (requestId : String)
    (expectedRevision : Nat) (closing : Closing) (now : DateTime) (failing : Nat → Bool)
    (fresh : store.working = store.committed) :
    Steps (transition seen userId requestId expectedRevision closing now) failing store := by
  refine (readOnly_requireReady _ _).flushOnly.bind_leaves WorkStep.unchanged
    fun _ ready ranReady keptReady => ?_
  refine (flushOnly_read _ _).bind_leaves (keptReady ▸ WorkStep.unchanged)
    fun found looked ranLooked keptLooked => ?_
  have working : looked.working = looked.committed := by
    rw [((readOnly_read _ _).ran ranLooked).2, ((readOnly_requireReady _ _).ran ranReady).2,
      keptLooked, keptReady, fresh]
  rw [← keptReady, ← keptLooked]
  cases found with
  | none => exact (flushOnly_ofExcept _).leaves WorkStep.unchanged
  | some request =>
    dsimp only
    split
    · exact commit_expireStaleWork_steps userId now (fun _ => flushOnly_ofExcept _) failing working
    · refine (flushOnly_refuseIf _ _).bind_leaves WorkStep.unchanged
        fun _ checked ranChecked keptChecked => ?_
      have same := ((readOnly_refuseIf _ _).ran ranChecked).2.trans working
      refine FlushOnly.bind_leaves (flushOnly_statement _ _) (keptChecked ▸ WorkStep.unchanged)
        fun changed updated ranUpdated keptUpdated => ?_
      have kept := keptUpdated.trans keptChecked
      obtain ⟨-, ⟨accepted, rfl, updatedRows⟩ | ⟨-, rfl, updatedRows⟩⟩ := updateRequest_ok ranUpdated
      · rw [if_neg (by decide)]
        refine commit_bind_leaves (fun _ => flushOnly_read _ _) (kept ▸ WorkStep.unchanged) ?_
        rw [updatedRows, same]
        rw [same] at accepted
        have allowed := (of_decide_eq_true accepted).2.2.2.1
        exact WorkStep.closed closing.state now (by cases closing <;> rfl) (by cases closing <;> nofun)
          (Closing.live allowed)
      · rw [if_pos (by decide)]
        exact (flushOnly_rollback.bind fun _ => flushOnly_ofExcept _).leaves
          (kept ▸ WorkStep.unchanged)

omit [Pydantic] [TextTables] [AgentContent] in
theorem readOnly_liveRequest (seen : WorkVault) (grantId requestId : String)
    (scope : Option String) (clock : Nat → DateTime) :
    ReadOnly (liveRequest seen grantId requestId scope clock) := by
  refine (readOnly_requireGrant _ _ _ _ _).bind fun grant => (readOnly_read _ _).bind
    fun found => ?_
  cases found with
  | none => exact readOnly_ofExcept _
  | some request => exact (readOnly_requireWorkLive _ _).bind fun _ => readOnly_pure _

variable {store next : Store WorkVault} {failing : Nat → Bool}

omit [Pydantic] [TextTables] [AgentContent] in
/-- A proposal is inserted for a request that has none. -/
theorem insertProposal_ok {proposal : AgentProposal}
    {value : Unit} (ran : Work.insertProposal proposal failing store = (.ok value, next)) :
    next.committed = store.committed ∧
      (∀ other ∈ store.working.proposals, other.requestId ≠ proposal.requestId) ∧
        next.working = { store.working with proposals := store.working.proposals ++ [proposal] } := by
  obtain ⟨-, working, inserted, rfl⟩ := statement_ok_iff.mp ran
  refine ⟨rfl, ?_⟩
  split at inserted
  · cases inserted
  · rename_i unique
    cases inserted
    refine ⟨fun other member same => unique ?_, rfl⟩
    exact List.any_eq_true.mpr ⟨other, member, decide_eq_true same⟩

omit [TextTables] in
theorem storeProposal_steps (request : AgentWorkRequest) (grantId drawn : String)
    (submission : ProposalSubmission) (clock : Nat → DateTime) (failing : Nat → Bool)
    (fresh : store.working = store.committed) :
    Steps (storeProposal request grantId drawn submission clock) failing store := by
  unfold storeProposal returnRequest
  refine FlushOnly.bind_leaves (flushOnly_statement _ _) WorkStep.unchanged
    fun changed updated ranUpdated keptUpdated => ?_
  refine (flushOnly_refuseIf _ _).bind_leaves (keptUpdated ▸ WorkStep.unchanged)
    fun _ reserved ranReserved keptReserved => ?_
  obtain ⟨single, rfl⟩ := refuseIf_ok_iff.mp ranReserved
  refine (readOnly_requireGrant _ _ _ _ _).flushOnly.bind_leaves (keptUpdated ▸ WorkStep.unchanged)
    fun _ granted ranGranted keptGranted => ?_
  refine (readOnly_requireCurrentInputs _).flushOnly.bind_leaves
    (keptGranted ▸ keptUpdated ▸ WorkStep.unchanged) fun _ current ranCurrent keptCurrent => ?_
  have kept := keptCurrent.trans (keptGranted.trans keptUpdated)
  have working : current.working = updated.working :=
    ((readOnly_requireCurrentInputs _).ran ranCurrent).2.trans
      ((readOnly_requireGrant _ _ _ _ _).ran ranGranted).2
  refine FlushOnly.bind_leaves (flushOnly_statement _ _) (kept ▸ WorkStep.unchanged)
    fun _ inserted ranInserted keptInserted => ?_
  refine commit_bind_leaves (fun _ => flushOnly_read _ _)
    (keptInserted ▸ kept ▸ WorkStep.unchanged) ?_
  obtain ⟨-, only, insertedRows⟩ := insertProposal_ok ranInserted
  obtain ⟨-, ⟨accepted, -, updatedRows⟩ | ⟨-, none, -⟩⟩ := updateRequest_ok ranUpdated
  · rw [fresh] at accepted updatedRows
    obtain ⟨sameId, -, -, queued, -⟩ := of_decide_eq_true accepted
    rw [insertedRows, working, updatedRows]
    rw [working, updatedRows] at only
    exact WorkStep.returned _ (clock 2) queued sameId.symm
      (fun other member => by rw [sameId]; exact only other member) rfl
  · exact absurd (show changed ≠ 1 by omega) single

omit [TextTables] in
theorem submitProposal_steps (seen : WorkVault) (grantId requestId drawn : String)
    (submission : ProposalSubmission) (clock : Nat → DateTime) (failing : Nat → Bool)
    (fresh : store.working = store.committed) :
    Steps (submitProposal seen grantId requestId drawn submission clock) failing store := by
  unfold submitProposal
  split
  · exact (flushOnly_ofExcept _).leaves WorkStep.unchanged
  · refine Leaves.rollingBack ?_
    refine (readOnly_liveRequest _ _ _ _ _).flushOnly.bind_leaves WorkStep.unchanged
      fun request live ranLive keptLive => ?_
    refine (flushOnly_refuseIf _ _).bind_leaves (keptLive ▸ WorkStep.unchanged)
      fun _ checked ranChecked keptChecked => ?_
    refine (flushOnly_ofExcept _).bind_leaves (keptChecked ▸ keptLive ▸ WorkStep.unchanged)
      fun _ valid ranValid keptValid => ?_
    refine (flushOnly_read _ _).bind_leaves
      (keptValid ▸ keptChecked ▸ keptLive ▸ WorkStep.unchanged)
      fun existing looked ranLooked keptLooked => ?_
    have kept := keptLooked.trans (keptValid.trans (keptChecked.trans keptLive))
    have working : looked.working = looked.committed := by
      rw [((readOnly_read _ _).ran ranLooked).2, ((readOnly_ofExcept _).ran ranValid).2,
        ((readOnly_refuseIf _ _).ran ranChecked).2,
        ((readOnly_liveRequest _ _ _ _ _).ran ranLive).2, kept, fresh]
    rw [← kept]
    cases existing with
    | some proposal =>
      dsimp only
      split
      · exact (flushOnly_pure _).leaves WorkStep.unchanged
      · exact (flushOnly_ofExcept _).leaves WorkStep.unchanged
    | none =>
      refine (flushOnly_refuseIf _ _).bind_leaves WorkStep.unchanged
        fun _ queued ranQueued keptQueued => ?_
      rw [← keptQueued]
      exact storeProposal_steps request grantId drawn submission clock failing
        (((readOnly_refuseIf _ _).ran ranQueued).2.trans (working.trans keptQueued.symm))

omit [TextTables] in
/-- What the review of a reserved request has checked. -/
theorem reviewedProposal_ok {request : AgentWorkRequest} {data : AgentWorkAccept}
    {proposal : AgentProposal} {payload : ProposalPayload}
    (ran : reviewedProposal request data failing store = (.ok (proposal, payload), next)) :
    proposal ∈ store.working.proposals ∧ proposal.requestId = request.id ∧
      AgentContent.validatePayload proposal.payload = some payload ∧
        AgentContent.payloadDigest payload.modelDump = proposal.payloadDigest := by
  unfold reviewedProposal at ran
  obtain ⟨_, current, ranCurrent, ran⟩ := Transaction.bind_ok_iff.mp ran
  obtain ⟨_, targets, ranTargets, ran⟩ := Transaction.bind_ok_iff.mp ran
  obtain ⟨found, looked, ranLooked, ran⟩ := Transaction.bind_ok_iff.mp ran
  obtain ⟨stored, _, ranStored, ran⟩ := Transaction.bind_ok_iff.mp ran
  obtain ⟨read, _, ranRead, ran⟩ := Transaction.bind_ok_iff.mp ran
  obtain ⟨_, _, ranValid, ran⟩ := Transaction.bind_ok_iff.mp ran
  obtain ⟨_, _, ranDigest, ran⟩ := Transaction.bind_ok_iff.mp ran
  obtain ⟨same, -⟩ := Transaction.pure_ok_iff.mp ran
  cases same
  have working : targets.working = store.working :=
    ((readOnly_refuseIf _ _).ran ranTargets).2.trans
      ((readOnly_requireCurrentInputs _).ran ranCurrent).2
  obtain ⟨-, lookedUp, -⟩ := read_ok_iff.mp ranLooked
  obtain ⟨isStored, -⟩ := ofExcept_ok_iff.mp ranStored
  obtain ⟨isRead, -⟩ := ofExcept_ok_iff.mp ranRead
  obtain ⟨sameDigest, -⟩ := refuseIf_ok_iff.mp ranDigest
  cases found with
  | none => cases isStored
  | some other =>
    cases isStored
    have member := List.mem_of_find?_eq_some lookedUp
    rw [Option.getD_none, working] at member
    refine ⟨member, by simpa using List.find?_some lookedUp, ?_, not_not.mp sameDigest⟩
    cases validated : AgentContent.validatePayload proposal.payload with
    | none =>
      rw [validated] at isRead
      cases isRead
    | some value =>
      rw [validated] at isRead
      cases isRead
      rfl

omit [AgentContent] [Pydantic] [TextTables] in
/-- A handler changes nothing but the rows of the owner. -/
theorem onRows_ok {Value : Type} {handler : Handler Value}
    {value : Value} (ran : onRows handler failing store = (.ok value, next)) :
    ∃ rows, next.working = { store.working with rows := rows } := by
  obtain ⟨after, -, rfl⟩ := zoom_ok_iff.mp ran
  exact ⟨after.working, rfl⟩

/-- What an acceptance has done when it comes to its commit. -/
theorem prepareAcceptance_ok {request : AgentWorkRequest} {userId : Nat} {data : AgentWorkAccept}
    {drawn : Nat → String} {clock : Nat → DateTime} {receipt : AcceptanceReceipt}
    (ran : prepareAcceptance request userId data drawn clock failing store = (.ok receipt, next)) :
    WorkStep store.working next.working := by
  unfold prepareAcceptance reserveRequest at ran
  obtain ⟨changed, reserved, ranReserved, ran⟩ := Transaction.bind_ok_iff.mp ran
  obtain ⟨_, single, ranSingle, ran⟩ := Transaction.bind_ok_iff.mp ran
  obtain ⟨_, granted, ranGranted, ran⟩ := Transaction.bind_ok_iff.mp ran
  obtain ⟨⟨proposal, payload⟩, reviewed, ranReviewed, ran⟩ := Transaction.bind_ok_iff.mp ran
  obtain ⟨outcome, handled, ranHandled, ran⟩ := Transaction.bind_ok_iff.mp ran
  obtain ⟨⟨digest, revisions⟩, current, ranCurrent, ran⟩ := Transaction.bind_ok_iff.mp ran
  obtain ⟨stored, written, ranWritten, ran⟩ := Transaction.bind_ok_iff.mp ran
  obtain ⟨rfl, rfl⟩ := Transaction.pure_ok_iff.mp ran
  obtain ⟨isSingle, rfl⟩ := refuseIf_ok_iff.mp ranSingle
  obtain ⟨-, ⟨accepted, -, reservedRows⟩ | ⟨-, none, -⟩⟩ := updateRequest_ok ranReserved
  · obtain ⟨sameId, -, returned, revision, -⟩ := of_decide_eq_true accepted
    have grantedRows := ((readOnly_requireGrant _ _ _ _ _).ran ranGranted).2
    have reviewedRows := ((readOnly_reviewedProposal _ _).ran ranReviewed).2
    obtain ⟨rows, handledRows⟩ := onRows_ok ranHandled
    have currentRows := ((readOnly_currentInputState _ _).ran ranCurrent).2
    have beforeReview := grantedRows.trans reservedRows
    obtain ⟨member, sameRequest, validated, sealed⟩ := reviewedProposal_ok ranReviewed
    rw [beforeReview] at member
    have beforeReceipt : current.working = { store.working with
        rows := rows
        request := { store.working.request with revision := store.working.request.revision + 1 } } := by
      rw [currentRows, handledRows, reviewedRows, beforeReview]
    obtain ⟨-, ⟨-, -, writtenRows⟩ | ⟨missed, -⟩⟩ := updateRequest_ok ranWritten
    · rw [writtenRows, beforeReceipt, ← revision]
      exact WorkStep.accepted rows _ proposal (clock 0) returned
        ⟨member, sameRequest.trans sameId.symm, sameId.symm, rfl, payload, validated, sealed⟩
    · rw [beforeReceipt] at missed
      exact absurd sameId (of_decide_eq_false missed)
  · exact absurd (show changed ≠ 1 by omega) isSingle

theorem acceptWorkProposal_steps (seen : WorkVault) (userId : Nat) (requestId : String)
    (data : AgentWorkAccept) (drawn : Nat → String) (clock : Nat → DateTime)
    (failing : Nat → Bool) (fresh : store.working = store.committed) :
    Steps (acceptWorkProposal seen userId requestId data drawn clock) failing store := by
  refine Leaves.rollingBack ?_
  refine (readOnly_requireReady _ _).flushOnly.bind_leaves WorkStep.unchanged
    fun _ ready ranReady keptReady => ?_
  refine (flushOnly_read _ _).bind_leaves (keptReady ▸ WorkStep.unchanged)
    fun found looked ranLooked keptLooked => ?_
  refine (flushOnly_ofExcept _).bind_leaves (keptLooked ▸ keptReady ▸ WorkStep.unchanged)
    fun request named ranNamed keptNamed => ?_
  refine (readOnly_requireGrant _ _ _ _ _).flushOnly.bind_leaves
    (keptNamed ▸ keptLooked ▸ keptReady ▸ WorkStep.unchanged)
    fun _ granted ranGranted keptGranted => ?_
  refine (readOnly_requireWorkLive _ _).flushOnly.bind_leaves
    (keptGranted ▸ keptNamed ▸ keptLooked ▸ keptReady ▸ WorkStep.unchanged)
    fun _ live ranLive keptLive => ?_
  have kept : live.committed = store.committed :=
    keptLive.trans (keptGranted.trans (keptNamed.trans (keptLooked.trans keptReady)))
  have working : live.working = store.committed := by
    rw [((readOnly_requireWorkLive _ _).ran ranLive).2,
      ((readOnly_requireGrant _ _ _ _ _).ran ranGranted).2, ((readOnly_ofExcept _).ran ranNamed).2,
      ((readOnly_read _ _).ran ranLooked).2, ((readOnly_requireReady _ _).ran ranReady).2, fresh]
  rw [← kept] at working ⊢
  split
  · exact (flushOnly_replayAcceptance _ _ _ _).leaves WorkStep.unchanged
  · refine (flushOnly_prepareAcceptance _ _ _ _ _).bind_leaves WorkStep.unchanged
      fun receipt prepared ranPrepared keptPrepared => ?_
    refine commit_bind_leaves (fun _ => flushOnly_pure _) (keptPrepared ▸ WorkStep.unchanged) ?_
    rw [← working]
    exact prepareAcceptance_ok ranPrepared

/-! ### Operations in any order -/

/-- The operations of the agent and the owner. What an operation reads before its first write is
part of it: any rows at all, those of whatever moments it read them at. -/
inductive WorkOperation
  | submit (seen : WorkVault) (grantId requestId drawn : String) (submission : ProposalSubmission)
      (clock : Nat → DateTime)
  | accept (seen : WorkVault) (userId : Nat) (requestId : String) (data : AgentWorkAccept)
      (drawn : Nat → String) (clock : Nat → DateTime)
  | close (seen : WorkVault) (userId : Nat) (requestId : String) (expectedRevision : Nat)
      (closing : Closing) (now : DateTime)
  | list (seen : WorkVault) (userId : Nat) (state : Option WorkState) (grantId : Option String)
      (now : DateTime)
  | get (seen : WorkVault) (userId : Nat) (requestId : String) (now : DateTime)

/-- What an operation leaves committed, given which of its statements the database fails. -/
def WorkOperation.leaves (vault : WorkVault) (failing : Nat → Bool) : WorkOperation → WorkVault
  | .submit seen grantId requestId drawn submission clock =>
    (submitProposal seen grantId requestId drawn submission clock failing (openOn vault)).2.committed
  | .accept seen userId requestId data drawn clock =>
    (acceptWorkProposal seen userId requestId data drawn clock failing (openOn vault)).2.committed
  | .close seen userId requestId expectedRevision closing now =>
    (transition seen userId requestId expectedRevision closing now failing
      (openOn vault)).2.committed
  | .list seen userId state grantId now =>
    (listWorkRequests seen userId state grantId now failing (openOn vault)).2.committed
  | .get seen userId requestId now =>
    (getWorkRequest seen userId requestId now failing (openOn vault)).2.committed

/-- Every operation is one step, whatever it has read and whatever fails. -/
theorem WorkOperation.steps (operation : WorkOperation) (vault : WorkVault)
    (failing : Nat → Bool) : WorkStep vault (operation.leaves vault failing) := by
  cases operation with
  | submit seen grantId requestId drawn submission clock =>
    exact submitProposal_steps seen grantId requestId drawn submission clock failing (fresh_openOn vault)
  | accept seen userId requestId data drawn clock =>
    exact acceptWorkProposal_steps seen userId requestId data drawn clock failing (fresh_openOn vault)
  | close seen userId requestId expectedRevision closing now =>
    exact transition_steps seen userId requestId expectedRevision closing now failing
      (fresh_openOn vault)
  | list seen userId state grantId now =>
    exact listWorkRequests_steps seen userId state grantId now failing (fresh_openOn vault)
  | get seen userId requestId now =>
    exact getWorkRequest_steps seen userId requestId now failing (fresh_openOn vault)

/-- What the rest of the program may have done in between. -/
structure Elsewhere where
  readyUsers : List Nat
  grants : List AutomationGrant
  rows : OwnedRows
  boundGrantId : Option String
  targetJobId : Option Nat
  targetApplicationId : Option String
  targetResumeId : Option String

/-- One event in the life of the request. -/
inductive WorkEvent
  | operate (operation : WorkOperation) (failing : Nat → Bool)
  | elsewhere (change : Elsewhere)

/-- The vault, and what each operation so far did to the rows of the owner, newest first. -/
structure WorkSession where
  vault : WorkVault
  log : List (OwnedRows × OwnedRows)

def WorkSession.advance (session : WorkSession) : WorkEvent → WorkSession
  | .operate operation failing =>
    let after := operation.leaves session.vault failing
    ⟨after, (session.vault.rows, after.rows) :: session.log⟩
  | .elsewhere change =>
    { session with vault := { session.vault with
        readyUsers := change.readyUsers
        grants := change.grants
        rows := change.rows
        request := { session.vault.request with
          boundGrantId := change.boundGrantId
          targetJobId := change.targetJobId
          targetApplicationId := change.targetApplicationId
          targetResumeId := change.targetResumeId } } }

/-- A request as `create_work_request` leaves it. -/
structure Requested (vault : WorkVault) : Prop where
  queued : vault.request.state = .queued
  first : vault.request.revision = 1
  unaccepted : vault.request.acceptedReceipt = none
  unanswered : vault.proposals = []

/-- The life of one request. -/
def agentWork : Machine WorkSession WorkEvent WorkFailure where
  initial := fun session => Requested session.vault ∧ session.log = []
  step := fun session event => .ok (session.advance event)

/-! ### What holds in every run -/

variable {before after : WorkVault}

omit [TextTables] in
theorem WorkStep.closed_unchanged (step : WorkStep before after)
    (closed : before.request.state.isClosed = true) : after = before := by
  cases step with
  | unchanged => rfl
  | returned proposal now queued bound only digest =>
    rw [queued] at closed
    cases closed
  | closed state now closes refused live =>
    rw [closed] at live
    cases live
  | accepted rows receipt proposal now returned bound =>
    rw [returned] at closed
    cases closed

omit [TextTables] in
theorem WorkStep.revision (step : WorkStep before after) :
    after = before ∨ before.request.revision < after.request.revision := by
  cases step with
  | unchanged => exact Or.inl rfl
  | returned | closed | accepted => exact Or.inr (Nat.lt_succ_self _)

omit [TextTables] in
/-- The rows of the owner change only in an acceptance. -/
theorem WorkStep.rows_eq_or_accepted (step : WorkStep before after) :
    before.rows = after.rows ∨
      before.request.state = .returned ∧ after.request.state = .accepted := by
  cases step with
  | unchanged | returned | closed => exact Or.inl rfl
  | accepted rows receipt proposal now returned bound => exact Or.inr ⟨returned, rfl⟩

/-- What every run keeps. -/
structure WorkKept (session : WorkSession) : Prop where
  single : session.vault.proposals.length ≤ 1
  answers : ∀ proposal ∈ session.vault.proposals,
    proposal.requestId = session.vault.request.id ∧
      AgentContent.payloadDigest proposal.payload = proposal.payloadDigest
  receipt : session.vault.request.state = .accepted → ∃ receipt proposal,
    session.vault.request.acceptedReceipt = some receipt ∧
      ReceiptBound session.vault receipt proposal
  once : session.log.Pairwise fun later earlier => later.1 = later.2 ∨ earlier.1 = earlier.2
  untouched : session.vault.request.state ≠ .accepted → ∀ entry ∈ session.log, entry.1 = entry.2

omit [TextTables] in
theorem WorkKept.step {vault after : WorkVault} {log : List (OwnedRows × OwnedRows)}
    (kept : WorkKept ⟨vault, log⟩) (step : WorkStep vault after) :
    WorkKept ⟨after, (vault.rows, after.rows) :: log⟩ := by
  have once : ((vault.rows, after.rows) :: log).Pairwise
      fun later earlier => later.1 = later.2 ∨ earlier.1 = earlier.2 := by
    refine List.pairwise_cons.mpr ⟨fun earlier member => ?_, kept.once⟩
    rcases step.rows_eq_or_accepted with same | ⟨returned, -⟩
    · exact Or.inl same
    · refine Or.inr (kept.untouched ?_ earlier member)
      rw [returned]
      nofun
  have untouched : after.request.state ≠ .accepted →
      ∀ entry ∈ (vault.rows, after.rows) :: log, entry.1 = entry.2 := by
    intro other entry member
    have before : vault.request.state ≠ .accepted := by
      intro accepted
      rw [step.closed_unchanged (by rw [accepted]; rfl)] at other
      exact other accepted
    rcases List.mem_cons.mp member with rfl | inside
    · rcases step.rows_eq_or_accepted with same | ⟨-, accepted⟩
      · exact same
      · exact absurd accepted other
    · exact kept.untouched before entry inside
  cases step with
  | unchanged => exact ⟨kept.single, kept.answers, kept.receipt, once, untouched⟩
  | returned proposal now queued bound only digest =>
    have none : vault.proposals = [] := by
      refine List.eq_nil_iff_forall_not_mem.mpr fun other member => ?_
      exact only other member (kept.answers other member).1
    refine ⟨?_, fun other member => ?_, nofun, once, untouched⟩
    · show (vault.proposals ++ [proposal]).length ≤ 1
      rw [none]
      exact le_rfl
    · have isNew : other = proposal := by simpa [none] using member
      rw [isNew]
      exact ⟨bound, digest⟩
  | closed state now closes refused live =>
    exact ⟨kept.single, kept.answers, fun accepted => absurd accepted refused, once, untouched⟩
  | accepted rows receipt proposal now returned bound =>
    exact ⟨kept.single, kept.answers,
      fun _ => ⟨receipt, proposal, rfl, bound.stored, bound.sameRequest, bound.forRequest,
        bound.forProposal, bound.digest⟩, once, untouched⟩

theorem workKept_reachable {session : WorkSession} (reached : agentWork.Reachable session) :
    WorkKept session := by
  refine reached.invariant WorkKept ?_ ?_
  · rintro ⟨vault, log⟩ ⟨requested, rfl⟩
    refine ⟨?_, ?_, fun accepted => ?_, List.Pairwise.nil, fun _ _ => nofun⟩
    · rw [requested.unanswered]
      exact Nat.zero_le 1
    · rw [requested.unanswered]
      exact fun _ impossible => absurd impossible List.not_mem_nil
    · rw [requested.queued] at accepted
      cases accepted
  · rintro ⟨vault, log⟩ event after kept - advanced
    cases advanced
    cases event with
    | operate operation failing => exact kept.step (operation.steps vault failing)
    | elsewhere change =>
      refine ⟨kept.single, kept.answers, fun accepted => ?_, kept.once, kept.untouched⟩
      obtain ⟨receipt, proposal, found, bound⟩ := kept.receipt accepted
      exact ⟨receipt, proposal, found, bound.stored, bound.sameRequest, bound.forRequest,
        bound.forProposal, bound.digest⟩

/-- In every run of one request: it has at most one proposal; at most one operation changed the
rows of the owner; a closed request stays as it is; an operation that changes the vault advances
the revision; an accepted request has a receipt that is bound to its stored proposal and digest;
and an acceptance that fails leaves the vault as it was. -/
theorem agentWork_lifecycle {session : WorkSession} (reached : agentWork.Reachable session) :
    session.vault.proposals.length ≤ 1 ∧
      (session.log.Pairwise fun later earlier => later.1 = later.2 ∨ earlier.1 = earlier.2) ∧
      (∀ event, session.vault.request.state.isClosed = true →
        (session.advance event).vault.request.state = session.vault.request.state ∧
          (session.advance event).vault.request.revision = session.vault.request.revision) ∧
      (∀ (operation : WorkOperation) failing, operation.leaves session.vault failing = session.vault ∨
        session.vault.request.revision <
          (operation.leaves session.vault failing).request.revision) ∧
      (session.vault.request.state = .accepted → ∃ receipt proposal,
        session.vault.request.acceptedReceipt = some receipt ∧
          ReceiptBound session.vault receipt proposal ∧
            AgentContent.payloadDigest proposal.payload = proposal.payloadDigest) ∧
      (∀ seen userId requestId data drawn clock failing failure,
        (acceptWorkProposal seen userId requestId data drawn clock failing
            (openOn session.vault)).1 = .error failure →
          (acceptWorkProposal seen userId requestId data drawn clock failing
            (openOn session.vault)).2.committed = session.vault) := by
  have kept := workKept_reachable reached
  refine ⟨kept.single, kept.once, fun event closed => ?_, fun operation failing => ?_,
    fun accepted => ?_, ?_⟩
  · cases event with
    | operate operation failing =>
      have same := (operation.steps session.vault failing).closed_unchanged closed
      have stays : (session.advance (.operate operation failing)).vault = session.vault := same
      rw [stays]
      exact ⟨rfl, rfl⟩
    | elsewhere change => exact ⟨rfl, rfl⟩
  · exact (operation.steps session.vault failing).revision
  · obtain ⟨receipt, proposal, found, bound⟩ := kept.receipt accepted
    exact ⟨receipt, proposal, found, bound, (kept.answers proposal bound.stored).2⟩
  · intro seen userId requestId data drawn clock failing failure refused
    exact atomic_acceptWorkProposal seen userId requestId data drawn clock failing _ failure refused

end

/-! ### An analysis that is accepted -/

section

theorem analysedAt_valid : ValidTime 2026 1 5 9 0 0 0 := by decide

def analysedAt : DateTime := ⟨2026, 1, 5, 9, 0, 0, 0, analysedAt_valid⟩

def dayAfter : DateTime := ⟨2026, 1, 6, 9, 0, 0, 0, by decide⟩

/-- An analysis of a vacancy. -/
def readAnalysis : AnalysisProposal where
  gates := []
  scores := ⟨⟨80, ""⟩, ⟨80, ""⟩, ⟨80, ""⟩, ⟨80, ""⟩, ⟨80, ""⟩, ⟨80, ""⟩, 80⟩
  claims := []
  recommendation := .consider

/-- Every payload is read as that analysis, and nothing has a digest of its own. -/
@[reducible] def AgentContent.plain : AgentContent where
  validatePayload := fun _ => some (.analyze readAnalysis)
  payloadDigest := fun _ => ""
  validateProposal := fun _ _ => .ok ()
  contextDigest := fun _ _ _ => .ok ""
  manualIdentity := fun _ _ _ _ => ⟨"000000000000000000000000", by decide⟩
  contentFingerprint := fun _ _ _ _ _ => ""
  materialDocument := fun _ _ _ => .error .validation
  materialDossier := fun _ _ => .error .validation

attribute [local instance] AgentContent.plain Pydantic.canonical TextTables.plain

theorem length_analysedDigest : "9f86d081884c7d659a2feaa0".length = 24 := by decide

/-- The vault of an owner with one job, and a request to analyze it. -/
def analysisVault : WorkVault where
  readyUsers := [1]
  grants := [⟨"grant", 1, ["proposals:write"], dayAfter, none⟩]
  request := {
    id := "request"
    userId := 1
    boundGrantId := some "grant"
    workKind := .analyze
    state := .queued
    revision := 1
    instruction := "Analyze"
    targetJobId := some 1
    targetApplicationId := none
    targetResumeId := none
    presetId := none
    presetVersion := none
    locale := none
    selectedFactIds := none
    contextSnapshot := .obj []
    inputDigest := ""
    inputRevisions := ⟨none, some 1, none, none, none⟩
    expiresAt := dayAfter
    updatedAt := analysedAt
    acceptedReceipt := none }
  proposals := []
  rows := {
    profile := none
    catalog := [{
      id := 1
      externalUrl := "https://acme.example/jobs/1"
      identityDigest := "9f86d081884c7d659a2feaa0"
      contentRevision := 1
      digestLength := length_analysedDigest
      title := "Engineer"
      company := "Acme"
      description := none
      location := none
      workload := none
      contentFingerprint := none
      firstSeenAt := analysedAt
      lastSeenAt := analysedAt
      lastChangedAt := analysedAt
      normalizationStatus := none }]
    jobs := [⟨1, some 1, none, .none⟩]
    applications := []
    resumes := []
    dossiers := [] }

/-- The agent submits the analysis. -/
def analysisSubmitted : WorkEvent :=
  .operate (.submit analysisVault "grant" "request" "proposal"
    ⟨"request", "", "key", "agent", none, .analyze readAnalysis⟩ fun _ => analysedAt) fun _ => false

/-- The request after the submission. -/
def analysisReturned : WorkSession := WorkSession.advance ⟨analysisVault, []⟩ analysisSubmitted

/-- The request after the owner has accepted it. -/
def analysisAccepted : WorkSession :=
  analysisReturned.advance (.operate (.accept analysisReturned.vault 1 "request"
    ⟨2, ⟨some none, some (some 1), some none, some none, some none⟩⟩ (fun _ => "application")
      fun _ => analysedAt) fun _ => false)

theorem reached_analysisAccepted : agentWork.Reachable analysisAccepted :=
  .step (.step (.initial ⟨⟨rfl, rfl, rfl, rfl⟩, rfl⟩) trivial rfl) trivial rfl

theorem agentWork_lifecycle_accepted :
    analysisAccepted.vault.proposals.length ≤ 1 ∧
      ∃ receipt proposal, analysisAccepted.vault.request.acceptedReceipt = some receipt ∧
        ReceiptBound analysisAccepted.vault receipt proposal ∧
          AgentContent.payloadDigest proposal.payload = proposal.payloadDigest :=
  ⟨(agentWork_lifecycle reached_analysisAccepted).1,
    (agentWork_lifecycle reached_analysisAccepted).2.2.2.2.1 (by decide +kernel)⟩

end

end CareerOS
