import Operly.Kernel.Sessions

/-! Replay and reservation: what the claim of a request says to the session that finds or
inserts it. -/

namespace Operly.Kernel
open Python Security Concurrent

variable {terms : Terms} {pid : Nat} {entry : Entry} {ξ : Type} {state before after : KernelState}
  {context : ExecutionContext} {request : RuntimeRequest} {used : Option KernelApproval}

/-! ### Commits -/

variable {changes : Changes} {asserted : KernelState → Prop} {write : Option ApprovalWrite} {row : KernelApproval}
  {key : String} {claim : KernelRequestClaim}

theorem serve_commit {deployment : Deployment} {choice : Choice} {answer : Flushed}
    (performed : serve deployment pid (.commit changes) choice state = some (answer, after)) :
    (answer ≠ .committed ∧ after = state) ∨
      state.blocked pid changes.approval = false ∧ state.violates changes = false ∧
        answer = .committed ∧ after = state.commit pid changes := by
  cases choice with
  | failed error =>
    cases performed
    exact .inl ⟨by simp, rfl⟩
  | default | tenant | provider =>
    simp only [serve] at performed
    split at performed
    · cases performed
    · next unblocked =>
      split at performed
      · cases performed
        exact .inl ⟨by simp, rfl⟩
      · next unviolated =>
        cases performed
        exact .inr ⟨by simpa using unblocked, by simpa using unviolated, rfl, rfl⟩

theorem commit_spec {post : KernelState → Prop} (settled : Settled terms pid asserted)
    (settled' : Settled terms pid post) (written : ∀ state, Invariant terms state → asserted state →
      (terms.bound → BoundReservation state (.commit changes)) →
      state.blocked pid changes.approval = false → state.violates changes = false →
      Advance terms pid state (state.commit pid changes) ∧ post (state.commit pid changes)) :
    (setting terms).Triple pid entry asserted (commit changes) fun _ => post := by
  have flushed : (setting terms).Triple pid entry asserted
      (query (.commit changes) : Session Flushed) fun flushed state => flushed = .committed → post state := by
    apply query_spec settled
    · exact fun answer before after holds rely same => settled' _ _ (holds same) rely
    · intro state choice answer after kept holds allowed performed
      rcases serve_commit performed with ⟨failed, rfl⟩ | ⟨unblocked, unviolated, rfl, rfl⟩
      · exact ⟨⟨kept, .refl after⟩, fun same => absurd same failed⟩
      · obtain ⟨advance, result⟩ := written state kept holds allowed unblocked unviolated
        exact ⟨advance, fun _ => result⟩
  unfold commit
  apply Triple.bind _ flushed
  intro flushed
  apply Triple.ofExcept (fun _ => settled')
  intro value state done holds
  cases flushed with
  | committed => exact holds rfl
  | integrityError | failed => cases done

theorem writeApproval_claims (write : Option ApprovalWrite) :
    (state.writeApproval pid write).claims = state.claims := by
  unfold KernelState.writeApproval
  split
  · rfl
  · rfl
  · split
    · rfl
    · dsimp only
      split <;> rfl

theorem writeClaim_approvals (write : Option ClaimWrite) :
    (state.writeClaim pid write).approvals = state.approvals := by
  unfold KernelState.writeClaim
  split
  · rfl
  · rfl
  · split <;> rfl
  · split <;> rfl

theorem mem_writeApproval {logged : LogEntry}
    (other : ∀ before after invocation, logged ≠ .moved pid before after invocation) :
    logged ∈ (state.writeApproval pid write).log ↔ logged ∈ state.log := by
  unfold KernelState.writeApproval
  split
  · rfl
  · rfl
  · split
    · rfl
    · dsimp only
      split
      · rfl
      · simp [other]

theorem mem_writeClaim {logged : LogEntry} {write : Option ClaimWrite}
    (reserved : ∀ row, logged ≠ .reserved pid row) (stored : ∀ row, logged ≠ .stored pid row) :
    logged ∈ (state.writeClaim pid write).log ↔ logged ∈ state.log := by
  unfold KernelState.writeClaim
  split
  · rfl
  · simp [reserved]
  · split
    · rfl
    · simp [reserved]
  · split
    · rfl
    · simp [stored]

theorem Quiet.commit (quiet : Quiet pid state) : Quiet pid (state.commit pid changes) := by
  intro call request claim present
  have written : .invoked pid call request claim ∈
      ((state.writeApproval pid changes.approval).writeClaim pid changes.claim).log := present
  rw [mem_writeClaim (by simp) (by simp), mem_writeApproval (by simp)] at written
  exact quiet call request claim written

theorem advance_commit (written : Advance terms pid state
      ((state.writeApproval pid changes.approval).writeClaim pid changes.claim)) :
    Advance terms pid state (state.commit pid changes) := by
  let target := (state.writeApproval pid changes.approval).writeClaim pid changes.claim
  have audited : Advance terms pid target { target with
      runs := target.runs ++ changes.runs, events := target.events ++ changes.events } :=
    advance_same written.invariant rfl rfl rfl rfl
  exact (written.trans audited).trans (advance_release audited.invariant)

theorem advance_executing (kept : Invariant terms state) (locked : Locked pid row state)
    (claimable : Claimable terms.deployment context request row) (allowed : terms.bound → BoundReservation state
      (.commit { approval := some (.executing row.id context request) })) :
    Advance terms pid state (state.writeApproval pid (some (.executing row.id context request))) := by
  apply advance_writeApproval kept
  · simp [KernelState.blocked, ApprovalWrite.id, locked.lock]
  · simp
  · intro current present _
    simp only [ApprovalWrite.id, locked.row, Option.some.injEq] at present
    subst current
    exact ⟨rfl, by simp [ApprovalWrite.update, claimable.status, ApprovalStatus.leadsTo]⟩
  · intro _ bound current present _
    simp only [ApprovalWrite.id, locked.row, Option.some.injEq] at present
    subst current
    obtain ⟨capability, principal⟩ := allowed bound row locked.row
    simp only [Allowed, claimable.status, ApprovalWrite.update, ApprovalWrite.invocation]
    exact ⟨context, request, rfl, ⟨claimable.scope, capability, claimable.arguments⟩, principal,
      claimable.requestId⟩

theorem writeApproval_executing (present : state.approvals row.id = some row) (status : row.status = .approved) :
    (state.writeApproval pid (some (.executing row.id context request))).approvals =
      Function.update state.approvals row.id (some { row with status := .executing }) := by
  simp [KernelState.writeApproval, ApprovalWrite.id, ApprovalWrite.update, present, status,
    KernelState.putApproval_approvals]

/-! ### Claims -/

theorem claimByKey_spec (settled : Settled terms pid asserted) :
    (setting terms).Triple pid entry asserted (query (.claimByKey key) : Fallible kernelDb ξ _)
      fun answer state => asserted state ∧ ∀ row, answer = some row → row.idempotencyKey = key ∧
        (terms.proper → row.status = .running ∨ row.status = .completed) ∧
        (terms.proper → row.status = .completed → state.claims key = some row) ∧
        ∃ current, state.claims key = some current ∧
          current.argumentsHash = row.argumentsHash := by
  apply query_spec settled
  · intro answer before after holds rely
    refine ⟨settled _ _ holds.1 rely, ?_⟩
    intro row same
    obtain ⟨named, status, completed, current, present, hash⟩ := holds.2 row same
    refine ⟨named, status, ?_, ?_⟩
    · intro proper done
      exact rely.completed proper key row (completed proper done) done
    · obtain ⟨later, present', hash'⟩ := rely.hashes key current present
      exact ⟨later, present', hash'.trans hash⟩
  · intro state choice answer after kept holds _ performed
    cases performed
    refine ⟨⟨kept, .refl state⟩, holds, ?_⟩
    intro row present
    exact ⟨kept.keyed key row present, fun proper => (kept.claims proper).status key row present,
      fun _ _ => present, row, present, rfl⟩

theorem rollback_spec (settled : Settled terms pid asserted)
    (released : ∀ state, asserted state → asserted (state.release pid)) :
    (setting terms).Triple pid entry asserted (query .rollback : Fallible kernelDb ξ _)
      fun _ => asserted := by
  apply query_spec settled
  · exact fun _ => settled
  · intro state choice answer after kept holds _ performed
    cases performed
    exact ⟨advance_release kept, released state holds⟩

theorem validateExisting_ok {deployment : Deployment} {hash : String} {replayed : Option RuntimeResponse}
    (passed : validateExisting deployment claim hash = .ok replayed) :
    claim.argumentsHash = hash ∧
      match replayed with
      | some response => claim.status = .completed ∧
          responseFromJson deployment claim.responseJson = .ok response
      | none => claim.status ≠ .running ∧ claim.status ≠ .completed := by
  unfold validateExisting at passed
  split at passed
  · cases passed
  · next same =>
    refine ⟨not_not.mp same, ?_⟩
    split at passed
    · next status =>
      cases parsed : responseFromJson deployment claim.responseJson with
      | error error =>
        rw [parsed] at passed
        cases passed
      | ok response =>
        simp only [parsed, Except.map, Except.ok.injEq] at passed
        subst replayed
        exact ⟨status, rfl⟩
    · cases passed
    · next text status =>
      cases passed
      simp [status]

def Answers (terms : Terms) (context : ExecutionContext) (request : RuntimeRequest)
    (response : RuntimeResponse) (state : KernelState) : Prop :=
  terms.proper → ∀ key, idempotencyKey terms.deployment context (clean request.requestId) = .ok key →
    Completed terms.deployment key (requestHash terms.deployment request) response state

theorem settled_answers {response : RuntimeResponse} :
    Settled terms pid (Answers terms context request response) := by
  intro before after answers rely proper key named
  exact rely.completed_response (fun proper => answers proper key named) proper

theorem answers_of_completed {response : RuntimeResponse}
    (named : idempotencyKey terms.deployment context (clean request.requestId) = .ok key)
    (present : terms.proper → claim.status = .completed → state.claims key = some claim)
    (passed : validateExisting terms.deployment claim (requestHash terms.deployment request) =
      .ok (some response)) : Answers terms context request response state := by
  intro proper key' named'
  rw [named, Except.ok.injEq] at named'
  subst key'
  obtain ⟨hash, status, parsed⟩ := validateExisting_ok passed
  exact ⟨claim, present proper status, status, hash, response, parsed, rfl⟩

theorem findCompletedRequest_spec :
    (setting terms).Triple pid entry (Holds pid used)
      (findCompletedRequest terms.deployment context request)
      fun replayed state => Holds pid used state ∧
        ∀ response, replayed = some response → Answers terms context request response state := by
  have settled : ∀ replayed : Option RuntimeResponse, Settled terms pid fun state =>
      Holds pid used state ∧
        ∀ response, replayed = some response → Answers terms context request response state := by
    intro replayed before after holds rely
    exact ⟨settled_holds _ _ holds.1 rely, fun response same =>
      settled_answers _ _ (holds.2 response same) rely⟩
  unfold findCompletedRequest
  dsimp only
  split
  · exact Triple.pure (settled none) fun state holds => ⟨holds, by simp⟩
  · apply Triple.bind_ofExcept
    intro key named
    apply Triple.bind _ (claimByKey_spec settled_holds)
    intro existing
    cases existing with
    | none => exact Triple.pure (settled none) fun state holds => ⟨holds.1, by simp⟩
    | some claim =>
      apply Triple.ofExcept settled
      intro replayed state passed holds
      refine ⟨holds.1, ?_⟩
      rintro response rfl
      obtain ⟨-, -, completed, -⟩ := holds.2 claim rfl
      exact answers_of_completed named completed passed

structure Secured (terms : Terms) (context : ExecutionContext) (request : RuntimeRequest)
    (pid : Nat) (used : Option KernelApproval) (claim : KernelRequestClaim)
    (state : KernelState) : Prop where
  quiet : Quiet pid state
  used : Used terms.proper pid used state
  reserved : ∃ row, .reserved pid row ∈ state.log ∧ row.status = .running ∧
    row.argumentsHash = requestHash terms.deployment request ∧
    (terms.proper → row = claim)
  running : terms.proper → claim.status = .running
  own : terms.proper → Owned pid claim state
  named : terms.proper → claim.capabilityId = request.capabilityId ∧
    idempotencyKey terms.deployment context (clean request.requestId) = .ok claim.idempotencyKey

theorem settled_secured : Settled terms pid (Secured terms context request pid used claim) := by
  intro before after secured rely
  refine ⟨rely.quiet secured.quiet, rely.used secured.used, ?_, secured.running,
    rely.owned secured.own, secured.named⟩
  obtain ⟨row, present, rest⟩ := secured.reserved
  exact ⟨row, rely.mem present, rest⟩

def Reserves (terms : Terms) (context : ExecutionContext) (request : RuntimeRequest) (pid : Nat)
    (used : Option KernelApproval) (reservation : IdempotencyReservation) (state : KernelState) :
    Prop :=
  match reservation.replay with
  | some response => Answers terms context request response state
  | none => ∃ claim, reservation.claim = some claim ∧
      Secured terms context request pid used claim state

theorem settled_reserves {reservation : IdempotencyReservation} :
    Settled terms pid (Reserves terms context request pid used reservation) := by
  intro before after holds rely
  unfold Reserves at holds ⊢
  split at holds
  · exact settled_answers _ _ holds rely
  · obtain ⟨claim, same, secured⟩ := holds
    exact ⟨claim, same, settled_secured _ _ secured rely⟩

theorem afterLostRace_spec (named : idempotencyKey terms.deployment context (clean request.requestId) = .ok key) :
    (setting terms).Triple pid entry (Quiet pid)
      (afterLostRace terms.deployment key (requestHash terms.deployment request))
      (Reserves terms context request pid used) := by
  unfold afterLostRace
  apply Triple.bind _ (rollback_spec settled_quiet fun _ quiet => quiet)
  intro _
  apply Triple.bind _ (claimByKey_spec settled_quiet)
  intro existing
  cases existing with
  | none => exact Triple.raise
  | some claim =>
    apply Triple.bind_ofExcept
    intro replayed passed
    cases replayed with
    | none => exact Triple.raise
    | some response =>
      refine Triple.pure ?_ ?_
      · exact settled_reserves
      · intro state holds
        obtain ⟨-, -, completed, -⟩ := holds.2 claim rfl
        exact answers_of_completed named completed passed

theorem adopt_spec (context : ExecutionContext) {runId : String} (improper : ¬ terms.proper)
    (hash : claim.argumentsHash = requestHash terms.deployment request) :
    (setting terms).Triple pid entry
      (fun state => Holds pid used state ∧ ∃ current, state.claims key = some current ∧
        current.argumentsHash = claim.argumentsHash)
      (commit { claim := some (.running key runId) })
      fun _ => Secured terms context request pid used { claim with
        status := .running, runId := some runId, responseJson := .obj [] } := by
  apply commit_spec
  · intro before after holds rely
    refine ⟨settled_holds _ _ holds.1 rely, ?_⟩
    obtain ⟨current, present, same⟩ := holds.2
    obtain ⟨later, present', same'⟩ := rely.hashes key current present
    exact ⟨later, present', same'.trans same⟩
  · exact settled_secured
  · intro state kept holds _ _ _
    obtain ⟨holds, current, present, same⟩ := holds
    refine ⟨advance_commit (advance_runningClaim kept improper), holds.quiet.commit, ?_, ?_,
      (absurd · improper), (absurd · improper), (absurd · improper)⟩
    · intro row used
      obtain ⟨read, -, row'⟩ := holds.used row used
      refine ⟨?_, row, ?_, .refl row, (absurd · improper)⟩
      · simp [KernelState.commit, KernelState.release, KernelState.writeApproval,
          KernelState.writeClaim, present, read]
      · simpa [KernelState.commit, KernelState.release, KernelState.writeApproval,
          KernelState.writeClaim, present] using row'
    · refine ⟨{ current with status := .running, runId := some runId, responseJson := .obj [] }, ?_,
        rfl, same.trans hash, (absurd · improper)⟩
      simp [KernelState.commit, KernelState.release, KernelState.writeApproval,
        KernelState.writeClaim, present]

theorem advance_claiming (kept : Invariant terms state)
    (claiming : Claiming terms.deployment context request pid used write state)
    (allowed : terms.bound → BoundReservation state (.commit { approval := write })) :
    Advance terms pid state (state.writeApproval pid write) := by
  cases set : isSet request.approvalId with
  | false =>
    rw [claiming.unnamed set]
    exact ⟨kept, .refl state⟩
  | true =>
    obtain ⟨row, rfl, locked, claimable⟩ := claiming.named set
    exact advance_executing kept locked claimable allowed

theorem used_claiming (claiming : Claiming terms.deployment context request pid used write state)
    (validated : ∀ row, used = some row → Validated terms.deployment context request row) (same : used = some row) :
    (state.writeApproval pid write).approvals row.id = some { row with status := .executing } := by
  obtain ⟨set, named⟩ := (validated row same).named
  obtain ⟨claimed, rfl, locked, claimable⟩ := claiming.named set
  have identical : claimed = row := by
    have held := (claiming.holds.used row same).row
    rw [named, ← claimable.named, locked.row] at held
    exact Option.some.inj held
  subst claimed
  rw [writeApproval_executing locked.row claimable.status]
  simp

theorem insertClaim_spec (running : claim.status = .running)
    (hash : claim.argumentsHash = requestHash terms.deployment request)
    (capability : claim.capabilityId = request.capabilityId)
    (named : idempotencyKey terms.deployment context (clean request.requestId) =
      .ok claim.idempotencyKey) (validated : ∀ row, used = some row → Validated terms.deployment context request row) :
    (setting terms).Triple pid entry (Claiming terms.deployment context request pid used write)
      (query (.commit { claim := some (.insert claim), approval := write }) :
        Fallible kernelDb ξ _)
      fun flushed state => match flushed with
        | .committed => Secured terms context request pid used claim state
        | .integrityError | .failed _ => Quiet pid state := by
  apply query_spec settled_claiming
  · intro flushed
    cases flushed with
    | committed => exact settled_secured
    | integrityError | failed => exact settled_quiet
  · intro state choice answer after kept claiming allowed performed
    rcases serve_commit performed with ⟨failed, rfl⟩ | ⟨-, unviolated, rfl, rfl⟩
    · refine ⟨⟨kept, .refl after⟩, ?_⟩
      cases answer with
      | committed => exact absurd rfl failed
      | integrityError | failed => exact claiming.holds.quiet
    · have absent : state.claims claim.idempotencyKey = none := by
        simp only [KernelState.violates, Bool.or_eq_false_iff] at unviolated
        simpa using unviolated.1
      have approval := advance_claiming kept claiming allowed
      have advance : Advance terms pid state
          (state.commit pid { claim := some (.insert claim), approval := write }) := by
        refine advance_commit (approval.trans (advance_insertClaim approval.invariant ?_ running))
        rw [writeApproval_claims, absent]
      refine ⟨advance, claiming.holds.quiet.commit, ?_, ⟨claim, ?_, running, hash, fun _ => rfl⟩,
        fun _ => running, fun _ => ⟨?_, ?_⟩, fun _ => ⟨capability, named⟩⟩
      · intro row same
        refine ⟨advance.step.mem (claiming.holds.used row same).read,
          { row with status := .executing }, used_claiming claiming validated same, ?_,
          fun _ => .inl rfl⟩
        exact ⟨rfl, by simp [(validated row same).status, ApprovalStatus.leadsTo]⟩
      · simp [KernelState.commit, KernelState.release, KernelState.writeClaim]
      · simp [KernelState.commit, KernelState.release, KernelState.writeClaim]
      · simp [KernelState.commit, KernelState.release, KernelState.writeClaim,
          KernelState.putClaim_claims]

theorem reserveRequest_spec {runId : String}
    (validated : ∀ row, used = some row → Validated terms.deployment context request row) :
    (setting terms).Triple pid entry (Holds pid used)
      (reserveRequest terms.deployment context request runId)
      (Reserves terms context request pid used) := by
  unfold reserveRequest
  dsimp only
  split
  · exact Triple.raise
  · apply Triple.bind_ofExcept
    intro key named
    apply Triple.bind _ (claimByKey_spec settled_holds)
    intro existing
    cases existing with
    | some claim =>
      apply Triple.bind_ofExcept
      intro replayed passed
      cases replayed with
      | some response =>
        refine Triple.pure ?_ ?_
        · exact settled_reserves
        · intro state holds
          obtain ⟨-, -, completed, -⟩ := holds.2 claim rfl
          exact answers_of_completed named completed passed
      | none =>
        -- only a claim in a status that the Kernel never writes is taken over
        obtain ⟨hash, notRunning, notCompleted⟩ := validateExisting_ok passed
        refine ⟨fun state holds => ?_⟩
        obtain ⟨holds, found⟩ := holds
        obtain ⟨same, status, -, current, present, hash'⟩ := found claim rfl
        have improper : ¬ terms.proper := by
          intro proper
          rcases status proper with running | completed
          · exact notRunning running
          · exact notCompleted completed
        refine (Triple.bind _ (adopt_spec context improper hash) ?_).safe state
          ⟨holds, current, by rw [same, present], hash'⟩
        intro _
        refine Triple.pure ?_ ?_
        · exact settled_reserves
        · exact fun state secured => ⟨_, rfl, secured⟩
    | none =>
      apply Triple.bind _ (Triple.weaken approvalToClaim_spec (fun state holds => holds.1)
        (fun _ _ claiming => claiming))
      intro write
      apply Triple.bind _ (insertClaim_spec rfl rfl rfl named validated)
      intro flushed
      cases flushed with
      | committed =>
        refine Triple.pure ?_ ?_
        · exact settled_reserves
        · exact fun state secured => ⟨_, rfl, secured⟩
      | integrityError => exact afterLostRace_spec named
      | failed error => exact Triple.raise

end Operly.Kernel
