import Operly.Kernel.Discipline

/-! Each change that a session makes keeps the invariant and its promise to the others. -/

namespace Operly.Kernel
open Python Security Concurrent

variable {terms : Terms} {pid : Nat} {state : KernelState}

structure Advance (terms : Terms) (pid : Nat) (before after : KernelState) : Prop where
  invariant : Invariant terms after
  step : Step terms.proper (· = pid) before after

theorem Advance.trans {first second third : KernelState} (left : Advance terms pid first second)
    (right : Advance terms pid second third) : Advance terms pid first third :=
  ⟨right.invariant, left.step.trans right.step⟩

theorem advance_locks {after : KernelState} (kept : Invariant terms state) (claims : after.claims = state.claims)
    (approvals : after.approvals = state.approvals) (log : after.log = state.log)
    (foreign : ∀ id holder, holder ≠ pid → state.approvalLock id = some holder →
      after.approvalLock id = some holder) (present : ∀ id holder, after.approvalLock id = some holder →
      ∃ row, state.approvals id = some row) : Advance terms pid state after where
  invariant := by
    have reserved : ∀ pid key, Reserved pid key after ↔ Reserved pid key state := by
      simp only [Reserved, log, implies_true]
    refine ⟨by simpa only [claims] using kept.keyed,
      by simpa only [approvals] using kept.identified, by simpa only [approvals] using present,
      by simpa only [log] using kept.gates, by simpa only [log] using kept.moves, ?_⟩
    intro proper
    obtain ⟨status, taken, held, owner, once, stored, answered⟩ := kept.claims proper
    exact ⟨by simpa only [claims] using status,
      by simpa only [claims] using taken, by simpa only [claims, reserved] using held,
      by simpa only [reserved] using owner, by simpa only [log] using once,
      by simpa only [claims, log] using stored, by simpa only [reserved, log] using answered⟩
  step := {
    log := ⟨[], by simp [log], by simp⟩
    locks id holder other held := ⟨foreign id holder other held, by rw [approvals]⟩
    approvals id row present := ⟨row, by rw [approvals, present], .refl row⟩
    claims _ key _ _ _ := by rw [claims]
    completed _ key row present _ := by rw [claims, present]
    hashes key row present := ⟨row, by rw [claims, present], rfl⟩ }

theorem advance_same {after : KernelState} (kept : Invariant terms state) (claims : after.claims = state.claims)
    (approvals : after.approvals = state.approvals) (log : after.log = state.log)
    (locks : after.approvalLock = state.approvalLock) : Advance terms pid state after := by
  apply advance_locks kept claims approvals log
  · intro id holder _ held
    rw [locks, held]
  · intro id holder held
    exact kept.locked id holder (locks ▸ held)

theorem advance_release (kept : Invariant terms state) : Advance terms pid state (state.release pid) := by
  refine advance_locks kept rfl rfl rfl ?_ ?_
  · intro id holder foreign held
    simp [KernelState.release, held, foreign]
  · intro id holder held
    simp only [KernelState.release] at held
    split at held
    · cases held
    · exact kept.locked id holder held

/-! ### Log entries -/

variable {entry : LogEntry} {key : String} {row : KernelRequestClaim}

theorem Step.record {proper : Prop} (mine : entry.pid = pid) :
    Step proper (· = pid) state (state.record entry) where
  log := ⟨[entry], rfl, by simp [mine]⟩
  locks _ _ _ held := ⟨held, rfl⟩
  approvals _ row present := ⟨row, present, .refl row⟩
  claims _ _ _ _ _ := rfl
  completed _ _ _ present _ := present
  hashes _ row present := ⟨row, present, rfl⟩

theorem reserved_record {owner : Nat} :
    Reserved owner key (state.record entry) ↔ Reserved owner key state ∨
      ∃ row, entry = .reserved owner row ∧ row.idempotencyKey = key := by
  simp only [Reserved, KernelState.mem_record]
  constructor
  · rintro ⟨row, old | rfl, same⟩
    · exact .inl ⟨row, old, same⟩
    · exact .inr ⟨row, rfl, same⟩
  · rintro (⟨row, old, same⟩ | ⟨row, rfl, same⟩)
    · exact ⟨row, .inl old, same⟩
    · exact ⟨row, .inr rfl, same⟩

theorem Invariant.record (kept : Invariant terms state)
    (gate : ∀ pid call request claim, entry = .invoked pid call request claim →
      Gate terms state.log pid call request claim) (move : terms.proper → terms.bound → ∀ pid before after invocation,
      entry = .moved pid before after invocation →
        Allowed terms.deployment before after invocation)
    (claims : terms.proper → ClaimsInvariant terms (state.record entry)) :
    Invariant terms (state.record entry) where
  keyed := kept.keyed
  identified := kept.identified
  locked := kept.locked
  gates earlier pid call request claim later split := by
    rcases later.eq_nil_or_concat with rfl | ⟨rest, last, rfl⟩
    · obtain ⟨rfl, new⟩ := List.append_inj' split rfl
      exact gate pid call request claim (List.singleton_inj.mp new)
    · have longer : state.log ++ [entry] =
          (earlier ++ .invoked pid call request claim :: rest) ++ [last] := by
        simpa [KernelState.record] using split
      exact kept.gates earlier pid call request claim rest (List.append_inj' longer rfl).1
  moves proper bound pid before after invocation present := by
    rcases KernelState.mem_record.mp present with old | new
    · exact kept.moves proper bound pid before after invocation old
    · exact move proper bound pid before after invocation new.symm
  claims := claims

theorem ClaimsInvariant.record (kept : ClaimsInvariant terms state) (reserved : ∀ pid row, entry ≠ .reserved pid row)
    (stored : ∀ pid row, entry ≠ .stored pid row) (fresh : ∀ key, entry.invokes terms.deployment key = true →
      state.log.countP (LogEntry.invokes terms.deployment key) = 0) : ClaimsInvariant terms (state.record entry) := by
  have same : ∀ owner key, Reserved owner key (state.record entry) ↔ Reserved owner key state := by
    simp [reserved_record, reserved]
  refine ⟨kept.status, kept.taken, ?_, ?_, ?_, ?_, ?_⟩
  · intro owner key owned
    exact kept.held owner key ((same owner key).mp owned)
  · intro first second key owned owned'
    exact kept.owner first second key ((same _ _).mp owned) ((same _ _).mp owned')
  · intro key
    simp only [KernelState.record, List.countP_append, List.countP_singleton]
    by_cases invokes : entry.invokes terms.deployment key = true
    · simp [fresh key invokes, invokes]
    · simpa [invokes] using kept.once key
  · intro key row present completed
    refine (kept.stored key row present completed).imp_right ?_
    rintro ⟨owner, old⟩
    exact ⟨owner, KernelState.mem_record.mpr (.inl old)⟩
  · intro owner row present
    rcases KernelState.mem_record.mp present with old | new
    · obtain ⟨owned, call, old', rest⟩ := kept.answered owner row old
      exact ⟨(same _ _).mpr owned, call, KernelState.mem_record.mpr (.inl old'), rest⟩
    · exact absurd new.symm (stored owner row)

theorem advance_lock (kept : Invariant terms state) {id : String} {row : KernelApproval}
    (present : state.approvals id = some row) (free : ∀ holder, state.approvalLock id = some holder → holder = pid) :
    Advance terms pid state ({ state with
      approvalLock := Function.update state.approvalLock id (some pid) }.record (.read pid row)) := by
  have locked : Advance terms pid state
      { state with approvalLock := Function.update state.approvalLock id (some pid) } := by
    refine advance_locks kept rfl rfl rfl ?_ ?_
    · intro other holder foreign held
      by_cases same : other = id
      · exact absurd (free holder (same ▸ held)) foreign
      · simpa [Function.update_of_ne same] using held
    · intro other holder held
      by_cases same : other = id
      · exact ⟨row, same ▸ present⟩
      · exact kept.locked other holder (by simpa [Function.update_of_ne same] using held)
  refine locked.trans ⟨locked.invariant.record (by simp) (by simp) ?_, .record rfl⟩
  intro proper
  exact (locked.invariant.claims proper).record (by simp) (by simp) (by simp [LogEntry.invokes])

def Quiet (pid : Nat) (state : KernelState) : Prop :=
  ∀ call request claim, .invoked pid call request claim ∉ state.log

theorem invokes_key {deployment : Deployment} {call : ProviderCall} {request : RuntimeRequest}
    {claim : Option KernelRequestClaim}
    (invokes : (LogEntry.invoked pid call request claim).invokes deployment key = true) :
    call.capability.mutating = true ∧
      idempotencyKey deployment call.context (clean request.requestId) = .ok key := by
  simp only [LogEntry.invokes, Bool.and_eq_true] at invokes
  refine ⟨invokes.1, ?_⟩
  have second := invokes.2
  split at second
  · next used same => rw [same, of_decide_eq_true second]
  · cases second

theorem Invariant.invoker_reserved (kept : Invariant terms state) (proper : terms.proper)
    (present : entry ∈ state.log) (invokes : entry.invokes terms.deployment key = true) : Reserved entry.pid key state := by
  cases entry with
  | invoked owner call request claim =>
    obtain ⟨mutating, used⟩ := invokes_key invokes
    obtain ⟨row, reserved, -, -, rest⟩ :=
      (kept.gate_of_mem present).reserved mutating
    obtain ⟨-, -, same⟩ := rest proper
    rw [used, Except.ok.injEq] at same
    exact ⟨row, reserved, same.symm⟩
  | read | moved | reserved | stored => simp [LogEntry.invokes] at invokes

theorem advance_invoke (kept : Invariant terms state) (quiet : Quiet pid state)
    {call : ProviderCall} {request : RuntimeRequest} {claim : Option KernelRequestClaim}
    (gate : Gate terms state.log pid call request claim) :
    Advance terms pid state (state.record (.invoked pid call request claim)) := by
  refine ⟨kept.record ?_ (by simp) ?_, .record rfl⟩
  · intro pid call request claim same
    cases same
    exact gate
  · intro proper
    refine (kept.claims proper).record (by simp) (by simp) ?_
    intro key invokes
    rw [List.countP_eq_zero]
    intro entry old invokes'
    -- the key is this session's own, and this session has not called a provider
    obtain ⟨mutating, used⟩ := invokes_key invokes
    obtain ⟨row, reserved, -, -, rest⟩ := gate.reserved mutating
    obtain ⟨-, -, same⟩ := rest proper
    rw [used, Except.ok.injEq] at same
    have mine : entry.pid = pid := (kept.claims proper).owner entry.pid pid key
      (kept.invoker_reserved proper old invokes') ⟨row, reserved, same.symm⟩
    cases entry with
    | invoked owner call request claim =>
      cases mine
      exact quiet call request claim old
    | read | moved | reserved | stored => simp [LogEntry.invokes] at invokes'

theorem advance_putApproval (kept : Invariant terms state) {row : KernelApproval}
    (later : ∀ current, state.approvals row.id = some current → Evolves current row)
    (free : ∀ holder, state.approvalLock row.id = some holder → holder = pid) :
    Advance terms pid state (state.putApproval row) where
  invariant := by
    refine ⟨kept.keyed, ?_, ?_, kept.gates, kept.moves, ?_⟩
    · intro id other present
      by_cases same : id = row.id
      · subst same
        simp only [KernelState.putApproval_approvals, Function.update_self, Option.some.injEq] at present
        rw [present]
      · simp only [KernelState.putApproval_approvals, Function.update_of_ne same] at present
        exact kept.identified id other present
    · intro id holder held
      by_cases same : id = row.id
      · exact ⟨row, by simp [KernelState.putApproval_approvals, same]⟩
      · simpa [KernelState.putApproval_approvals, Function.update_of_ne same] using
          kept.locked id holder held
    · intro proper
      obtain ⟨status, taken, held, owner, once, stored, answered⟩ := kept.claims proper
      exact ⟨status, taken, held, owner, once, stored, answered⟩
  step := {
    log := ⟨[], by simp, by simp⟩
    locks id holder foreign held := by
      have other : id ≠ row.id := by
        rintro rfl
        exact foreign (free holder held)
      exact ⟨held, by simp [KernelState.putApproval_approvals, other]⟩
    approvals id current present := by
      by_cases same : id = row.id
      · subst same
        exact ⟨row, by simp [KernelState.putApproval_approvals], later current present⟩
      · exact ⟨current, by simp [KernelState.putApproval_approvals, same, present], .refl current⟩
    claims _ _ _ _ _ := rfl
    completed _ _ _ present _ := present
    hashes _ current present := ⟨current, present, rfl⟩ }

theorem advance_writeApproval (kept : Invariant terms state) {write : ApprovalWrite}
    (unblocked : state.blocked pid (some write) = false)
    (inserted : ∀ row, write = .insert row → state.approvals row.id = none)
    (evolves : ∀ row, state.approvals write.id = some row → (∀ row, write ≠ .insert row) →
      Evolves row (write.update row))
    (allowed : terms.proper → terms.bound → ∀ row, state.approvals write.id = some row →
      row.status ≠ (write.update row).status →
        Allowed terms.deployment row (write.update row) write.invocation) :
    Advance terms pid state (state.writeApproval pid (some write)) := by
  by_cases insertion : ∃ row, write = .insert row
  · obtain ⟨row, rfl⟩ := insertion
    have absent := inserted row rfl
    have put : Advance terms pid state (state.putApproval row) := by
      apply advance_putApproval kept
      · intro current present
        rw [absent] at present
        cases present
      · intro holder held
        obtain ⟨current, present⟩ := kept.locked row.id holder held
        rw [absent] at present
        cases present
    exact put.trans (advance_same put.invariant rfl rfl rfl rfl)
  · push Not at insertion
    rw [KernelState.writeApproval_update state pid insertion]
    cases present : state.approvals write.id with
    | none => exact ⟨kept, .refl state⟩
    | some row =>
      dsimp only
      have later := evolves row present insertion
      have same : (write.update row).id = write.id :=
        later.id.trans (kept.identified write.id row present)
      have put : Advance terms pid state (state.putApproval (write.update row)) := by
        apply advance_putApproval kept
        · intro current present'
          rw [same, present, Option.some.injEq] at present'
          exact present' ▸ later
        · intro holder held
          rw [same] at held
          cases write with
          | insert row => exact absurd rfl (insertion row)
          | decided | executing | consumed =>
            simpa [KernelState.blocked, held] using unblocked
      split
      · exact put
      · next moved =>
        refine put.trans ⟨put.invariant.record (by simp) ?_ ?_, .record rfl⟩
        · intro proper bound owner before after invocation same
          cases same
          exact allowed proper bound row present moved
        · intro proper
          exact (put.invariant.claims proper).record (by simp) (by simp) (by simp [LogEntry.invokes])

/-! ### Claims -/

theorem putClaim_rows {current : KernelRequestClaim} (present : (state.putClaim row).claims key = some current) :
    key = row.idempotencyKey ∧ current = row ∨
      key ≠ row.idempotencyKey ∧ state.claims key = some current := by
  by_cases same : key = row.idempotencyKey
  · left
    simp only [KernelState.putClaim_claims, same, Function.update_self, Option.some.injEq] at present
    exact ⟨same, present.symm⟩
  · right
    exact ⟨same, by simpa only [KernelState.putClaim_claims, Function.update_of_ne same] using present⟩

theorem ClaimsInvariant.putClaim (kept : ClaimsInvariant terms state)
    (status : row.status = .running ∨ row.status = .completed) (stored : row.status = .completed →
      terms.taken row.idempotencyKey ∨ ∃ pid, .stored pid row ∈ state.log) :
    ClaimsInvariant terms (state.putClaim row) := by
  have exist : ∀ key, (∃ current, state.claims key = some current) →
      ∃ current, (state.putClaim row).claims key = some current := by
    rintro key ⟨current, present⟩
    by_cases same : key = row.idempotencyKey
    · exact ⟨row, by simp [KernelState.putClaim_claims, same]⟩
    · exact ⟨current, by simpa [KernelState.putClaim_claims, same] using present⟩
  refine ⟨?_, ?_, ?_, kept.owner, kept.once, ?_, kept.answered⟩
  · intro key current present
    rcases putClaim_rows present with ⟨-, rfl⟩ | ⟨-, old⟩
    · exact status
    · exact kept.status key current old
  · intro key taken
    exact exist key (kept.taken key taken)
  · intro owner key owned
    obtain ⟨untaken, present⟩ := kept.held owner key owned
    exact ⟨untaken, exist key present⟩
  · intro key current present completed
    rcases putClaim_rows present with ⟨rfl, rfl⟩ | ⟨-, old⟩
    · exact stored completed
    · exact kept.stored key current old completed

theorem ClaimsInvariant.record_reserved (kept : ClaimsInvariant terms state)
    (untaken : ¬ terms.taken row.idempotencyKey) (present : ∃ current, state.claims row.idempotencyKey = some current)
    (owner : ∀ other, Reserved other row.idempotencyKey state → other = pid) :
    ClaimsInvariant terms (state.record (.reserved pid row)) := by
  have owners : ∀ other key, Reserved other key (state.record (.reserved pid row)) →
      Reserved other key state ∨ other = pid ∧ key = row.idempotencyKey := by
    intro other key owned
    rcases reserved_record.mp owned with old | ⟨claim, same, named⟩
    · exact .inl old
    · cases same
      exact .inr ⟨rfl, named.symm⟩
  refine ⟨kept.status, kept.taken, ?_, ?_, ?_, ?_, ?_⟩
  · intro other key owned
    rcases owners other key owned with old | ⟨-, rfl⟩
    · exact kept.held other key old
    · exact ⟨untaken, present⟩
  · intro first second key owned owned'
    rcases owners first key owned with old | ⟨rfl, rfl⟩
    · rcases owners second key owned' with old' | ⟨rfl, rfl⟩
      · exact kept.owner first second key old old'
      · exact owner first old
    · rcases owners second _ owned' with old' | ⟨rfl, -⟩
      · exact (owner second old').symm
      · rfl
  · intro key
    simpa [KernelState.record, LogEntry.invokes] using kept.once key
  · intro key current present completed
    refine (kept.stored key current present completed).imp_right ?_
    rintro ⟨other, old⟩
    exact ⟨other, KernelState.mem_record.mpr (.inl old)⟩
  · intro other claim stored
    have old : .stored other claim ∈ state.log := by simpa using stored
    obtain ⟨owned, call, old', rest⟩ := kept.answered other claim old
    exact ⟨reserved_record.mpr (.inl owned), call, KernelState.mem_record.mpr (.inl old'), rest⟩

theorem ClaimsInvariant.record_stored (kept : ClaimsInvariant terms state)
    (owned : Reserved pid row.idempotencyKey state) (called : ∃ entry ∈ state.log, entry.pid = pid ∧
      entry.invokes terms.deployment row.idempotencyKey = true) :
    ClaimsInvariant terms (state.record (.stored pid row)) := by
  have same : ∀ other key, Reserved other key (state.record (.stored pid row)) ↔
      Reserved other key state := by
    simp [reserved_record]
  refine ⟨kept.status, kept.taken, ?_, ?_, ?_, ?_, ?_⟩
  · intro other key owned
    exact kept.held other key ((same other key).mp owned)
  · intro first second key owned owned'
    exact kept.owner first second key ((same _ _).mp owned) ((same _ _).mp owned')
  · intro key
    simpa [KernelState.record, LogEntry.invokes] using kept.once key
  · intro key current present completed
    refine (kept.stored key current present completed).imp_right ?_
    rintro ⟨other, old⟩
    exact ⟨other, KernelState.mem_record.mpr (.inl old)⟩
  · intro other claim stored
    rcases KernelState.mem_record.mp stored with old | new
    · obtain ⟨owned', call, old', rest⟩ := kept.answered other claim old
      exact ⟨(same _ _).mpr owned', call, KernelState.mem_record.mpr (.inl old'), rest⟩
    · cases new
      obtain ⟨call, old, rest⟩ := called
      exact ⟨(same _ _).mpr owned, call, KernelState.mem_record.mpr (.inl old), rest⟩

theorem Step.putClaim {proper : Prop} (mine : proper → ∀ owner, Reserved owner row.idempotencyKey state → owner = pid)
    (open' : proper → ∀ current, state.claims row.idempotencyKey = some current →
      current.status ≠ .completed) (hash : ∀ current, state.claims row.idempotencyKey = some current →
      row.argumentsHash = current.argumentsHash) :
    Step proper (· = pid) state (state.putClaim row) where
  log := ⟨[], by simp, by simp⟩
  locks _ _ _ held := ⟨held, rfl⟩
  approvals _ current present := ⟨current, present, .refl current⟩
  claims holds key owner foreign owned := by
    have other : key ≠ row.idempotencyKey := by
      rintro rfl
      exact foreign (mine holds owner owned)
    simp [KernelState.putClaim_claims, other]
  completed holds key current present completed := by
    have other : key ≠ row.idempotencyKey := by
      rintro rfl
      exact open' holds current present completed
    simpa [KernelState.putClaim_claims, other] using present
  hashes key current present := by
    by_cases same : key = row.idempotencyKey
    · subst same
      exact ⟨row, by simp [KernelState.putClaim_claims], hash current present⟩
    · exact ⟨current, by simpa [KernelState.putClaim_claims, same] using present, rfl⟩

theorem Invariant.putClaim (kept : Invariant terms state)
    (claims : terms.proper → ClaimsInvariant terms (state.putClaim row)) :
    Invariant terms (state.putClaim row) where
  keyed key current present := by
    rcases putClaim_rows present with ⟨rfl, rfl⟩ | ⟨-, old⟩
    · rfl
    · exact kept.keyed key current old
  identified := kept.identified
  locked := kept.locked
  gates := kept.gates
  moves := kept.moves
  claims := claims

theorem advance_insertClaim (kept : Invariant terms state) (absent : state.claims row.idempotencyKey = none)
    (running : row.status = .running) : Advance terms pid state (state.writeClaim pid (some (.insert row))) := by
  have unowned : terms.proper → ∀ owner, ¬ Reserved owner row.idempotencyKey state := by
    intro proper owner owned
    obtain ⟨-, current, present⟩ := (kept.claims proper).held owner _ owned
    rw [absent] at present
    cases present
  have put : Invariant terms (state.putClaim row) := kept.putClaim fun proper =>
    (kept.claims proper).putClaim (.inl running) (by simp [running])
  refine ⟨put.record (by simp) (by simp) ?_, Step.trans (.putClaim ?_ ?_ ?_) (.record rfl)⟩
  · intro proper
    refine (put.claims proper).record_reserved ?_ ⟨row, by simp [KernelState.putClaim_claims]⟩ ?_
    · intro taken
      obtain ⟨current, present⟩ := (kept.claims proper).taken _ taken
      rw [absent] at present
      cases present
    · exact fun other owned => absurd owned (unowned proper other)
  · exact fun proper owner owned => absurd owned (unowned proper owner)
  · intro _ current present
    rw [absent] at present
    cases present
  · intro current present
    rw [absent] at present
    cases present

theorem advance_runningClaim (kept : Invariant terms state) (improper : ¬ terms.proper) {runId : String} :
    Advance terms pid state (state.writeClaim pid (some (.running key runId))) := by
  simp only [KernelState.writeClaim]
  cases present : state.claims key with
  | none => exact ⟨kept, .refl state⟩
  | some row =>
    have named := kept.keyed key row present
    have put : Invariant terms (state.putClaim { row with
        status := .running, runId := some runId, responseJson := .obj [] }) :=
      kept.putClaim (absurd · improper)
    refine ⟨put.record (by simp) (by simp) (absurd · improper),
      Step.trans (.putClaim (absurd · improper) (absurd · improper) ?_) (.record rfl)⟩
    intro current present'
    rw [named, present, Option.some.injEq] at present'
    rw [← present']

theorem advance_completeClaim (kept : Invariant terms state) {runId : String} {capabilityId : Option String}
    {responseJson : Json} (mine : terms.proper → Reserved pid key state ∧
      (∃ row, state.claims key = some row ∧ row.status = .running) ∧
      ∃ entry ∈ state.log, entry.pid = pid ∧ entry.invokes terms.deployment key = true) :
    Advance terms pid state
      (state.writeClaim pid (some (.completed key runId capabilityId responseJson))) := by
  simp only [KernelState.writeClaim]
  cases present : state.claims key with
  | none => exact ⟨kept, .refl state⟩
  | some row =>
    dsimp only
    have named := kept.keyed key row present
    subst named
    -- the entry first: a completed claim has to be stored by somebody
    have logged : Invariant terms (state.record (.stored pid { row with
        status := .completed, runId := some runId, capabilityId, responseJson })) := by
      refine kept.record (by simp) (by simp) ?_
      intro proper
      obtain ⟨owned, -, called⟩ := mine proper
      exact (kept.claims proper).record_stored owned called
    have put : Invariant terms ((state.record (.stored pid { row with
        status := .completed, runId := some runId, capabilityId, responseJson })).putClaim { row with
          status := .completed, runId := some runId, capabilityId, responseJson }) := by
      apply logged.putClaim
      intro proper
      exact (logged.claims proper).putClaim (.inr rfl) fun _ => .inr ⟨pid, by simp⟩
    refine ⟨put, Step.trans (.record rfl) (.putClaim ?_ ?_ ?_)⟩
    · intro proper owner owned
      exact (kept.claims proper).owner owner pid row.idempotencyKey
        (by simpa [reserved_record] using owned) (mine proper).1
    · intro proper current present'
      obtain ⟨-, ⟨running, present'', status⟩, -⟩ := mine proper
      simp only [KernelState.record_claims, present''] at present'
      cases present'
      simp [status]
    · intro current present'
      simp only [KernelState.record_claims, present, Option.some.injEq] at present'
      rw [← present']

end Operly.Kernel
