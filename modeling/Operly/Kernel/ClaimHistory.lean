import Operly.Kernel.Phases

/-! One claim over the requests of a session: reads see its row, and commits write it. -/

namespace Operly.Kernel
open Python Security Concurrent

def ClaimWrite.rowAfter (key : String) (old : Option KernelRequestClaim) :
    ClaimWrite → Option KernelRequestClaim
  | .insert row => if row.idempotencyKey = key then some row else old
  | .running other runId =>
      if other = key then
        old.map fun row => { row with status := .running, runId := some runId, responseJson := .obj [] }
      else old
  | .completed other runId capabilityId responseJson =>
      if other = key then
        old.map fun row =>
          { row with status := .completed, runId := some runId, capabilityId, responseJson }
      else old

def rowAfter (key : String) (old : Option KernelRequestClaim) :
    Sigma kernelDb.Answer → Option KernelRequestClaim
  | ⟨.commit changes, (flushed : Flushed)⟩ =>
      if flushed = .committed then
        match changes.claim with
        | some write => write.rowAfter key old
        | none => old
      else old
  | _ => old

def SeesRow (key : String) (row : Option KernelRequestClaim) : Sigma kernelDb.Answer → Prop
  | ⟨.claimByKey other, answer⟩ => other = key → answer = row
  | _ => True

/-- The row under a key before and after the requests of a session, when nobody else writes it. -/
inductive ClaimHistory (key : String) :
    Option KernelRequestClaim → Steps → Option KernelRequestClaim → Prop
  | nil (row : Option KernelRequestClaim) : ClaimHistory key row [] row
  | cons {before after : Option KernelRequestClaim} {step : Sigma kernelDb.Answer} {rest : Steps}
      (sees : SeesRow key before step) (history : ClaimHistory key (rowAfter key before step) rest after) :
      ClaimHistory key before (step :: rest) after

namespace ClaimHistory
variable {key : String} {before after : Option KernelRequestClaim}

theorem nil_iff : ClaimHistory key before [] after ↔ after = before := by
  constructor
  · intro history
    cases history
    rfl
  · rintro rfl
    exact .nil _

theorem append_iff {early late : Steps} : ClaimHistory key before (early ++ late) after ↔
    ∃ middle, ClaimHistory key before early middle ∧ ClaimHistory key middle late after := by
  induction early generalizing before with
  | nil =>
    constructor
    · exact fun history => ⟨before, .nil _, history⟩
    · rintro ⟨middle, first, second⟩
      rw [nil_iff.mp first] at second
      exact second
  | cons step rest ih =>
    constructor
    · intro history
      cases history with
      | cons sees history =>
        obtain ⟨middle, first, second⟩ := ih.mp history
        exact ⟨middle, .cons sees first, second⟩
    · rintro ⟨middle, first, second⟩
      cases first with
      | cons sees first => exact .cons sees (ih.mpr ⟨middle, first, second⟩)

end ClaimHistory

theorem Uncommitted.rowAfter {key : String} {old : Option KernelRequestClaim}
    {step : Sigma kernelDb.Answer} (uncommitted : Uncommitted step) : rowAfter key old step = old := by
  obtain ⟨op, answer⟩ := step
  cases op with
  | commit changes => exact if_neg uncommitted
  | tenant | claimByKey | approvalForUpdate | pendingApproval | provider | rollback => rfl

namespace ClaimHistory
variable {key : String} {before after : Option KernelRequestClaim}

theorem uncommitted {steps : Steps} (history : ClaimHistory key before steps after)
    (within : ∀ step ∈ steps, Uncommitted step) : after = before := by
  induction history with
  | nil => rfl
  | cons sees _ ih =>
    obtain ⟨first, rest⟩ := List.forall_mem_cons.mp within
    rw [ih rest, first.rowAfter]

theorem reading {steps : Steps} (history : ClaimHistory key before steps after)
    (within : ∀ step ∈ steps, Reading step.1) : after = before :=
  history.uncommitted (uncommitted_of_reads within)

theorem commit_iff {changes : Changes} {rest : Steps} :
    ClaimHistory key before (⟨.commit changes, Flushed.committed⟩ :: rest) after ↔
      ClaimHistory key (match changes.claim with
        | some write => write.rowAfter key before
        | none => before) rest after := by
  constructor
  · intro history
    cases history with
    | cons sees history => exact history
  · exact fun history => .cons trivial history

theorem read {answer : Option KernelRequestClaim} {rest : Steps}
    (history : ClaimHistory key before (⟨.claimByKey key, answer⟩ :: rest) after) :
    answer = before ∧ ClaimHistory key before rest after := by
  cases history with
  | cons sees history => exact ⟨sees rfl, history⟩

end ClaimHistory

/-! ### Sessions in the world -/

def Keyed (state : KernelState) : Prop :=
  ∀ key row, state.claims key = some row → row.idempotencyKey = key

variable {state next : KernelState} {deployment : Deployment} {pid : Nat}

theorem Keyed.putClaim {row : KernelRequestClaim} (keyed : Keyed state) : Keyed (state.putClaim row) := by
  intro key current present
  by_cases same : key = row.idempotencyKey
  · subst same
    simp only [KernelState.putClaim_claims, Function.update_self, Option.some.injEq] at present
    rw [present]
  · exact keyed key current (by simpa [KernelState.putClaim_claims, same] using present)

theorem putClaim_row {state : KernelState} {row : KernelRequestClaim} {other key : String}
    {change : KernelRequestClaim → KernelRequestClaim} (keyed : Keyed state)
    (present : state.claims other = some row) (kept : (change row).idempotencyKey = row.idempotencyKey) :
    (state.putClaim (change row)).claims key =
      if other = key then (state.claims key).map change else state.claims key := by
  have named : (change row).idempotencyKey = other := by rw [kept, keyed other row present]
  rw [KernelState.putClaim_claims, named]
  by_cases same : other = key
  · subst same
    simp [present]
  · simp [same, Ne.symm same]

theorem absent_row {other key : String} {change : KernelRequestClaim → KernelRequestClaim}
    (absent : state.claims other = none) :
    state.claims key = if other = key then (state.claims key).map change else state.claims key := by
  split
  · next same => simp [← same, absent]
  · rfl

theorem writeClaim_row {state : KernelState} {pid : Nat} {write : ClaimWrite} {key : String}
    (keyed : Keyed state) : Keyed (state.writeClaim pid (some write)) ∧
      (state.writeClaim pid (some write)).claims key = write.rowAfter key (state.claims key) := by
  cases write with
  | insert row =>
    refine ⟨keyed.putClaim, ?_⟩
    simp only [KernelState.writeClaim, KernelState.record_claims, KernelState.putClaim_claims,
      ClaimWrite.rowAfter, Function.update_apply, eq_comm]
  | running other runId =>
    cases present : state.claims other with
    | none =>
      simp only [KernelState.writeClaim, present]
      exact ⟨keyed, absent_row present⟩
    | some row =>
      simp only [KernelState.writeClaim, present]
      refine ⟨keyed.putClaim, ?_⟩
      let change (row : KernelRequestClaim) : KernelRequestClaim :=
        { row with status := .running, runId := some runId, responseJson := .obj [] }
      exact @putClaim_row state row other key change keyed present rfl
  | completed other runId capabilityId responseJson =>
    cases present : state.claims other with
    | none =>
      simp only [KernelState.writeClaim, present]
      exact ⟨keyed, absent_row present⟩
    | some row =>
      simp only [KernelState.writeClaim, present]
      refine ⟨keyed.putClaim, ?_⟩
      let change (row : KernelRequestClaim) : KernelRequestClaim :=
        { row with status := .completed, runId := some runId, capabilityId, responseJson }
      exact @putClaim_row state row other key change keyed present rfl

theorem Keyed.of_claims (keyed : Keyed state) (same : next.claims = state.claims) : Keyed next := by
  unfold Keyed
  rwa [same]

theorem serve_row {op : kernelDb.Op} {choice : Choice} {answer : kernelDb.Answer op} {key : String}
    (keyed : Keyed state) (performed : serve deployment pid op choice state = some (answer, next)) :
    Keyed next ∧ SeesRow key (state.claims key) ⟨op, answer⟩ ∧
      next.claims key = rowAfter key (state.claims key) ⟨op, answer⟩ := by
  have unchanged : next.claims = state.claims → SeesRow key (state.claims key) ⟨op, answer⟩ →
      rowAfter key (state.claims key) ⟨op, answer⟩ = state.claims key →
      Keyed next ∧ SeesRow key (state.claims key) ⟨op, answer⟩ ∧
        next.claims key = rowAfter key (state.claims key) ⟨op, answer⟩ :=
    fun same sees row => ⟨keyed.of_claims same, sees, by rw [row, same]⟩
  cases op with
  | commit changes =>
    rcases serve_commit performed with ⟨failed, rfl⟩ | ⟨-, -, rfl, rfl⟩
    · exact unchanged rfl trivial (if_neg failed)
    · have approved : Keyed (state.writeApproval pid changes.approval) :=
        keyed.of_claims (writeApproval_claims _)
      have committed : (state.commit pid changes).claims =
          ((state.writeApproval pid changes.approval).writeClaim pid changes.claim).claims := rfl
      have after : rowAfter key (state.claims key) ⟨.commit changes, Flushed.committed⟩ =
          match changes.claim with
          | some write => write.rowAfter key (state.claims key)
          | none => state.claims key := rfl
      cases written : changes.claim with
      | none =>
        rw [written] at committed after
        have same : (state.writeApproval pid changes.approval).claims = state.claims :=
          writeApproval_claims _
        exact unchanged (committed.trans same) trivial after
      | some write =>
        rw [written] at committed after
        obtain ⟨kept, row⟩ := @writeClaim_row _ pid write key approved
        refine ⟨kept.of_claims committed, trivial, ?_⟩
        rw [committed, row, writeApproval_claims]
        exact after.symm
  | tenant =>
    cases choice with
    | tenant row =>
      cases performed
      exact unchanged rfl trivial rfl
    | default | provider | failed => cases performed
  | provider =>
    cases choice with
    | provider outcome commits =>
      cases performed
      cases commits with
      | false => exact unchanged rfl trivial rfl
      | true => exact unchanged rfl trivial rfl
    | default | tenant | failed => cases performed
  | claimByKey other =>
    cases performed
    exact unchanged rfl (by rintro rfl; rfl) rfl
  | pendingApproval | rollback =>
    cases performed
    exact unchanged rfl trivial rfl
  | approvalForUpdate =>
    simp only [serve] at performed
    split at performed
    · cases performed
      exact unchanged rfl trivial rfl
    · split at performed
      · cases performed
        exact unchanged rfl trivial rfl
      · split at performed
        · cases performed
        · cases performed
          exact unchanged rfl trivial rfl

structure Undisturbed (key : String) (others : KernelState → KernelState) : Prop where
  claim : ∀ state, (others state).claims key = state.claims key
  keyed : ∀ state, Keyed state → Keyed (others state)

def Sane {key : String} (_ : kernelDb.Op) (choice : Choice × Subtype (Undisturbed key))
    (_ : KernelState) : Prop :=
  ∀ message code statusCode approvalId,
    choice.1 ≠ .failed (.execution message code statusCode approvalId)

def DatabaseExceptions (steps : Steps) : Prop :=
  ∀ changes message code statusCode approvalId,
    ⟨.commit changes, Flushed.failed (.execution message code statusCode approvalId)⟩ ∉ steps

theorem serve_failed {choice : Choice} {changes : Changes} {error : KernelError}
    (performed : serve deployment pid (.commit changes) choice state = some (.failed error, next)) :
    choice = .failed error := by
  cases choice with
  | failed cause =>
    cases performed
    rfl
  | default | tenant | provider =>
    simp only [serve] at performed
    split at performed
    · cases performed
    · split at performed
      · cases performed
      · cases performed

/-- A session in the world, with others at work on everything but its claim, has a history of its
claim. -/
theorem evaluates_history {key : String} {α : Type} {program : Program kernelDb α} {final : KernelState} {value : α}
    (keyed : Keyed state)
    (run : Evaluates ((kernelWorld deployment).amid (Undisturbed key)) pid Sane program state value final) :
    ∃ steps, Program.Trace program steps value ∧
      ClaimHistory key (state.claims key) steps (final.claims key) ∧ DatabaseExceptions steps := by
  obtain ⟨steps, traced, -, history, database⟩ := Evaluates.trace
    (fun steps after => Keyed after ∧ ClaimHistory key (state.claims key) steps (after.claims key) ∧
      DatabaseExceptions steps) run ⟨keyed, .nil _, by simp [DatabaseExceptions]⟩ (by
    rintro steps op ⟨choice, others, undisturbed⟩ before answer after ⟨named, history, database⟩ sane performed
    obtain ⟨kept, sees, row⟩ := serve_row (undisturbed.keyed before named) performed
    rw [undisturbed.claim before] at sees row
    refine ⟨kept, ClaimHistory.append_iff.mpr ⟨_, history, .cons sees ?_⟩, ?_⟩
    · rw [row]
      exact .nil _
    · intro changes message code statusCode approvalId member
      rcases List.mem_append.mp member with earlier | last
      · exact database _ _ _ _ _ earlier
      · cases List.mem_singleton.mp last
        exact sane _ _ _ _ (serve_failed performed))
  exact ⟨steps, traced, history, database⟩

end Operly.Kernel
