import Operly.Kernel.Execution

/-! What the Kernel guarantees on every run of its sessions, from the database they start on:
at most one provider call for a mutation, every gate before every provider call, and the life
of an approval. -/

namespace Operly.Kernel
open Python Security Concurrent

abbrev KernelPool := Pool kernelDb Entry Result KernelState

abbrev kernelStep (deployment : Deployment) (pool : KernelPool) (move : Move Entry Choice) :
    Option KernelPool :=
  pool.step (kernelWorld deployment) (main deployment) move

structure Initial (state : KernelState) : Prop where
  keyed : ∀ key row, state.claims key = some row → row.idempotencyKey = key
  identified : ∀ id row, state.approvals id = some row → row.id = id
  unlocked : ∀ id, state.approvalLock id = none
  quiet : state.log = []

def ProperClaims (state : KernelState) : Prop :=
  ∀ key row, state.claims key = some row → row.status = .running ∨ row.status = .completed

def termsOf (deployment : Deployment) (initial : KernelState) (bound : Prop) : Terms where
  deployment
  proper := ProperClaims initial
  bound
  taken key := ∃ row, initial.claims key = some row

variable {initial : KernelState} {deployment : Deployment} {moves : List (Move Entry Choice)}
  {approval : Option KernelApproval}

theorem Initial.invariant (start : Initial initial) (deployment : Deployment) (bound : Prop) :
    Invariant (termsOf deployment initial bound) initial := by
  have none : ∀ entry, entry ∉ initial.log := by simp [start.quiet]
  have unreserved : ∀ pid key, ¬ Reserved pid key initial := by
    rintro pid key ⟨row, present, -⟩
    exact none _ present
  refine ⟨start.keyed, start.identified, ?_, ?_, ?_, ?_⟩
  · intro id holder held
    rw [start.unlocked] at held
    cases held
  · intro earlier pid call request claim later split
    simp [start.quiet] at split
  · exact fun _ _ _ _ _ _ present => absurd present (none _)
  · intro proper
    refine ⟨proper, fun _ taken => taken, ?_, ?_, ?_, ?_, ?_⟩
    · exact fun _ _ owned => absurd owned (unreserved _ _)
    · exact fun _ _ _ owned => absurd owned (unreserved _ _)
    · simp [start.quiet]
    · exact fun key row present _ => .inl ⟨row, present⟩
    · exact fun _ _ present => absurd present (none _)

def ReservesBound (pool : KernelPool) : Move Entry Choice → Prop
  | .act pid _ => ∀ entry op next, pool.tasks pid = some ⟨entry, some (.request op next)⟩ →
      BoundReservation pool.shared op
  | _ => True

theorem kernel_sound {final : KernelPool} (start : Initial initial) (bound : Prop) (run : Runs (kernelStep deployment)
      (fun pool move => bound → ReservesBound pool move) (Pool.initial initial) moves final) :
    Sound (setting (termsOf deployment initial bound)) Quiet
      (Promise (termsOf deployment initial bound)) final := by
  have initially : Sound (setting (termsOf deployment initial bound)) Quiet
      (Promise (termsOf deployment initial bound)) (Pool.initial initial) := by
    refine ⟨start.invariant deployment bound, ?_, ?_⟩
    · intro pid _ call request claim present
      simp [Pool.initial, start.quiet] at present
    · intro pid entry program present
      simp [Pool.initial] at present
  apply (kernel_verified (termsOf deployment initial bound)).sound initially
  apply run.weaken
  intro pool move allowed
  cases move with
  | act pid choice => exact fun entry op next present holds => allowed holds entry op next present
  | start | crash => trivial

theorem kernel_sound_free {final : KernelPool} (start : Initial initial)
    (run : Runs (kernelStep deployment) (fun _ _ => True) (Pool.initial initial) moves final) :
    Sound (setting (termsOf deployment initial False)) Quiet
      (Promise (termsOf deployment initial False)) final :=
  kernel_sound start False (run.weaken fun _ _ _ never => never.elim)

/-! ### A small deployment, for runs that can be computed -/

mutual
/-- The text of a JSON value without escapes, which stands in for its digest. -/
def plainText : Json → String
  | .null => "null"
  | .bool value => if value then "true" else "false"
  | .int value => toString value
  | .float _ => "float"
  | .str value => "'" ++ value ++ "'"
  | .arr items => "[" ++ plainItems items ++ "]"
  | .obj fields => "<" ++ plainFields fields ++ ">"
def plainItems : List Json → String
  | [] => ""
  | item :: rest => plainText item ++ "," ++ plainItems rest
def plainFields : Fields → String
  | [] => ""
  | (key, item) :: rest => key ++ ":" ++ plainText item ++ "," ++ plainFields rest
end

def mailSend : CapabilitySpec where
  id := "mail.send"
  version := "1.0.0"
  providerId := "sample"
  scopes := ["personal"]
  inputSchema := []
  outputSchema := []
  risk := .medium
  approvalRequired := true

def noteWrite : CapabilitySpec where
  id := "note.write"
  version := "1.0.0"
  providerId := "sample"
  scopes := ["personal"]
  inputSchema := []
  outputSchema := []
  risk := .low

def sample : Deployment where
  registry := {
    specs := [mailSend, noteWrite]
    normalized := by decide
    distinct := by decide }
  search _ _ := []
  search_mem := by simp
  providers := ["sample"]
  digest text := text
  sha256 := plainText
  str
    | .str text => text
    | _ => ""
  str_text _ := rfl
  runId pid := if pid = 0 then "run-0" else "run-1"
  approvalId _ := "approval-0"

def sampleContext : ExecutionContext where
  workspaceId := none
  userId := some "u1"
  role := "owner"
  permissions := []
  channel := "web"
  surface := .personalPrivate
  conversationId := none
  metadata := []
  scopeKind := .personal
  principalId := some "user:u1"
  workspaceMode := "full"

def sampleRequest (capabilityId : String) (approvalId : Option String) : RuntimeRequest where
  capabilityId := some capabilityId
  requestId := some "r1"
  approvalId

def sampleApproval (principalId : Option String) (status : ApprovalStatus) : KernelApproval where
  id := "a1"
  scopeKind := .personal
  workspaceId := none
  ownerUserId := some "u1"
  requestedByPrincipalId := principalId
  requestedByUserId := some "u1"
  capabilityId := "mail.send"
  argumentsHash := argumentsHash sample "mail.send" []
  argumentsJson := .obj []
  requestId := some "r1"
  conversationId := none
  sourceRunId := none
  status
  decidedByUserId := none
  consumedRunId := none

def sampleState (approval : Option KernelApproval) : KernelState where
  claims _ := none
  approvals id := if id = "a1" then approval else none
  approvalLock _ := none
  approvalIds := []
  runs := []
  events := []
  log := []

theorem sampleState_initial (named : ∀ row, approval = some row → row.id = "a1") : Initial (sampleState approval) := by
  refine ⟨by simp [sampleState], ?_, by simp [sampleState], rfl⟩
  intro id row present
  simp only [sampleState] at present
  split at present
  · next same => rw [same, named row present]
  · cases present

theorem sampleState_proper : ProperClaims (sampleState approval) := by
  simp [ProperClaims, sampleState]

def samplePool (approval : Option KernelApproval) (moves : List (Move Entry Choice)) :
    Option KernelPool :=
  moves.foldlM (kernelStep sample) (Pool.initial (sampleState approval))

theorem sample_run (runs : (samplePool approval moves).isSome = true) :
    Runs (kernelStep sample) (fun _ _ => True) (Pool.initial (sampleState approval)) moves
      ((samplePool approval moves).get runs) :=
  Runs.of_foldlM (Option.some_get runs).symm

def sampleAnswer : Choice := .provider (.ok { value := [] }) false

def Returned (pool : KernelPool) (pid : Nat) (context : ExecutionContext) (request : RuntimeRequest)
    (response : RuntimeResponse) : Prop :=
  pool.tasks pid = some ⟨.execute context request, some (.done (.executed (.ok response)))⟩

/-- On every run, the provider of a mutation is called at most once under one key, and not at
all under a key that was taken already; whoever returns normally returns the stored response,
and it was the one caller who stored it. -/
theorem execute_at_most_once {deployment : Deployment} {initial : KernelState} {final : KernelPool}
    {moves : List (Move Entry Choice)} (start : Initial initial) (proper : ProperClaims initial)
    (run : Runs (kernelStep deployment) (fun _ _ => True) (Pool.initial initial) moves final)
    (key : String) :
    final.shared.log.countP (LogEntry.invokes deployment key) ≤ 1 ∧
    ((∃ row, initial.claims key = some row) →
      final.shared.log.countP (LogEntry.invokes deployment key) = 0) ∧
    ∀ pid context request capability response, Returned final pid context request response →
      resolveCapability deployment context request = .ok capability → capability.mutating = true →
      idempotencyKey deployment context (clean request.requestId) = .ok key →
      ∃ row stored, final.shared.claims key = some row ∧ row.status = .completed ∧
        row.argumentsHash = requestHash deployment (executionRequest request capability) ∧
        responseFromJson deployment row.responseJson = .ok stored ∧
        response.canonical = stored.canonical ∧
        (initial.claims key = none → ∃ entry ∈ final.shared.log,
          entry.invokes deployment key = true ∧ .stored entry.pid row ∈ final.shared.log) := by
  have sound := kernel_sound_free start run
  have kept := sound.invariant
  have claims := kept.claims proper
  refine ⟨claims.once key, ?_, ?_⟩
  · intro taken
    rw [List.countP_eq_zero]
    intro entry present invokes
    exact (claims.held entry.pid key (kept.invoker_reserved proper present invokes)).1 taken
  · intro pid context request capability response returned resolved mutating named
    have promised := Safe.result (sound.running pid _ _ returned)
    obtain ⟨row, present, status, hash, stored, parsed, same⟩ :=
      promised capability resolved mutating proper key named
    refine ⟨row, stored, present, status, hash, parsed, same.symm, ?_⟩
    intro untaken
    rcases claims.stored key row present status with ⟨old, taken⟩ | ⟨owner, logged⟩
    · rw [untaken] at taken
      cases taken
    · obtain ⟨-, entry, invoked, rfl, invokes⟩ := claims.answered owner row logged
      rw [kept.keyed key row present] at invokes
      exact ⟨entry, invoked, invokes, logged⟩

def replayMoves : List (Move Entry Choice) :=
  let entry := Entry.execute sampleContext (sampleRequest "note.write" none)
  [.start 0 entry, .act 0 .default, .act 0 .default, .act 0 .default, .act 0 sampleAnswer,
    .act 0 .default, .act 0 .default, .start 1 entry, .act 1 .default, .act 1 .default]

theorem replay_runs : (samplePool none replayMoves).isSome = true := by decide

theorem execute_at_most_once_replay :
    ((samplePool none replayMoves).get replay_runs).shared.log.countP
      (LogEntry.invokes sample "personal:u1:user:u1:r1") ≤ 1 :=
  (execute_at_most_once (sampleState_initial (by simp)) sampleState_proper (sample_run replay_runs)
    "personal:u1:user:u1:r1").1

example : ((samplePool none replayMoves).get replay_runs).shared.log.countP
    (LogEntry.invokes sample "personal:u1:user:u1:r1") = 1 := by decide

/-- On every run, whatever the database, a provider is called only with every gate passed
before; without hash collisions the gates speak about this very capability and these very
arguments. -/
theorem provider_call_gated {deployment : Deployment} {initial : KernelState} {final : KernelPool}
    {moves : List (Move Entry Choice)} (start : Initial initial)
    (run : Runs (kernelStep deployment) (fun _ _ => True) (Pool.initial initial) moves final)
    {earlier later : List LogEntry} {pid : Nat} {call : ProviderCall} {request : RuntimeRequest}
    {claim : Option KernelRequestClaim}
    (called : final.shared.log = earlier ++ .invoked pid call request claim :: later) :
    Gate (termsOf deployment initial False) earlier pid call request claim ∧
    (Function.Injective deployment.sha256 →
      (∀ other, requestHash deployment other = requestHash deployment request →
        other.capabilityId = some call.capability.id ∧
          (Json.obj other.arguments).sortKeys = (Json.obj call.arguments).sortKeys) ∧
      ∀ capabilityId arguments, argumentsHash deployment capabilityId arguments =
          argumentsHash deployment call.capability.id call.arguments →
        capabilityId = call.capability.id ∧
          (Json.obj arguments).sortKeys = (Json.obj call.arguments).sortKeys) := by
  have gate := (kernel_sound_free start run).invariant.gates earlier pid call request claim later called
  refine ⟨gate, fun injective => ⟨?_, fun _ _ => argumentsHash_inj injective⟩⟩
  intro other same
  obtain ⟨-, capability, arguments⟩ := requestHash_inj injective same
  obtain ⟨named, exact⟩ := gate.exact
  exact ⟨capability.trans named, exact ▸ arguments⟩

def approvedMoves : List (Move Entry Choice) :=
  [.start 0 (.execute sampleContext (sampleRequest "mail.send" (some "a1"))), .act 0 .default,
    .act 0 .default, .act 0 .default, .act 0 .default, .act 0 .default, .act 0 .default,
    .act 0 sampleAnswer]

theorem approved_runs (principalId : Option String) (recorded : principalId = none ∨ principalId = some "user:u1") :
    (samplePool (some (sampleApproval principalId .approved)) approvedMoves).isSome = true := by
  rcases recorded with rfl | rfl <;> decide

def LogEntry.calls (condition : ProviderCall → Bool) : LogEntry → Bool
  | .invoked pid call _ _ => pid = 0 && condition call
  | _ => false

theorem provider_call_gated_approved : ∃ earlier call request claim,
    call.capability.approvalRequired = true ∧
      Gate (termsOf sample (sampleState (some (sampleApproval (some "user:u1") .approved))) False)
        earlier 0 call request claim := by
  have called : ((samplePool _ approvedMoves).get (approved_runs _ (.inr rfl))).shared.log.any
      (LogEntry.calls fun call => call.capability.approvalRequired) = true := by
    decide
  obtain ⟨entry, present, matched⟩ := List.any_eq_true.mp called
  cases entry with
  | invoked pid call request claim =>
    simp only [LogEntry.calls, Bool.and_eq_true, decide_eq_true_eq] at matched
    obtain ⟨earlier, later, split⟩ := List.append_of_mem present
    obtain ⟨rfl, required⟩ := matched
    exact ⟨earlier, call, request, claim, required,
      (provider_call_gated (sampleState_initial (by simp [sampleApproval])) (sample_run _) split).1⟩
  | read | moved | reserved | stored => cases matched

/-- An approval that records no principal serves any caller: here one approval exists, it
names nobody, and yet the provider of a capability that needs an approval is called. -/
theorem provider_call_without_principal : ∃ initial moves final call, Initial initial ∧
    Runs (kernelStep sample) (fun _ _ => True) (Pool.initial initial) moves final ∧
    (∃ request claim, LogEntry.invoked 0 call request claim ∈ final.shared.log) ∧
    call.capability.approvalRequired = true ∧ call.context.principalId = some "user:u1" ∧
    (∀ id row, initial.approvals id = some row → row.requestedByPrincipalId = none) ∧
    ∀ pid row, LogEntry.read pid row ∈ final.shared.log → row.requestedByPrincipalId = none := by
  let final := (samplePool _ approvedMoves).get (approved_runs none (.inl rfl))
  have reads : final.shared.log.all (fun entry => match entry with
      | .read _ row => row.requestedByPrincipalId = none
      | _ => true) = true := by
    decide
  have called : final.shared.log.any (LogEntry.calls fun call =>
      call.capability.approvalRequired && call.context.principalId = some "user:u1") = true := by
    decide
  obtain ⟨entry, present, matched⟩ := List.any_eq_true.mp called
  cases entry with
  | invoked pid call request claim =>
    simp only [LogEntry.calls, Bool.and_eq_true, decide_eq_true_eq] at matched
    obtain ⟨rfl, required, principal⟩ := matched
    refine ⟨_, approvedMoves, final, call, sampleState_initial (by simp [sampleApproval]),
      sample_run _, ⟨request, claim, present⟩, required, principal, ?_, ?_⟩
    · intro id row present
      simp only [sampleState] at present
      split at present
      · cases present
        rfl
      · cases present
    · intro pid row present
      simpa using List.all_eq_true.mp reads _ present
  | read | moved | reserved | stored => cases matched

/-! ### The life of an approval -/

theorem writeApproval_moved {state : KernelState} {pid : Nat} {write : Option ApprovalWrite} {id : String}
    {before after : KernelApproval} (identified : ∀ id row, state.approvals id = some row → row.id = id)
    (fresh : ∀ row, write = some (.insert row) → state.approvals row.id = none)
    (present : state.approvals id = some before)
    (present' : (state.writeApproval pid write).approvals id = some after) (changed : before.status ≠ after.status) :
    ∃ invocation, .moved pid before after invocation ∈ (state.writeApproval pid write).log := by
  have unchanged : state.approvals id ≠ some after := by
    intro same
    rw [present, Option.some.injEq] at same
    exact changed (congrArg _ same)
  unfold KernelState.writeApproval at present' ⊢
  split at present'
  · exact absurd present' unchanged
  · next row =>
    have other : id ≠ row.id := by
      rintro rfl
      rw [fresh row rfl] at present
      cases present
    simp only [KernelState.putApproval_approvals, Function.update_of_ne other] at present'
    exact absurd present' unchanged
  · next write notInsert =>
    cases current : state.approvals write.id with
    | none =>
      simp only [current] at present'
      exact absurd present' unchanged
    | some row =>
      have kept : (write.update row).id = row.id := by
        cases write with
        | insert row => exact absurd rfl (notInsert row)
        | decided | executing | consumed => rfl
      have named := identified write.id row current
      have updated : ∀ {final : KernelState},
          final.approvals = (state.putApproval (write.update row)).approvals →
          final.approvals id = some after → before = row ∧ after = write.update row := by
        intro final approvals found
        rw [approvals, KernelState.putApproval_approvals, kept, named] at found
        by_cases same : id = write.id
        · subst same
          rw [Function.update_self, Option.some.injEq] at found
          rw [current, Option.some.injEq] at present
          exact ⟨present.symm, found.symm⟩
        · rw [Function.update_of_ne same] at found
          exact absurd found unchanged
      simp only [current] at present' ⊢
      split at present'
      · next still =>
        obtain ⟨rfl, rfl⟩ := updated rfl present'
        exact absurd still changed
      · next moved =>
        obtain ⟨rfl, rfl⟩ := updated rfl present'
        rw [if_neg moved]
        exact ⟨write.invocation, by simp⟩

theorem serve_moved {pid : Nat} {op : kernelDb.Op} {choice : Choice} {state next : KernelState}
    {answer : kernelDb.Answer op} {id : String} {before after : KernelApproval}
    (identified : ∀ id row, state.approvals id = some row → row.id = id)
    (performed : serve deployment pid op choice state = some (answer, next))
    (present : state.approvals id = some before) (present' : next.approvals id = some after)
    (changed : before.status ≠ after.status) : ∃ invocation, .moved pid before after invocation ∈ next.log := by
  have still : next.approvals = state.approvals → False := by
    intro same
    rw [same, present, Option.some.injEq] at present'
    exact changed (congrArg _ present')
  cases op with
  | commit changes =>
    rcases serve_commit performed with ⟨-, rfl⟩ | ⟨-, unviolated, -, rfl⟩
    · exact (still rfl).elim
    · have approvals : (state.commit pid changes).approvals =
          (state.writeApproval pid changes.approval).approvals := writeClaim_approvals _
      rw [approvals] at present'
      obtain ⟨invocation, logged⟩ := writeApproval_moved identified (fun row inserted => by
        simpa [KernelState.violates, inserted] using (Bool.or_eq_false_iff.mp unviolated).2)
        present present' changed
      exact ⟨invocation, (mem_writeClaim (by simp) (by simp)).mpr logged⟩
  | tenant =>
    cases choice <;> cases performed
    exact (still rfl).elim
  | provider =>
    cases choice with
    | provider outcome commits =>
      cases performed
      cases commits <;> exact (still rfl).elim
    | default | tenant | failed => cases performed
  | claimByKey | pendingApproval | rollback =>
    cases performed
    exact (still rfl).elim
  | approvalForUpdate =>
    simp only [serve] at performed
    split at performed
    · cases performed
      exact (still rfl).elim
    · split at performed
      · cases performed
        exact (still rfl).elim
      · split at performed
        · cases performed
        · cases performed
          exact (still rfl).elim

/-- On every run whose reservations name approvals of the capability and the principal they
execute for, every change of an approval's status is one of the allowed moves, and the
invocation that made it is one that the approval was given for. -/
theorem approval_moves_as_designed {deployment : Deployment} {initial : KernelState}
    {pool next : KernelPool} {moves : List (Move Entry Choice)} {move : Move Entry Choice}
    (start : Initial initial) (proper : ProperClaims initial)
    (run : Runs (kernelStep deployment) ReservesBound (Pool.initial initial) moves pool)
    (bound : ReservesBound pool move) (moved : kernelStep deployment pool move = some next)
    {id : String} {before after : KernelApproval} (present : pool.shared.approvals id = some before)
    (present' : next.shared.approvals id = some after) (changed : before.status ≠ after.status) :
    Evolves before after ∧ (∃ pid invocation, .moved pid before after invocation ∈ next.shared.log) ∧
      ∀ pid invocation, .moved pid before after invocation ∈ next.shared.log →
        Allowed deployment before after invocation := by
  have sound := kernel_sound start True (run.weaken fun _ _ allowed _ => allowed)
  have onward : Runs (kernelStep deployment) ReservesBound (Pool.initial initial) (moves ++ [move])
      next := run.append (.cons bound moved (.nil next))
  have sound' := kernel_sound start True (onward.weaken fun _ _ allowed _ => allowed)
  have permitted : (setting (termsOf deployment initial True)).permits pool move := by
    cases move with
    | act pid choice => exact fun entry op rest present _ => bound entry op rest present
    | start | crash => trivial
  have advances := ((kernel_verified (termsOf deployment initial True)).step sound permitted moved).2
  refine ⟨?_, ?_, fun pid => sound'.invariant.moves proper trivial pid before after⟩
  · rcases advances with same | ⟨pid, entry, step⟩
    · rw [same, present, Option.some.injEq] at present'
      exact absurd (congrArg _ present') changed
    · obtain ⟨later, found, evolved⟩ := step.approvals id before present
      rw [found, Option.some.injEq] at present'
      exact present' ▸ evolved
  · cases move with
    | start pid entry =>
      simp only [Pool.step] at moved
      split at moved
      · cases moved
        rw [present, Option.some.injEq] at present'
        exact absurd (congrArg _ present') changed
      · cases moved
    | act pid choice =>
      simp only [Pool.step] at moved
      split at moved
      · simp only [Option.map_eq_some_iff] at moved
        obtain ⟨⟨answer, shared⟩, performed, rfl⟩ := moved
        obtain ⟨invocation, logged⟩ :=
          serve_moved sound.invariant.identified performed present present' changed
        exact ⟨pid, invocation, logged⟩
      · cases moved
    | crash pid =>
      simp only [Pool.step] at moved
      split at moved
      · cases moved
        rw [show (kernelWorld deployment).abandon pid pool.shared = pool.shared.release pid from rfl,
          show (pool.shared.release pid).approvals = pool.shared.approvals from rfl, present,
          Option.some.injEq] at present'
        exact absurd (congrArg _ present') changed
      · cases moved

def boundReservation (state : KernelState) : Op → Bool
  | .commit changes =>
      match changes.approval with
      | some (.executing id context request) =>
          match state.approvals id with
          | some row => request.capabilityId = some row.capabilityId &&
              row.requestedByPrincipalId = context.principalId
          | none => true
      | _ => true
  | _ => true

def reservesBound (pool : KernelPool) : Move Entry Choice → Bool
  | .act pid _ =>
      match pool.tasks pid with
      | some ⟨_, some (.request op _)⟩ => boundReservation pool.shared op
      | _ => true
  | _ => true

theorem reservesBound_sound (pool : KernelPool) (move : Move Entry Choice)
    (checked : reservesBound pool move = true) : ReservesBound pool move := by
  cases move with
  | act pid choice =>
    intro entry op next present
    simp only [reservesBound, present] at checked
    cases op with
    | commit changes =>
      simp only [boundReservation, BoundReservation] at checked ⊢
      split
      · next id context request same =>
        intro row found
        simpa [same, found] using checked
      · trivial
    | tenant | claimByKey | approvalForUpdate | pendingApproval | provider | rollback => trivial
  | start | crash => trivial

def boundPool (moves : List (Move Entry Choice)) : Option KernelPool :=
  moves.foldlM (fun pool move => if reservesBound pool move then kernelStep sample pool move else none)
    (Pool.initial (sampleState (some (sampleApproval (some "user:u1") .approved))))

theorem bound_run (runs : (boundPool moves).isSome = true) :
    Runs (kernelStep sample) ReservesBound
      (Pool.initial (sampleState (some (sampleApproval (some "user:u1") .approved)))) moves
      ((boundPool moves).get runs) :=
  Runs.of_checked reservesBound_sound (Option.some_get runs).symm

def reservingMoves : List (Move Entry Choice) := approvedMoves.take 6

theorem reserving_runs : (boundPool reservingMoves).isSome = true := by decide

theorem reserving_bound : reservesBound ((boundPool reservingMoves).get reserving_runs) (.act 0 .default) = true := by
  decide

theorem reserved_runs : (kernelStep sample ((boundPool reservingMoves).get reserving_runs)
    (.act 0 .default)).isSome = true := by decide

theorem approval_moves_as_designed_executing :
    let final := (kernelStep sample ((boundPool reservingMoves).get reserving_runs) (.act 0 .default)).get
      reserved_runs
    ∃ pid before after invocation, .moved pid before after invocation ∈ final.shared.log ∧
      before.status = .approved ∧ after.status = .executing ∧ Allowed sample before after invocation := by
  have statuses : (((boundPool reservingMoves).get reserving_runs).shared.approvals "a1").map
      (·.status) = some .approved ∧
      (((kernelStep sample ((boundPool reservingMoves).get reserving_runs) (.act 0 .default)).get
        reserved_runs).shared.approvals "a1").map (·.status) = some .executing := by
    decide
  obtain ⟨before, present, approved⟩ := Option.map_eq_some_iff.mp statuses.1
  obtain ⟨after, present', executing⟩ := Option.map_eq_some_iff.mp statuses.2
  have changed : before.status ≠ after.status := by
    rw [approved, executing]
    decide
  obtain ⟨-, ⟨pid, invocation, logged⟩, allowed⟩ := approval_moves_as_designed
    (sampleState_initial (by simp [sampleApproval])) sampleState_proper (bound_run reserving_runs)
    (reservesBound_sound _ _ reserving_bound) (Option.some_get reserved_runs).symm present present'
    changed
  exact ⟨pid, before, after, invocation, logged, approved, executing, allowed pid invocation logged⟩

def strangerMoves : List (Move Entry Choice) :=
  [.start 0 (.execute sampleContext (sampleRequest "note.write" (some "a1"))), .act 0 .default,
    .act 0 .default, .act 0 .default, .act 0 .default, .act 0 .default]

theorem stranger_runs :
    (samplePool (some (sampleApproval (some "user:u1") .approved)) strangerMoves).isSome = true := by
  decide

def LogEntry.usesMailApproval : LogEntry → Bool
  | .moved _ before after (some (_, request)) =>
      before.status = .approved && (after.status = .executing &&
        (before.capabilityId = "mail.send" && request.capabilityId = some "note.write"))
  | _ => false

/-- Writing a note uses up the approval to send a mail. -/
theorem approval_used_by_another_capability : ∃ initial moves final pid before after context request,
    Initial initial ∧ ProperClaims initial ∧
    Runs (kernelStep sample) (fun _ _ => True) (Pool.initial initial) moves final ∧
    LogEntry.moved pid before after (some (context, request)) ∈ final.shared.log ∧
    before.status = .approved ∧ after.status = .executing ∧ before.capabilityId = "mail.send" ∧
    request.capabilityId = some "note.write" := by
  let final := (samplePool _ strangerMoves).get stranger_runs
  have moved : final.shared.log.any LogEntry.usesMailApproval = true := by
    decide
  obtain ⟨entry, present, matched⟩ := List.any_eq_true.mp moved
  cases entry with
  | moved pid before after invocation =>
    cases invocation with
    | none => cases matched
    | some invocation =>
      obtain ⟨context, request⟩ := invocation
      simp only [LogEntry.usesMailApproval, Bool.and_eq_true, decide_eq_true_eq] at matched
      exact ⟨_, strangerMoves, final, pid, before, after, context, request,
        sampleState_initial (by simp [sampleApproval]), sampleState_proper, sample_run _, present,
        matched⟩
  | read | invoked | reserved | stored => cases matched

end Operly.Kernel
