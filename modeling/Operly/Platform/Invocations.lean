import Operly.Platform.CapabilityGateway

/-! What becomes of the charge for an invocation of a capability, and how many invocations of
providers a window can hold. -/

namespace Operly.Platform
open Python Security Concurrent Kernel

/-! ### Following the charge through a call -/

section Follow
variable {use : SessionUse} {state : ChargeState} {steps : Steps}

theorem follow_settled (settled : state ≠ .pending) : steps.foldl (ChargeState.follow use) state = state := by
  induction steps with
  | nil => rfl
  | cons step rest ih =>
    have same : ChargeState.follow use state step = state := by
      cases state with
      | pending => exact absurd rfl settled
      | durable => rfl
      | lost => rfl
    rw [List.foldl_cons, same, ih]

theorem close_settled (settled : state ≠ .pending) (ending : Ending) : state.close ending = state := by
  cases state with
  | pending => exact absurd rfl settled
  | durable => rfl
  | lost => rfl

theorem follow_reads (reading : ∀ step ∈ steps, Reading step.1) :
    steps.foldl (ChargeState.follow use) .pending = .pending := by
  induction steps with
  | nil => rfl
  | cons step rest ih =>
    obtain ⟨first, later⟩ := List.forall_mem_cons.mp reading
    obtain ⟨op, answer⟩ := step
    rw [List.foldl_cons]
    cases op with
    | tenant => exact ih later
    | claimByKey => exact ih later
    | approvalForUpdate => exact ih later
    | pendingApproval => exact ih later
    | provider => exact first.elim
    | commit => exact first.elim
    | rollback => exact first.elim

theorem follow_opening {runId : String} {invocation : Invocation} (opening : Opening runId invocation steps) :
    steps.foldl (ChargeState.follow use) .pending =
      if invocation.capability.mutating = true then .durable else .pending := by
  cases opening with
  | reading reading harmless =>
    rw [follow_reads reading, harmless]
    rfl
  | mutating reading mutates =>
    rw [List.foldl_append, follow_reads reading, if_pos mutates]
    rfl

variable {result : Except KernelError RuntimeResponse} {rest : Steps} {ending : Ending}

theorem handler_starts {error : KernelError} (handler : HandlerTrace error steps result) :
    (steps = [] ∧ result = .error error ∧ codeOf error = none) ∨ ∃ rest, steps = ⟨.rollback, ()⟩ :: rest := by
  cases handler with
  | uncaught other => exact .inl ⟨rfl, rfl, other⟩
  | recorded => exact .inr ⟨_, rfl⟩
  | broken => exact .inr ⟨_, rfl⟩

def Reached (rest : Steps) (ending : Ending) (result : Except KernelError RuntimeResponse) : Prop :=
  (∃ stored, ending = .answered result stored ∧ rest = []) ∨ ending = .lost

theorem Reached.lost (reached : Reached rest ending result) (some : rest ≠ []) : ending = .lost := by
  rcases reached with ⟨-, -, none⟩ | lost
  · exact absurd none some
  · exact lost

theorem close_uncaught {error : KernelError} (reached : Reached rest ending (.error error))
    (other : codeOf error = none) : ChargeState.close .pending ending = .lost := by
  rcases reached with ⟨stored, rfl, -⟩ | rfl
  · cases error with
    | execution => cases other
    | approval | idempotencyConflict | idempotencyInProgress | registry | schemaValidation | value
    | permission | lookup | runtime | other => rfl
  · rfl

theorem follow_aftermath (aftermath : Aftermath (steps ++ rest) result) (reached : Reached rest ending result) :
    (steps.foldl (ChargeState.follow use) .pending).close ending = .durable ↔
      ∃ step ∈ steps, CommitsRun step := by
  -- a call that stops before anything follows the provider has lost its process
  have stopped : steps = [] → rest ≠ [] → ((steps.foldl (ChargeState.follow use) .pending).close ending =
      .durable ↔ ∃ step ∈ steps, CommitsRun step) := by
    rintro rfl some
    rw [reached.lost some]
    simp [ChargeState.close]
  -- a charge that has been lost stays so
  have gone : ∀ first later, steps = first :: later → ChargeState.follow use .pending first = .lost →
      (∀ step ∈ steps, ¬ CommitsRun step) →
      ((steps.foldl (ChargeState.follow use) .pending).close ending = .durable ↔
        ∃ step ∈ steps, CommitsRun step) := by
    rintro first later rfl lost silent
    rw [List.foldl_cons, lost, follow_settled (by decide), close_settled (by decide)]
    constructor
    · intro impossible
      cases impossible
    · rintro ⟨step, member, commits⟩
      exact absurd commits (silent step member)
  generalize whole : steps ++ rest = all at aftermath
  cases aftermath with
  | @completed changes response completes =>
    rcases List.append_eq_singleton_iff.mp whole with ⟨empty, remaining⟩ | ⟨rfl, -⟩
    · exact stopped empty (by simp [remaining])
    · refine iff_of_true ?_ ⟨_, List.mem_singleton_self _, completes⟩
      rw [List.foldl_cons, List.foldl_nil, close_settled] <;> simp [ChargeState.follow]
  | @uncommitted changes flushed error after _ failed handler =>
    rcases List.append_eq_cons_iff.mp whole with ⟨empty, remaining⟩ | ⟨later, taken, remaining⟩
    · exact stopped empty (by simp [remaining])
    · apply gone _ later taken (by simp [ChargeState.follow, failed])
      rw [taken]
      refine List.forall_mem_cons.mpr ⟨Uncommitted.commitsRun failed, ?_⟩
      intro step member
      exact handler.commitsRun step (by rw [remaining]; exact List.mem_append_left _ member)
  | @failed error after _ handler =>
    have silent : ∀ step ∈ steps, ¬ CommitsRun step := fun step member =>
      handler.commitsRun step (by rw [← whole]; exact List.mem_append_left _ member)
    rcases handler_starts handler with ⟨nothing, rfl, other⟩ | ⟨after', begun⟩
    · rw [nothing] at whole
      obtain ⟨rfl, rfl⟩ := List.append_eq_nil_iff.mp whole
      rw [List.foldl_nil, close_uncaught reached other]
      simp
    · rw [begun] at whole
      rcases List.append_eq_cons_iff.mp whole with ⟨empty, remaining⟩ | ⟨later, taken, -⟩
      · exact stopped empty (by simp [remaining])
      · exact gone _ later taken rfl silent

end Follow

/-! ### One call -/

def GatewayCall.Mutates (call : GatewayCall) : Prop :=
  ∃ prepared capability, call.prepared = .ok prepared ∧
    resolveCapability call.answers.deployment prepared.context prepared.request = .ok capability ∧
    capability.mutating = true

/-- What makes the charge of a call that reaches a provider durable: the capability mutates, the
provider commits the session, or it leaves the session alone and the run is completed. -/
def GatewayCall.Keeps (call : GatewayCall) : Prop :=
  call.Mutates ∨ call.use = .commits ∨ (call.use = .keeps ∧ ∃ step ∈ call.steps, CommitsRun step)

theorem callsProvider_iff {step : Sigma kernelDb.Answer} : callsProvider step = true ↔
    ∃ call used answer, step = ⟨.provider call used, answer⟩ := by
  obtain ⟨op, answer⟩ := step
  constructor
  · intro calls
    cases op with
    | provider call used => exact ⟨call, used, answer, rfl⟩
    | tenant | claimByKey | approvalForUpdate | pendingApproval | commit | rollback => cases calls
  · rintro ⟨call, used, other, same⟩
    rw [same]
    rfl

theorem aftermath_unprovided {steps : Steps} {result : Except KernelError RuntimeResponse}
    (aftermath : Aftermath steps result) : ∀ step ∈ steps, callsProvider step = false := by
  intro step member
  by_contra calls
  obtain ⟨call, used, answer, rfl⟩ := callsProvider_iff.mp (by simpa using calls)
  cases aftermath with
  | completed => cases List.mem_singleton.mp member
  | uncommitted failed handler =>
    rcases List.mem_cons.mp member with same | later
    · cases same
    · exact handler.unprovided later
  | failed handler => exact handler.unprovided member

variable {call : GatewayCall} {prepared : PreparedCall}

theorem GatewayCall.Lawful.cut {step : Sigma kernelDb.Answer} (lawful : call.Lawful)
    (ready : call.prepared = .ok prepared) (member : step ∈ call.steps) (calls : callsProvider step = true) :
    ∃ invocation early late rest result, call.steps = early ++ step :: late ∧
      resolveCapability call.answers.deployment prepared.context prepared.request =
        .ok invocation.capability ∧
      Opening call.caller.runId invocation early ∧ Aftermath (late ++ rest) result ∧
      Reached rest call.ending result := by
  obtain ⟨provided, used, answer, rfl⟩ := callsProvider_iff.mp calls
  have complete : ∃ rest result, Program.Trace (execute call.caller prepared.context
      prepared.request).run (call.steps ++ rest) result ∧ Reached rest call.ending result := by
    have traced := lawful prepared ready
    cases ended : call.ending with
    | answered result stored =>
      rw [ended] at traced
      exact ⟨[], result, by simpa using traced, .inl ⟨stored, rfl, rfl⟩⟩
    | lost =>
      rw [ended] at traced
      obtain ⟨rest, result, traced⟩ := traced
      exact ⟨rest, result, traced, .inr rfl⟩
  obtain ⟨rest, result, traced, reached⟩ := complete
  obtain ⟨invocation, early, after, whole, cleared, -, opening, aftermath⟩ :=
    execute_called traced (List.mem_append_left _ member)
  -- the provider is not among the requests that open the call
  rcases List.append_eq_append_iff.mp whole with ⟨more, begun, -⟩ | ⟨taken, cut, remaining⟩
  · exact absurd (begun ▸ List.mem_append_left _ member) opening.unprovided
  · cases taken with
    | nil =>
      rw [List.append_nil] at cut
      exact absurd (cut ▸ member) opening.unprovided
    | cons first late =>
      obtain ⟨rfl, rfl⟩ := List.cons_eq_cons.mp remaining
      exact ⟨invocation, early, late, rest, result, cut, cleared.resolved, opening, aftermath, reached⟩

theorem GatewayCall.charge_durable_iff {step : Sigma kernelDb.Answer} (lawful : call.Lawful)
    (ready : call.prepared = .ok prepared) (member : step ∈ call.steps) (calls : callsProvider step = true) :
    call.charge = .durable ↔ call.Keeps := by
  obtain ⟨invocation, early, late, rest, result, cut, resolved, opening, aftermath, reached⟩ :=
    lawful.cut ready member calls
  obtain ⟨provided, used, answer, rfl⟩ := callsProvider_iff.mp calls
  unfold charge
  rw [cut, List.foldl_append, follow_opening opening, List.foldl_cons]
  by_cases mutates : invocation.capability.mutating = true
  · rw [if_pos mutates, show ChargeState.follow call.use .durable _ = .durable from rfl,
      follow_settled (by decide), close_settled (by decide)]
    exact iff_of_true rfl (.inl ⟨prepared, invocation.capability, ready, resolved, mutates⟩)
  · have harmless : ¬ call.Mutates := by
      rintro ⟨other, capability, ready', resolved', mutates'⟩
      cases ready.symm.trans ready'
      cases resolved.symm.trans resolved'
      exact mutates mutates'
    rw [if_neg mutates]
    unfold Keeps
    cases used' : call.use with
    | commits =>
      rw [show ChargeState.follow .commits .pending _ = .durable from rfl, follow_settled (by decide),
        close_settled (by decide)]
      exact iff_of_true rfl (.inr (.inl rfl))
    | rollsBack =>
      rw [show ChargeState.follow .rollsBack .pending _ = .lost from rfl, follow_settled (by decide),
        close_settled (by decide)]
      simp [harmless]
    | keeps =>
      rw [show ChargeState.follow .keeps .pending _ = .pending from rfl, follow_aftermath aftermath reached]
      have only : (∃ step ∈ call.steps, CommitsRun step) ↔ ∃ step ∈ late, CommitsRun step := by
        rw [cut]
        constructor
        · rintro ⟨step, within, commits⟩
          rcases List.mem_append.mp within with first | second
          · exact absurd commits (opening.commitsRun step first)
          · rcases List.mem_cons.mp second with rfl | third
            · obtain ⟨changes, same, -⟩ := commits
              cases same
            · exact ⟨step, third, commits⟩
        · rintro ⟨step, within, commits⟩
          exact ⟨step, List.mem_append_right _ (List.mem_cons_of_mem _ within), commits⟩
      simp [harmless, only]

inductive InvokeFate (usage : Usage) (call : GatewayCall) (outcome : GatewayOutcome) : Prop
  | idle (none : outcome.invoked = []) (same : outcome.usage = usage)
  | uncalled (prepared : PreparedCall) (ready : call.prepared = .ok prepared)
      (none : outcome.invoked = [])
      (consumes : usage.Consumes (prepared.entry call.chargedAt) outcome.usage)
  | kept (prepared : PreparedCall) (ready : call.prepared = .ok prepared) (keeps : call.Keeps)
      (once : outcome.invoked = [⟨prepared.entry call.chargedAt, call.invokedAt⟩])
      (reached : ∃ step ∈ call.steps, callsProvider step = true)
      (consumes : usage.Consumes (prepared.entry call.chargedAt) outcome.usage)
  | lost (prepared : PreparedCall) (ready : call.prepared = .ok prepared) (fails : ¬ call.Keeps)
      (once : outcome.invoked = [⟨prepared.entry call.chargedAt, call.invokedAt⟩])
      (reached : ∃ step ∈ call.steps, callsProvider step = true) (same : outcome.usage = usage)

theorem filter_callsProvider (lawful : call.Lawful) (ready : call.prepared = .ok prepared) :
    call.steps.filter callsProvider = [] ∨
      ∃ step ∈ call.steps, callsProvider step = true ∧ call.steps.filter callsProvider = [step] := by
  by_cases reaches : ∃ step ∈ call.steps, callsProvider step = true
  · obtain ⟨step, member, calls⟩ := reaches
    obtain ⟨invocation, early, late, rest, result, cut, -, opening, aftermath, -⟩ :=
      lawful.cut ready member calls
    refine .inr ⟨step, member, calls, ?_⟩
    have before : early.filter callsProvider = [] := by
      rw [List.filter_eq_nil_iff]
      intro other within calls'
      obtain ⟨provided, used, answer, rfl⟩ := callsProvider_iff.mp calls'
      exact opening.unprovided within
    have after : late.filter callsProvider = [] := by
      rw [List.filter_eq_nil_iff]
      intro other within
      simp [aftermath_unprovided aftermath other (List.mem_append_left _ within)]
    rw [cut, List.filter_append, before, List.nil_append, List.filter_cons_of_pos calls, after]
  · left
    rw [List.filter_eq_nil_iff]
    intro step member calls
    exact reaches ⟨step, member, calls⟩

theorem gatewayInvoke_fate {usage : Usage} (lawful : call.Lawful) :
    InvokeFate usage call (gatewayInvoke usage call) := by
  unfold gatewayInvoke
  cases ready : call.prepared with
  | error error => exact .idle rfl rfl
  | ok prepared =>
    cases consumed : usage.consume (prepared.entry call.chargedAt) with
    | error error => exact .idle (by simp only [consumed]) (by simp only [consumed])
    | ok result =>
      obtain ⟨consumption, session⟩ := result
      have consumes := Usage.consume_ok consumed
      simp only [consumed]
      rcases filter_callsProvider lawful ready with none | ⟨step, member, calls, once⟩
      · by_cases durable : call.charge = .durable
        · exact .uncalled prepared ready (by simp [none]) (by simpa [durable] using consumes)
        · exact .idle (by simp [none]) (by simp [durable])
      · have settled := GatewayCall.charge_durable_iff lawful ready member calls
        by_cases durable : call.charge = .durable
        · exact .kept prepared ready (settled.mp durable) (by simp [once])
            ⟨step, member, calls⟩ (by simpa [durable] using consumes)
        · exact .lost prepared ready (fun keeps => durable (settled.mpr keeps)) (by simp [once])
            ⟨step, member, calls⟩ (by simp [durable])

/-! ### Sequences of calls -/

inductive GatewayMove where
  | table (move : TableMove)
  | invoke (call : GatewayCall)

namespace GatewayMove

def step (metering : Metering) : GatewayMove → Option Metering
  | .table move => some { metering with usage := metering.usage.apply move }
  | .invoke call =>
      let outcome := gatewayInvoke metering.usage call
      some ⟨outcome.usage, metering.effects ++ outcome.invoked⟩

def Lawful : GatewayMove → Prop
  | .table _ => True
  | .invoke call => call.Lawful

def Kept : GatewayMove → Prop
  | .table _ => True
  | .invoke call => (∃ step ∈ call.steps, callsProvider step = true) → call.Keeps

/-- The budget is configured at every charge of the window, and a provider is called in the window
in which the call is charged. -/
def Throughout (bucket : Bucket) (hardLimit : Nat) (metering : Metering) : GatewayMove → Prop
  | .table move => move.Governed bucket hardLimit metering.usage
  | .invoke call => ∀ prepared, call.prepared = .ok prepared →
      (bucketAt (prepared.entry call.chargedAt).meter call.chargedAt bucket.windowSeconds = bucket →
        metering.usage.Governed bucket hardLimit) ∧
      ((∃ step ∈ call.steps, callsProvider step = true) →
        bucketAt (prepared.entry call.chargedAt).meter call.invokedAt bucket.windowSeconds = bucket →
        bucketAt (prepared.entry call.chargedAt).meter call.chargedAt bucket.windowSeconds = bucket)

variable {metering next : Metering} {move : GatewayMove} {bucket : Bucket} {hardLimit : Nat}

theorem charged_step (charged : metering.Charged) (lawful : Lawful move) (kept : Kept move)
    (stepped : step metering move = some next) : next.Charged := by
  cases move with
  | table other =>
    cases stepped
    exact charged.apply
  | invoke call =>
    simp only [step, Option.some.injEq] at stepped
    subst stepped
    cases (gatewayInvoke_fate lawful : InvokeFate metering.usage call _) with
    | idle none same =>
      rw [none, same, List.append_nil]
      exact charged
    | uncalled prepared ready none consumes =>
      rw [none, List.append_nil]
      exact charged.spend (.cons consumes (.nil _))
    | kept prepared ready keeps once reached consumes =>
      rw [once]
      exact charged.perform (.cons consumes (.nil _))
    | lost prepared ready fails once reached same => exact absurd (kept reached) fails

theorem within_step (within : metering.Within bucket hardLimit) (lawful : Lawful move) (kept : Kept move)
    (throughout : Throughout bucket hardLimit metering move) (stepped : step metering move = some next) :
    next.Within bucket hardLimit := by
  cases move with
  | table other =>
    cases stepped
    exact within.apply throughout
  | invoke call =>
    simp only [step, Option.some.injEq] at stepped
    subst stepped
    cases (gatewayInvoke_fate lawful : InvokeFate metering.usage call _) with
    | idle none same =>
      rw [none, same, List.append_nil]
      exact within
    | uncalled prepared ready none consumes =>
      rw [none, List.append_nil]
      exact within.spend (.cons consumes (.nil _))
        (List.forall_mem_singleton.mpr (throughout prepared ready).1)
    | kept prepared ready keeps once reached consumes =>
      rw [once]
      obtain ⟨governed, prompt⟩ := throughout prepared ready
      exact within.perform (.cons consumes (.nil _)) (List.forall_mem_singleton.mpr governed)
        (prompt reached)
    | lost prepared ready fails once reached same => exact absurd (kept reached) fails

/-- Where every call that reaches a provider keeps its charge, every call of a provider has its
entry in the ledger; and where each provider is called in the window of its charge, no window holds
more of them than the limit configured throughout it. A single call leaves one durable entry
exactly under that condition. -/
theorem capability_invocations_metered {moves : List GatewayMove} {final : Metering}
    (run : Runs step (fun _ move => Lawful move ∧ Kept move) {} moves final) :
    final.Charged ∧
      (∀ bucket (hardLimit : Nat), Runs step (Throughout bucket hardLimit) {} moves final →
        (final.effectsIn bucket).length ≤ hardLimit) ∧
      ∀ usage call, call.Lawful → ∀ effect ∈ (gatewayInvoke usage call).invoked,
        ((gatewayInvoke usage call).usage.ledger = usage.ledger ++ [effect.entry] ↔ call.Keeps) := by
  refine ⟨?_, ?_, ?_⟩
  · apply run.invariant (List.Sublist.refl _)
    intro metering move next charged allowed stepped
    exact charged_step charged allowed.1 allowed.2 stepped
  · intro bucket hardLimit throughout
    have within : final.Within bucket hardLimit := by
      apply (run.both throughout).invariant (Metering.Within.empty bucket hardLimit)
      intro metering move next within allowed stepped
      exact within_step within allowed.1.1 allowed.1.2 allowed.2 stepped
    exact within.bounded
  · intro usage call lawful effect member
    cases (gatewayInvoke_fate lawful : InvokeFate usage call _) with
    | idle none | uncalled _ _ none =>
      rw [none] at member
      cases member
    | kept prepared ready keeps once reached consumes =>
      rw [once, List.mem_singleton] at member
      rw [member, consumes.ledger]
      exact iff_of_true rfl keeps
    | lost prepared ready fails once reached same =>
      rw [same]
      exact iff_of_false (by simp) fails

/-! ### Read-only capabilities that fail, and that return -/

def noteRead : CapabilitySpec where
  id := "note.read"
  version := "1.0.0"
  providerId := "sample"
  scopes := ["workspace"]
  inputSchema := []
  outputSchema := []
  risk := .readOnly

def sampleReader : Deployment where
  registry := {
    specs := [noteRead]
    normalized := by decide
    distinct := by decide }
  search _ _ := []
  search_mem := by simp
  providers := ["sample"]
  digest text := text
  sha256 := sample.sha256
  str := sample.str
  str_text := sample.str_text
  runId := sample.runId
  approvalId := sample.approvalId

def sampleAnswers : GatewayAnswers where
  authenticate := .ok ⟨"identity-1", "installation-1"⟩
  resolveBinding _ id := .ok {
    id, tenantId := "tenant-1", subjectKind := "plugin_installation", subjectId := "installation-1"
    capabilityId := "note.read", capabilityVersion := "1.0.0", authorityUserId := some "u1"
    argumentConstraints := .obj [] }
  resolveExecutionContext _ _ := .ok { sampleContext with
    workspaceId := some "tenant-1", surface := .pluginRuntime, scopeKind := .workspace }
  deployment := sampleReader
  uuid := "uuid-1"

def sampleInvoke : InvokeRequest where
  bindingId := "binding-1"
  arguments := []
  goal := ""
  requestId := none
  approvalId := none

def kernelAnswers (outcome : Except KernelError CapabilityExecutionResult) :
    (op : kernelDb.Op) → kernelDb.Answer op
  | .tenant workspaceId => some ⟨workspaceId, "Tenant", "UTC"⟩
  | .claimByKey _ => none
  | .approvalForUpdate _ _ => none
  | .pendingApproval _ => none
  | .provider _ _ => outcome
  | .commit _ => Flushed.committed
  | .rollback => ()

def sampleExecution (outcome : Except KernelError CapabilityExecutionResult) :
    Steps × Except KernelError RuntimeResponse :=
  match prepareCall sampleAnswers sampleInvoke with
  | .ok prepared => Program.answered (kernelAnswers outcome)
      (execute ⟨sampleReader, 0⟩ prepared.context prepared.request).run
  | .error error => ([], .error error)

def sampleCall (outcome : Except KernelError CapabilityExecutionResult) : GatewayCall where
  answers := sampleAnswers
  request := sampleInvoke
  pid := 0
  chargedAt := unixEpoch
  invokedAt := unixEpoch
  use := .keeps
  steps := (sampleExecution outcome).1
  ending := .answered (sampleExecution outcome).2 true

theorem sampleCall_lawful (outcome : Except KernelError CapabilityExecutionResult) : (sampleCall outcome).Lawful := by
  intro prepared ready
  have same : sampleExecution outcome = Program.answered (kernelAnswers outcome)
      (execute ⟨sampleReader, 0⟩ prepared.context prepared.request).run := by
    rw [sampleExecution, show prepareCall sampleAnswers sampleInvoke = .ok prepared from ready]
  show Program.Trace _ (sampleExecution outcome).1 (sampleExecution outcome).2
  rw [same]
  exact Program.answered_trace _ _

def sampleHour : Bucket :=
  bucketAt ⟨"tenant-1", "plugin_installation", "installation-1", "capability_invocations"⟩ unixEpoch 3600

def sampleMoves (outcome : Except KernelError CapabilityExecutionResult) : List GatewayMove :=
  [.table (.configure sampleHour.meter 3600 1 none), .invoke (sampleCall outcome),
    .invoke (sampleCall outcome)]

def governedHour (metering : Metering) : GatewayMove → Bool
  | .table (.configure ..) => true
  | .table (.consume _) => false
  | .invoke call => call.invokedAt = call.chargedAt && decide (metering.usage.Governed sampleHour 1)

theorem governedHour_sound (metering : Metering) (move : GatewayMove)
    (checked : governedHour metering move = true) : Throughout sampleHour 1 metering move := by
  cases move with
  | table other =>
    cases other with
    | configure => trivial
    | consume => cases checked
  | invoke call =>
    simp only [governedHour, Bool.and_eq_true, decide_eq_true_eq] at checked
    intro prepared ready
    rw [checked.1]
    exact ⟨fun _ => checked.2, fun _ => id⟩

def failing : Except KernelError CapabilityExecutionResult := .error (.runtime "note store is down")

theorem failing_log : ((sampleMoves failing).foldlM (fun metering move =>
      if governedHour metering move then step metering move else none) {}).map
        (fun metering => (metering.usage.ledger, (metering.effectsIn sampleHour).length)) =
      some ([], 2) := by
  decide

theorem sampleMoves_lawful (outcome : Except KernelError CapabilityExecutionResult) :
    ∀ move ∈ sampleMoves outcome, Lawful move := by
  simp [sampleMoves, Lawful, sampleCall_lawful]

/-- Two providers are called in an hour that allows one invocation, and none is charged. -/
theorem capability_invocations_not_metered : ∃ final : Metering,
    Runs step (fun metering move => Throughout sampleHour 1 metering move ∧ Lawful move) {}
      (sampleMoves failing) final ∧
      ¬ final.Charged ∧ ¬ (final.effectsIn sampleHour).length ≤ 1 := by
  obtain ⟨final, evaluated, log⟩ := Option.map_eq_some_iff.mp failing_log
  obtain ⟨ledger, invocations⟩ := Prod.mk.inj log
  have run : Runs step (Throughout sampleHour 1) {} (sampleMoves failing) final :=
    .of_checked governedHour_sound evaluated
  refine ⟨final, run.of_forall (sampleMoves_lawful failing), ?_, by omega⟩
  intro charged
  unfold Metering.Charged at charged
  rw [ledger] at charged
  have none : final.effects = [] := by simpa using charged
  rw [Metering.effectsIn, none] at invocations
  cases invocations

def returning : Except KernelError CapabilityExecutionResult := .ok { value := [] }

def commitsRun : Sigma kernelDb.Answer → Bool
  | ⟨.commit changes, (flushed : Flushed)⟩ =>
      flushed = .committed && changes.runs.any fun run => run.status = .completed
  | _ => false

theorem returning_commits : (sampleExecution returning).1.any commitsRun = true := by decide

theorem sampleCall_keeps : (sampleCall returning).Keeps := by
  obtain ⟨⟨op, answer⟩, member, commits⟩ := List.any_eq_true.mp returning_commits
  refine .inr (.inr ⟨rfl, _, member, ?_⟩)
  cases op with
  | commit changes =>
    simp only [commitsRun, Bool.and_eq_true, decide_eq_true_eq, List.any_eq_true] at commits
    obtain ⟨rfl, run, present, completed⟩ := commits
    exact commitsRun_iff.mpr ⟨run, present, completed⟩
  | tenant | claimByKey | approvalForUpdate | pendingApproval | provider | rollback => cases commits

theorem returning_log : ((sampleMoves returning).foldlM step {}).map
    (fun metering => (metering.effectsIn sampleHour).length) = some 1 := by
  decide

theorem capability_invocations_metered_returning : ∃ final : Metering,
    (final.effectsIn sampleHour).length = 1 ∧ final.Charged := by
  obtain ⟨final, evaluated, invocations⟩ := Option.map_eq_some_iff.mp returning_log
  have allowed : ∀ move ∈ sampleMoves returning, Lawful move ∧ Kept move := by
    simp [sampleMoves, Lawful, Kept, sampleCall_lawful, sampleCall_keeps]
  have run : Runs step (fun _ move => Lawful move ∧ Kept move) {} (sampleMoves returning) final :=
    ((Runs.of_foldlM evaluated).of_forall allowed).weaken fun _ _ holds => holds.2
  exact ⟨final, invocations, (capability_invocations_metered run).1⟩

end GatewayMove

end Operly.Platform
