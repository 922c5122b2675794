import Operly.Concurrent.Twin
import Operly.Kernel.Atomicity
import Operly.Python.Values

/-! Two calls whose providers answer with different event payloads: what their events still share. -/

namespace Operly.Kernel
open Python Security Concurrent Fallible

variable {caller : Caller} {deployment : Deployment} {context : ExecutionContext}
  {request : RuntimeRequest}

def lineageKeys : List String :=
  ["workflow_trigger_event_id", "workflow_correlation_id", "workflow_causation_id",
    "workflow_depth", "workflow_id", "workflow_run_id", "workflow_step_key",
    "workflow_step_run_id", "workflow_step_attempt_id", "workflow_attempt"]

def trustedKeys : List String := "run_id" :: "capability_id" :: lineageKeys

def Carries (context : ExecutionContext) (key : String) : Prop :=
  key ∈ lineageKeys ∧ ∃ value, Fields.get context.metadata key = some value ∧ value ≠ .null

variable {key : String}

theorem lineage_none (open_ : ¬ Carries context key) : Fields.get (workflowLineage context).reverse key = none := by
  rw [Fields.get_eq_none]
  rintro entry member rfl
  rw [List.mem_reverse] at member
  obtain ⟨name, listed, kept⟩ := List.mem_filterMap.mp member
  cases held : Fields.get context.metadata name with
  | none =>
    rw [held] at kept
    cases kept
  | some value =>
    rw [held] at kept
    cases value with
    | null => cases kept
    | bool | int | float | str | arr | obj =>
      cases kept
      exact open_ ⟨listed, _, held, by simp⟩

theorem lineage_some {value : Json} (listed : key ∈ lineageKeys) (held : Fields.get context.metadata key = some value)
    (present : value ≠ .null) : Fields.get (workflowLineage context).reverse key = some value := by
  have kept : (key, value) ∈ workflowLineage context := by
    refine List.mem_filterMap.mpr ⟨key, listed, ?_⟩
    rw [held]
    cases value with
    | null => exact absurd rfl present
    | bool | int | float | str | arr | obj => rfl
  cases found : Fields.get (workflowLineage context).reverse key with
  | none =>
    rw [Fields.get_eq_none] at found
    exact absurd rfl (found (key, value) (List.mem_reverse.mpr kept))
  | some other =>
    obtain ⟨name, -, taken⟩ := List.mem_filterMap.mp (List.mem_reverse.mp (Fields.get_mem found))
    cases own : Fields.get context.metadata name with
    | none =>
      rw [own] at taken
      cases taken
    | some json =>
      rw [own] at taken
      cases json with
      | null => cases taken
      | bool | int | float | str | arr | obj =>
        cases taken
        exact own.symm.trans held

theorem get_lineage_held {value : Json} (payload : Fields) (listed : key ∈ lineageKeys)
    (held : Fields.get context.metadata key = some value) (present : value ≠ .null) :
    Fields.get (Fields.merge payload (workflowLineage context)) key = some value := by
  rw [Fields.get_merge, lineage_some listed held present, Option.some_or]

theorem get_lineage_open (payload : Fields) (open_ : ¬ Carries context key) :
    Fields.get (Fields.merge payload (workflowLineage context)) key = Fields.get payload key := by
  rw [Fields.get_merge, lineage_none open_, Option.none_or]

theorem get_lineage_carried (payload payload' : Fields) (carries : Carries context key) :
    Fields.get (Fields.merge payload (workflowLineage context)) key =
      Fields.get (Fields.merge payload' (workflowLineage context)) key := by
  obtain ⟨listed, value, held, present⟩ := carries
  rw [get_lineage_held payload listed held present, get_lineage_held payload' listed held present]

/-- Two payloads that give each trusted field the same value, unless the context gives it one:
`{"run_id": .., "capability_id": .., **event_payload}` -/
def Agrees (context : ExecutionContext) (runId : String) (capability : CapabilitySpec)
    (payload payload' : Fields) : Prop :=
  ∀ key ∈ trustedKeys, ¬ Carries context key →
    Fields.get (successPayload runId capability payload) key =
      Fields.get (successPayload runId capability payload') key

structure SameTrusted (row row' : KernelEventRecord) : Prop where
  eventType : row.eventType = row'.eventType
  capabilityId : row.capabilityId = row'.capabilityId
  fields : ∀ key ∈ trustedKeys, Fields.get row.payload key = Fields.get row'.payload key

/-! ### The two calls -/

/-- Two answers to the same request, or to two transactions. Where the provider answers, the one
result carries the one payload and the other the other. -/
inductive Alike (payload payload' : Fields) : Sigma kernelDb.Answer → Sigma kernelDb.Answer → Prop
  | same (op : Op) (answer : kernelDb.Answer op) (other : ∀ call used, op ≠ .provider call used) :
      Alike payload payload' ⟨op, answer⟩ ⟨op, answer⟩
  | refused (call : ProviderCall) (used : RuntimeRequest) (error : KernelError) :
      Alike payload payload' ⟨.provider call used, .error error⟩ ⟨.provider call used, .error error⟩
  | result (call : ProviderCall) (used : RuntimeRequest) (value : CapabilityExecutionResult) :
      Alike payload payload' ⟨.provider call used, .ok { value with eventPayload := payload }⟩
        ⟨.provider call used, .ok { value with eventPayload := payload' }⟩
  | commit (changes changes' : Changes) (flushed : Flushed) :
      Alike payload payload' ⟨.commit changes, flushed⟩ ⟨.commit changes', flushed⟩

def Emits (steps : Steps) : Prop :=
  (∃ call used value, ⟨.provider call used, .ok value⟩ ∈ steps ∧
      validateSchema (.obj value.value) call.capability.outputSchema = .ok ()) ∧
    ∃ changes, ⟨.commit changes, Flushed.committed⟩ ∈ steps ∧ changes.events ≠ []

theorem persistedEvents_ne_nil {steps : Steps} :
    persistedEvents steps ≠ [] ↔
      ∃ changes, ⟨.commit changes, Flushed.committed⟩ ∈ steps ∧ changes.events ≠ [] := by
  unfold persistedEvents
  rw [Ne, List.flatMap_eq_nil_iff]
  constructor
  · intro some
    simp only [not_forall] at some
    obtain ⟨⟨op, answer⟩, member, rows⟩ := some
    cases op with
    | commit changes =>
      by_cases committed : (answer : Flushed) = .committed
      · subst committed
        exact ⟨changes, member, rows⟩
      · exact absurd (congrArg Prod.snd (if_neg committed)) rows
    | tenant | claimByKey | approvalForUpdate | pendingApproval | provider | rollback =>
      exact absurd rfl rows
  · rintro ⟨changes, member, rows⟩ all
    exact rows (all _ member)

/-- The answers of the second call when the first has a valid result only under `valid`. -/
def AlikeWhen (valid : Prop) (payload payload' : Fields) (step step' : Sigma kernelDb.Answer) : Prop :=
  Alike payload payload' step step' ∧ ∀ call used value, step = ⟨.provider call used, .ok value⟩ →
    validateSchema (.obj value.value) call.capability.outputSchema = .ok () → valid

def SameRows (agreed : Prop) (context : ExecutionContext) (events events' : List (String × Fields)) : Prop :=
  List.Forall₂ (fun event event' => agreed → event.1 = event'.1 ∧ ∀ key ∈ trustedKeys,
    Fields.get (Fields.merge event.2 (workflowLineage context)) key =
      Fields.get (Fields.merge event'.2 (workflowLineage context)) key) events events'

inductive Asks (agreed : Prop) : Op → Op → Prop
  | same (op : Op) : Asks agreed op op
  | commit {changes changes' : Changes}
      (rows : List.Forall₂ (fun row row' => agreed → SameTrusted row row') changes.events
        changes'.events) : Asks agreed (.commit changes) (.commit changes')

def SameRaised (agreed : Prop) (context : ExecutionContext) (raised raised' : Raised) : Prop :=
  ∃ events', raised' = { raised with
      locals := { raised.locals with audit := { raised.locals.audit with events := events' } } } ∧
    SameRows agreed context raised.locals.audit.events events'

theorem SameRaised.blank {agreed : Prop} {runId : String} {raised : Raised}
    (blank : Blank runId raised.locals.audit) : SameRaised agreed context raised raised := by
  refine ⟨raised.locals.audit.events, rfl, ?_⟩
  rw [blank.events]
  exact .nil

section
variable {agreed valid : Prop} {payload payload' : Fields}

variable {changes changes' : Changes} {runId : String} {invocation : Invocation}

theorem AlikeWhen.commit {flushed flushed' : Flushed}
    (alike : AlikeWhen valid payload payload' ⟨.commit changes, flushed⟩ ⟨.commit changes', flushed'⟩) :
    flushed = flushed' := by
  cases alike.1 with
  | same => rfl
  | commit => rfl

theorem AlikeWhen.preparatory {op : Op} {answer answer' : kernelDb.Answer op} (prepares : Preparatory op)
    (alike : AlikeWhen valid payload payload' ⟨op, answer⟩ ⟨op, answer'⟩) : answer = answer' := by
  cases op with
  | provider => exact prepares.elim
  | commit changes => exact alike.commit
  | tenant | claimByKey | approvalForUpdate | pendingApproval | rollback =>
    cases alike.1
    rfl

abbrev Beside {α ε : Type} (agreed valid : Prop) (payload payload' : Fields)
    (returns : α → α → Prop) (raises : ε → ε → Prop) (code code' : Fallible kernelDb ε α) : Prop :=
  Twin (Asks agreed) (AlikeWhen valid payload payload') returns raises code code'

theorem Readies.beside {α : Type} {code : Body α} {returns : α → Prop} (readies : Readies runId code returns) :
    Beside agreed valid payload payload' (fun value value' => value = value' ∧ returns value)
      (SameRaised agreed context) code code := by
  apply Twin.same readies
  · exact fun op _ => .same op
  · exact fun op answer answer' prepares alike => alike.preparatory prepares
  · exact fun raised blank => .blank blank

theorem commit_beside (asked : Asks agreed (.commit changes) (.commit changes')) :
    Beside agreed valid payload payload' (fun _ _ => True) Eq (commit changes) (commit changes') := by
  unfold commit
  apply Twin.bind_ask asked
  intro flushed flushed' alike
  obtain rfl : (flushed : Flushed) = flushed' := alike.commit
  cases (flushed : Flushed) with
  | committed => exact Twin.pure trivial
  | integrityError | failed => exact Twin.raise rfl

theorem asks_audit {audit audit' : RuntimeAuditBuffer} {outcome outcome' : Outcome} (fresh : changes.events = [])
    (sameId : outcome.capabilityId = outcome'.capabilityId)
    (rows : SameRows agreed context audit.events audit'.events) (fresh' : changes'.events = []) :
    Asks agreed (.commit (persistAudit changes audit context outcome))
      (.commit (persistAudit changes' audit' context outcome')) := by
  apply Asks.commit
  simp only [persistAudit, fresh, fresh', List.nil_append, auditEvents, List.forall₂_map_left_iff,
    List.forall₂_map_right_iff]
  apply List.Forall₂.imp _ rows
  intro event event' same holds
  obtain ⟨sameType, fields⟩ := same holds
  exact ⟨sameType, sameId, fields⟩

def Differ (valid : Prop) (capability : CapabilitySpec) (payload payload' : Fields)
    (value value' : CapabilityExecutionResult) : Prop :=
  value = { value with eventPayload := payload } ∧ value' = { value with eventPayload := payload' } ∧
    (validateSchema (.obj value.value) capability.outputSchema = .ok () → valid)

theorem finishedAudit_payload (invocation : Invocation) (value : CapabilityExecutionResult) (payload' : Fields) :
    finishedAudit invocation { value with eventPayload := payload' } =
      { finishedAudit invocation value with
        events := (finishedAudit invocation { value with eventPayload := payload' }).events } := by
  simp [finishedAudit, completionEvents_eq, RuntimeAuditBuffer.step]

theorem finishedAudit_rows {value value' : CapabilityExecutionResult} (blank : Blank runId invocation.audit)
    (agrees : agreed → Agrees context runId invocation.capability value.eventPayload value'.eventPayload) :
    SameRows agreed context (finishedAudit invocation value).events
      (finishedAudit invocation value').events := by
  rw [(finishedAudit_eq _ blank).2, (finishedAudit_eq _ blank).2]
  simp only [SameRows, List.forall₂_map_left_iff, List.forall₂_map_right_iff, List.forall₂_same]
  intro eventType _ holds
  refine ⟨trivial, ?_⟩
  intro key trusted
  by_cases carries : Carries context key
  · exact get_lineage_carried _ _ carries
  · rw [get_lineage_open _ carries, get_lineage_open _ carries]
    exact agrees holds key trusted carries

theorem complete_beside {value value' : CapabilityExecutionResult}
    (cleared : Cleared deployment context request runId invocation)
    (differ : Differ valid invocation.capability payload payload' value value')
    (agrees : valid → agreed → Agrees context runId invocation.capability payload payload') :
    Beside agreed valid payload payload' (fun _ _ => True) (SameRaised agreed context)
      (complete context invocation value) (complete context invocation value') := by
  obtain ⟨first, rfl, checked⟩ := differ
  rw [complete_eq cleared.used, complete_eq cleared.used]
  cases accepted : validateSchema (.obj value.value) invocation.capability.outputSchema with
  | error error =>
    exact Twin.raise (.blank (cleared.blank.step ..))
  | ok _ =>
    have rows : SameRows agreed context (finishedAudit invocation value).events
        (finishedAudit invocation { value with eventPayload := payload' }).events := by
      apply finishedAudit_rows cleared.blank
      intro holds
      rw [show value.eventPayload = payload from congrArg (·.eventPayload) first]
      exact agrees (checked accepted) holds
    have asked : Asks agreed (.commit (completionChanges context invocation value))
        (.commit (completionChanges context invocation { value with eventPayload := payload' })) :=
      asks_audit rfl rfl rows rfl
    apply Twin.seq
    · apply Twin.mapError (commit_beside asked)
      rintro error _ rfl
      rw [finishedAudit_payload invocation value payload']
      exact ⟨_, rfl, rows⟩
    · exact Twin.pure trivial

theorem callProvider_beside (blank : Blank runId invocation.audit) :
    Beside agreed valid payload payload' (Differ valid invocation.capability payload payload')
      (SameRaised agreed context) (callProvider deployment context invocation)
      (callProvider deployment context invocation) := by
  unfold callProvider
  dsimp only
  split
  · exact Twin.raise (.blank blank)
  · apply Twin.bind_ask (.same _)
    intro answer answer' alike
    obtain ⟨alike, checked⟩ := alike
    cases alike with
    | same op answer other => exact absurd rfl (other _ _)
    | refused call used error => exact Twin.raise (.blank blank)
    | result call used value => exact Twin.pure ⟨rfl, rfl, checked _ _ _ rfl⟩

/-- What the stages before the replay say of an invocation, nothing being assumed of the rest. -/
abbrev PlannedFor (deployment : Deployment) (context : ExecutionContext) (request : RuntimeRequest)
    (invocation : Invocation) : Prop :=
  Planned ⟨deployment, True, True, fun _ => False⟩ context request invocation

theorem perform_beside (planned : PlannedFor caller.deployment context request invocation)
    (blank : Blank runId invocation.audit)
    (agrees : valid → agreed → Agrees context runId invocation.capability payload payload') :
    Beside agreed valid payload payload' (fun _ _ => True) (SameRaised agreed context)
      (perform caller context invocation) (perform caller context invocation) := by
  unfold perform
  apply Twin.bind (replay_readies blank).beside
  rintro replayed _ ⟨rfl, -⟩
  cases replayed with
  | some response => exact Twin.pure trivial
  | none =>
    apply Twin.bind (authorize_readies planned blank).beside
    rintro cleared _ ⟨rfl, holds⟩
    apply Twin.bind (reserve_readies holds.blank).beside
    rintro ⟨claim, replayed⟩ _ ⟨rfl, -⟩
    cases replayed with
    | some response => exact Twin.pure trivial
    | none =>
      have same : cleared.capability = invocation.capability :=
        Except.ok.inj (holds.resolved.symm.trans planned.resolved)
      have claimed : Cleared caller.deployment context request runId { cleared with claim } :=
        ⟨holds.resolved, holds.approved, holds.request, holds.arguments, holds.valid,
          holds.authorized, holds.used, holds.blank⟩
      apply Twin.bind (callProvider_beside claimed.blank)
      intro value value' differ
      exact complete_beside claimed differ fun answered holds => same.symm ▸ agrees answered holds

theorem executeBody_beside (agrees : valid → agreed → ∀ capability,
      resolveCapability caller.deployment context request = .ok capability →
      Agrees context caller.runId capability payload payload') :
    Beside agreed valid payload payload' (fun _ _ => True) (SameRaised agreed context)
      (executeBody caller context request) (executeBody caller context request) := by
  have blank : Blank caller.runId { runId := caller.runId } := ⟨rfl, rfl⟩
  unfold executeBody
  apply Twin.bind (understand_readies blank).beside
  rintro ⟨capability, audit⟩ _ ⟨rfl, resolved, -, blank⟩
  apply Twin.bind (during_readies blank loadMinimumContext_reads.prepares).beside
  rintro minimumContext _ ⟨rfl, -⟩
  have planning : Readies caller.runId
      (Fallible.ofExcept (plan context request capability minimumContext audit)) fun invocation =>
        PlannedFor caller.deployment context request invocation ∧
          Blank caller.runId invocation.audit := plan_readies blank resolved
  apply Twin.bind planning.beside
  rintro invocation _ ⟨rfl, planned, blank⟩
  have answers : valid → agreed →
      Agrees context caller.runId invocation.capability payload payload' :=
    fun answered holds => agrees answered holds invocation.capability planned.resolved
  exact perform_beside planned blank answers

/-! ### The handlers -/

theorem respondOnce_payload (audit : RuntimeAuditBuffer) (events : List (String × Fields)) (status : String) :
    respondOnce { audit with events } status = { respondOnce audit status with events } := by
  have responded : RuntimeAuditBuffer.responded { audit with events } = audit.responded := rfl
  unfold respondOnce
  rw [responded]
  split <;> rfl

theorem prepares_beside {α ε : Type} {code : Fallible kernelDb ε α} {returns : α → Prop}
    (prepares : Prepares code returns) :
    Beside agreed valid payload payload' (fun value value' => value = value' ∧ returns value)
      (fun _ _ => True) code code :=
  Twin.same prepares (fun op _ => .same op)
    (fun _ _ _ prepares alike => alike.preparatory prepares) fun _ _ => trivial

theorem persistFailure_beside {locals : Locals} {audit : RuntimeAuditBuffer} {events' : List (String × Fields)}
    {code message : String} {error : KernelError} (fresh : changes.events = [])
    (rows : SameRows agreed context audit.events events') :
    Beside agreed valid payload payload' (fun _ _ => True) (fun _ _ => True)
      (do
        persistFailure context request { locals with audit } changes code message
        raise error : Session RuntimeResponse)
      (do
        persistFailure context request { locals with audit := { audit with events := events' } }
          changes code message
        raise error : Session RuntimeResponse) := by
  apply Twin.seq
  · have grown : SameRows agreed context (audit.events ++ [("runtime.failed",
          [("run_id", .str audit.runId), ("code", .str code),
            ("capability_id", textOrNull (locals.capability.map (·.id)))])])
        (events' ++ [("runtime.failed", [("run_id", .str audit.runId), ("code", .str code),
          ("capability_id", textOrNull (locals.capability.map (·.id)))])]) :=
      List.rel_append rows (.cons (fun _ => ⟨rfl, fun _ _ => rfl⟩) .nil)
    apply Twin.weaken (commit_beside (asks_audit fresh rfl grown fresh))
    · exact fun _ _ holds => holds
    · exact fun _ _ _ => trivial
  · exact Twin.raise trivial

theorem recover_beside {raised raised' : Raised} (same : SameRaised agreed context raised raised') :
    Beside agreed valid payload payload' (fun _ _ => True) (fun _ _ => True)
      (recover caller context request raised) (recover caller context request raised') := by
  obtain ⟨events', rfl, rows⟩ := same
  obtain ⟨locals, cause⟩ := raised
  have once : ∀ status, SameRows agreed context (respondOnce locals.audit status).events events' := by
    intro status
    rw [(respondOnce_events locals.audit status).2]
    exact rows
  unfold recover
  dsimp only
  split
  · next message code statusCode approvalId =>
    apply Twin.bind_ask (.same _)
    intro _ _ _
    apply Twin.bind (prepares_beside pendingFor_reads.prepares)
    rintro ⟨approval, write⟩ _ ⟨rfl, -⟩
    rw [respondOnce_payload locals.audit events' "blocked"]
    exact persistFailure_beside rfl (once "blocked")
  · cases handlerOf cause with
    | none => exact Twin.raise trivial
    | some handler =>
      apply Twin.bind_ask (.same _)
      intro _ _ _
      rw [respondOnce_payload locals.audit events' handler.status]
      split
      · exact persistFailure_beside rfl (once handler.status)
      · exact persistFailure_beside rfl rows

theorem execute_beside (agrees : valid → agreed → ∀ capability,
      resolveCapability caller.deployment context request = .ok capability →
      Agrees context caller.runId capability payload payload') :
    Program.Twin (Asks agreed) (AlikeWhen valid payload payload') (fun _ _ => True)
      (execute caller context request).run (execute caller context request).run := by
  apply Program.Twin.bind (executeBody_beside agrees)
  intro result result' same
  cases result with
  | ok response =>
    cases result' with
    | ok response' => trivial
    | error raised => exact same.elim
  | error raised =>
    cases result' with
    | ok response' => exact same.elim
    | error raised' => exact Program.Twin.weaken (recover_beside same) fun _ _ _ => trivial

theorem Asks.rows (asks : Asks agreed (.commit changes) (.commit changes')) :
    List.Forall₂ (fun row row' => agreed → SameTrusted row row') changes.events changes'.events := by
  cases asks with
  | same =>
    rw [List.forall₂_same]
    exact fun _ _ _ => ⟨rfl, rfl, fun _ _ => rfl⟩
  | commit rows => exact rows

theorem auditRows_beside {step step' : Sigma kernelDb.Answer} (asks : Asks agreed step.1 step'.1)
    (alike : Alike payload payload' step step') :
    List.Forall₂ (fun row row' => agreed → SameTrusted row row') (auditRows step).2
      (auditRows step').2 := by
  have flush : ∀ {changes changes' : Changes} (flushed : Flushed),
      Asks agreed (.commit changes) (.commit changes') →
      List.Forall₂ (fun row row' => agreed → SameTrusted row row')
        (auditRows ⟨.commit changes, flushed⟩).2 (auditRows ⟨.commit changes', flushed⟩).2 := by
    intro changes changes' flushed asks
    by_cases committed : flushed = .committed
    · simp only [auditRows, if_pos committed]
      exact asks.rows
    · simp only [auditRows, if_neg committed]
      exact .nil
  cases alike with
  | same op answer other =>
    cases op with
    | commit changes => exact flush _ asks
    | tenant | claimByKey | approvalForUpdate | pendingApproval | provider | rollback => exact .nil
  | refused => exact .nil
  | result => exact .nil
  | commit changes changes' flushed => exact flush flushed asks

theorem persistedEvents_beside {steps steps' : Steps}
    (beside : List.Forall₂ (fun step step' => Asks agreed step.1 step'.1 ∧
      AlikeWhen valid payload payload' step step') steps steps') :
    List.Forall₂ (fun row row' => agreed → SameTrusted row row') (persistedEvents steps)
      (persistedEvents steps') := by
  induction beside with
  | nil => exact .nil
  | cons head tail ih => exact List.rel_append (auditRows_beside head.1 head.2.1) ih

end

/-! ### What the events of a call carry -/

def Lined (context : ExecutionContext) (row : KernelEventRecord) : Prop :=
  ∃ payload, row.payload = Fields.merge payload (workflowLineage context)

theorem auditEvents_lined {audit : RuntimeAuditBuffer} {outcome : Outcome} :
    ∀ row ∈ auditEvents audit context outcome, Lined context row := by
  intro row member
  obtain ⟨event, -, rfl⟩ := List.mem_map.mp member
  exact ⟨event.2, rfl⟩

variable {steps : Steps} {call : ProviderCall} {used : RuntimeRequest} {value : CapabilityExecutionResult}

theorem FailureTrace.lined {raised : Raised} (failure : FailureTrace context request raised steps) :
    ∀ row ∈ persistedEvents steps, Lined context row := by
  cases failure with
  | silent prepares =>
    rw [(persisted_unaudited fun step member => (prepares step member).unaudited).2]
    simp
  | @recorded steps changes flushed audit error prepares _ _ _ _ events =>
    rw [(persisted_commit (fun step member => (prepares step member).unaudited) changes flushed).2]
    split
    · rw [events]
      exact auditEvents_lined
    · simp

theorem execute_lined {result : Except KernelError RuntimeResponse}
    (run : Program.Trace (execute caller context request).run steps result) :
    ∀ row ∈ persistedEvents steps, Lined context row := by
  obtain ⟨early, late, outcome, rfl, body, handled⟩ := Program.Trace.bind_iff.mp run
  have first : ∀ row ∈ persistedEvents early, Lined context row := by
    cases executeBody_trace body with
    | early unaudited =>
      rw [(persisted_unaudited unaudited).2]
      simp
    | @late steps invocation value flushed unaudited =>
      rw [(persisted_commit unaudited (completionChanges context invocation value) flushed).2]
      split
      · exact auditEvents_lined
      · simp
  have second : ∀ row ∈ persistedEvents late, Lined context row := by
    cases outcome with
    | ok response =>
      obtain ⟨rfl, -⟩ := Program.Trace.done_iff.mp handled
      simp [persistedEvents]
    | error raised => exact (recover_trace handled).lined
  intro row member
  rw [(persisted_append early late).2] at member
  rcases List.mem_append.mp member with before | after
  · exact first row before
  · exact second row after

theorem FailureTrace.uncalled {raised : Raised} {answer : Except KernelError CapabilityExecutionResult}
    (failure : FailureTrace context request raised steps) : ⟨.provider call used, answer⟩ ∉ steps := by
  intro called
  cases failure with
  | silent prepares => exact prepares _ called
  | recorded prepares =>
    rcases List.mem_append.mp called with first | second
    · exact prepares _ first
    · rw [List.mem_singleton] at second
      cases second

theorem auditEvents_emitted {runId : String} {invocation : Invocation} {audit : RuntimeAuditBuffer}
    {tail : List (String × Fields)} (blank : Blank runId invocation.audit)
    (events : audit.events = (finishedAudit invocation value).events ++ tail) (outcome : Outcome) :
    ∃ row rest, auditEvents audit context outcome = row :: rest ∧ row.payload = Fields.merge
      (successPayload runId invocation.capability value.eventPayload) (workflowLineage context) := by
  obtain ⟨eventType, types, emitted⟩ :=
    List.exists_cons_of_ne_nil (successEvents_ne_nil invocation.capability)
  rw [(finishedAudit_eq _ blank).2, emitted] at events
  rw [auditEvents, events]
  exact ⟨_, _, rfl, rfl⟩

theorem execute_emits {result : Except KernelError RuntimeResponse}
    (run : Program.Trace (execute caller context request).run steps result)
    (called : ⟨.provider call used, .ok value⟩ ∈ steps)
    (accepted : validateSchema (.obj value.value) call.capability.outputSchema = .ok ())
    (persisted : persistedEvents steps ≠ []) :
    ∃ capability row rest, resolveCapability caller.deployment context request = .ok capability ∧
      persistedEvents steps = row :: rest ∧ row.payload = Fields.merge
        (successPayload caller.runId capability value.eventPayload) (workflowLineage context) := by
  obtain ⟨early, late, outcome, rfl, body, handled⟩ := Program.Trace.bind_iff.mp run
  -- the provider was called in the body
  have within : ⟨.provider call used, .ok value⟩ ∈ early := by
    rcases List.mem_append.mp called with first | second
    · exact first
    · cases outcome with
      | ok response =>
        obtain ⟨rfl, -⟩ := Program.Trace.done_iff.mp handled
        cases second
      | error raised => exact absurd second (recover_trace handled).uncalled
  cases executeBody_trace body with
  | early _ _ invalid => exact absurd accepted (invalid call used value within)
  | @late early invocation other flushed unaudited cleared single =>
    have same : value = other := by
      rcases List.mem_append.mp within with first | second
      · exact single call used value first
      · rw [List.mem_singleton] at second
        cases second
    subst other
    refine ⟨invocation.capability, ?_⟩
    have emits : ∀ (audit : RuntimeAuditBuffer) (tail : List (String × Fields)) (outcome : Outcome),
        audit.events = (finishedAudit invocation value).events ++ tail →
        ∃ row rest, auditEvents audit context outcome = row :: rest ∧ row.payload = Fields.merge
          (successPayload caller.runId invocation.capability value.eventPayload)
          (workflowLineage context) :=
      fun audit tail outcome events => auditEvents_emitted cleared.blank events outcome
    have made : (completionChanges context invocation value).events =
        auditEvents (finishedAudit invocation value) context (completedOutcome invocation value) := rfl
    have completed := (persisted_commit unaudited (completionChanges context invocation value) flushed).2
    rw [(persisted_append _ late).2, completed] at persisted ⊢
    by_cases committed : flushed = .committed
    · subst committed
      obtain ⟨rfl, -⟩ := Program.Trace.done_iff.mp handled
      obtain ⟨row, rest, rows, payload⟩ := emits (finishedAudit invocation value) []
        (completedOutcome invocation value) (List.append_nil _).symm
      refine ⟨row, rest, cleared.resolved, ?_, payload⟩
      rw [if_pos rfl, made, rows]
      exact List.append_nil _
    · rw [if_neg committed, List.nil_append] at persisted ⊢
      have raises : ∃ error, Program.Trace (recover caller context request
          ⟨{ invocation.locals with audit := finishedAudit invocation value }, error⟩).run late result := by
        cases flushed with
        | committed => exact absurd rfl committed
        | integrityError => exact ⟨_, handled⟩
        | failed error => exact ⟨error, handled⟩
      obtain ⟨error, handled⟩ := raises
      cases recover_trace handled with
      | silent prepares =>
        exact absurd (persisted_unaudited fun step member => (prepares step member).unaudited).2 persisted
      | @recorded steps changes flushed' audit message prepares _ _ extended _ events =>
        obtain ⟨failure, extended⟩ := extended
        have recorded := (persisted_commit (fun step member => (prepares step member).unaudited)
          changes flushed').2
        by_cases kept : flushed' = .committed
        · rw [if_pos kept, events] at recorded
          obtain ⟨row, rest, rows, payload⟩ := emits audit _ _ extended
          exact ⟨row, rest, cleared.resolved, recorded.trans rows, payload⟩
        · rw [if_neg kept] at recorded
          exact absurd recorded persisted

theorem alike_called {payload payload' : Fields} {steps' : Steps}
    (alike : List.Forall₂ (Alike payload payload') steps steps') (called : ⟨.provider call used, .ok value⟩ ∈ steps) :
    value.eventPayload = payload ∧
      ⟨.provider call used, .ok { value with eventPayload := payload' }⟩ ∈ steps' := by
  induction alike with
  | nil => cases called
  | cons head tail ih =>
    rcases List.mem_cons.mp called with rfl | later
    · cases head with
      | same op answer other => exact absurd rfl (other call used)
      | result => exact ⟨rfl, List.mem_cons_self ..⟩
    · obtain ⟨same, member⟩ := ih later
      exact ⟨same, List.mem_cons_of_mem _ member⟩

/-- Whatever the context, two results of the provider that differ in their event payload leave
events with the same trusted fields, exactly if no event is left or the payloads agree on every
trusted field that the context does not carry. -/
theorem execute_lineage_iff (caller : Caller) (context : ExecutionContext) (request : RuntimeRequest)
    (payload payload' : Fields) {steps steps' : Steps} {result result' : Except KernelError RuntimeResponse}
    (run : Program.Trace (execute caller context request).run steps result)
    (run' : Program.Trace (execute caller context request).run steps' result')
    (alike : List.Forall₂ (Alike payload payload') steps steps') :
    List.Forall₂ SameTrusted (persistedEvents steps) (persistedEvents steps') ↔
      (Emits steps → ∀ capability,
        resolveCapability caller.deployment context request = .ok capability →
        Agrees context caller.runId capability payload payload') := by
  constructor
  · rintro same ⟨⟨call, used, value, called, accepted⟩, committed⟩ capability resolved key trusted open_
    have persisted : persistedEvents steps ≠ [] := persistedEvents_ne_nil.mpr committed
    have persisted' : persistedEvents steps' ≠ [] := by
      intro none
      rw [none, List.forall₂_nil_right_iff] at same
      exact persisted same
    obtain ⟨own, called'⟩ := alike_called alike called
    obtain ⟨first, row, rest, resolves, rows, carried⟩ := execute_emits run called accepted persisted
    obtain ⟨second, row', rest', resolves', rows', carried'⟩ :=
      execute_emits run' called' accepted persisted'
    cases resolved.symm.trans resolves
    cases resolved.symm.trans resolves'
    rw [rows, rows', List.forall₂_cons] at same
    have fields := same.1.fields key trusted
    rw [carried, carried', get_lineage_open _ open_, get_lineage_open _ open_, own] at fields
    exact fields
  · intro agrees
    let valid : Prop := ∃ call used value, ⟨.provider call used, .ok value⟩ ∈ steps ∧
      validateSchema (.obj value.value) call.capability.outputSchema = .ok ()
    let agreed : Prop := valid → ∀ capability,
      resolveCapability caller.deployment context request = .ok capability →
      Agrees context caller.runId capability payload payload'
    have within : List.Forall₂ (AlikeWhen valid payload payload') steps steps' := by
      have members := (List.forall₂_and_left _ _).mpr ⟨fun step (member : step ∈ steps) => member, alike⟩
      apply members.imp
      rintro step step' ⟨member, both⟩
      refine ⟨both, ?_⟩
      rintro call used value rfl accepted
      exact ⟨call, used, value, member, accepted⟩
    have beside : Program.Twin (Asks agreed) (AlikeWhen valid payload payload') (fun _ _ => True)
        (execute caller context request).run (execute caller context request).run :=
      execute_beside fun answered holds => holds answered
    have rows := persistedEvents_beside (beside.traces run run' within).1
    by_cases none : persistedEvents steps = []
    · rw [none, List.forall₂_nil_left_iff] at rows
      rw [none, rows]
      exact .nil
    · have holds : agreed := fun answered =>
        agrees ⟨answered, persistedEvents_ne_nil.mp none⟩
      exact rows.imp fun _ _ same => same holds

def sampleAnswers (payload : Fields) : (op : Op) → kernelDb.Answer op
  | .tenant _ => none
  | .claimByKey _ => none
  | .approvalForUpdate _ _ => none
  | .pendingApproval _ => none
  | .provider _ _ => .ok { value := [], eventPayload := payload }
  | .commit _ => .committed
  | .rollback => ()

def sampleSteps (payload : Fields) : Steps :=
  ((execute ⟨sample, 0⟩ sampleContext (sampleRequest "note.write" none)).run.answered
    (sampleAnswers payload)).1

theorem answered_alike (caller : Caller) (context : ExecutionContext) (request : RuntimeRequest)
    (payload payload' : Fields) :
    List.Forall₂ (Alike payload payload')
      ((execute caller context request).run.answered (sampleAnswers payload)).1
      ((execute caller context request).run.answered (sampleAnswers payload')).1 := by
  have beside : Program.Twin (Asks False) (AlikeWhen True payload payload') (fun _ _ => True)
      (execute caller context request).run (execute caller context request).run :=
    execute_beside fun _ never => never.elim
  have answers : ∀ op op' : Op, Asks False op op' → AlikeWhen True payload payload'
      ⟨op, sampleAnswers payload op⟩ ⟨op', sampleAnswers payload' op'⟩ := by
    intro op op' asks
    refine ⟨?_, fun _ _ _ _ _ => trivial⟩
    cases asks with
    | same =>
      cases op with
      | provider call used => exact .result call used { value := [], eventPayload := payload }
      | commit changes => exact .commit changes changes .committed
      | tenant | claimByKey | approvalForUpdate | pendingApproval | rollback => exact .same _ _ (by simp)
    | commit => exact .commit _ _ .committed
  exact (beside.answered answers).imp fun _ _ both => both.1

/-- Two payloads of a provider that keeps to fields of its own. -/
theorem execute_lineage_own_fields :
    persistedEvents (sampleSteps [("note_id", .str "n1")]) ≠ [] ∧
      List.Forall₂ SameTrusted (persistedEvents (sampleSteps [("note_id", .str "n1")]))
        (persistedEvents (sampleSteps [("note_id", .str "n2")])) := by
  refine ⟨by decide, ?_⟩
  refine (execute_lineage_iff ⟨sample, 0⟩ sampleContext (sampleRequest "note.write" none) _ _
    (Program.answered_trace _ _) (Program.answered_trace _ _) (answered_alike _ _ _ _ _)).mpr ?_
  intro _ capability _ key trusted _
  have foreign : "note_id" ≠ key := by
    rintro rfl
    exact absurd trusted (by decide)
  have silent : ∀ value, Fields.get [("note_id", value)] key = none := by
    intro value
    rw [Fields.get_cons, if_neg foreign]
    rfl
  rw [successPayload, successPayload, Fields.get_merge, Fields.get_merge, List.reverse_singleton,
    List.reverse_singleton, silent, silent]

/-- A provider that names another run as the run of its events, and a depth where there is none. -/
theorem lineage_not_trusted : ∃ steps steps' result result',
    Program.Trace (execute ⟨sample, 0⟩ sampleContext (sampleRequest "note.write" none)).run steps result ∧
    Program.Trace (execute ⟨sample, 0⟩ sampleContext (sampleRequest "note.write" none)).run steps' result' ∧
    List.Forall₂ (Alike [] [("run_id", .str "run-9"), ("workflow_depth", .int 0)]) steps steps' ∧
    (persistedEvents steps).map (fun row => Fields.get row.payload "run_id") = [some (.str "run-0")] ∧
    (persistedEvents steps').map (fun row => Fields.get row.payload "run_id") = [some (.str "run-9")] ∧
    (persistedEvents steps').map (fun row => Fields.get row.payload "workflow_depth") = [some (.int 0)] ∧
    ¬ List.Forall₂ SameTrusted (persistedEvents steps) (persistedEvents steps') := by
  have own : (persistedEvents (sampleSteps [])).map (fun row => Fields.get row.payload "run_id") =
      [some (.str "run-0")] := by decide
  have forged : (persistedEvents (sampleSteps [("run_id", .str "run-9"), ("workflow_depth", .int 0)])).map
      (fun row => Fields.get row.payload "run_id") = [some (.str "run-9")] := by decide
  refine ⟨_, _, _, _, Program.answered_trace _ _, Program.answered_trace _ _, answered_alike _ _ _ _ _, own,
    forged, by decide, ?_⟩
  intro same
  have names : List.Forall₂ Eq ((persistedEvents (sampleSteps [])).map
        fun row => Fields.get row.payload "run_id")
      ((persistedEvents (sampleSteps [("run_id", .str "run-9"), ("workflow_depth", .int 0)])).map
        fun row => Fields.get row.payload "run_id") := by
    rw [List.forall₂_map_left_iff, List.forall₂_map_right_iff]
    exact same.imp fun _ _ rows => rows.fields "run_id" (by decide)
  rw [own, forged] at names
  simp at names

end Operly.Kernel
