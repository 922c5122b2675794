import Operly.Workflow.Lifecycle

/-! Schedules and their occurrences: which runs a tick queues. -/

namespace Operly.Workflow
open Python Security Concurrent Relational Fallible

section
variable {base before state after : WorkflowState} {changes : List Write}

/-! ### What a tick learns -/

def Groups {α : Type} (group : α → List Write → Prop) : List α → List Write → Prop
  | [], changes => changes = []
  | row :: rest, changes => ∃ first others, changes = first ++ others ∧ group row first ∧
      Groups group rest others

theorem forEach_learns {α : Type} {body : α → Session (List Write)} {group : α → List Write → Prop}
    {rows : List α} (learns : ∀ row ∈ rows, Learns base (body row) (group row)) :
    Learns base (forEach body rows) (Groups group rows) := by
  induction rows with
  | nil => exact Informed.pure rfl
  | cons row rest ih =>
    apply Informed.bind (learns row (by simp))
    intro first grouped
    apply Informed.bind (ih fun other member => learns other (by simp [member]))
    exact fun others later => Informed.pure ⟨first, others, rfl, grouped, later⟩

theorem Groups.beside {α : Type} {rows : List α}
    (groups : Groups (fun _ changes => ∀ change ∈ changes, Beside change) rows changes) :
    ∀ change ∈ changes, Beside change := by
  induction rows generalizing changes with
  | nil =>
    obtain rfl : changes = [] := groups
    simp
  | cons row rest ih =>
    obtain ⟨first, others, rfl, early, late⟩ := groups
    intro change member
    rcases List.mem_append.mp member with ofFirst | ofOthers
    · exact early change ofFirst
    · exact ih late change ofOthers

theorem releaseRun_learns (now : Int) (run : WorkflowRun) :
    Learns base (releaseRun now run) fun changes => ∀ change ∈ changes, Beside change := by
  unfold releaseRun
  cases run.currentStepKey with
  | none => exact Informed.pure (by simp [Beside])
  | some key =>
    apply Learns.ask (by rfl)
    intro step _
    cases (step : Option WorkflowStepRun) with
    | none => exact Informed.pure (by simp [Beside])
    | some step =>
      have released : Learns base (releasable now run step) fun _ => True := by
        apply Informed.ite
        · exact fun _ => Informed.pure trivial
        · intro _
          apply Informed.ite
          · intro _
            apply Learns.ask (by rfl)
            intro approval _
            cases (approval : Option Kernel.KernelApproval) with
            | none => exact Informed.pure trivial
            | some _ => exact Informed.pure trivial
          · exact fun _ => Informed.pure trivial
      apply Informed.bind released
      intro freed _
      apply Informed.pure
      cases freed <;> simp [Beside]

theorem standingAttempt_learns (run : WorkflowRun) : Learns base (standingAttempt run) fun _ => True := by
  apply Informed.bind (currentStep_learns run)
  intro step _
  cases step with
  | none => exact Informed.pure trivial
  | some step => exact attemptOf_learns step

theorem orphanRun_learns (code message : String) (run : WorkflowRun) :
    Learns base (orphanRun code message run) fun changes => ∀ change ∈ changes, Beside change := by
  apply Learns.ask (by rfl)
  intro workflow _
  apply Informed.bind (standingAttempt_learns run)
  intro attempt _
  apply Learns.ask (by rfl)
  intro now _
  have ended : ∀ change ∈ attempt.toList.flatMap (fun attempt =>
      if attempt.status = .running then
        [Write.attempt attempt { attempt with
          status := .orphaned, errorCode := some code, errorMessage := some message
          finishedAt := some now }]
      else []), Beside change := by
    intro change member
    obtain ⟨attempt, -, among⟩ := List.mem_flatMap.mp member
    split at among
    · rw [List.mem_singleton.mp among]
      trivial
    · cases among
  cases (workflow : Option WorkflowDefinition) with
  | none =>
    apply Informed.pure
    intro change member
    rcases List.mem_cons.mp member with rfl | later
    · trivial
    · exact ended change later
  | some _ =>
    apply Informed.bind recordWorkflowEvent_learns
    rintro _ ⟨event, rfl⟩
    apply Informed.pure
    intro change member
    rcases List.mem_append.mp member with early | late
    · rcases List.mem_cons.mp early with rfl | later
      · trivial
      · exact ended change later
    · rw [List.mem_singleton.mp late]
      trivial

/-! Claims. -/

theorem dropOverflow_learns (slots : Slots) (now : Int) (index : Nat) (run : WorkflowRun) :
    Learns base (dropOverflow slots now index run) fun changes => ∀ change ∈ changes, Beside change := by
  apply Informed.ite
  · intro _
    apply Informed.bind recordWorkflowEvent_learns
    rintro _ ⟨event, rfl⟩
    exact Informed.pure (by simp [Beside])
  · exact fun _ => Informed.pure (by simp)

variable {settings : SchedulerSettings} {now : Int} {platform : Platform} {schedule : WorkflowSchedule}

theorem claimQueued_learns {slots : Slots} (index : Nat) (queued : List WorkflowRun) :
    Learns base (claimQueued settings now slots index queued)
      fun outcome => ∀ change ∈ outcome.2, Beside change := by
  induction queued generalizing index with
  | nil => exact Informed.pure (by simp)
  | cons run rest ih =>
    unfold claimQueued
    apply Informed.ite
    · intro _
      apply Learns.ask (by rfl)
      intro token _
      apply Informed.bind (ih (index + 1))
      rintro ⟨claims, changes⟩ beside
      apply Informed.pure
      intro change member
      rcases List.mem_cons.mp member with rfl | later
      · trivial
      · exact beside change later
    · intro _
      apply Informed.bind (dropOverflow_learns slots now index run)
      intro dropped early
      apply Informed.bind (ih (index + 1))
      rintro ⟨claims, changes⟩ late
      apply Informed.pure
      intro change member
      rcases List.mem_append.mp member with first | second
      · exact early change first
      · exact late change second

theorem claimWorkflow_learns (remaining : Nat) (workflowId : String) :
    Learns base (claimWorkflow settings now remaining workflowId)
      fun outcome => ∀ change ∈ outcome.2, Beside change := by
  apply Learns.ask (by rfl)
  intro workflow _
  cases (workflow : Option WorkflowDefinition) with
  | none => exact Informed.pure (by simp)
  | some workflow =>
    have policed : Learns base (workflowPolicy settings.platform workflow) fun _ => True := by
      apply Learns.ask (by rfl)
      intro version _
      cases (version : Option WorkflowVersion) with
      | none => exact Informed.pure trivial
      | some _ => exact Informed.ofExcept fun _ _ => trivial
    apply Informed.bind policed
    intro policy _
    apply Learns.ask (by rfl)
    intro active _
    apply Learns.ask (by rfl)
    exact fun queued _ => claimQueued_learns 0 queued

theorem claimWorkflows_learns {limit : Nat} (candidates : List String) (claims : List Claim) :
    Learns base (claimWorkflows settings now limit candidates claims)
      fun outcome => ∀ change ∈ outcome.2, Beside change := by
  induction candidates generalizing claims with
  | nil => exact Informed.pure (by simp)
  | cons workflowId rest ih =>
    unfold claimWorkflows
    apply Informed.ite
    · exact fun _ => Informed.pure (by simp)
    · intro _
      apply Informed.bind (claimWorkflow_learns _ workflowId)
      rintro ⟨more, changes⟩ early
      apply Informed.bind (ih (claims ++ more))
      rintro ⟨all, others⟩ late
      apply Informed.pure
      intro change member
      rcases List.mem_append.mp member with first | second
      · exact early change first
      · exact late change second

/-! ### Due schedules -/

def Occurrence (base : WorkflowState) (schedule : WorkflowSchedule) (scheduledFor : Int)
    (queued : List Write) : Prop :=
  queued = [] ∨ ∃ run event, queued = [.newRun run, .newEvent event] ∧
    run.dedupeKey = .schedule schedule.id scheduledFor ∧ base.clock ≤ run.createdAt

inductive Fires (base : WorkflowState) (schedule : WorkflowSchedule) : List Write → Prop
  | stopped : Fires base schedule (scheduleChange schedule schedule.stopped)
  | fired {workflow : WorkflowDefinition} {scheduledFor : Int} {queued : List Write} (next : Int)
      (event : KernelEventRecord) (found : base.definitions.find schedule.workflowId = some workflow)
      (enabled : workflow.status = .enabled) (due : schedule.nextRunAt = some scheduledFor)
      (occurs : Occurrence base schedule scheduledFor queued) :
      Fires base schedule
        (scheduleChange schedule (schedule.fired scheduledFor (some next)) ++ queued ++ [.newEvent event])
  | exhausted {workflow : WorkflowDefinition} {scheduledFor : Int} {queued : List Write}
      (event last : KernelEventRecord) (found : base.definitions.find schedule.workflowId = some workflow)
      (enabled : workflow.status = .enabled) (due : schedule.nextRunAt = some scheduledFor)
      (occurs : Occurrence base schedule scheduledFor queued) :
      Fires base schedule (definitionChange workflow { workflow with status := .disabled } ++
        (scheduleChange schedule (schedule.fired scheduledFor none) ++ queued ++ [.newEvent event]) ++
        [.newEvent last])

theorem enqueueSchedule_learns (schedule : WorkflowSchedule) :
    Learns base (enqueueSchedule platform schedule) (Fires base schedule) := by
  apply Learns.ask (by rfl)
  intro answer told
  cases found : (answer : Option WorkflowDefinition) with
  | none => exact Informed.pure .stopped
  | some workflow =>
    have held : base.definitions.find schedule.workflowId = some workflow := told.definition.symm.trans found
    cases due : schedule.nextRunAt with
    | none => exact Informed.pure .stopped
    | some scheduledFor =>
      apply Informed.ite
      · intro enabled
        unfold fireSchedule
        cases schedule.scheduleJson with
        | none => exact Informed.raise
        | some spec =>
          apply Informed.bind_ofExcept
          intro next _
          have occurrence : Learns base (queueOccurrence workflow schedule scheduledFor)
              fun outcome => Occurrence base schedule scheduledFor outcome.2 := by
            apply Learns.ask (by rfl)
            intro existing _
            cases (existing : Option String) with
            | some _ => exact Informed.pure (.inl rfl)
            | none =>
              apply Informed.bind queueWorkflowRun_learns
              rintro ⟨run, queued⟩ ⟨event, shape, key, created⟩
              exact Informed.pure (.inr ⟨run, event, shape, key, created⟩)
          apply Informed.bind occurrence
          rintro ⟨deduplicated, queued⟩ occurs
          apply Informed.bind recordWorkflowEvent_learns
          rintro _ ⟨event, rfl⟩
          cases next with
          | some next => exact Informed.pure (.fired next event held enabled due occurs)
          | none =>
            apply Informed.bind recordWorkflowEvent_learns
            rintro _ ⟨last, rfl⟩
            exact Informed.pure (.exhausted event last held enabled due occurs)
      · exact fun _ => Informed.pure .stopped

theorem Occurrence.filter {scheduledFor : Int} {queued : List Write}
    (occurs : Occurrence base schedule scheduledFor queued) : queued.filter Write.ofSchedules = [] := by
  rcases occurs with rfl | ⟨run, event, rfl, -⟩ <;> rfl

theorem scheduleChange_filter (schedule now : WorkflowSchedule) :
    (scheduleChange schedule now).filter Write.ofSchedules = scheduleChange schedule now := by
  unfold scheduleChange
  split <;> rfl

/-- The schedules that are left are those that were there, of the same workflows. -/
def SameOwners (before after : Schedules) : Prop :=
  ∀ id row, after.find id = some row → ∃ old, before.find id = some old ∧ row.workflowId = old.workflowId

theorem SameOwners.refl (schedules : Schedules) : SameOwners schedules schedules :=
  fun _ row found => ⟨row, found, rfl⟩

theorem SameOwners.trans {first second third : Schedules} (early : SameOwners first second)
    (late : SameOwners second third) : SameOwners first third := by
  intro id row found
  obtain ⟨middle, found', same'⟩ := late id row found
  obtain ⟨old, found'', same⟩ := early id middle found'
  exact ⟨old, found'', same'.trans same⟩

theorem SameOwners.replace {schedules : Schedules} {row old : WorkflowSchedule}
    (found : schedules.find row.id = some old) (same : row.workflowId = old.workflowId) :
    SameOwners schedules (schedules.replace row) := by
  intro id other held
  rw [Table.find_replace] at held
  split at held
  · next own =>
    subst own
    rw [found, Option.map_some, Option.some.injEq] at held
    subst held
    exact ⟨old, found, same⟩
  · exact ⟨other, held, rfl⟩

theorem scheduleChange_orderly {now : WorkflowSchedule} (orderly : Orderly state.definitions state.schedules)
    (fits : ∀ current, (WorkflowSchedule.patch schedule now current).enabled = true →
      current.enabled = true ∧ (current.nextRunAt.isSome = true →
        (WorkflowSchedule.patch schedule now current).nextRunAt.isSome = true))
    (stored : now.scheduleJson = schedule.scheduleJson)
    (written : state.writeAll (scheduleChange schedule now) = some after) :
    Orderly after.definitions after.schedules ∧ SameOwners state.schedules after.schedules := by
  unfold scheduleChange at written
  split at written
  · cases written
    exact ⟨orderly, .refl _⟩
  · obtain ⟨current, found, rfl⟩ := write_map (writeAll_one written)
    have own : current.id = schedule.id := Table.find_key found
    have held : state.schedules.find (WorkflowSchedule.patch schedule now current).id = some current :=
      own.symm ▸ found
    have member := Table.find_mem found
    refine ⟨orderly.schedule held rfl ?_ ?_, .replace held rfl⟩
    · intro on
      obtain ⟨on', next⟩ := fits current on
      obtain ⟨workflow, next'⟩ := orderly.supported current member on'
      exact ⟨workflow, next next'⟩
    · have same : (WorkflowSchedule.patch schedule now current).scheduleJson = current.scheduleJson := by
        simp [WorkflowSchedule.patch, stored]
      rw [same]
      exact orderly.stored current member

theorem Fires.orderly (fires : Fires base schedule changes) (on : schedule.enabled = true)
    (orderly : Orderly state.definitions state.schedules)
    (owner : ∀ row, state.schedules.find schedule.id = some row → row.workflowId = schedule.workflowId)
    (written : state.writeAll changes = some after) :
    Orderly after.definitions after.schedules ∧ SameOwners state.schedules after.schedules := by
  obtain ⟨shown, written', definitions, schedules⟩ := writeAll_ofSchedules written
  rw [definitions, schedules]
  cases fires with
  | stopped =>
    rw [scheduleChange_filter] at written'
    have kept : schedule.stopped.scheduleJson = schedule.scheduleJson := rfl
    apply scheduleChange_orderly orderly _ kept written'
    intro current still
    simp [WorkflowSchedule.patch, WorkflowSchedule.stopped, on, changed] at still
  | @fired workflow scheduledFor queued next event found enabled due occurs =>
    rw [List.filter_append, List.filter_append, scheduleChange_filter, occurs.filter] at written'
    simp only [List.append_nil, List.filter_cons, Write.ofSchedules, List.filter_nil, Bool.false_eq_true,
      if_false] at written'
    have kept : (schedule.fired scheduledFor (some next)).scheduleJson = schedule.scheduleJson := rfl
    apply scheduleChange_orderly orderly _ kept written'
    intro current still
    simp only [WorkflowSchedule.patch, WorkflowSchedule.fired, on, Option.isSome_some, Bool.and_self,
      changed_same] at still ⊢
    refine ⟨still, fun next' => ?_⟩
    unfold changed
    split
    · exact next'
    · rfl
  | @exhausted workflow scheduledFor queued event last found enabled due occurs =>
    have disabled : workflow ≠ { workflow with status := .disabled } := by
      intro same
      have status := congrArg WorkflowDefinition.status same
      rw [enabled] at status
      cases status
    have stopped : schedule ≠ schedule.fired scheduledFor none := by
      intro same
      have off := congrArg WorkflowSchedule.enabled same
      simp [WorkflowSchedule.fired, on] at off
    rw [List.filter_append, List.filter_append, List.filter_append, List.filter_append, scheduleChange_filter,
      occurs.filter, definitionChange, if_neg disabled, scheduleChange, if_neg stopped] at written'
    simp only [List.append_nil, List.filter_cons, Write.ofSchedules, List.filter_nil, Bool.false_eq_true,
      if_false, if_true, List.cons_append, List.nil_append, WorkflowState.writeAll, List.foldlM_cons,
      List.foldlM_nil, Option.bind_eq_bind, Option.bind_eq_some_iff, Option.pure_def, Option.some.injEq] at written'
    obtain ⟨middle, first, last', second, rfl⟩ := written'
    obtain ⟨row, foundRow, rfl⟩ := write_map first
    obtain ⟨current, foundCurrent, rfl⟩ := write_map second
    have named := Table.find_key foundRow
    have own := Table.find_key foundCurrent
    have owned : current.workflowId = row.id := by
      rw [owner current foundCurrent, named, Table.find_key found]
    have heldRow : state.definitions.find
        (WorkflowDefinition.patch workflow { workflow with status := .disabled } row).id = some row :=
      named.symm ▸ foundRow
    have held : state.schedules.find (WorkflowSchedule.patch schedule (schedule.fired scheduledFor none) current).id =
        some current := own.symm ▸ foundCurrent
    refine ⟨orderly.both heldRow held rfl owned ?_ ?_, .replace held rfl⟩
    · intro still
      simp [WorkflowSchedule.patch, WorkflowSchedule.fired, on, changed] at still
    · simpa [WorkflowSchedule.patch, WorkflowSchedule.fired] using
        orderly.stored current (Table.find_mem foundCurrent)

theorem Groups.orderly {rows : List WorkflowSchedule} (groups : Groups (Fires base) rows changes)
    (due : ∀ row ∈ rows, base.schedules.find row.id = some row ∧ row.enabled = true)
    (orderly : Orderly state.definitions state.schedules) (owners : SameOwners base.schedules state.schedules)
    (written : state.writeAll changes = some after) : Orderly after.definitions after.schedules := by
  induction rows generalizing changes state with
  | nil =>
    obtain rfl : changes = [] := groups
    cases written
    exact orderly
  | cons row rest ih =>
    obtain ⟨first, others, rfl, fires, later⟩ := groups
    rw [writeAll_append, Option.bind_eq_some_iff] at written
    obtain ⟨middle, early, late⟩ := written
    obtain ⟨found, on⟩ := due row (by simp)
    obtain ⟨orderly', owners'⟩ := fires.orderly on orderly (by
      intro current held
      obtain ⟨old, held', same⟩ := owners row.id current held
      rw [found, Option.some.injEq] at held'
      rw [same, ← held']) early
    exact ih later (fun other member => due other (by simp [member])) orderly' (owners.trans owners') late

/-- The occurrence that a schedule is due for, of a workflow that is enabled. -/
def Occurs (state : WorkflowState) (id : String) (scheduledFor time : Int) : Prop :=
  ∃ schedule workflow, state.schedules.find id = some schedule ∧ schedule.enabled = true ∧
    schedule.nextRunAt = some scheduledFor ∧
    state.definitions.find schedule.workflowId = some workflow ∧ workflow.status = .enabled ∧
    scheduledFor ≤ time

theorem Fires.run {run : WorkflowRun} (fires : Fires base schedule changes) (queued : .newRun run ∈ changes) :
    ∃ workflow scheduledFor,
      base.definitions.find schedule.workflowId = some workflow ∧ workflow.status = .enabled ∧
      schedule.nextRunAt = some scheduledFor ∧ run.dedupeKey = .schedule schedule.id scheduledFor ∧
      base.clock ≤ run.createdAt := by
  have ofSchedule : ∀ now, .newRun run ∉ scheduleChange schedule now := by
    intro now member
    rw [← scheduleChange_filter, List.mem_filter] at member
    cases member.2
  have occurred : ∀ {scheduledFor : Int} {others : List Write}, Occurrence base schedule scheduledFor others →
      .newRun run ∈ others → run.dedupeKey = .schedule schedule.id scheduledFor ∧ base.clock ≤ run.createdAt := by
    rintro scheduledFor others (rfl | ⟨new, event, rfl, key, created⟩) member
    · cases member
    · simp only [List.mem_cons, Write.newRun.injEq, reduceCtorEq, List.not_mem_nil, or_false] at member
      rw [member]
      exact ⟨key, created⟩
  cases fires with
  | stopped => exact absurd queued (ofSchedule _)
  | @fired workflow scheduledFor others next event found enabled due occurs =>
    simp only [List.mem_append, ofSchedule, false_or, List.mem_singleton, reduceCtorEq, or_false] at queued
    obtain ⟨key, created⟩ := occurred occurs queued
    exact ⟨workflow, scheduledFor, found, enabled, due, key, created⟩
  | @exhausted workflow scheduledFor others event last found enabled due occurs =>
    have ofDefinition : .newRun run ∉ definitionChange workflow { workflow with status := .disabled } := by
      unfold definitionChange
      split <;> simp
    simp only [List.mem_append, ofDefinition, ofSchedule, false_or, List.mem_singleton, reduceCtorEq,
      or_false] at queued
    obtain ⟨key, created⟩ := occurred occurs queued
    exact ⟨workflow, scheduledFor, found, enabled, due, key, created⟩

theorem Groups.run {rows : List WorkflowSchedule} {run : WorkflowRun} (groups : Groups (Fires base) rows changes)
    (queued : .newRun run ∈ changes) : ∃ row ∈ rows, ∃ others, Fires base row others ∧ .newRun run ∈ others := by
  induction rows generalizing changes with
  | nil =>
    obtain rfl : changes = [] := groups
    cases queued
  | cons row rest ih =>
    obtain ⟨first, others, rfl, fires, later⟩ := groups
    rcases List.mem_append.mp queued with early | late
    · exact ⟨row, by simp, first, fires, early⟩
    · obtain ⟨other, member, changes, fires', within⟩ := ih later late
      exact ⟨other, by simp [member], changes, fires', within⟩

/-! ### Turns -/

/-- What holds during a turn that began in the state `before`. -/
structure Kept (before : WorkflowState) (occurs : String → Int → Int → Prop) (state : WorkflowState) : Prop where
  orderly : Orderly state.definitions state.schedules
  keys : (state.runs.rows.map (·.dedupeKey)).Nodup
  lasting : ∀ old ∈ before.runs.rows, ∃ run ∈ state.runs.rows, SameQueued old run
  origin : ∀ run ∈ state.runs.rows, (∃ old ∈ before.runs.rows, SameQueued old run) ∨
    ∀ id scheduledFor, run.dedupeKey = .schedule id scheduledFor → occurs id scheduledFor run.createdAt

variable {occurs : String → Int → Int → Prop}

theorem Kept.start (orderly : Orderly before.definitions before.schedules)
    (keys : (before.runs.rows.map (·.dedupeKey)).Nodup) : Kept before occurs before where
  orderly := orderly
  keys := keys
  lasting old member := ⟨old, member, .refl old⟩
  origin run member := .inl ⟨run, member, .refl run⟩

theorem Kept.reads (kept : Kept before occurs state) (reads : Reads state after) : Kept before occurs after where
  orderly := by
    rw [reads.definitions, reads.schedules]
    exact kept.orderly
  keys := by
    rw [reads.runs]
    exact kept.keys
  lasting := by
    rw [reads.runs]
    exact kept.lasting
  origin := by
    rw [reads.runs]
    exact kept.origin

theorem Kept.write (kept : Kept before occurs state) (orderly : Orderly after.definitions after.schedules)
    (queued : ∀ run, .newRun run ∈ changes → ∀ id scheduledFor, run.dedupeKey = .schedule id scheduledFor →
      occurs id scheduledFor run.createdAt)
    (written : state.writeAll changes = some after) : Kept before occurs after where
  orderly := orderly
  keys := (writeAll_grows written).keys kept.keys
  lasting old member := by
    obtain ⟨middle, known, same⟩ := kept.lasting old member
    obtain ⟨run, known', same'⟩ := (writeAll_grows written).lasting middle known
    exact ⟨run, known', same.trans same'⟩
  origin run member := by
    rcases (writeAll_grows written).origin run member with ⟨middle, known, same⟩ | ⟨new, inserted, same⟩
    · rcases kept.origin middle known with ⟨old, known', same'⟩ | later
      · exact .inl ⟨old, known', same'.trans same⟩
      · right
        intro id scheduledFor key
        rw [same.createdAt]
        exact later id scheduledFor (same.dedupeKey.symm.trans key)
    · right
      intro id scheduledFor key
      rw [same.createdAt]
      exact queued new inserted id scheduledFor (same.dedupeKey.symm.trans key)

theorem Kept.beside (kept : Kept before occurs state) (aside : ∀ change ∈ changes, Beside change)
    (written : state.writeAll changes = some after) : Kept before occurs after := by
  obtain ⟨definitions, schedules, -⟩ := beside_tables aside written
  apply kept.write _ _ written
  · rw [definitions, schedules]
    exact kept.orderly
  · intro run member id scheduledFor key
    exact absurd key (aside _ member id scheduledFor)

/-- What neither reading nor a write beside the workflows disturbs. -/
structure Stable (kept : WorkflowState → Prop) : Prop where
  reads : ∀ {state after}, kept state → Reads state after → kept after
  beside : ∀ {state changes after}, kept state → (∀ change ∈ changes, Beside change) →
    state.writeAll changes = some after → kept after

theorem Kept.stable (before : WorkflowState) (occurs : String → Int → Int → Prop) :
    Stable (Kept before occurs) := ⟨Kept.reads, Kept.beside⟩

structure Settled (before state : WorkflowState) : Prop where
  kept : Kept before (Occurs before) state
  definitions : state.definitions = before.definitions
  schedules : state.schedules = before.schedules

theorem Settled.reads (settled : Settled before state) (reads : Reads state after) : Settled before after where
  kept := settled.kept.reads reads
  definitions := reads.definitions.trans settled.definitions
  schedules := reads.schedules.trans settled.schedules

theorem Settled.beside (settled : Settled before state) (aside : ∀ change ∈ changes, Beside change)
    (written : state.writeAll changes = some after) : Settled before after := by
  obtain ⟨definitions, schedules, -⟩ := beside_tables aside written
  exact ⟨settled.kept.beside aside written, definitions.trans settled.definitions,
    schedules.trans settled.schedules⟩

theorem Settled.stable (before : WorkflowState) : Stable (Settled before) := ⟨Settled.reads, Settled.beside⟩

variable {pid : Nat} {ok : Op → Choice → WorkflowState → Prop}

abbrev Keeps {α : Type} (pid : Nat) (ok : Op → Choice → WorkflowState → Prop) (kept : WorkflowState → Prop)
    (code : Session α) (state : WorkflowState) : Prop :=
  code.Ensures workflowWorld pid ok kept (fun _ after => kept after) (fun _ after => kept after) state

theorem beside_session {α : Type} {kept : WorkflowState → Prop} {body : Session (α × List Write)}
    (stable : Stable kept) (learns : ∀ base, Learns base body fun outcome => ∀ change ∈ outcome.2, Beside change)
    (initially : kept state) : Keeps pid ok kept (sessionScope body) state := by
  apply sessionScope_ensures (learns state) (.refl state)
  · exact fun after since => stable.reads initially since
  · intro value current after aside since written
    have committed := stable.beside (stable.reads initially since) aside written
    exact stable.reads committed (.release after pid)
  · exact fun error after since => stable.reads initially since

theorem clock_keeps {α : Type} {kept : WorkflowState → Prop} {next : Int → Session α} (stable : Stable kept)
    (initially : kept state) (rest : ∀ after : WorkflowState, kept after → Reads state after →
      Keeps pid ok kept (next after.clock) after) : Keeps pid ok kept (query .now >>= next) state := by
  apply Ensures.bind_ask initially
  intro choice answer after _ performed
  have asked : workflowWorld.perform pid Op.now choice state = some (answer, after) := performed
  have since := (perform_told rfl (.refl state) asked).2
  have kept' := stable.reads initially since
  have now : (answer : Int) = after.clock := by
    cases performed
    rfl
  rw [show answer = after.clock from now]
  exact rest after kept' since

theorem releaseDecided_keeps {kept : WorkflowState → Prop} (stable : Stable kept) (initially : kept state) :
    Keeps pid ok kept releaseDecided state := by
  apply clock_keeps stable initially
  intro after kept' _
  apply beside_session stable _ kept'
  intro base
  apply Learns.ask (by rfl)
  intro waiting _
  apply Informed.bind (forEach_learns fun run _ => releaseRun_learns _ run)
  exact fun changes groups => Informed.pure groups.beside

theorem markOrphanedRuns_keeps {kept : WorkflowState → Prop} (stable : Stable kept) (initially : kept state) :
    Keeps pid ok kept markOrphanedRuns state := by
  apply clock_keeps stable initially
  intro after kept' _
  apply beside_session stable _ kept'
  intro base
  apply Learns.ask (by rfl)
  intro rows _
  apply Informed.bind (forEach_learns fun run _ => orphanRun_learns _ _ run)
  exact fun changes groups => Informed.pure groups.beside

theorem claimRuns_keeps {kept : WorkflowState → Prop} (stable : Stable kept) (initially : kept state) (limit : Nat) :
    Keeps pid ok kept (claimRuns settings limit) state := by
  apply Ensures.ite
  · exact fun _ => Ensures.pure initially
  · intro _
    apply clock_keeps stable initially
    intro after kept' _
    apply beside_session stable _ kept'
    intro base
    apply Learns.ask (by rfl)
    exact fun candidates _ => claimWorkflows_learns _ _

theorem WorkflowSchedule.due_spec {row : WorkflowSchedule} (due : row.due now = true) :
    row.enabled = true ∧ ∀ scheduledFor, row.nextRunAt = some scheduledFor → scheduledFor ≤ now := by
  simp only [WorkflowSchedule.due, Bool.and_eq_true] at due
  refine ⟨due.1.1, ?_⟩
  intro scheduledFor next
  rw [next] at due
  simpa using due.1.2

theorem enqueueDueSchedules_keeps (settled : Settled before state) :
    Keeps pid ok (Kept before (Occurs before)) (enqueueDueSchedules platform) state := by
  apply clock_keeps (Kept.stable before _) settled.kept
  intro base _ since
  have settled' := settled.reads since
  have learns : Learns base (do
      let due ← query (.dueForUpdate base.clock 25)
      let changes ← forEach (enqueueSchedule platform) due
      return ((), changes)) fun outcome => ∃ rows : List WorkflowSchedule,
        (∀ row ∈ rows, row ∈ base.schedules.rows ∧ row.due base.clock = true) ∧
          Groups (Fires base) rows outcome.2 := by
    apply Learns.ask (by rfl)
    intro rows told
    apply Informed.bind (forEach_learns fun row _ => enqueueSchedule_learns row)
    exact fun changes groups => Informed.pure ⟨rows, told.dueForUpdate, groups⟩
  apply sessionScope_ensures learns (.refl base)
  · exact fun after since => settled'.kept.reads since
  · rintro ⟨_, changes⟩ current after ⟨rows, due, groups⟩ since written
    have kept := settled'.kept.reads since
    have found : ∀ row ∈ rows, base.schedules.find row.id = some row ∧ row.enabled = true :=
      fun row member => ⟨Table.find_of_mem (due row member).1, (WorkflowSchedule.due_spec (due row member).2).1⟩
    have orderly := groups.orderly found kept.orderly (since.schedules ▸ .refl _) written
    have committed : Kept before (Occurs before) after := by
      apply kept.write orderly _ written
      intro run member id scheduledFor key
      obtain ⟨row, among, others, fires, within⟩ := groups.run member
      obtain ⟨workflow, occurrence, known, enabled, next, own, created⟩ := fires.run within
      rw [own, DedupeKey.schedule.injEq] at key
      obtain ⟨rfl, rfl⟩ := key
      obtain ⟨on, reached⟩ := WorkflowSchedule.due_spec (due row among).2
      refine ⟨row, workflow, ?_, on, next, ?_, enabled, (reached _ next).trans created⟩
      · rw [← settled'.schedules]
        exact (found row among).1
      · rw [← settled'.definitions]
        exact known
    exact committed.reads (.release after pid)
  · exact fun error after since => settled'.kept.reads since

theorem tick_keeps (settled : Settled before state) (active : Nat) :
    Keeps pid ok (Kept before (Occurs before)) (tick settings active) state := by
  -- until the schedules are enqueued the definitions and schedules are those of the start
  have early : ∀ {code : Session Unit} {state : WorkflowState}, Keeps pid ok (Settled before) code state →
      code.Ensures workflowWorld pid ok (Kept before (Occurs before)) (fun _ after => Settled before after)
        (fun _ after => Kept before (Occurs before) after) state := by
    intro code state keeps
    exact Ensures.weaken keeps (fun _ settled => settled.kept) (fun _ _ settled => settled)
      fun _ _ settled => settled.kept
  apply Ensures.bind (early (releaseDecided_keeps (Settled.stable before) settled))
  intro _ state settled
  apply Ensures.bind (early (markOrphanedRuns_keeps (Settled.stable before) settled))
  intro _ state settled
  apply Ensures.bind (enqueueDueSchedules_keeps settled)
  intro _ state kept
  apply Ensures.ite
  · exact fun _ => Ensures.pure kept
  · exact fun _ => claimRuns_keeps (Kept.stable before _) kept _

theorem call_keeps {context : ExecutionContext} {arguments : Fields} (kept : Kept before occurs state)
    (capability : Capability) :
    Keeps pid ok (Kept before occurs) (call platform capability context arguments) state := by
  apply sessionScope_ensures (execute_learns kept.orderly.named capability) (.refl state)
  · exact fun after since => kept.reads since
  · intro value current after calls since written
    have kept' := kept.reads since
    have calls' := calls.reads since
    have committed : Kept before occurs after := by
      apply kept'.write (calls'.orderly kept'.orderly written) _ written
      intro run member id scheduledFor key
      exact absurd key (calls'.unscheduled run member id scheduledFor)
    exact committed.reads (.release after pid)
  · exact fun error after since => kept.reads since

def Entry.mayQueue (before : WorkflowState) : Entry → String → Int → Int → Prop
  | .call _ _ _ => fun _ _ _ => False
  | .tick _ => Occurs before

theorem Takes.kept {turn : Turn Entry Choice} {outcome : Option (Except WorkflowError (Option CallResult))}
    (orderly : Orderly before.definitions before.schedules) (keys : (before.runs.rows.map (·.dedupeKey)).Nodup)
    (taken : Takes settings before turn outcome after) : Kept before (turn.entry.mayQueue before) after := by
  have ensures : (lifecycle settings turn.pid turn.entry).Ensures workflowWorld turn.pid (fun _ _ _ => True)
      (Kept before (turn.entry.mayQueue before)) (fun _ after => Kept before (turn.entry.mayQueue before) after)
      before := by
    have keeps : ∀ {code : Session (Option CallResult)},
        Keeps turn.pid (fun _ _ _ => True) (Kept before (turn.entry.mayQueue before)) code before →
        code.run.Ensures workflowWorld turn.pid (fun _ _ _ => True) (Kept before (turn.entry.mayQueue before))
          (fun _ after => Kept before (turn.entry.mayQueue before) after) before := by
      intro code keeps
      apply Program.Ensures.weaken (Ensures.run_iff.mp keeps) fun _ kept => kept
      intro result after kept
      cases result with
      | ok value => exact kept
      | error error => exact kept
    cases entry : turn.entry with
    | call capability context arguments =>
      rw [entry] at keeps
      apply keeps
      apply Ensures.bind (call_keeps (.start orderly keys) capability)
      exact fun _ _ kept => Ensures.pure kept
    | tick active =>
      rw [entry] at keeps
      apply keeps
      apply Ensures.bind (tick_keeps ⟨.start orderly keys, rfl, rfl⟩ active)
      exact fun _ _ kept => Ensures.pure kept
  have meets : turn.Meets workflowWorld (lifecycle settings) (fun _ _ _ _ => True) before :=
    Program.Meets.of_all (fun _ _ _ => trivial) _ _ _
  obtain ⟨finished, lost⟩ := Turn.ensured (by exact ensures) meets taken
  cases outcome with
  | some value => exact finished value rfl
  | none =>
    obtain ⟨last, kept, rfl⟩ := lost rfl
    exact kept.reads (.release last turn.pid)

theorem History.orderly {permitted : WorkflowState → Entry → Prop} {requests : List Request}
    (history : History settings permitted state requests) :
    Orderly state.definitions state.schedules ∧ (state.runs.rows.map (·.dedupeKey)).Nodup := by
  induction history with
  | start clock =>
    refine ⟨⟨rfl, ?_, ?_, ?_⟩, ?_⟩
    all_goals simp [Table.empty]
  | turn earlier allowed taken ih =>
    have kept := taken.kept ih.1 ih.2
    exact ⟨kept.orderly, kept.keys⟩

/-- In every state that is reached, an enabled schedule is that of an enabled workflow and has a next
time, and each occurrence of a schedule has one run at most. The next turn loses no run, and queues a
run for an occurrence only when it is a tick that finds the workflow enabled and the occurrence due. -/
theorem schedules_in_order {settings : SchedulerSettings} {requests : List Request}
    (history : History settings (fun _ _ => True) before requests) :
    (∀ row ∈ before.schedules.rows, row.enabled = true →
      (∃ workflow, before.definitions.find row.workflowId = some workflow ∧ workflow.status = .enabled) ∧
        ∃ next, row.nextRunAt = some next) ∧
    (∀ run ∈ before.runs.rows, ∀ other ∈ before.runs.rows, ∀ id scheduledFor,
      run.dedupeKey = .schedule id scheduledFor → other.dedupeKey = .schedule id scheduledFor → run = other) ∧
    ∀ turn outcome after, Takes settings before turn outcome after →
      (∀ run ∈ before.runs.rows, ∃ later ∈ after.runs.rows,
        later.id = run.id ∧ later.dedupeKey = run.dedupeKey) ∧
      ∀ run ∈ after.runs.rows, ∀ id scheduledFor, run.dedupeKey = .schedule id scheduledFor →
        (∃ old ∈ before.runs.rows, old.id = run.id ∧ old.dedupeKey = run.dedupeKey) ∨
          (∃ active, turn.entry = .tick active) ∧ Occurs before id scheduledFor run.createdAt := by
  obtain ⟨orderly, keys⟩ := history.orderly
  refine ⟨?_, ?_, ?_⟩
  · intro row member on
    obtain ⟨workflow, next⟩ := orderly.supported row member on
    exact ⟨workflow, Option.isSome_iff_exists.mp next⟩
  · intro run member other member' id scheduledFor key key'
    exact List.inj_on_of_nodup_map keys member member' (key.trans key'.symm)
  · intro turn outcome after taken
    have kept := taken.kept orderly keys
    constructor
    · intro run member
      obtain ⟨later, known, same⟩ := kept.lasting run member
      exact ⟨later, known, same.id, same.dedupeKey⟩
    · intro run member id scheduledFor key
      rcases kept.origin run member with ⟨old, known, same⟩ | queued
      · exact .inl ⟨old, known, same.id.symm, same.dedupeKey.symm⟩
      · right
        have occurs := queued id scheduledFor key
        cases entry : turn.entry with
        | call capability context arguments =>
          rw [entry] at occurs
          exact occurs.elim
        | tick active =>
          rw [entry] at occurs
          exact ⟨⟨active, rfl⟩, occurs⟩

end

def sampleSettings : SchedulerSettings where
  platform :=
    { spelling := { float := fun _ => "", container := fun _ => "" }
      zones := fun name => if name = "UTC" then some utcZone else none }
  leaseSeconds := 60
  maxWorkers := 4

def sampleOwner : ExecutionContext where
  workspaceId := none
  userId := some "u1"
  role := "owner"
  permissions := []
  channel := "web"
  surface := .personalPrivate
  conversationId := none
  metadata := []
  scopeKind := .personal
  principalId := some "user:u1"
  workspaceMode := "full"

def hourlyArguments : Arguments where
  fields :=
    [("name", .str "Notes"),
      ("spec", .obj [("steps", .arr [.obj [("id", .str "note"), ("capability_id", .str "note.write")]])]),
      ("schedule", .obj [("type", .str "interval"), ("every_seconds", .int 3600)]), ("enabled", .bool true)]
  proper := by decide

def hourlyCreation : Turn Entry Choice where
  pid := 1
  entry := .call .create sampleOwner hourlyArguments
  choices := [{}, { fresh := "w1" }, { fresh := "v1" }, { fresh := "s1" }, {}, { fresh := "e1" }, {}]

def hourlyTick : Turn Entry Choice where
  pid := 2
  entry := .tick 4
  choices := [{}, {}, {}, {}, {}, {}, { elapsed := 7200000000 }, {}, {}, {}, {}, { fresh := "r1" }, {}, {},
    { fresh := "e2" }, {}, { fresh := "e3" }, {}]

theorem hourlyCreation_runs :
    (hourlyCreation.result workflowWorld (lifecycle sampleSettings) { clock := 3600000000 }).isSome = true := by
  decide

def hourlyCreated : WorkflowState :=
  ((hourlyCreation.result workflowWorld (lifecycle sampleSettings) { clock := 3600000000 }).get
    hourlyCreation_runs).2

theorem hourlyTick_runs :
    (hourlyTick.result workflowWorld (lifecycle sampleSettings) hourlyCreated).isSome = true := by
  decide

def hourlyTicked : WorkflowState :=
  ((hourlyTick.result workflowWorld (lifecycle sampleSettings) hourlyCreated).get hourlyTick_runs).2

theorem schedules_in_order_hourly : (∃ row ∈ hourlyCreated.schedules.rows, row.enabled = true) ∧
    (hourlyTicked.runs.rows.map (·.dedupeKey)) = [.schedule "s1" 7199000000] ∧
    (∀ row ∈ hourlyCreated.schedules.rows, row.enabled = true →
      (∃ workflow, hourlyCreated.definitions.find row.workflowId = some workflow ∧ workflow.status = .enabled) ∧
        ∃ next, row.nextRunAt = some next) ∧
    ∀ run ∈ hourlyTicked.runs.rows, ∀ id scheduledFor, run.dedupeKey = .schedule id scheduledFor →
      (∃ old ∈ hourlyCreated.runs.rows, old.id = run.id ∧ old.dedupeKey = run.dedupeKey) ∨
        (∃ active, hourlyTick.entry = .tick active) ∧ Occurs hourlyCreated id scheduledFor run.createdAt := by
  have history : History sampleSettings (fun _ _ => True) hourlyCreated _ :=
    .turn (.start 3600000000) trivial (Option.some_get hourlyCreation_runs).symm
  have ordered := schedules_in_order history
  refine ⟨by decide, by decide, ordered.1, ?_⟩
  exact (ordered.2.2 hourlyTick _ hourlyTicked (Option.some_get hourlyTick_runs).symm).2

end Operly.Workflow
