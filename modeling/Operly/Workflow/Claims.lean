import Mathlib.Algebra.CharP.Defs
import Operly.Workflow.Quiet
import Operly.Workflow.Scheduler

/-! The claims of a pass: which workflows it visits, and how many runs it takes of each. -/

namespace Operly.Workflow
open Python Security Concurrent Relational Fallible

def WorkflowRun.traceable (run : WorkflowRun) : Bool := isSet run.workspaceId || isSet run.authorityUserId

namespace WorkflowState

def policyOf (state : WorkflowState) (platform : Platform) (workflow : WorkflowDefinition) :
    Except WorkflowError ConcurrencyPolicy :=
  match state.versionOf workflow.id workflow.currentVersion with
  | none => .ok defaultPolicy
  | some version => policyFromSnapshot platform.spelling (loads version.snapshotJson)

/-- The queued runs of a workflow that no scheduler holds, in the order of the queue. -/
def queuedOf (state : WorkflowState) (workflowId : String) : List WorkflowRun :=
  (state.runs.select fun row => row.workflowId = workflowId && row.status = .queued &&
    row.unleased state.clock).insertionSort fun a b => queuedBefore a b

/-- How many runs the policy of a workflow still admits, of those that the workers may take. -/
def room (state : WorkflowState) (policy : ConcurrencyPolicy) (workflowId : String) (remaining : Nat) : Nat :=
  if policy.maxConcurrentRuns = 0 then remaining
  else (policy.maxConcurrentRuns - state.active workflowId state.clock).toNat

def scanned (state : WorkflowState) (workflowId : String) (remaining : Nat) : List WorkflowRun :=
  (state.queuedOf workflowId).take (max 50 (min 512 (remaining * 16)))

def dropped (state : WorkflowState) (policy : ConcurrencyPolicy) (workflowId : String) (remaining : Nat) :
    List WorkflowRun :=
  if 0 < policy.maxConcurrentRuns ∧ policy.overflowPolicy = .drop then
    (state.scanned workflowId remaining).drop (state.room policy workflowId remaining)
  else []

def offers (state : WorkflowState) (platform : Platform) (remaining : Nat) (workflowId : String) : Nat :=
  match state.definitions.find workflowId with
  | none => 0
  | some workflow =>
      match state.policyOf platform workflow with
      | .error _ => 0
      | .ok policy => min (min remaining (state.room policy workflow.id remaining))
          (state.scanned workflow.id remaining).length

/-- Nothing raises at a workflow: its policy can be read, and what it drops can be recorded. -/
def sound (state : WorkflowState) (platform : Platform) (remaining : Nat) (workflowId : String) : Bool :=
  match state.definitions.find workflowId with
  | none => true
  | some workflow =>
      match state.policyOf platform workflow with
      | .error _ => false
      | .ok policy => (state.dropped policy workflow.id remaining).all WorkflowRun.traceable

def visits (state : WorkflowState) (platform : Platform) (limit : Nat) :
    List String → Nat → List (String × Nat)
  | [], _ => []
  | workflowId :: rest, claimed =>
      if limit ≤ claimed then []
      else (workflowId, limit - claimed) :: state.visits platform limit rest
        (claimed + state.offers platform (limit - claimed) workflowId)

/-- A workflow with a queued run that nobody holds, and a policy that leaves it a slot. -/
def free (state : WorkflowState) (platform : Platform) (workflowId : String) : Bool :=
  match state.definitions.find workflowId with
  | none => false
  | some workflow =>
      match state.policyOf platform workflow with
      | .error _ => false
      | .ok policy => (state.queuedOf workflow.id ≠ []) &&
          (policy.maxConcurrentRuns = 0 ||
            (state.active workflow.id state.clock : Int) < policy.maxConcurrentRuns)

theorem offers_pos (state : WorkflowState) (platform : Platform) {remaining : Nat} (workers : 0 < remaining)
    (workflowId : String) :
    0 < state.offers platform remaining workflowId ↔ state.free platform workflowId = true := by
  unfold offers free
  cases state.definitions.find workflowId with
  | none => simp
  | some workflow =>
    dsimp only
    cases state.policyOf platform workflow with
    | error error => simp
    | ok policy =>
      have some_scanned : 0 < (state.scanned workflow.id remaining).length ↔
          state.queuedOf workflow.id ≠ [] := by
        rw [scanned, List.length_take, ← List.length_pos_iff]
        omega
      have some_room : 0 < state.room policy workflow.id remaining ↔ policy.maxConcurrentRuns = 0 ∨
          (state.active workflow.id state.clock : Int) < policy.maxConcurrentRuns := by
        unfold room
        split
        · next unlimited => simp [unlimited, workers]
        · next limited =>
          simp only [limited, false_or]
          omega
      simp only [lt_min_iff, some_scanned, some_room, Bool.and_eq_true, Bool.or_eq_true,
        decide_eq_true_eq]
      tauto

theorem exists_offer {state : WorkflowState} {platform : Platform} {limit claimed : Nat} {ids : List String}
    {workflowId : String} (member : workflowId ∈ ids) (free : state.free platform workflowId = true)
    (workers : claimed < limit) :
    ∃ visit ∈ state.visits platform limit ids claimed, 0 < state.offers platform visit.2 visit.1 := by
  induction ids generalizing claimed with
  | nil => cases member
  | cons first rest ih =>
    have left : 0 < limit - claimed := by omega
    unfold visits
    rw [if_neg (by omega)]
    by_cases taken : 0 < state.offers platform (limit - claimed) first
    · exact ⟨_, List.mem_cons_self, taken⟩
    · have later : workflowId ∈ rest := by
        rcases List.mem_cons.mp member with rfl | tail
        · exact absurd ((state.offers_pos platform left workflowId).mpr free) taken
        · exact tail
      have still : claimed + state.offers platform (limit - claimed) first < limit := by omega
      obtain ⟨visit, among, offered⟩ := ih later still
      exact ⟨visit, List.mem_cons_of_mem _ among, offered⟩

theorem mem_visits {state : WorkflowState} {platform : Platform} {limit claimed : Nat} {ids : List String}
    {visit : String × Nat} (member : visit ∈ state.visits platform limit ids claimed) :
    visit.1 ∈ ids ∧ 0 < visit.2 := by
  induction ids generalizing claimed with
  | nil => cases member
  | cons first rest ih =>
    unfold visits at member
    split at member
    · cases member
    · rcases List.mem_cons.mp member with rfl | tail
      · exact ⟨List.mem_cons_self, by omega⟩
      · exact ⟨List.mem_cons_of_mem _ (ih tail).1, (ih tail).2⟩

end WorkflowState

/-! ### What a session has composed -/

def eventIds (changes : List Write) : List String :=
  changes.filterMap fun change => match change with
    | .newEvent row => some row.id
    | _ => none

def RunUpdates (state : WorkflowState) (changes : List Write) : Prop :=
  ∀ change ∈ changes, (∃ loaded now, change = .run loaded now ∧ (state.runs.find loaded.id).isSome = true) ∨
    ∃ row, change = .newEvent row

/-- Updates with events whose identifiers were made up meanwhile. -/
structure Composes (base before : WorkflowState) (changes : List Write) (after : WorkflowState) : Prop where
  grows : before.issued ⊆ after.issued
  shapes : RunUpdates base changes
  distinct : (eventIds changes).Nodup
  fresh : ∀ id ∈ eventIds changes, base.events.find id = none ∧ id ∉ before.issued ∧ id ∈ after.issued

section
variable {base before middle after : WorkflowState} {changes others : List Write}

theorem Composes.nil (grows : before.issued ⊆ after.issued) : Composes base before [] after :=
  ⟨grows, fun _ member => absurd member List.not_mem_nil, List.nodup_nil, by simp [eventIds]⟩

theorem Composes.run {loaded now : WorkflowRun} (grows : before.issued ⊆ after.issued)
    (present : (base.runs.find loaded.id).isSome = true) : Composes base before [.run loaded now] after := by
  refine ⟨grows, ?_, List.nodup_nil, by simp [eventIds]⟩
  intro change member
  obtain rfl := List.mem_singleton.mp member
  exact .inl ⟨loaded, now, rfl, present⟩

theorem Composes.event {row : KernelEventRecord} (grows : before.issued ⊆ after.issued)
    (absent : base.events.find row.id = none) (unused : row.id ∉ before.issued) (issued : row.id ∈ after.issued) :
    Composes base before [.newEvent row] after := by
  refine ⟨grows, ?_, List.nodup_singleton _, ?_⟩
  · intro change member
    obtain rfl := List.mem_singleton.mp member
    exact .inr ⟨row, rfl⟩
  · intro id member
    obtain rfl : id = row.id := by simpa [eventIds] using member
    exact ⟨absent, unused, issued⟩

theorem Composes.append (first : Composes base before changes middle)
    (second : Composes base middle others after) : Composes base before (changes ++ others) after := by
  have joined : eventIds (changes ++ others) = eventIds changes ++ eventIds others := List.filterMap_append
  refine ⟨List.Subset.trans first.grows second.grows, ?_, ?_, ?_⟩
  · exact List.forall_mem_append.mpr ⟨first.shapes, second.shapes⟩
  · rw [joined, List.nodup_append]
    refine ⟨first.distinct, second.distinct, ?_⟩
    rintro id early _ late rfl
    exact (second.fresh id late).2.1 (first.fresh id early).2.2
  · rw [joined]
    intro id member
    rcases List.mem_append.mp member with early | late
    · obtain ⟨absent, unused, issued⟩ := first.fresh id early
      exact ⟨absent, unused, second.grows issued⟩
    · obtain ⟨absent, unused, issued⟩ := second.fresh id late
      exact ⟨absent, fun known => unused (first.grows known), issued⟩

theorem writeAll_composed {state : WorkflowState} (shapes : RunUpdates state changes)
    (distinct : (eventIds changes).Nodup) (fresh : ∀ id ∈ eventIds changes, state.events.find id = none) :
    ∃ after, state.writeAll changes = some after := by
  induction changes generalizing state with
  | nil => exact ⟨state, rfl⟩
  | cons change rest ih =>
    obtain ⟨first, later⟩ := List.forall_mem_cons.mp shapes
    rcases first with ⟨loaded, now, rfl, present⟩ | ⟨row, rfl⟩
    · obtain ⟨current, found⟩ := Option.isSome_iff_exists.mp present
      let middle : WorkflowState :=
        { state with runs := state.runs.replace (WorkflowRun.patch state.clock loaded now current) }
      have written : state.write (.run loaded now) = some middle := by
        simp only [WorkflowState.write, found, Option.map_some, middle]
      have still : RunUpdates middle rest := by
        intro change member
        rcases later change member with ⟨loaded', now', same, present'⟩ | event
        · refine .inl ⟨loaded', now', same, ?_⟩
          rw [Table.find_replace]
          split
          · simpa using present'
          · exact present'
        · exact .inr event
      obtain ⟨after, rest⟩ := ih still distinct fresh
      refine ⟨after, ?_⟩
      rw [WorkflowState.writeAll, List.foldlM_cons, written]
      exact rest
    · obtain ⟨unseen, distinct⟩ := List.nodup_cons.mp distinct
      let middle : WorkflowState := { state with events := state.events.insert row }
      have absent := fresh row.id List.mem_cons_self
      have written : state.write (.newEvent row) = some middle := by
        simp [WorkflowState.write, absent, middle]
      have still : ∀ id ∈ eventIds rest, middle.events.find id = none := by
        intro id member
        have apart : id ≠ row.id := fun same => unseen (same ▸ member)
        rw [Table.find_insert, if_neg apart, fresh id (List.mem_cons_of_mem _ member)]
        rfl
      have known : RunUpdates middle rest := later
      obtain ⟨after, rest⟩ := ih known distinct still
      refine ⟨after, ?_⟩
      rw [WorkflowState.writeAll, List.foldlM_cons, written]
      exact rest

theorem Composes.writes (composes : Composes base before changes after) (reads : Reads base middle) :
    ∃ last, middle.writeAll changes = some last := by
  apply writeAll_composed
  · unfold RunUpdates
    rw [reads.runs]
    exact composes.shapes
  · exact composes.distinct
  · rw [reads.events]
    exact fun id member => (composes.fresh id member).1

end

/-! ### The transaction of a pass -/

namespace Answered
variable {pid : Nat} {base : WorkflowState}

theorem definitionForUpdate {id : String} {answer : Option WorkflowDefinition}
    (answered : Answered pid base (Op.definitionForUpdate id) answer) : answer = base.definitions.find id := by
  obtain ⟨choice, before, after, calm, alone, served⟩ := answered
  simp only [WorkflowState.serve, alone.unlocked _, calm] at served
  split at served
  · next absent =>
    cases served
    rw [← alone.reads.definitions, absent]
  · next row found =>
    cases served
    rw [← alone.reads.definitions, found]

theorem active {workflowId : String} {now : Int} {answer : Nat}
    (answered : Answered pid base (Op.active workflowId now) answer) : answer = base.active workflowId now := by
  obtain ⟨choice, before, after, -, alone, served⟩ := answered
  cases served
  rw [WorkflowState.active, alone.reads.runs, WorkflowState.active]

theorem candidates {now : Int} {limit : Nat} {answer : List String}
    (answered : Answered pid base (Op.candidates now limit) answer) : answer = base.candidates now limit := by
  obtain ⟨choice, before, after, -, alone, served⟩ := answered
  cases served
  rw [WorkflowState.candidates, alone.reads.runs, WorkflowState.candidates]

theorem queuedForUpdate {workflowId : String} {limit : Nat} {answer : List WorkflowRun}
    (answered : Answered pid base (Op.queuedForUpdate workflowId base.clock limit) answer) :
    answer = (base.queuedOf workflowId).take limit := by
  obtain ⟨choice, before, after, calm, alone, served⟩ := answered
  have same : (before.runs.select fun row => row.workflowId = workflowId && row.status = .queued &&
      row.unleased base.clock).insertionSort (fun a b => WorkflowState.queuedBefore a b) = base.queuedOf workflowId := by
    rw [WorkflowState.queuedOf, alone.reads.runs]
  cases served
  rw [← same, calm]
  exact congrArg (List.take limit) (Answered.free alone.unlocked)

end Answered

section Pass
variable {pid : Nat} {base state : WorkflowState} {settings : SchedulerSettings} {now : Int}

theorem recordEvent_ensures (event : TraceEvent) (alone : Alone pid base state) :
    (recordWorkflowEvent event).Ensures workflowWorld pid quiet (fun _ => True)
      (fun change after => Alone pid base after ∧ event.recordable = true ∧
        Composes base state [change] after)
      (fun _ _ => event.recordable = false) state := by
  unfold recordWorkflowEvent
  apply Ensures.ite
  · intro recordable
    apply bind_query rfl alone trivial
    intro createdAt middle _ alone grows
    apply bind_uuid alone trivial
    intro id after absent unused issued grown alone
    refine Ensures.pure ⟨alone, recordable, ?_⟩
    exact .event (List.Subset.trans grows grown) absent (fun known => unused (grows known)) issued
  · intro unrecordable
    exact Ensures.raise (by simpa using unrecordable)

theorem systemEvent_recordable (run : WorkflowRun) (eventType actorId : String) (payload : Fields) :
    (systemEvent run eventType actorId payload).recordable = run.traceable := by
  unfold TraceEvent.recordable TraceEvent.scopeKind systemEvent WorkflowRun.traceable
  dsimp only
  by_cases workspace : isSet run.workspaceId = true <;> simp [workspace]

theorem suppressRun_ensures (policy : ConcurrencyPolicy) {run : WorkflowRun} (alone : Alone pid base state)
    (present : (base.runs.find run.id).isSome = true) :
    (suppressRun policy now run).Ensures workflowWorld pid quiet (fun _ => True)
      (fun changes after => Alone pid base after ∧ run.traceable = true ∧ Composes base state changes after)
      (fun _ _ => run.traceable = false) state := by
  unfold suppressRun
  have recorded := recordEvent_ensures (systemEvent run "workflow.run.suppressed" "operly:scheduler"
    [("reason", .str "concurrency_limit"), ("max_concurrent_runs", .int policy.maxConcurrentRuns),
      ("overflow_policy", .str policy.overflowPolicy.value), ("trigger_type", .str run.triggerType)]) alone
  rw [systemEvent_recordable] at recorded
  apply Ensures.bind recorded
  rintro event after ⟨alone, traceable, composes⟩
  refine Ensures.pure ⟨alone, traceable, ?_⟩
  exact .append (.run (List.Subset.refl _) present) composes

def overflowing (slots : Slots) (index : Nat) (queued : List WorkflowRun) : List WorkflowRun :=
  if 0 < slots.policy.maxConcurrentRuns ∧ slots.policy.overflowPolicy = .drop then
    queued.drop (slots.available - index)
  else []

theorem overflowing_cons {slots : Slots} {index : Nat} {run : WorkflowRun} {rest : List WorkflowRun} :
    overflowing slots index (run :: rest) =
      if 0 < slots.policy.maxConcurrentRuns ∧ slots.available ≤ index ∧ slots.policy.overflowPolicy = .drop
      then run :: overflowing slots (index + 1) rest else overflowing slots (index + 1) rest := by
  unfold overflowing
  by_cases drops : 0 < slots.policy.maxConcurrentRuns ∧ slots.policy.overflowPolicy = .drop
  · by_cases beyond : slots.available ≤ index
    · have none_left : slots.available - index = 0 := by omega
      have none_later : slots.available - (index + 1) = 0 := by omega
      rw [if_pos drops, if_pos ⟨drops.1, beyond, drops.2⟩, if_pos drops, none_left, none_later]
      rfl
    · have more : slots.available - index = (slots.available - (index + 1)) + 1 := by omega
      rw [if_pos drops, if_neg (fun holds => beyond holds.2.1), if_pos drops, more, List.drop_succ_cons]
  · rw [if_neg drops, if_neg (fun holds => drops ⟨holds.1, holds.2.2⟩), if_neg drops]

theorem dropOverflow_ensures (slots : Slots) (index : Nat) {run : WorkflowRun} (rest : List WorkflowRun)
    (alone : Alone pid base state) (present : (base.runs.find run.id).isSome = true) :
    (dropOverflow slots now index run).Ensures workflowWorld pid quiet (fun _ => True)
      (fun changes after => Alone pid base after ∧ Composes base state changes after ∧
        ((overflowing slots (index + 1) rest).all WorkflowRun.traceable =
          (overflowing slots index (run :: rest)).all WorkflowRun.traceable))
      (fun _ _ => (overflowing slots index (run :: rest)).all WorkflowRun.traceable = false) state := by
  unfold dropOverflow
  rw [overflowing_cons]
  apply Ensures.ite
  · intro drops
    rw [if_pos drops, List.all_cons]
    apply Ensures.weaken (suppressRun_ensures slots.policy alone present) (fun _ => id)
    · rintro changes after ⟨alone, traceable, composes⟩
      exact ⟨alone, composes, by rw [traceable, Bool.true_and]⟩
    · intro error after untraceable
      rw [untraceable, Bool.false_and]
  · intro keeps
    rw [if_neg keeps]
    exact Ensures.pure ⟨alone, .nil (List.Subset.refl _), rfl⟩

theorem claimQueued_ensures {slots : Slots} (affordable : slots.budget ≤ slots.available) {index : Nat}
    {queued : List WorkflowRun} (alone : Alone pid base state)
    (present : ∀ run ∈ queued, (base.runs.find run.id).isSome = true) :
    (claimQueued settings now slots index queued).Ensures workflowWorld pid quiet (fun _ => True)
      (fun result after => Alone pid base after ∧ Composes base state result.2 after ∧
        result.1.length = min (slots.budget - index) queued.length ∧
        (overflowing slots index queued).all WorkflowRun.traceable = true)
      (fun _ _ => (overflowing slots index queued).all WorkflowRun.traceable = false) state := by
  induction queued generalizing index state with
  | nil =>
    refine Ensures.pure ⟨alone, .nil (List.Subset.refl _), by simp, ?_⟩
    unfold overflowing
    split <;> simp
  | cons run rest ih =>
    obtain ⟨first, later⟩ := List.forall_mem_cons.mp present
    unfold claimQueued
    apply Ensures.ite
    · intro claimed
      have within : ¬ slots.available ≤ index := by omega
      have same : overflowing slots index (run :: rest) = overflowing slots (index + 1) rest := by
        rw [overflowing_cons, if_neg (fun holds => within holds.2.1)]
      rw [same]
      apply bind_uuid alone trivial
      intro token middle _ _ _ grows alone
      apply Ensures.bind (ih alone later)
      rintro ⟨claims, changes⟩ after ⟨alone, composes, counted, traceable⟩
      refine Ensures.pure ⟨alone, .append (.run grows first) composes, ?_, traceable⟩
      simp only [List.length_cons] at counted ⊢
      omega
    · intro waits
      apply Ensures.bind (dropOverflow_ensures slots index rest alone first)
      rintro dropped middle ⟨alone, early, same⟩
      rw [← same]
      apply Ensures.bind (ih alone later)
      rintro ⟨claims, changes⟩ after ⟨alone, composes, counted, traceable⟩
      refine Ensures.pure ⟨alone, early.append composes, ?_, traceable⟩
      simp only [List.length_cons] at counted ⊢
      omega

theorem workflowPolicy_ensures (platform : Platform) (workflow : WorkflowDefinition) (alone : Alone pid base state) :
    (workflowPolicy platform workflow).Ensures workflowWorld pid quiet (fun _ => True)
      (fun policy after => Alone pid base after ∧ state.issued ⊆ after.issued ∧
        base.policyOf platform workflow = .ok policy)
      (fun error _ => base.policyOf platform workflow = .error error) state := by
  unfold workflowPolicy WorkflowState.policyOf
  apply bind_query rfl alone trivial
  intro answer after answered alone grows
  have found : answer = base.versionOf workflow.id workflow.currentVersion := answered.told.currentVersion
  rw [← found]
  cases (answer : Option WorkflowVersion) with
  | none => exact Ensures.pure ⟨alone, grows, rfl⟩
  | some version =>
    dsimp only
    cases policyFromSnapshot platform.spelling (loads version.snapshotJson) with
    | error error => exact Ensures.raise rfl
    | ok policy => exact Ensures.pure ⟨alone, grows, rfl⟩

theorem scanned_present {workflowId : String} {remaining : Nat} :
    ∀ run ∈ base.scanned workflowId remaining, (base.runs.find run.id).isSome = true := by
  intro run member
  have listed := List.mem_of_mem_take member
  rw [WorkflowState.queuedOf, List.mem_insertionSort, Table.mem_select] at listed
  rw [listed.1]
  rfl

theorem claimWorkflow_ensures (remaining : Nat) (workflowId : String) (alone : Alone pid base state) :
    (claimWorkflow settings base.clock remaining workflowId).Ensures workflowWorld pid quiet (fun _ => True)
      (fun result after => Alone pid base after ∧ Composes base state result.2 after ∧
        result.1.length = base.offers settings.platform remaining workflowId ∧
        base.sound settings.platform remaining workflowId = true)
      (fun _ _ => base.sound settings.platform remaining workflowId = false) state := by
  unfold claimWorkflow WorkflowState.offers WorkflowState.sound
  apply bind_query rfl alone trivial
  intro answer opened answered alone grown
  have found : answer = base.definitions.find workflowId := answered.definitionForUpdate
  rw [← found]
  cases (answer : Option WorkflowDefinition) with
  | none => exact Ensures.pure ⟨alone, .nil grown, rfl, rfl⟩
  | some workflow =>
    dsimp only
    apply Ensures.bind (Ensures.weaken
      (workflowPolicy_ensures settings.platform workflow alone) (fun _ => id) (fun _ _ => id) ?_)
    · rintro policy read ⟨alone, grows, same⟩
      have grown := List.Subset.trans grown grows
      rw [same]
      dsimp only
      apply bind_query rfl alone trivial
      intro active counted answered alone grows
      have grown := List.Subset.trans grown grows
      obtain rfl : active = base.active workflow.id base.clock := answered.active
      apply bind_query rfl alone trivial
      intro queued fetched answered alone grows
      have grown := List.Subset.trans grown grows
      obtain rfl : queued = base.scanned workflow.id remaining := answered.queuedForUpdate
      let available := base.room policy workflow.id remaining
      let slots : Slots := ⟨policy, available, min remaining available⟩
      have affordable : slots.budget ≤ slots.available := Nat.min_le_right remaining available
      apply Ensures.weaken (claimQueued_ensures affordable alone scanned_present) (fun _ => id)
      · rintro result after ⟨alone, composes, counted, traceable⟩
        exact ⟨alone, (Composes.nil grown).append composes, counted, traceable⟩
      · exact fun _ _ untraceable => untraceable
    · intro error after same
      rw [same]

theorem claimWorkflows_ensures (limit : Nat) (ids : List String) (claims : List Claim)
    (alone : Alone pid base state) :
    (claimWorkflows settings base.clock limit ids claims).Ensures workflowWorld pid quiet (fun _ => True)
      (fun result after => Alone pid base after ∧ Composes base state result.2 after ∧
        (∀ visit ∈ base.visits settings.platform limit ids claims.length,
          base.sound settings.platform visit.2 visit.1 = true) ∧
        result.1.length = claims.length + ((base.visits settings.platform limit ids claims.length).map
          fun visit => base.offers settings.platform visit.2 visit.1).sum)
      (fun _ _ => ∃ visit ∈ base.visits settings.platform limit ids claims.length,
        base.sound settings.platform visit.2 visit.1 = false) state := by
  induction ids generalizing claims state with
  | nil =>
    refine Ensures.pure ⟨alone, .nil (List.Subset.refl _), ?_, by simp [WorkflowState.visits]⟩
    simp [WorkflowState.visits]
  | cons workflowId rest ih =>
    unfold claimWorkflows WorkflowState.visits
    apply Ensures.ite
    · intro full
      rw [if_pos full]
      exact Ensures.pure ⟨alone, .nil (List.Subset.refl _), by simp, by simp⟩
    · intro more
      rw [if_neg more]
      apply Ensures.bind (Ensures.weaken
        (claimWorkflow_ensures (limit - claims.length) workflowId alone) (fun _ => id) (fun _ _ => id) ?_)
      · rintro ⟨taken, changes⟩ middle ⟨alone, early, counted, sound⟩
        have later := ih (claims ++ taken) alone
        rw [List.length_append, counted] at later
        apply Ensures.bind (Ensures.weaken later (fun _ => id) (fun _ _ => id) ?_)
        · rintro ⟨all, others⟩ after ⟨alone, composes, sounds, total⟩
          refine Ensures.pure ⟨alone, early.append composes, ?_, ?_⟩
          · exact List.forall_mem_cons.mpr ⟨sound, sounds⟩
          · simp only [List.map_cons, List.sum_cons] at total ⊢
            omega
        · rintro error after ⟨visit, member, unsound⟩
          exact ⟨visit, List.mem_cons_of_mem _ member, unsound⟩
      · intro error after unsound
        exact ⟨_, List.mem_cons_self, unsound⟩

def claimScope (settings : SchedulerSettings) (limit : Nat) (now : Int) : Session (List Claim) := sessionScope do
  let candidates ← query (.candidates now (candidateLimit limit))
  claimWorkflows settings now limit candidates []

def WorkflowState.considered (state : WorkflowState) (limit : Nat) : List String :=
  state.candidates state.clock (candidateLimit limit)

def WorkflowState.passVisits (state : WorkflowState) (platform : Platform) (limit : Nat) :
    List (String × Nat) := state.visits platform limit (state.considered limit) 0

theorem claimScope_ensures (limit : Nat) (unlocked : base.Unlocked pid) :
    (claimScope settings limit base.clock).Ensures workflowWorld pid quiet (fun _ => True)
      (fun claims _ => (∀ visit ∈ base.passVisits settings.platform limit,
          base.sound settings.platform visit.2 visit.1 = true) ∧
        claims.length = ((base.passVisits settings.platform limit).map
          fun visit => base.offers settings.platform visit.2 visit.1).sum)
      (fun _ _ => ∃ visit ∈ base.passVisits settings.platform limit,
        base.sound settings.platform visit.2 visit.1 = false) base := by
  have body : (do
      let candidates ← query (.candidates base.clock (candidateLimit limit))
      claimWorkflows settings base.clock limit candidates [] : Session (List Claim × List Write)).Ensures
      workflowWorld pid quiet (fun _ => True)
      (fun result after => Alone pid base after ∧ (∃ start, Composes base start result.2 after) ∧
        (∀ visit ∈ base.passVisits settings.platform limit,
          base.sound settings.platform visit.2 visit.1 = true) ∧
        result.1.length = ((base.passVisits settings.platform limit).map
          fun visit => base.offers settings.platform visit.2 visit.1).sum)
      (fun _ _ => ∃ visit ∈ base.passVisits settings.platform limit,
        base.sound settings.platform visit.2 visit.1 = false) base := by
    apply bind_query rfl (.start unlocked) trivial
    intro candidates middle answered alone _
    obtain rfl : candidates = base.considered limit := answered.candidates
    apply Ensures.weaken (claimWorkflows_ensures limit _ [] alone) (fun _ => id)
    · rintro result after ⟨alone, composes, sounds, total⟩
      exact ⟨alone, ⟨_, composes⟩, sounds, total.trans (Nat.zero_add _)⟩
    · exact fun _ _ unsound => unsound
  apply sessionScope_quiet body
  · exact fun value current holds => holds.1.unlocked
  · rintro value current elapsed ⟨alone, ⟨start, composes⟩, sounds, total⟩
    obtain ⟨after, written⟩ := composes.writes (alone.elapse elapsed).reads
    exact ⟨after, written, sounds, total⟩
  · exact fun _ _ _ unsound => unsound

theorem claimRuns_eq {limit : Nat} (positive : 1 ≤ limit) :
    claimRuns settings limit = query .now >>= claimScope settings limit := by
  unfold claimRuns
  rw [if_neg (by omega)]
  rfl

theorem claimRuns_comes_to {limit : Nat} (positive : 1 ≤ limit) (idle : base.Idle)
    {result : Except WorkflowError (List Claim)} {after : WorkflowState}
    (run : Evaluates workflowWorld pid prompt (claimRuns settings limit).run base result after) : match result with
    | .ok claims => (∀ visit ∈ base.passVisits settings.platform limit,
          base.sound settings.platform visit.2 visit.1 = true) ∧
        claims.length = ((base.passVisits settings.platform limit).map
          fun visit => base.offers settings.platform visit.2 visit.1).sum
    | .error _ => ∃ visit ∈ base.passVisits settings.platform limit,
        base.sound settings.platform visit.2 visit.1 = false := by
  rw [claimRuns_eq positive] at run
  obtain ⟨choice, now, middle, ⟨calm, still⟩, performed, rest⟩ := Evaluates.bind_ask_run.mp run
  cases performed
  have same : base.elapse choice.elapsed = base := by
    rw [still rfl]
    simp [WorkflowState.elapse]
  rw [same] at rest
  have outcome := Program.Ensures.evaluates
    (Ensures.run_iff.mp (claimScope_ensures limit (idle.unlocked pid))) (quiet_of_prompt rest)
  cases result with
  | ok claims => exact outcome
  | error error => exact outcome

def ClaimsSome (settings : SchedulerSettings) (pid limit : Nat) (state : WorkflowState) : Prop :=
  ∀ result after, Evaluates workflowWorld pid prompt (claimRuns settings limit).run state result after →
    ∃ claims, result = .ok claims ∧ claims ≠ []

theorem free_of_claimsSome {limit : Nat} (positive : 1 ≤ limit) (idle : base.Idle)
    (claims : ClaimsSome settings pid limit base) :
    (∃ workflowId ∈ base.considered limit, base.free settings.platform workflowId = true) ∧
      ∀ visit ∈ base.passVisits settings.platform limit,
        base.sound settings.platform visit.2 visit.1 = true := by
  obtain ⟨result, after, run⟩ := evaluates_total (claimRuns settings limit).run (idle.unlocked pid)
  have outcome := claimRuns_comes_to positive idle run
  obtain ⟨claimed, rfl, some_claimed⟩ := claims result after run
  obtain ⟨sounds, total⟩ := outcome
  refine ⟨?_, sounds⟩
  by_contra none
  push Not at none
  have nothing : ((base.passVisits settings.platform limit).map
      fun visit => base.offers settings.platform visit.2 visit.1).sum = 0 := by
    rw [List.sum_eq_zero_iff_forall_eq_nat]
    intro offered member
    obtain ⟨visit, among, rfl⟩ := List.mem_map.mp member
    obtain ⟨listed, workers⟩ := WorkflowState.mem_visits among
    have busy := none visit.1 listed
    rw [ne_eq, ← base.offers_pos settings.platform workers] at busy
    omega
  rw [nothing, List.length_eq_zero_iff] at total
  exact some_claimed total

/-- A pass returns a claim exactly when one of the workflows that it considers has a slot left for a
queued run, and nothing raises at those that it visits. -/
theorem claims_some_iff (settings : SchedulerSettings) (pid : Nat) {limit : Nat} (positive : 1 ≤ limit)
    (idle : base.Idle) :
    ClaimsSome settings pid limit base ↔
      (∃ workflowId ∈ base.considered limit, base.free settings.platform workflowId = true) ∧
        ∀ visit ∈ base.passVisits settings.platform limit,
          base.sound settings.platform visit.2 visit.1 = true := by
  constructor
  · exact free_of_claimsSome positive idle
  · rintro ⟨⟨workflowId, listed, free⟩, sounds⟩ result after run
    have outcome := claimRuns_comes_to positive idle run
    cases result with
    | error error =>
      obtain ⟨visit, member, unsound⟩ := outcome
      rw [sounds visit member] at unsound
      cases unsound
    | ok claims =>
      obtain ⟨visit, member, offered⟩ := WorkflowState.exists_offer listed free positive
      refine ⟨claims, rfl, ?_⟩
      rintro rfl
      have total : ((base.passVisits settings.platform limit).map
        fun visit => base.offers settings.platform visit.2 visit.1).sum = 0 := outcome.2.symm
      rw [List.sum_eq_zero_iff_forall_eq_nat] at total
      have nothing := total _ (List.mem_map_of_mem member)
      omega

end Pass

/-! Saturated workflows with old queued runs, and one that is free. -/

def workerSettings : SchedulerSettings where
  platform := { spelling := { float := fun _ => "", container := fun _ => "" }, zones := fun _ => none }
  leaseSeconds := 60
  maxWorkers := 4

def definitionRow (id : String) : WorkflowDefinition where
  id := id
  scopeKind := .personal
  workspaceId := none
  ownerUserId := some "u1"
  name := id
  status := .enabled
  currentVersion := 1

def serialVersion (workflowId : String) : WorkflowVersion where
  id := workflowId
  workflowId := workflowId
  version := 1
  specJson := none
  snapshotJson := some (.obj [("concurrency", (ConcurrencyPolicy.mk 1 .queue).json)])

def runRow (id workflowId : String) (status : RunStatus) (createdAt : Int) : WorkflowRun where
  id := id
  workflowId := workflowId
  workflowVersionId := workflowId
  scopeKind := .personal
  workspaceId := none
  authorityUserId := some "u1"
  initiatedByUserId := none
  triggerType := "manual"
  triggerPayload := .obj []
  dedupeKey := .manual workflowId id
  status := status
  createdAt := createdAt
  updatedAt := createdAt

def behindSaturated (count : Nat) : WorkflowState :=
  let ids := (List.range count).map fun n => s!"{n}"
  { clock := 2000
    definitions := (ids.map definitionRow).foldl .insert (Table.empty.insert (definitionRow "free"))
    versions := (ids.map serialVersion).foldl .insert .empty
    runs := (ids.flatMap fun id => [runRow (id ++ "r") id .running 0, runRow (id ++ "q") id .queued 10]).foldl
      .insert (Table.empty.insert (runRow "f" "free" .queued 1000)) }

theorem behindSaturated_idle (count : Nat) : (behindSaturated count).Idle := fun _ => rfl

theorem behindSaturated_hides : (behindSaturated 25).free workerSettings.platform "free" = true ∧
    ∀ id ∈ (behindSaturated 25).considered 1, (behindSaturated 25).free workerSettings.platform id = false := by
  decide +kernel

/-- Saturated workflows with older queued runs hide one that is free. -/
theorem free_workflow_hidden : ¬ ∀ (settings : SchedulerSettings) (pid limit : Nat) (state : WorkflowState),
    1 ≤ limit → state.Idle → (∃ workflowId, state.free settings.platform workflowId = true) →
    ClaimsSome settings pid limit state := by
  intro always
  have claims := always workerSettings 0 1 (behindSaturated 25) (le_refl 1) (behindSaturated_idle 25)
    ⟨"free", behindSaturated_hides.1⟩
  obtain ⟨⟨id, listed, free⟩, -⟩ := free_of_claimsSome (le_refl 1) (behindSaturated_idle 25) claims
  rw [behindSaturated_hides.2 id listed] at free
  cases free

theorem claims_some_two : ClaimsSome workerSettings 0 1 (behindSaturated 2) ↔
    (∃ workflowId ∈ (behindSaturated 2).considered 1,
      (behindSaturated 2).free workerSettings.platform workflowId = true) ∧
    ∀ visit ∈ (behindSaturated 2).passVisits workerSettings.platform 1,
      (behindSaturated 2).sound workerSettings.platform visit.2 visit.1 = true :=
  claims_some_iff workerSettings 0 (by decide) (behindSaturated_idle 2)

end Operly.Workflow
