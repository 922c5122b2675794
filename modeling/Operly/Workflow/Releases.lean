import Operly.Scheduling.BoundedScan
import Operly.Workflow.Quiet
import Operly.Workflow.Scheduler

/-! The release of waiting runs, pass after pass: which runs are hidden behind others. -/

namespace Operly.Workflow
open Python Security Concurrent Relational Scheduling Fallible

def WorkflowRun.parked (row : WorkflowRun) : Bool := row.status = .waiting || row.status = .waitingApproval

def WorkflowRun.updatedBefore (a b : WorkflowRun) : Bool := a.updatedAt ≤ b.updatedAt

instance : IsTrans WorkflowRun fun a b => a.updatedBefore b := by
  constructor
  intro a b c first second
  simp only [WorkflowRun.updatedBefore, decide_eq_true_eq] at *
  exact first.trans second

instance : Std.Total fun a b : WorkflowRun => a.updatedBefore b := by
  constructor
  intro a b
  simp only [WorkflowRun.updatedBefore, decide_eq_true_eq]
  exact le_total a.updatedAt b.updatedAt

def WorkflowRun.released (row : WorkflowRun) : WorkflowRun := { row with status := .queued }

namespace WorkflowState

def waitingOrder (state : WorkflowState) : List WorkflowRun :=
  (state.runs.select WorkflowRun.parked).insertionSort fun a b => a.updatedBefore b

def standing (state : WorkflowState) (row : WorkflowRun) : Option WorkflowStepRun :=
  row.currentStepKey.bind fun key =>
    state.steps.rows.find? fun step => step.workflowRunId = row.id && step.stepKey = key

def decided (state : WorkflowState) (step : WorkflowStepRun) : Bool :=
  isSet step.approvalId &&
    (state.approvals.find (step.approvalId.getD "")).any fun approval => approval.status ≠ .pending

def ready (state : WorkflowState) (now : Int) (row : WorkflowRun) : Bool :=
  match state.standing row with
  | none => true
  | some step =>
      (row.status = .waiting && step.waitUntil.any (· ≤ now)) ||
        (row.status = .waitingApproval && state.decided step)

def stuck (state : WorkflowState) (row : WorkflowRun) : Bool :=
  match state.standing row with
  | none => false
  | some step =>
      !(row.status = .waiting && step.waitUntil.isSome) &&
        !(row.status = .waitingApproval && state.decided step)

theorem ready_lasting (state : WorkflowState) : Lasting state.ready state.stuck where
  lasts early late row before := by
    unfold ready
    cases state.standing row with
    | none => exact id
    | some step =>
      simp only [Bool.or_eq_true, Bool.and_eq_true, Option.any_eq_true, decide_eq_true_eq]
      rintro (⟨waits, limit, wait, elapsed⟩ | approved)
      · exact .inl ⟨waits, limit, wait, elapsed.trans before⟩
      · exact .inr approved
  stuck_iff row := by
    unfold ready stuck
    cases state.standing row with
    | none => simp
    | some step =>
      obtain wait | ⟨limit, wait⟩ := Option.eq_none_or_eq_some step.waitUntil
      · simp [wait, imp_iff_not_or]
      · simp only [wait, Option.isSome_some, Option.any_some]
        by_cases waits : row.status = .waiting
        · have past : ∃ now : Int, limit ≤ now := ⟨limit, le_refl limit⟩
          simpa [waits] using past
        · simp [waits, imp_iff_not_or]

end WorkflowState

/-! ### One pass -/

section Pass
variable {pid : Nat} {base state : WorkflowState}

theorem releasable_ensures {now : Int} {run : WorkflowRun} {step : WorkflowStepRun}
    (alone : Alone pid base state) (found : base.standing run = some step) :
    (releasable now run step).Ensures workflowWorld pid quiet (fun _ => True)
      (fun answer after => Alone pid base after ∧ answer = base.ready now run) (fun _ _ => False) state := by
  unfold releasable WorkflowState.ready WorkflowState.decided
  rw [found]
  apply Ensures.ite
  · intro elapsed
    exact Ensures.pure ⟨alone, by simp [elapsed.1, elapsed.2]⟩
  · intro waits
    have first : (decide (run.status = .waiting) && step.waitUntil.any (· ≤ now)) = false := by
      simpa using waits
    apply Ensures.ite
    · intro approval
      apply bind_query rfl alone trivial
      intro answer after answered alone _
      have row := answered.approval
      subst row
      simp only [approval.1, approval.2]
      cases base.approvals.find (step.approvalId.getD "") with
      | none => exact Ensures.pure ⟨alone, rfl⟩
      | some approval => exact Ensures.pure ⟨alone, by simp⟩
    · intro unapproved
      refine Ensures.pure ⟨alone, ?_⟩
      simp only [first, Bool.false_or]
      by_cases status : run.status = .waitingApproval
      · have unset : isSet step.approvalId = false := by simpa [status] using unapproved
        simp [unset]
      · simp [status]

theorem releaseRun_ensures (now : Int) (run : WorkflowRun) (alone : Alone pid base state) :
    (releaseRun now run).Ensures workflowWorld pid quiet (fun _ => True)
      (fun changes after => Alone pid base after ∧
        changes = if base.ready now run then [.run run run.released] else [])
      (fun _ _ => False) state := by
  unfold releaseRun
  cases key : run.currentStepKey with
  | none =>
    have standing : base.standing run = none := by simp [WorkflowState.standing, key]
    exact Ensures.pure ⟨alone, by simp [WorkflowState.ready, standing, WorkflowRun.released, key]⟩
  | some key' =>
    apply bind_query rfl alone trivial
    intro answer after answered alone _
    have found : base.standing run = answer := by
      rw [answered.stepRun, WorkflowState.standing, key, Option.bind_some]
    cases same : (answer : Option WorkflowStepRun) with
    | none =>
      rw [same] at found
      exact Ensures.pure ⟨alone, by simp [WorkflowState.ready, found, WorkflowRun.released, key]⟩
    | some step =>
      rw [same] at found
      apply Ensures.bind (releasable_ensures alone found)
      rintro released middle ⟨alone, rfl⟩
      refine Ensures.pure ⟨alone, ?_⟩
      rw [WorkflowRun.released, key]

theorem flatMap_ite {α β : Type} (rows : List α) (condition : α → Bool) (change : α → β) :
    (rows.flatMap fun row => if condition row then [change row] else []) =
      (rows.filter condition).map change := by
  induction rows with
  | nil => rfl
  | cons row rest ih =>
    rw [List.flatMap_cons, ih]
    cases holds : condition row <;> simp [holds]

theorem forEach_ensures {α : Type} {body : α → Session (List Write)} {changes : α → List Write}
    (each : ∀ row state, Alone pid base state → (body row).Ensures workflowWorld pid quiet (fun _ => True)
      (fun written after => Alone pid base after ∧ written = changes row) (fun _ _ => False) state)
    (rows : List α) (alone : Alone pid base state) :
    (forEach body rows).Ensures workflowWorld pid quiet (fun _ => True)
      (fun written after => Alone pid base after ∧ written = rows.flatMap changes) (fun _ _ => False)
      state := by
  induction rows generalizing state with
  | nil => exact Ensures.pure ⟨alone, rfl⟩
  | cons row rest ih =>
    apply Ensures.bind (each row state alone)
    rintro first middle ⟨alone, rfl⟩
    apply Ensures.bind (ih alone)
    rintro others last ⟨alone, rfl⟩
    exact Ensures.pure ⟨alone, rfl⟩

structure Requeues (before : WorkflowState) (rows : List WorkflowRun) (after : WorkflowState) : Prop where
  parked : after.runs.select WorkflowRun.parked =
    (before.runs.select WorkflowRun.parked).filter fun row => row.id ∉ rows.map (·.id)
  queued : ∀ row ∈ rows, ∃ now, after.runs.find row.id = some now ∧ now.status = .queued
  others : ∀ id ∉ rows.map (·.id), after.runs.find id = before.runs.find id
  steps : after.steps = before.steps
  approvals : after.approvals = before.approvals
  clock : after.clock = before.clock

def WorkflowRun.requeuedAt (row : WorkflowRun) (clock : Int) : WorkflowRun :=
  WorkflowRun.patch clock row row.released row

theorem requeuedAt_id (row : WorkflowRun) (clock : Int) : (row.requeuedAt clock).id = row.id := rfl

theorem requeuedAt_status (row : WorkflowRun) (clock : Int) : (row.requeuedAt clock).status = .queued := by
  simp [WorkflowRun.requeuedAt, WorkflowRun.patch, WorkflowRun.released]

theorem requeuedAt_parked (row : WorkflowRun) (clock : Int) : (row.requeuedAt clock).parked = false := by
  simp [WorkflowRun.parked, requeuedAt_status]

theorem writeAll_requeues {rows : List WorkflowRun} (distinct : (rows.map (·.id)).Nodup)
    (present : ∀ row ∈ rows, state.runs.find row.id = some row) :
    ∃ after, state.writeAll (rows.map fun row => .run row row.released) = some after ∧
      Requeues state rows after := by
  induction rows generalizing state with
  | nil => exact ⟨state, rfl, by simp, by simp, by simp, rfl, rfl, rfl⟩
  | cons row rest ih =>
    obtain ⟨fresh, distinct⟩ := List.nodup_cons.mp distinct
    have found := present row List.mem_cons_self
    let middle : WorkflowState := { state with runs := state.runs.replace (row.requeuedAt state.clock) }
    have written : state.write (.run row row.released) = some middle := by
      simp only [WorkflowState.write, found, Option.map_some]
      rfl
    have others : ∀ id, id ≠ row.id → middle.runs.find id = state.runs.find id := by
      intro id apart
      rw [Table.find_replace, requeuedAt_id, if_neg apart]
    have still : ∀ other ∈ rest, middle.runs.find other.id = some other := by
      intro other member
      rw [others]
      · exact present other (List.mem_cons_of_mem _ member)
      · intro same
        exact fresh (List.mem_map.mpr ⟨other, member, same⟩)
    obtain ⟨after, later, requeues⟩ := ih distinct still
    refine ⟨after, ?_, ?_⟩
    · rw [List.map_cons, WorkflowState.writeAll, List.foldlM_cons, written]
      exact later
    · constructor
      · rw [requeues.parked, Table.select_replace_of_neg (requeuedAt_parked row state.clock),
          List.filter_filter]
        apply List.filter_congr
        intro other _
        by_cases own : other.id = row.id <;> simp [requeuedAt_id, own]
      · intro other member
        rcases List.mem_cons.mp member with rfl | tail
        · refine ⟨other.requeuedAt state.clock, ?_, requeuedAt_status _ _⟩
          rw [requeues.others _ fresh, Table.find_replace, requeuedAt_id, if_pos rfl, found]
          rfl
        · exact requeues.queued other tail
      · intro id apart
        simp only [List.map_cons, List.mem_cons, not_or] at apart
        rw [requeues.others id apart.2, others id apart.1]
      · exact requeues.steps
      · exact requeues.approvals
      · exact requeues.clock

def WorkflowState.releases (state : WorkflowState) (now : Int) : List WorkflowRun :=
  (state.waitingOrder.take 100).filter (state.ready now)

theorem mem_waitingOrder {row : WorkflowRun} : row ∈ base.waitingOrder ↔
    base.runs.find row.id = some row ∧ row.parked = true := by
  rw [WorkflowState.waitingOrder, List.mem_insertionSort, Table.mem_select]

theorem waitingOrder_nodup (state : WorkflowState) : (state.waitingOrder.map (·.id)).Nodup := by
  have perm := (List.perm_insertionSort (fun a b : WorkflowRun => a.updatedBefore b)
    (state.runs.select WorkflowRun.parked)).map (·.id)
  exact perm.nodup_iff.mpr ((List.filter_sublist.map _).nodup state.runs.distinct)

theorem Answered.waitingForUpdate {limit : Nat} {answer : List WorkflowRun}
    (answered : Answered pid base (Op.waitingForUpdate limit) answer) : answer = base.waitingOrder.take limit := by
  obtain ⟨choice, before, after, calm, alone, served⟩ := answered
  have same : before.waitingOrder = base.waitingOrder := by
    rw [WorkflowState.waitingOrder, alone.reads.runs, WorkflowState.waitingOrder]
  cases served
  rw [← same, calm]
  exact congrArg (List.take limit) (Answered.free alone.unlocked)

structure Releases (before : WorkflowState) (now : Int) (after : WorkflowState) : Prop where
  order : after.waitingOrder = scan before.ready 100 now before.waitingOrder
  queued : ∀ row ∈ before.releases now, ∃ queued, after.runs.find row.id = some queued ∧
    queued.status = .queued
  steps : after.steps = before.steps
  approvals : after.approvals = before.approvals
  clock : before.clock ≤ after.clock

theorem Requeues.releases {now : Int} {after : WorkflowState}
    (requeues : Requeues state (base.releases now) after) (reads : Reads base state) :
    Releases base now after where
  order := by
    have distinct : base.waitingOrder.Nodup := (waitingOrder_nodup base).of_map
    have listed : ∀ row ∈ base.runs.select WorkflowRun.parked,
        decide (row.id ∉ (base.releases now).map (·.id)) = decide (row ∉ base.releases now) := by
      intro row member
      have found := (Table.mem_select.mp member).1
      rw [decide_eq_decide]
      apply not_congr
      constructor
      · intro named
        obtain ⟨other, among, same⟩ := List.mem_map.mp named
        have present := (mem_waitingOrder.mp (List.mem_of_mem_take (List.mem_of_mem_filter among))).1
        rw [same, found] at present
        exact (Option.some.inj present) ▸ among
      · exact fun among => List.mem_map.mpr ⟨row, among, rfl⟩
    rw [scan_eq_filter distinct, WorkflowState.waitingOrder, requeues.parked, reads.runs,
      List.filter_congr listed, ← filter_insertionSort]
    rfl
  queued := requeues.queued
  steps := requeues.steps.trans reads.steps
  approvals := requeues.approvals.trans reads.approvals
  clock := by
    rw [requeues.clock]
    exact reads.clock

def releaseScope (now : Int) : Session Unit := sessionScope do
  let waiting ← query (.waitingForUpdate 100)
  let changes ← forEach (releaseRun now) waiting
  return ((), changes)

theorem releaseDecided_eq : releaseDecided = query .now >>= releaseScope := rfl

theorem releaseScope_ensures (now : Int) (unlocked : base.Unlocked pid) :
    (releaseScope now).Ensures workflowWorld pid quiet (fun _ => True)
      (fun _ after => Releases base now after ∧ ∀ lock, after.held lock = none) (fun _ _ => False) base := by
  have body : (do
      let waiting ← query (.waitingForUpdate 100)
      let changes ← forEach (releaseRun now) waiting
      return ((), changes) : Session (Unit × List Write)).Ensures workflowWorld pid quiet (fun _ => True)
      (fun value after => Alone pid base after ∧
        value.2 = (base.releases now).map fun row => .run row row.released) (fun _ _ => False) base := by
    apply bind_query rfl (.start unlocked) trivial
    intro waiting after answered alone _
    obtain rfl : waiting = base.waitingOrder.take 100 := answered.waitingForUpdate
    apply Ensures.bind
      (forEach_ensures (fun row state alone => releaseRun_ensures now row alone) _ alone)
    rintro changes middle ⟨alone, rfl⟩
    refine Ensures.pure ⟨alone, ?_⟩
    exact flatMap_ite _ _ _
  have distinct : ((base.releases now).map (·.id)).Nodup :=
    ((List.filter_sublist.trans (List.take_sublist ..)).map _).nodup (waitingOrder_nodup base)
  apply sessionScope_quiet body
  · intro value current holds
    exact holds.1.unlocked
  · rintro value current elapsed ⟨alone, same⟩
    have passed := alone.elapse elapsed
    have present : ∀ row ∈ base.releases now, (current.elapse elapsed).runs.find row.id = some row := by
      intro row member
      rw [passed.reads.runs]
      exact (mem_waitingOrder.mp (List.mem_of_mem_take (List.mem_of_mem_filter member))).1
    obtain ⟨after, written, requeues⟩ := writeAll_requeues distinct present
    have kept := requeues.releases passed.reads
    refine ⟨after, by rw [same]; exact written,
      ⟨kept.order, kept.queued, kept.steps, kept.approvals, kept.clock⟩, ?_⟩
    exact (passed.unlocked.writeAll written).released
  · intro error current elapsed impossible
    exact impossible

def ReleasePass (before after : WorkflowState) : Prop :=
  ∃ pid result, Evaluates workflowWorld pid quiet releaseDecided.run before result after

theorem ReleasePass.releases {after : WorkflowState} (pass : ReleasePass base after) (idle : base.Idle) :
    after.Idle ∧ ∃ now, base.clock ≤ now ∧ now ≤ after.clock ∧ Releases base now after := by
  obtain ⟨pid, result, run⟩ := pass
  have ensures : releaseDecided.Ensures workflowWorld pid quiet (fun _ => True)
      (fun _ after => after.Idle ∧ ∃ now, base.clock ≤ now ∧ now ≤ after.clock ∧ Releases base now after)
      (fun _ _ => False) base := by
    rw [releaseDecided_eq]
    apply Ensures.bind_ask trivial
    intro choice now middle _ performed
    cases performed
    have free : (base.elapse choice.elapsed).Unlocked pid := idle.unlocked pid
    have earlier := (Reads.elapse base choice.elapsed).clock
    apply Ensures.weaken (releaseScope_ensures _ free) (fun _ => id)
    · rintro _ after ⟨released, free⟩
      refine ⟨free, _, earlier, released.clock, ?_⟩
      exact ⟨released.order, released.queued, released.steps, released.approvals,
        earlier.trans released.clock⟩
    · exact fun _ _ => id
  have outcome := Program.Ensures.evaluates (Ensures.run_iff.mp ensures) run
  cases result with
  | ok value => exact outcome
  | error error => exact outcome.elim

end Pass

/-! ### Pass after pass -/

structure Passes (states : Nat → WorkflowState) : Prop where
  pass : ∀ n, ReleasePass (states n) (states (n + 1))
  diverges : ∀ time, ∃ n, time ≤ (states n).clock

section Passes
variable {states : Nat → WorkflowState} {start : WorkflowState} {run : WorkflowRun}

theorem Passes.idle (passes : Passes states) (idle : (states 0).Idle) (n : Nat) : (states n).Idle := by
  induction n with
  | zero => exact idle
  | succ n ih => exact ((passes.pass n).releases ih).1

theorem ready_congr {before after : WorkflowState} (steps : after.steps = before.steps)
    (approvals : after.approvals = before.approvals) : after.ready = before.ready := by
  funext now row
  unfold WorkflowState.ready WorkflowState.standing WorkflowState.decided
  rw [steps, approvals]

theorem Passes.scans (passes : Passes states) (idle : (states 0).Idle) : ∃ times : Nat → Int,
    (∀ n, (states n).clock ≤ times n ∧ Releases (states n) (times n) (states (n + 1))) ∧
    Scans (states 0).ready 100 (fun n => (states n).waitingOrder) times := by
  have each : ∀ n, ∃ now, (states n).clock ≤ now ∧ now ≤ (states (n + 1)).clock ∧
      Releases (states n) now (states (n + 1)) :=
    fun n => ((passes.pass n).releases (passes.idle idle n)).2
  choose times early late released using each
  have steady : ∀ n, (states n).ready = (states 0).ready := by
    intro n
    induction n with
    | zero => rfl
    | succ n ih => exact (ready_congr (released n).steps (released n).approvals).trans ih
  refine ⟨times, fun n => ⟨early n, released n⟩, ?_, ?_, (waitingOrder_nodup _).of_map⟩
  · intro n
    rw [(released n).order, steady]
  · exact monotone_nat_of_le_succ fun n => (late n).trans (early (n + 1))

def WorkflowState.ahead (state : WorkflowState) (run : WorkflowRun) : List WorkflowRun :=
  state.waitingOrder.takeWhile fun other => other.id ≠ run.id

theorem waitingOrder_split (waits : run ∈ start.waitingOrder) :
    ∃ late, start.waitingOrder = start.ahead run ++ run :: late := by
  obtain ⟨early, late, shape⟩ := List.append_of_mem waits
  have distinct := waitingOrder_nodup start
  rw [shape, List.map_append, List.nodup_append] at distinct
  have before : start.ahead run = early := by
    rw [WorkflowState.ahead, shape, List.takeWhile_append_of_pos, List.takeWhile_cons_of_neg (by simp),
      List.append_nil]
    intro other member
    have apart := distinct.2.2 other.id (List.mem_map_of_mem member) run.id
      (List.mem_map_of_mem List.mem_cons_self)
    simpa using apart
  exact ⟨late, by rw [before, shape]⟩

theorem Passes.queued (passes : Passes states) (idle : (states 0).Idle)
    (waits : run ∈ (states 0).waitingOrder) {n : Nat} (gone : run ∉ (states n).waitingOrder) :
    ∃ n queued, (states n).runs.find run.id = some queued ∧ queued.status = .queued := by
  obtain ⟨times, released, -⟩ := passes.scans idle
  induction n with
  | zero => exact absurd waits gone
  | succ n ih =>
    by_cases still : run ∈ (states n).waitingOrder
    · have order := (released n).2.order
      rw [scan_eq_filter (waitingOrder_nodup _).of_map] at order
      rw [order, List.mem_filter, not_and] at gone
      have leaves : run ∈ (states n).releases (times n) := by
        by_contra other
        exact gone still (decide_eq_true other)
      obtain ⟨queued, found, status⟩ := (released n).2.queued run leaves
      exact ⟨n + 1, queued, found, status⟩
    · exact ih still

theorem not_queued_of_waiting (waits : run ∈ start.waitingOrder) {queued : WorkflowRun}
    (found : start.runs.find run.id = some queued) : queued.status ≠ .queued := by
  obtain ⟨present, parked⟩ := mem_waitingOrder.mp waits
  obtain rfl : run = queued := Option.some.inj (present.symm.trans found)
  intro same
  simp [WorkflowRun.parked, same] at parked

theorem Passes.hidden (passes : Passes states) (idle : (states 0).Idle) (waits : run ∈ (states 0).waitingOrder)
    (full : 100 ≤ ((states 0).ahead run).countP (states 0).stuck) (n : Nat) : run ∈ (states n).waitingOrder := by
  obtain ⟨times, -, scans⟩ := passes.scans idle
  obtain ⟨late, shape⟩ := waitingOrder_split waits
  obtain ⟨before, after, remains, -⟩ := scans.hidden (states 0).ready_lasting shape full n
  rw [show (states n).waitingOrder = before ++ run :: after from remains]
  exact List.mem_append_right _ List.mem_cons_self

theorem Passes.released (passes : Passes states) (idle : (states 0).Idle) (waits : run ∈ (states 0).waitingOrder)
    (due : ∃ now, (states 0).ready now run = true) (room : ((states 0).ahead run).countP (states 0).stuck < 100) :
    ∃ n queued, (states n).runs.find run.id = some queued ∧ queued.status = .queued := by
  obtain ⟨times, released, scans⟩ := passes.scans idle
  obtain ⟨late, shape⟩ := waitingOrder_split waits
  have free : (states 0).stuck run = false := by
    obtain ⟨now, gets⟩ := due
    by_contra held
    rw [(states 0).ready_lasting.waits now run (by simpa using held)] at gets
    cases gets
  have diverges : ∀ time, ∃ n, time ≤ times n := by
    intro time
    obtain ⟨n, reached⟩ := passes.diverges time
    exact ⟨n, reached.trans (released n).1⟩
  obtain ⟨n, gone⟩ := scans.leaves (states 0).ready_lasting diverges shape room free
  exact passes.queued idle waits gone

theorem pass_exists (idle : start.Idle) : ∃ after, ReleasePass start after ∧ start.clock + 1 ≤ after.clock := by
  let middle := start.elapse 1
  have unlocked : middle.Unlocked 0 := idle.unlocked 0
  obtain ⟨result, after, rest⟩ := evaluates_total (releaseScope middle.clock).run unlocked
  refine ⟨after, ⟨0, result, ?_⟩, ?_⟩
  · rw [releaseDecided_eq]
    exact Evaluates.bind_ask_run.mpr ⟨{ elapsed := 1 }, middle.clock, middle, rfl, rfl, quiet_of_prompt rest⟩
  · have ensures := Ensures.run_iff.mp (releaseScope_ensures middle.clock unlocked)
    have outcome := Program.Ensures.evaluates ensures (quiet_of_prompt rest)
    cases result with
    | ok value => exact outcome.1.clock
    | error error => exact outcome.elim

theorem passes_exist (idle : start.Idle) : ∃ states, states 0 = start ∧ Passes states := by
  have next : ∀ state : { state : WorkflowState // state.Idle }, ∃ after : { state : WorkflowState // state.Idle },
      ReleasePass state.1 after.1 ∧ state.1.clock + 1 ≤ after.1.clock := by
    intro ⟨state, idle⟩
    obtain ⟨after, pass, later⟩ := pass_exists idle
    exact ⟨⟨after, (pass.releases idle).1⟩, pass, later⟩
  choose follow pass later using next
  let states (n : Nat) : { state : WorkflowState // state.Idle } := follow^[n] ⟨start, idle⟩
  have step : ∀ n, states (n + 1) = follow (states n) := fun n => Function.iterate_succ_apply' follow n _
  refine ⟨fun n => (states n).1, rfl, ?_, ?_⟩
  · intro n
    simp only [step]
    exact pass (states n)
  · have grows : ∀ n : Nat, start.clock + n ≤ (states n).1.clock := by
      intro n
      induction n with
      | zero => simp [states]
      | succ n ih =>
        have more := later (states n)
        rw [step]
        push_cast
        omega
    intro time
    refine ⟨(time - start.clock).toNat, ?_⟩
    have reached := grows (time - start.clock).toNat
    omega

theorem never_released (idle : start.Idle) (waits : run ∈ start.waitingOrder)
    (full : 100 ≤ (start.ahead run).countP start.stuck) : ∃ states, states 0 = start ∧ Passes states ∧
      ∀ n queued, (states n).runs.find run.id = some queued → queued.status ≠ .queued := by
  obtain ⟨states, rfl, passes⟩ := passes_exist idle
  refine ⟨states, rfl, passes, fun n queued found => ?_⟩
  exact not_queued_of_waiting (passes.hidden idle waits full n) found

/-- A run whose wait is over, or whose approval was decided, is queued again after finitely many
passes, if and only if fewer than a hundred runs stand before it that are never released. -/
theorem released_eventually_iff (idle : start.Idle) (waits : run ∈ start.waitingOrder)
    (due : ∃ now, start.ready now run = true) :
    (∀ states, states 0 = start → Passes states → ∃ n queued,
      (states n).runs.find run.id = some queued ∧ queued.status = .queued) ↔
    (start.ahead run).countP start.stuck < 100 := by
  constructor
  · intro always
    by_contra full
    obtain ⟨states, rfl, passes, never⟩ := never_released idle waits (by omega)
    obtain ⟨n, queued, found, status⟩ := always states rfl passes
    exact never n queued found status
  · rintro room states rfl passes
    exact passes.released idle waits due room

end Passes

/-! A run whose wait is over, behind runs that wait for an approval each. -/

def parkedRun (id : String) (status : RunStatus) (updatedAt : Int) : WorkflowRun where
  id := id
  workflowId := "w"
  workflowVersionId := "v"
  scopeKind := .personal
  workspaceId := none
  authorityUserId := some "u1"
  initiatedByUserId := none
  triggerType := "manual"
  triggerPayload := .obj []
  dedupeKey := .manual "w" id
  status := status
  currentStepKey := some "step"
  createdAt := 0
  updatedAt := updatedAt

def parkedStep (runId : String) (approvalId : Option String) (waitUntil : Option Int) : WorkflowStepRun where
  id := runId
  workflowRunId := runId
  stepKey := "step"
  stepOrder := 0
  stepKind := if approvalId.isSome then .action else .wait
  approvalId := approvalId
  waitUntil := waitUntil

def pendingApproval (id : String) : Kernel.KernelApproval where
  id := id
  scopeKind := .personal
  workspaceId := none
  ownerUserId := some "u1"
  requestedByPrincipalId := some "user:u1"
  requestedByUserId := some "u1"
  capabilityId := "note.write"
  argumentsHash := ""
  argumentsJson := .obj []
  requestId := none
  conversationId := none
  sourceRunId := none
  status := .pending
  decidedByUserId := none
  consumedRunId := none

def elapsedRun : WorkflowRun := parkedRun "elapsed" .waiting 1000

def behindApprovals (count : Nat) : WorkflowState :=
  let ids := (List.range count).map fun n => s!"{n}"
  { clock := 2000
    runs := (ids.map fun id => parkedRun id .waitingApproval 0).foldl .insert (Table.empty.insert elapsedRun)
    steps := (ids.map fun id => parkedStep id (some id) none).foldl .insert
      (Table.empty.insert (parkedStep "elapsed" none (some 1500)))
    approvals := (ids.map pendingApproval).foldl .insert .empty }

theorem behindApprovals_full : elapsedRun ∈ (behindApprovals 100).waitingOrder ∧
    (behindApprovals 100).ready (behindApprovals 100).clock elapsedRun = true ∧
    100 ≤ ((behindApprovals 100).ahead elapsedRun).countP (behindApprovals 100).stuck := by
  decide +kernel

theorem behindApprovals_idle (count : Nat) : (behindApprovals count).Idle := fun _ => rfl

/-- A hundred undecided approvals hide a run whose wait is over for good. -/
theorem elapsed_run_starves : ¬ ∀ (start : WorkflowState) (run : WorkflowRun), start.Idle →
    run ∈ start.waitingOrder → start.ready start.clock run = true →
    ∀ states, states 0 = start → Passes states → ∃ n queued,
      (states n).runs.find run.id = some queued ∧ queued.status = .queued := by
  intro always
  obtain ⟨waits, gets, full⟩ := behindApprovals_full
  obtain ⟨states, same, passes, never⟩ := never_released (behindApprovals_idle 100) waits full
  obtain ⟨n, queued, found, status⟩ := always _ _ (behindApprovals_idle 100) waits gets states same passes
  exact never n queued found status

theorem released_eventually_two :
    (∀ states, states 0 = behindApprovals 2 → Passes states → ∃ n queued,
      (states n).runs.find elapsedRun.id = some queued ∧ queued.status = .queued) ↔
    ((behindApprovals 2).ahead elapsedRun).countP (behindApprovals 2).stuck < 100 :=
  released_eventually_iff (behindApprovals_idle 2) (by decide) ⟨2000, by decide⟩

end Operly.Workflow
