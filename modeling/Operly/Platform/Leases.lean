import Operly.Platform.LeaseQueue

/-! Who may end the lease of a row, in any interleaving of the workers of a queue. -/

namespace Operly.Platform
open Python Relational Concurrent

namespace QueueState

variable {service : QueueService} {state : QueueState}

@[simp] theorem setTodo_holder (worker : String) (ids : List String) :
    (state.setTodo worker ids).holder = state.holder := rfl

@[simp] theorem setSession_holder (worker : String) (session : Option Session) :
    (state.setSession worker session).holder = state.holder := rfl

theorem setSession_session (worker other : String) (session : Option Session) :
    (state.setSession worker session).session other =
      if other = worker then session else state.session other := by
  simp [setSession, Function.update_apply]

@[simp] theorem record_log (entry : Entry) : (state.record entry).log = entry :: state.log := rfl

@[simp] theorem record_holder (entry : Entry) : (state.record entry).holder = state.holder := rfl

/-! ### What each transaction does to the holders -/

variable {row : QueueRow}

theorem insertable_spec (insertable : state.insertable service row = true) :
    row.status = .fresh ∧ row.attempts = 0 ∧ row.lockedBy = none ∧ 1 ≤ service.limit row.maxAttempts ∧
      state.table.find row.id = none := by
  simpa [QueueState.insertable, and_assoc] using insertable

theorem holder_insert (insertable : state.insertable service row = true) (id : String) :
    QueueState.holder { state with table := state.table.insert row } id = state.holder id := by
  obtain ⟨fresh, -, -, -, absent⟩ := insertable_spec insertable
  simp only [holder, Table.find_insert]
  by_cases same : id = row.id
  · subst same
    simp [absent, QueueRow.holder, fresh]
  · simp [same]

theorem mem_batch {now limit : Int} {locked : List String} {id : String}
    (taken : id ∈ service.batch state.table now limit locked) :
    ∃ row, state.table.find id = some row ∧ QueueService.due now row = true := by
  simp only [QueueService.batch, List.mem_map] at taken
  obtain ⟨row, member, rfl⟩ := taken
  have selected := (List.mem_insertionSort _).mp (List.mem_of_mem_take member)
  obtain ⟨found, condition⟩ := Table.mem_select.mp selected
  simp only [Bool.and_eq_true] at condition
  exact ⟨row, found, condition.1⟩

theorem find_leaseBatch (worker : String) (now limit leaseSeconds : Int) (locked : List String)
    (id : String) : (state.leaseBatch service worker now limit leaseSeconds locked).table.find id =
      (state.table.find id).map fun row =>
        if row.id ∈ service.batch state.table now limit locked then
          service.lease worker now leaseSeconds row
        else row := by
  simp only [leaseBatch, record_table, setTodo_table, Table.find_modify]

theorem holder_leaseBatch (worker : String) (now limit leaseSeconds : Int) (locked : List String)
    (id : String) : (state.leaseBatch service worker now limit leaseSeconds locked).holder id =
      if id ∈ service.batch state.table now limit locked then some worker else state.holder id := by
  rw [holder, find_leaseBatch]
  by_cases taken : id ∈ service.batch state.table now limit locked
  · obtain ⟨row, found, -⟩ := mem_batch taken
    rw [if_pos taken, found, Option.map_some, Table.find_key found, if_pos taken]
    simp [QueueRow.holder, QueueService.lease]
  · rw [if_neg taken, holder]
    cases found : state.table.find id with
    | none => rfl
    | some row => rw [Option.map_some, Table.find_key found, if_neg taken]

theorem load_cases (state : QueueState) (worker id : String) (recovering : Bool) :
    state.load worker id recovering = state.setSession worker none ∨
      ∃ row, state.table.find id = some row ∧ row.status = .leased ∧ row.lockedBy = some worker ∧
        state.load worker id recovering =
          (state.setSession worker (some ⟨row, recovering⟩)).record (.read worker id) := by
  unfold load
  cases found : state.table.find id with
  | none => exact .inl rfl
  | some row =>
    dsimp only
    split
    · exact .inl rfl
    · next owned =>
      simp only [not_or, not_not] at owned
      exact .inr ⟨row, rfl, owned.1, owned.2, rfl⟩

theorem holder_of_owned {id worker : String} (found : state.table.find id = some row) (leased : row.status = .leased)
    (locked : row.lockedBy = some worker) : state.holder id = some worker := by
  simp [holder, found, QueueRow.holder, leased, locked]

theorem flush_holder {copy updated : QueueRow} (current : QueueRow) (leased : copy.status = .leased)
    (ended : updated.status ≠ .leased) : (flush copy updated current).holder = none := by
  simp [QueueRow.holder, flush, flushColumn, leased, ended]

theorem finish_cases (state : QueueState) (worker : String) (copy updated : QueueRow) :
    state.finish worker copy updated = state.setSession worker none ∨
      ∃ current, state.table.find copy.id = some current ∧ state.finish worker copy updated =
        (({ state with table := state.table.replace (flush copy updated current) } : QueueState).setSession
          worker none).record (.finished worker copy.id (state.holder copy.id)) := by
  unfold finish
  cases found : state.table.find copy.id with
  | none => exact .inl rfl
  | some current => exact .inr ⟨current, rfl, rfl⟩

theorem holder_replace {copy updated current : QueueRow} (found : state.table.find copy.id = some current)
    (leased : copy.status = .leased) (ended : updated.status ≠ .leased) (id : String) :
    QueueState.holder { state with table := state.table.replace (flush copy updated current) } id =
      if id = copy.id then none else state.holder id := by
  have key : (flush copy updated current).id = copy.id := show current.id = copy.id from Table.find_key found
  simp only [holder, Table.find_replace, key]
  by_cases same : id = copy.id
  · rw [if_pos same, if_pos same, same, found]
    exact flush_holder current leased ended
  · rw [if_neg same, if_neg same]

end QueueState

namespace QueueService

variable {service : QueueService} {worker : String} {row : QueueRow}

theorem owned_ok {owned : QueueRow} (passed : service.owned worker (some row) = .ok owned) :
    owned = row ∧ row.status = .leased ∧ row.lockedBy = some worker := by
  unfold QueueService.owned at passed
  dsimp only at passed
  split at passed
  · cases passed
  · next test =>
    simp only [not_or, not_not] at test
    cases passed
    exact ⟨rfl, test⟩

theorem complete_ok {now : Int} {outcome : Outcome} {updated : QueueRow}
    (returned : service.complete worker now outcome (some row) = .ok updated) :
    row.status = .leased ∧ row.lockedBy = some worker ∧ updated = completed now outcome row := by
  unfold complete at returned
  cases passed : service.owned worker (some row) with
  | error error => simp [passed, Except.map] at returned
  | ok owned =>
    obtain ⟨rfl, leased, locked⟩ := owned_ok passed
    simp only [passed, Except.map, Except.ok.injEq] at returned
    exact ⟨leased, locked, returned.symm⟩

theorem fail_ok {now : Int} {error : String} {retryAfterSeconds : Int} {permanent : Bool} {updated : QueueRow}
    (returned : service.fail worker now error retryAfterSeconds permanent (some row) = .ok updated) :
    row.status = .leased ∧ row.lockedBy = some worker ∧
      updated = service.failed now error retryAfterSeconds permanent row := by
  unfold fail at returned
  cases passed : service.owned worker (some row) with
  | error error => simp [passed, Except.map] at returned
  | ok owned =>
    obtain ⟨rfl, leased, locked⟩ := owned_ok passed
    simp only [passed, Except.map, Except.ok.injEq] at returned
    exact ⟨leased, locked, returned.symm⟩

theorem failed_status (now : Int) (error : String) (retryAfterSeconds : Int) (permanent : Bool) (row : QueueRow) :
    (service.failed now error retryAfterSeconds permanent row).status ≠ .leased := by
  by_cases last : permanent = true ∨ service.limit row.maxAttempts ≤ row.attempts <;> simp [failed, last]

end QueueService

namespace QueueState

variable {service : QueueService} {state : QueueState}

inductive Effect (service : QueueService) (state : QueueState) : Action → QueueState → Prop
  | enqueued {row : QueueRow} (insertable : state.insertable service row = true) :
      Effect service state (.enqueue row) { state with table := state.table.insert row }
  | leased {worker : String} {now limit leaseSeconds : Int} {locked : List String}
      (idle : state.todo worker = []) (free : state.session worker = none) :
      Effect service state (.lease worker now limit leaseSeconds locked)
        (state.leaseBatch service worker now limit leaseSeconds locked)
  | started {worker id : String} {rest : List String} (waiting : state.todo worker = id :: rest)
      (free : state.session worker = none) :
      Effect service state (.start worker) ((state.setTodo worker rest).load worker id false)
  | completed {worker : String} {now : Int} {outcome : Outcome} {copy : QueueRow}
      (held : state.session worker = some ⟨copy, false⟩) (leased : copy.status = .leased)
      (locked : copy.lockedBy = some worker) :
      Effect service state (.complete worker now outcome)
        (state.finish worker copy (QueueService.completed now outcome copy))
  | failed {worker : String} {now : Int} {error : String} {retryAfterSeconds : Int} {permanent : Bool}
      {copy : QueueRow} {recovering : Bool} (held : state.session worker = some ⟨copy, recovering⟩)
      (leased : copy.status = .leased) (locked : copy.lockedBy = some worker)
      (calls : service.fails recovering permanent = true) :
      Effect service state (.fail worker now error retryAfterSeconds permanent)
        (state.finish worker copy (service.failed now error retryAfterSeconds permanent copy))
  | refused {action : Action} : Effect service state action state
  | recovered {worker : String} {copy : QueueRow} (held : state.session worker = some ⟨copy, false⟩) :
      Effect service state (.recover worker) (state.load worker copy.id true)
  | crashed {worker : String} :
      Effect service state (.crash worker) ((state.setTodo worker []).setSession worker none)

theorem step_effect {action : Action} {next : QueueState}
    (moved : state.step service action = some next) : Effect service state action next := by
  cases action with
  | enqueue row =>
    simp only [step, Option.ite_none_right_eq_some, Option.some.injEq] at moved
    exact moved.2 ▸ .enqueued moved.1
  | lease worker now limit leaseSeconds locked =>
    simp only [step, Option.ite_none_right_eq_some, Option.some.injEq, Option.isNone_iff_eq_none]
      at moved
    exact moved.2 ▸ .leased moved.1.1 moved.1.2
  | start worker =>
    simp only [step] at moved
    split at moved
    · next id rest waiting free =>
      cases moved
      exact .started waiting free
    · cases moved
  | complete worker now outcome =>
    simp only [step] at moved
    split at moved
    · next copy held =>
      cases moved
      cases returned : service.complete worker now outcome (some copy) with
      | error error => exact .refused
      | ok updated =>
        obtain ⟨leased, locked, rfl⟩ := QueueService.complete_ok returned
        exact .completed held leased locked
    · cases moved
  | fail worker now error retryAfterSeconds permanent =>
    simp only [step] at moved
    split at moved
    · next copy recovering held =>
      split at moved
      · next calls =>
        cases moved
        cases returned : service.fail worker now error retryAfterSeconds permanent (some copy) with
        | error error => exact .refused
        | ok updated =>
          obtain ⟨leased, locked, rfl⟩ := QueueService.fail_ok returned
          exact .failed held leased locked calls
      · cases moved
    · cases moved
  | recover worker =>
    simp only [step] at moved
    split at moved
    · next copy held =>
      cases moved
      exact .recovered held
    · cases moved
  | crash worker =>
    cases moved
    exact .crashed

end QueueState

/-! ### Exclusive leases -/

def takenSince (worker id : String) : List Entry → Bool
  | [] => false
  | .leased other ids :: earlier => (other ≠ worker && ids.contains id) || takenSince worker id earlier
  | .read other read :: earlier => (other ≠ worker || read ≠ id) && takenSince worker id earlier
  | .finished _ _ _ :: earlier => takenSince worker id earlier

/-- Every `complete` and `fail` came from the worker that held the lease in the database. -/
def Exclusive : List Entry → Prop
  | [] => True
  | .finished worker _ holder :: earlier => holder = some worker ∧ Exclusive earlier
  | _ :: earlier => Exclusive earlier

/-- No `complete` and no `fail` came from a worker that had been overtaken since it read the row. -/
def Undisturbed : List Entry → Prop
  | [] => True
  | .finished worker id _ :: earlier => takenSince worker id earlier = false ∧ Undisturbed earlier
  | _ :: earlier => Undisturbed earlier

namespace QueueState

variable {service : QueueService} {state next : QueueState}

structure Tracked (state : QueueState) : Prop where
  /-- A worker that was overtaken does not get the row back under the same session. -/
  lost : ∀ worker session, state.session worker = some session →
    takenSince worker session.copy.id state.log = true → state.holder session.copy.id ≠ some worker
  /-- While nobody writes a row that another holds, a worker keeps what nobody took. -/
  kept : Exclusive state.log → ∀ worker session, state.session worker = some session →
    takenSince worker session.copy.id state.log = false → state.holder session.copy.id = some worker
  agree : Exclusive state.log ↔ Undisturbed state.log

theorem Tracked.frame (tracked : Tracked state) (holders : next.holder = state.holder) (log : next.log = state.log)
    (sessions : ∀ worker session, next.session worker = some session →
      state.session worker = some session) : Tracked next := by
  constructor
  · intro worker session open'
    rw [holders, log]
    exact tracked.lost worker session (sessions worker session open')
  · intro exclusive worker session open'
    rw [holders, log]
    exact tracked.kept (log ▸ exclusive) worker session (sessions worker session open')
  · rw [log]
    exact tracked.agree

variable {worker : String}

theorem Tracked.leaseBatch (tracked : Tracked state) {now limit leaseSeconds : Int} {locked : List String}
    (free : state.session worker = none) : Tracked (state.leaseBatch service worker now limit leaseSeconds locked) := by
  have log : (state.leaseBatch service worker now limit leaseSeconds locked).log =
      .leased worker (service.batch state.table now limit locked) :: state.log := rfl
  have others : ∀ other session, state.session other = some session → worker ≠ other := by
    rintro other session open' rfl
    simp [free] at open'
  constructor
  · intro other session open' taken
    rw [holder_leaseBatch]
    rw [log] at taken
    by_cases member : session.copy.id ∈ service.batch state.table now limit locked
    · rw [if_pos member]
      simpa using others other session open'
    · rw [if_neg member]
      refine tracked.lost other session open' ?_
      simpa [takenSince, member] using taken
  · intro exclusive other session open' quiet
    rw [log] at quiet
    simp only [takenSince, Bool.or_eq_false_iff, Bool.and_eq_false_iff] at quiet
    have spared : session.copy.id ∉ service.batch state.table now limit locked := by
      rcases quiet.1 with same | absent
      · simp [others other session open'] at same
      · simpa using absent
    rw [holder_leaseBatch, if_neg spared]
    exact tracked.kept exclusive other session open' quiet.2
  · rw [log]
    exact tracked.agree

theorem Tracked.load (tracked : Tracked state) {id : String} {recovering : Bool} :
    Tracked (state.load worker id recovering) := by
  rcases load_cases state worker id recovering with ended | ⟨row, found, leased, locked, loaded⟩
  · rw [ended]
    refine tracked.frame rfl rfl ?_
    intro other session open'
    rw [setSession_session] at open'
    split at open'
    · cases open'
    · exact open'
  · have key : row.id = id := Table.find_key found
    rw [loaded]
    constructor
    · intro other session open' taken
      rw [record_session, setSession_session] at open'
      simp only [record_log, setSession_log, takenSince, Bool.and_eq_true] at taken
      simp only [record_holder, setSession_holder]
      split at open'
      · next same =>
        cases open'
        simp [same, key] at taken
      · exact tracked.lost other session open' taken.2
    · intro exclusive other session open' quiet
      rw [record_session, setSession_session] at open'
      simp only [record_log, setSession_log, takenSince, Bool.and_eq_false_iff] at quiet
      simp only [record_holder, setSession_holder]
      split at open'
      · next same =>
        cases open'
        rw [same, key]
        exact holder_of_owned found leased locked
      · next different =>
        refine tracked.kept exclusive other session open' (quiet.resolve_left ?_)
        simp [Ne.symm different]
    · exact tracked.agree

theorem Tracked.finish (tracked : Tracked state) {copy updated : QueueRow} {recovering : Bool}
    (held : state.session worker = some ⟨copy, recovering⟩) (leased : copy.status = .leased)
    (ended : updated.status ≠ .leased) : Tracked (state.finish worker copy updated) := by
  rcases finish_cases state worker copy updated with gone | ⟨current, found, finished⟩
  · rw [gone]
    refine tracked.frame rfl rfl ?_
    intro other session open'
    rw [setSession_session] at open'
    split at open'
    · cases open'
    · exact open'
  · rw [finished]
    constructor
    · intro other session open' taken
      rw [record_session, setSession_session] at open'
      simp only [record_log, setSession_log, takenSince] at taken
      simp only [record_holder, setSession_holder, holder_replace found leased ended]
      split at open'
      · cases open'
      · split
        · simp
        · exact tracked.lost other session open' taken
    · intro exclusive other session open' quiet
      rw [record_session, setSession_session] at open'
      simp only [record_log, setSession_log, takenSince] at quiet
      simp only [record_log, setSession_log, Exclusive] at exclusive
      simp only [record_holder, setSession_holder, holder_replace found leased ended]
      split at open'
      · cases open'
      · next different =>
        have holds := tracked.kept exclusive.2 other session open' quiet
        split
        · next same =>
          rw [same, exclusive.1] at holds
          exact absurd (Option.some.inj holds).symm different
        · exact holds
    · simp only [record_log, setSession_log, Exclusive, Undisturbed]
      rw [← tracked.agree]
      refine and_congr_left fun exclusive => ⟨fun own => ?_, tracked.kept exclusive worker _ held⟩
      by_contra taken
      exact tracked.lost worker _ held (by simpa using taken) own

theorem Tracked.step (tracked : Tracked state) {action : Action}
    (moved : state.step service action = some next) : Tracked next := by
  cases step_effect moved with
  | enqueued insertable =>
    exact tracked.frame (funext (holder_insert insertable)) rfl fun _ _ open' => open'
  | leased idle free => exact tracked.leaseBatch free
  | started waiting free =>
    refine Tracked.load ?_
    exact tracked.frame rfl rfl fun _ _ open' => open'
  | completed held leased locked => exact tracked.finish held leased (by simp [QueueService.completed])
  | failed held leased locked calls =>
    exact tracked.finish held leased (QueueService.failed_status _ _ _ _ _)
  | refused => exact tracked
  | recovered held => exact tracked.load
  | crashed =>
    refine tracked.frame rfl rfl ?_
    intro other session open'
    rw [setSession_session] at open'
    split at open'
    · cases open'
    · exact open'

/-- In any interleaving of the workers, every end of a lease comes from its holder if and only if
none comes from a worker that another has overtaken since it read the row. -/
theorem leases_exclusive_iff (service : QueueService) {actions : List Action} {final : QueueState}
    (run : Runs (QueueState.step service) (fun _ _ => True) .empty actions final) :
    Exclusive final.log ↔ Undisturbed final.log := by
  have tracked : Tracked final := by
    refine run.invariant ?_ fun state action next holds _ moved => holds.step moved
    exact ⟨fun _ _ open' => (nomatch open'), fun _ _ _ open' => (nomatch open'), Iff.rfl⟩
  exact tracked.agree

def overtaking : List Action :=
  [.enqueue { id := "row-1", maxAttempts := 5, availableAt := 0, createdAt := 0 },
    .lease "a" 0 20 180 [], .start "a", .lease "b" (200 * Time.second) 20 180 [],
    .complete "a" (201 * Time.second) {}]

theorem overtaking_log : ∀ service ∈ [QueueService.jobs, .events, .deliveries],
    (overtaking.foldlM (QueueState.step service) .empty).map (·.log) =
      some [.finished "a" "row-1" (some "b"), .leased "b" ["row-1"], .read "a" "row-1",
        .leased "a" ["row-1"]] := by
  intro service member
  simp only [List.mem_cons, List.not_mem_nil, or_false] at member
  rcases member with rfl | rfl | rfl <;> decide

theorem overtaking_not_exclusive (service : QueueService)
    (member : service ∈ [QueueService.jobs, .events, .deliveries]) :
    ∃ final, Runs (QueueState.step service) (fun _ _ => True) .empty overtaking final ∧
      ¬ Exclusive final.log := by
  obtain ⟨final, evaluated, log⟩ := Option.map_eq_some_iff.mp (overtaking_log service member)
  refine ⟨final, .of_foldlM evaluated, ?_⟩
  rw [log]
  simp [Exclusive]

theorem leases_not_exclusive :
    (∃ final, Runs (QueueState.step .jobs) (fun _ _ => True) .empty overtaking final ∧
      ¬ Exclusive final.log) ∧
    (∃ final, Runs (QueueState.step .events) (fun _ _ => True) .empty overtaking final ∧
      ¬ Exclusive final.log) ∧
    (∃ final, Runs (QueueState.step .deliveries) (fun _ _ => True) .empty overtaking final ∧
      ¬ Exclusive final.log) :=
  ⟨overtaking_not_exclusive .jobs (by simp), overtaking_not_exclusive .events (by simp),
    overtaking_not_exclusive .deliveries (by simp)⟩

theorem leases_exclusive_iff_overtaking : ∃ final,
    Runs (QueueState.step .jobs) (fun _ _ => True) .empty overtaking final ∧
      (Exclusive final.log ↔ Undisturbed final.log) := by
  obtain ⟨final, evaluated, -⟩ := Option.map_eq_some_iff.mp
    (overtaking_log QueueService.jobs (by simp))
  have run : Runs (QueueState.step .jobs) (fun _ _ => True) .empty overtaking final :=
    .of_foldlM evaluated
  exact ⟨final, run, leases_exclusive_iff .jobs run⟩

end QueueState

end Operly.Platform
