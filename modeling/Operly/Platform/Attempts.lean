import Operly.Platform.Leases

/-! How often the row of a queue can be leased, when workers may crash at any point. -/

namespace Operly.Platform
open Python Relational Concurrent

def leaseCount (id : String) : List Entry → Nat
  | [] => 0
  | .leased _ ids :: earlier => leaseCount id earlier + if id ∈ ids then 1 else 0
  | .read _ _ :: earlier | .finished _ _ _ :: earlier => leaseCount id earlier

namespace QueueState

def InHand (state : QueueState) (worker id : String) : Prop :=
  id ∈ state.todo worker ∨ ∃ session, state.session worker = some session ∧ session.copy.id = id

def Spent (service : QueueService) (row : QueueRow) : Prop :=
  service.limit row.maxAttempts ≤ row.attempts

/-- No row was leased more often than its limit, and a row that was leased as often, and that
nobody has in hand, is finished. -/
structure Bounded (service : QueueService) (state : QueueState) : Prop where
  leases : ∀ row ∈ state.table.rows, leaseCount row.id state.log ≤ service.limit row.maxAttempts
  ends : ∀ row ∈ state.table.rows, service.limit row.maxAttempts ≤ leaseCount row.id state.log →
    (∀ worker, ¬ state.InHand worker row.id) → row.status = .done ∨ row.status = .dead

/-- No worker crashes with a row on its last attempt, no batch takes over such a row from the
worker that has it in hand, and no failing worker that read the counter before others raised it
puts a row that is used up back into the queue. -/
def Careful (service : QueueService) (state : QueueState) : Action → Prop
  | .lease _ now limit _ locked =>
      ∀ id ∈ service.batch state.table now limit locked, ∀ row, state.table.find id = some row →
        ∀ holder, row.lockedBy = some holder → state.InHand holder id → ¬ Spent service row
  | .fail worker _ _ _ false =>
      ∀ session, state.session worker = some session → ∀ row, state.table.find session.copy.id = some row →
        Spent service row → Spent service session.copy
  | .crash worker =>
      ∀ id, state.InHand worker id → ∀ row, state.table.find id = some row →
        row.lockedBy = some worker → ¬ Spent service row
  | _ => True

/-- The counters of the rows, and where the rows on their last attempt are. -/
structure Counted (service : QueueService) (state : QueueState) : Prop where
  count : ∀ id row, state.table.find id = some row → leaseCount id state.log = row.attempts
  absent : ∀ id, state.table.find id = none → leaseCount id state.log = 0
  within : ∀ id row, state.table.find id = some row → row.attempts ≤ service.limit row.maxAttempts
  waiting : ∀ id row, state.table.find id = some row → row.status = .fresh ∨ row.status = .retry →
    ¬ Spent service row
  held : ∀ id row, state.table.find id = some row → row.status = .leased → Spent service row →
    ∃ worker, row.lockedBy = some worker ∧ state.InHand worker id
  copies : ∀ worker session, state.session worker = some session → ∃ row,
    state.table.find session.copy.id = some row ∧ row.maxAttempts = session.copy.maxAttempts

variable {service : QueueService} {state next : QueueState}

theorem Counted.bounded (counted : Counted service state) : Bounded service state := by
  constructor
  · intro row member
    have found := Table.find_of_mem member
    rw [counted.count row.id row found]
    exact counted.within row.id row found
  · intro row member reached alone
    have found := Table.find_of_mem member
    rw [counted.count row.id row found] at reached
    cases status : row.status with
    | fresh => exact absurd reached (counted.waiting row.id row found (.inl status))
    | retry => exact absurd reached (counted.waiting row.id row found (.inr status))
    | leased =>
      obtain ⟨worker, -, hand⟩ := counted.held row.id row found status reached
      exact absurd hand (alone worker)
    | done => exact .inl rfl
    | dead => exact .inr rfl

theorem Counted.enqueue (counted : Counted service state) {row : QueueRow}
    (insertable : state.insertable service row = true) :
    Counted service { state with table := state.table.insert row } := by
  obtain ⟨fresh, unused, -, positive, free⟩ := insertable_spec insertable
  have cases' : ∀ {id : String} {found : QueueRow}, (state.table.insert row).find id = some found →
      state.table.find id = some found ∨ (id = row.id ∧ found = row) := by
    intro id found held
    rw [Table.find_insert] at held
    by_cases same : id = row.id
    · subst same
      simp only [free, Option.none_or, if_true, Option.some.injEq] at held
      exact .inr ⟨rfl, held.symm⟩
    · simpa [same] using held
  have unspent : ¬ Spent service row := by
    unfold Spent
    omega
  constructor
  · intro id found held
    rcases cases' held with old | ⟨rfl, rfl⟩
    · exact counted.count id found old
    · exact (counted.absent _ free).trans unused.symm
  · intro id missing
    rw [Table.find_insert, Option.or_eq_none_iff] at missing
    exact counted.absent id missing.1
  · intro id found held
    rcases cases' held with old | ⟨rfl, rfl⟩
    · exact counted.within id found old
    · omega
  · intro id found held status
    rcases cases' held with old | ⟨rfl, rfl⟩
    · exact counted.waiting id found old status
    · exact unspent
  · intro id found held status spent
    rcases cases' held with old | ⟨rfl, rfl⟩
    · exact counted.held id found old status spent
    · exact absurd spent unspent
  · intro worker session open'
    obtain ⟨found, held, same⟩ := counted.copies worker session open'
    exact ⟨found, by simp [Table.find_insert, held], same⟩

variable {worker id : String} {recovering : Bool}

theorem Counted.leaseBatch (counted : Counted service state) {now limit leaseSeconds : Int} {locked : List String}
    (idle : state.todo worker = []) (free : state.session worker = none)
    (careful : Careful service state (.lease worker now limit leaseSeconds locked)) :
    Counted service (state.leaseBatch service worker now limit leaseSeconds locked) := by
  have log : (state.leaseBatch service worker now limit leaseSeconds locked).log =
      .leased worker (service.batch state.table now limit locked) :: state.log := rfl
  have empty : ∀ id, ¬ state.InHand worker id := by
    intro id hand
    simp [InHand, idle, free] at hand
  have unspent : ∀ id ∈ service.batch state.table now limit locked, ∀ row,
      state.table.find id = some row → ¬ Spent service row := by
    intro id taken row found spent
    obtain ⟨row', found', due⟩ := mem_batch taken
    cases found.symm.trans found'
    simp only [QueueService.due, Bool.and_eq_true, Bool.or_eq_true, decide_eq_true_eq] at due
    rcases due.2 with (fresh | retry) | leased
    · exact counted.waiting id row found (.inl fresh) spent
    · exact counted.waiting id row found (.inr retry) spent
    · obtain ⟨holder, locked', hand⟩ := counted.held id row found leased.1 spent
      exact careful id taken row found holder locked' hand spent
  have cases' : ∀ {id : String} {found : QueueRow},
      (state.leaseBatch service worker now limit leaseSeconds locked).table.find id = some found →
      ∃ row, state.table.find id = some row ∧
        ((id ∈ service.batch state.table now limit locked ∧
            found = service.lease worker now leaseSeconds row) ∨
          (id ∉ service.batch state.table now limit locked ∧ found = row)) := by
    intro id found held
    rw [find_leaseBatch, Option.map_eq_some_iff] at held
    obtain ⟨row, old, same⟩ := held
    rw [Table.find_key old] at same
    by_cases taken : id ∈ service.batch state.table now limit locked
    · exact ⟨row, old, .inl ⟨taken, by rw [← same, if_pos taken]⟩⟩
    · exact ⟨row, old, .inr ⟨taken, by rw [← same, if_neg taken]⟩⟩
  constructor
  · intro id found held
    rw [log, leaseCount]
    obtain ⟨row, old, ⟨taken, rfl⟩ | ⟨spared, rfl⟩⟩ := cases' held
    · rw [if_pos taken, counted.count id row old]
      rfl
    · rw [if_neg spared, counted.count id found old]
      rfl
  · intro id missing
    rw [find_leaseBatch, Option.map_eq_none_iff] at missing
    have spared : id ∉ service.batch state.table now limit locked := by
      intro taken
      obtain ⟨row, found, -⟩ := mem_batch taken
      simp [missing] at found
    rw [log, leaseCount, if_neg spared, counted.absent id missing]
  · intro id found held
    obtain ⟨row, old, ⟨taken, rfl⟩ | ⟨-, rfl⟩⟩ := cases' held
    · have room := unspent id taken row old
      simp only [Spent, QueueService.lease] at room ⊢
      push_cast
      omega
    · exact counted.within id found old
  · intro id found held status
    obtain ⟨row, old, ⟨-, rfl⟩ | ⟨-, rfl⟩⟩ := cases' held
    · simp [QueueService.lease] at status
    · exact counted.waiting id found old status
  · intro id found held status spent
    obtain ⟨row, old, ⟨taken, rfl⟩ | ⟨-, rfl⟩⟩ := cases' held
    · exact ⟨worker, rfl, .inl (by simpa [QueueState.leaseBatch, record, setTodo] using taken)⟩
    · obtain ⟨holder, locked', hand⟩ := counted.held id found old status spent
      have other : holder ≠ worker := by
        rintro rfl
        exact empty id hand
      refine ⟨holder, locked', ?_⟩
      simpa [InHand, QueueState.leaseBatch, record, setTodo, other] using hand
  · intro other session open'
    obtain ⟨row, old, same⟩ := counted.copies other session open'
    rw [find_leaseBatch, old, Option.map_some]
    refine ⟨_, rfl, ?_⟩
    split
    · exact same
    · exact same

theorem Counted.rehand (counted : Counted service state) (table : next.table = state.table)
    (counts : ∀ id, leaseCount id next.log = leaseCount id state.log)
    (hands : ∀ worker id row, state.table.find id = some row → row.status = .leased →
      row.lockedBy = some worker → Spent service row → state.InHand worker id →
      next.InHand worker id) (copies : ∀ worker session, next.session worker = some session → ∃ row,
      state.table.find session.copy.id = some row ∧ row.maxAttempts = session.copy.maxAttempts) :
    Counted service next := by
  constructor
  · intro id row found
    rw [counts]
    exact counted.count id row (table ▸ found)
  · intro id missing
    rw [counts]
    exact counted.absent id (table ▸ missing)
  · rw [table]
    exact counted.within
  · rw [table]
    exact counted.waiting
  · intro id row found leased spent
    rw [table] at found
    obtain ⟨worker, locked, hand⟩ := counted.held id row found leased spent
    exact ⟨worker, locked, hands worker id row found leased locked spent hand⟩
  · rw [table]
    exact copies

theorem leaseCount_load (worker id other : String) (recovering : Bool) :
    leaseCount other (state.load worker id recovering).log = leaseCount other state.log := by
  rcases load_cases state worker id recovering with ended | ⟨row, -, -, -, loaded⟩
  · rw [ended, setSession_log]
  · rw [loaded, record_log, setSession_log, leaseCount]

theorem load_table (worker id : String) (recovering : Bool) :
    (state.load worker id recovering).table = state.table := by
  rcases load_cases state worker id recovering with ended | ⟨row, -, -, -, loaded⟩
  · rw [ended, setSession_table]
  · rw [loaded, record_table, setSession_table]

theorem load_hand {holder other : String} {row : QueueRow} (found : state.table.find other = some row)
    (leased : row.status = .leased) (locked : row.lockedBy = some holder)
    (hand : state.InHand holder other ∨ (holder = worker ∧ other = id))
    (alone : ∀ session, state.session worker = some session → session.copy.id = id) :
    (state.load worker id recovering).InHand holder other := by
  unfold load
  by_cases target : holder = worker ∧ other = id
  · obtain ⟨rfl, rfl⟩ := target
    rw [found]
    dsimp only
    rw [if_neg (by simp [leased, locked])]
    refine .inr ⟨⟨row, recovering⟩, ?_, Table.find_key found⟩
    rw [record_session, setSession_session, if_pos rfl]
  · have before := hand.resolve_right target
    have sessions : ∀ session, state.session holder = some session → session.copy.id = other →
        holder ≠ worker := by
      rintro session open' rfl rfl
      exact target ⟨rfl, alone session open'⟩
    rcases load_cases state worker id recovering with ended | ⟨fresh, -, -, -, loaded⟩
    · unfold load at ended
      rw [ended]
      rcases before with waiting | ⟨session, open', same⟩
      · exact .inl waiting
      · refine .inr ⟨session, ?_, same⟩
        rw [setSession_session, if_neg (sessions session open' same)]
        exact open'
    · unfold load at loaded
      rw [loaded]
      rcases before with waiting | ⟨session, open', same⟩
      · exact .inl waiting
      · refine .inr ⟨session, ?_, same⟩
        rw [record_session, setSession_session, if_neg (sessions session open' same)]
        exact open'

theorem load_copies (copies : ∀ worker session, state.session worker = some session → ∃ row,
      state.table.find session.copy.id = some row ∧ row.maxAttempts = session.copy.maxAttempts) (other : String)
    (session : Session) (open' : (state.load worker id recovering).session other = some session) :
    ∃ row, state.table.find session.copy.id = some row ∧ row.maxAttempts = session.copy.maxAttempts := by
  rcases load_cases state worker id recovering with ended | ⟨row, found, -, -, loaded⟩
  · rw [ended, setSession_session] at open'
    split at open'
    · cases open'
    · exact copies other session open'
  · rw [loaded, record_session, setSession_session] at open'
    split at open'
    · cases open'
      exact ⟨row, (Table.find_key found).symm ▸ found, rfl⟩
    · exact copies other session open'

theorem Counted.start (counted : Counted service state) {rest : List String}
    (waiting : state.todo worker = id :: rest) (free : state.session worker = none) :
    Counted service ((state.setTodo worker rest).load worker id false) := by
  refine counted.rehand (load_table worker id false) (fun other => leaseCount_load worker id other false)
    ?_ (load_copies counted.copies)
  intro holder other row found leased locked spent hand
  refine load_hand found leased locked ?_ (by simp [free])
  rcases hand with queued | ⟨session, open', same⟩
  · by_cases own : holder = worker
    · subst own
      rw [waiting, List.mem_cons] at queued
      rcases queued with rfl | later
      · exact .inr ⟨rfl, rfl⟩
      · exact .inl (.inl (by simpa [setTodo] using later))
    · exact .inl (.inl (by simpa [setTodo, own] using queued))
  · exact .inl (.inr ⟨session, open', same⟩)

theorem Counted.recover (counted : Counted service state) {copy : QueueRow}
    (held : state.session worker = some ⟨copy, false⟩) : Counted service (state.load worker copy.id true) := by
  refine counted.rehand (load_table worker copy.id true)
    (fun other => leaseCount_load worker copy.id other true) ?_ (load_copies counted.copies)
  intro holder other row found leased locked spent hand
  refine load_hand found leased locked (.inl hand) ?_
  intro session open'
  cases held.symm.trans open'
  rfl

theorem Counted.crash (counted : Counted service state) (careful : Careful service state (.crash worker)) :
    Counted service ((state.setTodo worker []).setSession worker none) := by
  refine counted.rehand rfl (fun _ => rfl) ?_ ?_
  · intro holder id row found leased locked spent hand
    have other : holder ≠ worker := by
      rintro rfl
      exact careful id hand row found locked spent
    simpa [InHand, setTodo, setSession, other] using hand
  · intro other session open'
    rw [setSession_session] at open'
    split at open'
    · cases open'
    · exact counted.copies other session open'

theorem Counted.finish (counted : Counted service state) {copy updated : QueueRow}
    (held : state.session worker = some ⟨copy, recovering⟩) (leased : copy.status = .leased)
    (ended : updated.status ≠ .leased) (retried : ∀ row, state.table.find copy.id = some row →
      updated.status = .fresh ∨ updated.status = .retry → ¬ Spent service row) :
    Counted service (state.finish worker copy updated) := by
  obtain ⟨current, found, limits⟩ := counted.copies worker _ held
  have key : current.id = copy.id := Table.find_key found
  have finished : state.finish worker copy updated =
      (({ state with table := state.table.replace (flush copy updated current) } : QueueState).setSession
        worker none).record (.finished worker copy.id (state.holder copy.id)) := by
    unfold QueueState.finish
    rw [found]
  have status : (flush copy updated current).status = updated.status := by
    simp [flush, flushColumn, leased, ended]
  have cases' : ∀ {id : String} {row : QueueRow},
      (state.table.replace (flush copy updated current)).find id = some row →
      (id = copy.id ∧ row = flush copy updated current) ∨
        (id ≠ copy.id ∧ state.table.find id = some row) := by
    intro id row present
    have key' : (flush copy updated current).id = copy.id := key
    rw [Table.find_replace, key'] at present
    by_cases same : id = copy.id
    · subst same
      rw [if_pos rfl, found, Option.map_some, Option.some.injEq] at present
      exact .inl ⟨rfl, present.symm⟩
    · rw [if_neg same] at present
      exact .inr ⟨same, present⟩
  rw [finished]
  constructor
  · intro id row present
    rcases cases' present with ⟨rfl, rfl⟩ | ⟨-, old⟩
    · exact counted.count copy.id current found
    · exact counted.count id row old
  · intro id missing
    simp only [record_table, setSession_table, Table.find_replace] at missing
    refine counted.absent id ?_
    split at missing
    · exact Option.map_eq_none_iff.mp missing
    · exact missing
  · intro id row present
    rcases cases' present with ⟨rfl, rfl⟩ | ⟨-, old⟩
    · exact counted.within copy.id current found
    · exact counted.within id row old
  · intro id row present waiting
    rcases cases' present with ⟨rfl, rfl⟩ | ⟨-, old⟩
    · exact retried current found (by simpa only [status] using waiting)
    · exact counted.waiting id row old waiting
  · intro id row present leased' spent
    rcases cases' present with ⟨rfl, rfl⟩ | ⟨different, old⟩
    · exact absurd (status.symm.trans leased') ended
    · obtain ⟨holder, locked, hand⟩ := counted.held id row old leased' spent
      refine ⟨holder, locked, ?_⟩
      rcases hand with queued | ⟨session, open', same⟩
      · exact .inl queued
      · have other : holder ≠ worker := by
          rintro rfl
          cases held.symm.trans open'
          exact different same.symm
        refine .inr ⟨session, ?_, same⟩
        rw [record_session, setSession_session, if_neg other]
        exact open'
  · intro other session open'
    rw [record_session, setSession_session] at open'
    split at open'
    · cases open'
    · obtain ⟨row, old, same⟩ := counted.copies other session open'
      simp only [record_table, setSession_table, Table.find_replace, old]
      split
      · next target =>
        have rows : row = current := by
          rw [target, show (flush copy updated current).id = copy.id from key, found] at old
          exact (Option.some.inj old).symm
        exact ⟨_, rfl, rows ▸ same⟩
      · exact ⟨row, rfl, same⟩

theorem Counted.step (counted : Counted service state) {action : Action} (careful : Careful service state action)
    (moved : state.step service action = some next) : Counted service next := by
  cases step_effect moved with
  | enqueued insertable => exact counted.enqueue insertable
  | leased idle free => exact counted.leaseBatch idle free careful
  | started waiting free => exact counted.start waiting free
  | completed held leased locked =>
    exact counted.finish held leased (by simp [QueueService.completed])
      (by simp [QueueService.completed])
  | @failed worker now error retryAfterSeconds permanent copy recovering held leased locked calls =>
    refine counted.finish held leased (QueueService.failed_status _ _ _ _ _) ?_
    intro row found waiting spent
    -- only a call that is not permanent and finds attempts left puts a row back
    by_cases last : permanent = true ∨ service.limit copy.maxAttempts ≤ copy.attempts
    · simp [QueueService.failed, last] at waiting
    · simp only [not_or, Bool.not_eq_true] at last
      obtain ⟨rfl, unspent⟩ := last
      exact unspent (careful ⟨copy, recovering⟩ held row found spent)
  | refused => exact counted
  | recovered held => exact counted.recover held
  | crashed => exact counted.crash careful

/-- In every run that loses no worker, overtakes no worker and misreads no counter on a last
attempt, the attempts of every row are bounded, and a row that has used them up is finished. -/
theorem attempts_bounded (service : QueueService) {actions : List Action} {final : QueueState}
    (run : Runs (QueueState.step service) (Careful service) .empty actions final) :
    Bounded service final := by
  have counted : Counted service final := by
    refine run.invariant ?_ fun state action next holds careful moved => holds.step careful moved
    constructor <;> intros <;> first | rfl | contradiction
  exact counted.bounded

def singleAttempt : QueueRow := { id := "row-1", maxAttempts := 1, availableAt := 0, createdAt := 0 }

def firstAttempt : List Action :=
  [.enqueue singleAttempt, .lease "a" 0 20 180 [], .start "a", .complete "a" Time.second {}]

theorem firstAttempt_bounded : ∃ final,
    Runs (QueueState.step .jobs) (Careful .jobs) .empty firstAttempt final ∧ Bounded .jobs final := by
  have unlocked : Careful .jobs { QueueState.empty with table := Table.empty.insert singleAttempt }
      (.lease "a" 0 20 180 []) := by
    intro id taken row found holder locked
    simp only [Table.find_insert] at found
    split at found
    · cases found
      cases locked
    · cases found
  have run : Runs (QueueState.step .jobs) (Careful .jobs) .empty firstAttempt _ :=
    .cons trivial rfl (.cons unlocked rfl (.cons trivial rfl (.cons trivial rfl (.nil _))))
  exact ⟨_, run, attempts_bounded .jobs run⟩

def crashes : List Action :=
  .enqueue singleAttempt :: (List.range 11).flatMap fun (number : Nat) =>
    [.lease ("worker-" ++ toString number) (number * 1000 * Time.second) 20 180 [],
      .crash ("worker-" ++ toString number)]

theorem crashes_count : ∀ service ∈ [QueueService.jobs, .events, .deliveries],
    (crashes.foldlM (QueueState.step service) .empty).map (fun final =>
      (final.table.rows.map fun row => (row.id, row.maxAttempts, row.status),
        leaseCount "row-1" final.log)) = some ([("row-1", 1, .leased)], 11) := by
  intro service member
  simp only [List.mem_cons, List.not_mem_nil, or_false] at member
  rcases member with rfl | rfl | rfl <;> decide +kernel

theorem crashes_not_bounded (service : QueueService) (member : service ∈ [QueueService.jobs, .events, .deliveries]) :
    ∃ final, Runs (QueueState.step service) (fun _ _ => True) .empty crashes final ∧
      ¬ Bounded service final := by
  obtain ⟨final, evaluated, counts⟩ := Option.map_eq_some_iff.mp (crashes_count service member)
  simp only [Prod.mk.injEq] at counts
  refine ⟨final, .of_foldlM evaluated, fun bounded => ?_⟩
  have held : ∃ row ∈ final.table.rows, (row.id, row.maxAttempts, row.status) = ("row-1", 1, .leased) := by
    rw [← List.mem_map, counts.1]
    simp
  obtain ⟨row, present, columns⟩ := held
  simp only [Prod.mk.injEq] at columns
  have few := bounded.leases row present
  rw [columns.1, columns.2.1, counts.2] at few
  simp only [List.mem_cons, List.not_mem_nil, or_false] at member
  rcases member with rfl | rfl | rfl <;> revert few <;> decide

theorem attempts_not_bounded :
    (∃ final, Runs (QueueState.step .jobs) (fun _ _ => True) .empty crashes final ∧
      ¬ Bounded .jobs final) ∧
    (∃ final, Runs (QueueState.step .events) (fun _ _ => True) .empty crashes final ∧
      ¬ Bounded .events final) ∧
    (∃ final, Runs (QueueState.step .deliveries) (fun _ _ => True) .empty crashes final ∧
      ¬ Bounded .deliveries final) :=
  ⟨crashes_not_bounded .jobs (by simp), crashes_not_bounded .events (by simp),
    crashes_not_bounded .deliveries (by simp)⟩

end QueueState

end Operly.Platform
