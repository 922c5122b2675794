import Operly.Concurrent.Program
import Operly.Platform.Metering

/-! The calls of `ResourceBudgetService` on the rows of its tables: a bucket is created when it is
first used, also by a consumption that goes on to raise. -/

namespace Operly.Platform
open Python Concurrent Usage

structure Rows where
  budgets : List Budget := []
  bucket : Bucket → Option Int := fun _ => none
  ledger : List LedgerEntry := []

namespace Rows

def usage (rows : Rows) : Usage where
  budgets := rows.budgets
  quantity bucket := (rows.bucket bucket).getD 0
  ledger := rows.ledger

def setBucket (rows : Rows) (bucket : Bucket) (quantity : Int) : Rows :=
  { rows with bucket := Function.update rows.bucket bucket (some quantity) }

def lockedBucket (rows : Rows) (bucket : Bucket) : Int × Rows :=
  match rows.bucket bucket with
  | some quantity => (quantity, rows)
  | none => (0, rows.setBucket bucket 0)

def configure (rows : Rows) (meter : Meter) (windowSeconds hardLimit : Int) (softLimit : Option Int) :
    Except UsageError Unit × Rows :=
  match rows.usage.configure meter windowSeconds hardLimit softLimit with
  | .ok after => (.ok (), { rows with budgets := after.budgets })
  | .error error => (.error error, rows)

def resolve (meter : Meter) (quantity now : Int) :
    List (Option Budget × Int) → Rows → Except UsageError (List Resolved) × Rows
  | [], rows => (.ok [], rows)
  | (budget, windowSeconds) :: rest, rows =>
      let bucket := bucketAt meter now windowSeconds
      let (held, rows) := rows.lockedBucket bucket
      let projected := held + quantity
      match budget.filter fun budget => budget.hardLimit < projected with
      | some exhausted => (.error (.budgetExceeded (exceededMessage meter exhausted projected)), rows)
      | none =>
          let (later, rows) := resolve meter quantity now rest rows
          (later.map (⟨budget, bucket, projected⟩ :: ·), rows)

def charge (rows : Rows) (resolved : List Resolved) (entry : LedgerEntry) : Rows :=
  let written := resolved.foldl (fun rows row => rows.setBucket row.bucket row.projected) rows
  { written with ledger := written.ledger ++ [entry] }

def consume (rows : Rows) (entry : LedgerEntry) : Except UsageError BudgetConsumption × Rows :=
  if entry.quantity ≤ 0 then (.error (.value "usage quantity must be positive"), rows)
  else
    match resolve entry.meter entry.quantity entry.recordedAt (rows.usage.windows entry.meter) rows with
    | (.error error, rows) => (.error error, rows)
    | (.ok [], rows) => (.error (.lookup "list index out of range"), rows.charge [] entry)
    | (.ok (first :: rest), rows) =>
        (.ok (consumptionOf entry.meter entry.quantity first), rows.charge (first :: rest) entry)

/-! ### The rows agree with the tables that they stand for -/

section Agree
variable {rows : Rows} {entry : LedgerEntry}

theorem usage_setBucket (bucket : Bucket) (quantity : Int) :
    (rows.setBucket bucket quantity).usage =
      { rows.usage with quantity := Function.update rows.usage.quantity bucket quantity } := by
  unfold usage setBucket
  congr 1
  funext other
  by_cases same : other = bucket
  · subst same
    simp
  · simp [Function.update_of_ne same]

theorem lockedBucket_usage (rows : Rows) (bucket : Bucket) :
    (rows.lockedBucket bucket).1 = rows.usage.quantity bucket ∧
      (rows.lockedBucket bucket).2.usage = rows.usage := by
  unfold lockedBucket
  cases present : rows.bucket bucket with
  | some quantity => simp [usage, present]
  | none =>
    have empty : rows.usage.quantity bucket = 0 := by simp [usage, present]
    refine ⟨empty.symm, ?_⟩
    rw [usage_setBucket, ← empty, Function.update_eq_self]

theorem resolve_usage (meter : Meter) (quantity now : Int) (windows : List (Option Budget × Int)) (rows : Rows) :
    (resolve meter quantity now windows rows).1 = rows.usage.resolve meter quantity now windows ∧
      (resolve meter quantity now windows rows).2.usage = rows.usage := by
  induction windows generalizing rows with
  | nil => exact ⟨rfl, rfl⟩
  | cons window rest ih =>
    obtain ⟨budget, windowSeconds⟩ := window
    obtain ⟨held, kept⟩ := rows.lockedBucket_usage (bucketAt meter now windowSeconds)
    obtain ⟨later, untouched⟩ := ih (rows.lockedBucket (bucketAt meter now windowSeconds)).2
    simp only [resolve, Usage.resolve, held]
    cases budget.filter fun budget =>
        budget.hardLimit < rows.usage.quantity (bucketAt meter now windowSeconds) + quantity with
    | some exhausted => exact ⟨rfl, kept⟩
    | none =>
      refine ⟨?_, untouched.trans kept⟩
      simp only [later, kept]

theorem charge_usage (resolved : List Resolved) (rows : Rows) :
    (rows.charge resolved entry).usage = rows.usage.charge resolved entry := by
  induction resolved generalizing rows with
  | nil => rfl
  | cons first rest ih =>
    have later := ih (rows.setBucket first.bucket first.projected)
    rw [usage_setBucket] at later
    exact later

theorem consume_usage (rows : Rows) (entry : LedgerEntry) :
    (∃ consumption after, rows.consume entry = (.ok consumption, after) ∧
      rows.usage.consume entry = .ok (consumption, after.usage)) ∨
    (∃ error after, rows.consume entry = (.error error, after) ∧
      rows.usage.consume entry = .error error ∧ after.usage = rows.usage) := by
  unfold consume Usage.consume
  by_cases idle : entry.quantity ≤ 0
  · right
    simp only [if_pos idle]
    exact ⟨_, _, rfl, rfl, rfl⟩
  simp only [if_neg idle]
  obtain ⟨walked, kept⟩ := resolve_usage entry.meter entry.quantity entry.recordedAt
    (rows.usage.windows entry.meter) rows
  cases loop : resolve entry.meter entry.quantity entry.recordedAt (rows.usage.windows entry.meter) rows with
  | mk result middle =>
    rw [loop] at walked kept
    cases result with
    | error error =>
      right
      rw [← walked]
      exact ⟨error, middle, rfl, rfl, kept⟩
    | ok resolved =>
      have counted := (resolve_eq_ok.mp walked.symm).2
      cases resolved with
      | nil => exact absurd (List.map_eq_nil_iff.mp counted.symm) windows_ne_nil
      | cons first rest =>
        left
        rw [← walked]
        refine ⟨_, _, rfl, ?_⟩
        rw [charge_usage, ← show middle.usage = rows.usage from kept]
        rfl

theorem consume_ok {consumption : BudgetConsumption} {after : Rows}
    (returned : rows.consume entry = (.ok consumption, after)) : rows.usage.Consumes entry after.usage := by
  rcases consume_usage rows entry with ⟨_, _, same, consumed⟩ | ⟨_, _, raised, -⟩
  · rw [returned] at same
    cases same
    exact Usage.consume_ok consumed
  · rw [returned] at raised
    cases raised

/-- Between two states of the tables, nothing but empty buckets has been added. -/
structure Created (rows after : Rows) : Prop where
  ledger : after.ledger = rows.ledger
  bucket : ∀ bucket, after.bucket bucket = rows.bucket bucket ∨
    rows.bucket bucket = none ∧ after.bucket bucket = some 0

theorem Created.refl (rows : Rows) : rows.Created rows := ⟨rfl, fun _ => .inl rfl⟩

theorem Created.trans {middle after : Rows} (first : rows.Created middle) (second : middle.Created after) :
    rows.Created after := by
  refine ⟨second.ledger.trans first.ledger, fun bucket => ?_⟩
  rcases second.bucket bucket with same | ⟨absent, empty⟩
  · rw [same]
    exact first.bucket bucket
  · rcases first.bucket bucket with same | ⟨_, present⟩
    · exact .inr ⟨same.symm.trans absent, empty⟩
    · rw [absent] at present
      cases present

theorem lockedBucket_created (rows : Rows) (bucket : Bucket) : rows.Created (rows.lockedBucket bucket).2 := by
  unfold lockedBucket
  cases present : rows.bucket bucket with
  | some quantity => exact .refl rows
  | none =>
    refine ⟨rfl, fun other => ?_⟩
    by_cases same : other = bucket
    · subst same
      exact .inr ⟨present, Function.update_self ..⟩
    · exact .inl (Function.update_of_ne same ..)

theorem resolve_created (meter : Meter) (quantity now : Int) (windows : List (Option Budget × Int))
    (rows : Rows) : rows.Created (resolve meter quantity now windows rows).2 := by
  induction windows generalizing rows with
  | nil => exact .refl rows
  | cons window rest ih =>
    obtain ⟨budget, windowSeconds⟩ := window
    have first := rows.lockedBucket_created (bucketAt meter now windowSeconds)
    unfold resolve
    dsimp only
    split
    · exact first
    · exact first.trans (ih _)

theorem consume_exceeded {message : String} {after : Rows}
    (raised : rows.consume entry = (.error (.budgetExceeded message), after)) : rows.Created after := by
  have created := resolve_created entry.meter entry.quantity entry.recordedAt
    (rows.usage.windows entry.meter) rows
  unfold consume at raised
  by_cases idle : entry.quantity ≤ 0
  · rw [if_pos idle] at raised
    cases raised
  rw [if_neg idle] at raised
  split at raised
  · next loop =>
    rw [loop] at created
    cases raised
    exact created
  · cases raised
  · cases raised

end Agree

/-! ### Runs of calls -/

/-- A call that raises leaves the session to its caller, with what it has done so far. -/
def apply (rows : Rows) : TableMove → Rows
  | .configure meter windowSeconds hardLimit softLimit =>
      (rows.configure meter windowSeconds hardLimit softLimit).2
  | .consume entry => (rows.consume entry).2

def step (rows : Rows) (call : TableMove) : Option Rows := some (rows.apply call)

theorem apply_usage (rows : Rows) (call : TableMove) : (rows.apply call).usage = rows.usage.apply call := by
  cases call with
  | configure meter windowSeconds hardLimit softLimit =>
    cases configured : rows.usage.configure meter windowSeconds hardLimit softLimit with
    | error error => simp only [apply, configure, Usage.apply, configured]
    | ok after =>
      obtain ⟨ledger, quantity⟩ := Usage.configure_ok configured
      simp only [apply, configure, Usage.apply, configured]
      obtain ⟨budgets, _, _⟩ := after
      cases ledger
      cases quantity
      rfl
  | consume entry =>
    rcases consume_usage rows entry with ⟨_, _, returned, consumed⟩ | ⟨_, _, raised, failed, kept⟩
    · simp only [apply, Usage.apply, returned, consumed]
    · simp only [apply, Usage.apply, raised, failed, kept]

/-- The bucket of a window holds what the ledger has for it, within the limit. -/
structure Exact (bucket : Bucket) (hardLimit : Nat) (usage : Usage) : Prop where
  counted : usage.quantity bucket = spent usage.ledger bucket
  limited : usage.quantity bucket ≤ hardLimit

theorem Exact.apply {bucket : Bucket} {hardLimit : Nat} {usage : Usage} {call : TableMove}
    (agrees : Exact bucket hardLimit usage) (governed : call.Governed bucket hardLimit usage) :
    Exact bucket hardLimit (usage.apply call) := by
  have counted := agrees.counted
  have limited := agrees.limited
  cases usage.apply_applied call with
  | kept ledger quantity =>
    constructor
    · rw [quantity, ledger, counted]
    · rwa [quantity]
  | consumed entry moved consumes =>
    subst moved
    obtain ⟨grown, bounded⟩ := consumes.bucket_grown governed
    have total : spent (usage.apply (.consume entry)).ledger bucket =
        spent usage.ledger bucket + spent [entry] bucket := by
      rw [consumes.ledger, spent_append]
    constructor <;> omega

/-- A window that one limit governs throughout: whenever something is consumed in it. -/
def Throughout (bucket : Bucket) (hardLimit : Nat) (rows : Rows) (call : TableMove) : Prop :=
  call.Governed bucket hardLimit rows.usage

theorem exact_throughout {calls : List TableMove} {rows : Rows} {bucket : Bucket} {hardLimit : Nat}
    (run : Runs step (Throughout bucket hardLimit) {} calls rows) : Exact bucket hardLimit rows.usage := by
  have kept : ∀ rows call next, Exact bucket hardLimit (usage rows) → Throughout bucket hardLimit rows call →
      step rows call = some next → Exact bucket hardLimit next.usage := by
    intro rows call next agrees governed moved
    cases moved
    rw [apply_usage]
    exact agrees.apply governed
  refine run.invariant ?_ kept
  exact ⟨rfl, Int.natCast_nonneg hardLimit⟩

/-- A consumption that exceeds a budget adds at most empty buckets. One that returns adds its
quantity to the ledger, to the bucket of every enabled budget and, apart from the hour of a meter
that has no budget, to no other. After any calls, the bucket of a window that one limit governs
throughout holds what the ledger has for it, within the limit. -/
theorem calls_accounted :
    (∀ (rows : Rows) entry message after, rows.consume entry = (.error (.budgetExceeded message), after) →
      rows.Created after) ∧
    (∀ (rows : Rows) entry consumption after, rows.consume entry = (.ok consumption, after) →
      after.ledger = rows.ledger ++ [entry] ∧
      (∀ budget ∈ rows.usage.enabledBudgets entry.meter,
        bucketAt entry.meter entry.recordedAt budget.windowSeconds ∈ rows.usage.buckets entry) ∧
      ∀ bucket, after.usage.quantity bucket =
        if bucket ∈ rows.usage.buckets entry then rows.usage.quantity bucket + entry.quantity
        else rows.usage.quantity bucket) ∧
    ∀ calls rows bucket hardLimit, Runs step (Throughout bucket hardLimit) {} calls rows →
      rows.usage.quantity bucket = spent rows.ledger bucket ∧ rows.usage.quantity bucket ≤ hardLimit := by
  refine ⟨?_, ?_, ?_⟩
  · intro rows entry message after raised
    exact consume_exceeded raised
  · intro rows entry consumption after returned
    have consumes := consume_ok returned
    exact ⟨consumes.ledger, fun budget enabled => mem_buckets_of_enabled enabled, consumes.quantity⟩
  · intro calls rows bucket hardLimit governed
    have agrees := exact_throughout governed
    exact ⟨agrees.counted, agrees.limited⟩

/-! An hour that allows five, of which three are consumed. -/

def meteredCalls : Meter := ⟨"tenant", "user", "ada", "llm.tokens"⟩

def threeOfFive : List TableMove :=
  [.configure meteredCalls 3600 5 none,
    .consume ⟨meteredCalls, 3, none, none, unixEpoch⟩,
    .consume ⟨meteredCalls, 3, none, none, unixEpoch + 1⟩]

def governedCall (rows : Rows) (call : TableMove) : Bool :=
  match call with
  | .configure .. => true
  | .consume entry => rows.usage.Governed (bucketAt entry.meter entry.recordedAt 3600) 5

theorem governedCall_sound (rows : Rows) (call : TableMove) (checked : governedCall rows call = true) :
    Throughout (bucketAt meteredCalls unixEpoch 3600) 5 rows call := by
  cases call with
  | configure => trivial
  | consume entry =>
    intro inside
    rw [← inside]
    exact of_decide_eq_true checked

theorem threeOfFive_ledger : (threeOfFive.foldlM (fun rows call =>
    if governedCall rows call then step rows call else none) {}).map (fun rows => rows.ledger.length) =
      some 1 := by
  decide

theorem calls_accounted_hour : ∃ rows, Runs step (Throughout (bucketAt meteredCalls unixEpoch 3600) 5) {}
    threeOfFive rows ∧ rows.ledger.length = 1 ∧
    rows.usage.quantity (bucketAt meteredCalls unixEpoch 3600) =
      spent rows.ledger (bucketAt meteredCalls unixEpoch 3600) ∧
    rows.usage.quantity (bucketAt meteredCalls unixEpoch 3600) ≤ (5 : Nat) := by
  obtain ⟨rows, evaluated, ledger⟩ := Option.map_eq_some_iff.mp threeOfFive_ledger
  have run := Runs.of_checked governedCall_sound evaluated
  exact ⟨rows, run, ledger, calls_accounted.2.2 _ _ _ _ run⟩

end Rows

end Operly.Platform
