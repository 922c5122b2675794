import Mathlib.Algebra.Ring.Int.Defs
import Mathlib.Data.List.Sort
import Operly.Python.Datetime
import Operly.Python.Exceptions

/-! `ResourceBudgetService`: the budgets of digital workloads, the buckets of their windows and the
usage ledger. -/

namespace Operly.Platform
open Python

structure Meter where
  tenantId : String
  subjectKind : String
  subjectId : String
  metric : String
  deriving DecidableEq

/-- A row of the budgets. `configure` writes no other. -/
structure Budget where
  meter : Meter
  windowSeconds : Int
  hardLimit : Int
  softLimit : Option Int
  enabled : Bool
  window_range : 60 ≤ windowSeconds ∧ windowSeconds ≤ 31 * 24 * 60 * 60
  hard_nonneg : 0 ≤ hardLimit
  soft_range : ∀ soft, softLimit = some soft → 0 ≤ soft ∧ soft ≤ hardLimit

structure Bucket where
  meter : Meter
  windowSeconds : Int
  windowStart : Int
  deriving DecidableEq

structure LedgerEntry where
  meter : Meter
  quantity : Int
  referenceKind : Option String
  referenceId : Option String
  recordedAt : Int
  deriving DecidableEq

/-- The tables of the service. A bucket that has no row reads as one that holds zero. -/
structure Usage where
  budgets : List Budget := []
  quantity : Bucket → Int := fun _ => 0
  ledger : List LedgerEntry := []

inductive UsageError where
  | value (message : String)
  | lookup (message : String)
  | budgetExceeded (message : String)
  deriving DecidableEq

def unixEpoch : Int := 719162 * Time.day

/-- `_window_start`, on a host that keeps UTC -/
def windowStart (now windowSeconds : Int) : Int :=
  let epoch := (now - unixEpoch).tdiv Time.second
  unixEpoch + (epoch - epoch % windowSeconds) * Time.second

def bucketAt (meter : Meter) (now windowSeconds : Int) : Bucket :=
  ⟨meter, windowSeconds, windowStart now windowSeconds⟩

namespace Usage

def configure (usage : Usage) (meter : Meter) (windowSeconds hardLimit : Int) (softLimit : Option Int) :
    Except UsageError Usage :=
  let window := max 60 (min windowSeconds (31 * 24 * 60 * 60))
  if negative : hardLimit < 0 then .error (.value "hard_limit cannot be negative")
  else if outside : ∃ soft ∈ softLimit, soft < 0 ∨ hardLimit < soft then
    .error (.value "soft_limit must be between zero and hard_limit")
  else
    let row : Budget :=
      { meter, windowSeconds := window, hardLimit, softLimit, enabled := true
        window_range := by omega
        hard_nonneg := by omega
        soft_range := by
          intro soft same
          by_contra wrong
          exact outside ⟨soft, same, by omega⟩ }
    .ok { usage with budgets :=
      if usage.budgets.any fun row => row.meter = meter && row.windowSeconds = window then
        usage.budgets.map fun old =>
          if old.meter = meter && old.windowSeconds = window then row else old
      else usage.budgets ++ [row] }

def enabledBudgets (usage : Usage) (meter : Meter) : List Budget :=
  (usage.budgets.filter fun row => row.meter = meter && row.enabled).insertionSort
    fun first second => first.windowSeconds ≤ second.windowSeconds

def windows (usage : Usage) (meter : Meter) : List (Option Budget × Int) :=
  match usage.enabledBudgets meter with
  | [] => [(none, 3600)]
  | budgets => budgets.map fun budget => (some budget, budget.windowSeconds)

/-- A window whose budget has room, and what its bucket is about to hold. -/
structure Resolved where
  budget : Option Budget
  bucket : Bucket
  projected : Int

def exceededMessage (meter : Meter) (budget : Budget) (projected : Int) : String :=
  s!"{meter.metric} budget exceeded for {meter.subjectKind}:{meter.subjectId}; " ++
    s!"{projected}>{budget.hardLimit} in {budget.windowSeconds}s"

def resolve (usage : Usage) (meter : Meter) (quantity now : Int) :
    List (Option Budget × Int) → Except UsageError (List Resolved)
  | [] => .ok []
  | (budget, windowSeconds) :: rest =>
      let bucket := bucketAt meter now windowSeconds
      let projected := usage.quantity bucket + quantity
      match budget.filter fun budget => budget.hardLimit < projected with
      | some exhausted => .error (.budgetExceeded (exceededMessage meter exhausted projected))
      | none => (usage.resolve meter quantity now rest).map (⟨budget, bucket, projected⟩ :: ·)

structure BudgetConsumption where
  metric : String
  quantity : Int
  used : Int
  hardLimit : Option Int
  softLimit : Option Int
  windowStart : Int
  windowSeconds : Int
  softLimitExceeded : Bool
  deriving DecidableEq

def consumptionOf (meter : Meter) (quantity : Int) (first : Resolved) : BudgetConsumption where
  metric := meter.metric
  quantity := quantity
  used := first.projected
  hardLimit := first.budget.map (·.hardLimit)
  softLimit := first.budget.bind (·.softLimit)
  windowStart := first.bucket.windowStart
  windowSeconds := first.bucket.windowSeconds
  softLimitExceeded := ((first.budget.bind (·.softLimit)).filter (· < first.projected)).isSome

def charge (usage : Usage) (resolved : List Resolved) (entry : LedgerEntry) : Usage where
  budgets := usage.budgets
  quantity := resolved.foldl (fun quantity row => Function.update quantity row.bucket row.projected)
    usage.quantity
  ledger := usage.ledger ++ [entry]

/-- `ResourceBudgetService.consume`, in the transaction of its caller. -/
def consume (usage : Usage) (entry : LedgerEntry) : Except UsageError (BudgetConsumption × Usage) :=
  if entry.quantity ≤ 0 then .error (.value "usage quantity must be positive")
  else do
    match ← usage.resolve entry.meter entry.quantity entry.recordedAt (usage.windows entry.meter) with
    | [] => .error (.lookup "list index out of range")
    | first :: rest =>
        .ok (consumptionOf entry.meter entry.quantity first, usage.charge (first :: rest) entry)

theorem configure_ok {usage next : Usage} {meter : Meter} {windowSeconds hardLimit : Int} {softLimit : Option Int}
    (configured : usage.configure meter windowSeconds hardLimit softLimit = .ok next) :
    next.ledger = usage.ledger ∧ next.quantity = usage.quantity := by
  unfold configure at configured
  dsimp only at configured
  split at configured
  · cases configured
  · split at configured
    · cases configured
    · cases configured
      exact ⟨rfl, rfl⟩

/-! ### What a consumption does -/

section Consume
variable {usage next : Usage} {meter : Meter} {entry : LedgerEntry} {consumption : BudgetConsumption}

theorem windows_ne_nil : usage.windows meter ≠ [] := by
  unfold windows
  split
  · simp
  · next budgets some => simpa using some

theorem mem_windows {budget : Budget} {windowSeconds : Int} :
    (some budget, windowSeconds) ∈ usage.windows meter ↔
      budget ∈ usage.enabledBudgets meter ∧ budget.windowSeconds = windowSeconds := by
  unfold windows
  split
  · next empty => simp [empty]
  · simp [List.mem_map]

def buckets (usage : Usage) (entry : LedgerEntry) : List Bucket :=
  (usage.windows entry.meter).map fun window => bucketAt entry.meter entry.recordedAt window.2

def Admits (usage : Usage) (entry : LedgerEntry) : Prop :=
  ∀ budget ∈ usage.enabledBudgets entry.meter,
    usage.quantity (bucketAt entry.meter entry.recordedAt budget.windowSeconds) + entry.quantity ≤
      budget.hardLimit

def resolvedAt (usage : Usage) (entry : LedgerEntry) (window : Option Budget × Int) : Resolved where
  budget := window.1
  bucket := bucketAt entry.meter entry.recordedAt window.2
  projected := usage.quantity (bucketAt entry.meter entry.recordedAt window.2) + entry.quantity

theorem resolve_eq_ok {windows : List (Option Budget × Int)} {resolved : List Resolved} :
    usage.resolve entry.meter entry.quantity entry.recordedAt windows = .ok resolved ↔
      (∀ window ∈ windows, ∀ budget ∈ window.1,
        (usage.resolvedAt entry window).projected ≤ budget.hardLimit) ∧
      resolved = windows.map (usage.resolvedAt entry) := by
  induction windows generalizing resolved with
  | nil => simp [resolve, eq_comm]
  | cons window rest ih =>
    obtain ⟨budget, windowSeconds⟩ := window
    unfold resolve
    dsimp only
    cases exhausted : budget.filter fun budget => budget.hardLimit <
        usage.quantity (bucketAt entry.meter entry.recordedAt windowSeconds) + entry.quantity with
    | some row =>
      obtain ⟨same, less⟩ := Option.filter_eq_some_iff.mp exhausted
      simp only [reduceCtorEq, List.mem_cons, forall_eq_or_imp, false_iff]
      rintro ⟨⟨room, -⟩, -⟩
      have fits := room row same
      simp only [resolvedAt, decide_eq_true_eq] at fits less
      omega
    | none =>
      have room : ∀ row ∈ budget, (usage.resolvedAt entry (budget, windowSeconds)).projected ≤
          row.hardLimit := by
        intro row same
        have fits := Option.filter_eq_none_iff.mp exhausted row same
        simp only [decide_eq_true_eq] at fits
        simp only [resolvedAt]
        omega
      cases later : usage.resolve entry.meter entry.quantity entry.recordedAt rest with
      | error error =>
        simp only [Except.map, reduceCtorEq, false_iff]
        rintro ⟨all, -⟩
        have settled := ih.mpr ⟨fun window member => all window (List.mem_cons_of_mem _ member), rfl⟩
        rw [later] at settled
        cases settled
      | ok resolved' =>
        obtain ⟨all, rfl⟩ := ih.mp later
        simp only [Except.map, Except.ok.injEq, List.map_cons, List.mem_cons, forall_eq_or_imp]
        constructor
        · intro same
          exact ⟨⟨room, all⟩, same.symm⟩
        · intro holds
          exact holds.2.symm

theorem charge_quantity (windows : List (Option Budget × Int)) (quantity : Bucket → Int) (bucket : Bucket) :
    (windows.map (usage.resolvedAt entry)).foldl
        (fun quantity row => Function.update quantity row.bucket row.projected) quantity bucket =
      if bucket ∈ windows.map (fun window => bucketAt entry.meter entry.recordedAt window.2) then
        usage.quantity bucket + entry.quantity
      else quantity bucket := by
  induction windows generalizing quantity with
  | nil => simp
  | cons window rest ih =>
    simp only [List.map_cons, List.foldl_cons, ih, List.mem_cons]
    by_cases later : bucket ∈ rest.map fun window => bucketAt entry.meter entry.recordedAt window.2
    · rw [if_pos later, if_pos (.inr later)]
    · rw [if_neg later]
      by_cases here : bucket = bucketAt entry.meter entry.recordedAt window.2
      · subst here
        rw [if_pos (.inl rfl)]
        exact Function.update_self ..
      · rw [if_neg (not_or.mpr ⟨here, later⟩)]
        exact Function.update_of_ne here ..

/-- A consumption that returns: every budget has room, each bucket of the meter has grown by the
quantity, and the ledger by one entry. -/
structure Consumes (usage : Usage) (entry : LedgerEntry) (next : Usage) : Prop where
  positive : 0 < entry.quantity
  admits : usage.Admits entry
  budgets : next.budgets = usage.budgets
  ledger : next.ledger = usage.ledger ++ [entry]
  quantity : ∀ bucket, next.quantity bucket =
    if bucket ∈ usage.buckets entry then usage.quantity bucket + entry.quantity
    else usage.quantity bucket

theorem admits_iff : usage.Admits entry ↔ ∀ window ∈ usage.windows entry.meter,
    ∀ budget ∈ window.1, (usage.resolvedAt entry window).projected ≤ budget.hardLimit := by
  constructor
  · rintro admits ⟨_, windowSeconds⟩ member budget rfl
    obtain ⟨enabled, rfl⟩ := mem_windows.mp member
    exact admits budget enabled
  · intro room budget enabled
    exact room (some budget, budget.windowSeconds) (mem_windows.mpr ⟨enabled, rfl⟩) budget rfl

theorem consume_ok (consumed : usage.consume entry = .ok (consumption, next)) : usage.Consumes entry next := by
  unfold consume at consumed
  by_cases idle : entry.quantity ≤ 0
  · rw [if_pos idle] at consumed
    cases consumed
  rw [if_neg idle] at consumed
  obtain ⟨resolved, walked, rest⟩ := bind_eq_ok.mp consumed
  obtain ⟨room, rfl⟩ := resolve_eq_ok.mp walked
  cases counted : (usage.windows entry.meter).map (usage.resolvedAt entry) with
  | nil =>
    rw [counted] at rest
    cases rest
  | cons first later =>
    rw [counted] at rest
    obtain ⟨-, rfl⟩ := Prod.mk.inj (Except.ok.inj rest)
    rw [← counted]
    exact ⟨by omega, admits_iff.mpr room, rfl, rfl, charge_quantity _ _⟩

theorem consume_of_admits (positive : 0 < entry.quantity) (admits : usage.Admits entry) :
    ∃ consumption next, usage.consume entry = .ok (consumption, next) := by
  have walked := resolve_eq_ok.mpr ⟨admits_iff.mp admits, rfl⟩
  unfold consume
  rw [if_neg (by omega), walked]
  cases counted : (usage.windows entry.meter).map (usage.resolvedAt entry) with
  | nil => exact absurd (List.map_eq_nil_iff.mp counted) windows_ne_nil
  | cons first later => exact ⟨_, _, rfl⟩

theorem mem_buckets {bucket : Bucket} (member : bucket ∈ usage.buckets entry) :
    bucket.meter = entry.meter ∧ bucket.windowStart = windowStart entry.recordedAt bucket.windowSeconds := by
  obtain ⟨window, -, rfl⟩ := List.mem_map.mp member
  exact ⟨rfl, rfl⟩

theorem mem_buckets_of_enabled {budget : Budget} (enabled : budget ∈ usage.enabledBudgets entry.meter) :
    bucketAt entry.meter entry.recordedAt budget.windowSeconds ∈ usage.buckets entry :=
  List.mem_map.mpr ⟨(some budget, budget.windowSeconds), mem_windows.mpr ⟨enabled, rfl⟩, rfl⟩

inductive Consumed : Usage → List LedgerEntry → Usage → Prop
  | nil (usage : Usage) : Consumed usage [] usage
  | cons {usage middle final : Usage} {entry : LedgerEntry} {rest : List LedgerEntry}
      (first : usage.Consumes entry middle) (later : Consumed middle rest final) :
      Consumed usage (entry :: rest) final

theorem Consumed.append {middle final : Usage} {early late : List LedgerEntry} (first : Consumed usage early middle)
    (second : Consumed middle late final) : Consumed usage (early ++ late) final := by
  induction first with
  | nil => exact second
  | cons head _ ih => exact .cons head (ih second)

theorem Consumed.ledger {final : Usage} {entries : List LedgerEntry} (consumed : Consumed usage entries final) :
    final.budgets = usage.budgets ∧ final.ledger = usage.ledger ++ entries := by
  induction consumed with
  | nil => simp
  | cons first _ ih =>
    constructor
    · rw [ih.1, first.budgets]
    · rw [ih.2, first.ledger, List.append_assoc, List.singleton_append]

theorem Consumed.positive {final : Usage} {entries : List LedgerEntry}
    (consumed : Consumed usage entries final) : ∀ entry ∈ entries, 0 < entry.quantity := by
  induction consumed with
  | nil => simp
  | cons first _ ih => exact List.forall_mem_cons.mpr ⟨first.positive, ih⟩

theorem Consumes.admits_other {other : LedgerEntry} (consumes : usage.Consumes entry next)
    (apart : other.meter ≠ entry.meter) : next.Admits other ↔ usage.Admits other := by
  have same : ∀ windowSeconds, next.quantity (bucketAt other.meter other.recordedAt windowSeconds) =
      usage.quantity (bucketAt other.meter other.recordedAt windowSeconds) := by
    intro windowSeconds
    rw [consumes.quantity, if_neg]
    intro member
    exact apart (mem_buckets member).1
  unfold Admits enabledBudgets
  simp only [consumes.budgets, same]

end Consume

/-! ### What is consumed in a window -/

def entriesIn (ledger : List LedgerEntry) (bucket : Bucket) : List LedgerEntry :=
  ledger.filter fun entry => bucketAt entry.meter entry.recordedAt bucket.windowSeconds = bucket

def spent (ledger : List LedgerEntry) (bucket : Bucket) : Int :=
  ((entriesIn ledger bucket).map (·.quantity)).sum

def Governed (usage : Usage) (bucket : Bucket) (hardLimit : Int) : Prop :=
  ∃ budget ∈ usage.enabledBudgets bucket.meter,
    budget.windowSeconds = bucket.windowSeconds ∧ budget.hardLimit = hardLimit

instance {usage : Usage} {bucket : Bucket} {hardLimit : Int} :
    Decidable (usage.Governed bucket hardLimit) :=
  inferInstanceAs (Decidable (∃ budget ∈ usage.enabledBudgets bucket.meter, _ ∧ _))

/-- What the ledger says was spent in a window is in its bucket, and within the limit. -/
structure Within (usage : Usage) (bucket : Bucket) (hardLimit : Int) : Prop where
  counted : spent usage.ledger bucket ≤ usage.quantity bucket
  limited : usage.quantity bucket ≤ hardLimit

section Within
variable {usage next : Usage} {bucket : Bucket} {entry : LedgerEntry} {hardLimit : Int}

@[simp] theorem spent_append (early late : List LedgerEntry) :
    spent (early ++ late) bucket = spent early bucket + spent late bucket := by
  simp [spent, entriesIn]

theorem length_le_spent {ledger : List LedgerEntry} (positive : ∀ entry ∈ ledger, 0 < entry.quantity) :
    ((entriesIn ledger bucket).length : Int) ≤ spent ledger bucket := by
  have each : ∀ entry ∈ entriesIn ledger bucket, 0 < entry.quantity :=
    fun entry member => positive entry (List.mem_of_mem_filter member)
  unfold spent
  generalize entriesIn ledger bucket = inside at each ⊢
  induction inside with
  | nil => simp
  | cons first rest ih =>
    obtain ⟨head, tail⟩ := List.forall_mem_cons.mp each
    have later := ih tail
    simp only [List.length_cons, List.map_cons, List.sum_cons]
    omega

theorem spent_singleton : spent [entry] bucket =
    if bucketAt entry.meter entry.recordedAt bucket.windowSeconds = bucket then entry.quantity else 0 := by
  by_cases inside : bucketAt entry.meter entry.recordedAt bucket.windowSeconds = bucket <;>
    simp [spent, entriesIn, inside]

theorem Consumes.bucket_grown (consumes : usage.Consumes entry next)
    (governed : bucketAt entry.meter entry.recordedAt bucket.windowSeconds = bucket →
      usage.Governed bucket hardLimit) :
    next.quantity bucket = usage.quantity bucket + spent [entry] bucket ∧
      (next.quantity bucket = usage.quantity bucket ∨ next.quantity bucket ≤ hardLimit) := by
  have grown := consumes.quantity bucket
  rw [spent_singleton]
  by_cases inside : bucketAt entry.meter entry.recordedAt bucket.windowSeconds = bucket
  · obtain ⟨budget, enabled, window, rfl⟩ := governed inside
    have meter : bucket.meter = entry.meter := congrArg Bucket.meter inside.symm
    rw [meter] at enabled
    have member := mem_buckets_of_enabled enabled
    have room := consumes.admits budget enabled
    rw [window, inside] at member room
    rw [if_pos member] at grown
    rw [if_pos inside]
    exact ⟨grown, .inr (by omega)⟩
  · have apart : bucket ∉ usage.buckets entry := by
      intro member
      obtain ⟨meter, start⟩ := mem_buckets member
      apply inside
      rw [← meter, bucketAt, ← start]
    rw [if_neg apart] at grown
    rw [if_neg inside]
    exact ⟨by omega, .inl grown⟩

theorem Within.consume (within : usage.Within bucket hardLimit) (consumes : usage.Consumes entry next)
    (governed : bucketAt entry.meter entry.recordedAt bucket.windowSeconds = bucket →
      usage.Governed bucket hardLimit) : next.Within bucket hardLimit := by
  have counted := within.counted
  have limited := within.limited
  have total : spent next.ledger bucket = spent usage.ledger bucket + spent [entry] bucket := by
    rw [consumes.ledger, spent_append]
  obtain ⟨grown, bounded⟩ := consumes.bucket_grown governed
  constructor <;> omega

theorem Governed.of_budgets (governed : usage.Governed bucket hardLimit)
    (same : next.budgets = usage.budgets) : next.Governed bucket hardLimit := by
  unfold Governed enabledBudgets at *
  rwa [same]

theorem Within.consumed {entries : List LedgerEntry} (within : usage.Within bucket hardLimit)
    (consumed : Consumed usage entries next)
    (governed : ∀ entry ∈ entries, bucketAt entry.meter entry.recordedAt bucket.windowSeconds = bucket →
      usage.Governed bucket hardLimit) : next.Within bucket hardLimit := by
  induction consumed with
  | nil => exact within
  | cons first _ ih =>
    apply ih (within.consume first (governed _ List.mem_cons_self))
    intro entry member inside
    exact (governed entry (List.mem_cons_of_mem _ member) inside).of_budgets first.budgets

end Within

end Usage

end Operly.Platform
