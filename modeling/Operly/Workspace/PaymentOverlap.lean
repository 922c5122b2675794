import Mathlib.Tactic.Linarith
import Operly.Workspace.Authority

/-! Payments of one invoice that are recorded side by side under READ COMMITTED. Each transaction sums the payments
that it can see and writes the status that they make; what others commit meanwhile it does not see. -/

namespace Operly.Workspace.PaymentOverlap
open Concurrent Relational Fallible

structure Payment where
  direction : String
  status : String
  amount : ℚ
  deriving DecidableEq

structure Invoice where
  status : String
  total : ℚ
  paidAt : Option Int
  deriving DecidableEq

/-- What is committed of the finance module of a workspace, of one invoice and of its payments. -/
structure Books where
  financeEnabled : Bool
  invoice : Option Invoice
  payments : List Payment
  deriving DecidableEq

def counted (payment : Payment) : Bool := payment.direction = "incoming" && payment.status = "completed"

/-- `coalesce(sum(amount), 0)` over the completed incoming payments -/
def received (payments : List Payment) : ℚ := ((payments.filter counted).map (·.amount)).sum

abbrev Amount := { amount : ℚ // 1 / 100 ≤ amount }

/-- `Payment(direction="incoming", status="completed", ...)` -/
def completed (amount : Amount) : Payment := ⟨"incoming", "completed", amount⟩

/-! ### The transaction -/

/-- The sum is taken after a flush, so that it counts the session's own payment. -/
inductive Query where
  | finance
  | invoice
  | received (own : Payment)

def queries : Interface where
  Op := Query
  Answer
    | .finance => Bool
    | .invoice => Option Invoice
    | .received _ => ℚ

/-- What a session has composed: its payment, and the invoice as loaded and as it is to be. -/
structure Recorded where
  payment : Payment
  loaded : Invoice
  seen : ℚ
  invoice : Invoice

def database : Database queries Recorded Books Unit where
  select
    | .finance, _, books => (books.financeEnabled, books)
    | .invoice, _, books => (books.invoice, books)
    | .received own, _, books => (received (books.payments ++ [own]), books)
  commit changes books := books.invoice.map fun now => { books with
    payments := books.payments ++ [changes.payment]
    invoice := some { now with
      status := written changes.loaded.status changes.invoice.status now.status
      paidAt := written changes.loaded.paidAt changes.invoice.paidAt now.paidAt } }

abbrev Session (α : Type) := Transaction queries Recorded CapabilityError α

def ask (query : Query) : Session (queries.Answer query) :=
  Transaction.select (show queries.Op from query)

structure Call where
  amount : Amount
  now : Int

def settled (now : Int) (invoice : Invoice) (paid : ℚ) : Invoice :=
  if 0 < invoice.total ∧ invoice.total ≤ paid then
    { invoice with status := "paid", paidAt := invoice.paidAt.or (some now) }
  else if 0 < paid then { invoice with status := "partial", paidAt := none }
  else if ["paid", "partial"].contains invoice.status then { invoice with status := "due", paidAt := none }
  else invoice

/-- `_record_payment`, with what it has composed -/
def payment (call : Call) : Session (String × Recorded) := do
  let enabled : Bool ← ask .finance
  if !enabled then
    raise (.permission "Finance module is disabled")
  let found : Option Invoice ← ask .invoice
  match found with
  | none => raise (.value "Invoice not found")
  | some invoice =>
      let own := completed call.amount
      let paid : ℚ ← ask (.received own)
      let now := settled call.now invoice paid
      return (now.status, ⟨own, invoice, paid, now⟩)

def recordPayment (call : Call) : Session String := Transaction.commits .database (payment call)

def main (_ : Nat) (call : Call) : Program (sessions queries Recorded) (Except CapabilityError String) :=
  (recordPayment call).run

inductive Stage where
  | unpaid
  | partly
  | paid
  deriving DecidableEq

def stage (total paid : ℚ) : Stage :=
  if 0 < total ∧ total ≤ paid then .paid else if 0 < paid ∧ paid < total then .partly else .unpaid

def Invoice.shows (invoice : Invoice) : Stage :=
  if invoice.status = "paid" then .paid else if invoice.status = "partial" then .partly else .unpaid

/-- An invoice is paid, with a time, when its positive total is reached, and partial when something less is paid. -/
structure Agrees (invoice : Invoice) (sum : ℚ) : Prop where
  paid : invoice.status = "paid" ↔ 0 < invoice.total ∧ invoice.total ≤ sum
  partly : invoice.status = "partial" ↔ 0 < sum ∧ sum < invoice.total
  paidAt : invoice.paidAt.isSome ↔ invoice.status = "paid"

def Books.Balanced (books : Books) : Prop :=
  ∀ invoice, books.invoice = some invoice → Agrees invoice (received books.payments)

/-- When a transaction commits, the payments that it has seen make the same stage as all that are committed by then
and its own do; or they make the stage that the invoice showed when it was loaded, so that nothing of it is written,
and its own payment does not change the stage that the others make. An invoice without a total must have had
nothing paid. -/
def Timely (changes : Recorded) (books : Books) : Prop :=
  let total := changes.loaded.total
  let before := received books.payments
  let after := before + changes.payment.amount
  (0 < total ∨ changes.seen ≤ 0) ∧
    (stage total changes.seen = stage total after ∨
      changes.loaded.shows = stage total changes.seen ∧ stage total before = stage total after)

instance (changes : Recorded) (books : Books) : Decidable (Timely changes books) := by
  unfold Timely
  infer_instance

/-! ### One commit -/

section Commit
variable {total first second : ℚ} {invoice : Invoice}

theorem stage_eq_paid : stage total first = .paid ↔ 0 < total ∧ total ≤ first := by
  unfold stage
  split
  · next reached => simp [reached]
  · next short =>
    split <;> simp [short]

theorem stage_eq_partly : stage total first = .partly ↔ 0 < first ∧ first < total := by
  unfold stage
  split
  · next reached =>
    exact iff_of_false (by decide) fun between => absurd between.2 (not_lt.mpr reached.2)
  · next short =>
    split
    · next between => simp [between]
    · next outside => simp [outside]

theorem agrees_iff {sum : ℚ} : Agrees invoice sum ↔
    invoice.shows = stage invoice.total sum ∧ (invoice.paidAt.isSome ↔ invoice.status = "paid") := by
  constructor
  · intro agrees
    refine ⟨?_, agrees.paidAt⟩
    unfold Invoice.shows
    split
    · next paid => exact (stage_eq_paid.mpr (agrees.paid.mp paid)).symm
    · next unpaid =>
      split
      · next partly => exact (stage_eq_partly.mpr (agrees.partly.mp partly)).symm
      · next other =>
        cases same : stage invoice.total sum with
        | unpaid => rfl
        | partly => exact absurd (agrees.partly.mpr (stage_eq_partly.mp same)) other
        | paid => exact absurd (agrees.paid.mpr (stage_eq_paid.mp same)) unpaid
  · intro known
    obtain ⟨shows, paidAt⟩ := known
    refine ⟨?_, ?_, paidAt⟩
    · rw [← stage_eq_paid, ← shows]
      unfold Invoice.shows
      split
      · next paid => simp [paid]
      · next unpaid =>
        split <;> simp [unpaid]
    · rw [← stage_eq_partly, ← shows]
      unfold Invoice.shows
      split
      · next paid => simp [paid]
      · split
        · next partly => simp [partly]
        · next other => simp [other]

def flushed (loaded composed now : Invoice) : Invoice :=
  { now with
    status := written loaded.status composed.status now.status
    paidAt := written loaded.paidAt composed.paidAt now.paidAt }

/-- What a transaction knows when it commits: the invoice agreed with the payments when it was loaded, and
since then no payment has gone. -/
structure Known (loaded : Invoice) (seen amount : ℚ) (now : Invoice) (sum : ℚ) : Prop where
  positive : 0 < amount
  total : loaded.total = now.total
  earlier : ∃ first second, first ≤ second ∧ second ≤ sum ∧ Agrees loaded first ∧ seen = second + amount

variable {loaded now : Invoice} {seen amount sum : ℚ} {clock : Int}

theorem flushed_paid (known : Known loaded seen amount now sum) (agrees : Agrees now sum)
    (reached : 0 < loaded.total ∧ loaded.total ≤ seen) :
    Agrees (flushed loaded (settled clock loaded seen) now) (sum + amount) := by
  obtain ⟨first, second, before, later, loadedAgrees, rfl⟩ := known.earlier
  have same := known.total
  have composed : settled clock loaded (second + amount) =
      { loaded with status := "paid", paidAt := loaded.paidAt.or (some clock) } := if_pos reached
  have positive : 0 < now.total := by linarith [reached.1]
  have enough : now.total ≤ sum + amount := by linarith [reached.2]
  -- a column that is left alone was right before
  have stillPaid : loaded.status = "paid" → now.status = "paid" := by
    intro paid
    have covered := loadedAgrees.paid.mp paid
    exact agrees.paid.mpr ⟨positive, by linarith [covered.2]⟩
  have status : (flushed loaded (settled clock loaded (second + amount)) now).status = "paid" := by
    rw [composed]
    show written loaded.status "paid" now.status = "paid"
    unfold written
    split
    · next left => exact stillPaid left.symm
    · rfl
  have paidAt : (flushed loaded (settled clock loaded (second + amount)) now).paidAt.isSome := by
    rw [composed]
    show (written loaded.paidAt (loaded.paidAt.or (some clock)) now.paidAt).isSome
    cases held : loaded.paidAt with
    | none =>
      rw [Option.none_or, written_of_ne (by simp)]
      rfl
    | some time =>
      rw [Option.some_or, written_same]
      exact agrees.paidAt.mpr (stillPaid (loadedAgrees.paidAt.mp (by rw [held]; rfl)))
  refine ⟨?_, ?_, ?_⟩
  · exact iff_of_true status ⟨positive, enough⟩
  · rw [status]
    exact iff_of_false (by decide) fun less => absurd less.2 (not_lt.mpr enough)
  · exact iff_of_true paidAt status

theorem flushed_partly (known : Known loaded seen amount now sum) (agrees : Agrees now sum)
    (short : seen < loaded.total) (part : 0 < seen) :
    Agrees (flushed loaded (settled clock loaded seen) now) (sum + amount) ↔
      sum + amount < loaded.total ∨ loaded.status = "partial" ∧ loaded.total ≤ sum := by
  obtain ⟨first, second, before, later, loadedAgrees, rfl⟩ := known.earlier
  have same := known.total
  have positive := known.positive
  have composed : settled clock loaded (second + amount) = { loaded with status := "partial", paidAt := none } := by
    unfold settled
    rw [if_neg fun reached => absurd short (not_lt.mpr reached.2), if_pos part]
  have unpaid : loaded.status ≠ "paid" := by
    intro paid
    have covered := loadedAgrees.paid.mp paid
    linarith [covered.2]
  have untimed : loaded.paidAt = none := by
    rw [← Option.not_isSome_iff_eq_none, loadedAgrees.paidAt]
    exact unpaid
  have paidAt : (flushed loaded (settled clock loaded (second + amount)) now).paidAt = now.paidAt := by
    rw [composed]
    show written loaded.paidAt none now.paidAt = now.paidAt
    rw [untimed, written_same]
  by_cases partly : loaded.status = "partial"
  · -- nothing is written
    have status : (flushed loaded (settled clock loaded (second + amount)) now).status = now.status := by
      rw [composed]
      show written loaded.status "partial" now.status = now.status
      rw [partly, written_same]
    have unchanged : flushed loaded (settled clock loaded (second + amount)) now = now := by
      cases now
      simp only [flushed] at status paidAt ⊢
      rw [status, paidAt]
    have between := loadedAgrees.partly.mp partly
    rw [unchanged]
    constructor
    · intro after
      by_cases less : sum + amount < loaded.total
      · exact .inl less
      · have paid := agrees.paid.mp (after.paid.mpr ⟨by linarith, by linarith⟩)
        exact .inr ⟨partly, by linarith [paid.2]⟩
    · intro either
      rw [agrees_iff] at agrees ⊢
      refine ⟨agrees.1.trans ?_, agrees.2⟩
      rcases either with less | ⟨-, covered⟩
      · rw [stage_eq_partly.mpr ⟨by linarith, by linarith⟩, stage_eq_partly.mpr ⟨by linarith, by linarith⟩]
      · rw [stage_eq_paid.mpr ⟨by linarith, by linarith⟩, stage_eq_paid.mpr ⟨by linarith, by linarith⟩]
  · have status : (flushed loaded (settled clock loaded (second + amount)) now).status = "partial" := by
      rw [composed]
      exact written_of_ne (Ne.symm partly)
    constructor
    · intro after
      have between := after.partly.mp status
      have below : sum + amount < now.total := between.2
      exact .inl (by linarith)
    · intro either
      rcases either with less | ⟨impossible, -⟩
      · have short' : ¬ now.total ≤ sum := by linarith
        have unpaidNow : now.status ≠ "paid" := fun paid => short' (agrees.paid.mp paid).2
        refine ⟨?_, ?_, ?_⟩
        · rw [status]
          refine iff_of_false (by decide) ?_
          intro reached
          have enough : now.total ≤ sum + amount := reached.2
          linarith
        · refine iff_of_true status ⟨by linarith, ?_⟩
          show sum + amount < now.total
          linarith
        · rw [paidAt, status, agrees.paidAt]
          exact iff_of_false unpaidNow (by decide)
      · exact absurd impossible partly

theorem flushed_untotalled (known : Known loaded seen amount now sum) (untotalled : loaded.total ≤ 0)
    (part : 0 < seen) : ¬ Agrees (flushed loaded (settled clock loaded seen) now) (sum + amount) := by
  obtain ⟨first, second, before, later, loadedAgrees, rfl⟩ := known.earlier
  have same := known.total
  have other : loaded.status ≠ "partial" := by
    intro partly
    have between := loadedAgrees.partly.mp partly
    linarith
  have composed : settled clock loaded (second + amount) = { loaded with status := "partial", paidAt := none } := by
    unfold settled
    rw [if_neg fun reached => absurd reached.1 (not_lt.mpr untotalled), if_pos part]
  have status : (flushed loaded (settled clock loaded (second + amount)) now).status = "partial" := by
    rw [composed]
    exact written_of_ne (Ne.symm other)
  intro after
  have between := after.partly.mp status
  have below : sum + amount < now.total := between.2
  linarith

theorem flushed_unpaid (known : Known loaded seen amount now sum) (nothing : seen ≤ 0) :
    flushed loaded (settled clock loaded seen) now = now := by
  obtain ⟨first, second, before, later, loadedAgrees, rfl⟩ := known.earlier
  have positive := known.positive
  have unpaid : loaded.status ≠ "paid" := by
    intro paid
    have covered := loadedAgrees.paid.mp paid
    linarith
  have other : loaded.status ≠ "partial" := by
    intro partly
    have between := loadedAgrees.partly.mp partly
    linarith
  have composed : settled clock loaded (second + amount) = loaded := by
    unfold settled
    rw [if_neg, if_neg (not_lt.mpr nothing), if_neg (by simp [unpaid, other])]
    intro reached
    linarith
  rw [composed]
  simp [flushed]

theorem flushed_agrees_iff (known : Known loaded seen amount now sum) (agrees : Agrees now sum) :
    Agrees (flushed loaded (settled clock loaded seen) now) (sum + amount) ↔
      (0 < loaded.total ∨ seen ≤ 0) ∧
        (stage loaded.total seen = stage loaded.total (sum + amount) ∨
          loaded.shows = stage loaded.total seen ∧ stage loaded.total sum = stage loaded.total (sum + amount)) := by
  obtain ⟨first, second, before, later, loadedAgrees, same⟩ := known.earlier
  have positive := known.positive
  have below : seen ≤ sum + amount := by linarith
  rcases le_or_gt seen 0 with nothing | part
  · -- nothing is written, so that the stage must be the one of before
    have unpaid : stage loaded.total seen = .unpaid := by
      unfold stage
      rw [if_neg, if_neg]
      · intro between
        linarith
      · intro reached
        linarith
    have shows : loaded.shows = .unpaid := by
      rw [(agrees_iff.mp loadedAgrees).1]
      unfold stage
      rw [if_neg, if_neg]
      · intro between
        linarith
      · intro reached
        linarith
    have stays : stage loaded.total (sum + amount) = .unpaid → stage loaded.total sum = .unpaid := by
      intro after
      cases stands : stage loaded.total sum with
      | unpaid => rfl
      | partly =>
        have between := stage_eq_partly.mp stands
        by_cases reached : loaded.total ≤ sum + amount
        · rw [stage_eq_paid.mpr ⟨by linarith, reached⟩] at after
          cases after
        · rw [stage_eq_partly.mpr ⟨by linarith, by linarith⟩] at after
          cases after
      | paid =>
        have reached := stage_eq_paid.mp stands
        rw [stage_eq_paid.mpr ⟨reached.1, by linarith [reached.2]⟩] at after
        cases after
    rw [flushed_unpaid known nothing, unpaid, shows]
    rw [agrees_iff] at agrees ⊢
    rw [known.total, ← agrees.1] at *
    constructor
    · intro after
      exact ⟨.inr nothing, .inr ⟨rfl, after.1⟩⟩
    · intro timely
      refine ⟨?_, agrees.2⟩
      rcases timely.2 with unchanged | unchanged
      · rw [← unchanged]
        exact stays unchanged.symm
      · exact unchanged.2
  · rcases le_or_gt loaded.total 0 with untotalled | total
    · refine iff_of_false (flushed_untotalled known untotalled part) ?_
      intro timely
      rcases timely.1 with total | nothing
      · linarith
      · linarith
    · rcases le_or_gt loaded.total seen with reached | short
      · refine iff_of_true (flushed_paid known agrees ⟨total, reached⟩) ⟨.inl total, .inl ?_⟩
        rw [stage_eq_paid.mpr ⟨total, reached⟩, stage_eq_paid.mpr ⟨total, by linarith⟩]
      · rw [flushed_partly known agrees short part, stage_eq_partly.mpr ⟨part, short⟩]
        have partlyShown : loaded.shows = .partly ↔ loaded.status = "partial" := by
          unfold Invoice.shows
          split
          · next paid => simp [paid]
          · split
            · next partly => simp [partly]
            · next other => simp [other]
        constructor
        · intro either
          refine ⟨.inl total, ?_⟩
          rcases either with less | ⟨partly, covered⟩
          · exact .inl (stage_eq_partly.mpr ⟨by linarith, less⟩).symm
          · refine .inr ⟨partlyShown.mpr partly, ?_⟩
            rw [stage_eq_paid.mpr ⟨total, covered⟩, stage_eq_paid.mpr ⟨total, by linarith⟩]
        · intro timely
          rcases timely.2 with same | ⟨shows, same⟩
          · exact .inl (stage_eq_partly.mp same.symm).2
          · by_cases less : sum + amount < loaded.total
            · exact .inl less
            · rw [stage_eq_paid.mpr ⟨total, not_lt.mp less⟩] at same
              exact .inr ⟨partlyShown.mp shows, (stage_eq_paid.mp same).2⟩

end Commit

/-! ### Transactions side by side -/

theorem received_append (payments : List Payment) (amount : Amount) :
    received (payments ++ [completed amount]) = received payments + amount := by
  simp [received, counted, completed]

/-- Payments are only added, and the total of the invoice stays. -/
structure Grows (before after : Books) : Prop where
  received : received before.payments ≤ received after.payments
  total : after.invoice.map (·.total) = before.invoice.map (·.total)

structure Composed (call : Call) (changes : Recorded) (books : Books) : Prop where
  payment : changes.payment = completed call.amount
  invoice : changes.invoice = settled call.now changes.loaded changes.seen
  total : books.invoice.map (·.total) = some changes.loaded.total
  earlier : ∃ first second, first ≤ second ∧ second ≤ received books.payments ∧ Agrees changes.loaded first ∧
    changes.seen = second + call.amount

def setting : Setting (sessions queries Recorded) Call Books Unit where
  world := database.world
  permitted _ _ op _ books := match op with
    | .select _ => True
    | .commit changes => (database.commit changes books).isSome → Timely changes books
  issued _ call op books := match op with
    | .select _ => True
    | .commit changes => Composed call changes books
  discipline := {
    invariant := Books.Balanced
    rely := fun _ => Grows
    guarantee := fun _ _ => Grows
    rely_refl := fun _ _ => ⟨le_refl _, rfl⟩
    rely_trans := fun first second => ⟨first.received.trans second.received, second.total.trans first.total⟩
    guarantee_rely := fun _ grown => grown }

section Runs
variable {pid : Nat} {call : Call} {books after : Books} {changes : Recorded}

theorem commit_eq_some (committed : database.commit changes books = some after) :
    ∃ now, books.invoice = some now ∧ after.payments = books.payments ++ [changes.payment] ∧
      after.invoice = some (flushed changes.loaded changes.invoice now) := by
  obtain ⟨now, present, rfl⟩ := Option.map_eq_some_iff.mp committed
  exact ⟨now, present, rfl, rfl⟩

theorem Composed.grows (composed : Composed call changes books)
    (committed : database.commit changes books = some after) : Grows books after := by
  obtain ⟨now, present, payments, invoice⟩ := commit_eq_some committed
  refine ⟨?_, ?_⟩
  · have positive := call.amount.2
    rw [payments, composed.payment, received_append]
    linarith
  · rw [invoice, present]
    rfl

theorem Composed.balanced_iff (composed : Composed call changes books) (balanced : books.Balanced)
    (committed : database.commit changes books = some after) : after.Balanced ↔ Timely changes books := by
  obtain ⟨now, present, payments, invoice⟩ := commit_eq_some committed
  have total : changes.loaded.total = now.total := by
    have same := composed.total
    rw [present, Option.map_some, Option.some.injEq] at same
    exact same.symm
  have positive := call.amount.2
  have known : Known changes.loaded changes.seen call.amount now (received books.payments) :=
    ⟨by linarith, total, composed.earlier⟩
  have step : Agrees (flushed changes.loaded (settled call.now changes.loaded changes.seen) now)
      (received books.payments + call.amount) ↔ _ := flushed_agrees_iff known (balanced now present)
  have amount : changes.payment.amount = call.amount := by rw [composed.payment]; rfl
  rw [Timely, amount, ← step, ← composed.invoice, Books.Balanced, invoice, payments, composed.payment, received_append]
  simp

theorem setting_lawful : setting.Lawful := by
  intro pid call op choice before answer after balanced issued permitted performed
  cases op with
  | select query =>
    have unchanged : after = before := by
      have same : (database.select query choice before).2 = after := congrArg Prod.snd (Option.some.inj performed)
      rw [← same]
      cases query <;> rfl
    rw [unchanged]
    exact ⟨balanced, setting.discipline.rely_refl pid before⟩
  | commit changes =>
    simp only [setting, Database.world] at performed
    split at performed
    · next committed =>
      cases performed
      have timely : Timely changes before := permitted (by rw [committed]; rfl)
      exact ⟨(Composed.balanced_iff issued balanced committed).mpr timely, Composed.grows issued committed⟩
    · cases performed
      exact ⟨balanced, setting.discipline.rely_refl pid before⟩

theorem stable_const (fact : Prop) : setting.Stable pid fun _ => fact := fun _ _ known _ => known

theorem ask_spec {before : Books → Prop} {query : Query} {post : queries.Answer query → Books → Prop}
    (settled : setting.Stable pid before) (lasting : ∀ answer, setting.Stable pid (post answer))
    (told : ∀ books, books.Balanced → before books → post (database.select query () books).1 books) :
    setting.Triple pid call before (ask query) post := by
  refine Triple.ask_lawful setting_lawful settled lasting (fun _ _ _ => trivial) ?_
  intro books choice answer after balanced asserted _ performed
  have same : database.select query choice books = (answer, after) := Option.some.inj performed
  have known := told books balanced asserted
  have unchanged : after = books := by
    rw [← show (database.select query choice books).2 = after from congrArg Prod.snd same]
    cases query <;> rfl
  rw [unchanged]
  rw [show database.select query () books = (answer, after) from same] at known
  exact known

/-- The invoice as it was loaded agreed with what had been received by then. -/
def Loaded (invoice : Invoice) (books : Books) : Prop :=
  books.invoice.map (·.total) = some invoice.total ∧ ∃ first, first ≤ received books.payments ∧ Agrees invoice first

theorem loaded_stable (invoice : Invoice) : setting.Stable pid (Loaded invoice) := by
  intro before after known grown
  obtain ⟨first, less, agrees⟩ := known.2
  exact ⟨grown.total.trans known.1, first, less.trans grown.received, agrees⟩

theorem composed_stable (changes : Recorded) : setting.Stable pid (Composed call changes) := by
  intro before after known grown
  obtain ⟨first, second, earlier, later, agrees, seen⟩ := known.earlier
  exact ⟨known.payment, known.invoice, grown.total.trans known.total, first, second, earlier,
    later.trans grown.received, agrees, seen⟩

theorem payment_spec :
    setting.Triple pid call (fun _ => True) (payment call) fun result => Composed call result.2 := by
  apply Triple.bind fun (_ : Bool) _ => True
  · exact ask_spec (stable_const _) (fun _ => stable_const _) fun _ _ _ => trivial
  intro (enabled : Bool)
  cases enabled with
  | false => exact Triple.bind (fun _ _ => False) Triple.raise fun _ => ⟨fun _ impossible => impossible.elim⟩
  | true =>
    apply Triple.bind fun (found : Option Invoice) books => ∀ invoice, found = some invoice → Loaded invoice books
    · apply ask_spec (stable_const _)
      · exact fun found before after known grown invoice same =>
          loaded_stable invoice before after (known invoice same) grown
      · intro books balanced _ invoice same
        have present : books.invoice = some invoice := same
        exact ⟨by rw [present]; rfl, _, le_refl _, balanced invoice present⟩
    intro (found : Option Invoice)
    cases found with
    | none => exact Triple.raise
    | some invoice =>
      apply Triple.bind fun (paid : ℚ) books =>
        Composed call ⟨completed call.amount, invoice, paid, settled call.now invoice paid⟩ books
      · apply ask_spec
        · exact fun before after known grown other same => loaded_stable other before after (known other same) grown
        · exact fun paid => composed_stable _
        · intro books _ known
          obtain ⟨total, first, less, agrees⟩ := known invoice rfl
          exact ⟨rfl, rfl, total, first, received books.payments, less, le_refl _, agrees, received_append _ _⟩
      intro (paid : ℚ)
      exact Triple.pure (composed_stable _) fun _ known => known

theorem recordPayment_spec : setting.Triple pid call (fun _ => True) (recordPayment call) fun _ _ => True := by
  apply Triple.bind _ payment_spec
  intro result
  apply Triple.bind fun _ _ => True
  · refine Triple.ask_lawful setting_lawful (composed_stable _) (fun _ => stable_const _) (fun _ _ known => known) ?_
    exact fun _ _ _ _ _ _ _ _ => trivial
  · intro (committed : Bool)
    cases committed with
    | true => exact Triple.pure (stable_const _) fun _ _ => trivial
    | false => exact Triple.raise

theorem verified : Verified setting main (fun _ _ => True) fun _ _ _ _ => True where
  fresh_stable := fun _ => stable_const _
  starts := fun _ _ books _ _ => Safe.weaken (recordPayment_spec.safe books trivial) fun _ _ _ => trivial
  crashes := fun pid _ books balanced => ⟨balanced, setting.discipline.rely_refl pid books⟩

theorem sound_initial {start : Books} (balanced : start.Balanced) :
    Sound setting (fun _ _ => True) (fun _ _ _ _ => True)
      (Pool.initial start : Pool (sessions queries Recorded) Call (Except CapabilityError String) Books) :=
  ⟨balanced, fun _ _ => trivial, fun _ _ _ absent => nomatch absent⟩

variable {pool : Pool (sessions queries Recorded) Call (Except CapabilityError String) Books}

theorem permits_iff {move : Move Call Unit} : setting.permits pool move ↔ database.admitted Timely pool move := by
  cases move with
  | start | crash => exact Iff.rfl
  | act pid choice =>
    constructor <;> intro allowed call op rest present <;> have permitted := allowed call op rest present <;>
      cases op <;> exact permitted

theorem admitted_of_balanced {move : Move Call Unit}
    (sound : Sound setting (fun _ _ => True) (fun _ _ _ _ => True) pool)
    (balanced : ∀ next, pool.step database.world main move = some next → next.shared.Balanced) :
    database.admitted Timely pool move := by
  cases move with
  | start | crash => trivial
  | act pid choice =>
    intro call op rest present
    have issued := Safe.issues (sound.running pid call _ present) sound.invariant
    cases op with
    | select query => trivial
    | commit changes =>
      intro succeeds
      obtain ⟨after, committed⟩ := Option.isSome_iff_exists.mp succeeds
      refine (Composed.balanced_iff issued sound.invariant committed).mp ?_
      have moved : pool.step database.world main (.act pid choice) =
          some ⟨after, Function.update pool.tasks pid (some ⟨call, some (rest true)⟩)⟩ := by
        simp only [Pool.step, present, Database.world, committed, Option.map_some]
      exact balanced _ moved

theorem timely_iff_balanced {final : Pool (sessions queries Recorded) Call (Except CapabilityError String) Books}
    {moves : List (Move Call Unit)} (sound : Sound setting (fun _ _ => True) (fun _ _ _ _ => True) pool) :
    Runs (Pool.step database.world main) (database.admitted Timely) pool moves final ↔
      Runs (Pool.step database.world main) (fun pool move =>
        ∀ next, pool.step database.world main move = some next → next.shared.Balanced) pool moves final := by
  constructor
  · intro run
    induction run with
    | nil => exact .nil _
    | cons allowed moved _ ih =>
      have kept := (verified.step sound (permits_iff.mpr allowed) moved).1
      refine .cons ?_ moved (ih kept)
      intro next same
      rw [moved, Option.some.injEq] at same
      exact same ▸ kept.invariant
  · intro run
    induction run with
    | nil => exact .nil _
    | cons balanced moved _ ih =>
      have allowed := admitted_of_balanced sound balanced
      exact .cons allowed moved (ih (verified.step sound (permits_iff.mpr allowed) moved).1)

/-- From an invoice that agrees with its payments, whatever payments are recorded side by side: when every commit is
timely, the invoice agrees with them in every state reached; and it does so after every step only then. -/
theorem payments_settle {start : Books} (balanced : start.Balanced) (moves : List (Move Call Unit))
    (final : Pool (sessions queries Recorded) Call (Except CapabilityError String) Books) :
    (Runs (Pool.step database.world main) (database.admitted Timely) (Pool.initial start) moves final →
      final.shared.Balanced) ∧
    (Runs (Pool.step database.world main) (database.admitted Timely) (Pool.initial start) moves final ↔
      Runs (Pool.step database.world main) (fun pool move =>
        ∀ next, pool.step database.world main move = some next → next.shared.Balanced)
          (Pool.initial start) moves final) := by
  refine ⟨?_, timely_iff_balanced (sound_initial balanced)⟩
  intro run
  exact (verified.sound (sound_initial balanced) (run.weaken fun _ _ => permits_iff.mpr)).invariant

end Runs

def due : Books := ⟨true, some ⟨"due", 100, none⟩, []⟩

theorem due_balanced : due.Balanced := by
  intro invoice same
  cases same
  refine ⟨?_, ?_, ?_⟩ <;> simp [received, due]

def pay (amount : ℚ) (enough : 1 / 100 ≤ amount) : Call := ⟨⟨amount, enough⟩, 0⟩

def steps (pid count : Nat) : List (Move Call Unit) := .replicate count (.act pid ())

def timelyPayments : List (Move Call Unit) :=
  [.start 0 (pay 30 (by norm_num)), .start 1 (pay 60 (by norm_num))] ++ steps 0 3 ++ steps 1 4 ++ steps 0 1 ++
    .start 2 (pay 10 (by norm_num)) :: steps 2 4

def halves : List (Move Call Unit) :=
  [.start 0 (pay 50 (by norm_num)), .start 1 (pay 50 (by norm_num))] ++ steps 0 3 ++ steps 1 4 ++ steps 0 1

theorem timelyPayments_evaluated : (timelyPayments.foldlM (fun pool move =>
    if database.checked (fun changes books => Timely changes books) pool move then pool.step database.world main move
      else none) (Pool.initial due)).map (·.shared.invoice) = some (some ⟨"paid", 100, some 0⟩) := by
  decide +kernel

theorem payments_settle_timely : ∃ final,
    Runs (Pool.step database.world main) (database.admitted Timely) (Pool.initial due) timelyPayments final ∧
      final.shared.invoice = some ⟨"paid", 100, some 0⟩ ∧ final.shared.Balanced := by
  obtain ⟨final, evaluated, shown⟩ := Option.map_eq_some_iff.mp timelyPayments_evaluated
  have run := Runs.of_checked (Database.admitted_of_checked fun _ _ => of_decide_eq_true) evaluated
  exact ⟨final, run, shown, (payments_settle due_balanced timelyPayments final).1 run⟩

theorem halves_evaluated : (halves.foldlM (Pool.step database.world main) (Pool.initial due)).map (·.shared) =
    some ⟨true, some ⟨"partial", 100, none⟩, [⟨"incoming", "completed", 50⟩, ⟨"incoming", "completed", 50⟩]⟩ := by
  decide +kernel

/-- Both have committed, all of the total is there, and the invoice is partial. -/
theorem halves_unsettled : due.Balanced ∧ ∃ final,
    Runs (Pool.step database.world main) (fun _ _ => True) (Pool.initial due) halves final ∧
      final.shared.payments.length = 2 ∧ ¬ final.shared.Balanced := by
  refine ⟨due_balanced, ?_⟩
  obtain ⟨final, evaluated, shown⟩ := Option.map_eq_some_iff.mp halves_evaluated
  refine ⟨final, .of_foldlM evaluated, by rw [shown]; rfl, ?_⟩
  intro balanced
  have agrees := balanced ⟨"partial", 100, none⟩ (by rw [shown])
  rw [shown] at agrees
  have between := agrees.partly.mp rfl
  norm_num [received, counted] at between

end Operly.Workspace.PaymentOverlap
