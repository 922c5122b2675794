import Operly.Workspace.Runs
import Operly.Workspace.Totals

/-! Invoices and their payments. A recorded payment and a payment that is written as a record move the state of
an invoice by different rules, and a line moves its total by itself. What has been paid is the exact sum of the
payments; the code decides on the sum that the database computes. -/

namespace Operly.Workspace.Records
open Python Relational

/-! ### What an invoice shows -/

inductive Stage where
  | unpaid
  | partly
  | paid
  deriving DecidableEq

def stage (total paid : Double) : Stage :=
  if settled total paid then .paid else if Double.zero.lt paid && paid.lt total then .partly else .unpaid

def Shows (invoice : Row) : Stage → Prop
  | .unpaid => invoice.cells "status" ≠ .text "paid" ∧ invoice.cells "status" ≠ .text "partial"
  | .partly => invoice.cells "status" = .text "partial"
  | .paid => invoice.cells "status" = .text "paid" ∧ invoice.cells "paid_at" ≠ .null

/-- The stage that belongs to a total and to the payments that count. -/
def stageOf (total : Double) (amounts : List Double) : Stage := stage total (Double.exactSum amounts)

/-- The stages between which `_sync_invoice_payment_state` moves an invoice, as long as the sum that it computes
decides as the exact one. -/
def Synced [Floats] (before : Stage) (total : Double) (amounts : List Double) : Prop :=
  settled total (coalescedSum amounts) = settled total (Double.exactSum amounts) ∧
    (stageOf total amounts = .paid ∨ stageOf total amounts = before ∨
      before = .paid ∧ stageOf total amounts = .unpaid ∧ (coalescedSum amounts).lt total = true)

section States
variable {invoice invoice' : Row} {total paid : Double} {amounts : List Double} {before : Stage} {now : Int}
  {values : Values}

theorem stage_settled (reached : settled total paid = true) : stage total paid = .paid := if_pos reached

theorem settled_of_stage (reached : stage total paid = .paid) : settled total paid = true := by
  unfold stage at reached
  split at reached
  · assumption
  · split at reached
    · cases reached
    · cases reached

theorem shows_congr (status : invoice'.cells "status" = invoice.cells "status")
    (paidAt : invoice'.cells "paid_at" = invoice.cells "paid_at") (shows : Shows invoice before) : Shows invoice' before := by
  cases before with
  | unpaid => exact ⟨status ▸ shows.1, status ▸ shows.2⟩
  | partly => exact status.trans shows
  | paid => exact ⟨status.trans shows.1, paidAt ▸ shows.2⟩

theorem paidAt_ne_null : paidAt now invoice ≠ .null := by
  unfold paidAt
  split
  · simp
  · assumption

theorem amended_given {column : String} {cell : Cell} (other : column ≠ "updated_at")
    (given : values.given column = some cell) : (amended now .invoice invoice values).cells column = cell := by
  rw [amended_cells other]
  exact Row.assign_given given

theorem amended_absent {column : String} (other : column ≠ "updated_at") (absent : values.given column = none) :
    (amended now .invoice invoice values).cells column = invoice.cells column := by
  rw [amended_cells other]
  exact Row.assign_cells absent

theorem shows_unchanged (shows : Shows invoice before) : Shows (amended now .invoice invoice []) before :=
  shows_congr (amended_absent (by decide) rfl) (amended_absent (by decide) rfl) shows

theorem shows_paid (reached : settled total paid = true) :
    Shows (amended now .invoice invoice [("status", .text "paid"), ("paid_at", paidAt now invoice)]) (stage total paid) := by
  have set : (amended now .invoice invoice [("status", .text "paid"), ("paid_at", paidAt now invoice)]).cells "paid_at" =
      paidAt now invoice := amended_given (by decide) rfl
  rw [stage_settled reached]
  exact ⟨amended_given (by decide) rfl, set.trans_ne paidAt_ne_null⟩

theorem shows_due : Shows (amended now .invoice invoice [("status", .text "due"), ("paid_at", .null)]) .unpaid := by
  have set : (amended now .invoice invoice [("status", .text "due"), ("paid_at", .null)]).cells "status" = .text "due" :=
    amended_given (by decide) rfl
  exact ⟨by simp [set], by simp [set]⟩

variable [Floats]

theorem shows_synced (shows : Shows invoice before) (synced : Synced before (invoiceTotal invoice) amounts) :
    Shows (amended now .invoice invoice (syncedState now invoice (coalescedSum amounts)))
      (stageOf (invoiceTotal invoice) amounts) := by
  obtain ⟨decides, synced⟩ := synced
  unfold syncedState
  split
  · next reached => exact shows_paid (decides ▸ reached)
  · next short =>
    have notPaid : stageOf (invoiceTotal invoice) amounts ≠ .paid := fun same =>
      short (decides.trans (settled_of_stage same))
    rcases synced with same | same | ⟨rfl, same, less⟩
    · exact absurd same notPaid
    · -- the stage is as before, and not paid
      have unpaid : invoice.cells "status" ≠ .text "paid" := by
        intro status
        cases before with
        | unpaid => exact shows.1 status
        | partly => simpa using status.symm.trans shows
        | paid => exact notPaid same
      rw [if_neg (by simp [unpaid]), same]
      exact shows_unchanged shows
    · rw [if_pos (by simp [shows.1, less]), same]
      exact shows_due

theorem shows_recorded (priced : Double.zero.lt paid = true → Double.zero.lt (invoiceTotal invoice) = true) :
    Shows (amended now .invoice invoice (recordedState now invoice paid)) (stage (invoiceTotal invoice) paid) := by
  unfold recordedState
  split
  · next reached => exact shows_paid reached
  · next short =>
    split
    · next positive =>
      have total := priced positive
      have below : paid.lt (invoiceTotal invoice) = true := by
        simpa [settled, total, Double.atLeast_eq_not_lt positive total] using short
      have partly : stage (invoiceTotal invoice) paid = .partly := by
        unfold stage
        rw [if_neg short, if_pos (by simp [positive, below])]
      rw [partly]
      exact amended_given (by decide) rfl
    · next nothing =>
      have unpaid : stage (invoiceTotal invoice) paid = .unpaid := by
        unfold stage
        rw [if_neg short, if_neg (by simp [nothing])]
      rw [unpaid]
      split
      · exact shows_due
      · next other =>
        have plain : Shows invoice .unpaid := by simpa [Shows] using other
        exact shows_unchanged plain

end States

/-! ### An invoice and its refreshes -/

def Held (tenantId invoiceId : String) (store : Store Model) (invoice : Row) : Prop :=
  (store .invoice).find invoiceId = some invoice ∧ invoice.tenantId = some tenantId

def linesTotal [Floats] (store : Store Model) (tenantId invoiceId : String) : Double :=
  let lines := figuresOf invoiceTally store tenantId invoiceId
  ((Double.sum (lines.map Figures.net)).add (Double.sum (lines.map fun line => (line.net.mul line.taxRate).percent))).cents.unsigned

def Reflected [Floats] (tenantId invoiceId : String) (store : Store Model) : Prop :=
  ∀ invoice, Held tenantId invoiceId store invoice →
    Shows invoice (stageOf (invoiceTotal invoice) (receipts store tenantId invoiceId))

def Due [Floats] (tenantId invoiceId : String) (pending : List Cell) (store : Store Model) : Prop :=
  ∀ invoice, Held tenantId invoiceId store invoice →
    ∃ before, Shows invoice before ∧
      (Cell.text invoiceId ∈ pending → Synced before (invoiceTotal invoice) (receipts store tenantId invoiceId)) ∧
      (Cell.text invoiceId ∉ pending → before = stageOf (invoiceTotal invoice) (receipts store tenantId invoiceId))

def Lined [Floats] (tenantId invoiceId : String) (pending : List Cell) (store : Store Model) : Prop :=
  ∀ invoice, Held tenantId invoiceId store invoice →
    Shows invoice (stageOf (invoiceTotal invoice) (receipts store tenantId invoiceId)) ∧
      (Cell.text invoiceId ∈ pending → stageOf (linesTotal store tenantId invoiceId) (receipts store tenantId invoiceId) =
        stageOf (invoiceTotal invoice) (receipts store tenantId invoiceId))

theorem touchLead_other {store after : Store Model} {row : Row} {now : Int} {tenantId : String}
    (done : touchLead now tenantId row store = some after) :
    after .invoice = store .invoice ∧ after .payment = store .payment := by
  unfold touchLead at done
  split at done
  · exact ⟨revise_other done (by decide), revise_other done (by decide)⟩
  · cases done
    exact ⟨rfl, rfl⟩

section Refreshed
variable {tenantId invoiceId : String} {store after : Store Model} {invoice row : Row} {now : Int} {values : Values}
  {parentId : Cell} {rest : List Cell} {model : Model}

theorem held_revise (revised : revise now .invoice row values store = some after)
    (found : (store .invoice).find row.id = some row) (held : Held tenantId invoiceId after invoice) :
    invoice = amended now .invoice row values ∧ row.id = invoiceId ∨ row.id ≠ invoiceId ∧ Held tenantId invoiceId store invoice := by
  obtain ⟨named, own⟩ := held
  rw [Store.find_update revised, amended_id] at named
  by_cases same : invoiceId = row.id
  · rw [if_pos ⟨rfl, same⟩, same, found, Option.map_some, Option.some.injEq] at named
    exact .inl ⟨named.symm, same.symm⟩
  · rw [if_neg fun both => same both.2] at named
    exact .inr ⟨Ne.symm same, named, own⟩

theorem ne_of_ownedRow (held : Held tenantId invoiceId store invoice) (missing : ownedRow tenantId .invoice parentId store = none) :
    Cell.text invoiceId ≠ parentId := by
  rintro rfl
  have found := ownedRow_of_mem (Table.find_mem held.1) held.2
  rw [Table.find_key held.1, missing] at found
  cases found

variable [Floats]

theorem receipts_congr (same : after .payment = store .payment) :
    receipts after tenantId invoiceId = receipts store tenantId invoiceId := by
  simp only [receipts, same]

theorem invoiceTotal_congr (same : invoice.cells "total" = row.cells "total") : invoiceTotal invoice = invoiceTotal row := by
  rw [invoiceTotal, same, invoiceTotal]

theorem invoiceTotal_amended (names : ∀ entry ∈ values, entry.1 ∈ ["status", "paid_at"]) :
    invoiceTotal (amended now .invoice row values) = invoiceTotal row := by
  have other : "total" ∉ ["status", "paid_at"] := by decide
  have absent : values.given "total" = none :=
    Values.given_eq_none.mpr fun entry listed same => other (same ▸ names entry listed)
  exact invoiceTotal_congr (amended_absent (by decide) absent)

theorem due_refreshParent (due : Due tenantId invoiceId (parentId :: rest) store)
    (done : refreshParent now tenantId .payment parentId store = some after) : Due tenantId invoiceId rest after := by
  rw [refreshParent, if_pos rfl] at done
  unfold syncInvoicePaymentState at done
  intro invoice held
  split at done
  · next row found =>
    obtain ⟨key, stored, own⟩ := ownedRow_spec found
    have paid : receipts after tenantId invoiceId = receipts store tenantId invoiceId :=
      receipts_congr (revise_other done (by decide))
    rw [paid]
    rcases held_revise done stored held with ⟨rfl, rfl⟩ | ⟨apart, held⟩
    · obtain ⟨before, shows, synced, -⟩ := due row ⟨stored, own⟩
      have synced := synced (by rw [key]; exact List.mem_cons_self)
      rw [invoiceTotal_amended (syncedState_names now row _)]
      exact ⟨_, shows_synced shows synced, fun _ => ⟨synced.1, .inr (.inl rfl)⟩, fun _ => rfl⟩
    · obtain ⟨before, shows, synced, settled⟩ := due invoice held
      refine ⟨before, shows, fun listed => synced (List.mem_cons_of_mem _ listed), fun absent => settled ?_⟩
      rw [List.mem_cons, not_or, key]
      exact ⟨fun same => apart (Cell.text.inj same).symm, absent⟩
  · next missing =>
    cases done
    obtain ⟨before, shows, synced, settled⟩ := due invoice held
    refine ⟨before, shows, fun listed => synced (List.mem_cons_of_mem _ listed), fun absent => settled ?_⟩
    rw [List.mem_cons, not_or]
    exact ⟨ne_of_ownedRow held missing, absent⟩

theorem lined_refreshParent (lined : Lined tenantId invoiceId (parentId :: rest) store)
    (done : refreshParent now tenantId .invoiceItem parentId store = some after) : Lined tenantId invoiceId rest after := by
  rw [refreshParent, if_neg (by decide)] at done
  change recalculate invoiceTally now tenantId parentId store = some after at done
  unfold recalculate at done
  intro invoice held
  split at done
  · next row found =>
    obtain ⟨key, stored, own⟩ := ownedRow_spec found
    have paid : receipts after tenantId invoiceId = receipts store tenantId invoiceId :=
      receipts_congr (revise_other done (by simp [invoiceTally]))
    have lines : linesTotal after tenantId invoiceId = linesTotal store tenantId invoiceId := by
      rw [linesTotal, figures_of_same (revise_other done (by simp [invoiceTally])), linesTotal]
    rw [paid, lines]
    rcases held_revise done stored held with ⟨rfl, rfl⟩ | ⟨apart, held⟩
    · obtain ⟨shows, kept⟩ := lined row ⟨stored, own⟩
      have total : invoiceTotal (amended now .invoice row (recalculated invoiceTally store tenantId row)) =
          linesTotal store tenantId row.id := by
        have written : (amended now .invoice row (recalculated invoiceTally store tenantId row)).cells "total" = _ :=
          amended_given (by decide) rfl
        rw [invoiceTotal, written]
        rfl
      rw [total]
      refine ⟨?_, fun _ => rfl⟩
      rw [kept (by rw [key]; exact List.mem_cons_self)]
      exact shows_congr (amended_absent (by decide) rfl) (amended_absent (by decide) rfl) shows
    · obtain ⟨shows, kept⟩ := lined invoice held
      exact ⟨shows, fun listed => kept (List.mem_cons_of_mem _ listed)⟩
  · cases done
    obtain ⟨shows, kept⟩ := lined invoice held
    exact ⟨shows, fun listed => kept (List.mem_cons_of_mem _ listed)⟩

theorem refreshParent_other (notPayment : model ≠ .payment) (notLine : model ≠ .invoiceItem)
    (done : refreshParent now tenantId model parentId store = some after) :
    after .invoice = store .invoice ∧ after .payment = store .payment := by
  rw [refreshParent, if_neg notPayment, recalculateParent] at done
  split at done
  · next tally of =>
    obtain ⟨member, line⟩ := tallyOf_eq_some of
    have invoice : tally.parent ≠ .invoice := by
      intro same
      cases tally_line_inj tally member invoiceTally (by simp [tallies]) (.inr same)
      exact notLine line.symm
    have payment : ∀ tally ∈ tallies, tally.parent ≠ .payment :=
      forall_tally (by simp [orderTally]) (by simp [quoteTally]) (by simp [purchaseOrderTally]) (by simp [invoiceTally])
    unfold recalculate at done
    split at done
    · exact ⟨revise_other done invoice.symm, revise_other done (payment tally member).symm⟩
    · cases done
      exact ⟨rfl, rfl⟩
  · cases done
    exact ⟨rfl, rfl⟩

theorem Reflected.congr (reflected : Reflected tenantId invoiceId store) (invoices : after .invoice = store .invoice)
    (payments : after .payment = store .payment) : Reflected tenantId invoiceId after := by
  intro invoice held
  rw [receipts_congr payments]
  rw [Held, invoices] at held
  exact reflected invoice held

theorem reflected_of_refreshes {parents : List Cell} (refreshes : Refreshes now tenantId model parents store after)
    (payment : model = .payment → Due tenantId invoiceId parents store)
    (line : model = .invoiceItem → Lined tenantId invoiceId parents store)
    (other : model ≠ .payment → model ≠ .invoiceItem → Reflected tenantId invoiceId store) :
    Reflected tenantId invoiceId after := by
  by_cases isPayment : model = .payment
  · subst isPayment
    have due : Due tenantId invoiceId [] after := by
      apply refreshes (Due tenantId invoiceId)
      · exact fun _ _ _ _ due done => due_refreshParent due done
      · intro id due invoice held
        simpa using due invoice held
      · intro row _ impossible
        cases impossible
      · exact payment rfl
    intro invoice held
    obtain ⟨before, shows, -, same⟩ := due invoice held
    exact same (by simp) ▸ shows
  · by_cases isLine : model = .invoiceItem
    · subst isLine
      have lined : Lined tenantId invoiceId [] after := by
        apply refreshes (Lined tenantId invoiceId)
        · exact fun _ _ _ _ lined done => lined_refreshParent lined done
        · intro id lined invoice held
          simpa using lined invoice held
        · intro row _ impossible
          cases impossible
        · exact line rfl
      exact fun invoice held => (lined invoice held).1
    · apply refreshes fun _ => Reflected tenantId invoiceId
      · intro _ _ _ _ reflected done
        obtain ⟨invoices, payments⟩ := refreshParent_other isPayment isLine done
        exact reflected.congr invoices payments
      · exact fun _ reflected => reflected
      · intro row _ _ done
        obtain ⟨invoices, payments⟩ := touchLead_other done
        exact (other isPayment isLine).congr invoices payments
      · exact other isPayment isLine

end Refreshed

/-! ### What a request itself writes -/

def standing : List String := ["status", "paid_at", "subtotal", "tax", "total"]

section Plain
variable {tenantId invoiceId : String} {store after : Store Model} {invoice row old : Row} {model : Model} {id : String}

def Carried (tenantId invoiceId : String) (store after : Store Model) : Prop :=
  ∀ invoice, Held tenantId invoiceId after invoice →
    ∃ old, Held tenantId invoiceId store old ∧ ∀ column ∈ standing, invoice.cells column = old.cells column

theorem carried_insert (inserted : Store.insert schema model row store = some after)
    (other : model = .invoice → row.id ≠ invoiceId) : Carried tenantId invoiceId store after := by
  intro invoice held
  obtain ⟨named, own⟩ := held
  rw [Store.find_insert inserted, if_neg fun both => other both.1.symm both.2.symm, Option.or_none] at named
  exact ⟨invoice, ⟨named, own⟩, fun _ _ => rfl⟩

theorem carried_update (updated : Store.update schema model row store = some after)
    (found : (store model).find row.id = some old) (tenant : row.tenantId = old.tenantId)
    (kept : model = .invoice → row.id = invoiceId → ∀ column ∈ standing, row.cells column = old.cells column) :
    Carried tenantId invoiceId store after := by
  intro invoice held
  obtain ⟨named, own⟩ := held
  rw [Store.find_update updated] at named
  split at named
  · next both =>
    obtain ⟨rfl, rfl⟩ := both
    rw [found, Option.map_some, Option.some.injEq] at named
    subst named
    exact ⟨old, ⟨found, tenant ▸ own⟩, kept rfl rfl⟩
  · exact ⟨invoice, ⟨named, own⟩, fun _ _ => rfl⟩

theorem carried_delete (deleted : Store.delete schema model id store = some after) : Carried tenantId invoiceId store after := by
  intro invoice held
  obtain ⟨named, own⟩ := held
  rw [Store.find_delete deleted, Option.bind_eq_some_iff] at named
  obtain ⟨old, found, stays⟩ := named
  rw [Option.ite_none_left_eq_some, Option.some.injEq] at stays
  obtain ⟨-, rfl⟩ := stays
  have plain : ∀ key ∈ foreignKeys .invoice, key.field ∉ standing := by decide
  refine ⟨old, ⟨found, own⟩, fun column known => ?_⟩
  exact unlink_plain .invoice fun key listed _ same => plain key listed (same ▸ known)

theorem countsFor_of_ne (other : row.cells "invoice_id" ≠ .text invoiceId) : countsFor tenantId invoiceId row = false := by
  simp [countsFor, other]

variable [Floats]

theorem receipts_of_select (same : (after .payment).select (countsFor tenantId invoiceId) =
    (store .payment).select (countsFor tenantId invoiceId)) :
    receipts after tenantId invoiceId = receipts store tenantId invoiceId := by rw [receipts, same, receipts]

theorem receipts_insert (inserted : Store.insert schema model row store = some after)
    (apart : model = .payment → Cell.text invoiceId ≠ parentOf model row) :
    receipts after tenantId invoiceId = receipts store tenantId invoiceId := by
  refine receipts_of_select (Store.select_insert inserted ?_)
  rintro rfl
  exact countsFor_of_ne (apart rfl).symm

theorem receipts_update (updated : Store.update schema model row store = some after)
    (found : (store model).find row.id = some old)
    (apart : model = .payment → Cell.text invoiceId ≠ parentOf model row ∧ Cell.text invoiceId ≠ parentOf model old) :
    receipts after tenantId invoiceId = receipts store tenantId invoiceId := by
  refine receipts_of_select (Store.select_update updated found ?_)
  rintro rfl
  exact ⟨countsFor_of_ne (apart rfl).1.symm, countsFor_of_ne (apart rfl).2.symm⟩

theorem receipts_delete (deleted : Store.delete schema model row.id store = some after)
    (found : (store model).find row.id = some row) (held : Held tenantId invoiceId after invoice)
    (apart : model = .payment → Cell.text invoiceId ≠ parentOf model row) :
    receipts after tenantId invoiceId = receipts store tenantId invoiceId := by
  have named := held.1
  rw [Store.find_delete deleted, Option.bind_eq_some_iff] at named
  obtain ⟨old, stood, stays⟩ := named
  rw [Option.ite_none_left_eq_some] at stays
  have plain : ∀ column, column ∈ ["direction", "status", "amount"] → ∀ payment,
      (Store.unlink schema store model row.id .payment payment).cells column = payment.cells column := by
    have keys : ∀ key ∈ foreignKeys .payment, key.field ∉ ["direction", "status", "amount"] := by decide
    exact fun column known payment => unlink_plain .payment fun key listed _ same => keys key listed (same ▸ known)
  have meets : ∀ payment, countsFor tenantId invoiceId (Store.unlink schema store model row.id .payment payment) =
      countsFor tenantId invoiceId payment := by
    intro payment
    have names : (Store.unlink schema store model row.id .payment payment).cells "invoice_id" = .text invoiceId ↔
        payment.cells "invoice_id" = .text invoiceId := by
      have cases : (Store.unlink schema store model row.id .payment payment).cells "invoice_id" =
        payment.cells "invoice_id" ∨ _ := Store.unlink_cells "invoice_id"
      rcases cases with same | ⟨cleared, key, known, field, -, lost⟩
      · rw [same]
      · -- the invoice that goes is another one
        obtain ⟨named', target, named, present, goes⟩ := Store.loses_iff.mp lost
        have invoices : ∀ key ∈ foreignKeys .payment, key.field = "invoice_id" → key.target = .invoice := by decide
        rw [invoices key known field] at present goes
        rw [field] at named
        rw [cleared, named]
        constructor
        · intro impossible
          cases impossible
        · intro same
          cases same
          rw [stood, Option.some.injEq] at present
          exact absurd (present ▸ goes) stays.1
    rw [countsFor, plain "direction" (by decide), plain "status" (by decide), Store.unlink_tenantId,
      decide_eq_decide.mpr names, countsFor]
  have reads : ∀ payment, amount ((Store.unlink schema store model row.id .payment payment).cells "amount") =
      amount (payment.cells "amount") := fun payment => by rw [plain "amount" (by decide)]
  have takes : ∀ payment ∈ (store .payment).select (countsFor tenantId invoiceId),
      Store.doomed schema model row.id .payment payment = false := by
    intro payment counted
    obtain ⟨listed, counts⟩ := List.mem_filter.mp counted
    by_contra goes
    rw [Bool.not_eq_false] at goes
    rcases Store.doomed_iff.mp goes with ⟨rfl, key⟩ | ⟨key, known, cascades, -⟩
    · have itself := Table.find_of_mem listed
      rw [key, found, Option.some.injEq] at itself
      rw [← itself, countsFor_of_ne (apart rfl).symm] at counts
      cases counts
    · have never : ∀ key ∈ foreignKeys .payment, key.onDelete ≠ .cascade := by decide
      exact never key known cascades
  exact Store.select_delete deleted meets reads takes

end Plain

/-! ### Requests -/

def Undirected (engine : Engine) (drawn : Drawn) (invoiceId : String) (call : Call) : Prop :=
  ∀ recordId payload, call.writes engine = some ("invoices", recordId, payload) → recordId.getD drawn.id = invoiceId →
    ∀ entry ∈ payload, entry.1 ∉ standing

/-- A request that writes a payment leaves an invoice at a stage to which it is synced, and one that writes a line
leaves it at its stage. -/
def Steady [Floats] (engine : Engine) (drawn : Drawn) (auth : AuthContext) (invoiceId : String) (call : Call)
    (db : Database) : Prop :=
  ∀ model parents store, Written engine drawn auth call db model parents store → Cell.text invoiceId ∈ parents →
    ∀ invoice, Held auth.tenantId invoiceId db.store invoice →
      let before := stageOf (invoiceTotal invoice) (receipts db.store auth.tenantId invoiceId)
      (model = .payment → Synced before (invoiceTotal invoice) (receipts store auth.tenantId invoiceId)) ∧
        (model = .invoiceItem →
          stageOf (linesTotal store auth.tenantId invoiceId) (receipts db.store auth.tenantId invoiceId) = before)

theorem invoice_entity : ∀ entry ∈ entityRegistry, entry.2.model = .invoice → entry.1 = "invoices" := by decide

section Requests
variable [Floats] {engine : Engine} {drawn : Drawn} {auth : AuthContext} {call : Call} {db : Database} {invoiceId : String}
  {model : Model} {parents : List Cell} {store : Store Model}

theorem reflected_newInvoice (isolated : Store.Isolated schema db.store) {values : Values} {config : RecordConfig}
    (of : config.model = .invoice) (fresh : drawn.id.1 = invoiceId)
    (inserted : Store.insert schema config.model (newRow drawn auth.tenantId config.model values) db.store = some store)
    (absent : ∀ column ∈ standing, values.given column = none) : Reflected auth.tenantId invoiceId store := by
  intro invoice held
  subst fresh
  rw [of] at inserted
  have missing : (db.store .invoice).find drawn.id = none := (Store.insert_eq_some.mp inserted).1
  have named := held.1
  rw [Store.find_insert inserted, missing, Option.none_or, if_pos ⟨rfl, rfl⟩, Option.some.injEq] at named
  subst named
  have unpaid : receipts store auth.tenantId drawn.id = [] := by
    have none : (store .payment).select (countsFor auth.tenantId drawn.id) = [] := by
      rw [Store.select_insert inserted fun impossible => by cases impossible]
      apply List.filter_eq_nil_iff.mpr
      intro payment listed counts
      simp only [countsFor, Bool.and_eq_true, decide_eq_true_eq] at counts
      have key : ⟨"invoice_id", .invoice, .setNull⟩ ∈ schema.foreignKeys .payment := by simp [schema, foreignKeys]
      exact isolated.unreferenced listed key missing counts.1.1.2
    rw [receipts, none]
    rfl
  have total : (newRow drawn auth.tenantId .invoice values).cells "total" = .float (.finite 0) :=
    newRow_initially (absent "total" (by decide))
  have status : (newRow drawn auth.tenantId .invoice values).cells "status" = .text "draft" :=
    newRow_initially (absent "status" (by decide))
  have start : stageOf (.finite 0) [] = .unpaid := by decide
  rw [invoiceTotal, total, unpaid]
  change Shows _ (stageOf (.finite 0) [])
  rw [start]
  exact ⟨by simp [status], by simp [status]⟩

theorem written_carried (isolated : Store.Isolated schema db.store) (undirected : Undirected engine drawn invoiceId call)
    (written : Written engine drawn auth call db model parents store) :
    Carried auth.tenantId invoiceId db.store store ∨ model = .invoice ∧ Reflected auth.tenantId invoiceId store := by
  have plain : ∀ column ∈ standing, column ≠ "updated_at" ∧ column ≠ "stage_changed_at" ∧
      column ≠ "owner_user_id" := by decide
  cases written with
  | @created entity config payload values store known writes taken inserted =>
    by_cases itself : config.model = .invoice ∧ drawn.id.1 = invoiceId
    · refine .inr ⟨itself.1, reflected_newInvoice isolated itself.1 itself.2 inserted ?_⟩
      intro column listed
      rw [ownedValues_given (plain column listed).2.2]
      have invoices : entity = "invoices" := invoice_entity _ known itself.1
      exact payloadValues_absent taken fun entry member same =>
        undirected none payload (invoices ▸ writes) itself.2 entry member (same ▸ listed)
    · exact .inl (carried_insert inserted fun of same => itself ⟨of, same⟩)
  | @updated entity recordId config payload values noted old store known writes found own taken written =>
    have key : (db.store config.model).find old.id = some old := Table.find_of_mem (Table.find_mem found)
    refine .inl (carried_update written (by rw [amended_id]; exact key) amended_tenantId ?_)
    intro of same column listed
    rw [amended_id, Table.find_key found] at same
    have invoices : entity = "invoices" := invoice_entity _ known of
    have absent : (stagedValues drawn noted values).given column = none := by
      rw [stagedValues_given (plain column listed).2.1]
      exact payloadValues_absent taken fun entry member named =>
        undirected (some recordId) payload (invoices ▸ writes) same entry member (named ▸ listed)
    rw [amended_cells (plain column listed).1, Row.assign_cells absent]
  | deleted known removes found own removed => exact .inl (carried_delete removed)

theorem written_receipts (written : Written engine drawn auth call db model parents store) {invoice : Row}
    (held : Held auth.tenantId invoiceId store invoice) (apart : model = .payment → Cell.text invoiceId ∉ parents) :
    receipts store auth.tenantId invoiceId = receipts db.store auth.tenantId invoiceId := by
  cases written with
  | created known writes taken inserted =>
    apply receipts_insert inserted
    intro payment
    exact fun same => apart payment (by simp [same])
  | updated known writes found own taken written =>
    apply receipts_update written
    · rw [amended_id]
      exact Table.find_of_mem (Table.find_mem found)
    · intro payment
      exact ⟨fun same => apart payment (by simp [same]), fun same => apart payment (by simp [same])⟩
  | deleted known removes found own removed =>
    apply receipts_delete removed (Table.find_of_mem (Table.find_mem found)) held
    intro payment
    exact fun same => apart payment (by simp [same])

theorem reflected_record {after : Database} {value : Json} (isolated : Store.Isolated schema db.store)
    (undirected : Undirected engine drawn invoiceId call) (steady : Steady engine drawn auth invoiceId call db)
    (performed : Performed engine drawn auth call db value after) (reflected : Reflected auth.tenantId invoiceId db.store) :
    Reflected auth.tenantId invoiceId after.store := by
  rcases performed_written performed with rfl | ⟨model, parents, store, written, refreshes⟩
  · exact reflected
  · have total : ∀ {invoice old : Row}, (∀ column ∈ standing, invoice.cells column = old.cells column) →
        invoiceTotal invoice = invoiceTotal old := fun same => invoiceTotal_congr (same "total" (by decide))
    have shows : ∀ {invoice old : Row} {before : Stage}, (∀ column ∈ standing, invoice.cells column = old.cells column) →
        Shows old before → Shows invoice before :=
      fun same => shows_congr (same "status" (by decide)) (same "paid_at" (by decide))
    apply reflected_of_refreshes refreshes
    · rintro rfl invoice held
      rcases written_carried isolated undirected written with carried | ⟨impossible, -⟩
      · obtain ⟨old, stood, same⟩ := carried invoice held
        refine ⟨_, shows same (reflected old stood), ?_⟩
        rw [total same]
        refine ⟨fun listed => (steady _ _ _ written listed old stood).1 rfl, fun absent => ?_⟩
        rw [written_receipts written held fun _ => absent]
      · cases impossible
    · rintro rfl invoice held
      rcases written_carried isolated undirected written with carried | ⟨impossible, -⟩
      · obtain ⟨old, stood, same⟩ := carried invoice held
        have paid := written_receipts written held fun impossible => by cases impossible
        rw [paid, total same]
        exact ⟨shows same (reflected old stood), fun listed => (steady _ _ _ written listed old stood).2 rfl⟩
      · cases impossible
    · intro notPayment _
      rcases written_carried isolated undirected written with carried | ⟨-, shown⟩
      · intro invoice held
        obtain ⟨old, stood, same⟩ := carried invoice held
        have paid := written_receipts written held fun payment => absurd payment notPayment
        rw [paid, total same]
        exact shows same (reflected old stood)
      · exact shown

end Requests

theorem receipts_insertRow [Floats] {drawn : Drawn} {supply : Supply} {tenantId : String} {arguments : PaymentArguments}
    {invoice : Row} {store after : Store Model}
    (inserted : insertRow drawn tenantId .payment (recordedPayment supply arguments invoice) store = .ok after) :
    receipts after tenantId invoice.id = receipts store tenantId invoice.id ++ [arguments.amount.unsigned] := by
  obtain ⟨absent, rfl, -⟩ := Store.insert_eq_some.mp (flushed_eq_ok.mp inserted)
  set row := newRow drawn tenantId .payment (recordedPayment supply arguments invoice)
  have named : row.cells "invoice_id" = .text invoice.id := rfl
  have incoming : row.cells "direction" = .text "incoming" := rfl
  have completed : row.cells "status" = .text "completed" := rfl
  have own : row.tenantId = some tenantId := rfl
  have paid : row.cells "amount" = .float arguments.amount := rfl
  have counts : countsFor tenantId invoice.id row = true := by simp [countsFor, named, incoming, completed, own]
  rw [receipts, receipts, Function.update_self, Table.select, Table.insert_rows absent, List.filter_append, List.map_append,
    List.filter_cons_of_pos counts, List.filter_nil, List.map_singleton, paid]
  rfl

/-- A recorded payment that makes the sum of an invoice positive is for an invoice with a total, and the sum that
the database computes gives the stage of the exact one. -/
def Priced [Floats] (member : Member) (invoiceId : String) (arguments : PaymentArguments) (db : Database) : Prop :=
  arguments.invoiceId.1 = invoiceId → ∀ invoice, Held member.auth.tenantId invoiceId db.store invoice →
    let amounts := receipts db.store member.auth.tenantId invoiceId ++ [arguments.amount.unsigned]
    (Double.zero.lt (coalescedSum amounts) = true → Double.zero.lt (invoiceTotal invoice) = true) ∧
      stage (invoiceTotal invoice) (coalescedSum amounts) = stageOf (invoiceTotal invoice) amounts

theorem reflected_payment [Floats] {engine : Engine} {supply : Supply} {member : Member} {arguments : PaymentArguments}
    {invoiceId : String} {db after : Database} {value : Json} (priced : Priced member invoiceId arguments db)
    (done : recordPayment engine supply member arguments db = .ok (value, after))
    (reflected : Reflected member.auth.tenantId invoiceId db.store) : Reflected member.auth.tenantId invoiceId after.store := by
  simp only [recordPayment, check_eq_ok, bind_eq_ok, pure_eq_ok, Prod.mk.injEq] at done
  obtain ⟨-, invoice, held, store, inserted, updated, revised, -, rfl⟩ := done
  obtain ⟨found, own⟩ := paidInvoice_eq_ok.mp held
  have invoices : store .invoice = db.store .invoice := insertRow_other inserted (by decide)
  have itself : (store .invoice).find invoice.id = some invoice := by
    rw [invoices]
    exact Table.find_of_mem (Table.find_mem found)
  have revised' : revise supply.now .invoice invoice (recordedState supply.now invoice
      (received store member.auth.tenantId invoice.id)) store = some updated := flushed_eq_ok.mp revised
  intro row held
  have paid : receipts updated member.auth.tenantId invoiceId = receipts store member.auth.tenantId invoiceId :=
    receipts_congr (revise_other revised' (by decide))
  change Shows row (stageOf (invoiceTotal row) (receipts updated member.auth.tenantId invoiceId))
  rw [paid]
  rcases held_revise revised' itself held with ⟨rfl, rfl⟩ | ⟨apart, held⟩
  · rw [invoiceTotal_amended (recordedState_names _ _ _)]
    have named : arguments.invoiceId.1 = invoice.id := (Table.find_key found).symm
    obtain ⟨positive, decides⟩ := priced named invoice ⟨named ▸ found, own⟩
    rw [receipts_insertRow inserted, ← decides, received, receipts_insertRow inserted]
    exact shows_recorded positive
  · rw [Held, invoices] at held
    have other : receipts store member.auth.tenantId invoiceId = receipts db.store member.auth.tenantId invoiceId := by
      apply receipts_insert (flushed_eq_ok.mp inserted)
      intro _ same
      have names : parentOf .payment (newRow (supply.drawn 0) member.auth.tenantId .payment
          (recordedPayment supply arguments invoice)) = .text invoice.id := rfl
      exact apart (Cell.text.inj (same.trans names)).symm
    rw [other]
    exact reflected row held

def Indirect (engine : Engine) (invoiceId : String) (act : Act) (_ : Database) : Prop :=
  match act with
  | .record drawn _ call => Undirected engine drawn invoiceId call
  | .payment _ _ _ => True
  | .sale _ _ _ | .invoice _ _ _ => False

def InStep [Floats] (engine : Engine) (invoiceId : String) (act : Act) (db : Database) : Prop :=
  match act with
  | .record drawn auth call => Undirected engine drawn invoiceId call ∧
      ∀ result, handle engine drawn auth call db = .ok result → Steady engine drawn auth invoiceId call db
  | .payment supply member arguments =>
      ∀ result, recordPayment engine supply member arguments db = .ok result → Priced member invoiceId arguments db
  | .sale _ _ _ | .invoice _ _ _ => False

/-- How an invoice stands to its total and to the sum of its payments. -/
structure Stands [Floats] (invoice : Row) (sum : Double) : Prop where
  paid : invoice.cells "status" = .text "paid" ∧ invoice.cells "paid_at" ≠ .null ↔
    settled (invoiceTotal invoice) sum = true
  partly : invoice.cells "status" = .text "partial" ↔
    Double.zero.lt sum = true ∧ sum.lt (invoiceTotal invoice) = true
  unpaid : settled (invoiceTotal invoice) sum = false →
    ¬ (Double.zero.lt sum = true ∧ sum.lt (invoiceTotal invoice) = true) →
    invoice.cells "status" ≠ .text "paid" ∧ invoice.cells "status" ≠ .text "partial"

theorem not_lt_of_settled {total sum : Double} (reached : settled total sum = true) : sum.lt total = false := by
  rw [settled, Bool.and_eq_true] at reached
  have positive := Double.positive_of_atLeast reached.1 reached.2
  simpa [Double.atLeast_eq_not_lt positive reached.1] using reached.2

theorem stands_of_shows [Floats] {invoice : Row} {sum : Double} (shows : Shows invoice (stage (invoiceTotal invoice) sum)) :
    Stands invoice sum := by
  unfold stage at shows
  split at shows
  · next reached =>
    have below := not_lt_of_settled reached
    exact ⟨iff_of_true shows reached, by simp [shows.1, below], fun short => by simp [reached] at short⟩
  · next short =>
    split at shows
    · next between =>
      rw [Bool.and_eq_true] at between
      have status : invoice.cells "status" = .text "partial" := shows
      exact ⟨by simp [status, short], iff_of_true status between, fun _ other => absurd between other⟩
    · next outside =>
      rw [Bool.and_eq_true] at outside
      exact ⟨iff_of_false (fun paid => shows.1 paid.1) short, iff_of_false shows.2 outside, fun _ _ => shows⟩

theorem reflected_perform [Floats] {engine : Engine} {act : Act} {db : Database} {invoiceId : String}
    (isolated : Store.Isolated schema db.store) (inStep : InStep engine invoiceId act db)
    (reflected : Reflected act.tenantId invoiceId db.store) :
    Reflected act.tenantId invoiceId (act.perform engine db).store := by
  cases act with
  | record drawn auth call =>
    apply served_cases (fun db : Database => Reflected auth.tenantId invoiceId db.store) reflected
    intro value after done
    exact reflected_record isolated inStep.1 (inStep.2 _ done) (handle_performed done) reflected
  | payment supply member arguments =>
    apply served_cases (fun db : Database => Reflected member.auth.tenantId invoiceId db.store) reflected
    intro value after done
    exact reflected_payment (inStep _ done) done reflected
  | sale => exact inStep.elim
  | invoice => exact inStep.elim

theorem reflected_only [Floats] {tenantId invoiceId : String} {store store' : Store Model}
    (same : Store.only (some tenantId) store' = Store.only (some tenantId) store)
    (reflected : Reflected tenantId invoiceId store) : Reflected tenantId invoiceId store' := by
  intro invoice held
  have listed : invoice ∈ (Store.only (some tenantId) store' .invoice).rows :=
    Store.mem_only.mpr ⟨Table.find_mem held.1, held.2⟩
  rw [same] at listed
  have stood := Table.find_of_mem (Store.mem_only.mp listed).1
  rw [Table.find_key held.1] at stood
  have paid : receipts store' tenantId invoiceId = receipts store tenantId invoiceId := by
    rw [← receipts_only, same, receipts_only]
  rw [paid]
  exact reflected invoice ⟨stood, held.2⟩

/-- An invoice stands to its total and its payments as it should, whatever was paid, recorded or billed, as long as
each request keeps it in step. -/
theorem payments_agree [Floats] {engine : Engine} {tenantId invoiceId : String} {db : Database}
    (run : Run engine tenantId (InStep engine invoiceId) db) (invoice : Row) (held : Held tenantId invoiceId db.store invoice) :
    Stands invoice (Double.exactSum (receipts db.store tenantId invoiceId)) := by
  have reflected : Reflected tenantId invoiceId db.store := by
    apply run.invariant
    · exact fun store vacant invoice held => absurd held.2 (vacant _ invoice (Table.find_mem held.1))
    · exact fun _ _ => reflected_only
    · rintro db act isolated reflected rfl _ inStep
      exact reflected_perform isolated inStep reflected
  exact stands_of_shows (reflected invoice held)

/-! ### An invoice over a hundred -/

attribute [local instance] Floats.binary64

def invoiceDrafted : Act :=
  .record (drawnAt 0) (memberOf "first") (.route "invoices" (.create [("number", .str "I-1")]))

def hundredBilled : Act :=
  .record (drawnAt 1) (memberOf "first") (.route "invoice-items" (.create [
    ("invoice_id", .str (drawnAt 0).id.1), ("description", .str "Paper"), ("unit_price", .int 100)]))

def fortyRecorded : Act :=
  .payment ⟨fun _ => (drawnAt 2).id, ⟨"", by decide⟩, 0⟩ ⟨memberOf "first", fun _ => true⟩
    ⟨⟨(drawnAt 0).id.1, by decide⟩, .finite 40, none, none, none⟩

def fortyWritten : Act :=
  .record (drawnAt 2) (memberOf "first") (.route "payments" (.create [
    ("invoice_id", .str (drawnAt 0).id.1), ("amount", .int 40)]))

def hundredDue : Database := hundredBilled.perform plainEngine (invoiceDrafted.perform plainEngine startDatabase)

def standingAfter (act : Act) : Option (Cell × Double × Double) :=
  let store := (act.perform plainEngine hundredDue).store
  ((store .invoice).find (drawnAt 0).id).map fun invoice =>
    (invoice.cells "status", invoiceTotal invoice, Double.exactSum (receipts store "first" invoice.id))

theorem stage_zero (total : Double) : stage total .zero = .unpaid := by
  have short : settled total .zero = false := by
    by_contra reached
    rw [Bool.not_eq_false, settled, Bool.and_eq_true] at reached
    exact absurd (Double.positive_of_atLeast reached.1 reached.2) (by decide)
  have nothing : Double.zero.lt .zero = false := by decide
  simp [stage, short, nothing]

theorem undirected_invoiceDrafted : Indirect plainEngine (drawnAt 0).id invoiceDrafted startDatabase := by
  intro recordId payload writes _
  cases writes
  decide

theorem undirected_hundredBilled (db : Database) : Indirect plainEngine (drawnAt 0).id hundredBilled db := by
  intro recordId payload writes
  simp [Call.writes] at writes

theorem undirected_fortyWritten (db : Database) : Indirect plainEngine (drawnAt 0).id fortyWritten db := by
  intro recordId payload writes
  simp [Call.writes] at writes

theorem inStep_hundredBilled :
    InStep plainEngine (drawnAt 0).id hundredBilled (invoiceDrafted.perform plainEngine startDatabase) := by
  have lines : ∀ entry ∈ entityRegistry, entry.1 = "invoice-items" → entry.2.model ≠ .payment := by decide
  have nothing : receipts (invoiceDrafted.perform plainEngine startDatabase).store "first" (drawnAt 0).id = [] := by
    decide
  refine ⟨undirected_hundredBilled startDatabase, ?_⟩
  intro _ _ model parents store written _ invoice held
  constructor
  · intro payment
    cases written with
    | created known writes =>
      cases writes
      exact absurd payment (lines _ known rfl)
    | updated _ writes => cases writes
    | deleted _ removes => cases removes
  · intro _
    change stageOf _ (receipts _ "first" _) = stageOf _ (receipts _ "first" _)
    rw [nothing]
    exact (stage_zero _).trans (stage_zero _).symm

theorem run_hundredDue {allowed : Act → Database → Prop} (drafted : allowed invoiceDrafted startDatabase)
    (billed : allowed hundredBilled (invoiceDrafted.perform plainEngine startDatabase)) :
    Run plainEngine "first" allowed hundredDue := by
  have fresh : Fresh (drawnAt 1) (invoiceDrafted.perform plainEngine startDatabase) := by
    unfold Fresh
    decide
  exact ((Run.empty _ _).act invoiceDrafted rfl (fun _ _ => rfl) drafted).act hundredBilled rfl (fun _ => fresh) billed

theorem fresh_hundredDue : Fresh (drawnAt 2) hundredDue := by
  unfold Fresh
  decide +kernel

theorem payments_agree_forty : standingAfter fortyRecorded = some (.text "partial", .finite 100, .finite 40) ∧
    ∀ invoice, Held "first" (drawnAt 0).id (fortyRecorded.perform plainEngine hundredDue).store invoice →
      Stands invoice (Double.exactSum (receipts (fortyRecorded.perform plainEngine hundredDue).store "first" (drawnAt 0).id)) := by
  have drafted : InStep plainEngine (drawnAt 0).id invoiceDrafted startDatabase := by
    refine ⟨undirected_invoiceDrafted, ?_⟩
    intro _ _ _ _ _ _ _ invoice held
    cases held.1
  have paid : InStep plainEngine (drawnAt 0).id fortyRecorded hundredDue := by
    intro _ _ _ invoice held
    have total : ((hundredDue.store .invoice).find (drawnAt 0).id).map invoiceTotal = some (.finite 100) := by
      decide +kernel
    have nothing : receipts hundredDue.store "first" (drawnAt 0).id = [] := by decide +kernel
    have found : (hundredDue.store .invoice).find (drawnAt 0).id = some invoice := held.1
    rw [found, Option.map_some, Option.some.injEq] at total
    change (Double.zero.lt (coalescedSum (receipts _ "first" _ ++ _)) = true → _) ∧
      stage _ (coalescedSum (receipts _ "first" _ ++ _)) = stageOf _ (receipts _ "first" _ ++ _)
    rw [total, nothing]
    decide +kernel
  have run := (run_hundredDue drafted inStep_hundredBilled).act fortyRecorded rfl (fun _ => fresh_hundredDue) paid
  exact ⟨by decide +kernel, fun invoice held => payments_agree run invoice held⟩

/-- The same payment written as a record leaves the invoice a draft. -/
theorem written_payment_disagrees : ¬ ∀ db, Run plainEngine "first" (Indirect plainEngine (drawnAt 0).id) db →
    ∀ invoice, Held "first" (drawnAt 0).id db.store invoice →
      Stands invoice (Double.exactSum (receipts db.store "first" (drawnAt 0).id)) := by
  intro agree
  have run := (run_hundredDue undirected_invoiceDrafted (undirected_hundredBilled _)).act fortyWritten rfl
    (fun _ => fresh_hundredDue) (undirected_fortyWritten _)
  have standing : standingAfter fortyWritten = some (.text "draft", .finite 100, .finite 40) := by decide +kernel
  rw [standingAfter, Option.map_eq_some_iff] at standing
  obtain ⟨invoice, found, same⟩ := standing
  rw [Prod.mk.injEq, Prod.mk.injEq] at same
  obtain ⟨status, total, paid⟩ := same
  have member : invoice ∈ ((fortyWritten.perform plainEngine hundredDue).store .invoice).rows := Table.find_mem found
  have own : ∀ row ∈ ((fortyWritten.perform plainEngine hundredDue).store .invoice).rows, row.tenantId = some "first" := by
    decide +kernel
  have stands := agree _ run invoice ⟨found, own invoice member⟩
  rw [Table.find_key found] at paid
  have partly := stands.partly.mpr (by rw [paid, total]; decide)
  rw [status] at partly
  simp at partly

end Operly.Workspace.Records
