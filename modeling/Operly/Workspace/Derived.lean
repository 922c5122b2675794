import Operly.Workspace.Records

/-! What a record request refreshes besides its record: the amounts of the parent of a line, the payment
state of an invoice, and the dates of a lead. -/

namespace Operly.Workspace.Records
open Python Relational

/-- `db.get(model, id)`, unless there is no id or the row belongs to another workspace -/
def ownedRow (tenantId : String) (model : Model) (id : Cell) (store : Store Model) : Option Row :=
  (keyOf id).bind fun key => ((store model).find key).filter (Row.ownedBy (some tenantId))

theorem ownedRow_spec {tenantId : String} {model : Model} {id : Cell} {store : Store Model} {row : Row}
    (found : ownedRow tenantId model id store = some row) :
    id = .text row.id ∧ (store model).find row.id = some row ∧ row.tenantId = some tenantId := by
  rw [ownedRow, Option.bind_eq_some_iff] at found
  obtain ⟨key, named, held⟩ := found
  rw [Option.filter_eq_some_iff, Row.ownedBy_iff] at held
  have same := Table.find_key held.1
  subst same
  refine ⟨?_, held⟩
  unfold keyOf at named
  split at named
  · rw [Option.ite_none_left_eq_some, Option.some.injEq] at named
    rw [named.2]
  · cases named

variable [Floats]

/-! ### Lines and the amounts of their parents -/

def amount : Cell → Double
  | .integer value => Floats.rounded value
  | .float value => value.unsigned
  | _ => .zero

structure Figures where
  quantity : Double
  price : Double
  discount : Double
  taxRate : Double

namespace Figures

def base (line : Figures) : Double := line.quantity.mul line.price

def net (line : Figures) : Double := (line.base.sub line.discount).nonnegative

end Figures

structure Tally where
  line : Model
  parent : Model
  /-- the column of a line that names its parent -/
  field : String
  figures : Row → Figures
  /-- the columns of the parent that the lines determine -/
  amounts : Row → List Figures → Values

def orderTally : Tally where
  line := .orderItem
  parent := .businessOrder
  field := "order_id"
  figures row := ⟨amount (row.cells "quantity"), amount (row.cells "unit_price"), .zero, .zero⟩
  amounts _ lines := [("total", .float (Floats.sum (lines.map Figures.base)).cents)]

def quoteTally : Tally where
  line := .quoteItem
  parent := .quote
  field := "quote_id"
  figures row := ⟨amount (row.cells "quantity"), amount (row.cells "unit_price"), amount (row.cells "discount"),
    amount (row.cells "tax_rate")⟩
  amounts _ lines :=
    let total := Double.sum (lines.map fun line => line.net.add (line.net.mul line.taxRate).percent)
    [("total", .float total.cents)]

def purchaseOrderTally : Tally where
  line := .purchaseOrderItem
  parent := .purchaseOrder
  field := "purchase_order_id"
  figures row := ⟨amount (row.cells "quantity"), amount (row.cells "unit_cost"), .zero, amount (row.cells "tax_rate")⟩
  amounts parent lines :=
    let subtotal := Floats.sum (lines.map Figures.base)
    let tax := Floats.sum (lines.map fun line => (line.base.mul line.taxRate).percent)
    [("subtotal", .float subtotal.cents),
      ("total", .float ((subtotal.add tax).add (amount (parent.cells "shipping_cost"))).cents)]

def invoiceTally : Tally where
  line := .invoiceItem
  parent := .invoice
  field := "invoice_id"
  figures row := ⟨amount (row.cells "quantity"), amount (row.cells "unit_price"), amount (row.cells "discount"),
    amount (row.cells "tax_rate")⟩
  amounts _ lines :=
    let subtotal := Double.sum (lines.map Figures.net)
    let tax := Double.sum (lines.map fun line => (line.net.mul line.taxRate).percent)
    [("subtotal", .float subtotal.cents), ("tax", .float tax.cents), ("total", .float (subtotal.add tax).cents)]

def tallyOf : Model → Option Tally
  | .orderItem => some orderTally
  | .quoteItem => some quoteTally
  | .purchaseOrderItem => some purchaseOrderTally
  | .invoiceItem => some invoiceTally
  | _ => none

def linesOf (tally : Tally) (store : Store Model) (tenantId : String) (parentId : String) : List Row :=
  (store tally.line).select fun row => row.tenantId = some tenantId && row.cells tally.field = .text parentId

def recalculated (tally : Tally) (store : Store Model) (tenantId : String) (parent : Row) : Values :=
  tally.amounts parent ((linesOf tally store tenantId parent.id).map tally.figures)

/-- `_recalculate_parent`, in the branch of a kind of lines -/
def recalculate (tally : Tally) (now : Int) (tenantId : String) (parentId : Cell) (store : Store Model) :
    Option (Store Model) :=
  match ownedRow tenantId tally.parent parentId store with
  | some parent => revise now tally.parent parent (recalculated tally store tenantId parent) store
  | none => some store

def recalculateParent (now : Int) (tenantId : String) (model : Model) (parentId : Cell) (store : Store Model) :
    Option (Store Model) :=
  match tallyOf model with
  | some tally => recalculate tally now tenantId parentId store
  | none => some store

def countsFor (tenantId : String) (invoiceId : String) (row : Row) : Bool :=
  row.tenantId = some tenantId && row.cells "invoice_id" = .text invoiceId &&
    row.cells "direction" = .text "incoming" && row.cells "status" = .text "completed"

def receipts (store : Store Model) (tenantId : String) (invoiceId : String) : List Double :=
  ((store .payment).select (countsFor tenantId invoiceId)).map fun row => amount (row.cells "amount")

/-- `coalesce(sum(amount), 0)` -/
def coalescedSum : List Double → Double
  | [] => .zero
  | amounts => Floats.total amounts

def received (store : Store Model) (tenantId : String) (invoiceId : String) : Double :=
  coalescedSum (receipts store tenantId invoiceId)

def invoiceTotal (invoice : Row) : Double := amount (invoice.cells "total")

/-- `total > 0 and paid >= total` -/
def settled (total paid : Double) : Bool := Double.zero.lt total && paid.atLeast total

/-- `invoice.paid_at or datetime.utcnow()` -/
def paidAt (now : Int) (invoice : Row) : Cell :=
  if invoice.cells "paid_at" = .null then .moment now else invoice.cells "paid_at"

/-- What `_sync_invoice_payment_state` sets on an invoice. -/
def syncedState (now : Int) (invoice : Row) (paid : Double) : Values :=
  if settled (invoiceTotal invoice) paid then [("status", .text "paid"), ("paid_at", paidAt now invoice)]
  else if invoice.cells "status" = .text "paid" && paid.lt (invoiceTotal invoice) then
    [("status", .text "due"), ("paid_at", .null)]
  else []

def syncInvoicePaymentState (now : Int) (tenantId : String) (invoiceId : Cell) (store : Store Model) :
    Option (Store Model) :=
  match ownedRow tenantId .invoice invoiceId store with
  | some invoice => revise now .invoice invoice (syncedState now invoice (received store tenantId invoice.id)) store
  | none => some store

def contacted (now : Int) (interaction : Row) : Values :=
  let occurred := if interaction.cells "occurred_at" = .null then .moment now else interaction.cells "occurred_at"
  let direct := [Cell.text "call", .text "email", .text "meeting", .text "message"].contains
    (interaction.cells "interaction_type")
  [("last_activity_at", occurred)] ++ (if direct then [("last_contacted_at", occurred)] else []) ++
    if interaction.cells "next_action_at" = .null then []
    else [("next_action_at", interaction.cells "next_action_at")]

def touchLead (now : Int) (tenantId : String) (interaction : Row) (store : Store Model) : Option (Store Model) :=
  match ownedRow tenantId .lead (interaction.cells "lead_id") store with
  | some lead => revise now .lead lead (contacted now interaction) store
  | none => some store

def parentField : Model → Option String
  | .orderItem => some "order_id"
  | .quoteItem => some "quote_id"
  | .purchaseOrderItem => some "purchase_order_id"
  | .invoiceItem => some "invoice_id"
  | .payment => some "invoice_id"
  | _ => none

def parentOf (model : Model) (row : Row) : Cell := ((parentField model).map row.cells).getD .null

def refreshParent (now : Int) (tenantId : String) (model : Model) (parentId : Cell) (store : Store Model) :
    Option (Store Model) :=
  if model = .payment then syncInvoicePaymentState now tenantId parentId store
  else recalculateParent now tenantId model parentId store

def refreshOldParent (now : Int) (tenantId : String) (model : Model) (row : Row) (oldParent : Cell)
    (store : Store Model) : Option (Store Model) :=
  if oldParent ≠ parentOf model row then refreshParent now tenantId model oldParent store else some store

def afterRecordMutation (now : Int) (tenantId : String) (model : Model) (row : Row) (oldParent : Cell)
    (store : Store Model) : Option (Store Model) :=
  if model = .crmInteraction then touchLead now tenantId row store
  else refreshOldParent now tenantId model row oldParent store >>=
    refreshParent now tenantId model (parentOf model row)

theorem afterRecordMutation_rule {now : Int} {tenantId : String} {model : Model} {row : Row} {oldParent : Cell}
    {store after : Store Model} (pending : List Cell → Store Model → Prop)
    (done : afterRecordMutation now tenantId model row oldParent store = some after)
    (refresh : ∀ id rest store after, pending (id :: rest) store →
      refreshParent now tenantId model id store = some after → pending rest after)
    (once : ∀ id, pending [id, id] store → pending [id] store)
    (lead : model = .crmInteraction → touchLead now tenantId row store = some after → pending [] after)
    (before : pending [oldParent, parentOf model row] store) : pending [] after := by
  unfold afterRecordMutation at done
  split at done
  · next interaction => exact lead interaction done
  · obtain ⟨middle, first, second⟩ := Option.bind_eq_some_iff.mp done
    refine refresh _ _ _ _ ?_ second
    unfold refreshOldParent at first
    split at first
    · exact refresh _ _ _ _ before first
    · next same =>
      cases first
      rw [not_not] at same
      rw [same] at before
      exact once _ before

end Operly.Workspace.Records
