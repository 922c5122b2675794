import Operly.Workspace.Isolation

/-! The business transactions of a workspace that write records: a sale, a simple invoice and a payment. -/

namespace Operly.Workspace.Records
open Python Relational
open Store (isolated_insert only_insert_other)

abbrev Limited (maxLength : Nat) := { text : String // text.length ≤ maxLength }

def orElse {maxLength : Nat} (value : Option (Limited maxLength)) (default : String) : String :=
  match value with
  | some text => if text.1 = "" then default else text.1
  | none => default

def textOrNull {maxLength : Nat} (value : Option (Limited maxLength)) : Cell :=
  match value with
  | some text => .text text
  | none => .null

/-- What `uuid4` gives time and again, the number of an invoice, and one reading of the clock. -/
structure Supply where
  uid : Nat → Uid
  number : Limited 120
  now : Int

def Supply.drawn (supply : Supply) (n : Nat) : Drawn := ⟨supply.uid n, supply.now⟩

structure Member where
  auth : AuthContext
  can : String → Bool

/-- `db.add` of a new row, and its flush -/
def insertRow (drawn : Drawn) (tenantId : String) (model : Model) (values : Values) (store : Store Model) :
    Except Failure (Store Model) :=
  flushed (Store.insert schema model (newRow drawn tenantId model values) store)

def checkContact (store : Store Model) (tenantId : String) (contactId : Option (Limited 80)) : Except Failure Unit :=
  match keyOf (textOrNull contactId) with
  | none => .ok ()
  | some id =>
      if ((store .contact).find id).any fun row => row.tenantId = some tenantId then .ok ()
      else .error (.value "Customer does not belong to this workspace")

def days (count : Option Nat) : Int :=
  match count with
  | some 0 | none => 30 * 86400000000
  | some count => count * 86400000000

/-! ### A sale -/

structure SaleLine where
  catalogItemId : Option String
  description : Option (Limited 300)
  quantity : Nat
  unitPrice : Option Double

structure Sale where
  contactId : Option (Limited 80)
  items : List SaleLine
  paymentMethod : Option (Limited 60)
  dueDays : Option Nat
  notes : Option (Limited 10000)

structure SoldLine where
  catalogItemId : Cell
  description : String
  quantity : Nat
  unitPrice : Double

/-- What the lines so far have left: `drawn` identifiers are used up. -/
structure Basket where
  store : Store Model
  drawn : Nat
  total : Double
  lines : List SoldLine

section Transactions
variable (engine : Engine) (supply : Supply) (member : Member)

def lineItem (store : Store Model) (line : SaleLine) : Except Failure (Option Row) :=
  match (line.catalogItemId.map Cell.text).bind keyOf with
  | none => .ok none
  | some id =>
      match (store .catalogItem).find id with
      | none => .ok none
      | some item =>
          if item.tenantId = some member.auth.tenantId then .ok (some item)
          else .error (.value "A selected item does not belong to this workspace")

def textOf : Cell → String
  | .text value => value
  | _ => ""

def integerOf : Cell → Int
  | .integer value => value
  | _ => 0

def takeStock (orderId : String) (item : Row) (quantity : Nat) (basket : Basket) : Except Failure Basket :=
  if !member.can "inventory:write" then
    .error (.permission "Inventory authority is required to sell stocked products")
  else if integerOf (item.cells "stock_qty") < quantity then
    .error (.value ("Not enough stock for " ++ textOf (item.cells "name")))
  else do
    let store ← flushed (revise supply.now .catalogItem item
      [("stock_qty", .integer (integerOf (item.cells "stock_qty") - quantity))] basket.store)
    let store ← insertRow (supply.drawn basket.drawn) member.auth.tenantId .inventoryMovement
      [("item_id", .text item.id), ("quantity_change", .integer (-quantity)), ("reason", .text s!"sale:{orderId}")] store
    return { basket with store := store, drawn := basket.drawn + 1 }

def settleStock (orderId : String) (tracked : Bool) (item : Option Row) (quantity : Nat) (basket : Basket) :
    Except Failure Basket :=
  match item.filter fun row => tracked && row.cells "item_type" = .text "product" with
  | some row => takeStock supply member orderId row quantity basket
  | none => .ok basket

def soldLine [Floats] (line : SaleLine) (item : Option Row) : SoldLine where
  catalogItemId := (item.map fun row => Cell.text row.id).getD .null
  description := strip (orElse line.description ((item.map fun row => textOf (row.cells "name")).getD ""))
  quantity := line.quantity
  unitPrice := line.unitPrice.getD ((item.map fun row => amount (row.cells "price")).getD .zero)

def orderItemValues (orderId : String) (line : SoldLine) : Values :=
  [("order_id", .text orderId), ("catalog_item_id", line.catalogItemId), ("description", .text line.description),
    ("quantity", .integer line.quantity), ("unit_price", .float line.unitPrice)]

def sellLine [Floats] (orderId : String) (tracked : Bool) (line : SaleLine) (basket : Basket) : Except Failure Basket := do
  let item ← lineItem member basket.store line
  let sold := soldLine line item
  if sold.description = "" then .error (.value "Every sale line needs a description or catalog item")
  else
    let store ← insertRow (supply.drawn basket.drawn) member.auth.tenantId .orderItem (orderItemValues orderId sold) basket.store
    settleStock supply member orderId tracked item line.quantity {
      store := store
      drawn := basket.drawn + 1
      total := basket.total.add (sold.unitPrice.mul (.finite line.quantity)).cents
      lines := basket.lines ++ [sold] }

def sellLines [Floats] (orderId : String) (tracked : Bool) : List SaleLine → Basket → Except Failure Basket
  | [], basket => .ok basket
  | line :: rest, basket => do
      let basket ← sellLine supply member orderId tracked line basket
      sellLines orderId tracked rest basket

def invoiceItemValues (invoiceId : String) (line : SoldLine) : Values :=
  [("invoice_id", .text invoiceId), ("catalog_item_id", line.catalogItemId), ("description", .text line.description),
    ("quantity", .float (.finite line.quantity)), ("unit_price", .float line.unitPrice), ("discount", .float .zero),
    ("tax_rate", .float .zero)]

def billLines (invoiceId : String) : List SoldLine → Nat → Store Model → Except Failure (Store Model)
  | [], _, store => .ok store
  | line :: rest, drawn, store => do
      let store ← insertRow (supply.drawn drawn) member.auth.tenantId .invoiceItem (invoiceItemValues invoiceId line) store
      billLines invoiceId rest (drawn + 1) store

def invoiceValues (contactId orderId : Cell) (currency : String) (total : Double) (dueDays : Option Nat) (notes : String) :
    Values :=
  [("contact_id", contactId), ("order_id", orderId), ("number", .text supply.number), ("status", .text "due"),
    ("currency", .text currency), ("subtotal", .float total), ("tax", .float .zero), ("total", .float total),
    ("due_at", .moment (supply.now + days dueDays)), ("notes", .text notes)]

def paymentValues (contactId invoiceId orderId : Cell) (method : String) (reference : Cell) (paid : Double)
    (currency : Cell) (notes : String) : Values :=
  [("contact_id", contactId), ("invoice_id", invoiceId), ("order_id", orderId), ("direction", .text "incoming"),
    ("method", .text method), ("provider", .null), ("reference", reference), ("status", .text "completed"),
    ("amount", .float paid), ("currency", currency), ("paid_at", .moment supply.now), ("notes", .text notes)]

def paymentMethod (value : Option (Limited 60)) : String := lower (strip (orElse value "cash"))

def payLater (method : String) : Bool := ["pay_later", "invoice", "later"].contains method

def settleSale (sale : Sale) (db : Database) (orderId : String) (total : Double) (basket : Basket) :
    Except Failure (Store Model × Option String × Option String) :=
  let method := paymentMethod sale.paymentMethod
  let notes := strip (orElse sale.notes "")
  let paid := supply.drawn basket.drawn
  if payLater method then do
    let store ← insertRow paid member.auth.tenantId .invoice
      (invoiceValues supply (textOrNull sale.contactId) (.text orderId) "USD" total sale.dueDays notes) basket.store
    let store ← billLines supply member paid.id basket.lines (basket.drawn + 1) store
    return (store, some paid.id.1, none)
  else if Double.zero.lt total && moduleEnabled db member.auth.tenantId "finance" then
    if !member.can "finance:write" then .error (.permission "Finance authority is required to record payment")
    else do
      let store ← insertRow paid member.auth.tenantId .payment
        (paymentValues supply (textOrNull sale.contactId) .null (.text orderId) method .null total (.text "USD") notes) basket.store
      return (store, none, some paid.id.1)
  else .ok (basket.store, none, none)

def checkSale (sale : Sale) (db : Database) : Except Failure Unit := do
  if !moduleEnabled db member.auth.tenantId "sales" then .error (.permission "Sales module is disabled")
  else
    checkContact db.store member.auth.tenantId sale.contactId
    if payLater (paymentMethod sale.paymentMethod) &&
        !(member.can "finance:write" && moduleEnabled db member.auth.tenantId "finance") then
      .error (.permission "Finance authority is required to sell on account")
    else .ok ()

def orderValues (sale : Sale) : Values :=
  [("contact_id", textOrNull sale.contactId),
    ("status", .text (if payLater (paymentMethod sale.paymentMethod) then "confirmed" else "completed")),
    ("total", .float .zero), ("notes", .text (strip (orElse sale.notes "")))]

def idOrNull (id : Option String) : Json :=
  match id with
  | some text => .str text
  | none => .null

def completeSale [Floats] (sale : Sale) (db : Database) : Except Failure (Json × Database) := do
  checkSale member sale db
  let tenantId := member.auth.tenantId
  let order := newRow (supply.drawn 0) tenantId .businessOrder (orderValues sale)
  let store ← flushed (Store.insert schema .businessOrder order db.store)
  let basket ← sellLines supply member order.id (moduleEnabled db tenantId "inventory") sale.items ⟨store, 1, .zero, []⟩
  let total := basket.total.cents
  let store ← flushed (revise supply.now .businessOrder order [("total", .float total)] basket.store)
  let (store, invoiceId, paymentId) ← settleSale supply member sale db order.id total { basket with store := store }
  let number := if invoiceId.isSome then Json.str supply.number else .null
  return (.obj [("order_id", .str order.id), ("total", .float total), ("invoice_id", idOrNull invoiceId),
      ("invoice_number", number), ("payment_id", idOrNull paymentId)],
    db.record store ⟨tenantId, "workflow.sale.completed", "orders", some order.id,
      s!"Completed sale for ${engine.money total}", member.auth.actor⟩)

structure InvoiceArguments where
  contactId : Option (Limited 80)
  description : Limited 300
  amount : Double
  currency : Option (Limited 3)
  dueDays : Option Nat
  notes : Option (Limited 10000)

def invoiceCurrency (arguments : InvoiceArguments) : String := engine.upper (orElse arguments.currency "USD")

def createInvoice (arguments : InvoiceArguments) (db : Database) : Except Failure (Json × Database) :=
  if !moduleEnabled db member.auth.tenantId "finance" then .error (.permission "Finance module is disabled")
  else do
    let tenantId := member.auth.tenantId
    checkContact db.store tenantId arguments.contactId
    let invoice := supply.drawn 0
    let store ← insertRow invoice tenantId .invoice
      (invoiceValues supply (textOrNull arguments.contactId) .null (invoiceCurrency engine arguments) arguments.amount
        arguments.dueDays (strip (orElse arguments.notes ""))) db.store
    let store ← insertRow (supply.drawn 1) tenantId .invoiceItem
      (invoiceItemValues invoice.id ⟨.null, strip arguments.description, 1, arguments.amount⟩) store
    return (.obj [("invoice_id", .str invoice.id), ("number", .str supply.number), ("total", .float arguments.amount)],
      db.record store ⟨tenantId, "workflow.invoice.created", "invoices", some invoice.id,
        s!"Created invoice {supply.number.1} for ${engine.money arguments.amount}", member.auth.actor⟩)

structure PaymentArguments where
  invoiceId : Limited 80
  amount : Double
  method : Option (Limited 60)
  reference : Option (Limited 200)
  notes : Option (Limited 10000)

/-- What `_record_payment` sets on an invoice, given what has been paid. -/
def recordedState [Floats] (now : Int) (invoice : Row) (paid : Double) : Values :=
  if settled (invoiceTotal invoice) paid then [("status", .text "paid"), ("paid_at", paidAt now invoice)]
  else if Double.zero.lt paid then [("status", .text "partial"), ("paid_at", .null)]
  else if [Cell.text "paid", .text "partial"].contains (invoice.cells "status") then
    [("status", .text "due"), ("paid_at", .null)]
  else []

def paymentReference (arguments : PaymentArguments) : Cell :=
  let text := strip (orElse arguments.reference "")
  if text = "" then .null else .text text

def recordedPayment (arguments : PaymentArguments) (invoice : Row) : Values :=
  paymentValues supply (invoice.cells "contact_id") (.text invoice.id) (invoice.cells "order_id")
    (paymentMethod arguments.method) (paymentReference arguments) arguments.amount (invoice.cells "currency")
    (strip (orElse arguments.notes ""))

def paidInvoice (arguments : PaymentArguments) (db : Database) : Except Failure Row :=
  match ((db.store .invoice).find arguments.invoiceId).filter (Row.ownedBy (some member.auth.tenantId)) with
  | some invoice => .ok invoice
  | none => .error (.value "Invoice not found")

def recordPayment [Floats] (arguments : PaymentArguments) (db : Database) : Except Failure (Json × Database) :=
  if !moduleEnabled db member.auth.tenantId "finance" then .error (.permission "Finance module is disabled")
  else do
    let tenantId := member.auth.tenantId
    let invoice ← paidInvoice member arguments db
    let payment := supply.drawn 0
    let store ← insertRow payment tenantId .payment (recordedPayment supply arguments invoice) db.store
    let now := amended supply.now .invoice invoice
      (recordedState supply.now invoice (received store tenantId invoice.id))
    let store ← flushed (Store.update schema .invoice now store)
    return (.obj [("payment_id", .str payment.id), ("invoice_id", .str invoice.id),
        ("invoice_status", serializeValue (now.cells "status"))],
      db.record store ⟨tenantId, "workflow.payment.recorded", "payments", some payment.id,
        s!"Recorded ${engine.money arguments.amount} payment for " ++ textOf (invoice.cells "number"), member.auth.actor⟩)

end Transactions

/-! ### What a transaction keeps -/

section Kept
variable {tenantId : String} {store middle after : Store Model}

structure Kept (tenantId : String) (store after : Store Model) : Prop where
  isolated : Store.Isolated schema after
  others : ∀ tenant, tenant ≠ some tenantId → Store.only tenant after = Store.only tenant store

def Ours (tenantId : String) (store : Store Model) (model : Model) (cell : Cell) : Prop :=
  ∀ id target, cell = .text id → (store model).find id = some target → target.tenantId = some tenantId

theorem Kept.refl (isolated : Store.Isolated schema store) : Kept tenantId store store := ⟨isolated, fun _ _ => rfl⟩

theorem Kept.trans (first : Kept tenantId store middle) (second : Kept tenantId middle after) :
    Kept tenantId store after :=
  ⟨second.isolated, fun tenant apart => (second.others tenant apart).trans (first.others tenant apart)⟩

variable {model : Model} {row : Row} {values : Values}

theorem Ours.kept {cell : Cell} (ours : Ours tenantId store model cell) (kept : Kept tenantId store after) :
    Ours tenantId after model cell := by
  intro id target same found
  by_contra apart
  have others := congrFun (kept.others target.tenantId apart) model
  have still : (Store.only target.tenantId after model).find id = some target := by
    rw [Store.find_only, found]
    simp [Option.filter]
  rw [others, Store.find_only, Option.filter_eq_some_iff] at still
  exact apart (ours id target same still.1)

theorem ours_null : Ours tenantId store model .null := fun _ _ same => by cases same

theorem ours_of_find (found : (store model).find row.id = some row) (own : row.tenantId = some tenantId) :
    Ours tenantId store model (.text row.id) := by
  intro id target same held
  cases same
  rw [found, Option.some.injEq] at held
  rw [← held, own]

theorem kept_insertRow (isolated : Store.Isolated schema store) {drawn : Drawn}
    (ours : ∀ key ∈ foreignKeys model, Ours tenantId store key.target ((values.given key.field).getD .null))
    (inserted : insertRow drawn tenantId model values store = .ok after) : Kept tenantId store after := by
  have written := flushed_eq_ok.mp inserted
  refine ⟨isolated_insert isolated ?_ written, fun tenant apart => only_insert_other apart.symm written⟩
  intro key member id target held found
  exact ours key member id target (by rw [newRow_given member held, Option.getD_some]) found

theorem insertRow_ours {drawn : Drawn} (inserted : insertRow drawn tenantId model values store = .ok after) :
    Ours tenantId after model (.text drawn.id.1) := by
  have written := flushed_eq_ok.mp inserted
  show Ours tenantId after model (.text (newRow drawn tenantId model values).id)
  refine ours_of_find ?_ rfl
  rw [Store.find_insert written, (Store.insert_eq_some.mp written).1, Option.none_or, if_pos ⟨rfl, rfl⟩]

theorem insertRow_other {drawn : Drawn} {of : Model}
    (inserted : insertRow drawn tenantId model values store = .ok after) (other : of ≠ model) : after of = store of := by
  obtain ⟨-, rfl, -⟩ := Store.insert_eq_some.mp (flushed_eq_ok.mp inserted)
  exact Function.update_of_ne other ..

theorem revise_other {now : Int} {of : Model} (revised : revise now model row values store = some after)
    (other : of ≠ model) : after of = store of := by
  obtain ⟨rfl, -⟩ := Store.update_eq_some.mp revised
  exact Function.update_of_ne other ..

theorem kept_revise (isolated : Store.Isolated schema store) {now : Int}
    (found : (store model).find row.id = some row) (own : row.tenantId = some tenantId)
    (derived : ∀ entry ∈ values, entry.1 ∈ derivedColumns) (revised : revise now model row values store = some after) :
    Kept tenantId store after :=
  have confined := confined_revise isolated found own derived
  ⟨confined.isolated after revised, confined.others after revised⟩

theorem checkContact_ours {contactId : Option (Limited 80)} (checked : checkContact store tenantId contactId = .ok ()) :
    Ours tenantId store .contact (textOrNull contactId) := by
  intro id target same found
  cases contactId with
  | none => cases same
  | some text =>
    cases same
    have nonempty : text.1 ≠ "" := by
      intro empty
      have length := target.keyed
      rw [Table.find_key found, empty] at length
      cases length
    have named : keyOf (textOrNull (some text)) = some text.1 := by
      simp [textOrNull, keyOf, nonempty]
    unfold checkContact at checked
    rw [named] at checked
    dsimp only at checked
    split at checked
    · next own =>
      rw [found, Option.any_some, decide_eq_true_eq] at own
      exact own
    · cases checked

section Steps
variable {supply : Supply} {member : Member}

theorem lineItem_ours {line : SaleLine} {item : Option Row} (found : lineItem member store line = .ok item) :
    ∀ row ∈ item, (store .catalogItem).find row.id = some row ∧ row.tenantId = some member.auth.tenantId := by
  intro row itself
  unfold lineItem at found
  split at found
  · cases found
    cases itself
  · split at found
    · cases found
      cases itself
    · next item' held =>
      split at found
      · next own =>
        cases found
        cases itself
        exact ⟨Table.find_of_mem (Table.find_mem held), own⟩
      · cases found

def Basket.Ours (tenantId : String) (basket : Basket) : Prop :=
  ∀ line ∈ basket.lines, Records.Ours tenantId basket.store .catalogItem line.catalogItemId

variable {basket later : Basket} {orderId : String} {tracked : Bool} {sale : Sale} {db : Database}
  {result : Json × Database}

theorem Basket.Ours.kept (ours : basket.Ours tenantId) (same : later.lines = basket.lines)
    (kept : Kept tenantId basket.store later.store) : later.Ours tenantId := by
  intro line member
  rw [same] at member
  exact (ours line member).kept kept

theorem takeStock_kept {item : Row} {quantity : Nat} (isolated : Store.Isolated schema basket.store)
    (found : (basket.store .catalogItem).find item.id = some item) (own : item.tenantId = some member.auth.tenantId)
    (taken : takeStock supply member orderId item quantity basket = .ok later) :
    Kept member.auth.tenantId basket.store later.store ∧ later.lines = basket.lines ∧
      later.store .businessOrder = basket.store .businessOrder := by
  simp only [takeStock, check_eq_ok, bind_eq_ok, pure_eq_ok] at taken
  obtain ⟨-, -, stocked, revised, moved, inserted, rfl⟩ := taken
  have first := kept_revise isolated found own
    (derived_of_names ["stock_qty"] rfl (by decide)) (flushed_eq_ok.mp revised)
  have second : Kept member.auth.tenantId stocked moved := by
    apply kept_insertRow first.isolated _ inserted
    intro key known
    rw [List.mem_singleton.mp known]
    exact (ours_of_find found own).kept first
  exact ⟨first.trans second, rfl,
    (insertRow_other inserted (by decide)).trans (revise_other (flushed_eq_ok.mp revised) (by decide))⟩

theorem settleStock_kept {item : Option Row} {quantity : Nat} (isolated : Store.Isolated schema basket.store)
    (found : ∀ row ∈ item, (basket.store .catalogItem).find row.id = some row ∧ row.tenantId = some member.auth.tenantId)
    (settled : settleStock supply member orderId tracked item quantity basket = .ok later) :
    Kept member.auth.tenantId basket.store later.store ∧ later.lines = basket.lines ∧
      later.store .businessOrder = basket.store .businessOrder := by
  unfold settleStock at settled
  split at settled
  · next row product =>
    obtain ⟨held, own⟩ := found row (Option.filter_eq_some_iff.mp product).1
    exact takeStock_kept isolated held own settled
  · cases settled
    exact ⟨.refl isolated, rfl, rfl⟩

theorem sellLine_kept [Floats] {line : SaleLine} (isolated : Store.Isolated schema basket.store)
    (order : Records.Ours member.auth.tenantId basket.store .businessOrder (.text orderId))
    (ours : basket.Ours member.auth.tenantId) (sold : sellLine supply member orderId tracked line basket = .ok later) :
    Kept member.auth.tenantId basket.store later.store ∧ later.Ours member.auth.tenantId ∧
      later.store .businessOrder = basket.store .businessOrder := by
  simp only [sellLine, bind_eq_ok, check_eq_ok] at sold
  obtain ⟨item, found, -, store, inserted, settled⟩ := sold
  have known := lineItem_ours found
  have named : Records.Ours member.auth.tenantId basket.store .catalogItem (soldLine line item).catalogItemId := by
    cases item with
    | none => exact ours_null
    | some row => exact ours_of_find (known row rfl).1 (known row rfl).2
  have first : Kept member.auth.tenantId basket.store store := by
    apply kept_insertRow isolated _ inserted
    intro key listed
    rcases List.mem_cons.mp listed with rfl | later
    · exact order
    · rw [List.mem_singleton.mp later]
      exact named
  have still : ∀ row ∈ item, (store .catalogItem).find row.id = some row ∧ row.tenantId = some member.auth.tenantId := by
    intro row itself
    rw [Store.find_insert (flushed_eq_ok.mp inserted), (known row itself).1]
    exact ⟨rfl, (known row itself).2⟩
  obtain ⟨second, same, orders⟩ := settleStock_kept first.isolated still settled
  refine ⟨first.trans second, ?_, orders.trans (insertRow_other inserted (by decide))⟩
  intro line' member'
  rw [same, List.mem_append, List.mem_singleton] at member'
  rcases member' with earlier | rfl
  · exact ((ours line' earlier).kept first).kept second
  · exact (named.kept first).kept second

theorem sellLines_kept [Floats] {lines : List SaleLine} (isolated : Store.Isolated schema basket.store)
    (order : Records.Ours member.auth.tenantId basket.store .businessOrder (.text orderId))
    (ours : basket.Ours member.auth.tenantId)
    (sold : sellLines supply member orderId tracked lines basket = .ok later) :
    Kept member.auth.tenantId basket.store later.store ∧ later.Ours member.auth.tenantId ∧
      later.store .businessOrder = basket.store .businessOrder := by
  induction lines generalizing basket with
  | nil =>
    cases sold
    exact ⟨.refl isolated, ours, rfl⟩
  | cons line rest ih =>
    obtain ⟨middle, first, tail⟩ := bind_eq_ok.mp sold
    obtain ⟨kept, ours', orders⟩ := sellLine_kept isolated order ours first
    obtain ⟨kept', last, orders'⟩ := ih kept.isolated (order.kept kept) ours' tail
    exact ⟨kept.trans kept', last, orders'.trans orders⟩

theorem billLines_kept {invoiceId : String} {lines : List SoldLine} {drawn : Nat}
    (isolated : Store.Isolated schema store)
    (invoice : Ours member.auth.tenantId store .invoice (.text invoiceId))
    (ours : ∀ line ∈ lines, Ours member.auth.tenantId store .catalogItem line.catalogItemId)
    (billed : billLines supply member invoiceId lines drawn store = .ok after) : Kept member.auth.tenantId store after := by
  induction lines generalizing drawn store with
  | nil =>
    cases billed
    exact .refl isolated
  | cons line rest ih =>
    obtain ⟨middle, inserted, tail⟩ := bind_eq_ok.mp billed
    have first : Kept member.auth.tenantId store middle := by
      apply kept_insertRow isolated _ inserted
      intro key listed
      rcases List.mem_cons.mp listed with rfl | later
      · exact invoice
      · rw [List.mem_singleton.mp later]
        exact ours line List.mem_cons_self
    apply first.trans
    apply ih first.isolated (invoice.kept first) _ tail
    intro line' later
    exact (ours line' (List.mem_cons_of_mem _ later)).kept first

theorem settleSale_kept {total : Double} {paid : Option String × Option String}
    (isolated : Store.Isolated schema basket.store)
    (contact : Records.Ours member.auth.tenantId basket.store .contact (textOrNull sale.contactId))
    (order : Records.Ours member.auth.tenantId basket.store .businessOrder (.text orderId))
    (ours : basket.Ours member.auth.tenantId)
    (settled : settleSale supply member sale db orderId total basket = .ok (after, paid)) :
    Kept member.auth.tenantId basket.store after := by
  unfold settleSale at settled
  dsimp only at settled
  split at settled
  · simp only [bind_eq_ok, pure_eq_ok, Prod.mk.injEq] at settled
    obtain ⟨store, inserted, billed, lines, rfl, -⟩ := settled
    have first : Kept member.auth.tenantId basket.store store := by
      apply kept_insertRow isolated _ inserted
      intro key listed
      rcases List.mem_cons.mp listed with rfl | later
      · exact contact
      · rw [List.mem_singleton.mp later]
        exact order
    apply first.trans
    apply billLines_kept first.isolated (insertRow_ours inserted) _ lines
    exact fun line member => (ours line member).kept first
  · split at settled
    · simp only [check_eq_ok, bind_eq_ok, pure_eq_ok, Prod.mk.injEq] at settled
      obtain ⟨-, store, inserted, rfl, -⟩ := settled
      apply kept_insertRow isolated _ inserted
      intro key listed
      simp only [foreignKeys, List.mem_cons, List.not_mem_nil, or_false] at listed
      rcases listed with rfl | rfl | rfl
      · exact contact
      · exact ours_null
      · exact order
    · cases settled
      exact .refl isolated

theorem checkSale_contact (checked : checkSale member sale db = .ok ()) :
    Records.Ours member.auth.tenantId db.store .contact (textOrNull sale.contactId) := by
  simp only [checkSale, check_eq_ok, bind_eq_ok] at checked
  obtain ⟨-, _, contact, -⟩ := checked
  exact checkContact_ours contact

theorem completeSale_kept [Floats] {engine : Engine} (isolated : Store.Isolated schema db.store)
    (completed : completeSale engine supply member sale db = .ok result) :
    Kept member.auth.tenantId db.store result.2.store := by
  simp only [completeSale, bind_eq_ok, pure_eq_ok] at completed
  obtain ⟨_, checked, store, inserted, basket, sold, revised, totalled, ⟨settledStore, paid⟩, settled, rfl⟩ := completed
  have contact := checkSale_contact checked
  have first : Kept member.auth.tenantId db.store store := by
    apply kept_insertRow isolated _ inserted
    intro key listed
    rw [List.mem_singleton.mp listed]
    exact contact
  have order : Ours member.auth.tenantId store .businessOrder (.text (supply.drawn 0).id.1) := insertRow_ours inserted
  have empty : Basket.Ours member.auth.tenantId ⟨store, 1, .zero, []⟩ := fun line listed => by cases listed
  obtain ⟨second, ours, orders⟩ := sellLines_kept first.isolated order empty sold
  have held : (basket.store .businessOrder).find (supply.drawn 0).id = some
      (newRow (supply.drawn 0) member.auth.tenantId .businessOrder (orderValues sale)) := by
    have written := flushed_eq_ok.mp inserted
    have itself := (Store.insert_eq_some.mp written).1
    rw [orders, Store.find_insert written]
    exact (congrArg (Option.or · _) itself).trans (if_pos ⟨rfl, rfl⟩)
  have third := kept_revise second.isolated held rfl (derived_of_names ["total"] rfl (by decide)) (flushed_eq_ok.mp totalled)
  have whole := first.trans (second.trans third)
  have sold' : Basket.Ours member.auth.tenantId { basket with store := revised } := ours.kept rfl third
  have last := settleSale_kept third.isolated (contact.kept whole) (order.kept (second.trans third)) sold' settled
  exact whole.trans last

theorem createInvoice_kept {engine : Engine} {arguments : InvoiceArguments}
    (isolated : Store.Isolated schema db.store)
    (created : createInvoice engine supply member arguments db = .ok result) :
    Kept member.auth.tenantId db.store result.2.store := by
  simp only [createInvoice, check_eq_ok, bind_eq_ok, pure_eq_ok] at created
  obtain ⟨-, _, contact, store, inserted, billed, lined, rfl⟩ := created
  have first : Kept member.auth.tenantId db.store store := by
    apply kept_insertRow isolated _ inserted
    intro key listed
    rcases List.mem_cons.mp listed with rfl | later
    · exact checkContact_ours contact
    · rw [List.mem_singleton.mp later]
      exact ours_null
  apply first.trans
  apply kept_insertRow first.isolated _ lined
  intro key listed
  rcases List.mem_cons.mp listed with rfl | later
  · exact insertRow_ours inserted
  · rw [List.mem_singleton.mp later]
    exact ours_null

theorem paidInvoice_eq_ok {arguments : PaymentArguments} {invoice : Row} :
    paidInvoice member arguments db = .ok invoice ↔
      (db.store .invoice).find arguments.invoiceId = some invoice ∧ invoice.tenantId = some member.auth.tenantId := by
  rw [← Row.ownedBy_iff, ← Option.filter_eq_some_iff, paidInvoice]
  split
  · next found => rw [found, Except.ok.injEq, Option.some.injEq]
  · next missing => simp [missing]

theorem recordedState_names [Floats] (now : Int) (invoice : Row) (paid : Double) :
    ∀ entry ∈ recordedState now invoice paid, entry.1 ∈ ["status", "paid_at"] := by
  unfold recordedState
  split
  · simp
  · split
    · simp
    · split
      · simp
      · simp

theorem recordedState_derived [Floats] (now : Int) (invoice : Row) (paid : Double) :
    ∀ entry ∈ recordedState now invoice paid, entry.1 ∈ derivedColumns := by
  intro entry listed
  have derived : ∀ name ∈ ["status", "paid_at"], name ∈ derivedColumns := by decide
  exact derived entry.1 (recordedState_names now invoice paid entry listed)

theorem recordPayment_kept [Floats] {engine : Engine} {arguments : PaymentArguments}
    (isolated : Store.Isolated schema db.store)
    (recorded : recordPayment engine supply member arguments db = .ok result) :
    Kept member.auth.tenantId db.store result.2.store := by
  simp only [recordPayment, check_eq_ok, bind_eq_ok, pure_eq_ok] at recorded
  obtain ⟨-, invoice, held, store, inserted, updated, revised, rfl⟩ := recorded
  obtain ⟨found, own⟩ := paidInvoice_eq_ok.mp held
  have itself := Table.find_of_mem (Table.find_mem found)
  have vetted := isolated.vetted (Table.find_mem found)
  have named : ∀ key ∈ foreignKeys .invoice, Ours member.auth.tenantId db.store key.target (invoice.cells key.field) := by
    intro key known id target same target_found
    rw [← own]
    exact vetted key known id target same target_found
  have first : Kept member.auth.tenantId db.store store := by
    apply kept_insertRow isolated _ inserted
    intro key listed
    simp only [foreignKeys, List.mem_cons, List.not_mem_nil, or_false] at listed
    rcases listed with rfl | rfl | rfl
    · exact named ⟨"contact_id", .contact, .setNull⟩ (by simp [foreignKeys])
    · exact ours_of_find itself own
    · exact named ⟨"order_id", .businessOrder, .setNull⟩ (by simp [foreignKeys])
  have still : (store .invoice).find invoice.id = some invoice := by
    rw [insertRow_other inserted (by decide), itself]
  exact first.trans (kept_revise first.isolated still own (recordedState_derived _ _ _) (flushed_eq_ok.mp revised))

end Steps

end Kept

end Operly.Workspace.Records
