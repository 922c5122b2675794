import Mathlib.Data.PNat.Basic
import Operly.Workspace.Authority

/-! The stock of a catalog item and its movements. A sale and an adjustment read the stock, compute the
new one and write it back as an absolute quantity, each with the movements that explain it. -/

namespace Operly.Workspace.Inventory
open Python Concurrent Relational Security Fallible Transaction

structure CatalogItem where
  id : String
  tenantId : String
  name : String
  itemType : String
  price : Double
  stockQty : Int
  deriving DecidableEq

structure InventoryMovement where
  id : String
  tenantId : String
  itemId : String
  quantityChange : Int
  reason : String
  deriving DecidableEq

structure BusinessOrder where
  id : String
  tenantId : String
  contactId : Option String
  status : String
  total : Double
  notes : String

structure OrderItem where
  tenantId : String
  orderId : String
  catalogItemId : Option String
  description : String
  quantity : Int
  unitPrice : Double

structure Invoice where
  id : String
  tenantId : String
  contactId : Option String
  orderId : String
  number : String
  status : String
  total : Double
  dueAt : Int
  notes : String

structure InvoiceItem where
  tenantId : String
  invoiceId : String
  catalogItemId : Option String
  description : String
  quantity : Int
  unitPrice : Double

structure Payment where
  id : String
  tenantId : String
  contactId : Option String
  orderId : String
  direction : String
  method : String
  status : String
  amount : Double
  paidAt : Int
  notes : String

structure WorkspaceModule where
  tenantId : String
  moduleKey : String
  enabled : Bool

structure Contact where
  id : String
  tenantId : String

structure State where
  directory : Directory
  modules : List WorkspaceModule
  contacts : List Contact
  items : Table CatalogItem String CatalogItem.id
  movements : List InventoryMovement
  orders : List BusinessOrder := []
  orderItems : List OrderItem := []
  invoices : List Invoice := []
  invoiceItems : List InvoiceItem := []
  payments : List Payment := []
  events : List ActivityEvent := []

/-- The sum of `quantity_change` over the movements of an item. -/
def moved (movements : List InventoryMovement) (itemId : String) : Int :=
  (movements.map fun row => if row.itemId = itemId then row.quantityChange else 0).sum

def State.Balanced (initial : String → Int) (state : State) : Prop :=
  ∀ item ∈ state.items.rows, item.stockQty = initial item.id + moved state.movements item.id

def State.Stocked (state : State) : Prop := ∀ item ∈ state.items.rows, 0 ≤ item.stockQty

instance (initial : String → Int) (state : State) : Decidable (state.Balanced initial) :=
  inferInstanceAs (Decidable (∀ item ∈ state.items.rows, item.stockQty = initial item.id + moved state.movements item.id))

instance (state : State) : Decidable state.Stocked :=
  inferInstanceAs (Decidable (∀ item ∈ state.items.rows, 0 ≤ item.stockQty))

inductive Query where
  | tenant (id : String)
  | user (id : String)
  | module (tenantId key : String)
  | contact (id : String)
  | item (id : String)
  | uid
  | invoiceNumber
  | utcnow

def queries : Interface where
  Op := Query
  Answer
    | .tenant _ => Option String
    | .user _ => Option AppUser
    | .module .. => Option WorkspaceModule
    | .contact _ => Option Contact
    | .item _ => Option CatalogItem
    | .uid | .invoiceNumber => String
    | .utcnow => Int

/-- An item in the identity map of a session: as it was loaded, and its stock as it was set since. -/
structure Held where
  loaded : CatalogItem
  stockQty : Int

def Held.id (held : Held) : String := held.loaded.id

abbrev IdentityMap := Table Held String Held.id

def Held.dirty (held : Held) : Bool := held.stockQty ≠ held.loaded.stockQty

structure Flush where
  held : IdentityMap := .empty
  movements : List InventoryMovement
  order : Option BusinessOrder := none
  orderItems : List OrderItem := []
  invoice : Option Invoice := none
  invoiceItems : List InvoiceItem := []
  payment : Option Payment := none
  event : ActivityEvent

/-- `UPDATE catalog_items` of an item that the session holds. -/
def restock (held : IdentityMap) (now : CatalogItem) : CatalogItem :=
  match held.find now.id with
  | some row => { now with stockQty := written row.loaded.stockQty row.stockQty now.stockQty }
  | none => now

theorem restock_id (held : IdentityMap) (now : CatalogItem) : (restock held now).id = now.id := by
  unfold restock
  split <;> rfl

def commit (flush : Flush) (state : State) : Option State :=
  if flush.held.rows.any fun row => row.dirty && (state.items.find row.id).isNone then none
  else some { state with
    items := state.items.modify (restock flush.held) (restock_id flush.held)
    movements := state.movements ++ flush.movements
    orders := state.orders ++ flush.order.toList
    orderItems := state.orderItems ++ flush.orderItems
    invoices := state.invoices ++ flush.invoice.toList
    invoiceItems := state.invoiceItems ++ flush.invoiceItems
    payments := state.payments ++ flush.payment.toList
    events := state.events ++ [flush.event] }

structure Drawn where
  text : String
  now : Int

def database : Database queries Flush State Drawn where
  select
    | .tenant id, _, state => (state.directory.tenants.find? (· = id), state)
    | .user id, _, state => (state.directory.users.find? (·.id = id), state)
    | .module tenantId key, _, state =>
        (state.modules.find? fun row => row.tenantId = tenantId ∧ row.moduleKey = key, state)
    | .contact id, _, state => (state.contacts.find? (·.id = id), state)
    | .item id, _, state => (state.items.find id, state)
    | .uid, drawn, state | .invoiceNumber, drawn, state => (drawn.text, state)
    | .utcnow, drawn, state => (drawn.now, state)
  commit := commit

abbrev Session (α : Type) := Transaction queries Flush CapabilityError α

def ask (query : Query) : Session (queries.Answer query) :=
  Transaction.select (show queries.Op from query)

/-- `_module_enabled`, for modules that are not locked and enabled by default -/
def moduleEnabled (tenantId key : String) : Session Bool := do
  let row : Option WorkspaceModule ← ask (.module tenantId key)
  return (row.map WorkspaceModule.enabled).getD true

/-! ### A sale -/

structure Amounts where
  /-- `round(unit_price * quantity, 2)` -/
  line : Double → Int → Double
  add : Double → Double → Double
  round : Double → Double
  positive : Double → Bool
  /-- `{total:,.2f}` -/
  text : Double → String

/-- A line as the input schema admits it: the quantity is an integer from one on. -/
structure SaleLine where
  catalogItemId : Option String
  description : Option String
  quantity : ℕ+
  unitPrice : Option Double

structure Sale where
  contactId : Option String
  items : List SaleLine
  paymentMethod : Option String
  dueDays : Option Nat
  notes : Option String

structure Basket where
  held : IdentityMap := .empty
  movements : List InventoryMovement := []
  total : Double := .finite 0
  orderItems : List OrderItem := []

/-- `db.get(CatalogItem, id)`: from the identity map if it is there. -/
def getItem (held : IdentityMap) (id : String) : Session (Option Held × IdentityMap) :=
  match held.find id with
  | some row => return (some row, held)
  | none => do
      let found : Option CatalogItem ← ask (.item id)
      match found with
      | some item => return (some ⟨item, item.stockQty⟩, held.insert ⟨item, item.stockQty⟩)
      | none => return (none, held)

def priced (amounts : Amounts) (tenantId orderId description : String) (item : Option CatalogItem) (line : SaleLine)
    (basket : Basket) (held : IdentityMap) : Basket :=
  let unitPrice := line.unitPrice.getD ((item.map CatalogItem.price).getD (.finite 0))
  { basket with
    held := held
    total := amounts.add basket.total (amounts.line unitPrice line.quantity)
    orderItems := basket.orderItems ++
      [⟨tenantId, orderId, item.map CatalogItem.id, description, line.quantity, unitPrice⟩] }

def lineItem (held : IdentityMap) (line : SaleLine) : Session (Option Held × IdentityMap) :=
  if isSet line.catalogItemId then getItem held (line.catalogItemId.getD "") else return (none, held)

def takeStock (context : ExecutionContext) (tenantId orderId : String) (basket : Basket) (row : Held)
    (quantity : ℕ+) : Session Basket := do
  if !context.can "inventory:write" then
    raise (.permission "Inventory authority is required to sell stocked products")
  if row.stockQty < quantity then
    raise (.value s!"Not enough stock for {row.loaded.name}")
  let id : String ← ask .uid
  return { basket with
    held := basket.held.replace { row with stockQty := row.stockQty - quantity }
    movements := basket.movements ++ [⟨id, tenantId, row.loaded.id, -quantity, s!"sale:{orderId}"⟩] }

def sellLine (amounts : Amounts) (context : ExecutionContext) (tenantId orderId : String) (inventoryEnabled : Bool)
    (basket : Basket) (line : SaleLine) : Session Basket := do
  let (found, held) ← lineItem basket.held line
  let item := found.map Held.loaded
  if item.any (·.tenantId ≠ tenantId) then
    raise (.value "A selected item does not belong to this workspace")
  let description := strip (if isSet line.description then line.description.getD ""
    else (item.map CatalogItem.name).getD "")
  if description = "" then
    raise (.value "Every sale line needs a description or catalog item")
  let basket := priced amounts tenantId orderId description item line basket held
  match found.filter fun row => inventoryEnabled && row.loaded.itemType = "product" with
  | none => return basket
  | some row => takeStock context tenantId orderId basket row line.quantity

def sellLines (amounts : Amounts) (context : ExecutionContext) (tenantId orderId : String) (inventoryEnabled : Bool) :
    List SaleLine → Basket → Session Basket
  | [], basket => return basket
  | line :: rest, basket => do
      let basket ← sellLine amounts context tenantId orderId inventoryEnabled basket line
      sellLines amounts context tenantId orderId inventoryEnabled rest basket

structure SaleResult where
  orderId : String
  total : Double
  invoiceId : Option String
  invoiceNumber : Option String
  paymentId : Option String

def payLater (paymentMethod : String) : Bool := ["pay_later", "invoice", "later"].contains paymentMethod

def bill (tenantId orderId : String) (sale : Sale) (total : Double) (notes : String) : Session Invoice := do
  let number : String ← ask .invoiceNumber
  let now : Int ← ask .utcnow
  let id : String ← ask .uid
  let days := match sale.dueDays with
    | some 0 | none => 30
    | some days => days
  return ⟨id, tenantId, sale.contactId, orderId, number, "due", total, now + days * 86400000000, notes⟩

/-- The payment of a sale, unless there is nothing to pay or no finance module. -/
def pay (amounts : Amounts) (context : ExecutionContext) (tenantId orderId paymentMethod : String) (sale : Sale)
    (total : Double) (notes : String) : Session (Option Payment) :=
  if amounts.positive total then do
    let enabled ← moduleEnabled tenantId "finance"
    if enabled then do
      if !context.can "finance:write" then
        raise (.permission "Finance authority is required to record payment")
      let now : Int ← ask .utcnow
      let id : String ← ask .uid
      return some ⟨id, tenantId, sale.contactId, orderId, "incoming", paymentMethod, "completed", total, now, notes⟩
    else return none
  else return none

def checkCustomer (tenantId : String) (contactId : Option String) : Session Unit :=
  if isSet contactId then do
    let contact : Option Contact ← ask (.contact (contactId.getD ""))
    if !(contact.any (·.tenantId = tenantId)) then
      raise (.value "Customer does not belong to this workspace")
    return ()
  else return ()

def financeAllowed (context : ExecutionContext) (tenantId : String) : Session Bool :=
  if context.can "finance:write" then moduleEnabled tenantId "finance" else return false

def checkAccount (context : ExecutionContext) (tenantId paymentMethod : String) : Session Unit :=
  if payLater paymentMethod then do
    let allowed ← financeAllowed context tenantId
    if !allowed then
      raise (.permission "Finance authority is required to sell on account")
    return ()
  else return ()

def settle (amounts : Amounts) (context : ExecutionContext) (tenantId orderId paymentMethod : String) (sale : Sale)
    (total : Double) (notes : String) (flush : Flush) : Session (SaleResult × Flush) :=
  if payLater paymentMethod then do
    let invoice ← bill tenantId orderId sale total notes
    let invoiceItems := flush.orderItems.map fun row : OrderItem =>
      (⟨tenantId, invoice.id, row.catalogItemId, row.description, row.quantity, row.unitPrice⟩ : InvoiceItem)
    return (⟨orderId, total, invoice.id, invoice.number, none⟩, { flush with invoice := invoice, invoiceItems })
  else do
    let payment ← pay amounts context tenantId orderId paymentMethod sale total notes
    return (⟨orderId, total, none, none, payment.map Payment.id⟩, { flush with payment })

/-- `_complete_sale`, with what it has composed -/
def completeSale (amounts : Amounts) (auth : AuthContext) (context : ExecutionContext) (sale : Sale) :
    Session (SaleResult × Flush) := do
  let tenantId := auth.tenantId
  let enabled ← moduleEnabled tenantId "sales"
  if !enabled then
    raise (.permission "Sales module is disabled")
  checkCustomer tenantId sale.contactId
  let paymentMethod := lower (strip (if isSet sale.paymentMethod then sale.paymentMethod.getD "" else "cash"))
  checkAccount context tenantId paymentMethod
  let inventoryEnabled ← moduleEnabled tenantId "inventory"
  let orderId : String ← ask .uid
  let notes := strip (sale.notes.getD "")
  let basket ← sellLines amounts context tenantId orderId inventoryEnabled sale.items {}
  let total := amounts.round basket.total
  let status := if payLater paymentMethod then "confirmed" else "completed"
  settle amounts context tenantId orderId paymentMethod sale total notes {
    held := basket.held
    movements := basket.movements
    order := some ⟨orderId, tenantId, sale.contactId, status, total, notes⟩
    orderItems := basket.orderItems
    event := ⟨tenantId, "workflow.sale.completed", "orders", orderId,
      s!"Completed sale for ${amounts.text total}", auth.actor⟩ }

structure Adjustment where
  itemId : String
  quantityChange : Int
  reason : Option String

structure AdjustmentResult where
  itemId : String
  stockQty : Int
  movementId : String

/-- `_clean_text` with a bound -/
def cleanText (value : String) (maxLength : Nat) : String :=
  String.ofList ((" ".intercalate (words (String.ofList (value.toList.filter fun c => c.toNat ≠ 0)))).toList.take maxLength)

def signed (change : Int) : String := if 0 ≤ change then "+" ++ toString change else toString change

/-- `_inventory_adjust`, with what it has composed -/
def inventoryAdjust (auth : AuthContext) (adjustment : Adjustment) : Session (AdjustmentResult × Flush) := do
  let enabled ← moduleEnabled auth.tenantId "inventory"
  if !enabled then
    raise (.permission "Inventory module is disabled")
  let found : Option CatalogItem ← ask (.item adjustment.itemId)
  match found.filter (·.tenantId = auth.tenantId) with
  | none => raise (.value "Catalog item not found")
  | some item =>
      let reason := cleanText (if isSet adjustment.reason then adjustment.reason.getD "" else "adjustment") 200
      let stockQty := item.stockQty + adjustment.quantityChange
      let id : String ← ask .uid
      return (⟨item.id, stockQty, id⟩, {
        held := Table.empty.insert ⟨item, stockQty⟩
        movements := [⟨id, auth.tenantId, item.id, adjustment.quantityChange, reason⟩]
        event := activity auth "updated" "inventory" item.id
          s!"Adjusted {item.name} stock by {signed adjustment.quantityChange}" })

inductive Call where
  | complete (sale : Sale)
  | adjust (adjustment : Adjustment)

inductive Reply where
  | completed (result : SaleResult)
  | adjusted (result : AdjustmentResult)

/-- The providers of the two capabilities differ in what they say to a caller without a workspace. -/
def Call.unauthorized : Call → String
  | .complete _ => "Workspace business capability requires a workspace member"
  | .adjust _ => "Workspace control capability requires a workspace member"

def handler (amounts : Amounts) (auth : AuthContext) (context : ExecutionContext) : Call → Session (Reply × Flush)
  | .complete sale => do
      let (result, flush) ← completeSale amounts auth context sale
      return (.completed result, flush)
  | .adjust adjustment => do
      let (result, flush) ← inventoryAdjust auth adjustment
      return (.adjusted result, flush)

def main (amounts : Amounts) (_ : Nat) (entry : ExecutionContext × Call) :
    Program (sessions queries Flush) (Except CapabilityError Reply) :=
  (Transaction.commits .database do
    let auth ← authContext entry.2.unauthorized (fun id => ask (.tenant id)) (fun id => ask (.user id)) entry.1
    handler amounts auth entry.1 entry.2).run

/-! ### What a session composes -/

def answers : (query : queries.Op) → queries.Answer query → Prop
  | .item id, found => ∀ item : CatalogItem, found = some item → item.id = id
  | _, _ => True

theorem moved_append (first later : List InventoryMovement) (itemId : String) :
    moved (first ++ later) itemId = moved first itemId + moved later itemId := by
  rw [moved, List.map_append, List.sum_append]
  rfl

def change (held : IdentityMap) (itemId : String) : Int :=
  match held.find itemId with
  | some row => row.stockQty - row.loaded.stockQty
  | none => 0

variable {held : IdentityMap} {basket : Basket} {flush : Flush} {state after : State}

theorem change_insert {item : CatalogItem} (absent : held.find item.id = none) (itemId : String) :
    change (held.insert ⟨item, item.stockQty⟩) itemId = change held itemId := by
  unfold change
  rw [Table.find_insert]
  by_cases same : itemId = item.id
  · subst same
    rw [absent]
    simp [Held.id]
  · simp [Held.id, same]

theorem change_replace {row : Held} (found : held.find row.id = some row) (stockQty : Int) (itemId : String) :
    change (held.replace { row with stockQty := stockQty }) itemId =
      change held itemId + if row.id = itemId then stockQty - row.stockQty else 0 := by
  unfold change
  rw [Table.find_replace]
  by_cases same : itemId = row.id
  · subst same
    have own : ({ row with stockQty := stockQty } : Held).id = row.id := rfl
    rw [if_pos own.symm, found, if_pos rfl]
    simp only [Option.map_some]
    omega
  · have other : itemId ≠ ({ row with stockQty := stockQty } : Held).id := same
    rw [if_neg other, if_neg (Ne.symm same), Int.add_zero]

theorem change_single (item : CatalogItem) (added : Int) (itemId : String) :
    change (Table.empty.insert ⟨item, item.stockQty + added⟩) itemId = if item.id = itemId then added else 0 := by
  have absent : Table.find (Table.empty : IdentityMap) itemId = none := rfl
  unfold change
  rw [Table.find_insert, absent, Option.none_or]
  by_cases same : item.id = itemId
  · rw [if_pos same, if_pos (by exact same.symm)]
    dsimp only
    omega
  · rw [if_neg same, if_neg (by exact Ne.symm same)]

def Sold (held : IdentityMap) : Prop := ∀ row ∈ held.rows, row.dirty = true → 0 ≤ row.stockQty

def Explained (held : IdentityMap) (movements : List InventoryMovement) : Prop :=
  ∀ itemId, moved movements itemId = change held itemId

structure Basket.Consistent (basket : Basket) : Prop where
  explained : Explained basket.held basket.movements
  sold : Sold basket.held

structure Composed (flush : Flush) : Prop where
  explained : Explained flush.held flush.movements
  sold : flush.order.isSome → Sold flush.held

theorem ask_yields (query : Query) : (ask query).Yields answers fun _ => True := by
  apply Yields.select
  exact fun _ _ => trivial

theorem moduleEnabled_yields (tenantId key : String) : (moduleEnabled tenantId key).Yields answers fun _ => True := by
  apply Yields.bind_select
  exact fun _ _ => Yields.pure trivial

theorem Sold.insert (sold : Sold held) (item : CatalogItem) : Sold (held.insert ⟨item, item.stockQty⟩) := by
  intro row member dirty
  unfold Table.insert at member
  split at member
  · exact sold row member dirty
  · rcases List.mem_append.mp member with old | fresh
    · exact sold row old dirty
    · rw [List.mem_singleton] at fresh
      subst fresh
      simp [Held.dirty] at dirty

theorem getItem_yields {movements : List InventoryMovement} (id : String) (explained : Explained held movements)
    (sold : Sold held) :
    (getItem held id).Yields answers fun result => Explained result.2 movements ∧ Sold result.2 ∧
      ∀ row, result.1 = some row → result.2.find row.id = some row := by
  unfold getItem
  cases present : held.find id with
  | some row =>
    apply Yields.pure
    refine ⟨explained, sold, fun other same => ?_⟩
    cases same
    rw [Table.find_key present, present]
  | none =>
    apply Yields.bind_select
    intro (found : Option CatalogItem) known
    cases found with
    | none => exact Yields.pure ⟨explained, sold, fun row same => by cases same⟩
    | some item =>
      have absent : held.find item.id = none := by rw [known item rfl, present]
      apply Yields.pure
      refine ⟨fun itemId => (explained itemId).trans (change_insert absent itemId).symm, sold.insert item,
        fun row same => ?_⟩
      cases same
      have own : (⟨item, item.stockQty⟩ : Held).id = item.id := rfl
      rw [Table.find_insert, own, absent, if_pos rfl]
      rfl

theorem lineItem_yields {movements : List InventoryMovement} (line : SaleLine) (explained : Explained held movements)
    (sold : Sold held) :
    (lineItem held line).Yields answers fun result => Explained result.2 movements ∧ Sold result.2 ∧
      ∀ row, result.1 = some row → result.2.find row.id = some row := by
  apply Yields.ite
  · exact fun _ => getItem_yields _ explained sold
  · exact fun _ => Yields.pure ⟨explained, sold, fun row same => by cases same⟩

theorem takeStock_yields (context : ExecutionContext) (tenantId orderId : String) {row : Held} (quantity : ℕ+)
    (consistent : basket.Consistent) (known : basket.held.find row.id = some row) :
    (takeStock context tenantId orderId basket row quantity).Yields answers Basket.Consistent := by
  unfold takeStock
  apply Yields.check
  intro _
  apply Yields.check
  intro enough
  apply Yields.bind_select
  intro (id : String) _
  apply Yields.pure
  constructor
  · intro itemId
    rw [moved_append, change_replace known, consistent.explained itemId]
    have own : row.loaded.id = row.id := rfl
    simp only [moved, List.map_cons, List.map_nil, List.sum_cons, List.sum_nil, own]
    split <;> omega
  · intro other member dirty
    rcases Table.mem_replace.mp member with ⟨kept, _⟩ | ⟨rfl, _⟩
    · exact consistent.sold other kept dirty
    · dsimp only
      omega

theorem sellLine_yields (amounts : Amounts) (context : ExecutionContext) (tenantId orderId : String)
    (inventoryEnabled : Bool) (line : SaleLine) (consistent : basket.Consistent) :
    (sellLine amounts context tenantId orderId inventoryEnabled basket line).Yields answers Basket.Consistent := by
  apply Yields.bind (lineItem_yields line consistent.explained consistent.sold)
  rintro ⟨found, held⟩ ⟨explained, sold, present⟩
  apply Yields.check
  intro _
  apply Yields.check
  intro _
  cases stocked : found.filter fun row => inventoryEnabled && row.loaded.itemType = "product" with
  | none => exact Yields.pure (Basket.Consistent.mk explained sold)
  | some row =>
    have known := present row (Option.filter_eq_some_iff.mp stocked).1
    exact takeStock_yields context tenantId orderId line.quantity (Basket.Consistent.mk explained sold) known

theorem sellLines_yields (amounts : Amounts) (context : ExecutionContext) (tenantId orderId : String)
    (inventoryEnabled : Bool) (lines : List SaleLine) (consistent : basket.Consistent) :
    (sellLines amounts context tenantId orderId inventoryEnabled lines basket).Yields answers
      Basket.Consistent := by
  induction lines generalizing basket with
  | nil => exact Yields.pure consistent
  | cons line rest ih =>
    apply Yields.bind (sellLine_yields amounts context tenantId orderId inventoryEnabled line consistent)
    exact fun _ later => ih later

theorem bill_yields (tenantId orderId : String) (sale : Sale) (total : Double) (notes : String) :
    (bill tenantId orderId sale total notes).Yields answers fun _ => True := by
  apply Yields.bind_select
  intro _ _
  apply Yields.bind_select
  intro _ _
  apply Yields.bind_select
  exact fun _ _ => Yields.pure trivial

theorem pay_yields (amounts : Amounts) (context : ExecutionContext) (tenantId orderId paymentMethod : String)
    (sale : Sale) (total : Double) (notes : String) :
    (pay amounts context tenantId orderId paymentMethod sale total notes).Yields answers fun _ => True := by
  apply Yields.ite
  · intro _
    apply Yields.bind (moduleEnabled_yields _ _)
    intro _ _
    apply Yields.ite
    · intro _
      apply Yields.check
      intro _
      apply Yields.bind_select
      intro _ _
      apply Yields.bind_select
      exact fun _ _ => Yields.pure trivial
    · exact fun _ => Yields.pure trivial
  · exact fun _ => Yields.pure trivial

theorem checkCustomer_yields (tenantId : String) (contactId : Option String) :
    (checkCustomer tenantId contactId).Yields answers fun _ => True := by
  apply Yields.ite
  · intro _
    apply Yields.bind_select
    intro _ _
    apply Yields.check
    exact fun _ => Yields.pure trivial
  · exact fun _ => Yields.pure trivial

theorem checkAccount_yields (context : ExecutionContext) (tenantId paymentMethod : String) :
    (checkAccount context tenantId paymentMethod).Yields answers fun _ => True := by
  have allowed : (financeAllowed context tenantId).Yields answers fun _ => True := by
    apply Yields.ite
    · exact fun _ => moduleEnabled_yields _ _
    · exact fun _ => Yields.pure trivial
  apply Yields.ite
  · intro _
    apply Yields.bind allowed
    intro _ _
    apply Yields.check
    exact fun _ => Yields.pure trivial
  · exact fun _ => Yields.pure trivial

theorem settle_yields (amounts : Amounts) (context : ExecutionContext) (tenantId orderId paymentMethod : String)
    (sale : Sale) (total : Double) (notes : String) (composed : Composed flush) :
    (settle amounts context tenantId orderId paymentMethod sale total notes flush).Yields answers
      fun result => Composed result.2 := by
  apply Yields.ite
  · intro _
    apply Yields.bind (bill_yields _ _ _ _ _)
    exact fun _ _ => Yields.pure ⟨composed.explained, composed.sold⟩
  · intro _
    apply Yields.bind (pay_yields _ _ _ _ _ _ _ _)
    exact fun _ _ => Yields.pure ⟨composed.explained, composed.sold⟩

theorem completeSale_yields (amounts : Amounts) (auth : AuthContext) (context : ExecutionContext) (sale : Sale) :
    (completeSale amounts auth context sale).Yields answers fun result => Composed result.2 := by
  apply Yields.bind (moduleEnabled_yields _ _)
  intro _ _
  apply Yields.check
  intro _
  apply Yields.bind (checkCustomer_yields _ _)
  intro _ _
  apply Yields.bind (checkAccount_yields _ _ _)
  intro _ _
  apply Yields.bind (moduleEnabled_yields _ _)
  intro inventoryEnabled _
  apply Yields.bind_select
  intro (orderId : String) _
  have empty : Basket.Consistent {} := ⟨fun _ => rfl, fun _ absent => by cases absent⟩
  apply Yields.bind (sellLines_yields amounts context _ orderId inventoryEnabled sale.items empty)
  intro basket consistent
  exact settle_yields _ _ _ _ _ _ _ _ ⟨consistent.explained, fun _ => consistent.sold⟩

theorem inventoryAdjust_yields (auth : AuthContext) (adjustment : Adjustment) :
    (inventoryAdjust auth adjustment).Yields answers fun result => Composed result.2 := by
  apply Yields.bind (moduleEnabled_yields _ _)
  intro _ _
  apply Yields.check
  intro _
  apply Yields.bind_select
  intro (found : Option CatalogItem) _
  split
  · exact Yields.raise
  · next item _ =>
    apply Yields.bind_select
    intro (id : String) _
    apply Yields.pure
    refine ⟨fun itemId => ?_, fun sale => by cases sale⟩
    rw [change_single]
    simp only [moved, List.map_cons, List.map_nil, List.sum_cons, List.sum_nil, Int.add_zero]

theorem main_composes (amounts : Amounts) (pid : Nat) (entry : ExecutionContext × Call) :
    Composes answers Composed (main amounts pid entry) := by
  apply Yields.commits
  apply Yields.bind (authContext_yields (fun id => ask_yields (.tenant id))
    fun id => ask_yields (.user id))
  intro auth _
  cases entry.2 with
  | complete sale =>
    apply Yields.bind (completeSale_yields amounts auth entry.1 sale)
    exact fun _ composed => Yields.pure composed
  | adjust adjustment =>
    apply Yields.bind (inventoryAdjust_yields auth adjustment)
    exact fun _ composed => Yields.pure composed

/-! ### What a commit does to the stock -/

/-- Every item whose stock a session has changed is as the session had loaded it. -/
def Undisturbed (flush : Flush) (state : State) : Prop :=
  ∀ row ∈ flush.held.rows, row.dirty = true →
    ∀ now ∈ state.items.find row.id, now.stockQty = row.loaded.stockQty

instance (flush : Flush) (state : State) : Decidable (Undisturbed flush state) :=
  inferInstanceAs (Decidable (∀ row ∈ flush.held.rows, row.dirty = true →
    ∀ now ∈ state.items.find row.id, now.stockQty = row.loaded.stockQty))

def Covered (flush : Flush) (_ : State) : Prop :=
  flush.order = none → ∀ row ∈ flush.held.rows, row.dirty = true → 0 ≤ row.stockQty

theorem commit_eq_some (committed : commit flush state = some after) :
    after.items = state.items.modify (restock flush.held) (restock_id flush.held) ∧
      after.movements = state.movements ++ flush.movements := by
  unfold commit at committed
  split at committed
  · cases committed
  · cases committed
    exact ⟨rfl, rfl⟩

theorem restock_stockQty (held : IdentityMap) (now : CatalogItem)
    (current : ∀ row, held.find now.id = some row → row.dirty = true → now.stockQty = row.loaded.stockQty) :
    (restock held now).stockQty = now.stockQty + change held now.id := by
  unfold restock change
  cases found : held.find now.id with
  | none => exact (Int.add_zero _).symm
  | some row =>
    have composed : row.stockQty = row.loaded.stockQty + (row.stockQty - row.loaded.stockQty) := by omega
    have kept : row.stockQty - row.loaded.stockQty = 0 ∨ now.stockQty = row.loaded.stockQty := by
      by_cases dirty : row.dirty = true
      · exact .inr (current row found dirty)
      · simp only [Held.dirty, ne_eq, decide_eq_true_eq, not_not] at dirty
        omega
    have flushed := (written_add_iff row.loaded.stockQty _ now.stockQty).mpr kept
    rw [← composed] at flushed
    exact flushed

theorem State.Balanced.commit {initial : String → Int} (balanced : state.Balanced initial) (composed : Composed flush)
    (undisturbed : Undisturbed flush state) (committed : commit flush state = some after) : after.Balanced initial := by
  obtain ⟨items, movements⟩ := commit_eq_some committed
  intro item member
  rw [items] at member
  obtain ⟨now, kept, rfl⟩ := List.mem_map.mp member
  have current : ∀ row, flush.held.find now.id = some row → row.dirty = true →
      now.stockQty = row.loaded.stockQty := by
    intro row found dirty
    apply undisturbed row (Table.find_mem found) dirty
    rw [Table.find_key found]
    exact Table.find_of_mem kept
  rw [restock_stockQty flush.held now current, restock_id, movements, moved_append, composed.explained,
    balanced now kept]
  omega

theorem State.Stocked.commit (stocked : state.Stocked) (composed : Composed flush) (covered : Covered flush state)
    (committed : commit flush state = some after) : after.Stocked := by
  have enough : Sold flush.held := by
    cases ordered : flush.order with
    | none => exact covered ordered
    | some order => exact composed.sold (by rw [ordered, Option.isSome_some])
  intro item member
  rw [(commit_eq_some committed).1] at member
  obtain ⟨now, kept, rfl⟩ := List.mem_map.mp member
  have before := stocked now kept
  unfold restock
  split
  · next row found =>
    dsimp only [written]
    split
    · exact before
    · next differs => exact enough row (Table.find_mem found) (by simpa [Held.dirty] using differs)
  · exact before

theorem database_answers (query : queries.Op) (drawn : Drawn) (state : State) :
    answers query (database.select query drawn state).1 := by
  cases query with
  | item id =>
    intro item found
    exact Table.find_key found
  | _ => trivial

theorem database_reads (query : queries.Op) (drawn : Drawn) (state : State) :
    (database.select query drawn state).2 = state := by
  cases query <;> rfl

theorem balanced_kept (initial : String → Int) :
    database.Keeps (·.Balanced initial) answers Composed Undisturbed where
  selects query drawn state balanced :=
    ⟨database_answers query drawn state, (database_reads query drawn state).symm ▸ balanced⟩
  commits _ _ _ balanced composed undisturbed committed := balanced.commit composed undisturbed committed

theorem stocked_kept : database.Keeps State.Stocked answers Composed Covered where
  selects query drawn state stocked :=
    ⟨database_answers query drawn state, (database_reads query drawn state).symm ▸ stocked⟩
  commits _ _ _ stocked composed covered committed := stocked.commit composed covered committed

/-- Whatever the sales and the adjustments interleave: as long as every item that a commit changes is
as its session had loaded it, each stock is explained by its movements; and as long as no adjustment
leaves a stock below zero, no sale does. -/
theorem inventory_balanced (amounts : Amounts) {start : State} {moves : List (Move (ExecutionContext × Call) Drawn)}
    {final : Pool (sessions queries Flush) (ExecutionContext × Call) (Except CapabilityError Reply) State} :
    (∀ initial, start.Balanced initial →
      Runs (Pool.step database.world (main amounts)) (database.admitted Undisturbed) (Pool.initial start) moves final →
      final.shared.Balanced initial) ∧
    (start.Stocked →
      Runs (Pool.step database.world (main amounts)) (database.admitted Covered) (Pool.initial start) moves final →
      final.shared.Stocked) := by
  constructor
  · intro initial balanced run
    exact (balanced_kept initial).committed (main_composes amounts) balanced run
  · intro stocked run
    exact stocked_kept.committed (main_composes amounts) stocked run

def exact : Amounts where
  line
    | .finite price, quantity => .finite (price * quantity)
    | _, _ => .nan
  add
    | .finite first, .finite second => .finite (first + second)
    | _, _ => .nan
  round total := total
  positive
    | .finite total => 0 < total
    | _ => false
  text _ := "0.00"

def cashier : ExecutionContext where
  workspaceId := some "workspace"
  userId := some "ada"
  role := "owner"
  permissions := []
  channel := "web"
  surface := .workspacePrivate
  conversationId := none
  metadata := []
  scopeKind := .workspace
  principalId := none
  workspaceMode := "full"

def shop : State where
  directory := ⟨["workspace"], [⟨"ada", "ada@example.com", "Ada", true⟩]⟩
  modules := []
  contacts := []
  items := [⟨"cup", "workspace", "Cup", "product", .finite 2, 10⟩,
    ⟨"plate", "workspace", "Plate", "product", .finite 3, 5⟩].foldl .insert .empty
  movements := []

def opening (itemId : String) : Int := if itemId = "cup" then 10 else 5

def sell (lines : List (String × ℕ+)) : ExecutionContext × Call :=
  (cashier, .complete ⟨none, lines.map fun line => ⟨some line.1, none, line.2, none⟩, none, none, none⟩)

def adjust (itemId : String) (quantityChange : Int) : ExecutionContext × Call :=
  (cashier, .adjust ⟨itemId, quantityChange, none⟩)

def steps (pid count : Nat) : List (Move (ExecutionContext × Call) Drawn) := .replicate count (.act pid ⟨"id", 0⟩)

def apart : List (Move (ExecutionContext × Call) Drawn) :=
  [.start 0 (sell [("cup", 2), ("cup", 1)]), .start 1 (adjust "plate" (-1))] ++ steps 0 7 ++ steps 1 6 ++ steps 0 5

instance (flush : Flush) (state : State) : Decidable (Covered flush state) :=
  match ordered : flush.order with
  | none =>
      if enough : ∀ row ∈ flush.held.rows, row.dirty = true → 0 ≤ row.stockQty then .isTrue fun _ => enough
      else .isFalse fun covered => enough (covered ordered)
  | some _ => .isTrue fun unordered => by rw [ordered] at unordered; cases unordered

theorem apart_checked : (apart.foldlM (fun pool move =>
    if database.checked (fun flush state => Undisturbed flush state ∧ Covered flush state) pool move then
      pool.step database.world (main exact) move else none) (Pool.initial shop)).map
        (fun pool => (pool.shared.items.rows.map CatalogItem.stockQty, pool.shared.movements.length)) =
          some ([7, 4], 3) := by
  decide +kernel

theorem inventory_balanced_apart : ∃ final, final.shared.Balanced opening ∧ final.shared.Stocked ∧
    Runs (Pool.step database.world (main exact)) (database.admitted Undisturbed) (Pool.initial shop) apart final := by
  obtain ⟨final, evaluated, _⟩ := Option.map_eq_some_iff.mp apart_checked
  have run := Runs.of_checked (Database.admitted_of_checked fun _ _ => of_decide_eq_true) evaluated
  have undisturbed := run.weaken (Database.admitted_mono fun _ _ both => both.1)
  have covered := run.weaken (Database.admitted_mono fun _ _ both => both.2)
  exact ⟨final, (inventory_balanced exact).1 opening (by decide) undisturbed,
    (inventory_balanced exact).2 (by decide) covered, undisturbed⟩

def overlapping : List (Move (ExecutionContext × Call) Drawn) :=
  [.start 0 (sell [("cup", 3)]), .start 1 (sell [("cup", 4)])] ++ steps 0 10 ++ steps 1 10 ++ steps 0 1 ++ steps 1 1

theorem overlapping_lose : (overlapping.foldlM (Pool.step database.world (main exact))
    (Pool.initial shop)).map (fun pool => (pool.shared.items.rows.map CatalogItem.stockQty,
      pool.shared.movements.map InventoryMovement.quantityChange,
      decide (pool.shared.Balanced opening))) = some ([6, 5], [-3, -4], false) := by
  decide +kernel

/-- Seven cups are gone by the movements, but only four from the stock. -/
theorem overlapping_sales_unexplained : shop.Balanced opening ∧
    ∃ final, Runs (Pool.step database.world (main exact)) (fun _ _ => True) (Pool.initial shop) overlapping final ∧
      ¬ final.shared.Balanced opening := by
  refine ⟨by decide, ?_⟩
  obtain ⟨final, evaluated, lost⟩ := Option.map_eq_some_iff.mp overlapping_lose
  refine ⟨final, .of_foldlM evaluated, ?_⟩
  exact of_decide_eq_false (congrArg (fun facts => facts.2.2) lost)

end Operly.Workspace.Inventory
