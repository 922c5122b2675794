import Operly.Workspace.Payments
import Operly.Workspace.Shapes

/-! What the capabilities of the records show passes their own schemas: what the requests, the sales, the invoices
and the payments of a workspace store keeps to its columns and their options. -/

namespace Operly.Workspace.Records
open Python Relational Kernel

def Declared (entity : String) (model : Model) (field : String) (type : ColumnType) (options : List String) : Prop :=
  (columnOf model field).map Column.type = some type ∧ optionsOf entity field = options

instance {entity : String} {model : Model} {field : String} {type : ColumnType} {options : List String} :
    Decidable (Declared entity model field type options) :=
  inferInstanceAs (Decidable (_ ∧ _))

def fitsType (type : ColumnType) (options : List String) (cell : Cell) : Bool := fits (.optional "" type) options cell

section Declarations
variable {entity : String} {model : Model} {field : String} {type : ColumnType} {options : List String} {cell : Cell}
  {values : Values} {row : Row}

theorem fits_iff_fitsType {column : Column} : fits column options cell = fitsType column.type options cell := by
  cases cell <;> rfl

theorem fitsType_of_allows (typed : fitsType type [] cell = true) (allowed : allows options cell = true) :
    fitsType type options cell = true := fits_of_allows typed allowed

theorem Typed.holds (typed : Typed entity model row) (declared : Declared entity model field type options)
    (free : Free model field) : fitsType type options (row.cells field) = true := by
  obtain ⟨column, held, rfl⟩ := Option.map_eq_some_iff.mp declared.1
  rw [← fits_iff_fitsType, ← declared.2]
  exact typed field column held free

theorem Suits.cons (rest : Suits entity model values) (declared : Declared entity model field type options)
    (fitting : fitsType type options cell = true) : Suits entity model ((field, cell) :: values) := by
  refine suits_cons ?_ rest
  intro column held _
  rw [fits_iff_fitsType, declared.2]
  have same := declared.1
  rw [held, Option.map_some, Option.some.injEq] at same
  rw [same]
  exact fitting

theorem Suits.reference (key : ∃ key ∈ foreignKeys model, key.field = field) (rest : Suits entity model values) :
    Suits entity model ((field, cell) :: values) := by
  refine suits_cons ?_ rest
  intro column _ free
  obtain ⟨key, known, named⟩ := key
  exact absurd named (free key known)

theorem fitsType_text {length : Nat} {text : String} (short : text.length ≤ length) :
    fitsType (.string length) [] (.text text) = true := by
  simp [fitsType, fits, Column.optional, short]

theorem Suits.null (rest : Suits entity model values) : Suits entity model ((field, .null) :: values) :=
  suits_cons (fun _ _ _ => rfl) rest

theorem Suits.float {number : Double} (declared : Declared entity model field .float []) (rest : Suits entity model values) :
    Suits entity model ((field, .float number) :: values) := rest.cons declared rfl

theorem Suits.integer {number : Int} (declared : Declared entity model field .integer []) (rest : Suits entity model values) :
    Suits entity model ((field, .integer number) :: values) := rest.cons declared rfl

theorem Suits.moment {time : Int} (declared : Declared entity model field .dateTime []) (rest : Suits entity model values) :
    Suits entity model ((field, .moment time) :: values) := rest.cons declared rfl

theorem Suits.text {text : String} (declared : Declared entity model field .text []) (rest : Suits entity model values) :
    Suits entity model ((field, .text text) :: values) := rest.cons declared rfl

theorem Suits.string {length : Nat} {text : String} (declared : Declared entity model field (.string length) [])
    (short : text.length ≤ length) (rest : Suits entity model values) : Suits entity model ((field, .text text) :: values) :=
  rest.cons declared (fitsType_text short)

theorem Suits.option {text : String}
    (listed : ((columnOf model field).all fun column => fits column (optionsOf entity field) (.text text)) = true)
    (rest : Suits entity model values) : Suits entity model ((field, .text text) :: values) := by
  refine suits_cons ?_ rest
  intro column held _
  rwa [held, Option.all_some] at listed

theorem only_entity {holds : String → Prop} (named : entityOf model = some entity) (held : holds entity) :
    ∀ other, entityOf model = some other → holds other := by
  intro other known
  rw [named, Option.some.injEq] at known
  exact known ▸ held

end Declarations

section Payloads
variable {engine : Engine} {entity : String} {config : RecordConfig} {payload : Fields} {values : Values}

theorem cleanText_length (spelling : Spelling) (value : Json) (length : Nat) :
    (cleanText spelling value (some length)).length ≤ length := by
  simp [cleanText]

theorem coerce_typed [Floats] {spelling : Spelling} {model : Model} {field : String} {value : Json} {cell : Cell} {column : Column}
    (held : columnOf model field = some column) (coerced : coerce spelling model field value = .ok cell) :
    fitsType column.type [] cell = true := by
  simp only [coerce, held] at coerced
  split at coerced
  · cases coerced
    rfl
  · cases type : column.type with
    | dateTime =>
      simp only [type, parseDatetime] at coerced
      split at coerced
      · cases coerced
        rfl
      · split at coerced
        · cases coerced
          rfl
        · cases coerced
    | boolean =>
      simp only [type] at coerced
      unfold coerceBoolean at coerced
      split at coerced
      · cases coerced
        rfl
      · dsimp only at coerced
        split at coerced
        · cases coerced
          rfl
        · split at coerced
          · cases coerced
            rfl
          · cases coerced
    | integer =>
      simp only [type] at coerced
      unfold converted at coerced
      split at coerced
      · cases coerced
        rfl
      · cases coerced
      · cases coerced
    | float =>
      simp only [type] at coerced
      unfold converted at coerced
      split at coerced
      · cases coerced
        rfl
      · cases coerced
      · cases coerced
    | text =>
      simp only [type] at coerced
      cases coerced
      rfl
    | string length =>
      simp only [type] at coerced
      cases coerced
      exact fitsType_text (cleanText_length _ _ _)

theorem suits_payload [Floats] {isPartial : Bool} (taken : payloadValues engine.spelling config payload isPartial = .ok values)
    (listed : Listed engine entity config payload) : Suits entity config.model values := by
  intro field column held _ cell given
  have field_known := payloadValues_given taken given
  obtain ⟨value, found, coerced⟩ := coerceEntries_get (payloadValues_eq_ok.mp taken).2.1 given
  rw [fits_iff_fitsType]
  exact fitsType_of_allows (coerce_typed held coerced) (listed field field_known value found cell coerced)

theorem Suits.owned (suits : Suits entity config.model values) : Suits entity config.model (ownedValues config values) := by
  unfold ownedValues
  split
  · exact suits.append (suits_cons (fun _ _ _ => rfl) suits_nil)
  · exact suits

theorem Suits.staged (drawn : Drawn) (noted : Bool) (of : entityOf config.model = some entity)
    (suits : Suits entity config.model values) : Suits entity config.model (stagedValues drawn noted values) := by
  unfold stagedValues
  split
  · exact suits.append (suits_cons (fun _ held _ => fits_stamp of held (by simp) drawn.now) suits_nil)
  · exact suits

end Payloads

/-! ### What is refreshed -/

section Refreshed
variable {tenantId : String} {store after : Store Model} {model : Model} {row : Row} {values : Values} {now : Int}

theorem Tidy.reviseOwn (tidy : Tidy tenantId store) (held : row ∈ (store model).rows) (own : row.tenantId = some tenantId)
    (suits : ∀ entity, entityOf model = some entity → Suits entity model values)
    (revised : Records.revise now model row values store = some after) : Tidy tenantId after :=
  tidy.revise (fun entity known => (tidy model entity known row held own).1) suits revised

theorem suits_amounts [Floats] {tally : Tally} (of : tallyOf model = some tally) (parent : Row) (lines : List Figures) :
    ∀ entity, entityOf tally.parent = some entity → Suits entity tally.parent (tally.amounts parent lines) := by
  cases model
  case orderItem =>
    cases of
    exact only_entity (by decide : entityOf .businessOrder = some "orders")
      (show Suits "orders" .businessOrder _ from .float (by decide) suits_nil)
  case quoteItem =>
    cases of
    exact only_entity (by decide : entityOf .quote = some "quotes")
      (show Suits "quotes" .quote _ from .float (by decide) suits_nil)
  case purchaseOrderItem =>
    cases of
    exact only_entity (by decide : entityOf .purchaseOrder = some "purchase-orders")
      (show Suits "purchase-orders" .purchaseOrder _ from .float (by decide) (.float (by decide) suits_nil))
  case invoiceItem =>
    cases of
    exact only_entity (by decide : entityOf .invoice = some "invoices")
      (show Suits "invoices" .invoice _ from .float (by decide) (.float (by decide) (.float (by decide) suits_nil)))
  all_goals cases of

variable {invoice : Row}

theorem fitsType_paidAt (typed : Typed "invoices" .invoice invoice) :
    fitsType .dateTime [] (paidAt now invoice) = true := by
  unfold paidAt
  split
  · rfl
  · exact typed.holds (by decide) (by unfold Free; decide)

theorem suits_paid (typed : Typed "invoices" .invoice invoice) :
    Suits "invoices" .invoice [("status", .text "paid"), ("paid_at", paidAt now invoice)] :=
  .option (by decide) (suits_nil.cons (by decide) (fitsType_paidAt typed))

theorem suits_due : Suits "invoices" .invoice [("status", .text "due"), ("paid_at", .null)] :=
  .option (by decide) suits_nil.null

theorem suits_syncedState [Floats] (typed : Typed "invoices" .invoice invoice) (paid : Double) :
    Suits "invoices" .invoice (syncedState now invoice paid) := by
  unfold syncedState
  split
  · exact suits_paid typed
  · split
    · exact suits_due
    · exact suits_nil

theorem Tidy.refreshParent [Floats] {parentId : Cell} (tidy : Tidy tenantId store)
    (refreshed : Records.refreshParent now tenantId model parentId store = some after) : Tidy tenantId after := by
  unfold Records.refreshParent at refreshed
  split at refreshed
  · unfold syncInvoicePaymentState at refreshed
    split at refreshed
    · next invoice found =>
      obtain ⟨-, held, own⟩ := ownedRow_spec found
      have listed := Table.find_mem held
      have named : entityOf .invoice = some "invoices" := by decide
      have typed := (tidy .invoice "invoices" named invoice listed own).1
      exact tidy.reviseOwn listed own (only_entity named (suits_syncedState typed _)) refreshed
    · cases refreshed
      exact tidy
  · unfold recalculateParent at refreshed
    split at refreshed
    · next tally of =>
      unfold recalculate at refreshed
      split at refreshed
      · next parent found =>
        obtain ⟨-, held, own⟩ := ownedRow_spec found
        exact tidy.reviseOwn (Table.find_mem held) own (suits_amounts of _ _) refreshed
      · cases refreshed
        exact tidy
    · cases refreshed
      exact tidy

theorem suits_contacted {interaction : Row} (typed : Typed "interactions" .crmInteraction interaction) :
    Suits "leads" .lead (contacted now interaction) := by
  have occurred : fitsType .dateTime [] (if interaction.cells "occurred_at" = .null then .moment now
      else interaction.cells "occurred_at") = true := by
    split
    · rfl
    · exact typed.holds (by decide) (by unfold Free; decide)
  have next : fitsType .dateTime [] (interaction.cells "next_action_at") = true :=
    typed.holds (by decide) (by unfold Free; decide)
  unfold contacted
  refine Suits.append (Suits.append (suits_nil.cons (by decide) occurred) ?_) ?_
  · split
    · exact suits_nil.cons (by decide) occurred
    · exact suits_nil
  · split
    · exact suits_nil
    · exact suits_nil.cons (by decide) next

theorem Tidy.touchLead {interaction : Row} (tidy : Tidy tenantId store)
    (typed : Typed "interactions" .crmInteraction interaction)
    (touched : Records.touchLead now tenantId interaction store = some after) : Tidy tenantId after := by
  unfold Records.touchLead at touched
  split at touched
  · next lead found =>
    obtain ⟨-, held, own⟩ := ownedRow_spec found
    have named : entityOf .lead = some "leads" := by decide
    exact tidy.reviseOwn (Table.find_mem held) own (only_entity named (suits_contacted typed)) touched
  · cases touched
    exact tidy

theorem Tidy.afterRecordMutation [Floats] {oldParent : Cell} (tidy : Tidy tenantId store)
    (typed : ∀ entity, entityOf model = some entity → Typed entity model row)
    (done : Records.afterRecordMutation now tenantId model row oldParent store = some after) : Tidy tenantId after := by
  apply afterRecordMutation_rule (fun _ store => Tidy tenantId store) done
  · exact fun _ _ _ _ tidy refreshed => tidy.refreshParent refreshed
  · exact fun _ tidy => tidy
  · rintro rfl touched
    exact tidy.touchLead (typed "interactions" (by decide)) touched
  · exact tidy

end Refreshed

section Requests
variable [Floats] {engine : Engine} {drawn : Drawn} {auth : AuthContext} {entity : String} {config : RecordConfig} {payload : Fields}
  {recordId : String} {noted : Bool} {row : Row} {db after : Database}

theorem tidy_create (known : (entity, config) ∈ entityRegistry) (listed : Listed engine entity config payload)
    (tidy : Tidy auth.tenantId db.store) (done : create engine drawn auth entity config payload db = .ok (row, after)) :
    Tidy auth.tenantId after.store ∧ Fitting entity config.model row := by
  obtain ⟨values, inserted, store, taken, -, rfl, written, refreshed, rfl⟩ := create_eq_ok.mp done
  have of := registry_entityOf _ known
  have typed := typed_newRow of (suits_payload taken listed).owned drawn auth.tenantId
  exact ⟨(tidy.insert written (only_entity of typed)).afterRecordMutation (only_entity of typed) refreshed,
    fitting_of_admits known typed (Store.insert_eq_some.mp written).2.2⟩

theorem tidy_update (known : (entity, config) ∈ entityRegistry) (listed : Listed engine entity config payload)
    (tidy : Tidy auth.tenantId db.store)
    (done : update engine drawn auth entity config noted recordId payload db = .ok (row, after)) :
    Tidy auth.tenantId after.store ∧ Fitting entity config.model row := by
  obtain ⟨old, values, updated, store, found, own, taken, -, rfl, written, refreshed, rfl⟩ := update_eq_ok.mp done
  have of := registry_entityOf _ known
  have before := (tidy config.model entity of old (Table.find_mem found) own).1
  have typed := typed_amended of before (Suits.staged drawn noted of (suits_payload taken listed)) drawn.now
  exact ⟨(tidy.update written (only_entity of typed)).afterRecordMutation (only_entity of typed) refreshed,
    fitting_of_admits known typed (Store.update_eq_some.mp written).2⟩

theorem tidy_delete (tidy : Tidy auth.tenantId db.store)
    (done : delete drawn auth entity config recordId db = .ok (row, after)) : Tidy auth.tenantId after.store := by
  obtain ⟨deleted, store, -, -, written, refreshed, rfl⟩ := delete_eq_ok.mp done
  exact (tidy.delete written).refreshParent refreshed

def Call.Chosen (engine : Engine) (call : Call) : Prop :=
  ∀ entity config recordId payload, (entity, config) ∈ entityRegistry →
    call.writes engine = some (entity, recordId, payload) → Listed engine entity config payload

theorem tidy_performed {call : Call} {value : Json} (chosen : call.Chosen engine) (tidy : Tidy auth.tenantId db.store)
    (performed : Performed engine drawn auth call db value after) : Tidy auth.tenantId after.store := by
  cases performed with
  | listed => exact tidy
  | created known writes done => exact (tidy_create known (chosen _ _ _ _ known writes) tidy done).1
  | updated known writes done => exact (tidy_update known (chosen _ _ _ _ known writes) tidy done).1
  | deleted _ _ _ done => exact tidy_delete tidy done

end Requests

/-! ### What the transactions do -/

theorem orElse_length {length : Nat} {value : Option (Limited length)} {default : String} (short : default.length ≤ length) :
    (orElse value default).length ≤ length := by
  unfold orElse
  split
  · next text =>
    split
    · exact short
    · exact text.2
  · exact short

section Transactions
variable {supply : Supply} {member : Member} {store after : Store Model}

variable {orderId : String} {tracked : Bool} {basket later : Basket}

theorem suits_orderItem {line : SoldLine} (short : line.description.length ≤ 300) :
    Suits "order-items" .orderItem (orderItemValues orderId line) :=
  .reference (by decide) (.reference (by decide) (.string (by decide) short
    (.integer (by decide) (.float (by decide) suits_nil))))

theorem suits_invoiceItem {invoiceId : String} {line : SoldLine} (short : line.description.length ≤ 300) :
    Suits "invoice-items" .invoiceItem (invoiceItemValues invoiceId line) :=
  .reference (by decide) (.reference (by decide) (.string (by decide) short
    (.float (by decide) (.float (by decide) (.float (by decide) (.float (by decide) suits_nil))))))

theorem suits_invoice {contactId orderId : Cell} {currency : String} (short : currency.length ≤ 3) (total : Double)
    (dueDays : Option Nat) (notes : String) :
    Suits "invoices" .invoice (invoiceValues supply contactId orderId currency total dueDays notes) :=
  .reference (by decide) (.reference (by decide) (.string (by decide) supply.number.2 (.option (by decide)
    (.string (by decide) short (.float (by decide) (.float (by decide) (.float (by decide)
      (.moment (by decide) (.text (by decide) suits_nil)))))))))

theorem suits_payment {contactId invoiceId orderId reference currency : Cell} {method : String} (short : method.length ≤ 60)
    (referring : fitsType (.string 200) [] reference = true) (denominated : fitsType (.string 3) [] currency = true)
    (paid : Double) (notes : String) : Suits "payments" .payment
      (paymentValues supply contactId invoiceId orderId method reference paid currency notes) := by
  have later : Suits "payments" .payment [("paid_at", .moment supply.now), ("notes", .text notes)] :=
    .moment (by decide) (.text (by decide) suits_nil)
  have amounts : Suits "payments" .payment [("amount", .float paid), ("currency", currency), ("paid_at", .moment supply.now),
      ("notes", .text notes)] := .float (by decide) (later.cons (by decide) denominated)
  have paying : Suits "payments" .payment [("reference", reference), ("status", .text "completed"), ("amount", .float paid),
      ("currency", currency), ("paid_at", .moment supply.now), ("notes", .text notes)] :=
    (Suits.option (by decide) amounts).cons (by decide) referring
  exact .reference (by decide) (.reference (by decide) (.reference (by decide) (.option (by decide)
    (.string (by decide) short paying.null))))

theorem soldLine_short [Floats] {line : SaleLine} {item : Option Row} (tidy : Tidy member.auth.tenantId store)
    (found : lineItem member store line = .ok item) : (soldLine line item).description.length ≤ 300 := by
  apply (strip_length_le _).trans
  apply orElse_length
  cases item with
  | none => exact Nat.zero_le _
  | some row =>
    obtain ⟨held, own⟩ := lineItem_ours found row rfl
    have typed := (tidy .catalogItem "catalog" (by decide) row (Table.find_mem held) own).1
    have name : fitsType (.string 250) [] (row.cells "name") = true := typed.holds (by decide) (by unfold Free; decide)
    rw [Option.map_some, Option.getD_some]
    cases shown : row.cells "name" with
    | text name' =>
      rw [shown] at name
      have short : name'.length ≤ 250 := by simpa [fitsType, fits, Column.optional] using name
      exact short.trans (by decide)
    | _ => exact Nat.zero_le _

structure Basket.Tidy (tenantId : String) (basket : Basket) : Prop where
  store : Records.Tidy tenantId basket.store
  short : ∀ line ∈ basket.lines, line.description.length ≤ 300

theorem tidy_settleStock {item : Option Row} {quantity : Nat} (tidy : basket.Tidy member.auth.tenantId)
    (found : ∀ row ∈ item, (basket.store .catalogItem).find row.id = some row ∧ row.tenantId = some member.auth.tenantId)
    (settled : settleStock supply member orderId tracked item quantity basket = .ok later) :
    later.Tidy member.auth.tenantId := by
  unfold settleStock at settled
  split at settled
  · next row product =>
    obtain ⟨held, own⟩ := found row (Option.filter_eq_some_iff.mp product).1
    simp only [takeStock, check_eq_ok, bind_eq_ok, pure_eq_ok] at settled
    obtain ⟨-, -, stocked, revised, moved, inserted, rfl⟩ := settled
    have first : Tidy member.auth.tenantId stocked := by
      apply tidy.store.reviseOwn (Table.find_mem held) own _ (flushed_eq_ok.mp revised)
      exact only_entity (by decide : entityOf .catalogItem = some "catalog") (.integer (by decide) suits_nil)
    have second : Tidy member.auth.tenantId moved := by
      apply first.insertRow _ inserted
      intro entity known
      cases known.symm.trans (by decide : entityOf .inventoryMovement = none)
    exact ⟨second, tidy.short⟩
  · cases settled
    exact tidy

theorem tidy_sellLine [Floats] {line : SaleLine} (tidy : basket.Tidy member.auth.tenantId)
    (sold : sellLine supply member orderId tracked line basket = .ok later) : later.Tidy member.auth.tenantId := by
  simp only [sellLine, bind_eq_ok, check_eq_ok] at sold
  obtain ⟨item, found, -, store, inserted, settled⟩ := sold
  have short := soldLine_short tidy.store found
  have next : Tidy member.auth.tenantId store :=
    tidy.store.insertRow (only_entity (by decide : entityOf .orderItem = some "order-items") (suits_orderItem short)) inserted
  apply tidy_settleStock _ _ settled
  · refine ⟨next, ?_⟩
    intro other listed
    rcases List.mem_append.mp listed with earlier | last
    · exact tidy.short other earlier
    · rw [List.mem_singleton.mp last]
      exact short
  · intro row itself
    have items : store .catalogItem = basket.store .catalogItem := insertRow_other inserted (by decide)
    dsimp only
    rw [items]
    exact lineItem_ours found row itself

theorem tidy_sellLines [Floats] {lines : List SaleLine} (tidy : basket.Tidy member.auth.tenantId)
    (sold : sellLines supply member orderId tracked lines basket = .ok later) : later.Tidy member.auth.tenantId := by
  induction lines generalizing basket with
  | nil =>
    cases sold
    exact tidy
  | cons line rest ih =>
    obtain ⟨middle, first, tail⟩ := bind_eq_ok.mp sold
    exact ih (tidy_sellLine tidy first) tail

theorem tidy_billLines {invoiceId : String} {lines : List SoldLine} {drawn : Nat} (tidy : Tidy member.auth.tenantId store)
    (short : ∀ line ∈ lines, line.description.length ≤ 300)
    (billed : billLines supply member invoiceId lines drawn store = .ok after) : Tidy member.auth.tenantId after := by
  induction lines generalizing drawn store with
  | nil =>
    cases billed
    exact tidy
  | cons line rest ih =>
    obtain ⟨middle, inserted, tail⟩ := bind_eq_ok.mp billed
    obtain ⟨first, others⟩ := List.forall_mem_cons.mp short
    have next : Tidy member.auth.tenantId middle :=
      tidy.insertRow (only_entity (by decide : entityOf .invoiceItem = some "invoice-items") (suits_invoiceItem first)) inserted
    exact ih next others tail

theorem suits_order {sale : Sale} (later : payLater (paymentMethod sale.paymentMethod) = true) :
    Suits "orders" .businessOrder (orderValues sale) := by
  unfold orderValues
  rw [later, if_pos rfl]
  exact .reference (by decide) (.option (by decide) (.float (by decide) (.text (by decide) suits_nil)))

variable {result : Json × Database}

theorem tidy_completeSale [Floats] {engine : Engine} {sale : Sale} {db : Database} (tidy : Tidy member.auth.tenantId db.store)
    (later : payLater (paymentMethod sale.paymentMethod) = true)
    (completed : completeSale engine supply member sale db = .ok result) : Tidy member.auth.tenantId result.2.store := by
  simp only [completeSale, bind_eq_ok, pure_eq_ok] at completed
  obtain ⟨_, -, store, inserted, basket, sold, revised, totalled, ⟨settledStore, paid⟩, settled, rfl⟩ := completed
  have order : entityOf .businessOrder = some "orders" := by decide
  have typed := typed_newRow order (suits_order later) (supply.drawn 0) member.auth.tenantId
  have ordered : Tidy member.auth.tenantId store := tidy.insertRow (only_entity order (suits_order later)) inserted
  have start : Basket.Tidy member.auth.tenantId ⟨store, 1, .zero, []⟩ := ⟨ordered, fun _ listed => by cases listed⟩
  have lines := tidy_sellLines start sold
  have summed : Tidy member.auth.tenantId revised :=
    lines.store.revise (only_entity order typed) (only_entity order (.float (by decide) suits_nil)) (flushed_eq_ok.mp totalled)
  simp only [settleSale, later, if_true, bind_eq_ok, pure_eq_ok, Prod.mk.injEq] at settled
  obtain ⟨invoiced, written, billed, lined, rfl, -⟩ := settled
  have first : Tidy member.auth.tenantId invoiced :=
    summed.insertRow (only_entity (by decide : entityOf .invoice = some "invoices") (suits_invoice (by decide) _ _ _)) written
  exact tidy_billLines first lines.short lined

theorem tidy_createInvoice {engine : Engine} {arguments : InvoiceArguments} {db : Database}
    (tidy : Tidy member.auth.tenantId db.store) (short : (invoiceCurrency engine arguments).length ≤ 3)
    (created : createInvoice engine supply member arguments db = .ok result) : Tidy member.auth.tenantId result.2.store := by
  simp only [createInvoice, check_eq_ok, bind_eq_ok, pure_eq_ok] at created
  obtain ⟨-, _, -, store, inserted, billed, lined, rfl⟩ := created
  have first : Tidy member.auth.tenantId store :=
    tidy.insertRow (only_entity (by decide : entityOf .invoice = some "invoices") (suits_invoice short _ _ _)) inserted
  have described : (strip arguments.description).length ≤ 300 := (strip_length_le _).trans arguments.description.2
  have line : Suits "invoice-items" .invoiceItem
      (invoiceItemValues (supply.drawn 0).id ⟨.null, strip arguments.description, 1, arguments.amount⟩) := suits_invoiceItem described
  exact first.insertRow (only_entity (by decide) line) lined

def paidWith [Floats] (store : Store Model) (tenantId invoiceId : String) (paid : Double) : Double :=
  coalescedSum (receipts store tenantId invoiceId ++ [paid.unsigned])

theorem suits_recordedState [Floats] {now : Int} {invoice : Row} {paid : Double} (typed : Typed "invoices" .invoice invoice)
    (whole : settled (invoiceTotal invoice) paid = true ∨ Double.zero.lt paid = false) :
    Suits "invoices" .invoice (recordedState now invoice paid) := by
  unfold recordedState
  split
  · exact suits_paid typed
  · next short =>
    rw [if_neg (by simpa [short] using whole)]
    split
    · exact suits_due
    · exact suits_nil

def Whole [Floats] (member : Member) (arguments : PaymentArguments) (db : Database) : Prop :=
  ∀ invoice, Held member.auth.tenantId arguments.invoiceId db.store invoice →
    settled (invoiceTotal invoice) (paidWith db.store member.auth.tenantId invoice.id arguments.amount) = true ∨
      Double.zero.lt (paidWith db.store member.auth.tenantId invoice.id arguments.amount) = false

theorem tidy_recordPayment [Floats] {engine : Engine} {arguments : PaymentArguments} {db : Database}
    (tidy : Tidy member.auth.tenantId db.store) (short : (paymentMethod arguments.method).length ≤ 60)
    (whole : Whole member arguments db) (recorded : recordPayment engine supply member arguments db = .ok result) :
    Tidy member.auth.tenantId result.2.store := by
  simp only [recordPayment, check_eq_ok, bind_eq_ok, pure_eq_ok] at recorded
  obtain ⟨-, invoice, held, store, inserted, updated, revised, rfl⟩ := recorded
  obtain ⟨found, own⟩ := paidInvoice_eq_ok.mp held
  have invoices : entityOf .invoice = some "invoices" := by decide
  have typed := (tidy .invoice "invoices" invoices invoice (Table.find_mem found) own).1
  have referring : fitsType (.string 200) [] (paymentReference arguments) = true := by
    unfold paymentReference
    dsimp only
    split
    · rfl
    · exact fitsType_text ((strip_length_le _).trans (orElse_length (Nat.zero_le _)))
  have denominated : fitsType (.string 3) [] (invoice.cells "currency") = true :=
    typed.holds (by decide) (by unfold Free; decide)
  have first : Tidy member.auth.tenantId store :=
    tidy.insertRow (only_entity (by decide : entityOf .payment = some "payments")
      (suits_payment short referring denominated _ _)) inserted
  have itself : invoice ∈ (store .invoice).rows := by
    rw [insertRow_other inserted (by decide)]
    exact Table.find_mem found
  have paid := whole invoice ⟨found, own⟩
  simp only [paidWith, ← receipts_insertRow inserted] at paid
  exact first.reviseOwn itself own (only_entity invoices (suits_recordedState typed paid)) (flushed_eq_ok.mp revised)

end Transactions

/-! ### Runs -/

def Validated (act : Act) (_ : Database) : Prop :=
  match act with
  | .record _ _ (.capability entity operation arguments) => ∀ config, RecordConfig.find entity = some config →
      validateSchema (.obj arguments) (inputSchema entity config operation) = .ok ()
  | _ => True

/-- What is stored is an option of its field and no longer than its column: a payload of a route, a sale, an invoice and
a payment decide on that themselves. -/
def Careful [Floats] (engine : Engine) (act : Act) (db : Database) : Prop :=
  match act with
  | .record _ _ (.route entity request) => (Call.route entity request).Chosen engine
  | .record _ _ (.capability _ _ _) => True
  | .sale _ _ arguments => payLater (paymentMethod arguments.paymentMethod) = true
  | .invoice _ _ arguments => (invoiceCurrency engine arguments).length ≤ 3
  | .payment _ member arguments => (paymentMethod arguments.method).length ≤ 60 ∧ Whole member arguments db

section Runs
variable {engine : Engine} {tenantId : String} {db after : Database} {act : Act} {drawn : Drawn} {auth : AuthContext}
  {entity : String} {config : RecordConfig} {operation : Operation} {arguments : Fields} {value : Json}

theorem chosen_of_validated [Floats] {call : Call} (validated : Validated (.record drawn auth call) db)
    (careful : Careful engine (.record drawn auth call) db) : call.Chosen engine := by
  cases call with
  | route entity request => exact careful
  | capability entity operation arguments =>
    intro entity' config recordId payload known writes
    cases operation with
    | create =>
      cases writes
      exact listed_of_input known (validated config (find_of_mem known)) rfl
    | update =>
      cases writes
      exact listed_of_input known (validated config (find_of_mem known)) rfl
    | list => cases writes
    | delete => cases writes

theorem tidy_perform [Floats] (validated : Validated act db) (careful : Careful engine act db) (tidy : Tidy act.tenantId db.store) :
    Tidy act.tenantId (act.perform engine db).store := by
  cases act with
  | record drawn auth call =>
    apply served_cases (fun db : Database => Tidy auth.tenantId db.store) tidy
    intro value after done
    exact tidy_performed (chosen_of_validated validated careful) tidy (handle_performed done)
  | sale supply member arguments =>
    apply served_cases (fun db : Database => Tidy member.auth.tenantId db.store) tidy
    intro value after done
    exact tidy_completeSale tidy careful done
  | invoice supply member arguments =>
    apply served_cases (fun db : Database => Tidy member.auth.tenantId db.store) tidy
    intro value after done
    exact tidy_createInvoice tidy careful done
  | payment supply member arguments =>
    apply served_cases (fun db : Database => Tidy member.auth.tenantId db.store) tidy
    intro value after done
    exact tidy_recordPayment tidy careful.1 careful.2 done

theorem tidy_run [Floats] (run : Run engine tenantId (fun act db => Validated act db ∧ Careful engine act db) db) :
    Tidy tenantId db.store := by
  apply run.invariant
  · exact fun store vacant model entity _ row held own => absurd own (vacant model row held)
  · exact fun _ _ same tidy => tidy_only same tidy
  · rintro db act _ tidy rfl _ ⟨validated, careful⟩
    exact tidy_perform validated careful tidy

theorem listing_admitted {query : ListQuery} {unsupported : Failure} (known : (entity, config) ∈ entityRegistry)
    (isolated : Store.Isolated schema db.store) (tidy : Tidy auth.tenantId db.store)
    (done : listing engine auth config query unsupported db.store = .ok value) :
    Admits (outputSchema entity config .list) value := by
  unfold listing at done
  dsimp only at done
  generalize (if query.sort = "" then config.defaultSort else query.sort) = sortKey at done
  split at done
  · cases done
    apply admits_listing known
    intro row listed
    have sorted : row ∈ ordered engine query sortKey ((db.store config.model).select (criteria engine config auth.tenantId query)) :=
      List.mem_of_mem_drop (List.mem_of_mem_take listed)
    obtain ⟨held, meets⟩ := Table.mem_select.mp (List.mem_mergeSort.mp sorted)
    simp only [criteria, Bool.and_eq_true, decide_eq_true_eq] at meets
    exact tidy.fitting isolated known (Table.find_mem held) meets.1.1
  · cases done

/-- Whatever a workspace stores, with care, its capabilities can show: what they return passes their output schemas. -/
theorem records_readable [Floats] (run : Run engine tenantId (fun act db => Validated act db ∧ Careful engine act db) db)
    (own : auth.tenantId = tenantId) (found : RecordConfig.find entity = some config)
    (valid : validateSchema (.obj arguments) (inputSchema entity config operation) = .ok ())
    (done : execute engine drawn auth entity operation arguments db = .ok (value, after)) :
    validateSchema value (outputSchema entity config operation) = .ok () := by
  subst own
  have tidy := tidy_run run
  have known := find_mem found
  obtain ⟨config', held, rest⟩ := bind_eq_ok.mp done
  obtain rfl : config = config' := by
    rw [operationConfig, found, check_eq_ok, Except.ok.injEq] at held
    exact held.2
  obtain ⟨_, -, rest⟩ := bind_eq_ok.mp rest
  apply Admits.validateSchema
  cases operation with
  | list =>
    obtain ⟨listed, shown, same⟩ := map_eq_ok.mp rest
    cases same
    obtain ⟨limit, -, shown⟩ := bind_eq_ok.mp shown
    obtain ⟨offset, -, shown⟩ := bind_eq_ok.mp shown
    exact listing_admitted known run.isolated tidy shown
  | create =>
    obtain ⟨⟨row, db'⟩, written, same⟩ := bind_eq_ok.mp rest
    cases pure_eq_ok.mp same
    have chosen : Listed engine entity config arguments := listed_of_input known valid
      (rfl : (Call.capability entity .create arguments).writes engine = some (entity, none, arguments))
    exact admits_record known (tidy_create known chosen tidy (mapError_eq_ok.mp written)).2
  | update =>
    dsimp only [capabilityUpdate] at rest
    rw [check_eq_ok] at rest
    obtain ⟨⟨row, db'⟩, written, same⟩ := bind_eq_ok.mp rest.2
    cases pure_eq_ok.mp same
    have chosen : Listed engine entity config (changesOf arguments) := listed_of_input known valid
      (rfl : (Call.capability entity .update arguments).writes engine =
        some (entity, some (argumentText engine arguments "record_id"), changesOf arguments))
    exact admits_record known (tidy_update known chosen tidy (mapError_eq_ok.mp written)).2
  | delete =>
    obtain ⟨⟨row, db'⟩, written, same⟩ := bind_eq_ok.mp rest
    cases pure_eq_ok.mp same
    exact admits_deleted _

end Runs

attribute [local instance] Floats.binary64

def paperSale (method : Option (Limited 60)) : Act :=
  .sale ⟨fun n => (drawnAt (Fin.ofNat 10 n)).id, ⟨"I-1", by decide⟩, 0⟩ ⟨memberOf "first", fun _ => true⟩
    ⟨none, [⟨none, some ⟨"Paper", by decide⟩, 2, some (.finite 5)⟩], method, none, none⟩

def onAccount : Act := paperSale (some ⟨"invoice", by decide⟩)

def ordersListed (db : Database) : Except Failure (Json × Database) :=
  execute plainEngine (drawnAt 9) (memberOf "first") "orders" .list [] db

def ordersReadable (db : Database) : Option Bool := do
  let config ← RecordConfig.find "orders"
  let (value, _) ← (ordersListed db).toOption
  return (validateSchema value (outputSchema "orders" config .list)).toOption.isSome

theorem records_readable_on_account : ordersReadable (onAccount.perform plainEngine startDatabase) = some true ∧
    ∃ config value after, RecordConfig.find "orders" = some config ∧
      ordersListed (onAccount.perform plainEngine startDatabase) = .ok (value, after) ∧
      validateSchema value (outputSchema "orders" config .list) = .ok () := by
  have careful : Careful plainEngine onAccount startDatabase := by
    change payLater (paymentMethod (some ⟨"invoice", by decide⟩)) = true
    decide
  have run : Run plainEngine "first" (fun act db => Validated act db ∧ Careful plainEngine act db)
      (onAccount.perform plainEngine startDatabase) :=
    (Run.empty _ _).act onAccount rfl (fun _ _ => rfl) ⟨trivial, careful⟩
  have served : (ordersListed (onAccount.perform plainEngine startDatabase)).toOption.isSome = true := by decide
  have typed : (RecordConfig.find "orders").isSome = true := by decide
  obtain ⟨config, found⟩ := Option.isSome_iff_exists.mp typed
  cases done : ordersListed (onAccount.perform plainEngine startDatabase) with
  | error failure =>
    rw [done] at served
    cases served
  | ok result => exact ⟨by decide +kernel, config, result.1, result.2, found, rfl, records_readable run rfl found rfl done⟩

/-- A sale that is paid at once completes its order, and that is no status of an order. -/
theorem cash_sale_unreadable : ¬ ∀ db, Run plainEngine "first" Validated db → ∀ config value after,
    RecordConfig.find "orders" = some config → ordersListed db = .ok (value, after) →
      validateSchema value (outputSchema "orders" config .list) = .ok () := by
  intro readable
  have run : Run plainEngine "first" Validated ((paperSale none).perform plainEngine startDatabase) :=
    (Run.empty _ _).act (paperSale none) rfl (fun _ _ => rfl) trivial
  have shown : ordersReadable ((paperSale none).perform plainEngine startDatabase) = some false := by decide +kernel
  simp only [ordersReadable, Option.bind_eq_bind, Option.bind_eq_some_iff] at shown
  obtain ⟨config, found, ⟨value, after⟩, listed, refused⟩ := shown
  cases done : ordersListed ((paperSale none).perform plainEngine startDatabase) with
  | error failure =>
    rw [done] at listed
    cases listed
  | ok result =>
    rw [done] at listed
    cases listed
    rw [readable _ run config value after found done] at refused
    cases refused

end Operly.Workspace.Records
