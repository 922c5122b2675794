import Operly.Workspace.Runs
import Operly.Workspace.Totals

/-! The amounts in every run of a workspace. They follow the lines; a shipping cost that is written by itself
does not reach the total of its purchase order. -/

namespace Operly.Workspace.Records
open Python Relational

def purchaseTotal [Floats] (lines : List Figures) (shipping : Cell) : Double :=
  (((Floats.sum (lines.map Figures.base)).add
    (Floats.sum (lines.map fun line => (line.base.mul line.taxRate).percent))).add (amount shipping)).cents

def NoAmounts (payload : Fields) : Prop := ∀ entry ∈ payload, entry.1 ∉ ["subtotal", "tax", "total"]

/-- A shipping cost that is written leaves the total of its purchase order as it is. -/
def KeepsTotal [Floats] (engine : Engine) (tenantId : String) (store : Store Model) (recordId : Option String) (shipping : Json) : Prop :=
  ∀ cell, coerce engine.spelling .purchaseOrder "shipping_cost" shipping = .ok cell →
    match recordId with
    | none => purchaseTotal [] cell = .zero
    | some recordId => ∀ row, (store .purchaseOrder).find recordId = some row →
        purchaseTotal (figuresOf purchaseOrderTally store tenantId recordId) cell =
          purchaseTotal (figuresOf purchaseOrderTally store tenantId recordId) (row.cells "shipping_cost")

def Unpriced (engine : Engine) (act : Act) (_ : Database) : Prop :=
  ∃ drawn auth call, act = .record drawn auth call ∧
    ∀ entity recordId payload, call.writes engine = some (entity, recordId, payload) → NoAmounts payload

def Neutral [Floats] (engine : Engine) (act : Act) (db : Database) : Prop :=
  ∃ drawn auth call, act = .record drawn auth call ∧
    ∀ entity recordId payload, call.writes engine = some (entity, recordId, payload) →
      NoAmounts payload ∧ (entity = "purchase-orders" → ∀ entry ∈ payload, entry.1 = "shipping_cost" →
        KeepsTotal engine auth.tenantId db.store recordId entry.2)

section Amounts
variable [Floats] {row row' : Row} {lines : List Figures}

theorem amounts_eq (model : Model) (shipping : model = .purchaseOrder →
      purchaseTotal lines (row.cells "shipping_cost") = purchaseTotal lines (row'.cells "shipping_cost")) :
    ∀ tally ∈ tallies, tally.parent = model → tally.amounts row lines = tally.amounts row' lines := by
  apply forall_tally
  · exact fun _ => rfl
  · exact fun _ => rfl
  · intro same
    have total := shipping same.symm
    simp only [purchaseTotal] at total
    simp only [purchaseOrderTally, total]
  · exact fun _ => rfl

theorem amounts_nil (model : Model)
    (shipping : model = .purchaseOrder → purchaseTotal [] (row.cells "shipping_cost") = .zero) :
    ∀ tally ∈ tallies, tally.parent = model → ∀ entry ∈ tally.amounts row [], entry.2 = .float .zero ∧
      (columnOf model entry.1).map Column.initial = some (.value (.float .zero)) := by
  apply forall_tally
  · rintro rfl
    simp only [orderTally, List.map_nil, Floats.sum_nil, Double.cents_zero]
    decide
  · rintro rfl
    simp only [quoteTally, List.map_nil, Double.sum, List.foldl_nil, Double.cents_zero]
    decide
  · rintro rfl
    have total : (((Floats.sum []).add (Floats.sum [])).add (amount (row.cells "shipping_cost"))).cents = .zero := shipping rfl
    simp only [purchaseOrderTally, List.map_nil, total]
    simp only [Floats.sum_nil, Double.cents_zero]
    decide
  · rintro rfl
    simp only [invoiceTally, List.map_nil, Double.sum, List.foldl_nil, Double.zero_add_zero, Double.cents_zero]
    decide

end Amounts

/-! ### Requests -/

theorem purchaseOrder_entity : ∀ entry ∈ entityRegistry, entry.2.model = .purchaseOrder → entry.1 = "purchase-orders" := by
  decide

section Requests
variable [Floats] {engine : Engine} {drawn : Drawn} {auth : AuthContext} {entity recordId : String} {config : RecordConfig}
  {payload : Fields} {noted : Bool} {row : Row} {db after : Database} {values : Values}

theorem belongs_exempt {tally : Tally} (member : tally ∈ tallies) {model : Model} (line : tally.line = model)
    {exempt : List (Model × Cell)} (listed : (model, parentOf model row) ∈ exempt) {tenantId parentId : String}
    (apart : (tally.line, Cell.text parentId) ∉ exempt) : tally.belongs tenantId parentId row = false := by
  have names : parentOf tally.line row = row.cells tally.field := by
    rw [parentOf, tally_parentField tally member, Option.map_some, Option.getD_some]
  have other : row.cells tally.field ≠ .text parentId := by
    intro same
    rw [← line, names, same] at listed
    exact apart listed
  rw [Tally.belongs, decide_eq_false other, Bool.and_false]

theorem unpriced_given (unpriced : NoAmounts payload) {isPartial : Bool}
    (taken : payloadValues engine.spelling config payload isPartial = .ok values) :
    ∀ column ∈ ["subtotal", "tax", "total"], values.given column = none :=
  fun _ known => payloadValues_absent taken fun entry member same => unpriced entry member (same ▸ known)

theorem newOrder_total (known : (entity, config) ∈ entityRegistry) {isPartial : Bool}
    (taken : payloadValues engine.spelling config payload isPartial = .ok values)
    (shipping : entity = "purchase-orders" → ∀ entry ∈ payload, entry.1 = "shipping_cost" →
      KeepsTotal engine auth.tenantId db.store none entry.2) (drawn : Drawn) : config.model = .purchaseOrder →
    purchaseTotal [] ((newRow drawn auth.tenantId config.model (ownedValues config values)).cells "shipping_cost") = .zero := by
  intro order
  have zero : purchaseTotal [] (.float .zero) = .zero := by
    change (((Floats.sum []).add (Floats.sum [])).add .zero).cents = .zero
    rw [Floats.sum_nil, Double.zero_add_zero, Double.zero_add_zero, Double.cents_zero]
  have free : ∀ now, purchaseTotal [] (((columnOf .purchaseOrder "shipping_cost").map fun declared =>
      declared.initially now).getD .null) = .zero := fun _ => zero
  have given : (ownedValues config values).given "shipping_cost" = values.given "shipping_cost" :=
    ownedValues_given (by decide)
  cases written : values.given "shipping_cost" with
  | none =>
    rw [newRow_initially (given.trans written), order]
    exact free drawn.now
  | some cell =>
    obtain ⟨entry, member, name, taken⟩ := payloadValues_coerced taken written
    rw [order] at taken ⊢
    rw [newRow_written rfl (given.trans written)]
    split
    · exact free drawn.now
    · exact shipping (purchaseOrder_entity _ known order) entry member name cell taken

theorem totalled_create (known : (entity, config) ∈ entityRegistry) (isolated : Store.Isolated schema db.store)
    (unpriced : NoAmounts payload) (shipping : entity = "purchase-orders" → ∀ entry ∈ payload, entry.1 = "shipping_cost" →
      KeepsTotal engine auth.tenantId db.store none entry.2)
    (done : create engine drawn auth entity config payload db = .ok (row, after))
    (totalled : Totalled auth.tenantId [] db.store) : Totalled auth.tenantId [] after.store := by
  obtain ⟨values, inserted, store, taken, -, rfl, written, refreshed, rfl⟩ := create_eq_ok.mp done
  refine Totalled.afterRecordMutation ?_ refreshed
  apply (totalled.mono (by simp)).insert isolated written
  · exact fun tally member line parentId apart => belongs_exempt member line (by simp) apart
  · intro tally member same entry listed
    obtain ⟨zero, initial⟩ := amounts_nil config.model (newOrder_total known taken shipping drawn) tally member same entry listed
    obtain ⟨declared, column, initially⟩ := Option.map_eq_some_iff.mp initial
    have name := (amounts_given member listed).2
    have absent : (ownedValues config values).given entry.1 = none := by
      rw [ownedValues_given, unpriced_given unpriced taken entry.1 name]
      intro clash
      rw [clash] at name
      exact absurd name (by decide)
    rw [newRow_initially absent, column, zero]
    simp [Column.initially, initially]

theorem agrees_amended {tally : Tally} (member : tally ∈ tallies) (parent : tally.parent = config.model)
    (known : (entity, config) ∈ entityRegistry) (unpriced : NoAmounts payload)
    (shipping : entity = "purchase-orders" → ∀ entry ∈ payload, entry.1 = "shipping_cost" →
      KeepsTotal engine auth.tenantId db.store (some recordId) entry.2)
    (taken : payloadValues engine.spelling config payload true = .ok values)
    (found : (db.store config.model).find recordId = some row) (agrees : Agrees tally db.store auth.tenantId row) :
    Agrees tally db.store auth.tenantId (amended drawn.now config.model row (stagedValues drawn noted values)) := by
  have cells : ∀ column ∈ amountColumns, values.given column = none →
      (amended drawn.now config.model row (stagedValues drawn noted values)).cells column = row.cells column := by
    intro column listed absent
    have plain : ∀ name ∈ amountColumns, name ≠ "updated_at" ∧ name ≠ "stage_changed_at" := by decide
    have staged : (stagedValues drawn noted values).given column = none :=
      (stagedValues_given (plain column listed).2).trans absent
    rw [amended_cells (plain column listed).1, Row.assign_cells staged]
  have total : config.model = .purchaseOrder →
      purchaseTotal (figuresOf tally db.store auth.tenantId row.id)
          ((amended drawn.now config.model row (stagedValues drawn noted values)).cells "shipping_cost") =
        purchaseTotal (figuresOf tally db.store auth.tenantId row.id) (row.cells "shipping_cost") := by
    intro order
    cases tally_line_inj tally member purchaseOrderTally (by simp [tallies]) (.inr (parent.trans order))
    cases written : values.given "shipping_cost" with
    | none => rw [cells "shipping_cost" (by decide) written]
    | some cell =>
      obtain ⟨entry, listed, name, coerced⟩ := payloadValues_coerced taken written
      have staged : (stagedValues drawn noted values).given "shipping_cost" = some cell :=
        (stagedValues_given (by decide)).trans written
      rw [amended_cells (by decide), Row.assign_given staged, Table.find_key found]
      rw [order] at coerced found
      exact shipping (purchaseOrder_entity _ known order) entry listed name cell coerced row found
  intro entry listed
  have same : recalculated tally db.store auth.tenantId (amended drawn.now config.model row (stagedValues drawn noted values)) =
      recalculated tally db.store auth.tenantId row := by
    rw [recalculated, amended_id]
    exact amounts_eq config.model total tally member parent
  rw [same] at listed
  have name := (amounts_given member listed).2
  have amounts : ∀ column ∈ ["subtotal", "tax", "total"], column ∈ amountColumns := by decide
  rw [cells entry.1 (amounts _ name) (unpriced_given unpriced taken entry.1 name)]
  exact agrees entry listed

theorem totalled_update (known : (entity, config) ∈ entityRegistry) (unpriced : NoAmounts payload)
    (shipping : entity = "purchase-orders" → ∀ entry ∈ payload, entry.1 = "shipping_cost" →
      KeepsTotal engine auth.tenantId db.store (some recordId) entry.2)
    (done : update engine drawn auth entity config noted recordId payload db = .ok (row, after))
    (totalled : Totalled auth.tenantId [] db.store) : Totalled auth.tenantId [] after.store := by
  obtain ⟨old, values, updated, store, found, own, taken, -, rfl, written, refreshed, rfl⟩ := update_eq_ok.mp done
  have key : (db.store config.model).find old.id = some old := Table.find_of_mem (Table.find_mem found)
  refine Totalled.afterRecordMutation ?_ refreshed
  have key' : (db.store config.model).find (amended drawn.now config.model old (stagedValues drawn noted values)).id =
      some old := by rw [amended_id, key]
  apply Totalled.update written key'
  · exact amended_tenantId
  · exact fun tally member line parentId apart =>
      ⟨belongs_exempt member line (by simp) apart, belongs_exempt member line (by simp) apart⟩
  · exact fun tally member parent held mine _ _ => totalled tally member parent held mine (by simp)
  · intro tally member parent _ _
    have before : Agrees tally db.store auth.tenantId old :=
      totalled tally member old (parent ▸ Table.find_mem found) own (by simp)
    exact agrees_amended member parent known unpriced shipping taken found before

theorem totalled_delete (done : delete drawn auth entity config recordId db = .ok (row, after))
    (totalled : Totalled auth.tenantId [] db.store) : Totalled auth.tenantId [] after.store := by
  obtain ⟨deleted, store, found, -, written, refreshed, rfl⟩ := delete_eq_ok.mp done
  have key : (db.store config.model).find row.id = some row := Table.find_of_mem (Table.find_mem found)
  refine Totalled.refreshParent ?_ refreshed
  exact (totalled.mono (by simp)).delete written key fun tally member line parentId apart =>
    belongs_exempt member line (by simp) apart

theorem totalled_perform {act : Act} (neutral : Neutral engine act db) (isolated : Store.Isolated schema db.store)
    (totalled : Totalled act.tenantId [] db.store) : Totalled act.tenantId [] (act.perform engine db).store := by
  obtain ⟨drawn, auth, call, rfl, neutral⟩ := neutral
  apply served_cases (fun db : Database => Totalled auth.tenantId [] db.store) totalled
  intro value after done
  cases handle_performed done with
  | listed value => exact totalled
  | created known writes done =>
    obtain ⟨unpriced, shipping⟩ := neutral _ _ _ writes
    exact totalled_create known isolated unpriced shipping done totalled
  | updated known writes done =>
    obtain ⟨unpriced, shipping⟩ := neutral _ _ _ writes
    exact totalled_update known unpriced shipping done totalled
  | deleted _ _ _ done => exact totalled_delete done totalled

end Requests

theorem totalled_only [Floats] {tenantId : String} {store store' : Store Model}
    (same : Store.only (some tenantId) store' = Store.only (some tenantId) store)
    (totalled : Totalled tenantId [] store) : Totalled tenantId [] store' := by
  intro tally member parent held own apart
  have stored : parent ∈ (Store.only (some tenantId) store' tally.parent).rows := Store.mem_only.mpr ⟨held, own⟩
  rw [same] at stored
  have lines : recalculated tally store' tenantId parent = recalculated tally store tenantId parent := by
    rw [recalculated, ← linesOf_only, same, linesOf_only, recalculated]
  rw [Agrees, lines]
  exact totalled tally member parent (Store.mem_only.mp stored).1 own apart

/-- The stored amounts of the parents of a workspace are what their fields and lines determine. -/
def Followed [Floats] (tenantId : String) (db : Database) : Prop :=
  ∀ tally ∈ tallies, ∀ parent ∈ (db.store tally.parent).rows, parent.tenantId = some tenantId →
    ∀ entry ∈ recalculated tally db.store tenantId parent, parent.cells entry.1 = entry.2

/-- They always are, as long as no request writes an amount, or a shipping cost that would change a total. -/
theorem totals_follow [Floats] {engine : Engine} {tenantId : String} {db : Database} (run : Run engine tenantId (Neutral engine) db) :
    Followed tenantId db := by
  have totalled : Totalled tenantId [] db.store := by
    apply run.invariant
    · exact fun store vacant tally _ parent held own _ => absurd own (vacant _ parent held)
    · exact fun _ _ => totalled_only
    · rintro db act isolated totalled rfl _ neutral
      exact totalled_perform neutral isolated totalled
  exact fun tally member parent held own => totalled tally member parent held own (by simp)

attribute [local instance] Floats.exact

def openDatabase : Database := .empty (fun _ _ => some true) fun _ _ => []

def orderDrafted (payload : Fields) : Act :=
  .record (drawnAt 0) (memberOf "first") (.route "purchase-orders" (.create (("reference", .str "P-1") :: payload)))

def paperAdded : Act :=
  .record (drawnAt 1) (memberOf "first") (.route "purchase-order-items" (.create [
    ("purchase_order_id", .str (drawnAt 0).id.1), ("description", .str "Paper"), ("quantity", .int 2), ("unit_cost", .int 3)]))

def paperOrdered : Database := paperAdded.perform plainEngine ((orderDrafted []).perform plainEngine openDatabase)

theorem totals_follow_paper : ((paperOrdered.store .purchaseOrder).rows.map fun row => row.cells "total") =
      [.float (.finite 6)] ∧ Followed "first" paperOrdered := by
  have run : Run plainEngine "first" (Neutral plainEngine) paperOrdered := by
    refine ((Run.empty _ _).act (orderDrafted []) rfl (fun _ _ => rfl) ?_).act paperAdded rfl ?_ ?_
    · refine ⟨_, _, _, rfl, ?_⟩
      intro entity recordId payload writes
      cases writes
      exact ⟨by unfold NoAmounts; decide, fun _ => by simp⟩
    · have fresh : Fresh (drawnAt 1) ((orderDrafted []).perform plainEngine openDatabase) := by
        unfold Fresh
        decide
      exact fun _ => fresh
    · refine ⟨_, _, _, rfl, ?_⟩
      intro entity recordId payload writes
      cases writes
      exact ⟨by unfold NoAmounts; decide, fun purchase => by simp at purchase⟩
  exact ⟨by decide +kernel, totals_follow run⟩

/-- The total of a new purchase order leaves its shipping cost out. -/
theorem shipping_not_followed : ¬ ∀ db, Run plainEngine "first" (Unpriced plainEngine) db → Followed "first" db := by
  intro followed
  have run : Run plainEngine "first" (Unpriced plainEngine)
      ((orderDrafted [("shipping_cost", .int 10)]).perform plainEngine openDatabase) := by
    refine (Run.empty _ _).act _ rfl (fun _ _ => rfl) ⟨_, _, _, rfl, ?_⟩
    intro entity recordId payload writes
    cases writes
    unfold NoAmounts
    decide
  have total := followed _ run purchaseOrderTally (by simp [tallies])
  revert total
  decide +kernel

end Operly.Workspace.Records
