import Operly.Workspace.Isolation

/-! The amounts of orders, quotes, purchase orders and invoices follow their lines, but not the shipping cost
of a purchase order. -/

namespace Operly.Workspace.Records
open Python Relational

/-! ### The four kinds of lines -/

def tallies [Floats] : List Tally := [orderTally, quoteTally, purchaseOrderTally, invoiceTally]

def amountColumns : List String := ["subtotal", "tax", "total", "shipping_cost"]

def figureColumns : List String := ["quantity", "unit_price", "unit_cost", "discount", "tax_rate"]

theorem foreignKey_plain : ∀ model, ∀ key ∈ foreignKeys model, key.field ∉ amountColumns ∧ key.field ∉ figureColumns := by
  decide

section Tallies
variable [Floats] {tally other : Tally}

theorem forall_tally {holds : Tally → Prop} (order : holds orderTally) (quote : holds quoteTally)
    (purchaseOrder : holds purchaseOrderTally) (invoice : holds invoiceTally) : ∀ tally ∈ tallies, holds tally := by
  intro tally member
  simp only [tallies, List.mem_cons, List.not_mem_nil, or_false] at member
  rcases member with rfl | rfl | rfl | rfl
  · exact order
  · exact quote
  · exact purchaseOrder
  · exact invoice

theorem tallyOf_line : ∀ tally ∈ tallies, tallyOf tally.line = some tally := forall_tally rfl rfl rfl rfl

theorem tallyOf_eq_some {model : Model} (of : tallyOf model = some tally) : tally ∈ tallies ∧ tally.line = model := by
  cases model
  case orderItem =>
    cases of
    exact ⟨by simp [tallies], rfl⟩
  case quoteItem =>
    cases of
    exact ⟨by simp [tallies], rfl⟩
  case purchaseOrderItem =>
    cases of
    exact ⟨by simp [tallies], rfl⟩
  case invoiceItem =>
    cases of
    exact ⟨by simp [tallies], rfl⟩
  all_goals cases of

theorem tally_key : ∀ tally ∈ tallies, ∃ key ∈ foreignKeys tally.line, key.field = tally.field ∧ key.target = tally.parent :=
  forall_tally ⟨_, List.mem_cons_self, rfl, rfl⟩ ⟨_, List.mem_cons_self, rfl, rfl⟩ ⟨_, List.mem_cons_self, rfl, rfl⟩
    ⟨_, List.mem_cons_self, rfl, rfl⟩

theorem tally_cascade : ∀ tally ∈ tallies, ∀ key ∈ foreignKeys tally.line,
    (key.onDelete = .cascade → key.field = tally.field ∧ key.target = tally.parent) ∧
      (key.onDelete = .setNull → key.field ≠ tally.field) := by
  refine forall_tally ?_ ?_ ?_ ?_
  all_goals
    simp only [orderTally, quoteTally, purchaseOrderTally, invoiceTally]
    decide

theorem tally_parentField : ∀ tally ∈ tallies, parentField tally.line = some tally.field := forall_tally rfl rfl rfl rfl

theorem tally_line_ne_parent : ∀ tally ∈ tallies, ∀ other ∈ tallies, tally.line ≠ other.parent := by
  refine forall_tally ?_ ?_ ?_ ?_
  all_goals
    refine forall_tally ?_ ?_ ?_ ?_
    all_goals
      intro same
      cases same

theorem tally_line_inj : ∀ tally ∈ tallies, ∀ other ∈ tallies, tally.line = other.line ∨ tally.parent = other.parent → tally = other := by
  refine forall_tally ?_ ?_ ?_ ?_
  all_goals
    refine forall_tally ?_ ?_ ?_ ?_
    all_goals
      rintro (same | same)
      all_goals first | rfl | cases same

theorem amounts_congr {row row' : Row} (same : row.cells "shipping_cost" = row'.cells "shipping_cost") :
    ∀ tally ∈ tallies, ∀ lines, tally.amounts row lines = tally.amounts row' lines :=
  forall_tally (fun _ => rfl) (fun _ => rfl) (fun lines => by simp only [purchaseOrderTally, same]) fun _ => rfl

theorem amounts_columns (row : Row) (lines : List Figures) : ∀ tally ∈ tallies,
    (tally.amounts row lines).map (·.1) ∈ [["total"], ["subtotal", "total"], ["subtotal", "tax", "total"]] :=
  forall_tally List.mem_cons_self List.mem_cons_self (List.mem_cons_of_mem _ List.mem_cons_self)
    (List.mem_cons_of_mem _ (List.mem_cons_of_mem _ List.mem_cons_self))

theorem amounts_given (member : tally ∈ tallies) {row : Row} {lines : List Figures} {entry : String × Cell}
    (listed : entry ∈ tally.amounts row lines) :
    (tally.amounts row lines).given entry.1 = some entry.2 ∧ entry.1 ∈ ["subtotal", "tax", "total"] := by
  have plain : ∀ names ∈ [["total"], ["subtotal", "total"], ["subtotal", "tax", "total"]],
      names.Nodup ∧ ∀ name ∈ names, name ∈ ["subtotal", "tax", "total"] := by decide
  obtain ⟨distinct, known⟩ := plain _ (amounts_columns row lines tally member)
  exact ⟨Values.given_of_mem distinct listed, known entry.1 (List.mem_map_of_mem listed)⟩

theorem amounts_shipping (row : Row) (lines : List Figures) : ∀ tally ∈ tallies,
    (tally.amounts row lines).given "shipping_cost" = none := forall_tally rfl rfl rfl rfl

theorem figures_congr {row row' : Row} (same : ∀ column ∈ figureColumns, row.cells column = row'.cells column) :
    ∀ tally ∈ tallies, tally.figures row = tally.figures row' := by
  have quantity := same "quantity" (by decide)
  have price := same "unit_price" (by decide)
  have cost := same "unit_cost" (by decide)
  have discount := same "discount" (by decide)
  have taxRate := same "tax_rate" (by decide)
  refine forall_tally ?_ ?_ ?_ ?_
  all_goals simp only [orderTally, quoteTally, purchaseOrderTally, invoiceTally, quantity, price, cost, discount, taxRate]

end Tallies

def Tally.belongs (tally : Tally) (tenantId parentId : String) (row : Row) : Bool :=
  row.tenantId = some tenantId && row.cells tally.field = .text parentId

def figuresOf (tally : Tally) (store : Store Model) (tenantId parentId : String) : List Figures :=
  (linesOf tally store tenantId parentId).map tally.figures

section Statements
variable {tally : Tally} {store after : Store Model} {model : Model} {row old : Row} {id tenantId parentId : String}

theorem figures_of_same (same : after tally.line = store tally.line) :
    figuresOf tally after tenantId parentId = figuresOf tally store tenantId parentId := by
  simp only [figuresOf, linesOf, same]

theorem figures_insert (inserted : Store.insert schema model row store = some after)
    (apart : model = tally.line → tally.belongs tenantId parentId row = false) :
    figuresOf tally after tenantId parentId = figuresOf tally store tenantId parentId :=
  congrArg (List.map tally.figures) (Store.select_insert inserted fun same => apart same.symm)

theorem figures_update (updated : Store.update schema model row store = some after)
    (found : (store model).find row.id = some old)
    (apart : model = tally.line → tally.belongs tenantId parentId row = false ∧ tally.belongs tenantId parentId old = false) :
    figuresOf tally after tenantId parentId = figuresOf tally store tenantId parentId :=
  congrArg (List.map tally.figures) (Store.select_update updated found fun same => apart same.symm)

theorem unlink_plain {column : String} (of : Model) (plain : ∀ key ∈ foreignKeys of, key.onDelete = .setNull → key.field ≠ column) :
    (Store.unlink schema store model id of row).cells column = row.cells column := by
  have cases : (Store.unlink schema store model id of row).cells column = row.cells column ∨ _ := Store.unlink_cells column
  rcases cases with same | ⟨-, key, known, field, action, -⟩
  · exact same
  · exact absurd field (plain key known action)

variable [Floats]

theorem unlink_belongs (member : tally ∈ tallies) (row : Row) :
    tally.belongs tenantId parentId (Store.unlink schema store model id tally.line row) = tally.belongs tenantId parentId row := by
  have field : (Store.unlink schema store model id tally.line row).cells tally.field = row.cells tally.field :=
    unlink_plain tally.line fun key known => (tally_cascade tally member key known).2
  rw [Tally.belongs, Store.unlink_tenantId, field, Tally.belongs]

theorem unlink_figures (member : tally ∈ tallies) (row : Row) :
    tally.figures (Store.unlink schema store model id tally.line row) = tally.figures row := by
  apply figures_congr _ tally member
  intro column known
  apply unlink_plain
  intro key listed _ same
  exact (foreignKey_plain _ key listed).2 (same ▸ known)

theorem figures_delete (member : tally ∈ tallies) (deleted : Store.delete schema model id store = some after)
    (stays : ∀ row ∈ linesOf tally store tenantId parentId, Store.doomed schema model id tally.line row = false) :
    figuresOf tally after tenantId parentId = figuresOf tally store tenantId parentId :=
  Store.select_delete deleted (unlink_belongs member) (unlink_figures member) stays

end Statements

/-! ### Parents whose amounts are those of their lines -/

def Agrees (tally : Tally) (store : Store Model) (tenantId : String) (parent : Row) : Prop :=
  ∀ entry ∈ recalculated tally store tenantId parent, parent.cells entry.1 = entry.2

/-- Those of all parents, except those that lines of a model have by a key. -/
def Totalled [Floats] (tenantId : String) (exempt : List (Model × Cell)) (store : Store Model) : Prop :=
  ∀ tally ∈ tallies, ∀ parent ∈ (store tally.parent).rows, parent.tenantId = some tenantId →
    (tally.line, Cell.text parent.id) ∉ exempt → Agrees tally store tenantId parent

section Agreement
variable [Floats] {tally : Tally} {tenantId : String} {exempt weaker : List (Model × Cell)} {store after : Store Model} {model : Model}
  {row old parent parent' : Row} {id : String} {now : Int} {values : Values}

theorem Totalled.mono (totalled : Totalled tenantId exempt store) (more : ∀ entry ∈ exempt, entry ∈ weaker) :
    Totalled tenantId weaker store := by
  intro tally member parent held own apart
  exact totalled tally member parent held own fun listed => apart (more _ listed)

theorem agrees_congr (member : tally ∈ tallies)
    (figures : figuresOf tally after tenantId parent.id = figuresOf tally store tenantId parent.id) (key : parent'.id = parent.id)
    (cells : ∀ column ∈ amountColumns, parent'.cells column = parent.cells column) (agrees : Agrees tally store tenantId parent) :
    Agrees tally after tenantId parent' := by
  have same : recalculated tally after tenantId parent' = recalculated tally store tenantId parent := by
    have lines : recalculated tally after tenantId parent' = tally.amounts parent' (figuresOf tally after tenantId parent.id) := by
      rw [← key]
      rfl
    rw [lines, figures, amounts_congr (cells "shipping_cost" (by decide)) tally member]
    rfl
  intro entry listed
  rw [same] at listed
  have plain : ∀ name ∈ ["subtotal", "tax", "total"], name ∈ amountColumns := by decide
  rw [cells entry.1 (plain entry.1 (amounts_given member listed).2)]
  exact agrees entry listed

theorem Totalled.insert (totalled : Totalled tenantId exempt store) (isolated : Store.Isolated schema store)
    (inserted : Store.insert schema model row store = some after)
    (line : ∀ tally ∈ tallies, tally.line = model → ∀ parentId, (tally.line, Cell.text parentId) ∉ exempt →
      tally.belongs tenantId parentId row = false)
    (parent : ∀ tally ∈ tallies, tally.parent = model → ∀ entry ∈ tally.amounts row [], row.cells entry.1 = entry.2) :
    Totalled tenantId exempt after := by
  intro tally member other held own apart
  have figures : figuresOf tally after tenantId other.id = figuresOf tally store tenantId other.id :=
    figures_insert inserted fun same => line tally member same.symm other.id apart
  rcases (Store.mem_insert inserted).mp held with earlier | ⟨same, rfl⟩
  · exact agrees_congr member figures rfl (fun _ _ => rfl) (totalled tally member other earlier own apart)
  · -- no line names a parent that has not been there
    have missing : (store tally.parent).find other.id = none := same ▸ (Store.insert_eq_some.mp inserted).1
    obtain ⟨key, known, field, target⟩ := tally_key tally member
    have none : figuresOf tally store tenantId other.id = [] := by
      rw [figuresOf, List.map_eq_nil_iff]
      apply List.filter_eq_nil_iff.mpr
      intro line stored counted
      rw [Bool.and_eq_true, decide_eq_true_eq, decide_eq_true_eq, ← field] at counted
      exact isolated.unreferenced stored known (target ▸ missing) counted.2
    have lines : recalculated tally after tenantId other = tally.amounts other (figuresOf tally after tenantId other.id) := rfl
    intro entry listed
    rw [lines, figures, none] at listed
    exact parent tally member same entry listed

theorem Totalled.update (inserted : Store.update schema model row store = some after)
    (found : (store model).find row.id = some old) (tenant : row.tenantId = old.tenantId)
    (line : ∀ tally ∈ tallies, tally.line = model → ∀ parentId, (tally.line, Cell.text parentId) ∉ exempt →
      tally.belongs tenantId parentId row = false ∧ tally.belongs tenantId parentId old = false)
    (others : ∀ tally ∈ tallies, ∀ parent ∈ (store tally.parent).rows, parent.tenantId = some tenantId →
      (tally.line, Cell.text parent.id) ∉ exempt → (tally.parent = model → parent.id ≠ row.id) →
      Agrees tally store tenantId parent)
    (itself : ∀ tally ∈ tallies, tally.parent = model → old.tenantId = some tenantId →
      (tally.line, Cell.text row.id) ∉ exempt → Agrees tally store tenantId row) :
    Totalled tenantId exempt after := by
  intro tally member other held own apart
  have figures : figuresOf tally after tenantId other.id = figuresOf tally store tenantId other.id :=
    figures_update inserted found fun same => line tally member same.symm other.id apart
  apply agrees_congr member figures rfl fun _ _ => rfl
  rcases (Store.mem_update inserted).mp held with ⟨earlier, distinct⟩ | ⟨same, rfl, -⟩
  · exact others tally member other earlier own apart distinct
  · exact itself tally member same (tenant ▸ own) apart

theorem Totalled.delete (totalled : Totalled tenantId exempt store)
    (deleted : Store.delete schema model row.id store = some after) (found : (store model).find row.id = some row)
    (line : ∀ tally ∈ tallies, tally.line = model → ∀ parentId, (tally.line, Cell.text parentId) ∉ exempt →
      tally.belongs tenantId parentId row = false) : Totalled tenantId exempt after := by
  intro tally member other held own apart
  obtain ⟨parent, stored, stays, rfl⟩ := (Store.mem_delete deleted).mp held
  have cells : ∀ column ∈ amountColumns,
      (Store.unlink schema store model row.id tally.parent parent).cells column = parent.cells column := by
    intro column known
    apply unlink_plain
    intro key listed _ same
    exact (foreignKey_plain _ key listed).1 (same ▸ known)
  have figures : figuresOf tally after tenantId parent.id = figuresOf tally store tenantId parent.id := by
    apply figures_delete member deleted
    intro stale counted
    obtain ⟨listed, counts⟩ := List.mem_filter.mp counted
    by_contra goes
    rw [Bool.not_eq_false] at goes
    rcases Store.doomed_iff.mp goes with ⟨same, key⟩ | ⟨key, known, cascades, target, held⟩
    · -- the line itself, whose parent is exempt
      have again : (store model).find row.id = some stale := by
        rw [← same, ← key]
        exact Table.find_of_mem listed
      rw [found, Option.some.injEq] at again
      have dropped := line tally member same parent.id apart
      rw [again] at dropped
      exact Bool.noConfusion (dropped.symm.trans counts)
    · -- a line goes with its parent, which stays
      obtain ⟨field, of⟩ := (tally_cascade tally member key known).1 cascades
      rw [Bool.and_eq_true, decide_eq_true_eq, decide_eq_true_eq, ← field, held] at counts
      have same : parent.id = row.id := (Cell.text.inj counts.2).symm
      have doomed : Store.doomed schema model row.id tally.parent parent = true :=
        Store.doomed_iff.mpr (.inl ⟨of.symm.trans target, same⟩)
      rw [stays] at doomed
      cases doomed
  exact agrees_congr member figures rfl cells (totalled tally member parent stored own apart)

end Agreement

/-! ### What is refreshed -/

section Refreshed
variable {tally : Tally} {tenantId : String} {exempt : List (Model × Cell)} {store after : Store Model} {model : Model}
  {row parent : Row} {now : Int} {values : Values} {parentId oldParent : Cell}

theorem ownedRow_of_mem (member : row ∈ (store model).rows) (own : row.tenantId = some tenantId) :
    ownedRow tenantId model (.text row.id) store = some row := by
  have nonempty : row.id ≠ "" := by
    intro empty
    have length := row.keyed
    rw [empty] at length
    cases length
  have found : (store model).find row.id = some row := Table.find_of_mem member
  rw [ownedRow, keyOf, if_neg nonempty, Option.bind_some, found]
  exact if_pos (Row.ownedBy_iff.mpr own)

theorem amended_amounts (apart : ∀ entry ∈ values, entry.1 ∉ amountColumns) :
    ∀ column ∈ amountColumns, (amended now model row values).cells column = row.cells column := by
  intro column known
  have plain : "updated_at" ∉ amountColumns := by decide
  have absent : values.given column = none := Values.given_eq_none.mpr fun entry listed same => apart entry listed (same ▸ known)
  rw [amended_cells fun same => plain (same ▸ known), Row.assign_cells absent]

variable [Floats]

theorem tally_line_of_none (absent : tallyOf model = none) : ∀ tally ∈ tallies, tally.line ≠ model := by
  intro tally member same
  have line := tallyOf_line tally member
  rw [same, absent] at line
  cases line

theorem Totalled.strip (absent : tallyOf model = none) (totalled : Totalled tenantId ((model, parentId) :: exempt) store) :
    Totalled tenantId exempt store := by
  intro tally member parent held own apart
  apply totalled tally member parent held own
  rw [List.mem_cons, not_or]
  exact ⟨fun same => tally_line_of_none absent tally member (congrArg Prod.fst same), apart⟩

theorem Totalled.revise (totalled : Totalled tenantId exempt store) (found : (store model).find row.id = some row)
    (absent : tallyOf model = none) (apart : ∀ entry ∈ values, entry.1 ∉ amountColumns)
    (revised : Records.revise now model row values store = some after) : Totalled tenantId exempt after := by
  have found' : (store model).find (amended now model row values).id = some row := by rw [amended_id, found]
  apply Totalled.update revised found'
  · exact amended_tenantId
  · exact fun tally member same => absurd same (tally_line_of_none absent tally member)
  · exact fun tally member parent held own listed _ => totalled tally member parent held own listed
  · intro tally member same own listed
    rw [amended_id] at listed
    apply agrees_congr member rfl amended_id (amended_amounts apart)
    exact totalled tally member row (same ▸ Table.find_mem found) own listed

theorem Totalled.syncInvoicePaymentState (totalled : Totalled tenantId exempt store)
    (done : Records.syncInvoicePaymentState now tenantId parentId store = some after) : Totalled tenantId exempt after := by
  have plain : ∀ name ∈ ["status", "paid_at"], name ∉ amountColumns := by decide
  unfold Records.syncInvoicePaymentState at done
  split at done
  · next invoice found =>
    exact totalled.revise (ownedRow_spec found).2.1 rfl (fun entry listed => plain _ (syncedState_names _ _ _ entry listed)) done
  · cases done
    exact totalled

theorem Totalled.touchLead (totalled : Totalled tenantId exempt store)
    (done : Records.touchLead now tenantId row store = some after) : Totalled tenantId exempt after := by
  have plain : ∀ name ∈ ["last_activity_at", "last_contacted_at", "next_action_at"], name ∉ amountColumns := by decide
  unfold Records.touchLead at done
  split at done
  · next lead found =>
    exact totalled.revise (ownedRow_spec found).2.1 rfl (fun entry listed => plain _ (contacted_names _ _ entry listed)) done
  · cases done
    exact totalled

theorem agrees_recalculated (member : tally ∈ tallies) :
    Agrees tally store tenantId (amended now tally.parent parent (recalculated tally store tenantId parent)) := by
  intro entry listed
  have shipping : (amended now tally.parent parent (recalculated tally store tenantId parent)).cells "shipping_cost" =
      parent.cells "shipping_cost" := by
    rw [amended_cells (by decide)]
    exact Row.assign_cells (amounts_shipping _ _ tally member)
  have same : recalculated tally store tenantId (amended now tally.parent parent (recalculated tally store tenantId parent)) =
      recalculated tally store tenantId parent := by
    rw [recalculated, amended_id, amounts_congr shipping tally member, recalculated]
  rw [same] at listed
  obtain ⟨given, known⟩ := amounts_given member listed
  have plain : entry.1 ≠ "updated_at" := by
    intro clash
    rw [clash] at known
    exact absurd known (by decide)
  rw [amended_cells plain]
  exact Row.assign_given given

theorem Totalled.recalculate (member : tally ∈ tallies) (totalled : Totalled tenantId ((tally.line, parentId) :: exempt) store)
    (done : Records.recalculate tally now tenantId parentId store = some after) : Totalled tenantId exempt after := by
  unfold Records.recalculate at done
  split at done
  · next parent found =>
    obtain ⟨key, held, own⟩ := ownedRow_spec found
    have found' : (store tally.parent).find
        (amended now tally.parent parent (recalculated tally store tenantId parent)).id = some parent := by rw [amended_id, held]
    apply Totalled.update done found'
    · exact amended_tenantId
    · exact fun other known same => absurd same (tally_line_ne_parent other known tally member)
    · intro other known row stored mine listed distinct
      apply totalled other known row stored mine
      rw [List.mem_cons, not_or]
      refine ⟨?_, listed⟩
      intro same
      rw [Prod.mk.injEq] at same
      cases tally_line_inj other known tally member (.inl same.1)
      rw [amended_id] at distinct
      exact distinct rfl (Cell.text.inj (same.2.trans key))
    · intro other known same _ _
      cases tally_line_inj other known tally member (.inr same)
      exact agrees_recalculated member
  · next missing =>
    cases done
    intro other known row stored mine listed
    apply totalled other known row stored mine
    rw [List.mem_cons, not_or]
    refine ⟨?_, listed⟩
    intro same
    rw [Prod.mk.injEq] at same
    cases tally_line_inj other known tally member (.inl same.1)
    rw [← same.2, ownedRow_of_mem stored mine] at missing
    cases missing

theorem Totalled.refreshParent (totalled : Totalled tenantId ((model, parentId) :: exempt) store)
    (done : Records.refreshParent now tenantId model parentId store = some after) : Totalled tenantId exempt after := by
  unfold Records.refreshParent recalculateParent at done
  split at done
  · next payment =>
    exact (totalled.strip (payment ▸ rfl)).syncInvoicePaymentState done
  · split at done
    · next tally of =>
      obtain ⟨member, rfl⟩ := tallyOf_eq_some of
      exact totalled.recalculate member done
    · next none =>
      cases done
      exact totalled.strip none

theorem Totalled.afterRecordMutation
    (totalled : Totalled tenantId [(model, oldParent), (model, parentOf model row)] store)
    (done : Records.afterRecordMutation now tenantId model row oldParent store = some after) : Totalled tenantId [] after := by
  apply afterRecordMutation_rule (fun parents => Totalled tenantId (parents.map fun parentId => (model, parentId))) done
  · exact fun _ _ _ _ totalled refreshed => Totalled.refreshParent totalled refreshed
  · exact fun _ totalled => totalled.mono (by simp)
  · intro interaction touched
    have absent : tallyOf model = none := interaction ▸ rfl
    exact (totalled.strip absent |>.strip absent).touchLead touched
  · exact totalled

end Refreshed

end Operly.Workspace.Records
