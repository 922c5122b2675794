import Operly.Workspace.Reachable

/-! What a workspace does, one request after another, from the time it had no records. -/

namespace Operly.Workspace.Records
open Python Relational

inductive Act where
  | record (drawn : Drawn) (auth : AuthContext) (call : Call)
  | sale (supply : Supply) (member : Member) (arguments : Sale)
  | invoice (supply : Supply) (member : Member) (arguments : InvoiceArguments)
  | payment (supply : Supply) (member : Member) (arguments : PaymentArguments)

namespace Act

def tenantId : Act → String
  | .record _ auth _ => auth.tenantId
  | .sale _ member _ | .invoice _ member _ | .payment _ member _ => member.auth.tenantId

def draws : Act → Nat → Drawn
  | .record drawn _ _ => fun _ => drawn
  | .sale supply _ _ | .invoice supply _ _ | .payment supply _ _ => supply.drawn

def perform [Floats] (engine : Engine) (act : Act) (db : Database) : Database :=
  match act with
  | .record drawn auth call => (serve engine drawn auth call db).2
  | .sale supply member arguments => (served (completeSale engine supply member arguments) db).2
  | .invoice supply member arguments => (served (createInvoice engine supply member arguments) db).2
  | .payment supply member arguments => (served (recordPayment engine supply member arguments) db).2

end Act

/-- A workspace from the time it had no records: what it did was `allowed`, and whatever else happened has
left its records alone. -/
inductive Run [Floats] (engine : Engine) (tenantId : String) (allowed : Act → Database → Prop) : Database → Prop
  | start {db : Database} (isolated : Store.Isolated schema db.store)
      (vacant : ∀ model, ∀ row ∈ (db.store model).rows, row.tenantId ≠ some tenantId) : Run engine tenantId allowed db
  | act {db : Database} (run : Run engine tenantId allowed db) (act : Act) (own : act.tenantId = tenantId)
      (fresh : ∀ n, Fresh (act.draws n) db) (permitted : allowed act db) : Run engine tenantId allowed (act.perform engine db)
  | elsewhere {db after : Database} (run : Run engine tenantId allowed db) (isolated : Store.Isolated schema after.store)
      (same : after.only tenantId = db.only tenantId) : Run engine tenantId allowed after

section Runs
variable {engine : Engine} {tenantId : String} {allowed : Act → Database → Prop} {db after : Database} {act : Act}

theorem Act.step [Floats] (fresh : ∀ n, Fresh (act.draws n) db) : Step engine db (act.perform engine db) := by
  cases act with
  | record drawn auth call => exact .record drawn auth call (fresh 0)
  | sale supply member arguments => exact .sale supply member arguments
  | invoice supply member arguments => exact .invoice supply member arguments
  | payment supply member arguments => exact .payment supply member arguments

theorem Run.empty [Floats] (modules : String → String → Option Bool) (permissions : String → String → List String) :
    Run engine tenantId allowed (.empty modules permissions) :=
  .start (fun _ _ held => by cases held) fun _ _ held => by cases held

theorem Run.isolated [Floats] (run : Run engine tenantId allowed db) : Store.Isolated schema db.store := by
  induction run with
  | start isolated _ => exact isolated
  | act _ act _ fresh _ ih => exact isolated_step ih (act.step fresh)
  | elsewhere _ isolated _ _ => exact isolated

theorem served_cases {α : Type} {op : Database → Except Failure (α × Database)} (holds : Database → Prop) (before : holds db)
    (done : ∀ value after, op db = .ok (value, after) → holds after) : holds (served op db).2 := by
  unfold served
  split
  · next value after success => exact done value after success
  · exact before

/-- What holds of the records of a workspace, whatever the others have, and is kept by what it does. -/
theorem Run.invariant [Floats] {holds : Store Model → Prop} (run : Run engine tenantId allowed db)
    (vacant : ∀ store : Store Model, (∀ model, ∀ row ∈ (store model).rows, row.tenantId ≠ some tenantId) → holds store)
    (alone : ∀ store store' : Store Model, Store.only (some tenantId) store' = Store.only (some tenantId) store →
      holds store → holds store')
    (kept : ∀ db act, Store.Isolated schema db.store → holds db.store → act.tenantId = tenantId →
      (∀ n, Fresh (act.draws n) db) → allowed act db → holds (act.perform engine db).store) : holds db.store := by
  induction run with
  | start _ empty => exact vacant _ empty
  | act run act own fresh permitted ih => exact kept _ act run.isolated ih own fresh permitted
  | elsewhere _ _ same ih => exact alone _ _ (congrArg Database.store same) ih

end Runs

end Operly.Workspace.Records
