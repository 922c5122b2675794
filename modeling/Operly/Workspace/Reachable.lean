import Operly.Python.JsonText
import Operly.Workspace.Business

/-! The databases that the workspaces reach, and what a member of one of them can tell about the others. -/

namespace Operly.Workspace.Records
open Python Relational

def served {α : Type} (op : Database → Except Failure (α × Database)) (db : Database) : Except Failure α × Database :=
  match op db with
  | .ok (value, after) => (.ok value, after)
  | .error failure => (.error failure, db)

def serve [Floats] (engine : Engine) (drawn : Drawn) (auth : AuthContext) (call : Call) (db : Database) :
    Except Failure Json × Database := served (handle engine drawn auth call) db

def Database.empty (modules : String → String → Option Bool) (permissions : String → String → List String) : Database :=
  ⟨fun _ => .empty, [], modules, permissions⟩

inductive Step [Floats] (engine : Engine) : Database → Database → Prop
  | record {db : Database} (drawn : Drawn) (auth : AuthContext) (call : Call) (fresh : Fresh drawn db) :
      Step engine db (serve engine drawn auth call db).2
  | sale {db : Database} (supply : Supply) (member : Member) (sale : Sale) :
      Step engine db (served (completeSale engine supply member sale) db).2
  | invoice {db : Database} (supply : Supply) (member : Member) (arguments : InvoiceArguments) :
      Step engine db (served (createInvoice engine supply member arguments) db).2
  | payment {db : Database} (supply : Supply) (member : Member) (arguments : PaymentArguments) :
      Step engine db (served (recordPayment engine supply member arguments) db).2
  /-- what other code writes, as long as no row refers to another workspace -/
  | elsewhere {db after : Database} (isolated : Store.Isolated schema after.store) : Step engine db after

inductive Reachable [Floats] (engine : Engine) : Database → Prop
  | empty (modules : String → String → Option Bool) (permissions : String → String → List String) :
      Reachable engine (.empty modules permissions)
  | step {db after : Database} (reachable : Reachable engine db) (stepped : Step engine db after) : Reachable engine after

section Isolated
variable {engine : Engine} {drawn : Drawn} {auth : AuthContext} {call : Call} {db after : Database}

theorem local_handle [Floats] (isolated : Store.Isolated schema db.store) (fresh : Fresh drawn db) :
    Local auth.tenantId (handle engine drawn auth call) db := by
  cases call with
  | route entity request => exact local_route isolated fresh entity request
  | capability entity operation arguments => exact local_capability isolated fresh entity operation arguments

theorem isolated_served {α : Type} {op : Database → Except Failure (α × Database)} (isolated : Store.Isolated schema db.store)
    (kept : ∀ result, op db = .ok result → Store.Isolated schema result.2.store) :
    Store.Isolated schema (served op db).2.store := by
  unfold served
  split
  · next value after done => exact kept (value, after) done
  · exact isolated

theorem isolated_step [Floats] (isolated : Store.Isolated schema db.store) (stepped : Step engine db after) :
    Store.Isolated schema after.store := by
  cases stepped with
  | record drawn auth call fresh => exact isolated_served isolated (local_handle isolated fresh).isolated
  | sale supply member sale => exact isolated_served isolated fun _ done => (completeSale_kept isolated done).isolated
  | invoice supply member arguments => exact isolated_served isolated fun _ done => (createInvoice_kept isolated done).isolated
  | payment supply member arguments => exact isolated_served isolated fun _ done => (recordPayment_kept isolated done).isolated
  | elsewhere isolated => exact isolated

theorem Reachable.isolated [Floats] (reachable : Reachable engine db) : Store.Isolated schema db.store := by
  induction reachable with
  | empty modules permissions =>
    intro model row member
    cases member
  | step _ stepped ih => exact isolated_step ih stepped

theorem Database.SameOutside.refl (tenantId : String) (db : Database) : db.SameOutside tenantId db :=
  ⟨fun _ _ => rfl, rfl, rfl, rfl⟩

theorem Database.SameOutside.only_eq {tenantId other : String} (same : db.SameOutside tenantId after)
    (apart : other ≠ tenantId) : after.only other = db.only other := by
  have events : after.activities.filter (fun event => event.tenantId = other) =
      db.activities.filter fun event => event.tenantId = other := by
    have within : ∀ activities : List ActivityEvent, activities.filter (fun event => event.tenantId = other) =
        (activities.filter fun event => event.tenantId ≠ tenantId).filter fun event => event.tenantId = other := by
      intro activities
      rw [List.filter_filter]
      apply List.filter_congr
      intro event _
      by_cases own : event.tenantId = other
      · simp [own, apart]
      · simp [own]
    rw [within, same.activities, ← within]
  simp only [Database.only, same.rows (some other) (by simpa using apart), events, same.modules, same.permissions]

theorem serve_only [Floats] (isolated : Store.Isolated schema db.store) (fresh : Fresh drawn db) :
    serve engine drawn auth call (db.only auth.tenantId) =
      ((serve engine drawn auth call db).1, (serve engine drawn auth call db).2.only auth.tenantId) := by
  rw [serve, served, (local_handle isolated fresh).alone]
  simp only [serve, served]
  cases handle engine drawn auth call db <;> rfl

theorem serve_sameOutside [Floats] (isolated : Store.Isolated schema db.store) (fresh : Fresh drawn db) :
    db.SameOutside auth.tenantId (serve engine drawn auth call db).2 := by
  simp only [serve, served]
  cases done : handle engine drawn auth call db with
  | error failure => exact .refl _ _
  | ok result => exact (local_handle isolated fresh).others result done

/-- Two databases that hold the same rows of a workspace in the same order: a request of its members gets the same
response in both, leaves them alike to it, and changes nothing of the other workspaces. -/
theorem requests_isolated [Floats] {other : Database} (reachable : Reachable engine db) (reachable' : Reachable engine other)
    (agree : db.only auth.tenantId = other.only auth.tenantId) (fresh : Fresh drawn db) (fresh' : Fresh drawn other) :
    (serve engine drawn auth call db).1 = (serve engine drawn auth call other).1 ∧
      (serve engine drawn auth call db).2.only auth.tenantId = (serve engine drawn auth call other).2.only auth.tenantId ∧
      db.SameOutside auth.tenantId (serve engine drawn auth call db).2 := by
  have here : serve engine drawn auth call (db.only auth.tenantId) = _ := serve_only reachable.isolated fresh
  have there : serve engine drawn auth call (other.only auth.tenantId) = _ := serve_only reachable'.isolated fresh'
  rw [agree, there, Prod.mk.injEq] at here
  exact ⟨here.1.symm, here.2.symm, serve_sameOutside reachable.isolated fresh⟩

end Isolated

attribute [local instance] Floats.binary64

def plainEngine : Engine where
  spelling := ⟨fractionText, fun _ => "[]"⟩
  ilike pattern value := contains value (String.ofList (pattern.toList.filter (· ≠ '%')))
  atMost
    | .text first, .text second => first ≤ second
    | _, _ => true
  classAttribute name := name = "metadata" || name = "registry"
  upper := id
  money := fractionText

instance tenDraws : NeZero 10 := ⟨by decide⟩

def drawnAt (n : Fin 10) : Drawn := ⟨⟨String.ofList (List.replicate 36 (digitChar n)), by simp⟩, 0⟩

def memberOf (tenantId : String) : AuthContext := ⟨⟨"1", "ada@example.org", "Ada", true⟩, tenantId, "owner"⟩

def startDatabase : Database := .empty (fun _ _ => none) fun _ _ => []

def contactAdded : Database :=
  (serve plainEngine (drawnAt 0) (memberOf "second") (.route "contacts" (.create [("name", .str "Grace")])) startDatabase).2

theorem requests_isolated_second :
    ((contactAdded.store .contact).rows.length = 1) ∧
      (serve plainEngine (drawnAt 1) (memberOf "first") (.route "contacts" (.create [("name", .str "Ada")])) startDatabase).1 =
        (serve plainEngine (drawnAt 1) (memberOf "first") (.route "contacts" (.create [("name", .str "Ada")])) contactAdded).1 := by
  have start : Reachable plainEngine startDatabase := .empty _ _
  have fresh : Fresh (drawnAt 0) startDatabase := fun _ => rfl
  have added : Reachable plainEngine contactAdded := .step start (.record (drawnAt 0) (memberOf "second") _ fresh)
  have same : startDatabase.SameOutside (memberOf "second").tenantId contactAdded :=
    serve_sameOutside start.isolated fresh
  refine ⟨by decide, (requests_isolated start added ?_ ?_ ?_).1⟩
  · exact (same.only_eq (by decide)).symm
  · exact fun _ => rfl
  · unfold Fresh
    decide

/-! ### Rows in another order -/

def adaAdded (n : Fin 10) (db : Database) : Database :=
  (serve plainEngine (drawnAt n) (memberOf "first") (.route "contacts" (.create [("name", .str "Ada")])) db).2

def bothAdded (first second : Fin 10) : Database := adaAdded second (adaAdded first startDatabase)

def byStatus : ListQuery := ⟨"", "", 50, 0, "status", true⟩

def contactConfig : RecordConfig := (RecordConfig.find "contacts").get rfl

def contactsOf (db : Database) : List Row := (db.store .contact).select (criteria plainEngine contactConfig "first" byStatus)

def listByStatus (db : Database) : Except Failure Json :=
  (serve plainEngine (drawnAt 2) (memberOf "first") (.route "contacts" (.list byStatus)) db).1

def answered (rows : List Row) : Except Failure Json :=
  .ok (.obj [("items", .arr (((rows.drop 0).take 50).map fun row => serializeRecord row contactConfig)),
    ("total", .int 2), ("limit", .int 50), ("offset", .int 0)])

section Pair
variable {n m : Fin 10} (pair : n = 0 ∧ m = 1 ∨ n = 1 ∧ m = 0)
include pair

theorem bothAdded_reachable : Reachable plainEngine (bothAdded n m) := by
  have start : Reachable plainEngine (adaAdded n startDatabase) :=
    .step (.empty _ _) (.record (drawnAt n) (memberOf "first") _ fun _ => rfl)
  refine .step start (.record (drawnAt m) (memberOf "first") _ ?_)
  unfold Fresh
  rcases pair with ⟨rfl, rfl⟩ | ⟨rfl, rfl⟩ <;> decide

theorem listByStatus_eq : listByStatus (bothAdded n m) = answered (contactsOf (bothAdded n m)) := by
  have sorted : ordered plainEngine byStatus "status" (contactsOf (bothAdded n m)) = contactsOf (bothAdded n m) := by
    rcases pair with ⟨rfl, rfl⟩ | ⟨rfl, rfl⟩ <;> exact List.mergeSort_of_pairwise (by decide +kernel)
  have listed : listByStatus (bothAdded n m) =
      answered (ordered plainEngine byStatus "status" (contactsOf (bothAdded n m))) := by
    rcases pair with ⟨rfl, rfl⟩ | ⟨rfl, rfl⟩ <;> rfl
  rw [listed, sorted]

end Pair

/-- The same rows in another order: the list by status, which is the same for both contacts, differs. -/
theorem contacts_listed_apart : ∃ db other, Reachable plainEngine db ∧ Reachable plainEngine other ∧
    (∀ model, (other.store model).rows = (db.store model).rows.reverse) ∧ other.activities = db.activities.reverse ∧
    other.modules = db.modules ∧ other.permissions = db.permissions ∧ listByStatus db ≠ listByStatus other := by
  refine ⟨bothAdded 0 1, bothAdded 1 0, bothAdded_reachable (.inl ⟨rfl, rfl⟩), bothAdded_reachable (.inr ⟨rfl, rfl⟩),
    ?_, rfl, rfl, rfl, ?_⟩
  · intro model
    cases model <;> rfl
  · rw [listByStatus_eq (.inl ⟨rfl, rfl⟩), listByStatus_eq (.inr ⟨rfl, rfl⟩)]
    decide +kernel

end Operly.Workspace.Records
