import Operly.Workspace.ModuleSwitches
import Operly.Workspace.Registry

/-! The requests that switch the modules of a workspace, by the route and by the capability, one after another. -/

namespace Operly.Workspace.Modules
open Python Relational Dependencies

/-! ### Requests one after another -/

inductive Request where
  | setModuleState (moduleKey : String) (enabled : Bool) (configuration : Fields)
  | applyPreset (presetKey : String)
  | moduleSet (moduleKey : String) (enabled : Bool) (configuration : Option Fields)
  | presetApply (presetKey : String)

def Request.switches : Request → Option (String × Bool)
  | .setModuleState moduleKey enabled _ | .moduleSet moduleKey enabled _ => some (keyOf moduleKey, enabled)
  | .applyPreset _ | .presetApply _ => none

section Runs
variable (catalog : Catalog) (presets : List (String × Preset))

def serve (caller : Caller) (request : Request) (db : Database) : Except Failure Json × Database :=
  match request with
  | .setModuleState moduleKey enabled configuration => setModuleState catalog caller moduleKey enabled configuration db
  | .applyPreset presetKey => applyPreset catalog presets caller presetKey db
  | .moduleSet moduleKey enabled configuration => moduleSet catalog caller moduleKey enabled configuration db
  | .presetApply presetKey => presetApply catalog presets caller presetKey db

def committed (caller : Caller) (request : Request) (db : Database) : Database :=
  match serve catalog presets caller request db with
  | (.ok _, after) => after
  | (.error _, _) => db

def servedAll (calls : List (Caller × Request)) (db : Database) : Database :=
  calls.foldl (fun db call => committed catalog presets call.1 call.2 db) db

end Runs

section Served
variable {catalog : Catalog} {presets : List (String × Preset)} {caller : Caller} {request : Request}
  {db after : Database} {key : String} {value : Json} {configuration : Fields}

/-- The part that a route and a capability share: the module is switched, and then perhaps configured. -/
inductive Switches (catalog : Catalog) (caller : Caller) (key : String) (rows : Rows) : Bool → Rows → Prop
  | on {after : Rows} (served : enableWithDependencies catalog caller key rows = (.ok (), after)) :
      Switches catalog caller key rows true after
  | onWith {after : Rows} (served : enableWithDependencies catalog caller key rows = (.ok (), after))
      (configuration : Fields) : Switches catalog caller key rows true (configure caller key configuration after)
  | off {manifest : Manifest} {refusal : String → Failure} {label : String × Manifest → String} {configuration : Fields}
      {after : Rows} (found : catalog.find key = some manifest) (unlocked : manifest.locked = false)
      (served : disable catalog caller refusal label key configuration rows = (.ok (), after)) :
      Switches catalog caller key rows false after

theorem setModuleState_ok {moduleKey : String} {enabled : Bool}
    (served : setModuleState catalog caller moduleKey enabled configuration db = (.ok value, after)) :
    Switches catalog caller (keyOf moduleKey) db.modules enabled after.modules := by
  unfold setModuleState at served
  split at served
  · cases served
  · split at served
    · cases served
    · next key manifest looked =>
      obtain ⟨rfl, found⟩ := Catalog.moduleManifest_eq_ok.mp looked
      split at served
      · cases served
      · next unlocked =>
        split at served
        · cases served
        · next rows switched =>
          rw [Prod.mk.injEq] at served
          rw [← served.2]
          cases enabled with
          | true => exact .onWith switched configuration
          | false => exact .off found (by simpa using unlocked) switched

theorem moduleSet_ok {moduleKey : String} {enabled : Bool} {configuration : Option Fields}
    (served : moduleSet catalog caller moduleKey enabled configuration db = (.ok value, after)) :
    Switches catalog caller (keyOf moduleKey) db.modules enabled after.modules := by
  unfold moduleSet at served
  dsimp only at served
  split at served
  · cases served
  · next key manifest looked =>
    obtain ⟨-, found⟩ := Catalog.moduleManifest_eq_ok.mp looked
    rw [← (Catalog.moduleManifest_eq_ok.mp looked).1, keyOf_keyOf] at found
    split at served
    · cases served
    · next unlocked =>
      split at served
      · cases served
      · next rows switched =>
        rw [Prod.mk.injEq] at served
        rw [← served.2]
        cases enabled with
        | true =>
          dsimp only
          split
          · exact .onWith switched _
          · exact .on switched
        | false => exact .off found (by simpa using unlocked) switched

theorem Switches.keeps_closed {enabled : Bool} {rows rows' : Rows}
    (switches : Switches catalog caller key rows enabled rows') (closed : AllClosed catalog rows) :
    AllClosed catalog rows' := by
  have lit : ∀ {after : Rows}, enableWithDependencies catalog caller key rows = (.ok (), after) →
      AllClosed catalog after := by
    intro after served
    have succeeds : (enableWithDependencies catalog caller key rows).1 = .ok () := by rw [served]
    have kept := enable_keeps_closed closed succeeds
    rwa [served] at kept
  cases switches with
  | on served => exact lit served
  | onWith served configuration =>
    intro tenantId
    rw [on_configure]
    exact lit served tenantId
  | off found unlocked served => exact disable_keeps_closed found unlocked closed served

theorem Switches.frame {rows rows' : Rows} (switches : Switches catalog caller key rows true rows')
    (plain : keyOf key = key) {tenantId other : String}
    (apart : tenantId ≠ caller.auth.tenantId ∨ other ∉ closure catalog.needs key) :
    moduleRow rows' tenantId other = moduleRow rows tenantId other := by
  have same : ∀ {after : Rows}, enableWithDependencies catalog caller key rows = (.ok (), after) →
      moduleRow after tenantId other = moduleRow rows tenantId other := by
    intro after served
    have enables : Enables catalog caller (closure catalog.needs key) rows
        (enableWithDependencies catalog caller key rows) := enableTo_enables _ plain rows
    rw [served] at enables
    exact enables.frame tenantId other apart
  cases switches with
  | on served => exact same served
  | onWith served configuration =>
    rw [moduleRow, find_configure, if_neg]
    · exact same served
    · intro named
      rw [Prod.mk.injEq] at named
      rcases apart with foreign | outside
      · exact foreign named.1
      · exact outside (by rw [named.2]; exact mem_closure_self key)

theorem enablePreset_ok {preset : Preset} {result : Json}
    (served : enablePreset catalog caller preset result db = (.ok value, after))
    (closed : AllClosed catalog db.modules) : AllClosed catalog after.modules := by
  unfold enablePreset at served
  split at served
  · cases served
  · next rows ended =>
    rw [Prod.mk.injEq] at served
    rw [← served.2]
    have succeeds : (each (enableWithDependencies catalog caller) preset.modules db.modules).1 = .ok () := by rw [ended]
    have kept := each_keeps (fun _ _ holds ended => enable_keeps_closed holds ended) closed succeeds
    rwa [ended] at kept

theorem committed_closed (closed : AllClosed catalog db.modules) :
    AllClosed catalog (committed catalog presets caller request db).modules := by
  unfold committed
  split
  · next value after served =>
    cases request with
    | setModuleState moduleKey enabled configuration => exact (setModuleState_ok served).keeps_closed closed
    | moduleSet moduleKey enabled configuration => exact (moduleSet_ok served).keeps_closed closed
    | applyPreset presetKey =>
      simp only [serve, applyPreset] at served
      split at served
      · cases served
      · split at served
        · cases served
        · exact enablePreset_ok served closed
    | presetApply presetKey =>
      simp only [serve, presetApply] at served
      split at served
      · cases served
      · exact enablePreset_ok served closed
  · exact closed

theorem servedAll_closed (calls : List (Caller × Request)) (closed : AllClosed catalog db.modules) :
    AllClosed catalog (servedAll catalog presets calls db).modules := by
  induction calls generalizing db with
  | nil => exact closed
  | cons call rest ih => exact ih (committed_closed closed)

theorem closed_empty (grounded : catalog.Grounded) : AllClosed catalog Table.empty := by
  intro tenantId
  have initial : on catalog Table.empty tenantId = {key | catalog.initiallyOn key} := by
    ext key
    cases found : catalog.find key with
    | none => simp [on, Catalog.initiallyOn, found]
    | some manifest =>
      rw [mem_on found, show moduleRow Table.empty tenantId key = none from rfl]
      simp [shown, Catalog.initiallyOn, found]
  rw [initial]
  exact grounded

theorem serve_refused (switches : request.switches = some (key, false)) {error : Failure}
    (refused : serve catalog presets caller request db = (.error error, after)) : after = db := by
  cases request with
  | applyPreset presetKey | presetApply presetKey => cases switches
  | setModuleState moduleKey enabled configuration =>
    rw [Request.switches, Option.some.injEq, Prod.mk.injEq] at switches
    simp only [serve, setModuleState, switches.2] at refused
    split at refused
    · rw [Prod.mk.injEq] at refused
      exact refused.2.symm
    · split at refused
      · rw [Prod.mk.injEq] at refused
        exact refused.2.symm
      · split at refused
        · rw [Prod.mk.injEq] at refused
          exact refused.2.symm
        · split at refused
          · next raised =>
            rw [if_neg (by decide)] at raised
            rw [Prod.mk.injEq, disable_refused raised] at refused
            exact refused.2.symm
          · cases refused
  | moduleSet moduleKey enabled configuration =>
    rw [Request.switches, Option.some.injEq, Prod.mk.injEq] at switches
    simp only [serve, moduleSet, switches.2] at refused
    split at refused
    · rw [Prod.mk.injEq] at refused
      exact refused.2.symm
    · split at refused
      · rw [Prod.mk.injEq] at refused
        exact refused.2.symm
      · split at refused
        · next raised =>
          rw [if_neg (by decide)] at raised
          rw [Prod.mk.injEq, disable_refused raised] at refused
          exact refused.2.symm
        · cases refused

theorem committed_frame (switches : request.switches = some (key, true)) {tenantId other : String}
    (apart : tenantId ≠ caller.auth.tenantId ∨ other ∉ closure catalog.needs key) :
    moduleRow (committed catalog presets caller request db).modules tenantId other =
      moduleRow db.modules tenantId other := by
  unfold committed
  split
  · next value after served =>
    cases request with
    | applyPreset presetKey | presetApply presetKey => cases switches
    | setModuleState moduleKey enabled configuration =>
      rw [Request.switches, Option.some.injEq, Prod.mk.injEq] at switches
      have moved := setModuleState_ok served
      rw [switches.1, switches.2] at moved
      exact moved.frame (by rw [← switches.1, keyOf_keyOf]) apart
    | moduleSet moduleKey enabled configuration =>
      rw [Request.switches, Option.some.injEq, Prod.mk.injEq] at switches
      have moved := moduleSet_ok served
      rw [switches.1, switches.2] at moved
      exact moved.frame (by rw [← switches.1, keyOf_keyOf]) apart
  · rfl

theorem committed_enables (acyclic : Acyclic catalog.needs) (switches : request.switches = some (key, true))
    (allowed : caller.can "workspace:modules:manage" = true)
    (known : ∀ other ∈ closure catalog.needs key, (catalog.find other).isSome) :
    closure catalog.needs key ⊆
      on catalog (committed catalog presets caller request db).modules caller.auth.tenantId := by
  obtain ⟨manifest, found⟩ := Option.isSome_iff_exists.mp (known key (mem_closure_self key))
  have plain := Catalog.keyOf_of_find found
  have succeeds : (enableWithDependencies catalog caller key db.modules).1 = .ok () :=
    enable_succeeds acyclic known db.modules
  have lit := (enableTo_enables _ plain db.modules).on_eq succeeds
  have served : ∃ rows, enableWithDependencies catalog caller key db.modules = (.ok (), rows) ∧
      closure catalog.needs key ⊆ on catalog rows caller.auth.tenantId :=
    ⟨_, Prod.ext succeeds rfl, lit ▸ Set.subset_union_right⟩
  obtain ⟨rows, served, inside⟩ := served
  cases request with
  | applyPreset presetKey | presetApply presetKey => cases switches
  | setModuleState moduleKey enabled configuration =>
    rw [Request.switches, Option.some.injEq, Prod.mk.injEq] at switches
    have looked : catalog.moduleManifest moduleKey = .ok (key, manifest) :=
      Catalog.moduleManifest_eq_ok.mpr ⟨switches.1, found⟩
    simp only [committed, serve, setModuleState, looked, allowed, switches.2, served, Bool.not_true, Bool.and_false,
      Bool.false_eq_true, if_false, if_true, on_configure]
    exact inside
  | moduleSet moduleKey enabled configuration =>
    rw [Request.switches, Option.some.injEq, Prod.mk.injEq] at switches
    have looked : catalog.moduleManifest key = .ok (key, manifest) := Catalog.moduleManifest_of_find found
    simp only [committed, serve, moduleSet, switches.1, looked, switches.2, served, Bool.not_true, Bool.and_false,
      Bool.false_eq_true, if_false, if_true, Bool.true_and]
    split
    · rw [on_configure]
      exact inside
    · exact inside

/-- After any requests, one after another, what is on has on all that it depends on; turning a module on changes
only modules that it depends on, and turns these on where they are all modules; a refusal to turn one off changes
nothing. -/
theorem dependencies_on (acyclic : Acyclic catalog.needs) (grounded : catalog.Grounded)
    (activities : List ActivityEvent) (calls : List (Caller × Request)) :
    let db := servedAll catalog presets calls ⟨Table.empty, activities⟩
    (∀ tenantId, ∀ key ∈ on catalog db.modules tenantId, closure catalog.needs key ⊆ on catalog db.modules tenantId) ∧
    (∀ caller request key, request.switches = some (key, true) →
      (∀ tenantId other, tenantId ≠ caller.auth.tenantId ∨ other ∉ closure catalog.needs key →
        moduleRow (committed catalog presets caller request db).modules tenantId other =
          moduleRow db.modules tenantId other) ∧
      (caller.can "workspace:modules:manage" = true →
        (∀ other ∈ closure catalog.needs key, (catalog.find other).isSome) →
        closure catalog.needs key ⊆
          on catalog (committed catalog presets caller request db).modules caller.auth.tenantId)) ∧
    (∀ caller request key, request.switches = some (key, false) →
      ∀ error after, serve catalog presets caller request db = (.error error, after) → after = db) := by
  intro db
  have closed : AllClosed catalog db.modules := servedAll_closed calls (closed_empty grounded)
  refine ⟨?_, ?_, ?_⟩
  · intro tenantId key member other reached
    exact (closed tenantId).reaches member reached
  · intro caller request key switches
    exact ⟨fun tenantId other apart => committed_frame switches apart,
      fun allowed known => committed_enables acyclic switches allowed known⟩
  · intro caller request key switches error after refused
    exact serve_refused switches refused

end Served

/-- The modules that `MODULE_CATALOG` declares for those that depend on any. -/
def moduleDependencies : List (String × List String) := [
  ("inventory", ["catalog"]), ("sales", ["crm", "catalog"]), ("suppliers", ["catalog"]), ("fulfillment", ["sales"]),
  ("projects", ["tasks"]), ("support", ["crm"]), ("marketing", ["crm"]), ("compliance", ["documents"]),
  ("research", ["documents", "projects"]), ("grants", ["finance"])]

def moduleCatalog : Catalog where
  modules := Records.moduleCatalog.map fun entry =>
    (entry.1, ⟨entry.2.name, entry.2.defaultEnabled, entry.2.locked, (moduleDependencies.lookup entry.1).getD []⟩)
  distinct := by decide
  named := by decide

def moduleRank (key : String) : Nat :=
  ([("inventory", 1), ("sales", 1), ("suppliers", 1), ("fulfillment", 2), ("projects", 1), ("support", 1),
    ("marketing", 1), ("compliance", 1), ("research", 2), ("grants", 1)].lookup key).getD 0

theorem moduleCatalog_acyclic : Acyclic moduleCatalog.needs := by
  have lower : ∀ entry ∈ moduleCatalog.modules, ∀ dependency ∈ entry.2.dependencies,
      moduleRank dependency < moduleRank entry.1 := by decide
  refine Acyclic.of_rank moduleRank ?_
  intro key dependency needed
  obtain ⟨manifest, found, member⟩ := needed
  exact lower _ (Catalog.mem_of_find found) dependency member

theorem moduleCatalog_grounded : moduleCatalog.Grounded := by
  have initial : ∀ entry ∈ moduleCatalog.modules, (entry.2.locked || entry.2.defaultEnabled) = true →
      ∀ dependency ∈ entry.2.dependencies,
        ((moduleCatalog.find dependency).any fun manifest => manifest.locked || manifest.defaultEnabled) = true := by decide
  intro key dependency member needed
  obtain ⟨manifest, found, starts⟩ := member
  obtain ⟨held, present, depends⟩ := needed
  rw [found, Option.some.injEq] at present
  have also := initial _ (Catalog.mem_of_find found) starts _ (present ▸ depends)
  rw [Option.any_eq_true] at also
  exact also

def owner : Caller where
  auth := ⟨⟨"u", "owner@example.com", "Owner", true⟩, "w", "owner"⟩
  can _ := true
  drawn key := "id-" ++ key
  now := 0
  repr text := "'" ++ text ++ "'"

def fulfillmentCalls : List (Caller × Request) :=
  [(owner, .moduleSet " Fulfillment" true none), (owner, .setModuleState "crm" false [])]

theorem dependencies_on_fulfillment :
    closure moduleCatalog.needs "fulfillment" ⊆
      on moduleCatalog (servedAll moduleCatalog [] fulfillmentCalls ⟨Table.empty, []⟩).modules "w" :=
  (dependencies_on moduleCatalog_acyclic moduleCatalog_grounded [] fulfillmentCalls).1 "w" "fulfillment"
    ⟨by decide, by decide⟩

end Operly.Workspace.Modules
