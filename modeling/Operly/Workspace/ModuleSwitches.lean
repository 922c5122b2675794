import Operly.Workspace.Modules

/-! What turning a module on or off does to the set of the modules that are on. -/

namespace Operly.Workspace.Modules
open Python Relational Dependencies

/-! ### Turning modules on -/

section Enabling
variable {catalog : Catalog} {caller : Caller} {rows rows' : Rows} {keys keys' : Set String}

def Lit (rows : Rows) (tenantId key : String) : Prop :=
  ∃ row, moduleRow rows tenantId key = some row ∧ row.enabled = true

variable (catalog caller) in
/-- Only rows of some modules change, and only to ones that say the module is on; without an exception all of
these modules have such a row then. -/
structure Enables (keys : Set String) (rows : Rows) (outcome : Except Failure Unit × Rows) : Prop where
  frame : ∀ tenantId key, tenantId ≠ caller.auth.tenantId ∨ key ∉ keys →
    moduleRow outcome.2 tenantId key = moduleRow rows tenantId key
  raised : ∀ key, moduleRow outcome.2 caller.auth.tenantId key = moduleRow rows caller.auth.tenantId key ∨
    Lit outcome.2 caller.auth.tenantId key
  lit : outcome.1 = .ok () → ∀ key ∈ keys, (catalog.find key).isSome ∧ Lit outcome.2 caller.auth.tenantId key

namespace Enables

theorem refused (keys : Set String) (rows : Rows) (error : Failure) :
    Enables catalog caller keys rows (.error error, rows) :=
  ⟨fun _ _ _ => rfl, fun _ => .inl rfl, fun impossible => nomatch impossible⟩

theorem weaken {error : Failure} (enables : Enables catalog caller keys rows (.error error, rows'))
    (wider : keys ⊆ keys') : Enables catalog caller keys' rows (.error error, rows') where
  frame tenantId key apart := enables.frame tenantId key (apart.imp_right fun outside member => outside (wider member))
  raised := enables.raised
  lit impossible := nomatch impossible

theorem stays_lit {outcome : Except Failure Unit × Rows} (enables : Enables catalog caller keys rows outcome)
    {key : String} (before : Lit rows caller.auth.tenantId key) : Lit outcome.2 caller.auth.tenantId key := by
  rcases enables.raised key with same | lit
  · obtain ⟨row, present, enabled⟩ := before
    exact ⟨row, same.trans present, enabled⟩
  · exact lit

theorem next {outcome : Except Failure Unit × Rows} (first : Enables catalog caller keys rows (.ok (), rows'))
    (second : Enables catalog caller keys' rows' outcome) : Enables catalog caller (keys ∪ keys') rows outcome where
  frame tenantId key apart := by
    have outside : (tenantId ≠ caller.auth.tenantId ∨ key ∉ keys) ∧
        (tenantId ≠ caller.auth.tenantId ∨ key ∉ keys') := by
      rcases apart with other | outside
      · exact ⟨.inl other, .inl other⟩
      · exact ⟨.inr fun member => outside (.inl member), .inr fun member => outside (.inr member)⟩
    exact (second.frame tenantId key outside.2).trans (first.frame tenantId key outside.1)
  raised key := by
    rcases second.raised key with same | lit
    · rcases first.raised key with before | lit
      · exact .inl (same.trans before)
      · exact .inr (second.stays_lit lit)
    · exact .inr lit
  lit served key member := by
    rcases member with early | late
    · have known := first.lit rfl key early
      exact ⟨known.1, second.stays_lit known.2⟩
    · exact second.lit served key late

theorem upsert {key : String} (known : (catalog.find key).isSome) :
    Enables catalog caller {key} rows (.ok (), upsertModule caller key true none rows) where
  frame tenantId other apart := by
    rw [moduleRow, find_upsertModule, if_neg, moduleRow]
    intro same
    rw [Prod.mk.injEq] at same
    exact apart.elim (fun outside => outside same.1) fun outside => outside same.2
  raised other := by
    by_cases same : other = key
    · refine .inr ⟨_, by rw [moduleRow, find_upsertModule, if_pos (by rw [same])], rfl⟩
    · refine .inl ?_
      rw [moduleRow, find_upsertModule, if_neg (by simp [same]), moduleRow]
  lit _ other member := by
    rw [Set.mem_singleton_iff.mp member]
    exact ⟨known, _, by rw [moduleRow, find_upsertModule, if_pos rfl], rfl⟩

theorem each {body : String → Rows → Except Failure Unit × Rows} {keysOf : String → Set String} {list : List String}
    (enables : ∀ item ∈ list, ∀ rows, Enables catalog caller (keysOf item) rows (body item rows)) (rows : Rows) :
    Enables catalog caller {key | ∃ item ∈ list, key ∈ keysOf item} rows (Modules.each body list rows) := by
  induction list generalizing rows with
  | nil =>
    refine ⟨fun _ _ _ => rfl, fun _ => .inl rfl, ?_⟩
    intro _ key member
    obtain ⟨item, impossible, _⟩ := member
    exact absurd impossible List.not_mem_nil
  | cons item rest ih =>
    have split : {key | ∃ other ∈ item :: rest, key ∈ keysOf other} =
        keysOf item ∪ {key | ∃ other ∈ rest, key ∈ keysOf other} := by
      ext key
      simp
    have first := enables item List.mem_cons_self rows
    rw [split, Modules.each]
    split
    · next middle ended =>
      rw [ended] at first
      exact first.next (ih (fun other member => enables other (List.mem_cons_of_mem _ member)) middle)
    · next error middle ended =>
      rw [ended] at first
      exact first.weaken Set.subset_union_left

end Enables

theorem Catalog.closure_eq {key : String} {manifest : Manifest} (found : catalog.find key = some manifest) :
    closure catalog.needs key =
      {other | ∃ item ∈ manifest.dependencies, other ∈ closure catalog.needs item} ∪ {key} := by
  ext other
  rw [mem_closure_iff]
  constructor
  · intro either
    rcases either with same | ⟨middle, ⟨held, present, member⟩, reached⟩
    · exact .inr same
    · rw [found, Option.some.injEq] at present
      exact .inl ⟨middle, present ▸ member, reached⟩
  · intro either
    rcases either with ⟨item, member, reached⟩ | same
    · exact .inr ⟨item, ⟨manifest, found, member⟩, reached⟩
    · exact .inl same

theorem enableTo_enables (depth : Nat) {key : String} (plain : keyOf key = key) (rows : Rows) :
    Enables catalog caller (closure catalog.needs key) rows (enableTo catalog caller depth key rows) := by
  induction depth generalizing key rows with
  | zero => exact .refused _ _ _
  | succ depth ih =>
    rw [enableTo]
    split
    · exact .refused _ _ _
    · next manifest looked =>
      have found := (Catalog.moduleManifest_eq_ok.mp looked).2
      rw [← (Catalog.moduleManifest_eq_ok.mp looked).1, plain] at found
      have dependencies : Enables catalog caller
          {other | ∃ item ∈ manifest.dependencies, other ∈ closure catalog.needs item} rows
          (each (enableTo catalog caller depth) manifest.dependencies rows) :=
        .each (fun item member rows => ih (Catalog.keyOf_of_needs ⟨manifest, found, member⟩) rows) rows
      rw [Catalog.closure_eq found]
      split
      · next middle ended =>
        rw [ended] at dependencies
        exact dependencies.next (.upsert (by simp [found]))
      · next error middle ended =>
        rw [ended] at dependencies
        exact dependencies.weaken Set.subset_union_left

variable {outcome : Except Failure Unit × Rows}

theorem Enables.on_eq (enables : Enables catalog caller keys rows outcome) (served : outcome.1 = .ok ()) :
    on catalog outcome.2 caller.auth.tenantId = on catalog rows caller.auth.tenantId ∪ keys := by
  ext key
  constructor
  · intro member
    by_cases inside : key ∈ keys
    · exact .inr inside
    · exact .inl ((mem_on_congr (enables.frame _ key (.inr inside))).mp member)
  · intro either
    have lit : Lit outcome.2 caller.auth.tenantId key → (catalog.find key).isSome →
        key ∈ on catalog outcome.2 caller.auth.tenantId := by
      intro held known
      obtain ⟨row, present, enabled⟩ := held
      exact mem_on_of_row known present enabled
    rcases either with before | inside
    · rcases enables.raised key with same | held
      · exact (mem_on_congr same).mpr before
      · exact lit held before.1
    · have known := enables.lit served key inside
      exact lit known.2 known.1

theorem Enables.on_other (enables : Enables catalog caller keys rows outcome) {tenantId : String}
    (other : tenantId ≠ caller.auth.tenantId) : on catalog outcome.2 tenantId = on catalog rows tenantId := by
  ext key
  exact mem_on_congr (enables.frame tenantId key (.inl other))

theorem on_upsert_unknown {key : String} (unknown : catalog.find key = none) (enabled : Bool)
    (configuration : Option Fields) (tenantId : String) :
    on catalog (upsertModule caller key enabled configuration rows) tenantId = on catalog rows tenantId := by
  ext other
  by_cases same : other = key
  · subst same
    simp [on, unknown]
  · refine mem_on_congr ?_
    rw [moduleRow, find_upsertModule, if_neg (by simp [same]), moduleRow]

variable (catalog) in
def AllClosed (rows : Rows) : Prop := ∀ tenantId, Closed catalog.needs (on catalog rows tenantId)

theorem Enables.keeps_closed (enables : Enables catalog caller keys rows outcome)
    (closedKeys : Closed catalog.needs keys) (closed : AllClosed catalog rows) (served : outcome.1 = .ok ()) :
    AllClosed catalog outcome.2 := by
  intro tenantId
  by_cases own : tenantId = caller.auth.tenantId
  · subst own
    rw [enables.on_eq served]
    exact (closed _).union closedKeys
  · rw [enables.on_other own]
    exact closed tenantId

theorem closed_closures (items : List String) :
    Closed catalog.needs {key | ∃ item ∈ items, key ∈ closure catalog.needs item} := by
  intro key other member needed
  obtain ⟨item, listed, reached⟩ := member
  exact ⟨item, listed, closure_closed item reached needed⟩

theorem enable_keeps_closed {key : String} (closed : AllClosed catalog rows)
    (served : (enableWithDependencies catalog caller key rows).1 = .ok ()) :
    AllClosed catalog (enableWithDependencies catalog caller key rows).2 := by
  by_cases plain : keyOf key = key
  · exact (enableTo_enables _ plain rows).keeps_closed (closure_closed key) closed served
  · have unknown : catalog.find key = none := by
      by_contra known
      obtain ⟨manifest, found⟩ := Option.ne_none_iff_exists'.mp known
      exact plain (Catalog.keyOf_of_find found)
    rw [enableWithDependencies, enableTo] at served ⊢
    split at served
    · cases served
    · next other manifest looked =>
      have found := (Catalog.moduleManifest_eq_ok.mp looked).2
      have dependencies : Enables catalog caller
          {other | ∃ item ∈ manifest.dependencies, other ∈ closure catalog.needs item} rows
          (each (enableTo catalog caller catalog.modules.length) manifest.dependencies rows) :=
        .each (fun item member rows => enableTo_enables _ (Catalog.keyOf_of_needs ⟨manifest, found, member⟩) rows) rows
      split at served
      · next middle ended =>
        have kept := dependencies.keeps_closed (closed_closures _) closed (by rw [ended])
        rw [ended] at kept
        intro tenantId
        rw [on_upsert_unknown unknown]
        exact kept tenantId
      · cases served

theorem each_keeps {body : String → Rows → Except Failure Unit × Rows} {property : Rows → Prop}
    (keeps : ∀ item rows, property rows → (body item rows).1 = .ok () → property (body item rows).2)
    {list : List String} (holds : property rows) (served : (each body list rows).1 = .ok ()) :
    property (each body list rows).2 := by
  induction list generalizing rows with
  | nil => exact holds
  | cons item rest ih =>
    rw [each] at served ⊢
    split at served
    · next middle ended =>
      have kept := keeps item rows holds (by rw [ended])
      rw [ended] at kept
      exact ih kept served
    · cases served

theorem each_succeeds {body : String → Rows → Except Failure Unit × Rows} {list : List String}
    (succeeds : ∀ item ∈ list, ∀ rows, (body item rows).1 = .ok ()) (rows : Rows) :
    (each body list rows).1 = .ok () := by
  induction list generalizing rows with
  | nil => rfl
  | cons item rest ih =>
    have first := succeeds item List.mem_cons_self rows
    rw [each]
    split
    · exact ih (fun other member => succeeds other (List.mem_cons_of_mem _ member)) _
    · next ended =>
      rw [ended] at first
      cases first

def Catalog.moduleKeys (catalog : Catalog) : Finset String := (catalog.modules.map (·.1)).toFinset

theorem Catalog.mem_moduleKeys {key : String} (known : (catalog.find key).isSome) : key ∈ catalog.moduleKeys := by
  obtain ⟨manifest, found⟩ := Option.isSome_iff_exists.mp known
  rw [Catalog.moduleKeys, List.mem_toFinset]
  exact List.mem_map_of_mem (Catalog.mem_of_find found)

theorem enableTo_succeeds (acyclic : Acyclic catalog.needs) (limit : Nat) {key : String}
    (known : ∀ other ∈ closure catalog.needs key, (catalog.find other).isSome)
    (shallow : depth catalog.moduleKeys catalog.needs key < limit) (rows : Rows) :
    (enableTo catalog caller limit key rows).1 = .ok () := by
  induction limit generalizing key rows with
  | zero => omega
  | succ limit ih =>
    obtain ⟨manifest, found⟩ := Option.isSome_iff_exists.mp (known key (mem_closure_self key))
    have dependencies : (each (enableTo catalog caller limit) manifest.dependencies rows).1 = .ok () := by
      refine each_succeeds (fun item member rows => ?_) rows
      have needed : catalog.needs key item := ⟨manifest, found, member⟩
      have inside := known item (closure_subset needed (mem_closure_self item))
      have lower := depth_lt acyclic needed (Catalog.mem_moduleKeys inside)
      exact ih (fun other reached => known other (closure_subset needed reached)) (by omega) rows
    rw [enableTo, Catalog.moduleManifest_of_find found]
    dsimp only
    split
    · rfl
    · next ended =>
      rw [ended] at dependencies
      cases dependencies

theorem enable_succeeds (acyclic : Acyclic catalog.needs) {key : String}
    (known : ∀ other ∈ closure catalog.needs key, (catalog.find other).isSome) (rows : Rows) :
    (enableWithDependencies catalog caller key rows).1 = .ok () := by
  refine enableTo_succeeds acyclic _ known ?_ rows
  have few : catalog.moduleKeys.card ≤ (catalog.modules.map (·.1)).length := List.toFinset_card_le _
  have below := depth_lt_card acyclic (Catalog.mem_moduleKeys (known key (mem_closure_self key)))
  rw [List.length_map] at few
  omega

end Enabling

section Disabling
variable {catalog : Catalog} {caller : Caller} {rows : Rows} {key : String}

def dependents (catalog : Catalog) (rows : Rows) (tenantId key : String) : List (String × Manifest) :=
  catalog.modules.filter fun entry =>
    entry.2.dependencies.contains key && shown (moduleRow rows tenantId entry.1) entry.2

theorem blocking_eq (tenantId : String) :
    blocking catalog rows tenantId key catalog.modules = .ok (dependents catalog rows tenantId key) := by
  have every : ∀ list : List (String × Manifest), (∀ entry ∈ list, entry ∈ catalog.modules) →
      blocking catalog rows tenantId key list = .ok (list.filter fun entry =>
        entry.2.dependencies.contains key && shown (moduleRow rows tenantId entry.1) entry.2) := by
    intro list
    induction list with
    | nil => exact fun _ => rfl
    | cons entry rest ih =>
      intro listed
      have others := ih fun other member => listed other (List.mem_cons_of_mem _ member)
      have here : moduleEnabled catalog rows tenantId entry.1 = .ok (shown (moduleRow rows tenantId entry.1) entry.2) :=
        moduleEnabled_of_find (Catalog.find_of_mem (listed entry List.mem_cons_self))
      rw [blocking, others, here, List.filter_cons]
      cases entry.2.dependencies.contains key <;>
        cases shown (moduleRow rows tenantId entry.1) entry.2 <;> rfl
  exact every catalog.modules fun _ member => member

theorem free_of_dependents {tenantId : String} (none : dependents catalog rows tenantId key = []) :
    ∀ other ∈ on catalog rows tenantId, ¬ catalog.needs other key := by
  intro other member needed
  obtain ⟨manifest, found, depends⟩ := needed
  have absent := List.filter_eq_nil_iff.mp none (other, manifest) (Catalog.mem_of_find found)
  have lit := (mem_on found).mp member
  simp [depends, lit] at absent

theorem on_disabled {manifest : Manifest} (found : catalog.find key = some manifest)
    (unlocked : manifest.locked = false) (configuration : Option Fields) :
    on catalog (upsertModule caller key false configuration rows) caller.auth.tenantId =
      on catalog rows caller.auth.tenantId \ {key} := by
  ext other
  by_cases same : other = key
  · subst same
    rw [mem_on found, moduleRow, find_upsertModule, if_pos rfl]
    simp [shown, unlocked, switched]
  · have kept : moduleRow (upsertModule caller key false configuration rows) caller.auth.tenantId other =
        moduleRow rows caller.auth.tenantId other := by
      rw [moduleRow, find_upsertModule, if_neg (by simp [same]), moduleRow]
    rw [Set.mem_sdiff, mem_on_congr kept]
    simp [same]

theorem on_disabled_other {tenantId : String} (other : tenantId ≠ caller.auth.tenantId)
    (configuration : Option Fields) :
    on catalog (upsertModule caller key false configuration rows) tenantId = on catalog rows tenantId := by
  ext item
  refine mem_on_congr ?_
  rw [moduleRow, find_upsertModule, if_neg (by simp [other]), moduleRow]

variable {refusal : String → Failure} {label : String × Manifest → String} {configuration : Fields}

theorem disable_refused {error : Failure} {after : Rows}
    (refused : disable catalog caller refusal label key configuration rows = (.error error, after)) : after = rows := by
  rw [disable, blocking_eq] at refused
  split at refused
  · next impossible => cases impossible
  · cases refused
  · rw [Prod.mk.injEq] at refused
    exact refused.2.symm

theorem disable_keeps_closed {manifest : Manifest} (found : catalog.find key = some manifest)
    (unlocked : manifest.locked = false) {after : Rows} (closed : AllClosed catalog rows)
    (served : disable catalog caller refusal label key configuration rows = (.ok (), after)) :
    AllClosed catalog after := by
  rw [disable, blocking_eq] at served
  split at served
  · cases served
  · next none =>
    rw [Except.ok.injEq] at none
    rw [Prod.mk.injEq] at served
    rw [← served.2]
    intro tenantId
    by_cases own : tenantId = caller.auth.tenantId
    · subst own
      rw [on_disabled found unlocked]
      exact (closed _).disable (free_of_dependents none)
    · rw [on_disabled_other own]
      exact closed tenantId
  · cases served

end Disabling

end Operly.Workspace.Modules
