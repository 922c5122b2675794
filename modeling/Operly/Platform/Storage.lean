import Mathlib.Algebra.Order.BigOperators.Group.List
import Mathlib.Data.PNat.Basic
import Operly.Concurrent.ReadCommitted
import Operly.Python.Values
import Operly.Relational.Columns

/-! The storage of a plugin: JSON records in namespaces with a quota. The bytes used are a column of
the namespace that each call reads, projects and writes back. -/

namespace Operly.Platform.Storage
open Python Concurrent Relational Fallible Transaction

/-- `PluginStorageNamespaceRecord` -/
structure Namespace where
  id : String
  tenantId : String
  installationId : String
  name : String
  storageKind : String
  quotaBytes : Int
  usedBytes : Int
  deriving DecidableEq

/-- `PluginKVRecord`; no encoding is empty. -/
structure KVRecord where
  id : String
  tenantId : String
  installationId : String
  namespaceId : String
  key : String
  valueJson : String
  sizeBytes : ℕ+
  version : Int
  deriving DecidableEq

/-- A fresh `id` belongs to one namespace for good, so the namespace may be part of the identity. -/
def KVRecord.identity (row : KVRecord) : String × String := (row.namespaceId, row.id)

structure State where
  namespaces : Table Namespace String Namespace.id
  records : Table KVRecord (String × String) KVRecord.identity

namespace State

def stored (state : State) (namespaceId : String) : Int :=
  state.records.total fun row => if row.namespaceId = namespaceId then (row.sizeBytes : Int) else 0

def sizeNow (state : State) (row : KVRecord) : Int :=
  match state.records.find row.identity with
  | some now => (now.sizeBytes : Int)
  | none => 0

def Accounted (state : State) : Prop :=
  ∀ ns ∈ state.namespaces.rows, ns.usedBytes = state.stored ns.id ∧ ns.usedBytes ≤ ns.quotaBytes

instance (state : State) : Decidable state.Accounted :=
  inferInstanceAs (Decidable (∀ ns ∈ state.namespaces.rows,
    ns.usedBytes = state.stored ns.id ∧ ns.usedBytes ≤ ns.quotaBytes))

end State

inductive Query where
  | namespaceNamed (tenantId installationId name : String)
  | record (namespaceId key : String)
  | ownRecord (namespaceId key tenantId installationId : String)
  | uid

def queries : Interface where
  Op := Query
  Answer
    | .namespaceNamed .. => Option Namespace
    | .record .. | .ownRecord .. => Option KVRecord
    | .uid => String

/-- What a session has composed when it commits: the namespace as it was loaded and its `used_bytes`
as they were set, with a record that is added, changed or deleted. -/
inductive Flush where
  | added (ns : Namespace) (usedBytes : Int) (row : KVRecord)
  | changed (ns : Namespace) (usedBytes : Int) (loaded row : KVRecord)
  | deleted (ns : Namespace) (usedBytes : Int) (loaded : KVRecord)
  | nothing

/-- `UPDATE plugin_storage_namespaces`, unless the counter is as it was loaded. -/
def State.charge (state : State) (ns : Namespace) (usedBytes : Int) : Option State :=
  if usedBytes = ns.usedBytes then some state
  else (state.namespaces.find ns.id).map fun now =>
    { state with namespaces := state.namespaces.replace { now with usedBytes := usedBytes } }

def KVRecord.patched (now loaded row : KVRecord) : KVRecord :=
  { now with
    valueJson := written loaded.valueJson row.valueJson now.valueJson
    sizeBytes := written loaded.sizeBytes row.sizeBytes now.sizeBytes
    version := written loaded.version row.version now.version }

def commit : Flush → State → Option State
  | .added ns usedBytes row, state =>
      if (state.records.first fun other => other.namespaceId = row.namespaceId ∧ other.key = row.key).isSome ||
          (state.records.find row.identity).isSome then none
      else { state with records := state.records.insert row }.charge ns usedBytes
  | .changed ns usedBytes loaded row, state =>
      match state.records.find loaded.identity with
      | none => none
      | some now => { state with records := state.records.replace (now.patched loaded row) }.charge ns usedBytes
  | .deleted ns usedBytes loaded, state =>
      { state with records := state.records.erase loaded.identity }.charge ns usedBytes
  | .nothing, state => some state

def database : Database queries Flush State String where
  select
    | .namespaceNamed tenantId installationId name, _, state =>
        (state.namespaces.first fun ns =>
          ns.tenantId = tenantId ∧ ns.installationId = installationId ∧ ns.name = name, state)
    | .record namespaceId key, _, state =>
        (state.records.first fun row => row.namespaceId = namespaceId ∧ row.key = key, state)
    | .ownRecord namespaceId key tenantId installationId, _, state =>
        (state.records.first fun row => row.namespaceId = namespaceId ∧ row.key = key ∧
          row.tenantId = tenantId ∧ row.installationId = installationId, state)
    | .uid, drawn, state => (drawn, state)
  commit := commit

inductive StorageError where
  | storage (message : String)
  | lookup (message : String)
  | aborted
  deriving DecidableEq

abbrev Session (α : Type) := Transaction queries Flush StorageError α

def ask (query : Query) : Session (queries.Answer query) :=
  Transaction.select (show queries.Op from query)

def namespaceRow (tenantId installationId name : String) : Session Namespace := do
  match ← ask (.namespaceNamed tenantId installationId name) with
  | none => raise (.lookup "Plugin storage namespace not found")
  | some ns => return ns

/-- The length of `json.dumps(value, separators=(",", ":"), sort_keys=True)` -/
def encodedSize (rendering : Rendering) (value : Json) : ℕ+ :=
  ⟨(Json.dumps rendering.toSpelling value.sortKeys).utf8ByteSize, by
    rw [Nat.pos_iff_ne_zero, ne_eq, String.utf8ByteSize_eq_zero_iff]
    exact Json.dumps_ne_empty rendering value.sortKeys⟩

/-- `PluginStorageService.put_json`, with what it has composed -/
def putJson (rendering : Rendering) (tenantId installationId name key : String) (value : Json) :
    Session (KVRecord × Flush) := do
  if key = "" ∨ 500 < key.utf8ByteSize then
    raise (.storage "Plugin storage key is invalid")
  let ns ← namespaceRow tenantId installationId name
  if ns.storageKind ≠ "kv" ∧ ns.storageKind ≠ "document" then
    raise (.storage "Namespace does not support JSON records")
  let encoded := Json.dumps rendering.toSpelling value.sortKeys
  let size := encodedSize rendering value
  if min ns.quotaBytes (2 * 1024 * 1024) < size then
    raise (.storage "Plugin storage value exceeds the namespace/item policy")
  let found : Option KVRecord ← ask (.record ns.id key)
  let previous : Int := match found with
    | some row => row.sizeBytes
    | none => 0
  let projected := ns.usedBytes - previous + size
  if ns.quotaBytes < projected then
    raise (.storage "Plugin storage quota exceeded")
  match found with
  | none =>
      let id : String ← ask .uid
      let row := ⟨id, tenantId, installationId, ns.id, key, encoded, size, 1⟩
      return (row, .added ns projected row)
  | some loaded =>
      let row := { loaded with valueJson := encoded, sizeBytes := size, version := loaded.version + 1 }
      return (row, .changed ns projected loaded row)

def delete (tenantId installationId name key : String) : Session (Bool × Flush) := do
  let ns ← namespaceRow tenantId installationId name
  let found : Option KVRecord ← ask (.ownRecord ns.id key tenantId installationId)
  match found with
  | none => return (false, .nothing)
  | some row => return (true, .deleted ns (max 0 (ns.usedBytes - row.sizeBytes)) row)

inductive Call where
  | putJson (tenantId installationId name key : String) (value : Json)
  | delete (tenantId installationId name key : String)

inductive Reply where
  | row (row : KVRecord)
  | deleted (existed : Bool)

def main (rendering : Rendering) (_ : Nat) : Call → Program (sessions queries Flush) (Except StorageError Reply)
  | .putJson tenantId installationId name key value =>
      (Transaction.commits .aborted do
        let (row, flush) ← putJson rendering tenantId installationId name key value
        return (Reply.row row, flush)).run
  | .delete tenantId installationId name key =>
      (Transaction.commits .aborted do
        let (existed, flush) ← delete tenantId installationId name key
        return (Reply.deleted existed, flush)).run

def answers (quotas : String → Int) : (query : queries.Op) → queries.Answer query → Prop
  | .namespaceNamed .., found => ∀ ns : Namespace, found = some ns → ns.quotaBytes = quotas ns.id
  | .record namespaceId _, found | .ownRecord namespaceId .., found =>
      ∀ row : KVRecord, found = some row → row.namespaceId = namespaceId
  | .uid, _ => True

/-- The counter is projected from what was read, and within the quota when it may grow. -/
def Projected (quotas : String → Int) : Flush → Prop
  | .added ns usedBytes row =>
      row.namespaceId = ns.id ∧ usedBytes = ns.usedBytes + row.sizeBytes ∧ usedBytes ≤ quotas ns.id
  | .changed ns usedBytes loaded row =>
      loaded.namespaceId = ns.id ∧ usedBytes = ns.usedBytes - loaded.sizeBytes + row.sizeBytes ∧
        usedBytes ≤ quotas ns.id
  | .deleted ns usedBytes loaded =>
      loaded.namespaceId = ns.id ∧ usedBytes = max 0 (ns.usedBytes - loaded.sizeBytes)
  | .nothing => True

section Composes
variable {quotas : String → Int}

theorem namespaceRow_yields (tenantId installationId name : String) :
    (namespaceRow tenantId installationId name).Yields (answers quotas)
      fun ns => ns.quotaBytes = quotas ns.id := by
  apply Yields.bind_select
  intro (found : Option Namespace) known
  cases found with
  | none => exact Yields.raise
  | some ns => exact Yields.pure (known ns rfl)

theorem putJson_yields (rendering : Rendering) (tenantId installationId name key : String) (value : Json) :
    (putJson rendering tenantId installationId name key value).Yields (answers quotas)
      fun result => Projected quotas result.2 := by
  unfold putJson
  apply Yields.check
  intro _
  apply Yields.bind (namespaceRow_yields tenantId installationId name)
  intro ns quota
  apply Yields.check
  intro _
  apply Yields.check
  intro _
  apply Yields.bind_select
  intro (found : Option KVRecord) known
  apply Yields.check
  intro fits
  rw [quota, not_lt] at fits
  cases found with
  | none =>
    apply Yields.bind_select
    intro (id : String) _
    have projected : ns.usedBytes - 0 + encodedSize rendering value =
        ns.usedBytes + encodedSize rendering value := by omega
    exact Yields.pure ⟨rfl, projected, fits⟩
  | some loaded => exact Yields.pure ⟨known loaded rfl, rfl, fits⟩

theorem delete_yields (tenantId installationId name key : String) :
    (delete tenantId installationId name key).Yields (answers quotas)
      fun result => Projected quotas result.2 := by
  apply Yields.bind (namespaceRow_yields tenantId installationId name)
  intro ns _
  apply Yields.bind_select
  intro (found : Option KVRecord) known
  cases found with
  | none => exact Yields.pure trivial
  | some row => exact Yields.pure ⟨known row rfl, rfl⟩

theorem main_composes (rendering : Rendering) (pid : Nat) (call : Call) :
    Composes (answers quotas) (Projected quotas) (main rendering pid call) := by
  cases call with
  | putJson tenantId installationId name key value =>
    apply Yields.commits
    apply Yields.bind (putJson_yields rendering tenantId installationId name key value)
    exact fun _ projected => Yields.pure projected
  | delete tenantId installationId name key =>
    apply Yields.commits
    apply Yields.bind (delete_yields tenantId installationId name key)
    exact fun _ projected => Yields.pure projected

end Composes

/-! ### What a commit does to the sums -/

def KVRecord.share (row : KVRecord) (namespaceId : String) : Int :=
  if row.namespaceId = namespaceId then (row.sizeBytes : Int) else 0

theorem KVRecord.share_own {row : KVRecord} {namespaceId : String} (own : row.namespaceId = namespaceId) :
    row.share namespaceId = row.sizeBytes := if_pos own

theorem KVRecord.share_other {row : KVRecord} {namespaceId : String} (other : row.namespaceId ≠ namespaceId) :
    row.share namespaceId = 0 := if_neg other

namespace State
variable {state after : State} {ns : Namespace} {usedBytes : Int}

theorem stored_eq (state : State) (namespaceId : String) :
    state.stored namespaceId = state.records.total fun row => row.share namespaceId := rfl

/-- The records after a commit: what they sum up to in the namespace of the session, and elsewhere. -/
structure Resized (state : State) (records : Table KVRecord (String × String) KVRecord.identity)
    (namespaceId : String) (change : Int) : Prop where
  here : { state with records := records }.stored namespaceId = state.stored namespaceId + change
  elsewhere : ∀ other, other ≠ namespaceId →
    { state with records := records }.stored other = state.stored other

theorem resized_insert {row : KVRecord} (absent : state.records.find row.identity = none) :
    state.Resized (state.records.insert row) row.namespaceId row.sizeBytes where
  here := by rw [stored_eq, Table.total_insert absent, KVRecord.share_own rfl, stored_eq]
  elsewhere other differs := by
    rw [stored_eq, Table.total_insert absent, KVRecord.share_other differs.symm, add_zero, stored_eq]

theorem resized_replace {row now : KVRecord} (found : state.records.find row.identity = some now) :
    state.Resized (state.records.replace row) row.namespaceId (row.sizeBytes - now.sizeBytes) := by
  have same : now.namespaceId = row.namespaceId := congrArg Prod.fst (Table.find_key found)
  constructor
  · have total := Table.total_replace found fun row' => row'.share row.namespaceId
    rw [KVRecord.share_own rfl, KVRecord.share_own same] at total
    rw [stored_eq, stored_eq]
    dsimp only
    omega
  · intro other differs
    have total := Table.total_replace found fun row' => row'.share other
    rw [KVRecord.share_other differs.symm, KVRecord.share_other (same ▸ differs.symm)] at total
    rw [stored_eq, stored_eq]
    dsimp only
    omega

theorem resized_erase (state : State) (row : KVRecord) :
    state.Resized (state.records.erase row.identity) row.namespaceId (-state.sizeNow row) := by
  unfold sizeNow
  cases found : state.records.find row.identity with
  | none =>
    rw [Table.erase_of_none found]
    exact ⟨(Int.add_zero _).symm, fun _ _ => rfl⟩
  | some now =>
    have same : now.namespaceId = row.namespaceId := congrArg Prod.fst (Table.find_key found)
    constructor
    · have total := Table.total_erase found fun row' => row'.share row.namespaceId
      rw [KVRecord.share_own same] at total
      rw [stored_eq, stored_eq]
      dsimp only
      omega
    · intro other differs
      have total := Table.total_erase found fun row' => row'.share other
      rw [KVRecord.share_other (same ▸ differs.symm)] at total
      rw [stored_eq, stored_eq]
      dsimp only
      omega

theorem sizeNow_le (state : State) (row : KVRecord) : state.sizeNow row ≤ state.stored row.namespaceId := by
  have rest : 0 ≤ { state with records := state.records.erase row.identity }.stored row.namespaceId := by
    apply List.sum_nonneg
    intro share member
    obtain ⟨other, _, rfl⟩ := List.mem_map.mp member
    split <;> omega
  have erased := (resized_erase state row).here
  omega

theorem charge_namespaces (charged : state.charge ns usedBytes = some after) :
    ∀ now ∈ after.namespaces.rows, ∃ old ∈ state.namespaces.rows, now = { old with
      usedBytes := if old.id = ns.id then written ns.usedBytes usedBytes old.usedBytes else old.usedBytes } := by
  intro now member
  unfold charge at charged
  split at charged
  · next same =>
    cases charged
    exact ⟨now, member, by rw [same, written_same, ite_self]⟩
  · next differs =>
    rw [Option.map_eq_some_iff] at charged
    obtain ⟨old, found, rfl⟩ := charged
    have known : old.id = ns.id := Table.find_key found
    rcases Table.mem_replace.mp member with ⟨kept, apart⟩ | ⟨rfl, _⟩
    · exact ⟨now, kept, by rw [if_neg fun same => apart (same.trans known.symm)]⟩
    · exact ⟨old, Table.find_mem found, by rw [if_pos known, written_of_ne differs]⟩

theorem charge_records (charged : state.charge ns usedBytes = some after) : after.records = state.records := by
  unfold charge at charged
  split at charged
  · cases charged
    rfl
  · rw [Option.map_eq_some_iff] at charged
    obtain ⟨_, _, rfl⟩ := charged
    rfl

end State

def Sound (quotas : String → Int) (state : State) : Prop :=
  state.Accounted ∧ ∀ ns ∈ state.namespaces.rows, ns.quotaBytes = quotas ns.id

theorem Sound.charge {quotas : String → Int} {state after : State} {ns : Namespace} {usedBytes change : Int}
    {records : Table KVRecord (String × String) KVRecord.identity} (sound : Sound quotas state)
    (resized : state.Resized records ns.id change) (moved : ∀ now, state.namespaces.find ns.id = some now →
      written ns.usedBytes usedBytes now.usedBytes = now.usedBytes + change ∧
        now.usedBytes + change ≤ now.quotaBytes)
    (charged : { state with records := records }.charge ns usedBytes = some after) : Sound quotas after := by
  constructor
  · intro now member
    obtain ⟨old, kept, rfl⟩ := State.charge_namespaces charged now member
    obtain ⟨counted, within⟩ := sound.1 old kept
    rw [State.stored_eq, State.charge_records charged]
    by_cases own : old.id = ns.id
    · rw [if_pos own]
      have found : state.namespaces.find ns.id = some old := by rw [← own, Table.find_of_mem kept]
      obtain ⟨projected, fits⟩ := moved old found
      have here := resized.here
      rw [← own] at here
      have sum := State.stored_eq { state with records := records } old.id
      dsimp only at sum ⊢
      omega
    · rw [if_neg own]
      have sum := resized.elsewhere old.id own
      rw [State.stored_eq] at sum
      dsimp only at sum ⊢
      omega
  · intro now member
    obtain ⟨old, kept, rfl⟩ := State.charge_namespaces charged now member
    exact sound.2 old kept

/-- A commit that changes the counter finds what it had read: the counter without the record is as it
was. A record that keeps its size may be written at any time. -/
def Undisturbed : Flush → State → Prop
  | .added ns _ _, state =>
      ∀ now ∈ state.namespaces.find ns.id, now.usedBytes = ns.usedBytes
  | .changed ns _ loaded row, state => row.sizeBytes ≠ loaded.sizeBytes →
      ∀ now ∈ state.namespaces.find ns.id, now.usedBytes - state.sizeNow loaded = ns.usedBytes - loaded.sizeBytes
  | .deleted ns _ loaded, state => ∀ now ∈ state.namespaces.find ns.id,
      now.usedBytes - state.sizeNow loaded = ns.usedBytes - loaded.sizeBytes
  | .nothing, _ => True

instance (flush : Flush) (state : State) : Decidable (Undisturbed flush state) :=
  match flush with
  | .added ns _ _ => inferInstanceAs (Decidable (∀ now ∈ state.namespaces.find ns.id, now.usedBytes = ns.usedBytes))
  | .changed ns _ loaded row => inferInstanceAs (Decidable (row.sizeBytes ≠ loaded.sizeBytes →
      ∀ now ∈ state.namespaces.find ns.id, now.usedBytes - state.sizeNow loaded = ns.usedBytes - loaded.sizeBytes))
  | .deleted ns _ loaded => inferInstanceAs (Decidable (∀ now ∈ state.namespaces.find ns.id,
      now.usedBytes - state.sizeNow loaded = ns.usedBytes - loaded.sizeBytes))
  | .nothing => .isTrue trivial

theorem Sound.quota_eq {quotas : String → Int} {state : State} {ns : Namespace} {id : String}
    (sound : Sound quotas state) (found : state.namespaces.find id = some ns) : ns.quotaBytes = quotas id := by
  rw [sound.2 ns (Table.find_mem found), Table.find_key found]

theorem Sound.commit {quotas : String → Int} {state after : State} {flush : Flush} (sound : Sound quotas state)
    (projected : Projected quotas flush) (undisturbed : Undisturbed flush state)
    (committed : commit flush state = some after) : Sound quotas after := by
  cases flush with
  | added ns usedBytes row =>
    obtain ⟨own, value, fits⟩ := projected
    simp only [Storage.commit] at committed
    split at committed
    · cases committed
    · next free =>
      rw [Bool.or_eq_true, not_or] at free
      have resized := State.resized_insert (Option.not_isSome_iff_eq_none.mp free.2)
      rw [own] at resized
      apply sound.charge resized _ committed
      intro now found
      have same := undisturbed now found
      have quota := sound.quota_eq found
      rw [same, value, written_current]
      exact ⟨rfl, by omega⟩
  | changed ns usedBytes loaded row =>
    obtain ⟨own, value, fits⟩ := projected
    simp only [Storage.commit] at committed
    split at committed
    · cases committed
    · next now held =>
      have kept : (now.patched loaded row).identity = now.identity := rfl
      have found : state.records.find (now.patched loaded row).identity = some now := by
        rw [kept, Table.find_key held, held]
      have sizeNow : state.sizeNow loaded = now.sizeBytes := by rw [State.sizeNow, held]
      have resized := State.resized_replace found
      have inside : (now.patched loaded row).namespaceId = ns.id :=
        (congrArg Prod.fst (Table.find_key held)).trans own
      rw [inside] at resized
      apply sound.charge resized _ committed
      intro counter read
      obtain ⟨_, within⟩ := sound.1 counter (Table.find_mem read)
      by_cases same : row.sizeBytes = loaded.sizeBytes
      · -- neither the size nor the counter is written
        have idle : usedBytes = ns.usedBytes := by rw [value, same]; omega
        have size : (now.patched loaded row).sizeBytes = now.sizeBytes := by
          simp only [KVRecord.patched, same, written_same]
        rw [idle, written_same, size]
        omega
      · have size : (now.patched loaded row).sizeBytes = row.sizeBytes := written_of_ne same
        have apart : (row.sizeBytes : Int) ≠ loaded.sizeBytes := by exact_mod_cast same
        have moves : usedBytes ≠ ns.usedBytes := by omega
        have balance := undisturbed same counter read
        have quota := sound.quota_eq read
        rw [written_of_ne moves, size]
        omega
  | deleted ns usedBytes loaded =>
    obtain ⟨own, value⟩ := projected
    simp only [Storage.commit] at committed
    have resized := State.resized_erase state loaded
    rw [own] at resized
    apply sound.charge resized _ committed
    intro counter read
    obtain ⟨counted, within⟩ := sound.1 counter (Table.find_mem read)
    have balance := undisturbed counter read
    have part := State.sizeNow_le state loaded
    rw [own, ← Table.find_key read, ← counted] at part
    have positive := loaded.sizeBytes.pos
    have held : 0 ≤ state.sizeNow loaded := by
      unfold State.sizeNow
      split <;> omega
    have moves : usedBytes ≠ ns.usedBytes := by omega
    rw [written_of_ne moves]
    omega
  | nothing =>
    cases committed
    exact sound

theorem database_keeps (quotas : String → Int) :
    database.Keeps (Sound quotas) (answers quotas) (Projected quotas) Undisturbed where
  selects query choice state sound := by
    refine ⟨?_, by cases query <;> exact sound⟩
    cases query with
    | namespaceNamed tenantId installationId name =>
      intro ns found
      exact sound.2 ns (Table.first_spec found).1
    | record namespaceId key =>
      intro row found
      exact (Table.first_spec found).2.1
    | ownRecord namespaceId key tenantId installationId =>
      intro row found
      exact (Table.first_spec found).2.1
    | uid => trivial
  commits flush state after sound projected undisturbed committed :=
    sound.commit projected undisturbed committed

/-- As long as every commit is undisturbed, whatever the calls interleave: in every committed state
the counters are the sums, and within the quotas. -/
theorem storage_accounted (rendering : Rendering) {start : State} {moves : List (Move Call String)}
    {final : Pool (sessions queries Flush) Call (Except StorageError Reply) State}
    (initially : start.Accounted)
    (run : Runs (Pool.step database.world (main rendering)) (database.admitted Undisturbed)
      (Pool.initial start) moves final) : final.shared.Accounted := by
  let quotas (id : String) : Int := ((start.namespaces.find id).map Namespace.quotaBytes).getD 0
  have known : ∀ ns ∈ start.namespaces.rows, ns.quotaBytes = quotas ns.id := by
    intro ns member
    simp only [quotas, Table.find_of_mem member, Option.map_some, Option.getD_some]
  exact ((database_keeps quotas).committed (main_composes rendering) ⟨initially, known⟩ run).1

def plain : Rendering where
  float _ := "0.0"
  container _ := ""
  shown _ := by decide

def cache : Namespace := ⟨"namespace", "tenant", "installation", "cache", "kv", 1048576, 0⟩

def installed : State where
  namespaces := [cache].foldl .insert .empty
  records := .empty

def put (key : String) (value : Int) : Call := .putJson "tenant" "installation" "cache" key (.int value)

def resizedTwice : List (Move Call String) :=
  [.start 0 (put "first" 7), .act 0 "", .act 0 "", .act 0 "one", .act 0 "",
    .start 1 (put "first" 10), .start 2 (put "first" 100), .act 1 "", .act 2 "", .act 1 "", .act 2 "",
    .act 1 "", .act 2 "",
    .start 3 (.delete "tenant" "installation" "cache" "first"), .act 3 "", .act 3 "", .act 3 ""]

theorem resizedTwice_checked : (resizedTwice.foldlM (fun pool move =>
    if database.checked (fun flush state => Undisturbed flush state) pool move then
      pool.step database.world (main plain) move else none) (Pool.initial installed)).map
        (fun pool => pool.shared.records.rows.length) = some 0 := by
  decide

theorem storage_accounted_resized : ∃ final, final.shared.Accounted ∧
    Runs (Pool.step database.world (main plain)) (database.admitted Undisturbed) (Pool.initial installed)
      resizedTwice final := by
  obtain ⟨final, evaluated, _⟩ := Option.map_eq_some_iff.mp resizedTwice_checked
  have run := Runs.of_checked (Database.admitted_of_checked fun _ _ => of_decide_eq_true) evaluated
  exact ⟨final, storage_accounted plain (by decide) run, run⟩

def overlapping : List (Move Call String) :=
  [.start 0 (put "first" 7), .start 1 (put "second" 7), .act 0 "", .act 1 "", .act 0 "", .act 1 "",
    .act 0 "one", .act 1 "two", .act 0 "", .act 1 ""]

theorem overlapping_lose : (overlapping.foldlM (Pool.step database.world (main plain))
    (Pool.initial installed)).map (fun pool => (pool.shared.namespaces.rows.map Namespace.usedBytes,
      pool.shared.stored "namespace", decide pool.shared.Accounted)) = some ([1], 2, false) := by
  decide

/-- Two records of one byte each are charged once. -/
theorem overlapping_puts_undercount : installed.Accounted ∧
    ∃ final, Runs (Pool.step database.world (main plain)) (fun _ _ => True) (Pool.initial installed)
      overlapping final ∧ ¬ final.shared.Accounted := by
  refine ⟨by decide, ?_⟩
  obtain ⟨final, evaluated, lost⟩ := Option.map_eq_some_iff.mp overlapping_lose
  refine ⟨final, .of_foldlM evaluated, ?_⟩
  exact of_decide_eq_false (congrArg (fun facts => facts.2.2) lost)

end Operly.Platform.Storage
