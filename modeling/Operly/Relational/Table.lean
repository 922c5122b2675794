import Mathlib.Data.List.Find
import Mathlib.Data.List.Nodup

/-! Tables of rows with a primary key. -/

namespace Relational

/-- The rows of a table in the order of their insertion, at most one for each key. -/
structure Table (ρ κ : Type) (key : ρ → κ) where
  rows : List ρ
  distinct : (rows.map key).Nodup

namespace Table
variable {ρ κ : Type} [DecidableEq κ] {key : ρ → κ}

def empty : Table ρ κ key := ⟨[], List.nodup_nil⟩

def find (table : Table ρ κ key) (k : κ) : Option ρ := table.rows.find? fun row => key row = k

def replace (table : Table ρ κ key) (row : ρ) : Table ρ κ key where
  rows := table.rows.map fun old => if key old = key row then row else old
  distinct := by
    rw [List.map_map]
    have same : key ∘ (fun old => if key old = key row then row else old) = key := by
      funext old
      by_cases held : key old = key row
      · simp [held]
      · simp [held]
    rw [same]
    exact table.distinct

/-- `UPDATE` of every row by a change that keeps the keys. -/
def modify (table : Table ρ κ key) (change : ρ → ρ) (keeps : ∀ row, key (change row) = key row) :
    Table ρ κ key where
  rows := table.rows.map change
  distinct := by
    rw [List.map_map]
    have same : key ∘ change = key := funext keeps
    rw [same]
    exact table.distinct

def insert (table : Table ρ κ key) (row : ρ) : Table ρ κ key :=
  if present : (table.find (key row)).isSome then table
  else {
    rows := table.rows ++ [row]
    distinct := by
      rw [List.map_append, List.map_singleton, List.nodup_append]
      refine ⟨table.distinct, List.nodup_singleton _, ?_⟩
      intro k known k' last same
      rw [List.mem_singleton] at last
      subst last
      obtain ⟨old, member, held⟩ := List.mem_map.mp known
      apply present
      rw [find, List.find?_isSome]
      exact ⟨old, member, by simp [held, same]⟩ }

def erase (table : Table ρ κ key) (k : κ) : Table ρ κ key where
  rows := table.rows.filter fun row => key row ≠ k
  distinct := (List.filter_sublist.map key).nodup table.distinct

def select (table : Table ρ κ key) (condition : ρ → Bool) : List ρ := table.rows.filter condition

def first (table : Table ρ κ key) (condition : ρ → Prop) [DecidablePred condition] : Option ρ :=
  table.rows.find? fun row => condition row

/-- `SELECT count(*) ... WHERE` -/
def count (table : Table ρ κ key) (condition : ρ → Bool) : Nat := table.rows.countP condition

variable {table : Table ρ κ key} {k : κ} {row : ρ} {condition : ρ → Bool}

theorem find_key (found : table.find k = some row) : key row = k := by
  simpa using List.find?_some found

theorem find_mem (found : table.find k = some row) : row ∈ table.rows := List.mem_of_find?_eq_some found

theorem find_of_mem (member : row ∈ table.rows) : table.find (key row) = some row := by
  cases found : table.find (key row) with
  | none =>
    simp only [find, List.find?_eq_none, decide_eq_true_eq] at found
    exact absurd rfl (found row member)
  | some other =>
    have same := List.inj_on_of_nodup_map table.distinct (find_mem found) member (find_key found)
    rw [same]

theorem find_eq_some : table.find k = some row ↔ row ∈ table.rows ∧ key row = k := by
  constructor
  · exact fun found => ⟨find_mem found, find_key found⟩
  · rintro ⟨member, rfl⟩
    exact find_of_mem member

theorem find_eq_none : table.find k = none ↔ ∀ row ∈ table.rows, key row ≠ k := by
  simp [find]

theorem mem_select : row ∈ table.select condition ↔ table.find (key row) = some row ∧ condition row = true := by
  rw [select, List.mem_filter, find_eq_some]
  simp

omit [DecidableEq κ] in
theorem first_spec {condition : ρ → Prop} [DecidablePred condition] (found : table.first condition = some row) :
    row ∈ table.rows ∧ condition row := by
  refine ⟨List.mem_of_find?_eq_some found, ?_⟩
  simpa using List.find?_some found

omit [DecidableEq κ] in
theorem first_eq_none {condition : ρ → Prop} [DecidablePred condition] :
    table.first condition = none ↔ ∀ row ∈ table.rows, ¬ condition row := by
  simp [first]

theorem mem_replace {other : ρ} :
    other ∈ (table.replace row).rows ↔
      (other ∈ table.rows ∧ key other ≠ key row) ∨
        (other = row ∧ (table.find (key row)).isSome) := by
  simp only [replace, List.mem_map, find, List.find?_isSome, decide_eq_true_eq]
  constructor
  · rintro ⟨old, member, same⟩
    by_cases held : key old = key row
    · rw [if_pos held] at same
      exact .inr ⟨same.symm, old, member, held⟩
    · rw [if_neg held] at same
      exact .inl ⟨same ▸ member, same ▸ held⟩
  · rintro (⟨member, apart⟩ | ⟨rfl, old, member, held⟩)
    · exact ⟨other, member, if_neg apart⟩
    · exact ⟨old, member, if_pos held⟩

theorem find_replace (table : Table ρ κ key) (row : ρ) (k : κ) :
    (table.replace row).find k =
      if k = key row then (table.find k).map fun _ => row else table.find k := by
  by_cases held : k = key row
  · subst held
    rw [if_pos rfl]
    cases found : table.find (key row) with
    | none =>
      rw [Option.map_none, find_eq_none]
      intro other member
      rw [mem_replace] at member
      rcases member with ⟨_, apart⟩ | ⟨_, present⟩
      · exact apart
      · simp [found] at present
    | some old =>
      rw [Option.map_some, find_eq_some, mem_replace]
      exact ⟨.inr ⟨rfl, by simp [found]⟩, rfl⟩
  · rw [if_neg held]
    ext other
    rw [find_eq_some, find_eq_some, mem_replace]
    constructor
    · rintro ⟨⟨member, _⟩ | ⟨rfl, _⟩, same⟩
      · exact ⟨member, same⟩
      · exact absurd same.symm held
    · rintro ⟨member, same⟩
      exact ⟨.inl ⟨member, same ▸ held⟩, same⟩

theorem find_modify (table : Table ρ κ key) (change : ρ → ρ) (keeps : ∀ row, key (change row) = key row)
    (k : κ) : (table.modify change keeps).find k = (table.find k).map change := by
  have same : (fun row => decide (key row = k)) ∘ change = fun row => decide (key row = k) := by
    funext row
    simp [keeps]
  rw [find, modify, List.find?_map, same, find]

theorem find_insert (table : Table ρ κ key) (row : ρ) (k : κ) :
    (table.insert row).find k = (table.find k).or (if k = key row then some row else none) := by
  unfold insert
  split
  next present =>
    by_cases held : k = key row
    · subst held
      obtain ⟨old, found⟩ := Option.isSome_iff_exists.mp present
      simp [found]
    · simp [held]
  next absent =>
    have last : (List.find? (fun old => decide (key old = k)) [row]) =
        if k = key row then some row else none := by
      by_cases held : k = key row
      · simp [held]
      · simp [held, Ne.symm held]
    rw [find, List.find?_append, last]
    rfl

theorem insert_rows (absent : table.find (key row) = none) : (table.insert row).rows = table.rows ++ [row] := by
  simp [insert, absent]

theorem find?_replace {old : ρ} (found : table.find (key row) = some old) (kept : condition row = condition old) :
    (table.replace row).rows.find? condition =
      (table.rows.find? condition).map fun other => if key other = key row then row else other := by
  rw [replace, List.find?_map]
  congr 1
  apply List.find?_congr
  intro other member
  by_cases held : key other = key row
  · have equal : other = old :=
      List.inj_on_of_nodup_map table.distinct member (find_mem found) (held.trans (find_key found).symm)
    rw [Function.comp_apply, if_pos held, kept, equal]
  · rw [Function.comp_apply, if_neg held]

theorem find?_insert_of_some {found : ρ} (earlier : table.rows.find? condition = some found) :
    (table.insert row).rows.find? condition = some found := by
  unfold insert
  split
  · exact earlier
  · rw [List.find?_append, earlier, Option.some_or]

theorem mem_insert_of_mem {other : ρ} (member : other ∈ table.rows) : other ∈ (table.insert row).rows := by
  unfold insert
  split
  · exact member
  · exact List.mem_append_left _ member

theorem select_replace_of_neg (hidden : condition row = false) : (table.replace row).select condition =
      (table.select condition).filter fun other => key other ≠ key row := by
  simp only [select, replace]
  induction table.rows with
  | nil => rfl
  | cons first rest ih =>
    rw [List.map_cons]
    by_cases same : key first = key row
    · rw [if_pos same, List.filter_cons_of_neg (by simp [hidden]), ih]
      cases shown : condition first with
      | true => rw [List.filter_cons_of_pos shown, List.filter_cons_of_neg (by simp [same])]
      | false => rw [List.filter_cons_of_neg (by simp [shown])]
    · rw [if_neg same]
      cases shown : condition first with
      | true =>
        rw [List.filter_cons_of_pos shown, List.filter_cons_of_pos shown,
          List.filter_cons_of_pos (by simpa using same), ih]
      | false =>
        rw [List.filter_cons_of_neg (by simp [shown]), List.filter_cons_of_neg (by simp [shown]), ih]

theorem map_replace {α : Type} {old : ρ} {column : ρ → α} (found : table.find (key row) = some old)
    (same : column row = column old) : (table.replace row).rows.map column = table.rows.map column := by
  rw [replace, List.map_map]
  apply List.map_congr_left
  intro other member
  by_cases held : key other = key row
  · have equal : other = old :=
      List.inj_on_of_nodup_map table.distinct member (find_mem found) (held.trans (find_key found).symm)
    rw [Function.comp_apply, if_pos held, same, equal]
  · rw [Function.comp_apply, if_neg held]

theorem insert_replace_rows {now : ρ} (absent : table.find (key row) = none) (same : key now = key row) :
    ((table.insert row).replace now).rows = table.rows ++ [now] := by
  have rows : ((table.insert row).replace now).rows =
      (table.insert row).rows.map fun old => if key old = key now then now else old := rfl
  rw [rows, insert_rows absent, List.map_append, List.map_singleton, if_pos same.symm]
  congr 1
  conv_rhs => rw [← List.map_id table.rows]
  apply List.map_congr_left
  intro old member
  rw [find_eq_none] at absent
  rw [if_neg, id]
  rw [same]
  exact absent old member

theorem replace_self (found : table.find (key row) = some row) : table.replace row = table := by
  have rows : (table.replace row).rows = table.rows := by
    simpa using map_replace found (rfl : id row = id row)
  cases table with | mk rows' distinct =>
  simp only [replace, mk.injEq] at rows ⊢
  exact rows

end Table

end Relational
