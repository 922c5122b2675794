import Operly.Relational.Table
import Mathlib.Algebra.BigOperators.Group.List.Basic
import Mathlib.Algebra.Order.Group.Int

/-! Columns of rows that a session loads, changes and writes back, and what they sum up to. -/

namespace Relational

section Written
variable {α : Type} [DecidableEq α]

/-- A column after a flush. Only what differs from the value that was loaded is written, so a column
left alone keeps what others have committed since. -/
def written (loaded composed now : α) : α := if composed = loaded then now else composed

@[simp] theorem written_same (loaded now : α) : written loaded loaded now = now := if_pos rfl

theorem written_of_ne {loaded composed now : α} (differs : composed ≠ loaded) :
    written loaded composed now = composed := if_neg differs

theorem written_current (loaded composed : α) : written loaded composed loaded = composed := by
  by_cases same : composed = loaded
  · rw [same, written_same]
  · exact written_of_ne same

end Written

theorem written_add_iff (loaded change now : Int) :
    written loaded (loaded + change) now = now + change ↔ change = 0 ∨ now = loaded := by
  unfold written
  split <;> omega

namespace Table
variable {ρ κ M : Type} [DecidableEq κ] [AddCommMonoid M] {key : ρ → κ}

def total (table : Table ρ κ key) (weight : ρ → M) : M := (table.rows.map weight).sum

variable {table : Table ρ κ key} {k : κ} {old row : ρ}

theorem rows_around (found : table.find k = some old) :
    ∃ before after, table.rows = before ++ old :: after ∧ ∀ row ∈ before ++ after, key row ≠ k := by
  obtain ⟨before, after, rows⟩ := List.append_of_mem (find_mem found)
  refine ⟨before, after, rows, ?_⟩
  intro row member same
  have distinct := table.distinct
  rw [rows, List.map_append, List.map_cons, List.nodup_middle, ← List.map_append,
    List.nodup_cons] at distinct
  apply distinct.1
  rw [find_key found, ← same]
  exact List.mem_map_of_mem member

omit [DecidableEq κ] in
theorem total_of_rows {before after : List ρ} (rows : table.rows = before ++ row :: after) (weight : ρ → M) :
    table.total weight = weight row + ((before ++ after).map weight).sum := by
  rw [total, rows, List.map_append, List.map_cons, List.sum_append, List.sum_cons, List.map_append,
    List.sum_append]
  exact add_left_comm _ _ _

theorem total_insert (absent : table.find (key row) = none) (weight : ρ → M) :
    (table.insert row).total weight = table.total weight + weight row := by
  rw [total, insert_rows absent, List.map_append, List.sum_append, List.map_singleton,
    List.sum_singleton, total]

theorem total_replace (found : table.find (key row) = some old) (weight : ρ → M) :
    (table.replace row).total weight + weight old = table.total weight + weight row := by
  obtain ⟨before, after, rows, apart⟩ := rows_around found
  have others : ∀ side : List ρ, (∀ other ∈ side, key other ≠ key row) →
      (side.map fun other => if key other = key row then row else other) = side := by
    intro side elsewhere
    conv_rhs => rw [← List.map_id side]
    exact List.map_congr_left fun other member => if_neg (elsewhere other member)
  have replaced : (table.replace row).rows = before ++ row :: after := by
    have mapped : (table.replace row).rows =
        table.rows.map fun other => if key other = key row then row else other := rfl
    rw [mapped, rows, List.map_append, List.map_cons, if_pos (find_key found),
      others before fun other member => apart other (List.mem_append_left _ member),
      others after fun other member => apart other (List.mem_append_right _ member)]
  rw [total_of_rows replaced, total_of_rows rows, add_right_comm, add_comm (weight row),
    add_right_comm]

theorem total_erase (found : table.find k = some old) (weight : ρ → M) :
    (table.erase k).total weight + weight old = table.total weight := by
  obtain ⟨before, after, rows, apart⟩ := rows_around found
  have erased : (table.erase k).rows = before ++ after := by
    have filtered : (table.erase k).rows = table.rows.filter fun row => key row ≠ k := rfl
    rw [filtered, rows, List.filter_append, List.filter_cons_of_neg (by simp [find_key found]),
      ← List.filter_append, List.filter_eq_self]
    exact fun row member => by simpa using apart row member
  rw [total, erased, total_of_rows rows, add_comm]

theorem exists_other_of_count {condition : ρ → Bool} (many : 1 < table.count condition) (k : κ) :
    ∃ row ∈ table.rows, condition row = true ∧ key row ≠ k := by
  cases found : table.find k with
  | none =>
    obtain ⟨row, member, counted⟩ := List.countP_pos_iff.mp (Nat.lt_of_succ_lt many)
    exact ⟨row, member, counted, find_eq_none.mp found row member⟩
  | some old =>
    obtain ⟨before, after, rows, apart⟩ := rows_around found
    have below : (if condition old = true then 1 else 0) ≤ 1 := by split <;> omega
    have others : 0 < (before ++ after).countP condition := by
      rw [count, rows, List.countP_append, List.countP_cons] at many
      rw [List.countP_append]
      omega
    obtain ⟨row, member, counted⟩ := List.countP_pos_iff.mp others
    refine ⟨row, ?_, counted, apart row member⟩
    rw [rows, List.mem_append, List.mem_cons]
    rcases List.mem_append.mp member with first | last
    · exact .inl first
    · exact .inr (.inr last)

theorem erase_of_none (absent : table.find k = none) : table.erase k = table := by
  have rows : (table.erase k).rows = table.rows := by
    rw [erase, List.filter_eq_self]
    intro row member
    simpa using find_eq_none.mp absent row member
  cases table with | mk rows' distinct =>
  simp only [erase, mk.injEq] at rows ⊢
  exact rows

end Table

end Relational
