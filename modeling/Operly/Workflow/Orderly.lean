import Operly.Workflow.AcceptedSpec
import Operly.Workflow.Effects

/-! Definitions and schedules that agree: an enabled schedule is that of an enabled workflow, and
has a next time. -/

namespace Operly.Workflow
open Python Relational

abbrev Definitions := Table WorkflowDefinition String (·.id)
abbrev Schedules := Table WorkflowSchedule String (·.id)

def Supported (definitions : Definitions) (row : WorkflowSchedule) : Prop :=
  row.enabled = true → (∃ workflow, definitions.find row.workflowId = some workflow ∧
    workflow.status = .enabled) ∧ row.nextRunAt.isSome = true

structure Orderly (definitions : Definitions) (schedules : Schedules) : Prop where
  named : definitions.find "" = none
  supported : ∀ row ∈ schedules.rows, Supported definitions row
  stored : ∀ row ∈ schedules.rows, (loads row.scheduleJson).truthy = true
  single : (schedules.rows.map (·.workflowId)).Nodup

namespace Orderly
variable {definitions : Definitions} {schedules : Schedules}

theorem of_mem (orderly : Orderly definitions schedules) {row other : WorkflowSchedule}
    (member : row ∈ schedules.rows) (member' : other ∈ schedules.rows)
    (same : row.workflowId = other.workflowId) : row = other :=
  List.inj_on_of_nodup_map orderly.single member member' same

theorem newDefinition (orderly : Orderly definitions schedules) {row : WorkflowDefinition}
    (named : row.id ≠ "") : Orderly (definitions.insert row) schedules where
  named := by
    rw [Table.find_insert, orderly.named, Option.none_or, if_neg named.symm]
  supported schedule member on := by
    obtain ⟨⟨workflow, found, status⟩, next⟩ := orderly.supported schedule member on
    exact ⟨⟨workflow, by rw [Table.find_insert, found, Option.some_or], status⟩, next⟩
  stored := orderly.stored
  single := orderly.single

theorem definition (orderly : Orderly definitions schedules) {row : WorkflowDefinition} (named : row.id ≠ "")
    (fits : ∀ schedule ∈ schedules.rows, schedule.workflowId = row.id → schedule.enabled = true →
      row.status = .enabled) : Orderly (definitions.replace row) schedules where
  named := by
    rw [Table.find_replace, if_neg named.symm]
    exact orderly.named
  supported schedule member on := by
    obtain ⟨⟨workflow, found, status⟩, next⟩ := orderly.supported schedule member on
    refine ⟨?_, next⟩
    by_cases own : schedule.workflowId = row.id
    · exact ⟨row, by rw [Table.find_replace, if_pos own, found, Option.map_some], fits schedule member own on⟩
    · exact ⟨workflow, by rw [Table.find_replace, if_neg own, found], status⟩
  stored := orderly.stored
  single := orderly.single

theorem newSchedule (orderly : Orderly definitions schedules) {row : WorkflowSchedule}
    (supported : Supported definitions row) (stored : (loads row.scheduleJson).truthy = true)
    (absent : schedules.find row.id = none)
    (unscheduled : ∀ other ∈ schedules.rows, other.workflowId ≠ row.workflowId) :
    Orderly definitions (schedules.insert row) := by
  have rows := Table.insert_rows absent
  constructor
  · exact orderly.named
  · intro schedule member
    simp only [rows, List.mem_append, List.mem_singleton] at member
    rcases member with old | rfl
    · exact orderly.supported schedule old
    · exact supported
  · intro schedule member
    simp only [rows, List.mem_append, List.mem_singleton] at member
    rcases member with old | rfl
    · exact orderly.stored schedule old
    · exact stored
  · simp only [rows, List.map_append, List.map_singleton, List.nodup_append, List.nodup_singleton,
      List.mem_singleton, forall_eq, List.mem_map, true_and, orderly.single]
    rintro workflowId ⟨other, member, rfl⟩
    exact unscheduled other member

theorem schedule (orderly : Orderly definitions schedules) {row old : WorkflowSchedule}
    (found : schedules.find row.id = some old) (owner : row.workflowId = old.workflowId)
    (supported : Supported definitions row) (stored : (loads row.scheduleJson).truthy = true) :
    Orderly definitions (schedules.replace row) where
  named := orderly.named
  supported schedule member := by
    rcases Table.mem_replace.mp member with ⟨kept, -⟩ | ⟨rfl, -⟩
    · exact orderly.supported schedule kept
    · exact supported
  stored schedule member := by
    rcases Table.mem_replace.mp member with ⟨kept, -⟩ | ⟨rfl, -⟩
    · exact orderly.stored schedule kept
    · exact stored
  single := by
    rw [Table.map_replace found owner]
    exact orderly.single

theorem both (orderly : Orderly definitions schedules) {row workflow : WorkflowDefinition}
    {schedule old : WorkflowSchedule} (found : definitions.find row.id = some workflow)
    (held : schedules.find schedule.id = some old) (owner : schedule.workflowId = old.workflowId)
    (own : old.workflowId = row.id)
    (fits : schedule.enabled = true → row.status = .enabled ∧ schedule.nextRunAt.isSome = true)
    (stored : (loads schedule.scheduleJson).truthy = true) :
    Orderly (definitions.replace row) (schedules.replace schedule) := by
  have named : row.id ≠ "" := by
    intro empty
    rw [empty, orderly.named] at found
    cases found
  constructor
  · rw [Table.find_replace, if_neg named.symm]
    exact orderly.named
  · intro other member on
    rcases Table.mem_replace.mp member with ⟨kept, apart⟩ | ⟨rfl, -⟩
    · obtain ⟨⟨workflow', found', status⟩, next⟩ := orderly.supported other kept on
      have elsewhere : other.workflowId ≠ row.id := by
        intro same
        have equal := orderly.of_mem kept (Table.find_mem held) (same.trans own.symm)
        exact apart ((congrArg WorkflowSchedule.id equal).trans (Table.find_key held))
      exact ⟨⟨workflow', by rw [Table.find_replace, if_neg elsewhere, found'], status⟩, next⟩
    · obtain ⟨status, next⟩ := fits on
      exact ⟨⟨row, by rw [owner, own, Table.find_replace, if_pos rfl, found, Option.map_some], status⟩, next⟩
  · intro other member
    rcases Table.mem_replace.mp member with ⟨kept, -⟩ | ⟨rfl, -⟩
    · exact orderly.stored other kept
    · exact stored
  · rw [Table.map_replace held owner]
    exact orderly.single

theorem deleteSchedule (orderly : Orderly definitions schedules) (id : String) :
    Orderly definitions (schedules.erase id) where
  named := orderly.named
  supported schedule member := orderly.supported schedule (List.mem_of_mem_filter member)
  stored schedule member := orderly.stored schedule (List.mem_of_mem_filter member)
  single := (List.filter_sublist.map _).nodup orderly.single

end Orderly

variable {state after : WorkflowState}

theorem writeAll_one {change : Write} (written : state.writeAll [change] = some after) :
    state.write change = some after := by
  simpa [WorkflowState.writeAll] using written

theorem writeAll_definitionChange {row now : WorkflowDefinition}
    (found : state.definitions.find row.id = some row) (patched : WorkflowDefinition.patch row now row = now) :
    state.writeAll (definitionChange row now) =
      some { state with definitions := state.definitions.replace now } := by
  unfold definitionChange
  split
  · next same =>
    subst same
    rw [Table.replace_self found]
    rfl
  · simp [WorkflowState.writeAll, WorkflowState.write, found, patched]

theorem writeAll_scheduleChange {row now : WorkflowSchedule}
    (found : state.schedules.find row.id = some row) (patched : WorkflowSchedule.patch row now row = now) :
    state.writeAll (scheduleChange row now) =
      some { state with schedules := state.schedules.replace now } := by
  unfold scheduleChange
  split
  · next same =>
    subst same
    rw [Table.replace_self found]
    rfl
  · simp [WorkflowState.writeAll, WorkflowState.write, found, patched]

variable {platform : Platform} {context : ExecutionContext} {arguments : Fields}

theorem truthy_sorted (fields : Fields) : (Json.obj fields).sortKeys.truthy = (Json.obj fields).truthy := by
  have length := Json.length_sorted fields
  rw [Json.sortKeys, Json.truthy, Json.truthy]
  cases fields with
  | nil => rfl
  | cons entry rest =>
    cases sorted : Json.byKey (Json.sortFields (entry :: rest)) with
    | nil => simp [sorted] at length
    | cons _ _ => rfl

theorem validateSchedule_truthy {value : Json} {schedule : Option Fields} {fields : Fields}
    (accepted : validateSchedule platform value = .ok schedule) (given : schedule = some fields) :
    (Json.obj fields).truthy = true := by
  have filled := (validateSchedule_fields accepted given).2
  cases fields with
  | nil => exact absurd rfl filled
  | cons entry rest => rfl

theorem creationOf_schedule {creation : Creation} (accepted : creationOf platform arguments = .ok creation) :
    validateSchedule platform (argument arguments "schedule") = .ok creation.schedule := by
  unfold creationOf at accepted
  simp only [throw_bind, check_eq_ok, bind_eq_ok] at accepted
  obtain ⟨name, -, -, spec, -, steps, -, schedule, valid, same⟩ := accepted
  rw [← pure_eq_ok.mp same]
  exact valid

theorem editSchedule_replaced {current : Json} {next : Json × Option (Option Fields)}
    {candidate : Option Fields} (edited : editSchedule platform arguments current = .ok next)
    (replaced : next.2 = some candidate) : next.1 = scheduleJson candidate ∧
      validateSchedule platform (argument arguments "schedule") = .ok candidate := by
  unfold editSchedule at edited
  split at edited
  · obtain ⟨validated, valid, same⟩ := bind_eq_ok.mp edited
    split at same
    · rw [← pure_eq_ok.mp same] at replaced
      cases replaced
    · rw [← pure_eq_ok.mp same] at replaced ⊢
      cases replaced
      exact ⟨rfl, valid⟩
  · rw [← pure_eq_ok.mp edited] at replaced
    cases replaced

theorem editOf_replaced {row : WorkflowDefinition} {version : WorkflowVersion} {schedule : Option WorkflowSchedule}
    {edit : Edit} {candidate : Option Fields} (accepted : editOf platform arguments row version schedule = .ok edit)
    (replaced : edit.replaced = some candidate) : edit.schedule = scheduleJson candidate ∧
      validateSchedule platform (argument arguments "schedule") = .ok candidate := by
  unfold editOf at accepted
  simp only [bind_eq_ok] at accepted
  obtain ⟨named, -, specified, -, next, edited, same⟩ := accepted
  rw [← pure_eq_ok.mp same] at replaced ⊢
  exact editSchedule_replaced edited replaced

end Operly.Workflow
