import Operly.Workflow.Edits

/-! What committed writes do to the definitions, the schedules, the versions and the runs. -/

namespace Operly.Workflow
open Python Security Concurrent Relational

variable {state after : WorkflowState} {changes : List Write}

def Write.ofSchedules : Write → Bool
  | .newDefinition _ | .definition _ _ | .newSchedule _ | .schedule _ _ | .deleteSchedule _ => true
  | _ => false

def Write.ofVersions : Write → Bool
  | .newDefinition _ | .definition _ _ | .newVersion _ | .version _ _ => true
  | _ => false

theorem write_map {ρ : Type} {row : Option ρ} {change : ρ → WorkflowState}
    (written : row.map change = some after) : ∃ current, row = some current ∧ after = change current := by
  obtain ⟨current, found, rfl⟩ := Option.map_eq_some_iff.mp written
  exact ⟨current, found, rfl⟩

theorem write_insert {taken : Bool} {result : WorkflowState}
    (written : (if taken = true then none else some result) = some after) : taken = false ∧ after = result := by
  cases taken with
  | true => cases written
  | false => exact ⟨rfl, (Option.some.inj written).symm⟩

variable {change : Write}

theorem write_besideSchedules (aside : change.ofSchedules = false) (written : state.write change = some after) :
    after.definitions = state.definitions ∧ after.schedules = state.schedules := by
  cases change with
  | newDefinition | definition | newSchedule | schedule | deleteSchedule => cases aside
  | newRun | newStep | newAttempt | newVersion | newTrigger | newEvent =>
    obtain ⟨-, rfl⟩ := write_insert written
    exact ⟨rfl, rfl⟩
  | run | step | attempt | version | approval =>
    obtain ⟨_, -, rfl⟩ := write_map written
    exact ⟨rfl, rfl⟩
  | deleteTrigger | cursor =>
    cases written
    exact ⟨rfl, rfl⟩

theorem write_ofSchedules {other : WorkflowState} (shown : change.ofSchedules = true)
    (definitions : state.definitions = other.definitions) (schedules : state.schedules = other.schedules)
    (written : state.write change = some after) : ∃ after', other.write change = some after' ∧
      after.definitions = after'.definitions ∧ after.schedules = after'.schedules := by
  cases change with
  | newDefinition row =>
    obtain ⟨free, rfl⟩ := write_insert written
    exact ⟨{ other with definitions := other.definitions.insert row },
      by simp [WorkflowState.write, ← definitions, free], by simp [definitions], schedules⟩
  | definition loaded now =>
    obtain ⟨current, found, rfl⟩ := write_map written
    exact ⟨{ other with definitions := other.definitions.replace (WorkflowDefinition.patch loaded now current) },
      by simp [WorkflowState.write, ← definitions, found], by simp [definitions], schedules⟩
  | newSchedule row =>
    obtain ⟨free, rfl⟩ := write_insert written
    exact ⟨{ other with schedules := other.schedules.insert row },
      by simp [WorkflowState.write, ← schedules, free], definitions, by simp [schedules]⟩
  | schedule loaded now =>
    obtain ⟨current, found, rfl⟩ := write_map written
    exact ⟨{ other with schedules := other.schedules.replace (WorkflowSchedule.patch loaded now current) },
      by simp [WorkflowState.write, ← schedules, found], definitions, by simp [schedules]⟩
  | deleteSchedule id =>
    cases written
    exact ⟨{ other with schedules := other.schedules.erase id }, rfl, definitions, by simp [schedules]⟩
  | _ => cases shown

theorem writeAll_ofSchedules (written : state.writeAll changes = some after) :
    ∃ shown, state.writeAll (changes.filter Write.ofSchedules) = some shown ∧
      after.definitions = shown.definitions ∧ after.schedules = shown.schedules := by
  have projected := writeAll_view (fun state => (state.definitions, state.schedules)) Write.ofSchedules
    (by
      intro change state after aside written
      obtain ⟨definitions, schedules⟩ := write_besideSchedules aside written
      rw [definitions, schedules])
    (by
      intro change state other after shown same written
      obtain ⟨definitions, schedules⟩ := Prod.mk.inj same
      obtain ⟨after', written', definitions', schedules'⟩ := write_ofSchedules shown definitions schedules written
      exact ⟨after', written', by rw [definitions', schedules']⟩) rfl written
  simpa using projected

theorem write_besideVersions (aside : change.ofVersions = false) (written : state.write change = some after) :
    after.definitions = state.definitions ∧ after.versions = state.versions := by
  cases change with
  | newDefinition | definition | newVersion | version => cases aside
  | newRun | newStep | newAttempt | newSchedule | newTrigger | newEvent =>
    obtain ⟨-, rfl⟩ := write_insert written
    exact ⟨rfl, rfl⟩
  | run | step | attempt | schedule | approval =>
    obtain ⟨_, -, rfl⟩ := write_map written
    exact ⟨rfl, rfl⟩
  | deleteTrigger | deleteSchedule | cursor =>
    cases written
    exact ⟨rfl, rfl⟩

theorem write_ofVersions {other : WorkflowState} (shown : change.ofVersions = true)
    (definitions : state.definitions = other.definitions) (versions : state.versions = other.versions)
    (written : state.write change = some after) : ∃ after', other.write change = some after' ∧
      after.definitions = after'.definitions ∧ after.versions = after'.versions := by
  cases change with
  | newDefinition row =>
    obtain ⟨free, rfl⟩ := write_insert written
    exact ⟨{ other with definitions := other.definitions.insert row },
      by simp [WorkflowState.write, ← definitions, free], by simp [definitions], versions⟩
  | definition loaded now =>
    obtain ⟨current, found, rfl⟩ := write_map written
    exact ⟨{ other with definitions := other.definitions.replace (WorkflowDefinition.patch loaded now current) },
      by simp [WorkflowState.write, ← definitions, found], by simp [definitions], versions⟩
  | newVersion row =>
    obtain ⟨free, rfl⟩ := write_insert written
    rw [WorkflowState.versionOf, versions] at free
    exact ⟨{ other with versions := other.versions.insert row },
      by simp [WorkflowState.write, WorkflowState.versionOf, free], definitions, by simp [versions]⟩
  | version loaded now =>
    obtain ⟨current, found, rfl⟩ := write_map written
    exact ⟨{ other with versions := other.versions.replace (WorkflowVersion.patch loaded now current) },
      by simp [WorkflowState.write, ← versions, found], definitions, by simp [versions]⟩
  | _ => cases shown

theorem writeAll_ofVersions (written : state.writeAll changes = some after) :
    ∃ shown, state.writeAll (changes.filter Write.ofVersions) = some shown ∧
      after.definitions = shown.definitions ∧ after.versions = shown.versions := by
  have projected := writeAll_view (fun state => (state.definitions, state.versions)) Write.ofVersions
    (by
      intro change state after aside written
      obtain ⟨definitions, versions⟩ := write_besideVersions aside written
      rw [definitions, versions])
    (by
      intro change state other after shown same written
      obtain ⟨definitions, versions⟩ := Prod.mk.inj same
      obtain ⟨after', written', definitions', versions'⟩ := write_ofVersions shown definitions versions written
      exact ⟨after', written', by rw [definitions', versions']⟩) rfl written
  simpa using projected

/-! ### Runs -/

structure SameQueued (first second : WorkflowRun) : Prop where
  id : second.id = first.id
  dedupeKey : second.dedupeKey = first.dedupeKey
  createdAt : second.createdAt = first.createdAt

theorem SameQueued.refl (run : WorkflowRun) : SameQueued run run := ⟨rfl, rfl, rfl⟩

theorem SameQueued.trans {first second third : WorkflowRun} (early : SameQueued first second)
    (late : SameQueued second third) : SameQueued first third :=
  ⟨late.id.trans early.id, late.dedupeKey.trans early.dedupeKey, late.createdAt.trans early.createdAt⟩

/-- What becomes of the runs: none is lost, and a new one comes from an insertion. -/
structure RunsGrow (before after : WorkflowState) (changes : List Write) : Prop where
  lasting : ∀ old ∈ before.runs.rows, ∃ run ∈ after.runs.rows, SameQueued old run
  origin : ∀ run ∈ after.runs.rows, (∃ old ∈ before.runs.rows, SameQueued old run) ∨
    ∃ new, .newRun new ∈ changes ∧ SameQueued new run
  keys : (before.runs.rows.map (·.dedupeKey)).Nodup → (after.runs.rows.map (·.dedupeKey)).Nodup

theorem write_grows (written : state.write change = some after) : RunsGrow state after [change] := by
  have same : after.runs = state.runs → RunsGrow state after [change] := by
    intro same
    constructor
    · exact fun old member => ⟨old, same ▸ member, .refl old⟩
    · exact fun run member => .inl ⟨run, same ▸ member, .refl run⟩
    · exact fun distinct => same ▸ distinct
  cases change with
  | newRun row =>
    obtain ⟨free, rfl⟩ := write_insert written
    rw [Bool.or_eq_false_iff, Option.isSome_eq_false_iff, Option.isNone_iff_eq_none, List.any_eq_false] at free
    have rows : (state.runs.insert row).rows = state.runs.rows ++ [row] := Table.insert_rows free.1
    constructor
    · intro old member
      exact ⟨old, by simp [rows, member], .refl old⟩
    · intro run member
      simp only [rows, List.mem_append, List.mem_singleton] at member
      rcases member with old | rfl
      · exact .inl ⟨run, old, .refl run⟩
      · exact .inr ⟨run, by simp, .refl run⟩
    · intro distinct
      simp only [rows, List.map_append, List.map_singleton, List.nodup_append, List.nodup_singleton,
        List.mem_singleton, forall_eq, List.mem_map, true_and, distinct]
      rintro key ⟨old, member, rfl⟩
      simpa using free.2 old member
  | run loaded now =>
    obtain ⟨current, found, rfl⟩ := write_map written
    have patched : SameQueued current (WorkflowRun.patch state.clock loaded now current) := ⟨rfl, rfl, rfl⟩
    have replaced : ∀ old ∈ state.runs.rows, SameQueued old (if old.id = current.id
        then WorkflowRun.patch state.clock loaded now current else old) := by
      intro old member
      split
      · next held =>
        obtain rfl := List.inj_on_of_nodup_map state.runs.distinct member (Table.find_mem found) held
        exact patched
      · exact .refl old
    constructor
    · intro old member
      exact ⟨_, List.mem_map_of_mem member, replaced old member⟩
    · intro run member
      obtain ⟨old, known, rfl⟩ := List.mem_map.mp member
      exact .inl ⟨old, known, replaced old known⟩
    · intro distinct
      have keys : (state.runs.replace (WorkflowRun.patch state.clock loaded now current)).rows.map (·.dedupeKey) =
          state.runs.rows.map (·.dedupeKey) := by
        have held : state.runs.find current.id = some current :=
          (congrArg state.runs.find (Table.find_key found)).trans found
        exact Table.map_replace held rfl
      exact keys ▸ distinct
  | newDefinition | newStep | newAttempt | newVersion | newSchedule | newTrigger | newEvent =>
    obtain ⟨-, rfl⟩ := write_insert written
    exact same rfl
  | definition | step | attempt | version | schedule | approval =>
    obtain ⟨_, -, rfl⟩ := write_map written
    exact same rfl
  | deleteTrigger | deleteSchedule | cursor =>
    cases written
    exact same rfl

theorem RunsGrow.trans {first second third : WorkflowState} {early late : List Write}
    (before : RunsGrow first second early) (after : RunsGrow second third late) :
    RunsGrow first third (early ++ late) := by
  constructor
  · intro old member
    obtain ⟨middle, known, same⟩ := before.lasting old member
    obtain ⟨run, known', same'⟩ := after.lasting middle known
    exact ⟨run, known', same.trans same'⟩
  · intro run member
    rcases after.origin run member with ⟨middle, known, same⟩ | ⟨new, inserted, same⟩
    · rcases before.origin middle known with ⟨old, known', same'⟩ | ⟨new, inserted, same'⟩
      · exact .inl ⟨old, known', same'.trans same⟩
      · exact .inr ⟨new, List.mem_append_left late inserted, same'.trans same⟩
    · exact .inr ⟨new, List.mem_append_right early inserted, same⟩
  · exact fun distinct => after.keys (before.keys distinct)

theorem RunsGrow.refl {before : WorkflowState} (same : after.runs = before.runs) :
    RunsGrow before after [] where
  lasting old member := ⟨old, same ▸ member, .refl old⟩
  origin run member := .inl ⟨run, same ▸ member, .refl run⟩
  keys distinct := same ▸ distinct

theorem writeAll_grows (written : state.writeAll changes = some after) : RunsGrow state after changes := by
  induction changes generalizing state with
  | nil =>
    cases written
    exact .refl rfl
  | cons change rest ih =>
    rw [WorkflowState.writeAll, List.foldlM_cons, Option.bind_eq_bind, Option.bind_eq_some_iff] at written
    obtain ⟨middle, first, later⟩ := written
    exact (write_grows first).trans (ih later)

end Operly.Workflow
