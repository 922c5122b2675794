import Operly.Python.Sections
import Operly.Workflow.AcceptedSpec
import Operly.Workflow.Engine

/-! References of a run context: which step a text between dots names. -/

namespace Operly.Workflow
open Python Security
open Kernel (textOrNull)

/-- `rows: dict[str, WorkflowStepRun]` -/
structure StepRows where
  entries : List (String × WorkflowStepRun)
  unique : (entries.map (·.1)).Nodup

namespace StepRows

def row (rows : StepRows) (key : String) : Option WorkflowStepRun :=
  (rows.entries.find? (·.1 = key)).map (·.2)

def without (rows : StepRows) (key : String) : StepRows where
  entries := rows.entries.filter (·.1 ≠ key)
  unique := rows.unique.sublist (List.filter_sublist.map _)

def single (key : String) (row : WorkflowStepRun) : StepRows := ⟨[(key, row)], by simp⟩

theorem row_of_mem {rows : StepRows} {key : String} {row : WorkflowStepRun}
    (member : (key, row) ∈ rows.entries) : rows.row key = some row := by
  obtain ⟨entries, unique⟩ := rows
  dsimp only [StepRows.row] at member ⊢
  induction entries with
  | nil => cases member
  | cons entry rest ih =>
    rw [List.map_cons, List.nodup_cons] at unique
    rcases List.mem_cons.mp member with rfl | later
    · simp
    · have other : entry.1 ≠ key := fun same => unique.1 (List.mem_map.mpr ⟨_, later, same.symm⟩)
      rw [List.find?_cons_of_neg (by simpa using other)]
      exact ih unique.2 later

theorem row_without {rows : StepRows} {key other : String} (differ : other ≠ key) :
    (rows.without other).row key = rows.row key := by
  have same : (fun entry : String × WorkflowStepRun =>
      decide (decide (entry.1 ≠ other) = true ∧ decide (entry.1 = key) = true)) = fun entry => decide (entry.1 = key) := by
    funext entry
    by_cases found : entry.1 = key
    · simp [found, Ne.symm differ]
    · simp [found]
  unfold row without
  rw [List.find?_filter, same]

end StepRows

def stepEntry (row : WorkflowStepRun) : Json :=
  .obj [("status", .str row.status.value), ("attempt", .int row.attempt), ("result", row.result),
    ("error", if isSet row.errorCode then
        .obj [("code", textOrNull row.errorCode), ("message", textOrNull row.errorMessage)]
      else .null)]

def WorkflowRun.stepContext (run : WorkflowRun) (rows : StepRows) : Json :=
  .obj [("trigger", run.triggerPayload), ("steps", .obj (rows.entries.map fun entry => (entry.1, stepEntry entry.2))),
    ("run", .obj [("id", .str run.id), ("scope_kind", .str run.scopeKind.value),
      ("trigger_type", .str run.triggerType),
      ("scheduled_for", match run.scheduledFor with
        | some time => .str (isoformat time)
        | none => .null)])]

/-- `f"steps.{stepId}.{path}"` -/
def stepReference (stepId path : String) : String := "steps." ++ stepId ++ "." ++ path

theorem split_whole {text : String} (plain : '.' ∉ text.toList) : split '.' text = [text] := by
  have whole : ∀ chars : List Char, '.' ∉ chars → splitChars '.' chars = [chars] := by
    intro chars
    induction chars with
    | nil => exact fun _ => rfl
    | cons c rest ih =>
      intro absent
      rw [List.mem_cons, not_or] at absent
      rw [splitChars, ih absent.2]
      simp [Ne.symm absent.1]
  rw [split, whole _ plain]
  simp

theorem split_joined (first second : String) : split '.' (first ++ "." ++ second) = split '.' first ++ split '.' second := by
  have shape : (first ++ "." ++ second).toList = first.toList ++ '.' :: second.toList := by simp
  rw [split, shape, splitChars_append, List.map_append]
  rfl

theorem split_stepReference (stepId path : String) :
    split '.' (stepReference stepId path) = "steps" :: (split '.' stepId ++ split '.' path) := by
  have joined : stepReference stepId path = "steps" ++ "." ++ stepId ++ "." ++ path := rfl
  have first : split '.' "steps" = ["steps"] := split_whole (by decide)
  rw [joined, split_joined, split_joined, first, List.append_assoc]
  rfl

variable {stepId other : String} {value : Json}

theorem split_dotted (dotted : '.' ∈ stepId.toList) :
    ∃ part parts, split '.' stepId = part :: parts ∧ part ≠ stepId := by
  obtain ⟨before, after, shape⟩ := List.append_of_mem dotted
  have parts : split '.' stepId = (splitChars '.' before ++ splitChars '.' after).map String.ofList := by
    rw [split, shape, splitChars_append]
  have short : ∀ text : List Char, ∀ part ∈ splitChars '.' text, part.length ≤ text.length := by
    intro text
    induction text with
    | nil => simp [splitChars]
    | cons c rest ih =>
      intro part
      rw [splitChars]
      cases later : splitChars '.' rest with
      | nil => exact absurd later (splitChars_ne_nil '.' rest)
      | cons first others =>
        rw [later] at ih
        have head := ih first (by simp)
        have tail : ∀ other ∈ others, other.length ≤ rest.length := fun other member => ih other (by simp [member])
        dsimp only
        split
        · intro member
          rcases List.mem_cons.mp member with rfl | member
          · simp
          · have := ih part member
            simp only [List.length_cons]
            omega
        · intro member
          rcases List.mem_cons.mp member with rfl | member
          · simp only [List.length_cons]
            omega
          · have := tail part member
            simp only [List.length_cons]
            omega
  cases first : splitChars '.' before with
  | nil => exact absurd first (splitChars_ne_nil '.' before)
  | cons part others =>
    refine ⟨String.ofList part, ((others ++ splitChars '.' after).map String.ofList), ?_, ?_⟩
    · rw [parts, first]
      rfl
    · intro same
      have bound := short before part (by simp [first])
      have lengths : part.length = stepId.toList.length := by rw [← same, String.toList_ofList]
      rw [shape, List.length_append, List.length_cons] at lengths
      omega

theorem pathStep_text {reference : String} {current : Json} {part : String}
    (found : pathStep reference current part = .ok value) : pathStep other current part = .ok value := by
  cases current with
  | obj fields =>
    dsimp only [pathStep] at found ⊢
    cases held : Fields.get fields part with
    | none => simp [held] at found
    | some inner => simpa [held] using found
  | arr items =>
    dsimp only [pathStep] at found ⊢
    by_cases digits : isDigit part = true
    · rw [if_pos digits] at found ⊢
      cases number : parseInt part with
      | none => simp [number] at found
      | some index =>
        cases held : items[index.toNat]? with
        | none => simp [number, held] at found
        | some inner => simpa [number, held] using found
    · rw [if_neg digits] at found
      cases found
  | null | bool _ | int _ | float _ | str _ => cases found

theorem path_text {reference : String} {current : Json} {segments : List String}
    (found : segments.foldlM (pathStep reference) current = .ok value) :
    segments.foldlM (pathStep other) current = .ok value := by
  induction segments generalizing current with
  | nil => exact found
  | cons part rest ih =>
    rw [List.foldlM_cons] at found ⊢
    obtain ⟨middle, first, later⟩ := bind_eq_ok.mp found
    exact bind_eq_ok.mpr ⟨middle, pathStep_text first, ih later⟩

theorem get_entries (rows : StepRows) (key : String) :
    Fields.get (rows.entries.map fun entry => (entry.1, stepEntry entry.2)) key = (rows.row key).map stepEntry := by
  unfold Fields.get StepRows.row
  rw [List.find?_map, Option.map_map, Option.map_map]
  rfl

theorem pathValue_stepReference (run : WorkflowRun) (rows : StepRows) (plain : '.' ∉ stepId.toList) (path : String) :
    pathValue (run.stepContext rows) (stepReference stepId path) =
      match rows.row stepId with
      | some row => (split '.' path).foldlM (pathStep (stepReference stepId path)) (stepEntry row)
      | none => .error (.spec s!"Template reference is unavailable: {stepReference stepId path}") := by
  have steps : pathStep (stepReference stepId path) (run.stepContext rows) "steps" =
      .ok (.obj (rows.entries.map fun entry => (entry.1, stepEntry entry.2))) := by
    simp [pathStep, WorkflowRun.stepContext, Fields.get_cons]
  rw [pathValue, split_stepReference, split_whole plain, List.foldlM_cons, steps]
  show ((stepId :: split '.' path).foldlM _ _ : Except WorkflowError Json) = _
  rw [List.foldlM_cons, pathStep, get_entries]
  cases rows.row stepId with
  | none => rfl
  | some row => rfl

/-- In every context that holds a row of the step, a reference below it finds what stands there. -/
def Addressed (stepId : String) : Prop :=
  ∀ (run : WorkflowRun) (rows : StepRows) (row : WorkflowStepRun), (stepId, row) ∈ rows.entries →
    ∀ (path : String) (value : Json), pathValue (run.stepContext rows) (stepReference stepId path) = .ok value ↔
      pathValue (stepEntry row) path = .ok value

/-- The entry of the other step plays no part in the references of a step. -/
def Apart (stepId other : String) : Prop :=
  ∀ (run : WorkflowRun) (rows : StepRows) (path : String),
    pathValue (run.stepContext rows) (stepReference stepId path) =
      pathValue (run.stepContext (rows.without other)) (stepReference stepId path)

theorem addressed_of_plain (plain : '.' ∉ stepId.toList) : Addressed stepId := by
  intro run rows row member path value
  rw [pathValue_stepReference run rows plain, StepRows.row_of_mem member]
  exact ⟨path_text, path_text⟩

theorem apart_of_plain (plain : '.' ∉ stepId.toList) (differ : other ≠ stepId) : Apart stepId other := by
  intro run rows path
  rw [pathValue_stepReference run rows plain, pathValue_stepReference run _ plain, StepRows.row_without differ]

theorem not_addressed_of_dotted (dotted : '.' ∈ stepId.toList) (run : WorkflowRun) (row : WorkflowStepRun) :
    ¬Addressed stepId := by
  intro addressed
  have held : pathValue (stepEntry row) "status" = .ok (.str row.status.value) := by
    have whole : split '.' "status" = ["status"] := split_whole (by decide)
    rw [pathValue, whole]
    rfl
  have found := (addressed run (.single stepId row) row (List.mem_singleton.mpr rfl) "status" _).mpr held
  obtain ⟨part, parts, segments, shorter⟩ := split_dotted dotted
  rw [pathValue, split_stepReference, segments, List.foldlM_cons] at found
  obtain ⟨steps, first, later⟩ := bind_eq_ok.mp found
  have known : steps = .obj [(stepId, stepEntry row)] := by
    simp only [pathStep, WorkflowRun.stepContext, Fields.get_cons] at first
    simpa [StepRows.single] using first.symm
  rw [List.cons_append, List.foldlM_cons, known] at later
  obtain ⟨entry, second, -⟩ := bind_eq_ok.mp later
  have absent : Fields.get [(stepId, stepEntry row)] part = none := by
    rw [Fields.get_cons, if_neg (Ne.symm shorter)]
    rfl
  rw [pathStep, absent] at second
  cases second

/-! ### Accepted specs -/

theorem validateSteps_distinct {spelling : Spelling} {raws : List Json} {steps : List Step}
    {seen : List String} {index : Nat} (accepted : validateSteps spelling seen index raws = .ok steps) :
    (steps.map (·.id)).Nodup ∧ ∀ step ∈ steps, step.id ∉ seen := by
  induction raws generalizing steps seen index with
  | nil =>
    cases accepted
    simp
  | cons raw rest ih =>
    simp only [validateSteps, bind_eq_ok] at accepted
    obtain ⟨step, first, others, later, same⟩ := accepted
    rw [← pure_eq_ok.mp same, List.map_cons, List.nodup_cons]
    obtain ⟨distinct, fresh⟩ := ih later
    have own : step.id ∉ seen := by
      cases raw with
      | obj fields => exact (validateStep_accepted first).fresh
      | _ => cases first
    refine ⟨⟨?_, distinct⟩, ?_⟩
    · intro member
      obtain ⟨other, among, id⟩ := List.mem_map.mp member
      exact fresh other among (by simp [id])
    · intro other member
      rcases List.mem_cons.mp member with rfl | among
      · exact own
      · exact fun held => fresh other among (List.mem_cons_of_mem _ held)

theorem validateWorkflowSpec_distinct {spelling : Spelling} {steps : List Step}
    (accepted : validateWorkflowSpec spelling value = .ok steps) {step other : Step} (member : step ∈ steps)
    (among : other ∈ steps) (differ : other ≠ step) : other.id ≠ step.id := by
  obtain ⟨_, _, -, -, validated⟩ := validateWorkflowSpec_steps accepted
  exact fun same => differ (List.inj_on_of_nodup_map (validateSteps_distinct validated).1 among member same)

def idleRun : WorkflowRun where
  id := "run"
  workflowId := "workflow"
  workflowVersionId := "version"
  scopeKind := .personal
  workspaceId := none
  authorityUserId := none
  initiatedByUserId := none
  triggerType := "manual"
  triggerPayload := .obj []
  dedupeKey := .manual "workflow" "run"
  createdAt := 0
  updatedAt := 0

def idleRow (stepId : String) (result : Json) : WorkflowStepRun where
  id := "row"
  workflowRunId := "run"
  stepKey := stepId
  stepOrder := 0
  stepKind := .action
  result := result

/-- A step of an accepted spec is addressable exactly when its id holds no dot. -/
theorem steps_addressable {spelling : Spelling} {value : Json} {steps : List Step}
    (accepted : validateWorkflowSpec spelling value = .ok steps) {step : Step} (member : step ∈ steps) :
    (Addressed step.id ∧ ∀ other ∈ steps, other ≠ step → Apart step.id other.id) ↔ '.' ∉ step.id.toList := by
  constructor
  · rintro ⟨addressed, -⟩ dotted
    exact not_addressed_of_dotted dotted idleRun (idleRow step.id (.obj [])) addressed
  · intro plain
    refine ⟨addressed_of_plain plain, ?_⟩
    intro other among differ
    exact apart_of_plain plain (validateWorkflowSpec_distinct accepted member among differ)

def unspelled : Spelling := ⟨fun _ => "0.0", fun _ => ""⟩

def searchStep (stepId : String) : Json := .obj [("id", .str stepId), ("capability_id", .str "mail.search")]

def foundStep (stepId : String) : Step := ⟨stepId, .action "mail.search" [], [], .stop, none⟩

theorem steps_addressable_dashed : Addressed "find-2" ∧ Apart "find-2" "find_2" := by
  have accepted : validateWorkflowSpec unspelled (.obj [("steps", .arr [searchStep "find-2", searchStep "find_2"])]) =
      .ok [foundStep "find-2", foundStep "find_2"] := by decide
  have first : foundStep "find-2" ∈ [foundStep "find-2", foundStep "find_2"] := by simp
  obtain ⟨addressed, apart⟩ := (steps_addressable accepted first).mpr (by decide)
  exact ⟨addressed, apart (foundStep "find_2") (by simp) (by decide)⟩

def searchRows : StepRows where
  entries := [("search", idleRow "search" (.obj [("status", .str "stale")])),
    ("search.result", idleRow "search.result" (.obj []))]
  unique := by decide

theorem dotted_step_misread :
    (validateWorkflowSpec unspelled (.obj [("steps", .arr [searchStep "search", searchStep "search.result"])])).map
      (·.map (·.id)) = .ok ["search", "search.result"] ∧
      ¬Addressed "search.result" ∧ ¬Apart "search.result" "search" := by
  have read : pathValue (idleRun.stepContext searchRows) (stepReference "search.result" "status") =
      .ok (.str "stale") := by decide
  refine ⟨by decide +kernel, ?_, ?_⟩
  · intro addressed
    have own := (addressed idleRun searchRows (idleRow "search.result" (.obj [])) (by simp [searchRows]) "status" _).mp read
    exact absurd own (by decide)
  · intro apart
    have gone := apart idleRun searchRows "status"
    rw [read] at gone
    exact absurd gone (by decide)

end Operly.Workflow
