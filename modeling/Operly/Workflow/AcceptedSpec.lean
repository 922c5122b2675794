import Operly.Python.Equality
import Operly.Python.Exceptions
import Operly.Workflow.Concurrency

/-! What the acceptance of a spec, a schedule or a policy says about it, and that what is stored of
it equals it. -/

namespace Operly.Workflow
open Python

variable {fields raw : Fields} {key : String} {value : Json} {spelling : Spelling} {seen : List String}
  {steps : List Step} {policy : ConcurrencyPolicy}

theorem proper_get (proper : (Json.obj fields).proper = true) (held : Fields.get fields key = some value) :
    value.proper = true := (Json.proper_obj.mp proper).2 _ (Fields.get_mem held)

theorem proper_getOr {default : Json} (proper : (Json.obj fields).proper = true) (plain : default.proper = true) :
    (Fields.getOr fields key default).proper = true := by
  unfold Fields.getOr
  split
  · next value held =>
    split
    · exact proper_get proper held
    · exact plain
  · exact plain

theorem operand_held {default text : String} (held : Fields.get fields key = some (.str text)) (written : text ≠ "") :
    operand spelling fields key default = text := by
  have truthy : (Json.str text).truthy = true := by simpa [Json.truthy] using written
  rw [operand, Fields.getOr, held]
  simp only [truthy, if_true]
  rfl

theorem operand_absent {default : String} (absent : Fields.get fields key = none) :
    operand spelling fields key default = default := by
  rw [operand, Fields.getOr, absent]
  rfl

/-! ### Steps -/

structure Step.Accepted (spelling : Spelling) (seen : List String) (raw : Fields) (step : Step) : Prop where
  valid : isStepId step.id = true
  fresh : step.id ∉ seen
  depends : validateDepends spelling seen step.id raw = .ok step.dependsOn
  when : step.when = Fields.get raw "when"
  condition : ∀ condition, step.when = some condition → validateCondition spelling condition = .ok ()
  kind : validateAction spelling step.id raw = .ok step.kind ∨ validateWait step.id raw = .ok step.kind

theorem validateStep_accepted {index : Nat} {step : Step}
    (accepted : validateStep spelling seen index (.obj raw) = .ok step) : step.Accepted spelling seen raw := by
  unfold validateStep at accepted
  simp only [throw_bind, check_eq_ok, bind_eq_ok] at accepted
  obtain ⟨valid, fresh, dependsOn, depends, -, -, rest⟩ := accepted
  -- the rest is the same with and without a condition
  have finished : ∀ {condition : Option Json}, condition = Fields.get raw "when" →
      (∀ value, condition = some value → validateCondition spelling value = .ok ()) →
      ∀ {build : StepKind → Step}, (∀ kind, (build kind).id = strip (operand spelling raw "id"
          (toString "step_" ++ toString (index + 1))) ∧ (build kind).dependsOn = dependsOn ∧
          (build kind).when = Fields.get raw "when" ∧ (build kind).kind = kind) →
        (if lower (strip (operand spelling raw "kind" "action")) = "action" then
          (do let kind ← validateAction spelling (strip (operand spelling raw "id"
                (toString "step_" ++ toString (index + 1)))) raw
              pure (build kind))
        else do
          let kind ← validateWait (strip (operand spelling raw "id"
            (toString "step_" ++ toString (index + 1)))) raw
          pure (build kind)) = .ok step → step.Accepted spelling seen raw := by
    intro condition held checked build shape built
    have known : ∃ kind, (validateAction spelling (strip (operand spelling raw "id"
        (toString "step_" ++ toString (index + 1)))) raw = .ok kind ∨
          validateWait (strip (operand spelling raw "id"
            (toString "step_" ++ toString (index + 1)))) raw = .ok kind) ∧ build kind = step := by
      split at built
      · obtain ⟨kind, action, same⟩ := bind_eq_ok.mp built
        exact ⟨kind, .inl action, pure_eq_ok.mp same⟩
      · obtain ⟨kind, wait, same⟩ := bind_eq_ok.mp built
        exact ⟨kind, .inr wait, pure_eq_ok.mp same⟩
    obtain ⟨kind, kinds, rfl⟩ := known
    obtain ⟨id, dependencies, conditional, own⟩ := shape kind
    constructor
    · rw [id]
      simpa using valid
    · rw [id]
      simpa using fresh
    · rw [id, dependencies]
      exact depends
    · exact conditional
    · rw [conditional, ← held]
      exact checked
    · rw [id, own]
      exact kinds
  cases held : Fields.get raw "when" with
  | none =>
    rw [held] at rest
    exact finished held.symm (fun _ absent => by cases absent) (fun _ => ⟨rfl, rfl, held.symm, rfl⟩) rest
  | some condition =>
    rw [held] at rest
    obtain ⟨_, checked, rest⟩ := bind_eq_ok.mp rest
    refine finished held.symm ?_ (fun _ => ⟨rfl, rfl, held.symm, rfl⟩) rest
    intro value same
    cases same
    exact checked

theorem validateAction_spec {stepId : String} {kind : StepKind}
    (accepted : validateAction spelling stepId raw = .ok kind) : ∃ capabilityId arguments,
      kind = .action capabilityId arguments ∧ Fields.getOr raw "arguments" (.obj []) = .obj arguments := by
  simp only [validateAction, check_eq_ok] at accepted
  obtain ⟨-, -, rest⟩ := accepted
  split at rest
  · next arguments held =>
    cases rest
    exact ⟨_, arguments, rfl, held⟩
  · cases rest

theorem validateWait_spec {stepId : String} {kind : StepKind} (accepted : validateWait stepId raw = .ok kind) :
    (∃ seconds, kind = .waitSeconds seconds) ∨ ∃ text, kind = .waitUntil text := by
  unfold validateWait at accepted
  split at accepted
  · obtain ⟨seconds, -, same⟩ := map_eq_ok.mp accepted
    exact .inl ⟨seconds, same.symm⟩
  · obtain ⟨-, same⟩ := check_eq_ok.mp accepted
    exact .inr ⟨_, (Except.ok.inj same).symm⟩
  · cases accepted
  · cases accepted

theorem validateSteps_accepted {raws : List Json} {index : Nat}
    (accepted : validateSteps spelling seen index raws = .ok steps) :
    ∀ step ∈ steps, ∃ seen raw, .obj raw ∈ raws ∧ step.Accepted spelling seen raw := by
  induction raws generalizing steps seen index with
  | nil =>
    cases accepted
    simp
  | cons raw rest ih =>
    simp only [validateSteps, bind_eq_ok] at accepted
    obtain ⟨step, first, others, later, same⟩ := accepted
    rw [← pure_eq_ok.mp same]
    intro other member
    rcases List.mem_cons.mp member with rfl | among
    · cases raw with
      | obj fields => exact ⟨seen, fields, by simp, validateStep_accepted first⟩
      | _ => cases first
    · obtain ⟨seen', fields, known, held⟩ := ih later other among
      exact ⟨seen', fields, by simp [known], held⟩

theorem validateWorkflowSpec_steps (accepted : validateWorkflowSpec spelling value = .ok steps) :
    ∃ fields raws, value = .obj fields ∧
      Fields.get fields "steps" = some (.arr raws) ∧ validateSteps spelling [] 0 raws = .ok steps := by
  unfold validateWorkflowSpec at accepted
  split at accepted
  · next fields =>
    obtain ⟨-, rest⟩ := check_eq_ok.mp accepted
    split at rest
    · next raws held =>
      simp only [check_eq_ok] at rest
      exact ⟨fields, raws, rfl, held, rest.2.2⟩
    · cases rest
  · cases accepted

theorem Step.Accepted.proper {step : Step} (accepted : step.Accepted spelling seen raw)
    (proper : (Json.obj raw).proper = true) : step.json.proper = true := by
  have condition : ∀ value, step.when = some value → value.proper = true := by
    intro value held
    rw [accepted.when] at held
    exact proper_get proper held
  have depends : (Json.arr (step.dependsOn.map .str)).proper = true := by
    rw [Json.proper_arr]
    simp [Json.proper]
  have kinds : (∃ capabilityId arguments, step.kind = .action capabilityId arguments ∧
      (Json.obj arguments).proper = true) ∨ (∃ seconds, step.kind = .waitSeconds seconds) ∨
      ∃ text, step.kind = .waitUntil text := by
    rcases accepted.kind with action | wait
    · obtain ⟨capabilityId, arguments, kind, held⟩ := validateAction_spec action
      exact .inl ⟨capabilityId, arguments, kind, held ▸ proper_getOr proper (by decide)⟩
    · exact .inr (validateWait_spec wait)
  rw [Step.json, Json.proper_obj]
  rcases kinds with ⟨capabilityId, arguments, kind, given⟩ | ⟨seconds, kind⟩ | ⟨text, kind⟩
  all_goals
    cases held : step.when with
    | none => simp [StepKind.fields, *]
    | some value =>
      have proper := condition value held
      simp [StepKind.fields, *]

theorem specJson_proper (accepted : validateWorkflowSpec spelling value = .ok steps) (proper : value.proper = true) :
    (specJson steps).proper = true := by
  obtain ⟨fields, raws, rfl, held, validated⟩ := validateWorkflowSpec_steps accepted
  have items := Json.proper_arr.mp (proper_get proper held)
  rw [specJson, Json.proper_obj]
  simp only [List.map_cons, List.map_nil, List.nodup_singleton, List.mem_singleton, forall_eq, true_and,
    Json.proper_arr, List.forall_mem_map]
  intro step member
  obtain ⟨seen, raw, known, own⟩ := validateSteps_accepted validated step member
  exact own.proper (items _ known)

theorem specJson_same (accepted : validateWorkflowSpec spelling value = .ok steps) (proper : value.proper = true) :
    Json.same (specJson steps) (specJson steps).sortKeys = true :=
  Json.same_sortKeys (specJson_proper accepted proper)

theorem proper_cons :
    (Json.obj ((key, value) :: fields)).proper = true ↔
      (key ∉ fields.map (·.1) ∧ value.proper = true) ∧ (Json.obj fields).proper = true := by
  rw [Json.proper_obj, Json.proper_obj, List.map_cons, List.nodup_cons]
  simp only [List.forall_mem_cons]
  tauto

theorem scheduleDetails_proper {platform : Platform} {scheduleType : String} {value details : Fields}
    (accepted : scheduleDetails platform scheduleType value = .ok details) :
    (Json.obj details).proper = true ∧ ∀ key ∈ details.map (·.1), key ≠ "type" ∧ key ≠ "timezone" := by
  have integers : ∀ days : List Int, (Json.arr (days.map .int)).proper = true := by
    intro days
    simp [Json.proper_arr]
  have empty : (Json.obj []).proper = true := rfl
  unfold scheduleDetails at accepted
  split at accepted
  · obtain ⟨at', -, same⟩ := bind_eq_ok.mp accepted
    rw [← pure_eq_ok.mp same]
    simp [proper_cons, empty]
  · split at accepted
    · obtain ⟨every, -, rest⟩ := bind_eq_ok.mp accepted
      split at rest
      · obtain ⟨start, -, same⟩ := bind_eq_ok.mp rest
        rw [← pure_eq_ok.mp same]
        simp [proper_cons, empty]
      · rw [← pure_eq_ok.mp rest]
        simp [proper_cons, empty]
    · split at accepted
      · obtain ⟨clock, -, same⟩ := bind_eq_ok.mp accepted
        rw [← pure_eq_ok.mp same]
        simp [proper_cons, empty]
      · split at accepted
        · obtain ⟨days, -, rest⟩ := bind_eq_ok.mp accepted
          obtain ⟨clock, -, same⟩ := bind_eq_ok.mp rest
          rw [← pure_eq_ok.mp same]
          simp [proper_cons, empty, integers days]
        · split at accepted
          · obtain ⟨_, -, same⟩ := bind_eq_ok.mp accepted
            rw [← pure_eq_ok.mp same]
            simp [proper_cons, empty]
          · cases accepted

theorem validateSchedule_fields {platform : Platform} {schedule : Option Fields}
    (accepted : validateSchedule platform value = .ok schedule) (given : schedule = some fields) :
    (Json.obj fields).proper = true ∧ fields ≠ [] := by
  subst given
  unfold validateSchedule at accepted
  split at accepted
  · cases accepted
  · split at accepted
    · dsimp only at accepted
      split at accepted
      · cases accepted
      · simp only [throw_bind, check_eq_ok, bind_eq_ok] at accepted
        obtain ⟨-, details, valid, same⟩ := accepted
        obtain ⟨proper, keys⟩ := scheduleDetails_proper valid
        cases same
        refine ⟨?_, List.cons_ne_nil _ _⟩
        rw [proper_cons, proper_cons]
        refine ⟨⟨?_, rfl⟩, ⟨?_, rfl⟩, proper⟩
        · intro member
          rcases List.mem_cons.mp member with first | later
          · simp at first
          · exact (keys _ later).1 rfl
        · exact fun member => (keys _ member).2 rfl
    · cases accepted

structure ConcurrencyPolicy.Normal (policy : ConcurrencyPolicy) : Prop where
  positive : 0 ≤ policy.maxConcurrentRuns
  bounded : policy.maxConcurrentRuns ≤ Workflow.maxConcurrentRuns
  unlimited : policy.maxConcurrentRuns = 0 → policy.overflowPolicy = .queue

theorem defaultPolicy_normal : defaultPolicy.Normal := ⟨by decide, by decide, fun _ => rfl⟩

theorem policyLimit_range {limit : Int} (accepted : policyLimit fields = .ok limit) :
    0 ≤ limit ∧ limit ≤ maxConcurrentRuns := by
  unfold policyLimit at accepted
  obtain ⟨value, -, rest⟩ := bind_eq_ok.mp accepted
  obtain ⟨within, same⟩ := check_eq_ok.mp rest
  cases same
  omega

theorem normalizePolicy_normal (accepted : normalizePolicy spelling value = .ok policy) : policy.Normal := by
  unfold normalizePolicy at accepted
  split at accepted
  · cases accepted
    exact defaultPolicy_normal
  · simp only [throw_bind, check_eq_ok, bind_eq_ok] at accepted
    obtain ⟨-, limit, limited, overflow, -, same⟩ := accepted
    obtain ⟨lower, upper⟩ := policyLimit_range limited
    rw [← pure_eq_ok.mp same]
    exact ⟨lower, upper, fun none => if_pos none⟩
  · cases accepted

theorem policyFromSnapshot_normal {snapshot : Json} (read : policyFromSnapshot spelling snapshot = .ok policy) :
    policy.Normal := by
  unfold policyFromSnapshot at read
  split at read
  · split at read
    · cases read
      exact defaultPolicy_normal
    · exact normalizePolicy_normal read
  · cases read
    exact defaultPolicy_normal

theorem normalizePolicy_stored (spelling : Spelling) (normal : policy.Normal) :
    normalizePolicy spelling policy.json.sortKeys = .ok policy := by
  obtain ⟨limit, overflow⟩ := policy
  obtain ⟨positive, bounded, unlimited⟩ := normal
  dsimp only at positive bounded unlimited
  have sorted : (ConcurrencyPolicy.mk limit overflow).json.sortKeys =
      .obj [("max_concurrent_runs", .int limit), ("overflow_policy", .str overflow.value)] := by
    cases overflow <;> simp [ConcurrencyPolicy.json, Json.sortKeys, Json.sortFields, Json.byKey]
  have limited : policyLimit [("max_concurrent_runs", .int limit), ("overflow_policy", .str overflow.value)] =
      .ok limit := by
    have within : ¬ (limit < 0 ∨ (maxConcurrentRuns : Int) < limit) := by omega
    exact if_neg within
  have overflowing : policyOverflow spelling
      [("max_concurrent_runs", .int limit), ("overflow_policy", .str overflow.value)] = .ok overflow := by
    have read : operand spelling
        [("max_concurrent_runs", .int limit), ("overflow_policy", .str overflow.value)] "overflow_policy" "queue" =
          overflow.value := by
      cases overflow <;> simp [operand, Fields.getOr, Fields.get, OverflowPolicy.value, Json.truthy, Json.toStr]
    have plain : lower (strip overflow.value) = overflow.value := by
      cases overflow <;> decide
    simp only [policyOverflow, read, plain]
    cases overflow <;> simp [OverflowPolicy.value]
  have kept : (if limit = 0 then OverflowPolicy.queue else overflow) = overflow := by
    split
    · next none => exact (unlimited none).symm
    · rfl
  rw [sorted]
  simp only [normalizePolicy, limited, overflowing]
  simp [bind, Except.bind, pure, Except.pure, kept]

theorem policyFromSnapshot_withPolicy (spelling : Spelling) (snapshot : Json) (normal : policy.Normal) :
    policyFromSnapshot spelling (withPolicy snapshot policy).sortKeys = .ok policy := by
  have read := normalizePolicy_stored spelling normal
  have held : ∀ fields, Fields.get fields "concurrency" = some policy.json →
      policyFromSnapshot spelling (Json.obj fields).sortKeys = .ok policy := by
    intro fields stored
    simp only [Json.sortKeys, policyFromSnapshot]
    rw [Fields.get_sorted, stored, Option.map_some, Option.getD_some, read]
  unfold withPolicy
  split
  · apply held
    rw [Fields.get_set, if_pos rfl]
  · exact held _ rfl

end Operly.Workflow
