import Operly.Python.JsonSize
import Operly.Workflow.Addressing
import Operly.Workflow.Conditions

/-! A spec is validated when it is saved and again before each run. -/

namespace Operly.Workflow
open Python

/-! ### What validation reads -/

structure Step.Reads (spelling : Spelling) (seen : List String) (index : Nat) (raw : Fields) (step : Step) : Prop where
  id : strip (operand spelling raw "id" s!"step_{index + 1}") = step.id
  valid : isStepId step.id = true
  fresh : step.id ∉ seen
  depends : validateDepends spelling seen step.id raw = .ok step.dependsOn
  kindName : lower (strip (operand spelling raw "kind" "action")) = step.kind.name
  onError : lower (strip (operand spelling raw "on_error" "stop")) = step.onError.value
  when : Fields.get raw "when" = step.when
  condition : ∀ condition, step.when = some condition → validateCondition spelling condition = .ok ()
  kind : (if step.kind.name = "action" then validateAction spelling step.id raw
    else validateWait step.id raw) = .ok step.kind

variable {step : Step} {stepId : String} {raw fields : Fields} {kind : StepKind} {seen : List String} {index : Nat}
  {steps : List Step}

theorem built_eq_ok {name : String} {action wait : Except WorkflowError StepKind} {build : StepKind → Step} :
    (if name = "action" then (do let kind ← action; pure (build kind))
      else do let kind ← wait; pure (build kind)) = .ok step ↔
      ∃ kind, (if name = "action" then action else wait) = .ok kind ∧ build kind = step := by
  split
  · simp only [bind_eq_ok, pure_eq_ok]
  · simp only [bind_eq_ok, pure_eq_ok]

theorem kindName_of_ok {spelling : Spelling} {name : String} (known : ¬(name ≠ "action" ∧ name ≠ "wait"))
    (valid : (if name = "action" then validateAction spelling stepId raw else validateWait stepId raw) = .ok kind) :
    name = kind.name := by
  split at valid
  · next action =>
    obtain ⟨capabilityId, arguments, rfl, -⟩ := validateAction_spec valid
    exact action
  · next other =>
    have wait : name = "wait" := not_not.mp fun unknown => known ⟨other, unknown⟩
    rcases validateWait_spec valid with ⟨seconds, rfl⟩ | ⟨text, rfl⟩
    · exact wait
    · exact wait

theorem validateStep_iff {spelling : Spelling} :
    validateStep spelling seen index (.obj raw) = .ok step ↔ step.Reads spelling seen index raw := by
  have finished : ∀ {condition : Option Json}, Fields.get raw "when" = condition →
      (∀ value, condition = some value → validateCondition spelling value = .ok ()) →
      ∀ {stepId kindText errorText : String}, strip (operand spelling raw "id" s!"step_{index + 1}") = stepId →
        lower (strip (operand spelling raw "kind" "action")) = kindText →
        lower (strip (operand spelling raw "on_error" "stop")) = errorText →
        ((¬(!isStepId stepId) = true ∧ ¬seen.contains stepId = true ∧ ∃ dependsOn,
            validateDepends spelling seen stepId raw = .ok dependsOn ∧ ¬(kindText ≠ "action" ∧ kindText ≠ "wait") ∧
              ¬(errorText ≠ "stop" ∧ errorText ≠ "continue") ∧
                (if kindText = "action" then (do
                    let kind ← validateAction spelling stepId raw
                    pure (Step.mk stepId kind dependsOn (if errorText = "stop" then .stop else .continue) condition))
                  else do
                    let kind ← validateWait stepId raw
                    pure (Step.mk stepId kind dependsOn (if errorText = "stop" then .stop else .continue) condition)) =
                  .ok step) ↔ step.Reads spelling seen index raw) := by
    intro condition held checked stepId kindText errorText idText kindName errorName
    constructor
    · rintro ⟨valid, fresh, dependsOn, depends, kinds, errors, built⟩
      obtain ⟨kind, known, rfl⟩ := built_eq_ok.mp built
      have name := kindName_of_ok kinds known
      have error : errorText = (if errorText = "stop" then OnError.stop else .continue).value := by
        split
        · assumption
        · next other => exact not_not.mp fun unknown => errors ⟨other, unknown⟩
      rw [name] at known
      constructor
      · exact idText
      · simpa using valid
      · simpa using fresh
      · exact depends
      · exact kindName.trans name
      · exact errorName.trans error
      · exact held
      · exact checked
      · exact known
    · intro reads
      have name : kindText = step.kind.name := kindName.symm.trans reads.kindName
      have error : errorText = step.onError.value := errorName.symm.trans reads.onError
      have own : stepId = step.id := idText.symm.trans reads.id
      subst own
      refine ⟨by simpa using reads.valid, by simpa using reads.fresh, step.dependsOn, reads.depends, ?_, ?_, ?_⟩
      · rw [name]
        cases step.kind <;> simp [StepKind.name]
      · rw [error]
        cases step.onError <;> decide
      · refine built_eq_ok.mpr ⟨step.kind, name ▸ reads.kind, ?_⟩
        have onError : (if errorText = "stop" then OnError.stop else .continue) = step.onError := by
          rw [error]
          cases step.onError <;> rfl
        rw [onError, ← held, reads.when]
  unfold validateStep
  simp only [throw_bind, check_eq_ok, bind_eq_ok]
  cases held : Fields.get raw "when" with
  | none => exact finished held (fun _ absent => by cases absent) rfl rfl rfl
  | some condition =>
    simp only [bind_eq_ok]
    constructor
    · rintro ⟨valid, fresh, dependsOn, depends, kinds, errors, _, checked, built⟩
      refine (finished held ?_ rfl rfl rfl).mp ⟨valid, fresh, dependsOn, depends, kinds, errors, built⟩
      intro value same
      cases same
      exact checked
    · intro reads
      have checked := reads.condition condition (reads.when ▸ held)
      obtain ⟨valid, fresh, dependsOn, depends, kinds, errors, built⟩ :=
        (finished held (fun value same => by cases same; exact checked) rfl rfl rfl).mpr reads
      exact ⟨valid, fresh, dependsOn, depends, kinds, errors, (), checked, built⟩

/-! ### Normal steps -/

def StepKind.Normal : StepKind → Prop
  | .action capabilityId _ => lower (strip capabilityId) = capabilityId ∧ capabilityId ≠ "" ∧
      startsWith capabilityId "workflow." = false
  | .waitSeconds seconds => 1 ≤ seconds ∧ seconds ≤ maxWaitSeconds
  | .waitUntil text => strip text = text ∧ text ≠ ""

structure Step.Normal (spelling : Spelling) (seen : List String) (step : Step) : Prop where
  valid : isStepId step.id = true
  trimmed : strip step.id = step.id
  fresh : step.id ∉ seen
  earlier : ∀ item ∈ step.dependsOn, item ∈ seen
  distinct : step.dependsOn.Nodup
  condition : ∀ condition, step.when = some condition → validateCondition spelling condition = .ok ()
  kind : step.kind.Normal

def NormalSteps (spelling : Spelling) : List String → List Step → Prop
  | _, [] => True
  | seen, step :: rest => step.Normal spelling seen ∧ NormalSteps spelling (step.id :: seen) rest

theorem lower_strip_twice (text : String) : lower (strip (lower (strip text))) = lower (strip text) := by
  rw [strip_lower_strip, lower_lower]

theorem validateAction_normal {spelling : Spelling} (accepted : validateAction spelling stepId raw = .ok kind) :
    kind.Normal := by
  simp only [validateAction, check_eq_ok] at accepted
  obtain ⟨named, foreign, rest⟩ := accepted
  split at rest
  · cases rest
    exact ⟨lower_strip_twice _, named, by simpa using foreign⟩
  · cases rest

theorem validateSeconds_spec {raw : Json} {seconds : Int} (accepted : validateSeconds stepId raw = .ok seconds) :
    raw.toInt = .ok seconds ∧ 1 ≤ seconds ∧ seconds ≤ maxWaitSeconds := by
  have bounded : ∀ number : Int, (if number < 1 ∨ (maxWaitSeconds : Int) < number then
      .error (.spec s!"Wait step {stepId} seconds is outside policy") else .ok number : Except WorkflowError Int) =
        .ok seconds → number = seconds ∧ 1 ≤ seconds ∧ seconds ≤ maxWaitSeconds := by
    intro number within
    obtain ⟨inside, same⟩ := check_eq_ok.mp within
    cases same
    exact ⟨rfl, by omega, by omega⟩
  unfold validateSeconds at accepted
  cases read : raw.toInt with
  | ok number =>
    rw [read] at accepted
    obtain ⟨rfl, inside⟩ := bounded number accepted
    exact ⟨rfl, inside⟩
  | error failure =>
    rw [read] at accepted
    cases failure <;> cases accepted

theorem validateWait_normal (accepted : validateWait stepId raw = .ok kind) : kind.Normal := by
  unfold validateWait at accepted
  split at accepted
  · obtain ⟨seconds, valid, rfl⟩ := map_eq_ok.mp accepted
    exact (validateSeconds_spec valid).2
  · obtain ⟨written, same⟩ := check_eq_ok.mp accepted
    cases same
    exact ⟨strip_strip _, written⟩
  · cases accepted
  · cases accepted

theorem validateDepends_spec {spelling : Spelling} {depends : List String}
    (accepted : validateDepends spelling seen stepId raw = .ok depends) :
    (∃ items, Fields.getOr raw "depends_on" (.arr []) = .arr items ∧ items.map (Json.toStr spelling) = depends) ∧
      (∀ item ∈ depends, item ∈ seen) ∧ depends.Nodup := by
  unfold validateDepends at accepted
  split at accepted
  · next items held =>
    obtain ⟨earlier, rest⟩ := check_eq_ok.mp accepted
    split at rest
    · next distinct =>
      cases rest
      refine ⟨⟨items, held, rfl⟩, ?_, distinct⟩
      intro item member
      by_contra unseen
      exact earlier (List.any_eq_true.mpr ⟨item, member, by simpa using unseen⟩)
    · cases rest
  · cases accepted

theorem Step.Reads.normal {spelling : Spelling} (reads : step.Reads spelling seen index raw) :
    step.Normal spelling seen := by
  obtain ⟨-, earlier, distinct⟩ := validateDepends_spec reads.depends
  refine ⟨reads.valid, ?_, reads.fresh, earlier, distinct, reads.condition, ?_⟩
  · rw [← reads.id, strip_strip]
  · have valid := reads.kind
    split at valid
    · exact validateAction_normal valid
    · exact validateWait_normal valid

theorem validateSteps_normal {spelling : Spelling} {raws : List Json}
    (accepted : validateSteps spelling seen index raws = .ok steps) : NormalSteps spelling seen steps := by
  induction raws generalizing steps seen index with
  | nil =>
    cases accepted
    trivial
  | cons raw rest ih =>
    simp only [validateSteps, bind_eq_ok] at accepted
    obtain ⟨step, first, others, later, same⟩ := accepted
    rw [← pure_eq_ok.mp same]
    cases raw with
    | obj fields => exact ⟨(validateStep_iff.mp first).normal, ih later⟩
    | _ => cases first

/-! ### What is written is read again -/

/-- The fields are those that the step is stored with, in any order. -/
structure Step.Held (fields : Fields) (step : Step) : Prop where
  id : Fields.get fields "id" = some (.str step.id)
  kind : Fields.get fields "kind" = some (.str step.kind.name)
  dependsOn : Fields.get fields "depends_on" = some (.arr (step.dependsOn.map .str))
  onError : Fields.get fields "on_error" = some (.str step.onError.value)
  when : Fields.get fields "when" = step.when
  details : ∀ key ∈ ["capability_id", "arguments", "seconds", "until"],
    Fields.get fields key = Fields.get step.kind.fields key

theorem StepKind.Normal.validated {spelling : Spelling} (normal : kind.Normal)
    (details : ∀ key ∈ ["capability_id", "arguments", "seconds", "until"],
      Fields.get fields key = Fields.get kind.fields key) :
    (if kind.name = "action" then validateAction spelling stepId fields else validateWait stepId fields) = .ok kind := by
  have capability := details "capability_id" (by simp)
  have arguments := details "arguments" (by simp)
  have seconds := details "seconds" (by simp)
  have until_ := details "until" (by simp)
  cases kind with
  | action capabilityId given =>
    obtain ⟨settled, named, foreign⟩ := normal
    have action : (StepKind.action capabilityId given).name = "action" := rfl
    rw [if_pos action, validateAction, operand_held capability named]
    have held : Fields.getOr fields "arguments" (.obj []) = .obj given := by
      rw [Fields.getOr, arguments]
      cases given <;> rfl
    simp [settled, named, foreign, held]
  | waitSeconds number =>
    have read : validateSeconds stepId (.int number) = .ok number := by
      have within : ¬(number < 1 ∨ (maxWaitSeconds : Int) < number) := by
        have := normal.1
        have := normal.2
        omega
      exact if_neg within
    have wait : (StepKind.waitSeconds number).name ≠ "action" := by simp [StepKind.name]
    rw [if_neg wait, validateWait, seconds, until_]
    show (validateSeconds stepId (.int number)).map StepKind.waitSeconds = _
    rw [read]
    rfl
  | waitUntil text =>
    have wait : (StepKind.waitUntil text).name ≠ "action" := by simp [StepKind.name]
    rw [if_neg wait, validateWait, seconds, until_]
    show (if strip text = "" then _ else Except.ok (StepKind.waitUntil (strip text))) = _
    rw [normal.1, if_neg normal.2]

theorem Step.Normal.reads {spelling : Spelling} (normal : step.Normal spelling seen) (held : step.Held fields)
    (index : Nat) : step.Reads spelling seen index fields := by
  have named : step.id ≠ "" := by
    intro blank
    have valid := normal.valid
    rw [blank] at valid
    exact absurd valid (by decide)
  have depends : validateDepends spelling seen step.id fields = .ok step.dependsOn := by
    have listed : Fields.getOr fields "depends_on" (.arr []) = .arr (step.dependsOn.map .str) := by
      rw [Fields.getOr, held.dependsOn]
      cases step.dependsOn <;> rfl
    have texts : (step.dependsOn.map Json.str).map (Json.toStr spelling) = step.dependsOn := by
      rw [List.map_map]
      exact List.map_id'' (fun _ => rfl) _
    have earlier : ¬(step.dependsOn.any fun item => !seen.contains item) = true := by
      intro unseen
      obtain ⟨item, member, absent⟩ := List.any_eq_true.mp unseen
      exact absurd (normal.earlier item member) (by simpa using absent)
    rw [validateDepends, listed]
    dsimp only
    rw [texts, if_neg earlier, if_pos normal.distinct]
  constructor
  · rw [operand_held held.id named, normal.trimmed]
  · exact normal.valid
  · exact normal.fresh
  · exact depends
  · cases kind : step.kind with
    | action _ _ =>
      rw [operand_held (by rw [held.kind, kind]; rfl) (by decide : "action" ≠ "")]
      exact (by decide : lower (strip "action") = "action")
    | waitSeconds _ | waitUntil _ =>
      rw [operand_held (by rw [held.kind, kind]; rfl) (by decide : "wait" ≠ "")]
      exact (by decide : lower (strip "wait") = "wait")
  · cases onError : step.onError with
    | stop =>
      rw [operand_held (by rw [held.onError, onError]; rfl) (by decide : "stop" ≠ "")]
      decide
    | «continue» =>
      rw [operand_held (by rw [held.onError, onError]; rfl) (by decide : "continue" ≠ "")]
      decide
  · exact held.when
  · exact normal.condition
  · exact normal.kind.validated held.details

theorem validateSteps_held {spelling : Spelling} {raws : List Json}
    (held : List.Forall₂ (fun raw step => ∃ fields, raw = .obj fields ∧ Step.Held fields step) raws steps)
    (normal : NormalSteps spelling seen steps) (index : Nat) : validateSteps spelling seen index raws = .ok steps := by
  induction held generalizing seen index with
  | nil => rfl
  | cons first _ ih =>
    obtain ⟨fields, rfl, own⟩ := first
    have step := validateStep_iff.mpr (normal.1.reads own index)
    rw [validateSteps, step]
    show (validateSteps spelling _ (index + 1) _ >>= _) = _
    rw [ih normal.2 (index + 1)]
    rfl

theorem Step.json_held (step : Step) : ∃ fields, step.json = .obj fields ∧ step.Held fields := by
  refine ⟨_, rfl, ?_⟩
  constructor
  · rfl
  · rfl
  · rfl
  · rfl
  · cases step.when <;> cases step.kind <;> simp [Fields.get_cons, StepKind.fields, Fields.get_eq_none]
  · intro key member
    simp only [List.mem_cons, List.not_mem_nil, or_false] at member
    rcases member with rfl | rfl | rfl | rfl <;> cases step.when <;> simp [Fields.get_cons]

theorem steps_held (steps : List Step) :
    List.Forall₂ (fun raw step => ∃ fields, raw = .obj fields ∧ Step.Held fields step) (steps.map Step.json) steps := by
  induction steps with
  | nil => exact .nil
  | cons step rest ih => exact .cons step.json_held ih

/-! ### Stored steps

A version is stored as text with the keys of every object in order. -/

def StepKind.sorted : StepKind → StepKind
  | .action capabilityId arguments => .action capabilityId (Json.byKey (Json.sortFields arguments))
  | .waitSeconds seconds => .waitSeconds seconds
  | .waitUntil text => .waitUntil text

def Step.sorted (step : Step) : Step :=
  { step with kind := step.kind.sorted, when := step.when.map Json.sortKeys }

theorem StepKind.sorted_fields (kind : StepKind) (key : String) :
    Fields.get kind.sorted.fields key = (Fields.get kind.fields key).map Json.sortKeys := by
  rw [← Fields.get_sortFields]
  cases kind <;> simp only [StepKind.sorted, StepKind.fields, Json.sortFields, Json.sortKeys]

theorem StepKind.sorted_name (kind : StepKind) : kind.sorted.name = kind.name := by
  cases kind <;> rfl

theorem Step.Held.sorted (held : step.Held fields) : step.sorted.Held (Json.byKey (Json.sortFields fields)) := by
  have texts : (Json.arr (step.dependsOn.map .str)).sortKeys = .arr (step.dependsOn.map .str) := by
    rw [Json.sortKeys, Json.sortItems_eq, List.map_map]
    congr 1
  constructor
  · rw [Fields.get_sorted, held.id, Option.map_some, Json.sortKeys]
    rfl
  · rw [Fields.get_sorted, held.kind, Option.map_some, Json.sortKeys, Step.sorted, StepKind.sorted_name]
  · rw [Fields.get_sorted, held.dependsOn, Option.map_some, texts]
    rfl
  · rw [Fields.get_sorted, held.onError, Option.map_some, Json.sortKeys]
    rfl
  · rw [Fields.get_sorted, held.when]
    rfl
  · intro key member
    rw [Fields.get_sorted, held.details key member, Step.sorted, StepKind.sorted_fields]

theorem steps_held_sorted (steps : List Step) :
    List.Forall₂ (fun raw step => ∃ fields, raw = .obj fields ∧ Step.Held fields step)
      (steps.map fun step => step.json.sortKeys) (steps.map Step.sorted) := by
  induction steps with
  | nil => exact .nil
  | cons step rest ih =>
    obtain ⟨fields, shape, held⟩ := step.json_held
    refine .cons ⟨_, ?_, held.sorted⟩ ih
    show step.json.sortKeys = _
    rw [shape, Json.sortKeys]

/-- `str` of a list or a dictionary opens with a bracket. -/
structure Bracketed extends Spelling where
  opens : ∀ value, ∃ first rest, (container value).toList = first :: rest ∧ (first.toNat = 91 ∨ first.toNat = 123)

def Bracketing (text : String) : Prop :=
  ∃ first rest, text.toList = first :: rest ∧ (first.toNat = 91 ∨ first.toNat = 123)

theorem Bracketing.operand {text : String} (bracketing : Bracketing text) :
    strip text ≠ "" ∧ conditionOps.contains (lower (strip text)) = false := by
  obtain ⟨first, rest, shape, bracket⟩ := bracketing
  have solid : isSpace first = false := by
    rcases bracket with square | curly
    · rw [isSpace, square]
      decide
    · rw [isSpace, curly]
      decide
  have stripped : ∃ others, stripChars text.toList = first :: others := by
    rw [shape, stripChars_eq, List.dropWhile_cons_of_neg (by simp [solid])]
    have start : (first :: rest).rdropWhile isSpace <+: first :: rest := List.rdropWhile_prefix ..
    have some : (first :: rest).rdropWhile isSpace ≠ [] := by
      intro none
      have spaces := List.rdropWhile_eq_nil_iff.mp none first (by simp)
      rw [solid] at spaces
      cases spaces
    cases trimmed : (first :: rest).rdropWhile isSpace with
    | nil => exact absurd trimmed some
    | cons head others =>
      rw [trimmed, List.cons_prefix_cons] at start
      exact ⟨others, by rw [start.1]⟩
  obtain ⟨others, stripped⟩ := stripped
  constructor
  · intro blank
    have none := congrArg String.toList blank
    rw [strip, String.toList_ofList, stripped] at none
    cases none
  · have settled : Settled first := settled_ascii (by omega) (by omega)
    have opens : (lower (strip text)).toList.head? = some first := by
      rw [lower, strip, String.toList_ofList, String.toList_ofList, stripped, lowerFrom, if_neg settled.1, settled.2]
      rfl
    have other : ∀ op ∈ conditionOps, op.toList.head?.map Char.toNat ≠ some 91 ∧
        op.toList.head?.map Char.toNat ≠ some 123 := by decide
    by_contra known
    have member : lower (strip text) ∈ conditionOps := by simpa using known
    have apart := other _ member
    rw [opens] at apart
    rcases bracket with square | curly
    · exact apart.1 (congrArg some square)
    · exact apart.2 (congrArg some curly)

theorem truthy_sortKeys (value : Json) : value.sortKeys.truthy = value.truthy := by
  cases value with
  | arr items => cases items <;> simp [Json.sortKeys, Json.sortItems, Json.truthy]
  | obj fields =>
    have lengths : (Json.byKey (Json.sortFields fields)).length = fields.length := Json.length_sorted fields
    cases fields with
    | nil => rfl
    | cons entry rest =>
      cases sorted : Json.byKey (Json.sortFields (entry :: rest)) with
      | nil =>
        rw [sorted] at lengths
        cases lengths
      | cons first others => simp [Json.sortKeys, sorted, Json.truthy]
  | null | bool _ | int _ | float _ | str _ => simp [Json.sortKeys]

theorem operand_sorted (spelling : Bracketed) (fields : Fields) (key default : String) :
    operand spelling.toSpelling (Json.byKey (Json.sortFields fields)) key default =
        operand spelling.toSpelling fields key default ∨
      Bracketing (operand spelling.toSpelling (Json.byKey (Json.sortFields fields)) key default) ∧
        Bracketing (operand spelling.toSpelling fields key default) := by
  unfold operand Fields.getOr
  rw [Fields.get_sorted]
  cases Fields.get fields key with
  | none => exact .inl rfl
  | some value =>
    rw [Option.map_some]
    dsimp only
    rw [truthy_sortKeys]
    split
    · cases value with
      | arr items => exact .inr ⟨spelling.opens _, spelling.opens _⟩
      | obj entries => exact .inr ⟨spelling.opens _, spelling.opens _⟩
      | null | bool _ | int _ | float _ | str _ => exact .inl (by simp [Json.sortKeys])
    · exact .inl rfl

mutual
theorem validateCondition_sorted (spelling : Bracketed) : ∀ condition : Json,
    validateCondition spelling.toSpelling condition = .ok () →
      validateCondition spelling.toSpelling condition.sortKeys = .ok ()
  | .obj fields, valid => by
      have group := validateGroup_sorted spelling fields
      rw [Json.sortKeys]
      have hasAll := Fields.has_sorted fields "all"
      have hasAny := Fields.has_sorted fields "any"
      cases all : Fields.has fields "all" with
      | true =>
        have single : Fields.has fields "any" = false := by
          rw [validateCondition, all, Bool.true_and] at valid
          by_contra both
          rw [Bool.not_eq_false] at both
          rw [both, if_pos rfl] at valid
          cases valid
        rw [validateCondition, hasAll, hasAny, all, single, Bool.and_false, if_neg (by decide), if_pos rfl]
        exact group "all" (validateCondition_group valid (.inl ⟨rfl, all⟩))
      | false =>
        cases any : Fields.has fields "any" with
        | true =>
          rw [validateCondition, hasAll, hasAny, all, any, Bool.false_and, if_neg (by decide), if_neg (by decide),
            if_pos rfl]
          exact group "any" (validateCondition_group valid (.inr ⟨rfl, all, any⟩))
        | false =>
          obtain ⟨referring, known⟩ := (validateLeaf_iff all any).mp valid
          refine (validateLeaf_iff (hasAll.trans all) (hasAny.trans any)).mpr ⟨?_, ?_⟩
          · rcases operand_sorted spelling fields "ref" "" with same | ⟨bracketing, -⟩
            · rw [same]
              exact referring
            · exact bracketing.operand.1
          · rcases operand_sorted spelling fields "op" "truthy" with same | ⟨-, bracketing⟩
            · rw [same]
              exact known
            · rw [bracketing.operand.2] at known
              cases known
  | .null, valid | .bool _, valid | .int _, valid | .float _, valid | .str _, valid | .arr _, valid => by
      simp [validateCondition] at valid
theorem validateGroup_sorted (spelling : Bracketed) : ∀ (fields : Fields) (key : String),
    validateGroup spelling.toSpelling key fields = .ok () →
      validateGroup spelling.toSpelling key (Json.byKey (Json.sortFields fields)) = .ok ()
  | [], _, _ => rfl
  | (name, value) :: rest, key, valid => by
      have tail := validateGroup_sorted spelling rest key
      rw [validateGroup_eq _ key (Json.byKey _), Fields.get_sorted] at tail ⊢
      rw [validateGroup] at valid
      rw [Fields.get_cons]
      by_cases found : name = key
      · rw [if_pos found] at valid ⊢
        exact validateChildren_sorted spelling value key valid
      · rw [if_neg found] at valid ⊢
        exact tail valid
theorem validateChildren_sorted (spelling : Bracketed) : ∀ (children : Json) (key : String),
    validateChildren spelling.toSpelling key children = .ok () →
      validateChildren spelling.toSpelling key children.sortKeys = .ok ()
  | .arr items, key, valid => by
      rw [validateChildren] at valid
      obtain ⟨some, each⟩ := check_eq_ok.mp valid
      rw [Json.sortKeys, validateChildren, Json.sortItems_eq, List.isEmpty_map, if_neg some, ← Json.sortItems_eq]
      exact validateItems_sorted spelling items each
  | .obj _, _, valid | .null, _, valid | .bool _, _, valid | .int _, _, valid | .float _, _, valid
  | .str _, _, valid => by
      simp [validateChildren] at valid
theorem validateItems_sorted (spelling : Bracketed) : ∀ items : List Json,
    validateItems spelling.toSpelling items = .ok () →
      validateItems spelling.toSpelling (Json.sortItems items) = .ok ()
  | [], _ => rfl
  | item :: rest, valid => by
      rw [validateItems] at valid
      obtain ⟨_, first, later⟩ := bind_eq_ok.mp valid
      rw [Json.sortItems, validateItems]
      exact bind_eq_ok.mpr ⟨(), validateCondition_sorted spelling item first, validateItems_sorted spelling rest later⟩
end

theorem StepKind.Normal.sorted (normal : kind.Normal) : kind.sorted.Normal := by
  cases kind with
  | action _ _ => exact normal
  | waitSeconds _ => exact normal
  | waitUntil _ => exact normal

theorem Step.Normal.sorted {spelling : Bracketed} (normal : step.Normal spelling.toSpelling seen) :
    step.sorted.Normal spelling.toSpelling seen := by
  refine ⟨normal.valid, normal.trimmed, normal.fresh, normal.earlier, normal.distinct, ?_, normal.kind.sorted⟩
  intro condition held
  obtain ⟨given, own, rfl⟩ := Option.map_eq_some_iff.mp held
  exact validateCondition_sorted spelling given (normal.condition given own)

theorem NormalSteps.sorted {spelling : Bracketed} (normal : NormalSteps spelling.toSpelling seen steps) :
    NormalSteps spelling.toSpelling seen (steps.map Step.sorted) := by
  induction steps generalizing seen with
  | nil => trivial
  | cons step rest ih => exact ⟨normal.1.sorted, ih normal.2⟩

/-! ### The size of a spec -/

section
variable (spelling : Spelling)
open Json (bytes textBytes fieldBytes)

def textsBytes (texts : List String) : Nat := 2 + (texts.map textBytes).sum + (texts.length - 1)

/-- The bytes that the fields of an action or a wait take, with the commas before them. -/
def kindBytes (raw : Fields) : Nat :=
  if lower (strip (operand spelling raw "kind" "action")) = "action" then
    fieldBytes "capability_id" (textBytes (lower (strip (operand spelling raw "capability_id" "")))) +
      fieldBytes "arguments" (bytes spelling (Fields.getOr raw "arguments" (.obj []))) + 2
  else
    match Fields.get raw "seconds", Fields.get raw "until" with
    | some seconds, _ => fieldBytes "seconds" (bytes spelling (.int (seconds.toInt.toOption.getD 0))) + 1
    | none, some text => fieldBytes "until" (textBytes (strip (text.toStr spelling))) + 1
    | none, none => 0

/-- The bytes of a step once its defaults are written out, its texts trimmed and its other fields left out. -/
def stepBytes (index : Nat) (raw : Fields) : Nat :=
  fieldBytes "id" (textBytes (strip (operand spelling raw "id" s!"step_{index + 1}"))) +
    fieldBytes "kind" (textBytes (lower (strip (operand spelling raw "kind" "action")))) +
    fieldBytes "depends_on" (match Fields.getOr raw "depends_on" (.arr []) with
      | .arr items => textsBytes (items.map (Json.toStr spelling))
      | _ => 0) +
    fieldBytes "on_error" (textBytes (lower (strip (operand spelling raw "on_error" "stop")))) +
    (match Fields.get raw "when" with
      | some condition => fieldBytes "when" (bytes spelling condition) + 1
      | none => 0) +
    kindBytes spelling raw + 5

def stepsBytes : Nat → List Json → Nat
  | _, [] => 0
  | index, .obj raw :: rest => stepBytes spelling index raw + stepsBytes (index + 1) rest
  | index, _ :: rest => stepsBytes (index + 1) rest

def specBytes (value : Json) : Nat :=
  match value with
  | .obj fields =>
      match Fields.get fields "steps" with
      | some (.arr raws) => fieldBytes "steps" (2 + stepsBytes spelling 0 raws + (raws.length - 1)) + 2
      | _ => 0
  | _ => 0

theorem bytes_texts (texts : List String) : bytes spelling (.arr (texts.map .str)) = textsBytes texts := by
  have each : bytes spelling ∘ Json.str = textBytes := by
    funext text
    exact Json.bytes_str spelling text
  rw [Json.bytes_arr, List.map_map, List.length_map, each, textsBytes]

def laterBytes (fields : Fields) : Nat :=
  (fields.map fun entry => fieldBytes entry.1 (bytes spelling entry.2)).sum + fields.length

variable {raw : Fields}

theorem bytes_action (named : lower (strip (operand spelling raw "kind" "action")) = "action")
    (accepted : validateAction spelling stepId raw = .ok kind) :
    kindBytes spelling raw = laterBytes spelling kind.fields := by
  simp only [validateAction, check_eq_ok] at accepted
  obtain ⟨-, -, rest⟩ := accepted
  split at rest
  · next arguments held =>
    cases rest
    rw [kindBytes, if_pos named, held]
    simp [laterBytes, StepKind.fields]
  · cases rest

theorem bytes_wait (named : lower (strip (operand spelling raw "kind" "action")) ≠ "action")
    (accepted : validateWait stepId raw = .ok kind) : kindBytes spelling raw = laterBytes spelling kind.fields := by
  unfold validateWait at accepted
  rw [kindBytes, if_neg named]
  split at accepted
  · next seconds given absent =>
    obtain ⟨number, valid, rfl⟩ := map_eq_ok.mp accepted
    rw [given]
    dsimp only
    rw [(validateSeconds_spec valid).1]
    simp [laterBytes, StepKind.fields, Except.toOption]
  · next text absent given =>
    obtain ⟨-, same⟩ := check_eq_ok.mp accepted
    cases same
    rw [absent, given]
    simp [laterBytes, StepKind.fields, Json.toStr]
  · cases accepted
  · cases accepted

theorem Step.Reads.bytes (reads : step.Reads spelling seen index raw) :
    bytes spelling step.json = stepBytes spelling index raw := by
  have kind : kindBytes spelling raw = laterBytes spelling step.kind.fields := by
    have valid := reads.kind
    by_cases action : step.kind.name = "action"
    · rw [if_pos action] at valid
      exact bytes_action spelling (reads.kindName.trans action) valid
    · rw [if_neg action] at valid
      exact bytes_wait spelling (reads.kindName ▸ action) valid
  obtain ⟨⟨items, listed, texts⟩, -, -⟩ := validateDepends_spec reads.depends
  rw [stepBytes, reads.id, reads.kindName, reads.onError, reads.when, listed, kind]
  dsimp only
  rw [texts, ← bytes_texts spelling, Step.json, Json.bytes_obj, laterBytes]
  cases step.when with
  | none =>
    simp only [List.map_append, List.map_cons, List.map_nil, List.sum_append, List.sum_cons, List.sum_nil,
      List.length_append, List.length_cons, List.length_nil, Json.bytes_str]
    omega
  | some condition =>
    simp only [List.map_append, List.map_cons, List.map_nil, List.sum_append, List.sum_cons, List.sum_nil,
      List.length_append, List.length_cons, List.length_nil, Json.bytes_str]
    omega

theorem bytes_steps {raws : List Json} (accepted : validateSteps spelling seen index raws = .ok steps) :
    ((steps.map Step.json).map (bytes spelling)).sum = stepsBytes spelling index raws ∧ steps.length = raws.length := by
  induction raws generalizing steps seen index with
  | nil =>
    cases accepted
    exact ⟨rfl, rfl⟩
  | cons raw rest ih =>
    simp only [validateSteps, bind_eq_ok] at accepted
    obtain ⟨step, first, others, later, same⟩ := accepted
    obtain ⟨total, lengths⟩ := ih later
    rw [← pure_eq_ok.mp same]
    cases raw with
    | obj fields =>
      have own := (validateStep_iff.mp first).bytes
      exact ⟨by rw [List.map_cons, List.map_cons, List.sum_cons, own, total, stepsBytes],
        by rw [List.length_cons, List.length_cons, lengths]⟩
    | _ => cases first

theorem bytes_specJson {value : Json} (accepted : validateWorkflowSpec spelling value = .ok steps) :
    bytes spelling (specJson steps) = specBytes spelling value := by
  obtain ⟨fields, raws, rfl, held, validated⟩ := validateWorkflowSpec_steps accepted
  obtain ⟨total, lengths⟩ := bytes_steps spelling validated
  rw [specBytes, held, specJson, Json.bytes_obj]
  simp only [List.map_cons, List.map_nil, List.sum_cons, List.sum_nil, List.length_cons, List.length_nil]
  rw [Json.bytes_arr, total, List.length_map, lengths]
  omega

end

/-! ### Validation, once more -/

theorem validate_held {spelling : Spelling} {raws : List Json}
    (held : List.Forall₂ (fun raw step => ∃ fields, raw = .obj fields ∧ Step.Held fields step) raws steps)
    (normal : NormalSteps spelling [] steps) (some : raws ≠ []) (few : raws.length ≤ maxSteps) :
    validateWorkflowSpec spelling (.obj [("steps", .arr raws)]) = .ok steps ↔
      (Json.obj [("steps", .arr raws)]).bytes spelling ≤ maxSpecBytes := by
  have listed : Fields.get [("steps", Json.arr raws)] "steps" = .some (.arr raws) := rfl
  have accepted := validateSteps_held held normal 0
  rw [validateWorkflowSpec, check_eq_ok, listed]
  dsimp only
  rw [check_eq_ok, check_eq_ok, accepted, List.isEmpty_iff]
  constructor
  · intro valid
    have small := valid.1
    show (Json.dumps spelling _).utf8ByteSize ≤ _
    omega
  · intro small
    exact ⟨Nat.not_lt.mpr small, some, Nat.not_lt.mpr few, rfl⟩

theorem validateWorkflowSpec_few {spelling : Spelling} {value : Json}
    (accepted : validateWorkflowSpec spelling value = .ok steps) : steps ≠ [] ∧ steps.length ≤ maxSteps := by
  unfold validateWorkflowSpec at accepted
  split at accepted
  · obtain ⟨-, rest⟩ := check_eq_ok.mp accepted
    split at rest
    · next raws held =>
      simp only [check_eq_ok] at rest
      obtain ⟨some, few, validated⟩ := rest
      have lengths := (bytes_steps spelling validated).2
      refine ⟨?_, by omega⟩
      rintro rfl
      exact some (List.isEmpty_iff.mpr (List.length_eq_zero_iff.mp lengths.symm))
    · cases rest
  · cases accepted

theorem specJson_sorted (steps : List Step) :
    (specJson steps).sortKeys = .obj [("steps", .arr (steps.map fun step => step.json.sortKeys))] := by
  rw [specJson, Json.sortKeys]
  simp only [Json.sortFields, Json.sortKeys, Json.sortItems_eq, List.map_map]
  rfl

/-- Validation accepts what it returned, as it is and as it is stored, exactly when the defaults did not make the
spec too large. -/
theorem revalidated_iff (spelling : Bracketed) {value : Json} {steps : List Step}
    (accepted : validateWorkflowSpec spelling.toSpelling value = .ok steps) :
    (validateWorkflowSpec spelling.toSpelling (specJson steps) = .ok steps ↔
      specBytes spelling.toSpelling value ≤ maxSpecBytes) ∧
    (validateWorkflowSpec spelling.toSpelling (specJson steps).sortKeys = .ok (steps.map Step.sorted) ↔
      specBytes spelling.toSpelling value ≤ maxSpecBytes) := by
  obtain ⟨_, _, -, -, validated⟩ := validateWorkflowSpec_steps accepted
  obtain ⟨some, few⟩ := validateWorkflowSpec_few accepted
  have normal := validateSteps_normal validated
  have size := bytes_specJson spelling.toSpelling accepted
  constructor
  · rw [← size]
    exact validate_held (steps_held steps) normal (by simpa using some) (by simpa using few)
  · have stored := Json.bytes_sortKeys spelling.toSpelling (specJson steps)
    rw [← size, ← stored, specJson_sorted]
    exact validate_held (steps_held_sorted steps) normal.sorted (by simpa using some) (by simpa using few)

def briefStep (text : String) : Fields :=
  [("capability_id", .str "mail.search"), ("arguments", .obj [("query", .str text)])]

def briefSpec (text : String) : Json := .obj [("steps", .arr [.obj (briefStep text)])]

def readStep (text : String) : Step where
  id := "step_1"
  kind := .action "mail.search" [("query", .str text)]
  dependsOn := []
  onError := .stop
  when := none

theorem briefStep_reads (spelling : Spelling) (text : String) :
    (readStep text).Reads spelling [] 0 (briefStep text) := by
  constructor
  · rw [operand_absent rfl]
    exact (by decide : strip "step_1" = "step_1")
  · exact (by decide : isStepId "step_1" = true)
  · simp
  · rfl
  · rw [operand_absent rfl]
    exact (by decide : lower (strip "action") = "action")
  · rw [operand_absent rfl]
    exact (by decide : lower (strip "stop") = "stop")
  · rfl
  · exact fun _ absent => by cases absent
  · have settled : lower (strip "mail.search") = "mail.search" := by decide
    have foreign : startsWith "mail.search" "workflow." = false := by decide
    have action : (readStep text).kind.name = "action" := rfl
    have capability : Fields.get (briefStep text) "capability_id" = some (.str "mail.search") := rfl
    have arguments : Fields.getOr (briefStep text) "arguments" (.obj []) = .obj [("query", .str text)] := rfl
    rw [if_pos action, validateAction, operand_held capability (by decide), settled, foreign, arguments]
    rfl

theorem textBytes_letters (n : Nat) : Json.textBytes (String.ofList (List.replicate n 'a')) = n + 2 := by
  have plain : ∀ n, (List.replicate n 'a').flatMap escapeChar = List.replicate n 'a' := by
    intro n
    induction n with
    | zero => rfl
    | succ n ih =>
      rw [List.replicate_succ, List.flatMap_cons, ih]
      rfl
  have size : ∀ n, (String.ofList (List.replicate n 'a')).utf8ByteSize = n := by
    intro n
    induction n with
    | zero => rfl
    | succ n ih =>
      rw [List.replicate_succ, String.ofList_cons, String.utf8ByteSize_append, String.utf8ByteSize_singleton, ih,
        show Char.utf8Size 'a' = 1 from rfl, Nat.add_comm]
  have quote : ("\"").utf8ByteSize = 1 := by decide
  rw [Json.textBytes, quoted, String.toList_ofList, plain, String.utf8ByteSize_append, String.utf8ByteSize_append, size, quote]
  omega

theorem briefSpec_bytes (spelling : Spelling) (text : String) :
    (briefSpec text).bytes spelling = Json.textBytes text + 66 := by
  have keys : Json.textBytes "steps" = 7 ∧ Json.textBytes "capability_id" = 15 ∧ Json.textBytes "mail.search" = 13 ∧
      Json.textBytes "arguments" = 11 ∧ Json.textBytes "query" = 7 := by decide
  obtain ⟨steps, capability, search, arguments, query⟩ := keys
  simp only [briefSpec, briefStep, Json.bytes_obj, Json.bytes_arr, Json.bytes_str, Json.fieldBytes, List.map_cons,
    List.map_nil, List.sum_cons, List.sum_nil, List.length_cons, List.length_nil, steps, capability, search,
    arguments, query]
  omega

theorem briefSpec_specBytes (spelling : Spelling) (text : String) (small : Json.textBytes text + 66 ≤ maxSpecBytes) :
    validateWorkflowSpec spelling (briefSpec text) = .ok [readStep text] ∧
      (specJson [readStep text]).bytes spelling = Json.textBytes text + 130 := by
  have fits : ¬ maxSpecBytes < ((briefSpec text).dumps spelling).utf8ByteSize := by
    have size : ((briefSpec text).dumps spelling).utf8ByteSize = Json.textBytes text + 66 := briefSpec_bytes spelling text
    omega
  have keys : Json.textBytes "steps" = 7 ∧ Json.textBytes "capability_id" = 15 ∧ Json.textBytes "mail.search" = 13 ∧
      Json.textBytes "arguments" = 11 ∧ Json.textBytes "query" = 7 ∧ Json.textBytes "id" = 4 ∧
      Json.textBytes "step_1" = 8 ∧ Json.textBytes "kind" = 6 ∧ Json.textBytes "action" = 8 ∧
      Json.textBytes "depends_on" = 12 ∧ Json.textBytes "on_error" = 10 ∧ Json.textBytes "stop" = 6 := by decide
  obtain ⟨steps, capability, search, arguments, query, id, step, kind, action, depends, error, stop⟩ := keys
  constructor
  · have accepted : validateSteps spelling [] 0 [.obj (briefStep text)] = .ok [readStep text] := by
      rw [validateSteps, validateStep_iff.mpr (briefStep_reads spelling text)]
      rfl
    rw [← accepted, briefSpec, validateWorkflowSpec, ← briefSpec, if_neg fits]
    rfl
  · simp only [specJson, Step.json, readStep, StepKind.name, StepKind.fields, OnError.value, Json.bytes_obj,
      Json.bytes_arr, Json.bytes_str, Json.fieldBytes, List.map_cons, List.map_nil, List.sum_cons, List.sum_nil,
      List.length_cons, List.length_nil, List.cons_append, List.nil_append, steps,
      capability, search, arguments, query, id, step, kind, action, depends, error, stop]
    omega

def longText : String := String.ofList (List.replicate 511932 'a')

/-- A spec of 512,000 bytes is accepted, and what is stored of it is not. -/
theorem large_spec_refused : (briefSpec longText).bytes unspelled = 512000 ∧
    validateWorkflowSpec unspelled (briefSpec longText) = .ok [readStep longText] ∧
    validateWorkflowSpec unspelled (specJson [readStep longText]) = .error (.spec "Workflow spec is too large") := by
  have letters : Json.textBytes longText = 511934 := textBytes_letters 511932
  have small : Json.textBytes longText + 66 ≤ maxSpecBytes := by
    rw [letters]
    decide
  obtain ⟨accepted, size⟩ := briefSpec_specBytes unspelled longText small
  have large : maxSpecBytes < ((specJson [readStep longText]).dumps unspelled).utf8ByteSize := by
    have known : ((specJson [readStep longText]).dumps unspelled).utf8ByteSize = _ := size
    rw [known, letters]
    decide
  refine ⟨?_, accepted, ?_⟩
  · rw [briefSpec_bytes, letters]
  · rw [specJson, validateWorkflowSpec, ← specJson, if_pos large]

def bracketed : Bracketed where
  float := fun _ => "0.0"
  container := fun _ => "[]"
  opens := fun _ => ⟨'[', [']'], rfl, .inl rfl⟩

theorem revalidated_iff_brief :
    (validateWorkflowSpec bracketed.toSpelling (specJson [readStep "invoice"]) = .ok [readStep "invoice"] ↔
      specBytes bracketed.toSpelling (briefSpec "invoice") ≤ maxSpecBytes) ∧
    (validateWorkflowSpec bracketed.toSpelling (specJson [readStep "invoice"]).sortKeys =
        .ok [(readStep "invoice").sorted] ↔
      specBytes bracketed.toSpelling (briefSpec "invoice") ≤ maxSpecBytes) :=
  revalidated_iff bracketed (briefSpec_specBytes bracketed.toSpelling "invoice" (by decide)).1

end Operly.Workflow
