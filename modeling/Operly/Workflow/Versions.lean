import Operly.Workflow.Occurrences

/-! The versions of workflows: how they are numbered, and what the current one holds. -/

namespace Operly.Workflow
open Python Security Concurrent Relational Fallible

section
variable {base before state after : WorkflowState} {platform : Platform} {context : ExecutionContext}
  {arguments : Fields} {changes : List Write} {requests : List Request}

def lastSpec (requests : List Request) (workflowId : String) : Option Json :=
  ((requests.filter (·.workflowId = workflowId)).filterMap (·.spec)).getLast?

def lastPolicy (requests : List Request) (workflowId : String) : ConcurrencyPolicy :=
  ((requests.filter (·.workflowId = workflowId)).filterMap (·.policy)).getLast?.getD defaultPolicy

theorem lastSpec_append (requests : List Request) (request : Request) (workflowId : String) :
    lastSpec (requests ++ [request]) workflowId = if request.workflowId = workflowId
      then request.spec.or (lastSpec requests workflowId) else lastSpec requests workflowId := by
  unfold lastSpec
  rw [List.filter_append, List.filterMap_append]
  by_cases own : request.workflowId = workflowId
  · cases held : request.spec <;> simp [own, held]
  · simp [own]

theorem lastPolicy_append (requests : List Request) (request : Request) (workflowId : String) :
    lastPolicy (requests ++ [request]) workflowId = if request.workflowId = workflowId
      then request.policy.getD (lastPolicy requests workflowId) else lastPolicy requests workflowId := by
  unfold lastPolicy
  rw [List.filter_append, List.filterMap_append]
  by_cases own : request.workflowId = workflowId
  · cases held : request.policy <;> simp [own, held]
  · simp [own]

theorem last_of_unknown {workflowId : String} (unknown : ∀ request ∈ requests, request.workflowId ≠ workflowId) :
    lastSpec requests workflowId = none ∧ lastPolicy requests workflowId = defaultPolicy := by
  have none : requests.filter (·.workflowId = workflowId) = [] := by
    rw [List.filter_eq_nil_iff]
    intro request member
    simpa using unknown request member
  simp [lastSpec, lastPolicy, none]

/-! ### The invariant -/

def versionsOf (state : WorkflowState) (workflowId : String) : List WorkflowVersion :=
  state.versions.rows.filter (·.workflowId = workflowId)

/-- The current version of a workflow holds what was asked for last. -/
structure Latest (spelling : Spelling) (state : WorkflowState) (requests : List Request)
    (workflow : WorkflowDefinition) (version : WorkflowVersion) : Prop where
  current : state.versionOf workflow.id workflow.currentVersion = some version
  spec : version.specJson = lastSpec requests workflow.id
  sorted : ∃ spec, version.specJson = some spec ∧ spec.sortKeys = spec
  policy : policyFromSnapshot spelling (loads version.snapshotJson) = .ok (lastPolicy requests workflow.id)

structure Versioned (spelling : Spelling) (state : WorkflowState) (requests : List Request) : Prop where
  named : state.definitions.find "" = none
  owned : ∀ version ∈ state.versions.rows, (state.definitions.find version.workflowId).isSome = true
  known : ∀ request ∈ requests, (state.definitions.find request.workflowId).isSome = true
  numbered : ∀ workflow ∈ state.definitions.rows,
    (versionsOf state workflow.id).map (·.version) = List.range' 1 workflow.currentVersion
  latest : ∀ workflow ∈ state.definitions.rows, ∃ version, Latest spelling state requests workflow version

/-- The versions are the same, and so are the workflows as far as they count them. -/
structure SameVersions (before after : WorkflowState) : Prop where
  versions : after.versions = before.versions
  definitions : after.definitions.rows.map (fun row => (row.id, row.currentVersion)) =
    before.definitions.rows.map fun row => (row.id, row.currentVersion)

theorem SameVersions.refl (state : WorkflowState) : SameVersions state state := ⟨rfl, rfl⟩

theorem SameVersions.trans {first second third : WorkflowState} (early : SameVersions first second)
    (late : SameVersions second third) : SameVersions first third :=
  ⟨late.versions.trans early.versions, late.definitions.trans early.definitions⟩

theorem SameVersions.row {workflow : WorkflowDefinition} (same : SameVersions before after)
    (member : workflow ∈ after.definitions.rows) : ∃ old ∈ before.definitions.rows,
      old.id = workflow.id ∧ old.currentVersion = workflow.currentVersion := by
  have listed : (workflow.id, workflow.currentVersion) ∈
      before.definitions.rows.map fun row => (row.id, row.currentVersion) := by
    rw [← same.definitions]
    exact List.mem_map_of_mem member
  obtain ⟨old, known, equal⟩ := List.mem_map.mp listed
  obtain ⟨id, version⟩ := Prod.mk.inj equal
  exact ⟨old, known, id, version⟩

theorem SameVersions.symm (same : SameVersions before after) : SameVersions after before :=
  ⟨same.versions.symm, same.definitions.symm⟩

theorem SameVersions.find (same : SameVersions before after) (id : String) :
    (after.definitions.find id).isSome = (before.definitions.find id).isSome := by
  have lasts : ∀ {first second : WorkflowState}, SameVersions first second →
      (first.definitions.find id).isSome = true → (second.definitions.find id).isSome = true := by
    intro first second same held
    obtain ⟨row, found⟩ := Option.isSome_iff_exists.mp held
    obtain ⟨later, member, id', -⟩ := same.symm.row (Table.find_mem found)
    have found' := Table.find_of_mem member
    rw [show later.id = id from id'.trans (Table.find_key found)] at found'
    rw [found']
    rfl
  rw [Bool.eq_iff_iff]
  exact ⟨lasts same.symm, lasts same⟩

variable {spelling : Spelling} {version : WorkflowVersion} {settings : SchedulerSettings} {value current : Json}
  {edit : Edit}

theorem Versioned.steady (versioned : Versioned spelling before requests) (same : SameVersions before after) :
    Versioned spelling after requests where
  named := by
    have empty := same.find ""
    rw [versioned.named] at empty
    simpa using empty
  owned version member := by
    rw [same.find]
    exact versioned.owned version (same.versions ▸ member)
  known request member := by
    rw [same.find]
    exact versioned.known request member
  numbered workflow member := by
    obtain ⟨old, known, id, version⟩ := same.row member
    rw [versionsOf, same.versions, ← id, ← version]
    exact versioned.numbered old known
  latest workflow member := by
    obtain ⟨old, known, id, version⟩ := same.row member
    obtain ⟨latest, current, spec, sorted, policy⟩ := versioned.latest old known
    refine ⟨latest, ?_, id ▸ spec, sorted, id ▸ policy⟩
    rw [WorkflowState.versionOf, same.versions, ← id, ← version]
    exact current

variable {request : Request}

theorem Versioned.append (versioned : Versioned spelling before requests) {row now : WorkflowDefinition}
    (found : before.definitions.find row.id = some row) (own : now.id = row.id)
    (counted : now.currentVersion = row.currentVersion + 1)
    (definitions : after.definitions = before.definitions.replace now)
    (versions : after.versions.rows = before.versions.rows ++ [version]) (owner : version.workflowId = row.id)
    (number : version.version = row.currentVersion + 1)
    (absent : before.versionOf row.id (row.currentVersion + 1) = none) (asked : request.workflowId = row.id)
    (spec : version.specJson = lastSpec (requests ++ [request]) row.id)
    (sorted : ∃ spec, version.specJson = some spec ∧ spec.sortKeys = spec)
    (policy : policyFromSnapshot spelling (loads version.snapshotJson) =
      .ok (lastPolicy (requests ++ [request]) row.id)) : Versioned spelling after (requests ++ [request]) := by
  have still : ∀ id, (before.definitions.find id).isSome = true → (after.definitions.find id).isSome = true := by
    intro id held
    rw [definitions, Table.find_replace]
    split
    · simpa using held
    · exact held
  have rowFound : (before.definitions.find row.id).isSome = true := by simp [found]
  constructor
  · rw [definitions, Table.find_replace, if_neg]
    · exact versioned.named
    · rintro empty
      rw [← own, ← empty, versioned.named] at found
      cases found
  · intro other member
    rw [versions, List.mem_append, List.mem_singleton] at member
    rcases member with old | rfl
    · exact still _ (versioned.owned other old)
    · exact owner ▸ still _ rowFound
  · intro other member
    rw [List.mem_append, List.mem_singleton] at member
    rcases member with old | rfl
    · exact still _ (versioned.known other old)
    · exact asked ▸ still _ rowFound
  · intro workflow member
    rw [versionsOf, versions, List.filter_append, List.map_append]
    rw [definitions] at member
    rcases Table.mem_replace.mp member with ⟨old, apart⟩ | ⟨rfl, -⟩
    · have elsewhere : version.workflowId ≠ workflow.id := by
        rw [owner, ← own]
        exact fun same => apart same.symm
      rw [List.filter_cons_of_neg (by simpa using elsewhere)]
      simpa [versionsOf] using versioned.numbered workflow old
    · have numbered := versioned.numbered row (Table.find_mem found)
      rw [own, List.filter_cons_of_pos (by simpa using owner), counted]
      rw [versionsOf] at numbered
      rw [numbered, List.filter_nil, List.map_singleton, number, List.range'_1_concat]
      rw [Nat.add_comm row.currentVersion 1]
  · intro workflow member
    rw [definitions] at member
    rcases Table.mem_replace.mp member with ⟨old, apart⟩ | ⟨rfl, -⟩
    · obtain ⟨latest, current, spec', sorted', policy'⟩ := versioned.latest workflow old
      have other : request.workflowId ≠ workflow.id := by
        rw [asked, ← own]
        exact fun same => apart same.symm
      refine ⟨latest, ?_, ?_, sorted', ?_⟩
      · rw [WorkflowState.versionOf, versions, List.find?_append]
        rw [WorkflowState.versionOf] at current
        rw [current, Option.some_or]
      · rw [lastSpec_append, if_neg other, spec']
      · rw [lastPolicy_append, if_neg other, policy']
    · refine ⟨version, ?_, own ▸ spec, sorted, own ▸ policy⟩
      rw [WorkflowState.versionOf, versions, List.find?_append, own, counted]
      rw [WorkflowState.versionOf] at absent
      rw [absent, Option.none_or]
      simp [owner, number]

theorem Versioned.create (versioned : Versioned spelling before requests) {row : WorkflowDefinition}
    (free : before.definitions.find row.id = none) (named : row.id ≠ "") (first : row.currentVersion = 1)
    (definitions : after.definitions = before.definitions.insert row)
    (versions : after.versions.rows = before.versions.rows ++ [version]) (owner : version.workflowId = row.id)
    (number : version.version = 1) (asked : request.workflowId = row.id) (spec : version.specJson = request.spec)
    (sorted : ∃ spec, version.specJson = some spec ∧ spec.sortKeys = spec)
    (policy : policyFromSnapshot spelling (loads version.snapshotJson) =
      .ok (request.policy.getD defaultPolicy)) : Versioned spelling after (requests ++ [request]) := by
  have still : ∀ id, (before.definitions.find id).isSome = true → (after.definitions.find id).isSome = true := by
    intro id held
    rw [definitions, Table.find_insert]
    simp [held]
  have rowFound : (after.definitions.find row.id).isSome = true := by
    rw [definitions, Table.find_insert, free]
    simp
  have unknown : ∀ other ∈ requests, other.workflowId ≠ row.id := by
    intro other member same
    have held := versioned.known other member
    rw [same, free] at held
    cases held
  have unowned : ∀ other ∈ before.versions.rows, other.workflowId ≠ row.id := by
    intro other member same
    have held := versioned.owned other member
    rw [same, free] at held
    cases held
  have rows := Table.insert_rows free
  constructor
  · rw [definitions, Table.find_insert, versioned.named, Option.none_or, if_neg named.symm]
  · intro other member
    rw [versions, List.mem_append, List.mem_singleton] at member
    rcases member with old | rfl
    · exact still _ (versioned.owned other old)
    · exact owner ▸ rowFound
  · intro other member
    rw [List.mem_append, List.mem_singleton] at member
    rcases member with old | rfl
    · exact still _ (versioned.known other old)
    · exact asked ▸ rowFound
  · intro workflow member
    rw [versionsOf, versions, List.filter_append, List.map_append]
    rw [definitions, rows, List.mem_append, List.mem_singleton] at member
    rcases member with old | rfl
    · have elsewhere : version.workflowId ≠ workflow.id := by
        intro same
        rw [← owner, same, Table.find_of_mem old] at free
        cases free
      rw [List.filter_cons_of_neg (by simpa using elsewhere)]
      simpa [versionsOf] using versioned.numbered workflow old
    · have none : before.versions.rows.filter (·.workflowId = workflow.id) = [] := by
        rw [List.filter_eq_nil_iff]
        intro other among
        simpa using unowned other among
      rw [none, List.filter_cons_of_pos (by simpa using owner), first]
      simp [number]
  · intro workflow member
    rw [definitions, rows, List.mem_append, List.mem_singleton] at member
    rcases member with old | rfl
    · obtain ⟨latest, current, spec', sorted', policy'⟩ := versioned.latest workflow old
      have other : request.workflowId ≠ workflow.id := by
        intro same
        rw [← asked, same, Table.find_of_mem old] at free
        cases free
      refine ⟨latest, ?_, ?_, sorted', ?_⟩
      · rw [WorkflowState.versionOf, versions, List.find?_append]
        rw [WorkflowState.versionOf] at current
        rw [current, Option.some_or]
      · rw [lastSpec_append, if_neg other, spec']
      · rw [lastPolicy_append, if_neg other, policy']
    · obtain ⟨noSpec, noPolicy⟩ := last_of_unknown unknown
      refine ⟨version, ?_, ?_, sorted, ?_⟩
      · have absent : before.versions.rows.find? (fun other => other.workflowId = workflow.id ∧
            other.version = workflow.currentVersion) = none := by
          rw [List.find?_eq_none]
          intro other among
          simp [unowned other among]
        rw [WorkflowState.versionOf, versions, List.find?_append]
        simp only [Bool.decide_and] at absent
        rw [absent, Option.none_or]
        simp [owner, number, first]
      · rw [lastSpec_append, if_pos asked, noSpec, Option.or_none, spec]
      · rw [lastPolicy_append, if_pos asked, noPolicy, policy]

theorem Versioned.redundant (versioned : Versioned spelling state requests)
    (found : (state.definitions.find request.workflowId).isSome = true)
    (spec : lastSpec (requests ++ [request]) request.workflowId = lastSpec requests request.workflowId)
    (policy : lastPolicy (requests ++ [request]) request.workflowId = lastPolicy requests request.workflowId) :
    Versioned spelling state (requests ++ [request]) where
  named := versioned.named
  owned := versioned.owned
  known other member := by
    rw [List.mem_append, List.mem_singleton] at member
    rcases member with old | rfl
    · exact versioned.known other old
    · exact found
  numbered := versioned.numbered
  latest workflow member := by
    obtain ⟨latest, current, spec', sorted, policy'⟩ := versioned.latest workflow member
    by_cases own : request.workflowId = workflow.id
    · rw [own] at spec policy
      exact ⟨latest, current, spec'.trans spec.symm, sorted, policy ▸ policy'⟩
    · refine ⟨latest, current, ?_, sorted, ?_⟩
      · rw [lastSpec_append, if_neg own, spec']
      · rw [lastPolicy_append, if_neg own, policy']

/-! ### Writes that make no version -/

def Unversioned : Write → Prop
  | .newDefinition _ | .newVersion _ | .version _ _ => False
  | .definition loaded now => now.currentVersion = loaded.currentVersion
  | _ => True

theorem Beside.unversioned {change : Write} (beside : Beside change) : Unversioned change := by
  cases change with
  | newDefinition | definition | newVersion | version => exact beside.elim
  | _ => trivial

theorem write_unversioned {change : Write} (unversioned : Unversioned change)
    (written : state.write change = some after) : SameVersions state after := by
  cases shown : change.ofVersions with
  | false =>
    obtain ⟨definitions, versions⟩ := write_besideVersions shown written
    exact ⟨versions, by rw [definitions]⟩
  | true =>
    cases change with
    | definition loaded now =>
      obtain ⟨current, found, rfl⟩ := write_map written
      have held : state.definitions.find (WorkflowDefinition.patch loaded now current).id = some current :=
        (congrArg state.definitions.find (Table.find_key found)).trans found
      refine ⟨rfl, Table.map_replace held ?_⟩
      have same : now.currentVersion = loaded.currentVersion := unversioned
      simp [WorkflowDefinition.patch, same]
    | newDefinition | newVersion | version => exact unversioned.elim
    | _ => cases shown

theorem writeAll_unversioned (unversioned : ∀ change ∈ changes, Unversioned change)
    (written : state.writeAll changes = some after) : SameVersions state after := by
  induction changes generalizing state with
  | nil =>
    cases written
    exact .refl _
  | cons change rest ih =>
    rw [WorkflowState.writeAll, List.foldlM_cons, Option.bind_eq_bind, Option.bind_eq_some_iff] at written
    obtain ⟨middle, first, later⟩ := written
    exact (write_unversioned (unversioned change (by simp)) first).trans
      (ih (fun other member => unversioned other (by simp [member])) later)

theorem SameVersions.reads (reads : Reads before after) : SameVersions before after :=
  ⟨reads.versions, by rw [reads.definitions]⟩

theorem definitionChange_unversioned (row : WorkflowDefinition) (status : DefinitionStatus) :
    ∀ change ∈ definitionChange row { row with status }, Unversioned change := by
  unfold definitionChange
  split
  · simp
  · simp [Unversioned]

theorem scheduleChange_unversioned (schedule now : WorkflowSchedule) :
    ∀ change ∈ scheduleChange schedule now, Unversioned change := by
  unfold scheduleChange
  split
  · simp
  · simp [Unversioned]

variable {schedule : Option WorkflowSchedule}

theorem statusChanges_unversioned {row : WorkflowDefinition} {status : DefinitionStatus}
    {moved : WorkflowSchedule → WorkflowSchedule} {event : KernelEventRecord} :
    ∀ change ∈ statusChanges row status schedule moved event, Unversioned change := by
  intro change member
  rcases List.mem_append.mp member with early | late
  · rcases List.mem_append.mp early with ofDefinition | ofSchedule
    · exact definitionChange_unversioned _ _ change ofDefinition
    · obtain ⟨schedule, -, among⟩ := List.mem_flatMap.mp ofSchedule
      exact scheduleChange_unversioned _ _ change among
  · rw [List.mem_singleton.mp late]
    trivial

theorem Occurrence.unversioned {schedule : WorkflowSchedule} {scheduledFor : Int} {queued : List Write}
    (occurs : Occurrence base schedule scheduledFor queued) : ∀ change ∈ queued, Unversioned change := by
  rcases occurs with rfl | ⟨run, event, rfl, -⟩
  · simp
  · simp [Unversioned]

theorem Fires.unversioned {schedule : WorkflowSchedule} (fires : Fires base schedule changes) :
    ∀ change ∈ changes, Unversioned change := by
  have occurred : ∀ {now : WorkflowSchedule} {scheduledFor : Int} {queued : List Write} {event : KernelEventRecord},
      Occurrence base schedule scheduledFor queued →
      ∀ change ∈ scheduleChange schedule now ++ queued ++ [.newEvent event], Unversioned change := by
    intro now scheduledFor queued event occurs change member
    rcases List.mem_append.mp member with early | late
    · rcases List.mem_append.mp early with ofSchedule | ofRun
      · exact scheduleChange_unversioned _ _ change ofSchedule
      · exact occurs.unversioned change ofRun
    · rw [List.mem_singleton.mp late]
      trivial
  cases fires with
  | stopped => exact scheduleChange_unversioned _ _
  | fired next event found enabled due occurs => exact occurred occurs
  | exhausted event last found enabled due occurs =>
    intro change member
    rcases List.mem_append.mp member with early | late
    · rcases List.mem_append.mp early with ofDefinition | others
      · exact definitionChange_unversioned _ _ change ofDefinition
      · exact occurred occurs change others
    · rw [List.mem_singleton.mp late]
      trivial

theorem Groups.unversioned {rows : List WorkflowSchedule} (groups : Groups (Fires base) rows changes) :
    ∀ change ∈ changes, Unversioned change := by
  induction rows generalizing changes with
  | nil =>
    obtain rfl : changes = [] := groups
    simp
  | cons row rest ih =>
    obtain ⟨first, others, rfl, fires, later⟩ := groups
    intro change member
    rcases List.mem_append.mp member with early | late
    · exact fires.unversioned change early
    · exact ih later change late

variable {pid : Nat} {ok : Op → Choice → WorkflowState → Prop}

theorem SameVersions.stable (before : WorkflowState) : Stable (SameVersions before) where
  reads same reads := same.trans (.reads reads)
  beside same aside written :=
    same.trans (writeAll_unversioned (fun change member => (aside change member).unversioned) written)

theorem enqueueDueSchedules_unversioned (same : SameVersions before state) :
    Keeps pid ok (SameVersions before) (enqueueDueSchedules platform) state := by
  apply clock_keeps (SameVersions.stable before) same
  intro base same' _
  have learns : Learns base (do
      let due ← query (.dueForUpdate base.clock 25)
      let changes ← forEach (enqueueSchedule platform) due
      return ((), changes)) fun outcome => ∀ change ∈ outcome.2, Unversioned change := by
    apply Learns.ask (by rfl)
    intro rows _
    apply Informed.bind (forEach_learns fun row _ => enqueueSchedule_learns row)
    exact fun changes groups => Informed.pure groups.unversioned
  apply sessionScope_ensures learns (.refl base)
  · exact fun after since => same'.trans (.reads since)
  · intro value current after unversioned since written
    exact (same'.trans (.reads since)).trans
      ((writeAll_unversioned unversioned written).trans (.reads (.release after pid)))
  · exact fun error after since => same'.trans (.reads since)

theorem tick_unversioned (active : Nat) : Keeps pid ok (SameVersions before) (tick settings active) before := by
  have stable := SameVersions.stable before
  apply Ensures.bind (releaseDecided_keeps stable (.refl before))
  intro _ state same
  apply Ensures.bind (markOrphanedRuns_keeps stable same)
  intro _ state same
  apply Ensures.bind (enqueueDueSchedules_unversioned same)
  intro _ state same
  apply Ensures.ite
  · exact fun _ => Ensures.pure same
  · exact fun _ => claimRuns_keeps stable same _

/-! ### Creating and updating -/

variable {requested : Option ConcurrencyPolicy}

theorem acceptedPolicy_eq (wanted : requestedPolicy platform arguments = .ok requested) :
    acceptedPolicy platform arguments = requested := by
  rw [acceptedPolicy, wanted]
  cases requested <;> rfl

theorem requestedPolicy_normal {default : ConcurrencyPolicy}
    (wanted : requestedPolicy platform arguments = .ok requested) (normal : default.Normal) :
    (requested.getD default).Normal := by
  unfold requestedPolicy at wanted
  split at wanted
  · obtain ⟨policy, accepted, rfl⟩ := map_eq_ok.mp wanted
    exact normalizePolicy_normal accepted
  · cases wanted
    exact normal

theorem acceptedSpec_eq {steps : List Step} (given : Fields.get arguments "spec" = some value)
    (accepted : validateWorkflowSpec platform.spelling value = .ok steps) :
    acceptedSpec platform arguments = some (specJson steps).sortKeys := by
  have present : supplied arguments "spec" = some value := by
    unfold supplied
    rw [given]
    cases value with
    | null => cases accepted
    | _ => rfl
  rw [acceptedSpec, present, Option.bind_some, accepted]
  rfl

theorem creationOf_spec {creation : Creation}
    (accepted : creationOf platform (withoutPolicy arguments) = .ok creation) :
    acceptedSpec platform arguments = some (specJson creation.steps).sortKeys := by
  unfold creationOf at accepted
  simp only [throw_bind, check_eq_ok, bind_eq_ok] at accepted
  obtain ⟨name, -, -, spec, given, steps, valid, schedule, -, same⟩ := accepted
  rw [← pure_eq_ok.mp same]
  unfold required at given
  split at given
  · next value held =>
    obtain rfl := Except.ok.inj given
    rw [get_withoutPolicy arguments (by decide)] at held
    exact acceptedSpec_eq held valid
  · cases given

theorem WorkflowVersion.patch_storePolicy (version : WorkflowVersion) (policy : ConcurrencyPolicy) :
    WorkflowVersion.patch version (version.storePolicy policy) version = version.storePolicy policy := by
  simp [WorkflowVersion.patch, WorkflowVersion.storePolicy]

theorem storePolicy_read {policy : ConcurrencyPolicy} (spelling : Spelling) (normal : policy.Normal) :
    policyFromSnapshot spelling (loads (version.storePolicy policy).snapshotJson) = .ok policy :=
  policyFromSnapshot_withPolicy spelling _ normal

theorem Creates.versioned {outcome : CallResult × List Write}
    (versioned : Versioned platform.spelling base requests) (creates : Creates platform context arguments outcome)
    (written : base.writeAll outcome.2 = some after) :
    Versioned platform.spelling after (requests ++ [⟨outcome.1.resourceId, acceptedSpec platform arguments,
      acceptedPolicy platform arguments⟩]) ∧ ∀ version ∈ base.versions.rows, version ∈ after.versions.rows := by
  obtain ⟨row, version, schedule, requested, event, noted, ⟨created⟩, wanted, resource, events, shape⟩ := creates
  obtain ⟨creation, accepted, named, definition, first, nextRun, timed, scheduled⟩ := created
  have counted : row.currentVersion = 1 := by
    rw [definition]
    rfl
  have owner : version.workflowId = row.id := by
    rw [first]
    rfl
  have number : version.version = 1 := by
    rw [first]
    exact counted
  have stored : version.specJson = some (specJson creation.steps).sortKeys := by
    rw [first]
    rfl
  obtain ⟨shown, written', definitions, versions⟩ := writeAll_ofVersions written
  have listed : outcome.2.filter Write.ofVersions = [.newDefinition row, .newVersion version,
      .version version (version.storePolicy (requested.getD defaultPolicy))] := by
    rw [shape]
    simp only [List.filter_append, events.filter Write.ofVersions fun _ => rfl]
    cases schedule <;> rfl
  rw [listed] at written'
  simp only [WorkflowState.writeAll, List.foldlM_cons, List.foldlM_nil, Option.bind_eq_bind,
    Option.bind_eq_some_iff, Option.pure_def, Option.some.injEq] at written'
  obtain ⟨_, one, _, two, _, three, rfl⟩ := written'
  obtain ⟨free, rfl⟩ := write_insert one
  obtain ⟨free', rfl⟩ := write_insert two
  obtain ⟨current, found, rfl⟩ := write_map three
  rw [Option.isSome_eq_false_iff, Option.isNone_iff_eq_none] at free
  rw [Bool.or_eq_false_iff, Option.isSome_eq_false_iff, Option.isNone_iff_eq_none] at free'
  have same : current = version := by
    simp only [Table.find_insert, free'.1, Option.none_or, if_true, Option.some.injEq] at found
    exact found.symm
  subst same
  have rows : after.versions.rows = base.versions.rows ++ [current.storePolicy (requested.getD defaultPolicy)] := by
    rw [versions, WorkflowVersion.patch_storePolicy]
    exact Table.insert_replace_rows free'.1 rfl
  have normal := requestedPolicy_normal wanted defaultPolicy_normal
  constructor
  · apply versioned.create free named counted definitions rows owner number resource
    · exact stored.trans (creationOf_spec accepted).symm
    · exact ⟨_, stored, Json.sortKeys_sortKeys _⟩
    · rw [acceptedPolicy_eq wanted]
      exact storePolicy_read _ normal
  · intro version member
    rw [rows]
    exact List.mem_append_left _ member

/-- A spec that Python holds equal to the current one is that spec: they do not differ by a `True`
for a `1`, or by a `1.0` for a `1`. -/
def DistinctSpec (platform : Platform) (arguments : Fields) (current : Json) : Prop :=
  ∀ value steps, supplied arguments "spec" = some value →
    validateWorkflowSpec platform.spelling value = .ok steps → Json.same (specJson steps) current = true →
    (specJson steps).sortKeys = current

theorem supplied_withoutPolicy {key : String} (other : key ≠ "concurrency") :
    supplied (withoutPolicy arguments) key = supplied arguments key := by
  rw [supplied, get_withoutPolicy arguments other, supplied]

theorem editSpec_accepted {next : Json × List String}
    (edited : editSpec platform (withoutPolicy arguments) current = .ok next)
    (distinct : DistinctSpec platform arguments current) (sorted : current.sortKeys = current) :
    next.1.sortKeys = (acceptedSpec platform arguments).getD current ∧ (next.2 = [] → next.1 = current) := by
  unfold editSpec at edited
  rw [supplied_withoutPolicy (by decide)] at edited
  cases given : supplied arguments "spec" with
  | none =>
    rw [given] at edited
    rw [← pure_eq_ok.mp edited, acceptedSpec, given]
    exact ⟨sorted, fun _ => rfl⟩
  | some value =>
    rw [given] at edited
    obtain ⟨steps, valid, same⟩ := bind_eq_ok.mp edited
    have accepted : acceptedSpec platform arguments = some (specJson steps).sortKeys := by
      rw [acceptedSpec, given, Option.bind_some, valid]
      rfl
    rw [accepted, Option.getD_some, ← pure_eq_ok.mp same]
    split
    · next equal =>
      have identical := distinct value steps given valid equal
      exact ⟨sorted.trans identical.symm, fun _ => rfl⟩
    · exact ⟨rfl, fun none => by cases none⟩

theorem editOf_spec {row : WorkflowDefinition}
    (accepted : editOf platform (withoutPolicy arguments) row version schedule = .ok edit)
    (distinct : DistinctSpec platform arguments (loads version.specJson))
    (sorted : (loads version.specJson).sortKeys = loads version.specJson) :
    edit.spec.sortKeys = (acceptedSpec platform arguments).getD (loads version.specJson) ∧
      (edit.changed = [] → edit.spec = loads version.specJson) := by
  unfold editOf at accepted
  simp only [bind_eq_ok] at accepted
  obtain ⟨named, -, specified, edited, next, -, same⟩ := accepted
  obtain ⟨spec, unchanged⟩ := editSpec_accepted edited distinct sorted
  rw [← pure_eq_ok.mp same]
  refine ⟨spec, fun none => unchanged ?_⟩
  simp only [List.append_eq_nil_iff] at none
  exact none.1.2

theorem Replaced.ofVersions {row : WorkflowDefinition} {replaced : Option (Option Fields)} {next : Option Int}
    (shape : Replaced platform row schedule replaced next changes) : changes.filter Write.ofVersions = [] := by
  unfold Replaced at shape
  split at shape
  · subst shape; rfl
  · subst shape; rfl
  · subst shape; rfl
  · obtain ⟨id, rfl⟩ := shape
    rfl
  · subst shape
    unfold scheduleChange
    split <;> rfl

theorem Updates.versioned {row : WorkflowDefinition} {previous : ConcurrencyPolicy}
    (versioned : Versioned platform.spelling base requests)
    (updating : Updating platform base arguments row version edit requested previous)
    (distinct : DistinctSpec platform arguments (loads version.specJson))
    (updates : Updates platform base context arguments row version edit (requested.getD previous) previous changes)
    (written : base.writeAll changes = some after) :
    Versioned platform.spelling after (requests ++ [⟨row.id, acceptedSpec platform arguments,
      acceptedPolicy platform arguments⟩]) ∧ ∀ version ∈ base.versions.rows, version ∈ after.versions.rows := by
  have found := updating.edited.found
  obtain ⟨latest, current, spec, ⟨held, stored, sorted⟩, policed⟩ := versioned.latest row (Table.find_mem found)
  obtain rfl : latest = version := Option.some.inj (current.symm.trans updating.edited.latest)
  have loaded : loads latest.specJson = held := by
    rw [stored]
    rfl
  obtain ⟨edited, unedited⟩ := editOf_spec updating.edited.edited distinct (by rw [loaded, sorted])
  rw [loaded] at edited unedited
  rw [stored] at spec
  have policy := acceptedPolicy_eq updating.requested
  have earlier : lastPolicy requests row.id = previous := by
    rw [updating.previous] at policed
    exact (Except.ok.inj policed).symm
  have normal := requestedPolicy_normal updating.requested (policyFromSnapshot_normal updating.previous)
  -- what the versions should hold after the call
  have nextSpec : lastSpec (requests ++ [⟨row.id, acceptedSpec platform arguments,
      acceptedPolicy platform arguments⟩]) row.id = some edit.spec.sortKeys := by
    rw [lastSpec_append, if_pos rfl, ← spec, edited]
    cases acceptedSpec platform arguments <;> rfl
  have nextPolicy : lastPolicy (requests ++ [⟨row.id, acceptedSpec platform arguments,
      acceptedPolicy platform arguments⟩]) row.id = requested.getD previous := by
    rw [lastPolicy_append, if_pos rfl, earlier]
    rw [policy]
  obtain ⟨shown, written', definitions, versions⟩ := writeAll_ofVersions written
  cases updates with
  | same unchanged kept =>
    cases written
    refine ⟨versioned.redundant (by simp [found]) ?_ ?_, fun _ member => member⟩
    · rw [nextSpec, ← spec, unedited unchanged, sorted]
    · rw [nextPolicy, earlier, kept]
  | policyOnly unchanged differs id noted events =>
    rw [List.filter_append, events.filter Write.ofVersions fun _ => rfl, List.append_nil] at written'
    simp only [List.filter_cons, Write.ofVersions, if_true, List.filter_nil, WorkflowState.writeAll,
      List.foldlM_cons, List.foldlM_nil, Option.bind_eq_bind, Option.bind_eq_some_iff, Option.pure_def,
      Option.some.injEq] at written'
    obtain ⟨_, one, _, two, rfl⟩ := written'
    obtain ⟨old, found', rfl⟩ := write_map one
    obtain ⟨free, rfl⟩ := write_insert two
    rw [found, Option.some.injEq] at found'
    subst found'
    rw [Bool.or_eq_false_iff, Option.isSome_eq_false_iff, Option.isNone_iff_eq_none,
      Option.isSome_eq_false_iff, Option.isNone_iff_eq_none] at free
    have rows : after.versions.rows =
        base.versions.rows ++ [latest.withNewPolicy row id (requested.getD previous) context] := by
      rw [versions]
      exact Table.insert_rows free.1
    constructor
    · apply versioned.append found _ _ definitions rows rfl rfl free.2 rfl
      · rw [nextSpec, unedited unchanged, sorted]
        exact stored
      · exact ⟨held, stored, sorted⟩
      · rw [nextPolicy]
        exact policyFromSnapshot_withPolicy _ _ normal
      · rfl
      · simp [WorkflowDefinition.patch, WorkflowDefinition.bumped]
    · intro version member
      rw [rows]
      exact List.mem_append_left _ member
  | revised changes nextRun scheduled id event noted timed replaced events =>
    simp only [List.filter_append, events.filter Write.ofVersions fun _ => rfl, replaced.ofVersions, List.filter_cons,
      Write.ofVersions, if_true, Bool.false_eq_true, if_false, List.filter_nil, List.nil_append,
      List.append_nil, List.cons_append, WorkflowState.writeAll, List.foldlM_cons, List.foldlM_nil,
      Option.bind_eq_bind, Option.bind_eq_some_iff, Option.pure_def, Option.some.injEq] at written'
    obtain ⟨_, one, _, two, _, three, rfl⟩ := written'
    obtain ⟨old, found', rfl⟩ := write_map one
    obtain ⟨free, rfl⟩ := write_insert two
    obtain ⟨inserted, again, rfl⟩ := write_map three
    rw [found, Option.some.injEq] at found'
    subst found'
    rw [Bool.or_eq_false_iff, Option.isSome_eq_false_iff, Option.isNone_iff_eq_none,
      Option.isSome_eq_false_iff, Option.isNone_iff_eq_none] at free
    have same : inserted = edit.version row id context := by
      simp only [Table.find_insert, free.1, Option.none_or, if_true, Option.some.injEq] at again
      exact again.symm
    subst same
    have rows : after.versions.rows = base.versions.rows ++
        [(edit.version row id context).storePolicy (requested.getD previous)] := by
      rw [versions, WorkflowVersion.patch_storePolicy]
      exact Table.insert_replace_rows free.1 rfl
    constructor
    · apply versioned.append found _ _ definitions rows rfl rfl free.2 rfl
      · rw [nextSpec]
        rfl
      · exact ⟨_, rfl, Json.sortKeys_sortKeys _⟩
      · rw [nextPolicy]
        exact storePolicy_read _ normal
      · rfl
      · simp [WorkflowDefinition.patch, Edit.row]
    · intro version member
      rw [rows]
      exact List.mem_append_left _ member

/-! ### Calls that change nothing -/

def storedSchedule : Option WorkflowSchedule → Json
  | some schedule => loads schedule.scheduleJson
  | none => .null

structure Repeats (platform : Platform) (arguments : Fields) (row : WorkflowDefinition)
    (version : WorkflowVersion) (schedule : Option WorkflowSchedule) : Prop where
  name : ∀ value, supplied arguments "name" = some value → strip (value.toStr platform.spelling) = row.name
  description : ∀ value, supplied arguments "description" = some value →
    value.toStr platform.spelling = row.description
  spec : ∀ spec, acceptedSpec platform arguments = some spec → loads version.specJson = spec
  schedule : ∀ candidate, Fields.has arguments "schedule" = true →
    validateSchedule platform (argument arguments "schedule") = .ok candidate →
    storedSchedule schedule = (scheduleJson candidate).sortKeys
  policy : ∀ policy, requestedPolicy platform arguments = .ok (some policy) →
    policyFromSnapshot platform.spelling (loads version.snapshotJson) = .ok policy

theorem editText_same {current : String} {candidate : Option String} {field : String}
    (same : ∀ text, candidate = some text → text = current) : editText current candidate field = (current, []) := by
  cases candidate with
  | none => rfl
  | some text => rw [editText, if_neg (not_not.mpr (same text rfl))]

theorem editName_same {current : String} {next : String × List String}
    (edited : editName platform arguments current = .ok next)
    (same : ∀ value, supplied arguments "name" = some value → strip (value.toStr platform.spelling) = current) :
    next.2 = [] := by
  unfold editName at edited
  split at edited
  · cases edited
    rfl
  · next value given =>
    dsimp only at edited
    split at edited
    · cases edited
    · have kept : editText current (some (strip (value.toStr platform.spelling))) "name" = (current, []) :=
        editText_same fun text taken => (Option.some.inj taken).symm.trans (same value given)
      rw [kept] at edited
      cases edited
      rfl

theorem proper_supplied {key : String} (proper : (Json.obj arguments).proper = true)
    (given : supplied arguments key = some value) : value.proper = true := by
  unfold supplied at given
  split at given
  · cases given
  · cases given
  · next held =>
    cases given
    exact proper_get proper held

theorem editSpec_same {next : Json × List String} (edited : editSpec platform arguments current = .ok next)
    (proper : (Json.obj arguments).proper = true)
    (same : ∀ spec, acceptedSpec platform arguments = some spec → current = spec) : next.2 = [] := by
  unfold editSpec at edited
  cases given : supplied arguments "spec" with
  | none =>
    rw [given] at edited
    cases pure_eq_ok.mp edited
    rfl
  | some value =>
    rw [given] at edited
    obtain ⟨steps, valid, result⟩ := bind_eq_ok.mp edited
    have accepted : acceptedSpec platform arguments = some (specJson steps).sortKeys := by
      rw [acceptedSpec, given, Option.bind_some, valid]
      rfl
    have proper' : value.proper = true := proper_supplied proper given
    dsimp only at result
    have equal : Json.same (specJson steps) current = true := by
      rw [same _ accepted]
      exact specJson_same valid proper'
    rw [if_pos equal] at result
    cases pure_eq_ok.mp result
    rfl

theorem editSchedule_same {next : Json × Option (Option Fields)}
    (edited : editSchedule platform arguments current = .ok next)
    (same : ∀ candidate, Fields.has arguments "schedule" = true →
      validateSchedule platform (argument arguments "schedule") = .ok candidate →
      Json.same (scheduleJson candidate) current = true) : next.2 = none := by
  unfold editSchedule at edited
  split at edited
  · next given =>
    obtain ⟨candidate, valid, result⟩ := bind_eq_ok.mp edited
    rw [if_pos (same candidate given valid)] at result
    cases pure_eq_ok.mp result
    rfl
  · cases pure_eq_ok.mp edited
    rfl

theorem scheduleJson_same {candidate : Option Fields} (accepted : validateSchedule platform value = .ok candidate) :
    Json.same (scheduleJson candidate) (scheduleJson candidate).sortKeys = true := by
  cases candidate with
  | none => rfl
  | some fields => exact Json.same_sortKeys (validateSchedule_fields accepted rfl).1

theorem Repeats.unchanged {row : WorkflowDefinition} (repeats : Repeats platform arguments row version schedule)
    (proper : (Json.obj arguments).proper = true)
    (accepted : editOf platform (withoutPolicy arguments) row version schedule = .ok edit) : edit.changed = [] := by
  have asked : argument (withoutPolicy arguments) "schedule" = argument arguments "schedule" := by
    rw [argument, get_withoutPolicy arguments (by decide), argument]
  have given : Fields.has (withoutPolicy arguments) "schedule" = Fields.has arguments "schedule" := by
    rw [Fields.has, Fields.has, withoutPolicy, List.any_filter]
    congr 1
    funext entry
    by_cases key : entry.1 = "schedule" <;> simp [key]
  unfold editOf at accepted
  simp only [bind_eq_ok] at accepted
  obtain ⟨named, renamed, specified, edited, next, scheduled, result⟩ := accepted
  have sameName : named.2 = [] := by
    apply editName_same renamed
    rw [supplied_withoutPolicy (by decide)]
    exact repeats.name
  have sameSpec : specified.2 = [] := by
    unfold editSpec at edited
    rw [supplied_withoutPolicy (by decide)] at edited
    exact editSpec_same edited proper repeats.spec
  have sameSchedule : next.2 = none := by
    apply editSchedule_same scheduled
    intro candidate present valid
    rw [asked] at valid
    rw [given] at present
    have stored := repeats.schedule candidate present valid
    change Json.same _ (storedSchedule schedule) = true
    rw [stored]
    exact scheduleJson_same valid
  have sameText : (editText row.description ((supplied (withoutPolicy arguments) "description").map
      (Json.toStr platform.spelling)) "description").2 = [] := by
    rw [supplied_withoutPolicy (by decide), editText_same]
    intro text taken
    obtain ⟨value, held, rfl⟩ := Option.map_eq_some_iff.mp taken
    exact repeats.description value held
  rw [← pure_eq_ok.mp result]
  simp [sameName, sameSpec, sameSchedule, sameText]

theorem Updates.repeated {row : WorkflowDefinition} {previous : ConcurrencyPolicy}
    (updating : Updating platform base arguments row version edit requested previous)
    (repeats : Repeats platform arguments row version (scheduleIn base row.id))
    (proper : (Json.obj arguments).proper = true)
    (updates : Updates platform base context arguments row version edit (requested.getD previous) previous changes) :
    changes = [] := by
  have unchanged := repeats.unchanged proper updating.edited.edited
  have kept : requested.getD previous = previous := by
    cases wanted : requested with
    | none => rfl
    | some policy =>
      have asked := updating.requested
      rw [wanted] at asked
      have read := repeats.policy policy asked
      rw [updating.previous] at read
      exact (Except.ok.inj read).symm
  cases updates with
  | same => rfl
  | policyOnly _ differs => exact absurd kept differs
  | revised changed => exact absurd unchanged changed

/-! ### Calls and ticks -/

def Distinguishes (platform : Platform) (before : WorkflowState) : Entry → Prop
  | .call .update _ arguments => ∀ row version,
      before.definitions.find (operand platform.spelling arguments.fields "workflow_id" "") = some row →
      before.versionOf row.id row.currentVersion = some version →
      DistinctSpec platform arguments.fields (loads version.specJson)
  | _ => True

def AsksNothing (platform : Platform) (before : WorkflowState) : Entry → Prop
  | .call .create _ _ => False
  | .call .update _ arguments => ∀ row version,
      before.definitions.find (operand platform.spelling arguments.fields "workflow_id" "") = some row →
      before.versionOf row.id row.currentVersion = some version →
      Repeats platform arguments.fields row version (scheduleIn before row.id)
  | _ => True

structure Leaves (platform : Platform) (before : WorkflowState) (requests : List Request) (entry : Entry)
    (asked : Option Request) (after : WorkflowState) : Prop where
  versioned : Versioned platform.spelling after (requests ++ asked.toList)
  lasting : ∀ version ∈ before.versions.rows, version ∈ after.versions.rows
  idle : AsksNothing platform before entry → after.versions = before.versions

variable {entry : Entry} {asked : Option Request}

theorem Leaves.steady (versioned : Versioned platform.spelling before requests) (same : SameVersions before after) :
    Leaves platform before requests entry none after where
  versioned := by
    rw [Option.toList_none, List.append_nil]
    exact versioned.steady same
  lasting version member := same.versions ▸ member
  idle _ := same.versions

theorem Leaves.reads (leaves : Leaves platform before requests entry asked state) (reads : Reads state after) :
    Leaves platform before requests entry asked after where
  versioned := leaves.versioned.steady (.reads reads)
  lasting version member := reads.versions ▸ leaves.lasting version member
  idle none := reads.versions.trans (leaves.idle none)

theorem Distinguishes.reads (reads : Reads base before) (distinct : Distinguishes platform base entry) :
    Distinguishes platform before entry := by
  cases entry with
  | tick => trivial
  | call capability =>
    cases capability with
    | update =>
      intro row version found latest
      rw [reads.definitions] at found
      rw [← versionOf_reads reads] at latest
      exact distinct row version found latest
    | _ => trivial

theorem AsksNothing.reads (reads : Reads base before) (idle : AsksNothing platform base entry) :
    AsksNothing platform before entry := by
  cases entry with
  | tick => trivial
  | call capability =>
    cases capability with
    | update =>
      intro row version found latest
      rw [reads.definitions] at found
      rw [← versionOf_reads reads] at latest
      rw [← scheduleIn_reads reads]
      exact idle row version found latest
    | create => exact idle.elim
    | _ => trivial

theorem Calls.leaves {capability : Capability} {arguments : Arguments} {outcome : CallResult × List Write}
    (versioned : Versioned platform.spelling base requests)
    (distinct : Distinguishes platform base (.call capability context arguments))
    (calls : Calls platform base context arguments.fields capability outcome)
    (written : base.writeAll outcome.2 = some after) :
    Leaves platform base requests (.call capability context arguments)
      (requestOf platform (.call capability context arguments) (some (.ok (some outcome.1)))) after := by
  have unversioned : (∀ change ∈ outcome.2, Unversioned change) →
      Leaves platform base requests (.call capability context arguments) none after :=
    fun all => .steady versioned (writeAll_unversioned all written)
  cases capability with
  | create =>
    obtain ⟨now, lasting⟩ := Creates.versioned versioned calls written
    exact ⟨now, lasting, fun none => none.elim⟩
  | update =>
    obtain ⟨row, version, edit, requested, previous, updating, resource, updates⟩ := calls
    have latest := updating.edited.latest
    obtain ⟨now, lasting⟩ := updates.versioned versioned updating
      (distinct row version updating.target latest) written
    rw [requestOf, resource]
    refine ⟨now, lasting, fun idle => ?_⟩
    have none := updates.repeated updating (idle row version updating.target latest) arguments.proper
    rw [none] at written
    cases written
    rfl
  | enable =>
    obtain ⟨row, next, event, -, -, -, shape⟩ := calls
    exact unversioned (shape ▸ statusChanges_unversioned)
  | disable | archive =>
    obtain ⟨row, status, event, -, shape⟩ := calls
    exact unversioned (shape ▸ statusChanges_unversioned)
  | createTrigger | deleteTrigger | startRun | cancelRun | retryRun =>
    exact unversioned fun change member => (calls change member).unversioned

theorem call_leaves {capability : Capability} {arguments : Arguments}
    (versioned : Versioned platform.spelling before requests)
    (distinct : Distinguishes platform before (.call capability context arguments)) :
    (call platform capability context arguments.fields).Ensures workflowWorld pid ok (SameVersions before)
      (fun result after => Leaves platform before requests (.call capability context arguments)
        (requestOf platform (.call capability context arguments) (some (.ok (some result)))) after)
      (fun _ after => SameVersions before after) before := by
  apply sessionScope_ensures (execute_learns versioned.named capability) (.refl before)
  · exact fun after since => .reads since
  · intro value current after calls since written
    have leaves := (calls.reads since).leaves (versioned.steady (.reads since)) (distinct.reads since) written
    have leaves' : Leaves platform before requests (.call capability context arguments)
        (requestOf platform (.call capability context arguments) (some (.ok (some value.1)))) after :=
      ⟨leaves.versioned, fun version member => leaves.lasting version (since.versions.symm ▸ member),
        fun idle => (leaves.idle (idle.reads since)).trans since.versions⟩
    exact leaves'.reads (.release after pid)
  · exact fun error after since => .reads since

theorem Takes.leaves {turn : Turn Entry Choice} {outcome : Option (Except WorkflowError (Option CallResult))}
    (versioned : Versioned settings.platform.spelling before requests)
    (distinct : Distinguishes settings.platform before turn.entry) (taken : Takes settings before turn outcome after) :
    Leaves settings.platform before requests turn.entry (requestOf settings.platform turn.entry outcome) after := by
  have ensures : (lifecycle settings turn.pid turn.entry).Ensures workflowWorld turn.pid (fun _ _ _ => True)
      (SameVersions before) (fun result after => Leaves settings.platform before requests turn.entry
        (requestOf settings.platform turn.entry (some result)) after) before := by
    cases entry : turn.entry with
    | call capability context arguments =>
      rw [entry] at distinct
      have called : (do
          let result ← call settings.platform capability context arguments.fields
          return some result : Session (Option CallResult)).Ensures workflowWorld turn.pid (fun _ _ _ => True)
          (SameVersions before) (fun result after => Leaves settings.platform before requests
            (.call capability context arguments) (requestOf settings.platform
              (.call capability context arguments) (some (.ok result))) after)
          (fun _ after => SameVersions before after) before := by
        apply Ensures.bind (call_leaves versioned distinct)
        exact fun _ _ leaves => Ensures.pure leaves
      apply Program.Ensures.weaken (Ensures.run_iff.mp called) fun _ same => same
      intro result after holds
      cases result with
      | ok value => exact holds
      | error error =>
        have none : requestOf settings.platform (.call capability context arguments) (some (.error error)) =
            none := by cases capability <;> rfl
        rw [none]
        exact .steady versioned holds
    | tick active =>
      have ticked : (do
          let _ ← tick settings active
          return none : Session (Option CallResult)).Ensures workflowWorld turn.pid (fun _ _ _ => True)
          (SameVersions before) (fun _ after => SameVersions before after)
          (fun _ after => SameVersions before after) before := by
        apply Ensures.bind (tick_unversioned active)
        exact fun _ _ same => Ensures.pure same
      apply Program.Ensures.weaken (Ensures.run_iff.mp ticked) fun _ same => same
      intro result after holds
      have same : SameVersions before after := by
        cases result with
        | ok value => exact holds
        | error error => exact holds
      exact .steady versioned same
  have meets : turn.Meets workflowWorld (lifecycle settings) (fun _ _ _ _ => True) before :=
    Program.Meets.of_all (fun _ _ _ => trivial) _ _ _
  obtain ⟨finished, lost⟩ := Turn.ensured (by exact ensures) meets taken
  cases outcome with
  | some value => exact finished value rfl
  | none =>
    obtain ⟨last, same, rfl⟩ := lost rfl
    have unasked : requestOf settings.platform turn.entry none = none := by
      cases turn.entry with
      | call capability => cases capability <;> rfl
      | tick => rfl
    rw [unasked]
    exact .steady versioned (same.trans (.reads (.release last turn.pid)))

theorem History.versioned (history : History settings (Distinguishes settings.platform) state requests) :
    Versioned settings.platform.spelling state requests := by
  induction history with
  | start clock =>
    constructor
    · rfl
    all_goals simp [Table.empty]
  | turn earlier allowed taken ih => exact (taken.leaves ih allowed).versioned

/-- When no update asks for a spec that is only equal to the current one for Python, the versions of
each workflow are numbered from one, the current one holds the spec and the policy that were asked for
last, and the next turn keeps all versions as they are, and adds none when it asks for nothing new. -/
theorem versions_follow_requests {settings : SchedulerSettings}
    (history : History settings (Distinguishes settings.platform) state requests) :
    (∀ workflow ∈ state.definitions.rows,
      (versionsOf state workflow.id).map (·.version) = List.range' 1 workflow.currentVersion ∧
      ∃ version, state.versionOf workflow.id workflow.currentVersion = some version ∧
        version.specJson = lastSpec requests workflow.id ∧ version.specJson ≠ none ∧
        policyFromSnapshot settings.platform.spelling (loads version.snapshotJson) =
          .ok (lastPolicy requests workflow.id)) ∧
    ∀ turn outcome after, Distinguishes settings.platform state turn.entry →
      Takes settings state turn outcome after →
      (∀ version ∈ state.versions.rows, version ∈ after.versions.rows) ∧
        (AsksNothing settings.platform state turn.entry → after.versions = state.versions) := by
  have versioned := history.versioned
  constructor
  · intro workflow member
    obtain ⟨version, current, spec, ⟨held, stored, -⟩, policy⟩ := versioned.latest workflow member
    refine ⟨versioned.numbered workflow member, version, current, spec, ?_, policy⟩
    simp [stored]
  · intro turn outcome after distinct taken
    have leaves := taken.leaves versioned distinct
    exact ⟨leaves.lasting, leaves.idle⟩

end

def flaggedSpec (flag : Json) : Json := .obj [("steps", .arr [.obj [("id", .str "note"),
  ("capability_id", .str "note.write"), ("arguments", .obj [("flag", flag)])]])]

def flaggedCreation : Turn Entry Choice where
  pid := 1
  entry := .call .create sampleOwner ⟨[("name", .str "Notes"), ("spec", flaggedSpec (.int 1))], by decide⟩
  choices := [{ fresh := "w1" }, { fresh := "v1" }, { fresh := "e1" }, { fresh := "e2" }, {}]

def flaggedUpdate (arguments : Arguments) (requests : Nat) : Turn Entry Choice where
  pid := 2
  entry := .call .update sampleOwner arguments
  choices := (["a", "b", "c", "d", "e", "f", "v2", "e3", "e4", "e5"].take requests).map fun fresh => { fresh }

def flagArguments : Arguments where
  fields := [("workflow_id", .str "w1"), ("spec", flaggedSpec (.bool true))]
  proper := by decide

def numberArguments : Arguments where
  fields := [("workflow_id", .str "w1"), ("spec", flaggedSpec (.int 2))]
  proper := by decide

theorem flaggedCreation_runs :
    (flaggedCreation.result workflowWorld (lifecycle sampleSettings) { clock := 3600000000 }).isSome = true := by
  decide

def flaggedCreated : Option (Except WorkflowError (Option CallResult)) × WorkflowState :=
  (flaggedCreation.result workflowWorld (lifecycle sampleSettings) { clock := 3600000000 }).get
    flaggedCreation_runs

theorem flagUpdate_runs : ((flaggedUpdate flagArguments 8).result workflowWorld (lifecycle sampleSettings)
    flaggedCreated.2).isSome = true := by
  decide

def flagUpdated : Option (Except WorkflowError (Option CallResult)) × WorkflowState :=
  ((flaggedUpdate flagArguments 8).result workflowWorld (lifecycle sampleSettings) flaggedCreated.2).get
    flagUpdate_runs

theorem numberUpdate_runs : ((flaggedUpdate numberArguments 10).result workflowWorld (lifecycle sampleSettings)
    flaggedCreated.2).isSome = true := by
  decide

def numberUpdated : Option (Except WorkflowError (Option CallResult)) × WorkflowState :=
  ((flaggedUpdate numberArguments 10).result workflowWorld (lifecycle sampleSettings) flaggedCreated.2).get
    numberUpdate_runs

theorem versions_follow_requests_flag : ∃ state requests, History sampleSettings (fun _ _ => True) state requests ∧
    ∃ workflow ∈ state.definitions.rows, ∃ version ∈ state.versions.rows, version.workflowId = workflow.id ∧
      version.version = workflow.currentVersion ∧ version.specJson ≠ lastSpec requests workflow.id := by
  have created : History sampleSettings (fun _ _ => True) flaggedCreated.2 _ :=
    .turn (.start 3600000000) trivial (Option.some_get flaggedCreation_runs).symm
  have updated : History sampleSettings (fun _ _ => True) flagUpdated.2 _ :=
    .turn created trivial (Option.some_get flagUpdate_runs).symm
  exact ⟨flagUpdated.2, _, updated, by decide⟩

theorem versions_follow_requests_number : numberUpdated.2.versions.rows.map (·.version) = [1, 2] ∧
    ∀ workflow ∈ numberUpdated.2.definitions.rows,
      (versionsOf numberUpdated.2 workflow.id).map (·.version) = List.range' 1 workflow.currentVersion := by
  have allowed : Distinguishes sampleSettings.platform { clock := 3600000000 } flaggedCreation.entry := trivial
  have created : History sampleSettings (Distinguishes sampleSettings.platform) flaggedCreated.2 _ :=
    .turn (.start 3600000000) allowed (Option.some_get flaggedCreation_runs).symm
  have distinct : Distinguishes sampleSettings.platform flaggedCreated.2
      (flaggedUpdate numberArguments 10).entry := by
    intro row version found latest value steps given valid equal
    have spec : supplied numberArguments.fields "spec" = some (flaggedSpec (.int 2)) := by decide
    obtain rfl : flaggedSpec (.int 2) = value := Option.some.inj (spec.symm.trans given)
    have apart : ∀ steps ∈ (validateWorkflowSpec sampleSettings.platform.spelling (flaggedSpec (.int 2))).toOption,
        ∀ version ∈ flaggedCreated.2.versions.rows,
          Json.same (specJson steps) (loads version.specJson) = false := by decide
    have differs := apart steps (by rw [valid]; rfl) version (List.mem_of_find?_eq_some latest)
    rw [equal] at differs
    cases differs
  have updated : History sampleSettings (Distinguishes sampleSettings.platform) numberUpdated.2 _ :=
    .turn created distinct (Option.some_get numberUpdate_runs).symm
  have followed := versions_follow_requests updated
  exact ⟨by decide, fun workflow member => (followed.1 workflow member).1⟩

end Operly.Workflow
