import Operly.Concurrent.Program
import Operly.Python.Exceptions
import Operly.Python.Separated
import Operly.Studio.Deployments

/-! What deploys and rollbacks, one after another, leave active. -/

namespace Operly.Studio
open Python Kernel Relational Concurrent

namespace StudioState
variable {hosting : Hosting} {state next : StudioState}

/-! ### Lookups -/

variable {tenantId : String} {row : SolutionDeployment}

theorem project_eq_ok {projectId : String} {row : SoftwareProject}
    (found : state.project tenantId projectId = .ok row) :
    row ∈ state.projects.rows ∧ row.id.text = projectId ∧ row.tenantId = tenantId ∧
      state.projects.rows.find? (fun row => row.id.text = projectId && row.tenantId = tenantId) =
        some row := by
  unfold project at found
  split at found
  · next row' searched =>
    cases found
    have columns := List.find?_some searched
    simp only [Bool.and_eq_true, decide_eq_true_eq] at columns
    exact ⟨List.mem_of_find?_eq_some searched, columns.1, columns.2, searched⟩
  · cases found

theorem activeSource_mem {row : SoftwareProject} {source : SourceVersion}
    (found : state.activeSource row = some source) :
    source ∈ state.sources.rows ∧ source.tenantId = row.tenantId ∧ source.projectId = row.id := by
  have own : source ∈ state.sources.select fun source =>
      source.tenantId = row.tenantId && source.projectId = row.id := by
    unfold activeSource at found
    rcases Option.or_eq_some_iff.mp found with named | ⟨-, latest⟩
    · split at named
      · split at named
        · cases named
        · exact List.mem_of_find?_eq_some named
      · cases named
    · exact List.mem_insertionSort _ |>.mp (List.mem_of_head? latest)
  rw [Table.select, List.mem_filter] at own
  simpa using own

theorem linkedSolution_eq_some {projectId : String} {row : Solution}
    (found : state.linkedSolution tenantId projectId = some row) :
    row ∈ state.solutions.rows ∧ row.tenantId = tenantId ∧ row.runtimeType = "software_project" ∧
      row.runtimeReference = projectId := by
  have columns := List.find?_some found
  simp only [Bool.and_eq_true, decide_eq_true_eq] at columns
  exact ⟨List.mem_of_find?_eq_some found, columns.1.1, columns.1.2, columns.2⟩

theorem solution_mem {solutionId : String} {row : Solution} (found : state.solution tenantId solutionId = .ok row) :
    row ∈ state.solutions.rows := by
  unfold solution at found
  split at found
  · next row' searched =>
    cases found
    exact List.mem_of_find?_eq_some searched
  · cases found

theorem activeDeployment_mem {solutionId : Uuid} (found : state.activeDeployment tenantId solutionId = some row) :
    row ∈ state.deployments.rows ∧ row.tenantId = tenantId ∧ row.solutionId = solutionId ∧
      row.status = .active := by
  have selected := List.mem_insertionSort _ |>.mp (List.mem_of_head? found)
  rw [Table.select, List.mem_filter] at selected
  simpa [and_assoc] using selected

theorem activeDeployment_of_unique (member : row ∈ state.deployments.rows) (active : row.status = .active)
    (unique : ∀ other ∈ state.deployments.rows, other.tenantId = row.tenantId →
      other.solutionId = row.solutionId → other.status = .active → other = row) :
    state.activeDeployment row.tenantId row.solutionId = some row := by
  cases found : state.activeDeployment row.tenantId row.solutionId with
  | some other =>
    obtain ⟨present, tenant, solution, served⟩ := activeDeployment_mem found
    rw [unique other present tenant solution served]
  | none =>
    rw [activeDeployment, List.head?_eq_none_iff] at found
    have selected : row ∈ ([] : List SolutionDeployment) := by
      rw [← found, List.mem_insertionSort, Table.select, List.mem_filter]
      simp [member, active]
    cases selected

theorem jobByKey_eq_some {key : String} {row : SolutionJob} (found : state.jobByKey tenantId key = some row) :
    row ∈ state.jobs.rows ∧ row.tenantId = tenantId ∧ row.idempotencyKey = key := by
  have columns := List.find?_some found
  simp only [Bool.and_eq_true, decide_eq_true_eq] at columns
  exact ⟨List.mem_of_find?_eq_some found, columns.1, columns.2⟩

theorem deploymentOfJob_eq_some {jobId : Uuid} (found : state.deploymentOfJob tenantId jobId = some row) :
    row ∈ state.deployments.rows ∧ row.tenantId = tenantId ∧ row.jobId = jobId := by
  have columns := List.find?_some found
  simp only [Bool.and_eq_true, decide_eq_true_eq] at columns
  exact ⟨List.mem_of_find?_eq_some found, columns.1, columns.2⟩

theorem addSolution_eq_ok {row : Solution} (added : state.addSolution row = .ok next) :
    next = { state with solutions := state.solutions.insert row } ∧
      state.solutions.find row.id = none := by
  unfold addSolution at added
  rw [check_eq_ok] at added
  obtain ⟨free, same⟩ := added
  cases same
  simp only [Bool.or_eq_true, not_or, Option.isSome_iff_ne_none, ne_eq, not_not] at free
  exact ⟨rfl, free.1⟩

theorem addJob_eq_ok {row : SolutionJob} (added : state.addJob row = .ok next) :
    next = { state with jobs := state.jobs.insert row } ∧ state.jobs.find row.id = none ∧
      ∀ old ∈ state.jobs.rows, old.tenantId = row.tenantId → old.idempotencyKey ≠ row.idempotencyKey := by
  unfold addJob at added
  rw [check_eq_ok] at added
  obtain ⟨free, same⟩ := added
  cases same
  simp only [Bool.or_eq_true, not_or, Option.isSome_iff_ne_none, ne_eq, not_not, List.any_eq_true,
    Bool.and_eq_true, decide_eq_true_eq, not_exists, not_and] at free
  exact ⟨rfl, free.1, free.2⟩

theorem addDeployment_eq_ok (added : state.addDeployment row = .ok next) :
    next = { state with deployments := state.deployments.insert row } ∧
      state.deployments.find row.id = none := by
  unfold addDeployment at added
  rw [check_eq_ok] at added
  obtain ⟨free, same⟩ := added
  cases same
  simp only [Bool.or_eq_true, not_or, Option.isSome_iff_ne_none, ne_eq, not_not] at free
  exact ⟨rfl, free.1⟩

end StudioState

/-! ### What one execution does -/

section Executions
variable {hosting : Hosting} {state next : StudioState}

/-- What holds of a state holds of a later one: sources and jobs stay, and a project keeps its
solution. -/
structure Extends (state next : StudioState) : Prop where
  sources : ∀ row ∈ state.sources.rows, row ∈ next.sources.rows
  jobs : ∀ row ∈ state.jobs.rows, row ∈ next.jobs.rows
  linked : ∀ tenantId projectId id, (state.linkedSolution tenantId projectId).map (·.id) = some id →
    (next.linkedSolution tenantId projectId).map (·.id) = some id

theorem Extends.refl (state : StudioState) : Extends state state :=
  ⟨fun _ member => member, fun _ member => member, fun _ _ _ linked => linked⟩

theorem Extends.trans {middle : StudioState} (first : Extends state middle)
    (second : Extends middle next) : Extends state next where
  sources row member := second.sources row (first.sources row member)
  jobs row member := second.jobs row (first.jobs row member)
  linked _ _ _ linked := second.linked _ _ _ (first.linked _ _ _ linked)

theorem linkedSolution_of_replace (state : StudioState) (row : Solution) {old : Solution}
    (updated : next.solutions = state.solutions.replace row) (found : state.solutions.find row.id = some old)
    (tenant : row.tenantId = old.tenantId) (kind : row.runtimeType = old.runtimeType)
    (reference : row.runtimeReference = old.runtimeReference) (tenantId projectId : String) :
    (next.linkedSolution tenantId projectId).map (·.id) =
      (state.linkedSolution tenantId projectId).map (·.id) := by
  unfold StudioState.linkedSolution
  rw [updated, Table.find?_replace found (by simp [tenant, kind, reference]), Option.map_map]
  congr 1
  funext other
  by_cases same : other.id = row.id
  · simp [same]
  · simp [same]

variable {solution : Solution} {target : SolutionDeployment} {call : DeployCall}

theorem linkedSolution_addSolution {row : Solution} {tenantId projectId : String}
    (found : state.linkedSolution tenantId projectId = some solution) :
    { state with solutions := state.solutions.insert row }.linkedSolution tenantId projectId =
      some solution := Table.find?_insert_of_some found

theorem mem_supersede {active : Option SolutionDeployment} {row : SolutionDeployment} :
    row ∈ (state.supersede active).deployments.rows ↔
      (∃ old, active = some old ∧ row = { old with status := .superseded } ∧
        (state.deployments.find old.id).isSome) ∨
      (row ∈ state.deployments.rows ∧ ∀ old, active = some old → row.id ≠ old.id) := by
  cases active with
  | none => simp [StudioState.supersede]
  | some old =>
    simp only [StudioState.supersede, Table.mem_replace, Option.some.injEq, exists_eq_left',
      forall_eq']
    exact or_comm

theorem mem_restore {current row : SolutionDeployment}
    (member : row ∈ (state.restore current target).deployments.rows) :
    row = { target with status := .active } ∨ row = { current with status := .rolledBack } ∨
      (row ∈ state.deployments.rows ∧ row.id ≠ current.id ∧ row.id ≠ target.id) := by
  rcases Table.mem_replace.mp member with ⟨earlier, apart⟩ | ⟨same, -⟩
  · rcases Table.mem_replace.mp earlier with ⟨old, other⟩ | ⟨same, -⟩
    · exact .inr (.inr ⟨old, other, apart⟩)
    · exact .inr (.inl same)
  · exact .inl same

theorem solutionToDeploy_eq_ok {project : SoftwareProject} {source : SourceVersion}
    (done : solutionToDeploy state call project source = .ok (next, solution)) :
    Extends state next ∧ next.deployments = state.deployments ∧ next.jobs = state.jobs ∧
      next.projects = state.projects ∧ next.sources = state.sources ∧
      next.linkedSolution call.tenantId project.id.text = some solution := by
  unfold solutionToDeploy at done
  split at done
  · next found linked =>
    cases done
    exact ⟨.refl _, rfl, rfl, rfl, rfl, linked⟩
  · next unlinked =>
    obtain ⟨opened, added, same⟩ := bind_eq_ok.mp done
    cases same
    obtain ⟨rfl, absent⟩ := StudioState.addSolution_eq_ok added
    refine ⟨⟨fun _ member => member, fun _ member => member, ?_⟩, rfl, rfl, rfl, rfl, ?_⟩
    · intro tenantId projectId id linked
      obtain ⟨row, found, same⟩ := Option.map_eq_some_iff.mp linked
      rw [linkedSolution_addSolution found, Option.map_some, same]
    · unfold StudioState.linkedSolution at unlinked ⊢
      rw [Table.insert_rows absent, List.find?_append, unlinked, Option.none_or]
      simp [newSolution]

structure Published (state : StudioState) (call : DeployCall) (project : SoftwareProject)
    (source : SourceVersion) (solution : Solution) (active : Option SolutionDeployment)
    (key digest : String) (row : SolutionDeployment) (next : StudioState) : Prop where
  extended : Extends state next
  sources : next.sources = state.sources
  projects : next.projects = state.projects.replace (serving row project)
  unkeyed : ∀ job ∈ state.jobs.rows, job.tenantId = call.tenantId → job.idempotencyKey ≠ key
  jobFree : ∀ job ∈ state.jobs.rows, job.id ≠ call.jobId
  jobs : ∃ job, next.jobs.rows = state.jobs.rows ++ [job] ∧ job.id = call.jobId ∧
    job.tenantId = call.tenantId ∧ job.idempotencyKey = key
  row_columns : row.tenantId = call.tenantId ∧ row.solutionId = solution.id ∧ row.jobId = call.jobId ∧
    row.versionReference = source.id.text ∧ row.artifactDigest = digest ∧ row.status = .active
  rowFree : ∀ old ∈ state.deployments.rows, old.id ≠ row.id
  deployments : ∀ other ∈ next.deployments.rows, other = row ∨
    (∃ old, active = some old ∧ other = { old with status := .superseded }) ∨
      (other ∈ state.deployments.rows ∧ ∀ old, active = some old → other.id ≠ old.id)
  present : row ∈ next.deployments.rows

theorem publish_eq_ok {project : SoftwareProject} {source : SourceVersion} {active : Option SolutionDeployment}
    {deployability : Deployability} {key digest : String} {result : Deployed}
    (known : state.solutions.find solution.id = some solution)
    (served : ∀ old, active = some old → old ∈ state.deployments.rows)
    (done : publish hosting state call project source solution active deployability key digest =
      .ok (result, next)) : Published state call project source solution active key digest result.deployment next := by
  unfold publish at done
  obtain ⟨queued, addedJob, done⟩ := bind_eq_ok.mp done
  obtain ⟨provisioned, addedRow, done⟩ := bind_eq_ok.mp done
  obtain ⟨rfl, jobFree, unkeyed⟩ := StudioState.addJob_eq_ok addedJob
  obtain ⟨rfl, rowFree⟩ := StudioState.addDeployment_eq_ok addedRow
  split at done
  · cases done
  · split at done
    · cases done
    · next root configured =>
      rw [pure_eq_ok, Prod.mk.injEq] at done
      obtain ⟨rfl, rfl⟩ := done
      have free : ∀ old ∈ state.deployments.rows, old.id ≠ call.deploymentId := Table.find_eq_none.mp rowFree
      let row := newDeployment hosting call project source solution active digest
      have rows : ((state.deployments.insert row).replace (online root call row)).rows =
          state.deployments.rows ++ [online root call row] := Table.insert_replace_rows rowFree rfl
      let job := newJob call solution source key
      have queue : ((state.jobs.insert job).replace (completed call job)).rows =
          state.jobs.rows ++ [completed call job] := Table.insert_replace_rows jobFree rfl
      constructor
      case extended =>
        constructor
        case sources => exact fun row member => member
        case jobs => exact fun row member => queue.symm ▸ List.mem_append_left _ member
        case linked =>
          intro tenantId projectId id linked
          let now := released source (online root call row) solution
          exact (linkedSolution_of_replace state now rfl known rfl rfl rfl tenantId projectId).trans linked
      case sources => rfl
      case projects => rfl
      case unkeyed => exact unkeyed
      case jobFree => exact Table.find_eq_none.mp jobFree
      case jobs => exact ⟨_, queue, rfl, rfl, rfl⟩
      case row_columns => exact ⟨rfl, rfl, rfl, rfl, rfl, rfl⟩
      case rowFree => exact free
      case deployments =>
        intro other member
        rcases mem_supersede.mp member with ⟨old, was, same, -⟩ | ⟨kept, apart⟩
        · exact .inr (.inl ⟨old, was, same⟩)
        · rcases List.mem_append.mp (rows ▸ kept) with earlier | last
          · exact .inr (.inr ⟨earlier, apart⟩)
          · exact .inl (List.mem_singleton.mp last)
      case present =>
        refine mem_supersede.mpr (.inr ⟨?_, ?_⟩)
        · exact rows.symm ▸ List.mem_append_right _ (List.mem_singleton_self _)
        · intro old was same
          exact free old (served old was) same.symm

/-- What a deploy finds before it chooses between its three ways to succeed. -/
structure Prepared (hosting : Hosting) (state : StudioState) (call : DeployCall) (project : SoftwareProject)
    (source : SourceVersion) (digest : String) (opened : StudioState) (solution : Solution) : Prop where
  found : state.project call.tenantId call.projectId = .ok project
  chosen : state.activeSource project = some source
  bundled : publishedDigest hosting source = some digest
  linked : solutionToDeploy state call project source = .ok (opened, solution)

def reuse (opened : StudioState) (project : SoftwareProject) (source : SourceVersion) (solution : Solution)
    (row : SolutionDeployment) : StudioState :=
  (opened.updateSolution { solution with
    productionState := "online", productionUrl := some row.publicUrl,
    currentVersionReference := some source.id.text }).updateProject (serving row project)

theorem deploy_cases {result : Deployed} (done : deploy hosting state call = .ok (result, next)) :
    ∃ project source digest opened solution,
      Prepared hosting state call project source digest opened solution ∧
      ((opened.activeDeployment call.tenantId solution.id = some result.deployment ∧
          result.deployment.versionReference = source.id.text ∧
          result.deployment.artifactDigest = digest ∧
          next = reuse opened project source solution result.deployment) ∨
        (∃ job, opened.jobByKey call.tenantId (deployKey project.id source.id digest) = some job ∧
          opened.deploymentOfJob call.tenantId job.id = some result.deployment ∧
          result.deployment.health = .healthy ∧ next = opened) ∨
        Published opened call project source solution (opened.activeDeployment call.tenantId solution.id)
          (deployKey project.id source.id digest) digest result.deployment next) := by
  unfold deploy at done
  obtain ⟨project, found, done⟩ := bind_eq_ok.mp done
  split at done
  · cases done
  · next source chosen =>
    obtain ⟨⟨publishable, deployability⟩, bundled, done⟩ := bind_eq_ok.mp done
    simp only at done
    split at done
    · cases done
    · next publishPrefix fileCount sizeBytes digest =>
      obtain ⟨⟨opened, solution⟩, prepared, done⟩ := bind_eq_ok.mp done
      simp only at done
      refine ⟨project, source, digest, opened, solution,
        ⟨found, chosen, publishedDigest_eq bundled, prepared⟩, ?_⟩
      have linked := (solutionToDeploy_eq_ok prepared).2.2.2.2.2
      have known := Table.find_of_mem (StudioState.linkedSolution_eq_some linked).1
      split at done
      · next row reused =>
        rw [pure_eq_ok, Prod.mk.injEq] at done
        obtain ⟨rfl, rfl⟩ := done
        obtain ⟨active, serves⟩ := Option.filter_eq_some_iff.mp reused
        simp only [servesSource, Bool.and_eq_true, decide_eq_true_eq] at serves
        exact .inl ⟨active, serves.1.1.1, serves.1.1.2, rfl⟩
      · split at done
        · next row existing =>
          rw [pure_eq_ok, Prod.mk.injEq] at done
          obtain ⟨rfl, rfl⟩ := done
          obtain ⟨job, keyed, filtered⟩ := Option.bind_eq_some_iff.mp existing
          obtain ⟨deployed, healthy⟩ := Option.filter_eq_some_iff.mp filtered
          exact .inr (.inl ⟨job, keyed, deployed, by simpa using healthy, rfl⟩)
        · refine .inr (.inr (publish_eq_ok known ?_ done))
          intro old active
          exact (StudioState.activeDeployment_mem active).1

def KeysUnique (jobs : List SolutionJob) : Prop :=
  ∀ job ∈ jobs, ∀ other ∈ jobs, job.tenantId = other.tenantId →
    job.idempotencyKey = other.idempotencyKey → job = other

theorem KeysUnique.append {jobs : List SolutionJob} {job : SolutionJob} (unique : KeysUnique jobs)
    (unkeyed : ∀ old ∈ jobs, old.tenantId = job.tenantId → old.idempotencyKey ≠ job.idempotencyKey) :
    KeysUnique (jobs ++ [job]) := by
  intro first member second member' tenant key
  rw [List.mem_append, List.mem_singleton] at member member'
  rcases member with earlier | rfl
  · rcases member' with earlier' | rfl
    · exact unique first earlier second earlier' tenant key
    · exact absurd key (unkeyed first earlier tenant)
  · rcases member' with earlier' | rfl
    · exact absurd key.symm (unkeyed second earlier' tenant.symm)
    · rfl

theorem rollbackJob_eq_ok {call : RollbackCall} {current : SolutionDeployment}
    (done : rollbackJob state call solution current target = .ok next) :
    Extends state next ∧ next.deployments = state.deployments ∧ next.solutions = state.solutions ∧
      (KeysUnique state.jobs.rows → KeysUnique next.jobs.rows) := by
  unfold rollbackJob at done
  simp only at done
  split at done
  · cases done
    exact ⟨.refl _, rfl, rfl, id⟩
  · obtain ⟨rfl, free, unkeyed⟩ := StudioState.addJob_eq_ok done
    refine ⟨⟨fun _ member => member, ?_, fun _ _ _ linked => linked⟩, rfl, rfl, ?_⟩
    · exact fun row member => Table.mem_insert_of_mem member
    · intro unique
      rw [Table.insert_rows free]
      exact unique.append unkeyed

theorem followRollback_eq_ok {call : RollbackCall} (done : followRollback state call solution target = .ok next) :
    Extends state next ∧ next.deployments = state.deployments ∧ next.jobs = state.jobs := by
  unfold followRollback at done
  split at done
  · obtain ⟨project, found, same⟩ := bind_eq_ok.mp done
    cases same
    exact ⟨⟨fun _ member => member, fun _ member => member, fun _ _ _ linked => linked⟩, rfl, rfl⟩
  · cases done
    exact ⟨.refl _, rfl, rfl⟩

theorem rollback_cases {call : RollbackCall} {result : RolledBack}
    (done : rollback hosting state call = .ok (result, next)) :
    next = state ∨ ∃ current target, current ∈ state.deployments.rows ∧ target ∈ state.deployments.rows ∧
      current.status = .active ∧ current.id ≠ target.id ∧ target.tenantId = current.tenantId ∧
      target.solutionId = current.solutionId ∧ Extends state next ∧
      (KeysUnique state.jobs.rows → KeysUnique next.jobs.rows) ∧
      ∀ row ∈ next.deployments.rows, row = { target with status := .active } ∨
        row = { current with status := .rolledBack } ∨
        (row ∈ state.deployments.rows ∧ row.id ≠ current.id ∧ row.id ≠ target.id) := by
  unfold rollback at done
  obtain ⟨solution, known, done⟩ := bind_eq_ok.mp done
  split at done
  · cases done
  · next current active =>
    simp only at done
    split at done
    · cases done
    · split at done
      · cases done
      · next target found =>
        obtain ⟨searched, -⟩ := Option.filter_eq_some_iff.mp found
        have columns := List.find?_some searched
        simp only [Bool.and_eq_true, decide_eq_true_eq] at columns
        obtain ⟨present, tenant, same, served⟩ := StudioState.activeDeployment_mem active
        split at done
        · cases done
        · split at done
          · cases done
          · split at done
            · cases done
              exact .inl rfl
            · next apart =>
              obtain ⟨queued, jobs, done⟩ := bind_eq_ok.mp done
              obtain ⟨followed, project, done⟩ := bind_eq_ok.mp done
              cases done
              obtain ⟨first, rows, solutions, keys⟩ := rollbackJob_eq_ok jobs
              obtain ⟨second, rows', jobs'⟩ := followRollback_eq_ok project
              let now := restored { target with status := .active } solution
              have middle : Extends queued ((queued.restore current target).updateSolution now) := by
                refine ⟨fun _ member => member, fun _ member => member, ?_⟩
                intro tenantId projectId id linked
                have held : queued.solutions.find now.id = some solution := by
                  rw [solutions]
                  exact Table.find_of_mem (StudioState.solution_mem known)
                exact (linkedSolution_of_replace queued now rfl held rfl rfl rfl tenantId projectId).trans linked
              refine .inr ⟨current, target, present, List.mem_of_find?_eq_some searched, served, apart,
                columns.1.2.trans tenant.symm, columns.2.trans same.symm,
                (first.trans middle).trans second, ?_, ?_⟩
              · intro unique
                exact jobs' ▸ keys unique
              · intro row member
                rw [rows'] at member
                have kept := mem_restore (member : row ∈ (queued.restore current target).deployments.rows)
                rwa [rows] at kept

end Executions

/-! ### Runs -/

/-- A deploy or a rollback, or what others do to a project between two of them. -/
inductive StudioMove where
  | deploy (call : DeployCall)
  | rollback (call : RollbackCall)
  | activateSource (project : Uuid) (source : Option String)
  | createProject (row : SoftwareProject)
  | createSource (row : SourceVersion)
  | changeDisk (disk : String → Option Artifact)

def afterwards {α : Type} (state : StudioState) (outcome : Except KernelError (α × StudioState)) :
    StudioState :=
  match outcome with
  | .ok (_, next) => next
  | .error _ => state

def StudioState.step (hosting : Hosting) (state : StudioState) : StudioMove → Option StudioState
  | .deploy call => some (afterwards state (deploy hosting state call))
  | .rollback call => some (afterwards state (rollback hosting state call))
  | .activateSource project source =>
      (state.projects.find project).map fun row =>
        state.updateProject { row with activeSourceVersionId := source }
  | .createProject row => some { state with projects := state.projects.insert row }
  | .createSource row => some { state with sources := state.sources.insert row }
  | .changeDisk disk => some { state with disk := disk }

section Invariant
variable {hosting : Hosting} {state next : StudioState}

structure Stems (hosting : Hosting) (state : StudioState) (row : SolutionDeployment)
    (source : SourceVersion) (job : SolutionJob) : Prop where
  made : source ∈ state.sources.rows
  queued : job ∈ state.jobs.rows
  version : row.versionReference = source.id.text
  digest : publishedDigest hosting source = some row.artifactDigest
  linked : (state.linkedSolution row.tenantId source.projectId.text).map (·.id) = some row.solutionId
  jobId : job.id = row.jobId
  tenant : job.tenantId = row.tenantId
  key : job.idempotencyKey = deployKey source.projectId source.id row.artifactDigest

/-- Every deployment stems from a job of its own, and a solution has one active deployment at most. -/
structure Consistent (hosting : Hosting) (state : StudioState) : Prop where
  stems : ∀ row ∈ state.deployments.rows, ∃ source job, Stems hosting state row source job
  keys : KeysUnique state.jobs.rows
  jobs : ∀ row ∈ state.deployments.rows, ∀ other ∈ state.deployments.rows,
    row.jobId = other.jobId → row.id = other.id
  active : ∀ row ∈ state.deployments.rows, ∀ other ∈ state.deployments.rows, row.status = .active →
    other.status = .active → row.tenantId = other.tenantId → row.solutionId = other.solutionId →
      row.id = other.id

theorem Uuid.text_inj {first second : Uuid} : first.text = second.text ↔ first = second := by
  cases first
  cases second
  simp

theorem deployKey_inj {project source project' source' : Uuid} {digest digest' : String}
    (long : digest.toList.length = 64) (long' : digest'.toList.length = 64)
    (same : deployKey project source digest = deployKey project' source' digest') :
    project = project' ∧ source = source' := by
  have ends : (String.ofList (digest.toList.take 24)).toList.length =
      (String.ofList (digest'.toList.take 24)).toList.length := by simp [long, long']
  obtain ⟨first, -⟩ := (append_eq_append_iff_of_length ends).mp same
  obtain ⟨second, -⟩ := (append_eq_append_iff_of_length rfl).mp first
  obtain ⟨third, sources⟩ :=
    (append_eq_append_iff_of_length (source.length.trans source'.length.symm)).mp second
  obtain ⟨fourth, -⟩ := (append_eq_append_iff_of_length rfl).mp third
  obtain ⟨-, projects⟩ :=
    (append_eq_append_iff_of_length (project.length.trans project'.length.symm)).mp fourth
  exact ⟨Uuid.text_inj.mp projects, Uuid.text_inj.mp sources⟩

variable {project : SoftwareProject} {source : SourceVersion} {row : SolutionDeployment} {call : DeployCall}
  {solution : Solution}

theorem Stems.extend {job : SolutionJob} (stems : Stems hosting state row source job) (extended : Extends state next) :
    Stems hosting next row source job where
  made := extended.sources source stems.made
  queued := extended.jobs job stems.queued
  version := stems.version
  digest := stems.digest
  linked := extended.linked _ _ _ stems.linked
  jobId := stems.jobId
  tenant := stems.tenant
  key := stems.key

theorem Stems.restate {job : SolutionJob} (stems : Stems hosting state row source job) (status : DeploymentStatus) :
    Stems hosting state { row with status := status } source job where
  made := stems.made
  queued := stems.queued
  version := stems.version
  digest := stems.digest
  linked := stems.linked
  jobId := stems.jobId
  tenant := stems.tenant
  key := stems.key

theorem Consistent.restate (before : Consistent hosting state) (extended : Extends state next)
    (keys : KeysUnique next.jobs.rows) (rows : ∀ row ∈ next.deployments.rows, ∃ old ∈ state.deployments.rows,
      row = { old with status := row.status })
    (active : ∀ row ∈ next.deployments.rows, ∀ other ∈ next.deployments.rows, row.status = .active →
      other.status = .active → row.tenantId = other.tenantId → row.solutionId = other.solutionId →
        row.id = other.id) : Consistent hosting next where
  stems row member := by
    obtain ⟨old, earlier, same⟩ := rows row member
    obtain ⟨source, job, stems⟩ := before.stems old earlier
    exact ⟨source, job, same ▸ (stems.extend extended).restate row.status⟩
  keys := keys
  jobs row member other member' same := by
    obtain ⟨old, earlier, was⟩ := rows row member
    obtain ⟨old', earlier', was'⟩ := rows other member'
    rw [was, was'] at same ⊢
    exact before.jobs old earlier old' earlier' same
  active := active

theorem Consistent.same_rows (before : Consistent hosting state) (extended : Extends state next)
    (jobs : next.jobs = state.jobs) (rows : next.deployments = state.deployments) : Consistent hosting next := by
  apply before.restate extended
  · exact jobs ▸ before.keys
  · intro row member
    exact ⟨row, rows ▸ member, rfl⟩
  · exact rows ▸ before.active

theorem Consistent.activeDeployment (consistent : Consistent hosting state) (member : row ∈ state.deployments.rows)
    (active : row.status = .active) : state.activeDeployment row.tenantId row.solutionId = some row := by
  apply StudioState.activeDeployment_of_unique member active
  intro other present tenant solution served
  exact List.inj_on_of_nodup_map state.deployments.distinct present member
    (consistent.active other present row member served active tenant solution)

theorem Consistent.opened (before : Consistent hosting state)
    (done : solutionToDeploy state call project source = .ok (next, solution)) : Consistent hosting next := by
  obtain ⟨extended, rows, jobs, -, -, -⟩ := solutionToDeploy_eq_ok done
  exact before.same_rows extended jobs rows

theorem Consistent.of_rollback (before : Consistent hosting state) {call : RollbackCall} {result : RolledBack}
    (done : rollback hosting state call = .ok (result, next)) : Consistent hosting next := by
  rcases rollback_cases done with rfl | ⟨current, target, present, searched, served, apart, tenant, solution,
    extended, keys, rows⟩
  · exact before
  -- an old row of the solution that is active is the one that was rolled back
  have replaced : ∀ row ∈ state.deployments.rows, row.status = .active → row.tenantId = target.tenantId →
      row.solutionId = target.solutionId → row.id = current.id := fun row member active tenant' solution' =>
    before.active row member current present active served (tenant'.trans tenant) (solution'.trans solution)
  apply before.restate extended (keys before.keys)
  · intro row member
    rcases rows row member with rfl | rfl | ⟨earlier, -, -⟩
    · exact ⟨target, searched, rfl⟩
    · exact ⟨current, present, rfl⟩
    · exact ⟨row, earlier, rfl⟩
  · intro row member other member' active active' tenant' solution'
    rcases rows row member with rfl | rfl | ⟨earlier, other_current, -⟩
    · rcases rows other member' with rfl | rfl | ⟨earlier', other_current', -⟩
      · rfl
      · cases active'
      · exact absurd (replaced other earlier' active' tenant'.symm solution'.symm) other_current'
    · cases active
    · rcases rows other member' with rfl | rfl | ⟨earlier', -, -⟩
      · exact absurd (replaced row earlier active tenant' solution') other_current
      · cases active'
      · exact before.active row earlier other earlier' active active' tenant' solution'

theorem Consistent.of_publish (before : Consistent hosting state) {digest : String}
    (made : source ∈ state.sources.rows) (ours : source.projectId = project.id)
    (bundled : publishedDigest hosting source = some digest)
    (linked : state.linkedSolution call.tenantId project.id.text = some solution)
    (published : Published state call project source solution
      (state.activeDeployment call.tenantId solution.id) (deployKey project.id source.id digest) digest
      row next) : Consistent hosting next := by
  obtain ⟨tenant, solution', job', version, digest', online⟩ := published.row_columns
  obtain ⟨job, jobs, jobId, jobTenant, jobKey⟩ := published.jobs
  -- every other row is one of before
  have rows : ∀ other ∈ next.deployments.rows, other = row ∨ ∃ old ∈ state.deployments.rows,
      other = { old with status := other.status } := by
    intro other member
    rcases published.deployments other member with rfl | ⟨old, was, rfl⟩ | ⟨earlier, -⟩
    · exact .inl rfl
    · exact .inr ⟨old, (StudioState.activeDeployment_mem was).1, rfl⟩
    · exact .inr ⟨other, earlier, rfl⟩
  have fresh : ∀ old ∈ state.deployments.rows, old.jobId ≠ row.jobId := by
    intro old earlier same
    obtain ⟨source', job'', stems⟩ := before.stems old earlier
    exact published.jobFree job'' stems.queued (stems.jobId.trans (same.trans job'))
  have alone : ∀ other ∈ next.deployments.rows, other.status = .active → other.tenantId = row.tenantId →
      other.solutionId = row.solutionId → other = row := by
    intro other member active sameTenant sameSolution
    rcases published.deployments other member with same | ⟨old, was, rfl⟩ | ⟨earlier, apart⟩
    · exact same
    · cases active
    · have found := before.activeDeployment earlier active
      rw [sameTenant, sameSolution, tenant, solution'] at found
      exact absurd rfl (apart other found)
  have keys : KeysUnique next.jobs.rows := by
    rw [jobs]
    apply before.keys.append
    rw [jobTenant, jobKey]
    exact published.unkeyed
  have stems : Stems hosting next row source job := by
    refine ⟨published.sources ▸ made, ?_, version, digest' ▸ bundled, ?_, jobId.trans job'.symm,
      jobTenant.trans tenant.symm, ?_⟩
    · rw [jobs]
      exact List.mem_append_right _ (List.mem_singleton_self job)
    · apply published.extended.linked
      rw [tenant, ours, linked, solution', Option.map_some]
    · rw [jobKey, ours, digest']
  constructor
  case stems =>
    intro other member
    rcases rows other member with rfl | ⟨old, earlier, same⟩
    · exact ⟨source, job, stems⟩
    · obtain ⟨source', job'', stems'⟩ := before.stems old earlier
      exact ⟨source', job'', same ▸ (stems'.extend published.extended).restate other.status⟩
  case keys => exact keys
  case jobs =>
    intro first member second member' same
    rcases rows first member with rfl | ⟨old, earlier, was⟩
    · rcases rows second member' with rfl | ⟨old, earlier, was⟩
      · rfl
      · rw [was] at same
        exact absurd same.symm (fresh old earlier)
    · rcases rows second member' with rfl | ⟨old', earlier', was'⟩
      · rw [was] at same
        exact absurd same (fresh old earlier)
      · rw [was, was'] at same ⊢
        exact before.jobs old earlier old' earlier' same
  case active =>
    intro first member second member' active active' sameTenant sameSolution
    by_cases ours' : first.tenantId = row.tenantId ∧ first.solutionId = row.solutionId
    · rw [alone first member active ours'.1 ours'.2, alone second member' active'
        (sameTenant.symm.trans ours'.1) (sameSolution.symm.trans ours'.2)]
    · have earlier : ∀ other ∈ next.deployments.rows, other.status = .active →
          ¬ (other.tenantId = row.tenantId ∧ other.solutionId = row.solutionId) →
            other ∈ state.deployments.rows := by
        intro other present served others
        rcases published.deployments other present with rfl | ⟨old, was, rfl⟩ | ⟨kept, -⟩
        · exact absurd ⟨rfl, rfl⟩ others
        · cases served
        · exact kept
      refine before.active first (earlier first member active ours') second
        (earlier second member' active' ?_) active active' sameTenant sameSolution
      rwa [← sameTenant, ← sameSolution]

theorem reuse_extends (known : state.solutions.find solution.id = some solution) :
    Extends state (reuse state project source solution row) where
  sources _ member := member
  jobs _ member := member
  linked tenantId projectId id linked := by
    let now : Solution := { solution with
      productionState := "online", productionUrl := some row.publicUrl,
      currentVersionReference := some source.id.text }
    exact (linkedSolution_of_replace state now rfl known rfl rfl rfl tenantId projectId).trans linked

theorem Consistent.of_deploy (before : Consistent hosting state) {result : Deployed}
    (done : deploy hosting state call = .ok (result, next)) : Consistent hosting next := by
  obtain ⟨project, source, digest, opened, solution, prepared, way⟩ := deploy_cases done
  obtain ⟨extended, -, -, -, -, linked⟩ := solutionToDeploy_eq_ok prepared.linked
  have consistent := before.opened prepared.linked
  have known := Table.find_of_mem (StudioState.linkedSolution_eq_some linked).1
  rcases way with ⟨-, -, -, rfl⟩ | ⟨job, -, -, -, rfl⟩ | published
  · exact consistent.same_rows (reuse_extends known) rfl rfl
  · exact consistent
  · obtain ⟨made, -, ours⟩ := StudioState.activeSource_mem prepared.chosen
    exact consistent.of_publish (extended.sources source made) ours prepared.bundled linked published

theorem Consistent.step (before : Consistent hosting state) {move : StudioMove}
    (moved : state.step hosting move = some next) : Consistent hosting next := by
  cases move with
  | deploy call =>
    cases moved
    unfold afterwards
    split
    · next done => exact before.of_deploy done
    · exact before
  | rollback call =>
    cases moved
    unfold afterwards
    split
    · next done => exact before.of_rollback done
    · exact before
  | activateSource project source =>
    obtain ⟨row, -, same⟩ := Option.map_eq_some_iff.mp moved
    cases same
    exact before.same_rows ⟨fun _ member => member, fun _ member => member, fun _ _ _ linked => linked⟩ rfl rfl
  | createProject row =>
    cases moved
    exact before.same_rows ⟨fun _ member => member, fun _ member => member, fun _ _ _ linked => linked⟩ rfl rfl
  | createSource row =>
    cases moved
    exact before.same_rows
      ⟨fun _ member => Table.mem_insert_of_mem member, fun _ member => member, fun _ _ _ linked => linked⟩ rfl rfl
  | changeDisk disk =>
    cases moved
    exact before.same_rows ⟨fun _ member => member, fun _ member => member, fun _ _ _ linked => linked⟩ rfl rfl

def Undeployed (state : StudioState) : Prop := state.jobs.rows = [] ∧ state.deployments.rows = []

theorem Undeployed.consistent (start : Undeployed state) : Consistent hosting state where
  stems row member := by
    rw [start.2] at member
    cases member
  keys job member := by
    rw [start.1] at member
    cases member
  jobs row member := by
    rw [start.2] at member
    cases member
  active row member := by
    rw [start.2] at member
    cases member

theorem Consistent.of_runs {start final : StudioState} {moves : List StudioMove} (undeployed : Undeployed start)
    (run : Runs (StudioState.step hosting) (fun _ _ => True) start moves final) : Consistent hosting final := by
  refine run.invariant undeployed.consistent ?_
  intro state move next before _ moved
  exact before.step moved

theorem Consistent.same_of_version (consistent : Consistent hosting state) {other : SolutionDeployment}
    (member : row ∈ state.deployments.rows) (member' : other ∈ state.deployments.rows)
    (tenant : row.tenantId = other.tenantId) (version : row.versionReference = other.versionReference) :
    row = other := by
  obtain ⟨source, job, stems⟩ := consistent.stems row member
  obtain ⟨source', job', stems'⟩ := consistent.stems other member'
  have sources : source = source' := by
    apply List.inj_on_of_nodup_map state.sources.distinct stems.made stems'.made
    exact Uuid.text_inj.mp (stems.version.symm.trans (version.trans stems'.version))
  have digests : row.artifactDigest = other.artifactDigest := by
    have same := stems.digest.symm.trans (sources ▸ stems'.digest)
    exact Option.some.inj same
  have jobs : job = job' := by
    apply consistent.keys job stems.queued job' stems'.queued
    · rw [stems.tenant, stems'.tenant, tenant]
    · rw [stems.key, stems'.key, sources, digests]
  apply List.inj_on_of_nodup_map state.deployments.distinct member member'
  apply consistent.jobs row member other member'
  rw [← stems.jobId, ← stems'.jobId, jobs]

end Invariant

/-! ### What a deploy returns -/

section Returned
variable {hosting : Hosting} {state next : StudioState}

/-- The deployment that is returned is the active one of the project's solution, of the active
source version of the project and with the digest of its bundle. -/
def ReturnsActive (hosting : Hosting) (call : DeployCall) (result : Deployed) (next : StudioState) : Prop :=
  ∃ project source solution, next.project call.tenantId call.projectId = .ok project ∧
    next.activeSource project = some source ∧
    next.linkedSolution call.tenantId call.projectId = some solution ∧
    next.activeDeployment call.tenantId solution.id = some result.deployment ∧
    result.deployment.versionReference = source.id.text ∧
    publishedDigest hosting source = some result.deployment.artifactDigest

/-- No healthy deployment of the active source version was superseded or rolled back. -/
def Undisplaced (state : StudioState) (call : DeployCall) : Prop :=
  ∀ project source, state.project call.tenantId call.projectId = .ok project →
    state.activeSource project = some source → ∀ row ∈ state.deployments.rows,
      row.tenantId = call.tenantId → row.versionReference = source.id.text → row.health = .healthy →
        row.status = .active

variable {call : DeployCall} {project : SoftwareProject} {source : SourceVersion} {tenantId : String}

theorem returnsActive_iff {result : Deployed} {id : Uuid}
    (found : next.project call.tenantId call.projectId = .ok project)
    (chosen : next.activeSource project = some source)
    (linked : (next.linkedSolution call.tenantId call.projectId).map (·.id) = some id) :
    ReturnsActive hosting call result next ↔
      next.activeDeployment call.tenantId id = some result.deployment ∧
        result.deployment.versionReference = source.id.text ∧
        publishedDigest hosting source = some result.deployment.artifactDigest := by
  obtain ⟨solution, known, rfl⟩ := Option.map_eq_some_iff.mp linked
  constructor
  · intro ⟨project', source', solution', found', chosen', known', active, version, digest⟩
    cases found.symm.trans found'
    cases chosen.symm.trans chosen'
    cases known.symm.trans known'
    exact ⟨active, version, digest⟩
  · intro ⟨active, version, digest⟩
    exact ⟨project, source, solution, found, chosen, known, active, version, digest⟩

theorem project_of_replace {projectId : String} {now : SoftwareProject}
    (found : state.project tenantId projectId = .ok project) (updated : next.projects = state.projects.replace now)
    (id : now.id = project.id) (tenant : now.tenantId = project.tenantId) : next.project tenantId projectId = .ok now := by
  obtain ⟨member, -, -, searched⟩ := StudioState.project_eq_ok found
  have held : state.projects.find now.id = some project := id ▸ Table.find_of_mem member
  unfold StudioState.project
  rw [updated, Table.find?_replace held (by simp [id, tenant]), searched]
  simp [id]

theorem activeSource_serving (row : SolutionDeployment) (sources : next.sources = state.sources) :
    next.activeSource (serving row project) = state.activeSource project := by
  unfold StudioState.activeSource
  rw [sources]
  rfl

theorem undisplaced_iff (found : state.project call.tenantId call.projectId = .ok project)
    (chosen : state.activeSource project = some source) :
    Undisplaced state call ↔ ∀ row ∈ state.deployments.rows, row.tenantId = call.tenantId →
      row.versionReference = source.id.text → row.health = .healthy → row.status = .active := by
  constructor
  · exact fun undisplaced => undisplaced project source found chosen
  · intro holds project' source' found' chosen'
    cases found.symm.trans found'
    cases chosen.symm.trans chosen'
    exact holds

theorem Consistent.deployed_of_key (consistent : Consistent hosting state) {digest : String} {job : SolutionJob}
    {row : SolutionDeployment} (made : source ∈ state.sources.rows)
    (bundled : publishedDigest hosting source = some digest)
    (keyed : state.jobByKey tenantId (deployKey source.projectId source.id digest) = some job)
    (deployed : state.deploymentOfJob tenantId job.id = some row) :
    row ∈ state.deployments.rows ∧ row.tenantId = tenantId ∧ row.versionReference = source.id.text ∧
      row.artifactDigest = digest ∧
      (state.linkedSolution tenantId source.projectId.text).map (·.id) = some row.solutionId := by
  obtain ⟨queued, -, key⟩ := StudioState.jobByKey_eq_some keyed
  obtain ⟨member, tenant, jobId⟩ := StudioState.deploymentOfJob_eq_some deployed
  obtain ⟨source', job', stems⟩ := consistent.stems row member
  have jobs : job' = job :=
    List.inj_on_of_nodup_map state.jobs.distinct stems.queued queued (stems.jobId.trans jobId)
  have keys : deployKey source'.projectId source'.id row.artifactDigest =
      deployKey source.projectId source.id digest := by rw [← stems.key, jobs, key]
  obtain ⟨-, ids⟩ :=
    deployKey_inj (publishedDigest_length stems.digest) (publishedDigest_length bundled) keys
  have sources : source' = source := List.inj_on_of_nodup_map state.sources.distinct stems.made made ids
  refine ⟨member, tenant, sources ▸ stems.version, ?_, ?_⟩
  · exact Option.some.inj (stems.digest.symm.trans (sources ▸ bundled))
  · exact tenant ▸ sources ▸ stems.linked

theorem Consistent.undeployed_of_unkeyed (consistent : Consistent hosting state) {digest : String}
    (made : source ∈ state.sources.rows) (bundled : publishedDigest hosting source = some digest)
    (unkeyed : ∀ job ∈ state.jobs.rows, job.tenantId = tenantId →
      job.idempotencyKey ≠ deployKey source.projectId source.id digest) :
    ∀ row ∈ state.deployments.rows, row.tenantId = tenantId → row.versionReference ≠ source.id.text := by
  intro row member tenant version
  obtain ⟨source', job, stems⟩ := consistent.stems row member
  have sources : source' = source := by
    apply List.inj_on_of_nodup_map state.sources.distinct stems.made made
    exact Uuid.text_inj.mp (stems.version.symm.trans version)
  have digests : row.artifactDigest = digest :=
    Option.some.inj (stems.digest.symm.trans (sources ▸ bundled))
  apply unkeyed job stems.queued (stems.tenant.trans tenant)
  rw [stems.key, sources, digests]

theorem Consistent.iff_undisplaced (consistent : Consistent hosting state) {result : Deployed}
    (done : deploy hosting state call = .ok (result, next)) :
    ReturnsActive hosting call result next ↔ Undisplaced state call := by
  obtain ⟨project, source, digest, opened, solution, prepared, way⟩ := deploy_cases done
  obtain ⟨extended, rows, jobs, projects, sources, linked⟩ := solutionToDeploy_eq_ok prepared.linked
  obtain ⟨-, named, -, -⟩ := StudioState.project_eq_ok prepared.found
  obtain ⟨made, -, ours⟩ := StudioState.activeSource_mem prepared.chosen
  have steady := consistent.opened prepared.linked
  have made' := extended.sources source made
  have known := Table.find_of_mem (StudioState.linkedSolution_eq_some linked).1
  have found : opened.project call.tenantId call.projectId = .ok project := by
    unfold StudioState.project
    rw [projects]
    exact prepared.found
  have chosen : opened.activeSource project = some source := by
    unfold StudioState.activeSource
    rw [sources]
    exact prepared.chosen
  have ids : (opened.linkedSolution call.tenantId call.projectId).map (·.id) = some solution.id := by
    rw [← named, linked, Option.map_some]
  rw [undisplaced_iff prepared.found prepared.chosen, ← rows]
  rcases way with ⟨active, version, sealed, rfl⟩ | ⟨job, keyed, deployed, healthy, rfl⟩ | published
  · -- the active deployment is reused
    obtain ⟨member, tenant, -, served⟩ := StudioState.activeDeployment_mem active
    let now := reuse opened project source solution result.deployment
    have projects' : now.projects = opened.projects.replace (serving result.deployment project) := rfl
    have sources' : now.sources = opened.sources := rfl
    have projectNow := project_of_replace found projects' rfl rfl
    have sourceNow := (activeSource_serving result.deployment sources').trans chosen
    rw [returnsActive_iff projectNow sourceNow ((reuse_extends known).linked _ _ _ ids)]
    constructor
    · intro _ row present tenant' version' _
      rw [steady.same_of_version present member (tenant'.trans tenant.symm) (version'.trans version.symm)]
      exact served
    · intro _
      exact ⟨active, version, sealed ▸ prepared.bundled⟩
  · -- the deployment of an earlier job is returned
    rw [← ours] at keyed
    obtain ⟨member, tenant, version, sealed, linked'⟩ :=
      steady.deployed_of_key made' prepared.bundled keyed deployed
    rw [returnsActive_iff found chosen ids]
    constructor
    · intro ⟨active, _, _⟩ row present tenant' version' _
      rw [steady.same_of_version present member (tenant'.trans tenant.symm) (version'.trans version.symm)]
      exact (StudioState.activeDeployment_mem active).2.2.2
    · intro undisplaced
      have active := steady.activeDeployment member (undisplaced _ member tenant version healthy)
      rw [ours, linked, Option.map_some, Option.some.injEq] at linked'
      rw [tenant, ← linked'] at active
      exact ⟨active, version, sealed ▸ prepared.bundled⟩
  · -- a new deployment takes over
    obtain ⟨tenant, solution', -, version, sealed, served⟩ := published.row_columns
    have after := steady.of_publish made' ours prepared.bundled linked published
    have active := after.activeDeployment published.present served
    rw [tenant, solution'] at active
    have projectNow := project_of_replace found published.projects rfl rfl
    have sourceNow := (activeSource_serving result.deployment published.sources).trans chosen
    rw [returnsActive_iff projectNow sourceNow (published.extended.linked _ _ _ ids)]
    constructor
    · intro _ row present tenant' version' _
      have unkeyed := published.unkeyed
      rw [← ours] at unkeyed
      exact absurd version' (steady.undeployed_of_unkeyed made' prepared.bundled unkeyed row present tenant')
    · intro _
      exact ⟨active, version, sealed ▸ prepared.bundled⟩

/-- After any deploys and rollbacks, one after another and with the active source of a project
changing in between, a deploy that returns gives back the active deployment, of the active source,
exactly when no healthy deployment of that source was superseded or rolled back. -/
theorem deploy_returns_active_iff {start : StudioState} {moves : List StudioMove}
    (undeployed : Undeployed start)
    (run : Runs (StudioState.step hosting) (fun _ _ => True) start moves state) {call : DeployCall}
    {result : Deployed} (done : deploy hosting state call = .ok (result, next)) :
    ReturnsActive hosting call result next ↔ Undisplaced state call :=
  (Consistent.of_runs undeployed run).iff_undisplaced done

end Returned

/-! ### A project with two source versions -/

def sampleId (c : Char) : Uuid := ⟨String.ofList (List.replicate 36 c), by simp⟩

def sampleHosting : Hosting where
  root := some "/srv/operly"
  publicBaseUrl := "http://localhost:8080"
  sha256 text :=
    if text = "index.html\x00one\x00" then
      "d97c1aa4b00c9ee7aef95f78a4e40c0d68b8c225b37f05987cb1f45286fd0a29"
    else if text = "index.html\x00two\x00" then
      "71205c8fcf5fe7df6dfc271eb5e40576590e28671a02fdcf18f501bc6207b513"
    else String.ofList (List.replicate 64 '0')
  sha256_length text := by
    split
    · decide
    · split
      · decide
      · simp
  str _ := ""

def sampleProject : SoftwareProject where
  id := sampleId 'p'
  tenantId := "tenant-1"
  name := "Shop"
  description := ""
  state := "draft"
  activeSourceVersionId := none
  activeRuntimeId := none

def sampleSource (id : Char) (number : Int) (text : String) : SourceVersion where
  id := sampleId id
  tenantId := "tenant-1"
  projectId := sampleId 'p'
  sourceVersion := number
  runtimeProfile := "static_html"
  files := some (.obj [("index.html", .str text)])

def sampleStudio : StudioState where
  projects := Table.empty.insert sampleProject
  sources := (Table.empty.insert (sampleSource '1' 1 "one")).insert (sampleSource '2' 2 "two")
  solutions := .empty
  jobs := .empty
  deployments := .empty
  disk _ := none

def sampleDeploy (job deployment : Char) (now : Int) : DeployCall where
  tenantId := "tenant-1"
  userId := some "owner"
  projectId := (sampleId 'p').text
  solutionName := none
  now := now
  deployedAt := now + 1
  solutionId := sampleId 's'
  jobId := sampleId job
  deploymentId := sampleId deployment
  suffix := String.ofList [deployment]
  writeFails := false

def activate (source : Char) : StudioMove := .activateSource (sampleId 'p') (some (sampleId source).text)

def sampleMoves : List StudioMove :=
  [activate '1', .deploy (sampleDeploy 'j' 'd' 0), activate '2']

def returnMoves : List StudioMove := sampleMoves ++ [.deploy (sampleDeploy 'k' 'e' 10), activate '1']

theorem sampleStudio_undeployed : Undeployed sampleStudio := ⟨rfl, rfl⟩

def returned (state : StudioState) (call : DeployCall) : Option Bool :=
  match deploy sampleHosting state call with
  | .ok (result, next) => some ((next.linkedSolution call.tenantId call.projectId).any fun solution =>
      next.activeDeployment call.tenantId solution.id = some result.deployment)
  | .error _ => none

theorem returned_eq_some {state : StudioState} {call : DeployCall} {active : Bool}
    (answer : returned state call = some active) :
    ∃ result next, deploy sampleHosting state call = .ok (result, next) ∧
      (ReturnsActive sampleHosting call result next → active = true) := by
  unfold returned at answer
  split at answer
  · next result next done =>
    refine ⟨result, next, done, ?_⟩
    intro ⟨project, source, solution, _, _, linked, found, _⟩
    rw [linked] at answer
    simpa [found] using answer.symm
  · cases answer

theorem sampleMoves_returned :
    (sampleMoves.foldlM (StudioState.step sampleHosting) sampleStudio).map (fun state =>
      (state.deployments.rows.all (·.status = .active), returned state (sampleDeploy 'k' 'e' 10))) =
        some (true, some true) := by
  decide

theorem deploy_returns_active_second : ∃ state result next,
    Runs (StudioState.step sampleHosting) (fun _ _ => True) sampleStudio sampleMoves state ∧
      deploy sampleHosting state (sampleDeploy 'k' 'e' 10) = .ok (result, next) ∧
      ReturnsActive sampleHosting (sampleDeploy 'k' 'e' 10) result next := by
  obtain ⟨state, evaluated, answer⟩ := Option.map_eq_some_iff.mp sampleMoves_returned
  rw [Prod.mk.injEq] at answer
  obtain ⟨result, next, done, -⟩ := returned_eq_some answer.2
  have run := Runs.of_foldlM evaluated
  refine ⟨state, result, next, run, done, ?_⟩
  refine (deploy_returns_active_iff sampleStudio_undeployed run done).mpr ?_
  intro project source _ _ row member _ _ _
  simpa using List.all_eq_true.mp answer.1 row member

theorem returnMoves_returned :
    (returnMoves.foldlM (StudioState.step sampleHosting) sampleStudio).map (fun state =>
      returned state (sampleDeploy 'l' 'f' 20)) = some (some false) := by
  decide +kernel

/-- A deploy of a version that was deployed before another one returns its superseded deployment. -/
theorem deploy_returns_superseded : Undeployed sampleStudio ∧ ∃ state result next,
    Runs (StudioState.step sampleHosting) (fun _ _ => True) sampleStudio returnMoves state ∧
      deploy sampleHosting state (sampleDeploy 'l' 'f' 20) = .ok (result, next) ∧
      ¬ ReturnsActive sampleHosting (sampleDeploy 'l' 'f' 20) result next := by
  obtain ⟨state, evaluated, answer⟩ := Option.map_eq_some_iff.mp returnMoves_returned
  obtain ⟨result, next, done, returns⟩ := returned_eq_some answer
  refine ⟨sampleStudio_undeployed, state, result, next, .of_foldlM evaluated, done, ?_⟩
  intro active
  cases returns active

end Operly.Studio
