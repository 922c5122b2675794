import Mathlib.Data.List.Destutter
import Operly.Relational.Table
import Operly.Studio.Bundle

/-! `studio.solution.deploy` and `studio.solution.rollback` over the Studio tables. An exception
leaves the tables alone: the Kernel rolls the session of a provider back that raises. -/

namespace Operly.Studio
open Python Kernel Relational

structure SoftwareProject where
  id : Uuid
  tenantId : String
  name : String
  description : String
  state : String
  activeSourceVersionId : Option String
  activeRuntimeId : Option String
  deriving DecidableEq

structure Solution where
  id : Uuid
  tenantId : String
  name : String
  description : String
  solutionType : String
  lifecycleStatus : String
  runtimeType : String
  runtimeReference : String
  currentVersionReference : Option String
  previewState : String
  productionState : String
  productionUrl : Option String
  visibility : String
  deriving DecidableEq

structure SolutionJob where
  id : Uuid
  tenantId : String
  solutionId : Uuid
  sourceVersionReference : String
  jobType : String
  status : String
  idempotencyKey : String
  queuedAt : Int
  startedAt : Int
  endedAt : Option Int
  createdBy : Option String
  deriving DecidableEq

inductive DeploymentStatus where
  | provisioning
  | active
  | superseded
  | rolledBack
  | failed
  deriving DecidableEq

inductive HealthState where
  | pending
  | healthy
  | unhealthy
  deriving DecidableEq

structure SolutionDeployment where
  id : Uuid
  tenantId : String
  solutionId : Uuid
  jobId : Uuid
  versionReference : String
  previousDeploymentId : Option Uuid
  publicSlug : String
  publicUrl : String
  artifactReference : String
  artifactDigest : String
  status : DeploymentStatus
  health : HealthState
  deployedAt : Option Int
  createdAt : Int
  deriving DecidableEq

structure Artifact where
  hasIndex : Bool
  deriving DecidableEq

structure StudioState where
  projects : Table SoftwareProject Uuid SoftwareProject.id
  sources : Table SourceVersion Uuid SourceVersion.id
  solutions : Table Solution Uuid Solution.id
  jobs : Table SolutionJob Uuid SolutionJob.id
  deployments : Table SolutionDeployment Uuid SolutionDeployment.id
  /-- The directories below `studio-sites`. -/
  disk : String → Option Artifact

namespace StudioState

def project (state : StudioState) (tenantId projectId : String) : Except KernelError SoftwareProject :=
  match state.projects.rows.find? fun row => row.id.text = projectId && row.tenantId = tenantId with
  | some row => .ok row
  | none => .error (.lookup "Studio project not found in this Workspace")

def activeSource (state : StudioState) (project : SoftwareProject) : Option SourceVersion :=
  let own := state.sources.select fun row => row.tenantId = project.tenantId && row.projectId = project.id
  (match project.activeSourceVersionId with
    | some reference => if reference = "" then none else own.find? fun row : SourceVersion => row.id.text = reference
    | none => none).or (own.insertionSort fun first second : SourceVersion =>
      second.sourceVersion ≤ first.sourceVersion).head?

def linkedSolution (state : StudioState) (tenantId projectId : String) : Option Solution :=
  state.solutions.rows.find? fun row =>
    row.tenantId = tenantId && row.runtimeType = "software_project" && row.runtimeReference = projectId

def solution (state : StudioState) (tenantId solutionId : String) : Except KernelError Solution :=
  match state.solutions.rows.find? fun row => row.id.text = solutionId && row.tenantId = tenantId with
  | some row => .ok row
  | none => .error (.lookup "Studio Solution not found in this Workspace")

/-- `ORDER BY deployed_at DESC, created_at DESC`, where a null comes first. -/
def laterDeployment (first second : SolutionDeployment) : Bool :=
  match first.deployedAt, second.deployedAt with
  | none, some _ => true
  | some _, none => false
  | none, none => second.createdAt ≤ first.createdAt
  | some earlier, some later => later < earlier || (later = earlier && second.createdAt ≤ first.createdAt)

def activeDeployment (state : StudioState) (tenantId : String) (solutionId : Uuid) :
    Option SolutionDeployment :=
  ((state.deployments.select fun row =>
    row.tenantId = tenantId && row.solutionId = solutionId && row.status = .active).insertionSort
      fun first second => laterDeployment first second).head?

def jobByKey (state : StudioState) (tenantId key : String) : Option SolutionJob :=
  state.jobs.rows.find? fun row => row.tenantId = tenantId && row.idempotencyKey = key

def deploymentOfJob (state : StudioState) (tenantId : String) (jobId : Uuid) : Option SolutionDeployment :=
  state.deployments.rows.find? fun row => row.tenantId = tenantId && row.jobId = jobId

def integrityError : KernelError := .other "IntegrityError"

def addSolution (state : StudioState) (row : Solution) : Except KernelError StudioState :=
  if (state.solutions.find row.id).isSome || state.solutions.rows.any fun old =>
      old.tenantId = row.tenantId && old.runtimeType = row.runtimeType &&
        old.runtimeReference = row.runtimeReference then .error integrityError
  else .ok { state with solutions := state.solutions.insert row }

def addJob (state : StudioState) (row : SolutionJob) : Except KernelError StudioState :=
  if (state.jobs.find row.id).isSome || state.jobs.rows.any fun old =>
      old.tenantId = row.tenantId && old.idempotencyKey = row.idempotencyKey then .error integrityError
  else .ok { state with jobs := state.jobs.insert row }

def addDeployment (state : StudioState) (row : SolutionDeployment) : Except KernelError StudioState :=
  if (state.deployments.find row.id).isSome || state.deployments.rows.any fun old =>
      old.publicSlug = row.publicSlug then .error integrityError
  else .ok { state with deployments := state.deployments.insert row }

def updateSolution (state : StudioState) (row : Solution) : StudioState :=
  { state with solutions := state.solutions.replace row }

def updateProject (state : StudioState) (row : SoftwareProject) : StudioState :=
  { state with projects := state.projects.replace row }

def updateJob (state : StudioState) (row : SolutionJob) : StudioState :=
  { state with jobs := state.jobs.replace row }

def updateDeployment (state : StudioState) (row : SolutionDeployment) : StudioState :=
  { state with deployments := state.deployments.replace row }

def supersede (state : StudioState) (active : Option SolutionDeployment) : StudioState :=
  { state with deployments := match active with
      | some row => state.deployments.replace { row with status := .superseded }
      | none => state.deployments }

def restore (state : StudioState) (current target : SolutionDeployment) : StudioState :=
  (state.updateDeployment { current with status := .rolledBack }).updateDeployment
    { target with status := .active }

end StudioState

def serving (row : SolutionDeployment) (project : SoftwareProject) : SoftwareProject :=
  { project with state := "deployed", activeRuntimeId := some row.id.text }

/-! ### Deploy -/

/-- What a deploy is called with, what it draws, and what the disk makes of its bundle. -/
structure DeployCall where
  tenantId : String
  userId : Option String
  projectId : String
  solutionName : Option String
  now : Int
  deployedAt : Int
  solutionId : Uuid
  jobId : Uuid
  deploymentId : Uuid
  /-- `uuid4().hex[:6]` -/
  suffix : String
  /-- `_write_bundle` raised. -/
  writeFails : Bool

structure Deployed where
  reused : Bool
  solution : Solution
  deployment : SolutionDeployment
  deployability : Deployability

def slug (name : String) : String :=
  let plain (c : Char) : Bool := ('a' ≤ c && c ≤ 'z') || ('0' ≤ c && c ≤ '9')
  let marked := (lower (strip name)).toList.map fun c => if plain c then c else '-'
  -- a run of other characters becomes one dash
  let dashed := marked.destutter fun a b => ¬ (a = '-' ∧ b = '-')
  let cleaned := String.ofList ((dashed.dropWhile (· = '-')).rdropWhile (· = '-'))
  String.ofList ((if cleaned = "" then "studio-solution" else cleaned).toList.take 80)

def deployKey (project source : Uuid) (digest : String) : String :=
  "studio-deploy:" ++ project.text ++ ":" ++ source.text ++ ":" ++ String.ofList (digest.toList.take 24)

def newSolution (call : DeployCall) (project : SoftwareProject) (source : SourceVersion) : Solution where
  id := call.solutionId
  tenantId := call.tenantId
  name := String.ofList ((match call.solutionName with
    | some name => if name = "" then project.name else name
    | none => project.name).toList.take 200)
  description := project.description
  solutionType := "studio_software"
  lifecycleStatus := "approved"
  runtimeType := "software_project"
  runtimeReference := project.id.text
  currentVersionReference := some source.id.text
  previewState := "available"
  productionState := "deploying"
  productionUrl := none
  visibility := "public"

def solutionToDeploy (state : StudioState) (call : DeployCall) (project : SoftwareProject)
    (source : SourceVersion) : Except KernelError (StudioState × Solution) :=
  match state.linkedSolution call.tenantId project.id.text with
  | some solution => .ok (state, solution)
  | none => do
      let solution := newSolution call project source
      return (← state.addSolution solution, solution)

def newJob (call : DeployCall) (solution : Solution) (source : SourceVersion) (key : String) :
    SolutionJob where
  id := call.jobId
  tenantId := call.tenantId
  solutionId := solution.id
  sourceVersionReference := source.id.text
  jobType := "deploy"
  status := "running"
  idempotencyKey := key
  queuedAt := call.now
  startedAt := call.now
  endedAt := none
  createdBy := call.userId

def newDeployment (hosting : Hosting) (call : DeployCall) (project : SoftwareProject)
    (source : SourceVersion) (solution : Solution) (active : Option SolutionDeployment)
    (digest : String) : SolutionDeployment where
  id := call.deploymentId
  tenantId := call.tenantId
  solutionId := solution.id
  jobId := call.jobId
  versionReference := source.id.text
  previousDeploymentId := active.map (·.id)
  publicSlug := slug project.name ++ "-" ++ String.ofList (solution.id.text.toList.take 8) ++ "-" ++
    toString source.sourceVersion ++ "-" ++ call.suffix
  publicUrl := hosting.publicBaseUrl ++ "/studio-sites/" ++ solution.id.text ++ "/"
  artifactReference := "pending"
  artifactDigest := digest
  status := .provisioning
  health := .pending
  deployedAt := none
  createdAt := call.now

def siteDirectory (root : String) (deploymentId : Uuid) : String :=
  root ++ "/studio-sites/" ++ deploymentId.text

def online (root : String) (call : DeployCall) (row : SolutionDeployment) : SolutionDeployment :=
  { row with
    artifactReference := siteDirectory root row.id, status := .active, health := .healthy,
    deployedAt := some call.deployedAt }

def completed (call : DeployCall) (job : SolutionJob) : SolutionJob :=
  { job with status := "completed", endedAt := some call.deployedAt }

def released (source : SourceVersion) (row : SolutionDeployment) (solution : Solution) : Solution :=
  { solution with
    lifecycleStatus := "published", currentVersionReference := some source.id.text,
    productionState := "online", productionUrl := some row.publicUrl, visibility := "public" }

def servesSource (state : StudioState) (source : SourceVersion) (digest : String)
    (active : SolutionDeployment) : Bool :=
  active.versionReference = source.id.text && active.artifactDigest = digest &&
    active.health = .healthy && (state.disk active.artifactReference).isSome

/-- A new job and a new deployment, whose bundle is written and which takes over from the active
one. -/
def publish (hosting : Hosting) (state : StudioState) (call : DeployCall) (project : SoftwareProject)
    (source : SourceVersion) (solution : Solution) (active : Option SolutionDeployment)
    (deployability : Deployability) (key digest : String) : Except KernelError (Deployed × StudioState) := do
  let job := newJob call solution source key
  let state ← state.addJob job
  let deployment := newDeployment hosting call project source solution active digest
  let state ← state.addDeployment deployment
  let unpublished := KernelError.runtime "Studio deployment could not publish the verified bundle"
  if call.writeFails then throw unpublished
  else
    match hosting.root with
    | none => throw unpublished
    | some root =>
        let deployment := online root call deployment
        let solution := released source deployment solution
        let state := { state with
          disk := fun path => if path = deployment.artifactReference then some { hasIndex := true } else state.disk path }
        let state := state.updateDeployment deployment
        let state := state.supersede active
        let state := state.updateJob (completed call job)
        let state := state.updateSolution solution
        let state := state.updateProject (serving deployment project)
        return ({ reused := false, solution, deployment, deployability }, state)

/-- `WorkspaceStudioProvider.execute` for `studio.solution.deploy`. -/
def deploy (hosting : Hosting) (state : StudioState) (call : DeployCall) :
    Except KernelError (Deployed × StudioState) := do
  let project ← state.project call.tenantId call.projectId
  match state.activeSource project with
  | none => throw (.value "This Studio project has no canonical source version to deploy")
  | some source =>
      let (_, deployability) ← publishableBundle hosting source
      match deployability with
      | .refused reason => throw (.value reason)
      | .deployable _ _ _ digest =>
          let (state, solution) ← solutionToDeploy state call project source
          let active := state.activeDeployment call.tenantId solution.id
          match active.filter (servesSource state source digest) with
          | some active =>
              let solution := { solution with
                productionState := "online", productionUrl := some active.publicUrl,
                currentVersionReference := some source.id.text }
              let state := (state.updateSolution solution).updateProject (serving active project)
              return ({ reused := true, solution, deployment := active, deployability }, state)
          | none =>
              let key := deployKey project.id source.id digest
              let existing := (state.jobByKey call.tenantId key).bind fun job =>
                (state.deploymentOfJob call.tenantId job.id).filter (·.health = .healthy)
              match existing with
              | some deployment =>
                  -- returned as it is, whatever has become of it since
                  return ({ reused := true, solution, deployment, deployability }, state)
              | none => publish hosting state call project source solution active deployability key digest

structure RollbackCall where
  tenantId : String
  userId : Option String
  solutionId : String
  deploymentId : Option String
  now : Int
  jobId : Uuid

structure RolledBack where
  solution : Solution
  deployment : SolutionDeployment
  reused : Bool

/-- `str(arguments.get("deployment_id") or current.previous_deployment_id or "").strip()` -/
def rollbackTarget (call : RollbackCall) (current : SolutionDeployment) : String :=
  strip (match call.deploymentId with
    | some id => if id = "" then (current.previousDeploymentId.map (·.text)).getD "" else id
    | none => (current.previousDeploymentId.map (·.text)).getD "")

def rollbackJob (state : StudioState) (call : RollbackCall) (solution : Solution)
    (current target : SolutionDeployment) : Except KernelError StudioState :=
  let key := "studio-rollback:" ++ solution.id.text ++ ":" ++ current.id.text ++ ":" ++ target.id.text
  match state.jobByKey call.tenantId key with
  | some _ => .ok state
  | none => state.addJob
      { id := call.jobId, tenantId := call.tenantId, solutionId := solution.id,
        sourceVersionReference := target.versionReference, jobType := "rollback",
        status := "completed", idempotencyKey := key, queuedAt := call.now, startedAt := call.now,
        endedAt := some call.now, createdBy := call.userId }

def restored (target : SolutionDeployment) (solution : Solution) : Solution :=
  { solution with
    productionState := "online", productionUrl := some target.publicUrl,
    currentVersionReference := some target.versionReference }

def followRollback (state : StudioState) (call : RollbackCall) (solution : Solution)
    (target : SolutionDeployment) : Except KernelError StudioState :=
  if solution.runtimeType = "software_project" then do
    let project ← state.project call.tenantId solution.runtimeReference
    return state.updateProject (serving target project)
  else .ok state

/-- `WorkspaceStudioProvider.execute` for `studio.solution.rollback`. -/
def rollback (hosting : Hosting) (state : StudioState) (call : RollbackCall) :
    Except KernelError (RolledBack × StudioState) := do
  let solution ← state.solution call.tenantId call.solutionId
  match state.activeDeployment call.tenantId solution.id with
  | none => throw (.value "Studio Solution has no active deployment to roll back")
  | some current =>
      let targetId := rollbackTarget call current
      if targetId = "" then throw (.value "Studio Solution has no previous deployment")
      else
        let found := state.deployments.rows.find? fun row =>
          row.id.text = targetId && row.tenantId = call.tenantId && row.solutionId = solution.id
        match found.filter (·.health = .healthy) with
        | none => throw (.value "Rollback target is missing or is not a verified healthy deployment")
        | some target =>
            if hosting.root = none then
              throw (.runtime
                "OPERLY_DEPLOYMENT_ROOT is not configured; Studio deployment is fail-closed")
            else if (state.disk target.artifactReference).any (·.hasIndex) = false then
              throw (.value "Rollback target artifact is no longer available")
            else if current.id = target.id then
              return ({ solution, deployment := target, reused := true }, state)
            else
              let state ← rollbackJob state call solution current target
              let state := state.restore current target
              let target := { target with status := .active }
              let solution := restored target solution
              let state ← followRollback (state.updateSolution solution) call solution target
              return ({ solution, deployment := target, reused := false }, state)

end Operly.Studio
