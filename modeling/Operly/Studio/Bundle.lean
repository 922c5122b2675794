import Mathlib.Algebra.GroupWithZero.Nat
import Operly.Kernel.Contracts

/-! The publishable bundle of a source version of a Studio project. -/

namespace Operly.Studio
open Python Kernel

/-- `str(uuid4())` -/
structure Uuid where
  text : String
  length : text.toList.length = 36
  deriving DecidableEq

structure Hosting where
  /-- `OPERLY_DEPLOYMENT_ROOT`, resolved; `none` when it is not configured. -/
  root : Option String
  publicBaseUrl : String
  sha256 : String → String
  sha256_length : ∀ text, (sha256 text).toList.length = 64
  /-- `str(value)` of a value that may not be a text. -/
  str : Json → String

structure SourceVersion where
  id : Uuid
  tenantId : String
  projectId : Uuid
  sourceVersion : Int
  runtimeProfile : String
  /-- `json.loads(files_json)`; `none` when the text is not JSON. -/
  files : Option Json
  deriving DecidableEq

abbrev Files := List (String × String)

namespace Files

def get (files : Files) (path : String) : Option String := (files.find? (·.1 = path)).map (·.2)

def set (files : Files) (path data : String) : Files :=
  if files.any (·.1 = path) then files.map fun file => if file.1 = path then (path, data) else file
  else files ++ [(path, data)]

def has (files : Files) (path : String) : Bool := files.any (·.1 = path)

end Files

def staticRuntimeHints : List String :=
  ["static", "static_html", "html", "website", "web_static", "static-site"]

def maxPublishFiles : Nat := 1000
def maxPublishBytes : Nat := 50 * 1024 * 1024

def cleanPath (raw : String) : Except KernelError String :=
  let value := String.ofList ((replaceChar '\\' "/" raw).toList.dropWhile (· = '/'))
  -- a pure path drops empty parts and single dots
  let parts := (split '/' value).filter fun part => part ≠ "" && part ≠ "."
  if value = "" || parts.contains ".." then .error (.value "Studio source contains an unsafe path")
  else .ok (if parts.isEmpty then "." else "/".intercalate parts)

def fileRecords (hosting : Hosting) (raw : Json) : Except KernelError (List (String × Json)) :=
  match raw with
  | .obj fields => .ok fields
  | .arr items => .ok (items.filterMap fun item =>
      match item with
      | .obj fields =>
          (Fields.get fields "path").bind fun path =>
            if path.truthy then some (hosting.str path, item) else none
      | _ => none)
  | _ => .error (.value "Studio source bundle is malformed")

/-- The text of a file; `none` when there is none and the file is skipped. -/
def fileContent (hosting : Hosting) (path : String) (value : Json) : Except KernelError (Option String) :=
  match value with
  | .obj fields =>
      let content := ((Fields.get fields "content").or (Fields.get fields "text")).getD (.str "")
      let encoding := match Fields.get fields "encoding" with
        | some given => if given.truthy then hosting.str given else "utf-8"
        | none => "utf-8"
      if ["utf-8", "utf8", "text"].contains (lower encoding) then
        match content with
        | .str text => .ok (some text)
        | _ => .ok none
      else .error (.value ("Studio source file " ++ path ++ " uses an unsupported encoding"))
  | .str text => .ok (some text)
  | _ => .ok none

def addFile (hosting : Hosting) (gathered : Files × Nat) (file : String × Json) :
    Except KernelError (Files × Nat) := do
  let path ← cleanPath file.1
  match ← fileContent hosting path file.2 with
  | none => return gathered
  | some data =>
      let total := gathered.2 + data.utf8ByteSize
      if total > maxPublishBytes then
        throw (.value "Studio publish bundle exceeds the 50 MB deterministic limit")
      let files := Files.set gathered.1 path data
      if files.length > maxPublishFiles then
        throw (.value "Studio publish bundle contains too many files")
      return (files, total)

def sourceFiles (hosting : Hosting) (row : SourceVersion) : Except KernelError Files := do
  let records ← fileRecords hosting (row.files.getD (.obj []))
  let gathered ← records.foldlM (addFile hosting) ([], 0)
  return gathered.1

/-- Whether a source can be published, and what the evidence says. -/
inductive Deployability where
  | refused (reason : String)
  | deployable (publishPrefix : String) (fileCount sizeBytes : Nat) (artifactDigest : String)
  deriving DecidableEq

/-- Where the published files of a source lie: below a directory, with an entry point. -/
def entryPoint (files : Files) (profile : String) : Except String (String × String) :=
  if files.has "dist/index.html" then .ok ("dist/", "dist/index.html")
  else if files.has "build/index.html" then .ok ("build/", "build/index.html")
  else if files.has "index.html" && (staticRuntimeHints.contains profile || !files.has "package.json") then
    .ok ("", "index.html")
  else if files.has "package.json" then
    .error "React/Vite or other build source has no committed dist/build output"
  else .error "No publishable index.html was found"

def publishFile (publishPrefix : String) (publish : Files) (file : String × String) :
    Except KernelError Files :=
  if startsWith file.1 publishPrefix then
    let relative := String.ofList (file.1.toList.drop publishPrefix.toList.length)
    if relative = "" then .ok publish
    else do
      let path ← cleanPath relative
      return Files.set publish path file.2
  else .ok publish

/-- The digest of a bundle: every path and content in the order of the paths. -/
def bundleDigest (hosting : Hosting) (publish : Files) : String :=
  hosting.sha256 (String.join ((publish.insertionSort fun a b => a.1 ≤ b.1).map fun file =>
    file.1 ++ "\x00" ++ file.2 ++ "\x00"))

def publishableBundle (hosting : Hosting) (row : SourceVersion) :
    Except KernelError (Files × Deployability) := do
  let files ← sourceFiles hosting row
  match entryPoint files (lower (strip row.runtimeProfile)) with
  | .error reason => return ([], .refused reason)
  | .ok (publishPrefix, entry) =>
      let publish ← files.foldlM (publishFile publishPrefix) []
      let publish := if publish.has "index.html" then publish
        else publish.set "index.html" ((files.get entry).getD "")
      return (publish, .deployable (if publishPrefix = "" then "/" else publishPrefix) publish.length
        (publish.map (·.2.utf8ByteSize)).sum (bundleDigest hosting publish))

def publishedDigest (hosting : Hosting) (row : SourceVersion) : Option String :=
  match publishableBundle hosting row with
  | .ok (_, .deployable _ _ _ digest) => some digest
  | _ => none

theorem publishedDigest_eq {hosting : Hosting} {row : SourceVersion} {publish : Files}
    {publishPrefix digest : String} {fileCount sizeBytes : Nat} (published : publishableBundle hosting row =
      .ok (publish, .deployable publishPrefix fileCount sizeBytes digest)) :
    publishedDigest hosting row = some digest := by
  rw [publishedDigest, published]

theorem publishedDigest_length {hosting : Hosting} {row : SourceVersion} {digest : String}
    (published : publishedDigest hosting row = some digest) : digest.toList.length = 64 := by
  unfold publishedDigest publishableBundle at published
  cases files : sourceFiles hosting row with
  | error error => simp [files, bind, Except.bind] at published
  | ok files' =>
    simp only [files, bind, Except.bind] at published
    split at published
    · next same =>
      split at same
      · cases same
      · split at same
        · cases same
        · cases same
          cases published
          exact hosting.sha256_length _
    · cases published

example : cleanPath "/a\\b//./c" = .ok "a/b/c" := by decide
example : cleanPath "a/../b" = .error (.value "Studio source contains an unsafe path") := by decide

end Operly.Studio
