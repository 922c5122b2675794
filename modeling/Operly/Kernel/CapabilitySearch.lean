import Mathlib.Data.List.Dedup
import Operly.Kernel.Catalog
import Operly.Python.Sections

/-! What a search query says: its sections, its terms and the actions that it names. -/

namespace Operly.Kernel
open Python

def isTokenChar (c : Char) : Bool := ('a' ≤ c ∧ c ≤ 'z') ∨ ('0' ≤ c ∧ c ≤ '9')

def rawTokens (value : String) : List String :=
  (((lower value).toList.splitOnP (!isTokenChar ·)).filter (1 < ·.length)).map String.ofList

/-- `token[:-count]` -/
def dropEnd (count : Nat) (token : String) : String := String.ofList (token.toList.take (token.length - count))

def endsWithAny (token : String) (tails : List String) : Bool := tails.any (endsWith token)

def stem (token : String) : String :=
  if 5 < token.length ∧ endsWith token "ies" then dropEnd 3 token ++ "y"
  else if 5 < token.length ∧ endsWithAny token ["sses", "xes", "zes", "ches", "shes"] then dropEnd 2 token
  else if 3 < token.length ∧ endsWith token "s" ∧ ¬ endsWithAny token ["ss", "us", "is"] then dropEnd 1 token
  else token

def tokens (value : String) : List String := ((rawTokens value).map stem).dedup

def looksCollection (value : String) : Bool :=
  (rawTokens value).any fun token => 3 < token.length ∧ endsWith token "s" ∧ ¬ endsWithAny token ["ss", "us", "is"]

inductive ActionFacet where
  | search | list | read | create | draft | send | update | delete | execute | retry | cancel | wait
  deriving DecidableEq

def actionAliases : List (String × ActionFacet) :=
  [("search", .search), ("find", .search), ("lookup", .search), ("query", .search), ("discover", .search),
    ("list", .list), ("enumerate", .list), ("browse", .list), ("read", .read), ("get", .read), ("inspect", .read),
    ("show", .read), ("view", .read), ("check", .read), ("look", .read), ("review", .read), ("scan", .read),
    ("status", .read), ("snapshot", .read), ("preview", .read), ("create", .create), ("add", .create),
    ("book", .create), ("reserve", .create), ("invite", .create), ("record", .create), ("export", .create),
    ("upload", .create), ("download", .create), ("draft", .draft), ("send", .send), ("reply", .send),
    ("forward", .send), ("update", .update), ("edit", .update), ("modify", .update), ("move", .update),
    ("reschedule", .update), ("set", .update), ("mark", .update), ("adjust", .update), ("assign", .update),
    ("grant", .update), ("enable", .update), ("disable", .update), ("activate", .update), ("deactivate", .update),
    ("rollback", .update), ("restore", .update), ("delete", .delete), ("remove", .delete), ("archive", .delete),
    ("revoke", .delete), ("run", .execute), ("execute", .execute), ("start", .execute), ("deploy", .execute),
    ("publish", .execute), ("retry", .retry), ("cancel", .cancel), ("stop", .cancel), ("wait", .wait),
    ("watch", .wait), ("monitor", .wait)]

def readActions : List ActionFacet := [.search, .list, .read]
def mutationActions : List ActionFacet := [.create, .draft, .send, .update, .delete, .execute, .retry, .cancel]
def strongMutationActions : List ActionFacet := mutationActions.filter (· ≠ .execute)

def actionFacets (value : String) : List ActionFacet :=
  ((tokens value).filterMap fun token => actionAliases.lookup token).dedup

def sectionTerms (label part : String) : List String :=
  if startsWith (lower part) label then tokens (String.ofList (part.toList.drop label.length)) else []

structure CapabilitySearchQuery where
  raw : String
  objective : String
  resourceTerms : List String
  operationTerms : List String
  objectiveTerms : List String
  actionFacets : List ActionFacet
  wantsRetrieval : Bool
  wantsMutation : Bool
  wantsCollection : Bool

def retrievalLabels : List String := ["retrieve", "read"]
def mutationLabels : List String := ["act", "create", "update", "delete", "send", "execute"]

def CapabilitySearchQuery.parse (value : String) : CapabilitySearchQuery :=
  let raw := lower (strip value)
  let parts := sections '|' raw
  let objective := parts.headD raw
  let operationTerms := parts.tail.flatMap (sectionTerms "operations ")
  let allActions := Kernel.actionFacets objective
  let explicitRetrieval := operationTerms.any retrievalLabels.contains
  let explicitMutation := operationTerms.any mutationLabels.contains
  let hasReadAction := allActions.any readActions.contains
  let strongMutation := allActions.any strongMutationActions.contains
  let ambiguousExecuteMutation := allActions.contains .execute && !hasReadAction
  { raw
    objective
    resourceTerms := parts.tail.flatMap (sectionTerms "resources ")
    operationTerms
    objectiveTerms := tokens objective
    actionFacets := allActions
    wantsRetrieval := explicitRetrieval ||
      (operationTerms.isEmpty && !strongMutation && !ambiguousExecuteMutation && !allActions.contains .wait)
    wantsMutation := explicitMutation || strongMutation || ambiguousExecuteMutation
    wantsCollection := looksCollection objective }

def CapabilitySearchQuery.pureRetrieval (parsed : CapabilitySearchQuery) : Bool :=
  parsed.wantsRetrieval && !parsed.wantsMutation

example : (CapabilitySearchQuery.parse "Show recent workflow runs | operations retrieve").pureRetrieval = true := by
  decide

namespace CapabilitySearchIndex

/-- An index that reads a query as `parse` does -/
def parsing (index : CapabilitySearchIndex) : CapabilitySearchIndex :=
  { index with pureRetrieval := fun query => (CapabilitySearchQuery.parse query).pureRetrieval }

variable {index : CapabilitySearchIndex} {registry : CapabilityRegistry} {context : Security.ExecutionContext}

@[simp] theorem parsing_pureRetrieval (index : CapabilitySearchIndex) (query : String) :
    index.parsing.pureRetrieval query = (CapabilitySearchQuery.parse query).pureRetrieval := by
  simp only [parsing]

theorem readOnly_of_pureRetrieval {effectiveOnly : Bool} {query : String} {limit : Nat} {spec : CapabilitySpec}
    (nonblank : lower (strip query) ≠ "") (pure : index.pureRetrieval (lower (strip query)) = true)
    (unnamed : ∀ exact ∈ registry.lookup (lower (strip query)),
      CapabilityRegistry.allowed context effectiveOnly exact = true → exact.risk = .readOnly)
    (found : spec ∈ index.search registry context effectiveOnly query limit) : spec.risk = .readOnly := by
  unfold search at found
  dsimp only at found
  rw [if_neg nonblank] at found
  split at found
  · next exact hit =>
    obtain ⟨known, permitted⟩ := Option.filter_eq_some_iff.mp hit
    rw [List.mem_singleton.mp found]
    exact unnamed exact known permitted
  · have ranked := (List.mem_insertionSort _).mp (List.mem_of_mem_take found)
    have eligible := (List.mem_filter.mp ranked).2
    by_contra mutating
    simp [pure, mutating] at eligible

theorem mem_search_of_named {effectiveOnly : Bool} {query : String} {limit : Nat} {spec : CapabilitySpec}
    (nonblank : lower (strip query) ≠ "") (known : registry.lookup (lower (strip query)) = some spec)
    (permitted : CapabilityRegistry.allowed context effectiveOnly spec = true) :
    spec ∈ index.search registry context effectiveOnly query limit := by
  unfold search
  dsimp only
  rw [if_neg nonblank, known, Option.filter_some_pos permitted]
  exact List.mem_singleton_self spec

end CapabilitySearchIndex

end Operly.Kernel
