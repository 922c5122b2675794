import Operly.Kernel.CapabilitySearch

/-! Where the candidates of a search come from, and what a search over them may return. -/

namespace Operly.Kernel
open Python Security

/-! ### The sparse index -/

structure CapabilityTexts where
  displayName : String
  description : String
  aliases : List String := []
  tags : List String := []

structure Catalog extends CapabilityRegistry where
  texts : CapabilitySpec → CapabilityTexts

def ActionFacet.value : ActionFacet → String
  | .search => "search"
  | .list => "list"
  | .read => "read"
  | .create => "create"
  | .draft => "draft"
  | .send => "send"
  | .update => "update"
  | .delete => "delete"
  | .execute => "execute"
  | .retry => "retry"
  | .cancel => "cancel"
  | .wait => "wait"

/-- `_namespace_keys`: the families of a capability, the closest first -/
def namespaceKeys (capabilityId : String) : List String :=
  let parts := (split '.' capabilityId).filter (· ≠ "")
  if parts.length < 3 then []
  else ((List.range parts.length).reverse.filter (1 < ·)).map fun depth => ".".intercalate (parts.take depth)

/-- What candidates are found by; the rest of an `IndexedCapability` is read by the score. -/
structure IndexedCapability where
  capabilityId : String
  allTerms : List String
  actionFacets : List ActionFacet

def indexed (texts : CapabilityTexts) (spec : CapabilitySpec) : IndexedCapability :=
  let identityText := lower (" ".intercalate
    ([spec.id, texts.displayName] ++ texts.aliases ++ texts.tags.insertionSort (· ≤ ·)))
  let descriptionText := lower texts.description
  let schemaText := lower (" ".intercalate
    [" ".intercalate (spec.inputSchema.map (·.1)), " ".intercalate (spec.outputSchema.map (·.1)),
      " ".intercalate spec.permissions, " ".intercalate spec.emits, spec.resourceScope])
  { capabilityId := spec.id
    allTerms := tokens identityText ++ tokens descriptionText ++ tokens schemaText
    actionFacets := actionFacets (identityText ++ " " ++ descriptionText) }

/-- Ids taken over into a list as long as it is not full, each of them once -/
def appendNew (full : List String → Bool) (found ids : List String) : List String :=
  ids.foldl (fun found id => if full found || found.contains id then found else found ++ [id]) found

structure SparseIndex where
  documents : List IndexedCapability

namespace SparseIndex
variable (index : SparseIndex)

def idsWhere (listed : IndexedCapability → Bool) : List String :=
  ((index.documents.filter listed).map (·.capabilityId)).insertionSort (· ≤ ·)

def postings (term : String) : List String := index.idsWhere (·.allTerms.contains term)
def actionPostings (action : ActionFacet) : List String := index.idsWhere (·.actionFacets.contains action)
def namespacePostings (key : String) : List String := index.idsWhere fun document =>
  (namespaceKeys document.capabilityId).contains key

def documentFrequency (term : String) : Nat := (index.postings term).length

def rankedTerms (query : CapabilitySearchQuery) : List String :=
  ((query.objectiveTerms ++ query.resourceTerms).dedup.filter fun term => index.postings term ≠ []).insertionSort
    fun a b => index.documentFrequency a < index.documentFrequency b ∨
      index.documentFrequency a = index.documentFrequency b ∧ a ≤ b

def candidateBudget (limit : Nat) : Nat := max 128 (min 4096 (max 1 limit * 64))

def candidateIds (query : CapabilitySearchQuery) (limit : Nat) : List String :=
  if query.raw = "" then []
  else
    let actions := query.actionFacets.insertionSort fun a b => a.value ≤ b.value
    ((index.rankedTerms query).map index.postings ++ actions.map index.actionPostings).foldl
      (appendNew fun found => candidateBudget limit ≤ found.length) []

def relatedBudget (limit : Nat) : Nat := max 16 (min 1024 limit)

def closestFamily (budget : Nat) (seed : String) : List String :=
  (((namespaceKeys seed).map index.namespacePostings).find? fun siblings =>
    siblings ≠ [] ∧ siblings.length ≤ budget * 4).getD []

def relatedCandidateIds (seeds : List String) (limit : Nat) : List String :=
  let budget := relatedBudget limit
  seeds.foldl (fun related seed => appendNew (fun found => budget ≤ found.length) related
    ((index.closestFamily budget seed).filter (· ∉ seeds))) []

end SparseIndex

/-- `SemanticCapabilityCandidateProvider`: whatever ids it likes -/
abbrev SemanticProvider := String → Nat → List String

def semanticIds (offered : List String) : List String := (offered.map fun id => lower (strip id)).filter (· ≠ "")

/-- Scores are floats; they are counted here in units of the smallest positive one, so `1.0` is this many. -/
def scoreOne : Int := 2 ^ 1074

def resourceOverlap (texts : CapabilityTexts) (spec : CapabilitySpec) (resourceTerms : List String) : Nat :=
  let text := " ".intercalate
    ([spec.id, texts.displayName, texts.description] ++ texts.tags.insertionSort (· ≤ ·) ++ [spec.resourceScope])
  (resourceTerms.dedup.filter (tokens text).contains).length

namespace Catalog
variable (catalog : Catalog)

def sparse : SparseIndex := ⟨catalog.specs.map fun spec => indexed (catalog.texts spec) spec⟩

def familyLimit (boundedLimit : Nat) : Nat := max 32 (min 512 (boundedLimit * 16))
def semanticLimit (boundedLimit : Nat) : Nat := max 64 (min 2048 (boundedLimit * 32))

def candidatePool (offered : List String) (query : CapabilitySearchQuery) (boundedLimit : Nat) : List String :=
  let seeds := catalog.sparse.candidateIds query boundedLimit
  let related := catalog.sparse.relatedCandidateIds seeds (familyLimit boundedLimit)
  appendNew (fun _ => false) (appendNew (fun _ => false) seeds related) (semanticIds offered)

def searchIndex (offered : List String) (score : CapabilitySearchQuery → CapabilitySpec → Int) : CapabilitySearchIndex where
  candidateIds _ queryText boundedLimit := catalog.candidatePool offered (.parse queryText) boundedLimit
  pureRetrieval queryText := (CapabilitySearchQuery.parse queryText).pureRetrieval
  score _ queryText spec :=
    let lexical := score (.parse queryText) spec
    if (semanticIds offered).contains spec.id && lexical ≤ 0 then scoreOne else lexical
  hasResourceTerms query := !(CapabilitySearchQuery.parse query).resourceTerms.isEmpty
  resourceOverlap query spec := Kernel.resourceOverlap (catalog.texts spec) spec (CapabilitySearchQuery.parse query).resourceTerms

@[simp] theorem searchIndex_pureRetrieval (offered : List String) (score : CapabilitySearchQuery → CapabilitySpec → Int)
    (queryText : String) : (catalog.searchIndex offered score).pureRetrieval queryText =
      (CapabilitySearchQuery.parse queryText).pureRetrieval := by
  simp only [searchIndex]

def boundedLimit (limit : Int) : Nat := (max 1 (min limit 50)).toNat

def offered (provider : Option SemanticProvider) (query : String) (limit : Int) : List String :=
  match provider with
  | none => []
  | some candidateIds => candidateIds (lower (strip query)) (semanticLimit (boundedLimit limit))

def search (provider : Option SemanticProvider) (score : CapabilitySearchQuery → CapabilitySpec → Int)
    (context : ExecutionContext) (effectiveOnly : Bool) (query : String) (limit : Int) : List CapabilitySpec :=
  (catalog.searchIndex (offered provider query limit) score).search catalog.toCapabilityRegistry context effectiveOnly
    query (boundedLimit limit)

end Catalog

/-! ### What it returns -/

theorem effectiveAllowed_iff {context : ExecutionContext} {spec : CapabilitySpec} :
    CapabilityRegistry.effectiveAllowed context spec = true ↔ (evaluate context spec).decision ≠ .deny := by
  constructor
  · intro permitted
    simp only [CapabilityRegistry.effectiveAllowed, CapabilityRegistry.surfaceAllowed, Bool.and_eq_true,
      List.all_eq_true] at permitted
    obtain ⟨⟨scope, surface⟩, permissions⟩ := permitted
    have missing : (spec.permissions.filter fun permission => !context.can permission) = [] := by
      rw [List.filter_eq_nil_iff]
      intro permission declared
      simp [permissions permission declared]
    unfold evaluate
    rw [scope, surface]
    dsimp only
    rw [missing]
    cases spec.approvalRequired <;> simp
  · intro granted
    obtain ⟨scope, surface, permissions⟩ := evaluate_authorized granted
    simp only [CapabilityRegistry.effectiveAllowed, CapabilityRegistry.surfaceAllowed, Bool.and_eq_true,
      List.all_eq_true, List.contains_iff_mem]
    exact ⟨⟨scope, surface⟩, permissions⟩

theorem nodup_eraseDups (ids : List String) : ids.eraseDups.Nodup := by
  induction length : ids.length using Nat.strong_induction_on generalizing ids with
  | _ size ih =>
    cases ids with
    | nil => exact List.nodup_nil
    | cons id rest =>
      rw [List.eraseDups_cons, List.nodup_cons]
      constructor
      · simp [List.mem_eraseDups]
      · refine ih _ ?_ _ rfl
        have shorter := List.length_filter_le (fun other => !other == id) rest
        rw [List.length_cons] at length
        omega

namespace CapabilitySearchIndex
variable {index : CapabilitySearchIndex} {registry : CapabilityRegistry} {context : ExecutionContext}

theorem search_nodup (effectiveOnly : Bool) (query : String) (limit : Nat) :
    (index.search registry context effectiveOnly query limit).Nodup := by
  unfold search
  dsimp only
  split
  · have listed : registry.all.Nodup := CapabilityRegistry.all_sorted.imp fun less same => (same ▸ less).false
    have visible : (registry.visible context).Nodup := listed.filter _
    split
    · exact (visible.filter _).sublist (List.take_sublist ..)
    · exact visible.sublist (List.take_sublist ..)
  split
  · exact List.nodup_singleton _
  · have candidates := (nodup_eraseDups (index.candidateIds registry (lower (strip query)) (max 1 (min limit 50)))).filterMap
      (f := registry.lookup) fun a a' spec left right => by
        rw [← (CapabilityRegistry.lookup_eq_some.mp left).2, ← (CapabilityRegistry.lookup_eq_some.mp right).2]
    refine List.Nodup.sublist (List.take_sublist ..) ?_
    rw [(List.perm_insertionSort _ _).nodup_iff]
    exact candidates.filter _

theorem length_search_le (effectiveOnly : Bool) (query : String) (limit : Nat) :
    (index.search registry context effectiveOnly query limit).length ≤ max 1 (min limit 50) := by
  unfold search
  dsimp only
  split
  · exact List.length_take_le ..
  split
  · rw [List.length_singleton]
    omega
  · exact List.length_take_le ..

end CapabilitySearchIndex

namespace Catalog
variable (catalog : Catalog) (provider : Option SemanticProvider) (score : CapabilitySearchQuery → CapabilitySpec → Int)
  (context : ExecutionContext)

/-- What a search of the effective capabilities returns: what the policy does not deny, each once, within the limit -/
structure Exposes (limit : Int) (found : List CapabilitySpec) : Prop where
  granted : ∀ spec ∈ found, (evaluate context spec).decision ≠ .deny
  distinct : found.Nodup
  bounded : (found.length : Int) ≤ min 50 (max 1 limit)

def RetrievesReadOnly (query : String) (found : List CapabilitySpec) : Prop :=
  (CapabilitySearchQuery.parse (lower (strip query))).pureRetrieval = true →
    catalog.lookup (lower (strip query)) = none → ∀ spec ∈ found, spec.risk = .readOnly

variable {catalog} {provider} {score} {context}

theorem search_effective {query : String} {limit : Int} {spec : CapabilitySpec}
    (found : spec ∈ catalog.search provider score context true query limit) : spec ∈ catalog.effective context := by
  rw [search] at found
  exact CapabilitySearchIndex.mem_search found

theorem search_id {spec : CapabilitySpec} (visible : spec ∈ catalog.effective context) (limit : Int) :
    catalog.search provider score context true spec.id limit = [spec] := by
  rw [search]
  exact CapabilitySearchIndex.search_id visible true (boundedLimit limit)

theorem search_exposes (query : String) (limit : Int) :
    Exposes context limit (catalog.search provider score context true query limit) where
  granted spec found := effectiveAllowed_iff.mp (CapabilityRegistry.mem_effective.mp (search_effective found)).2
  distinct := by
    rw [search]
    exact CapabilitySearchIndex.search_nodup true query (boundedLimit limit)
  bounded := by
    have most : (catalog.search provider score context true query limit).length ≤ max 1 (min (boundedLimit limit) 50) := by
      rw [search]
      exact CapabilitySearchIndex.length_search_le true query (boundedLimit limit)
    unfold boundedLimit at most
    omega

theorem search_retrieves_readOnly {query : String} (nonblank : lower (strip query) ≠ "") (limit : Int) :
    RetrievesReadOnly catalog query (catalog.search provider score context true query limit) := by
  intro retrieval unnamed spec found
  rw [search] at found
  rw [← searchIndex_pureRetrieval catalog (offered provider query limit) score] at retrieval
  refine CapabilitySearchIndex.readOnly_of_pureRetrieval nonblank retrieval ?_ found
  intro named known
  rw [Option.mem_def, unnamed] at known
  cases known

/-- Whatever a provider offers and however candidates are scored, a search exposes no more than the policy grants;
to a query for retrieval that is not blank it offers nothing that mutates. -/
theorem search_safe (catalog : Catalog) (provider : Option SemanticProvider)
    (score : CapabilitySearchQuery → CapabilitySpec → Int) (context : ExecutionContext) (query : String) (limit : Int) :
    Exposes context limit (catalog.search provider score context true query limit) ∧
      (lower (strip query) ≠ "" →
        RetrievesReadOnly catalog query (catalog.search provider score context true query limit)) :=
  ⟨search_exposes query limit, fun nonblank => search_retrieves_readOnly nonblank limit⟩

end Catalog

def mailCatalog : Catalog where
  specs := [⟨"google.gmail.create_draft", "1", "google", ["personal"], [], [], [], .low, false, "scope", []⟩,
    ⟨"google.gmail.search", "1", "google", ["personal"], [], [], [], .readOnly, false, "scope", []⟩]
  normalized := by decide
  distinct := by decide
  texts spec := ⟨spec.id, "", [], []⟩

def personalContext : ExecutionContext where
  workspaceId := none
  userId := some "ada"
  role := ""
  permissions := []
  channel := "web"
  surface := .personalPrivate
  conversationId := none
  metadata := []
  scopeKind := .personal
  principalId := none
  workspaceMode := "full"

/-- The blank query is read as pure retrieval, and lists what there is. -/
theorem blank_search_mutating : ¬ Catalog.RetrievesReadOnly mailCatalog ""
    (mailCatalog.search none (fun _ _ => 0) personalContext true "" 10) := by
  intro retrieves
  have retrieval : (CapabilitySearchQuery.parse (lower (strip ""))).pureRetrieval = true := by decide
  have listed : ∃ spec ∈ mailCatalog.search none (fun _ _ => 0) personalContext true "" 10, spec.risk ≠ .readOnly := by
    decide
  obtain ⟨spec, found, mutating⟩ := listed
  exact mutating (retrieves retrieval (by decide) spec found)

end Operly.Kernel
