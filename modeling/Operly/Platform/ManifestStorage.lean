import Operly.Platform.PluginManifest

/-! A published manifest is stored as JSON and read again. -/

namespace Operly.Platform.Plugin
open Python Kernel

def EventDeclaration.stored (event : EventDeclaration) : EventDeclaration := { event with schema := event.schema.stored }

def UIContribution.stored (contribution : UIContribution) : UIContribution :=
  { contribution with configuration := contribution.configuration.stored }

def PluginCapability.stored (capability : PluginCapability) : PluginCapability :=
  { capability with
    inputSchema := capability.inputSchema.stored
    outputSchema := capability.outputSchema.stored }

def PluginManifest.stored (manifest : PluginManifest) : PluginManifest :=
  { manifest with
    capabilities := manifest.capabilities.map PluginCapability.stored
    configurationSchema := manifest.configurationSchema.stored
    producesEvents := manifest.producesEvents.map EventDeclaration.stored
    ui := manifest.ui.map UIContribution.stored
    metadata := manifest.metadata.stored }

def PluginCapability.textKeyed (capability : PluginCapability) : Bool :=
  capability.inputSchema.textKeyed && capability.outputSchema.textKeyed

def PluginManifest.textKeyed (manifest : PluginManifest) : Bool :=
  manifest.configurationSchema.textKeyed && manifest.metadata.textKeyed &&
    manifest.capabilities.all PluginCapability.textKeyed &&
    manifest.producesEvents.all (fun event => event.schema.textKeyed) &&
    manifest.ui.all (fun contribution => contribution.configuration.textKeyed)

/-! ### Equality of manifests -/

def sameAll {α : Type} (same : α → α → Bool) : List α → List α → Bool
  | [], [] => true
  | first :: rest, second :: later => same first second && sameAll same rest later
  | _, _ => false

def EventDeclaration.same (first second : EventDeclaration) : Bool :=
  first.name == second.name && first.description == second.description && first.schema.same second.schema

def UIContribution.same (first second : UIContribution) : Bool :=
  first.contributionType == second.contributionType && first.id == second.id && first.title == second.title &&
    first.configuration.same second.configuration

def PluginCapability.same (first second : PluginCapability) : Bool :=
  first.inputSchema.same second.inputSchema && first.outputSchema.same second.outputSchema &&
    decide ({ first with inputSchema := [], outputSchema := [] } =
      ({ second with inputSchema := [], outputSchema := [] } : PluginCapability))

/-- `first == second`: field by field, the mappings as dictionaries -/
def PluginManifest.same (first second : PluginManifest) : Bool :=
  sameAll PluginCapability.same first.capabilities second.capabilities &&
    first.configurationSchema.same second.configurationSchema &&
    sameAll EventDeclaration.same first.producesEvents second.producesEvents &&
    sameAll UIContribution.same first.ui second.ui && first.metadata.same second.metadata &&
    decide ({ first with capabilities := [], configurationSchema := [], producesEvents := [], ui := [], metadata := [] } =
      ({ second with capabilities := [], configurationSchema := [], producesEvents := [], ui := [], metadata := [] } :
        PluginManifest))

theorem sameAll_map {α : Type} {same : α → α → Bool} {change : α → α} {items : List α}
    (each : ∀ item ∈ items, same item (change item) = true) : sameAll same items (items.map change) = true := by
  induction items with
  | nil => rfl
  | cons item rest ih =>
    rw [List.map_cons, sameAll, each item List.mem_cons_self, Bool.true_and]
    exact ih fun other member => each other (List.mem_cons_of_mem _ member)

theorem all_of_sameAll {α : Type} {same : α → α → Bool} {holds : α → Bool} {items others : List α}
    (equal : sameAll same items others = true) (carries : ∀ item other, same item other = true →
      holds other = true → holds item = true) (held : others.all holds = true) : items.all holds = true := by
  induction items generalizing others with
  | nil => rfl
  | cons item rest ih =>
    cases others with
    | nil => cases equal
    | cons other later =>
      rw [sameAll, Bool.and_eq_true] at equal
      rw [List.all_cons, Bool.and_eq_true] at held ⊢
      exact ⟨carries item other equal.1 held.1, ih equal.2 held.2⟩

theorem PluginCapability.textKeyed_of_same {first second : PluginCapability} (same : first.same second = true)
    (keyed : second.textKeyed = true) : first.textKeyed = true := by
  rw [PluginCapability.same, Bool.and_eq_true, Bool.and_eq_true] at same
  rw [PluginCapability.textKeyed, Bool.and_eq_true] at keyed ⊢
  exact ⟨Mapping.same_textKeyed same.1.1 keyed.1, Mapping.same_textKeyed same.1.2 keyed.2⟩

theorem PluginManifest.textKeyed_of_same {first second : PluginManifest} (same : first.same second = true)
    (keyed : second.textKeyed = true) : first.textKeyed = true := by
  simp only [PluginManifest.same, Bool.and_eq_true] at same
  simp only [PluginManifest.textKeyed, Bool.and_eq_true] at keyed ⊢
  obtain ⟨⟨⟨⟨⟨capabilities, configuration⟩, events⟩, ui⟩, metadata⟩, -⟩ := same
  obtain ⟨⟨⟨⟨configurationKeyed, metadataKeyed⟩, capabilitiesKeyed⟩, eventsKeyed⟩, uiKeyed⟩ := keyed
  refine ⟨⟨⟨⟨Mapping.same_textKeyed configuration configurationKeyed, Mapping.same_textKeyed metadata metadataKeyed⟩,
    ?_⟩, ?_⟩, ?_⟩
  · exact all_of_sameAll capabilities (fun _ _ => PluginCapability.textKeyed_of_same) capabilitiesKeyed
  · refine all_of_sameAll events (fun item other equal => ?_) eventsKeyed
    rw [EventDeclaration.same, Bool.and_eq_true] at equal
    exact Mapping.same_textKeyed equal.2
  · refine all_of_sameAll ui (fun item other equal => ?_) uiKeyed
    rw [UIContribution.same, Bool.and_eq_true] at equal
    exact Mapping.same_textKeyed equal.2

structure PluginManifest.Proper (manifest : PluginManifest) : Prop where
  configuration : manifest.configurationSchema.Proper
  metadata : manifest.metadata.Proper
  capabilities : ∀ capability ∈ manifest.capabilities, capability.inputSchema.Proper ∧ capability.outputSchema.Proper
  events : ∀ event ∈ manifest.producesEvents, event.schema.Proper
  ui : ∀ contribution ∈ manifest.ui, contribution.configuration.Proper

theorem PluginManifest.same_stored {manifest : PluginManifest} (keyed : manifest.textKeyed = true)
    (proper : manifest.Proper) : manifest.same manifest.stored = true := by
  simp only [PluginManifest.textKeyed, Bool.and_eq_true, List.all_eq_true] at keyed
  obtain ⟨⟨⟨⟨configuration, metadata⟩, capabilities⟩, events⟩, ui⟩ := keyed
  simp only [PluginManifest.same, Bool.and_eq_true, decide_eq_true_eq]
  refine ⟨⟨⟨⟨⟨?_, ?_⟩, ?_⟩, ?_⟩, ?_⟩, rfl⟩
  · apply sameAll_map
    intro capability held
    have keyed := capabilities capability held
    rw [PluginCapability.textKeyed, Bool.and_eq_true] at keyed
    simp only [PluginCapability.same, Bool.and_eq_true, decide_eq_true_eq]
    exact ⟨⟨Mapping.same_stored keyed.1 (proper.capabilities capability held).1,
      Mapping.same_stored keyed.2 (proper.capabilities capability held).2⟩, rfl⟩
  · exact Mapping.same_stored configuration proper.configuration
  · apply sameAll_map
    intro event held
    simp only [EventDeclaration.same, EventDeclaration.stored, beq_self_eq_true, Bool.true_and]
    exact Mapping.same_stored (events event held) (proper.events event held)
  · apply sameAll_map
    intro contribution held
    simp only [UIContribution.same, UIContribution.stored, beq_self_eq_true, Bool.true_and]
    exact Mapping.same_stored (ui contribution held) (proper.ui contribution held)
  · exact Mapping.same_stored metadata proper.metadata

/-! ### Reading the stored fields -/

section Stored
variable {spelling : Spelling} {α : Type} {raw : Fields} {key : String}

def ReadsBack (spelling : Spelling) (tree : Tree) (read : Fields → Checked α) (result : α) : Prop :=
  ∃ fields, tree.encode spelling = .ok (.obj fields) ∧ read fields = .ok result

variable {value : Json} {default encoded : Fields} {fields : List (String × Tree)} {mapping : Mapping}
  {event : EventDeclaration} {capability : PluginCapability} {results : List α} {name : String}

theorem getOr_of_truthy {default : Json} (held : Fields.get raw key = some value) (truthy : value.truthy = true) :
    Fields.getOr raw key default = value := by
  rw [Fields.getOr, held]
  exact if_pos truthy

theorem requiredText_of_get {value : String} (held : Fields.get raw key = some (.str value)) :
    requiredText spelling raw key = .ok value := by
  rw [requiredText, required, held]
  rfl

theorem text_of_get {value default : String} (held : Fields.get raw key = some (.str value))
    (kept : value ≠ "" ∨ default = "") : text spelling raw key default = value := by
  rw [text, Fields.getOr, held]
  by_cases empty : value = ""
  · subst empty
    have falsy : default = "" := kept.resolve_left fun absurd => absurd rfl
    simp [Json.truthy, falsy, Json.toStr]
  · simp [Json.truthy, empty, Json.toStr]

theorem sortKeys_texts (values : List String) : (Json.arr (values.map .str)).sortKeys = .arr (values.map .str) := by
  rw [Json.sortKeys, Json.sortItems_eq, List.map_map]
  rfl

theorem textsOf_of_get {values : List String}
    (held : Fields.get raw key = some (Json.arr (values.map .str)).sortKeys) :
    textsOf spelling raw key = .ok values := by
  rw [sortKeys_texts] at held
  have listed : Fields.getOr raw key (.arr []) = .arr (values.map .str) := by
    cases values <;> simp [Fields.getOr, held, Json.truthy]
  have read : (values.map Json.str).map (Json.toStr spelling) = values := by
    rw [List.map_map]
    exact List.map_id values
  rw [textsOf, listed]
  exact congrArg Except.ok read

theorem integer_of_get {value default : Int} (held : Fields.get raw key = some (.int value)) (nonzero : value ≠ 0) :
    integer raw key default = .ok value := by
  rw [integer, getOr_of_truthy held (bne_iff_ne.mpr nonzero)]
  rfl

theorem flag_of_get {value default : Bool} (held : Fields.get raw key = some (.bool value)) :
    flag raw key default = value := by
  rw [flag, held]
  rfl

theorem dictOf_of_get {fields : Fields} (held : Fields.get raw key = some (.obj fields))
    (kept : fields ≠ [] ∨ default = []) : dictOf raw key default = .ok (Mapping.ofFields fields) := by
  have read : Fields.getOr raw key (.obj default) = .obj fields := by
    cases fields with
    | nil => simp [Fields.getOr, held, Json.truthy, kept.resolve_left fun absurd => absurd rfl]
    | cons entry rest => exact getOr_of_truthy held rfl
  rw [dictOf, read]
  rfl

theorem stored_get (held : Fields.get encoded key = some value) :
    Fields.get (Json.byKey encoded) key = some value := (Fields.get_byKey _ _).trans held

theorem error_bind {error : ManifestError} {next : Unit → Checked α} :
    ((Except.error error : Checked Unit) >>= next) = .error error := rfl

theorem ResourcePolicy.readsBack (spelling : Spelling) {policy : ResourcePolicy} (valid : policy.validate = .ok ()) :
    ReadsBack spelling policy.asdict ResourcePolicy.fromDict policy := by
  simp only [ResourcePolicy.validate, refuse, error_bind, check_eq_ok, not_not] at valid
  refine ⟨_, rfl, ?_⟩
  rw [ResourcePolicy.fromDict, integer_of_get (stored_get rfl) (by omega), integer_of_get (stored_get rfl) (by omega),
    integer_of_get (stored_get rfl) (by omega), integer_of_get (stored_get rfl) (by omega),
    integer_of_get (stored_get rfl) (by omega)]
  rfl

theorem NetworkPolicy.readsBack (spelling : Spelling) {policy : NetworkPolicy} (valid : policy.validate = .ok ()) :
    ReadsBack spelling policy.asdict (NetworkPolicy.fromDict spelling) policy := by
  simp only [NetworkPolicy.validate, refuse, error_bind, check_eq_ok, not_not] at valid
  have named : policy.mode ≠ "" := by
    intro empty
    simp [empty] at valid
  refine ⟨_, rfl, ?_⟩
  rw [NetworkPolicy.fromDict, textsOf_of_get (stored_get rfl), text_of_get (stored_get rfl) (.inl named)]
  rfl

theorem StorageRequest.readsBack (spelling : Spelling) {storage : StorageRequest} (valid : storage.validate = .ok ()) :
    ReadsBack spelling storage.asdict (StorageRequest.fromDict spelling) storage := by
  simp only [StorageRequest.validate, refuse, error_bind, check_eq_ok, not_not] at valid
  have named : storage.kind ≠ "" := by
    intro empty
    simp [empty] at valid
  refine ⟨_, rfl, ?_⟩
  rw [StorageRequest.fromDict, requiredText_of_get (stored_get rfl), integer_of_get (stored_get rfl) (by omega),
    text_of_get (stored_get rfl) (.inl named)]
  rfl

theorem CredentialRequest.readsBack (spelling : Spelling) {credential : CredentialRequest} (valid : credential.validate = .ok ()) :
    ReadsBack spelling credential.asdict (CredentialRequest.fromDict spelling) credential := by
  simp only [CredentialRequest.validate, refuse, error_bind, check_eq_ok, not_not] at valid
  have named : credential.credentialType ≠ "" := by
    intro empty
    simp [empty] at valid
  refine ⟨_, rfl, ?_⟩
  rw [CredentialRequest.fromDict, requiredText_of_get (stored_get rfl), textsOf_of_get (stored_get rfl),
    textsOf_of_get (stored_get rfl), text_of_get (stored_get rfl) (.inl named), flag_of_get (stored_get rfl),
    text_of_get (stored_get rfl) (.inr rfl)]
  rfl

theorem BindingRequest.readsBack (spelling : Spelling) (binding : BindingRequest) :
    ReadsBack spelling binding.asdict (BindingRequest.fromDict spelling) binding := by
  refine ⟨_, rfl, ?_⟩
  rw [BindingRequest.fromDict, requiredText_of_get (stored_get rfl), requiredText_of_get (stored_get rfl),
    flag_of_get (stored_get rfl)]
  rfl

theorem objectOf_of_get {fields : Fields} (held : Fields.get raw key = some (.obj fields)) :
    objectOf raw key = .ok fields := by
  have read : Fields.getOr raw key (.obj []) = .obj fields := by
    cases fields with
    | nil => simp [Fields.getOr, held]
    | cons entry rest => exact getOr_of_truthy held rfl
  rw [objectOf, read]

theorem exposedPortOf_of_get {port : Option Int}
    (held : Fields.get raw "exposed_port" = some ((port.map Json.int).getD .null).sortKeys) :
    exposedPortOf raw = .ok port := by
  rw [exposedPortOf, held]
  cases port <;> rfl

theorem healthPathOf_of_get {path : Option String} (present : path ≠ some "")
    (held : Fields.get raw "health_path" = some ((path.map Json.str).getD .null).sortKeys) :
    healthPathOf spelling raw = path := by
  rw [healthPathOf, held]
  cases path with
  | none => rfl
  | some path =>
    have truthy : (Json.str path).truthy = true := bne_iff_ne.mpr fun empty => present (congrArg some empty)
    simp [Json.sortKeys, Option.filter, truthy, Json.toStr]

theorem RuntimeRequirement.readsBack (spelling : Spelling) {runtime : RuntimeRequirement} (valid : runtime.validate = .ok ()) :
    ReadsBack spelling runtime.asdict (RuntimeRequirement.fromDict spelling) runtime := by
  simp only [RuntimeRequirement.validate, refuse, error_bind, check_eq_ok, bind_eq_ok, not_not] at valid
  obtain ⟨-, -, _, network, _, resources, -, path⟩ := valid
  obtain ⟨networkFields, networkStored, networkRead⟩ := NetworkPolicy.readsBack spelling network
  obtain ⟨resourceFields, resourcesStored, resourcesRead⟩ := ResourcePolicy.readsBack spelling resources
  have present : runtime.healthPath ≠ some "" := by
    intro empty
    simp [empty, startsWith] at path
  refine ⟨Json.byKey [("profile", .str runtime.profile), ("kind", .str runtime.kind), ("network", .obj networkFields),
    ("resources", .obj resourceFields), ("exposed_port", ((runtime.exposedPort.map Json.int).getD .null).sortKeys),
    ("health_path", ((runtime.healthPath.map Json.str).getD .null).sortKeys)], ?_, ?_⟩
  · simp only [RuntimeRequirement.asdict, Tree.encode, Tree.encodeFields, networkStored, resourcesStored]
    rfl
  · rw [RuntimeRequirement.fromDict, objectOf_of_get (stored_get rfl), objectOf_of_get (stored_get rfl),
      exposedPortOf_of_get (stored_get rfl), healthPathOf_of_get present (stored_get rfl),
      text_of_get (stored_get rfl) (.inr rfl), text_of_get (stored_get rfl) (.inr rfl)]
    exact bind_eq_ok.mpr ⟨_, rfl, bind_eq_ok.mpr ⟨_, rfl, bind_eq_ok.mpr ⟨_, networkRead,
      bind_eq_ok.mpr ⟨_, resourcesRead, rfl⟩⟩⟩⟩

theorem isObjectSchema_stored {schema : Mapping} (keyed : schema.textKeyed = true) :
    isObjectSchema schema.stored = isObjectSchema schema := by
  rw [isObjectSchema, Mapping.get_stored keyed, isObjectSchema]
  cases schema.get (.str "type") with
  | none => rfl
  | some kind => cases kind <;> rfl

theorem exists_stored (spelling : Spelling) (keyed : mapping.textKeyed = true) :
    ∃ fields, mapping.encode spelling = .ok fields ∧ mapping.stored = Mapping.ofFields fields := by
  obtain ⟨fields, rfl⟩ := Mapping.exists_ofFields keyed
  exact ⟨_, Mapping.encode_ofFields spelling fields, Mapping.stored_ofFields fields⟩

theorem ne_nil_of_schema {schema : Mapping} {fields : Fields} (keyed : schema.textKeyed = true)
    (object : isObjectSchema schema = true) (same : schema.stored = Mapping.ofFields fields) : fields ≠ [] := by
  rintro rfl
  rw [← isObjectSchema_stored keyed, same] at object
  cases object

theorem EventDeclaration.readsBack (spelling : Spelling) (valid : event.validate = .ok ())
    (keyed : event.schema.textKeyed = true) :
    ReadsBack spelling event.asdict (EventDeclaration.fromDict spelling) event.stored := by
  simp only [EventDeclaration.validate, refuse, error_bind, check_eq_ok, not_not] at valid
  obtain ⟨fields, encoded, same⟩ := exists_stored spelling keyed
  have nonempty := ne_nil_of_schema keyed valid.2.1 same
  refine ⟨Json.byKey [("name", .str event.name), ("description", .str event.description), ("schema", .obj fields)],
    ?_, ?_⟩
  · simp only [EventDeclaration.asdict, Tree.encode, Tree.encodeFields, encoded]
    rfl
  · rw [EventDeclaration.fromDict, requiredText_of_get (stored_get rfl), dictOf_of_get (stored_get rfl) (.inl nonempty),
      text_of_get (stored_get rfl) (.inr rfl), EventDeclaration.stored, same]
    rfl

theorem UIContribution.readsBack (spelling : Spelling) {contribution : UIContribution}
    (keyed : contribution.configuration.textKeyed = true) :
    ReadsBack spelling contribution.asdict (UIContribution.fromDict spelling) contribution.stored := by
  obtain ⟨fields, encoded, same⟩ := exists_stored spelling keyed
  refine ⟨Json.byKey [("contribution_type", .str contribution.contributionType), ("id", .str contribution.id),
    ("title", .str contribution.title), ("configuration", .obj fields)], ?_, ?_⟩
  · simp only [UIContribution.asdict, Tree.encode, Tree.encodeFields, encoded]
    rfl
  · rw [UIContribution.fromDict, requiredText_of_get (stored_get rfl), requiredText_of_get (stored_get rfl),
      requiredText_of_get (stored_get rfl), dictOf_of_get (stored_get rfl) (.inr rfl), UIContribution.stored, same]
    rfl

theorem PluginCapability.readsBack (spelling : Spelling) (valid : capability.validate = .ok ())
    (keyed : capability.textKeyed = true) :
    ReadsBack spelling capability.asdict (PluginCapability.fromDict spelling) capability.stored := by
  simp only [PluginCapability.validate, refuse, error_bind, check_eq_ok, not_not] at valid
  obtain ⟨-, -, inputObject, outputObject, -⟩ := valid
  rw [PluginCapability.textKeyed, Bool.and_eq_true] at keyed
  obtain ⟨input, inputEncoded, sameInput⟩ := exists_stored spelling keyed.1
  obtain ⟨output, outputEncoded, sameOutput⟩ := exists_stored spelling keyed.2
  have inputNonempty := ne_nil_of_schema keyed.1 inputObject sameInput
  have outputNonempty := ne_nil_of_schema keyed.2 outputObject sameOutput
  have named : capability.risk.value ≠ "" := by
    cases capability.risk <;> decide
  refine ⟨Json.byKey [("id", .str capability.id), ("display_name", .str capability.displayName),
    ("description", .str capability.description), ("input_schema", .obj input), ("output_schema", .obj output),
    ("permissions", (Json.arr (capability.permissions.map .str)).sortKeys), ("risk", .str capability.risk.value),
    ("approval_required", .bool capability.approvalRequired), ("reversible", .bool capability.reversible),
    ("aliases", (Json.arr (capability.aliases.map .str)).sortKeys),
    ("emits", (Json.arr (capability.emits.map .str)).sortKeys),
    ("tags", (Json.arr ((capability.tags.sort (· ≤ ·)).map .str)).sortKeys)], ?_, ?_⟩
  · simp only [PluginCapability.asdict, Tree.encode, Tree.encodeFields, inputEncoded, outputEncoded]
    rfl
  · rw [PluginCapability.fromDict, requiredText_of_get (stored_get rfl), requiredText_of_get (stored_get rfl),
      requiredText_of_get (stored_get rfl), dictOf_of_get (stored_get rfl) (.inl inputNonempty),
      dictOf_of_get (stored_get rfl) (.inl outputNonempty), textsOf_of_get (stored_get rfl),
      text_of_get (stored_get rfl) (.inl named), textsOf_of_get (stored_get rfl), textsOf_of_get (stored_get rfl),
      textsOf_of_get (stored_get rfl), flag_of_get (stored_get rfl), flag_of_get (stored_get rfl),
      CapabilityRisk.ofValue_value, PluginCapability.stored, sameInput, sameOutput]
    simp only [member, bind, Except.bind, pure, Except.pure, Finset.sort_toFinset]

variable {read : Fields → Checked α}

theorem objectsOf_readsBack {β : Type} {items : List β} {tree : β → Tree} {result : β → α}
    (each : ∀ item ∈ items, ReadsBack spelling (tree item) read (result item)) :
    ∃ encoded, Tree.encodeItems spelling (items.map tree) = .ok encoded ∧
      ∀ raw key, Fields.get raw key = some (.arr encoded) → objectsOf raw key read = .ok (items.map result) := by
  have parts : ∃ encoded, Tree.encodeItems spelling (items.map tree) = .ok encoded ∧
      ∀ key, encoded.mapM (objectItem key read) = .ok (items.map result) := by
    induction items with
    | nil => exact ⟨[], rfl, fun _ => rfl⟩
    | cons item rest ih =>
      obtain ⟨fields, stored, reads⟩ := each item List.mem_cons_self
      obtain ⟨encoded, later, readLater⟩ := ih fun other member => each other (List.mem_cons_of_mem _ member)
      refine ⟨.obj fields :: encoded, ?_, fun key => ?_⟩
      · rw [List.map_cons, Tree.encodeItems, stored, later]
        rfl
      · have first : objectItem key read (.obj fields) = .ok (result item) := reads
        rw [List.mapM_cons, first, readLater]
        rfl
  obtain ⟨encoded, stored, reads⟩ := parts
  refine ⟨encoded, stored, fun raw key held => ?_⟩
  have listed : Fields.getOr raw key (.arr []) = .arr encoded := by
    cases encoded with
    | nil => simp [Fields.getOr, held]
    | cons entry rest => exact getOr_of_truthy held rfl
  rw [objectsOf, listed]
  exact reads key

theorem runtime_readsBack (spelling : Spelling) {runtime : Option RuntimeRequirement}
    (valid : ∀ requirement, runtime = some requirement → requirement.validate = .ok ()) :
    ∃ encoded, ((runtime.map RuntimeRequirement.asdict).getD (.json .null)).encode spelling = .ok encoded ∧
      ∀ raw, Fields.get raw "runtime" = some encoded → runtimeOf spelling raw = .ok runtime := by
  cases runtime with
  | none =>
    refine ⟨.null, rfl, fun raw held => ?_⟩
    rw [runtimeOf, held]
  | some requirement =>
    obtain ⟨fields, stored, reads⟩ := RuntimeRequirement.readsBack spelling (valid requirement rfl)
    refine ⟨.obj fields, stored, fun raw held => ?_⟩
    rw [runtimeOf, held]
    simp only [reads]
    rfl

structure PluginManifest.Checked (manifest : PluginManifest) : Prop where
  schema : isObjectSchema manifest.configurationSchema = true
  capabilities : ∀ capability ∈ manifest.capabilities, capability.validate = .ok ()
  storage : ∀ storage ∈ manifest.storage, storage.validate = .ok ()
  credentials : ∀ credential ∈ manifest.credentials, credential.validate = .ok ()
  events : ∀ event ∈ manifest.producesEvents, event.validate = .ok ()
  runtime : ∀ runtime, manifest.runtime = some runtime → runtime.validate = .ok ()

theorem PluginManifest.checked_of_validate {manifest : PluginManifest} (valid : manifest.validate = .ok ()) :
    manifest.Checked := by
  simp only [PluginManifest.validate, refuse, error_bind, check_eq_ok, bind_eq_ok, not_not] at valid
  obtain ⟨-, -, -, -, schema, -, -, -, _, capabilities, _, storage, _, credentials, _, events, _, -, _, -, _, runtime,
    -⟩ := valid
  refine ⟨schema, forM_eq_ok.mp capabilities, forM_eq_ok.mp storage, forM_eq_ok.mp credentials, forM_eq_ok.mp events, ?_⟩
  intro requirement held
  rw [PluginManifest.validateRuntime, held] at runtime
  exact (bind_eq_ok.mp runtime).choose_spec.1

theorem PluginManifest.readsBack (spelling : Spelling) {manifest : PluginManifest} (valid : manifest.validate = .ok ())
    (keyed : manifest.textKeyed = true) :
    ReadsBack spelling manifest.toDict (PluginManifest.read spelling) manifest.stored := by
  have checked := PluginManifest.checked_of_validate valid
  simp only [PluginManifest.textKeyed, Bool.and_eq_true, List.all_eq_true] at keyed
  obtain ⟨⟨⟨⟨configurationKeyed, metadataKeyed⟩, capabilitiesKeyed⟩, eventsKeyed⟩, uiKeyed⟩ := keyed
  obtain ⟨configuration, configurationStored, sameConfiguration⟩ := exists_stored spelling configurationKeyed
  obtain ⟨metadata, metadataStored, sameMetadata⟩ := exists_stored spelling metadataKeyed
  have nonempty := ne_nil_of_schema configurationKeyed checked.schema sameConfiguration
  obtain ⟨capabilities, capabilitiesStored, capabilitiesRead⟩ := objectsOf_readsBack fun item held =>
    PluginCapability.readsBack spelling (checked.capabilities item held) (capabilitiesKeyed item held)
  obtain ⟨storage, storageStored, storageRead⟩ := objectsOf_readsBack fun item held =>
    StorageRequest.readsBack spelling (checked.storage item held)
  obtain ⟨credentials, credentialsStored, credentialsRead⟩ := objectsOf_readsBack fun item held =>
    CredentialRequest.readsBack spelling (checked.credentials item held)
  obtain ⟨events, eventsStored, eventsRead⟩ := objectsOf_readsBack fun item held =>
    EventDeclaration.readsBack spelling (checked.events item held) (eventsKeyed item held)
  obtain ⟨bindings, bindingsStored, bindingsRead⟩ := objectsOf_readsBack
    fun item (_ : item ∈ manifest.requestedBindings) => BindingRequest.readsBack spelling item
  obtain ⟨ui, uiStored, uiRead⟩ := objectsOf_readsBack fun item held =>
    UIContribution.readsBack spelling (uiKeyed item held)
  obtain ⟨runtime, runtimeStored, runtimeRead⟩ := runtime_readsBack spelling checked.runtime
  have named : manifest.executionMode.value ≠ "" := by
    cases manifest.executionMode <;> decide
  refine ⟨Json.byKey [("schema_version", .str manifest.schemaVersion), ("plugin_id", .str manifest.pluginId),
    ("version", .str manifest.version), ("display_name", .str manifest.displayName),
    ("description", .str manifest.description), ("execution_mode", .str manifest.executionMode.value),
    ("capabilities", .arr capabilities), ("permissions", (Json.arr (manifest.permissions.map .str)).sortKeys),
    ("configuration_schema", .obj configuration), ("runtime", runtime), ("storage", .arr storage),
    ("credentials", .arr credentials), ("produces_events", .arr events),
    ("consumes_events", (Json.arr (manifest.consumesEvents.map .str)).sortKeys),
    ("requested_bindings", .arr bindings), ("ui", .arr ui), ("metadata", .obj metadata)], ?_, ?_⟩
  · simp only [PluginManifest.toDict, Tree.encode, Tree.encodeFields, capabilitiesStored, configurationStored,
      runtimeStored, storageStored, credentialsStored, eventsStored, bindingsStored, uiStored, metadataStored]
    rfl
  · rw [PluginManifest.read, capabilitiesRead _ _ (stored_get rfl), runtimeRead _ (stored_get rfl),
      text_of_get (stored_get rfl) (.inl named), textsOf_of_get (stored_get rfl),
      dictOf_of_get (stored_get rfl) (.inl nonempty), storageRead _ _ (stored_get rfl),
      credentialsRead _ _ (stored_get rfl), eventsRead _ _ (stored_get rfl), textsOf_of_get (stored_get rfl),
      bindingsRead _ _ (stored_get rfl), uiRead _ _ (stored_get rfl), dictOf_of_get (stored_get rfl) (.inr rfl),
      PluginExecutionMode.ofValue_value, text_of_get (stored_get rfl) (.inr rfl),
      text_of_get (stored_get rfl) (.inr rfl), text_of_get (stored_get rfl) (.inr rfl),
      text_of_get (stored_get rfl) (.inr rfl), text_of_get (stored_get rfl) (.inr rfl), PluginManifest.stored,
      sameConfiguration, sameMetadata]
    simp only [member, bind, Except.bind, pure, Except.pure, List.map_id']

theorem EventDeclaration.validate_stored (keyed : event.schema.textKeyed = true) :
    event.stored.validate = event.validate := by
  simp only [EventDeclaration.validate, EventDeclaration.stored, isObjectSchema_stored keyed]

theorem PluginCapability.validate_stored (keyed : capability.textKeyed = true) :
    capability.stored.validate = capability.validate := by
  rw [PluginCapability.textKeyed, Bool.and_eq_true] at keyed
  simp only [PluginCapability.validate, PluginCapability.stored, isObjectSchema_stored keyed.1,
    isObjectSchema_stored keyed.2]

theorem forM_map {items : List α} {change : α → α} {check : α → Checked Unit}
    (same : ∀ item ∈ items, check (change item) = check item) : (items.map change).forM check = items.forM check := by
  induction items with
  | nil => rfl
  | cons item rest ih =>
    show (check (change item) >>= fun _ => (rest.map change).forM check) = (check item >>= fun _ => rest.forM check)
    rw [same item List.mem_cons_self, ih fun other member => same other (List.mem_cons_of_mem _ member)]

theorem PluginManifest.validate_stored {manifest : PluginManifest} (keyed : manifest.textKeyed = true) :
    manifest.stored.validate = manifest.validate := by
  simp only [PluginManifest.textKeyed, Bool.and_eq_true, List.all_eq_true] at keyed
  obtain ⟨⟨⟨⟨configuration, -⟩, capabilities⟩, events⟩, -⟩ := keyed
  have ids : manifest.stored.capabilities.map PluginCapability.id = manifest.capabilities.map PluginCapability.id := by
    rw [PluginManifest.stored, List.map_map]
    rfl
  have capabilities : manifest.stored.capabilities.forM PluginCapability.validate =
      manifest.capabilities.forM PluginCapability.validate :=
    forM_map fun item held => PluginCapability.validate_stored (capabilities item held)
  have events : manifest.stored.producesEvents.forM EventDeclaration.validate =
      manifest.producesEvents.forM EventDeclaration.validate :=
    forM_map fun item held => EventDeclaration.validate_stored (events item held)
  have ui : manifest.stored.ui.forM UIContribution.validate = manifest.ui.forM UIContribution.validate :=
    forM_map fun _ _ => rfl
  have schema : isObjectSchema manifest.stored.configurationSchema = isObjectSchema manifest.configurationSchema :=
    isObjectSchema_stored configuration
  rw [PluginManifest.validate, ids, capabilities, events, ui, schema]
  rfl

theorem encodeItems_map {tree : α → Tree} {change : α → α} {items : List α}
    (same : ∀ item ∈ items, (tree (change item)).encode spelling = (tree item).encode spelling) :
    Tree.encodeItems spelling ((items.map change).map tree) = Tree.encodeItems spelling (items.map tree) := by
  induction items with
  | nil => rfl
  | cons item rest ih =>
    rw [List.map_cons, List.map_cons, List.map_cons, Tree.encodeItems, Tree.encodeItems, same item List.mem_cons_self,
      ih fun other member => same other (List.mem_cons_of_mem _ member)]

theorem PluginManifest.encode_stored {manifest : PluginManifest} (keyed : manifest.textKeyed = true) :
    manifest.stored.toDict.encode spelling = manifest.toDict.encode spelling := by
  simp only [PluginManifest.textKeyed, Bool.and_eq_true, List.all_eq_true] at keyed
  obtain ⟨⟨⟨⟨configuration, metadata⟩, capabilities⟩, events⟩, ui⟩ := keyed
  have capabilities : Tree.encodeItems spelling (manifest.stored.capabilities.map PluginCapability.asdict) =
      Tree.encodeItems spelling (manifest.capabilities.map PluginCapability.asdict) := by
    apply encodeItems_map
    intro capability held
    have keyed := capabilities capability held
    rw [PluginCapability.textKeyed, Bool.and_eq_true] at keyed
    simp only [PluginCapability.asdict, PluginCapability.stored, Tree.encode, Tree.encodeFields,
      Mapping.encode_stored spelling keyed.1, Mapping.encode_stored spelling keyed.2]
  have events : Tree.encodeItems spelling (manifest.stored.producesEvents.map EventDeclaration.asdict) =
      Tree.encodeItems spelling (manifest.producesEvents.map EventDeclaration.asdict) := by
    apply encodeItems_map
    intro event held
    simp only [EventDeclaration.asdict, EventDeclaration.stored, Tree.encode, Tree.encodeFields,
      Mapping.encode_stored spelling (events event held)]
  have ui : Tree.encodeItems spelling (manifest.stored.ui.map UIContribution.asdict) =
      Tree.encodeItems spelling (manifest.ui.map UIContribution.asdict) := by
    apply encodeItems_map
    intro contribution held
    simp only [UIContribution.asdict, UIContribution.stored, Tree.encode, Tree.encodeFields,
      Mapping.encode_stored spelling (ui contribution held)]
  have configuration : manifest.stored.configurationSchema.encode spelling =
      manifest.configurationSchema.encode spelling := Mapping.encode_stored spelling configuration
  have metadata : manifest.stored.metadata.encode spelling = manifest.metadata.encode spelling :=
    Mapping.encode_stored spelling metadata
  simp only [PluginManifest.toDict, Tree.encode, Tree.encodeFields, capabilities, events, ui, configuration, metadata]
  rfl

/-! ### What is accepted -/

def mappingKeyed (raw : Fields) (key : String) : Bool := ((Fields.get raw key).map Mapping.pairsKeyed).getD true

def partKeyed (keys : List String) : Json → Bool
  | .obj fields => keys.all (mappingKeyed fields)
  | _ => true

def partsKeyed (raw : Fields) (key : String) (keys : List String) : Bool :=
  match Fields.get raw key with
  | some (.arr items) => items.all (partKeyed keys)
  | _ => true

/-- The free-form mappings of a manifest have texts for their keys: those that come as an object have. -/
def manifestKeyed : Json → Bool
  | .obj raw =>
      mappingKeyed raw "configuration_schema" && mappingKeyed raw "metadata" &&
        partsKeyed raw "capabilities" ["input_schema", "output_schema"] &&
        partsKeyed raw "produces_events" ["schema"] && partsKeyed raw "ui" ["configuration"]
  | _ => true

theorem raised_eq_ok {result : Except Failure α} {value : α} : raised result = .ok value ↔ result = .ok value := by
  cases result <;> simp [raised, Except.mapError]

theorem dictOf_keyed (made : dictOf raw key default = .ok mapping) : mapping.textKeyed = mappingKeyed raw key := by
  rw [dictOf, raised_eq_ok] at made
  rw [Mapping.dict_keyed made, mappingKeyed, Fields.getOr]
  cases Fields.get raw key with
  | none => rfl
  | some value =>
    by_cases truthy : value.truthy = true
    · simp [truthy]
    · cases value with
      | arr items =>
        have empty : items = [] := by simpa [Json.truthy] using truthy
        subst empty
        rfl
      | _ => simp [truthy, Mapping.pairsKeyed]

theorem getOr_proper {default : Json} (proper : (Json.obj raw).proper = true) (plain : default.proper = true) :
    (Fields.getOr raw key default).proper = true := by
  rw [Fields.getOr]
  cases held : Fields.get raw key with
  | none => exact plain
  | some value =>
    dsimp only
    split
    · exact (Json.proper_obj.mp proper).2 (key, value) (Fields.get_mem held)
    · exact plain

theorem dictOf_proper (proper : (Json.obj raw).proper = true) (plain : (Json.obj default).proper = true)
    (made : dictOf raw key default = .ok mapping) : mapping.Proper :=
  Mapping.dict_proper (getOr_proper proper plain) (raised_eq_ok.mp made)

theorem objectsOf_spec (made : objectsOf raw key read = .ok results) :
    ∃ items, Fields.getOr raw key (.arr []) = .arr items ∧
      List.Forall₂ (fun item result => ∃ fields, item = .obj fields ∧ read fields = .ok result) items results := by
  unfold objectsOf at made
  split at made
  · next items listed =>
    refine ⟨items, listed, (mapM_eq_ok made).imp ?_⟩
    intro item result accepted
    cases item with
    | obj fields => exact ⟨fields, rfl, accepted⟩
    | _ => cases accepted
  · cases made

theorem objectsOf_keyed {keys : List String} {keyed : α → Bool}
    (each : ∀ fields result, read fields = .ok result → keyed result = keys.all (mappingKeyed fields))
    (made : objectsOf raw key read = .ok results) : results.all keyed = partsKeyed raw key keys := by
  obtain ⟨items, listed, parts⟩ := objectsOf_spec made
  have same : results.all keyed = items.all (partKeyed keys) := by
    clear listed made
    induction parts with
    | nil => rfl
    | cons first _ ih =>
      obtain ⟨fields, rfl, accepted⟩ := first
      rw [List.all_cons, List.all_cons, ih, each _ _ accepted]
      rfl
  rw [same, partsKeyed]
  rw [Fields.getOr] at listed
  cases held : Fields.get raw key with
  | none =>
    rw [held] at listed
    cases listed
    rfl
  | some value =>
    rw [held] at listed
    dsimp only at listed
    split at listed
    · subst listed
      rfl
    · next falsy =>
      cases listed
      cases value with
      | arr items =>
        have empty : items = [] := by simpa [Json.truthy] using falsy
        rw [empty]
      | _ => rfl

theorem objectsOf_forall {holds : α → Prop} (proper : (Json.obj raw).proper = true)
    (each : ∀ fields result, (Json.obj fields).proper = true → read fields = .ok result → holds result)
    (made : objectsOf raw key read = .ok results) : ∀ result ∈ results, holds result := by
  obtain ⟨items, listed, parts⟩ := objectsOf_spec made
  have known : (Json.arr items).proper = true := listed ▸ getOr_proper proper rfl
  have items := Json.proper_arr.mp known
  clear listed known made
  induction parts with
  | nil => simp
  | cons first _ ih =>
    obtain ⟨fields, rfl, accepted⟩ := first
    rw [List.forall_mem_cons]
    exact ⟨each _ _ (items _ List.mem_cons_self) accepted, ih fun item member => items item (List.mem_cons_of_mem _ member)⟩

theorem PluginCapability.fromDict_spec {item : Fields}
    (accepted : PluginCapability.fromDict spelling item = .ok capability) :
    dictOf item "input_schema" [("type", .str "object"), ("properties", .obj [])] = .ok capability.inputSchema ∧
      dictOf item "output_schema" [("type", .str "object"), ("properties", .obj [])] = .ok capability.outputSchema := by
  simp only [PluginCapability.fromDict, bind_eq_ok] at accepted
  obtain ⟨id, -, displayName, -, description, -, inputSchema, input, outputSchema, output, permissions, -, risk, -,
    aliases, -, emits, -, tags, -, same⟩ := accepted
  cases same
  exact ⟨input, output⟩

theorem EventDeclaration.fromDict_spec {v : Fields} (accepted : EventDeclaration.fromDict spelling v = .ok event) :
    dictOf v "schema" [("type", .str "object")] = .ok event.schema := by
  simp only [EventDeclaration.fromDict, bind_eq_ok] at accepted
  obtain ⟨name, -, schema, read, same⟩ := accepted
  cases same
  exact read

theorem UIContribution.fromDict_spec {v : Fields} {contribution : UIContribution}
    (accepted : UIContribution.fromDict spelling v = .ok contribution) :
    dictOf v "configuration" [] = .ok contribution.configuration := by
  simp only [UIContribution.fromDict, bind_eq_ok] at accepted
  obtain ⟨contributionType, -, id, -, title, -, configuration, read, same⟩ := accepted
  cases same
  exact read

structure PluginManifest.ReadFrom (spelling : Spelling) (raw : Fields) (manifest : PluginManifest) : Prop where
  configuration : dictOf raw "configuration_schema"
    [("type", .str "object"), ("properties", .obj []), ("additionalProperties", .bool false)] =
      .ok manifest.configurationSchema
  metadata : dictOf raw "metadata" [] = .ok manifest.metadata
  capabilities : objectsOf raw "capabilities" (PluginCapability.fromDict spelling) = .ok manifest.capabilities
  events : objectsOf raw "produces_events" (EventDeclaration.fromDict spelling) = .ok manifest.producesEvents
  ui : objectsOf raw "ui" (UIContribution.fromDict spelling) = .ok manifest.ui

theorem PluginManifest.read_spec {manifest : PluginManifest}
    (accepted : PluginManifest.read spelling raw = .ok manifest) : manifest.ReadFrom spelling raw := by
  simp only [PluginManifest.read, bind_eq_ok] at accepted
  obtain ⟨capabilities, capabilitiesRead, runtime, -, mode, -, permissions, -, configuration, configurationRead,
    storage, -, credentials, -, events, eventsRead, consumed, -, bindings, -, ui, uiRead, metadata, metadataRead,
    same⟩ := accepted
  cases same
  exact ⟨configurationRead, metadataRead, capabilitiesRead, eventsRead, uiRead⟩

theorem PluginManifest.ReadFrom.textKeyed {manifest : PluginManifest} (known : manifest.ReadFrom spelling raw) :
    manifest.textKeyed = manifestKeyed (.obj raw) := by
  have capabilities : manifest.capabilities.all PluginCapability.textKeyed =
      partsKeyed raw "capabilities" ["input_schema", "output_schema"] := by
    refine objectsOf_keyed (fun fields result accepted => ?_) known.capabilities
    obtain ⟨input, output⟩ := PluginCapability.fromDict_spec accepted
    simp [PluginCapability.textKeyed, dictOf_keyed input, dictOf_keyed output]
  have events : manifest.producesEvents.all (fun event => event.schema.textKeyed) =
      partsKeyed raw "produces_events" ["schema"] := by
    refine objectsOf_keyed (fun fields result accepted => ?_) known.events
    simp [dictOf_keyed (EventDeclaration.fromDict_spec accepted)]
  have ui : manifest.ui.all (fun contribution => contribution.configuration.textKeyed) =
      partsKeyed raw "ui" ["configuration"] := by
    refine objectsOf_keyed (fun fields result accepted => ?_) known.ui
    simp [dictOf_keyed (UIContribution.fromDict_spec accepted)]
  rw [PluginManifest.textKeyed, capabilities, events, ui, dictOf_keyed known.configuration, dictOf_keyed known.metadata]
  rfl

theorem PluginManifest.ReadFrom.proper {manifest : PluginManifest} (known : manifest.ReadFrom spelling raw)
    (proper : (Json.obj raw).proper = true) : manifest.Proper := by
  refine ⟨dictOf_proper proper (by decide) known.configuration, dictOf_proper proper (by decide) known.metadata,
    ?_, ?_, ?_⟩
  · refine objectsOf_forall proper (fun fields result own accepted => ?_) known.capabilities
    obtain ⟨input, output⟩ := PluginCapability.fromDict_spec accepted
    exact ⟨dictOf_proper own (by decide) input, dictOf_proper own (by decide) output⟩
  · exact objectsOf_forall proper (fun fields result own accepted =>
      dictOf_proper own (by decide) (EventDeclaration.fromDict_spec accepted)) known.events
  · exact objectsOf_forall proper (fun fields result own accepted =>
      dictOf_proper own (by decide) (UIContribution.fromDict_spec accepted)) known.ui

theorem PluginManifest.fromDict_spec {manifest : PluginManifest}
    (accepted : PluginManifest.fromDict spelling value = .ok manifest) : ∃ raw, value = .obj raw ∧
      PluginManifest.read spelling raw = .ok manifest ∧ manifest.validate = .ok () := by
  unfold PluginManifest.fromDict at accepted
  split at accepted
  · next raw =>
    obtain ⟨read, known, rest⟩ := bind_eq_ok.mp accepted
    obtain ⟨_, valid, same⟩ := bind_eq_ok.mp rest
    cases same
    exact ⟨raw, rfl, known, valid⟩
  · cases accepted

/-! ### What an encoding looks like -/

theorem encodeFields_get (stored : Tree.encodeFields spelling fields = .ok encoded) {tree : Tree}
    (listed : (fields.find? fun field => field.1 = name).map (·.2) = some tree) :
    ∃ value, tree.encode spelling = .ok value ∧ Fields.get encoded name = some value := by
  induction fields generalizing encoded with
  | nil => cases listed
  | cons field rest ih =>
    obtain ⟨own, item⟩ := field
    simp only [Tree.encodeFields, bind_eq_ok] at stored
    obtain ⟨value, first, others, later, same⟩ := stored
    cases same
    rw [Fields.get_cons]
    by_cases same : own = name
    · subst same
      simp only [List.find?_cons_of_pos, decide_true, Option.map_some, Option.some.injEq] at listed
      subst listed
      exact ⟨value, first, if_pos rfl⟩
    · rw [if_neg same]
      rw [List.find?_cons_of_neg (by simpa using same)] at listed
      exact ih later listed

theorem encode_record (stored : (Tree.record fields).encode spelling = .ok value) : ∃ encoded, value = .obj encoded ∧
      ∀ name tree, (fields.find? fun field => field.1 = name).map (·.2) = some tree →
        ∃ item, tree.encode spelling = .ok item ∧ Fields.get encoded name = some item := by
  rw [Tree.encode] at stored
  obtain ⟨encoded, known, rfl⟩ := map_eq_ok.mp stored
  refine ⟨Json.byKey encoded, rfl, fun name tree listed => ?_⟩
  obtain ⟨item, own, held⟩ := encodeFields_get known listed
  exact ⟨item, own, stored_get held⟩

theorem encode_mapping (stored : (Tree.mapping mapping).encode spelling = .ok value) : ∃ fields, value = .obj fields := by
  rw [Tree.encode] at stored
  obtain ⟨fields, -, rfl⟩ := map_eq_ok.mp stored
  exact ⟨fields, rfl⟩

theorem encodeItems_forall₂ {items : List Tree} {values : List Json}
    (stored : Tree.encodeItems spelling items = .ok values) :
    List.Forall₂ (fun item value => item.encode spelling = .ok value) items values := by
  induction items generalizing values with
  | nil =>
    cases stored
    exact .nil
  | cons item rest ih =>
    simp only [Tree.encodeItems, bind_eq_ok] at stored
    obtain ⟨value, first, others, later, same⟩ := stored
    cases same
    exact .cons first (ih later)

theorem mappingKeyed_of_encode
    (known : ∀ name tree, (fields.find? fun field => field.1 = name).map (·.2) = some tree →
      ∃ item, tree.encode spelling = .ok item ∧ Fields.get encoded name = some item)
    (listed : (fields.find? fun field => field.1 = name).map (·.2) = some (.mapping mapping)) :
    mappingKeyed encoded name = true := by
  obtain ⟨item, own, held⟩ := known name _ listed
  obtain ⟨object, rfl⟩ := encode_mapping own
  rw [mappingKeyed, held]
  rfl

theorem partsKeyed_of_encode {items : List Tree} {keys : List String}
    (known : ∀ name tree, (fields.find? fun field => field.1 = name).map (·.2) = some tree →
      ∃ item, tree.encode spelling = .ok item ∧ Fields.get encoded name = some item)
    (listed : (fields.find? fun field => field.1 = name).map (·.2) = some (.list items))
    (each : ∀ item ∈ items, ∀ value, item.encode spelling = .ok value → partKeyed keys value = true) :
    partsKeyed encoded name keys = true := by
  obtain ⟨item, own, held⟩ := known name _ listed
  rw [Tree.encode] at own
  obtain ⟨values, stored, rfl⟩ := map_eq_ok.mp own
  rw [partsKeyed, held]
  apply List.all_eq_true.mpr
  have parts := encodeItems_forall₂ stored
  clear own held stored known listed
  induction parts with
  | nil => simp
  | cons first _ ih =>
    rw [List.forall_mem_cons]
    exact ⟨each _ List.mem_cons_self _ first, ih fun item member => each item (List.mem_cons_of_mem _ member)⟩

theorem PluginManifest.encode_keyed {manifest : PluginManifest} (stored : manifest.toDict.encode spelling = .ok value) :
    manifestKeyed value = true := by
  obtain ⟨encoded, rfl, known⟩ := encode_record stored
  simp only [manifestKeyed, Bool.and_eq_true]
  refine ⟨⟨⟨⟨mappingKeyed_of_encode known rfl, mappingKeyed_of_encode known rfl⟩, ?_⟩, ?_⟩, ?_⟩
  · apply partsKeyed_of_encode known rfl
    rw [List.forall_mem_map]
    intro capability _ value stored
    obtain ⟨part, rfl, own⟩ := encode_record stored
    have input : mappingKeyed part "input_schema" = true := mappingKeyed_of_encode own rfl
    have output : mappingKeyed part "output_schema" = true := mappingKeyed_of_encode own rfl
    simp [partKeyed, input, output]
  · apply partsKeyed_of_encode known rfl
    rw [List.forall_mem_map]
    intro event _ value stored
    obtain ⟨part, rfl, own⟩ := encode_record stored
    have schema : mappingKeyed part "schema" = true := mappingKeyed_of_encode own rfl
    simp [partKeyed, schema]
  · apply partsKeyed_of_encode known rfl
    rw [List.forall_mem_map]
    intro contribution _ value stored
    obtain ⟨part, rfl, own⟩ := encode_record stored
    have configuration : mappingKeyed part "configuration" = true := mappingKeyed_of_encode own rfl
    simp [partKeyed, configuration]

end Stored

/-! ### Publication and validation -/

/-- `PluginVersionRecord`, with the values that `manifest_json` and `validation_report_json` encode -/
structure PluginVersion where
  version : String
  manifest : Json
  manifestDigest : String
  packageArtifactId : Option String
  trustLevel : String
  validationStatus : String
  validationReport : Fields

def manifestDigest (sha256 : String → String) (spelling : Spelling) (manifest : Tree) : Except Failure String := do
  return sha256 ((← manifest.encode spelling).dumps spelling)

/-- The report that a published version starts with; one without a runtime is refused before. -/
def pendingReport (manifest : PluginManifest) (packageArtifactId : Option String) : Fields := [
  ("manifest_valid", .bool true),
  ("runtime_profile", ((manifest.runtime.map (·.profile)).map .str).getD .null),
  ("runtime_validation_pending", .bool true),
  ("supply_chain_scan_pending", .bool (packageArtifactId.any (· ≠ "")))]

def publishedVersion (sha256 : String → String) (spelling : Spelling) (manifest : PluginManifest)
    (packageArtifactId : Option String) : Except Failure PluginVersion := do
  let stored ← manifest.toDict.encode spelling
  let digest ← manifestDigest sha256 spelling manifest.toDict
  return {
    version := manifest.version
    manifest := stored
    manifestDigest := digest
    packageArtifactId := packageArtifactId
    trustLevel := "workspace_generated"
    validationStatus := "pending"
    validationReport := pendingReport manifest packageArtifactId }

inductive JobError where
  | permanent (message : String)
  | failure (failure : Failure)
  deriving DecidableEq

/-- The beginning of `validate_plugin_job`: the stored manifest is read and its digest is calculated again. -/
def checkIdentity (sha256 : String → String) (spelling : Spelling) (version : PluginVersion) :
    Except JobError PluginManifest × PluginVersion :=
  match PluginManifest.fromDict spelling version.manifest with
  | .error _ => (.error (.permanent "Stored plugin manifest is invalid"),
      { version with
        validationStatus := "failed"
        validationReport := [("manifest_valid", .bool false)] })
  | .ok manifest =>
      match manifestDigest sha256 spelling manifest.toDict with
      | .error failure => (.error (.failure failure), version)
      | .ok calculated =>
          if calculated ≠ version.manifestDigest then
            (.error (.permanent "Plugin manifest digest does not match immutable version identity"),
              { version with
                validationStatus := "failed"
                validationReport := [("manifest_valid", .bool true), ("manifest_digest_valid", .bool false)] })
          else (.ok manifest, version)

/-- The version that is published holds an equal manifest, and passes the check of its identity. -/
def StoredFaithfully (sha256 : String → String) (spelling : Spelling) (manifest : PluginManifest)
    (packageArtifactId : Option String) : Prop :=
  ∃ version, publishedVersion sha256 spelling manifest packageArtifactId = .ok version ∧
    ∃ again, PluginManifest.fromDict spelling version.manifest = .ok again ∧ manifest.same again = true ∧
      checkIdentity sha256 spelling version = (.ok again, version)

section Identity
variable {sha256 : String → String} {spelling : Spelling} {manifest : PluginManifest} {packageArtifactId : Option String}

theorem storedFaithfully_of_keyed (valid : manifest.validate = .ok ()) (keyed : manifest.textKeyed = true)
    (proper : manifest.Proper) : StoredFaithfully sha256 spelling manifest packageArtifactId := by
  obtain ⟨fields, stored, read⟩ := PluginManifest.readsBack spelling valid keyed
  have again : PluginManifest.fromDict spelling (.obj fields) = .ok manifest.stored := by
    simp only [PluginManifest.fromDict, read, bind, Except.bind, PluginManifest.validate_stored keyed, valid]
    rfl
  have digest : manifestDigest sha256 spelling manifest.stored.toDict =
      manifestDigest sha256 spelling manifest.toDict := by
    rw [manifestDigest, PluginManifest.encode_stored keyed, manifestDigest]
  have calculated : manifestDigest sha256 spelling manifest.toDict = .ok (sha256 ((Json.obj fields).dumps spelling)) := by
    rw [manifestDigest, stored]
    rfl
  refine ⟨⟨manifest.version, .obj fields, sha256 ((Json.obj fields).dumps spelling), packageArtifactId,
    "workspace_generated", "pending", pendingReport manifest packageArtifactId⟩, ?_, manifest.stored, again,
    PluginManifest.same_stored keyed proper, ?_⟩
  · rw [publishedVersion, stored, calculated]
    rfl
  · simp [checkIdentity, again, digest, calculated]

theorem keyed_of_storedFaithfully (faithful : StoredFaithfully sha256 spelling manifest packageArtifactId) :
    manifest.textKeyed = true := by
  obtain ⟨version, published, again, read, same, -⟩ := faithful
  rw [publishedVersion, bind_eq_ok] at published
  obtain ⟨value, stored, rest⟩ := published
  obtain ⟨digest, -, added⟩ := bind_eq_ok.mp rest
  cases added
  obtain ⟨raw, shape, fields, -⟩ := PluginManifest.fromDict_spec read
  apply PluginManifest.textKeyed_of_same same
  rw [(PluginManifest.read_spec fields).textKeyed, ← shape]
  exact PluginManifest.encode_keyed stored

/-- An accepted manifest is stored faithfully if and only if its free-form mappings come with texts for
their keys. -/
theorem manifest_stored_faithfully (sha256 : String → String) (spelling : Spelling) {value : Json}
    {manifest : PluginManifest} (packageArtifactId : Option String) (proper : value.proper = true)
    (accepted : PluginManifest.fromDict spelling value = .ok manifest) :
    StoredFaithfully sha256 spelling manifest packageArtifactId ↔ manifestKeyed value = true := by
  obtain ⟨raw, rfl, read, valid⟩ := PluginManifest.fromDict_spec accepted
  have known := PluginManifest.read_spec read
  rw [← known.textKeyed]
  exact ⟨keyed_of_storedFaithfully, fun keyed => storedFaithfully_of_keyed valid keyed (known.proper proper)⟩

end Identity

def plain : Spelling := ⟨fun _ => "0.0", fun _ => ""⟩

def remote (metadata : Json) : Json := .obj [
  ("schema_version", .str "operly.plugin/v1"),
  ("plugin_id", .str "acme"),
  ("version", .str "1.0.0"),
  ("display_name", .str "Acme"),
  ("description", .str "A plugin"),
  ("execution_mode", .str "remote_http"),
  ("runtime", .obj [("profile", .str "remote-http"), ("kind", .str "remote")]),
  ("metadata", metadata)]

/-- The digests of its encodings with the numbers 2 and 10 as keys of the metadata, in the order of the numbers
and in the one of their texts; the two differ from byte 234 on. -/
def digests (text : String) : String :=
  if text.toByteArray.data.toList[234]? = some 50 then
    "add4a298000668d991ac299ca8e2c4d8d1ffbd8732fa2344cb704b3e80fc6aa9"
  else "2920ba2172e576cd036515bd90125f1a667a51adab2f679250d186c346ef830c"

theorem remote_accepted : (PluginManifest.fromDict plain (remote (.obj [("10", .str "b"), ("2", .str "a")]))).isOk =
    true := by
  decide

theorem manifest_stored_faithfully_remote : ∃ manifest,
    PluginManifest.fromDict plain (remote (.obj [("10", .str "b"), ("2", .str "a")])) = .ok manifest ∧
      StoredFaithfully digests plain manifest none := by
  cases accepted : PluginManifest.fromDict plain (remote (.obj [("10", .str "b"), ("2", .str "a")])) with
  | error error =>
    have valid := remote_accepted
    rw [accepted] at valid
    cases valid
  | ok manifest =>
    exact ⟨manifest, rfl, (manifest_stored_faithfully digests plain none (by decide) accepted).mpr (by decide)⟩

def paired : Json := remote (.arr [.arr [.int 2, .str "a"], .arr [.int 10, .str "b"]])

def checkedError (manifest : PluginManifest) : Option JobError := do
  let version ← (publishedVersion digests plain manifest none).toOption
  match (checkIdentity digests plain version).1 with
  | .ok _ => none
  | .error error => some error

theorem paired_checked : ((PluginManifest.fromDict plain paired).toOption.bind checkedError) =
    some (.permanent "Plugin manifest digest does not match immutable version identity") := by
  decide

/-- Keys that are numbers are encoded in their own order, and after they were read again in the one of
their texts. -/
theorem paired_metadata_fails_identity : ∃ manifest version,
    PluginManifest.fromDict plain paired = .ok manifest ∧
      publishedVersion digests plain manifest none = .ok version ∧
      (checkIdentity digests plain version).1 =
        .error (.permanent "Plugin manifest digest does not match immutable version identity") ∧
      ¬ StoredFaithfully digests plain manifest none := by
  have failed := paired_checked
  cases accepted : PluginManifest.fromDict plain paired with
  | error error =>
    rw [accepted] at failed
    cases failed
  | ok manifest =>
    rw [accepted] at failed
    cases published : publishedVersion digests plain manifest none with
    | error error =>
      simp [checkedError, published, Except.toOption] at failed
    | ok version =>
      refine ⟨manifest, version, rfl, published, ?_, ?_⟩
      · cases checked : (checkIdentity digests plain version).1 with
        | ok again => simp [checkedError, published, checked, Except.toOption] at failed
        | error error =>
          simp only [checkedError, published, checked, Except.toOption, Option.bind_eq_bind, Option.bind_some,
            Option.some.injEq] at failed
          rw [failed]
      · intro faithful
        obtain ⟨raw, shape, read, -⟩ := PluginManifest.fromDict_spec accepted
        have keyed := keyed_of_storedFaithfully faithful
        rw [(PluginManifest.read_spec read).textKeyed, ← shape] at keyed
        cases keyed

end Operly.Platform.Plugin
