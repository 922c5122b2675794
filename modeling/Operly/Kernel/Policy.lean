import Operly.Kernel.SchemaValidation

/-! The capability registry and the deterministic policy boundary. -/

namespace Operly.Kernel
open Python Security

/-- Registration refuses an id that is not a normalized lower-case name and an id that is
already taken. -/
structure CapabilityRegistry where
  specs : List CapabilitySpec
  normalized : ∀ spec ∈ specs, lower (strip spec.id) = spec.id ∧ spec.id ≠ ""
  distinct : (specs.map (·.id)).Nodup

namespace CapabilityRegistry

def get (registry : CapabilityRegistry) (capabilityId : String) : Except KernelError CapabilitySpec :=
  let key := lower (strip capabilityId)
  match registry.specs.find? fun spec => spec.id = key with
  | some spec => .ok spec
  | none => .error (.registry ("Unknown capability: " ++ if key = "" then "<empty>" else key))

variable {registry : CapabilityRegistry}

theorem get_mem {capabilityId : String} {spec : CapabilitySpec} (found : registry.get capabilityId = .ok spec) :
    spec ∈ registry.specs := by
  unfold get at found
  dsimp only at found
  split at found
  · next same =>
    cases found
    exact List.mem_of_find?_eq_some same
  · cases found

theorem eq_of_id {first second : CapabilitySpec} (left : first ∈ registry.specs) (right : second ∈ registry.specs)
    (same : first.id = second.id) : first = second :=
  List.inj_on_of_nodup_map registry.distinct left right same

theorem get_of_mem {spec : CapabilitySpec} (member : spec ∈ registry.specs) : registry.get spec.id = .ok spec := by
  obtain ⟨normalized, -⟩ := registry.normalized spec member
  unfold get
  dsimp only
  rw [normalized]
  cases found : registry.specs.find? fun other => other.id = spec.id with
  | none =>
    have absent := List.find?_eq_none.mp found spec member
    simp at absent
  | some other =>
    have named : other.id = spec.id := by simpa using List.find?_some found
    rw [eq_of_id (List.mem_of_find?_eq_some found) member named]

end CapabilityRegistry

structure AuthorizationResult where
  decision : AuthorizationDecision
  reason : String
  deriving DecidableEq

def evaluate (context : ExecutionContext) (spec : CapabilitySpec) : AuthorizationResult :=
  if !spec.scopes.contains context.scopeKind.value then ⟨.deny, "capability scope mismatch"⟩
  else if !capabilitySurfaceAllowed spec.id context.surface then
    ⟨.deny, "capability is hidden on this surface"⟩
  else
    let missing := spec.permissions.filter fun permission => !context.can permission
    if !missing.isEmpty then
      ⟨.deny, "missing permissions: " ++ ", ".intercalate (missing.insertionSort (· ≤ ·))⟩
    else if spec.approvalRequired then ⟨.ask, "capability requires explicit approval"⟩
    else ⟨.allow, "authorized"⟩

/-- What every decision but `DENY` vouches for. -/
structure Authorized (context : ExecutionContext) (spec : CapabilitySpec) : Prop where
  scope : context.scopeKind.value ∈ spec.scopes
  surface : capabilitySurfaceAllowed spec.id context.surface = true
  permissions : ∀ permission ∈ spec.permissions, context.can permission = true

theorem evaluate_authorized {context : ExecutionContext} {spec : CapabilitySpec}
    (granted : (evaluate context spec).decision ≠ .deny) : Authorized context spec := by
  unfold evaluate at granted
  split at granted
  · exact absurd rfl granted
  · next scope =>
    split at granted
    · exact absurd rfl granted
    · next surface =>
      dsimp only at granted
      split at granted
      · exact absurd rfl granted
      · next missing =>
        refine ⟨by simpa using scope, by simpa using surface, ?_⟩
        intro permission declared
        simp only [Bool.not_eq_true', Bool.not_eq_false, List.isEmpty_iff, List.filter_eq_nil_iff] at missing
        simpa using missing permission declared

theorem evaluate_ask {context : ExecutionContext} {spec : CapabilitySpec}
    (required : spec.approvalRequired = true) : (evaluate context spec).decision ≠ .allow := by
  unfold evaluate
  split
  · simp
  · split
    · simp
    · dsimp only
      split <;> simp

end Operly.Kernel
