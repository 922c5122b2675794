import Operly.Mcp.Gateway
import Operly.Python.Casing

/-! Narrowing the scope rules of a client to its grant. -/

namespace Operly.Mcp
open Python Kernel

def scopeRuleCovers (grantedRule requestedRule : String) : Bool :=
  let granted := lower (strip grantedRule)
  let requested := lower (strip requestedRule)
  if granted = "" ∨ requested = "" then false
  else if granted = "workspace:*" ∨ granted = requested then true
  else if endsWith granted ".*" then
    startsWith requested (String.ofList granted.toList.dropLast) && !contains requested ":"
  else false

def narrowScopeRules (requested granted : List String) : List String :=
  let grantRules := cleanScopes granted
  (cleanScopes requested).filter fun rule => grantRules.any fun grant => scopeRuleCovers grant rule

def Clean (rule : String) : Prop := rule ≠ "" ∧ lower (strip rule) = rule

variable {rule text grant : String}

theorem strip_eq_self_of_clean (clean : lower (strip rule) = rule) : strip rule = rule := by
  calc strip rule = strip (lower (strip rule)) := by rw [clean]
    _ = lower (strip rule) := strip_lower_strip rule
    _ = rule := clean

theorem lowerChar_ne_nil (c : Char) : lowerChar c ≠ [] := by
  unfold lowerChar
  split
  · simp
  · split <;> simp

theorem lower_eq_empty (empty : lower text = "") : text = "" := by
  have blank : lowerFrom [] text.toList = [] := String.ofList_eq_empty_iff.mp empty
  cases shape : text.toList with
  | nil => exact String.toList_eq_nil_iff.mp shape
  | cons c rest =>
    rw [shape, lowerFrom, List.append_eq_nil_iff] at blank
    obtain ⟨image, -⟩ := blank
    split at image
    · cases image
    · exact absurd image (lowerChar_ne_nil c)

theorem mem_cleanScopes {scopes : List String} (member : rule ∈ cleanScopes scopes) : Clean rule := by
  obtain ⟨text, held, rfl⟩ := List.mem_map.mp member
  have nonempty : strip text ≠ "" := of_decide_eq_true (List.mem_filter.mp held).2
  exact ⟨fun empty => nonempty (lower_eq_empty empty), by rw [strip_lower_strip, lower_lower]⟩

theorem cleanScopes_of_clean {rules : List String} (clean : ∀ rule ∈ rules, Clean rule) : cleanScopes rules = rules := by
  induction rules with
  | nil => rfl
  | cons rule rest ih =>
    have first := clean rule List.mem_cons_self
    have bare := strip_eq_self_of_clean first.2
    have later := ih fun other member => clean other (List.mem_cons_of_mem _ member)
    unfold cleanScopes at later ⊢
    rw [List.filter_cons_of_pos (by rw [bare]; exact decide_eq_true first.1), List.map_cons, first.2, later]

/-! ### What a grant covers -/

def Gives (rule : String) (spec : CapabilitySpec) : Prop :=
  rule = "workspace:*" ∨ rule = lower spec.id ∨
    (endsWith rule ".*" = true ∧ startsWith (lower spec.id) (String.ofList rule.toList.dropLast) = true) ∨
    ∃ permission ∈ spec.permissions, lower permission = rule

theorem scopeAllows_iff {spec : CapabilitySpec} {scopes : List String} :
    scopeAllows spec scopes = true ↔ ∃ rule ∈ cleanScopes scopes, Gives rule spec := by
  unfold scopeAllows Gives
  dsimp only
  generalize cleanScopes scopes = rules
  cases rules with
  | nil => simp
  | cons first rest =>
    rw [show (first :: rest).isEmpty = false from rfl]
    generalize first :: rest = rules
    simp only [Bool.false_eq_true, if_false]
    split
    · next named =>
      simp only [true_iff]
      rw [Bool.or_eq_true, List.contains_iff_mem, List.contains_iff_mem] at named
      rcases named with all | own
      · exact ⟨_, all, .inl rfl⟩
      · exact ⟨_, own, .inr (.inl rfl)⟩
    · next unnamed =>
      rw [Bool.or_eq_true, List.contains_iff_mem, List.contains_iff_mem, not_or] at unnamed
      split
      · next family =>
        obtain ⟨rule, member, covers⟩ := List.any_eq_true.mp family
        simp only [true_iff]
        exact ⟨rule, member, .inr (.inr (.inl (by simpa using covers)))⟩
      · next alone =>
        simp only [List.any_eq_true, List.contains_iff_mem]
        constructor
        · rintro ⟨permission, held, member⟩
          exact ⟨_, member, .inr (.inr (.inr ⟨permission, held, rfl⟩))⟩
        · rintro ⟨rule, member, rfl | rfl | covers | ⟨permission, held, rfl⟩⟩
          · exact absurd member unnamed.1
          · exact absurd member unnamed.2
          · exact absurd (List.any_eq_true.mpr ⟨rule, member, by simpa using covers⟩) alone
          · exact ⟨permission, held, member⟩

theorem scopeRuleCovers_cases (granted : Clean grant) (requested : Clean rule)
    (covers : scopeRuleCovers grant rule = true) :
    grant = "workspace:*" ∨ grant = rule ∨
      (endsWith grant ".*" = true ∧ startsWith rule (String.ofList grant.toList.dropLast) = true ∧
        contains rule ":" = false) := by
  simp only [scopeRuleCovers, granted.2, requested.2, granted.1, requested.1, or_self, if_false] at covers
  split at covers
  · next same => exact same.elim .inl fun same => .inr (.inl same)
  · split at covers
    · next family =>
      rw [Bool.and_eq_true, Bool.not_eq_true'] at covers
      exact .inr (.inr ⟨family, covers⟩)
    · cases covers

theorem contains_colon : contains text ":" = true ↔ ':' ∈ text.toList := by
  have infix_colon (chars : List Char) : isInfix [':'] chars = true ↔ ':' ∈ chars := by
    induction chars with
    | nil => simp [isInfix]
    | cons c rest ih => simp [isInfix, ih, List.isPrefixOf]
  exact infix_colon text.toList

theorem contains_colon_lower (held : contains text ":" = true) : contains (lower text) ":" = true := by
  have kept (chars before : List Char) (member : ':' ∈ chars) : ':' ∈ lowerFrom before chars := by
    induction chars generalizing before with
    | nil => cases member
    | cons c rest ih =>
      rw [lowerFrom, List.mem_append]
      rcases List.mem_cons.mp member with rfl | later
      · rw [if_neg (by decide)]
        exact .inl (List.mem_singleton.mpr rfl)
      · exact .inr (ih _ later)
  rw [contains_colon] at held ⊢
  rw [lower, String.toList_ofList]
  exact kept text.toList [] held

theorem startsWith_family {id : String} (family : endsWith rule ".*" = true)
    (within : startsWith rule (String.ofList grant.toList.dropLast) = true) (grants : endsWith grant ".*" = true)
    (given : startsWith id (String.ofList rule.toList.dropLast) = true) :
    startsWith id (String.ofList grant.toList.dropLast) = true := by
  simp only [startsWith, endsWith, String.toList_ofList, List.isPrefixOf_iff_prefix, List.isSuffixOf_iff_suffix] at *
  obtain ⟨start, shape⟩ := family
  obtain ⟨front, shape'⟩ := grants
  have ending : ".*".toList = ['.'] ++ ['*'] := rfl
  rw [ending, ← List.append_assoc] at shape shape'
  rw [← shape, List.dropLast_concat] at given
  rw [← shape', List.dropLast_concat] at within ⊢
  rw [← shape, List.prefix_concat_iff] at within
  rcases within with same | inside
  · exact absurd (List.append_inj' same rfl).2 (by decide)
  · exact inside.trans given

theorem gives_of_covered {spec : CapabilitySpec} (granted : Clean grant) (requested : Clean rule)
    (covers : scopeRuleCovers grant rule = true) (gives : Gives rule spec)
    (permissions : ∀ permission ∈ spec.permissions, contains permission ":" = true) : Gives grant spec := by
  rcases scopeRuleCovers_cases granted requested covers with all | rfl | ⟨grants, within, bare⟩
  · exact .inl all
  · exact gives
  · rcases gives with rfl | rfl | ⟨family, given⟩ | ⟨permission, held, rfl⟩
    · cases bare
    · exact .inr (.inr (.inl ⟨grants, within⟩))
    · exact .inr (.inr (.inl ⟨grants, startsWith_family family within grants given⟩))
    · rw [contains_colon_lower (permissions permission held)] at bare
      cases bare

theorem mem_narrowScopeRules {requested granted : List String} :
    rule ∈ narrowScopeRules requested granted ↔
      rule ∈ cleanScopes requested ∧ ∃ grant ∈ cleanScopes granted, scopeRuleCovers grant rule = true := by
  rw [narrowScopeRules, List.mem_filter, List.any_eq_true]

theorem cleanScopes_narrowScopeRules (requested granted : List String) :
    cleanScopes (narrowScopeRules requested granted) = narrowScopeRules requested granted :=
  cleanScopes_of_clean fun _ member => mem_cleanScopes (mem_narrowScopeRules.mp member).1

theorem cleanScopes_mono {granted more : List String} (grows : granted ⊆ more) :
    cleanScopes granted ⊆ cleanScopes more := by
  intro rule member
  obtain ⟨text, held, same⟩ := List.mem_map.mp member
  obtain ⟨known, nonempty⟩ := List.mem_filter.mp held
  exact List.mem_map.mpr ⟨text, List.mem_filter.mpr ⟨grows known, nonempty⟩, same⟩

/-- Narrowed rules give nothing that the grant does not give; narrowing twice changes nothing more, and a larger
grant leaves more. -/
theorem narrowing_never_widens (requested granted : List String) {spec : CapabilitySpec}
    (permissions : ∀ permission ∈ spec.permissions, contains permission ":" = true) :
    (scopeAllows spec (narrowScopeRules requested granted) = true → scopeAllows spec granted = true) ∧
      narrowScopeRules (narrowScopeRules requested granted) granted = narrowScopeRules requested granted ∧
      ∀ more, granted ⊆ more → narrowScopeRules requested granted ⊆ narrowScopeRules requested more := by
  refine ⟨fun allowed => ?_, ?_, fun more grows rule member => ?_⟩
  · obtain ⟨rule, member, gives⟩ := scopeAllows_iff.mp allowed
    rw [cleanScopes_narrowScopeRules] at member
    obtain ⟨held, grant, known, covers⟩ := mem_narrowScopeRules.mp member
    exact scopeAllows_iff.mpr ⟨grant, known,
      gives_of_covered (mem_cleanScopes known) (mem_cleanScopes held) covers gives permissions⟩
  · calc narrowScopeRules (narrowScopeRules requested granted) granted
        = (cleanScopes (narrowScopeRules requested granted)).filter fun rule =>
            (cleanScopes granted).any fun grant => scopeRuleCovers grant rule := rfl
      _ = (narrowScopeRules requested granted).filter fun rule =>
            (cleanScopes granted).any fun grant => scopeRuleCovers grant rule := by rw [cleanScopes_narrowScopeRules]
      _ = narrowScopeRules requested granted := by rw [narrowScopeRules, List.filter_filter]; simp only [Bool.and_self]
  · obtain ⟨held, grant, known, covers⟩ := mem_narrowScopeRules.mp member
    exact mem_narrowScopeRules.mpr ⟨held, grant, cleanScopes_mono grows known, covers⟩

def invoiceReader : CapabilitySpec where
  id := "invoice.read"
  version := "1.0.0"
  providerId := "sample"
  scopes := ["workspace"]
  inputSchema := []
  outputSchema := []
  permissions := ["finance:read"]

theorem narrowing_never_widens_reader :
    scopeAllows invoiceReader (narrowScopeRules ["Invoice.Read", "workspace:*"] ["invoice.*"]) = true ∧
      scopeAllows invoiceReader ["invoice.*"] = true := by
  have allowed : scopeAllows invoiceReader (narrowScopeRules ["Invoice.Read", "workspace:*"] ["invoice.*"]) = true := by
    decide
  exact ⟨allowed, (narrowing_never_widens _ _ (by decide)).1 allowed⟩

end Operly.Mcp
