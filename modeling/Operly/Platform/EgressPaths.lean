import Operly.Platform.Egress
import Operly.Python.Affixes
import Operly.Python.Percent

/-! The paths of egress requests: what is granted, and what the target server reads after its own decoding. -/

namespace Operly.Platform
open Python

def rawUnsafe (value : String) : Bool :=
  !startsWith value "/" || startsWith value "//" || contains value "\r" || contains value "\n" || contains value "\x00" ||
    contains value "?" || contains value "#"

def decodeRounds : Nat → String → Option String
  | 0, current => some current
  | rounds + 1, current =>
      (unquote current).bind fun decoded => if decoded = current then some current else decodeRounds rounds decoded

/-- `current.split("/")[1:]` -/
def segments (path : String) : List String := (split '/' path).tail

def checkDecoded (current : String) : Except EgressError String :=
  if contains current "\\" || !startsWith current "/" || startsWith current "//" then
    .error (.value "Egress path contains an unsafe path separator")
  else if contains current "?" || contains current "#" || contains current "\x00" then
    .error (.value "Egress path contains an unsafe delimiter")
  else if contains current "//" then .error (.value "Egress path contains ambiguous empty segments")
  else if (segments current).any fun segment => segment = "." || segment = ".." then
    .error (.value "Egress path may not contain dot segments")
  else .ok current

def canonicalEgressPath (raw : String) : Except EgressError String :=
  if rawUnsafe (strip raw) then .error (.value "Egress path must be an unambiguous absolute-path reference")
  else match decodeRounds 4 (strip raw) with
    | none => .error (.value "Egress path contains invalid percent-encoding")
    | some current => checkDecoded current

/-- `prefix.rstrip("/") or "/"` -/
def grantBase (path : String) : String :=
  if path.toList.rdropWhile (· = '/') = [] then "/" else String.ofList (path.toList.rdropWhile (· = '/'))

def pathGrantAllows (path : String) : List String → Except EgressError Bool
  | [] => .ok false
  | granted :: rest => do
      let base := grantBase (← canonicalEgressPath granted)
      if base = "/" || path = base || startsWith path (base ++ "/") then return true
      pathGrantAllows path rest

/-- An absolute path that a server reads in one way: no backslash, query, fragment, empty part or dot segment. -/
structure SafePath (path : String) : Prop where
  absolute : startsWith path "/" = true
  slashes : contains path "\\" = false
  query : contains path "?" = false
  fragment : contains path "#" = false
  terminator : contains path "\x00" = false
  parts : contains path "//" = false
  dots : ∀ segment ∈ segments path, segment ≠ "." ∧ segment ≠ ".."

def Under (base path : String) : Prop := base = "/" ∨ segments base <+: segments path

/-- What the canonical form of a path owes to the grants that it is compared with. -/
structure DecodedContract (raw : String) : Prop where
  stable : ∀ path, canonicalEgressPath raw = .ok path → ∀ rounds, unquoteTimes rounds path = some path
  safe : ∀ path, canonicalEgressPath raw = .ok path → ∀ rounds decoded, unquoteTimes rounds path = some decoded →
    SafePath decoded
  /-- A server that decodes what is sent, in whatever spelling of the path, reads a path under a granted one. -/
  granted : ∀ path prefixes, canonicalEgressPath raw = .ok path → pathGrantAllows path prefixes = .ok true →
    ∀ sent, unquote sent = unquote path → ∀ rounds seen, unquoteTimes (rounds + 1) sent = some seen →
      SafePath seen ∧ ∃ granted ∈ prefixes, ∃ base, canonicalEgressPath granted = .ok base ∧ Under (grantBase base) seen

/-- Escapes are left when four rounds of decoding have been made, in a path that is not refused. -/
def OverEncoded (raw : String) : Prop :=
  rawUnsafe (strip raw) = false ∧ ∃ left, unquoteTimes 4 (strip raw) = some left ∧ SafePath left ∧
    hasEscape left.toList = true

theorem decodeRounds_eq (rounds : Nat) (text : String) : decodeRounds rounds text = unquoteTimes rounds text := by
  induction rounds generalizing text with
  | zero => rfl
  | succ rounds ih =>
    rw [decodeRounds, unquoteTimes]
    cases decoded : unquote text with
    | none => rfl
    | some next =>
      rw [Option.bind_some, Option.bind_some]
      split
      · next same =>
        subst same
        exact (unquoteTimes_plain (unquote_eq_self.mp decoded) rounds).symm
      · exact ih next

theorem checkDecoded_ok {current path : String} : checkDecoded current = .ok path ↔ path = current ∧ SafePath current := by
  unfold checkDecoded
  simp only [check_eq_ok, Bool.or_eq_true, Bool.not_eq_true', not_or, Bool.not_eq_true, Bool.not_eq_false,
    List.any_eq_true, not_exists, not_and, Except.ok.injEq, decide_eq_true_eq]
  constructor
  · rintro ⟨⟨⟨slashes, absolute⟩, -⟩, ⟨⟨query, fragment⟩, terminator⟩, parts, dots, rfl⟩
    exact ⟨rfl, absolute, slashes, query, fragment, terminator, parts, dots⟩
  · rintro ⟨rfl, safe⟩
    have single : startsWith path "//" = false := by
      rw [← Bool.not_eq_true]
      intro double
      have inside : contains path "//" = true := contains_iff.mpr (startsWith_iff.mp double).isInfix
      rw [safe.parts] at inside
      cases inside
    exact ⟨⟨⟨safe.slashes, safe.absolute⟩, single⟩, ⟨⟨safe.query, safe.fragment⟩, safe.terminator⟩, safe.parts, safe.dots, rfl⟩

theorem canonicalEgressPath_ok {raw path : String} : canonicalEgressPath raw = .ok path ↔
    rawUnsafe (strip raw) = false ∧ unquoteTimes 4 (strip raw) = some path ∧ SafePath path := by
  rw [canonicalEgressPath, check_eq_ok, decodeRounds_eq, Bool.not_eq_true]
  refine and_congr_right fun _ => ?_
  cases unquoteTimes 4 (strip raw) with
  | none => simp
  | some current =>
    simp only [checkDecoded_ok, Option.some.injEq]
    constructor
    · rintro ⟨rfl, safe⟩
      exact ⟨rfl, safe⟩
    · rintro ⟨rfl, safe⟩
      exact ⟨rfl, safe⟩

theorem segments_append (base rest : String) : segments (base ++ "/" ++ rest) = segments base ++ split '/' rest := by
  have shape : (base ++ "/" ++ rest).toList = base.toList ++ '/' :: rest.toList := by simp
  rw [segments, segments, split, split, split, shape, splitChars_append, List.map_append]
  exact List.tail_append_of_ne_nil (by simpa using splitChars_ne_nil '/' base.toList)

theorem under_of_allowed {base path : String}
    (allowed : (base = "/" || path = base || startsWith path (base ++ "/")) = true) : Under base path := by
  rw [Bool.or_eq_true, Bool.or_eq_true, decide_eq_true_eq, decide_eq_true_eq] at allowed
  rcases allowed with (root | same) | below
  · exact .inl root
  · exact .inr (same ▸ List.prefix_refl _)
  · obtain ⟨rest, rfl⟩ := exists_of_startsWith below
    rw [Under, segments_append]
    exact .inr (List.prefix_append _ _)

theorem pathGrantAllows_under {path : String} {prefixes : List String} (allowed : pathGrantAllows path prefixes = .ok true) :
    ∃ granted ∈ prefixes, ∃ base, canonicalEgressPath granted = .ok base ∧ Under (grantBase base) path := by
  induction prefixes with
  | nil => cases allowed
  | cons granted rest ih =>
    obtain ⟨base, canonical, allowed⟩ := bind_eq_ok.mp allowed
    dsimp only at allowed
    split at allowed
    · next below => exact ⟨granted, List.mem_cons_self, base, canonical, under_of_allowed below⟩
    · obtain ⟨other, member, found⟩ := ih allowed
      exact ⟨other, List.mem_cons_of_mem _ member, found⟩

/-- A canonical path is what the server reads, unless four rounds leave escapes. -/
theorem decodedContract_iff (raw : String) : DecodedContract raw ↔ ¬ OverEncoded raw := by
  constructor
  · rintro contract ⟨opening, left, decoded, safe, escaped⟩
    have canonical := canonicalEgressPath_ok.mpr ⟨opening, decoded, safe⟩
    have same : unquoteTimes 1 left = some left := contract.stable left canonical 1
    have plain : unquote left = some left := by simpa [unquoteTimes] using same
    rw [unquote_eq_self.mp plain] at escaped
    cases escaped
  · intro enough
    have plain : ∀ path, canonicalEgressPath raw = .ok path → hasEscape path.toList = false := by
      intro path canonical
      obtain ⟨opening, decoded, safe⟩ := canonicalEgressPath_ok.mp canonical
      by_contra escaped
      exact enough ⟨opening, path, decoded, safe, by simpa using escaped⟩
    refine ⟨fun path canonical rounds => unquoteTimes_plain (plain path canonical) rounds, ?_, ?_⟩
    · intro path canonical rounds decoded same
      rw [unquoteTimes_plain (plain path canonical), Option.some.injEq] at same
      exact same ▸ (canonicalEgressPath_ok.mp canonical).2.2
    · intro path prefixes canonical allowed sent spelled rounds seen read
      rw [unquoteTimes, spelled, unquote_eq_self.mpr (plain path canonical), Option.bind_some,
        unquoteTimes_plain (plain path canonical), Option.some.injEq] at read
      subst read
      exact ⟨(canonicalEgressPath_ok.mp canonical).2.2, pathGrantAllows_under allowed⟩

/-- Dot segments in five layers of encoding are sent in one. -/
theorem decodedContract_layers : ¬ DecodedContract "/api/%252525252e%252525252e/admin" := by
  intro contract
  have canonical : canonicalEgressPath "/api/%252525252e%252525252e/admin" = .ok "/api/%2e%2e/admin" := by decide +kernel
  have same := contract.stable _ canonical 1
  have read : unquoteTimes 1 "/api/%2e%2e/admin" = some "/api/../admin" := by decide +kernel
  exact absurd (read.symm.trans same) (by decide)

end Operly.Platform
