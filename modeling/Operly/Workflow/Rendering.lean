import Operly.Workflow.ConditionMeaning

/-! What rendering replaces: every template that stands in a text, once, and nothing else. Values nest without
bound here, while Python stops at its recursion limit. -/

namespace Operly.Workflow
open Python

/-! ### The templates of a text -/

def openBrace : Char := Char.ofNat 123
def closeBrace : Char := Char.ofNat 125

def TemplateBody (body : List Char) : Prop := body ≠ [] ∧ ∀ c ∈ body, isBrace c = false

def braced (body : List Char) : List Char := openBrace :: openBrace :: (body ++ [closeBrace, closeBrace])

def referenceOf (body : List Char) : String := String.ofList (templateGroup body)

inductive Segment where
  | plain (c : Char)
  | template (body : List Char)

def Segment.text : Segment → List Char
  | .plain c => [c]
  | .template body => braced body

def Segment.piece : Segment → Piece
  | .plain c => .literal c
  | .template body => .template (referenceOf body)

/-- A text cut into its templates and the characters between them. -/
structure Segmentation (text : List Char) (segments : List Segment) : Prop where
  whole : segments.flatMap Segment.text = text
  proper : ∀ body, .template body ∈ segments → TemplateBody body
  /-- No template of the text is left among the plain characters. -/
  every : ∀ before body after, TemplateBody body → text = before ++ (braced body ++ after) →
    ∃ earlier later, segments = earlier ++ .template body :: later ∧ earlier.flatMap Segment.text = before

def WholeTemplate (text : List Char) (body : List Char) : Prop := TemplateBody body ∧ text = braced body

@[simp] theorem isBrace_open : isBrace openBrace = true := by decide
@[simp] theorem isBrace_close : isBrace closeBrace = true := by decide

theorem open_ne_close : openBrace ≠ closeBrace := by decide

theorem braced_append (body after : List Char) :
    braced body ++ after = openBrace :: openBrace :: (body ++ closeBrace :: closeBrace :: after) := by
  simp [braced]

theorem braced_length (body : List Char) : (braced body).length = body.length + 4 := by simp [braced]

section Bodies
variable {body other : List Char}

theorem TemplateBody.takeWhile (proper : TemplateBody body) (rest : List Char) :
    (body ++ closeBrace :: rest).takeWhile (fun c => !isBrace c) = body := by
  rw [List.takeWhile_append_of_pos fun c member => by simp [proper.2 c member]]
  simp

theorem TemplateBody.dropWhile (proper : TemplateBody body) (rest : List Char) :
    (body ++ closeBrace :: rest).dropWhile (fun c => !isBrace c) = closeBrace :: rest := by
  rw [List.dropWhile_append_of_pos fun c member => by simp [proper.2 c member]]
  simp

theorem braced_injective (proper : TemplateBody body) (properOther : TemplateBody other) {rest after : List Char}
    (same : braced body ++ rest = braced other ++ after) : body = other ∧ rest = after := by
  rw [braced_append, braced_append] at same
  have tails := (List.cons.inj (List.cons.inj same).2).2
  have bodies := congrArg (List.takeWhile fun c => !isBrace c) tails
  rw [proper.takeWhile, properOther.takeWhile] at bodies
  subst bodies
  exact ⟨rfl, by simpa using tails⟩

theorem before_of_braced (proper : TemplateBody body) {rest before after : List Char}
    (same : braced body ++ rest = before ++ (braced other ++ after)) (later : before ≠ []) :
    ∃ between, before = braced body ++ between ∧ rest = between ++ (braced other ++ after) := by
  rcases List.append_eq_append_iff.mp same with ⟨between, shape, tail⟩ | ⟨inside, shape, tail⟩
  · exact ⟨between, shape, tail⟩
  · -- The second template would start inside the first one, where no two open braces meet.
    cases inside with
    | nil => exact ⟨[], by simpa using shape.symm, by simpa using tail.symm⟩
    | cons c inside =>
      rw [braced_append, List.cons_append] at tail
      obtain ⟨rfl, following⟩ := List.cons.inj tail
      obtain ⟨first, before, rfl⟩ := List.exists_cons_of_ne_nil later
      obtain ⟨-, shape⟩ := List.cons.inj shape
      cases before with
      | nil =>
        obtain ⟨-, rfl⟩ := List.cons.inj shape
        obtain ⟨c, body, rfl⟩ := List.exists_cons_of_ne_nil proper.1
        obtain ⟨rfl, -⟩ := List.cons.inj following
        exact absurd (proper.2 _ List.mem_cons_self) (by simp)
      | cons second before =>
        have met : openBrace ∈ body ++ [closeBrace, closeBrace] := by
          rw [(List.cons.inj shape).2]
          simp
        have inner : openBrace ∈ body := by simpa [open_ne_close] using met
        exact absurd (proper.2 _ inner) (by simp)

end Bodies

variable {c : Char} {name : String} {rest : List Char} {segments : List Segment} {context : Json}
  {spelling : Spelling}

theorem eq_openBrace : c.toNat = 123 ↔ c = openBrace := by
  rw [← Char.toNat_inj]
  rfl

theorem eq_closeBrace : c.toNat = 125 ↔ c = closeBrace := by
  rw [← Char.toNat_inj]
  rfl

theorem templateAt_iff {text : List Char} {taken : Nat} : templateAt text = some (name, taken) ↔
    ∃ body rest, TemplateBody body ∧ text = braced body ++ rest ∧ name = referenceOf body ∧ taken = body.length + 4 := by
  constructor
  · intro found
    unfold templateAt at found
    split at found
    · next first second rest =>
      simp only at found
      split at found
      · next third fourth after left =>
        split at found
        · next shape =>
          obtain ⟨opens, opens', closes, closes', present⟩ := shape
          rw [eq_openBrace] at opens opens'
          rw [eq_closeBrace] at closes closes'
          cases found
          refine ⟨rest.takeWhile fun c => !isBrace c, after, ⟨present, fun c member => ?_⟩, ?_, rfl, rfl⟩
          · simpa using List.mem_takeWhile_imp member
          · have whole := List.takeWhile_append_dropWhile (p := fun c => !isBrace c) (l := rest)
            rw [left] at whole
            rw [closes, closes'] at whole
            rw [braced_append, opens, opens', whole]
        · cases found
      · cases found
    · cases found
  · rintro ⟨body, rest, proper, rfl, rfl, rfl⟩
    rw [braced_append]
    simp only [templateAt, proper.takeWhile, proper.dropWhile]
    rw [if_pos ⟨eq_openBrace.mpr rfl, eq_openBrace.mpr rfl, eq_closeBrace.mpr rfl, eq_closeBrace.mpr rfl, proper.1⟩]
    rfl

theorem fullTemplate_iff {text : String} : fullTemplate text = some name ↔
    ∃ body, WholeTemplate text.toList body ∧ name = referenceOf body := by
  unfold fullTemplate
  constructor
  · intro found
    split at found
    · next name' taken at_ =>
      obtain ⟨body, rest, proper, shape, rfl, rfl⟩ := templateAt_iff.mp at_
      split at found
      · next all =>
        cases found
        have none : rest = [] := by
          rw [shape, List.length_append, braced_length] at all
          exact List.eq_nil_of_length_eq_zero (by omega)
        exact ⟨body, ⟨proper, by rw [shape, none, List.append_nil]⟩, rfl⟩
      · cases found
    · cases found
  · rintro ⟨body, ⟨proper, shape⟩, rfl⟩
    have found : templateAt text.toList = some (referenceOf body, body.length + 4) :=
      templateAt_iff.mpr ⟨body, [], proper, by rw [shape, List.append_nil], rfl, rfl⟩
    rw [found]
    simp [shape, braced_length]

/-! ### The scan of a text -/

theorem pieces_skip (skip : Nat) (text : List Char) : pieces skip text = pieces 0 (text.drop skip) := by
  induction skip generalizing text with
  | zero => rfl
  | succ skip ih =>
    cases text with
    | nil => rw [List.drop_nil, pieces, pieces]
    | cons c rest => rw [pieces, ih, List.drop_succ_cons]

theorem pieces_template {body : List Char} (proper : TemplateBody body) (rest : List Char) :
    pieces 0 (braced body ++ rest) = .template (referenceOf body) :: pieces 0 rest := by
  have found : templateAt (braced body ++ rest) = some (referenceOf body, body.length + 4) :=
    templateAt_iff.mpr ⟨body, rest, proper, rfl, rfl, rfl⟩
  have cut : (braced body ++ rest).tail.drop (body.length + 3) = rest := by
    rw [← List.drop_one, List.drop_drop, Nat.add_comm 1, ← braced_length, List.drop_left]
  cases shape : braced body ++ rest with
  | nil => simp [braced] at shape
  | cons c tail =>
    rw [shape] at found cut
    rw [pieces, found]
    simp only
    rw [pieces_skip]
    exact congrArg (fun left => Piece.template (referenceOf body) :: pieces 0 left) cut

theorem pieces_plain (plain : templateAt (c :: rest) = none) :
    pieces 0 (c :: rest) = .literal c :: pieces 0 rest := by rw [pieces, plain]

theorem templateAt_none {text : List Char} (absent : templateAt text = none) {body after : List Char}
    (proper : TemplateBody body) : text ≠ braced body ++ after := by
  intro shape
  rw [templateAt_iff.mpr ⟨body, after, proper, shape, rfl, rfl⟩] at absent
  cases absent

theorem Segmentation.nil : Segmentation [] [] := by
  refine ⟨rfl, fun body member => (by cases member), fun before body after _ shape => ?_⟩
  have lengths := congrArg List.length shape
  rw [List.length_nil, List.length_append, List.length_append, braced_length] at lengths
  omega

theorem Segmentation.template {body : List Char} (proper : TemplateBody body) (cut : Segmentation rest segments) :
    Segmentation (braced body ++ rest) (.template body :: segments) := by
  refine ⟨by rw [List.flatMap_cons, cut.whole]; rfl, ?_, ?_⟩
  · intro other member
    rcases List.mem_cons.mp member with same | member
    · cases same
      exact proper
    · exact cut.proper other member
  · intro before other after properOther shape
    by_cases first : before = []
    · subst first
      obtain ⟨rfl, -⟩ := braced_injective proper properOther shape
      exact ⟨[], segments, rfl, rfl⟩
    · obtain ⟨between, rfl, tail⟩ := before_of_braced proper shape first
      obtain ⟨earlier, later, rfl, start⟩ := cut.every between other after properOther tail
      exact ⟨.template body :: earlier, later, rfl, by rw [List.flatMap_cons, start]; rfl⟩

theorem Segmentation.plain (absent : templateAt (c :: rest) = none) (cut : Segmentation rest segments) :
    Segmentation (c :: rest) (.plain c :: segments) := by
  refine ⟨by rw [List.flatMap_cons, cut.whole]; rfl, ?_, ?_⟩
  · intro other member
    rcases List.mem_cons.mp member with same | member
    · cases same
    · exact cut.proper other member
  · intro before other after proper shape
    cases before with
    | nil => exact absurd shape (templateAt_none absent proper)
    | cons d before =>
      obtain ⟨rfl, tail⟩ := List.cons.inj shape
      obtain ⟨earlier, later, rfl, start⟩ := cut.every before other after proper tail
      exact ⟨.plain c :: earlier, later, rfl, by rw [List.flatMap_cons, start]; rfl⟩

theorem exists_segmentation (text : List Char) :
    ∃ segments, Segmentation text segments ∧ pieces 0 text = segments.map Segment.piece := by
  induction size : text.length using Nat.strong_induction_on generalizing text with
  | h length ih =>
    cases text with
    | nil => exact ⟨[], .nil, rfl⟩
    | cons c rest =>
      cases found : templateAt (c :: rest) with
      | none =>
        obtain ⟨segments, cut, scanned⟩ := ih rest.length (by simp [← size]) rest rfl
        exact ⟨.plain c :: segments, cut.plain found, by rw [pieces_plain found, scanned]; rfl⟩
      | some template =>
        obtain ⟨body, after, proper, shape, -, -⟩ := templateAt_iff.mp found
        rw [shape]
        obtain ⟨segments, cut, scanned⟩ :=
          ih after.length (by rw [← size, shape, List.length_append, braced_length]; omega) after rfl
        exact ⟨.template body :: segments, cut.template proper, by rw [pieces_template proper, scanned]; rfl⟩

theorem Segment.text_ne_nil (segment : Segment) : segment.text ≠ [] := by
  cases segment <;> simp [Segment.text, braced]

theorem Segmentation.tail {segment : Segment} (cut : Segmentation (segment.text ++ rest) (segment :: segments)) :
    Segmentation rest segments := by
  refine ⟨List.append_cancel_left cut.whole, fun body member => cut.proper body (List.mem_cons_of_mem _ member), ?_⟩
  intro before body after proper shape
  obtain ⟨earlier, later, split, start⟩ := cut.every (segment.text ++ before) body after proper
    (by rw [shape, List.append_assoc])
  cases earlier with
  | nil =>
    have empty := List.append_eq_nil_iff.mp (start.symm.trans List.flatMap_nil)
    exact absurd empty.1 segment.text_ne_nil
  | cons first earlier =>
    obtain ⟨rfl, rest⟩ := List.cons.inj split
    rw [List.flatMap_cons] at start
    exact ⟨earlier, later, rest, List.append_cancel_left start⟩

theorem Segmentation.scanned {text : List Char} (cut : Segmentation text segments) :
    pieces 0 text = segments.map Segment.piece := by
  induction segments generalizing text with
  | nil =>
    rw [← cut.whole]
    rfl
  | cons segment segments ih =>
    have shape : text = segment.text ++ segments.flatMap Segment.text := by rw [← cut.whole, List.flatMap_cons]
    subst shape
    have later := ih cut.tail
    cases segment with
    | template body =>
      rw [Segment.text, pieces_template (cut.proper body List.mem_cons_self), later]
      rfl
    | plain c =>
      cases found : templateAt (c :: segments.flatMap Segment.text) with
      | none =>
        rw [Segment.text, List.singleton_append, pieces_plain found, later]
        rfl
      | some template =>
        obtain ⟨body, after, proper, shape, -, -⟩ := templateAt_iff.mp found
        obtain ⟨earlier, later, split, start⟩ := cut.every [] body after proper shape
        cases earlier with
        | nil => cases (List.cons.inj split).1
        | cons first earlier =>
          rw [List.flatMap_cons, List.append_eq_nil_iff] at start
          exact absurd start.1 first.text_ne_nil

def segmentText (spelling : Spelling) (context : Json) : Segment → Option String
  | .plain c => some (String.ofList [c])
  | .template body => (lookup context (referenceOf body)).map (substituted spelling)

/-- What a text becomes. One whole template stands for the value itself, with its type. -/
inductive RenderedText (spelling : Spelling) (context : Json) (text : String) : Json → Prop where
  | whole {body : List Char} {value : Json} (template : WholeTemplate text.toList body)
      (found : lookup context (referenceOf body) = some value) : RenderedText spelling context text value
  | parts {segments : List Segment} {texts : List String} (mixed : ∀ body, ¬ WholeTemplate text.toList body)
      (cut : Segmentation text.toList segments) (found : segments.mapM (segmentText spelling context) = some texts) :
      RenderedText spelling context text (.str (String.join texts))

mutual
def Rendered (spelling : Spelling) (context : Json) : Json → Json → Prop
  | .obj fields, result => ∃ results, result = .obj results ∧ RenderedFields spelling context fields results
  | .arr items, result => ∃ results, result = .arr results ∧ RenderedItems spelling context items results
  | .str text, result => RenderedText spelling context text result
  | .null, result => result = .null
  | .bool value, result => result = .bool value
  | .int value, result => result = .int value
  | .float value, result => result = .float value
def RenderedItems (spelling : Spelling) (context : Json) : List Json → List Json → Prop
  | [], results => results = []
  | item :: rest, results => ∃ first others, results = first :: others ∧ Rendered spelling context item first ∧
      RenderedItems spelling context rest others
def RenderedFields (spelling : Spelling) (context : Json) : Fields → Fields → Prop
  | [], results => results = []
  | (key, item) :: rest, results => ∃ first others, results = (key, first) :: others ∧
      Rendered spelling context item first ∧ RenderedFields spelling context rest others
end

/-- Rendering returns what the templates stand for, or raises a spec error. -/
structure RendersTemplates (spelling : Spelling) (context value : Json) : Prop where
  returns : ∀ result, renderValue spelling context value = .ok result ↔ Rendered spelling context value result
  raises : ∀ error, renderValue spelling context value = .error error → error.isSpec = true

def pieceReference : Piece → Option String
  | .literal _ => none
  | .template name => some name

def textReferences (text : String) : List String := (pieces 0 text.toList).filterMap pieceReference

mutual
def references : Json → List String
  | .obj fields => fieldReferences fields
  | .arr items => itemReferences items
  | .str text => textReferences text
  | .null | .bool _ | .int _ | .float _ => []
def itemReferences : List Json → List String
  | [] => []
  | item :: rest => references item ++ itemReferences rest
def fieldReferences : Fields → List String
  | [] => []
  | (_, item) :: rest => references item ++ fieldReferences rest
end

/-- The first of the references that the context does not hold indexes a list with a digit `int` refuses. -/
def strays (context : Json) : List String → Bool
  | [] => false
  | name :: rest => unreadableRef context name || ((lookup context name).isSome && strays context rest)

/-! ### What rendering returns -/

theorem pathStep_ok {part : String} {value found : Json} :
    pathStep name value part = .ok found ↔ child value part = some found := by
  cases value with
  | obj fields =>
    simp only [pathStep, child]
    cases Fields.get fields part <;> simp
  | arr items =>
    simp only [pathStep, child]
    by_cases digits : isDigit part = true
    · rw [if_pos digits, if_pos digits]
      cases parseInt part with
      | none => simp
      | some index =>
        simp only [Option.bind_some]
        cases items[index.toNat]? <;> simp
    · rw [if_neg digits, if_neg digits]
      simp
  | null | bool _ | int _ | float _ | str _ => simp [pathStep, child]

theorem pathValue_ok {value : Json} : pathValue context name = .ok value ↔ lookup context name = some value := by
  unfold pathValue lookup
  induction split '.' name generalizing context with
  | nil =>
    rw [List.foldlM_nil, List.foldlM_nil, pure_eq_ok]
    simp
  | cons part rest ih =>
    rw [List.foldlM_cons, List.foldlM_cons, bind_eq_ok]
    simp only [pathStep_ok, ih, Option.bind_eq_bind, Option.bind_eq_some_iff]

theorem returns_pathValue (context : Json) (name : String) :
    returns (pathValue context name) = (lookup context name).isSome := by
  rw [Bool.eq_iff_iff, returns_iff, Option.isSome_iff_exists]
  exact exists_congr fun value => pathValue_ok

theorem renderPiece_ok {segment : Segment} {text : String} :
    renderPiece spelling context segment.piece = .ok text ↔ segmentText spelling context segment = some text := by
  cases segment with
  | plain c => simp [Segment.piece, renderPiece, segmentText]
  | template body =>
    rw [Segment.piece, renderPiece, segmentText, map_eq_ok, Option.map_eq_some_iff]
    simp only [pathValue_ok]

theorem renderPieces_ok {text : String} :
    renderPieces spelling context (segments.map Segment.piece) = .ok text ↔
      ∃ texts, segments.mapM (segmentText spelling context) = some texts ∧ text = String.join texts := by
  induction segments generalizing text with
  | nil => simp [renderPieces, eq_comm]
  | cons segment segments ih =>
    rw [List.map_cons, renderPieces, bind_eq_ok, List.mapM_cons]
    simp only [renderPiece_ok, bind_eq_ok, ih, pure_eq_ok, Option.bind_eq_bind, Option.bind_eq_some_iff, Option.pure_def,
      Option.some.injEq]
    constructor
    · rintro ⟨first, head, others, ⟨texts, tail, rfl⟩, rfl⟩
      exact ⟨first :: texts, ⟨first, head, texts, tail, rfl⟩, by rw [String.join_cons]⟩
    · rintro ⟨_, ⟨first, head, texts, tail, rfl⟩, rfl⟩
      exact ⟨first, head, _, ⟨texts, tail, rfl⟩, by rw [String.join_cons]⟩

theorem renderText_ok {text : String} {result : Json} :
    renderText spelling context text = .ok result ↔ RenderedText spelling context text result := by
  unfold renderText
  cases whole : fullTemplate text with
  | some name =>
    obtain ⟨body, template, rfl⟩ := fullTemplate_iff.mp whole
    simp only [pathValue_ok]
    constructor
    · exact .whole template
    · intro rendered
      cases rendered with
      | whole other found =>
        have same := (@braced_injective _ _ template.1 other.1 [] []
          (by rw [List.append_nil, List.append_nil, ← template.2, ← other.2])).1
        exact same ▸ found
      | parts mixed => exact absurd template (mixed body)
  | none =>
    have mixed : ∀ body, ¬ WholeTemplate text.toList body := fun body template => by
      rw [fullTemplate_iff.mpr ⟨body, template, rfl⟩] at whole
      cases whole
    simp only [map_eq_ok]
    constructor
    · rintro ⟨joined, rendered, rfl⟩
      obtain ⟨segments, cut, scanned⟩ := exists_segmentation text.toList
      rw [scanned] at rendered
      obtain ⟨texts, found, rfl⟩ := renderPieces_ok.mp rendered
      exact .parts mixed cut found
    · intro rendered
      cases rendered with
      | whole template => exact absurd template (mixed _)
      | parts _ cut found =>
        refine ⟨_, ?_, rfl⟩
        rw [cut.scanned]
        exact renderPieces_ok.mpr ⟨_, found, rfl⟩

mutual
theorem renderValue_ok (spelling : Spelling) (context : Json) : ∀ value result : Json,
    renderValue spelling context value = .ok result ↔ Rendered spelling context value result
  | .obj fields, result => by
      rw [renderValue, Rendered, map_eq_ok]
      simp only [renderFields_ok spelling context fields, and_comm, eq_comm]
  | .arr items, result => by
      rw [renderValue, Rendered, map_eq_ok]
      simp only [renderItems_ok spelling context items, and_comm, eq_comm]
  | .str text, result => by rw [renderValue, Rendered, renderText_ok]
  | .null, result | .bool _, result | .int _, result | .float _, result => by
      simp [renderValue, Rendered, eq_comm]
theorem renderItems_ok (spelling : Spelling) (context : Json) : ∀ items results : List Json,
    renderItems spelling context items = .ok results ↔ RenderedItems spelling context items results
  | [], results => by simp [renderItems, RenderedItems, eq_comm]
  | item :: rest, results => by
      rw [renderItems, RenderedItems, bind_eq_ok]
      simp only [renderValue_ok spelling context item, bind_eq_ok, renderItems_ok spelling context rest, pure_eq_ok]
      constructor
      · rintro ⟨first, head, others, tail, rfl⟩
        exact ⟨first, others, rfl, head, tail⟩
      · rintro ⟨first, others, rfl, head, tail⟩
        exact ⟨first, head, others, tail, rfl⟩
theorem renderFields_ok (spelling : Spelling) (context : Json) : ∀ fields results : Fields,
    renderFields spelling context fields = .ok results ↔ RenderedFields spelling context fields results
  | [], results => by simp [renderFields, RenderedFields, eq_comm]
  | (key, item) :: rest, results => by
      rw [renderFields, RenderedFields, bind_eq_ok]
      simp only [renderValue_ok spelling context item, bind_eq_ok, renderFields_ok spelling context rest, pure_eq_ok]
      constructor
      · rintro ⟨first, head, others, tail, rfl⟩
        exact ⟨first, others, rfl, head, tail⟩
      · rintro ⟨first, others, rfl, head, tail⟩
        exact ⟨first, head, others, tail, rfl⟩
end

/-! ### What rendering raises -/

theorem strays_append (context : Json) (first second : List String) : strays context (first ++ second) =
    (strays context first || (first.all (fun name => (lookup context name).isSome) && strays context second)) := by
  induction first with
  | nil => simp [strays]
  | cons name rest ih =>
    rw [List.cons_append, strays, strays, ih, List.all_cons]
    cases unreadableRef context name <;> cases (lookup context name).isSome <;> simp

def Held (context : Json) (names : List String) : Bool := names.all fun name => (lookup context name).isSome

theorem returns_map {α β : Type} (result : Except WorkflowError α) (change : α → β) :
    returns (result.map change) = returns result := by
  cases result <;> rfl

theorem returns_sequence {α β γ : Type} {first : Except WorkflowError α} {others : Except WorkflowError β}
    {join : α → β → γ} : returns (do let x ← first; let xs ← others; return join x xs) = (returns first && returns others) := by
  cases first <;> cases others <;> rfl

theorem returns_renderPieces (spelling : Spelling) (context : Json) (list : List Piece) :
    returns (renderPieces spelling context list) = Held context (list.filterMap pieceReference) := by
  induction list with
  | nil => rfl
  | cons piece rest ih =>
    rw [renderPieces, returns_sequence, ih]
    cases piece with
    | literal c => rfl
    | template name =>
      rw [renderPiece, returns_map, returns_pathValue]
      rfl

theorem piecesTrip_eq (context : Json) (list : List Piece) :
    piecesTrip context list = strays context (list.filterMap pieceReference) := by
  induction list with
  | nil => rfl
  | cons piece rest ih =>
    cases piece with
    | literal c => exact ih
    | template name =>
      rw [piecesTrip, ih, returns_pathValue]
      rfl

theorem textReferences_whole {text : String} (whole : fullTemplate text = some name) :
    textReferences text = [name] := by
  obtain ⟨body, template, rfl⟩ := fullTemplate_iff.mp whole
  have scanned := pieces_template template.1 []
  rw [List.append_nil, ← template.2] at scanned
  rw [textReferences, scanned]
  rfl

theorem returns_renderText (spelling : Spelling) (context : Json) (text : String) :
    returns (renderText spelling context text) = Held context (textReferences text) := by
  unfold renderText
  cases whole : fullTemplate text with
  | some name => simp [textReferences_whole whole, Held, returns_pathValue]
  | none =>
    simp only [returns_map]
    exact returns_renderPieces spelling context _

theorem textTrips_eq (context : Json) (text : String) : textTrips context text = strays context (textReferences text) := by
  unfold textTrips
  cases whole : fullTemplate text with
  | some name => simp [textReferences_whole whole, strays]
  | none => exact piecesTrip_eq context _

mutual
theorem returns_renderValue (spelling : Spelling) (context : Json) : ∀ value : Json,
    returns (renderValue spelling context value) = Held context (references value)
  | .obj fields => by rw [renderValue, returns_map, returns_renderFields spelling context fields, references]
  | .arr items => by rw [renderValue, returns_map, returns_renderItems spelling context items, references]
  | .str text => by rw [renderValue, returns_renderText, references]
  | .null | .bool _ | .int _ | .float _ => by rw [renderValue, references]; rfl
theorem returns_renderItems (spelling : Spelling) (context : Json) : ∀ items : List Json,
    returns (renderItems spelling context items) = Held context (itemReferences items)
  | [] => rfl
  | item :: rest => by
      rw [renderItems, returns_sequence, returns_renderValue spelling context item,
        returns_renderItems spelling context rest, itemReferences]
      exact List.all_append.symm
theorem returns_renderFields (spelling : Spelling) (context : Json) : ∀ fields : Fields,
    returns (renderFields spelling context fields) = Held context (fieldReferences fields)
  | [] => rfl
  | (key, item) :: rest => by
      rw [renderFields, returns_sequence, returns_renderValue spelling context item,
        returns_renderFields spelling context rest, fieldReferences]
      exact List.all_append.symm
end

mutual
theorem renderTrips_eq (spelling : Spelling) (context : Json) : ∀ value : Json,
    renderTrips spelling context value = strays context (references value)
  | .obj fields => by rw [renderTrips, fieldsTrip_eq spelling context fields, references]
  | .arr items => by rw [renderTrips, itemsTrip_eq spelling context items, references]
  | .str text => by rw [renderTrips, textTrips_eq, references]
  | .null | .bool _ | .int _ | .float _ => by rw [renderTrips, references]; rfl
theorem itemsTrip_eq (spelling : Spelling) (context : Json) : ∀ items : List Json,
    itemsTrip spelling context items = strays context (itemReferences items)
  | [] => rfl
  | item :: rest => by
      rw [itemsTrip, renderTrips_eq spelling context item, itemsTrip_eq spelling context rest, returns_renderValue,
        itemReferences, strays_append]
      rfl
theorem fieldsTrip_eq (spelling : Spelling) (context : Json) : ∀ fields : Fields,
    fieldsTrip spelling context fields = strays context (fieldReferences fields)
  | [] => rfl
  | (key, item) :: rest => by
      rw [fieldsTrip, renderTrips_eq spelling context item, fieldsTrip_eq spelling context rest, returns_renderValue,
        fieldReferences, strays_append]
      rfl
end

/-- Rendering does what templates stand for unless an index that `int` refuses is reached. -/
theorem rendersTemplates_iff (spelling : Spelling) (context value : Json) :
    RendersTemplates spelling context value ↔ strays context (references value) = false := by
  rw [← renderTrips_eq spelling, ← Bool.not_eq_true, ← escapes_renderValue]
  constructor
  · rintro ⟨-, raises⟩ ⟨error, raised, other⟩
    rw [raises error raised] at other
    cases other
  · intro caught
    refine ⟨renderValue_ok spelling context value, fun error raised => ?_⟩
    by_contra other
    exact caught ⟨error, raised, by simpa using other⟩

/-- The index of a list may be a digit that is no number. -/
theorem rendersTemplates_superscript : ¬ RendersTemplates plainText mailContext
    (.obj [("note", .str "\x7b\x7btrigger.items.²\x7d\x7d")]) := by
  intro rendered
  have refused : renderValue plainText mailContext (.obj [("note", .str "\x7b\x7btrigger.items.²\x7d\x7d")]) =
      .error (.value "invalid literal for int() with base 10: ²") := by decide +kernel
  exact absurd (rendered.raises _ refused) (by decide)

-- The braces of a referenced text are text.
example : renderValue plainText (.obj [("note", .str "\x7b\x7bkey\x7d\x7d"), ("key", .int 7)])
    (.str "\x7b\x7b note \x7d\x7d, \x7b\x7bkey\x7d\x7d") = .ok (.str "\x7b\x7bkey\x7d\x7d, 7") := by decide +kernel

end Operly.Workflow
