import Operly.Python.Text

/-! Trimming and lower-casing a text twice changes nothing more. -/

namespace Python

def Settled (c : Char) : Prop := c.toNat ≠ 931 ∧ lowerChar c = [c]

/-- The images of a run avoid the sources of every run, capitals, spaces and invalid points. -/
def imageSettled (run other : Nat × Nat × Nat × Nat) : Bool :=
  let first := run.2.2.2
  let last := run.2.2.2 + (run.2.1 - run.1)
  last < other.1 || other.2.1 < first ||
    (run.2.2.1 == 2 && other.2.2.1 == 2 && (first + other.1) % 2 == 1) ||
    (run.1 == run.2.1 && other.2.2.1 == 2 && (first - other.1) % 2 == 1 && other.1 ≤ first)

def imageProper (run : Nat × Nat × Nat × Nat) : Bool :=
  let first := run.2.2.2
  let last := run.2.2.2 + (run.2.1 - run.1)
  (last < 55296 || (57343 < first && last < 1114112)) && (last < 304 || 304 < first) &&
    (last < 65 || 90 < first) && (last < 931 || 931 < first) &&
    Unicode.whitespace.all fun range => last < range.1 || range.2 < first

theorem lowercaseRuns_settled :
    ∀ run ∈ Unicode.lowercaseRuns, ∀ other ∈ Unicode.lowercaseRuns, imageSettled run other = true := by
  decide +kernel

theorem lowercaseRuns_proper : ∀ run ∈ Unicode.lowercaseRuns, imageProper run = true := by
  decide +kernel

theorem lowercaseRuns_strides : ∀ run ∈ Unicode.lowercaseRuns, run.2.2.1 = 1 ∨ run.2.2.1 = 2 := by
  decide +kernel

def inRun (point : Nat) (run : Nat × Nat × Nat × Nat) : Bool :=
  run.1 ≤ point && point ≤ run.2.1 && (point - run.1) % run.2.2.1 == 0

variable {point : Nat} {c : Char} {text : List Char}

theorem lowerPoint_of_absent (absent : ∀ run ∈ Unicode.lowercaseRuns, inRun point run = false) :
    lowerPoint point = point := by
  have missing : Unicode.lowercaseRuns.find? (inRun point) = none := by
    simpa [List.find?_eq_none] using absent
  unfold lowerPoint
  rw [show (Unicode.lowercaseRuns.find? fun run => run.1 ≤ point && point ≤ run.2.1 &&
    (point - run.1) % run.2.2.1 == 0) = none from missing]

theorem lowerPoint_cases (point : Nat) :
    (lowerPoint point = point ∧ ∀ run ∈ Unicode.lowercaseRuns, inRun point run = false) ∨
      ∃ run ∈ Unicode.lowercaseRuns, inRun point run = true ∧
        lowerPoint point = run.2.2.2 + (point - run.1) := by
  cases found : Unicode.lowercaseRuns.find? (inRun point) with
  | none =>
    have absent : ∀ run ∈ Unicode.lowercaseRuns, inRun point run = false := by
      simpa [List.find?_eq_none] using found
    exact .inl ⟨lowerPoint_of_absent absent, absent⟩
  | some run =>
    refine .inr ⟨run, List.mem_of_find?_eq_some found, List.find?_some found, ?_⟩
    unfold lowerPoint
    rw [show (Unicode.lowercaseRuns.find? fun run => run.1 ≤ point && point ≤ run.2.1 &&
      (point - run.1) % run.2.2.1 == 0) = some run from found]

theorem image_absent {run other : Nat × Nat × Nat × Nat} (member : run ∈ Unicode.lowercaseRuns)
    (held : inRun point run = true) (member' : other ∈ Unicode.lowercaseRuns) :
    inRun (run.2.2.2 + (point - run.1)) other = false := by
  have settled := lowercaseRuns_settled run member other member'
  have stride := lowercaseRuns_strides run member
  simp only [imageSettled, Bool.or_eq_true, decide_eq_true_eq, Bool.and_eq_true, beq_iff_eq] at settled
  simp only [inRun, Bool.and_eq_true, decide_eq_true_eq, beq_iff_eq] at held
  by_contra present
  simp only [inRun, Bool.not_eq_false, Bool.and_eq_true, decide_eq_true_eq, beq_iff_eq] at present
  obtain ⟨⟨low, high⟩, aligned⟩ := held
  obtain ⟨⟨low', high'⟩, aligned'⟩ := present
  rcases settled with ((before | after) | ⟨⟨two, two'⟩, odd⟩) | ⟨⟨⟨single, two'⟩, odd⟩, below⟩
  · omega
  · omega
  · rw [two] at aligned
    rw [two'] at aligned'
    omega
  · rw [two'] at aligned'
    omega

theorem image_proper {run : Nat × Nat × Nat × Nat} (member : run ∈ Unicode.lowercaseRuns)
    (held : inRun point run = true) : let image := run.2.2.2 + (point - run.1)
    (image < 55296 ∨ (57343 < image ∧ image < 1114112)) ∧ image ≠ 304 ∧ (image < 65 ∨ 90 < image) ∧
      image ≠ 931 ∧ Unicode.within Unicode.whitespace image = false := by
  have proper := lowercaseRuns_proper run member
  simp only [imageProper, Bool.and_eq_true, Bool.or_eq_true, decide_eq_true_eq, List.all_eq_true] at proper
  simp only [inRun, Bool.and_eq_true, decide_eq_true_eq, beq_iff_eq] at held
  obtain ⟨⟨⟨⟨valid, dotted⟩, capital⟩, sigma⟩, spaces⟩ := proper
  refine ⟨by omega, by omega, by omega, by omega, ?_⟩
  simp only [Unicode.within, List.any_eq_false, Bool.and_eq_true, decide_eq_true_eq]
  intro range known
  have apart := spaces range known
  omega

theorem toNat_ofNat_of_valid (valid : point < 55296 ∨ (57343 < point ∧ point < 1114112)) :
    (Char.ofNat point).toNat = point := by
  have proper : point.isValidChar := valid
  rw [Char.ofNat, dif_pos proper]
  rfl

theorem settled_ascii (ascii : c.toNat < 128) (small : c.toNat < 65 ∨ 90 < c.toNat) : Settled c := by
  refine ⟨by omega, ?_⟩
  have lowerBound : ¬('A' ≤ c ∧ c ≤ 'Z') := by
    rintro ⟨above, below⟩
    have first : (65 : Nat) ≤ c.toNat := above
    have last : c.toNat ≤ (90 : Nat) := below
    omega
  simp [lowerChar, ascii, lowerBound]

theorem settled_of_absent (ascii : 128 ≤ c.toNat) (dotted : c.toNat ≠ 304) (sigma : c.toNat ≠ 931)
    (absent : ∀ run ∈ Unicode.lowercaseRuns, inRun c.toNat run = false) : Settled c := by
  refine ⟨sigma, ?_⟩
  simp only [lowerChar, if_neg (show ¬c.toNat < 128 by omega), if_neg dotted,
    lowerPoint_of_absent absent, Char.ofNat_toNat]

theorem lowerChar_settled (sigma : c.toNat ≠ 931) :
    (∀ d ∈ lowerChar c, Settled d) ∧ (isSpace c = false → ∀ d ∈ lowerChar c, isSpace d = false) := by
  by_cases ascii : c.toNat < 128
  · by_cases capital : 'A' ≤ c ∧ c ≤ 'Z'
    · have first : (65 : Nat) ≤ c.toNat := capital.1
      have last : c.toNat ≤ (90 : Nat) := capital.2
      have image : (Char.ofNat (c.toNat + 32)).toNat = c.toNat + 32 :=
        toNat_ofNat_of_valid (by omega)
      have shape : lowerChar c = [Char.ofNat (c.toNat + 32)] := by simp [lowerChar, ascii, capital]
      rw [shape]
      simp only [List.mem_singleton, forall_eq]
      refine ⟨settled_ascii (by omega) (by omega), fun _ => ?_⟩
      simp only [isSpace, image, Unicode.within, Unicode.whitespace, List.any_eq_false,
        Bool.and_eq_true, decide_eq_true_eq, List.mem_cons, List.not_mem_nil, or_false]
      rintro range (rfl | rfl | rfl | rfl | rfl | rfl | rfl | rfl | rfl | rfl) <;> omega
    · have shape : lowerChar c = [c] := by simp [lowerChar, ascii, capital]
      rw [shape]
      simp only [List.mem_singleton, forall_eq]
      exact ⟨⟨sigma, shape⟩, id⟩
  · by_cases dotted : c.toNat = 304
    · have shape : lowerChar c = ['i', Char.ofNat 775] := by simp [lowerChar, dotted]
      rw [shape]
      simp only [List.mem_cons, List.not_mem_nil, or_false, forall_eq_or_imp, forall_eq]
      refine ⟨⟨settled_ascii (by decide) (by decide), ?_⟩, fun _ => by decide⟩
      exact ⟨by decide, by decide⟩
    · have shape : lowerChar c = [Char.ofNat (lowerPoint c.toNat)] := by simp [lowerChar, ascii, dotted]
      rw [shape]
      simp only [List.mem_singleton, forall_eq]
      rcases lowerPoint_cases c.toNat with ⟨same, absent⟩ | ⟨run, member, held, image⟩
      · rw [same, Char.ofNat_toNat]
        exact ⟨settled_of_absent (by omega) dotted sigma absent, id⟩
      · obtain ⟨valid, noDot, small, noSigma, noSpace⟩ := image_proper member held
        rw [← image] at valid noDot small noSigma noSpace
        have point := toNat_ofNat_of_valid valid
        refine ⟨?_, fun _ => by simpa only [isSpace, point] using noSpace⟩
        by_cases under : lowerPoint c.toNat < 128
        · exact settled_ascii (by omega) (by omega)
        · refine settled_of_absent (by omega) (by omega) (by omega) fun other member' => ?_
          rw [point, image]
          exact image_absent member held member'

theorem lowerFrom_settled (before text : List Char) : ∀ c ∈ lowerFrom before text, Settled c := by
  induction text generalizing before with
  | nil => simp [lowerFrom]
  | cons c rest ih =>
    intro d member
    rw [lowerFrom, List.mem_append] at member
    rcases member with first | later
    · by_cases sigma : c.toNat = 931
      · rw [if_pos sigma, List.mem_singleton] at first
        subst first
        split
        · exact ⟨by decide, by decide⟩
        · exact ⟨by decide, by decide⟩
      · rw [if_neg sigma] at first
        exact (lowerChar_settled sigma).1 d first
    · exact ih _ d later

theorem lowerFrom_of_settled (settled : ∀ c ∈ text, Settled c) (before : List Char) : lowerFrom before text = text := by
  induction text generalizing before with
  | nil => rfl
  | cons c rest ih =>
    have head := settled c (by simp)
    rw [lowerFrom, if_neg head.1, head.2, ih (fun d member => settled d (by simp [member]))]
    rfl

@[simp] theorem lower_lower (text : String) : lower (lower text) = lower text := by
  simp only [lower, String.toList_ofList]
  rw [lowerFrom_of_settled (lowerFrom_settled [] text.toList)]

theorem lowerImage_noSpace (proper : isSpace c = false) (before rest : List Char) :
    ∃ first last : Char, ∃ middle : List Char,
      (if c.toNat = 931 then
        [if casedAhead before && !casedAhead rest then Char.ofNat 962 else Char.ofNat 963]
        else lowerChar c).head? = some first ∧
      (if c.toNat = 931 then
        [if casedAhead before && !casedAhead rest then Char.ofNat 962 else Char.ofNat 963]
        else lowerChar c) = middle ++ [last] ∧ isSpace first = false ∧ isSpace last = false := by
  by_cases sigma : c.toNat = 931
  · rw [if_pos sigma]
    split
    · exact ⟨Char.ofNat 962, Char.ofNat 962, [], rfl, rfl, by decide, by decide⟩
    · exact ⟨Char.ofNat 963, Char.ofNat 963, [], rfl, rfl, by decide, by decide⟩
  · rw [if_neg sigma]
    have noSpace := (lowerChar_settled sigma).2 proper
    have nonempty : lowerChar c ≠ [] := by
      unfold lowerChar
      split
      · simp
      · split <;> simp
    refine ⟨(lowerChar c).head nonempty, (lowerChar c).getLast nonempty, (lowerChar c).dropLast,
      List.head?_eq_some_head nonempty, (List.dropLast_concat_getLast nonempty).symm, ?_, ?_⟩
    · exact noSpace _ (List.head_mem nonempty)
    · exact noSpace _ (List.getLast_mem nonempty)

theorem stripChars_of_bare (front : ∀ c, text.head? = some c → isSpace c = false)
    (back : ∀ c, text.getLast? = some c → isSpace c = false) : stripChars text = text := by
  have left : text.dropWhile isSpace = text := by
    cases text with
    | nil => rfl
    | cons c rest => simp [front c rfl]
  have right : text.reverse.dropWhile isSpace = text.reverse := by
    cases shape : text.reverse with
    | nil => rfl
    | cons c rest =>
      have last : text.getLast? = some c := by rw [← List.head?_reverse, shape]; rfl
      simp [back c last]
  rw [stripChars, left, right, List.reverse_reverse]

theorem stripChars_bare (text : List Char) :
    (∀ c, (stripChars text).head? = some c → isSpace c = false) ∧
      ∀ c, (stripChars text).getLast? = some c → isSpace c = false := by
  constructor
  · intro c first
    have again : stripChars (stripChars text) = stripChars text := stripChars_stripChars text
    by_contra space
    have start : stripChars text <+: text.dropWhile isSpace := by
      rw [stripChars_eq]
      exact List.rdropWhile_prefix ..
    cases shape : stripChars text with
    | nil => simp [shape] at first
    | cons d rest =>
      rw [shape] at first start
      cases first
      obtain ⟨tail, whole⟩ := start
      have head := List.head?_dropWhile_not isSpace text
      rw [← whole] at head
      simp at head
      exact space head
  · intro c last
    rw [stripChars, List.getLast?_reverse] at last
    have head := List.head?_dropWhile_not isSpace (text.dropWhile isSpace).reverse
    rw [last] at head
    simpa using head

theorem lowerFrom_head (front : ∀ c, text.head? = some c → isSpace c = false) (before : List Char) :
    ∀ c, (lowerFrom before text).head? = some c → isSpace c = false := by
  cases text with
  | nil => simp [lowerFrom]
  | cons c rest =>
    intro d head
    obtain ⟨first, _, _, starts, _, proper, _⟩ := lowerImage_noSpace (front c rfl) before rest
    rw [lowerFrom, List.head?_append, starts] at head
    cases head
    exact proper

theorem lowerFrom_last (back : ∀ c, text.getLast? = some c → isSpace c = false) (before : List Char) :
    ∀ c, (lowerFrom before text).getLast? = some c → isSpace c = false := by
  induction text generalizing before with
  | nil => simp [lowerFrom]
  | cons c rest ih =>
    intro d last
    rw [lowerFrom] at last
    cases rest with
    | nil =>
      obtain ⟨_, final, middle, _, ends, _, proper⟩ := lowerImage_noSpace (back c rfl) before []
      rw [lowerFrom, List.append_nil, ends] at last
      simp only [List.getLast?_append, List.getLast?_singleton, Option.some_or, Option.some.injEq] at last
      exact last ▸ proper
    | cons e rest =>
      have later := ih (fun d known => back d (by simpa [List.getLast?_cons_cons] using known)) (c :: before)
      rw [List.getLast?_append] at last
      cases ending : (lowerFrom (c :: before) (e :: rest)).getLast? with
      | none =>
        have empty : lowerFrom (c :: before) (e :: rest) = [] := List.getLast?_eq_none_iff.mp ending
        simp only [lowerFrom, List.append_eq_nil_iff] at empty
        exfalso
        by_cases sigma : e.toNat = 931
        · simp [sigma] at empty
        · rw [if_neg sigma] at empty
          have blank := empty.1
          unfold lowerChar at blank
          split at blank
          · cases blank
          · split at blank <;> cases blank
      | some final =>
        rw [ending] at last
        cases last
        exact later d ending

@[simp] theorem strip_lower_strip (text : String) : strip (lower (strip text)) = lower (strip text) := by
  simp only [strip, lower, String.toList_ofList]
  rw [stripChars_of_bare (lowerFrom_head (stripChars_bare text.toList).1 [])
    (lowerFrom_last (stripChars_bare text.toList).2 [])]

end Python
