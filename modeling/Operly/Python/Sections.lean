import Operly.Python.Casing

/-! A text of sections between separators: it is put together, lower-cased and taken apart again. -/

namespace Python

theorem casedAhead_append_space (text rest : List Char) : casedAhead (text ++ ' ' :: rest) = casedAhead text := by
  have stops : isCaseIgnorable ' ' = false := by decide +kernel
  have uncased : isCased ' ' = false := by decide
  unfold casedAhead
  rw [List.dropWhile_append]
  cases remaining : text.dropWhile isCaseIgnorable with
  | nil => simp [stops, uncased]
  | cons c later => simp

theorem lowerFrom_append_space (before text rest : List Char) : lowerFrom before (text ++ ' ' :: rest) =
    lowerFrom before text ++ lowerFrom (text.reverse ++ before) (' ' :: rest) := by
  induction text generalizing before with
  | nil => rfl
  | cons c later ih =>
    rw [List.cons_append, lowerFrom, lowerFrom, casedAhead_append_space, ih, List.append_assoc, List.reverse_cons,
      List.append_assoc]
    rfl

theorem lower_append_of_settled {text : String} {rest : List Char} (settled : ∀ c ∈ ' ' :: rest, Settled c) :
    lower (text ++ String.ofList (' ' :: rest)) = lower text ++ String.ofList (' ' :: rest) := by
  rw [← String.toList_inj]
  simp only [lower, String.toList_append, String.toList_ofList]
  rw [lowerFrom_append_space, lowerFrom_of_settled settled]

theorem splitChars_ne_nil (separator : Char) (text : List Char) : splitChars separator text ≠ [] := by
  cases text with
  | nil => simp [splitChars]
  | cons c rest =>
    rw [splitChars]
    split
    · simp
    · split <;> simp

theorem splitChars_append (separator : Char) (text rest : List Char) :
    splitChars separator (text ++ separator :: rest) = splitChars separator text ++ splitChars separator rest := by
  induction text with
  | nil =>
    rw [List.nil_append, splitChars]
    cases shape : splitChars separator rest with
    | nil => exact absurd shape (splitChars_ne_nil separator rest)
    | cons part parts => simp [splitChars, shape]
  | cons c later ih =>
    rw [List.cons_append, splitChars, ih, splitChars]
    cases shape : splitChars separator later with
    | nil => exact absurd shape (splitChars_ne_nil separator later)
    | cons part parts =>
      by_cases same : c = separator <;> simp [same]

theorem splitChars_append_space {separator : Char} (differs : ' ' ≠ separator) (text : List Char) :
    ∃ parts last, splitChars separator text = parts ++ [last] ∧
      splitChars separator (text ++ [' ']) = parts ++ [last ++ [' ']] := by
  induction text with
  | nil => exact ⟨[], [], rfl, by simp [splitChars, differs]⟩
  | cons c rest ih =>
    obtain ⟨parts, last, before, after⟩ := ih
    rw [List.cons_append, splitChars, splitChars, before, after]
    cases parts with
    | nil =>
      by_cases same : c = separator
      · exact ⟨[[]], last, by simp [same], by simp [same]⟩
      · exact ⟨[], c :: last, by simp [same], by simp [same]⟩
    | cons part parts =>
      by_cases same : c = separator
      · exact ⟨[] :: part :: parts, last, by simp [same], by simp [same]⟩
      · exact ⟨(c :: part) :: parts, last, by simp [same], by simp [same]⟩

def sections (separator : Char) (text : String) : List String :=
  ((split separator text).map strip).filter (· ≠ "")

theorem sections_eq (separator : Char) (text : List Char) : sections separator (String.ofList text) =
    ((splitChars separator text).map fun part => String.ofList (stripChars part)).filter (· ≠ "") := by
  simp only [sections, split, String.toList_ofList, List.map_map]
  congr 2
  funext part
  simp [strip]

theorem stripChars_append_space (text : List Char) : stripChars (text ++ [' ']) = stripChars text := by
  have space : isSpace ' ' = true := by decide
  rw [stripChars_eq, stripChars_eq, List.dropWhile_append]
  cases remaining : text.dropWhile isSpace with
  | nil => simp [space]
  | cons c later => exact List.rdropWhile_concat_pos isSpace (c :: later) ' ' space

theorem sections_join {separator : Char} (differs : ' ' ≠ separator) (text rest : List Char) :
    sections separator (String.ofList (text ++ ' ' :: separator :: rest)) =
      sections separator (String.ofList text) ++ sections separator (String.ofList rest) := by
  have whole : text ++ ' ' :: separator :: rest = (text ++ [' ']) ++ separator :: rest := by simp
  obtain ⟨parts, last, before, after⟩ := splitChars_append_space differs text
  rw [whole, sections_eq, sections_eq, sections_eq, splitChars_append, before, after]
  simp only [List.map_append, List.filter_append, List.append_assoc, List.map_cons, List.map_nil, stripChars_append_space]

example : sections '|' "Search mail | | resources mail message| operations retrieve" =
    ["Search mail", "resources mail message", "operations retrieve"] := by decide

theorem isSpace_printable {c : Char} (above : 33 ≤ c.toNat) (below : c.toNat ≤ 126) : isSpace c = false := by
  simp only [isSpace, Unicode.within, Unicode.whitespace, List.any_cons, List.any_nil, Bool.or_false, Bool.or_eq_false_iff,
    Bool.and_eq_false_iff, decide_eq_false_iff_not]
  omega

theorem strip_solid {text : String} (solid : ∀ c ∈ text.toList, isSpace c = false) : strip text = text := by
  have bare : stripChars text.toList = text.toList := by
    apply stripChars_of_bare
    · exact fun c first => solid c (List.mem_of_head? first)
    · exact fun c last => solid c (List.mem_of_getLast? last)
  rw [strip, bare, String.ofList_toList]

theorem wordsFrom_solid {word rest : List Char} (solid : ∀ c ∈ rest, isSpace c = false) (nonempty : word ++ rest ≠ []) :
    wordsFrom word rest = [word.reverse ++ rest] := by
  induction rest generalizing word with
  | nil =>
    have some : word ≠ [] := by simpa using nonempty
    rw [wordsFrom, if_neg (by simpa using some), List.append_nil]
  | cons c later ih =>
    obtain ⟨first, others⟩ := List.forall_mem_cons.mp solid
    rw [wordsFrom, if_neg (by simp [first]), ih others (by simp), List.reverse_cons, List.append_assoc, List.singleton_append]

theorem words_solid {text : String} (solid : ∀ c ∈ text.toList, isSpace c = false) (nonempty : text ≠ "") :
    words text = [text] := by
  have some : [] ++ text.toList ≠ [] := by simpa using nonempty
  rw [words, wordsFrom_solid solid some, List.reverse_nil, List.nil_append, List.map_singleton, String.ofList_toList]

theorem replaceChar_absent {text new : String} {c : Char} (absent : c ∉ text.toList) : replaceChar c new text = text := by
  have same : text.toList.flatMap (fun d => if d = c then new.toList else [d]) = text.toList.flatMap fun d => [d] := by
    apply List.flatMap_congr
    intro d member
    rw [if_neg (ne_of_mem_of_not_mem member absent)]
  rw [replaceChar, same, List.flatMap_singleton', String.ofList_toList]

end Python
