import Operly.Python.JsonDecoder

/-! What `json.loads` guarantees of the value that it builds. -/

namespace Python.JsonModule

def FloatText.Held (floats : FloatText) (value : Double) : Prop :=
  value.isFinite = true → ∃ literal, floats.read literal = value

/-- A value that `json.loads` builds within a depth when it refuses repeated keys. -/
inductive WellFormed (floats : FloatText) : Nat → Value → Prop where
  | null {depth : Nat} : WellFormed floats depth .null
  | bool {depth : Nat} (value : Bool) : WellFormed floats depth (.bool value)
  | int {depth : Nat} {value : Int} (sized : value.natAbs < 10 ^ maxIntDigits) :
      WellFormed floats depth (.int value)
  | float {depth : Nat} {value : Double} (held : floats.Held value) : WellFormed floats depth (.float value)
  | str {depth : Nat} (text : PyText) : WellFormed floats depth (.str text)
  | arr {depth : Nat} {items : List Value} (each : ∀ item ∈ items, WellFormed floats depth item) :
      WellFormed floats (depth + 1) (.arr items)
  | obj {depth : Nat} {entries : Entries} (distinct : (entries.map (·.1)).Nodup)
      (each : ∀ entry ∈ entries, WellFormed floats depth entry.2) :
      WellFormed floats (depth + 1) (.obj entries)

inductive Distinct : Value → Prop where
  | null : Distinct .null
  | bool (value : Bool) : Distinct (.bool value)
  | int (value : Int) : Distinct (.int value)
  | float (value : Double) : Distinct (.float value)
  | str (text : PyText) : Distinct (.str text)
  | arr {items : List Value} (each : ∀ item ∈ items, Distinct item) : Distinct (.arr items)
  | obj {entries : Entries} (distinct : (entries.map (·.1)).Nodup) (each : ∀ entry ∈ entries, Distinct entry.2) :
      Distinct (.obj entries)

theorem WellFormed.distinct {floats : FloatText} {depth : Nat} {value : Value}
    (formed : WellFormed floats depth value) : Distinct value := by
  induction formed with
  | null => exact .null
  | bool value => exact .bool value
  | int sized => exact .int _
  | float held => exact .float _
  | str text => exact .str text
  | arr each ih => exact .arr ih
  | obj distinct each ih => exact .obj distinct ih

/-! ### Entries -/

namespace Entries

variable {entries : Entries} {key : PyText} {value : Value}

theorem set_of_notMem (value : Value) (absent : key ∉ entries.map (·.1)) :
    entries.set key value = entries ++ [(key, value)] := by
  induction entries with
  | nil => rfl
  | cons entry rest ih =>
    rw [List.map_cons, List.mem_cons, not_or] at absent
    rw [set, if_neg (Ne.symm absent.1), ih absent.2, List.cons_append]

theorem get_eq_none : entries.get key = none ↔ key ∉ entries.map (·.1) := by
  induction entries with
  | nil => simp [get]
  | cons entry rest ih =>
    rw [get, List.map_cons, List.mem_cons, not_or]
    split
    · next same => simp [same]
    · next other => rw [ih, and_iff_right (Ne.symm other)]

theorem set_get (held : entries.get key = some value) : entries.set key value = entries := by
  induction entries with
  | nil => cases held
  | cons entry rest ih =>
    rw [get] at held
    rw [set]
    split
    · next same =>
      rw [if_pos same, Option.some.injEq] at held
      rw [← held]
    · next other =>
      rw [if_neg other] at held
      rw [ih held]

theorem get_mem (held : entries.get key = some value) : (key, value) ∈ entries := by
  induction entries with
  | nil => cases held
  | cons entry rest ih =>
    rw [get] at held
    split at held
    · next same =>
      rw [← same, ← Option.some.inj held]
      exact List.mem_cons_self
    · exact List.mem_cons_of_mem _ (ih held)

theorem get_set (entries : Entries) (key : PyText) (value : Value) (other : PyText) :
    (entries.set key value).get other = if key = other then some value else entries.get other := by
  induction entries with
  | nil => rfl
  | cons entry rest ih =>
    rw [set, get]
    by_cases same : entry.1 = key
    · rw [if_pos same, get, same]
      split <;> rfl
    · rw [if_neg same, get, ih]
      by_cases own : entry.1 = other
      · rw [if_pos own, if_pos own, if_neg fun equal => same (own.trans equal.symm)]
      · rw [if_neg own, if_neg own]

theorem set_ne_nil (entries : Entries) (key : PyText) (value : Value) : entries.set key value ≠ [] := by
  cases entries with
  | nil => exact List.cons_ne_nil _ _
  | cons entry rest =>
    rw [set]
    split <;> exact List.cons_ne_nil _ _

theorem mem_set {entry : PyText × Value} (member : entry ∈ entries.set key value) :
    entry = (key, value) ∨ entry ∈ entries := by
  induction entries with
  | nil => exact .inl (List.mem_singleton.mp member)
  | cons first rest ih =>
    rw [set] at member
    split at member
    · next same =>
      rcases List.mem_cons.mp member with own | later
      · exact .inl (by rw [own, same])
      · exact .inr (List.mem_cons_of_mem first later)
    · rcases List.mem_cons.mp member with own | later
      · exact .inr (own ▸ List.mem_cons_self)
      · exact (ih later).imp_right (List.mem_cons_of_mem first)

theorem keys_set (entries : Entries) (key : PyText) (value : Value) :
    (entries.set key value).map (·.1) =
      if key ∈ entries.map (·.1) then entries.map (·.1) else entries.map (·.1) ++ [key] := by
  split
  · next present =>
    induction entries with
    | nil => cases present
    | cons entry rest ih =>
      rw [set]
      split
      · rfl
      · next other =>
        rw [List.map_cons, List.mem_cons] at present
        rw [List.map_cons, List.map_cons, ih (present.resolve_left (Ne.symm other))]
  · next absent => rw [set_of_notMem value absent, List.map_append, List.map_singleton]

theorem nodup_set (distinct : (entries.map (·.1)).Nodup) (key : PyText) (value : Value) :
    ((entries.set key value).map (·.1)).Nodup := by
  rw [keys_set]
  split
  · exact distinct
  · next absent =>
    refine List.nodup_append.mpr ⟨distinct, List.nodup_singleton key, ?_⟩
    intro name member other single same
    rw [List.mem_singleton.mp single] at same
    exact absent (same ▸ member)

end Entries

variable {value : Value} {text rest : PyText}

theorem WellFormed.set {floats : FloatText} {depth : Nat} {entries : Entries}
    (formed : WellFormed floats (depth + 1) (.obj entries)) (inner : WellFormed floats depth value) (key : PyText) :
    WellFormed floats (depth + 1) (.obj (entries.set key value)) := by
  cases formed with
  | obj distinct each =>
    apply WellFormed.obj (Entries.nodup_set distinct key value)
    intro entry member
    rcases Entries.mem_set member with own | other
    · rw [own]
      exact inner
    · exact each entry other

theorem WellFormed.get {floats : FloatText} {depth : Nat} {entries : Entries} {key : PyText}
    (formed : WellFormed floats (depth + 1) (.obj entries)) (held : entries.get key = some value) :
    WellFormed floats depth value := by
  cases formed with
  | obj distinct each => exact each _ (Entries.get_mem held)

/-! ### Every value takes characters from the text -/

def Shortens {α : Type} (scan : Scan α) : Prop :=
  ∀ {text value rest}, scan text = .ok (value, rest) → rest.length < text.length

theorem length_skip_le (text : PyText) : (skip text).length ≤ text.length :=
  (List.dropWhile_suffix _).length_le

theorem scanPieces_shortens {pieces : List Piece} (scanned : scanPieces text = some (pieces, rest)) :
    rest.length < text.length := by
  fun_induction scanPieces text generalizing pieces rest with
  | case1 tail =>
    cases scanned
    simp
  | case2 a b c d tail ih =>
    simp only [Option.bind_eq_bind, Option.bind_eq_some_iff] at scanned
    obtain ⟨unit, _, ⟨more, later⟩, followed, same⟩ := scanned
    cases same
    have shorter := ih followed
    simp only [List.length_cons]
    omega
  | case3 c tail other ih =>
    simp only [Option.bind_eq_bind, Option.bind_eq_some_iff] at scanned
    obtain ⟨point, _, ⟨more, later⟩, followed, same⟩ := scanned
    cases same
    have shorter := ih followed
    simp only [List.length_cons]
    omega
  | case4 => cases scanned
  | case5 => cases scanned
  | case6 point tail _ _ _ _ _ ih =>
    simp only [Option.bind_eq_bind, Option.bind_eq_some_iff] at scanned
    obtain ⟨⟨more, later⟩, followed, same⟩ := scanned
    cases same
    have shorter := ih followed
    simp only [List.length_cons]
    omega
  | case7 => cases scanned

theorem scanString_eq_ok {read : PyText} (scanned : scanString text = .ok (read, rest)) :
    ∃ pieces, scanPieces text = some (pieces, rest) ∧ read = join pieces := by
  unfold scanString at scanned
  split at scanned
  · next pieces tail found =>
    cases scanned
    exact ⟨pieces, found, rfl⟩
  · cases scanned

theorem scanString_shortens : Shortens scanString := by
  intro text value rest scanned
  obtain ⟨pieces, found, -⟩ := scanString_eq_ok scanned
  exact scanPieces_shortens found

theorem spanDigits_append (text : PyText) : (spanDigits text).1.map .char ++ (spanDigits text).2 = text := by
  fun_induction spanDigits text with
  | case1 c rest digit ih => rw [List.map_cons, List.cons_append, ih]
  | case2 => rfl
  | case3 => rfl

theorem length_spanDigits (text : PyText) :
    (spanDigits text).1.length + (spanDigits text).2.length = text.length := by
  have whole := congrArg List.length (spanDigits_append text)
  rwa [List.length_append, List.length_map] at whole

theorem isDigit_of_mem_spanDigits {c : Char} (member : c ∈ (spanDigits text).1) : c.isDigit = true := by
  fun_induction spanDigits text with
  | case1 d rest digit ih =>
    rcases List.mem_cons.mp member with same | later
    · rw [same]
      exact digit
    · exact ih later
  | case2 => cases member
  | case3 => cases member

theorem length_scanSign_le (text : PyText) : (scanSign text).2.length ≤ text.length := by
  unfold scanSign
  split <;> simp

variable {digits : List Char}

theorem scanWhole_shortens (scanned : scanWhole text = some (digits, rest)) : rest.length < text.length := by
  unfold scanWhole at scanned
  split at scanned
  · cases scanned
    simp
  · split at scanned
    · cases scanned
    · next found =>
      have whole := length_spanDigits text
      have positive := List.length_pos_of_ne_nil found
      rw [Option.some.inj scanned] at whole positive
      simp only at whole positive
      omega

theorem length_scanFraction_le (text : PyText) : (scanFraction text).2.length ≤ text.length := by
  unfold scanFraction
  split
  · next rest =>
    split
    · simp
    · have whole := length_spanDigits rest
      simp only [List.length_cons]
      omega
  · simp

theorem length_scanExponentSign_le (text : PyText) : (scanExponentSign text).2.length ≤ text.length := by
  unfold scanExponentSign
  split <;> simp

theorem length_scanExponent_le (text : PyText) : (scanExponent text).2.length ≤ text.length := by
  unfold scanExponent
  split
  · next c rest =>
    simp only
    split
    · have whole := length_spanDigits (scanExponentSign rest).2
      have sign := length_scanExponentSign_le rest
      simp only [List.length_cons]
      omega
    · simp
  · simp

theorem ofDigitChars_lt (all : ∀ c ∈ digits, c.isDigit = true) : Nat.ofDigitChars 10 digits 0 < 10 ^ digits.length := by
  induction digits with
  | nil => decide
  | cons c rest ih =>
    have later := ih fun d member => all d (List.mem_cons_of_mem c member)
    have digit := all c List.mem_cons_self
    simp only [Char.isDigit, Bool.and_eq_true, decide_eq_true_eq, UInt32.le_iff_toNat_le] at digit
    have small : c.toNat - '0'.toNat ≤ 9 := by
      have top : c.val.toNat ≤ 57 := digit.2
      have zero : '0'.toNat = 48 := by decide
      rw [zero, Char.toNat]
      omega
    rw [Nat.ofDigitChars_cons, Nat.ofDigitChars_eq_ofDigitChars_zero, List.length_cons, pow_succ]
    calc 10 ^ rest.length * (10 * 0 + (c.toNat - '0'.toNat)) + Nat.ofDigitChars 10 rest 0
        ≤ 10 ^ rest.length * 9 + Nat.ofDigitChars 10 rest 0 :=
          Nat.add_le_add_right (Nat.mul_le_mul_left _ (by omega)) _
      _ < 10 ^ rest.length * 9 + 10 ^ rest.length := by omega
      _ = 10 ^ rest.length * 10 := by omega

theorem isDigit_of_scanWhole (scanned : scanWhole text = some (digits, rest)) : ∀ c ∈ digits, c.isDigit = true := by
  unfold scanWhole at scanned
  split at scanned
  · cases scanned
    simp
  · split at scanned
    · cases scanned
    · intro c member
      have listed : c ∈ (spanDigits text).1 := by
        rw [Option.some.inj scanned]
        exact member
      exact isDigit_of_mem_spanDigits listed

theorem scanNumber_eq_ok {floats : FloatText} (scanned : scanNumber floats text = some (.ok (value, rest))) :
    rest.length < text.length ∧ ∀ depth, WellFormed floats depth value := by
  unfold scanNumber at scanned
  obtain ⟨⟨digits, tail⟩, whole, number⟩ := Option.map_eq_some_iff.mp scanned
  have sign := length_scanSign_le text
  have taken := scanWhole_shortens whole
  have fraction := length_scanFraction_le tail
  have exponent := length_scanExponent_le (scanFraction tail).2
  have numeric := isDigit_of_scanWhole whole
  simp only at number
  split at number
  · split at number
    · cases number
    · next short =>
      have bound : Nat.ofDigitChars 10 digits 0 < 10 ^ maxIntDigits :=
        lt_of_lt_of_le (ofDigitChars_lt numeric) (Nat.pow_le_pow_right (by decide) (not_lt.mp short))
      cases number
      constructor
      · omega
      · intro depth
        apply WellFormed.int
        split
        · rwa [Int.natAbs_natCast]
        · rwa [Int.natAbs_neg, Int.natAbs_natCast]
  · cases number
    constructor
    · omega
    · exact fun depth => .float fun _ => ⟨_, rfl⟩

theorem scanConstant_eq_some {floats : FloatText} (scanned : scanConstant text = some (value, rest)) :
    rest.length < text.length ∧ ∀ depth, WellFormed floats depth value := by
  unfold scanConstant at scanned
  obtain ⟨⟨word, constant⟩, member, found⟩ := List.exists_of_findSome?_eq_some scanned
  split at found
  · next start =>
    cases found
    have size := start.length_le
    rw [PyText.ofString, List.length_map, String.length_toList] at size
    have listed : ∀ constant ∈ constants, 0 < constant.1.length := by decide
    have long := listed _ member
    constructor
    · rw [List.length_drop]
      simp only at long size ⊢
      omega
    · intro depth
      simp only [constants, List.mem_cons, Prod.mk.injEq, List.not_mem_nil, or_false] at member
      rcases member with ⟨-, rfl⟩ | ⟨-, rfl⟩ | ⟨-, rfl⟩ | ⟨-, rfl⟩ | ⟨-, rfl⟩ | ⟨-, rfl⟩
      · exact .null
      · exact .bool true
      · exact .bool false
      · exact .float fun finite => absurd finite (by decide)
      · exact .float fun finite => absurd finite (by decide)
      · exact .float fun finite => absurd finite (by decide)
  · cases found

/-! ### Sequences -/

section Sequences

variable {α : Type} {closing : Char} {scan : Scan α} {fuel : Nat} {text rest : PyText} {items : List α}

theorem scanSequence_eq_ok (scanned : scanSequence closing scan (fuel + 1) text = .ok (items, rest)) :
    ∃ item after c tail, scan text = .ok (item, after) ∧ skip after = .char c :: tail ∧
      (c = closing ∧ items = [item] ∧ rest = tail ∨
        c ≠ closing ∧ c = ',' ∧ ∃ later, scanSequence closing scan fuel (skip tail) = .ok (later, rest) ∧
          items = item :: later) := by
  rw [scanSequence] at scanned
  obtain ⟨⟨item, after⟩, first, following⟩ := bind_eq_ok.mp scanned
  simp only at following
  split at following
  · next c tail shape =>
    split at following
    · next closed =>
      cases following
      exact ⟨item, after, c, _, first, shape, .inl ⟨closed, rfl, rfl⟩⟩
    · next opened =>
      split at following
      · next comma =>
        obtain ⟨⟨later, remaining⟩, others, joined⟩ := bind_eq_ok.mp following
        cases joined
        exact ⟨item, after, c, tail, first, shape, .inr ⟨opened, comma, later, others, rfl⟩⟩
      · cases following
  · cases following

theorem scanSequence_read (scanned : scanSequence closing scan fuel text = .ok (items, rest)) :
    ∀ item ∈ items, ∃ start after, scan start = .ok (item, after) := by
  induction fuel generalizing text items rest with
  | zero => cases scanned
  | succ fuel ih =>
    obtain ⟨first, after, c, tail, read, -, ⟨-, one, -⟩ | ⟨-, -, later, others, more⟩⟩ :=
      scanSequence_eq_ok scanned
    · intro item member
      rw [one, List.mem_singleton] at member
      exact ⟨text, after, member ▸ read⟩
    · intro item member
      rw [more, List.mem_cons] at member
      rcases member with same | member
      · exact ⟨text, after, same ▸ read⟩
      · exact ih others item member

theorem scanSequence_shortens (shortens : Shortens scan) (fuel : Nat) :
    Shortens (scanSequence closing scan fuel) := by
  induction fuel with
  | zero =>
    intro text items rest scanned
    cases scanned
  | succ fuel ih =>
    intro text items rest scanned
    obtain ⟨first, after, c, tail, read, shape, cases⟩ := scanSequence_eq_ok scanned
    have shorter := shortens read
    have skipped := length_skip_le after
    rw [shape, List.length_cons] at skipped
    rcases cases with ⟨-, -, same⟩ | ⟨-, -, later, others, -⟩
    · rw [same]
      omega
    · have remaining := ih others
      have blank := length_skip_le tail
      omega

theorem scanSequence_fuel (shortens : Shortens scan) (empty : scan [] = .error .invalid) (enough : text.length ≤ fuel) :
    scanSequence closing scan fuel text = scanSequence closing scan text.length text := by
  induction fuel using Nat.strong_induction_on generalizing text with
  | _ fuel ih =>
    cases text with
    | nil =>
      cases fuel with
      | zero => rfl
      | succ fuel =>
        rw [scanSequence, empty]
        rfl
    | cons point later =>
      cases fuel with
      | zero => simp at enough
      | succ fuel =>
        rw [List.length_cons, scanSequence, scanSequence]
        rw [List.length_cons] at enough
        cases read : scan (point :: later) with
        | error error => rfl
        | ok result =>
          obtain ⟨item, after⟩ := result
          have shorter := shortens read
          have skipped := length_skip_le after
          rw [List.length_cons] at shorter
          simp only [bind, Except.bind]
          split
          · next c tail shape =>
            have blank := length_skip_le tail
            rw [shape, List.length_cons] at skipped
            rw [@ih fuel (by omega) (skip tail) (by omega),
              @ih later.length (by omega) (skip tail) (by omega)]
          · rfl

theorem scanSequence_mono {other : Scan α} (agree : ∀ text result, scan text = .ok result → other text = .ok result)
    {result : List α × PyText} (scanned : scanSequence closing scan fuel text = .ok result) :
    scanSequence closing other fuel text = .ok result := by
  induction fuel generalizing text result with
  | zero => cases scanned
  | succ fuel ih =>
    obtain ⟨items, rest⟩ := result
    obtain ⟨first, after, c, tail, read, shape, cases⟩ := scanSequence_eq_ok scanned
    rw [scanSequence, agree text _ read]
    simp only [bind, Except.bind, shape]
    rcases cases with ⟨closed, one, same⟩ | ⟨opened, comma, later, others, more⟩
    · rw [if_pos closed, one, same]
    · rw [if_neg opened, if_pos comma, ih others, more]

theorem scanEnclosed_eq_ok (scanned : scanEnclosed closing scan text = .ok (items, rest)) :
    (skip text).head? = some (.char closing) ∧ items = [] ∧ rest = (skip text).tail ∨
      (skip text).head? ≠ some (.char closing) ∧
        scanSequence closing scan (skip text).length (skip text) = .ok (items, rest) := by
  unfold scanEnclosed at scanned
  split at scanned
  · next closed =>
    cases scanned
    exact .inl ⟨closed, rfl, rfl⟩
  · next opened => exact .inr ⟨opened, scanned⟩

theorem scanEnclosed_read (scanned : scanEnclosed closing scan text = .ok (items, rest)) :
    ∀ item ∈ items, ∃ start after, scan start = .ok (item, after) := by
  rcases scanEnclosed_eq_ok scanned with ⟨-, none, -⟩ | ⟨-, some⟩
  · intro item member
    rw [none] at member
    cases member
  · exact scanSequence_read some

theorem scanEnclosed_shortens (shortens : Shortens scan) : Shortens (scanEnclosed closing scan) := by
  intro text items rest scanned
  have blank := length_skip_le text
  rcases scanEnclosed_eq_ok scanned with ⟨closed, -, same⟩ | ⟨-, some⟩
  · have nonempty : skip text ≠ [] := by
      intro emptied
      rw [emptied] at closed
      cases closed
    have positive := List.length_pos_of_ne_nil nonempty
    rw [same, List.length_tail]
    omega
  · have shorter := scanSequence_shortens shortens _ some
    omega

theorem scanEnclosed_mono {other : Scan α} (agree : ∀ text result, scan text = .ok result → other text = .ok result)
    {result : List α × PyText} (scanned : scanEnclosed closing scan text = .ok result) :
    scanEnclosed closing other text = .ok result := by
  unfold scanEnclosed at scanned ⊢
  split at scanned
  · next closed => rw [if_pos closed, scanned]
  · next opened => rw [if_neg opened, scanSequence_mono agree scanned]

end Sequences

theorem scanMember_eq_ok {scan : Scan Value} {entry : PyText × Value}
    (scanned : scanMember scan text = .ok (entry, rest)) :
    ∃ start after tail, text = .char '"' :: start ∧ scanString start = .ok (entry.1, after) ∧
      skip after = .char ':' :: tail ∧ scan (skip tail) = .ok (entry.2, rest) := by
  unfold scanMember at scanned
  split at scanned
  · next start =>
    obtain ⟨⟨key, after⟩, named, following⟩ := bind_eq_ok.mp scanned
    simp only at following
    split at following
    · next tail shape =>
      obtain ⟨⟨value, remaining⟩, read, joined⟩ := bind_eq_ok.mp following
      cases joined
      exact ⟨start, after, tail, rfl, named, shape, read⟩
    · cases following
  · cases scanned

theorem scanMember_shortens {scan : Scan Value} (shortens : Shortens scan) : Shortens (scanMember scan) := by
  intro text entry rest scanned
  obtain ⟨start, after, tail, same, named, shape, read⟩ := scanMember_eq_ok scanned
  have key := scanString_shortens named
  have blank := length_skip_le after
  have space := length_skip_le tail
  have value := shortens read
  rw [shape, List.length_cons] at blank
  rw [same, List.length_cons]
  omega

theorem scanMember_mono {scan other : Scan Value}
    (agree : ∀ text result, scan text = .ok result → other text = .ok result) {result : (PyText × Value) × PyText}
    (scanned : scanMember scan text = .ok result) : scanMember other text = .ok result := by
  obtain ⟨entry, rest⟩ := result
  obtain ⟨start, after, tail, same, named, shape, read⟩ := scanMember_eq_ok scanned
  rw [same, scanMember, named]
  simp only [bind, Except.bind, shape, agree _ _ read]

/-! ### Values -/

section Values

variable {hook : PairsHook} {floats : FloatText} {text : PyText} {value : Value} {other : PairsHook} {depth : Nat}
  {raw : List UInt8}

theorem scanWith_cases {scan : Option (Scan Value)} (scanned : scanWith hook floats scan text = .ok (value, rest)) :
    (∃ start read, text = .char '"' :: start ∧ scanString start = .ok (read, rest) ∧ value = .str read) ∨
    (∃ inner start items, scan = some inner ∧ text = .char '[' :: start ∧
      scanEnclosed ']' inner start = .ok (items, rest) ∧ value = .arr items) ∨
    (∃ inner start pairs entries, scan = some inner ∧ text = .char '\x7b' :: start ∧
      scanEnclosed '\x7d' (scanMember inner) start = .ok (pairs, rest) ∧ hook pairs = .ok entries ∧
        value = .obj entries) ∨
    rest.length < text.length ∧ ∀ depth, WellFormed floats depth value := by
  unfold scanWith at scanned
  split at scanned
  · next start =>
    obtain ⟨⟨read, after⟩, string, same⟩ := bind_eq_ok.mp scanned
    cases same
    exact .inl ⟨start, read, rfl, string, rfl⟩
  · next start =>
    cases scan with
    | none => cases scanned
    | some inner =>
      obtain ⟨⟨items, after⟩, enclosed, same⟩ := bind_eq_ok.mp scanned
      cases same
      exact .inr (.inl ⟨inner, start, items, rfl, rfl, enclosed, rfl⟩)
  · next start =>
    cases scan with
    | none => cases scanned
    | some inner =>
      obtain ⟨⟨pairs, after⟩, enclosed, hooking⟩ := bind_eq_ok.mp scanned
      obtain ⟨entries, hooked, same⟩ := bind_eq_ok.mp hooking
      cases same
      exact .inr (.inr (.inl ⟨inner, start, pairs, entries, rfl, rfl, enclosed, hooked, rfl⟩))
  · split at scanned
    · next number found =>
      rw [scanned] at found
      exact .inr (.inr (.inr (scanNumber_eq_ok found)))
    · split at scanned
      · next constant found =>
        cases scanned
        exact .inr (.inr (.inr (scanConstant_eq_some found)))
      · cases scanned

theorem scanWith_shortens {scan : Option (Scan Value)} (inner : ∀ scan' ∈ scan, Shortens scan') :
    Shortens (scanWith hook floats scan) := by
  intro text value rest scanned
  rcases scanWith_cases scanned with ⟨start, read, same, string, -⟩ |
    ⟨scan', start, items, held, same, enclosed, -⟩ | ⟨scan', start, pairs, entries, held, same, enclosed, -⟩ |
    ⟨shorter, -⟩
  · have shorter := scanString_shortens string
    rw [same, List.length_cons]
    omega
  · have shorter := scanEnclosed_shortens (inner scan' held) enclosed
    rw [same, List.length_cons]
    omega
  · have shorter := scanEnclosed_shortens (scanMember_shortens (inner scan' held)) enclosed
    rw [same, List.length_cons]
    omega
  · exact shorter

theorem scanOnce_shortens (depth : Nat) : Shortens (scanOnce hook floats depth) := by
  induction depth with
  | zero => exact scanWith_shortens fun scan' held => by cases held
  | succ depth ih =>
    apply scanWith_shortens
    intro scan' held
    rw [← Option.mem_some.mp held]
    exact ih

theorem scanOnce_nil (depth : Nat) : scanOnce hook floats depth [] = .error .invalid := by
  cases depth <;> rfl

theorem scanSequence_scanOnce_fuel (closing : Char) (depth : Nat) {fuel : Nat} (enough : text.length ≤ fuel) :
    scanSequence closing (scanOnce hook floats depth) fuel text =
        scanSequence closing (scanOnce hook floats depth) text.length text ∧
      scanSequence closing (scanMember (scanOnce hook floats depth)) fuel text =
        scanSequence closing (scanMember (scanOnce hook floats depth)) text.length text :=
  ⟨scanSequence_fuel (scanOnce_shortens depth) (scanOnce_nil depth) enough,
    scanSequence_fuel (scanMember_shortens (scanOnce_shortens depth)) rfl enough⟩

theorem scanWith_mono (agree : ∀ pairs entries, hook pairs = .ok entries → other pairs = .ok entries)
    {scan scan' : Option (Scan Value)} (deeper : ∀ inner, scan = some inner → ∃ outer, scan' = some outer ∧
      ∀ text result, inner text = .ok result → outer text = .ok result) {result : Value × PyText}
    (scanned : scanWith hook floats scan text = .ok result) : scanWith other floats scan' text = .ok result := by
  unfold scanWith at scanned ⊢
  split at scanned
  · exact scanned
  · next start =>
    cases scan with
    | none => cases scanned
    | some inner =>
      obtain ⟨outer, held, same⟩ := deeper inner rfl
      obtain ⟨⟨items, after⟩, enclosed, joined⟩ := bind_eq_ok.mp scanned
      rw [held]
      simp only [Option.elim, scanArray, bind, Except.bind, scanEnclosed_mono same enclosed]
      exact joined
  · next start =>
    cases scan with
    | none => cases scanned
    | some inner =>
      obtain ⟨outer, held, same⟩ := deeper inner rfl
      obtain ⟨⟨pairs, after⟩, enclosed, hooking⟩ := bind_eq_ok.mp scanned
      obtain ⟨entries, hooked, joined⟩ := bind_eq_ok.mp hooking
      have again := scanEnclosed_mono (fun text result => scanMember_mono same) enclosed
      rw [held]
      simp only [Option.elim, scanObject, bind, Except.bind, again, agree pairs entries hooked]
      exact joined
  · exact scanned

/-- A hook that builds the same object from pairs wherever another one does builds the same values. -/
theorem scanOnce_mono (agree : ∀ pairs entries, hook pairs = .ok entries → other pairs = .ok entries)
    {result : Value × PyText} (scanned : scanOnce hook floats depth text = .ok result) :
    scanOnce other floats depth text = .ok result := by
  induction depth generalizing text result with
  | zero => exact scanWith_mono agree (fun inner held => by cases held) scanned
  | succ depth ih =>
    refine scanWith_mono agree (fun inner held => ⟨_, rfl, ?_⟩) scanned
    intro text result read
    rw [← Option.some.inj held] at read
    exact ih read

/-- The hook hands on the pairs themselves, and only pairs without a repeated key. -/
def Refuses (hook : PairsHook) : Prop :=
  ∀ {pairs entries}, hook pairs = .ok entries → entries = pairs ∧ (pairs.map (·.1)).Nodup

theorem scanOnce_wellFormed (refuses : Refuses hook) (scanned : scanOnce hook floats depth text = .ok (value, rest)) :
    WellFormed floats depth value := by
  induction depth generalizing text value rest with
  | zero =>
    rcases scanWith_cases scanned with ⟨_, read, -, -, same⟩ | ⟨_, _, _, held, -⟩ | ⟨_, _, _, _, held, -⟩ | ⟨-, formed⟩
    · rw [same]
      exact .str read
    · cases held
    · cases held
    · exact formed 0
  | succ depth ih =>
    rcases scanWith_cases scanned with ⟨_, read, -, -, same⟩ | ⟨inner, start, items, held, -, enclosed, same⟩ |
      ⟨inner, start, pairs, entries, held, -, enclosed, hooked, same⟩ | ⟨-, formed⟩
    · rw [same]
      exact .str read
    · rw [same]
      rw [Option.some.injEq] at held
      apply WellFormed.arr
      intro item member
      obtain ⟨begin, after, read⟩ := scanEnclosed_read enclosed item member
      rw [← held] at read
      exact ih read
    · obtain ⟨unchanged, distinct⟩ := refuses hooked
      rw [same, unchanged]
      rw [Option.some.injEq] at held
      apply WellFormed.obj distinct
      intro entry member
      obtain ⟨begin, after, read⟩ := scanEnclosed_read enclosed entry member
      obtain ⟨_, _, tail, -, -, -, inside⟩ := scanMember_eq_ok read
      rw [← held] at inside
      exact ih inside
    · exact formed (depth + 1)

theorem foldl_set_of_nodup {entries later : Entries} (distinct : ((entries ++ later).map (·.1)).Nodup) :
    later.foldl (fun result entry => Entries.set result entry.1 entry.2) entries = entries ++ later := by
  induction later generalizing entries with
  | nil => rw [List.append_nil, List.foldl_nil]
  | cons entry rest ih =>
    have absent : entry.1 ∉ entries.map (·.1) := by
      rw [List.map_append, List.map_cons, List.nodup_append] at distinct
      intro member
      exact distinct.2.2 entry.1 member entry.1 List.mem_cons_self rfl
    rw [List.foldl_cons, Entries.set_of_notMem entry.2 absent, ih, List.append_assoc, List.singleton_append]
    rwa [List.append_assoc, List.singleton_append]

theorem dictionary_of_nodup {pairs : Entries} (distinct : (pairs.map (·.1)).Nodup) : dictionary pairs = .ok pairs := by
  have built := @foldl_set_of_nodup [] pairs distinct
  rw [dictionary, built, List.nil_append]

theorem loads_eq_ok (loaded : loads hook floats depth raw = .ok value) :
    ∃ text rest, decode (detectEncoding raw) raw = some text ∧
      scanOnce hook floats depth (skip text) = .ok (value, rest) ∧ skip rest = [] := by
  unfold loads at loaded
  split at loaded
  · next text read =>
    obtain ⟨⟨found, rest⟩, scanned, ending⟩ := bind_eq_ok.mp loaded
    simp only at ending
    split at ending
    · next ended =>
      cases ending
      exact ⟨text, rest, read, scanned, ended⟩
    · cases ending
  · cases loaded

theorem loads_mono (agree : ∀ pairs entries, hook pairs = .ok entries → other pairs = .ok entries)
    (loaded : loads hook floats depth raw = .ok value) : loads other floats depth raw = .ok value := by
  obtain ⟨text, rest, read, scanned, ended⟩ := loads_eq_ok loaded
  simp only [loads, read, decodeText, bind, Except.bind, scanOnce_mono agree scanned, if_pos ended]

theorem loads_wellFormed (refuses : Refuses hook) (loaded : loads hook floats depth raw = .ok value) :
    WellFormed floats depth value := by
  obtain ⟨text, rest, read, scanned, ended⟩ := loads_eq_ok loaded
  exact scanOnce_wellFormed refuses scanned

end Values

end Python.JsonModule
