import RecordGate.Config
import RecordGate.Proofs.Text.Numerals
import RecordGate.Proofs.Toml.Quoting

/-!
# Reading documents of assignments back

A document of lines with one key and one value each is read as the entries that the lines assign, in their order
(`Toml.parse?_lines`). Values are quoted texts, whole numbers without a sign, and arrays of quoted texts.
-/

namespace RecordGate.Toml
set_option autoImplicit false

/-- What is written for each of some things is no shorter than they are many. -/
theorem length_le_flatMap {α : Type} {write : α → List Char} (filled : ∀ a, write a ≠ []) (as : List α) :
    as.length ≤ (as.flatMap write).length := by
  induction as with
  | nil => simp
  | cons a as ih =>
    have first := List.length_pos_iff.2 (filled a)
    rw [List.flatMap_cons, List.length_append, List.length_cons]
    omega

/-! ## Values -/

/-- What may stand behind a value: the end of its line, or a comma or a bracket. -/
def Ended (rest : List Char) : Prop := ∃ c cs, rest = c :: cs ∧ (c = '\n' ∨ c = ',' ∨ c = ']')

/-- A value is read from its text at a depth, and at no blank. -/
structure Reads (depth : Nat) (text : List Char) (item : Item) : Prop where
  begins : ∃ c cs, text = c :: cs ∧ isSpace c = false
  read : ∀ rest, Ended rest → readValue? depth (text ++ rest) = some (item, rest)

theorem Ended.clear {rest : List Char} (ended : Ended rest) {q : Char} (quote : q = '"' ∨ q = '\'') :
    Clear q rest := by
  obtain ⟨c, cs, rfl, ends⟩ := ended
  apply clear_cons
  rcases quote with rfl | rfl <;> rcases ends with rfl | rfl | rfl <;> decide

/-- Every quoted text begins with one of the quotes. -/
theorem quote_head (text : List Char) : ∃ q cs, quote text = q :: cs ∧ (q = '"' ∨ q = '\'') := by
  simp only [quote]
  cases (Traits.of text).quoting with
  | basic | basicLines => exact ⟨'"', _, rfl, .inl rfl⟩
  | literal | literalLines => exact ⟨'\'', _, rfl, .inr rfl⟩

theorem reads_quote (depth : Nat) (s : String) : Reads depth (quote s.toList) (.string s) := by
  obtain ⟨q, cs, same, isQuote⟩ := quote_head s.toList
  refine ⟨⟨q, cs, same, by rcases isQuote with rfl | rfl <;> decide⟩, fun rest ended => ?_⟩
  have read := readText?_quote s.toList (ended.clear (.inl rfl)) (ended.clear (.inr rfl))
  rw [same, List.cons_append] at read ⊢
  rcases isQuote with rfl | rfl <;> rw [readValue?, read] <;> simp

/-! ### Whole numbers -/

theorem digitIn?_digit {c : Char} (digit : c.isDigit = true) : digitIn? 10 c = some (c.toNat - '0'.toNat) := by
  obtain ⟨lower, upper⟩ : 48 ≤ c.toNat ∧ c.toNat ≤ 57 := by
    simpa [Char.isDigit, UInt32.le_iff_toNat_le] using digit
  have within : '0' ≤ c ∧ c ≤ '9' := ⟨lower, upper⟩
  have small : c.toNat - 48 < 10 := by omega
  simp [digitIn?, Hex.digitValue?, within, small, Option.filter]

/-- The numbers that digits stand for. -/
def digitValues (word : List Char) : List Nat := word.map fun c => c.toNat - '0'.toNat

section Digits

variable {word : List Char} (digits : ∀ c ∈ word, c.isDigit = true)

include digits

theorem not_mem_of_digits {c : Char} (other : c.isDigit = false) : c ∉ word := by
  intro member
  rw [digits c member] at other
  cases other

theorem splitDate?_of_digits : splitDate? word = none := by
  have hyphen := not_mem_of_digits digits (c := '-') rfl
  unfold splitDate?
  split
  · simp at hyphen
  · rfl

theorem splitTime?_of_digits : splitTime? word = none := by
  have colon := not_mem_of_digits digits (c := ':') rfl
  unfold splitTime?
  split
  · simp at colon
  · rfl

theorem splitSign_of_digits : splitSign word = (false, word) := by
  unfold splitSign
  split
  · simp at digits
  · simp at digits
  · rfl

theorem isFloat_of_digits : isFloat word = false := by
  have letters : ¬ (word = ['i', 'n', 'f'] ∨ word = ['n', 'a', 'n']) := by
    rintro (rfl | rfl) <;> simp at digits
  have run : (word ++ []).span (fun c => c != '.' && !(c == 'e' || c == 'E')) = (word, []) := by
    refine Text.span_append (fun c member => ?_) (by simp)
    have digit := digits c member
    simp only [Bool.and_eq_true, bne_iff_ne, Bool.not_eq_true', Bool.or_eq_false_iff, beq_eq_false_iff_ne]
    refine ⟨?_, ?_, ?_⟩ <;> rintro rfl <;> cases digit
  rw [List.append_nil] at run
  have whole : floatParts? word = none := by
    simp only [floatParts?, run]
  simp [isFloat, splitSign_of_digits digits, letters, whole]

theorem digits?_of_digits (nonempty : word ≠ []) : digits? 10 word = some (digitValues word) := by
  induction word with
  | nil => exact absurd rfl nonempty
  | cons c cs ih =>
    have first := digitIn?_digit (digits c List.mem_cons_self)
    cases cs with
    | nil => simp [digits?, first, digitValues]
    | cons d ds =>
      have rest := ih (fun e member => digits e (List.mem_cons_of_mem _ member)) (List.cons_ne_nil d ds)
      have joined : d ≠ '_' := by
        rintro rfl
        cases digits '_' (by simp)
      rw [digits?]
      · simp [first, rest, digitValues]
      all_goals simp [joined]

end Digits

theorem number_digitValues (n : Nat) : number 10 (digitValues (Nat.toDigits 10 n)) = n := by
  rw [number, digitValues, List.foldl_map]
  exact Nat.ofDigitChars_ten_toDigits

theorem decimal?_toDigits (n : Nat) : decimal? (Nat.toDigits 10 n) = some (digitValues (Nat.toDigits 10 n)) := by
  have all := digits?_of_digits (fun c => Text.isDigit_of_mem (n := n) (c := c)) Nat.toDigits_ne_nil
  unfold decimal?
  split
  · next more same =>
    exfalso
    rcases Nat.eq_zero_or_pos n with rfl | positive
    · simp at same
    · obtain ⟨c, cs, digits, nonzero, -⟩ := Text.toDigits_head positive
      exact nonzero (List.cons.inj (digits.symm.trans same)).1
  · exact all

theorem integer?_toDigits {n : Nat} (small : n < 0x8000000000000000) :
    integer? (Nat.toDigits 10 n) = some (n : Int) := by
  have digits := fun c => Text.isDigit_of_mem (n := n) (c := c)
  unfold integer?
  split
  case h_4 => simp [splitSign_of_digits digits, decimal?_toDigits, number_digitValues, small]
  all_goals
    next same => simp [same] at digits

theorem scalar?_toDigits {n : Nat} (small : n < 0x8000000000000000) :
    scalar? (Nat.toDigits 10 n) = some (.integer n) := by
  have digits := fun c => Text.isDigit_of_mem (n := n) (c := c)
  have words : Nat.toDigits 10 n ≠ ['t', 'r', 'u', 'e'] ∧ Nat.toDigits 10 n ≠ ['f', 'a', 'l', 's', 'e'] := by
    constructor <;> intro same <;> simp [same] at digits
  have date : isDate (Nat.toDigits 10 n) = false := by
    simp [isDate, splitDate?_of_digits digits, splitTime?_of_digits digits]
  simp [scalar?, words, date, isFloat_of_digits digits, integer?_toDigits small]

theorem reads_toDigits (depth : Nat) {n : Nat} (small : n < 0x8000000000000000) :
    Reads depth (Nat.toDigits 10 n) (.integer n) := by
  have digits := fun c => Text.isDigit_of_mem (n := n) (c := c)
  obtain ⟨c, cs, same⟩ := List.exists_cons_of_ne_nil (Nat.toDigits_ne_nil (n := n) (b := 10))
  have digit : c.isDigit = true := digits c (same ▸ List.mem_cons_self)
  refine ⟨⟨c, cs, same, ?_⟩, fun rest ended => ?_⟩
  · simp only [isSpace, Bool.or_eq_false_iff, beq_eq_false_iff_ne]
    constructor <;> rintro rfl <;> cases digit
  have scalar : readValue? depth (Nat.toDigits 10 n ++ rest) = readScalar? (Nat.toDigits 10 n ++ rest) := by
    rw [same, List.cons_append, readValue?]
    all_goals
      intro more other
      rw [(List.cons.inj other).1] at digit
      cases digit
  obtain ⟨e, es, rfl, ends⟩ := ended
  have run : (Nat.toDigits 10 n ++ e :: es).span isWordChar = (Nat.toDigits 10 n, e :: es) := by
    apply Text.span_append
    · intro d member
      simp [isWordChar, Char.isAlphanum, digits d member]
    · rcases ends with rfl | rfl | rfl <;> simp [isWordChar, Char.isAlphanum]
  rw [scalar]
  simp only [readScalar?, run, splitDate?_of_digits digits, scalar?_toDigits small, Option.map_some]

/-! ### Arrays -/

/-- Neither blank nor the beginning of a comment. -/
theorem skipBlank_cons {c : Char} (shown : c ≠ ' ' ∧ c ≠ '\t' ∧ c ≠ '\n' ∧ c ≠ '\r' ∧ c ≠ '#')
    (cs : List Char) : skipBlank false (c :: cs) = c :: cs := by
  rw [skipBlank]
  · simp [isSpace, shown]
  all_goals grind

/-- One step through the quoted texts of an array. -/
theorem readItems?_quote (depth : Nat) (s : String) (n : Nat) (blank : List Char)
    (skips : ∀ cs, skipBlank false (blank ++ cs) = skipBlank false cs) {c : Char} (ends : c = ',' ∨ c = ']')
    (rest : List Char) :
    readItems? (readValue? depth) (n + 1) (blank ++ (quote s.toList ++ c :: rest)) =
      if c = ']' then some ([.string s], rest)
      else (readItems? (readValue? depth) n rest).map fun read => (.string s :: read.1, read.2) := by
  have read := (reads_quote depth s).read (c :: rest) ⟨c, rest, rfl, .inr ends⟩
  obtain ⟨q, cs, same, isQuote⟩ := quote_head s.toList
  have shown : skipBlank false (q :: (cs ++ c :: rest)) = q :: (cs ++ c :: rest) := by
    apply skipBlank_cons
    rcases isQuote with rfl | rfl <;> decide
  have other : ∀ more, q :: (cs ++ c :: rest) ≠ ']' :: more := by
    rintro more bracket
    obtain rfl : q = ']' := (List.cons.inj bracket).1
    exact absurd isQuote (by decide)
  have last : skipBlank false (c :: rest) = c :: rest := by
    apply skipBlank_cons
    rcases ends with rfl | rfl <;> decide
  rw [same, List.cons_append] at read ⊢
  rw [readItems?, skips, shown]
  split
  · next bracket => exact absurd bracket (other _)
  · simp only [read, last, Option.bind_eq_bind, Option.bind_some]
    rcases ends with rfl | rfl
    · rw [if_neg (by decide), Option.map_eq_bind]
      rfl
    · rfl

/-- An item of an array on a line of its own. -/
def itemLine (item : String) : List Char := "    ".toList ++ quote item.toList ++ ",\n".toList

theorem readItems?_lines (depth : Nat) (items : List String) {n : Nat} (enough : items.length < n)
    (rest : List Char) :
    readItems? (readValue? depth) n ('\n' :: (items.flatMap itemLine ++ ']' :: rest)) =
      some (items.map .string, rest) := by
  induction items generalizing n with
  | nil =>
    obtain ⟨n, rfl⟩ : ∃ m, n = m + 1 := ⟨n - 1, by simp at enough; omega⟩
    rfl
  | cons item items ih =>
    obtain ⟨n, rfl⟩ : ∃ m, n = m + 1 := ⟨n - 1, by omega⟩
    have more := ih (Nat.lt_of_succ_lt_succ enough)
    let others := '\n' :: (items.flatMap itemLine ++ ']' :: rest)
    have split : '\n' :: ((item :: items).flatMap itemLine ++ ']' :: rest) =
        "\n    ".toList ++ (quote item.toList ++ ',' :: others) := by
      simp [itemLine, others]
    have skips : ∀ cs, skipBlank false ("\n    ".toList ++ cs) = skipBlank false cs := fun _ => rfl
    rw [split, readItems?_quote depth item n _ skips (.inl rfl), if_neg (by decide)]
    simp [others, more]

theorem readValue?_bracket (depth : Nat) (cs : List Char) :
    readValue? (depth + 1) ('[' :: cs) =
      (readItems? (readValue? depth) (cs.length + 1) cs).map fun read => (.array read.1, read.2) := by
  rw [readValue?]

theorem reads_renderStrings (depth : Nat) (items : List String) :
    Reads (depth + 1) (Config.renderStrings items) (.array (items.map .string)) := by
  unfold Config.renderStrings
  split
  · exact ⟨⟨'[', _, rfl, rfl⟩, fun rest _ => rfl⟩
  · next item =>
    refine ⟨⟨'[', _, rfl, rfl⟩, fun rest _ => ?_⟩
    have read : readItems? (readValue? depth) ((quote item.toList ++ ']' :: rest).length + 1)
        (quote item.toList ++ ']' :: rest) = some ([.string item], rest) :=
      readItems?_quote depth item _ [] (fun _ => rfl) (.inr rfl) rest
    have split : '[' :: quote item.toList ++ [']'] ++ rest = '[' :: (quote item.toList ++ ']' :: rest) := by simp
    rw [split, readValue?_bracket, read]
    rfl
  · refine ⟨⟨'[', _, rfl, rfl⟩, fun rest _ => ?_⟩
    let cs := '\n' :: (items.flatMap itemLine ++ ']' :: rest)
    have enough : items.length < cs.length + 1 := by
      have filled : ∀ item, itemLine item ≠ [] := by simp [itemLine]
      have count := length_le_flatMap filled items
      simp only [cs, List.length_cons, List.length_append]
      omega
    have split : "[\n".toList ++ items.flatMap itemLine ++ [']'] ++ rest = '[' :: cs := by simp [cs]
    show readValue? (depth + 1) ("[\n".toList ++ items.flatMap itemLine ++ [']'] ++ rest) = _
    rw [split, readValue?_bracket, readItems?_lines depth items enough]
    rfl

/-! ## Lines -/

/-- A line that assigns an item to one key. -/
structure Line where
  key : String
  value : List Char
  item : Item

namespace Line

def text (l : Line) : List Char := Config.renderLine l.key l.value

def entry (l : Line) : String × Item := (l.key, l.item)

def statement (l : Line) : Statement := .assign ⟨[], l.key⟩ l.item

/-- The key needs no quotes, and the value is the text of the item. -/
structure Readable (l : Line) : Prop where
  named : l.key ≠ ""
  bare : ∀ c ∈ l.key.toList, isBareKeyChar c = true
  reads : Reads maxNesting l.value l.item

end Line

theorem ne_of_bare {c d : Char} (bare : isBareKeyChar c = true) (other : isBareKeyChar d = false) : c ≠ d := by
  rintro rfl
  rw [bare] at other
  cases other

theorem skipSpaces_cons {c : Char} (begins : isSpace c = false) (cs : List Char) :
    skipSpaces (c :: cs) = c :: cs := by
  simp [skipSpaces, begins]

theorem isSpace_of_bare {c : Char} (bare : isBareKeyChar c = true) : isSpace c = false := by
  simp [isSpace, ne_of_bare bare (d := ' ') rfl, ne_of_bare bare (d := '\t') rfl]

namespace Line.Readable

variable {l : Line} (readable : l.Readable)

include readable

theorem key_cons : ∃ c cs, l.key.toList = c :: cs ∧ isBareKeyChar c = true := by
  have nonempty : l.key.toList ≠ [] := fun none => readable.named (String.toList_eq_nil_iff.1 none)
  obtain ⟨c, cs, first⟩ := List.exists_cons_of_ne_nil nonempty
  exact ⟨c, cs, first, readable.bare c (first ▸ List.mem_cons_self)⟩

theorem text_cons (rest : List Char) : ∃ c cs, l.text ++ rest = c :: cs ∧ isBareKeyChar c = true := by
  obtain ⟨c, cs, first, bare⟩ := readable.key_cons
  exact ⟨c, _, by rw [Line.text, Config.renderLine, first]; rfl, bare⟩

theorem readName? (rest : List Char) :
    Toml.readName? (l.key.toList ++ ' ' :: rest) = some (l.key, ' ' :: rest) := by
  have run : (l.key.toList ++ ' ' :: rest).span isBareKeyChar = (l.key.toList, ' ' :: rest) :=
    Text.span_append readable.bare (by simp [isBareKeyChar])
  obtain ⟨c, cs, first, bare⟩ := readable.key_cons
  have name : String.ofList (c :: cs) = l.key := by rw [← first, String.ofList_toList]
  rw [first, List.cons_append] at run ⊢
  rw [Toml.readName?]
  · rw [run]
    simp [name]
  · exact fun _ same => ne_of_bare bare rfl (List.cons.inj same).1
  · exact fun _ same => ne_of_bare bare rfl (List.cons.inj same).1

theorem readPath? (rest : List Char) :
    Toml.readPath? (l.key.toList ++ ' ' :: '=' :: rest) = some (⟨[], l.key⟩, '=' :: rest) := by
  have name := readable.readName? ('=' :: rest)
  obtain ⟨c, cs, first, bare⟩ := readable.key_cons
  rw [first, List.cons_append] at name ⊢
  have names : readNames? maxPathLength (c :: (cs ++ ' ' :: '=' :: rest)) = some ([l.key], '=' :: rest) := by
    rw [maxPathLength, readNames?, skipSpaces_cons (isSpace_of_bare bare), name]
    rfl
  simp [Toml.readPath?, names]

theorem readStatement? (rest : List Char) : Toml.readStatement? (l.text ++ rest) = some (l.statement, rest) := by
  have path := readable.readPath? (' ' :: (l.value ++ '\n' :: rest))
  have value := readable.reads.read ('\n' :: rest) ⟨'\n', rest, rfl, .inl rfl⟩
  have split : l.text ++ rest = l.key.toList ++ ' ' :: '=' :: ' ' :: (l.value ++ '\n' :: rest) := by
    simp [Line.text, Config.renderLine]
  have blank : skipSpaces (' ' :: (l.value ++ '\n' :: rest)) = l.value ++ '\n' :: rest := by
    obtain ⟨v, vs, begins, shown⟩ := readable.reads.begins
    rw [begins, List.cons_append]
    exact skipSpaces_cons shown _
  have assignment : readAssignment? (readValue? maxNesting) (l.text ++ rest) =
      some ((⟨[], l.key⟩, l.item), '\n' :: rest) := by
    rw [split, readAssignment?, path]
    simp [blank, value]
  have ended : skipLineEnd? ('\n' :: rest) = some rest := rfl
  obtain ⟨c, cs, first, bare⟩ := readable.text_cons rest
  have plain : c ≠ '[' := ne_of_bare bare rfl
  rw [first] at assignment ⊢
  rw [Toml.readStatement?]
  · simp [assignment, ended, Line.statement]
  all_goals simp [plain]

end Line.Readable

/-- A line is no blank one. -/
theorem skipLineEnd?_bare {c : Char} (bare : isBareKeyChar c = true) (cs : List Char) :
    skipLineEnd? (c :: cs) = none := by
  have comment : skipComment (c :: cs) = c :: cs := by
    rw [skipComment]
    exact fun _ same => ne_of_bare bare rfl (List.cons.inj same).1
  have feed : c ≠ '\n' ∧ c ≠ '\r' := ⟨ne_of_bare bare rfl, ne_of_bare bare rfl⟩
  rw [skipLineEnd?, skipSpaces_cons (isSpace_of_bare bare), comment]
  split <;> simp_all

theorem readStatements?_lines {lines : List Line} (each : ∀ l ∈ lines, l.Readable) {n : Nat}
    (enough : lines.length < n) :
    readStatements? n (lines.flatMap Line.text) = some (lines.map Line.statement) := by
  induction lines generalizing n with
  | nil =>
    obtain ⟨n, rfl⟩ : ∃ m, n = m + 1 := ⟨n - 1, by simp at enough; omega⟩
    rfl
  | cons l lines ih =>
    obtain ⟨n, rfl⟩ : ∃ m, n = m + 1 := ⟨n - 1, by omega⟩
    have more := ih (fun m member => each m (List.mem_cons_of_mem _ member)) (Nat.lt_of_succ_lt_succ enough)
    have readable := each l List.mem_cons_self
    have statement := readable.readStatement? (lines.flatMap Line.text)
    obtain ⟨c, cs, first, bare⟩ := readable.text_cons (lines.flatMap Line.text)
    rw [List.flatMap_cons]
    rw [first] at statement ⊢
    rw [readStatements?, skipSpaces_cons (isSpace_of_bare bare)]
    simp [skipLineEnd?_bare bare, statement, more]

/-! ## Documents -/

theorem add?_statement {es : Entries} {l : Line} (fresh : es.lookup l.key = none) :
    Draft.add? ⟨es, []⟩ l.statement = some ⟨es ++ [l.entry], []⟩ := by
  simp [Draft.add?, Line.statement, Line.entry, Entries.alter?, Entries.assign?, Entries.add?, fresh]

theorem build?_lines {lines : List Line} (distinct : (lines.map Line.key).Nodup) :
    build? (lines.map Line.statement) = some (lines.map Line.entry) := by
  have all : ∀ es : Entries, (∀ l ∈ lines, es.lookup l.key = none) →
      (lines.map Line.statement).foldlM Draft.add? ⟨es, []⟩ = some ⟨es ++ lines.map Line.entry, []⟩ := by
    induction lines with
    | nil => simp
    | cons l lines ih =>
      intro es fresh
      obtain ⟨apart, distinct⟩ := List.nodup_cons.1 distinct
      rw [List.map_cons, List.foldlM_cons, add?_statement (fresh l List.mem_cons_self)]
      have rest := ih distinct (es ++ [l.entry]) fun m member => ?_
      · simpa using rest
      · have other : (m.key == l.key) = false := by
          simpa using fun same : m.key = l.key => apart (same ▸ List.mem_map_of_mem member)
        simp [List.lookup_append, fresh m (List.mem_cons_of_mem _ member), Line.entry, List.lookup_cons, other]
  simp [build?, all [] (by simp)]

/-- **A document of readable lines is read as what the lines assign**, if no two have one key. -/
theorem parse?_lines {lines : List Line} (each : ∀ l ∈ lines, l.Readable)
    (distinct : (lines.map Line.key).Nodup) :
    parse? (String.ofList (lines.flatMap Line.text)) = some (lines.map Line.entry) := by
  have filled : ∀ l : Line, l.text ≠ [] := by simp [Line.text, Config.renderLine]
  have enough := Nat.lt_succ_of_le (length_le_flatMap filled lines)
  have statements := readStatements?_lines each enough
  have unmarked : ∀ rest, lines.flatMap Line.text ≠ '\ufeff' :: rest := by
    intro rest marked
    cases lines with
    | nil => cases marked
    | cons l lines =>
      obtain ⟨c, cs, first, bare⟩ := (each l List.mem_cons_self).text_cons (lines.flatMap Line.text)
      rw [List.flatMap_cons, first] at marked
      exact ne_of_bare bare rfl (List.cons.inj marked).1
  generalize lines.flatMap Line.text = text at statements unmarked ⊢
  simp [parse?, statements, build?_lines distinct]

end RecordGate.Toml
