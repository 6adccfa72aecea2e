import RecordGate.Toml.Document

/-!
# Reading quoted texts back

Every text is read back from its quotes, whichever of the four ways it is written in (`Toml.readText?_quote`). The
readers of either kind of quotes take a character at a time; those of several lines must also tell quotes of the
text from the closing ones, of which they may have up to two more in front.
-/

namespace RecordGate.Toml
set_option autoImplicit false

/-! ## Characters -/

/-- A character is read from what is written for it, whatever stands behind. -/
def ReadsChar (scan : Reader (List Char)) (c : Char) (written : List Char) : Prop :=
  ∀ cs, scan (written ++ cs) = (scan cs).map fun read => (c :: read.1, read.2)

/-- A reader between double quotes knows each kind of escape, and takes other characters as they are. -/
structure Unescapes (scan : Reader (List Char)) : Prop where
  letter : ∀ e c, escaped? e = some c → ReadsChar scan c ['\\', e]
  point : ∀ c h i j k, charOfHex? [h, i, j, k] = some c → ReadsChar scan c ['\\', 'u', h, i, j, k]
  plain : ∀ c, isControl c = false → c ≠ '\\' → c ≠ '"' → ReadsChar scan c [c]

theorem charOfHex?_digits :
    ∀ n < 0x80, charOfHex? ['0', '0', Nat.digitChar (n / 16), (Nat.digitChar (n % 16)).toUpper] =
      some (Char.ofNat n) := by
  decide

theorem readsChar_escapeChar {scan : Reader (List Char)} (unescapes : Unescapes scan) {c : Char}
    (plain : c ≠ '"') : ReadsChar scan c (escapeChar c) := by
  unfold escapeChar
  split
  case h_7 _ _ _ _ _ backslash =>
    split
    · next control =>
      have small : c.toNat < 0x80 := by
        simp [isControl] at control
        omega
      have point := charOfHex?_digits c.toNat small
      rw [Char.ofNat_toNat] at point
      exact unescapes.point c _ _ _ _ point
    · next shown => exact unescapes.plain c (by simpa using shown) backslash plain
  all_goals exact unescapes.letter _ _ rfl

/-- No double quote is written for another character. -/
theorem escapeChar_head {c : Char} (plain : c ≠ '"') : ∃ d more, escapeChar c = d :: more ∧ d ≠ '"' := by
  unfold escapeChar
  split
  case h_7 =>
    split
    · exact ⟨'\\', _, rfl, by decide⟩
    · exact ⟨c, [], rfl, plain⟩
  all_goals exact ⟨'\\', _, rfl, by decide⟩

theorem unescapes_readBasic? : Unescapes readBasic? where
  letter e c escape cs := by
    unfold escaped? at escape
    split at escape
    case h_8 => cases escape
    all_goals
      cases escape
      simp only [List.cons_append, List.nil_append]
      rw [readBasic?]
      · cases readBasic? cs <;> rfl
      all_goals grind
  point c h i j k code cs := by
    simp only [List.cons_append, List.nil_append]
    rw [readBasic?, code]
    cases readBasic? cs <;> rfl
  plain c shown backslash quote cs := by
    rw [List.singleton_append, readBasic?]
    · have accepted : ¬ (isControl c || c == '\\') = true := by simp [shown, backslash]
      rw [if_neg accepted]
      cases readBasic? cs <;> rfl
    all_goals grind

/-- Line ends are control characters. -/
theorem not_lineEnd_of_not_control {c : Char} (shown : isControl c = false) : c ≠ '\n' ∧ c ≠ '\r' := by
  constructor <;> rintro rfl <;> exact absurd shown (by decide)

theorem unescapes_readLines? : Unescapes (readLines? .text) where
  letter e c escape cs := by
    unfold escaped? at escape
    split at escape
    case h_8 => cases escape
    all_goals
      cases escape
      simp only [List.cons_append, List.nil_append]
      rw [readLines?]
      · cases readLines? .text cs <;> rfl
      all_goals grind
  point c h i j k code cs := by
    simp only [List.cons_append, List.nil_append]
    rw [readLines?, code]
    · cases readLines? .text cs <;> rfl
    all_goals grind
  plain c shown backslash quote cs := by
    have inner := not_lineEnd_of_not_control shown
    rw [List.singleton_append, readLines?]
    · have accepted : ¬ (isControl c || c == '\\') = true := by simp [shown, backslash]
      rw [if_neg accepted]
      cases readLines? .text cs <;> rfl
    all_goals grind

theorem readsChar_lineFeed : ReadsChar (readLines? .text) '\n' ['\n'] := by
  intro cs
  rw [List.singleton_append, readLines?]
  · cases readLines? .text cs <;> rfl
  all_goals grind

theorem readsChar_literal {c : Char} (shown : isControl c = false) (quote : c ≠ '\'') :
    ReadsChar readLiteral? c [c] := by
  intro cs
  rw [List.singleton_append, readLiteral?]
  · rw [if_neg (by simp [shown])]
    cases readLiteral? cs <;> rfl
  all_goals grind

theorem readsChar_literalLines {c : Char} (shown : isControl c = true → c = '\n') (quote : c ≠ '\'') :
    ReadsChar readLiteralLines? c [c] := by
  intro cs
  have carriage : c ≠ '\r' := by
    rintro rfl
    exact absurd (shown rfl) (by decide)
  rw [List.singleton_append, readLiteralLines?]
  · rw [if_neg (by simpa using shown)]
    cases readLiteralLines? cs <;> rfl
  all_goals grind

/-! ## Quotes of one line -/

/-- Where each character of a text is read from what is written for it, the text is. -/
theorem scan_flatMap {scan : Reader (List Char)} {write : Char → List Char} {text : List Char}
    (each : ∀ c ∈ text, ReadsChar scan c (write c)) (cs : List Char) :
    scan (text.flatMap write ++ cs) = (scan cs).map fun read => (text ++ read.1, read.2) := by
  induction text with
  | nil => simp
  | cons c text ih =>
    rw [List.flatMap_cons, List.append_assoc, each c List.mem_cons_self,
      ih fun d member => each d (List.mem_cons_of_mem _ member), Option.map_map]
    rfl

/-- What is written for a character between double quotes on one line. -/
def basicChar (c : Char) : List Char := if c = '"' then ['\\', '"'] else escapeChar c

theorem escapeText_false (run : Nat) (text : List Char) : escapeText false run text = text.flatMap basicChar := by
  induction text generalizing run with
  | nil => rfl
  | cons c text ih =>
    rw [escapeText, List.flatMap_cons, basicChar]
    split <;> simp [ih]

theorem readBasic?_escapeText (text rest : List Char) :
    readBasic? (escapeText false 0 text ++ '"' :: rest) = some (text, rest) := by
  have each : ∀ c ∈ text, ReadsChar readBasic? c (basicChar c) := by
    intro c _
    unfold basicChar
    split
    · next same =>
      subst same
      exact unescapes_readBasic?.letter '"' '"' rfl
    · next other => exact readsChar_escapeChar unescapes_readBasic? other
  rw [escapeText_false, scan_flatMap each, readBasic?]
  simp

theorem readLiteral?_plain {text : List Char} (plain : ∀ c ∈ text, isControl c = false ∧ c ≠ '\'')
    (rest : List Char) : readLiteral? (text ++ '\'' :: rest) = some (text, rest) := by
  have each : ∀ c ∈ text, ReadsChar readLiteral? c [c] := fun c member =>
    readsChar_literal (plain c member).1 (plain c member).2
  have read := scan_flatMap each ('\'' :: rest)
  rw [List.flatMap_singleton'] at read
  rw [read, readLiteral?]
  simp

/-! ## Quotes of several lines -/

/-- What may stand behind a quoted text. -/
def Clear (q : Char) (rest : List Char) : Prop := ∀ c, rest.head? = some c → c ≠ q

theorem clear_cons {q c : Char} (other : c ≠ q) (rest : List Char) : Clear q (c :: rest) := by
  simpa [Clear] using other

/-- A reader of several lines. Three quotes close a text, and up to two in front of them belong to it. -/
structure ReadsLines (scan : Reader (List Char)) (q : Char) : Prop where
  lineFeed : ReadsChar scan '\n' ['\n']
  lineEnd : ReadsChar scan '\n' ['\r', '\n']
  three : ∀ rest, Clear q rest → scan (q :: q :: q :: rest) = some ([], rest)
  four : ∀ rest, Clear q rest → scan (q :: q :: q :: q :: rest) = some ([q], rest)
  five : ∀ rest, Clear q rest → scan (q :: q :: q :: q :: q :: rest) = some ([q, q], rest)
  one : ∀ rest, rest ≠ [] → Clear q rest →
    scan (q :: rest) = (scan rest).map fun read => (q :: read.1, read.2)
  two : ∀ rest, rest ≠ [] → Clear q rest →
    scan (q :: q :: rest) = (scan (q :: rest)).map fun read => (q :: read.1, read.2)

theorem readsLines_readLines? : ReadsLines (readLines? .text) '"' where
  lineFeed := readsChar_lineFeed
  lineEnd cs := by
    simp only [List.cons_append, List.nil_append]
    rw [readLines?]
    · cases readLines? .text cs <;> rfl
    all_goals grind
  three rest clear := by
    rw [readLines?] <;> grind [Clear]
  four rest clear := by
    rw [readLines?] <;> grind [Clear]
  five rest clear := by
    rw [readLines?]
    exact nofun
  one rest more clear := by
    rw [readLines?]
    · rw [if_neg (by decide)]
      cases readLines? .text rest <;> rfl
    all_goals grind [Clear]
  two rest more clear := by
    rw [readLines?]
    · rw [if_neg (by decide)]
      cases readLines? .text ('"' :: rest) <;> rfl
    all_goals grind [Clear]

theorem readsLines_readLiteralLines? : ReadsLines readLiteralLines? '\'' where
  lineFeed := readsChar_literalLines (fun _ => rfl) (by decide)
  lineEnd cs := by
    simp only [List.cons_append, List.nil_append]
    rw [readLiteralLines?]
    cases readLiteralLines? cs <;> rfl
  three rest clear := by
    rw [readLiteralLines?] <;> grind [Clear]
  four rest clear := by
    rw [readLiteralLines?]
    grind [Clear]
  five rest clear := by
    rw [readLiteralLines?]
  one rest more clear := by
    rw [readLiteralLines?]
    · rw [if_neg (by decide)]
      cases readLiteralLines? rest <;> rfl
    all_goals grind [Clear]
  two rest more clear := by
    rw [readLiteralLines?]
    · rw [if_neg (by decide)]
      cases readLiteralLines? ('\'' :: rest) <;> rfl
    all_goals grind [Clear]

/-- What is written between three quotes for a text, behind so many quotes: never more than two in a row. -/
inductive Between (scan : Reader (List Char)) (q : Char) : Nat → List Char → List Char → Prop
  | nil {run : Nat} : Between scan q run [] []
  | quote {run : Nat} {text written : List Char} (few : run < 2) (rest : Between scan q (run + 1) text written) :
      Between scan q run (q :: text) (q :: written)
  | char {run : Nat} {c d : Char} {text written more : List Char} (reads : ReadsChar scan c (d :: more))
      (other : d ≠ q) (rest : Between scan q 0 text written) :
      Between scan q run (c :: text) (d :: more ++ written)

theorem scan_between {scan : Reader (List Char)} {q : Char} (lines : ReadsLines scan q) {run : Nat}
    {text written : List Char} (between : Between scan q run text written) {rest : List Char}
    (clear : Clear q rest) : scan (written ++ q :: q :: q :: rest) = some (text, rest) := by
  induction between with
  | nil => exact lines.three rest clear
  | char reads other between ih => rw [List.append_assoc, reads, ih]; rfl
  | quote few between ih =>
    -- At most one more quote is next, then a character or the end of the text, which the closing quotes follow.
    cases between with
    | nil => exact lines.four rest clear
    | char reads other between =>
      rw [List.cons_append, lines.one, ih]
      · rfl
      · simp
      · exact clear_cons other _
    | quote few between =>
      cases between with
      | nil => exact lines.five rest clear
      | quote few' => omega
      | char reads other between =>
        rw [List.cons_append, List.cons_append, lines.two]
        · rw [← List.cons_append, ih]
          rfl
        · simp
        · exact clear_cons other _

theorem between_escapeText {run : Nat} (few : run ≤ 2) (text : List Char) :
    Between (readLines? .text) '"' run text (escapeText true run text) := by
  induction text generalizing run with
  | nil => exact .nil
  | cons c text ih =>
    unfold escapeText
    split
    · next quote =>
      subst quote
      by_cases more : run < 2
      · rw [if_pos (by simpa using more)]
        exact .quote more (ih more)
      · rw [if_neg (by simpa using more)]
        exact .char (unescapes_readLines?.letter '"' '"' rfl) (by decide) (ih (Nat.zero_le _))
    · next other =>
      split
      · next feed =>
        rw [feed.1]
        exact .char readsChar_lineFeed (by decide) (ih (Nat.zero_le _))
      · have reads := readsChar_escapeChar unescapes_readLines? other
        obtain ⟨d, more, same, apart⟩ := escapeChar_head other
        rw [same] at reads ⊢
        exact .char reads apart (ih (Nat.zero_le _))

/-! ### Runs of quotes -/

/-- The run that a character leaves behind, and the longest so far. -/
def countRun (q : Char) (runs : Nat × Nat) (c : Char) : Nat × Nat :=
  let run := if c = q then runs.1 + 1 else 0
  (run, max runs.2 run)

theorem le_longest (q : Char) (text : List Char) (runs : Nat × Nat) :
    runs.2 ≤ (text.foldl (countRun q) runs).2 := by
  induction text generalizing runs with
  | nil => exact Nat.le_refl _
  | cons c text ih => exact Nat.le_trans (Nat.le_max_left _ _) (ih (countRun q runs c))

/-- Without a run there is no quote. -/
theorem not_mem_of_longestRun {q : Char} {text : List Char} (none : longestRun q text = 0) : q ∉ text := by
  have absent : ∀ runs : Nat × Nat, (text.foldl (countRun q) runs).2 = 0 → q ∉ text := by
    clear none
    induction text with
    | nil => simp
    | cons c text ih =>
      intro runs none
      have step := le_longest q text (countRun q runs c)
      rw [List.foldl_cons] at none
      have other : q ≠ c := by
        rintro rfl
        rw [none] at step
        simp [countRun] at step
      simpa [other] using ih _ none
  exact absent (0, 0) none

theorem between_plain {text : List Char} (plain : ∀ c ∈ text, isControl c = true → c = '\n') {run longest : Nat}
    (few : (text.foldl (countRun '\'') (run, longest)).2 ≤ 2) :
    Between readLiteralLines? '\'' run text text := by
  induction text generalizing run longest with
  | nil => exact .nil
  | cons c text ih =>
    have rest {run longest : Nat} := @ih (fun d member => plain d (List.mem_cons_of_mem _ member)) run longest
    rw [List.foldl_cons] at few
    by_cases quote : c = '\''
    · have step := le_longest '\'' text (countRun '\'' (run, longest) c)
      subst quote
      simp only [countRun, if_true] at step few
      exact .quote (by omega) (rest few)
    · have reads := readsChar_literalLines (plain c List.mem_cons_self) quote
      simp only [countRun, if_neg quote] at few
      exact .char reads quote (rest few)

/-! ## Every text -/

/-- A text without line ends does not begin with one in quotes. -/
theorem skipFirstLineEnd_of_read {scan : Reader (List Char)} {q : Char} (lines : ReadsLines scan q)
    {cs text rest : List Char} (read : scan cs = some (text, rest)) (single : '\n' ∉ text) :
    skipFirstLineEnd cs = cs := by
  -- A line end in front would be read as the first character of the text.
  have absurd_of_reads : ∀ written more, ReadsChar scan '\n' written → written ++ more ≠ cs := by
    rintro written more reads rfl
    obtain ⟨inner, -, same⟩ := Option.map_eq_some_iff.1 ((reads more).symm.trans read)
    obtain ⟨rfl, -⟩ := Prod.mk.inj same
    exact single List.mem_cons_self
  unfold skipFirstLineEnd
  split
  · exact absurd rfl (absurd_of_reads _ _ lines.lineEnd)
  · exact absurd rfl (absurd_of_reads _ _ lines.lineFeed)
  · rfl

/-- The line end that is written in front of a text of several lines is left out again. -/
theorem scan_lines {scan : Reader (List Char)} {q : Char} (lines : ReadsLines scan q) {text written : List Char}
    (between : Between scan q 0 text written) {rest : List Char} (clear : Clear q rest) :
    scan (skipFirstLineEnd
      ((if text.contains '\n' then ['\n'] else []) ++ (written ++ q :: q :: q :: rest))) = some (text, rest) := by
  have read := scan_between lines between clear
  split
  · exact read
  · next single =>
    rw [List.nil_append, skipFirstLineEnd_of_read lines read (by simpa using single), read]

/-- What is written in quotes of one line, if it is neither empty nor a quote, opens no quotes of several. -/
theorem readText?_quoted {q : Char} (isQuote : q = '"' ∨ q = '\'') {cs : List Char}
    (inner : ∀ rest, cs ≠ q :: q :: rest) : readText? (q :: cs) = readQuoted? (q :: cs) := by
  rcases isQuote with rfl | rfl <;> rw [readText?] <;> grind

theorem not_doubled {q : Char} {written rest : List Char} (inner : Clear q written) (clear : Clear q rest)
    (more : List Char) : written ++ q :: rest ≠ q :: q :: more := by
  cases written with
  | nil =>
    rintro same
    obtain rfl : rest = q :: more := by simpa using same
    exact clear q rfl rfl
  | cons c cs =>
    intro same
    exact inner c rfl (List.cons.inj same).1

theorem clear_escapeText (run : Nat) (text : List Char) : Clear '"' (escapeText false run text) := by
  rw [escapeText_false]
  cases text with
  | nil => exact fun _ none => nomatch none
  | cons c cs =>
    rw [List.flatMap_cons, basicChar]
    split
    · exact clear_cons (by decide) _
    · next other =>
      obtain ⟨d, more, same, apart⟩ := escapeChar_head other
      rw [same]
      exact clear_cons apart _

theorem Traits.quoting_literal {t : Traits} (kind : t.quoting = .literal) :
    t.controls = false ∧ t.singleQuotes = 0 ∧ t.lines = false := by
  unfold quoting at kind
  grind

theorem Traits.quoting_literalLines {t : Traits} (kind : t.quoting = .literalLines) :
    t.controls = false ∧ t.singleQuotes ≤ 2 := by
  unfold quoting at kind
  grind

theorem lineEnd_of_control {text : List Char} (printed : (Traits.of text).controls = false) :
    ∀ c ∈ text, isControl c = true → c = '\n' := by
  simpa [Traits.of] using printed

/-- **A quoted text is read back**, unless more quotes stand behind it. -/
theorem readText?_quote (text : List Char) {rest : List Char} (double : Clear '"' rest)
    (single : Clear '\'' rest) : readText? (quote text ++ rest) = some (text, rest) := by
  have lead : (Traits.of text).lines = text.contains '\n' := rfl
  cases kind : (Traits.of text).quoting with
  | basic =>
    have read := readBasic?_escapeText text rest
    have inner := not_doubled (clear_escapeText 0 text) double
    simp [quote, kind, readText?_quoted (.inl rfl) inner, readQuoted?, read]
  | literal =>
    obtain ⟨printed, none, one⟩ := Traits.quoting_literal kind
    have absent : '\'' ∉ text := not_mem_of_longestRun none
    have plain : ∀ c ∈ text, isControl c = false ∧ c ≠ '\'' := by
      intro c member
      have within : '\n' ∉ text := by simpa [Traits.of] using one
      refine ⟨Bool.eq_false_iff.2 fun control => within ?_, ?_⟩
      · exact lineEnd_of_control printed c member control ▸ member
      · rintro rfl
        exact absent member
    have read := readLiteral?_plain plain rest
    have inner := not_doubled (fun c first => (plain c (List.mem_of_head? first)).2) single
    simp [quote, kind, readText?_quoted (.inr rfl) inner, readQuoted?, read]
  | basicLines =>
    have read := scan_lines readsLines_readLines? (between_escapeText (Nat.zero_le 2) text) double
    simpa [quote, kind, lead, readText?] using read
  | literalLines =>
    obtain ⟨printed, few⟩ := Traits.quoting_literalLines kind
    have between : Between readLiteralLines? '\'' 0 text text := between_plain (lineEnd_of_control printed) few
    have read := scan_lines readsLines_readLiteralLines? between single
    simpa [quote, kind, lead, readText?] using read

end RecordGate.Toml
