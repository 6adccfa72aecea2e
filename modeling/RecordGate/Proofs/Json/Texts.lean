import RecordGate.Json.Reader
import RecordGate.Json.Writer
import RecordGate.Proofs.Text.Numerals

/-!
# Reading JSON texts back

The text of a tree is read as the tree it was written from, whatever value or closing character stands behind it
(`Json.Writable.reads_back`). Trees with floats or unusable parts have no text, and whole numbers must be of those
that are read as such.
-/

namespace RecordGate.Json
set_option autoImplicit false

/-! ## Strings -/

theorem digitValue?_digit : ∀ n < 16, Hex.digitValue? (Hex.digit n) = some n := by decide

theorem codeUnit?_digits {n : Nat} (small : n < 256) :
    codeUnit? '0' '0' (Hex.digit (n / 16)) (Hex.digit (n % 16)) = some n := by
  have high := digitValue?_digit (n / 16) (by omega)
  have low := digitValue?_digit (n % 16) (by omega)
  simp [codeUnit?, high, low, show Hex.digitValue? '0' = some 0 from rfl]
  omega

theorem readUnits?_escaped (c : Char) (cs : List Char) :
    readUnits? (escaped c ++ cs) = (readUnits? cs).map fun read => (.inl c :: read.1, read.2) := by
  unfold escaped
  split
  case h_8 quote backslash _ _ _ _ _ =>
    split
    · next control =>
      have octet : (UInt8.ofNat c.toNat).toNat = c.toNat := by
        simp
        omega
      have single : isHighSurrogate c.toNat = false ∧ isLowSurrogate c.toNat = false := by
        simp [isHighSurrogate, isLowSurrogate]
        omega
      simp only [Hex.octet, octet, List.cons_append, List.nil_append]
      rw [readUnits?, codeUnit?_digits (by omega)]
      cases readUnits? cs <;> simp [single, Char.ofNat_toNat]
    · next shown =>
      have plain : ¬ (c.toNat < 0x20 || c == '\\') = true := by
        simp only [Bool.or_eq_true, decide_eq_true_eq, beq_iff_eq, not_or]
        exact ⟨shown, backslash⟩
      rw [List.singleton_append, readUnits?]
      · rw [if_neg plain]
        cases readUnits? cs <;> rfl
      all_goals grind
  all_goals
    simp only [List.cons_append, List.nil_append]
    rw [readUnits?]
    · cases readUnits? cs <;> rfl
    all_goals grind

theorem readUnits?_flatMap (text rest : List Char) :
    readUnits? (text.flatMap escaped ++ '"' :: rest) = some (text.map .inl, rest) := by
  induction text with
  | nil => rfl
  | cons c cs ih =>
    rw [List.flatMap_cons, List.append_assoc, readUnits?_escaped, ih]
    rfl

/-- Characters are units of their own. -/
theorem pairUnits?_map_inl (text : List Char) : pairUnits? (text.map .inl) = some text := by
  induction text with
  | nil => rfl
  | cons c cs ih => simp [pairUnits?, ih]

theorem readString?_quoted (s : String) (rest : List Char) :
    readString? (s.toList.flatMap escaped ++ '"' :: rest) = some (some s, rest) := by
  simp [readString?, readUnits?_flatMap, pairUnits?_map_inl]

/-! ## Numbers -/

/-- What may stand behind a value. No number goes on with it. -/
def Ended (rest : List Char) : Prop :=
  ∀ c, rest.head? = some c → c = ',' ∨ c = ']' ∨ c = '\x7d'

theorem ended_nil : Ended [] := fun _ none => nomatch none

theorem ended_cons {c : Char} (ends : c = ',' ∨ c = ']' ∨ c = '\x7d') (rest : List Char) : Ended (c :: rest) := by
  intro d first
  obtain rfl : c = d := by simpa using first
  exact ends

/-- The parts of the text of a whole number. -/
def numeral (i : Int) : Numeral where
  negative := i < 0
  whole := (Nat.toDigits 10 i.natAbs).map fun c => c.toNat - '0'.toNat
  fraction := []
  exponent := none
  isFloat := false

theorem toList_toString (i : Int) :
    (toString i).toList = (if i < 0 then ['-'] else []) ++ Nat.toDigits 10 i.natAbs := by
  rw [Int.toString_eq_repr, Int.repr_eq_if]
  by_cases negative : i < 0
  · have magnitude : (-i).toNat = i.natAbs := by omega
    rw [if_neg (by omega), if_pos negative, String.toList_append, Nat.toList_repr, magnitude]
    rfl
  · have magnitude : i.toNat = i.natAbs := by omega
    rw [if_pos (by omega), if_neg negative, Nat.toList_repr, magnitude]
    rfl

theorem readWhole?_toDigits (n : Nat) {rest : List Char} (ended : Ended rest) :
    readWhole? (Nat.toDigits 10 n ++ rest) =
      some ((Nat.toDigits 10 n).map fun c => c.toNat - '0'.toNat, rest) := by
  have stops : ∀ c, rest.head? = some c → c.isDigit = false := by
    intro c first
    rcases ended c first with rfl | rfl | rfl <;> rfl
  rcases Nat.eq_zero_or_pos n with rfl | positive
  · have next : rest.head?.any Char.isDigit = false := by
      cases first : rest.head? with
      | none => rfl
      | some c => exact stops c first
    simp [readWhole?, next]
  · obtain ⟨c, cs, digits, nonzero, -⟩ := Text.toDigits_head positive
    have run := Text.span_append (fun d => Text.isDigit_of_mem (n := n) (c := d)) stops
    rw [digits, List.cons_append] at run ⊢
    rw [readWhole?]
    · rw [readDigits?, run]
    · exact fun _ same => nonzero (List.cons.inj same).1

theorem readNumeral?_toString (i : Int) {rest : List Char} (ended : Ended rest) :
    readNumeral? ((toString i).toList ++ rest) = some (numeral i, rest) := by
  have whole := readWhole?_toDigits i.natAbs ended
  have integral : ∀ cs : List Char, rest ≠ '.' :: cs := by
    rintro cs rfl
    exact absurd (ended '.' rfl) (by decide)
  have unscaled : readExponent? rest = some (none, rest) := by
    unfold readExponent?
    split
    · exact absurd (ended 'e' rfl) (by decide)
    · exact absurd (ended 'E' rfl) (by decide)
    · rfl
  rw [toList_toString]
  by_cases negative : i < 0
  · simp [negative, readNumeral?, whole, unscaled, numeral]
  · have unsigned : ∀ cs : List Char, Nat.toDigits 10 i.natAbs ++ rest ≠ '-' :: cs := by
      intro cs signed
      obtain ⟨c, ds, digits⟩ := List.exists_cons_of_ne_nil (Nat.toDigits_ne_nil (n := i.natAbs) (b := 10))
      have digit : c.isDigit = true := Text.isDigit_of_mem (digits ▸ List.mem_cons_self)
      rw [digits] at signed
      rw [(List.cons.inj signed).1] at digit
      exact Bool.noConfusion digit
    simp [negative, readNumeral?, whole, unscaled, numeral]

theorem value_whole (i : Int) : Numeral.value (numeral i).whole = i.natAbs := by
  unfold Numeral.value numeral
  rw [List.foldl_map]
  exact Nat.ofDigitChars_ten_toDigits

/-- Whole numbers of 64 bits are read as whole numbers, with a sign or without. -/
theorem toJson_numeral {i : Int} (lower : -0x8000000000000000 ≤ i) (upper : i < UInt64.size) :
    (numeral i).toJson = integer i := by
  have sign : (numeral i).negative = decide (i < 0) := rfl
  have point : (numeral i).isFloat = false := rfl
  have size : UInt64.size = 0x10000000000000000 := rfl
  unfold Numeral.toJson
  simp only [value_whole, sign, point]
  by_cases negative : i < 0
  · have within : 0 < i.natAbs ∧ i.natAbs ≤ 0x8000000000000000 := by omega
    have value : -(i.natAbs : Int) = i := by omega
    simp only [negative, within, value, decide_true, if_true, and_self, Bool.false_eq_true, if_false]
  · have within : i.natAbs < UInt64.size := by omega
    have value : (i.natAbs : Int) = i := by omega
    simp only [negative, within, value, decide_false, if_true, Bool.false_eq_true, if_false]

/-! ## Trees -/

/-- Trees that have a text which is read back. -/
inductive Writable : Json → Prop
  | null : Writable null
  | bool (b : Bool) : Writable (bool b)
  | integer {i : Int} (lower : -0x8000000000000000 ≤ i) (upper : i < UInt64.size) : Writable (integer i)
  | string (s : String) : Writable (string s)
  | array {items : List Json} (each : ∀ item ∈ items, Writable item) : Writable (array items)
  | object {members : List (String × Json)} (each : ∀ m ∈ members, Writable m.2) : Writable (ofMembers members)

/-- The text of a tree that has one. -/
def text (j : Json) : List Char := j.chars?.getD []

/-- The text of a member, under a name that is usable. -/
def memberText (m : Option String × Json) : List Char := quote (m.1.getD "") ++ ':' :: text m.2

/-- A text is read as what it is the text of, up to what may stand behind it. -/
def ReadAs {α : Type} (one : Reader α) (a : α) (text : List Char) : Prop :=
  ∀ rest, Ended rest → one (text ++ rest) = some (a, rest)

/-- A tree that is read back from its text, which begins as no blank and no closing bracket does. -/
structure ReadsBack (j : Json) : Prop where
  written : chars? j = some (text j)
  begins : ∃ c cs, text j = c :: cs ∧ isSpace c = false ∧ c ≠ ']'
  read : ∀ depth, (text j).length < depth → ReadAs (readValue? depth) j (text j)

theorem skipSpaces_cons {c : Char} (begins : isSpace c = false) (cs : List Char) :
    skipSpaces (c :: cs) = c :: cs := by
  simp [skipSpaces, begins]

theorem length_separated_cons_cons (t t' : List Char) (ts : List (List Char)) :
    (separated (t :: t' :: ts)).length = t.length + 1 + (separated (t' :: ts)).length := by
  simp [separated, List.intercalate_cons_cons]
  omega

section Separated

variable {α : Type} {close : Char} {one : Reader α} {part : α → List Char} {as : List α}

/-- No part is longer than the whole. -/
theorem length_le_separated {a : α} (member : a ∈ as) : (part a).length ≤ (separated (as.map part)).length := by
  induction as with
  | nil => cases member
  | cons b bs ih =>
    cases bs with
    | nil => simp [separated, List.mem_singleton.1 member]
    | cons c cs =>
      rw [List.map_cons, List.map_cons, length_separated_cons_cons, ← List.map_cons]
      rcases List.mem_cons.1 member with rfl | later
      · omega
      · have shorter := ih later
        omega

theorem count_le_separated (each : ∀ a ∈ as, part a ≠ []) : as.length ≤ (separated (as.map part)).length := by
  induction as with
  | nil => simp
  | cons a as ih =>
    have first := List.length_pos_iff.2 (each a List.mem_cons_self)
    cases as with
    | nil => simpa [separated, Nat.succ_le_iff] using first
    | cons b bs =>
      have rest := ih fun c member => each c (List.mem_cons_of_mem _ member)
      rw [List.map_cons, List.map_cons, length_separated_cons_cons, ← List.map_cons]
      simp only [List.length_cons] at rest ⊢
      omega

/-- What stands between commas is read back if each part is. -/
theorem readSeparated?_separated (closes : close = ']' ∨ close = '\x7d')
    (each : ∀ a ∈ as, ReadAs one a (part a)) (nonempty : as ≠ []) {bound : Nat} (enough : as.length ≤ bound)
    (rest : List Char) :
    readSeparated? close one bound (separated (as.map part) ++ close :: rest) = some (as, rest) := by
  have plain : isSpace close = false ∧ close ≠ ',' := by
    rcases closes with rfl | rfl <;> decide
  induction as generalizing bound with
  | nil => exact absurd rfl nonempty
  | cons a as ih =>
    obtain ⟨bound, rfl⟩ : ∃ n, bound = n + 1 := ⟨bound - 1, by simp at enough; omega⟩
    have first := each a List.mem_cons_self
    cases as with
    | nil =>
      have ended := ended_cons (.inr closes) rest
      simp [readSeparated?, separated, first _ ended, skipSpaces_cons plain.1]
    | cons b bs =>
      let others := separated ((b :: bs).map part) ++ close :: rest
      have more : readSeparated? close one bound others = some (b :: bs, rest) :=
        ih (fun c member => each c (List.mem_cons_of_mem _ member)) (List.cons_ne_nil _ _)
          (Nat.le_of_succ_le_succ enough)
      have split : separated ((a :: b :: bs).map part) ++ close :: rest = part a ++ ',' :: others := by
        simp [separated, others, List.intercalate_cons_cons]
      have comma : skipSpaces (',' :: others) = ',' :: others := skipSpaces_cons rfl _
      rw [split, readSeparated?, first _ (ended_cons (.inl rfl) others)]
      simp [comma, more, plain.2.symm]

/-- Where parts are read back by readers for more depth than they have characters, the whole is so as well. -/
theorem readSeparated?_enclosed {one : Nat → Reader α} (closes : close = ']' ∨ close = '\x7d')
    (each : ∀ a ∈ as, ∀ depth, (part a).length < depth → ReadAs (one depth) a (part a))
    (filled : ∀ a ∈ as, part a ≠ []) (nonempty : as ≠ []) {depth : Nat}
    (small : (separated (as.map part)).length < depth) (rest : List Char) :
    readSeparated? close (one depth) (depth + 1) (separated (as.map part) ++ close :: rest) =
      some (as, rest) := by
  have count := count_le_separated filled
  refine readSeparated?_separated closes (fun a member => each a member depth ?_) nonempty (by omega) rest
  have length : (part a).length ≤ (separated (as.map part)).length := length_le_separated member
  omega

end Separated

theorem separated_cons (t : List Char) (ts : List (List Char)) : ∃ more, separated (t :: ts) = t ++ more := by
  cases ts with
  | nil => exact ⟨[], by simp [separated]⟩
  | cons t' ts' => exact ⟨_, by rw [separated, List.intercalate_cons_cons, List.append_assoc]⟩

theorem quote_append (s : String) (rest : List Char) :
    quote s ++ rest = '"' :: (s.toList.flatMap escaped ++ '"' :: rest) := by
  simp [quote]

/-- A member is read back with its name if its value is. -/
theorem readMember?_memberText {m : Option String × Json} (named : m.1.isSome = true) {item : Reader Json}
    (value : ReadAs item m.2 (text m.2)) : ReadAs (readMember? item) m (memberText m) := by
  obtain ⟨name, j⟩ := m
  obtain ⟨name, rfl⟩ := Option.isSome_iff_exists.1 named
  intro rest ended
  have split : memberText (some name, j) ++ rest =
      '"' :: (name.toList.flatMap escaped ++ '"' :: ':' :: (text j ++ rest)) := by
    simp [memberText, quote_append]
  have colon : skipSpaces (':' :: (text j ++ rest)) = ':' :: (text j ++ rest) := skipSpaces_cons rfl _
  rw [split, readMember?, skipSpaces_cons rfl]
  simp [readString?_quoted, colon, value rest ended]

/-! ### Arrays and objects -/

theorem itemChars?_eq {items : List Json} (each : ∀ item ∈ items, chars? item = some (text item)) :
    itemChars? items = some (items.map text) := by
  induction items with
  | nil => simp [itemChars?]
  | cons item rest ih =>
    have others := ih fun j member => each j (List.mem_cons_of_mem _ member)
    simp [itemChars?, each item List.mem_cons_self, others]

theorem memberChars?_eq {members : List (Option String × Json)}
    (each : ∀ m ∈ members, m.1.isSome = true ∧ chars? m.2 = some (text m.2)) :
    memberChars? members = some (members.map memberText) := by
  induction members with
  | nil => simp [memberChars?]
  | cons m rest ih =>
    have others := ih fun m' member => each m' (List.mem_cons_of_mem _ member)
    obtain ⟨named, written⟩ := each m List.mem_cons_self
    obtain ⟨name, j⟩ := m
    obtain ⟨name, rfl⟩ := Option.isSome_iff_exists.1 named
    simp [memberChars?, written, others, memberText]

theorem readValue?_bracket {c : Char} (plain : isSpace c = false ∧ c ≠ ']') (depth : Nat) (cs : List Char) :
    readValue? (depth + 1) ('[' :: c :: cs) =
      (readSeparated? ']' (readValue? depth) (depth + 1) (c :: cs)).map fun read => (array read.1, read.2) := by
  rw [readValue?, skipSpaces_cons rfl]
  simp [skipSpaces_cons plain.1, plain.2]

theorem readValue?_brace {c : Char} (plain : isSpace c = false ∧ c ≠ '\x7d') (depth : Nat) (cs : List Char) :
    readValue? (depth + 1) ('\x7b' :: c :: cs) =
      (readSeparated? '\x7d' (readMember? (readValue? depth)) (depth + 1) (c :: cs)).map
        fun read => (object read.1, read.2) := by
  rw [readValue?, skipSpaces_cons rfl]
  simp [skipSpaces_cons plain.1, plain.2]

/-- What stands in brackets is read back if each part is, by readers for more depth than it has characters. -/
theorem ReadsBack.enclosed {α : Type} {opening close : Char} {one : Nat → Reader α} {part : α → List Char}
    {make : List α → Json} {as : List α} (closes : close = ']' ∨ close = '\x7d')
    (opens : isSpace opening = false ∧ opening ≠ ']')
    (empty : ∀ depth rest, readValue? (depth + 1) (opening :: close :: rest) = some (make [], rest))
    (nonempty : ∀ depth c cs, isSpace c = false ∧ c ≠ close → readValue? (depth + 1) (opening :: c :: cs) =
      (readSeparated? close (one depth) (depth + 1) (c :: cs)).map fun read => (make read.1, read.2))
    (written : chars? (make as) = some (opening :: separated (as.map part) ++ [close]))
    (begins : ∀ a ∈ as, ∃ c cs, part a = c :: cs ∧ isSpace c = false ∧ c ≠ close)
    (each : ∀ a ∈ as, ∀ depth, (part a).length < depth → ReadAs (one depth) a (part a)) :
    ReadsBack (make as) := by
  have same : text (make as) = opening :: (separated (as.map part) ++ [close]) := by
    simp [text, written]
  refine ⟨by rw [written, same]; rfl, ⟨_, _, same, opens⟩, ?_⟩
  intro depth small rest ended
  rw [same] at small ⊢
  obtain ⟨depth, rfl⟩ : ∃ d, depth = d + 1 := ⟨depth - 1, by omega⟩
  cases as with
  | nil => exact empty depth rest
  | cons a others =>
    have shorter : (separated ((a :: others).map part)).length < depth := by
      simp at small ⊢
      omega
    have filled : ∀ b ∈ a :: others, part b ≠ [] := by
      intro b member
      obtain ⟨c, cs, first, -⟩ := begins b member
      exact first ▸ List.cons_ne_nil c cs
    have read := readSeparated?_enclosed closes each filled (List.cons_ne_nil a others) shorter rest
    obtain ⟨c, cs, first, plain⟩ := begins a List.mem_cons_self
    obtain ⟨more, split⟩ := separated_cons (part a) (others.map part)
    rw [List.map_cons, split, first] at read ⊢
    simp only [List.cons_append, List.append_assoc, List.nil_append] at read ⊢
    rw [nonempty depth c _ plain, read]
    rfl

theorem ReadsBack.array {items : List Json} (each : ∀ item ∈ items, ReadsBack item) :
    ReadsBack (array items) := by
  have written : chars? (Json.array items) = some ('[' :: separated (items.map text) ++ [']']) := by
    simp [chars?, itemChars?_eq fun item member => (each item member).written]
  exact .enclosed (.inl rfl) (by decide) (fun _ _ => rfl)
    (fun depth c cs plain => readValue?_bracket plain depth cs) written
    (fun item member => (each item member).begins) fun item member => (each item member).read

theorem ReadsBack.object {members : List (Option String × Json)}
    (each : ∀ m ∈ members, m.1.isSome = true ∧ ReadsBack m.2) : ReadsBack (object members) := by
  have written : chars? (Json.object members) =
      some ('\x7b' :: separated (members.map memberText) ++ ['\x7d']) := by
    simp [chars?, memberChars?_eq fun m member => ⟨(each m member).1, (each m member).2.written⟩]
  refine .enclosed (.inr rfl) (by decide) (fun _ _ => rfl)
    (fun depth c cs plain => readValue?_brace plain depth cs) written
    (fun m _ => ⟨'"', _, quote_append _ _, by decide⟩) ?_
  intro m member depth small
  have value : (text m.2).length < depth := by
    simp [memberText] at small
    omega
  exact readMember?_memberText (each m member).1 ((each m member).2.read depth value)

/-! ### Every tree -/

theorem ReadsBack.string (s : String) : ReadsBack (string s) := by
  have same : text (Json.string s) = '"' :: (s.toList.flatMap escaped ++ ['"']) := by
    simp [text, chars?, quote]
  refine ⟨by simp [text, chars?], ⟨_, _, same, rfl, by decide⟩, ?_⟩
  intro depth small rest ended
  rw [same, readValue?, List.cons_append, skipSpaces_cons rfl]
  simp [readString?_quoted]

theorem plain_of_starts {c : Char} (starts : c = '-' ∨ c.isDigit = true) : isSpace c = false ∧ c ≠ ']' := by
  rcases starts with rfl | digit
  · decide
  · simp only [isSpace, Bool.or_eq_false_iff, beq_eq_false_iff_ne]
    refine ⟨⟨⟨⟨?_, ?_⟩, ?_⟩, ?_⟩, ?_⟩ <;> rintro rfl <;> exact Bool.noConfusion digit

theorem readValue?_number {c : Char} (starts : c = '-' ∨ c.isDigit = true) (depth : Nat) (cs : List Char) :
    readValue? depth (c :: cs) = (readNumeral? (c :: cs)).map fun read => (read.1.toJson, read.2) := by
  rw [readValue?, skipSpaces_cons (plain_of_starts starts).1]
  split
  case h_7 => rfl
  all_goals
    next same =>
      obtain ⟨rfl, -⟩ := List.cons.inj same
      rcases starts with other | other <;> exact absurd other (by decide)

theorem ReadsBack.integer {i : Int} (lower : -0x8000000000000000 ≤ i) (upper : i < UInt64.size) :
    ReadsBack (integer i) := by
  have same : text (Json.integer i) = (toString i).toList := by
    simp [text, chars?]
  have begins : ∃ c cs, (toString i).toList = c :: cs ∧ (c = '-' ∨ c.isDigit = true) := by
    rw [toList_toString]
    split
    · exact ⟨'-', _, rfl, .inl rfl⟩
    · obtain ⟨c, cs, digits⟩ := List.exists_cons_of_ne_nil (Nat.toDigits_ne_nil (n := i.natAbs) (b := 10))
      exact ⟨c, cs, digits, .inr (Text.isDigit_of_mem (digits ▸ List.mem_cons_self))⟩
  obtain ⟨c, cs, first, starts⟩ := begins
  refine ⟨by simp [text, chars?], ⟨c, cs, same.trans first, plain_of_starts starts⟩, ?_⟩
  intro depth _ rest ended
  have read := readNumeral?_toString i ended
  rw [first, List.cons_append] at read
  rw [same, first, List.cons_append, readValue?_number starts, read]
  simp [toJson_numeral lower upper]

theorem Writable.reads_back {j : Json} (writable : Writable j) : ReadsBack j := by
  induction writable with
  | null => exact ⟨rfl, ⟨_, _, rfl, rfl, by decide⟩, fun _ _ _ _ => by rw [readValue?]; rfl⟩
  | bool b => cases b <;> exact ⟨rfl, ⟨_, _, rfl, rfl, by decide⟩, fun _ _ _ _ => by rw [readValue?]; rfl⟩
  | integer lower upper => exact .integer lower upper
  | string s => exact .string s
  | array _ ih => exact .array ih
  | object _ ih => exact .object (List.forall_mem_map.2 fun m member => ⟨rfl, ih m member⟩)

/-- A tree has a text, and is what that is read as. -/
theorem parse?_text? {j : Json} (writable : Writable j) :
    ∃ text, j.text? = some text ∧ parse? text = some j := by
  have back := writable.reads_back
  refine ⟨String.ofList (text j), by rw [text?, back.written]; rfl, ?_⟩
  have read := back.read ((text j).length + 1) (Nat.lt_succ_self _) [] ended_nil
  rw [List.append_nil] at read
  simp [parse?, read, skipSpaces]

end RecordGate.Json
