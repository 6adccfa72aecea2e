import Mathlib.Data.List.DropRight
import Mathlib.Data.List.Forall2
import Mathlib.Data.List.TakeDrop
import Mathlib.Data.Nat.Digits.Defs
import RecordGate.Config

/-!
# The grammar of host entries

An entry spells a host if, without the blanks at its ends, it is a name or a name in brackets, and after it
nothing or a colon and a port text (`Host.Spells`). Reading accepts exactly these entries
(`Host.parse_eq_ok_iff`). So a configuration is accepted whose entries all spell hosts, and its hosts are those,
one for each entry.
-/

namespace RecordGate
set_option autoImplicit false

namespace Text

/-! ## Blanks at the ends -/

/-- Blanks at both ends, and no more, were taken from `cs` to leave `t`. -/
structure Trimmed (cs t : List Char) : Prop where
  within : ∃ before after, cs = before ++ (t ++ after) ∧
    (∀ c ∈ before, isBlank c = true) ∧ ∀ c ∈ after, isBlank c = true
  first : ∀ c, t.head? = some c → isBlank c = false
  last : ∀ c, t.getLast? = some c → isBlank c = false

theorem trim_eq (cs : List Char) : trim cs = (cs.dropWhile isBlank).rdropWhile isBlank := rfl

theorem trimmed_trim (cs : List Char) : Trimmed cs (trim cs) where
  within := by
    refine ⟨cs.takeWhile isBlank, (cs.dropWhile isBlank).rtakeWhile isBlank, ?_, ?_, ?_⟩
    · rw [trim_eq, List.rdropWhile_append_rtakeWhile, List.takeWhile_append_dropWhile]
    · exact fun c member => List.mem_takeWhile_imp member
    · exact fun c member => List.mem_rtakeWhile_imp member
  first := by
    intro c here
    obtain ⟨rest, cut⟩ := List.rdropWhile_prefix isBlank (cs.dropWhile isBlank)
    have front : (cs.dropWhile isBlank).head? = some c := by
      rw [← cut, List.head?_append, ← trim_eq, here]
      rfl
    have stops := List.head?_dropWhile_not isBlank cs
    rw [front] at stops
    exact stops
  last := by
    intro c here
    have nonempty : trim cs ≠ [] := by
      intro empty
      rw [empty] at here
      cases here
    have stops := List.rdropWhile_last_not isBlank (cs.dropWhile isBlank) nonempty
    obtain rfl : (trim cs).getLast nonempty = c :=
      Option.some.inj ((List.getLast?_eq_some_getLast nonempty).symm.trans here)
    exact Bool.eq_false_iff.2 stops

theorem Trimmed.trim_eq {cs t : List Char} (trimmed : Trimmed cs t) : trim cs = t := by
  obtain ⟨before, after, rfl, blankBefore, blankAfter⟩ := trimmed.within
  rw [Text.trim_eq, List.dropWhile_append_of_pos blankBefore]
  cases t with
  | nil =>
    rw [List.nil_append, List.dropWhile_eq_nil_iff.2 blankAfter]
    rfl
  | cons d rest =>
    -- Neither end of `t` is blank, so that dropping blanks stops there on either side.
    have stops : isBlank d = false := trimmed.first d rfl
    have front : (d :: rest ++ after).dropWhile isBlank = d :: rest ++ after :=
      List.dropWhile_cons_of_neg (Bool.eq_false_iff.1 stops)
    have back : (d :: rest).rdropWhile isBlank = d :: rest := by
      refine List.rdropWhile_eq_self_iff.2 fun nonempty => Bool.eq_false_iff.1 ?_
      exact trimmed.last _ (List.getLast?_eq_some_getLast nonempty)
    rw [front, List.rdropWhile, List.reverse_append]
    rw [List.dropWhile_append_of_pos (by simpa using blankAfter)]
    exact back

theorem trim_eq_iff {cs t : List Char} : trim cs = t ↔ Trimmed cs t :=
  ⟨fun same => same ▸ trimmed_trim cs, Trimmed.trim_eq⟩

/-! ## The first occurrence of a character -/

variable {c : Char} {cs : List Char}

theorem splitAt?_eq_some_iff {before after : List Char} :
    splitAt? c cs = some (before, after) ↔ cs = before ++ c :: after ∧ c ∉ before := by
  rw [splitAt?, List.span_eq_takeWhile_dropWhile]
  constructor
  · intro made
    split at made
    · cases made
    · next front d rest parts =>
      cases made
      obtain ⟨rfl, tail⟩ := Prod.mk.inj parts
      have stops := List.head?_dropWhile_not (· ≠ c) cs
      rw [tail] at stops
      obtain rfl : d = c := by simpa using stops
      refine ⟨?_, ?_⟩
      · rw [← tail, List.takeWhile_append_dropWhile]
      · intro member
        simpa using List.mem_takeWhile_imp member
  · rintro ⟨rfl, absent⟩
    have all : ∀ d ∈ before, decide (d ≠ c) = true :=
      fun d member => decide_eq_true fun same => absent (same ▸ member)
    rw [List.takeWhile_append_of_pos all, List.dropWhile_append_of_pos all]
    simp

theorem splitAt?_eq_none_iff : splitAt? c cs = none ↔ c ∉ cs := by
  constructor
  · intro none member
    obtain ⟨before, after, same, absent⟩ := List.eq_append_cons_of_mem member
    cases none.symm.trans (splitAt?_eq_some_iff.2 ⟨same, absent⟩)
  · intro absent
    cases made : splitAt? c cs with
    | none => rfl
    | some parts =>
      obtain ⟨rfl, -⟩ := splitAt?_eq_some_iff.1 made
      exact absurd (List.mem_append_right _ List.mem_cons_self) absent

end Text

/-! ## Port texts -/

/-- The number of a decimal digit. -/
def digitValue (c : Char) : Nat := c.toNat - '0'.toNat

theorem decimal_eq_ofDigits (digits : List Char) :
    decimal digits = Nat.ofDigits 10 (digits.map digitValue).reverse := by
  rw [Nat.ofDigits_eq_foldr, List.foldr_reverse, List.foldl_map, decimal]
  congr 1
  funext n c
  exact Nat.add_comm _ _

/-- Decimal digits, at least one, of a number that a port has. -/
structure SpellsNumber (digits : List Char) (port : UInt16) : Prop where
  nonempty : digits ≠ []
  all : ∀ c ∈ digits, c.isDigit = true
  value : Nat.ofDigits 10 (digits.map digitValue).reverse = port.toNat

/-- A port text: the digits of the port, perhaps with a plus in front. -/
inductive SpellsPort : List Char → UInt16 → Prop
  | bare {digits : List Char} {port : UInt16} (spells : SpellsNumber digits port) : SpellsPort digits port
  | plus {digits : List Char} {port : UInt16} (spells : SpellsNumber digits port) :
      SpellsPort ('+' :: digits) port

theorem SpellsPort.no_colon {text : List Char} {port : UInt16} (spells : SpellsPort text port) : ':' ∉ text := by
  cases spells with
  | bare number => exact fun member => Bool.false_ne_true (number.all ':' member)
  | plus number =>
    intro member
    rcases List.mem_cons.1 member with same | member
    · exact absurd same (by decide)
    · exact Bool.false_ne_true (number.all ':' member)

/-- Digits are read as the port that they spell. -/
theorem number_eq_some_iff {digits : List Char} {port : UInt16} :
    (if digits.isEmpty || !digits.all Char.isDigit then none
      else if decimal digits < UInt16.size then some (UInt16.ofNat (decimal digits)) else none) = some port ↔
      SpellsNumber digits port := by
  constructor
  · intro read
    split at read
    · cases read
    · next digital =>
      split at read
      · next small =>
        cases read
        simp only [Bool.or_eq_true, List.isEmpty_iff, Bool.not_eq_true', not_or, Bool.not_eq_false,
          List.all_eq_true] at digital
        refine ⟨digital.1, digital.2, ?_⟩
        rw [← decimal_eq_ofDigits, UInt16.toNat_ofNat_of_lt' small]
      · cases read
  · rintro ⟨nonempty, all, value⟩
    rw [← decimal_eq_ofDigits] at value
    have digital : ¬ (digits.isEmpty || !digits.all Char.isDigit) = true := by
      simpa [nonempty] using all
    rw [if_neg digital, value, if_pos port.toNat_lt, UInt16.ofNat_toNat]

theorem parsePort?_eq_some_iff {text : List Char} {port : UInt16} :
    parsePort? text = some port ↔ SpellsPort text port := by
  have signed {rest : List Char} : ¬ SpellsNumber ('+' :: rest) port :=
    fun number => Bool.false_ne_true (number.all '+' List.mem_cons_self)
  unfold parsePort?
  rw [number_eq_some_iff]
  split
  · constructor
    · exact .plus
    · intro spells
      cases spells with
      | bare number => exact absurd number signed
      | plus number => exact number
  · next unsigned =>
    constructor
    · exact .bare
    · intro spells
      cases spells with
      | bare number => exact number
      | plus number => exact absurd rfl (unsigned _)

namespace Host

/-! ## Hosts -/

/-- What follows a name: nothing, for port 3000, or a colon and a port text. -/
inductive SpellsTail : List Char → UInt16 → Prop
  | default : SpellsTail [] 3000
  | port {text : List Char} {port : UInt16} (spells : SpellsPort text port) : SpellsTail (':' :: text) port

/-- The entries of a host, without blanks at their ends. A name without brackets has no colon and does not start
with a bracket; a name in brackets ends at the first that closes. -/
inductive Spells : List Char → Host → Prop
  | bare {name tail : List Char} {port : UInt16} (nonempty : name ≠ []) (unopened : name.head? ≠ some '[')
      (plain : ':' ∉ name) (spells : SpellsTail tail port) :
      Spells (name ++ tail) ⟨String.ofList name, port⟩
  | bracketed {name tail : List Char} {port : UInt16} (nonempty : name ≠ []) (unclosed : ']' ∉ name)
      (spells : SpellsTail tail port) :
      Spells ('[' :: (name ++ ']' :: tail)) ⟨String.ofList name, port⟩

theorem ofParts_eq_ok_iff {entry name : List Char} {port? : Option UInt16} {host : Host} :
    ofParts entry name port? = .ok host ↔
      name ≠ [] ∧ ∃ port, port? = some port ∧ host = ⟨String.ofList name, port⟩ := by
  cases port? with
  | none => simp [ofParts]
  | some port =>
    rw [ofParts]
    split
    · next empty => simp [List.isEmpty_iff.1 empty]
    · next nonempty =>
      simp only [Except.ok.injEq, Option.some.injEq, exists_eq_left']
      exact ⟨fun same => ⟨mt List.isEmpty_iff.2 nonempty, same.symm⟩, fun spelled => spelled.2.symm⟩

theorem spells_of_parseTrimmed {entry : List Char} {host : Host} (read : parseTrimmed entry = .ok host) :
    Spells entry host := by
  unfold parseTrimmed at read
  split at read
  · next rest =>
    split at read
    · cases read
    · next name split =>
      obtain ⟨rfl, closed⟩ := Text.splitAt?_eq_some_iff.1 split
      obtain ⟨nonempty, port, same, rfl⟩ := ofParts_eq_ok_iff.1 read
      cases same
      exact .bracketed nonempty closed .default
    · next name text split =>
      obtain ⟨rfl, closed⟩ := Text.splitAt?_eq_some_iff.1 split
      obtain ⟨nonempty, port, same, rfl⟩ := ofParts_eq_ok_iff.1 read
      exact .bracketed nonempty closed (.port (parsePort?_eq_some_iff.1 same))
    · obtain ⟨-, port, none, -⟩ := ofParts_eq_ok_iff.1 read
      cases none
  · next unbracketed =>
    -- Without a bracket the first colon ends the name, and a second one is refused.
    have unopened : entry.head? ≠ some '[' := by
      intro opened
      obtain ⟨rest, same⟩ := List.head?_eq_some_iff.1 opened
      exact unbracketed rest same
    split at read
    · next split =>
      obtain ⟨nonempty, port, same, rfl⟩ := ofParts_eq_ok_iff.1 read
      cases same
      have spells := Spells.bare nonempty unopened (Text.splitAt?_eq_none_iff.1 split) .default
      rwa [List.append_nil] at spells
    · next name text split =>
      obtain ⟨rfl, plain⟩ := Text.splitAt?_eq_some_iff.1 split
      split at read
      · cases read
      · obtain ⟨nonempty, port, same, rfl⟩ := ofParts_eq_ok_iff.1 read
        rw [List.head?_append_of_ne_nil _ nonempty] at unopened
        exact .bare nonempty unopened plain (.port (parsePort?_eq_some_iff.1 same))

theorem parseTrimmed_of_unopened {entry : List Char} (unopened : entry.head? ≠ some '[') :
    parseTrimmed entry =
      match Text.splitAt? ':' entry with
      | none => ofParts entry entry (some defaultPort)
      | some (name, port) =>
        if port.contains ':' then .error (.bareAddress (String.ofList entry))
        else ofParts entry name (parsePort? port) := by
  unfold parseTrimmed
  split
  · exact absurd rfl unopened
  · rfl

theorem parseTrimmed_of_spells {entry : List Char} {host : Host} (spells : Spells entry host) :
    parseTrimmed entry = .ok host := by
  cases spells with
  | @bracketed name tail port nonempty unclosed spells =>
    have split : Text.splitAt? ']' (name ++ ']' :: tail) = some (name, tail) :=
      Text.splitAt?_eq_some_iff.2 ⟨rfl, unclosed⟩
    rw [parseTrimmed, split]
    cases spells with
    | default => exact ofParts_eq_ok_iff.2 ⟨nonempty, _, rfl, rfl⟩
    | port spells => exact ofParts_eq_ok_iff.2 ⟨nonempty, _, parsePort?_eq_some_iff.2 spells, rfl⟩
  | @bare name tail port nonempty unopened plain spells =>
    rw [parseTrimmed_of_unopened (List.head?_append_of_ne_nil _ nonempty ▸ unopened)]
    cases spells with
    | default =>
      rw [List.append_nil, Text.splitAt?_eq_none_iff.2 plain]
      exact ofParts_eq_ok_iff.2 ⟨nonempty, _, rfl, rfl⟩
    | @port text _ spells =>
      have split : Text.splitAt? ':' (name ++ ':' :: text) = some (name, text) :=
        Text.splitAt?_eq_some_iff.2 ⟨rfl, plain⟩
      have single : ¬ text.contains ':' = true := by
        rw [List.contains_iff_mem]
        exact spells.no_colon
      rw [split]
      dsimp only
      rw [if_neg single]
      exact ofParts_eq_ok_iff.2 ⟨nonempty, _, parsePort?_eq_some_iff.2 spells, rfl⟩

theorem parseTrimmed_eq_ok_iff {entry : List Char} {host : Host} :
    parseTrimmed entry = .ok host ↔ Spells entry host :=
  ⟨spells_of_parseTrimmed, parseTrimmed_of_spells⟩

/-- An entry of a host. -/
def Written (entry : String) (host : Host) : Prop :=
  ∃ text, Text.Trimmed entry.toList text ∧ Spells text host

theorem parse_eq_ok_iff {entry : String} {host : Host} : parse entry = .ok host ↔ Written entry host := by
  simp only [parse, Written, parseTrimmed_eq_ok_iff, ← Text.trim_eq_iff, exists_eq_left']

theorem parse_eq_error_iff {entry : String} :
    (∃ problem, parse entry = .error problem) ↔ ¬ ∃ host, Written entry host := by
  simp only [← parse_eq_ok_iff]
  cases parse entry with
  | error problem => simp
  | ok host => simp

end Host

/-! ## Configurations -/

namespace Config

/-- The hosts of entries are one for each of them, in order. -/
theorem seedHosts_eq_ok_iff {c : Config} {hosts : List Host} :
    c.seedHosts = .ok hosts ↔ List.Forall₂ Host.Written c.hosts hosts := by
  rw [seedHosts]
  induction c.hosts generalizing hosts with
  | nil =>
    rw [List.mapM_nil, List.forall₂_nil_left_iff]
    exact ⟨fun same => (Except.ok.inj same).symm, fun same => congrArg _ same.symm⟩
  | cons entry rest ih =>
    rw [List.mapM_cons, List.forall₂_cons_left_iff]
    constructor
    · intro read
      cases first : Host.parse entry with
      | error problem =>
        rw [first] at read
        cases read
      | ok host =>
        cases others : rest.mapM Host.parse with
        | error problem =>
          rw [first, others] at read
          cases read
        | ok hosts' =>
          rw [first, others] at read
          cases read
          exact ⟨host, hosts', Host.parse_eq_ok_iff.1 first, ih.1 others, rfl⟩
    · rintro ⟨host, hosts', first, others, rfl⟩
      rw [Host.parse_eq_ok_iff.2 first, ih.2 others]
      rfl

/-- There are hosts of entries that each spell one. -/
theorem exists_seedHosts_iff {c : Config} :
    (∃ hosts, c.seedHosts = .ok hosts) ↔ ∀ entry ∈ c.hosts, ∃ host, Host.Written entry host := by
  simp only [seedHosts_eq_ok_iff]
  induction c.hosts with
  | nil => exact iff_of_true ⟨[], .nil⟩ (List.forall_mem_nil _)
  | cons entry rest ih =>
    rw [List.forall_mem_cons, ← ih]
    constructor
    · rintro ⟨_, each⟩
      obtain ⟨host, hosts, first, others, -⟩ := List.forall₂_cons_left_iff.1 each
      exact ⟨⟨host, first⟩, hosts, others⟩
    · rintro ⟨⟨host, first⟩, hosts, others⟩
      exact ⟨host :: hosts, .cons first others⟩

theorem parse_eq_ok_iff {text : String} {c : Config} :
    parse text = .ok c ↔ (Toml.parse? text).bind ofEntries? = some c ∧
      ∀ entry ∈ c.hosts, ∃ host, Host.Written entry host := by
  rw [← exists_seedHosts_iff, parse]
  cases (Toml.parse? text).bind ofEntries? with
  | none =>
    constructor
    · intro accepted
      cases accepted
    · rintro ⟨none, -⟩
      cases none
  | some found =>
    dsimp only
    rw [Option.some.injEq]
    cases seeds : found.seedHosts with
    | error problem =>
      constructor
      · intro accepted
        cases accepted
      · rintro ⟨rfl, hosts, same⟩
        cases seeds.symm.trans same
    | ok hosts =>
      constructor
      · intro same
        cases same
        exact ⟨rfl, hosts, seeds⟩
      · rintro ⟨rfl, -⟩
        rfl

end Config

/-- **Host entries are read by their grammar**, and so are the hosts of a configuration. -/
theorem host_entries_spelled :
    (∀ entry host, Host.parse entry = .ok host ↔ Host.Written entry host) ∧
      (∀ entry, (∃ problem, Host.parse entry = .error problem) ↔ ¬ ∃ host, Host.Written entry host) ∧
      (∀ (c : Config) (hosts : List Host),
        c.seedHosts = .ok hosts ↔ List.Forall₂ Host.Written c.hosts hosts) ∧
      ∀ text c, Config.parse text = .ok c ↔ (Toml.parse? text).bind Config.ofEntries? = some c ∧
        ∀ entry ∈ c.hosts, ∃ host, Host.Written entry host :=
  ⟨fun _ _ => Host.parse_eq_ok_iff, fun _ => Host.parse_eq_error_iff, fun _ _ => Config.seedHosts_eq_ok_iff,
    fun _ _ => Config.parse_eq_ok_iff⟩

example : Host.parse "  [fe80::2]:+04000\n" = .ok ⟨"fe80::2", 4000⟩ := by decide +kernel

end RecordGate
