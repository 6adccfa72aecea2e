import RecordGate.Key
import RecordGate.Proofs.Text.Octets

/-!
# What is hashed for a key

A digest is the hash of a set name, a tag and the octets of a user key, with nothing between them. The tags
are characters of their own, so a set name can run on over the tag of a key into its octets, as far as
another tag that stands there (`RunsOn`). Two pairs of a set name and a user key are hashed alike only if
they are the same, or one runs on as the other (`preimage_eq_iff`). Set names without the three tag
characters do not run on.
-/

namespace RecordGate
set_option autoImplicit false

namespace UserKey

/-! ## Tags and octets -/

theorem bigEndian_injective {i j : Int64} (same : bigEndian i = bigEndian j) : i = j := by
  have word : i.toUInt64 = j.toUInt64 := by
    simp only [bigEndian, List.cons.injEq, and_true, ← UInt8.toNat_inj, UInt64.toNat_toUInt8,
      UInt64.toNat_shiftRight, UInt64.reduceToNat, Nat.shiftRight_eq_div_pow, Nat.reduceMod,
      Nat.reducePow] at same
    have bound := i.toUInt64.toNat_lt
    have bound' := j.toUInt64.toNat_lt
    rw [← UInt64.toNat_inj]
    omega
  exact congrArg Int64.ofUInt64 word

/-- A tag and octets are those of one user key only. -/
theorem eq_of_payload {k l : UserKey} (tags : k.tag = l.tag) (octets : k.payload = l.payload) : k = l := by
  cases k <;> cases l <;> cases tags
  · exact congrArg int (bigEndian_injective octets)
  · exact congrArg text (utf8_injective octets)
  · exact congrArg bytes octets

/-- The character that a tag is, read as text. -/
def tagChar : UserKey → Char
  | int _ => '\x01'
  | text _ => '\x03'
  | bytes _ => '\x04'

theorem utf8_tagChar (k : UserKey) : (String.singleton k.tagChar).toUTF8.toList = [k.tag] := by
  rw [toList_byteArray]
  cases k <;> rfl

/-! ## Set names that run on -/

/-- A set name runs on over the tag of a key, and the key's octets contain the rest of the longer name, the
tag of another key, and that key's octets. -/
def RunsOn (setName : String) (k : UserKey) (longer : String) (l : UserKey) : Prop :=
  ∃ rest : String, longer = setName ++ String.singleton k.tagChar ++ rest ∧
    k.payload = rest.toUTF8.toList ++ l.tag :: l.payload

theorem preimage_of_runsOn {s t : String} {k l : UserKey} (runs : RunsOn s k t l) :
    k.preimage s = l.preimage t := by
  obtain ⟨rest, rfl, octets⟩ := runs
  simp only [preimage, octets, utf8_append, utf8_tagChar, List.append_assoc, List.cons_append,
    List.nil_append]

/-- A name that goes on in front of a key either is the whole set name, or runs on over its tag. -/
theorem runsOn_of_append {s t : String} {k l : UserKey} {between : List UInt8}
    (longer : t.toUTF8.toList = s.toUTF8.toList ++ between)
    (octets : k.tag :: k.payload = between ++ l.tag :: l.payload) : s = t ∧ k = l ∨ RunsOn s k t l := by
  cases between with
  | nil =>
    rw [List.append_nil] at longer
    obtain ⟨tags, payloads⟩ := List.cons.inj octets
    exact .inl ⟨utf8_injective longer.symm, eq_of_payload tags payloads⟩
  | cons octet between =>
    obtain ⟨rfl, payload⟩ := List.cons.inj octets
    obtain ⟨more, rfl, tail⟩ := utf8_continued longer
    rw [← List.singleton_append, ← utf8_tagChar] at tail
    obtain ⟨rest, rfl, rfl⟩ := utf8_continued tail
    exact .inr ⟨rest, (String.append_assoc ..).symm, payload⟩

/-- **What is hashed is ambiguous only where a set name runs on.** -/
theorem preimage_eq_iff {s t : String} {k l : UserKey} :
    k.preimage s = l.preimage t ↔ s = t ∧ k = l ∨ RunsOn s k t l ∨ RunsOn t l s k := by
  constructor
  · intro same
    rcases List.append_eq_append_iff.1 same with ⟨between, longer, octets⟩ | ⟨between, longer, octets⟩
    · rcases runsOn_of_append longer octets with same | runs
      · exact .inl same
      · exact .inr (.inl runs)
    · rcases runsOn_of_append longer octets with ⟨rfl, rfl⟩ | runs
      · exact .inl ⟨rfl, rfl⟩
      · exact .inr (.inr runs)
  · rintro (⟨rfl, rfl⟩ | runs | runs)
    · rfl
    · exact preimage_of_runsOn runs
    · exact (preimage_of_runsOn runs).symm

/-- The empty set name runs on over the tag of a text, as a set name of that tag alone. -/
theorem preimage_ambiguous :
    (text "\x03b").preimage "" = (text "b").preimage "\x03" ∧
      (Key.ofUserKey "test" "" (text "\x03b")).id = (Key.ofUserKey "test" "\x03" (text "b")).id ∧
      ("", text "\x03b") ≠ ("\x03", text "b") := by
  have hashed : (text "\x03b").preimage "" = (text "b").preimage "\x03" :=
    preimage_of_runsOn ⟨"", by decide, by decide +kernel⟩
  refine ⟨hashed, ?_, by decide⟩
  rw [Key.ofUserKey, Key.ofUserKey, Digest.ofUserKey, Digest.ofUserKey, hashed]
  rfl

/-- A set name without the characters that tags read as. -/
def Untagged (setName : String) : Prop := ∀ c ∈ ['\x01', '\x03', '\x04'], c ∉ setName.toList

instance (setName : String) : Decidable (Untagged setName) := List.decidableBAll _ _

theorem not_runsOn {s t : String} {k l : UserKey} (untagged : Untagged t) : ¬ RunsOn s k t l := by
  rintro ⟨rest, rfl, -⟩
  refine untagged k.tagChar ?_ ?_
  · cases k <;> simp [tagChar]
  · simp

/-! ## Addresses -/

theorem ofValue_eq_iff {v w : Value} {k l : UserKey} (accepted : ofValue v = .ok k)
    (accepted' : ofValue w = .ok l) : k = l ↔ v = w := by
  constructor
  · rintro rfl
    cases v <;> cases accepted <;> cases w <;> cases accepted' <;> rfl
  · rintro rfl
    cases accepted.symm.trans accepted'
    rfl

theorem id_ofValue {ns s : String} {v : Value} {k : UserKey} (accepted : ofValue v = .ok k) :
    (Key.ofValue ns s v).map Key.id = .ok ⟨ns, Digest.ofMessage (k.preimage s)⟩ := by
  rw [Key.ofValue, accepted]
  rfl

/-- **Addresses.** What is hashed for two user keys in sets is the same only if the sets and the keys are, or
one set name runs on as the other. No name without the tag characters runs on. Where the hash tells apart what
is hashed, two keys address one record just when their namespaces agree and the same is hashed for them. -/
theorem address_eq_iff {v w : Value} {k l : UserKey} (accepted : ofValue v = .ok k)
    (accepted' : ofValue w = .ok l) (s t : String) :
    (k.preimage s = l.preimage t ↔ s = t ∧ v = w ∨ RunsOn s k t l ∨ RunsOn t l s k) ∧
    (Untagged s → Untagged t → (k.preimage s = l.preimage t ↔ s = t ∧ v = w)) ∧
    ((Ripemd160.hash (k.preimage s) = Ripemd160.hash (l.preimage t) → k.preimage s = l.preimage t) →
      ∀ ns ns', (Key.ofValue ns s v).map Key.id = (Key.ofValue ns' t w).map Key.id ↔
        ns = ns' ∧ k.preimage s = l.preimage t) := by
  refine ⟨?_, ?_, ?_⟩
  · rw [preimage_eq_iff, ofValue_eq_iff accepted accepted']
  · intro untagged untagged'
    simp only [preimage_eq_iff, ofValue_eq_iff accepted accepted', not_runsOn untagged, not_runsOn untagged',
      or_false]
  · intro apart ns ns'
    rw [id_ofValue accepted, id_ofValue accepted', Except.ok.injEq, RecordId.mk.injEq, Digest.ofMessage,
      Digest.ofMessage, Digest.mk.injEq]
    exact and_congr_right fun _ => ⟨apart, congrArg Ripemd160.hash⟩

/-- A number and its numeral in one set are two records. -/
theorem address_eq_iff_numeral :
    ofValue (.int 1) = .ok (int 1) ∧ ofValue (.string "1") = .ok (text "1") ∧ Untagged "users" ∧
      (Key.ofValue "test" "users" (.int 1)).map Key.id ≠
        (Key.ofValue "test" "users" (.string "1")).map Key.id := by
  have untagged : Untagged "users" := by decide
  have apart : Ripemd160.hash ((int 1).preimage "users") = Ripemd160.hash ((text "1").preimage "users") →
      (int 1).preimage "users" = (text "1").preimage "users" := by decide +kernel
  refine ⟨rfl, rfl, untagged, ?_⟩
  intro same
  obtain ⟨-, hashed, address⟩ := address_eq_iff (v := .int 1) (w := .string "1") rfl rfl "users" "users"
  obtain ⟨-, values⟩ := (hashed untagged untagged).1 ((address apart "test" "test").1 same).2
  cases values

end UserKey

end RecordGate
