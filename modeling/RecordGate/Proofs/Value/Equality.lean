import Mathlib.Data.List.Nodup
import Mathlib.Data.List.Perm.Subperm
import RecordGate.Value.Equality

/-!
# Equality of values is a partial equivalence

Equal values are of one shape and differ in zeros only (`Equal`): maps have the same names, with equal values
under each, and floats have bits that stand for one number (`Binary64.SameNumber`). So equality is symmetric and
transitive, and a value equals itself unless there is a float inside it that is not a number. The order in which
the entries of a map are gone through has no part in it, though only those of the first map are, and a map
inside may be met in another order each time (`equals_partial_equivalence`).
-/

namespace RecordGate
set_option autoImplicit false

/-! ## Numbers -/

namespace Binary64

theorem eq_comm (x y : Binary64) : x.eq y = y.eq x := by
  rw [Bool.eq_iff_iff, eq_iff, eq_iff, @Eq.comm _ x y, and_comm (a := x.isZero = true)]
  exact and_left_comm

theorem eq_trans {x y z : Binary64} (first : x.eq y = true) (second : y.eq z = true) : x.eq z = true := by
  rw [eq_iff] at first second ⊢
  obtain ⟨left, -, rfl | ⟨zero, middle⟩⟩ := first
  · exact second
  · obtain ⟨-, right, rfl | ⟨-, zero'⟩⟩ := second
    · exact ⟨left, right, .inr ⟨zero, middle⟩⟩
    · exact ⟨left, right, .inr ⟨zero, zero'⟩⟩

theorem eq_self_iff (x : Binary64) : x.eq x = true ↔ x.isNaN = false := by
  rw [eq_iff]
  exact ⟨fun same => same.1, fun number => ⟨number, number, .inl rfl⟩⟩

/-- The exponent field: the eleven bits behind the sign. -/
def exponent (x : Binary64) : Nat := x.bits.toNat / 0x10000000000000 % 0x800

/-- The fraction field: the fifty-two lowest bits. -/
def fraction (x : Binary64) : Nat := x.bits.toNat % 0x10000000000000

/-- The bits stand for a number: the exponent is not all ones, or else the number is infinite. -/
def IsNumber (x : Binary64) : Prop := x.exponent = 0x7ff → x.fraction = 0

theorem toNat_magnitude (x : Binary64) : x.magnitude.toNat = x.bits.toNat % 0x8000000000000000 := by
  rw [magnitude, UInt64.toNat_and]
  exact Nat.and_two_pow_sub_one_eq_mod _ 63

theorem isNaN_eq_false_iff {x : Binary64} : x.isNaN = false ↔ x.IsNumber := by
  have above : x.isNaN = true ↔ 0x7ff0000000000000 < x.bits.toNat % 0x8000000000000000 := by
    rw [isNaN, decide_eq_true_iff, UInt64.lt_iff_toNat_lt, toNat_magnitude]
    rfl
  rw [← Bool.not_eq_true, above, IsNumber, exponent, fraction]
  omega

theorem isZero_iff {x : Binary64} : x.isZero = true ↔ x.exponent = 0 ∧ x.fraction = 0 := by
  rw [isZero, beq_iff_eq, ← UInt64.toNat_inj, toNat_magnitude, exponent, fraction]
  change x.bits.toNat % 0x8000000000000000 = 0 ↔ _
  omega

/-- The bits stand for one number: they are the same, or each is one of the two zeros. -/
def SameNumber (x y : Binary64) : Prop :=
  x.IsNumber ∧ y.IsNumber ∧ (x = y ∨ (x.exponent = 0 ∧ x.fraction = 0) ∧ y.exponent = 0 ∧ y.fraction = 0)

theorem eq_iff_sameNumber {x y : Binary64} : x.eq y = true ↔ x.SameNumber y := by
  rw [eq_iff, isNaN_eq_false_iff, isNaN_eq_false_iff, isZero_iff, isZero_iff, SameNumber]

end Binary64

/-! ## Names -/

namespace NameSet

theorem nodup (s : NameSet) : s.names.Nodup := by
  refine List.Pairwise.imp ?_ s.ascending
  rintro a _ before rfl
  exact KeyOrder.irrefl a before

theorem name_mem (s : NameSet) (i : Fin s.size) : s.name i ∈ s.names := List.get_mem _ i

theorem name_injective (s : NameSet) {i j : Fin s.size} (same : s.name i = s.name j) : i = j :=
  List.nodup_iff_injective_get.1 s.nodup same

theorem position?_eq_some_iff {s : NameSet} {name : String} {i : Fin s.size} :
    s.position? name = some i ↔ s.name i = name := by
  refine List.finIdxOf?_eq_some_iff.trans ⟨fun found => found.1, fun found => ⟨found, ?_⟩⟩
  intro j before again
  exact absurd (s.name_injective (again.trans found.symm)) (Fin.ne_of_lt before)

theorem position?_name (s : NameSet) (i : Fin s.size) : s.position? (s.name i) = some i :=
  position?_eq_some_iff.2 rfl

/-- Names that are all among equally many others are those. -/
theorem eq_of_found {as bs : NameSet} (size : as.size = bs.size)
    (found : ∀ i, (bs.position? (as.name i)).isSome = true) : as = bs := by
  have subset : as.names ⊆ bs.names := by
    intro name member
    obtain ⟨i, rfl⟩ := List.get_of_mem member
    obtain ⟨j, here⟩ := Option.isSome_iff_exists.1 (found i)
    have same : bs.name j = as.names.get i := position?_eq_some_iff.1 here
    rw [← same]
    exact bs.name_mem j
  have perm : as.names.Perm bs.names :=
    (List.subperm_of_subset as.nodup subset).perm_of_length_le (Nat.le_of_eq size.symm)
  have names : as.names = bs.names := by
    refine perm.eq_of_pairwise ?_ as.ascending bs.ascending
    intro a b _ _ before after
    exact absurd (KeyOrder.trans before after) (KeyOrder.irrefl a)
  cases as
  cases bs
  cases names
  rfl

end NameSet

namespace Value

/-! ## What equality is -/

/-- Values of one shape whose floats are equal as numbers. -/
inductive Equal : Value → Value → Prop
  | null : Equal .null .null
  | bool (b : Bool) : Equal (.bool b) (.bool b)
  | int (i : Int64) : Equal (.int i) (.int i)
  | float {x y : Binary64} (same : x.eq y = true) : Equal (.float x) (.float y)
  | string (s : String) : Equal (.string s) (.string s)
  | bytes (b : List UInt8) : Equal (.bytes b) (.bytes b)
  | list {as bs : List Value} (length : as.length = bs.length)
      (items : ∀ (i : Nat) (a b : Value), as[i]? = some a → bs[i]? = some b → Equal a b) :
      Equal (.list as) (.list bs)
  | map {names : NameSet} {f g : Fin names.size → Value} (values : ∀ i, Equal (f i) (g i)) :
      Equal (.map names f) (.map names g)

theorem equalsAll_iff {as bs : List Value} :
    equalsAll as bs = true ↔ as.length = bs.length ∧
      ∀ (i : Nat) (a b : Value), as[i]? = some a → bs[i]? = some b → a.equals b = true := by
  induction as generalizing bs with
  | nil => cases bs <;> simp [equalsAll]
  | cons a as ih =>
    cases bs with
    | nil => simp [equalsAll]
    | cons b bs =>
      rw [equalsAll, Bool.and_eq_true, ih]
      constructor
      · rintro ⟨first, length, rest⟩
        refine ⟨congrArg (· + 1) length, fun i x y here there => ?_⟩
        cases i with
        | zero =>
          cases here
          cases there
          exact first
        | succ i => exact rest i x y here there
      · rintro ⟨length, items⟩
        exact ⟨items 0 a b rfl rfl, Nat.succ.inj length, fun i => items (i + 1)⟩

/-- Whether the entry of a map at a position has an equal one in another. -/
def matchesEntry (as : NameSet) (f : Fin as.size → Value) (bs : NameSet) (g : Fin bs.size → Value)
    (i : Fin as.size) : Bool :=
  (bs.position? (as.name i)).any fun j => (f i).equals (g j)

theorem equals_map (as : NameSet) (f : Fin as.size → Value) (bs : NameSet) (g : Fin bs.size → Value) :
    (map as f).equals (map bs g) =
      (as.size == bs.size && (List.finRange as.size).all (matchesEntry as f bs g)) := by
  rw [equals]
  congr 2
  funext i
  rw [matchesEntry]
  cases bs.position? (as.name i) <;> rfl

theorem equals_map_self_names {names : NameSet} {f g : Fin names.size → Value} :
    (map names f).equals (map names g) = true ↔ ∀ i, (f i).equals (g i) = true := by
  simp [equals_map, matchesEntry, NameSet.position?_name]

/-- Equal maps have the same names. -/
theorem names_of_equals {as bs : NameSet} {f : Fin as.size → Value} {g : Fin bs.size → Value}
    (same : (map as f).equals (map bs g) = true) : as = bs := by
  rw [equals_map, Bool.and_eq_true, beq_iff_eq, List.all_eq_true] at same
  refine NameSet.eq_of_found same.1 fun i => ?_
  obtain ⟨j, found, -⟩ := (Option.any_eq_true _ _).1 (same.2 i (List.mem_finRange i))
  rw [found]
  rfl

theorem equal_of_equals {a b : Value} (same : a.equals b = true) : Equal a b := by
  induction a generalizing b with
  | null =>
    cases b with
    | null => exact .null
    | _ => cases same
  | bool x =>
    cases b with
    | bool y => exact eq_of_beq (same : (x == y) = true) ▸ .bool x
    | _ => cases same
  | int i =>
    cases b with
    | int j => exact eq_of_beq (same : (i == j) = true) ▸ .int i
    | _ => cases same
  | float x =>
    cases b with
    | float y => exact .float same
    | _ => cases same
  | string s =>
    cases b with
    | string t => exact eq_of_beq (same : (s == t) = true) ▸ .string s
    | _ => cases same
  | bytes s =>
    cases b with
    | bytes t => exact eq_of_beq (same : (s == t) = true) ▸ .bytes s
    | _ => cases same
  | list as ih =>
    cases b with
    | list bs =>
      rw [equals, equalsAll_iff] at same
      exact .list same.1 fun i a b here there => ih a (List.mem_of_getElem? here) (same.2 i a b here there)
    | _ => cases same
  | map as f ih =>
    cases b with
    | map bs g =>
      obtain rfl := names_of_equals same
      exact .map fun i => ih i (equals_map_self_names.1 same i)
    | _ => cases same

/-- **Equality decides whether values are equal.** -/
theorem equals_iff {a b : Value} : a.equals b = true ↔ Equal a b := by
  refine ⟨equal_of_equals, fun equal => ?_⟩
  induction equal with
  | null => rfl
  | bool b => exact beq_self_eq_true b
  | int i => exact beq_self_eq_true i
  | float same => exact same
  | string s => exact beq_self_eq_true s
  | bytes b => exact beq_self_eq_true b
  | list length items ih =>
    rw [equals, equalsAll_iff]
    exact ⟨length, ih⟩
  | map values ih => exact equals_map_self_names.2 ih

/-! ## A partial equivalence -/

theorem Equal.symm {a b : Value} (equal : Equal a b) : Equal b a := by
  induction equal with
  | null => exact .null
  | bool b => exact .bool b
  | int i => exact .int i
  | float same => exact .float (Binary64.eq_comm .. ▸ same)
  | string s => exact .string s
  | bytes b => exact .bytes b
  | list length items ih => exact .list length.symm fun i b a there here => ih i a b here there
  | map values ih => exact .map ih

theorem Equal.trans {a b c : Value} (first : Equal a b) (second : Equal b c) : Equal a c := by
  induction first generalizing c with
  | null | bool _ | int _ | string _ | bytes _ => exact second
  | float same =>
    cases second with
    | float same' => exact .float (Binary64.eq_trans same same')
  | list length items ih =>
    cases second with
    | list length' items' =>
      refine .list (length.trans length') fun i a c here there => ?_
      have between := List.getElem?_eq_getElem (length ▸ (List.getElem?_eq_some_iff.1 here).1)
      exact ih i a _ here between (items' i _ c between there)
  | map values ih =>
    cases second with
    | map values' => exact .map fun i => ih i (values' i)

theorem equals_comm (a b : Value) : a.equals b = b.equals a := by
  rw [Bool.eq_iff_iff, equals_iff, equals_iff]
  exact ⟨.symm, .symm⟩

/-- A value occurs in another: it is that, or occurs in an item or under a name, at any depth. -/
inductive Within (v : Value) : Value → Prop
  | self : Within v v
  | item {items : List Value} {a : Value} (member : a ∈ items) (within : Within v a) : Within v (.list items)
  | entry {names : NameSet} {value : Fin names.size → Value} (i : Fin names.size)
      (within : Within v (value i)) : Within v (.map names value)

/-- What equals itself consists of such values. -/
theorem Within.equal_self {v a : Value} (within : Within v a) (self : Equal a a) : Equal v v := by
  induction within with
  | self => exact self
  | item member within ih =>
    obtain ⟨i, here⟩ := List.getElem?_of_mem member
    cases self with
    | list length items => exact ih (items i _ _ here here)
  | entry i within ih =>
    cases self with
    | map values => exact ih (values i)

theorem equal_self_of_numbers {a : Value} (numbers : ∀ x, Within (.float x) a → x.isNaN = false) :
    Equal a a := by
  induction a with
  | null => exact .null
  | bool b => exact .bool b
  | int i => exact .int i
  | float x => exact .float ((Binary64.eq_self_iff x).2 (numbers x .self))
  | string s => exact .string s
  | bytes b => exact .bytes b
  | list items ih =>
    refine .list rfl fun i a b here there => ?_
    cases here.symm.trans there
    have member := List.mem_of_getElem? here
    exact ih a member fun x within => numbers x (.item member within)
  | map names value ih => exact .map fun i => ih i fun x within => numbers x (.entry i within)

/-! ## Orders of entries -/

/-- Two lists, or two maps. -/
def bothNest : Value → Value → Bool
  | list _, list _ | map .., map .. => true
  | _, _ => false

/-- What a comparison may come to that goes through the entries of each map in some order. The value that is
found in the other map is then the first of the two. -/
inductive Compares : Value → Value → Bool → Prop
  | flat {a b : Value} (flat : bothNest a b = false) : Compares a b (a.equals b)
  | list {as bs : List Value} {verdict : Nat → Bool}
      (items : ∀ (i : Nat) (a b : Value), as[i]? = some a → bs[i]? = some b → Compares a b (verdict i)) :
      Compares (.list as) (.list bs) (as.length == bs.length && (List.range as.length).all verdict)
  | map {as bs : NameSet} {f : Fin as.size → Value} {g : Fin bs.size → Value} {verdict : Fin as.size → Bool}
      {order : List (Fin as.size)} (perm : order.Perm (List.finRange as.size))
      (found : ∀ i j, bs.position? (as.name i) = some j → Compares (g j) (f i) (verdict i))
      (missing : ∀ i, bs.position? (as.name i) = none → verdict i = false) :
      Compares (.map as f) (.map bs g) (as.size == bs.size && order.all verdict)

/-- The verdicts on the items of two lists, together. -/
theorem equals_list {as bs : List Value} {verdict : Nat → Bool}
    (items : ∀ (i : Nat) (a b : Value), as[i]? = some a → bs[i]? = some b → verdict i = a.equals b) :
    (as.length == bs.length && (List.range as.length).all verdict) = (list as).equals (list bs) := by
  rw [Bool.eq_iff_iff, equals, equalsAll_iff, Bool.and_eq_true, beq_iff_eq, List.all_eq_true]
  refine and_congr_right fun length => ⟨fun all i a b here there => ?_, fun all i member => ?_⟩
  · rw [← items i a b here there]
    exact all i (List.mem_range.2 (List.getElem?_eq_some_iff.1 here).1)
  · have bound := List.mem_range.1 member
    have here := List.getElem?_eq_getElem bound
    have there := List.getElem?_eq_getElem (length ▸ bound)
    rw [items i _ _ here there]
    exact all i _ _ here there

/-- Whatever the orders, a comparison comes to the same. -/
theorem Compares.eq_equals {a b : Value} {answer : Bool} (compares : Compares a b answer) :
    answer = a.equals b := by
  induction compares with
  | flat => rfl
  | list items ih => exact equals_list ih
  | @map as bs f g verdict order perm found missing ih =>
    have same : verdict = matchesEntry as f bs g := by
      funext i
      rw [matchesEntry]
      cases here : bs.position? (as.name i) with
      | none => exact missing i here
      | some j => exact (ih i j here).trans (equals_comm ..)
    rw [equals_map, same, perm.all_eq]

theorem compares_list {as bs : List Value}
    (items : ∀ a ∈ as, ∀ b ∈ bs, Compares a b (a.equals b)) :
    Compares (.list as) (.list bs) ((list as).equals (list bs)) := by
  let verdict (i : Nat) : Bool := (as[i]?.getD .null).equals (bs[i]?.getD .null)
  have each : ∀ (i : Nat) (a b : Value), as[i]? = some a → bs[i]? = some b → verdict i = a.equals b := by
    intro i a b here there
    simp only [verdict, here, there, Option.getD_some]
  rw [← equals_list each]
  refine .list fun i a b here there => ?_
  rw [each i a b here there]
  exact items a (List.mem_of_getElem? here) b (List.mem_of_getElem? there)

theorem compares_map {as bs : NameSet} {f : Fin as.size → Value} {g : Fin bs.size → Value}
    (values : ∀ i j, Compares (g j) (f i) ((g j).equals (f i))) :
    Compares (.map as f) (.map bs g) ((map as f).equals (map bs g)) := by
  rw [equals_map]
  refine .map (.refl _) (fun i j here => ?_) fun i here => ?_
  · rw [matchesEntry, here, Option.any_some, equals_comm]
    exact values i j
  · rw [matchesEntry, here, Option.any_none]

/-- There is such a comparison of any two values, either way. -/
theorem compares_equals (a b : Value) : Compares a b (a.equals b) ∧ Compares b a (b.equals a) := by
  induction a generalizing b with
  | list as ih =>
    cases b with
    | list bs =>
      exact ⟨compares_list fun a member b _ => (ih a member b).1,
        compares_list fun b _ a member => (ih a member b).2⟩
    | _ => exact ⟨.flat rfl, .flat rfl⟩
  | map as f ih =>
    cases b with
    | map bs g =>
      exact ⟨compares_map fun i j => (ih i (g j)).2, compares_map fun j i => (ih i (g j)).1⟩
    | _ => exact ⟨.flat rfl, .flat rfl⟩
  | _ => exact ⟨.flat rfl, .flat (by cases b <;> rfl)⟩

/-! ## The law -/

/-- **Equality is a partial equivalence that fails only on NaN**: it is symmetric and transitive, a value equals
itself unless a float occurs in it that is not a number, and it does not depend on the orders in which maps
are gone through. Floats are equal if their bits stand for one number. -/
theorem equals_partial_equivalence :
    (∀ a b : Value, a.equals b = b.equals a) ∧
      (∀ a b c : Value, a.equals b = true → b.equals c = true → a.equals c = true) ∧
      (∀ a : Value, a.equals a = true ↔ ∀ x, Within (.float x) a → x.isNaN = false) ∧
      (∀ a b : Value, ∀ answer, Compares a b answer ↔ answer = a.equals b) ∧
      ∀ x y : Binary64, (float x).equals (float y) = true ↔ x.SameNumber y := by
  refine ⟨equals_comm, fun a b c first second => ?_, fun a => ?_, fun a b answer => ?_, fun x y => ?_⟩
  · exact equals_iff.2 ((equals_iff.1 first).trans (equals_iff.1 second))
  · rw [equals_iff]
    constructor
    · intro self x within
      cases within.equal_self self with
      | float same => exact (Binary64.eq_self_iff x).1 same
    · exact equal_self_of_numbers
  · refine ⟨Compares.eq_equals, ?_⟩
    rintro rfl
    exact (compares_equals a b).1
  · exact Binary64.eq_iff_sameNumber

/-- A list with a float under a name, given by its bits. -/
def floatAt (bits : UInt64) : Value := .list [ofMap (OrderedMap.ofList [("x", .float ⟨bits⟩)])]

theorem within_floatAt (bits : UInt64) : Within (.float ⟨bits⟩) (floatAt bits) :=
  .item (List.mem_singleton_self _) (.entry ⟨0, Nat.one_pos⟩ .self)

/-- Zeros of either sign are equal inside of values, and so is what is equal to them. What is no number is not
equal to itself there. -/
theorem equals_partial_equivalence_of_floats :
    (floatAt 0).equals (floatAt 0x8000000000000000) = true ∧
      (floatAt 0x8000000000000000).equals (floatAt 0) = true ∧ (floatAt 0).equals (floatAt 0) = true ∧
      (floatAt 0x7ff8000000000000).equals (floatAt 0x7ff8000000000000) = false := by
  have there : (floatAt 0).equals (floatAt 0x8000000000000000) = true := by decide +kernel
  have back : (floatAt 0x8000000000000000).equals (floatAt 0) = true :=
    (equals_partial_equivalence.1 _ _).trans there
  have nan : Binary64.isNaN ⟨0x7ff8000000000000⟩ = true := rfl
  have unequal : ¬(floatAt 0x7ff8000000000000).equals (floatAt 0x7ff8000000000000) = true := by
    intro self
    have number := (equals_partial_equivalence.2.2.1 _).1 self _ (within_floatAt _)
    cases nan.symm.trans number
  exact ⟨there, back, equals_partial_equivalence.2.1 _ _ _ there back, Bool.eq_false_iff.2 unequal⟩

end Value

end RecordGate
