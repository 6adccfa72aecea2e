import Mathlib.Data.List.Induction
import Mathlib.Data.List.Perm.Basic
import RecordGate.Json.Coded
import RecordGate.Proofs.Json.Texts

/-!
# JSON forms tell values apart

The entries of a map are written in whatever order they are gone through, so a value has a form for each order
(`Value.Written`). Every form of a value without floats has a text, and the value is what that text is read as,
unless the form nests too deep (`Value.json_round_trip`).
-/

namespace RecordGate
set_option autoImplicit false

/-! ## Maps from entries in any order -/

namespace OrderedMap

universe u v

variable {κ : Type u} {α : Type v} [LT κ] [DecidableLT κ] [KeyOrder κ]

theorem ofList_concat (l : List (κ × α)) (e : κ × α) : ofList (l ++ [e]) = (ofList l).insert e.1 e.2 := by
  simp [ofList]

variable [DecidableEq κ]

/-- Bindings of distinct keys all hold. -/
theorem get?_ofList {l : List (κ × α)} (distinct : l.Pairwise fun a b => a.1 ≠ b.1) (k : κ) (v : α) :
    (ofList l).get? k = some v ↔ (k, v) ∈ l := by
  induction l using List.reverseRecOn with
  | nil => simp [ofList]
  | append_singleton l e ih =>
    obtain ⟨earlier, -, apart⟩ := List.pairwise_append.1 distinct
    rw [ofList_concat, get?_insert, List.mem_append, List.mem_singleton]
    split
    · next same =>
      subst same
      have other : (e.1, v) ∉ l := fun member => apart _ member e List.mem_cons_self rfl
      simp [other, Prod.ext_iff, eq_comm]
    · next different =>
      have other : (k, v) ≠ e := fun same => different (congrArg Prod.fst same)
      simp [ih earlier, other]

/-- The order of bindings of distinct keys does not matter. -/
theorem ofList_of_perm {l : List (κ × α)} {m : OrderedMap κ α} (perm : l.Perm m.entries) : ofList l = m := by
  have ascending : m.entries.Pairwise fun a b => a.1 ≠ b.1 := by
    refine m.ascending.imp fun {a b} before same => ?_
    exact KeyOrder.irrefl a.1 (same ▸ before)
  have distinct := (perm.pairwise_iff fun apart => apart.symm).2 ascending
  refine ext_get? fun k => Option.ext fun v => ?_
  rw [get?_ofList distinct, get?_eq_some_iff, perm.mem_iff]

end OrderedMap

/-! ## Depth -/

namespace Json

mutual
/-- How many arrays and objects of a tree are inside of one another. -/
def depth : Json → Nat
  | array items => depthAll items + 1
  | object members => depthMembers members + 1
  | _ => 0

def depthAll : List Json → Nat
  | [] => 0
  | item :: rest => max item.depth (depthAll rest)

def depthMembers : List (Option String × Json) → Nat
  | [] => 0
  | (_, value) :: rest => max value.depth (depthMembers rest)
end

theorem depth_array_le {items : List Json} {d : Nat} :
    (array items).depth ≤ d + 1 ↔ ∀ item ∈ items, item.depth ≤ d := by
  have all : ∀ items, depthAll items ≤ d ↔ ∀ item ∈ items, item.depth ≤ d := by
    intro items
    induction items with
    | nil => simp [depthAll]
    | cons item rest ih => rw [depthAll, Nat.max_le, ih, List.forall_mem_cons]
  simp [depth, all]

theorem depth_ofMembers_le {members : List (String × Json)} {d : Nat} :
    (ofMembers members).depth ≤ d + 1 ↔ ∀ m ∈ members, m.2.depth ≤ d := by
  have all : ∀ members : List (String × Json),
      depthMembers (members.map fun m => (some m.1, m.2)) ≤ d ↔ ∀ m ∈ members, m.2.depth ≤ d := by
    intro members
    induction members with
    | nil => simp [depthMembers]
    | cons m rest ih =>
      simp only [List.map_cons, depthMembers, List.forall_mem_cons, ← ih]
      omega
  simp [depth, ofMembers, all]

theorem not_depth_ofMembers_le_zero (members : List (String × Json)) : ¬ (ofMembers members).depth ≤ 0 := by
  simp [depth, ofMembers]

theorem not_depth_array_le_zero (items : List Json) : ¬ (array items).depth ≤ 0 := by
  simp [depth]

end Json

namespace Value

/-! ## Forms -/

/-- The forms of a value: its type and what it holds, with the entries of each map in some order. -/
inductive Written : Value → Json → Prop
  | null : Written null (.string "Null")
  | bool (b : Bool) : Written (bool b) (tagged "Bool" (.bool b))
  | int (i : Int64) : Written (int i) (tagged "Int" (.integer i.toInt))
  | float (x : Binary64) : Written (float x) (tagged "Float" (.float x))
  | string (s : String) : Written (string s) (tagged "String" (.string s))
  | bytes (b : List UInt8) : Written (bytes b) (tagged "Bytes" (.ofBytes b))
  | list {items : List Value} {forms : List Json} (length : items.length = forms.length)
      (each : ∀ (i : Nat) (v : Value) (j : Json), items[i]? = some v → forms[i]? = some j → Written v j) :
      Written (list items) (tagged "List" (.array forms))
  | map {names : NameSet} {value : Fin names.size → Value} {form : Fin names.size → Json}
      {members : List (String × Json)} (each : ∀ i, Written (value i) (form i))
      (order : members.Perm (List.ofFn fun i => (names.name i, form i))) :
      Written (map names value) (tagged "Map" (.ofMembers members))

theorem toJsonAll_eq_map (items : List Value) : toJsonAll items = items.map toJson := by
  induction items with
  | nil => rfl
  | cons v vs ih => rw [toJsonAll, ih, List.map_cons]

theorem written_toJson (v : Value) : Written v v.toJson := by
  induction v with
  | null => exact .null
  | bool b => exact .bool b
  | int i => exact .int i
  | float x => exact .float x
  | string s => exact .string s
  | bytes b => exact .bytes b
  | list items ih =>
    rw [toJson, toJsonAll_eq_map]
    refine .list (by simp) fun i v j here there => ?_
    obtain rfl : v.toJson = j := by simpa [here] using there
    exact ih v (List.mem_of_getElem? here)
  | map names value ih =>
    rw [toJson]
    exact .map ih (.refl _)

/-! ## Reading forms -/

section Each

variable {α β : Type} {read : α → Option β}

theorem mapM_eq_some {as : List α} {bs : List β} (length : bs.length = as.length)
    (each : ∀ (i : Nat) (b : β) (a : α), bs[i]? = some b → as[i]? = some a → read a = some b) :
    as.mapM read = some bs := by
  induction as generalizing bs with
  | nil => simp [List.length_eq_zero_iff.1 length]
  | cons a as ih =>
    obtain ⟨b, bs, rfl⟩ := List.exists_cons_of_length_eq_add_one length
    have rest := ih (Nat.succ.inj length) fun i => each (i + 1)
    simp [each 0 b a rfl rfl, rest]

theorem mapM_map_eq_some {ι : Type} {l : List ι} {a : ι → α} {b : ι → β}
    (each : ∀ i ∈ l, read (a i) = some (b i)) : (l.map a).mapM read = some (l.map b) := by
  refine mapM_eq_some (by simp) fun n y x there here => ?_
  obtain ⟨i, at_n, rfl⟩ : ∃ i, l[n]? = some i ∧ b i = y := by simpa using there
  obtain rfl : a i = x := by simpa [at_n] using here
  exact each i (List.mem_of_getElem? at_n)

end Each

theorem bytes?_ofBytes (b : List UInt8) (d : Nat) : (Json.ofBytes b).bytes? (d + 1) = some b := by
  have each : ∀ x ∈ b, Json.uint8? (.integer x.toNat) = some (id x) := by
    intro x _
    have small := x.toNat_lt
    simp [Json.uint8?, Json.integerWithin?]
    omega
  simpa [Json.bytes?, Json.items?, Json.ofBytes] using mapM_map_eq_some each

theorem int64?_integer (i : Int64) : Json.int64? (.integer i.toInt) = some i := by
  have lower := i.le_toInt
  have upper := i.toInt_lt
  have within : -0x8000000000000000 ≤ i.toInt ∧ i.toInt < 0x8000000000000000 := by omega
  simp [Json.int64?, Json.integerWithin?, within]

theorem map_congr {as bs : NameSet} {f : Fin as.size → Value} {g : Fin bs.size → Value} (names : as = bs)
    (values : ∀ i, f i = g (i.cast (congrArg NameSet.size names))) : map as f = map bs g := by
  subst names
  exact congrArg _ (funext values)

theorem ofMap_binsOf (names : NameSet) (value : Fin names.size → Value) :
    ofMap (binsOf names value) = map names value := by
  have same : (entries names value).map (·.1) = names.names := map_fst_entries names value
  refine map_congr ?_ fun i => ?_
  · cases names
    simp only [NameSet.mk.injEq]
    exact same
  · simp [binsOf, entries]
    rfl

/-- The entries of a map are read in the order in which they are written. -/
theorem mapM_members {names : NameSet} {value : Fin names.size → Value} {form : Fin names.size → Json}
    {read : Json → Option Value} (each : ∀ i, read (form i) = some (value i)) {members : List (String × Json)}
    (order : members.Perm (List.ofFn fun i => (names.name i, form i))) :
    ∃ bins : List (String × Value), bins.Perm (entries names value) ∧
      ((members.map fun m => (some m.1, m.2)).mapM fun m => do return (← m.1, ← read m.2)) = some bins := by
  let bin (m : String × Json) : String × Value := (m.1, (read m.2).getD .null)
  refine ⟨members.map bin, ?_, mapM_map_eq_some fun m member => ?_⟩
  · have bins : (List.ofFn fun i => (names.name i, form i)).map bin = entries names value := by
      simp [entries, List.map_ofFn, Function.comp_def, bin, each]
    exact bins ▸ order.map bin
  · obtain ⟨i, rfl⟩ := List.mem_ofFn.1 (order.mem_iff.1 member)
    simp [each i, bin]

theorem depth_tagged_le {tag : String} {content : Json} {d : Nat} :
    (tagged tag content).depth ≤ d + 1 ↔ content.depth ≤ d := by
  simp [tagged, Json.depth_ofMembers_le]

/-- What is tagged is read one level down. -/
theorem exists_of_depth_tagged_le {tag : String} {content : Json} {d : Nat}
    (deep : (tagged tag content).depth ≤ d) : ∃ e, d = e + 1 ∧ content.depth ≤ e := by
  cases d with
  | zero => exact absurd deep (Json.not_depth_ofMembers_le_zero _)
  | succ e => exact ⟨e, rfl, depth_tagged_le.1 deep⟩

theorem ofJson?_of_written {v : Value} {j : Json} (written : Written v j) {d : Nat} (deep : j.depth ≤ d) :
    ofJson? d j = some v := by
  induction written generalizing d with
  | null => rw [ofJson?]
  | bool b | float x | string s =>
    obtain ⟨d, rfl, -⟩ := exists_of_depth_tagged_le deep
    rfl
  | int i =>
    obtain ⟨d, rfl, -⟩ := exists_of_depth_tagged_le deep
    simp [tagged, Json.ofMembers, ofJson?, int64?_integer]
  | bytes b =>
    obtain ⟨d, rfl, content⟩ := exists_of_depth_tagged_le deep
    cases d with
    | zero => exact absurd content (Json.not_depth_array_le_zero _)
    | succ d => simp [tagged, Json.ofMembers, ofJson?, bytes?_ofBytes]
  | list length each ih =>
    obtain ⟨d, rfl, content⟩ := exists_of_depth_tagged_le deep
    cases d with
    | zero => exact absurd content (Json.not_depth_array_le_zero _)
    | succ d =>
      have shallow := Json.depth_array_le.1 content
      have items := mapM_eq_some length fun i v j here there =>
        ih i v j here there (shallow j (List.mem_of_getElem? there))
      simp [tagged, Json.ofMembers, ofJson?, items]
  | @map names value form members each order ih =>
    obtain ⟨d, rfl, content⟩ := exists_of_depth_tagged_le deep
    cases d with
    | zero => exact absurd content (Json.not_depth_ofMembers_le_zero _)
    | succ d =>
      have shallow := Json.depth_ofMembers_le.1 content
      have read : ∀ i, ofJson? d (form i) = some (value i) := by
        intro i
        exact ih i (shallow (names.name i, form i) (order.mem_iff.2 (List.mem_ofFn.2 ⟨i, rfl⟩)))
      obtain ⟨bins, perm, all⟩ := mapM_members read order
      have map : ofMap (.ofList bins) = map names value := by
        rw [OrderedMap.ofList_of_perm (m := binsOf names value) perm, ofMap_binsOf]
      simp only [tagged, Json.ofMembers, List.map_cons, List.map_nil, ofJson?, all]
      exact congrArg some map

/-! ## Floats -/

mutual
/-- Whether no float is inside of a value, at any depth. -/
def floatFree : Value → Bool
  | float _ => false
  | list items => floatFreeAll items
  | map _ value => (List.ofFn fun i => (value i).floatFree).all id
  | _ => true

def floatFreeAll : List Value → Bool
  | [] => true
  | v :: vs => v.floatFree && floatFreeAll vs
end

theorem floatFree_list {items : List Value} :
    (list items).floatFree = true ↔ ∀ v ∈ items, v.floatFree = true := by
  have all : ∀ items, floatFreeAll items = true ↔ ∀ v ∈ items, v.floatFree = true := by
    intro items
    induction items with
    | nil => simp [floatFreeAll]
    | cons v vs ih => simp [floatFreeAll, ih]
  rw [floatFree, all]

theorem floatFree_map {names : NameSet} {value : Fin names.size → Value} :
    (map names value).floatFree = true ↔ ∀ i, (value i).floatFree = true := by
  simp [floatFree, List.all_eq_true, List.mem_ofFn]

theorem writable_tagged {tag : String} {content : Json} (writable : content.Writable) :
    (tagged tag content).Writable := by
  refine .object fun m member => ?_
  rw [List.mem_singleton.1 member]
  exact writable

/-- Forms without floats have a text. -/
theorem Written.writable {v : Value} {j : Json} (written : Written v j) (free : v.floatFree = true) :
    j.Writable := by
  induction written with
  | null => exact .string _
  | bool b => exact writable_tagged (.bool b)
  | int i =>
    have lower := i.le_toInt
    have upper := i.toInt_lt
    exact writable_tagged (.integer (by omega) (by simp [UInt64.size]; omega))
  | float x => cases free
  | string s => exact writable_tagged (.string s)
  | bytes b =>
    refine writable_tagged (.array (List.forall_mem_map.2 fun x _ => .integer (by omega) ?_))
    have small := x.toNat_lt
    simp [UInt64.size]
    omega
  | @list items forms length each ih =>
    refine writable_tagged (.array fun j member => ?_)
    obtain ⟨i, there⟩ := List.getElem?_of_mem member
    have here := List.getElem?_eq_getElem (length ▸ (List.getElem?_eq_some_iff.1 there).1 : i < items.length)
    exact ih i _ j here there (floatFree_list.1 free _ (List.mem_of_getElem? here))
  | map each order ih =>
    refine writable_tagged (.object fun m member => ?_)
    obtain ⟨i, rfl⟩ := List.mem_ofFn.1 (order.mem_iff.1 member)
    exact ih i (floatFree_map.1 free i)

/-! ## The round trip -/

/-- **A value without floats is what its JSON text is read as**: every form of it has a text, in whatever order
the entries of maps are written; the value is read from the text if the form nests no deeper than texts may, and
no form of another value has that text. -/
theorem json_round_trip :
    (∀ v, Written v v.toJson) ∧
      ∀ (v : Value) (j : Json), v.floatFree = true → Written v j →
        ∃ text, j.text? = some text ∧ (j.depth ≤ Json.maxDepth → Json.decode? Value text = some v) ∧
          ∀ (w : Value) (k : Json), w.floatFree = true → Written w k → k.text? = some text → w = v := by
  refine ⟨written_toJson, fun v j free written => ?_⟩
  obtain ⟨text, whole, read⟩ := Json.parse?_text? (written.writable free)
  refine ⟨text, whole, fun deep => ?_, fun w k free' written' whole' => ?_⟩
  · rw [Json.decode?, read]
    exact ofJson?_of_written written deep
  · obtain ⟨text', whole'', read'⟩ := Json.parse?_text? (written'.writable free')
    obtain rfl : text' = text := Option.some.inj (whole''.symm.trans whole')
    obtain rfl : k = j := Option.some.inj (read'.symm.trans read)
    -- One form is the form of one value at whatever depth, so no bound is asked for here.
    have first := ofJson?_of_written written (Nat.le_refl _)
    have second := ofJson?_of_written written' (Nat.le_refl _)
    exact Option.some.inj (second.symm.trans first)

/-- A map whose names are those of types, with octets, the least number and characters that need an escape. -/
def lookalike : Value :=
  map ⟨["Int", "Null"], by decide⟩ fun i =>
    if i.val = 0 then list [int (-0x8000000000000000), bytes [0, 255]] else string "\"Null\"\n"

/-- Its entries written the other way round. -/
def lookalikeForm : Json :=
  tagged "Map" (.ofMembers [("Null", tagged "String" (.string "\"Null\"\n")),
    ("Int", tagged "List" (.array [tagged "Int" (.integer (-0x8000000000000000)),
      tagged "Bytes" (.ofBytes [0, 255])]))])

theorem json_round_trip_of_lookalike :
    ∃ text, lookalikeForm.text? = some text ∧ Json.decode? Value text = some lookalike ∧
      ∀ w : Value, w.floatFree = true → Written w lookalikeForm → w = lookalike := by
  have written : Written lookalike lookalikeForm := .map (fun i => json_round_trip.1 _) (List.Perm.swap _ _ _)
  obtain ⟨text, whole, read, only⟩ := json_round_trip.2 lookalike lookalikeForm (by decide) written
  exact ⟨text, whole, read (by decide), fun w free same => only w lookalikeForm free same whole⟩

end Value

end RecordGate
