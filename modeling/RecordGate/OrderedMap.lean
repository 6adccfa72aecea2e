/-!
# Finite maps with ascending keys

A map is its list of entries in strictly ascending key order, and carries the proof. Two maps
that answer every look-up alike are therefore equal (`OrderedMap.ext_get?`), and no operation
has a precondition. `get?` is the view through which the other operations are described.
-/

namespace RecordGate
set_option autoImplicit false

universe u v w

variable {κ : Type u} {α : Type v}

/-- A strict total order, as keys need it. -/
class KeyOrder (κ : Type u) [LT κ] : Prop where
  trans : ∀ {a b c : κ}, a < b → b < c → a < c
  irrefl : ∀ a : κ, ¬ a < a
  total : ∀ a b : κ, ¬ a < b → ¬ b < a → a = b

instance : KeyOrder String where
  trans := Std.lt_trans
  irrefl _ := Std.lt_irrefl
  total := Std.Trichotomous.trichotomous

instance {κ : Type u} [LT κ] [KeyOrder κ] : KeyOrder (List κ) where
  trans h h' := by
    have : Trans (α := κ) (· < ·) (· < ·) (· < ·) := ⟨KeyOrder.trans⟩
    exact List.lt_trans h h'
  irrefl l := by
    have : Std.Irrefl (α := κ) (· < ·) := ⟨KeyOrder.irrefl⟩
    exact List.lt_irrefl l
  total l m h h' := by
    induction l generalizing m with
    | nil =>
      cases m with
      | nil => rfl
      | cons => exact absurd List.Lex.nil h
    | cons a l ih =>
      cases m with
      | nil => exact absurd List.Lex.nil h'
      | cons b m =>
        have hab : a = b := KeyOrder.total a b (fun k => h (.rel k)) fun k => h' (.rel k)
        subst hab
        rw [ih m (fun k => h (.cons k)) fun k => h' (.cons k)]

/-- Put an entry at its place in an ascending list, over an entry of the same key. -/
def Entries.insert [LT κ] [DecidableLT κ] (k : κ) (v : α) : List (κ × α) → List (κ × α)
  | [] => [(k, v)]
  | e :: es =>
    if k < e.1 then (k, v) :: e :: es
    else if e.1 < k then e :: Entries.insert k v es
    else (k, v) :: es

/-- A finite map, given by its entries in strictly ascending key order. -/
structure OrderedMap (κ : Type u) (α : Type v) [LT κ] where
  entries : List (κ × α)
  ascending : entries.Pairwise fun a b => a.1 < b.1

namespace Entries

variable [LT κ]

/-- Ascending lists with the same members are equal. -/
theorem ext_mem [KeyOrder κ]
    {es fs : List (κ × α)} (he : es.Pairwise fun a b => a.1 < b.1)
    (hf : fs.Pairwise fun a b => a.1 < b.1) (h : ∀ e, e ∈ es ↔ e ∈ fs) : es = fs := by
  induction es generalizing fs with
  | nil =>
    cases fs with
    | nil => rfl
    | cons f fs => exact absurd ((h f).2 List.mem_cons_self) List.not_mem_nil
  | cons e es ih =>
    cases fs with
    | nil => exact absurd ((h e).1 List.mem_cons_self) List.not_mem_nil
    | cons f fs =>
      have ⟨he1, he2⟩ := List.pairwise_cons.1 he
      have ⟨hf1, hf2⟩ := List.pairwise_cons.1 hf
      have hef : e = f := by
        rcases List.mem_cons.1 ((h e).1 List.mem_cons_self) with hh | hh
        · exact hh
        · rcases List.mem_cons.1 ((h f).2 List.mem_cons_self) with h2 | h2
          · exact h2.symm
          · exact absurd (KeyOrder.trans (hf1 e hh) (he1 f h2)) (KeyOrder.irrefl _)
      subst hef
      congr 1
      refine ih he2 hf2 fun x => ?_
      constructor
      · intro hx
        rcases List.mem_cons.1 ((h x).1 (List.mem_cons_of_mem _ hx)) with rfl | hh
        · exact absurd (he1 x hx) (KeyOrder.irrefl _)
        · exact hh
      · intro hx
        rcases List.mem_cons.1 ((h x).2 (List.mem_cons_of_mem _ hx)) with rfl | hh
        · exact absurd (hf1 x hx) (KeyOrder.irrefl _)
        · exact hh

theorem lookup_eq_some_iff [DecidableEq κ] [KeyOrder κ]
    {es : List (κ × α)} (h : es.Pairwise fun a b => a.1 < b.1) {k : κ} {v : α} :
    es.lookup k = some v ↔ (k, v) ∈ es := by
  induction es with
  | nil => simp
  | cons e es ih =>
    have ⟨he, hes⟩ := List.pairwise_cons.1 h
    obtain ⟨k', v'⟩ := e
    simp only [List.lookup_cons, List.mem_cons, Prod.mk.injEq]
    by_cases hk : k = k'
    · subst hk
      have hno : (k, v) ∉ es := fun hmem => KeyOrder.irrefl _ (he (k, v) hmem)
      simp [hno, eq_comm]
    · have : (k == k') = false := by simpa using hk
      simp [this, ih hes, hk]

variable [DecidableLT κ]

theorem mem_insert {k : κ} {v : α} {es : List (κ × α)} {e : κ × α}
    (h : e ∈ insert k v es) : e = (k, v) ∨ e ∈ es := by
  induction es with
  | nil => simpa [insert] using h
  | cons f fs ih =>
    simp only [insert] at h
    split at h
    · simpa using h
    · split at h
      · rcases List.mem_cons.1 h with rfl | h
        · simp
        · rcases ih h with h | h <;> simp [h]
      · rcases List.mem_cons.1 h with h | h <;> simp [h]

theorem ascending_insert [KeyOrder κ] (k : κ) (v : α) {es : List (κ × α)}
    (h : es.Pairwise fun a b => a.1 < b.1) :
    (insert k v es).Pairwise fun a b => a.1 < b.1 := by
  induction es with
  | nil => simp [insert]
  | cons e es ih =>
    have ⟨he, hes⟩ := List.pairwise_cons.1 h
    simp only [insert]
    split
    · next hk =>
      refine List.pairwise_cons.2 ⟨fun f hf => ?_, h⟩
      rcases List.mem_cons.1 hf with rfl | hf
      · exact hk
      · exact KeyOrder.trans hk (he f hf)
    · split
      · next hk =>
        refine List.pairwise_cons.2 ⟨fun f hf => ?_, ih hes⟩
        rcases mem_insert hf with rfl | hf
        · exact hk
        · exact he f hf
      · next h1 h2 =>
        have heq : k = e.1 := KeyOrder.total k e.1 h1 h2
        exact List.pairwise_cons.2 ⟨fun f hf => heq ▸ he f hf, hes⟩

end Entries

namespace OrderedMap

section Basic
variable [LT κ]

/-- The map without entries. -/
def empty : OrderedMap κ α := ⟨[], List.Pairwise.nil⟩

instance : EmptyCollection (OrderedMap κ α) := ⟨empty⟩
instance : Inhabited (OrderedMap κ α) := ⟨empty⟩

def size (m : OrderedMap κ α) : Nat := m.entries.length

def isEmpty (m : OrderedMap κ α) : Bool := m.entries.isEmpty

def keys (m : OrderedMap κ α) : List κ := m.entries.map (·.1)

def values (m : OrderedMap κ α) : List α := m.entries.map (·.2)

/-- Keep the entries that pass a test. -/
def filter (p : κ → α → Bool) (m : OrderedMap κ α) : OrderedMap κ α where
  entries := m.entries.filter fun e => p e.1 e.2
  ascending := m.ascending.sublist List.filter_sublist

variable [DecidableEq κ]

def get? (m : OrderedMap κ α) (k : κ) : Option α := m.entries.lookup k

def contains (m : OrderedMap κ α) (k : κ) : Bool := (m.get? k).isSome

@[simp] theorem get?_empty (k : κ) : (∅ : OrderedMap κ α).get? k = none := rfl

/-- Remove the entry of a key, if there is one. -/
def erase (m : OrderedMap κ α) (k : κ) : OrderedMap κ α :=
  m.filter fun k' _ => k' != k

end Basic

section Order
variable [LT κ] [DecidableLT κ] [KeyOrder κ]

/-- Bind a key to a value, over any earlier binding. -/
def insert (m : OrderedMap κ α) (k : κ) (v : α) : OrderedMap κ α where
  entries := Entries.insert k v m.entries
  ascending := Entries.ascending_insert k v m.ascending

/-- The map of a list of bindings; of two bindings of one key the later holds. -/
def ofList (l : List (κ × α)) : OrderedMap κ α :=
  l.foldl (fun m e => m.insert e.1 e.2) ∅

end Order

section View
variable [LT κ] [DecidableEq κ] [KeyOrder κ]

/-- An entry is what its key looks up. -/
theorem get?_eq_some_iff {m : OrderedMap κ α} {k : κ} {v : α} :
    m.get? k = some v ↔ (k, v) ∈ m.entries :=
  Entries.lookup_eq_some_iff m.ascending

theorem get?_eq_none_iff {m : OrderedMap κ α} {k : κ} :
    m.get? k = none ↔ ∀ v, (k, v) ∉ m.entries := by
  constructor
  · intro h v hv
    rw [get?_eq_some_iff.2 hv] at h
    cases h
  · intro h
    cases hg : m.get? k with
    | none => rfl
    | some v => exact absurd (get?_eq_some_iff.1 hg) (h v)

/-- Maps that answer every look-up alike are equal. -/
theorem ext_get? {m n : OrderedMap κ α} (h : ∀ k, m.get? k = n.get? k) : m = n := by
  have : m.entries = n.entries := by
    refine Entries.ext_mem m.ascending n.ascending fun e => ?_
    obtain ⟨k, v⟩ := e
    rw [← get?_eq_some_iff, ← get?_eq_some_iff, h k]
  cases m; cases n; simp_all

theorem get?_filter (p : κ → α → Bool) (m : OrderedMap κ α) (k : κ) :
    (m.filter p).get? k = (m.get? k).filter (p k) := by
  ext v
  rw [get?_eq_some_iff, Option.filter_eq_some_iff, get?_eq_some_iff]
  simp [filter]

theorem get?_erase (m : OrderedMap κ α) (k k' : κ) :
    (m.erase k).get? k' = if k' = k then none else m.get? k' := by
  rw [erase, get?_filter]
  split
  · next h => subst h; cases m.get? k' <;> simp [Option.filter]
  · next h => cases m.get? k' <;> simp [Option.filter, h]

end View

section Insertion
variable [LT κ] [DecidableEq κ] [DecidableLT κ] [KeyOrder κ]

theorem get?_insert (m : OrderedMap κ α) (k : κ) (v : α) (k' : κ) :
    (m.insert k v).get? k' = if k' = k then some v else m.get? k' := by
  have key : ∀ es : List (κ × α),
      (Entries.insert k v es).lookup k' = if k' = k then some v else es.lookup k' := by
    intro es
    induction es with
    | nil =>
      by_cases h : k' = k
      · simp [Entries.insert, h]
      · have : (k' == k) = false := by simpa using h
        simp [Entries.insert, List.lookup_cons, h, this]
    | cons e es ih =>
      obtain ⟨a, b⟩ := e
      have lk : ∀ x : κ, (k' == x) = decide (k' = x) := fun _ => rfl
      simp only [Entries.insert]
      split
      · by_cases h : k' = k <;> simp [List.lookup_cons, lk, h]
      · next h1 =>
        split
        · next h2 =>
          by_cases ha : k' = a
          · have hne : k' ≠ k := fun hh => by
              rw [← ha, hh] at h2; exact KeyOrder.irrefl _ h2
            subst ha
            simp [hne]
          · simp [List.lookup_cons, lk, ha, ih]
        · next h2 =>
          have heq : k = a := KeyOrder.total k a h1 h2
          subst heq
          by_cases h : k' = k <;> simp [List.lookup_cons, lk, h]
  exact key m.entries

end Insertion

end OrderedMap

end RecordGate
