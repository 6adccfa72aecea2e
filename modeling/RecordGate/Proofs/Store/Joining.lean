import RecordGate.Proofs.Store.Presence

/-!
# Values that grow at both ends

What is joined is text or octets: pieces in a row (`Value.Concat`). An operand becomes one more piece, at its
end of the row (`concat_of_joinValue`), and a record that it was joined to in a bin holds all of them
(`Written.joined`).
-/

namespace RecordGate
set_option autoImplicit false

/-- Texts in a row, or octets in a row. -/
inductive Value.Concat : List Value → Value → Prop
  | text (parts : List String) : Concat (parts.map .string) (.string (String.join parts))
  | octets (parts : List (List UInt8)) : Concat (parts.map .bytes) (.bytes parts.flatten)

/-- Texts in a row are one text. -/
theorem Value.Concat.eq_string {parts : List String} {whole : Value} (concat : Concat (parts.map .string) whole)
    (some : parts ≠ []) : whole = .string (String.join parts) := by
  generalize pieces : parts.map Value.string = row at concat
  cases concat with
  | text others =>
    have same : parts = others := List.map_inj_right (fun _ _ => Value.string.inj) |>.1 pieces
    rw [same]
  | octets others =>
    obtain ⟨first, rest, rfl⟩ := List.exists_cons_of_ne_nil some
    cases others <;> cases pieces

namespace End

/-- A row of pieces with one more at an end. -/
def extend (side : End) (operand : Value) (pieces : List Value) : List Value :=
  match side with
  | front => operand :: pieces
  | back => pieces ++ [operand]

/-- The operation that joins an operand at an end of a bin. -/
def operation : End → Bin → Operation
  | front => .prepend
  | back => .append

theorem applyOperation_operation (side : End) (bins : BinMap) (bin : Bin) :
    applyOperation bins (side.operation bin) =
      (joinValue side bin (bins.get? bin.name)).map (bins.insert bin.name) := by
  cases side <;> rfl

end End

section Join

variable {side : End} {bin : Bin} {whole : Value}

/-- What takes an operand is one piece. -/
theorem concat_singleton {held : Value} (ok : joinValue side bin (some held) = .ok whole) :
    Value.Concat [held] held := by
  obtain ⟨name, operand⟩ := bin
  cases held with
  | string s =>
    have piece := Value.Concat.text [s]
    rw [String.join_cons, String.join_nil, String.append_empty] at piece
    exact piece
  | bytes b =>
    have piece := Value.Concat.octets [b]
    rw [List.flatten_singleton] at piece
    exact piece
  | _ => cases operand <;> cases ok

theorem typeName_of_joinValue {held : Value} (ok : joinValue side bin (some held) = .ok whole) :
    held.typeName = bin.value.typeName := by
  obtain ⟨name, operand⟩ := bin
  cases held <;> cases operand <;> first | rfl | cases ok

/-- **An operand becomes one more piece** of what is held. -/
theorem concat_extend {pieces : List Value} {held : Value} (concat : Value.Concat pieces held)
    (ok : joinValue side bin (some held) = .ok whole) : Value.Concat (side.extend bin.value pieces) whole := by
  obtain ⟨name, operand⟩ := bin
  cases concat with
  | text parts =>
    cases operand with
    | string s =>
      cases ok
      cases side with
      | front =>
        have longer := Value.Concat.text (s :: parts)
        rw [String.join_cons] at longer
        exact longer
      | back =>
        have longer := Value.Concat.text (parts ++ [s])
        rw [String.join_append, String.join_cons, String.join_nil, String.append_empty, List.map_append] at longer
        exact longer
    | _ => cases ok
  | octets parts =>
    cases operand with
    | bytes b =>
      cases ok
      cases side with
      | front => exact .octets (b :: parts)
      | back =>
        have longer := Value.Concat.octets (parts ++ [b])
        rw [List.flatten_append, List.flatten_singleton, List.map_append] at longer
        exact longer
    | _ => cases ok

/-- An operand is joined to one piece, or is the first. -/
theorem concat_of_joinValue {held : Option Value} (ok : joinValue side bin held = .ok whole) :
    Value.Concat (side.extend bin.value held.toList) whole := by
  cases held with
  | some held => exact concat_extend (concat_singleton ok) ok
  | none =>
    obtain ⟨name, operand⟩ := bin
    have first : operand = whole ∧ ∃ other, joinValue side ⟨name, operand⟩ (some operand) = .ok other := by
      cases operand <;> cases ok <;> exact ⟨rfl, _, rfl⟩
    obtain ⟨rfl, _, taken⟩ := first
    have piece := concat_singleton taken
    cases side <;> exact piece

end Join

/-! ## One operand after another -/

/-- The operands that are joined at an end, in their order. -/
def payloads (side : End) (joins : List (End × Value)) : List Value :=
  (joins.filter (·.1 == side)).map (·.2)

/-- The pieces of what is held once operands were joined to it, whatever the order of those at one end among
those at the other. -/
def row (start : Option Value) (joins : List (End × Value)) : List Value :=
  (payloads .front joins).reverse ++ start.toList ++ payloads .back joins

theorem row_append (start : Option Value) (joins : List (End × Value)) (side : End) (operand : Value) :
    row start (joins ++ [(side, operand)]) = side.extend operand (row start joins) := by
  cases side <;> simp [row, payloads, End.extend]

/-- What is held once operands were joined to it. -/
structure Grown (start : Option Value) (joins : List (End × Value)) (held : Option Value) : Prop where
  still : joins = [] → held = start
  whole : joins ≠ [] → ∃ whole, held = some whole ∧ Value.Concat (row start joins) whole

theorem Grown.start (held : Option Value) : Grown held [] held := ⟨fun _ => rfl, fun some => absurd rfl some⟩

/-- **What is held grows by each operand** that is joined to it. -/
theorem Grown.join {start held : Option Value} {joins : List (End × Value)} (grown : Grown start joins held)
    {side : End} {bin : Bin} {whole : Value} (ok : joinValue side bin held = .ok whole) :
    Grown start (joins ++ [(side, bin.value)]) (some whole) := by
  refine ⟨fun none => absurd none (List.append_ne_nil_of_right_ne_nil _ (List.cons_ne_nil _ _)), fun _ => ?_⟩
  refine ⟨whole, rfl, ?_⟩
  rw [row_append]
  by_cases first : joins = []
  · obtain rfl := grown.still first
    subst first
    have pieces : row held [] = held.toList := by simp [row, payloads]
    rw [pieces]
    exact concat_of_joinValue ok
  · obtain ⟨whole, rfl, concat⟩ := grown.whole first
    exact concat_extend concat ok

/-! ## Records -/

section Written

variable {r : StoredRecord} {policy : WritePolicy} (merges : policy.existence = .update)
  (unchecked : policy.generationCheck = .unchecked)
include merges unchecked

/-- **A bin that is joined to holds what the join makes** of what it held. -/
theorem Written.joined {side : End} {bin : Bin} {setName : String} {limit : Nat} {now : UInt32}
    {next : StoredRecord}
    (written : Written (some r) setName policy [side.operation bin, .readHeader] limit now next) :
    ∃ whole, joinValue side bin (r.bins.get? bin.name) = .ok whole ∧ next.bins.get? bin.name = some whole := by
  obtain ⟨made, ⟨ok, bins, -⟩ | ⟨ok, -, -⟩⟩ := written.bins
  · rw [writeBins_of_merge merges unchecked] at ok
    obtain ⟨_, applied, same⟩ := map_eq_ok_iff.1 ok
    cases same
    obtain ⟨first, applied, rest⟩ := bind_eq_ok_iff.1 applied
    cases rest
    rw [side.applyOperation_operation] at applied
    obtain ⟨whole, makes, rfl⟩ := map_eq_ok_iff.1 applied
    refine ⟨whole, makes, ?_⟩
    rw [bins, OrderedMap.get?_insert, if_pos rfl]
  · rw [writeBins_of_merge merges unchecked] at ok
    obtain ⟨_, -, same⟩ := map_eq_ok_iff.1 ok
    cases same

end Written

end RecordGate
