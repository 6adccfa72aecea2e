import RecordGate.Proofs.Program
import RecordGate.Store.Scan

/-!
# Scans of related states

A scan goes on alike in related states if its visitor cannot tell them apart and its nodes deliver the same in
them (`overNodes_tied`). What visits do to the states does not matter, as long as they stay related.
-/

namespace RecordGate
set_option autoImplicit false

variable {σ : Type} {R : σ → σ → Prop}

/-- In related states the visitor answers the same, and it leaves related states. -/
def Visitor.Respects (R : σ → σ → Prop) (visit : Visitor σ) : Prop :=
  ∀ row ⦃s t : σ⦄, R s t → Tied R (visit row s) (visit row t)

namespace ScanScope

/-- In related states a node delivers the same. -/
def DeliversAlike (scope : ScanScope) (visit : Visitor σ) (R : σ → σ → Prop) (node : σ → Node) : Prop :=
  ∀ ⦃s t : σ⦄, R s t → ∀ now,
    scope.deliver visit ((node t).snapshot scope.ns scope.setName now) =
      scope.deliver visit ((node s).snapshot scope.ns scope.setName now)

variable {scope : ScanScope} {visit : Visitor σ} (respects : visit.Respects R) {s t : σ}
include respects

theorem deliver_tied (records : List (Digest × StoredRecord)) (summary : ScanSummary) (related : R s t) :
    Tied R (scope.deliver visit records summary s) (scope.deliver visit records summary t) := by
  induction records generalizing summary s t with
  | nil => exact ⟨rfl, related⟩
  | cons e rest ih =>
    obtain ⟨digest, r⟩ := e
    rw [deliver, deliver]
    split
    · exact ih _ related
    · obtain ⟨result, s', t', here, there, after⟩ := (respects (scope.row digest r) related).split
      rw [here, there]
      cases result with
      | error stop => exact ⟨rfl, after⟩
      | ok _ => exact ih _ after

theorem overNode_tied {node : σ → Node} (alike : scope.DeliversAlike visit R node) (related : R s t) :
    Tied R (scope.overNode visit node s) (scope.overNode visit node t) := by
  rw [overNode, overNode]
  cases scope.now? with
  | none => exact ⟨rfl, related⟩
  | some now =>
    dsimp only
    rw [alike related]
    exact deliver_tied respects _ {} related

variable {nodes : List (σ → Node)} (alike : ∀ node ∈ nodes, scope.DeliversAlike visit R node)
include alike

theorem inTurn_tied (related : R s t) : Tied R (scope.inTurn visit nodes s) (scope.inTurn visit nodes t) := by
  induction nodes generalizing s t with
  | nil => exact ⟨rfl, related⟩
  | cons node rest ih =>
    obtain ⟨first, others⟩ := List.forall_mem_cons.1 alike
    obtain ⟨ended, s', t', here, there, after⟩ := (overNode_tied respects first related).split
    rw [inTurn, inTurn, here, there]
    cases ended with
    | error stop => exact ⟨rfl, after⟩
    | ok summary =>
      obtain ⟨ended', s'', t'', here', there', last⟩ := (ih others after).split
      dsimp only
      rw [here', there']
      cases ended' with
      | error stop => exact ⟨rfl, last⟩
      | ok summary' => exact ⟨rfl, last⟩

theorem eachNode_tied (related : R s t) :
    Tied R (scope.eachNode visit nodes s) (scope.eachNode visit nodes t) := by
  induction nodes generalizing s t with
  | nil => exact ⟨rfl, related⟩
  | cons node rest ih =>
    obtain ⟨first, others⟩ := List.forall_mem_cons.1 alike
    obtain ⟨ended, s', t', here, there, after⟩ := (overNode_tied respects first related).split
    obtain ⟨results, s'', t'', here', there', last⟩ := (ih others after).split
    rw [eachNode, eachNode, here, there]
    dsimp only
    rw [here', there']
    exact ⟨rfl, last⟩

/-- **A scan cannot tell related states apart**, whether it scans its nodes in turn or at once. -/
theorem overNodes_tied (concurrent : Bool) (related : R s t) :
    Tied R (scope.overNodes concurrent visit nodes s) (scope.overNodes concurrent visit nodes t) := by
  cases concurrent with
  | false => exact inTurn_tied respects alike related
  | true => exact (eachNode_tied respects alike related).map ScanSummary.mergeAll

end ScanScope

end RecordGate
