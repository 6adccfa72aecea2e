import RecordGate.Proofs.Store.Effect

/-!
# The books of a cluster

Beside its records a cluster keeps books: the connection, the size limit, the queue of faults, and the
count and the latest policy of the commands. Every command is entered in the same way, whatever becomes of
it (`answer_books`), and one that is turned away changes nothing else (`answer_of_refused`).
-/

namespace RecordGate
set_option autoImplicit false

namespace Cluster

/-- What a cluster keeps beside its records. -/
structure Books where
  connected : Bool
  recordLimit : Nat
  faults : List ClientError
  lastPolicy : Option CommandPolicy
  calls : Nat

def books (c : Cluster) : Books := ⟨c.connected, c.recordLimit, c.faults, c.lastPolicy, c.calls⟩

/-- The books after one more command. It uses up the oldest fault, if it reaches the cluster. -/
def Books.entered (books : Books) (policy : CommandPolicy) : Books where
  connected := books.connected
  recordLimit := books.recordLimit
  faults := if books.connected then books.faults.tail else books.faults
  lastPolicy := some policy
  calls := books.calls + 1

theorem accept_books (c : Cluster) (policy : CommandPolicy) :
    (c.accept policy).2.books = c.books.entered policy := by
  cases connected : c.connected with
  | false =>
    rw [accept_of_closed connected, Books.entered]
    simp only [books, counted, connected, Bool.false_eq_true, if_false]
  | true =>
    cases faults : c.faults with
    | nil =>
      rw [accept_of_admits ⟨connected, faults⟩, Books.entered]
      simp only [books, counted, connected, faults, if_true, List.tail_nil]
    | cons e rest =>
      rw [accept_of_fault connected faults, Books.entered]
      simp only [books, counted, connected, faults, if_true, List.tail_cons]

section Serve

variable {α : Type} {c : Cluster} {policy : CommandPolicy} {body : Cluster → Except Refusal α × Cluster}

theorem serve_books (keeps : ∀ c, (body c).2.books = c.books) :
    (c.serve policy body).2.books = c.books.entered policy := by
  rw [← accept_books, serve]
  rcases c.accept policy with ⟨_ | _, d⟩
  · rfl
  · rw [← keeps d]
    dsimp only
    rcases body d with ⟨_ | _, _⟩ <;> rfl

theorem serve_of_refused {e : ClientError} (refused : (c.accept policy).1 = .error e) :
    c.serve policy body = (.error e, (c.accept policy).2) := by
  rw [serve]
  rcases accepted : c.accept policy with ⟨_ | _, d⟩ <;> rw [accepted] at refused <;> cases refused
  rfl

end Serve

/-- A command is a body, run once the command is let in, that leaves the books alone. -/
theorem answer_eq_serve (c : Cluster) (now : UInt32) (command : Command) :
    ∃ (α : Type) (kind : Reply α → CommandReply) (body : Cluster → Except Refusal α × Cluster),
      c.answer now command = (c.serve command.policy body).map kind id ∧
        (∀ e, kind (.error e) = command.kind.failed e) ∧ ∀ d, (body d).2.books = d.books := by
  cases command with
  | get policy key selection =>
    exact ⟨_, .record, fun c => (c.readLive now key selection, c), rfl, fun _ => rfl, fun _ => rfl⟩
  | contains policy key =>
    exact ⟨_, .flag, fun c => (.ok (c.isLive now key), c), rfl, fun _ => rfl, fun _ => rfl⟩
  | batchGet policy keys selection =>
    exact ⟨_, .records, fun c => (.ok (keys.map fun key =>
      (c.readLive now key selection).mapError Refusal.toError), c), rfl, fun _ => rfl, fun _ => rfl⟩
  | batchContains policy keys =>
    exact ⟨_, .flags, fun c => (.ok (keys.map (c.isLive now)), c), rfl, fun _ => rfl, fun _ => rfl⟩
  | scanAll _ _ _ | scanNode _ _ _ _ =>
    exact ⟨_, .summary, fun c => (.ok {}, c), rfl, fun _ => rfl, fun _ => rfl⟩
  | delete policy key =>
    refine ⟨_, .flag, _, rfl, fun _ => rfl, fun d => ?_⟩
    cases d.find? key.id with
    | none => rfl
    | some r =>
      dsimp only
      split
      · rfl
      · split <;> rfl
  | operate policy key ops =>
    refine ⟨_, .written, _, rfl, fun _ => rfl, fun d => ?_⟩
    dsimp only
    split
    · rfl
    · cases execute (d.live? now key.id) (key.setName.getD "") policy ops d.recordLimit now with
      | error refusal => rfl
      | ok outcome =>
        dsimp only
        cases outcome.state <;> rfl

/-- **Every command is entered in the books**, and changes nothing else in them. -/
theorem answer_books (c : Cluster) (now : UInt32) (command : Command) :
    (c.answer now command).2.books = c.books.entered command.policy := by
  obtain ⟨α, kind, body, same, -, keeps⟩ := c.answer_eq_serve now command
  rw [same]
  exact serve_books keeps

/-- A command that is turned away fails so, and is entered in the books. -/
theorem answer_of_refused {c : Cluster} {command : Command} {e : ClientError}
    (refused : (c.accept command.policy).1 = .error e) (now : UInt32) :
    c.answer now command = (command.kind.failed e, (c.accept command.policy).2) := by
  obtain ⟨α, kind, body, same, fails, -⟩ := c.answer_eq_serve now command
  rw [same, serve_of_refused refused, ← fails e]
  rfl

end Cluster

end RecordGate
