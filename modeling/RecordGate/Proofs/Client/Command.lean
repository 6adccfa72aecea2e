import RecordGate.Proofs.Program
import RecordGate.RecordClient

/-!
# Commands as data

A client obeys a command that is given as data by the one of its functions that the command names. The
reply is of the kind of the command. Scans hand their rows to a handler beside the command.
-/

namespace RecordGate
set_option autoImplicit false

/-- The reply to a command, by the kind of its answer. -/
inductive CommandReply where
  | record (reply : Reply (Option Record))
  | flag (reply : Reply Bool)
  | written (reply : Reply Record)
  | records (reply : Reply (List (Reply (Option Record))))
  | flags (reply : Reply (List Bool))
  | summary (reply : Reply ScanSummary)

/-- The kinds of replies. -/
inductive ReplyKind where
  | record
  | flag
  | written
  | records
  | flags
  | summary

/-- The reply of a kind to a command that failed. -/
def ReplyKind.failed (e : ClientError) : ReplyKind → CommandReply
  | record => .record (.error e)
  | flag => .flag (.error e)
  | written => .written (.error e)
  | records => .records (.error e)
  | flags => .flags (.error e)
  | summary => .summary (.error e)

namespace CommandReply

def kind : CommandReply → ReplyKind
  | record _ => .record
  | flag _ => .flag
  | written _ => .written
  | records _ => .records
  | flags _ => .flags
  | summary _ => .summary

/-- Whether the command succeeded. -/
def isOk : CommandReply → Bool
  | record reply => reply.toBool
  | flag reply => reply.toBool
  | written reply => reply.toBool
  | records reply => reply.toBool
  | flags reply => reply.toBool
  | summary reply => reply.toBool

end CommandReply

namespace Command

/-- The kind of the reply to a command. -/
def kind : Command → ReplyKind
  | get .. => .record
  | contains .. | delete .. => .flag
  | operate .. => .written
  | batchGet .. => .records
  | batchContains .. => .flags
  | scanAll .. | scanNode .. => .summary

/-- Whether a command writes a record. -/
def isWrite : Command → Bool
  | .operate _ _ ops => ops.any Operation.isWrite
  | _ => false

/-- Whether a command changes no record: it deletes none and writes none. -/
def isRead : Command → Bool
  | .delete .. => false
  | .operate _ _ ops => !ops.any Operation.isWrite
  | _ => true

/-- The key of the one record that a command may change. -/
def target? : Command → Option Key
  | .delete _ key | .operate _ key _ => some key
  | _ => none

/-- Whether a command writes the record of an identity. -/
def writes (id : RecordId) (command : Command) : Bool :=
  command.isWrite && command.target?.any (·.id == id)

end Command

/-- Give a client a command; the rows of a scan go to the handler. -/
def RecordClient.obey {σ : Type} (client : RecordClient σ) (handle : RowHandler σ) :
    Command → Program σ CommandReply
  | .get policy key selection => .record <$> client.get policy key selection
  | .contains policy key => .flag <$> client.contains policy key
  | .delete policy key => .flag <$> client.delete policy key
  | .operate policy key ops => .written <$> client.operate policy key ops
  | .batchGet policy keys selection => .records <$> client.batchGet policy keys selection
  | .batchContains policy keys => .flags <$> client.batchContains policy keys
  | .scanAll policy ns setName => .summary <$> client.scanAll policy ns setName handle
  | .scanNode policy node ns setName => .summary <$> client.scanNode policy node ns setName handle

/-- The reply is of the kind of the command. -/
theorem RecordClient.kind_of_obey {σ : Type} {client : RecordClient σ} {handle : RowHandler σ}
    {command : Command} {s t : σ} {reply : CommandReply}
    (obeyed : (client.obey handle command).run s = (some reply, t)) : reply.kind = command.kind := by
  have mapped {α : Type} {f : Reply α → CommandReply} {given : Program σ (Reply α)}
      (kind : ∀ a, (f a).kind = command.kind) (obeyed : (f <$> given).run s = (some reply, t)) :
      reply.kind = command.kind := by
    rw [Program.run_map] at obeyed
    obtain ⟨a, -, rfl⟩ := Option.map_eq_some_iff.1 (Prod.mk.inj obeyed).1
    exact kind a
  cases command <;> exact mapped (fun _ => rfl) obeyed

end RecordGate
