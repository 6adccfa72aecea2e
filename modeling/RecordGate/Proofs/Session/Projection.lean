import RecordGate.Proofs.Session.ReadBack

/-!
# Reads of some bins

A read of named bins answers as a read of the whole record does, with every version of the bins held to the
names; a read of one bin also names its value; and operations that only read answer as a read does, though they
take another way to the record and say in another way that there is none. Where a command crashes for want of
the time, so do the others.
-/

namespace RecordGate
set_option autoImplicit false

/-! ## Some bins -/

/-- The bins of the given names. -/
def BinMap.only (names : List String) (bins : BinMap) : BinMap := bins.filter fun name _ => decide (name ∈ names)

theorem BinMap.get?_only (names : List String) (bins : BinMap) (name : String) :
    (bins.only names).get? name = if name ∈ names then bins.get? name else none := by
  rw [only, OrderedMap.get?_filter]
  by_cases asked : name ∈ names <;> cases bins.get? name <;> simp [asked, Option.filter]

theorem BinSelection.project_named (names : List String) (bins : BinMap) :
    (named names).project bins = bins.only names := by
  apply OrderedMap.ext_get?
  intro name
  have included : (named names).includes name = names.contains name := rfl
  simp only [get?_project, BinMap.get?_only, included, List.contains_iff_mem]

theorem BinSelection.project_all (bins : BinMap) : all.project bins = bins := by
  apply OrderedMap.ext_get?
  intro name
  rw [get?_project]
  rfl

/-- A record with the bins of the given names, in every version. -/
def Record.only (names : List String) (r : Record) : Record :=
  { r with bins := r.bins.only names, versions := r.versions.map (·.map (.only names)) }

theorem StoredRecord.view_named (names : List String) (r : StoredRecord) :
    r.view (.named names) = (r.view .all).only names := by
  have project : (BinSelection.named names).project = BinMap.only names :=
    funext (BinSelection.project_named names)
  have whole : BinSelection.all.project = id := funext BinSelection.project_all
  simp only [view, Record.only, project, whole, List.map_id, id_eq]
  split <;> rfl

namespace CallResult

/-- A result with the bins of the given names, in every version. -/
def only (names : List String) (r : CallResult) : CallResult :=
  { r with bins := r.bins.map (.only names), versions := r.versions.map (·.map (.only names)) }

theorem ofFoundRecord_only (names : List String) (found : Option Record) :
    ofFoundRecord (found.map (.only names)) = (ofFoundRecord found).only names := by
  cases found with
  | none => rfl
  | some r =>
    obtain ⟨bins, generation, expiration, versions⟩ := r
    cases versions <;> rfl

/-- To name one value of what a read found is to look it up among the bins, if there are any. -/
theorem withSingle_ofReply (reply : Reply (Option Record)) (name : String) :
    (ofReply ofFoundRecord reply).withSingle name =
      { ofReply ofFoundRecord reply with single := (ofReply ofFoundRecord reply).value? name } := by
  unfold withSingle
  split
  · rfl
  · next failed =>
    rcases reply with e | _ | r
    · rfl
    · rfl
    · exact absurd (Session.isOk_ofRecord r) failed

end CallResult

/-! ## Replies to reads -/

theorem any_isWrite_reads (names : List String) : (names.map Operation.read).any Operation.isWrite = false := by
  simp [Operation.isWrite]

namespace Cluster

variable {c : Cluster} {now : UInt32} {key : Key}

theorem readLive_congr {selection selection' : BinSelection}
    (same : ∀ name, selection'.includes name = selection.includes name) :
    c.readLive now key selection' = c.readLive now key selection := by
  unfold readLive
  cases c.live? now key.id with
  | none => rfl
  | some r =>
    dsimp only
    rw [r.view_congr same]

theorem readLive_named (names : List String) :
    c.readLive now key (.named names) = (c.readLive now key .all).map (Option.map (.only names)) := by
  unfold readLive
  cases c.live? now key.id with
  | none => rfl
  | some r =>
    dsimp only
    split
    · rfl
    · rw [r.view_named]
      rfl

/-- A read looks at the record once it is let in. -/
theorem get_fst (policy : Policy) (selection : BinSelection) :
    (c.get now policy key selection).1 =
      (c.accept (.read policy)).1.bind fun _ => (c.readLive now key selection).mapError Refusal.toError := by
  by_cases admits : c.Admits
  · rw [get_of_admits admits, accept_of_admits admits]
    rfl
  · obtain ⟨e, d, refused, -⟩ := accept_of_not_admits admits (.read policy)
    rw [get, serve, refused]
    rfl

/-- Operations that only read look at the record once they are let in, and refuse where there is none. -/
theorem operate_fst {ops : List Operation} (reads : ops.any Operation.isWrite = false) (policy : WritePolicy) :
    (c.operate now policy key ops).1 =
      (c.accept (.write policy)).1.bind fun _ =>
        ((c.readLive now key (Operation.selection ops)).bind fun found =>
          found.elim (.error .recordMissing) .ok).mapError Refusal.toError := by
  by_cases admits : c.Admits
  · have live : (c.counted (.write policy)).live? now key.id = c.live? now key.id := rfl
    rw [operate, serve_of_admits admits, accept_of_admits admits, readLive]
    simp only [live, execute_of_reads reads, reads, Bool.not_false, Bool.and_true]
    cases c.live? now key.id with
    | none => rfl
    | some r =>
      simp only [Option.any_some]
      cases r.corrupted <;> rfl
  · obtain ⟨e, d, refused, -⟩ := accept_of_not_admits admits (.write policy)
    rw [operate, serve, refused]
    rfl

theorem get_named (policy policy' : Policy) (names : List String) :
    CallResult.ofReply .ofFoundRecord (c.get now policy key (.named names)).1 =
      (CallResult.ofReply .ofFoundRecord (c.get now policy' key .all).1).only names := by
  rw [get_fst, get_fst, c.accept_fst (.read policy) (.read policy'), readLive_named]
  rcases (c.accept (.read policy')).1 with e | _
  · rfl
  · rcases c.readLive now key .all with e | found
    · rfl
    · exact CallResult.ofFoundRecord_only names found

theorem operate_reads (policy : WritePolicy) (policy' : Policy) (names : List String) :
    CallResult.ofReply .ofRecord (c.operate now policy key (names.map .read)).1 =
      CallResult.ofReply .ofFoundRecord (c.get now policy' key (.named names)).1 := by
  have asks : ∀ name,
      (Operation.selection (names.map .read)).includes name = (BinSelection.named names).includes name :=
    includes_selection_reads (List.forall_mem_nil _) names
  rw [operate_fst (any_isWrite_reads names), get_fst, c.accept_fst (.write policy) (.read policy'),
    readLive_congr asks]
  rcases (c.accept (.read policy')).1 with e | _
  · rfl
  · rcases c.readLive now key (.named names) with e | _ | r <;> rfl

end Cluster

/-! ## Through a gate -/

namespace Session

/-- A reply that asks for the time of the record of a key, as it gets to a gate: there is none at a gate that
holds no client, and none after a crash. -/
def relayed {α : Type} (gate : Gate) (s : Session) (key : Key) (reply : Reply α) : Option (Reply α) :=
  if gate.attached then
    if s.now?.isNone && (s.cluster.accept (.read {})).1.toBool && s.cluster.holds key then none
    else some reply
  else some (.error Gate.notConnected)

theorem relayed_congr {α β : Type} {f : α → CallResult} {g : β → CallResult} {reply : Reply α}
    {reply' : Reply β} (change : CallResult → CallResult)
    (failed : change (.ofError Gate.notConnected) = .ofError Gate.notConnected)
    (same : CallResult.ofReply f reply = change (CallResult.ofReply g reply')) (gate : Gate) (s : Session)
    (key : Key) :
    (relayed gate s key reply).map (.ofReply f) = ((relayed gate s key reply').map (.ofReply g)).map change := by
  unfold relayed
  split
  · split
    · rfl
    · exact congrArg some same
  · exact congrArg some failed.symm

section Reads

variable {s : Session} (script : s.script = []) (seeds : List Host) (gate : Gate) (key : Key)
  (tx : Option TransactionOptions)
include script

/-- A call that asks for the time of one record's key answers as the reply that gets to its gate. -/
theorem run_of_asking {α : Type} {p : Program Session CallResult} (call : GateCall) {command : Command}
    {wrap : Reply α → CommandReply} {f : α → CallResult} {reply : Reply α}
    (made : gate.run (surroundings seeds) call = .result <$> p) (gives : call.command? = some command)
    (asks : s.cluster.asksTime command = s.cluster.holds key)
    (replies : (s.cluster.answer (s.now?.getD 0) command).1 = wrap reply)
    (answers : call.answer (wrap reply) = .result (.ofReply f reply))
    (failed : call.failed Gate.notConnected = .result (.ofError Gate.notConnected)) :
    (p.run s).1 = (relayed gate s key reply).map (.ofReply f) := by
  apply Option.map_injective (f := GateAnswer.result) fun _ _ => GateAnswer.result.inj
  have answer := (answers_run seeds gate call script).answer
  rw [made, Program.run_map, outcome, gives] at answer
  dsimp only at answer
  rw [answer, relayed]
  cases gate.attached with
  | false => exact congrArg some failed
  | true =>
    rw [if_pos rfl, if_pos rfl, served, asks, s.cluster.accept_fst command.policy (.read {})]
    split
    · rfl
    · exact congrArg some ((congrArg call.answer replies).trans answers)

theorem run_getBins (names : List String) :
    ((gate.getBins (surroundings seeds) key names tx).run s).1 =
      (relayed gate s key (s.cluster.get (s.now?.getD 0) (.ofOptions tx) key (.named names)).1).map
        (.ofReply .ofFoundRecord) :=
  run_of_asking script seeds gate key (.getBins key names tx) rfl rfl rfl rfl rfl rfl

theorem run_getAll :
    ((gate.getAll (surroundings seeds) key tx).run s).1 =
      (relayed gate s key (s.cluster.get (s.now?.getD 0) (.ofOptions tx) key .all).1).map
        (.ofReply .ofFoundRecord) :=
  run_of_asking script seeds gate key (.getAll key tx) rfl rfl rfl rfl rfl rfl

theorem run_operate_reads {names : List String} (some : names ≠ []) (options : Option WriteOptions) :
    ((gate.operate (surroundings seeds) key names [] tx options).run s).1 =
      (relayed gate s key (s.cluster.operate (s.now?.getD 0) (.ofOptions tx options) key
        (names.map .read)).1).map (.ofReply .ofRecord) := by
  have nonempty : names.isEmpty = false := List.isEmpty_eq_false_iff.2 some
  have gives : (GateCall.operate key names [] tx options).command? =
      Option.some (.operate (.ofOptions tx options) key (names.map .read)) := by
    rw [GateCall.command?, nonempty]
    rfl
  have written : (GateCall.operate key names [] tx options).ofWritten = .ofRecord := by
    rw [GateCall.ofWritten, nonempty]
    rfl
  refine run_of_asking script seeds gate key (.operate key names [] tx options) rfl gives ?_ rfl ?_ rfl
  · -- Operations ask for the time of a record that is there, and else only to write one.
    rw [Cluster.asksTime, Cluster.operateAsksTime, asksTime, any_isWrite_reads]
    simp
  · rw [GateCall.answer, written]

end Reads

/-- **Reads of some bins are the read of the whole record, held to the names**, whichever way they take. -/
theorem reads_project {s : Session} (script : s.script = []) (gate : Gate) (seeds : List Host) (key : Key)
    (names : List String) (name : String) (tx tx' : Option TransactionOptions) (options : Option WriteOptions) :
    let env := surroundings seeds
    let result (call : Program Session CallResult) := (call.run s).1
    result (gate.getBins env key names tx) = (result (gate.getAll env key tx')).map (.only names) ∧
      result (gate.getBin env key name tx) =
        (result (gate.getBins env key [name] tx)).map (fun r => { r with single := r.value? name }) ∧
      (names ≠ [] →
        result (gate.operate env key names [] tx' options) = result (gate.getBins env key names tx)) := by
  intro env result
  refine ⟨?_, ?_, ?_⟩
  · have all : result (gate.getAll env key tx') = _ := run_getAll script seeds gate key tx'
    have named : result (gate.getBins env key names tx) = _ := run_getBins script seeds gate key tx names
    rw [all, named]
    exact relayed_congr (.only names) rfl (Cluster.get_named _ _ names) gate s key
  · have named : result (gate.getBins env key [name] tx) = _ := run_getBins script seeds gate key tx [name]
    have single : result (gate.getBin env key name tx) =
        (result (gate.getBins env key [name] tx)).map (CallResult.withSingle · name) :=
      congrArg Prod.fst (Program.run_map (CallResult.withSingle · name) (gate.getBins env key [name] tx) s)
    rw [single, named, Option.map_map, Option.map_map]
    exact congrArg (Option.map · _) (funext fun reply => CallResult.withSingle_ofReply reply name)
  · intro some
    have reads : result (gate.operate env key names [] tx' options) = _ :=
      run_operate_reads script seeds gate key tx' some options
    have named : result (gate.getBins env key names tx) = _ := run_getBins script seeds gate key tx names
    rw [reads, named]
    exact (relayed_congr id rfl (Cluster.operate_reads _ _ names) gate s key).trans Option.map_id'

/-- A session with one record, of one version with two bins. -/
def unversioned : Session where
  cluster := (Cluster.ofSize 2 100).put (smallKey 0).id
    { bins := .ofList [("m", .int 2), ("n", .int 1)], generation := 3 }
  clock := 10
  seeds := []

/-- The one bin that is asked for stands alone and among the bins. Where a record has three versions, each is held
to the bin, and its value is not named. -/
theorem reads_project_of_records :
    let gate : Gate := { hosts := [], attached := true }
    let env := surroundings []
    let plain (call : Program Session CallResult) := (call.run unversioned).1
    let conflicted (call : Program Session CallResult) := (call.run versioned).1
    (plain (gate.getAll env (smallKey 0) none) = some { CallResult.ok with
          generation := some 3, bins := some (.ofList [("m", .int 2), ("n", .int 1)]) } ∧
        plain (gate.operate env (smallKey 0) ["m"] [] none none) = some { CallResult.ok with
          generation := some 3, bins := some (.ofList [("m", .int 2)]) } ∧
        plain (gate.getBin env (smallKey 0) "m" none) = some { CallResult.ok with
          generation := some 3, single := some (.int 2), bins := some (.ofList [("m", .int 2)]) }) ∧
      conflicted (gate.getAll env (smallKey 0) none) = some { CallResult.ok with
          generation := some 3, versions := some [.ofList [("n", .int 1)], .ofList [("m", .int 2)], ∅] } ∧
        conflicted (gate.operate env (smallKey 0) ["m"] [] none none) = some { CallResult.ok with
          generation := some 3, versions := some [∅, .ofList [("m", .int 2)], ∅] } ∧
        conflicted (gate.getBin env (smallKey 0) "m" none) = some { CallResult.ok with
          generation := some 3, versions := some [∅, .ofList [("m", .int 2)], ∅] } := by
  intro gate env plain conflicted
  -- The reads of the one bin follow from that of the whole record.
  have held {s : Session} (script : s.script = []) {all : CallResult}
      (whole : ((gate.getAll env (smallKey 0) none).run s).1 = some all) :
      ((gate.operate env (smallKey 0) ["m"] [] none none).run s).1 = some (all.only ["m"]) ∧
        ((gate.getBin env (smallKey 0) "m" none).run s).1 =
          some { all.only ["m"] with single := (all.only ["m"]).value? "m" } := by
    obtain ⟨named, single, reads⟩ :=
      reads_project script gate [] (smallKey 0) ["m"] "m" none none none
    have chosen := named.trans (congrArg (Option.map (CallResult.only ["m"])) whole)
    have one := congrArg (Option.map fun r => { r with single := r.value? "m" }) chosen
    exact ⟨(reads (List.cons_ne_nil _ _)).trans chosen, single.trans one⟩
  obtain ⟨chosen, one⟩ := held (s := unversioned) rfl rfl
  obtain ⟨chosen', one'⟩ := held (s := versioned) rfl rfl
  exact ⟨⟨rfl, chosen, one⟩, rfl, chosen', one'⟩

end Session

end RecordGate
