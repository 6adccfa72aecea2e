import RecordGate.Proofs.Session.Counter
import RecordGate.Proofs.Session.MapWrites
import RecordGate.Proofs.Store.Joining

/-!
# Values grow at both ends

Gates append to a bin and prepend to it, while other calls do with the record what they like but write that
bin, delete the record or let it expire. In the end the bin holds what was prepended to it, the last first,
then what it held, then what was appended (`grows_at_both_ends`); how appends and prepends follow each other
does not matter. An operand that does not fit what is held changes nothing.
-/

namespace RecordGate
set_option autoImplicit false

/-- The end at which a write joins its operands, if it joins them. -/
def Gate.WriteKind.side? : WriteKind → Option End
  | append => some .back
  | prepend => some .front
  | set | add => none

theorem Gate.WriteKind.operation_of_side? {kind : WriteKind} {side : End} (joins : kind.side? = some side) :
    kind.operation = side.operation := by
  cases kind <;> cases joins <;> rfl

/-- Only text and octets are joined. -/
theorem operand_of_joinValue {side : End} {bin : Bin} {held : Option Value} {whole : Value}
    (ok : joinValue side bin held = .ok whole) :
    (∃ s, bin.value = .string s) ∨ ∃ b, bin.value = .bytes b := by
  obtain ⟨name, operand⟩ := bin
  cases operand with
  | string s => exact .inl ⟨s, rfl⟩
  | bytes b => exact .inr ⟨b, rfl⟩
  | _ => rcases held with _ | held <;> first | cases ok | (cases held <;> cases ok)

namespace Event

/-- What a gate is asked to join to a bin of the record of an identity, without options, and at which end. -/
def offered? (id : RecordId) (name : String) (e : Event) : Option (End × Value) :=
  match e.call with
  | .gate _ (.write kind key [⟨bin, operand⟩] _ none) =>
    if key.id = id ∧ bin = name then kind.side?.map (·, operand) else none
  | _ => none

/-- What an event joins to a bin of the record of an identity, and at which end. -/
def joined? (id : RecordId) (name : String) (e : Event) : Option (End × Value) :=
  if e.wrote id then e.offered? id name else none

variable {e : Event} {id : RecordId} {name : String} {side : End} {operand : Value}

/-- An event that is to join to a bin. -/
theorem call_of_offered? (offers : e.offered? id name = some (side, operand)) :
    ∃ gate kind key tx, e.call = .gate gate (.write kind key [⟨name, operand⟩] tx none) ∧
      kind.side? = some side ∧ key.id = id := by
  rw [offered?] at offers
  split at offers
  · next gate kind key bin value tx same =>
    split at offers
    · next here =>
      obtain ⟨here, rfl⟩ := here
      obtain ⟨side', joins, made⟩ := Option.map_eq_some_iff.1 offers
      cases made
      exact ⟨gate, kind, key, tx, same, joins, here⟩
    · cases offers
  · cases offers

section Live

variable (ready : e.before.Ready) {r : StoredRecord} (live : e.before.live? id = some r)
include ready live

/-- **A bin that an event joins to holds what the join makes** of what it held. -/
theorem bin_of_joined (offers : e.offered? id name = some (side, operand)) (wrote : e.wrote id = true) :
    ∃ next whole, e.after.cluster.find? id = some next ∧
      joinValue side ⟨name, operand⟩ (r.bins.get? name) = .ok whole ∧ next.bins.get? name = some whole := by
  obtain ⟨_, kind, key, tx, call, joins, -⟩ := call_of_offered? offers
  obtain ⟨policy, key', ops, next, _, _, _, gives, found, written, -⟩ := stored_of_wrote ready live wrote
  rw [call] at gives
  cases gives
  rw [List.map_singleton, kind.operation_of_side? joins] at written
  obtain ⟨whole, makes, holds⟩ := Written.joined rfl rfl written
  exact ⟨next, whole, found, makes, holds⟩

/-- **A bin grows by what an event joins to it**, and the event does not write it otherwise. -/
theorem grown {start : Option Value} {joins : List (End × Value)} (grown : Grown start joins (r.bins.get? name))
    (spares : e.joined? id name = none → e.writesBin id name = false)
    (there : (e.after.cluster.find? id).isSome = true) :
    ∃ next, e.after.cluster.find? id = some next ∧
      Grown start (joins ++ (e.joined? id name).toList) (next.bins.get? name) := by
  cases joined : e.joined? id name with
  | none =>
    obtain ⟨next, found, kept⟩ := kept_of_spared ready live (spares joined) there
    refine ⟨next, found, ?_⟩
    rw [Option.toList_none, List.append_nil, kept]
    exact grown
  | some join =>
    obtain ⟨side, operand⟩ := join
    obtain ⟨wrote, offers⟩ := Option.ite_none_right_eq_some.1 joined
    obtain ⟨next, whole, found, makes, holds⟩ := bin_of_joined ready live offers wrote
    refine ⟨next, found, ?_⟩
    rw [holds]
    exact grown.join makes

omit live in
/-- A write by a gate that fails changes no record. -/
theorem nodes_of_failed {gate : String} {kind : Gate.WriteKind} {key : Key} {bins : List Bin}
    {tx : Option TransactionOptions} {options : Option WriteOptions}
    (call : e.call = .gate gate (.write kind key bins tx options)) (failed : e.answer.isOk = false) :
    e.after.cluster.nodes = e.before.cluster.nodes := by
  obtain ⟨s, _⟩ := e
  cases call
  cases found : s.gates.get? gate with
  | none =>
    rw [after, DataCall.run, Session.run_call, found]
    rfl
  | some g =>
    have ran := Session.ran_run g.seeds g.gate (.write kind key bins tx options) ready.script
    rw [answer, Session.run_gate found] at failed
    rw [after, Session.run_gate found]
    generalize (g.gate.run (Session.surroundings g.seeds) (.write kind key bins tx options)).run s = x
      at ran failed ⊢
    obtain ⟨answer?, t⟩ := x
    refine ran.unchanged (fun command gives => Session.isWrite_of_write command gives) ?_
    cases answer? with
    | none => rfl
    | some answer => exact failed

/-- **An operand that does not fit fails**: one that is neither text nor octets, or of another type than what the
bin holds. -/
theorem failed_of_unfit (offers : e.offered? id name = some (side, operand))
    (unfit : ((∀ s, operand ≠ .string s) ∧ ∀ b, operand ≠ .bytes b) ∨
      ∃ held, r.bins.get? name = some held ∧ held.typeName ≠ operand.typeName) :
    e.answer.isOk = false ∧ e.after.cluster.nodes = e.before.cluster.nodes := by
  obtain ⟨gate, kind, key, tx, call, -, here⟩ := call_of_offered? offers
  have failed : e.answer.isOk = false := by
    rw [Bool.eq_false_iff]
    intro ok
    have writes : e.call.writes id = true := by
      rw [call, ← here]
      cases kind <;> exact beq_self_eq_true key.id
    obtain ⟨_, _, -, makes, -⟩ := bin_of_joined ready live offers (wrote_of_isOk writes ok)
    rcases unfit with ⟨noText, noOctets⟩ | ⟨held, holds, other⟩
    · rcases operand_of_joinValue makes with ⟨s, same⟩ | ⟨b, same⟩
      · exact noText s same
      · exact noOctets b same
    · rw [holds] at makes
      exact other (typeName_of_joinValue makes)
  exact ⟨failed, nodes_of_failed ready call failed⟩

end Live

end Event

namespace Session

/-- **A run joins to a bin** what its events join, in this order. -/
theorem Run.grown {s t : Session} {events : List Event} (run : Run s events t) (ready : s.Ready) {id : RecordId}
    {r : StoredRecord} (found : s.cluster.find? id = some r)
    (stays : ∀ e ∈ events, (e.before.live? id).isSome = true) {name : String}
    (spares : ∀ e ∈ events, e.joined? id name = none → e.writesBin id name = false)
    (there : (t.cluster.find? id).isSome = true) :
    ∃ next, t.cluster.find? id = some next ∧
      Grown (r.bins.get? name) (events.filterMap (·.joined? id name)) (next.bins.get? name) := by
  induction run with
  | start => exact ⟨r, found, .start _⟩
  | @call past u run call ih =>
    obtain ⟨earlier, now⟩ := List.forall_mem_append.1 stays
    obtain ⟨sparedEarlier, spared⟩ := List.forall_mem_append.1 spares
    obtain ⟨before, live⟩ := Option.isSome_iff_exists.1 (now _ List.mem_cons_self)
    have foundBefore := found_of_live live
    obtain ⟨same, found', grown⟩ := ih earlier sparedEarlier (by rw [foundBefore]; rfl)
    cases foundBefore.symm.trans found'
    rw [List.filterMap_append, List.filterMap_cons, List.filterMap_nil]
    have next := Event.grown (e := ⟨u, call⟩) (run.ready ready) live grown (spared _ List.mem_cons_self) there
    cases joined : Event.joined? id name ⟨u, call⟩ <;> rw [joined] at next <;> exact next
  | aside run nodes spared script ih =>
    have same := Cluster.find?_congr nodes id
    rw [same] at there ⊢
    exact ih stays spares there

/-- **Values grow at both ends.** -/
theorem grows_at_both_ends {s t : Session} (ready : s.Ready) {id : RecordId} {r : StoredRecord}
    (live : s.live? id = some r) (name : String) {events : List Event} (run : Run s events t)
    (lasting : (∀ e ∈ events, (e.before.live? id).isSome = true) ∧ (t.live? id).isSome = true)
    (spares : ∀ e ∈ events, e.joined? id name = none → e.writesBin id name = false) :
    let joins := events.filterMap (·.joined? id name)
    (∃ last, t.live? id = some last ∧ (joins = [] → last.bins.get? name = r.bins.get? name) ∧
        (joins ≠ [] → ∃ whole, last.bins.get? name = some whole ∧
          Value.Concat
            ((payloads .front joins).reverse ++ (r.bins.get? name).toList ++ payloads .back joins) whole)) ∧
      ∀ e ∈ events, ∀ side operand, e.offered? id name = some (side, operand) →
        (((∀ s, operand ≠ .string s) ∧ ∀ b, operand ≠ .bytes b) ∨
          ∃ now held, e.before.live? id = some now ∧ now.bins.get? name = some held ∧
            held.typeName ≠ operand.typeName) →
        e.answer.isOk = false ∧ e.after.cluster.nodes = e.before.cluster.nodes := by
  intro joins
  obtain ⟨stays, there⟩ := lasting
  constructor
  · obtain ⟨last, liveLast⟩ := Option.isSome_iff_exists.1 there
    have foundLast := found_of_live liveLast
    obtain ⟨same, found, grown⟩ :=
      run.grown ready (found_of_live live) stays spares (by rw [foundLast]; rfl)
    cases foundLast.symm.trans found
    exact ⟨last, liveLast, grown.still, grown.whole⟩
  · intro e member side operand offers unfit
    obtain ⟨past, future, rfl⟩ := List.append_of_mem member
    obtain ⟨now, liveThere⟩ := Option.isSome_iff_exists.1 (stays e member)
    refine Event.failed_of_unfit (run.before.ready ready) liveThere offers ?_
    rcases unfit with neither | ⟨now', held, liveThere', holds, other⟩
    · exact .inl neither
    · cases liveThere.symm.trans liveThere'
      exact .inr ⟨held, holds, other⟩

/-- A gate joins to a bin of the contested record. -/
def joinTo (name : String) (kind : Gate.WriteKind) (operand : Value) : DataCall :=
  .gate name (.write kind contested [⟨"t", operand⟩] none none)

/-- Two gates build a text, and octets do not fit in it. -/
def building : List DataCall :=
  [joinTo "first" .append (.string "b"), joinTo "second" .prepend (.bytes [0]), setOne "second" none,
    joinTo "second" .prepend (.string "a"), joinTo "first" .append (.string "c")]

/-- The text is there in the end, and the octets were refused. -/
theorem grows_at_both_ends_of_building :
    (∃ last, (building.foldl (fun s call => (call.run s).2) contest).live? contested.id = some last ∧
        last.bins.get? "t" = some (.string "abc")) ∧
      (eventsOf contest building).map (·.answer.isOk) = [true, false, true, true, true] := by
  have ready : contest.Ready := ⟨⟨rfl, rfl⟩, rfl⟩
  have start : (contest.live? contested.id).map (·.bins.get? "t") = some none := rfl
  obtain ⟨r, live, held⟩ := Option.map_eq_some_iff.1 start
  have lasting : (∀ e ∈ eventsOf contest building, (e.before.live? contested.id).isSome = true) ∧
      ((building.foldl (fun s call => (call.run s).2) contest).live? contested.id).isSome = true := by
    decide +kernel
  have spares : ∀ e ∈ eventsOf contest building, (e.joined? contested.id "t").isNone = true →
      e.writesBin contested.id "t" = false := by
    decide +kernel
  have joins : (eventsOf contest building).filterMap (·.joined? contested.id "t") =
      [(.back, .string "b"), (.front, .string "a"), (.back, .string "c")] := rfl
  obtain ⟨⟨last, there, -, whole⟩, -⟩ :=
    grows_at_both_ends ready live "t" (run_eventsOf contest building) lasting
      fun e member none => spares e member (Option.isNone_iff_eq_none.2 none)
  rw [joins, held] at whole
  obtain ⟨whole, holds, concat⟩ := whole (List.cons_ne_nil _ _)
  have row : Value.Concat (["a", "b", "c"].map .string) whole := concat
  have text : whole = .string "abc" := row.eq_string (List.cons_ne_nil _ _)
  exact ⟨⟨last, there, text ▸ holds⟩, by decide +kernel⟩

end Session

end RecordGate
