import RecordGate.Proofs.Session.Success
import RecordGate.Proofs.Session.Touch
import RecordGate.Proofs.Store.Apart

/-!
# Writes of maps

The bins of a map are written in the order in which the map is enumerated, and a map may be enumerated in any
order. The order has no part in what a write stores (`map_write_stores`), for the bins have names of their
own. It has a part in the code of a write that fails: the first bin decides that cannot be written, and bins
may fail for an operand that cannot be taken or for the type of what is held (`map_write_codes`).
-/

namespace RecordGate
set_option autoImplicit false

/-- A list of the bins of a map, in any order. -/
def Enumerates (map : BinMap) (bins : List Bin) : Prop := bins.Perm (Gate.binsOfMap map)

/-- Any bin of a map may be the first. -/
theorem enumerates_first {α : Type} {map : BinMap} {bin : Bin} (member : bin ∈ Gate.binsOfMap map)
    {f : Bin → Option α} {a : α} (here : f bin = some a) :
    ∃ bins, Enumerates map bins ∧ bins.findSome? f = some a := by
  obtain ⟨before, after, split⟩ := List.append_of_mem member
  refine ⟨bin :: (before ++ after), ?_, ?_⟩
  · rw [Enumerates, split]
    exact List.perm_middle.symm
  · rw [List.findSome?_cons, here]

/-! ## The operations of a write -/

namespace Gate.WriteKind

/-- The operations by which a gate writes bins. -/
def operations (kind : WriteKind) (bins : List Bin) : List Operation :=
  bins.map kind.operation ++ [.readHeader]

/-- Whether a way to write takes an operand. -/
def takes : WriteKind → Value → Bool
  | set, _ => true
  | append, .string _ | append, .bytes _ | prepend, .string _ | prepend, .bytes _ => true
  | add, .int _ | add, .float _ => true
  | _, _ => false

/-- The code with which a bin fails that is written over what is held: an operand must be taken, and be of
the type of the value that it joins. -/
def fault? (kind : WriteKind) (held : BinMap) (bin : Bin) : Option ResultCode :=
  if kind.takes bin.value = false then some .parameterError
  else if kind ≠ .set ∧ (held.get? bin.name).any (·.typeName != bin.value.typeName) = true then
    some .binTypeError
  else none

variable (kind : WriteKind)

theorem writesBin_operation (bin : Bin) (name : String) :
    (kind.operation bin).writesBin name = (bin.name == name) := by
  cases kind <;> rfl

theorem isWrite_operation (bin : Bin) : (kind.operation bin).isWrite = true := by
  cases kind <;> rfl

theorem isTouch_operation (bin : Bin) : (kind.operation bin).isTouch = false := by
  cases kind <;> rfl

/-- A bin fails alone with its fault. -/
theorem code_refusal? (held : BinMap) (bin : Bin) :
    ((kind.operation bin).refusal? held).map (fun refusal => .ofNative refusal.code) =
      kind.fault? held bin := by
  obtain ⟨name, operand⟩ := bin
  cases kind with
  | set => rfl
  | append | prepend | add =>
    rw [fault?, Operation.refusal?, operation]
    simp only [applyOperation, Refusal.of?_map]
    rcases held.get? name with _ | value <;> cases operand <;> first | rfl | (cases value <;> rfl)

/-- The first fault decides with which code the operations are refused. -/
theorem code_operations (held : BinMap) (bins : List Bin) :
    ((kind.operations bins).findSome? (·.refusal? held)).map (fun refusal => .ofNative refusal.code) =
      bins.findSome? (kind.fault? held) := by
  have header : [Operation.readHeader].findSome? (·.refusal? held) = none := rfl
  rw [operations, List.findSome?_append, header, Option.or_none, List.findSome?_map, List.map_findSome?]
  exact congrArg (bins.findSome? ·) (funext fun bin => kind.code_refusal? held bin)

theorem fault?_cases {kind : WriteKind} {held : BinMap} {bin : Bin} {code : ResultCode}
    (fault : kind.fault? held bin = some code) : code = .parameterError ∨ code = .binTypeError := by
  rw [fault?] at fault
  split at fault
  · exact .inl (Option.some.inj fault).symm
  · split at fault
    · exact .inr (Option.some.inj fault).symm
    · cases fault

/-- Some bins of a map have an operand that cannot be taken, and others are held with another type. -/
def Mixed (kind : WriteKind) (held map : BinMap) : Prop :=
  (∃ bin ∈ binsOfMap map, kind.fault? held bin = some .parameterError) ∧
    ∃ bin ∈ binsOfMap map, kind.fault? held bin = some .binTypeError

/-- The first faults in two orders are of one code, unless there are faults of either. -/
theorem fault?_perm {held map : BinMap} {first second : List Bin} (one : Enumerates map first)
    (two : Enumerates map second) {code code' : ResultCode}
    (fault : first.findSome? (kind.fault? held) = some code)
    (fault' : second.findSome? (kind.fault? held) = some code') : code' = code ∨ kind.Mixed held map := by
  obtain ⟨bin, member, here⟩ := List.exists_of_findSome?_eq_some fault
  obtain ⟨bin', member', here'⟩ := List.exists_of_findSome?_eq_some fault'
  rw [one.mem_iff] at member
  rw [two.mem_iff] at member'
  rcases fault?_cases here with rfl | rfl <;> rcases fault?_cases here' with rfl | rfl
  · exact .inl rfl
  · exact .inr ⟨⟨bin, member, here⟩, bin', member', here'⟩
  · exact .inr ⟨⟨bin', member', here'⟩, bin, member, here⟩
  · exact .inl rfl

theorem any_isTouch_operations (bins : List Bin) : (kind.operations bins).any Operation.isTouch = false := by
  rw [operations, List.any_append, List.any_map, List.any_eq_false.2]
  · rfl
  · intro bin _
    rw [Function.comp_apply, isTouch_operation]
    exact Bool.false_ne_true

theorem any_isWrite_operations {bins : List Bin} (nonempty : bins ≠ []) :
    (kind.operations bins).any Operation.isWrite = true := by
  obtain ⟨bin, rest, rfl⟩ := List.exists_cons_of_ne_nil nonempty
  rw [operations, List.map_cons, List.cons_append, List.any_cons, isWrite_operation, Bool.true_or]

/-- The bins of a map have names of their own. -/
theorem apart_operations {map : BinMap} {bins : List Bin} (enumerates : Enumerates map bins) :
    (kind.operations bins).Pairwise Operation.Apart := by
  have listed : (Gate.binsOfMap map).Pairwise fun a b => a.name ≠ b.name := by
    rw [binsOfMap, List.pairwise_map]
    refine map.ascending.imp ?_
    rintro ⟨a, _⟩ ⟨b, _⟩ before rfl
    exact KeyOrder.irrefl _ before
  have distinct : bins.Pairwise fun a b => a.name ≠ b.name :=
    (enumerates.pairwise_iff Ne.symm).2 listed
  rw [operations, List.pairwise_append]
  refine ⟨List.pairwise_map.2 (distinct.imp ?_), List.pairwise_singleton _ _, ?_⟩
  · intro a b apart name
    rw [writesBin_operation, writesBin_operation, Bool.and_eq_false_iff, beq_eq_false_iff_ne,
      beq_eq_false_iff_ne]
    exact not_and_or.1 fun both => apart (both.1.trans both.2.symm)
  · intro op _ header member name
    rw [List.mem_singleton.1 member]
    exact Bool.and_false _

theorem operations_perm {bins bins' : List Bin} (order : bins.Perm bins') :
    (kind.operations bins).Perm (kind.operations bins') :=
  (order.map _).append_right _

end Gate.WriteKind

namespace Session

variable {s : Session}

/-- A write is let in and refused for its bins, at the time of a session. -/
structure Unmade (s : Session) (policy : WritePolicy) (key : Key) (ops : List Operation) (refusal : Refusal) :
    Prop where
  cluster : s.cluster.Unmade (s.now?.getD 0) policy key ops refusal
  served : s.served (.operate policy key ops) =
    (some (.written (.error refusal.toError)), s.cluster.counted (.write policy))

theorem unmade_of_told {now : UInt32} (told : s.now? = some now) {policy : WritePolicy} {key : Key}
    {ops : List Operation} {refusal : Refusal}
    (unmade : s.cluster.Unmade (s.now?.getD 0) policy key ops refusal) : s.Unmade policy key ops refusal where
  cluster := unmade
  served := by
    have failed := unmade.failed
    rw [told, Option.getD_some] at failed
    rw [served_of_told told, Cluster.answer, failed]
    rfl

/-- A write made of operations on bins of their own comes to the same in any order, or its bins are refused in
any order. -/
theorem served_perm {ops ops' : List Operation} (apart : ops.Pairwise Operation.Apart)
    (order : ops.Perm ops') (writes : ops.any Operation.isWrite = true)
    (untouched : ops.any Operation.isTouch = false) (policy : WritePolicy) (key : Key) :
    s.served (.operate policy key ops') = s.served (.operate policy key ops) ∨
      ∃ refusal refusal', s.Unmade policy key ops refusal ∧ s.Unmade policy key ops' refusal' := by
  have asks : s.cluster.asksTime (.operate policy key ops') = s.cluster.asksTime (.operate policy key ops) :=
    congrArg (s.cluster.holds key || ·) (asksTime_perm apart order)
  have same : ∀ ops, (Command.operate policy key ops).policy = .write policy := fun _ => rfl
  by_cases crash : (s.now?.isNone && (s.cluster.accept (.write policy)).1.toBool &&
      s.cluster.asksTime (.operate policy key ops)) = true
  · left
    rw [served, served, asks, same, same, if_pos crash, if_pos crash]
  have answered (given : List Operation)
      (asks : s.cluster.asksTime (.operate policy key given) = s.cluster.asksTime (.operate policy key ops)) :
      s.served (.operate policy key given) =
        (s.cluster.answer (s.now?.getD 0) (.operate policy key given)).map some id := by
    rw [served, same, asks, if_neg crash]
  rcases Cluster.operate_perm apart order policy writes untouched with
    same | ⟨refusal, refusal', unmade, unmade'⟩
  · left
    rw [answered ops rfl, answered ops' asks, Cluster.answer, Cluster.answer, same]
  · refine .inr ⟨refusal, refusal', ⟨unmade, ?_⟩, unmade', ?_⟩
    · rw [answered ops rfl, Cluster.answer, unmade.failed]
      rfl
    · rw [answered ops' asks, Cluster.answer, unmade'.failed]
      rfl

section Writes

variable {gate : Gate} {kind : Gate.WriteKind} {key : Key} {map : BinMap} {first second : List Bin}
  {tx : Option TransactionOptions} {options : Option WriteOptions}

/-- A write of bins: there must be some, and the gate must hold a client. -/
theorem outcome_write (bins : List Bin) :
    outcome gate s (.write kind key bins tx options) =
      if bins.isEmpty then (some (.result (.ofCode .parameterError)), s.cluster)
      else if gate.attached then
        (s.served (.operate (.ofOptions tx options) key (kind.operations bins))).map
          (Option.map (GateCall.write kind key bins tx options).answer) id
      else (some (.result (.ofError Gate.notConnected)), s.cluster) := by
  cases bins <;> rfl

/-- What a write comes to whose bins are refused. -/
theorem outcome_of_unmade (attached : gate.attached = true) {bins : List Bin} (nonempty : bins ≠ [])
    {refusal : Refusal} (unmade : s.Unmade (.ofOptions tx options) key (kind.operations bins) refusal) :
    outcome gate s (.write kind key bins tx options) =
      (some (.result (.ofCode (.ofNative refusal.code))),
        s.cluster.counted (.write (.ofOptions tx options))) := by
  rw [outcome_write, if_neg (mt List.isEmpty_iff.1 nonempty), if_pos attached, unmade.served,
    ← CallResult.ofError_toError]
  rfl

/-- A write of a map comes to the same in any order, or its bins are refused in any order. -/
theorem outcome_perm (one : Enumerates map first) (two : Enumerates map second) :
    outcome gate s (.write kind key second tx options) = outcome gate s (.write kind key first tx options) ∨
      gate.attached = true ∧ first ≠ [] ∧ second ≠ [] ∧ ∃ refusal refusal',
        s.Unmade (.ofOptions tx options) key (kind.operations first) refusal ∧
        s.Unmade (.ofOptions tx options) key (kind.operations second) refusal' := by
  have order : first.Perm second := one.trans two.symm
  by_cases empty : first = []
  · subst empty
    rw [order.nil_eq]
    exact .inl rfl
  have nonempty : second ≠ [] := by
    rintro rfl
    exact empty order.eq_nil
  rw [outcome_write, outcome_write, if_neg (mt List.isEmpty_iff.1 empty),
    if_neg (mt List.isEmpty_iff.1 nonempty)]
  cases attached : gate.attached with
  | false => exact .inl rfl
  | true =>
    rcases served_perm (kind.apart_operations one) (kind.operations_perm order)
        (kind.any_isWrite_operations empty) (kind.any_isTouch_operations first) (.ofOptions tx options) key with
      same | unmade
    · left
      rw [same]
      rfl
    · exact .inr ⟨rfl, empty, nonempty, unmade⟩

theorem isWrite_of_write {bins : List Bin} (command : Command)
    (gives : (GateCall.write kind key bins tx options).command? = some command) : command.isWrite = true := by
  rw [GateCall.command?] at gives
  split at gives
  · cases gives
  · next nonempty =>
    cases gives
    exact kind.any_isWrite_operations (mt List.isEmpty_iff.2 nonempty)

/-- A write of bins answers with one result. -/
theorem result_of_write {bins : List Bin} {answer : GateAnswer}
    (answered : (outcome gate s (.write kind key bins tx options)).1 = some answer) :
    ∃ r, answer = .result r := by
  rw [outcome_write, served] at answered
  split at answered
  · exact ⟨_, (Option.some.inj answered).symm⟩
  · split at answered
    · split at answered
      · cases answered
      · exact ⟨_, (Option.some.inj answered).symm⟩
    · exact ⟨_, (Option.some.inj answered).symm⟩

/-! ## What is stored -/

/-- What two runs of a write come to that store the same. -/
inductive StoresAlike (s : Session) (key : Key) :
    Option GateAnswer × Session → Option GateAnswer × Session → Prop
  /-- Both succeed with one result, and leave one cluster; the record has the generation that they report. -/
  | stored {r : CallResult} {t u : Session} (next : StoredRecord) (ok : r.code = .ok)
      (cluster : u.cluster = t.cluster) (found : t.cluster.find? key.id = some next)
      (generation : r.generation = some next.generation) :
      StoresAlike s key (some (.result r), t) (some (.result r), u)
  /-- Both fail, and change no record. -/
  | failed {r r' : CallResult} {t u : Session} (failed : r.code ≠ .ok) (failed' : r'.code ≠ .ok)
      (nodes : t.cluster.nodes = s.cluster.nodes) (nodes' : u.cluster.nodes = s.cluster.nodes) :
      StoresAlike s key (some (.result r), t) (some (.result r'), u)
  /-- Both crash, for the clock tells no time. -/
  | crashed {t u : Session} (timeless : s.now? = none) (nodes : t.cluster.nodes = s.cluster.nodes)
      (nodes' : u.cluster.nodes = s.cluster.nodes) :
      StoresAlike s key (none, t) (none, u)

/-- A write that answers as another and leaves the same cluster stores the same. -/
theorem storesAlike_of_same (faults : s.cluster.faults = []) {bins : List Bin}
    {answer? : Option GateAnswer} {t u : Session}
    (answers : Answers gate s (.write kind key bins tx options) (answer?, t)) (same : u.cluster = t.cluster) :
    StoresAlike s key (answer?, t) (answer?, u) := by
  have unchanged (failed : answer?.any (·.isOk) = false) : t.cluster.nodes = s.cluster.nodes :=
    answers.ran.unchanged isWrite_of_write failed
  cases answer? with
  | none =>
    have timeless : s.now? = none := by
      cases answers.ran
      assumption
    exact .crashed timeless (unchanged rfl) (same ▸ unchanged rfl)
  | some answer =>
    obtain ⟨r, rfl⟩ := result_of_write answers.answer.symm
    by_cases ok : r.code = .ok
    · obtain ⟨-, -, e, rest, some, -⟩ | ⟨next, found, generation, -⟩ :=
        stored_of_write answers (beq_iff_eq.2 ok)
      · cases faults.symm.trans some
      · exact .stored next ok same found generation
    · have failed : (some (GateAnswer.result r)).any (·.isOk) = false := beq_eq_false_iff_ne.2 ok
      exact .failed ok ok (unchanged failed) (same ▸ unchanged failed)

/-- **Writes of a map store the same in any order** in which the map is enumerated. -/
theorem map_write_stores (faults : s.cluster.faults = []) (script : s.script = []) (seeds : List Host)
    (gate : Gate) (kind : Gate.WriteKind) (key : Key) {map : BinMap} {first second : List Bin}
    (one : Enumerates map first) (two : Enumerates map second) (tx : Option TransactionOptions)
    (options : Option WriteOptions) :
    StoresAlike s key ((gate.run (surroundings seeds) (.write kind key first tx options)).run s)
      ((gate.run (surroundings seeds) (.write kind key second tx options)).run s) := by
  have answers := answers_run seeds gate (.write kind key first tx options) script
  have answers' := answers_run seeds gate (.write kind key second tx options) script
  generalize (gate.run _ (.write kind key first tx options)).run s = x at answers
  generalize (gate.run _ (.write kind key second tx options)).run s = y at answers'
  obtain ⟨answer, t⟩ := x
  obtain ⟨answer', u⟩ := y
  have replied : answer = _ := answers.answer
  have replied' : answer' = _ := answers'.answer
  have cluster := answers.atop.cluster
  have cluster' := answers'.atop.cluster
  rcases outcome_perm one two with same | ⟨attached, some, some', refusal, refusal', unmade, unmade'⟩
  · rw [same, ← replied] at replied'
    rw [same, ← cluster] at cluster'
    subst replied'
    exact storesAlike_of_same faults answers cluster'
  · rw [outcome_of_unmade attached some unmade] at replied cluster
    rw [outcome_of_unmade attached some' unmade'] at replied' cluster'
    have failed (refusal : Refusal) : (CallResult.ofCode (.ofNative refusal.code)).code ≠ .ok := by
      rw [← CallResult.ofError_toError]
      exact beq_eq_false_iff_ne.1 (isOk_ofError refusal)
    subst replied replied'
    have nodes : t.cluster.nodes = _ := congrArg Cluster.nodes cluster
    have nodes' : u.cluster.nodes = _ := congrArg Cluster.nodes cluster'
    exact .failed (failed refusal) (failed refusal') nodes nodes'

/-- A map of two texts. -/
def greetings : BinMap := OrderedMap.ofList [("a", .string "good"), ("b", .string "day")]

/-- Two texts are appended in either order to the contested record, which has neither yet. -/
theorem map_write_stores_of_greetings :
    let gate : Gate := { hosts := [], attached := true }
    let run bins := (gate.run (surroundings []) (.write .append contested bins none none)).run contest
    Enumerates greetings [⟨"a", .string "good"⟩, ⟨"b", .string "day"⟩] ∧
      Enumerates greetings [⟨"b", .string "day"⟩, ⟨"a", .string "good"⟩] ∧
      StoresAlike contest contested (run [⟨"a", .string "good"⟩, ⟨"b", .string "day"⟩])
        (run [⟨"b", .string "day"⟩, ⟨"a", .string "good"⟩]) := by
  have one : Enumerates greetings [⟨"a", .string "good"⟩, ⟨"b", .string "day"⟩] := .refl _
  have two : Enumerates greetings [⟨"b", .string "day"⟩, ⟨"a", .string "good"⟩] := .swap _ _ _
  exact ⟨one, two, map_write_stores rfl rfl [] _ .append contested one two none none⟩

/-! ## Codes -/

/-- The bins that a write of a key finds. -/
def heldBins (s : Session) (key : Key) : BinMap :=
  ((s.cluster.live? (s.now?.getD 0) key.id).map (·.bins)).getD ∅

/-- A write gets as far as its bins: the gate holds a client, the cluster lets the command in, and the record
that is there passes the check. -/
structure Attempted (gate : Gate) (s : Session) (policy : WritePolicy) (key : Key) : Prop where
  attached : gate.attached = true
  admits : s.cluster.Admits
  checked : ∃ disposition, checkWrite (s.cluster.live? (s.now?.getD 0) key.id) policy = .ok disposition

/-- Bins that are refused past the check are refused with the code of the first fault among them. -/
theorem findSome?_of_refused {bins : List Bin} (enumerates : Enumerates map bins) {refusal : Refusal}
    (refused : writeBins (s.cluster.live? (s.now?.getD 0) key.id) (.ofOptions tx options)
      (kind.operations bins) = .error refusal)
    {disposition : Disposition}
    (checked : checkWrite (s.cluster.live? (s.now?.getD 0) key.id) (.ofOptions tx options) = .ok disposition) :
    bins.findSome? (kind.fault? (s.heldBins key)) = some (.ofNative refusal.code) := by
  rcases (writeBins_eq_error_iff (replaces_ofOptions tx options) (kind.apart_operations enumerates)).1
      refused with early | ⟨-, first⟩
  · cases checked.symm.trans early
  · rw [← Gate.WriteKind.code_operations, heldBins, first]
    rfl

/-- The first fault among the bins of a write that gets as far as them is its answer. -/
theorem answer_of_fault {now : UInt32} (told : s.now? = some now) (script : s.script = []) (seeds : List Host)
    (attempted : Attempted gate s (.ofOptions tx options) key) {bins : List Bin}
    (enumerates : Enumerates map bins) {code : ResultCode}
    (fault : bins.findSome? (kind.fault? (s.heldBins key)) = some code) :
    ((gate.run (surroundings seeds) (.write kind key bins tx options)).run s).1 =
      some (.result (.ofCode code)) := by
  have nonempty : bins ≠ [] := by
    rintro rfl
    cases fault
  obtain ⟨attached, admits, checked⟩ := attempted
  rw [← Gate.WriteKind.code_operations] at fault
  obtain ⟨refusal, first, rfl⟩ := Option.map_eq_some_iff.1 fault
  have refused := (writeBins_eq_error_iff (replaces_ofOptions tx options)
    (kind.apart_operations enumerates)).2 (.inr ⟨checked, first⟩)
  have unmade := Cluster.unmade_of_refused admits (kind.any_isWrite_operations nonempty)
    (kind.any_isTouch_operations bins) refused
  rw [(answers_run seeds gate _ script).answer, outcome_of_unmade attached nonempty (unmade_of_told told unmade)]

/-- Two orders have one answer, or the write gets as far as its bins and they are mixed. -/
theorem answer_perm (script : s.script = []) (seeds : List Host) (one : Enumerates map first)
    (two : Enumerates map second) :
    ((gate.run (surroundings seeds) (.write kind key second tx options)).run s).1 =
        ((gate.run (surroundings seeds) (.write kind key first tx options)).run s).1 ∨
      Attempted gate s (.ofOptions tx options) key ∧ kind.Mixed (s.heldBins key) map := by
  rw [(answers_run seeds gate _ script).answer, (answers_run seeds gate _ script).answer]
  rcases outcome_perm one two with same | ⟨attached, some, some', refusal, refusal', unmade, unmade'⟩
  · exact .inl (congrArg Prod.fst same)
  · rw [outcome_of_unmade attached some unmade, outcome_of_unmade attached some' unmade']
    have refused := unmade.cluster.refused
    have refused' := unmade'.cluster.refused
    cases check : checkWrite (s.cluster.live? (s.now?.getD 0) key.id) (.ofOptions tx options) with
    | error early =>
      -- The check comes before the bins, so it refuses them in any order.
      cases (writeBins_of_checkWrite check _).symm.trans refused
      cases (writeBins_of_checkWrite check _).symm.trans refused'
      exact .inl rfl
    | ok disposition =>
      rcases kind.fault?_perm one two (findSome?_of_refused one refused check)
        (findSome?_of_refused two refused' check) with same | mixed
      · left
        rw [same]
      · exact .inr ⟨⟨attached, unmade.cluster.admits, disposition, check⟩, mixed⟩

end Writes

/-- **What decides the code of a map write that fails.** Two orders of the map have one answer unless the write
gets as far as its bins, and some of them have an operand that cannot be taken and others are held with another
type. Then the first bin that has a fault decides, and there are orders in which it is of either kind. -/
theorem map_write_codes {s : Session} (script : s.script = []) (seeds : List Host) (gate : Gate)
    (kind : Gate.WriteKind) (key : Key) (map : BinMap) (tx : Option TransactionOptions)
    (options : Option WriteOptions) :
    let answer bins := ((gate.run (surroundings seeds) (.write kind key bins tx options)).run s).1
    let attempted := Attempted gate s (.ofOptions tx options) key
    let mixed := attempted ∧ kind.Mixed (s.heldBins key) map
    (∀ first second, Enumerates map first → Enumerates map second → answer second = answer first ∨ mixed) ∧
      ∀ now, s.now? = some now →
        (attempted → ∀ bins code, Enumerates map bins →
          bins.findSome? (kind.fault? (s.heldBins key)) = some code →
            answer bins = some (.result (.ofCode code))) ∧
        (mixed → ∃ first second, Enumerates map first ∧ Enumerates map second ∧
          answer first = some (.result (.ofCode .parameterError)) ∧
          answer second = some (.result (.ofCode .binTypeError))) := by
  intro answer attempted mixed
  refine ⟨fun first second one two => answer_perm script seeds one two, fun now told => ⟨?_, ?_⟩⟩
  · intro attempted bins code enumerates fault
    exact answer_of_fault told script seeds attempted enumerates fault
  · rintro ⟨attempted, ⟨bin, member, fault⟩, bin', member', fault'⟩
    obtain ⟨first, one, here⟩ := enumerates_first member fault
    obtain ⟨second, two, here'⟩ := enumerates_first member' fault'
    exact ⟨first, second, one, two, answer_of_fault told script seeds attempted one here,
      answer_of_fault told script seeds attempted two here'⟩

/-- A map of a number, and of a text for the bin of the contested record that holds a number. -/
def misfits : BinMap := OrderedMap.ofList [("a", .int 1), ("n", .string "x")]

/-- Neither can be appended, and which comes first is seen. -/
theorem map_write_codes_of_misfits :
    let gate : Gate := { hosts := [], attached := true }
    let answer bins := ((gate.run (surroundings []) (.write .append contested bins none none)).run contest).1
    contest.script = [] ∧
      ∃ first second, Enumerates misfits first ∧ Enumerates misfits second ∧
        answer first = some (.result (.ofCode .parameterError)) ∧
        answer second = some (.result (.ofCode .binTypeError)) := by
  intro gate answer
  have told : contest.now? = some 10 := rfl
  have attempted : Attempted gate contest (.ofOptions none none) contested := ⟨rfl, ⟨rfl, rfl⟩, .apply, rfl⟩
  obtain ⟨-, codes⟩ := map_write_codes (s := contest) rfl [] gate .append contested misfits none none
  exact ⟨rfl, (codes 10 told).2 ⟨attempted, ⟨⟨"a", .int 1⟩, .head _, rfl⟩,
    ⟨"n", .string "x"⟩, .tail _ (.head _), rfl⟩⟩

/-- Appended to the contested record, one map fails with a code in one order and with another in the other. -/
theorem code_of_misfits :
    let gate : Gate := { hosts := [], attached := true }
    let answer bins := ((gate.run (surroundings []) (.write .append contested bins none none)).run contest).1
    let first : List Bin := [⟨"a", .int 1⟩, ⟨"n", .string "x"⟩]
    let second : List Bin := [⟨"n", .string "x"⟩, ⟨"a", .int 1⟩]
    Enumerates misfits first ∧ Enumerates misfits second ∧
      answer first = some (.result (.ofCode .parameterError)) ∧
      answer second = some (.result (.ofCode .binTypeError)) :=
  ⟨.refl _, .swap _ _ _, rfl, rfl⟩

end Session

end RecordGate
