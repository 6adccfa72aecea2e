import RecordGate.Store.Scan

/-!
# What a scan delivers

Whatever its visitor does, a scan changes the state by visits of rows and by nothing else
(`overNodes_visits`), so a relation that every visit keeps is kept by the scan. A visitor that answers every
row by a verdict, and leaves the nodes as they are, makes scanning in turn and at once come to the same end:
the first failure, node by node, or the summary of every sound record that the nodes' copies hold
(`overNodes_of_judging`). One that welcomes every row is handed all of them, in order
(`overNodes_of_welcoming`). Without the time a scan delivers nothing (`overNodes_of_timeless`).
-/

namespace RecordGate
set_option autoImplicit false

variable {σ : Type}

/-- The state after rows were visited one after another. -/
def Visitor.visits (visit : Visitor σ) (rows : List ScanRow) (s : σ) : σ :=
  rows.foldl (fun s row => (visit row s).2) s

namespace Visitor

variable (visit : Visitor σ)

theorem visits_append (before after : List ScanRow) (s : σ) :
    visit.visits (before ++ after) s = visit.visits after (visit.visits before s) :=
  List.foldl_append

/-- Each of these rows was to be seen after some of the visits of them. -/
def Shown (sees : σ → ScanRow → Prop) (rows : List ScanRow) (s : σ) : Prop :=
  ∀ row ∈ rows, ∃ earlier, earlier <+: rows ∧ sees (visit.visits earlier s) row

namespace Shown

variable {visit} {sees : σ → ScanRow → Prop} {s : σ}

theorem nil : visit.Shown sees [] s := by
  intro row member
  cases member

theorem mono {rows : List ScanRow} (shown : visit.Shown sees rows s) {sees' : σ → ScanRow → Prop}
    (weaker : ∀ t row, sees t row → sees' t row) : visit.Shown sees' rows s := by
  intro row member
  obtain ⟨earlier, part, seen⟩ := shown row member
  exact ⟨earlier, part, weaker _ row seen⟩

theorem append {before after : List ScanRow} (first : visit.Shown sees before s)
    (second : visit.Shown sees after (visit.visits before s)) : visit.Shown sees (before ++ after) s := by
  intro row member
  rcases List.mem_append.1 member with here | there
  · obtain ⟨earlier, part, seen⟩ := first row here
    exact ⟨earlier, part.trans (List.prefix_append before after), seen⟩
  · obtain ⟨earlier, part, seen⟩ := second row there
    refine ⟨before ++ earlier, (List.prefix_append_right_inj before).2 part, ?_⟩
    rw [visits_append]
    exact seen

end Shown

/-- What every visit keeps, a series of visits keeps. -/
theorem visits_keeps {kept : σ → Prop} (keeps : ∀ row s, kept s → kept (visit row s).2)
    (rows : List ScanRow) {s : σ} (start : kept s) : kept (visit.visits rows s) := by
  induction rows generalizing s with
  | nil => exact start
  | cons row rest ih => exact ih (keeps row s start)

end Visitor

/-- What is said of every row of a scan: it is welcome, or why it is not. -/
abbrev Verdict := ScanRow → Reply Unit

namespace Verdict

variable (verdict : Verdict)

/-- The first failure among rows. -/
def first? (rows : List ScanRow) : Option ClientError :=
  rows.findSome? fun row => match verdict row with
    | .ok () => none
    | .error e => some e

/-- The rows up to the first failure, the one included that fails. -/
def handed : List ScanRow → List ScanRow
  | [] => []
  | row :: rest => row :: match verdict row with
    | .ok () => handed rest
    | .error _ => []

theorem first?_cons (row : ScanRow) (rest : List ScanRow) :
    verdict.first? (row :: rest) = match verdict row with
      | .ok () => verdict.first? rest
      | .error e => some e := by
  rw [first?, List.findSome?_cons]
  cases verdict row <;> rfl

theorem first?_append (before after : List ScanRow) :
    verdict.first? (before ++ after) = (verdict.first? before).or (verdict.first? after) :=
  List.findSome?_append

theorem handed_append (before after : List ScanRow) :
    verdict.handed (before ++ after) =
      verdict.handed before ++ if (verdict.first? before).isSome then [] else verdict.handed after := by
  induction before with
  | nil => rfl
  | cons row rest ih =>
    rw [List.cons_append, handed, handed, first?_cons]
    cases verdict row with
    | ok _ => exact congrArg (row :: ·) ih
    | error e => rfl

/-- The first failure among the rows of several parts is that of the first part which fails. -/
theorem first?_flatten (parts : List (List ScanRow)) :
    verdict.first? parts.flatten = parts.findSome? verdict.first? := by
  induction parts with
  | nil => rfl
  | cons rows rest ih =>
    rw [List.flatten_cons, first?_append, ih, List.findSome?_cons]
    cases verdict.first? rows <;> rfl

/-- Parts that are handed over one after another, up to the first failure, have no more rows than each part up to
its own. -/
theorem handed_flatten_sublist (parts : List (List ScanRow)) :
    (verdict.handed parts.flatten).Sublist (parts.flatMap verdict.handed) := by
  induction parts with
  | nil => exact .refl []
  | cons rows rest ih =>
    rw [List.flatten_cons, handed_append, List.flatMap_cons]
    apply List.Sublist.append_left
    split
    · exact List.nil_sublist _
    · exact ih

/-- The verdict to which every row is welcome. -/
def welcome : Verdict := fun _ => .ok ()

theorem first?_welcome (rows : List ScanRow) : first? .welcome rows = none :=
  List.findSome?_eq_none_iff.2 fun _ _ => rfl

theorem handed_welcome (rows : List ScanRow) : handed .welcome rows = rows := by
  induction rows with
  | nil => rfl
  | cons row rest ih => exact congrArg (row :: ·) ih

end Verdict

namespace ScanSummary

/-- The end of a scan: the summary, unless a delivery failed. -/
def barring (summary : ScanSummary) : Option ClientError → Except ScanStop ScanSummary
  | none => .ok summary
  | some e => .error (.failed e)

theorem empty_merge (a : ScanSummary) : merge {} a = a := by
  simp only [merge, Nat.zero_add, Bool.false_or]

/-- The summary of stored records: the sound ones count, a corrupted one is noted. -/
def ofRecords (records : List (Digest × StoredRecord)) : ScanSummary where
  records := (records.filter fun e => !e.2.corrupted).length
  corrupted := records.any fun e => e.2.corrupted

theorem ofRecords_append (a b : List (Digest × StoredRecord)) :
    ofRecords (a ++ b) = (ofRecords a).merge (ofRecords b) := by
  simp only [ofRecords, merge, List.filter_append, List.length_append, List.any_append]

end ScanSummary

namespace ScanScope

variable (scope : ScanScope) (visit : Visitor σ)

/-- The rows of stored records; the corrupted ones have none. -/
def rows (records : List (Digest × StoredRecord)) : List ScanRow :=
  (records.filter fun e => !e.2.corrupted).map fun e => scope.row e.1 e.2

theorem rows_append (a b : List (Digest × StoredRecord)) :
    scope.rows (a ++ b) = scope.rows a ++ scope.rows b := by
  simp only [rows, List.filter_append, List.map_append]

theorem rows_flatMap {α : Type} (parts : List α) (f : α → List (Digest × StoredRecord)) :
    scope.rows (parts.flatMap f) = parts.flatMap fun part => scope.rows (f part) := by
  simp only [rows, List.filter_flatMap, List.map_flatMap]

theorem rows_cons (digest : Digest) (r : StoredRecord) (rest : List (Digest × StoredRecord)) :
    scope.rows ((digest, r) :: rest) =
      if r.corrupted then scope.rows rest else scope.row digest r :: scope.rows rest := by
  cases corrupted : r.corrupted <;> simp [rows, corrupted]

/-! ## Any visitor -/

/-- A row shows a record that a node keeps. -/
def Sees (node : σ → Node) (s : σ) (row : ScanRow) : Prop :=
  ∃ now, row ∈ scope.rows ((node s).snapshot scope.ns scope.setName now)

theorem deliver_visits (records : List (Digest × StoredRecord)) (summary : ScanSummary) (s : σ) :
    ∃ rows, (scope.deliver visit records summary s).2 = visit.visits rows s ∧
      rows ⊆ scope.rows records := by
  induction records generalizing summary s with
  | nil => exact ⟨[], rfl, List.nil_subset _⟩
  | cons e rest ih =>
    obtain ⟨digest, r⟩ := e
    rw [deliver, rows_cons]
    split
    · exact ih _ s
    · split
      · next visited =>
        refine ⟨[scope.row digest r], ?_, List.cons_subset_cons _ (List.nil_subset _)⟩
        rw [Visitor.visits, List.foldl_cons, visited]
        rfl
      · next visited =>
        obtain ⟨rows, after, among⟩ := ih { summary with records := summary.records + 1 } _
        refine ⟨scope.row digest r :: rows, ?_, List.cons_subset_cons _ among⟩
        rw [Visitor.visits, List.foldl_cons, visited]
        exact after

theorem overNode_visits (node : σ → Node) (s : σ) :
    ∃ rows, (scope.overNode visit node s).2 = visit.visits rows s ∧
      visit.Shown (scope.Sees node) rows s := by
  rw [overNode]
  cases scope.now? with
  | none => exact ⟨[], rfl, .nil⟩
  | some now =>
    obtain ⟨rows, after, among⟩ := scope.deliver_visits visit
      ((node s).snapshot scope.ns scope.setName now) {} s
    refine ⟨rows, after, ?_⟩
    intro row member
    exact ⟨[], List.nil_prefix, now, among member⟩

variable {scope visit} in
theorem shown_cons {node : σ → Node} {rest : List (σ → Node)} {before after : List ScanRow} {s : σ}
    (first : visit.Shown (scope.Sees node) before s)
    (others : visit.Shown (fun t row => ∃ n ∈ rest, scope.Sees n t row) after (visit.visits before s)) :
    visit.Shown (fun t row => ∃ n ∈ node :: rest, scope.Sees n t row) (before ++ after) s := by
  apply (first.mono _).append (others.mono _)
  · intro t row seen
    exact ⟨node, List.mem_cons_self, seen⟩
  · rintro t row ⟨n, member, seen⟩
    exact ⟨n, List.mem_cons_of_mem node member, seen⟩

theorem inTurn_visits (nodes : List (σ → Node)) (s : σ) :
    ∃ rows, (scope.inTurn visit nodes s).2 = visit.visits rows s ∧
      visit.Shown (fun t row => ∃ node ∈ nodes, scope.Sees node t row) rows s := by
  induction nodes generalizing s with
  | nil => exact ⟨[], rfl, .nil⟩
  | cons node rest ih =>
    obtain ⟨before, first, shown⟩ := scope.overNode_visits visit node s
    rw [inTurn]
    rcases ended : scope.overNode visit node s with ⟨_ | summary, t⟩ <;> rw [ended] at first
    · refine ⟨before, first, ?_⟩
      rw [← List.append_nil before]
      exact shown_cons shown .nil
    · obtain ⟨after, others, shown'⟩ := ih t
      obtain rfl : t = visit.visits before s := first
      refine ⟨before ++ after, ?_, shown_cons shown shown'⟩
      rw [visit.visits_append, ← others]
      dsimp only
      rcases scope.inTurn visit rest _ with ⟨_ | _, _⟩ <;> rfl

theorem eachNode_visits (nodes : List (σ → Node)) (s : σ) :
    ∃ rows, (scope.eachNode visit nodes s).2 = visit.visits rows s ∧
      visit.Shown (fun t row => ∃ node ∈ nodes, scope.Sees node t row) rows s := by
  induction nodes generalizing s with
  | nil => exact ⟨[], rfl, .nil⟩
  | cons node rest ih =>
    obtain ⟨before, first, shown⟩ := scope.overNode_visits visit node s
    obtain ⟨after, others, shown'⟩ := ih (scope.overNode visit node s).2
    refine ⟨before ++ after, ?_, shown_cons shown (first ▸ shown')⟩
    rw [visit.visits_append, ← first, ← others]
    rfl

/-- A scan changes the state by visits alone, of rows that its nodes show meanwhile. -/
theorem overNodes_visits (concurrent : Bool) (nodes : List (σ → Node)) (s : σ) :
    ∃ rows, (scope.overNodes concurrent visit nodes s).2 = visit.visits rows s ∧
      visit.Shown (fun t row => ∃ node ∈ nodes, scope.Sees node t row) rows s := by
  cases concurrent with
  | false => exact scope.inTurn_visits visit nodes s
  | true => exact scope.eachNode_visits visit nodes s

/-! ## A visitor under a verdict -/

section Judging

variable {scope} {visit} {verdict : Verdict}
  (judges : ∀ row s, (visit row s).1 = (verdict row).mapError .failed)
include judges

theorem deliver_of_judging (records : List (Digest × StoredRecord)) (summary : ScanSummary) (s : σ) :
    scope.deliver visit records summary s =
      ((summary.merge (.ofRecords records)).barring (verdict.first? (scope.rows records)),
        visit.visits (verdict.handed (scope.rows records)) s) := by
  induction records generalizing summary s with
  | nil => simp [deliver, ScanSummary.merge, ScanSummary.ofRecords, ScanSummary.barring, rows, Verdict.first?,
      Verdict.handed, Visitor.visits]
  | cons e rest ih =>
    obtain ⟨digest, r⟩ := e
    have counted : ScanSummary.ofRecords ((digest, r) :: rest) = _ :=
      ScanSummary.ofRecords_append [(digest, r)] rest
    rw [deliver, rows_cons, counted]
    cases corrupted : r.corrupted with
    | true => simp [ih, ScanSummary.merge, ScanSummary.ofRecords, corrupted]
    | false =>
      have judged : visit (scope.row digest r) s =
          ((verdict (scope.row digest r)).mapError .failed, (visit (scope.row digest r) s).2) :=
        Prod.ext (judges _ s) rfl
      rw [if_neg Bool.false_ne_true, if_neg Bool.false_ne_true, judged, Verdict.first?_cons,
        Verdict.handed, Visitor.visits, List.foldl_cons]
      cases verdict (scope.row digest r) with
      | error e => rfl
      | ok _ =>
        dsimp only [Except.mapError]
        rw [ih]
        simp [ScanSummary.merge, ScanSummary.ofRecords, corrupted, Visitor.visits, Nat.add_assoc]

variable {now : UInt32} (timely : scope.now? = some now)
include timely

theorem overNode_of_judging (node : σ → Node) (s : σ) :
    scope.overNode visit node s =
      ((ScanSummary.ofRecords ((node s).snapshot scope.ns scope.setName now)).barring
          (verdict.first? (scope.rows ((node s).snapshot scope.ns scope.setName now))),
        visit.visits (verdict.handed (scope.rows ((node s).snapshot scope.ns scope.setName now))) s) := by
  rw [overNode, timely]
  simp only [deliver_of_judging judges, ScanSummary.empty_merge]

variable {kept : σ → Prop} (keeps : ∀ row s, kept s → kept (visit row s).2)
include keeps

theorem inTurn_of_judging {nodes : List (σ → Node)} {seen : List Node}
    (steady : ∀ s, kept s → nodes.map (· s) = seen) {s : σ} (start : kept s) :
    let records := seen.flatMap (·.snapshot scope.ns scope.setName now)
    scope.inTurn visit nodes s =
      ((ScanSummary.ofRecords records).barring (verdict.first? (scope.rows records)),
        visit.visits (verdict.handed (scope.rows records)) s) := by
  induction nodes generalizing seen s with
  | nil =>
    cases steady s start
    rfl
  | cons node rest ih =>
    obtain rfl := steady s start
    have others : ∀ t, kept t → rest.map (· t) = rest.map (· s) := by
      intro t ht
      exact (List.cons.inj (steady t ht)).2
    have after := visit.visits_keeps keeps
      (verdict.handed (scope.rows ((node s).snapshot scope.ns scope.setName now))) start
    rw [inTurn, overNode_of_judging judges timely]
    simp only [List.map_cons, List.flatMap_cons, ScanSummary.ofRecords_append, scope.rows_append,
      Verdict.first?_append, Verdict.handed_append]
    cases verdict.first? (scope.rows ((node s).snapshot scope.ns scope.setName now)) with
    | some e => simp only [ScanSummary.barring, Option.some_or, Option.isSome_some, if_true, List.append_nil]
    | none =>
      simp only [ScanSummary.barring, Option.none_or, Option.isSome_none, Bool.false_eq_true, if_false,
        visit.visits_append]
      rw [ih others after]
      cases verdict.first? (scope.rows ((rest.map (· s)).flatMap (·.snapshot scope.ns scope.setName now))) <;>
        rfl

theorem eachNode_of_judging {nodes : List (σ → Node)} {seen : List Node}
    (steady : ∀ s, kept s → nodes.map (· s) = seen) {s : σ} (start : kept s) :
    let records (n : Node) := n.snapshot scope.ns scope.setName now
    scope.eachNode visit nodes s =
      (seen.map fun n => (ScanSummary.ofRecords (records n)).barring (verdict.first? (scope.rows (records n))),
        visit.visits (seen.flatMap fun n => verdict.handed (scope.rows (records n))) s) := by
  induction nodes generalizing seen s with
  | nil =>
    cases steady s start
    rfl
  | cons node rest ih =>
    obtain rfl := steady s start
    have others : ∀ t, kept t → rest.map (· t) = rest.map (· s) := by
      intro t ht
      exact (List.cons.inj (steady t ht)).2
    have after := visit.visits_keeps keeps
      (verdict.handed (scope.rows ((node s).snapshot scope.ns scope.setName now))) start
    rw [eachNode, overNode_of_judging judges timely]
    dsimp only
    rw [ih others after]
    simp only [List.map_cons, List.flatMap_cons, visit.visits_append]
    cases verdict.first? (scope.rows ((node s).snapshot scope.ns scope.setName now)) <;> rfl

omit judges timely keeps in
theorem mergeAll_barring (scope : ScanScope) (verdict : Verdict) (parts : List (List (Digest × StoredRecord))) :
    ScanSummary.mergeAll (parts.map fun records =>
        (ScanSummary.ofRecords records).barring (verdict.first? (scope.rows records))) =
      (ScanSummary.ofRecords parts.flatten).barring (verdict.first? (scope.rows parts.flatten)) := by
  induction parts with
  | nil => rfl
  | cons records rest ih =>
    rw [List.map_cons, List.flatten_cons, scope.rows_append, Verdict.first?_append,
      ScanSummary.ofRecords_append]
    cases verdict.first? (scope.rows records) with
    | some e => rfl
    | none =>
      rw [ScanSummary.barring, ScanSummary.mergeAll, ih, Option.none_or]
      cases verdict.first? (scope.rows rest.flatten) <;> rfl

/-- **A scan comes to the same end in turn and at once**: to the first failure, node by node, or to the summary
of all records. -/
theorem overNodes_of_judging (concurrent : Bool) {nodes : List (σ → Node)} {seen : List Node}
    (steady : ∀ s, kept s → nodes.map (· s) = seen) {s : σ} (start : kept s) :
    let records (n : Node) := n.snapshot scope.ns scope.setName now
    scope.overNodes concurrent visit nodes s =
      ((ScanSummary.ofRecords (seen.flatMap records)).barring
          (verdict.first? (scope.rows (seen.flatMap records))),
        visit.visits (if concurrent then seen.flatMap fun n => verdict.handed (scope.rows (records n))
          else verdict.handed (scope.rows (seen.flatMap records))) s) := by
  cases concurrent with
  | false => exact inTurn_of_judging judges timely keeps steady start
  | true =>
    have parts := mergeAll_barring scope verdict (seen.map (·.snapshot scope.ns scope.setName now))
    rw [List.map_map] at parts
    rw [overNodes, if_pos rfl, atOnce, eachNode_of_judging judges timely keeps steady start]
    exact Prod.ext parts rfl

end Judging

/-! ## A visitor that welcomes every row -/

section Welcoming

variable {scope} {visit} (welcomes : ∀ row s, (visit row s).1 = .ok ())
  {now : UInt32} (timely : scope.now? = some now)
include welcomes timely

theorem overNode_of_welcoming (node : σ → Node) (s : σ) :
    scope.overNode visit node s =
      (.ok (.ofRecords ((node s).snapshot scope.ns scope.setName now)),
        visit.visits (scope.rows ((node s).snapshot scope.ns scope.setName now)) s) := by
  have judges : ∀ row s, (visit row s).1 = (Verdict.welcome row).mapError .failed := welcomes
  rw [overNode_of_judging judges timely, Verdict.first?_welcome, Verdict.handed_welcome]
  rfl

/-- A visitor that welcomes every row is handed all of them, whether the nodes are scanned in turn or
at once. -/
theorem overNodes_of_welcoming {kept : σ → Prop} (keeps : ∀ row s, kept s → kept (visit row s).2)
    (concurrent : Bool) {nodes : List (σ → Node)} {seen : List Node}
    (steady : ∀ s, kept s → nodes.map (· s) = seen) {s : σ} (start : kept s) :
    scope.overNodes concurrent visit nodes s =
      (.ok (.ofRecords (seen.flatMap (·.snapshot scope.ns scope.setName now))),
        visit.visits (scope.rows (seen.flatMap (·.snapshot scope.ns scope.setName now))) s) := by
  have judges : ∀ row s, (visit row s).1 = (Verdict.welcome row).mapError .failed := welcomes
  rw [overNodes_of_judging judges timely keeps concurrent steady start]
  simp only [Verdict.first?_welcome, Verdict.handed_welcome, ← rows_flatMap, ite_self]
  rfl

end Welcoming

/-! ## A clock that tells no time -/

/-- Without the time a scan at once fails and a scan in turn crashes, before any visit. -/
theorem overNodes_of_timeless {scope : ScanScope} (timeless : scope.now? = none)
    (visit : Visitor σ) (concurrent : Bool) {nodes : List (σ → Node)} (some : nodes ≠ []) (s : σ) :
    scope.overNodes concurrent visit nodes s =
      (.error (if concurrent then .failed ScanStop.crashed.toError else .crashed), s) := by
  have crash : ∀ node, scope.overNode visit node s = (.error .crashed, s) := by
    intro node
    rw [overNode, timeless]
  have each : ∀ nodes, (scope.eachNode visit nodes s).2 = s := by
    intro nodes
    induction nodes with
    | nil => rfl
    | cons node rest ih =>
      rw [eachNode, crash]
      exact ih
  cases nodes with
  | nil => exact absurd rfl some
  | cons node rest =>
    cases concurrent with
    | false =>
      rw [overNodes, if_neg Bool.false_ne_true, inTurn, crash]
      rfl
    | true =>
      rw [overNodes, if_pos rfl, atOnce, eachNode, crash]
      exact Prod.ext rfl (each rest)

end ScanScope

end RecordGate
