import Mathlib.Data.List.Infix
import RecordGate.Log.Router

/-!
# The routing of log lines

What a run of a log delivers, said step by step: a line that is posted goes out once if the threshold of the
latest step that set one admits it, and to the callback of the latest step that set or cleared one
(`LogRouter.due`). The line of an event is its message and then ` name=value` for each other field
(`LogEvent.written`). `LogRouter.lines_routed` says that a run delivers just these lines, in the order of its
steps.
-/

namespace RecordGate
set_option autoImplicit false

universe u v

/-! ## Levels -/

/-- The levels whose lines a threshold admits: its own, and those that are more severe. -/
def LogLevel.admitted : LogLevel → List LogLevel
  | .error => [.error]
  | .warn => [.error, .warn]
  | .info => [.error, .warn, .info]
  | .debug => [.error, .warn, .info, .debug]

theorem LogLevel.mem_admitted {level threshold : LogLevel} :
    level ∈ threshold.admitted ↔ level ≤ threshold := by
  cases threshold <;> cases level <;> decide

/-- The level of an event's line: each severity has its own, except that a trace counts as debug. -/
def Severity.lineLevel : Severity → LogLevel
  | .error => .error
  | .warn => .warn
  | .info => .info
  | .debug => .debug
  | .trace => .debug

theorem Severity.level_eq (severity : Severity) : severity.level = severity.lineLevel := by
  cases severity <;> rfl

/-! ## The line of an event -/

/-- The text of a value in a line. Numbers of a list stand between brackets, and behind the first each has a
comma and a blank before it. -/
def FieldValue.written : FieldValue → String
  | .text s => s
  | .number n => n.repr
  | .flag true => "true"
  | .flag false => "false"
  | .numbers [] => "[]"
  | .numbers (n :: ns) => "[" ++ n.repr ++ String.join (ns.map fun m => ", " ++ m.repr) ++ "]"

theorem intercalate_cons_eq_join (separator first : String) (rest : List String) :
    separator.intercalate (first :: rest) = first ++ String.join (rest.map (separator ++ ·)) := by
  induction rest generalizing first with
  | nil => simp
  | cons second rest ih => simp [ih, String.append_assoc]

theorem FieldValue.display_eq (value : FieldValue) : value.display = value.written := by
  cases value with
  | text s => rfl
  | number n => rfl
  | flag b => cases b <;> rfl
  | numbers ns =>
    cases ns with
    | nil => rfl
    | cons n ns =>
      simp only [display, written, List.map_cons, intercalate_cons_eq_join, List.map_map, String.append_assoc]
      rfl

namespace LogEvent

/-- The parts of the message among some fields: the values of those of that name. -/
def messageParts (fields : List (String × FieldValue)) : String :=
  String.join ((fields.filter (·.1 = "message")).map (·.2.written))

/-- The texts of the other fields, each with a blank before it and an equals sign inside. -/
def fieldTexts (fields : List (String × FieldValue)) : String :=
  String.join ((fields.filter (·.1 ≠ "message")).map fun (name, value) => " " ++ name ++ "=" ++ value.written)

/-- The line of an event, in which the message stands first. -/
def written (e : LogEvent) : String := e.message ++ messageParts e.fields ++ fieldTexts e.fields

section Record

variable {field : String × FieldValue} (parts : LineParts)

theorem record_of_message (named : field.1 = "message") :
    parts.record field = { parts with message := parts.message ++ field.2.written } := by
  have message : LineParts.isMessage field = true := beq_iff_eq.2 named
  rw [LineParts.record, if_pos message, FieldValue.display_eq]

theorem record_of_field (named : field.1 ≠ "message") :
    parts.record field =
      { parts with fields := parts.fields ++ (" " ++ field.1 ++ "=" ++ field.2.written) } := by
  have other : ¬LineParts.isMessage field = true := mt beq_iff_eq.1 named
  rw [LineParts.record, if_neg other, LineParts.fieldText, FieldValue.display_eq]
  rfl

end Record

theorem foldl_record (fields : List (String × FieldValue)) (parts : LineParts) :
    fields.foldl LineParts.record parts =
      { message := parts.message ++ messageParts fields, fields := parts.fields ++ fieldTexts fields } := by
  induction fields generalizing parts with
  | nil => simp [messageParts, fieldTexts]
  | cons field rest ih =>
    rw [List.foldl_cons, ih]
    by_cases named : field.1 = "message"
    · rw [record_of_message parts named]
      simp [messageParts, fieldTexts, named, String.append_assoc]
    · rw [record_of_field parts named]
      simp [messageParts, fieldTexts, named, String.append_assoc]

theorem line_eq (e : LogEvent) : e.line = e.written := by
  unfold line recorded
  rw [List.foldl_cons, record_of_message {} rfl, foldl_record]
  simp [LineParts.finish, written, FieldValue.written]

end LogEvent

namespace LogRouter

variable {κ : Type u}

/-! ## What a step sets and what it posts -/

/-- The threshold that a step sets. -/
def Step.threshold? : Step κ → Option LogLevel
  | .configure level _ | .setLevel level => some level
  | .setCallback _ | .clearCallback | .emit .. | .event _ => none

/-- The callback that a step sets, or none in its place if the step clears it. -/
def Step.callback? : Step κ → Option (Option κ)
  | .configure _ callback => some callback
  | .setCallback callback => some (some callback)
  | .clearCallback => some none
  | .setLevel _ | .emit .. | .event _ => none

/-- The line that a step posts, with its level. -/
def Step.posted? : Step κ → Option (LogLevel × String)
  | .emit level line => some (level, line)
  | .event e => some (e.severity.lineLevel, e.written)
  | .configure .. | .setLevel _ | .setCallback _ | .clearCallback => none

/-- The threshold in force behind some steps: of the latest that sets one. -/
def threshold (r : LogRouter κ) (steps : List (Step κ)) : LogLevel :=
  (steps.filterMap Step.threshold?).getLastD r.level

/-- Where lines go behind some steps: to the callback that was set last, unless it has been cleared since. -/
def destination (r : LogRouter κ) (steps : List (Step κ)) : Option κ :=
  (steps.filterMap Step.callback?).getLastD r.callback

/-- The delivery that is due for a step, by the steps before it. -/
def due (r : LogRouter κ) (before : List (Step κ)) (s : Step κ) : Option (LogDelivery κ) :=
  s.posted?.bind fun (level, line) =>
    if level ∈ (r.threshold before).admitted then some { callback := r.destination before, level, line }
    else none

/-! ## Runs -/

theorem getLastD_filterMap_cons {α : Type u} {β : Type v} (f : α → Option β) (a : α) (as : List α) (d : β) :
    ((a :: as).filterMap f).getLastD d = (as.filterMap f).getLastD ((f a).getD d) := by
  cases made : f a with
  | none => simp [made]
  | some b =>
    rw [List.filterMap_cons_some made]
    exact List.getLastD_cons ..

/-- A step changes the threshold and the callback if it sets them. -/
theorem after_eq (r : LogRouter κ) (s : Step κ) :
    r.after s = { level := s.threshold?.getD r.level, callback := s.callback?.getD r.callback } := by
  cases s <;> rfl

theorem after_of_posted {r : LogRouter κ} {s : Step κ} (posts : s.posted? ≠ none) : r.after s = r := by
  cases s with
  | emit | event => rfl
  | configure | setLevel | setCallback | clearCallback => exact absurd rfl posts

theorem emit_eq (r : LogRouter κ) (level : LogLevel) (line : String) :
    r.emit level line =
      if level ∈ r.level.admitted then some { callback := r.callback, level, line } else none := by
  simp only [emit, enabled_iff, LogLevel.mem_admitted]

/-- An event is looked at twice, to the same effect. -/
theorem event_eq (r : LogRouter κ) (e : LogEvent) : r.event e = r.emit e.level e.line := by
  unfold event emit
  split <;> simp_all

theorem delivers_eq (r : LogRouter κ) (s : Step κ) : r.delivers s = r.due [] s := by
  cases s with
  | emit level line => exact r.emit_eq level line
  | event e =>
    rw [delivers, event_eq, emit_eq, LogEvent.level, Severity.level_eq, LogEvent.line_eq]
    rfl
  | configure | setLevel | setCallback | clearCallback => rfl

theorem foldl_after (r : LogRouter κ) (steps : List (Step κ)) :
    steps.foldl after r = { level := r.threshold steps, callback := r.destination steps } := by
  induction steps generalizing r with
  | nil => rfl
  | cons s rest ih =>
    rw [List.foldl_cons, ih, after_eq]
    simp only [threshold, destination, getLastD_filterMap_cons]

/-- What is due is judged by the router that the steps before left. -/
theorem due_cons (r : LogRouter κ) (s : Step κ) (before : List (Step κ)) (t : Step κ) :
    r.due (s :: before) t = (r.after s).due before t := by
  unfold due threshold destination
  rw [getLastD_filterMap_cons, getLastD_filterMap_cons, after_eq]

theorem run_eq_due (r : LogRouter κ) (steps : List (Step κ)) :
    r.run steps = (steps.inits.zip steps).filterMap fun p => r.due p.1 p.2 := by
  induction steps generalizing r with
  | nil => rfl
  | cons s rest ih =>
    rw [run, ih, List.inits_cons, List.zip_cons_cons, List.filterMap_cons, List.zip_map_left, List.filterMap_map,
      delivers_eq]
    simp only [Function.comp_def, Prod.map_fst, Prod.map_snd, due_cons]
    cases r.due [] s <;> rfl

/-- **Log lines are routed by the setters before them.** A run delivers each line that it posts once if the
threshold in force admits it, and else not at all, in the order of its steps. Lines that are posted leave the
router as it is: it is the one that the setters alone leave. -/
theorem lines_routed (r : LogRouter κ) (steps : List (Step κ)) :
    r.run steps = (steps.inits.zip steps).filterMap (fun p => r.due p.1 p.2) ∧
      steps.foldl after r = { level := r.threshold steps, callback := r.destination steps } ∧
      steps.foldl after r = (steps.filter (·.posted?.isNone)).foldl after r := by
  refine ⟨run_eq_due r steps, foldl_after r steps, ?_⟩
  induction steps generalizing r with
  | nil => rfl
  | cons s rest ih =>
    rw [List.foldl_cons, ih]
    by_cases posts : s.posted? = none
    · simp [posts]
    · rw [after_of_posted posts, List.filter_cons_of_neg (by simpa using posts)]

/-- A program that logs to a callback, and later to the standard sink under another threshold. -/
def excerpt : List (Step Nat) :=
  [.setCallback 7,
    .event ⟨.warn, "slow", [("node", .text "n1"), ("free", .numbers [3, -1]), ("up", .flag true)]⟩,
    .event ⟨.trace, "tick", []⟩,
    .setLevel .debug,
    .clearCallback,
    .event ⟨.trace, "tick", [("count", .number 2)]⟩]

/-- The warning has its fields in its line. A trace is dropped until the threshold is debug. -/
theorem lines_routed_of_excerpt :
    ({} : LogRouter Nat).run excerpt =
        [⟨some 7, .warn, "slow node=n1 free=[3, -1] up=true"⟩, ⟨none, .debug, "tick count=2"⟩] ∧
      excerpt.foldl after {} = { level := .debug, callback := none } := by
  obtain ⟨delivered, left, -⟩ := lines_routed {} excerpt
  exact ⟨delivered.trans rfl, left⟩

end LogRouter

end RecordGate
