import Mathlib.Data.List.DropRight
import RecordGate.Options.Policies

/-!
# Conditions as independent switches

Options keep one generation mode. To callers they are switches instead: each builder call turns its own one on, a
clear turns those of the modes off, and the strongest that is on counts (`ofOptions_ofSettings`). The mode kept
stands for the strongest switch, and carries the generation that all of them share (`Shows`).
-/

namespace RecordGate.WriteOptions
set_option autoImplicit false

/-- The conditions of a write, each a switch of its own. -/
structure Switches where
  expiration : UInt32 := 0
  unique : Bool := false
  equal : Bool := false
  atLeast : Bool := false
  keepDuplicate : Bool := false
  /-- The generation that the switches of modes share. -/
  generation : UInt32 := 0

namespace Switches

/-- Turn on the switch of a mode. -/
def turnOn (s : Switches) : GenerationMode → Switches
  | .expectEqual g => { s with equal := true, generation := g }
  | .expectAtLeast g => { s with atLeast := true, generation := g }
  | .keepDuplicate g => { s with keepDuplicate := true, generation := g }
  | .unchecked => s

/-- Turn the switches of all modes off. -/
def clear (s : Switches) : Switches :=
  { s with equal := false, atLeast := false, keepDuplicate := false, generation := 0 }

def set (s : Switches) : Setting → Switches
  | .expiration seconds => { s with expiration := seconds }
  | .unique => { s with unique := true }
  | .expectGeneration g => s.turnOn (.expectEqual g)
  | .expectAtLeast g => s.turnOn (.expectAtLeast g)
  | .keepDuplicate g => s.turnOn (.keepDuplicate g)
  | .mode mode => s.turnOn mode
  | .clear => s.clear

/-- The check of the strongest mode that is on. -/
def check (s : Switches) : GenerationPolicy :=
  if s.equal then .equal
  else if s.atLeast then .atLeast
  else if s.keepDuplicate then .duplicateUnlessEqual
  else .unchecked

/-- The policy of a write under switches: unique before the strongest mode. -/
def policy (s : Switches) (tx : Option TransactionOptions) : WritePolicy where
  base := .ofOptions tx
  existence := if s.unique then .createOnly else .update
  generationCheck := if s.unique then .unchecked else s.check
  generation := if s.unique then 0 else s.generation
  expiration := s.expiration

end Switches

/-! ## What builder calls ask for -/

def Setting.expiration? : Setting → Option UInt32
  | .expiration seconds => some seconds
  | _ => none

def Setting.mode? : Setting → Option GenerationMode
  | .expectGeneration g => some (.expectEqual g)
  | .expectAtLeast g => some (.expectAtLeast g)
  | .keepDuplicate g => some (.keepDuplicate g)
  | .mode asked => some asked
  | .expiration _ | .unique | .clear => none

/-- The modes asked for since the last clear, in order. -/
def requested (settings : List Setting) : List GenerationMode :=
  (settings.rtakeWhile (· != .clear)).filterMap Setting.mode?

@[simp] theorem requested_nil : requested [] = [] := rfl

@[simp] theorem requested_clear (settings : List Setting) : requested (settings ++ [.clear]) = [] := by
  rw [requested, List.rtakeWhile_concat_neg _ _ _ (by decide), List.filterMap_nil]

theorem requested_concat (settings : List Setting) {last : Setting} (other : last ≠ .clear) :
    requested (settings ++ [last]) = requested settings ++ last.mode?.toList := by
  have kept : (last != .clear) = true := bne_iff_ne.mpr other
  rw [requested, List.rtakeWhile_concat, if_pos kept, List.filterMap_append, requested]
  cases last <;> rfl

/-- The switches that builder calls leave on. -/
def Switches.left (settings : List Setting) : Switches where
  expiration := (settings.filterMap Setting.expiration?).getLast?.getD 0
  unique := settings.contains .unique
  equal := (requested settings).any (· matches .expectEqual _)
  atLeast := (requested settings).any (· matches .expectAtLeast _)
  keepDuplicate := (requested settings).any (· matches .keepDuplicate _)
  generation := ((requested settings).filterMap GenerationMode.generation?).getLast?.getD 0

theorem Switches.left_concat (settings : List Setting) (last : Setting) :
    left (settings ++ [last]) = (left settings).set last := by
  cases last with
  | expiration seconds =>
    simp [left, set, requested_concat, Setting.mode?, Setting.expiration?]
  | unique => simp [left, set, requested_concat, Setting.mode?, Setting.expiration?]
  | clear => simp [left, set, clear, Setting.expiration?]
  | expectGeneration g | expectAtLeast g | keepDuplicate g =>
    simp [left, set, turnOn, requested_concat, Setting.mode?, Setting.expiration?, GenerationMode.generation?]
  | mode mode =>
    cases mode <;>
      simp [left, set, turnOn, requested_concat, Setting.mode?, Setting.expiration?, GenerationMode.generation?]

/-- Each builder call sets its own switch. -/
theorem Switches.foldl_set (settings : List Setting) : settings.foldl set {} = left settings := by
  induction settings using List.reverseRecOn with
  | nil => rfl
  | append_singleton settings last ih => rw [List.foldl_concat, ih, left_concat]

/-! ## Options stand for switches -/

/-- Options that come to what the switches say. -/
structure Shows (o : WriteOptions) (s : Switches) : Prop where
  expiration : o.expiration = s.expiration
  unique : o.uniqueOnly = s.unique
  mode : o.generationMode.check = (s.check, s.generation)

/-- The stronger of two checks. -/
def stronger : GenerationPolicy → GenerationPolicy → GenerationPolicy
  | .equal, _ | _, .equal => .equal
  | .atLeast, _ | _, .atLeast => .atLeast
  | .duplicateUnlessEqual, _ | _, .duplicateUnlessEqual => .duplicateUnlessEqual
  | .unchecked, .unchecked => .unchecked

/-- Of a mode and one asked for on top of it the stronger checks, with the generation named last. -/
theorem check_request (current asked : GenerationMode) :
    (current.request asked).check =
      (stronger current.check.1 asked.check.1, asked.generation?.getD current.check.2) := by
  cases current <;> cases asked <;> rfl

theorem Switches.check_turnOn (s : Switches) (asked : GenerationMode) :
    (s.turnOn asked).check = stronger s.check asked.check.1 := by
  obtain ⟨_, _, equal, atLeast, keepDuplicate, _⟩ := s
  cases equal <;> cases atLeast <;> cases keepDuplicate <;> cases asked <;> rfl

theorem Switches.generation_turnOn (s : Switches) (asked : GenerationMode) :
    (s.turnOn asked).generation = asked.generation?.getD s.generation := by
  cases asked <;> rfl

/-- A mode that is asked for turns its switch on. -/
theorem Shows.requestMode {o : WriteOptions} {s : Switches} (shown : o.Shows s) (mode : GenerationMode) :
    (o.requestMode mode).Shows (s.turnOn mode) := by
  refine ⟨?_, ?_, ?_⟩
  · cases mode <;> exact shown.expiration
  · cases mode <;> exact shown.unique
  · change (o.generationMode.request mode).check = ((s.turnOn mode).check, (s.turnOn mode).generation)
    rw [check_request, shown.mode, Switches.check_turnOn, Switches.generation_turnOn]

theorem Shows.set {o : WriteOptions} {s : Switches} (shown : o.Shows s) (setting : Setting) :
    (o.set setting).Shows (s.set setting) := by
  cases setting with
  | expiration seconds => exact ⟨rfl, shown.unique, shown.mode⟩
  | unique => exact ⟨shown.expiration, rfl, shown.mode⟩
  | clear => exact ⟨shown.expiration, shown.unique, rfl⟩
  | expectGeneration g | expectAtLeast g | keepDuplicate g | mode mode => exact shown.requestMode _

theorem shows_ofSettings (settings : List Setting) :
    (ofSettings settings).Shows (settings.foldl Switches.set {}) := by
  induction settings using List.reverseRecOn with
  | nil => exact ⟨rfl, rfl, rfl⟩
  | append_singleton settings last ih =>
    rw [ofSettings, List.foldl_concat, List.foldl_concat]
    exact ih.set last

theorem Shows.policy {o : WriteOptions} {s : Switches} (shown : o.Shows s) (tx : Option TransactionOptions) :
    WritePolicy.ofOptions tx (some o) = s.policy tx := by
  rw [WritePolicy.ofOptions, shown.expiration, shown.unique, shown.mode, Switches.policy]
  cases s.unique <;> rfl

/-- Builder calls come to the policy of the switches that they set, one each: the last expiration; unique, if it
occurs at all; else the strongest mode since the last clear, with the generation named last since then. -/
theorem ofOptions_ofSettings (tx : Option TransactionOptions) (settings : List Setting) :
    WritePolicy.ofOptions tx (some (ofSettings settings)) = (settings.foldl Switches.set {}).policy tx ∧
      settings.foldl Switches.set {} = Switches.left settings :=
  ⟨(shows_ofSettings settings).policy tx, Switches.foldl_set settings⟩

/-- A weaker mode gives the stronger one its generation, and a clear forgets both. -/
example : WritePolicy.ofOptions none (some (ofSettings
      [.expectGeneration 9, .clear, .expectAtLeast 3, .keepDuplicate 4, .mode .unchecked])) =
    { base := .ofOptions none, generationCheck := .atLeast, generation := 4 } := by decide

end RecordGate.WriteOptions
