import RecordGate.Proofs.Gate.Answer
import RecordGate.Proofs.Store.Setless

/-!
# Calls by keys and by digests

A call is readdressed when digests stand in for some of its keys (`GateCall.Readdressed`). Its command is
then the same but for the set names of its keys, and it reads the reply as before (`alike_of_readdressed`).
-/

namespace RecordGate
set_option autoImplicit false

/-- The key itself, or the key of its digest. -/
inductive Key.Readdressed (key : Key) : Key → Prop
  | kept : Readdressed key key
  | digest : Readdressed key (.ofDigest key.ns key.digest)

theorem Key.setless_of_readdressed {key key' : Key} (readdressed : key.Readdressed key') :
    key'.setless = key.setless := by
  cases readdressed <;> rfl

theorem Key.map_setless_of_readdressed {keys keys' : List Key}
    (readdressed : List.Forall₂ Key.Readdressed keys keys') :
    keys'.map setless = keys.map setless := by
  induction readdressed with
  | nil => rfl
  | cons first _ ih => rw [List.map_cons, List.map_cons, setless_of_readdressed first, ih]

namespace GateCall

/-- The call with other keys. A batch is given them as they are. -/
def rekey (keys : List Key) : GateCall → GateCall
  | write kind key bins tx options => write kind (keys.headD key) bins tx options
  | addAndGet key bins tx options => addAndGet (keys.headD key) bins tx options
  | delete key tx options => delete (keys.headD key) tx options
  | getBin key name tx => getBin (keys.headD key) name tx
  | getBins key names tx => getBins (keys.headD key) names tx
  | getAll key tx => getAll (keys.headD key) tx
  | getWithTouch key names tx options => getWithTouch (keys.headD key) names tx options
  | contains key tx => contains (keys.headD key) tx
  | operate key reads writes tx options => operate (keys.headD key) reads writes tx options
  | batchContains _ _ _ tx | batchContainsDigests _ _ tx | batchContainsKeys _ tx =>
    batchContainsKeys keys tx
  | batchGet _ _ _ names tx => batchGetKeys keys (some names) tx
  | batchGetAll _ _ _ tx => batchGetKeys keys none tx
  | batchGetDigests _ _ names tx | batchGetKeys _ names tx => batchGetKeys keys names tx

/-- The batch of digests in one namespace. A call for one record stays as it is. -/
def byDigests (ns : String) (digests : List Digest) : GateCall → GateCall
  | batchContains _ _ _ tx | batchContainsDigests _ _ tx | batchContainsKeys _ tx =>
    batchContainsDigests ns (some digests) tx
  | batchGet _ _ _ names tx => batchGetDigests ns (some digests) (some names) tx
  | batchGetAll _ _ _ tx => batchGetDigests ns (some digests) none tx
  | batchGetDigests _ _ names tx | batchGetKeys _ names tx =>
    batchGetDigests ns (some digests) names tx
  | call => call

/-- The call itself, or the call with digests in place of some of its keys. -/
inductive Readdressed (call : GateCall) : GateCall → Prop
  | kept : Readdressed call call
  /-- Each key may be replaced or not. A batch that is rejected has none. -/
  | keys {keys : List Key} (accepted : ∀ e, call.batch? ≠ some (.error e))
      (each : List.Forall₂ Key.Readdressed call.keys keys) : Readdressed call (call.rekey keys)
  /-- A batch of keys in one namespace is asked for by their digests. -/
  | digests {ns : String} {keys : List Key} (asked : call.batch? = some (.ok keys))
      (within : ∀ key ∈ keys, key.ns = ns) : Readdressed call (call.byDigests ns (keys.map (·.digest)))

/-- Calls that give one command, but for set names, and read its reply the same. -/
structure Alike (call call' : GateCall) : Prop where
  command : call'.command?.map Command.setless = call.command?.map Command.setless
  answer : ∀ reply, call'.answer reply = call.answer reply
  idle : call'.idle = call.idle
  failed : ∀ e, call'.failed e = call.failed e

theorem Alike.refl (call : GateCall) : Alike call call := ⟨rfl, fun _ => rfl, rfl, fun _ => rfl⟩

theorem Alike.trans {call call' call'' : GateCall} (first : Alike call call') (second : Alike call' call'') :
    Alike call call'' where
  command := second.command.trans first.command
  answer reply := (second.answer reply).trans (first.answer reply)
  idle := second.idle.trans first.idle
  failed e := (second.failed e).trans (first.failed e)

/-- Of the keys of a batch, an answer hangs on their number. -/
theorem alike_of_lengths {call call' : GateCall}
    (command : call'.command?.map Command.setless = call.command?.map Command.setless)
    (lengths : call'.batch?.map (Except.map List.length) = call.batch?.map (Except.map List.length))
    (named : call'.named = call.named) (written : call'.ofWritten = call.ofWritten) : Alike call call' := by
  have places : call'.width = call.width ∧ call'.idle = call.idle ∧ ∀ e, call'.failed e = call.failed e := by
    simp only [width, idle, failed]
    generalize call.batch? = here at lengths ⊢
    generalize call'.batch? = there at lengths ⊢
    rcases here with _ | (e | keys) <;> rcases there with _ | (e' | keys') <;> simp_all [Except.map]
  obtain ⟨width, idle, failed⟩ := places
  refine ⟨command, ?_, idle, failed⟩
  intro reply
  cases reply <;> simp only [answer, named, written, width]

/-! ## Other keys -/

theorem named_rekey (call : GateCall) (keys : List Key) : (call.rekey keys).named = call.named := by
  cases call <;> rfl

theorem ofWritten_rekey (call : GateCall) (keys : List Key) :
    (call.rekey keys).ofWritten = call.ofWritten := by
  cases call <;> rfl

section Single

variable {call : GateCall} (single : call.batch? = none)
include single

theorem rekey_of_single : ∃ key, call.keys = [key] ∧ call.rekey [key] = call := by
  cases call <;> first | exact ⟨_, rfl, rfl⟩ | cases single

theorem batch?_rekey_of_single (keys : List Key) : (call.rekey keys).batch? = none := by
  cases call <;> first | rfl | cases single

theorem command?_rekey_of_single (key : Key) :
    (call.rekey [key]).command?.map Command.setless = (call.rekey [key.setless]).command? := by
  cases call with
  | write _ _ _ _ _ | addAndGet _ _ _ _ => exact apply_ite (Option.map Command.setless) _ _ _
  | delete _ _ _ | getBin _ _ _ | getBins _ _ _ | getAll _ _ | getWithTouch _ _ _ _ | contains _ _
  | operate _ _ _ _ _ => rfl
  | _ => cases single

theorem alike_rekey_of_single {keys : List Key} (each : List.Forall₂ Key.Readdressed call.keys keys) :
    Alike call (call.rekey keys) := by
  obtain ⟨key, own, same⟩ := rekey_of_single single
  rw [own] at each
  obtain ⟨key', rest', readdressed, rest, rfl⟩ := List.forall₂_cons_left_iff.1 each
  obtain rfl := List.forall₂_nil_left_iff.1 rest
  refine alike_of_lengths ?_ ?_ (named_rekey call _) (ofWritten_rekey call _)
  · rw [command?_rekey_of_single single, Key.setless_of_readdressed readdressed,
      ← command?_rekey_of_single single, same]
  · rw [batch?_rekey_of_single single, single]

end Single

theorem map_batchCommand? {build : List Key → Command}
    (setless : ∀ keys, (build keys).setless = build (keys.map Key.setless)) (keys : List Key) :
    (batchCommand? build (.ok keys)).map Command.setless =
      batchCommand? build (.ok (keys.map Key.setless)) := by
  cases keys with
  | nil => rfl
  | cons key rest => exact congrArg some (setless (key :: rest))

section Batch

variable {call : GateCall} {keys keys' : List Key} (asked : call.batch? = some (.ok keys))
include asked

theorem batch?_rekey : (call.rekey keys').batch? = some (.ok keys') := by
  cases call <;> first | rfl | cases asked

theorem command?_rekey : ∃ build : List Key → Command,
    (∀ keys, (build keys).setless = build (keys.map Key.setless)) ∧
      call.command? = batchCommand? build (.ok keys) ∧
      ∀ keys', (call.rekey keys').command? = batchCommand? build (.ok keys') := by
  have own (build : List Key → Command) :
      call.batch?.bind (batchCommand? build) = batchCommand? build (.ok keys) := by
    rw [asked, Option.bind_some]
  cases call with
  | batchContains _ _ _ tx | batchContainsDigests _ _ tx | batchContainsKeys _ tx =>
    exact ⟨.batchContains (.ofOptions tx), fun _ => rfl, own _, fun _ => rfl⟩
  | batchGet _ _ _ names tx =>
    exact ⟨(.batchGet (.ofOptions tx) · (.named names)), fun _ => rfl, own _, fun _ => rfl⟩
  | batchGetAll _ _ _ tx =>
    exact ⟨(.batchGet (.ofOptions tx) · .all), fun _ => rfl, own _, fun _ => rfl⟩
  | batchGetDigests _ _ names tx | batchGetKeys _ names tx =>
    exact ⟨(.batchGet (.ofOptions tx) · (.ofNames names)), fun _ => rfl, own _, fun _ => rfl⟩
  | _ => cases asked

theorem alike_rekey (same : keys'.map Key.setless = keys.map Key.setless) :
    Alike call (call.rekey keys') := by
  obtain ⟨build, setless, gives, gives'⟩ := command?_rekey asked
  have length := congrArg List.length same
  rw [List.length_map, List.length_map] at length
  refine alike_of_lengths ?_ ?_ (named_rekey call _) (ofWritten_rekey call _)
  · rw [gives, gives', map_batchCommand? setless, map_batchCommand? setless, same]
  · rw [batch?_rekey asked, asked, Option.map_some, Option.map_some, Except.map, Except.map, length]

/-- Digests are asked for as their keys are. -/
theorem alike_byDigests (ns : String) (digests : List Digest) :
    Alike (call.rekey (digests.map (.ofDigest ns))) (call.byDigests ns digests) := by
  cases call with
  | batchContains _ _ _ _ | batchContainsDigests _ _ _ | batchContainsKeys _ _ | batchGet _ _ _ _ _
  | batchGetAll _ _ _ _ | batchGetDigests _ _ _ _ | batchGetKeys _ _ _ =>
    exact alike_of_lengths rfl rfl rfl rfl
  | _ => cases asked

end Batch

/-- **A readdressed call gives the same command, but for set names.** -/
theorem alike_of_readdressed {call call' : GateCall} (readdressed : call.Readdressed call') :
    Alike call call' := by
  cases readdressed with
  | kept => exact .refl call
  | keys accepted each =>
    rcases asked : call.batch? with _ | (e | keys)
    · exact alike_rekey_of_single asked each
    · exact absurd asked (accepted e)
    · rw [keys_of_batch? asked] at each
      exact alike_rekey asked (Key.map_setless_of_readdressed each)
  | @digests ns keys asked within =>
    have same : ((keys.map (·.digest)).map (Key.ofDigest ns)).map Key.setless = keys.map Key.setless := by
      rw [List.map_map, List.map_map]
      refine List.map_congr_left fun key member => ?_
      rw [← within key member]
      rfl
    exact (alike_rekey asked same).trans (alike_byDigests asked ns _)

end GateCall

end RecordGate
