import Mathlib.Data.List.Forall2
import RecordGate.Gate.Call

/-!
# Inquiries

What a gate can be asked of one record it can be asked of many: some bins, all of them, or whether the
record exists. The records are named by keys, by digests, or by user keys, which are values of some types
only (`keysOf_of_usable`, `keysOf_of_unusable`).
-/

namespace RecordGate
set_option autoImplicit false

/-- What can be asked of one record, and of many. -/
inductive Inquiry where
  | bins (names : List String)
  | all
  | existence

namespace Inquiry

variable {σ : Type} (env : Surroundings σ) (gate : Gate) (tx : Option TransactionOptions)

/-- Ask of one record. -/
def ask (key : Key) : Inquiry → Program σ CallResult
  | bins names => gate.getBins env key names tx
  | all => gate.getAll env key tx
  | existence => gate.contains env key tx

/-- Ask of many records. -/
def askKeys (keys : List Key) : Inquiry → Program σ (List CallResult)
  | bins names => gate.batchGetKeys env keys (some names) tx
  | all => gate.batchGetKeys env keys none tx
  | existence => gate.batchContainsKeys env keys tx

/-- The call that asks of one record. -/
def call (key : Key) : Inquiry → GateCall
  | bins names => .getBins key names tx
  | all => .getAll key tx
  | existence => .contains key tx

/-- The call that asks of many records. -/
def callKeys (keys : List Key) : Inquiry → GateCall
  | bins names => .batchGetKeys keys (some names) tx
  | all => .batchGetKeys keys none tx
  | existence => .batchContainsKeys keys tx

theorem run_call (key : Key) (inquiry : Inquiry) :
    gate.run env (inquiry.call tx key) = .result <$> inquiry.ask env gate tx key := by
  cases inquiry <;> rfl

theorem run_callKeys (keys : List Key) (inquiry : Inquiry) :
    gate.run env (inquiry.callKeys tx keys) = .results <$> inquiry.askKeys env gate tx keys := by
  cases inquiry <;> rfl

def askUserKeys (ns setName : String) (userKeys : Option (List Value)) :
    Inquiry → Program σ (Except GateError (List CallResult))
  | bins names => gate.batchGet env ns setName userKeys names tx
  | all => gate.batchGetAll env ns setName userKeys tx
  | existence => gate.batchContains env ns setName userKeys tx

def askDigests (ns : String) (digests : Option (List Digest)) :
    Inquiry → Program σ (Except GateError (List CallResult))
  | bins names => gate.batchGetDigests env ns digests (some names) tx
  | all => gate.batchGetDigests env ns digests none tx
  | existence => gate.batchContainsDigests env ns digests tx

theorem askUserKeys_eq (ns setName : String) (userKeys : Option (List Value)) (inquiry : Inquiry) :
    inquiry.askUserKeys env gate tx ns setName userKeys =
      Gate.onKeys (keysOf ns setName userKeys) (inquiry.askKeys env gate tx ·) := by
  cases inquiry <;> rfl

theorem askDigests_eq (ns : String) (digests : Option (List Digest)) (inquiry : Inquiry) :
    inquiry.askDigests env gate tx ns digests =
      Gate.onKeys (keysOfDigests ns digests) (inquiry.askKeys env gate tx ·) := by
  cases inquiry <;> rfl

/-- What the store has to say of a key. -/
def result (c : Cluster) (now : UInt32) (key : Key) : Inquiry → CallResult
  | bins names => .ofReply .ofFoundRecord ((c.readLive now key (.named names)).mapError Refusal.toError)
  | all => .ofReply .ofFoundRecord ((c.readLive now key .all).mapError Refusal.toError)
  | existence => .ofPresence (c.isLive now key)

/-- Keys of one record have one result. -/
theorem result_congr (c : Cluster) (now : UInt32) {key key' : Key} (same : key'.id = key.id)
    (inquiry : Inquiry) : inquiry.result c now key' = inquiry.result c now key := by
  have read (selection : BinSelection) :
      CallResult.ofReply .ofFoundRecord ((c.readLive now key' selection).mapError Refusal.toError) =
        .ofReply .ofFoundRecord ((c.readLive now key selection).mapError Refusal.toError) := by
    rw [Cluster.readLive, Cluster.readLive, same]
    cases c.live? now key.id with
    | none => rfl
    | some r => cases corrupted : r.corrupted <;> simp only [corrupted] <;> rfl
  cases inquiry with
  | bins names => exact read (.named names)
  | all => exact read .all
  | existence => rw [result, result, Cluster.isLive, Cluster.isLive, same]

end Inquiry

/-! ## User keys and digests -/

/-- Whether a value can be hashed into a digest: integers, strings and octets can. -/
def Value.isUserKey : Value → Bool
  | .int _ | .string _ | .bytes _ => true
  | _ => false

section Keys

variable {ns setName : String} {v : Value} {values : List Value}

/-- The key of a value is that of its digest, with the set name added. -/
theorem keyOf_of_usable (usable : v.isUserKey = true) :
    ∃ d, digestOf setName v = .ok d ∧ keyOf ns setName v = .ok ⟨ns, some setName, d⟩ := by
  cases v with
  | int i | string s | bytes b => exact ⟨_, rfl, rfl⟩
  | _ => cases usable

theorem keyOf_of_unusable (unusable : v.isUserKey = false) : ∃ e, keyOf ns setName v = .error e := by
  cases v with
  | int i | string s | bytes b => cases unusable
  | _ => exact ⟨_, rfl⟩

theorem keysOf_cons {key : Key} (made : keyOf ns setName v = .ok key) :
    keysOf ns setName (some (v :: values)) = (keysOf ns setName (some values)).map (key :: ·) := by
  rw [keysOf, keysOf, List.mapM_cons, made]
  rfl

theorem keysOf_of_usable (usable : ∀ v ∈ values, v.isUserKey = true) :
    ∃ digests, List.Forall₂ (digestOf setName · = .ok ·) values digests ∧
      List.Forall₂ (keyOf ns setName · = .ok ·) values (digests.map fun d => ⟨ns, some setName, d⟩) ∧
      keysOf ns setName (some values) = .ok (digests.map fun d => ⟨ns, some setName, d⟩) := by
  induction values with
  | nil => exact ⟨[], .nil, .nil, rfl⟩
  | cons v rest ih =>
    obtain ⟨here, others⟩ := List.forall_mem_cons.1 usable
    obtain ⟨digests, found, keys, made⟩ := ih others
    obtain ⟨d, digest, key⟩ := keyOf_of_usable here
    refine ⟨d :: digests, .cons digest found, .cons key keys, ?_⟩
    rw [keysOf_cons key, made]
    rfl

/-- One value that is no user key leaves no keys. -/
theorem keysOf_of_unusable (member : v ∈ values) (unusable : v.isUserKey = false) :
    ∃ e, keysOf ns setName (some values) = .error e := by
  induction values with
  | nil => cases member
  | cons w rest ih =>
    cases key : keyOf ns setName w with
    | error e => exact ⟨e, by rw [keysOf, List.mapM_cons, key]; rfl⟩
    | ok k =>
      rcases List.mem_cons.1 member with rfl | later
      · have refused : ∃ e, keyOf ns setName v = .error e := keyOf_of_unusable unusable
        obtain ⟨e, refused⟩ := refused
        rw [refused] at key
        cases key
      · obtain ⟨e, refused⟩ := ih later
        rw [keysOf_cons key, refused]
        exact ⟨e, rfl⟩

end Keys

end RecordGate
