import RecordGate.Proofs.Session.Invariant
import RecordGate.Proofs.Store.Soundness

/-!
# Every reachable store is sound

Soundness is an invariant of the store: calls keep its cluster sound, whatever they are and however they
end. Whatever is stored in the end lies at its home, fits the limit, has been written at least once and
holds no null.
-/

namespace RecordGate
set_option autoImplicit false

variable {count limit : Nat}

theorem Cluster.invariant_sound : Cluster.Invariant (Cluster.Sound count limit) where
  congr sound := sound.congr
  effect effect spared sound := effect.sound spared sound
  corrupt key sound := sound.corrupt key

namespace Session

theorem Reaches.sound {s t : Session} (reaches : Reaches s t)
    (sound : s.cluster.Sound count limit) : t.cluster.Sound count limit :=
  reaches.keeps Cluster.invariant_sound sound

/-- **The store invariant.** -/
theorem stored_sound_of_reaches {n limit : Nat} {s t : Session}
    (start : s.cluster = .ofSize n limit) (reaches : Reaches s t) :
    t.cluster.nodes.length = max n 1 ∧
      (∀ place id r, t.cluster.storedAt place id = some r →
        place = id.digest.first.toNat % t.cluster.nodes.length ∧ 1 ≤ r.generation ∧
          r.size ≤ limit ∧ (∀ name, r.bins.get? name ≠ some .null) ∧
          ∀ version ∈ r.duplicates, ∀ name, version.get? name ≠ some .null) ∧
      ∀ p q id, (t.cluster.storedAt p id).isSome = true → (t.cluster.storedAt q id).isSome = true →
        p = q := by
  have sound := reaches.sound (start ▸ Cluster.sound_ofSize n limit)
  refine ⟨sound.length, ?_, ?_⟩
  · intro place id r stored
    have home := sound.placed place id r stored
    have record := sound.records place id r stored
    exact ⟨home, record.generation, record.size, record.bins, record.duplicates⟩
  · intro p q id here there
    exact sound.placed.unique here there

/-- The session after one write to an empty store. -/
def firstWrite : Session :=
  ((StoreCall.command (.operate {} (.ofDigest "test" default) [.write ⟨"n", .int 1⟩])
    fun _ => return .ok ()).run (opened 2 100 10)).2

theorem stored_sound_of_firstWrite :
    firstWrite.cluster.recordCount = 1 ∧ firstWrite.cluster.nodes.length = max 2 1 := by
  have start : (opened 2 100 10).cluster = .ofSize 2 100 := rfl
  have reaches : Reaches (opened 2 100 10) firstWrite :=
    .call (.refl _) (.command _ fun _ => return .ok ()) fun _ => .refl
  constructor
  · decide +kernel
  · exact (stored_sound_of_reaches start reaches).1

end Session

end RecordGate
