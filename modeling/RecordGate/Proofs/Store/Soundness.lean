import RecordGate.Proofs.Store.Effect

/-!
# Sound clusters

A sound cluster keeps every record at the home of its digest, within the size limit with all versions,
with a generation from one upwards, and without a null among the bins of any version. Every operation
makes solid bins of solid bins, so every write makes a sound record of a sound one (`Written.sound_next`),
and every command keeps a cluster sound (`Effect.sound`).
-/

namespace RecordGate
set_option autoImplicit false

/-- No bin holds a null. Nulls deeper inside a value are no concern of the store. -/
def BinMap.Solid (bins : BinMap) : Prop := ∀ name, bins.get? name ≠ some .null

theorem BinMap.solid_empty : BinMap.Solid ∅ := by
  intro name null
  cases null

theorem BinMap.Solid.insert {bins : BinMap} (solid : bins.Solid) {value : Value}
    (some : value ≠ .null) (name : String) : BinMap.Solid (bins.insert name value) := by
  intro other
  rw [OrderedMap.get?_insert]
  split
  · intro same
    exact some (Option.some.inj same)
  · exact solid other

theorem BinMap.Solid.erase {bins : BinMap} (solid : bins.Solid) (name : String) :
    BinMap.Solid (bins.erase name) := by
  intro other
  rw [OrderedMap.get?_erase]
  split
  · intro null
    cases null
  · exact solid other

/-! ## Operations -/

theorem joinValue_ne_null {side : End} {bin : Bin} {held : Option Value} {value : Value}
    (ok : joinValue side bin held = .ok value) : value ≠ .null := by
  rintro rfl
  unfold joinValue at ok
  split at ok <;> cases ok

theorem addValue_ne_null {bin : Bin} {held : Option Value} {value : Value}
    (ok : addValue bin held = .ok value) : value ≠ .null := by
  rintro rfl
  unfold addValue at ok
  split at ok <;> cases ok

theorem solid_applyOperation {bins made : BinMap} {op : Operation} (solid : bins.Solid)
    (ok : applyOperation bins op = .ok made) : made.Solid := by
  cases op with
  | write bin =>
    cases ok
    split
    · exact solid.erase bin.name
    · next some =>
      have solidValue : bin.value ≠ .null := by
        intro null
        rw [null] at some
        exact some rfl
      exact solid.insert solidValue bin.name
  | append bin =>
    obtain ⟨value, joined, rfl⟩ := map_eq_ok_iff.1 ok
    exact solid.insert (joinValue_ne_null joined) bin.name
  | prepend bin =>
    obtain ⟨value, joined, rfl⟩ := map_eq_ok_iff.1 ok
    exact solid.insert (joinValue_ne_null joined) bin.name
  | add bin =>
    obtain ⟨value, added, rfl⟩ := map_eq_ok_iff.1 ok
    exact solid.insert (addValue_ne_null added) bin.name
  | touch | read _ | readAll | readHeader =>
    cases ok
    exact solid

theorem solid_applyAll {bins made : BinMap} {ops : List Operation} (solid : bins.Solid)
    (ok : applyAll bins ops = .ok made) : made.Solid := by
  induction ops generalizing bins with
  | nil =>
    cases ok
    exact solid
  | cons op rest ih =>
    obtain ⟨first, applied, others⟩ := bind_eq_ok_iff.1 ok
    exact ih (solid_applyOperation solid applied) others

theorem nextGeneration_pos (g : UInt32) : 1 ≤ nextGeneration g := by
  rw [nextGeneration]
  split
  · decide
  · next nonzero =>
    rw [UInt32.le_iff_toNat_le]
    have positive : (g + 1).toNat ≠ 0 := by
      intro zero
      exact nonzero (UInt32.toNat_inj.1 zero)
    have one : (1 : UInt32).toNat = 1 := rfl
    omega

/-! ## Records -/

/-- What holds of every record that is stored. -/
structure StoredRecord.Sound (limit : Nat) (r : StoredRecord) : Prop where
  generation : 1 ≤ r.generation
  size : r.size ≤ limit
  bins : r.bins.Solid
  duplicates : ∀ version ∈ r.duplicates, version.Solid

theorem solid_writeBins {existing : Option StoredRecord} {policy : WritePolicy}
    {ops : List Operation} {disposition : Disposition} {made : BinMap}
    (solid : ∀ r ∈ existing, r.bins.Solid)
    (ok : writeBins existing policy ops = .ok (disposition, made)) : made.Solid := by
  obtain ⟨-, applied⟩ := checkWrite_of_writeBins ok
  refine solid_applyAll ?_ applied
  split
  · exact BinMap.solid_empty
  · cases existing with
    | none => exact BinMap.solid_empty
    | some r => exact solid r rfl

/-- A write of a sound record, or of none, leaves a sound record. -/
theorem Written.sound_next {existing : Option StoredRecord} {setName : String} {policy : WritePolicy}
    {ops : List Operation} {limit : Nat} {now : UInt32} {next : StoredRecord}
    (written : Written existing setName policy ops limit now next)
    (sound : ∀ r ∈ existing, r.Sound limit) : next.Sound limit := by
  have held : BinMap.Solid ((existing.map (·.bins)).getD ∅) := by
    cases existing with
    | none => exact BinMap.solid_empty
    | some r => exact (sound r rfl).bins
  have versions : ∀ version ∈ (existing.map (·.duplicates)).getD [], BinMap.Solid version := by
    cases existing with
    | none =>
      intro version member
      cases member
    | some r => exact (sound r rfl).duplicates
  have generation : 1 ≤ next.generation := written.generation ▸ nextGeneration_pos _
  obtain ⟨made, ⟨ok, bins, duplicates⟩ | ⟨ok, bins, duplicates⟩⟩ := written.bins
  · have solid := solid_writeBins (fun r h => (sound r h).bins) ok
    exact ⟨generation, written.fits, bins ▸ solid, duplicates ▸ versions⟩
  · have solid := solid_writeBins (fun r h => (sound r h).bins) ok
    refine ⟨generation, written.fits, bins ▸ held, ?_⟩
    intro version member
    rw [duplicates, List.mem_append, List.mem_singleton] at member
    rcases member with old | rfl
    · exact versions version old
    · exact solid

/-! ## Clusters -/

/-- Every record lies at the home of its digest. -/
def Cluster.Placed (c : Cluster) : Prop :=
  ∀ place id r, c.storedAt place id = some r → place = c.home id.digest

namespace Cluster

theorem placed_ofSize (n limit : Nat) : (ofSize n limit).Placed := by
  intro place id r stored
  rw [storedAt_ofSize] at stored
  cases stored

theorem Placed.congr {c d : Cluster} (placed : c.Placed) (nodes : d.nodes = c.nodes) : d.Placed := by
  intro place id r stored
  rw [storedAt_congr nodes] at stored
  rw [placed place id r stored]
  exact (home_congr (by rw [nodes]) _).symm

theorem Placed.put {c : Cluster} (placed : c.Placed) (id : RecordId) (r : StoredRecord) :
    (c.put id r).Placed := by
  intro place other r' stored
  rw [storedAt_put] at stored
  rw [home_put]
  split at stored
  · next here => rw [here.1, here.2]
  · exact placed place other r' stored

theorem Placed.erase {c : Cluster} (placed : c.Placed) (id : RecordId) : (c.erase id).Placed := by
  intro place other r' stored
  rw [storedAt_erase] at stored
  rw [home_erase]
  split at stored
  · cases stored
  · exact placed place other r' stored

/-- No identity is stored at two places. -/
theorem Placed.unique {c : Cluster} (placed : c.Placed) {p q : Nat} {id : RecordId}
    (here : (c.storedAt p id).isSome = true) (there : (c.storedAt q id).isSome = true) : p = q := by
  obtain ⟨r, hr⟩ := Option.isSome_iff_exists.1 here
  obtain ⟨r', hr'⟩ := Option.isSome_iff_exists.1 there
  rw [placed p id r hr, placed q id r' hr']

/-- A cluster of so many nodes and such a limit whose records are sound, each at its home. -/
structure Sound (count limit : Nat) (c : Cluster) : Prop where
  length : c.nodes.length = count
  recordLimit : c.recordLimit = limit
  placed : c.Placed
  records : ∀ place id r, c.storedAt place id = some r → r.Sound limit

theorem sound_ofSize (n limit : Nat) : (ofSize n limit).Sound (max n 1) limit where
  length := by simp [ofSize]
  recordLimit := rfl
  placed := placed_ofSize n limit
  records place id r stored := by
    rw [storedAt_ofSize] at stored
    cases stored

variable {count limit : Nat} {c : Cluster}

theorem Sound.live (sound : c.Sound count limit) {now : UInt32} {id : RecordId} {r : StoredRecord}
    (live : c.live? now id = some r) : r.Sound limit := by
  obtain ⟨found, -⟩ := Option.filter_eq_some_iff.1 live
  rw [find?_eq_storedAt] at found
  exact sound.records _ id r found

theorem Sound.congr {d : Cluster} (sound : c.Sound count limit) (nodes : d.nodes = c.nodes)
    (same : d.recordLimit = c.recordLimit) : d.Sound count limit where
  length := by rw [nodes, sound.length]
  recordLimit := same.trans sound.recordLimit
  placed := sound.placed.congr nodes
  records place id r stored := by
    rw [storedAt_congr nodes] at stored
    exact sound.records place id r stored

theorem Sound.put (sound : c.Sound count limit) (id : RecordId) {r : StoredRecord}
    (soundRecord : r.Sound limit) : (c.put id r).Sound count limit where
  length := by rw [length_put, sound.length]
  recordLimit := sound.recordLimit
  placed := sound.placed.put id r
  records place other r' stored := by
    rw [storedAt_put] at stored
    split at stored
    · cases stored
      exact soundRecord
    · exact sound.records place other r' stored

theorem Sound.erase (sound : c.Sound count limit) (id : RecordId) :
    (c.erase id).Sound count limit where
  length := by rw [length_erase, sound.length]
  recordLimit := sound.recordLimit
  placed := sound.placed.erase id
  records place other r' stored := by
    rw [storedAt_erase] at stored
    split at stored
    · cases stored
    · exact sound.records place other r' stored

theorem Sound.corrupt (sound : c.Sound count limit) (key : Key) :
    (c.corrupt key).2.Sound count limit := by
  rw [Cluster.corrupt]
  cases stored : c.find? key.id with
  | none => exact sound
  | some r =>
    rw [find?_eq_storedAt] at stored
    have old := sound.records _ _ r stored
    exact sound.put key.id ⟨old.generation, old.size, old.bins, old.duplicates⟩

/-- **Every command keeps a cluster sound.** -/
theorem Effect.sound {d : Cluster} {now : UInt32} {command : Command} {reply : CommandReply}
    (effect : Effect c now command reply d) (spared : Spared c d) (sound : c.Sound count limit) :
    d.Sound count limit := by
  cases effect with
  | kept nodes idle => exact sound.congr nodes spared.recordLimit
  | @erased policy key _ admits nodes => exact (sound.erase key.id).congr nodes spared.recordLimit
  | @wrote policy key ops _ next admits writes written nodes =>
    have next := written.sound_next fun r live => sound.recordLimit.symm ▸ sound.live live
    exact (sound.put key.id (sound.recordLimit ▸ next)).congr nodes spared.recordLimit

end Cluster

end RecordGate
