import RecordGate.FileTree
import RecordGate.Proofs.Text.Octets

/-!
# Reading files back

What is written to a path is what is read from it afterwards (`FileTree.readText_writeText`): the directories on
the way are where they were, as nothing is written over a directory.
-/

namespace RecordGate.FileTree
set_option autoImplicit false

variable {t : FileTree} {file : List String} (node : FileNode)

theorem node?_of_ne_nil {place : List String} (inner : place ≠ []) :
    t.node? place = t.nodes.get? (written place) := by
  have more : place.isEmpty = false := by simpa using inner
  simp [node?, more]

/-- The root is a directory. -/
theorem ne_nil_of_node? (apart : t.node? file ≠ some .directory) : file ≠ [] := by
  rintro rfl
  exact apart rfl

theorem node?_put (inner : file ≠ []) : (t.put file node).node? file = some node := by
  rw [node?_of_ne_nil inner, put, OrderedMap.get?_insert, if_pos rfl]

section Apart

variable (apart : t.node? file ≠ some .directory)

include apart

/-- A directory stays where it is. -/
theorem node?_put_of_directory {place : List String} (there : t.node? place = some .directory) :
    (t.put file node).node? place = some .directory := by
  by_cases inner : place = []
  · subst inner
    rfl
  · have outside := ne_nil_of_node? apart
    rw [node?_of_ne_nil outside] at apart
    rw [node?_of_ne_nil inner] at there ⊢
    have other : written place ≠ written file := fun same => apart (same ▸ there)
    rw [put, OrderedMap.get?_insert, if_neg other, there]

/-- Names lead where they led before. -/
theorem resolve_put {names place target : List String} (leads : t.resolve place names = .ok target) :
    (t.put file node).resolve place names = .ok target := by
  induction names generalizing place with
  | nil => exact leads
  | cons name names ih =>
    unfold resolve at leads ⊢
    split at leads
    · cases leads
    · cases leads
    · next there =>
      rw [node?_put_of_directory node apart there]
      split at leads
      · cases leads
      · next short =>
        rw [if_neg short]
        exact ih leads

end Apart

/-- Where a file is made, the path leads there. -/
theorem place_of_placeToMake {path : String} (made : t.placeToMake path = .ok file) :
    checkPath path = .ok () ∧ t.resolve [] (names path) = .ok file := by
  cases checked : checkPath path with
  | error e => simp [placeToMake, checked, bind, Except.bind] at made
  | ok _ =>
    refine ⟨rfl, ?_⟩
    simp only [placeToMake, checked, bind, Except.bind] at made
    split at made
    · exact made
    · next before _ =>
      cases led : t.resolve [] (before ++ [""]) <;> simp [led, throw, throwThe, MonadExceptOf.throw] at made

theorem read_write {t' : FileTree} {path : String} {content : List UInt8}
    (wrote : t.write path content = .ok t') : t'.read path = .ok content := by
  cases made : t.placeToMake path with
  | error e => simp [write, made, bind, Except.bind] at wrote
  | ok file =>
    obtain ⟨checked, leads⟩ := place_of_placeToMake made
    have apart : t.node? file ≠ some .directory ∧ t.put file (.file content) = t' := by
      simp only [write, made, bind, Except.bind] at wrote
      split at wrote
      · cases wrote
      · next apart =>
        exact ⟨apart, Except.ok.inj wrote⟩
    obtain ⟨apart, rfl⟩ := apart
    have leads' := resolve_put (.file content) apart leads
    have held : (t.put file (.file content)).node? file = some (.file content) :=
      node?_put _ (ne_nil_of_node? apart)
    simp [read, place, checked, leads', held, bind, Except.bind, pure, Except.pure]

/-- **A file holds the text that was written to it.** -/
theorem readText_writeText {t' : FileTree} {path text : String} (wrote : t.writeText path text = .ok t') :
    t'.readText path = .ok text := by
  have octets := read_write wrote
  have told := fromUTF8?_toUTF8 text
  simp only [readText, octets, bind, Except.bind, told]
  rfl

end RecordGate.FileTree
