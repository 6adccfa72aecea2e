import RecordGate.Config.File
import RecordGate.Proofs.FileTree
import RecordGate.Proofs.Toml.Documents

/-!
# Configuration files

A configuration is read back from the file that it was written to, whatever its hosts are, as long as each of them
can be parsed; the file is refused for the first that cannot (`Config.load_save`).
-/

namespace RecordGate.Config
set_option autoImplicit false

/-! ## The document of a configuration -/

/-- The lines of the document. -/
def lines (c : Config) : List Toml.Line :=
  let level := spelling levelNames c.logLevel
  let retry := spelling retryNames c.retryMode
  [⟨"hosts", renderStrings c.hosts, .array (c.hosts.map .string)⟩,
    ⟨"log_level", Toml.quote level.toList, .string level⟩,
    ⟨"default_timeout_ms", (toString c.timeout).toList, .integer c.timeout.toNat⟩,
    ⟨"default_retry", Toml.quote retry.toList, .string retry⟩]

/-- The keys of the lines. -/
def keys : List String := ["hosts", "log_level", "default_timeout_ms", "default_retry"]

theorem map_key_lines (c : Config) : c.lines.map Toml.Line.key = keys := rfl

theorem bare_keys : (keys.all fun key => key != "" && key.toList.all Toml.isBareKeyChar) = true := by decide

theorem renderChars_eq (c : Config) : c.renderChars = c.lines.flatMap Toml.Line.text := by
  simp [renderChars, lines, Toml.Line.text]

theorem reads_timeout (depth : Nat) (n : UInt32) : Toml.Reads depth (toString n).toList (.integer n.toNat) := by
  have small := n.toNat_lt
  have digits : (toString n).toList = Nat.toDigits 10 n.toNat := Nat.toList_repr
  rw [digits]
  exact Toml.reads_toDigits depth (by omega)

theorem readable_lines (c : Config) : ∀ l ∈ c.lines, l.Readable := by
  have reads : ∀ l ∈ c.lines, Toml.Reads Toml.maxNesting l.value l.item := by
    simp only [lines, List.forall_mem_cons]
    refine ⟨Toml.reads_renderStrings 78 c.hosts, Toml.reads_quote _ _, reads_timeout _ _, ?_, by simp⟩
    exact Toml.reads_quote _ _
  intro l member
  have bare := List.all_eq_true.1 bare_keys l.key (map_key_lines c ▸ List.mem_map_of_mem member)
  simp only [Bool.and_eq_true, bne_iff_ne, List.all_eq_true] at bare
  exact ⟨bare.1, bare.2, reads l member⟩

/-! ## Its entries -/

theorem strings?_map (items : List String) : strings? (.array (items.map .string)) = some items := by
  have each := List.mapM_pure (m := Option) (l := items) (f := id)
  rw [List.map_id] at each
  rw [strings?, List.mapM_map]
  exact each

theorem word?_toNat (n : UInt32) : word? (.integer n.toNat) = some n := by
  have small : (n.toNat : Int) < UInt32.size := Int.ofNat_lt.2 n.toNat_lt
  rw [word?, if_pos ⟨Int.natCast_nonneg _, small⟩]
  simp

theorem choice?_level (level : LogLevel) :
    choice? levelNames (.string (spelling levelNames level)) = some level := by
  cases level <;> rfl

theorem choice?_retry (mode : RetryMode) :
    choice? retryNames (.string (spelling retryNames mode)) = some mode := by
  cases mode <;> rfl

theorem ofEntries?_lines (c : Config) : ofEntries? (c.lines.map Toml.Line.entry) = some c := by
  simp [ofEntries?, field?, lines, Toml.Line.entry, List.lookup_cons, strings?_map, word?_toNat, choice?_level,
    choice?_retry]

/-- A document is refused for the first host that cannot be parsed, and is the configuration else. -/
theorem parse_render (c : Config) : parse c.render = c.seedHosts.map fun _ => c := by
  have read := Toml.parse?_lines c.readable_lines (map_key_lines c ▸ by decide)
  rw [← renderChars_eq] at read
  have entries : (Toml.parse? c.render).bind ofEntries? = some c := by
    rw [render, read, Option.bind_some, ofEntries?_lines]
  simp only [parse, entries]
  cases c.seedHosts <;> rfl

/-! ## Files -/

/-- **Configurations are read back from their files**: what is read is the configuration that was written, if its
hosts can be parsed, and otherwise the problem with the first that cannot. -/
theorem load_save {c : Config} {tree tree' : FileTree} {path : String} (saved : c.save tree path = .ok tree') :
    load tree' path = c.seedHosts.map fun _ => c := by
  cases wrote : tree.writeText path c.render with
  | error problem => simp [save, saveText, wrote, Except.mapError] at saved
  | ok written =>
    obtain rfl : written = tree' := by simpa [save, saveText, wrote, Except.mapError] using saved
    have text := FileTree.readText_writeText wrote
    rw [load, text, ← parse_render]
    rfl

/-- Hosts with quotes of both kinds, line ends, a backslash and a control character. -/
def oddHosts : Config where
  hosts := ["a\"b", "'''c'\"", "d\n\r\n\"\"\"\\", "\x07"]
  logLevel := .debug
  timeout := 0
  retryMode := .oneShot

/-- A tree with one directory. -/
def confTree : FileTree := ⟨.ofList [("conf", .directory)]⟩

theorem load_save_of_oddHosts :
    ∃ tree, oddHosts.save confTree "conf/kv.toml" = .ok tree ∧ load tree "conf/kv.toml" = .ok oddHosts := by
  have short : "conf/kv.toml".utf8ByteSize ≤ FileTree.maxPath := by decide
  have checked : FileTree.checkPath "conf/kv.toml" = .ok () := by simp [FileTree.checkPath, short]
  have slash : FileTree.namesBeforeSlash? "conf/kv.toml" = none := by rfl
  have leads : confTree.resolve [] (FileTree.names "conf/kv.toml") = .ok ["conf", "kv.toml"] := by rfl
  have made : confTree.placeToMake "conf/kv.toml" = .ok ["conf", "kv.toml"] := by
    simp only [FileTree.placeToMake, checked, slash, leads, bind, Except.bind]
  have free : confTree.node? ["conf", "kv.toml"] = none := by rfl
  obtain ⟨tree, saved⟩ : ∃ tree, oddHosts.save confTree "conf/kv.toml" = .ok tree := by
    refine ⟨confTree.put ["conf", "kv.toml"] (.file oddHosts.render.toUTF8.toList), ?_⟩
    simp only [save, saveText, FileTree.writeText, FileTree.write, made, free, bind, Except.bind]
    rfl
  refine ⟨tree, saved, (load_save saved).trans ?_⟩
  rfl

end RecordGate.Config
