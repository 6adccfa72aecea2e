import RecordGate.Config
import RecordGate.Json.Coded
import RecordGate.Record

/-!
# JSON forms of records, options and configurations

A structure is an object with its fields as members; members with other names are passed over, and no
field may be given twice. It is also read from an array of its fields in order.
-/

namespace RecordGate
set_option autoImplicit false

namespace Json

/-- Read a structure, one level down, from its fields by position. An array must have at least as many
items as are `required` and no more than there are names. -/
def fields? {α : Type} (names : List String) (required : Nat)
    (read? : Nat → (Nat → Option Json) → Option α) : Nat → Json → Option α
  | depth + 1, object members => do
    let members ← members.mapM fun m => do return (← m.1, m.2)
    if names.all fun n => (members.filter fun m => m.1 == n).length ≤ 1 then
      read? depth fun i => names[i]?.bind fun n => List.lookup n members
    else none
  | depth + 1, array items =>
    if required ≤ items.length ∧ items.length ≤ names.length then read? depth (items[·]?) else none
  | _, _ => none

/-- A choice among names that hold nothing. -/
def choice? {α : Type} (names : List (String × α)) : Nat → Json → Option α
  | _, string name => names.lookup name
  | _ + 1, object [(some name, null)] => names.lookup name
  | _, _ => none

end Json

open Json (fields?)

instance : JsonCoded Digest where
  toJson d := Json.ofBytes d.bytes
  ofJson? depth j := (j.bytes? depth).bind Digest.ofBytes?

instance : JsonCoded Key where
  toJson k := .ofMembers [("namespace", .string k.ns),
    ("set_name", k.setName.elim .null .string), ("digest", JsonCoded.toJson k.digest)]
  ofJson? := fields? ["namespace", "set_name", "digest"] 3 fun depth field => do
    let ns ← (← field 0).string?
    let setName ← match field 1 with
      | none | some .null => some none
      | some j => j.string?.map some
    return ⟨ns, setName, ← JsonCoded.ofJson? depth (← field 2)⟩

instance : JsonCoded Bin where
  toJson b := .ofMembers [("name", .string b.name), ("value", b.value.toJson)]
  ofJson? := fields? ["name", "value"] 2 fun depth field => do
    return ⟨← (← field 0).string?, ← Value.ofJson? depth (← field 1)⟩

instance : JsonCoded Host where
  toJson h := .ofMembers [("name", .string h.name), ("port", .integer h.port.toNat)]
  ofJson? := fields? ["name", "port"] 2 fun _ field => do
    return ⟨← (← field 0).string?, ← (← field 1).uint16?⟩

instance : JsonCoded RetryMode where
  toJson m := .string (Config.spelling Config.retryNames m)
  ofJson? := Json.choice? Config.retryNames

instance : JsonCoded TransactionOptions where
  toJson o := .ofMembers [("timeout_ms", .integer o.timeout.toNat),
    ("retry_mode", JsonCoded.toJson o.retryMode)]
  ofJson? := fields? ["timeout_ms", "retry_mode"] 2 fun depth field => do
    return { timeout := ← (← field 0).uint32?, retryMode := ← JsonCoded.ofJson? depth (← field 1) }

instance : JsonCoded GenerationMode where
  toJson m :=
    match m.generation? with
    | some g => .ofMembers [(m.name, .integer g.toNat)]
    | none => .string m.name
  ofJson?
    | _ + 1, .object [(some "ExpectEqual", g)] => g.uint32?.map .expectEqual
    | _ + 1, .object [(some "ExpectGreaterOrEqual", g)] => g.uint32?.map .expectAtLeast
    | _ + 1, .object [(some "OnMismatchKeepDuplicate", g)] => g.uint32?.map .keepDuplicate
    | depth, j => Json.choice? [("None", .unchecked)] depth j

instance : JsonCoded WriteOptions where
  toJson o := .ofMembers [("expiration_secs", .integer o.expiration.toNat),
    ("unique_only", .bool o.uniqueOnly), ("generation_mode", JsonCoded.toJson o.generationMode)]
  ofJson? := fields? ["expiration_secs", "unique_only", "generation_mode"] 3 fun depth field => do
    return { expiration := ← (← field 0).uint32?, uniqueOnly := ← (← field 1).bool?
             generationMode := ← JsonCoded.ofJson? depth (← field 2) }

/-- How priorities are spelled. -/
def Priority.names : List (String × Priority) :=
  [("auto", automatic), ("low", low), ("medium", medium), ("high", high)]

instance : JsonCoded Priority where
  toJson p := .string (Config.spelling Priority.names p)
  ofJson? := Json.choice? Priority.names

instance : JsonCoded ScanOptions where
  toJson o := .ofMembers [("concurrent_nodes", .bool o.concurrent),
    ("threads_per_node", .integer o.threads.toNat), ("priority", JsonCoded.toJson o.priority),
    ("fail_on_cluster_change", .bool o.failOnChange), ("include_bin_data", .bool o.includeBins)]
  ofJson? :=
    fields? ["concurrent_nodes", "threads_per_node", "priority", "fail_on_cluster_change",
        "include_bin_data"] 5 fun depth field => do
      return { concurrent := ← (← field 0).bool?, threads := ← (← field 1).uint32?
               priority := ← JsonCoded.ofJson? depth (← field 2)
               failOnChange := ← (← field 3).bool?, includeBins := ← (← field 4).bool? }

instance : JsonCoded ResultCode where
  toJson c := .string c.name
  ofJson? := Json.choice? (ResultCode.all.map fun c => (c.name, c))

instance : JsonCoded LogLevel where
  toJson l := .string (Config.spelling Config.levelNames l)
  ofJson? := Json.choice? Config.levelNames

instance : JsonCoded Config where
  toJson c := .ofMembers [("hosts", .array (c.hosts.map .string)),
    ("log_level", JsonCoded.toJson c.logLevel), ("default_timeout_ms", .integer c.timeout.toNat),
    ("default_retry", JsonCoded.toJson c.retryMode)]
  ofJson? :=
    fields? ["hosts", "log_level", "default_timeout_ms", "default_retry"] 0 fun depth field => do
      let defaults : Config := {}
      let orDefault {α : Type} (i : Nat) (default : α) (read? : Json → Option α) : Option α :=
        match field i with
        | none => some default
        | some j => read? j
      return {
        hosts := ← orDefault 0 defaults.hosts (Json.items? (fun _ => Json.string?) depth)
        logLevel := ← orDefault 1 defaults.logLevel (JsonCoded.ofJson? depth)
        timeout := ← orDefault 2 defaults.timeout Json.uint32?
        retryMode := ← orDefault 3 defaults.retryMode (JsonCoded.ofJson? depth) }

end RecordGate
