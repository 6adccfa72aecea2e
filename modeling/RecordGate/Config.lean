import RecordGate.Host.Entry
import RecordGate.Log.Level
import RecordGate.Options.Policies
import RecordGate.Toml.Document

/-!
# Configuration

A configuration names seed hosts, a log level, and the options of calls that bring none. It is written as
a TOML document; keys that are missing have their defaults and unknown keys are passed over. A document is
accepted only if every host entry in it can be parsed.
-/

namespace RecordGate
set_option autoImplicit false

structure Config where
  /-- Host entries, not yet parsed. -/
  hosts : List String := [s!"127.0.0.1:{defaultPort}"]
  logLevel : LogLevel := .info
  /-- Milliseconds. -/
  timeout : UInt32 := defaultTimeout
  retryMode : RetryMode := .retry
  deriving DecidableEq, Inhabited

namespace Config

/-- The name of a configuration file. -/
def fileName : String := "kvcompat.toml"

/-- The configuration file that stands for the defaults, with comments. -/
def defaultText : String :=
  "\n".intercalate [
    "# kvcompat configuration",
    "#",
    "# Seed hosts, \"name:port\" or \"name\" (port 3000)",
    "hosts = [\"127.0.0.1:3000\"]",
    "",
    "# Log level: \"error\", \"warn\", \"info\" (default) or \"debug\"",
    "log_level = \"info\"",
    "",
    "# Default transaction options",
    "#   default_retry = \"retry\"    retries within the timeout",
    "#   default_retry = \"one_shot\" single attempt",
    "default_timeout_ms = 5000",
    "default_retry = \"retry\"",
    ""]

/-- How log levels are spelled in a document. -/
def levelNames : List (String × LogLevel) :=
  [("error", .error), ("warn", .warn), ("info", .info), ("debug", .debug)]

/-- How retry modes are spelled in a document. -/
def retryNames : List (String × RetryMode) := [("retry", .retry), ("one_shot", .oneShot)]

/-- The spelling of a choice. -/
def spelling {α : Type} [DecidableEq α] (names : List (String × α)) (a : α) : String :=
  ((names.find? fun n => n.2 = a).map (·.1)).getD ""

/-! ## Reading -/

/-- The items of an array of strings. -/
def strings? : Toml.Item → Option (List String)
  | .array items => items.mapM fun | .string s => some s | _ => none
  | _ => none

/-- A number of 32 bits. -/
def word? : Toml.Item → Option UInt32
  | .integer i => if 0 ≤ i ∧ i < UInt32.size then some (UInt32.ofNat i.toNat) else none
  | _ => none

/-- A choice among names: a string, or a table whose one key is the name and holds nothing. -/
def choice? {α : Type} (names : List (String × α)) : Toml.Item → Option α
  | .string s => names.lookup s
  | .table _ [(name, .array [])] => names.lookup name
  | .table _ [(name, .table _ [])] => names.lookup name
  | _ => none

/-- The value of a key, or its default where the key is missing. -/
def field? {α : Type} (entries : Toml.Entries) (key : String) (read? : Toml.Item → Option α)
    (default : α) : Option α :=
  match entries.lookup key with
  | none => some default
  | some item => read? item

/-- The configuration of a document. -/
def ofEntries? (entries : Toml.Entries) : Option Config := do
  let defaults : Config := {}
  return {
    hosts := ← field? entries "hosts" strings? defaults.hosts
    logLevel := ← field? entries "log_level" (choice? levelNames) defaults.logLevel
    timeout := ← field? entries "default_timeout_ms" word? defaults.timeout
    retryMode := ← field? entries "default_retry" (choice? retryNames) defaults.retryMode }

/-- The hosts of the entries, in order, or the first entry that is none. -/
def seedHosts (c : Config) : Except ConfigProblem (List Host) := c.hosts.mapM Host.parse

/-- The configuration that a text spells. -/
def parse (text : String) : Except ConfigProblem Config := do
  match (Toml.parse? text).bind ofEntries? with
  | none => throw .malformed
  | some c =>
    let _ ← c.seedHosts
    return c

/-- The options of calls that bring none. -/
def transactionOptions (c : Config) : TransactionOptions :=
  { timeout := c.timeout, retryMode := c.retryMode }

/-! ## Writing -/

/-- An array of strings: on one line up to one item, else an item to a line. -/
def renderStrings (items : List String) : List Char :=
  match items with
  | [] => "[]".toList
  | [item] => '[' :: Toml.quote item.toList ++ [']']
  | items =>
    "[\n".toList ++ items.flatMap (fun item => "    ".toList ++ Toml.quote item.toList ++ ",\n".toList) ++ [']']

/-- One assignment of a document. -/
def renderLine (key : String) (value : List Char) : List Char :=
  key.toList ++ " = ".toList ++ value ++ ['\n']

/-- The document of a configuration, as characters. -/
def renderChars (c : Config) : List Char :=
  renderLine "hosts" (renderStrings c.hosts) ++
    renderLine "log_level" (Toml.quote (spelling levelNames c.logLevel).toList) ++
    renderLine "default_timeout_ms" (toString c.timeout).toList ++
    renderLine "default_retry" (Toml.quote (spelling retryNames c.retryMode).toList)

/-- The document of a configuration. -/
def render (c : Config) : String := String.ofList c.renderChars

end Config

end RecordGate
