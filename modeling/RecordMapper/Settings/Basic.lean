import RecordMapper.Dialect
import RecordMapper.Text.Blank
import RecordMapper.Text.Escape
import RecordMapper.Toml.Document
import RecordMapper.Value.Text

/-!
# Settings

The settings of a program: the database, the dialect and a filter for its log. They are read from
the entries of a TOML document, in whose order faults are reported, and written as one.
-/

namespace RecordMapper

/-- Settings that name nothing choose the standard dialect and no database. -/
structure Settings where
  database? : Option String := none
  dialect : Dialect := .standard
  logFilter? : Option String := none
deriving DecidableEq

/-- Where a database is kept. -/
inductive Target where
  | memory
  | file (path : String)
deriving DecidableEq

namespace Settings

/-- The file that settings are read from where no other is named. -/
def defaultPath : String := "lborm.toml"

/-- The database name that stands for a private one in memory. -/
def inMemory : String := ":memory:"

/-- The settings that a new project starts from. -/
def starter (database? : Option String) : Settings where
  database? := some (database?.getD "lborm.db")

/-- What a message calls a value that is no text. -/
def describe : Toml.Value → String
  | .string s => "string " ++ Text.diagnosticString s
  | .integer i => "integer \x60" ++ toString i ++ "\x60"
  | .real r =>
    let s := Value.displayLayout.text r
    "floating point \x60" ++ (if r.isFinite && '.' ∉ s.toList then s ++ ".0" else s) ++ "\x60"
  | .bool b => "boolean \x60" ++ Value.boolText b ++ "\x60"
  | .date => "map"
  | .array _ => "sequence"
  | .table _ => "map"

def textOf : Toml.Value → Except SettingsFault String
  | .string s => .ok s
  | v => .error (.notText (describe v))

/-- The dialect with exactly this name. -/
def dialectNamed (s : String) : Except SettingsFault Dialect :=
  match Dialect.ofName? s with
  | some d => .ok d
  | none => .error (.unknownVariant s (Dialect.all.map (·.name)))

/-- A dialect is a name, or a table whose only key is the name of an empty table or array. -/
def dialectOf : Toml.Value → Except SettingsFault Dialect
  | .string s => dialectNamed s
  | .table [(s, v)] => do
    let d ← dialectNamed s
    match v with
    | .table [] => return d
    | .array [] => return d
    | _ => throw .notUnderstood
  | _ => .error .notUnderstood

/-- Settings from the entries of a document; entries with other keys mean nothing. -/
def ofEntries (s : Settings) : List (String × Toml.Value) → Except SettingsFault Settings
  | [] => .ok s
  | (k, v) :: es => do
    let s ← match k with
      | "database" => do pure { s with database? := some (← textOf v) }
      | "dialect" => do pure { s with dialect := ← dialectOf v }
      | "log_filter" => do pure { s with logFilter? := some (← textOf v) }
      | _ => pure s
    ofEntries s es

/-- The settings that a text holds. -/
def parse (text : String) : Except SettingsFault Settings :=
  match Toml.parse? text with
  | none => .error .notUnderstood
  | some es => ofEntries {} es

/-- A character inside a string of a written document. -/
def tomlChar (c : Char) : List Char :=
  if c = '\x7f' then ['\\', 'u'] ++ Text.hex 4 c.toNat else Text.jsonChar c

/-- A string of a written document. -/
def tomlString (s : String) : String :=
  String.ofList ('"' :: (s.toList.flatMap tomlChar ++ ['"']))

/-- The settings as a document, one line for each that is set. -/
def render (s : Settings) : String :=
  let line (key : String) (value? : Option String) : String :=
    match value? with
    | none => ""
    | some v => key ++ " = " ++ tomlString v ++ "\n"
  line "database" s.database? ++ line "dialect" (some s.dialect.name) ++
    line "log_filter" s.logFilter?

/-- Where the database of the settings is kept. -/
def target (s : Settings) : Except Error Target :=
  match s.database?.map Text.trim with
  | none => .error (.config .noDatabase)
  | some name =>
    if name = "" then .error (.config .noDatabase)
    else if name = inMemory then .ok .memory
    else .ok (.file name)

end Settings

end RecordMapper
