import RecordMapper.Error
import RecordMapper.Text.Quoted

/-!
# Dialects

A dialect decides how table and column names are quoted. Placeholders are `?` in every dialect.
-/

namespace RecordMapper

/-- The ways of quoting names: not at all, in double quotes, or in back quotes. -/
inductive Dialect where
  | generic
  | sqlite
  | mysql
deriving DecidableEq, Repr

namespace Dialect

/-- The dialect of the bundled store. -/
def standard : Dialect := sqlite

def all : List Dialect := [generic, sqlite, mysql]

def name : Dialect → String
  | generic => "generic"
  | sqlite => "sqlite"
  | mysql => "mysql"

/-- The name of the dialect in a diagnostic. -/
def diagnostic : Dialect → String
  | generic => "Generic"
  | sqlite => "Sqlite"
  | mysql => "MySql"

/-- The dialect with exactly this name. -/
def ofName? (s : String) : Option Dialect :=
  all.find? fun d => d.name == s

/-- The dialect that a user calls by this name, in any case of its letters; each dialect has a
second name. No letter outside ASCII has a lower case among the letters of these names. -/
def parse? (s : String) : Option Dialect :=
  match String.ofList (s.toList.map Char.toLower) with
  | "generic" | "plain" => some generic
  | "sqlite" | "sqlite3" => some sqlite
  | "mysql" | "mariadb" => some mysql
  | _ => none

/-- The dialect that a user calls by this name, or the error that names it. -/
def parse (s : String) : Except Error Dialect :=
  match parse? s with
  | some d => .ok d
  | none => .error (.config (.unknownDialect s))

/-- The quote character, where names are quoted. -/
def quote? : Dialect → Option Char
  | generic => none
  | sqlite => some '"'
  | mysql => some '\x60'

/-- A table or column name as it stands in a statement. -/
def quoteName (d : Dialect) (s : String) : String :=
  match d.quote? with
  | none => s
  | some q => Text.enclose q s

end Dialect

end RecordMapper
