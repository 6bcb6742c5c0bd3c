import RecordMapper.Clause.Kind
import RecordMapper.Value.Conversion

/-!
# Errors

An error is the cause of a failure; `Error.message` gives its wording. The causes are grouped by
the part of the library that reports them.
-/

namespace RecordMapper

/-- Why a model has no schema. -/
inductive ModelFault where
  | emptyTable
  | noFields
  | emptyName
  | repeatedColumn (column : String)
  /-- The schema kept for the model belongs to another one. -/
  | foreignSchema
deriving DecidableEq

def ModelFault.message : ModelFault → String
  | emptyTable => "table name is empty"
  | noFields => "no mapped fields"
  | emptyName => "field or column name is empty"
  | repeatedColumn column => "column " ++ column ++ " is mapped twice"
  | foreignSchema => "cached schema has a different type"

/-- Why a clause cannot be rendered. -/
inductive RenderFault where
  | emptyTable
  | noColumns
  | noRows
  | raggedRows
  | emptyCondition
  | placeholderCount (placeholders parameters : Nat)
  | emptyOrdering
  | limitOutOfRange
  | noAssignments
  | emptyColumn
deriving DecidableEq

def RenderFault.message : RenderFault → String
  | emptyTable => "table name is empty"
  | noColumns => "no columns"
  | noRows => "no rows to insert"
  | raggedRows => "rows have differing widths"
  | emptyCondition => "condition is empty"
  | placeholderCount placeholders parameters =>
    toString placeholders ++ " placeholders but " ++ toString parameters ++ " parameters"
  | emptyOrdering => "ordering is empty"
  | limitOutOfRange => "limit out of range"
  | noAssignments => "no assignments"
  | emptyColumn => "column name is empty"

/-- Why a statement cannot be put together. -/
inductive ClauseFault where
  | render (kind : Clause.Kind) (fault : RenderFault)
  | repeated (kind : Clause.Kind)
  | nothingSet (requested : List Clause.Kind)
  | unknownField (table field : String)
deriving DecidableEq

def ClauseFault.message : ClauseFault → String
  | render kind fault => kind.name ++ ": " ++ fault.message
  | repeated kind => kind.name ++ " requested more than once"
  | nothingSet requested =>
    "none of [" ++ String.intercalate ", " (requested.map (·.name)) ++ "] has been set"
  | unknownField table field =>
    Clause.Kind.update.name ++ ": " ++ table ++ " has no field " ++ field

/-- Why a name in a statement is refused. -/
inductive NameFault where
  | noSuchColumn (column : String)
  | tableExists (table : String)
deriving DecidableEq

def NameFault.message : NameFault → String
  | noSuchColumn column => "no such column: " ++ column
  | tableExists table => "table " ++ table ++ " already exists"

/-- Why the store refuses a statement. -/
inductive StorageFault where
  | noSuchTable (table : String)
  /-- A name is refused that stands behind so many bytes of the statement. -/
  | badName (fault : NameFault) (sql : String) (offset : Nat)
  /-- The target of an assignment is missing. -/
  | noSuchTarget (column : String)
  /-- The target of an inserted value is missing. -/
  | noColumnNamed (table column : String)
  | repeatedColumn (column : String)
  | reservedName (table : String)
  | tooManyTableColumns (table : String)
  | tooManyResultColumns
  | notUnique (table column : String)
  | valueCount (table : String) (columns values : Nat)
  /-- There are fewer or more values than columns were named. -/
  | namedValueCount (columns values : Nat)
  /-- The rows of a statement differ in width. -/
  | unevenRows
  | parameterCount (given needed : Nat)
  | returnsRows
  | unbindable (cause : ConversionError)
  | notUnderstood (token : String)
  | cannotOpen (path : String)
  /-- The path has a zero byte after so many others. -/
  | nulInPath (position : Nat)
  /-- The database is named by a URI that leads to another host. -/
  | invalidAuthority (authority : String)
  /-- An option of a URI has a value that it cannot have. -/
  | noSuchMode (option value : String)
  /-- An option of a URI asks for more than an earlier one allows. -/
  | modeNotAllowed (option value : String)
  | noSuchFileSystem (name : String)
  | notADatabase
  /-- The file can be opened and not read. -/
  | unreadable
  | readOnly
  /-- A number is needed and something else given. -/
  | mismatch
  /-- Changes cannot be recorded beside the file of the database. -/
  | noJournal
  /-- The store gave up while it produced rows. -/
  | interrupted (reason : String)
deriving DecidableEq

def StorageFault.message : StorageFault → String
  | noSuchTable table => "no such table: " ++ table
  | badName fault sql offset =>
    fault.message ++ " in " ++ sql ++ " at offset " ++ toString offset
  | noSuchTarget column => "no such column: " ++ column
  | noColumnNamed table column => "table " ++ table ++ " has no column named " ++ column
  | repeatedColumn column => "duplicate column name: " ++ column
  | reservedName table => "object name reserved for internal use: " ++ table
  | tooManyTableColumns table => "too many columns on " ++ table
  | tooManyResultColumns => "too many columns in result set"
  | notUnique table column => "UNIQUE constraint failed: " ++ table ++ "." ++ column
  | valueCount table columns values =>
    "table " ++ table ++ " has " ++ toString columns ++ " columns but " ++ toString values ++
      " values were supplied"
  | namedValueCount columns values =>
    toString values ++ " values for " ++ toString columns ++ " columns"
  | unevenRows => "all VALUES must have the same number of terms"
  | parameterCount given needed =>
    "Wrong number of parameters passed to query. Got " ++ toString given ++ ", needed " ++
      toString needed
  | returnsRows => "Execute returned results - did you mean to call query?"
  | unbindable cause => cause.message
  | notUnderstood token => "near \"" ++ token ++ "\": syntax error"
  | cannotOpen path => "unable to open database file: " ++ path
  | nulInPath position => "nul byte found in provided data at position: " ++ toString position
  | invalidAuthority authority => "invalid uri authority: " ++ authority
  | noSuchMode option value => "no such " ++ option ++ " mode: " ++ value
  | modeNotAllowed option value => option ++ " mode not allowed: " ++ value
  | noSuchFileSystem name => "no such vfs: " ++ name
  | notADatabase => "file is not a database"
  | unreadable => "disk I/O error"
  | mismatch => "datatype mismatch"
  | readOnly => "attempt to write a readonly database"
  | noJournal => "unable to open database file"
  | interrupted reason => reason

/-- Why an executor failed. -/
inductive ExecutorFault where
  | noCurrentRow
  | reported (reason : String)
deriving DecidableEq

def ExecutorFault.message : ExecutorFault → String
  | noCurrentRow => "scan called without a current row"
  | reported reason => reason

/-- Why a row cannot be read. -/
inductive ScanFault where
  | reported (reason : String)
  | conversion (cause : ConversionError)
  | width (expected found : Nat)
  | noRows
deriving DecidableEq

def ScanFault.message : ScanFault → String
  | reported reason => reason
  | conversion cause => cause.message
  | width expected found =>
    "expected " ++ toString expected ++ " columns, found " ++ toString found
  | noRows => "no rows returned"

/-- Why a file operation failed. -/
inductive FileFault where
  | notFound
  | isDirectory
  | notDirectory
  | occupied
  | nameTooLong
  | nulInPath
  /-- The content of the file is not text. -/
  | notText
  /-- The reason that a system gives in words. -/
  | reported (reason : String)
deriving DecidableEq

def FileFault.message : FileFault → String
  | notFound => "No such file or directory (os error 2)"
  | isDirectory => "Is a directory (os error 21)"
  | notDirectory => "Not a directory (os error 20)"
  | occupied => "File exists (os error 17)"
  | nameTooLong => "File name too long (os error 36)"
  | nulInPath => "file name contained an unexpected NUL byte"
  | notText => "stream did not contain valid UTF-8"
  | reported reason => reason

/-- Why the text of a settings file is refused. -/
inductive SettingsFault where
  | notUnderstood
  | unknownVariant (found : String) (expected : List String)
  | notText (found : String)
deriving DecidableEq

def SettingsFault.message : SettingsFault → String
  | notUnderstood => "malformed settings"
  | unknownVariant found expected =>
    let quoted := fun s => "\x60" ++ s ++ "\x60"
    "unknown variant " ++ quoted found ++ ", expected one of " ++
      String.intercalate ", " (expected.map quoted)
  | notText found => "invalid type: " ++ found ++ ", expected a string"

/-- Why settings cannot be used. -/
inductive ConfigFault where
  | unknownDialect (name : String)
  | unreadable (path : String) (fault : SettingsFault)
  | alreadyExists (path : String)
  | noDatabase
deriving DecidableEq

def ConfigFault.message : ConfigFault → String
  | unknownDialect name => "Unknown dialect: " ++ name
  | unreadable path fault => path ++ ": " ++ fault.message
  | alreadyExists path => path ++ " exists, pass --force to replace it"
  | noDatabase => "no database configured"

/-- Why an operation of the library failed. -/
inductive Error where
  | invalidModel (model : String) (fault : ModelFault)
  | clause (fault : ClauseFault)
  | storage (fault : StorageFault)
  | executor (fault : ExecutorFault)
  | bind (column : String) (cause : ConversionError)
  | scan (row : Nat) (column : String) (fault : ScanFault)
  | file (fault : FileFault)
  | config (fault : ConfigFault)
deriving DecidableEq

def Error.message : Error → String
  | invalidModel model fault => "Invalid model " ++ model ++ ": " ++ fault.message
  | clause fault => "Clause build error: " ++ fault.message
  | storage fault => "Storage error: " ++ fault.message
  | executor fault => "Executor error: " ++ fault.message
  | bind column cause => "Bind error at column " ++ column ++ ": " ++ cause.message
  | scan row column fault =>
    "Scan error at row " ++ toString row ++ ", column " ++ column ++ ": " ++ fault.message
  | file fault => "IO error: " ++ fault.message
  | config fault => "Config error: " ++ fault.message

end RecordMapper
