/-!
# Options

The grammar of the command line. Options may stand anywhere among the words, a cluster of letters
after one dash holds several, and two dashes alone end them. The options of the program may be given
before or after the command, at most once in either place, and count where they stand last.
-/

namespace RecordMapper.CommandLine

/-- What an option stands for. -/
inductive Switch where
  | verbose
  | config
  | database
  | json
  | force
  | version
  | help
deriving DecidableEq, Repr

namespace Switch

/-- The name after two dashes. -/
def long : Switch → String
  | verbose => "verbose"
  | config => "config"
  | database => "database"
  | json => "json"
  | force => "force"
  | version => "version"
  | help => "help"

/-- The letter after one dash. -/
def letter? : Switch → Option Char
  | verbose => some 'v'
  | config => some 'c'
  | database => some 'd'
  | json => none
  | force => some 'f'
  | version => some 'V'
  | help => some 'h'

/-- The option is followed by a value. -/
def takesValue : Switch → Bool
  | config | database => true
  | _ => false

end Switch

/-- Why a command line is refused. -/
inductive UsageFault where
  | unknownOption (text : String)
  | repeatedOption (s : Switch)
  | missingValue (s : Switch)
  | unwantedValue (s : Switch)
  | unexpectedWord (word : String)
  | unknownCommand (word : String)
  | missingCommand
  | missingStatement
deriving DecidableEq

def UsageFault.message : UsageFault → String
  | unknownOption text => "unknown option " ++ text
  | repeatedOption s => "option --" ++ s.long ++ " is given twice"
  | missingValue s => "option --" ++ s.long ++ " needs a value"
  | unwantedValue s => "option --" ++ s.long ++ " takes no value"
  | unexpectedWord word => "unexpected argument " ++ word
  | unknownCommand word => "unknown command " ++ word
  | missingCommand => "a command is needed: exec, query or init"
  | missingStatement => "the SQL of a statement is needed"

/-- Why the reading of a command line ends early. -/
inductive Stop where
  | misuse (fault : UsageFault)
  | version
  | help
deriving DecidableEq

/-- One argument by its look. -/
inductive Argument where
  | ending
  | long (name : String) (value? : Option String)
  | cluster (letters : List Char)
  | word (s : String)

/-- Tells an argument by its dashes; one dash alone is a word. -/
def Argument.ofString (s : String) : Argument :=
  match s.toList with
  | ['-', '-'] => .ending
  | '-' :: '-' :: cs =>
    let name := String.ofList (cs.takeWhile (· != '='))
    match cs.dropWhile (· != '=') with
    | [] => .long name none
    | _ :: value => .long name (some (String.ofList value))
  | '-' :: c :: cs => .cluster (c :: cs)
  | _ => .word s

/-- What words mean at a place of the command line. -/
inductive Words where
  /-- The first word is a command and ends the place. -/
  | command
  | none
  | any
deriving DecidableEq

/-- A place of the command line: the options allowed there and the meaning of words. -/
structure Place where
  switches : List Switch
  words : Words

/-- What was given at a place: the options with their values, and the words. -/
structure Given where
  options : List (Switch × String) := []
  words : List String := []

namespace Given

def value? (g : Given) (s : Switch) : Option String :=
  (g.options.find? fun o => o.1 == s).map (·.2)

def has (g : Given) (s : Switch) : Bool :=
  (g.value? s).isSome

/-- Adds an option; the value of one without a value is empty. -/
def give (g : Given) (s : Switch) (value : String) : Except Stop Given :=
  match s with
  | .version => .error .version
  | .help => .error .help
  | _ =>
    if s.takesValue && value == "" then .error (.misuse (.missingValue s))
    else if g.has s then .error (.misuse (.repeatedOption s))
    else .ok { g with options := g.options ++ [(s, value)] }

end Given

/-- What one argument adds: something given, or an option that waits for its value. -/
inductive Step where
  | given (g : Given)
  | waiting (g : Given) (s : Switch)

namespace Place

/-- Reads the letters of a cluster. A value may follow its letter, with or without an equals
sign. -/
def readCluster (p : Place) (g : Given) : List Char → Except Stop Step
  | [] => .ok (.given g)
  | c :: cs =>
    match p.switches.find? fun s => s.letter? == some c with
    | none => .error (.misuse (.unknownOption (String.ofList ['-', c])))
    | some s =>
      if s.takesValue then
        match cs with
        | [] => .ok (.waiting g s)
        | '=' :: value => (g.give s (String.ofList value)).map .given
        | value => (g.give s (String.ofList value)).map .given
      else
        match g.give s "" with
        | .error stop => .error stop
        | .ok g => p.readCluster g cs

/-- Reads an option by its long name. -/
def readLong (p : Place) (g : Given) (name : String) (value? : Option String) : Except Stop Step :=
  match p.switches.find? fun s => s.long == name with
  | none => .error (.misuse (.unknownOption ("--" ++ name)))
  | some s =>
    match s.takesValue, value? with
    | true, none => .ok (.waiting g s)
    | true, some value => (g.give s value).map .given
    | false, none => (g.give s "").map .given
    | false, some _ => .error (.misuse (.unwantedValue s))

/-- The words after the end of the options. -/
def readRest (p : Place) (g : Given) (rest : List String) : Except Stop Given :=
  match p.words, rest with
  | .any, rest => .ok { g with words := g.words ++ rest }
  | _, [] => .ok g
  | _, word :: _ => .error (.misuse (.unexpectedWord word))

/-- Reads the arguments at a place, and gives those that are left where a command ends it. -/
def read (p : Place) (g : Given) : List String → Except Stop (Given × List String)
  | [] => .ok (g, [])
  | argument :: rest => do
    let step ← match Argument.ofString argument with
      | .ending => return (← p.readRest g rest, [])
      | .word word =>
        match p.words with
        | .command => return (g, argument :: rest)
        | .none => throw (.misuse (.unexpectedWord word))
        | .any => pure (.given { g with words := g.words ++ [word] })
      | .long name value? => p.readLong g name value?
      | .cluster letters => p.readCluster g letters
    match step with
    | .given g => p.read g rest
    | .waiting g s =>
      match rest with
      | [] => throw (.misuse (.missingValue s))
      | value :: rest =>
        match Argument.ofString value with
        | .word _ => p.read (← g.give s value) rest
        | _ => throw (.misuse (.missingValue s))

end Place

/-- What the program is asked to do. -/
inductive Action where
  | exec (sql : String) (params : List String)
  | query (sql : String) (params : List String) (json : Bool)
  | init (force : Bool)
deriving DecidableEq

/-- A command line that is understood. -/
structure Invocation where
  verbose : Bool
  config? : Option String
  database? : Option String
  action : Action
deriving DecidableEq

/-- The options that may be given before and after a command. -/
def commonSwitches : List Switch := [.verbose, .config, .database, .help]

/-- The places before the command and after each command. -/
def topPlace : Place := ⟨.version :: commonSwitches, .command⟩

def execPlace : Place := ⟨commonSwitches, .any⟩

def queryPlace : Place := ⟨.json :: commonSwitches, .any⟩

def initPlace : Place := ⟨.force :: commonSwitches, .none⟩

/-- The statement and its parameters among the words. -/
def statement (g : Given) : Except Stop (String × List String) :=
  match g.words with
  | [] => .error (.misuse .missingStatement)
  | sql :: params => .ok (sql, params)

/-- Reads a command and what follows it. -/
def readCommand : List String → Except Stop (Given × Action)
  | [] => .error (.misuse .missingCommand)
  | "exec" :: rest => do
    let (g, _) ← execPlace.read {} rest
    let (sql, params) ← statement g
    return (g, .exec sql params)
  | "query" :: rest => do
    let (g, _) ← queryPlace.read {} rest
    let (sql, params) ← statement g
    return (g, .query sql params (g.has .json))
  | "init" :: rest => do
    let (g, _) ← initPlace.read {} rest
    return (g, .init (g.has .force))
  | "help" :: _ => .error .help
  | word :: _ => .error (.misuse (.unknownCommand word))

/-- Reads the arguments of the program. -/
def Invocation.read (arguments : List String) : Except Stop Invocation := do
  let (outer, rest) ← topPlace.read {} arguments
  let (inner, action) ← readCommand rest
  return {
    verbose := outer.has .verbose || inner.has .verbose
    config? := inner.value? .config <|> outer.value? .config
    database? := inner.value? .database <|> outer.value? .database
    action := action }

end RecordMapper.CommandLine
