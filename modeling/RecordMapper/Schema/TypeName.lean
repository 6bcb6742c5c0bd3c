import RecordMapper.Schema.Model

/-!
# Type names

The name of a type is a path of segments, each an identifier with an optional list of type names as
arguments. `TypeName.text` writes it out and `TypeName.last` is the identifier of its last segment,
which a table is named after by default.
-/

namespace RecordMapper

/-- The name of a type: the segments before the last one, and the last one. A segment is an
identifier with its arguments. -/
inductive TypeName where
  | path (outer : List (String × List TypeName)) (last : String) (arguments : List TypeName)

namespace TypeName

/-- The identifier of the last segment. -/
def last : TypeName → String
  | .path _ last _ => last

mutual

/-- The name as it is written. -/
def text : TypeName → String
  | .path outer last arguments => outerText outer ++ (last ++ argumentsText arguments)

/-- The segments before the last one, each followed by two colons. -/
def outerText : List (String × List TypeName) → String
  | [] => ""
  | (name, arguments) :: rest => name ++ argumentsText arguments ++ "::" ++ outerText rest

/-- A list of arguments in angle brackets, or nothing if there are none. -/
def argumentsText : List TypeName → String
  | [] => ""
  | t :: ts => "<" ++ text t ++ moreText ts ++ ">"

/-- The arguments after the first one. -/
def moreText : List TypeName → String
  | [] => ""
  | t :: ts => ", " ++ text t ++ moreText ts

end

end TypeName

end RecordMapper
