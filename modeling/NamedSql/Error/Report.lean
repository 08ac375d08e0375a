import NamedSql.Error.Fault
import NamedSql.Text.Blank
import NamedSql.Value.Display

/-!
# Error reports

What a caller sees of an error of this library: its kind, one sentence of detail, further texts,
and named attributes. The kinds form a tree, in which a caller can ask for a kind together with all
kinds below it.
-/

namespace NamedSql

inductive ErrorKind where
  | general
  | missingDependency
  | configuration
  | parsing
  | lexical
  | parameter
  | unknownParameter
  | execution
  | repository
  | notFound
  | severalFound
  deriving DecidableEq

namespace ErrorKind

def name : ErrorKind → Text
  | general => "OravaError".toList
  | missingDependency => "MissingDependencyError".toList
  | configuration => "ImproperConfigurationError".toList
  | parsing => "SQLParsingError".toList
  | lexical => "LexError".toList
  | parameter => "ParameterError".toList
  | unknownParameter => "UnknownParameterError".toList
  | execution => "ExecutionError".toList
  | repository => "RepositoryError".toList
  | notFound => "NotFoundError".toList
  | severalFound => "MultipleResultsFoundError".toList

def all : List ErrorKind :=
  [general, missingDependency, configuration, parsing, lexical, parameter, unknownParameter,
    execution, repository, notFound, severalFound]

def ofName? (s : Text) : Option ErrorKind := all.find? (·.name = s)

/-- The kinds above a kind, nearest first. -/
def above : ErrorKind → List ErrorKind
  | general => []
  | missingDependency | configuration | parsing | parameter | execution | repository => [general]
  | lexical => [parsing, general]
  | unknownParameter => [parameter, general]
  | notFound | severalFound => [repository, general]

/-- The names of a kind and of everything above it, outside the library too. -/
def lineage (kind : ErrorKind) : List Text :=
  (kind :: kind.above).map name ++
    (if kind = missingDependency then ["ImportError".toList] else []) ++
    ["Exception".toList, "BaseException".toList, "object".toList]

/-- The detail of an error that was given none. -/
def defaultDetail : ErrorKind → Text
  | parsing | lexical => "could not scan SQL statement".toList
  | _ => []

end ErrorKind

structure Report where
  kind : ErrorKind
  detail : Text
  args : List Text
  attributes : List (Text × Value)

namespace Report

/-- The message: the further texts and then the detail, without blanks at the ends. -/
def text (r : Report) : Text := strip (joinText [' '] (r.args ++ [r.detail]))

def display (r : Report) : Text :=
  if r.detail.isEmpty then r.kind.name else r.kind.name ++ " - ".toList ++ r.detail

/-- A report with a given detail; an empty one gives way to the default. -/
def detailed (kind : ErrorKind) (detail : Text) (attributes : List (Text × Value)) : Report :=
  ⟨kind, if detail.isEmpty then kind.defaultDetail else detail, [], attributes⟩

/-- A report of texts, of which the first is the detail unless there is a detail already. -/
def ofTexts (kind : ErrorKind) (texts : List Text) (detail : Text) : Report :=
  match texts with
  | first :: rest =>
    if detail.isEmpty then ⟨kind, if first.isEmpty then kind.defaultDetail else first, rest, []⟩
    else ⟨kind, detail, texts, []⟩
  | [] => detailed kind detail []

/-- A message followed by the query it is about, unless that is absent or empty. -/
def withQuery (message : Text) (sql : Value) : Text :=
  if sql.isTrue then message ++ "\nSQL: ".toList ++ sql.toText else message

/-! ## Kinds with parts of their own -/

def lexical (message : Text) (sql position : Value) : Report :=
  detailed .lexical (message ++ " at position ".toList ++ position.toText)
    [("sql".toList, sql), ("position".toList, position)]

def unknownParameter (name : Value) (sourceType : Option Text) (sql : Value) : Report :=
  let message := "unknown parameter ".toList ++ name.display ++
    match sourceType with
    | none => []
    | some t => " for argument source of type ".toList ++ t
  detailed .unknownParameter (withQuery message sql)
    [("sql".toList, sql), ("parameter_name".toList, name)]

def execution (operation : Value) (sql : Value) (message : Text) : Report :=
  let message := if message.isEmpty then operation.toText ++ " failed".toList else message
  detailed .execution (withQuery message sql) [("operation".toList, operation), ("sql".toList, sql)]

def missingDependency (package install : Value) : Report :=
  let extra := if install.isTrue then install.toText else package.toText
  ofTexts .missingDependency [package.display ++
    " is required for this feature; install it with 'pip install orava[".toList ++ extra ++
    "]' or 'pip install ".toList ++ extra ++ ['\'']] []

/-! ## Building a report from values -/

/-- The text that a value gives as a detail; only a text can be one. -/
def detailOf (v : Value) : Except Fault Text :=
  match v.asText? with
  | some s => .ok s
  | none => if v.isTrue then .error (.ofKind .type) else .ok []

/-- The report of an error that is built from values, as its kind takes them. The absent detail is
`none`; the kinds with parts of their own take no detail. -/
def ofValues (kind : ErrorKind) (args : List Value) (detail : Option Value) : Except Fault Report :=
  match kind, args, detail with
  | .missingDependency, [package], none => .ok (missingDependency package .null)
  | .missingDependency, [package, install], none => .ok (missingDependency package install)
  | .lexical, [message, sql, position], none => .ok (lexical message.toText sql position)
  | .parameter, [message], none => do
    .ok (detailed .parameter (← detailOf message) [("sql".toList, .null)])
  | .parameter, [message, sql], none => do
    let detail ← if sql.isTrue then pure (withQuery message.toText sql) else detailOf message
    .ok (detailed .parameter detail [("sql".toList, sql)])
  | .unknownParameter, [name], none => .ok (unknownParameter name none .null)
  | .unknownParameter, [name, source], none =>
    .ok (unknownParameter name (sourceType? source) .null)
  | .unknownParameter, [name, source, sql], none =>
    .ok (unknownParameter name (sourceType? source) sql)
  | .execution, [operation], none => .ok (execution operation .null [])
  | .execution, [operation, sql], none => .ok (execution operation sql [])
  | .execution, [operation, sql, message], none => do
    let message ← if sql.isTrue && message.isTrue then pure message.toText else detailOf message
    .ok (execution operation sql message)
  | .missingDependency, _, _ | .lexical, _, _ | .parameter, _, _ | .unknownParameter, _, _
  | .execution, _, _ => .error (.ofKind .type)
  | _, _, _ => do
    let detail ← detailOf (detail.getD .null)
    .ok (ofTexts kind ((args.filter Value.isTrue).map Value.toText) detail)
where
  sourceType? : Value → Option Text
    | .null => none
    | v => some v.typeName

end Report

end NamedSql
