import NamedSql.Error.Report
import NamedSql.Query.Compiled

/-!
# Causes of errors

Every way in which the library refuses its input, with the parts its message needs. A failure is
such an error, a misuse of a function by its caller, or a fault from outside that passes through.
-/

namespace NamedSql

/-- What is wrong with a setting or a registration. -/
inductive Misconfiguration where
  | delimiterLength (given : Value)
  | delimiterClass (c : Char)
  | unknownStyle (given : Value)
  | emptyTagKey
  | mapperType (type : Text)
  /-- A class without declared fields is registered without a mapping. -/
  | nothingToRegister (type : Text)
  /-- A class without declared fields stands in for its instances. -/
  | nothingToAssert (type : Text)

/-- What a database is asked to do. -/
inductive Operation where
  | query
  | exec
  deriving DecidableEq

def Operation.name : Operation → Text
  | query => "query".toList
  | exec => "exec".toList

inductive Error where
  | misconfigured (m : Misconfiguration)
  | unclosed (e : LexError)
  | unknownParameter (name : Text) (sourceType : Option Text) (sql : Option Text)
  | failedExecution (operation : Operation) (sql : Text) (cause : Fault)
  | noRow (cause : Option Fault)
  | severalRows
  | unsupportedSchema
  | missingPackage (name : Text)
  /-- An error of this library that a lookup or a database raised. -/
  | raised (kind : ErrorKind) (message : Text)

/-- A call that no caller should make. -/
inductive Misuse where
  | markerIndex (n : Int)
  | styleName (given : Value)
  | cacheSize (size : Int)
  /-- A complete configuration and single settings are given together. -/
  | twoConfigurations

inductive Failure where
  | error (e : Error)
  | misuse (m : Misuse)
  | fault (f : Fault)

/-! ## Messages -/

def Unclosed.message : Unclosed → Text
  | string => "unterminated string literal".toList
  | identifier => "unterminated quoted identifier literal".toList
  | block => "unterminated block comment".toList
  | dollar => "unterminated dollar-quoted string".toList

def Misconfiguration.message : Misconfiguration → Text
  | delimiterLength given =>
    "placeholder delimiter must be a single character, got ".toList ++ given.display
  | delimiterClass c =>
    "placeholder delimiter ".toList ++ quoted [c] ++
      " cannot be a quote, whitespace or identifier character".toList
  | unknownStyle given =>
    "unknown parameter style ".toList ++ given.display ++ "; expected one of ".toList ++
      joinText [',', ' '] (Style.all.map fun s => quoted s.name)
  | emptyTagKey => "tag_key must be a non-empty string".toList
  | mapperType type => "name_mapper must be callable, got ".toList ++ type
  | nothingToRegister type =>
    type ++ " has no declared fields; pass an explicit attribute mapping".toList
  | nothingToAssert type =>
    type ++ " has no declared fields; pass an example instance instead".toList

def noRowMessage : Text := "no rows returned where exactly one was expected".toList

def severalRowsMessage : Text := "more than one row returned where exactly one was expected".toList

def unsupportedSchemaMessage : Text :=
  ("`schema_type` should be a valid Dataclass, Pydantic model, Msgspec struct, " ++
    "or Attrs class").toList

/-- The message of a failed operation with the reason that its cause gives. -/
def failedMessage (operation : Operation) (cause : Fault) : Text :=
  operation.name ++ " failed: ".toList ++ cause.text

def Misuse.message : Misuse → Text
  | markerIndex n => "placeholder index must be >= 1, got ".toList ++ decimalInt n
  | styleName given => given.display ++ " is not a valid ParameterStyle".toList
  | cacheSize size => "max_size must be at least 1, got ".toList ++ decimalInt size
  | twoConfigurations => "pass either a NamedQueryConfig or keyword overrides, not both".toList

/-- The kind of fault that a misuse is. -/
def Misuse.kind : Misuse → FaultKind
  | twoConfigurations => .type
  | _ => .value

/-! ## Reports -/

/-- An optional text as a value. -/
def Value.ofText? : Option Text → Value
  | none => null
  | some s => text s

namespace Error

def report : Error → Report
  | misconfigured m => .ofTexts .configuration [m.message] []
  | unclosed e => .lexical e.cause.message (.text e.sql) (.int e.position)
  | unknownParameter name sourceType sql =>
    .unknownParameter (.text name) sourceType (.ofText? sql)
  | failedExecution operation sql cause =>
    .execution (.text operation.name) (.text sql) (failedMessage operation cause)
  | noRow _ => .ofTexts .notFound [noRowMessage] []
  | severalRows => .ofTexts .severalFound [severalRowsMessage] []
  | unsupportedSchema => .ofTexts .general [unsupportedSchemaMessage] []
  | missingPackage name => .missingDependency (.text name) .null
  | raised kind message => .ofTexts kind (if message.isEmpty then [] else [message]) []

/-- The fault that an error was raised from, when there is one. -/
def cause? : Error → Option Fault
  | failedExecution _ _ cause => some cause
  | noRow cause => cause
  | _ => none

end Error

namespace Failure

/-- The fault that a failure is, unless it is an error of this library. -/
def fault? : Failure → Option Fault
  | error _ => none
  | misuse m => some ⟨m.kind, some m.message⟩
  | fault f => some f

def kindName : Failure → Text
  | error e => e.report.kind.name
  | misuse m => m.kind.name
  | fault f => f.kind.name

/-- A fault of a kind, without a message. -/
def ofKind (kind : FaultKind) : Failure := fault (.ofKind kind)

def isInterrupt : Failure → Bool
  | fault f => f.kind.isInterrupt
  | _ => false

def isExhaustion : Failure → Bool
  | fault f => f.kind.isExhaustion
  | _ => false

/-- What is wrong when the error for a missing parameter is built without a name. -/
def namelessMessage : Text :=
  ("UnknownParameterError.__init__() missing 1 required positional argument: " ++
    "'parameter_name'").toList

/-- The failure that a lookup or a database raises by the name of its kind, with or without a
message. The error for a missing parameter takes the message as the name of the parameter. -/
def ofName? (name : Text) (message : Option Text) : Option Failure :=
  match FaultKind.raisable.find? (·.name = name), ErrorKind.ofName? name with
  | some kind, _ => some (fault ⟨kind, message⟩)
  | none, some .unknownParameter => some <| match message with
    | some m => error (.unknownParameter m none none)
    | none => fault ⟨.type, some namelessMessage⟩
  | none, some kind => some (error (.raised kind (message.getD [])))
  | none, none => none

/-- How a failure is shown at the end of an event: its kind, and its message if that is not empty.
Errors of the library are shown with the module that they belong to. -/
def trace (f : Failure) : Text :=
  let (kind, message) := match f with
    | error e => ("orava.exceptions.".toList ++ e.report.kind.name, e.report.text)
    | misuse m => (m.kind.name, m.message)
    | fault f => (f.kind.name, f.text)
  if message.isEmpty then kind else kind ++ ':' :: ' ' :: message

end Failure

/-! ## Frames -/

/-- A computation that is suspended and resumed. -/
inductive Frame where
  | generator
  | coroutine

def Frame.message : Frame → Text
  | generator => "generator raised StopIteration".toList
  | coroutine => "coroutine raised StopIteration".toList

/-- What leaves a frame in which a failure is raised. The sign that an iteration has ended would be
taken for the end of the frame itself, so another fault leaves in its place. -/
def Failure.outOf (frame : Frame) (e : Failure) : Failure :=
  if e.isExhaustion then fault ⟨.runtime, some frame.message⟩ else e

/-! ## Refusals as failures -/

instance : MonadLift (Except Misconfiguration) (Except Failure) :=
  ⟨Except.mapError fun m => .error (.misconfigured m)⟩

instance : MonadLift (Except LexError) (Except Failure) :=
  ⟨Except.mapError fun e => .error (.unclosed e)⟩

instance : MonadLift (Except Misuse) (Except Failure) := ⟨Except.mapError .misuse⟩

instance : MonadLift (Except Fault) (Except Failure) := ⟨Except.mapError .fault⟩

instance : MonadLift (Except FaultKind) (Except Failure) := ⟨Except.mapError .ofKind⟩

end NamedSql
