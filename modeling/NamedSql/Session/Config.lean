import NamedSql.Error.Cause
import NamedSql.Record.Registry

/-!
# Configuration

The settings under which queries are compiled and bound. Settings arrive as values and are checked
in a fixed order: the delimiter, the style, the tag key and the name mapper. A configuration is what
passed the check.
-/

namespace NamedSql

/-- What is given as the name mapper. -/
inductive MapperChoice where
  | mapper (m : NameMapper)
  | notCallable (v : Value)

/-- Settings before they are checked. -/
structure Settings where
  delimiter : Value
  style : Value
  tagKey : Value
  mapper : MapperChoice

structure Config where
  delimiter : Delimiter
  style : Style
  tagKey : Text
  mapper : NameMapper

def checkDelimiter (given : Value) : Except Misconfiguration Delimiter :=
  match given.asText? with
  | some [c] => match Delimiter.ofChar? c with
    | some d => .ok d
    | none => .error (.delimiterClass c)
  | _ => .error (.delimiterLength given)

/-- The style that a value names. -/
def Style.ofValue? (given : Value) : Option Style := given.asText?.bind Style.ofName?

/-- The style that a value names, which it must. -/
def Style.require (given : Value) : Except Misuse Style :=
  match Style.ofValue? given with
  | some s => .ok s
  | none => .error (.styleName given)

/-- The marker of an occurrence given as an integer, which counts from one. -/
def Style.markerAt (s : Style) (n : Int) : Except Misuse Text :=
  if n < 1 then .error (.markerIndex n) else .ok (s.marker n.toNat)

def checkStyle (given : Value) : Except Misconfiguration Style :=
  match Style.ofValue? given with
  | some s => .ok s
  | none => .error (.unknownStyle given)

def checkTagKey (given : Value) : Except Misconfiguration Text :=
  match given.asText? with
  | some key => if key.isEmpty then .error .emptyTagKey else .ok key
  | none => .error .emptyTagKey

def checkMapper : MapperChoice → Except Misconfiguration NameMapper
  | .mapper m => .ok m
  | .notCallable v => .error (.mapperType v.typeName)

namespace Settings

def default : Settings :=
  ⟨.text [Delimiter.colon.char], .style .numeric, .text "db".toList, .mapper .snake⟩

def check (s : Settings) : Except Misconfiguration Config := do
  let delimiter ← checkDelimiter s.delimiter
  let style ← checkStyle s.style
  let tagKey ← checkTagKey s.tagKey
  let mapper ← checkMapper s.mapper
  return ⟨delimiter, style, tagKey, mapper⟩

end Settings

namespace Config

def default : Config := ⟨.colon, .numeric, "db".toList, .snake⟩

def settings (c : Config) : Settings :=
  ⟨.text [c.delimiter.char], .style c.style, .text c.tagKey, .mapper c.mapper⟩

/-- The configuration with another style. -/
def restyle (c : Config) (given : Value) : Except Misconfiguration Config :=
  Settings.check { c.settings with style := given }

/-- The configuration of an interface that is given settings, and perhaps a configuration object
too. With an object there must be no single settings beside it. -/
def ofSettings (besideObject : Bool) (s : Settings) : Except Failure Config :=
  if besideObject then throw (.misuse .twoConfigurations) else liftM s.check

def resolver (c : Config) : Resolver := ⟨c.tagKey, c.mapper⟩

/-- Configurations are equal when their settings are; mappers are compared by their labels. -/
def same (c c' : Config) : Bool :=
  c.delimiter = c'.delimiter && c.style = c'.style && c.tagKey = c'.tagKey &&
    c.mapper.label = c'.mapper.label

/-- The first of each group of equal configurations. -/
def distinct (cs : List Config) : List Config :=
  cs.foldl (fun seen c => if seen.any (·.same c) then seen else seen ++ [c]) []

/-- How an interface with this configuration is shown, up to the name mapper. -/
def displayHead (c : Config) : Text :=
  "NamedQueryAPI(config=NamedQueryConfig(delimiter=".toList ++ quoted [c.delimiter.char] ++
    ", parameter_style=".toList ++ (Value.style c.style).display ++
    ", tag_key=".toList ++ quoted c.tagKey ++ ", ".toList

end Config

end NamedSql
