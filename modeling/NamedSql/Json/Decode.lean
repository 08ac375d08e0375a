import NamedSql.Error.Fault
import NamedSql.Json.Numeral
import NamedSql.Text.Utf8
import NamedSql.Value.Basic

/-!
# Reading JSON

A document is read from its octets. White space may stand around every value; nothing else may
follow the document. Texts are UTF-8, which is checked for each text once its end is found. A
repeated key keeps its first place and its last value.
-/

namespace NamedSql.Json

inductive Document where
  | null
  | bool (b : Bool)
  | int (i : Int)
  /-- A floating-point number by its bits. -/
  | float (bits : Nat)
  | text (s : Text)
  | array (items : List Document)
  | object (entries : List (Text × Document))

/-- The result of reading, or the kind of fault that was found. -/
abbrev Reading := Except FaultKind

def isSpace (c : Char) : Bool := c == ' ' || c == '\t' || c == '\n' || c == '\r'

def skipSpace (s : Text) : Text := s.dropWhile isSpace

/-- A character for each octet, by which octets are read like a text. -/
def ofOctets (bs : List UInt8) : Text := bs.map fun b => Char.ofNat b.toNat

def toOctets (s : Text) : List UInt8 := s.map fun c => UInt8.ofNat c.toNat

/-! ## Texts -/

def hexDigit? (c : Char) : Option Nat :=
  if '0' ≤ c ∧ c ≤ '9' then some (c.toNat - 48)
  else if 'a' ≤ c ∧ c ≤ 'f' then some (c.toNat - 87)
  else if 'A' ≤ c ∧ c ≤ 'F' then some (c.toNat - 55)
  else none

/-- Four hexadecimal digits and the rest. -/
def codeUnit? : Text → Option (Nat × Text)
  | a :: b :: c :: d :: s => do
    let n := 0x1000 * (← hexDigit? a) + 0x100 * (← hexDigit? b) + 0x10 * (← hexDigit? c)
    some (n + (← hexDigit? d), s)
  | _ => none

/-- The character of an escape after `\u`: one code unit, or two that form a pair. -/
def codePoint? (s : Text) : Option (Char × Text) := do
  let (u, rest) ← codeUnit? s
  if 0xDC00 ≤ u ∧ u ≤ 0xDFFF then none
  else if 0xD800 ≤ u ∧ u ≤ 0xDBFF then
    match rest with
    | '\\' :: 'u' :: rest =>
      let (v, rest) ← codeUnit? rest
      if 0xDC00 ≤ v ∧ v ≤ 0xDFFF then
        some (Char.ofNat (0x10000 + (u - 0xD800) * 0x400 + (v - 0xDC00)), rest)
      else none
    | _ => none
  else some (Char.ofNat u, rest)

def simpleEscape? (c : Char) : Option Char :=
  if c == '"' || c == '\\' || c == '/' then some c
  else if c == 'b' then some '\x08'
  else if c == 'f' then some '\x0c'
  else if c == 'n' then some '\n'
  else if c == 'r' then some '\r'
  else if c == 't' then some '\t'
  else none

/-- The octets of a text up to its closing quote, with escapes replaced, and the rest. -/
def textOctets? (fuel : Nat) (s : Text) : Option (List UInt8 × Text) :=
  match fuel, s with
  | 0, _ | _, [] => none
  | fuel + 1, c :: s =>
    if c == '"' then some ([], s)
    else if c.toNat < 0x20 then none
    else if c == '\\' then
      match s with
      | 'u' :: s => do
        let (c, rest) ← codePoint? s
        let (bs, rest) ← textOctets? fuel rest
        some (Utf8.encodeChar c ++ bs, rest)
      | e :: s => do
        let c ← simpleEscape? e
        let (bs, rest) ← textOctets? fuel s
        some (Utf8.encodeChar c ++ bs, rest)
      | [] => none
    else do
      let (bs, rest) ← textOctets? fuel s
      some (UInt8.ofNat c.toNat :: bs, rest)

/-- The text after an opening quote. -/
def readText (s : Text) : Reading (Text × Text) :=
  match textOctets? s.length s with
  | none => .error .decoding
  | some (bs, rest) => match Utf8.decode? bs with
    | some t => .ok (t, rest)
    | none => .error .textDecoding

/-! ## Documents -/

def readWord (word : String) (d : Document) (s : Text) : Reading (Document × Text) :=
  if word.toList.isPrefixOf s then .ok (d, s.drop word.length) else .error .decoding

def readNumber (s : Text) : Reading (Document × Text) :=
  match Numeral.read? s with
  | none => .error .decoding
  | some (n, rest) =>
    if n.isInteger then
      if maxNumeralDigits < n.whole.length then .error .decoding else .ok (.int n.toInt, rest)
    else match n.toBits? with
      | some bits => .ok (.float bits, rest)
      | none => .error .decoding

mutual

/-- Reads a value; `fuel` bounds the depth of the work and is never used up. -/
def readValue (fuel : Nat) (s : Text) : Reading (Document × Text) :=
  match fuel with
  | 0 => .error .decoding
  | fuel + 1 =>
    match skipSpace s with
    | '"' :: s => (readText s).map fun (t, rest) => (.text t, rest)
    | '[' :: s =>
      match skipSpace s with
      | ']' :: rest => .ok (.array [], rest)
      | s => (readItems fuel s).map fun (ds, rest) => (.array ds, rest)
    | '\x7b' :: s =>
      match skipSpace s with
      | '\x7d' :: rest => .ok (.object [], rest)
      | s => (readEntries fuel s []).map fun (es, rest) => (.object es, rest)
    | 'n' :: s => readWord "ull" .null s
    | 't' :: s => readWord "rue" (.bool true) s
    | 'f' :: s => readWord "alse" (.bool false) s
    | s => readNumber s

/-- Reads the items of an array from its first one on. -/
def readItems (fuel : Nat) (s : Text) : Reading (List Document × Text) :=
  match fuel with
  | 0 => .error .decoding
  | fuel + 1 => do
    let (d, rest) ← readValue fuel s
    match skipSpace rest with
    | ']' :: rest => .ok ([d], rest)
    | ',' :: rest =>
      let (ds, rest) ← readItems fuel rest
      .ok (d :: ds, rest)
    | _ => .error .decoding

/-- Reads the entries of an object from the next key on. -/
def readEntries (fuel : Nat) (s : Text) (done : List (Text × Document)) :
    Reading (List (Text × Document) × Text) :=
  match fuel with
  | 0 => .error .decoding
  | fuel + 1 =>
    match skipSpace s with
    | '"' :: s => do
      let (k, rest) ← readText s
      match skipSpace rest with
      | ':' :: rest =>
        let (d, rest) ← readValue fuel rest
        let done := putEntry k d done
        match skipSpace rest with
        | '\x7d' :: rest => .ok (done, rest)
        | ',' :: rest => readEntries fuel rest done
        | _ => .error .decoding
      | _ => .error .decoding
    | _ => .error .decoding

end

def decode (octets : List UInt8) : Except FaultKind Document := do
  let s := ofOctets octets
  let (d, rest) ← readValue (2 * s.length + 1) s
  if (skipSpace rest).isEmpty then .ok d else .error .decoding

end NamedSql.Json
