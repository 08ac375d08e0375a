import NamedSql.Error.Fault
import NamedSql.Value.Display

/-!
# Messages with arguments

A message may have places for arguments, written with a percent sign. A place says how its argument
is shown, in what width and with what precision, and in a message for one map it names a key.
Every argument that is not a map must be used. Without arguments a message stands as it is.
-/

namespace NamedSql.Log

structure Place where
  key : Option Text
  left : Bool
  zero : Bool
  plus : Bool
  space : Bool
  alternate : Bool
  width : Nat
  precision : Option Nat
  conversion : Char

/-- The arguments that are left to use. -/
structure Arguments where
  values : List Value
  /-- The entries that places may name, when the only argument is a map. -/
  entries : Option (List (Text × Value))

def Arguments.ofValues : List Value → Arguments
  | [.map (e :: es)] => ⟨[.map (e :: es)], some (e :: es)⟩
  | vs => ⟨vs, none⟩

/-! ## Reading places -/

/-- The key before the closing parenthesis that matches the one before the text. -/
def placeKey? (depth : Nat) : Text → Option (Text × Text)
  | [] => none
  | c :: s =>
    if c == ')' && depth == 0 then some ([], s)
    else
      let depth := if c == '(' then depth + 1 else if c == ')' then depth - 1 else depth
      (placeKey? depth s).map fun (k, rest) => (c :: k, rest)

def spanNumber (s : Text) : Nat × Text :=
  ((s.takeWhile Char.isDigit).foldl (fun n c => 10 * n + (c.toNat - 48)) 0,
    s.dropWhile Char.isDigit)

/-- The place after a percent sign, and the rest; `none` when the text ends before it does. -/
def place? (s : Text) : Option (Place × Text) := do
  let (key, s) ← match s with
    | '(' :: s => (placeKey? 0 s).map fun (k, rest) => (some k, rest)
    | s => some (none, s)
  let isFlag (c : Char) : Bool := ['-', '+', ' ', '#', '0'].contains c
  let flags := s.takeWhile isFlag
  let (width, s) := spanNumber (s.dropWhile isFlag)
  let (precision, s) := match s with
    | '.' :: s => (some (spanNumber s).1, (spanNumber s).2)
    | s => (none, s)
  let s := match s with
    | c :: rest => if c == 'h' || c == 'l' || c == 'L' then rest else c :: rest
    | [] => []
  match s with
  | c :: rest =>
    some (⟨key, flags.contains '-', flags.contains '0', flags.contains '+', flags.contains ' ',
      flags.contains '#', width, precision, c⟩, rest)
  | [] => none

/-! ## Showing arguments -/

def padTo (p : Place) (s : Text) : Text :=
  let fill := List.replicate (p.width - s.length) ' '
  if p.left then s ++ fill else fill ++ s

/-- The integer that an argument is shown as by a place for integers. -/
def argumentInt? : Value → Option Int
  | .int i => some i
  | .bool b => some (if b then 1 else 0)
  | .decimal d => d.truncate?
  | .uuid n => some n
  | _ => none

/-- An integer in a base, with its sign, its base mark and zeros as the place asks. -/
def shownInt (p : Place) (base : Nat) (mark : Text) (i : Int) : Text :=
  let digits := Nat.toDigits base i.natAbs
  let digits := List.replicate (p.precision.getD 0 - digits.length) '0' ++ digits
  let sign := if i < 0 then ['-'] else if p.plus then ['+'] else if p.space then [' '] else []
  let front := sign ++ if p.alternate then mark else []
  let zeros := if p.zero && !p.left then p.width - front.length - digits.length else 0
  padTo p (front ++ List.replicate zeros '0' ++ digits)

def shownText (p : Place) (s : Text) : Text :=
  padTo p (match p.precision with
    | some n => s.take n
    | none => s)

/-- A text with its characters above ASCII escaped. -/
def asciiOnly (s : Text) : Text := s.flatMap fun c => if c.toNat < 128 then [c] else codeEscape c

def upperHex (s : Text) : Text := s.map Char.toUpper

def shownArgument (p : Place) (v : Value) : Except FaultKind Text :=
  let integer (base : Nat) (mark : Text) (i? : Option Int) : Except FaultKind Text :=
    match i? with
    | some i => .ok (shownInt p base mark i)
    | none => .error .type
  let whole? : Option Int := match v with
    | .decimal _ => none
    | v => argumentInt? v
  if p.conversion == 's' then .ok (shownText p v.toText)
  else if p.conversion == 'r' then .ok (shownText p v.display)
  else if p.conversion == 'a' then .ok (shownText p (asciiOnly v.display))
  else if ['d', 'i', 'u'].contains p.conversion then integer 10 [] (argumentInt? v)
  else if p.conversion == 'x' then integer 16 ['0', 'x'] whole?
  else if p.conversion == 'X' then (integer 16 ['0', 'x'] whole?).map upperHex
  else if p.conversion == 'o' then integer 8 ['0', 'o'] whole?
  else if p.conversion == 'c' then
    match v with
    | .text [c] => .ok (padTo p [c])
    | .int i => if 0 ≤ i ∧ i < 0x110000 then .ok (padTo p [Char.ofNat i.toNat]) else .error .type
    | _ => .error .type
  else .error .value

/-! ## The message -/

/-- Fills the places of a message; `fuel` is at least its length. -/
def fill (fuel : Nat) (args : Arguments) (s : Text) : Except FaultKind (Text × Arguments) :=
  match fuel, s with
  | 0, _ | _, [] => .ok ([], args)
  | fuel + 1, c :: s => do
    if c ≠ '%' then
      let (out, args) ← fill fuel args s
      return (c :: out, args)
    else match s with
      | '%' :: s =>
        let (out, args) ← fill fuel args s
        return ('%' :: out, args)
      | s =>
        let some (p, rest) := place? s | throw .value
        match p.key, args.entries, args.values with
        | some _, none, _ => throw .type
        | some k, some es, _ =>
          let some v := es.lookup k | throw .key
          let shown ← shownArgument p v
          let (out, args) ← fill fuel { args with values := [] } rest
          return (shown ++ out, args)
        | none, _, [] => throw .type
        | none, _, v :: vs =>
          let shown ← shownArgument p v
          let (out, args) ← fill fuel { args with values := vs } rest
          return (shown ++ out, args)

/-- A message with its arguments in their places. -/
def formatMessage (message : Text) (args : List Value) : Except FaultKind Text := do
  if args.isEmpty then return message
  else
    let (out, left) ← fill message.length (.ofValues args) message
    if left.values.isEmpty ∨ left.entries.isSome then return out else throw .type

end NamedSql.Log
