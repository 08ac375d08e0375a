import NamedSql.Time.Clock
import NamedSql.Number.Numeral
import NamedSql.Text.Utf8

/-!
# Dates and times in ISO 8601

Writing uses the extended format. Reading takes the extended and the basic format, week dates, any
character between a date and a time, `,` or `.` before a fraction, and fractions of any length, of
which six digits count.
-/

namespace NamedSql.Iso

/-! ## Writing -/

/-- A number in decimal, filled with zeros to `width` digits. -/
def padded (width n : Nat) : Text :=
  let ds := decimal n
  List.replicate (width - ds.length) '0' ++ ds

def dateText (d : Date) : Text :=
  padded 4 d.year ++ '-' :: padded 2 d.month ++ '-' :: padded 2 d.day

def fractionText (micro : Nat) : Text := if micro = 0 then [] else '.' :: padded 6 micro

/-- An offset as a signed time of day, as short as it can be to the minute. -/
def offsetText (o : Int) : Text :=
  let total := o.natAbs / 1000000
  let micro := o.natAbs % 1000000
  (if o < 0 then '-' else '+') :: padded 2 (total / 3600) ++ ':' :: padded 2 (total / 60 % 60) ++
    (if total % 60 = 0 ∧ micro = 0 then [] else ':' :: padded 2 (total % 60) ++ fractionText micro)

def localText (t : Clock) : Text :=
  padded 2 t.hour ++ ':' :: padded 2 t.minute ++ ':' :: padded 2 t.second ++ fractionText t.micro

def clockText (t : Clock) : Text :=
  localText t ++ (t.offset.map offsetText).getD []

def timestampText (separator : Char) (s : Timestamp) : Text :=
  dateText s.date ++ separator :: clockText s.clock

/-! ## Reading dates -/

/-- A number of exactly `n` ASCII digits, and the rest of the text. -/
def digits? (n : Nat) (s : Text) : Option (Nat × Text) :=
  let ds := s.take n
  if ds.length = n ∧ ds.all Char.isDigit then
    some (ofDigits (ds.filterMap decimalValue?), s.drop n)
  else none

/-- The date at the front of a text. -/
def datePart? (s : Text) : Option Date := do
  let (year, rest) ← digits? 4 s
  let (extended, rest) := match rest with
    | '-' :: r => (true, r)
    | r => (false, r)
  match rest with
  | 'W' :: rest =>
    let (week, rest) ← digits? 2 rest
    match extended, rest with
    | _, [] => Date.ofWeek? year week 1
    | true, '-' :: rest => Date.ofWeek? year week (← digits? 1 rest).1
    | true, _ => none
    | false, rest => Date.ofWeek? year week (← digits? 1 rest).1
  | rest =>
    let (month, rest) ← digits? 2 rest
    let rest ← match extended, rest with
      | true, '-' :: r => some r
      | true, _ => none
      | false, r => some r
    Date.ofParts? year month (← digits? 2 rest).1

/-- A date on its own. The form is told by the number of octets; what follows the basic form of a
date in a text as long as the extended form is ignored. -/
def date? (s : Text) : Option Date :=
  let size := (Utf8.encode s).length
  if size = 7 ∨ size = 8 ∨ size = 10 then datePart? s else none

/-! ## Reading times -/

/-- Hour, minute, second and microsecond, and whether something was left unread. -/
structure ClockParts where
  hour : Nat
  minute : Nat
  second : Nat
  micro : Nat
  leftover : Bool

/-- A fraction of a second: six digits count, and fewer are filled up with zeros. -/
def fraction? (s : Text) : Option (Nat × Bool) := do
  let n := min s.length 6
  let (value, rest) ← digits? n s
  some (value * Nat.pow 10 (6 - n), !(rest.dropWhile Char.isDigit).isEmpty)

/-- The parts of a time of day: `done` holds those read before, and `left` more may follow the next
one. Whether parts are set off by colons is settled after the hour. -/
def clockParts? : (left : Nat) → (colons : Bool) → (done : List Nat) → Text → Option ClockParts
  | left, colons, done, s => do
    let (value, rest) ← digits? 2 s
    let parts := done ++ [value]
    let result (micro : Nat) (leftover : Bool) : ClockParts :=
      ⟨parts.headD 0, (parts.drop 1).headD 0, (parts.drop 2).headD 0, micro, leftover⟩
    match rest with
    | [] => some (result 0 false)
    | [c] => if c.toNat < 128 then some (result 0 true) else none
    | c :: tail =>
      let colons := if done.isEmpty then c == ':' else colons
      let next := if colons && c == ':' then tail else rest
      if c == '.' || c == ',' then (fraction? tail).map fun (m, l) => result m l
      else if colons && c != ':' then none
      else match left with
        | left + 1 => clockParts? left colons parts next
        | 0 => (fraction? next).map fun (m, l) => result m l

/-- An offset of less than a second counts as none. -/
def offset? (sign : Int) (s : Text) : Option Int := do
  let p ← clockParts? 2 true [] s
  let seconds := (p.hour * 60 + p.minute) * 60 + p.second
  if p.leftover then none
  else some (if seconds = 0 then 0 else sign * (seconds * 1000000 + p.micro : Nat))

/-- A time of day that fills the text. A single character between the time and its offset is
skipped. -/
def clockPart? (s : Text) : Option Clock := do
  let isMark (c : Char) : Bool := c == '+' || c == '-' || c == 'Z'
  let p ← clockParts? 2 true [] (s.takeWhile (!isMark ·))
  let make (offset : Option Int) := Clock.ofParts? p.hour p.minute p.second p.micro offset
  match s.dropWhile (!isMark ·) with
  | [] => if p.leftover then none else make none
  | ['Z'] => make (some 0)
  | '+' :: rest => make (some (← offset? 1 rest))
  | '-' :: rest => make (some (← offset? (-1) rest))
  | _ => none

def clock? (s : Text) : Option Clock :=
  match s with
  | 'T' :: rest => clockPart? rest
  | s => clockPart? s

/-! ## Reading moments -/

/-- Where the date ends in a text that holds a date and a time. The forms differ in the characters
after the year; a basic week is told from a basic week date by the number of digits that follow,
as those of a time come in pairs. -/
def dateLength (s : Text) : Nat :=
  let digitAt (i : Nat) : Bool := (s[i]?.map Char.isDigit).getD false
  if s.length = 7 then 7
  else if s[4]? = some '-' then
    if s[5]? = some 'W' then
      if s[8]? = some '-' then (if 10 < s.length && digitAt 10 then 8 else 10) else 8
    else 10
  else if s[4]? = some 'W' then
    let stop := 7 + ((s.drop 7).takeWhile Char.isDigit).length
    if stop < 9 then stop else if stop % 2 = 0 then 7 else 8
  else 8

def timestamp? (s : Text) : Option Timestamp := do
  if s.length < 7 then none
  else
    let n := dateLength s
    if s.length < n then none
    else
      let date ← datePart? (s.take n)
      match s.drop n with
      | [] => some ⟨date, Clock.midnight⟩
      | _ :: rest => some ⟨date, ← clockPart? rest⟩

end NamedSql.Iso
