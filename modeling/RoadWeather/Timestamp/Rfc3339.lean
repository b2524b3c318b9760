import RoadWeather.Text
import RoadWeather.Timestamp

/-!
# Timestamps as text

The form `2024-01-10T06:00:00.5+02:00` of RFC 3339. Between date and time any one byte may stand.
Digits of a second after the ninth are dropped, and in writing zeros at the end of them are.

A text is read from left to right and the first component that is not there is the problem of it;
only then are the components checked against their ranges. The second 60 of a leap second is
accepted at the end of a month in UTC only, and becomes the last nanosecond before it.

What is read always has a text again. A timestamp from elsewhere need not have one, and a document
with such a timestamp in it cannot be written.
-/

namespace RoadWeather.Timestamp

/-- The parts of the text. -/
inductive Component where
  | year
  | month
  | day
  | separator
  | hour
  | minute
  | second
  | subsecond
  | offsetHour
  | offsetMinute
  deriving DecidableEq, Repr

def Component.describe : Component → String
  | year => "year"
  | month => "month"
  | day => "day"
  | separator => "separator"
  | hour => "hour"
  | minute => "minute"
  | second => "second"
  | subsecond => "subsecond"
  | offsetHour => "offset hour"
  | offsetMinute => "offset minute"

/-- Why a text is no timestamp. -/
inductive ReadError where
  | unparsed (c : Component)
  | literal
  | trailing
  | outOfRange (c : Component)
  deriving DecidableEq, Repr

def ReadError.message : ReadError → String
  | unparsed c => s!"the '{c.describe}' component could not be parsed"
  | literal => "a character literal was not valid"
  | trailing => "unexpected trailing characters; the end of input was expected"
  | outOfRange c => s!"{c.describe} was not in range"

/-! ## Reading -/

/-- The number of exactly `n` digits. -/
def digits (n : Nat) (c : Component) (s : List Char) : Except ReadError (Nat × List Char) :=
  let ds := s.take n
  if ds.length = n ∧ ds.all Char.isDigit then .ok (Nat.ofDigitChars 10 ds 0, s.drop n)
  else .error (.unparsed c)

/-- One given character. -/
def literal (c : Char) : List Char → Except ReadError (List Char)
  | [] => .error .literal
  | d :: s => if d = c then .ok s else .error .literal

/-- Any one byte. Of a character of more than one byte the others are left over, and what is left
over is no digit. -/
def separator : List Char → Except ReadError (List Char)
  | [] => .error (.unparsed .separator)
  | c :: s => if c.utf8Size = 1 then .ok s else .ok (c :: s)

/-- The nanoseconds that the digits after the point stand for. -/
def nanoseconds (ds : List Char) : Nat :=
  Nat.ofDigitChars 10 ((ds ++ List.replicate 9 '0').take 9) 0

/-- The fraction of a second, if there is one. -/
def subsecond (s : List Char) : Except ReadError (Nat × List Char) :=
  match s with
  | '.' :: s =>
    match s.takeWhile Char.isDigit with
    | [] => .error (.unparsed .subsecond)
    | ds => .ok (nanoseconds ds, s.dropWhile Char.isDigit)
  | s => .ok (0, s)

/-- The offset from UTC in minutes. -/
def offsetMinutes (s : List Char) : Except ReadError (Int × List Char) :=
  match s with
  | 'Z' :: s => .ok (0, s)
  | 'z' :: s => .ok (0, s)
  | sign :: s =>
    if sign = '+' ∨ sign = '-' then do
      let (hour, s) ← digits 2 .offsetHour s
      if 23 < hour then throw (.unparsed .offsetHour)
      let s ← literal ':' s
      let (minute, s) ← digits 2 .offsetMinute s
      if 59 < minute then throw (.outOfRange .offsetMinute)
      let size : Int := hour * 60 + minute
      return (if sign = '-' then -size else size, s)
    else .error (.unparsed .offsetHour)
  | [] => .error (.unparsed .offsetHour)

/-- A timestamp of the given parts, or the first of them that is out of range. -/
def ofParts (p : Parts) : Except ReadError Timestamp :=
  if ¬ (1 ≤ p.month ∧ p.month ≤ 12) then .error (.outOfRange .month)
  else if ¬ (1 ≤ p.day ∧ p.day ≤ daysInMonth p.year p.month) then .error (.outOfRange .day)
  else if 24 ≤ p.hour then .error (.outOfRange .hour)
  else if 60 ≤ p.minute then .error (.outOfRange .minute)
  else if h : p.IsValid then .ok ⟨p, h⟩
  else .error (.outOfRange .second)

def ofChars (s : List Char) : Except ReadError Timestamp := do
  let (year, s) ← digits 4 .year s
  let s ← literal '-' s
  let (month, s) ← digits 2 .month s
  if month = 0 then throw (.unparsed .month)
  let s ← literal '-' s
  let (day, s) ← digits 2 .day s
  let s ← separator s
  let (hour, s) ← digits 2 .hour s
  let s ← literal ':' s
  let (minute, s) ← digits 2 .minute s
  let s ← literal ':' s
  let (second, s) ← digits 2 .second s
  let (nanosecond, s) ← subsecond s
  let (minutes, s) ← offsetMinutes s
  if s ≠ [] then throw .trailing
  let offset := minutes * 60
  -- A leap second stands for the last instant before it.
  if second = 60 then
    let t ← ofParts ⟨year, month, day, hour, minute, 59, 999999999, offset⟩
    if t.inLastSecondOfMonth then return t else throw (.outOfRange .second)
  else ofParts ⟨year, month, day, hour, minute, second, nanosecond, offset⟩

def ofText (s : String) : Except ReadError Timestamp := ofChars s.toList

/-! ## Writing -/

/-- Why a timestamp has no text. -/
inductive WriteError where
  | year
  | offsetHour
  | offsetSecond
  deriving DecidableEq, Repr

def WriteError.message (e : WriteError) : String :=
  let component :=
    match e with
    | year => "year"
    | offsetHour => "offset_hour"
    | offsetSecond => "offset_second"
  s!"The {component} component cannot be formatted into the requested format."

/-- The part of a timestamp that no text has room for, the first of them. -/
def writeError? (t : Timestamp) : Option WriteError :=
  if t.year < 0 then some .year
  else if 86400 ≤ t.offset.natAbs then some .offsetHour
  else if t.offset % 60 ≠ 0 then some .offsetSecond
  else none

/-- The offset from UTC, given in minutes. -/
def offsetChars (offset : Int) : List Char :=
  if offset = 0 then ['Z']
  else
    let size := offset.natAbs
    (if offset < 0 then '-' else '+') :: Text.padded 2 (size / 60) ++
      ':' :: Text.padded 2 (size % 60)

/-- The text of a timestamp that has one. -/
def toChars (t : Timestamp) : List Char :=
  Text.padded 4 t.year.toNat ++ '-' :: Text.padded 2 t.month ++ '-' :: Text.padded 2 t.day ++
    'T' :: Text.padded 2 t.hour ++ ':' :: Text.padded 2 t.minute ++ ':' ::
    Text.padded 2 t.second ++ Text.decimals 9 t.nanosecond ++ offsetChars (t.offset / 60)

def toText (t : Timestamp) : String := String.ofList t.toChars

/-- The text of a document that some timestamps stand in, in their order. -/
def writing (timestamps : List Timestamp) (text : String) : Except WriteError String :=
  match timestamps.findSome? writeError? with
  | some e => .error e
  | none => .ok text

end RoadWeather.Timestamp
