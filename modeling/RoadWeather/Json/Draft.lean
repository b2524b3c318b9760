import RoadWeather.Json.Value

/-!
# Reading JSON

A text is read into a *draft*: the value as far as the text is JSON, with a break where it stops
being so. Drafts exist because a reader that looks for a particular shape must report the first
problem of the text from left to right, whether the JSON itself or the shape is at fault. Walking a
draft in order meets the two kinds of problem in just that order.

## Three readers

A reader that only steps over a value is more lenient than one that wants it: a number too large
for a double or half a surrogate pair are no problem to it, and it may give another reason for the
same break. One that wants a name does not even look at a word or a number. So a leaf carries the
failure of wanting it, and a break the reasons of all three readers.

## Fuel

The three functions that read values, items and members call each other for what stands inside and
for what comes after. The fuel counts these calls. It is given out by the length of the text, three
calls for a character, so it never runs out.
-/

namespace RoadWeather.Json

/-- Why a text is not JSON: it ends too early, or it has something else in it. -/
inductive Fault where
  | unfinished
  | malformed
  deriving DecidableEq, Repr

/-- A place beyond which a text is not JSON, with the reason for a reader that wants the value, for
one that steps over it, and for one that wants a name. -/
structure Break where
  wanted : Fault
  skipped : Fault
  named : Fault
  deriving DecidableEq, Repr

/-- A break for which all readers give the same reason. -/
def Fault.toBreak (f : Fault) : Break := ⟨f, f, f⟩

/-- The end of a text within a word or a number. -/
def Break.cutOff (skipped : Fault) : Break := ⟨.unfinished, skipped, .malformed⟩

mutual

/-- A value as far as its text is JSON. -/
inductive Draft where
  | null
  | bool (b : Bool)
  | number (n : Except Fault Number)
  | string (s : Except Fault String)
  | array (items : Draft.Items)
  | object (entries : Draft.Entries)
  | broken (b : Break)

/-- The items of an array. A break stands where a comma or the bracket should. -/
inductive Draft.Items where
  | done
  | item (first : Draft) (rest : Draft.Items)
  | broken (b : Break)

/-- The members of an object. A break stands where a comma or the brace should, a bad key where a
key should. -/
inductive Draft.Entries where
  | done
  | entry (key : Except Fault String) (value : Draft) (rest : Draft.Entries)
  | broken (b : Break)
  | badKey (b : Break)

end

namespace Draft

/-! ## Complete values -/

mutual

/-- A complete value as a draft. -/
def ofJson : Json → Draft
  | .null => .null
  | .bool b => .bool b
  | .number n => .number (.ok n)
  | .string s => .string (.ok s)
  | .array items => .array (ofItems items)
  | .object members => .object (ofMembers members)

def ofItems : List Json → Items
  | [] => .done
  | item :: items => .item (ofJson item) (ofItems items)

def ofMembers : List (String × Json) → Entries
  | [] => .done
  | (key, value) :: members => .entry (.ok key) (ofJson value) (ofMembers members)

end

/-! ## Blanks and words -/

def isBlank (c : Char) : Bool := c = ' ' || c = '\n' || c = '\t' || c = '\r'

/-- A text from its first character that is not blank. -/
def skipBlank (s : List Char) : List Char := s.dropWhile isBlank

/-- A draft that breaks, with nothing left to read. -/
def stop (b : Break) : Draft × List Char := (.broken b, [])

/-- The rest of a word such as `null`, standing for `value`. -/
def readWord (value : Draft) : List Char → List Char → Draft × List Char
  | [], s => (value, s)
  | _ :: _, [] => stop (.cutOff .unfinished)
  | w :: word, c :: s => if w = c then readWord value word s else stop Fault.malformed.toBreak

/-! ## Strings -/

/-- A character of a string, or a code unit written as `\u` and four hexadecimal digits. -/
inductive Piece where
  | char (c : Char)
  | code (n : Nat)
  deriving DecidableEq, Repr

def hexValue? (c : Char) : Option Nat :=
  if '0' ≤ c ∧ c ≤ '9' then some (c.toNat - 0x30)
  else if 'a' ≤ c ∧ c ≤ 'f' then some (c.toNat - 0x61 + 10)
  else if 'A' ≤ c ∧ c ≤ 'F' then some (c.toNat - 0x41 + 10)
  else none

/-- The value of four hexadecimal digits. -/
def codeUnit? (a b c d : Char) : Option Nat := do
  let a ← hexValue? a
  let b ← hexValue? b
  let c ← hexValue? c
  let d ← hexValue? d
  return ((a * 16 + b) * 16 + c) * 16 + d

/-- The character that a letter after a backslash stands for. -/
def unescape? (c : Char) : Option Char :=
  if c = '"' then some '"'
  else if c = '\\' then some '\\'
  else if c = '/' then some '/'
  else if c = 'b' then some '\x08'
  else if c = 'f' then some '\x0c'
  else if c = 'n' then some '\n'
  else if c = 'r' then some '\r'
  else if c = 't' then some '\t'
  else none

def addPiece (p : Piece) (r : List Piece × Except Fault (List Char)) :
    List Piece × Except Fault (List Char) :=
  (p :: r.1, r.2)

/-- The pieces of a string up to its closing quote and the text after it, or up to a break.

Four bytes are taken for a code unit: a text with fewer left is unfinished, whatever they are. -/
def scanPieces : List Char → List Piece × Except Fault (List Char)
  | [] => ([], .error .unfinished)
  | '"' :: s => ([], .ok s)
  | '\\' :: 'u' :: a :: b :: c :: d :: s =>
    match codeUnit? a b c d with
    | some n => addPiece (.code n) (scanPieces s)
    | none => ([], .error .malformed)
  | '\\' :: 'u' :: s =>
    ([], .error (if (String.ofList s).utf8ByteSize < 4 then .unfinished else .malformed))
  | '\\' :: c :: s =>
    match unescape? c with
    | some e => addPiece (.char e) (scanPieces s)
    | none => ([], .error .malformed)
  | ['\\'] => ([], .error .unfinished)
  | c :: s => if c.toNat < 0x20 then ([], .error .malformed) else addPiece (.char c) (scanPieces s)

/-- The first half of a surrogate pair. -/
def isLeading (n : Nat) : Bool := 0xd800 ≤ n && n ≤ 0xdbff

/-- The second half of a surrogate pair. -/
def isTrailing (n : Nat) : Bool := 0xdc00 ≤ n && n ≤ 0xdfff

/-- The characters of a string. Half a surrogate pair stands for none; where the pieces end after
a first half, `atEnd` is what stands in the way of the second. -/
def joinPieces (atEnd : Fault) : List Piece → Except Fault (List Char)
  | [] => .ok []
  | .char c :: ps => (joinPieces atEnd ps).map (c :: ·)
  | .code n :: ps =>
    if isTrailing n then .error .malformed
    else if isLeading n then
      match ps with
      | .code m :: ps =>
        if isTrailing m then
          let c := Char.ofNat (0x10000 + (n - 0xd800) * 0x400 + (m - 0xdc00))
          (joinPieces atEnd ps).map (c :: ·)
        else .error .malformed
      | .char _ :: _ => .error .malformed
      | [] => .error atEnd
    else (joinPieces atEnd ps).map (Char.ofNat n :: ·)

/-- A string after its opening quote: its text and the rest, or a break. -/
def readString (s : List Char) : Except Break (Except Fault String × List Char) :=
  match scanPieces s with
  | (pieces, .ok rest) => .ok ((joinPieces .malformed pieces).map String.ofList, rest)
  | (pieces, .error f) =>
    match joinPieces f pieces with
    | .error wanted => .error ⟨wanted, f, wanted⟩
    | .ok _ => .error f.toBreak

/-! ## Numbers -/

/-- The break where a digit is needed. A reader that steps over the number makes no difference
between the end of the text and another character. -/
def noDigit : List Char → Break
  | [] => .cutOff .malformed
  | _ :: _ => Fault.malformed.toBreak

def readDigits (s : List Char) : Except Break (List Char × List Char) :=
  match s.takeWhile Char.isDigit with
  | [] => .error (noDigit s)
  | digits => .ok (digits, s.dropWhile Char.isDigit)

/-- The fraction of a number, if there is one. -/
def readFraction (s : List Char) : Except Break (Option (List Char) × List Char) :=
  match s with
  | '.' :: s => (readDigits s).map fun (digits, s) ↦ (some digits, s)
  | s => .ok (none, s)

/-- The exponent of a number, if there is one. -/
def readExponent (s : List Char) : Except Break (Option Int × List Char) :=
  match s with
  | [] => .ok (none, [])
  | c :: r =>
    if c = 'e' ∨ c = 'E' then
      let (negative, r) :=
        match r with
        | '-' :: r => (true, r)
        | '+' :: r => (false, r)
        | r => (false, r)
      (readDigits r).map fun (digits, r) ↦
        let size : Int := Nat.ofDigitChars 10 digits 0
        (some (if negative then -size else size), r)
    else .ok (none, c :: r)

/-- The number that digits, a fraction and an exponent stand for. A whole number within the range
of 64 bits stays whole, but `-0` does not; one too large for a double is none. -/
def numberOf (negative : Bool) (whole : List Char) (fraction : Option (List Char))
    (exponent : Option Int) : Except Fault Number :=
  let n := Nat.ofDigitChars 10 whole 0
  let plain := fraction.isNone && exponent.isNone
  if plain && !negative && n < Nat.pow 2 64 then .ok (.natural n)
  else if plain && negative && 0 < n && n ≤ Nat.pow 2 63 then .ok (.negative n)
  else
    let x := DecimalText.toFloat negative ⟨whole, fraction.getD [], exponent.getD 0⟩
    if x.isFinite then .ok (.double x) else .error .malformed

/-- A number after its sign. -/
def readNumber (negative : Bool) (s : List Char) : Draft × List Char :=
  let parts := do
    let (whole, s) ← readDigits s
    if whole.head? = some '0' ∧ whole.length ≠ 1 then throw Fault.malformed.toBreak
    let (fraction, s) ← readFraction s
    let (exponent, s) ← readExponent s
    return (Draft.number (numberOf negative whole fraction exponent), s)
  match parts with
  | .ok result => result
  | .error b => stop b

/-! ## Values -/

mutual

/-- The value at the start of a text, blanks before it skipped, and the text after it.

The fuel bounds the number of nested and following values; `read` gives enough of it. -/
def readValue : Nat → List Char → Draft × List Char
  | 0, _ => stop Fault.malformed.toBreak
  | fuel + 1, s =>
    match skipBlank s with
    | [] => stop Fault.unfinished.toBreak
    | 'n' :: s => readWord .null ['u', 'l', 'l'] s
    | 't' :: s => readWord (.bool true) ['r', 'u', 'e'] s
    | 'f' :: s => readWord (.bool false) ['a', 'l', 's', 'e'] s
    | '"' :: s =>
      match readString s with
      | .ok (text, s) => (.string text, s)
      | .error b => stop b
    | '[' :: s =>
      let (items, s) := readItems fuel true s
      (.array items, s)
    | '\x7b' :: s =>
      let (entries, s) := readEntries fuel true s
      (.object entries, s)
    | '-' :: s => readNumber true s
    | c :: s => if c.isDigit then readNumber false (c :: s) else stop Fault.malformed.toBreak

/-- The items of an array, from the opening bracket or after an item. -/
def readItems : Nat → Bool → List Char → Items × List Char
  | 0, _, _ => (.broken Fault.malformed.toBreak, [])
  | fuel + 1, first, s =>
    match skipBlank s with
    | [] => (.broken Fault.unfinished.toBreak, [])
    | c :: s =>
      if c = ']' then (.done, s)
      else if first || c = ',' then
        let (item, s) := readValue fuel (if first then c :: s else s)
        let (items, s) := readItems fuel false s
        (.item item items, s)
      else (.broken Fault.malformed.toBreak, [])

/-- The members of an object, from the opening brace or after a member. -/
def readEntries : Nat → Bool → List Char → Entries × List Char
  | 0, _, _ => (.broken Fault.malformed.toBreak, [])
  | fuel + 1, first, s =>
    match skipBlank s with
    | [] => (.broken Fault.unfinished.toBreak, [])
    | c :: s =>
      if c = '\x7d' then (.done, s)
      else if first || c = ',' then readKey fuel (if first then c :: s else skipBlank s)
      else (.broken Fault.malformed.toBreak, [])

/-- A key, its value and the members after it. -/
def readKey : Nat → List Char → Entries × List Char
  | 0, _ => (.broken Fault.malformed.toBreak, [])
  | fuel + 1, s =>
    match s with
    | [] => (.badKey Fault.unfinished.toBreak, [])
    | '"' :: s =>
      match readString s with
      | .error b => (.badKey b, [])
      | .ok (key, s) =>
        match skipBlank s with
        | [] => (.entry key (.broken Fault.unfinished.toBreak) .done, [])
        | ':' :: s =>
          let (value, s) := readValue fuel s
          let (entries, s) := readEntries fuel false s
          (.entry key value entries, s)
        | _ :: _ => (.entry key (.broken Fault.malformed.toBreak) .done, [])
    | _ :: _ => (.badKey Fault.malformed.toBreak, [])

end

/-- The value at the start of a text and the text after it. -/
def read (s : String) : Draft × List Char :=
  let chars := s.toList
  readValue (3 * chars.length + 3) chars

/-! ## Stepping over values -/

mutual

/-- Steps over a value that nobody wants. -/
def skip : Draft → Except Fault Unit
  | .null | .bool _ | .number _ | .string _ => .ok ()
  | .array items => skipItems items
  | .object entries => skipEntries entries
  | .broken b => .error b.skipped

def skipItems : Items → Except Fault Unit
  | .done => .ok ()
  | .item first rest => do skip first; skipItems rest
  | .broken b => .error b.skipped

def skipEntries : Entries → Except Fault Unit
  | .done => .ok ()
  | .entry _ value rest => do skip value; skipEntries rest
  | .broken b => .error b.skipped
  | .badKey b => .error b.skipped

end

end Draft

end RoadWeather.Json
