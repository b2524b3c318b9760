import RoadWeather.Number.Written
import RoadWeather.Timestamp

/-!
# The lexemes of TOML

Blanks, comments, keys, strings, numbers and times. A reader takes a lexeme off the front of a text
and gives nothing where there is none; a settings file with any problem is refused as a whole, so
readers do not say what is wrong.
-/

namespace RoadWeather.Toml

/-! ## Blanks and comments -/

def isBlank (c : Char) : Bool := c = ' ' || c = '\t'

/-- A text from its first character that is not blank. -/
def skipBlank (s : List Char) : List Char := s.dropWhile isBlank

/-- A character that may stand in a comment, and unescaped in a string. -/
def isPlain (c : Char) : Bool := c = '\t' || (0x20 ≤ c.toNat && c.toNat ≠ 0x7f)

/-- The text after the end of a line. -/
def newline? : List Char → Option (List Char)
  | '\n' :: s => some s
  | '\r' :: '\n' :: s => some s
  | _ => none

/-- What may stand between a value and the end of its line: blanks and a comment. The text after
the end of the line. -/
def lineEnd? (s : List Char) : Option (List Char) :=
  let afterComment :=
    match skipBlank s with
    | '#' :: s => s.dropWhile isPlain
    | s => s
  if afterComment = [] then some [] else newline? afterComment

/-- The text after blanks, line ends and comments; `inComment` within a comment. -/
def skipLines (inComment : Bool) : List Char → Option (List Char)
  | [] => some []
  | '\n' :: s => skipLines false s
  | '\r' :: '\n' :: s => skipLines false s
  | c :: s =>
    if inComment then if isPlain c then skipLines true s else none
    else if isBlank c then skipLines false s
    else if c = '#' then skipLines true s
    else some (c :: s)

/-! ## Strings -/

def hexValue? (c : Char) : Option Nat :=
  if '0' ≤ c ∧ c ≤ '9' then some (c.toNat - 0x30)
  else if 'a' ≤ c ∧ c ≤ 'f' then some (c.toNat - 0x61 + 10)
  else if 'A' ≤ c ∧ c ≤ 'F' then some (c.toNat - 0x41 + 10)
  else none

/-- The character of a hexadecimal number. -/
def codePoint? (digits : List Char) : Option Char := do
  let values ← digits.mapM hexValue?
  let n := values.foldl (fun n v ↦ n * 16 + v) 0
  if n.isValidChar then some (Char.ofNat n) else none

/-- The character that a letter after a backslash stands for. -/
def unescape? (c : Char) : Option Char :=
  if c = 'b' then some '\x08'
  else if c = 't' then some '\t'
  else if c = 'n' then some '\n'
  else if c = 'f' then some '\x0c'
  else if c = 'r' then some '\r'
  else if c = '"' then some '"'
  else if c = '\\' then some '\\'
  else none

def addChar (c : Char) (r : Option (List Char × List Char)) : Option (List Char × List Char) :=
  r.map fun (text, rest) ↦ (c :: text, rest)

/-- A string in double quotes, after the first one. -/
def basic : List Char → Option (List Char × List Char)
  | [] => none
  | '"' :: s => some ([], s)
  | '\\' :: 'u' :: a :: b :: c :: d :: s =>
    match codePoint? [a, b, c, d] with
    | some e => addChar e (basic s)
    | none => none
  | '\\' :: 'U' :: a :: b :: c :: d :: e :: f :: g :: h :: s =>
    match codePoint? [a, b, c, d, e, f, g, h] with
    | some e => addChar e (basic s)
    | none => none
  | '\\' :: c :: s =>
    match unescape? c with
    | some e => addChar e (basic s)
    | none => none
  | c :: s => if isPlain c && c ≠ '\\' then addChar c (basic s) else none

def literal : List Char → Option (List Char × List Char)
  | [] => none
  | c :: s =>
    if c = '\'' then some ([], s)
    else if isPlain c then addChar c (literal s)
    else none

/-- Where a string of several lines is: in its text, after a backslash that joins this line to the
next, or before the first character of the line joined. -/
inductive Joint where
  | text
  | pending
  | joined
  deriving DecidableEq

/-- The quotes that belong to the text at the end of a string of several lines, where up to two
may stand before the three closing ones. -/
def closing (quote : Char) : List Char → List Char × List Char
  | a :: b :: s =>
    if a = quote then if b = quote then ([a, b], s) else ([a], b :: s) else ([], a :: b :: s)
  | [a] => if a = quote then ([a], []) else ([], [a])
  | [] => ([], [])

/-- A string of several lines in three double quotes, after the first three. -/
def multilineBasic (joint : Joint) : List Char → Option (List Char × List Char)
  | [] => none
  | '\n' :: s =>
    if joint = .text then addChar '\n' (multilineBasic .text s) else multilineBasic .joined s
  | '\r' :: '\n' :: s =>
    if joint = .text then addChar '\n' (multilineBasic .text s) else multilineBasic .joined s
  | c :: s =>
    if joint ≠ .text && isBlank c then multilineBasic joint s
    else if joint = .pending then none
    else match c, s with
      | '"', '"' :: '"' :: s => some (closing '"' s)
      | '\\', 'u' :: a :: b :: c :: d :: s =>
        match codePoint? [a, b, c, d] with
        | some e => addChar e (multilineBasic .text s)
        | none => none
      | '\\', 'U' :: a :: b :: c :: d :: e :: f :: g :: h :: s =>
        match codePoint? [a, b, c, d, e, f, g, h] with
        | some e => addChar e (multilineBasic .text s)
        | none => none
      | '\\', c :: s =>
        match unescape? c with
        | some e => addChar e (multilineBasic .text s)
        | none =>
          if c = '\n' then multilineBasic .joined s
          else if isBlank c || c = '\r' then multilineBasic .pending (c :: s)
          else none
      | c, s => if isPlain c && c ≠ '\\' then addChar c (multilineBasic .text s) else none

/-- A string of several lines in three single quotes, after the first three. -/
def multilineLiteral : List Char → Option (List Char × List Char)
  | [] => none
  | '\'' :: '\'' :: '\'' :: s => some (closing '\'' s)
  | '\n' :: s => addChar '\n' (multilineLiteral s)
  | '\r' :: '\n' :: s => addChar '\n' (multilineLiteral s)
  | c :: s => if isPlain c then addChar c (multilineLiteral s) else none

/-- A text without the line end that it starts with. -/
def dropNewline (s : List Char) : List Char := (newline? s).getD s

/-- A string of any form. -/
def string? (s : List Char) : Option (String × List Char) :=
  let chars :=
    match s with
    | '"' :: '"' :: '"' :: s => multilineBasic .text (dropNewline s)
    | '"' :: s => basic s
    | '\'' :: '\'' :: '\'' :: s => multilineLiteral (dropNewline s)
    | '\'' :: s => literal s
    | _ => none
  chars.map fun (text, rest) ↦ (String.ofList text, rest)

/-! ## Keys -/

/-- A character of a key without quotes. -/
def isBare (c : Char) : Bool := c.isAlphanum || c = '_' || c = '-'

/-- One part of a key. -/
def keyPart? (s : List Char) : Option (String × List Char) :=
  match s with
  | '"' :: s => (basic s).map fun (text, rest) ↦ (String.ofList text, rest)
  | '\'' :: s => (literal s).map fun (text, rest) ↦ (String.ofList text, rest)
  | s =>
    match s.takeWhile isBare with
    | [] => none
    | part => some (String.ofList part, s.dropWhile isBare)

def key? : Nat → List Char → Option (List String × List Char)
  | 0, _ => none
  | fuel + 1, s => do
    let (part, s) ← keyPart? (skipBlank s)
    match skipBlank s with
    | '.' :: s =>
      let (parts, s) ← key? fuel s
      return (part :: parts, s)
    | s => return ([part], s)

/-! ## Numbers -/

/-- Digits with single underscores between them; `after` whether a digit came just before. -/
def digitRun (isDigit : Char → Bool) (after : Bool) : List Char → List Char × List Char
  | [] => ([], [])
  | [c] => if isDigit c then ([c], []) else ([], [c])
  | c :: d :: s =>
    if isDigit c then
      let (digits, rest) := digitRun isDigit true (d :: s)
      (c :: digits, rest)
    else if after && c = '_' && isDigit d then digitRun isDigit false (d :: s)
    else ([], c :: d :: s)

/-- At least one digit. -/
def digits? (isDigit : Char → Bool) (s : List Char) : Option (List Char × List Char) :=
  match digitRun isDigit false s with
  | ([], _) => none
  | found => some found

/-- A sign, if there is one; whether it is a minus. -/
def sign (s : List Char) : Bool × List Char :=
  match s with
  | '-' :: s => (true, s)
  | '+' :: s => (false, s)
  | s => (false, s)

/-- The digits of a decimal number, without zeros in front. -/
def decimalDigits? (s : List Char) : Option (List Char × List Char) :=
  match s with
  | '0' :: s => some (['0'], s)
  | s => digits? Char.isDigit s

/-- The value of digits to a base. -/
def valueOf (base : Nat) (digits : List Char) : Nat :=
  digits.foldl (fun n c ↦ n * base + (hexValue? c).getD 0) 0

/-- A whole number in digits of a base. -/
def based? (base : Nat) (isDigit : Char → Bool) (s : List Char) : Option (Int × List Char) :=
  (digits? isDigit s).map fun (digits, s) ↦ (valueOf base digits, s)

/-- A whole number in decimal digits, with an optional sign. -/
def decimal? (s : List Char) : Option (Int × List Char) :=
  let (negative, s) := sign s
  (decimalDigits? s).map fun (digits, s) ↦
    let n : Int := valueOf 10 digits
    (if negative then -n else n, s)

/-- A whole number of 64 bits. -/
def integer? (s : List Char) : Option (Int × List Char) := do
  let (n, s) ←
    match s with
    | '0' :: 'x' :: s => based? 16 (fun c ↦ (hexValue? c).isSome) s
    | '0' :: 'o' :: s => based? 8 (fun c ↦ '0' ≤ c && c ≤ '7') s
    | '0' :: 'b' :: s => based? 2 (fun c ↦ c = '0' || c = '1') s
    | s => decimal? s
  let bound : Int := Nat.pow 2 63
  if -bound ≤ n ∧ n < bound then return (n, s) else none

/-- An exponent of a number. -/
def exponent? (s : List Char) : Option (Int × List Char) :=
  match s with
  | c :: s =>
    if c = 'e' ∨ c = 'E' then
      let (negative, s) := sign s
      (digits? Char.isDigit s).map fun (digits, s) ↦
        let size : Int := valueOf 10 digits
        (if negative then -size else size, s)
    else none
  | [] => none

/-- A number with a fraction or an exponent, after its sign. -/
def fractional? (s : List Char) : Option (DecimalText × List Char) := do
  let (whole, s) ← decimalDigits? s
  match s with
  | '.' :: s =>
    let (fraction, s) ← digits? Char.isDigit s
    let (exponent, s) := (exponent? s).getD (0, s)
    return (⟨whole, fraction, exponent⟩, s)
  | s =>
    let (exponent, s) ← exponent? s
    return (⟨whole, [], exponent⟩, s)

/-- A number that is not whole, or not a number. One without a minus sign has to be within the
range of a double; beyond it on the other side it is as good as minus infinity. -/
def float? (s : List Char) : Option (Unit × List Char) :=
  let (negative, s) := sign s
  match s with
  | 'i' :: 'n' :: 'f' :: s => some ((), s)
  | 'n' :: 'a' :: 'n' :: s => some ((), s)
  | s => do
    let (text, s) ← fractional? s
    if negative || (text.toFloat negative).isFinite then return ((), s) else none

/-! ## Times -/

/-- The number of exactly `n` digits, between bounds. -/
def fixed? (n low high : Nat) (s : List Char) : Option (Nat × List Char) :=
  let digits := s.take n
  let value := valueOf 10 digits
  if digits.length = n ∧ digits.all Char.isDigit ∧ low ≤ value ∧ value ≤ high then
    some (value, s.drop n)
  else none

/-- One given character. -/
def char? (c : Char) : List Char → Option (List Char)
  | [] => none
  | d :: s => if d = c then some s else none

def date? (s : List Char) : Option (Unit × List Char) := do
  let (year, s) ← fixed? 4 0 9999 s
  let s ← char? '-' s
  let (month, s) ← fixed? 2 1 12 s
  let s ← char? '-' s
  let (_, s) ← fixed? 2 1 (daysInMonth year month) s
  return ((), s)

def time? (s : List Char) : Option (Unit × List Char) := do
  let (_, s) ← fixed? 2 0 23 s
  let s ← char? ':' s
  let (_, s) ← fixed? 2 0 59 s
  let s ← char? ':' s
  let (_, s) ← fixed? 2 0 60 s
  match s with
  | '.' :: r =>
    match r.takeWhile Char.isDigit with
    | [] => return ((), s)
    | _ => return ((), r.dropWhile Char.isDigit)
  | s => return ((), s)

def offset? (s : List Char) : Option (Unit × List Char) :=
  match s with
  | 'Z' :: s => some ((), s)
  | 'z' :: s => some ((), s)
  | c :: s =>
    if c = '+' ∨ c = '-' then do
      let (_, s) ← fixed? 2 0 23 s
      let s ← char? ':' s
      let (_, s) ← fixed? 2 0 59 s
      return ((), s)
    else none
  | [] => none

/-- A date, a time of day, or both with or without an offset. -/
def dateTime? (s : List Char) : Option (Unit × List Char) :=
  match date? s with
  | none => time? s
  | some ((), s) =>
    let timed : Option (Unit × List Char) :=
      match s with
      | c :: r =>
        if c = 'T' ∨ c = 't' ∨ c = ' ' then do
          let (_, r) ← time? r
          return ((offset? r).getD ((), r))
        else none
      | [] => none
    some (timed.getD ((), s))

end RoadWeather.Toml
