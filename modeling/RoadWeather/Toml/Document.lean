import RoadWeather.Toml.Lexeme

/-!
# TOML documents

The tree of tables that a settings file spells out. Of the values only texts and whole numbers are
kept, since no setting is anything else; the others are read past.

A key or table may be defined once. What may still be added to a table depends on how it came to
be: one named only on the way to another can be opened later, one made by a dotted key can be added
to by dotted keys, and an inline table is closed.
-/

namespace RoadWeather.Toml

/-- A value, as far as settings need it. -/
inductive Value where
  | text (s : String)
  | integer (n : Int)
  | other
  deriving DecidableEq, Repr

/-- How a table came to be. -/
structure Origin where
  /-- Named only on the way to something in it. -/
  implicit : Bool
  /-- Made by a dotted key. -/
  dotted : Bool
  deriving DecidableEq, Repr

/-- What a key stands for. -/
inductive Node where
  | value (v : Value)
  | table (origin : Origin) (entries : List (String × Node))
  | tables (elements : List (List (String × Node)))

/-- A table under construction. -/
structure Table where
  origin : Origin
  entries : List (String × Node)

namespace Table

/-- A table opened by its own header, or the document itself. -/
def opened : Table := ⟨⟨false, false⟩, []⟩

/-- The table with a key put in, at its place if it is there already. -/
def put (t : Table) (key : String) (n : Node) : Table :=
  if t.entries.any (·.1 == key) then
    { t with entries := t.entries.map fun e ↦ if e.1 == key then (key, n) else e }
  else { t with entries := t.entries ++ [(key, n)] }

/-- Changes the table at the end of a path, tables on the way being made as needed; `dotted` for
the path of a dotted key. A path into an array of tables goes on in its last one. -/
def modifyAt (dotted : Bool) (change : Table → Option Table) : List String → Table → Option Table
  | [], t => change t
  | key :: path, t =>
    match t.entries.lookup key with
    | none => do
      let below ← modifyAt dotted change path ⟨⟨true, dotted⟩, []⟩
      return t.put key (.table below.origin below.entries)
    | some (.value _) => none
    | some (.table origin entries) =>
      -- A dotted key does not reach into a table that has a header of its own.
      if dotted && !origin.implicit then none
      else do
        let below ← modifyAt dotted change path ⟨origin, entries⟩
        return t.put key (.table below.origin below.entries)
    | some (.tables elements) => do
      let below ← modifyAt dotted change path ⟨⟨false, false⟩, elements.getLast?.getD []⟩
      return t.put key (.tables (elements.dropLast ++ [below.entries]))

/-- Puts a value under a dotted key. -/
def define (t : Table) (key : List String) (v : Value) : Option Table :=
  let path := key.dropLast
  let add (below : Table) : Option Table :=
    match key.getLast? with
    | none => none
    | some last =>
      if below.origin.dotted = path.isEmpty then none
      else if below.entries.any (·.1 == last) then none
      else some (below.put last (.value v))
  t.modifyAt true add path

/-- Opens the table of a header. -/
def openTable (t : Table) (key : List String) : Option Table :=
  let add (parent : Table) : Option Table :=
    match key.getLast? with
    | none => none
    | some last =>
      match parent.entries.lookup last with
      | none => some (parent.put last (.table ⟨false, false⟩ []))
      | some (.table origin entries) =>
        if origin.implicit && !origin.dotted then
          some (parent.put last (.table ⟨false, false⟩ entries))
        else none
      | some _ => none
  t.modifyAt false add key.dropLast

/-- Adds a table to the array of a header. -/
def openElement (t : Table) (key : List String) : Option Table :=
  let add (parent : Table) : Option Table :=
    match key.getLast? with
    | none => none
    | some last =>
      match parent.entries.lookup last with
      | none => some (parent.put last (.tables [[]]))
      | some (.tables elements) => some (parent.put last (.tables (elements ++ [[]])))
      | some _ => none
  t.modifyAt false add key.dropLast

end Table

/-! ## Values -/

/-- How deep arrays and inline tables may be nested, and how many parts a key may have. -/
def nestingLimit : Nat := 79

/-- A value that is a word, a number or a time. -/
def scalar? (s : List Char) : Option (Value × List Char) :=
  match s with
  | 't' :: 'r' :: 'u' :: 'e' :: s => some (.other, s)
  | 'f' :: 'a' :: 'l' :: 's' :: 'e' :: s => some (.other, s)
  | s =>
    match dateTime? s with
    | some (_, s) => some (.other, s)
    | none =>
      match float? s with
      | some (_, s) => some (.other, s)
      | none => (integer? s).map fun (n, s) ↦ (.integer n, s)

mutual

/-- A value; `depth` counts the arrays and inline tables that may still be opened, and the fuel
the values that may follow. -/
def value? : Nat → Nat → List Char → Option (Value × List Char)
  | 0, _, _ => none
  | fuel + 1, depth, s =>
    match s with
    | '"' :: _ => (string? s).map fun (text, s) ↦ (.text text, s)
    | '\'' :: _ => (string? s).map fun (text, s) ↦ (.text text, s)
    | '[' :: s => if depth = 0 then none else items? fuel (depth - 1) s
    | '\x7b' :: s =>
      if depth = 0 then none
      else match skipBlank s with
        | '\x7d' :: s => some (.other, s)
        | s => members? fuel (depth - 1) .opened s
    | s => scalar? s

def items? : Nat → Nat → List Char → Option (Value × List Char)
  | 0, _, _ => none
  | fuel + 1, depth, s => do
    match ← skipLines false s with
    | ']' :: s => return (.other, s)
    | s =>
      let (_, s) ← value? fuel depth s
      match ← skipLines false s with
      | ']' :: s => return (.other, s)
      | ',' :: s => items? fuel depth s
      | _ => none

def members? : Nat → Nat → Table → List Char → Option (Value × List Char)
  | 0, _, _, _ => none
  | fuel + 1, depth, t, s => do
    let (key, s) ← key? nestingLimit s
    let s ← char? '=' s
    let (v, s) ← value? fuel depth (skipBlank s)
    let t ← t.define key v
    match skipBlank s with
    | '\x7d' :: s => return (.other, s)
    | ',' :: s => members? fuel depth t s
    | _ => none

end

/-! ## Documents -/

/-- A document read so far: the tree, and the path of the table that keys belong to. -/
structure Progress where
  root : Table := .opened
  path : List String := []

def tableHeader (p : Progress) (s : List Char) : Option (Progress × List Char) := do
  let (key, s) ← key? nestingLimit s
  let s ← lineEnd? (← char? ']' s)
  return (⟨← p.root.openTable key, key⟩, s)

def elementHeader (p : Progress) (s : List Char) : Option (Progress × List Char) := do
  let (key, s) ← key? nestingLimit s
  let s ← lineEnd? (← char? ']' (← char? ']' s))
  return (⟨← p.root.openElement key, key⟩, s)

def definition (p : Progress) (s : List Char) : Option (Progress × List Char) := do
  let (key, s) ← key? nestingLimit s
  let s ← char? '=' s
  let (v, s) ← value? (s.length + 1) nestingLimit (skipBlank s)
  let s ← lineEnd? s
  let root ← p.root.modifyAt false (·.define key v) p.path
  return ({ p with root }, s)

/-- The lines of a document. The fuel bounds their number. -/
def lines? : Nat → Progress → List Char → Option Table
  | 0, _, _ => none
  | fuel + 1, p, s =>
    match skipBlank s with
    | [] => some p.root
    | '[' :: '[' :: s => do
      let (p, s) ← elementHeader p s
      lines? fuel p s
    | '[' :: s => do
      let (p, s) ← tableHeader p s
      lines? fuel p s
    | c :: s =>
      if c = '#' ∨ c = '\n' ∨ c = '\r' then do
        let s ← lineEnd? (c :: s)
        lines? fuel p s
      else do
        let (p, s) ← definition p (c :: s)
        lines? fuel p s

/-- The table of a document, if it is one. A byte order mark in front is no part of it. -/
def read? (text : String) : Option Table :=
  let s := text.toList
  let s := if s.head? = some '\ufeff' then s.drop 1 else s
  lines? (s.length + 1) {} s

end RoadWeather.Toml
