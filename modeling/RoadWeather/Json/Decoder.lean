import RoadWeather.Json.Draft
import RoadWeather.Text.Quoted

/-!
# Looking for a shape

A decoder looks for a value of a particular shape in a draft. It walks the draft in the order of
its text and stops at the first problem, be it a break of the draft or something of another shape.

## Records

A record is described by its fields (`Fields`). In an object the fields may come in any order, each
at most once, and members that are no field are stepped over. In an array the values of the fields
follow each other in the order of the description. Both forms leave out fields that have a default.

A description says both at once, so that a record has one description and its two forms cannot drift
apart. It is put together from single fields. While the members of an object are gone through, what
has been found of each is kept beside the others, as a pair for every two descriptions, and only at
the end is it seen which fields are missing.
-/

namespace RoadWeather.Json

/-! ## Problems -/

/-- What stands where something of another shape is expected. -/
inductive Found where
  | null
  | bool (b : Bool)
  | number (n : Number)
  | string (s : String)
  | sequence
  | map

/-- Why well-formed JSON is refused. -/
inductive Mismatch where
  | missingField (name : String)
  | duplicateField (name : String)
  | unknownVariant (found : String) (known : List String)
  | wrongType (found : Found) (expected : String)
  | outOfRange (found : Number) (expected : String)
  | wrongLength (length : Nat) (expected : String)
  /-- A value of the right shape that its domain refuses. -/
  | refused (reason : String)

/-- The first problem of a text: it is not JSON there, or not of the expected shape. -/
inductive DecodeError where
  | fault (f : Fault)
  | mismatch (m : Mismatch)

def Number.describe : Number → String
  | .natural n => s!"integer `{n}`"
  | .negative n => s!"integer `-{n}`"
  | .double x => s!"floating point `{String.ofList (NumberStyle.json.chars x)}`"

def Found.describe : Found → String
  | .null => "null"
  | .bool b => s!"boolean `{b}`"
  | .number n => n.describe
  | .string s => s!"string {Text.quoted s}"
  | .sequence => "sequence"
  | .map => "map"

/-- The text of the names that would have been known. -/
def describeKnown (known : List String) : String :=
  match known.map fun name ↦ s!"`{name}`" with
  | [] => "there are no variants"
  | [only] => s!"expected {only}"
  | [first, second] => s!"expected {first} or {second}"
  | names => "expected one of " ++ String.intercalate ", " names

def Mismatch.message : Mismatch → String
  | .missingField name => s!"missing field `{name}`"
  | .duplicateField name => s!"duplicate field `{name}`"
  | .unknownVariant found known => s!"unknown variant `{found}`, {describeKnown known}"
  | .wrongType found expected => s!"invalid type: {found.describe}, expected {expected}"
  | .outOfRange found expected => s!"invalid value: {found.describe}, expected {expected}"
  | .wrongLength length expected => s!"invalid length {length}, expected {expected}"
  | .refused reason => reason

/-! ## Decoders -/

/-- Looks for a value in a draft. -/
abbrev Decoder (α : Type) := Draft → Except DecodeError α

/-- A part of a draft that a reader wants. -/
def wanted {α : Type} : Except Fault α → Except DecodeError α
  | .ok a => .ok a
  | .error f => .error (.fault f)

/-- The failure of a decoder that expects something else than the draft. -/
def expected {α : Type} (what : String) (d : Draft) : Except DecodeError α :=
  let wrong found := .error (.mismatch (.wrongType found what))
  match d with
  | .null => wrong .null
  | .bool b => wrong (.bool b)
  | .number n => wanted n >>= fun n ↦ wrong (.number n)
  | .string s => wanted s >>= fun s ↦ wrong (.string s)
  | .array _ => wrong .sequence
  | .object _ => wrong .map
  | .broken b => .error (.fault b.wanted)

namespace Decoder

def double : Decoder Float
  | .number n => (wanted n).map Number.toFloat
  | d => expected "f64" d

/-- A whole number below 256. -/
def byte : Decoder UInt8
  | .number (.ok (.natural n)) =>
    if n < 256 then .ok n.toUInt8 else .error (.mismatch (.outOfRange (.natural n) "u8"))
  | .number (.ok (.negative n)) => .error (.mismatch (.outOfRange (.negative n) "u8"))
  | d => expected "u8" d

def bool : Decoder Bool
  | .bool b => .ok b
  | d => expected "a boolean" d

def string : Decoder String
  | .string s => wanted s
  | d => expected "a string" d

/-- `null`, or a value. -/
def optional {α : Type} (value : Decoder α) : Decoder (Option α)
  | .null => .ok none
  | d => (value d).map some

/-- A value that its domain may refuse. -/
def refine {α β : Type} (value : Decoder α) (check : α → Except String β) : Decoder β :=
  fun d ↦ do
    match check (← value d) with
    | .ok b => .ok b
    | .error reason => .error (.mismatch (.refused reason))

/-! ## Lists and maps -/

/-- The items of a list. -/
def items {α : Type} (value : Decoder α) : Draft.Items → Except DecodeError (List α)
  | .done => .ok []
  | .item first rest => do
    let a ← value first
    let as ← items value rest
    return a :: as
  | .broken b => .error (.fault b.wanted)

def list {α : Type} (value : Decoder α) : Decoder (List α)
  | .array is => items value is
  | d => expected "a sequence" d

/-- The values under the keys of an object, added to `entries` one after the other. -/
def entries {κ α : Type} (key : String → Except DecodeError κ) (value : Decoder α)
    (found : List (κ × α)) : Draft.Entries → Except DecodeError (List (κ × α))
  | .done => .ok found
  | .entry k v rest => do
    let k ← key (← wanted k)
    let a ← value v
    entries key value (found ++ [(k, a)]) rest
  | .broken b => .error (.fault b.wanted)
  | .badKey b => .error (.fault b.wanted)

/-- The values under the keys of an object, in order. -/
def map {κ α : Type} (key : String → Except DecodeError κ) (value : Decoder α) :
    Decoder (List (κ × α))
  | .object es => entries key value [] es
  | d => expected "a map" d

/-! ## Names -/

/-- One of a list of names. -/
def variant {α : Type} (known : List (String × α)) (name : String) : Except DecodeError α :=
  match known.lookup name with
  | some a => .ok a
  | none => .error (.mismatch (.unknownVariant name (known.map Prod.fst)))

/-- What must follow the only member of an object. -/
def closed : Draft.Entries → Except DecodeError Unit
  | .done => .ok ()
  | .broken b => .error (.fault b.wanted)
  | .entry .. | .badKey .. => .error (.fault .malformed)

/-- One of a list of names, as a string or as the only key of an object, over `null`. -/
def name {α : Type} (known : List (String × α)) : Decoder α
  | .string s => wanted s >>= variant known
  | .object (.entry key value rest) => do
    let a ← wanted key >>= variant known
    match value with
    | .null => pure ()
    | v => expected "unit" v
    closed rest
    return a
  | .object (.broken b) => .error (.fault b.wanted)
  | .object (.badKey b) => .error (.fault b.wanted)
  | .broken b => .error (.fault b.named)
  | _ => .error (.fault .malformed)

end Decoder

/-! ## Records -/

/-- The description of a record: how its fields are found by name and by position, as a pair of
the record's type `α` and the type `σ` of what has been found of it so far. -/
structure Fields (α σ : Type) where
  /-- How many fields there are. -/
  count : Nat
  /-- Nothing found yet. -/
  start : σ
  /-- What to do with the member of a name, if it is a field: refuse it if there has been one,
  or add its value. -/
  member : String → σ → Option (Except DecodeError (Draft → Except DecodeError σ))
  /-- The record, once all members have been seen. -/
  finish : σ → Except DecodeError α
  /-- The values of the fields at the start of a list, and the rest of it; `tooShort` gives the
  failure of a list that ends too early, from the number of its items. -/
  positional : (tooShort : Nat → DecodeError) → Nat → Draft.Items →
    Except DecodeError (α × Draft.Items)

namespace Fields

/-- One field, with its default if it has one. -/
def one {α : Type} (name : String) (value : Decoder α) (default : Option α) :
    Fields α (Option α) where
  count := 1
  start := none
  member key found :=
    if key = name then
      some <| match found with
        | some _ => .error (.mismatch (.duplicateField name))
        | none => .ok fun d ↦ (value d).map some
    else none
  finish found :=
    match found, default with
    | some a, _ => .ok a
    | none, some a => .ok a
    | none, none => .error (.mismatch (.missingField name))
  positional tooShort seen items :=
    match items, default with
    | .item first rest, _ => (value first).map (·, rest)
    | .broken b, _ => .error (.fault b.wanted)
    | .done, some a => .ok (a, .done)
    | .done, none => .error (tooShort seen)

/-- A field that must be there. -/
def required {α : Type} (name : String) (value : Decoder α) : Fields α (Option α) :=
  one name value none

/-- A field that may be left out. -/
def defaulted {α : Type} (name : String) (value : Decoder α) (default : α) :
    Fields α (Option α) :=
  one name value (some default)

/-- The fields of one description, then those of another. -/
def and {α β σ τ : Type} (f : Fields α σ) (g : Fields β τ) : Fields (α × β) (σ × τ) where
  count := f.count + g.count
  start := (f.start, g.start)
  member key found :=
    match f.member key found.1 with
    | some r => some (r.map fun add d ↦ (add d).map (·, found.2))
    | none => (g.member key found.2).map fun r ↦ r.map fun add d ↦ (add d).map (found.1, ·)
  finish found := do
    let a ← f.finish found.1
    let b ← g.finish found.2
    return (a, b)
  positional tooShort seen items := do
    let (a, items) ← f.positional tooShort seen items
    let (b, items) ← g.positional tooShort (seen + f.count) items
    return ((a, b), items)

/-- The members of an object, added to what has been found. -/
def collect {α σ : Type} (f : Fields α σ) (found : σ) : Draft.Entries → Except DecodeError σ
  | .done => .ok found
  | .entry key value rest => do
    let key ← wanted key
    match f.member key found with
    | some r => do
      let add ← r
      let found ← add value
      f.collect found rest
    | none => do
      wanted value.skip
      f.collect found rest
  | .broken b => .error (.fault b.wanted)
  | .badKey b => .error (.fault b.wanted)

/-- What must follow the last field of a record written as an array. -/
def closed : Draft.Items → Except DecodeError Unit
  | .done => .ok ()
  | .broken b => .error (.fault b.wanted)
  | .item .. => .error (.fault .malformed)

/-- A record of the described fields. -/
def decoder {α σ : Type} (typeName : String) (f : Fields α σ) : Decoder α
  | .object es => do
    let found ← f.collect f.start es
    f.finish found
  | .array items => do
    let elements := if f.count = 1 then "element" else "elements"
    let what := s!"struct {typeName} with {f.count} {elements}"
    let (a, rest) ← f.positional (fun seen ↦ .mismatch (.wrongLength seen what)) 0 items
    closed rest
    return a
  | d => expected s!"struct {typeName}" d

end Fields

/-! ## Documents -/

/-- The value of a whole document. -/
def decode {α : Type} (value : Decoder α) (text : String) : Except DecodeError α := do
  let (draft, rest) := Draft.read text
  let a ← value draft
  if Draft.skipBlank rest = [] then return a
  else throw (.fault .malformed)

end RoadWeather.Json
