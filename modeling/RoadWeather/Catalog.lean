import Std.Data.ExtTreeMap
import RoadWeather.Parameter

/-!
# Catalogs

A catalog is a list of parameters that has passed an audit: labels are unique, ranges are finite
and not inverted, and a parameter feeds inputs exactly if it is convertible. The audit is part of
the type, so a catalog at hand is consistent whatever built it.

## Tables

A table has its parameters under their labels and is filled with one after the other. A parameter is
looked at by itself before its place in the table is, and a place that is taken is not given away.
A list that fills a table is a catalog, and the table is the catalog as far as lookups by label are
concerned. It knows nothing of the order of the list.
-/

namespace RoadWeather

/-- Why a list of parameters is no catalog. -/
inductive CatalogError where
  | duplicateLabel (label : String)
  | invalidRange (label : String) (min max : Float)
  | feedsMismatch (label : String)

def CatalogError.message : CatalogError → String
  | duplicateLabel label => s!"Duplicate parameter label: {label}"
  | invalidRange label min max =>
    s!"Invalid range for {label}: [{plainText min}, {plainText max}]"
  | feedsMismatch label => s!"{label} must feed METRo inputs if and only if it is convertible"

namespace Parameter

/-- What is wrong with a parameter by itself. -/
def fault? (p : Parameter) : Option CatalogError :=
  let rangeFault :=
    match p.validity with
    | .range min max =>
      if min.isFinite ∧ max.isFinite ∧ min ≤ max then none
      else some (.invalidRange p.label min max)
    | .codes _ => none
  let feedsFault :=
    if p.isConvertible = p.feeds.isEmpty then some (.feedsMismatch p.label) else none
  rangeFault <|> feedsFault

end Parameter

namespace Catalog

/-- The first inconsistency of a list of parameters, those with the labels `seen` having come
before. -/
def audit (seen : List String) : List Parameter → Option CatalogError
  | [] => none
  | p :: rest =>
    match p.fault? with
    | some fault => some fault
    | none =>
      if seen.contains p.label then some (.duplicateLabel p.label)
      else audit (p.label :: seen) rest

end Catalog

/-- A consistent list of parameters. -/
structure Catalog where
  parameters : List Parameter
  consistent : Catalog.audit [] parameters = none

namespace Catalog

/-- The catalog of a list of parameters, or its first inconsistency. -/
def build (parameters : List Parameter) : Except CatalogError Catalog :=
  match h : audit [] parameters with
  | none => .ok ⟨parameters, h⟩
  | some fault => .error fault

def get? (c : Catalog) (label : String) : Option Parameter :=
  c.parameters.find? (·.label == label)

def size (c : Catalog) : Nat := c.parameters.length

def labels (c : Catalog) : List String :=
  (c.parameters.map Parameter.label).mergeSort fun a b ↦ decide (a ≤ b)

/-- Whether a value is plausible for the parameter of a label. -/
def check (c : Catalog) (label : String) (value : Float) : Except InvalidValue Unit :=
  match c.get? label with
  | some p => p.check value
  | none => .error (.unknownParameter label)

/-- The input that a value of the parameter of a label becomes. -/
def convert (c : Catalog) (label : String) (tag : Tag) (value : Float) :
    Except ConversionError Float :=
  match c.get? label with
  | some p => p.convert tag value
  | none => .error (.unknownParameter label)

theorem label_of_get? {c : Catalog} {label : String} {p : Parameter}
    (h : c.get? label = some p) : p.label = label := by
  simpa using List.find?_some h

theorem mem_of_get? {c : Catalog} {label : String} {p : Parameter}
    (h : c.get? label = some p) : p ∈ c.parameters :=
  List.mem_of_find?_eq_some h

end Catalog

/-! ## Tables of parameters -/

/-- Parameters by their labels. -/
abbrev ParameterTable := Std.ExtTreeMap String Parameter

namespace ParameterTable

/-- Puts a parameter in the place of its label, which must be free. -/
def enter (t : ParameterTable) (p : Parameter) : Except CatalogError ParameterTable :=
  match p.fault? with
  | some fault => .error fault
  | none =>
    if t.contains p.label then .error (.duplicateLabel p.label) else .ok (t.insert p.label p)

/-- The table of a list of parameters, or the first inconsistency that is met in filling it. -/
def fill (parameters : List Parameter) : Except CatalogError ParameterTable :=
  parameters.foldlM enter ∅

theorem fill_concat (parameters : List Parameter) (p : Parameter) :
    fill (parameters ++ [p]) = fill parameters >>= fun t ↦ t.enter p := by
  rw [fill, List.foldlM_append, ← fill]
  simp only [List.foldlM_cons, List.foldlM_nil, bind_pure]

end ParameterTable

end RoadWeather
