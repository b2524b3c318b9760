import RoadWeather.Number.Written
import RoadWeather.Tag

/-!
# Parameters

A measured or forecasted quantity: which values of it are plausible, which inputs it can feed, and
how a plausible value becomes such an input.

Plausibility and conversion are separate questions. A conversion never asks whether the value was
plausible, and whether a parameter can feed an input is asked before its policy is looked at.
-/

namespace RoadWeather

/-- Where the values of a parameter come from. -/
inductive ParameterKind where
  | measured
  | forecasted
  deriving DecidableEq, Repr

def ParameterKind.describe : ParameterKind → String
  | measured => "Measured"
  | forecasted => "Forecasted"

/-- Which values of a parameter are plausible. -/
inductive Validity where
  /-- A closed interval. -/
  | range (min max : Float)
  /-- A set of codes, compared as numbers without tolerance. -/
  | codes (codes : List Float)

/-- How a value becomes an input. -/
inductive ConversionPolicy where
  | identity
  /-- Multiplication by a constant. -/
  | unitScale (factor : Float)
  /-- One for a value above zero, zero otherwise. -/
  | thresholdToIndicator
  /-- A table of codes and what they become; the first entry for a code counts. -/
  | categoricalRemap (table : List (Float × Float))
  /-- The quantity has no counterpart among the inputs. -/
  | notConvertible

/-- A quantity and what is known about it. -/
structure Parameter where
  label : String
  kind : ParameterKind
  validity : Validity
  policy : ConversionPolicy
  /-- The inputs that the quantity can feed. -/
  feeds : List Tag

/-- Why a value is not plausible. -/
inductive InvalidValue where
  | unknownParameter (label : String)
  | outOfRange (label : String) (value min max : Float)
  | invalidCode (label : String) (value : Float)

/-- Why a value does not become an input. -/
inductive ConversionError where
  | unknownParameter (label : String)
  | notConvertible (label : String) (tag : Tag)
  | transformationFailed (label : String) (value : Float)

def InvalidValue.message : InvalidValue → String
  | unknownParameter label => s!"Unknown parameter: {label}"
  | outOfRange label value min max =>
    s!"{plainText value} is outside [{plainText min}, {plainText max}] for {label}"
  | invalidCode label value => s!"{plainText value} is not a valid code for {label}"

def ConversionError.message : ConversionError → String
  | unknownParameter label => s!"Unknown parameter: {label}"
  | notConvertible label tag => s!"{label} cannot feed METRo {tag.describe}"
  | transformationFailed label value => s!"Failed to transform {plainText value} of {label}"

namespace ConversionPolicy

/-- Whether values become inputs at all. -/
def isConvertible : ConversionPolicy → Bool
  | notConvertible => false
  | _ => true

end ConversionPolicy

namespace Parameter

/-- Whether values of the parameter become inputs at all. -/
def isConvertible (p : Parameter) : Bool := p.policy.isConvertible

/-- Whether the parameter can feed an input. -/
def canFeed (p : Parameter) (tag : Tag) : Bool := p.feeds.contains tag

def check (p : Parameter) (value : Float) : Except InvalidValue Unit :=
  match p.validity with
  | .range min max =>
    if min ≤ value ∧ value ≤ max then .ok () else .error (.outOfRange p.label value min max)
  | .codes codes =>
    if codes.any (· == value) then .ok () else .error (.invalidCode p.label value)

/-- The input that a value becomes. -/
def convert (p : Parameter) (tag : Tag) (value : Float) : Except ConversionError Float :=
  if !p.canFeed tag then .error (.notConvertible p.label tag)
  else match p.policy with
    | .identity => .ok value
    | .unitScale factor => .ok (value * factor)
    | .thresholdToIndicator => .ok (if value > 0 then 1 else 0)
    | .categoricalRemap table =>
      match table.find? (·.1 == value) with
      | some (_, code) => .ok code
      | none => .error (.transformationFailed p.label value)
    | .notConvertible => .error (.notConvertible p.label tag)

theorem convert_of_not_canFeed {p : Parameter} {tag : Tag} (h : p.canFeed tag = false)
    (value : Float) : p.convert tag value = .error (.notConvertible p.label tag) := by
  simp [convert, h]

end Parameter

end RoadWeather
