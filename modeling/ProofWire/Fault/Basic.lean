import ProofWire.Value.Printer

/-! Faults: classified encoding errors with a context that locates them. -/

namespace ProofWire

/-- The four groups of faults, and the group of a fault that belongs to none. -/
inductive Category where
  | parse
  | range
  | format
  | nonAffine
  | unclassified
deriving DecidableEq

/-- The name of a category. -/
def Category.name : Category → String
  | .parse => "ParseError"
  | .range => "RangeError"
  | .format => "FormatError"
  | .nonAffine => "NonAffinePoint"
  | .unclassified => "EncodingError"

/-- The kinds of faults; each category is also a kind of its own. -/
inductive FaultKind where
  | category (category : Category)
  | nonIntegerLiteral
  | malformedLiteral
  | negativeLiteral
  | unsupportedLiteralType
  | fieldElementOutOfRange
  | coordinateOutOfRange
  | fieldWidthOverflow
  | nonUnitDenominator
  | malformedExtensionField
  | notAnArray
  | invalidPointFormat
  | missingField
  | invalidLength
deriving DecidableEq

namespace FaultKind

/-- The name of a kind. -/
def name : FaultKind → String
  | .category group => group.name
  | .nonIntegerLiteral => "NonIntegerLiteral"
  | .malformedLiteral => "MalformedLiteral"
  | .negativeLiteral => "NegativeLiteral"
  | .unsupportedLiteralType => "UnsupportedLiteralType"
  | .fieldElementOutOfRange => "FieldElementOutOfRange"
  | .coordinateOutOfRange => "CoordinateOutOfRange"
  | .fieldWidthOverflow => "FieldWidthOverflow"
  | .nonUnitDenominator => "NonUnitDenominator"
  | .malformedExtensionField => "MalformedExtensionField"
  | .notAnArray => "NotAnArray"
  | .invalidPointFormat => "InvalidPointFormat"
  | .missingField => "MissingField"
  | .invalidLength => "InvalidLength"

/-- The category of a kind. -/
def categoryOf : FaultKind → Category
  | .category group => group
  | .nonIntegerLiteral | .malformedLiteral | .negativeLiteral | .unsupportedLiteralType => .parse
  | .fieldElementOutOfRange | .coordinateOutOfRange | .fieldWidthOverflow => .range
  | .nonUnitDenominator | .malformedExtensionField | .notAnArray | .invalidPointFormat
  | .missingField | .invalidLength => .format

end FaultKind

/-- What is known about a fault: values under keys, each key at most once. -/
abbrev Context := List (String × Value)

namespace Context

/-- A key that is already known keeps its value. -/
def mention (context : Context) (entry : String × Value) : Context :=
  if (context.lookup entry.1).isSome then context else context ++ [entry]

/-- Mentions in order. -/
def mentionAll (context entries : Context) : Context :=
  entries.foldl mention context

/-- The value under a key, null counting as absent. -/
def given? (context : Context) (key : String) : Option Value :=
  match context.lookup key with
  | some .null => none
  | found => found

end Context

/-- A value other than null. -/
def Value.isGiven : Value → Bool
  | .null => false
  | _ => true

/-- A classified error. -/
structure Fault where
  kind : FaultKind
  message : String
  context : Context

namespace Fault

/-- A new fault knows the given values that are not null. -/
def ofContext (kind : FaultKind) (message : String) (given : Context) : Fault :=
  ⟨kind, message, given.filter (·.2.isGiven)⟩

/-- More context, which never changes what is known; here a null stays and blocks later values. -/
def mention (fault : Fault) (entries : Context) : Fault :=
  { fault with context := fault.context.mentionAll entries }

/-- The label with the index in brackets when both are given, else the label, else empty text; nothing when it
holds a number too long to write. -/
def location? (fault : Fault) : Option Value :=
  match fault.context.given? "label", fault.context.given? "index" with
  | some label, some index => do
    let label ← label.shown?
    let index ← index.shown?
    return .text (label ++ "[" ++ index ++ "]")
  | some label, none => some (if label.isPresent then label else .text "")
  | none, _ => some (.text "")

/-- The message behind the location, if there is one. -/
def describe? (fault : Fault) : Option String := do
  let location ← fault.location?
  if location.isPresent then
    let place ← location.shown?
    return place ++ ": " ++ fault.message
  else return fault.message

end Fault

end ProofWire
