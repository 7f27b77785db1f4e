import ProofWire.Log.Handler
import ProofWire.Log.Name

/-! Registries: loggers by name, each with the next logger above it.

A name can be taken into use after names below it. The loggers there wait for it, and it comes between them and the
loggers above. -/

namespace ProofWire.Log

/-- What is set for one logger. -/
structure Logger where
  /-- The name that its records show. -/
  title : String
  /-- Level zero leaves the choice to the loggers above. -/
  level : Nat
  handlers : List Handler
  /-- Texts given for filters, none of which can judge a record. -/
  filters : List String
  /-- The next logger above. -/
  parent : Option LoggerName

/-- A logger for which nothing is set. -/
def Logger.bare (title : String) : Logger :=
  ⟨title, 0, [], [], none⟩

/-- Loggers, the names in use in the order of their first use, and the names below one that is not in use. -/
structure Registry where
  logger : LoggerName → Logger
  known : List String
  waiting : String → List String

namespace Registry

/-- At the start the root asks for warnings, and no name is in use. -/
def initial : Registry where
  logger name :=
    { Logger.bare name.text with level := if name = .root then Severity.warning.rank else 0 }
  known := []
  waiting _ := []

/-- Changes one logger. -/
def change (registry : Registry) (name : LoggerName) (next : Logger → Logger) : Registry :=
  { registry with
    logger := fun other =>
      if other = name then next (registry.logger other) else registry.logger other }

/-- Puts one logger below another. -/
def setParent (registry : Registry) (name parent : LoggerName) : Registry :=
  registry.change name fun logger => { logger with parent := some parent }

/-- Lets a logger wait for a name. -/
def wait (registry : Registry) (name below : String) : Registry :=
  { registry with
    waiting := fun other =>
      if other = name then registry.waiting other ++ [below] else registry.waiting other }

/-- Puts a new logger below the nearest name above it that is in use, and else below the root. It waits for the
names in between. -/
def settle (registry : Registry) (name : String) : List String → Registry
  | [] => registry.setParent (.named name) .root
  | above :: rest =>
    if registry.known.contains above then registry.setParent (.named name) (.named above)
    else (registry.wait above name).settle name rest

/-- A new logger comes between those that wait for it and their parents, except where the title of a parent starts
with its name. One that waits and has no parent ends this. -/
def adopt (registry : Registry) (name : String) : List String → Registry × Except Failure Unit
  | [] => (registry, .ok ())
  | below :: rest =>
    match (registry.logger (.named below)).parent with
    | none => (registry, .error .noSuchOperation)
    | some parent =>
      if name.toList.isPrefixOf (registry.logger parent).title.toList then registry.adopt name rest
      else
        ((registry.setParent (.named name) parent).setParent (.named below) (.named name)).adopt name rest

/-- Takes a name into use. -/
def use (registry : Registry) : LoggerName → Registry × Except Failure Unit
  | .root => (registry, .ok ())
  | .named name =>
    if registry.known.contains name then (registry, .ok ())
    else
      let fresh := { registry with known := registry.known ++ [name] }
      match fresh.adopt name (registry.waiting name) with
      | (registry, .ok ()) => (registry.settle name (LoggerName.above name), .ok ())
      | (registry, .error failure) => (registry, .error failure)

/-- A logger and those above it, as many as the fuel allows. -/
def climb (registry : Registry) : Nat → LoggerName → List LoggerName
  | 0, _ => []
  | fuel + 1, name =>
    match (registry.logger name).parent with
    | some parent => name :: registry.climb fuel parent
    | none => [name]

/-- A logger and those above it; there are no more of them than names in use and the root. -/
def lineage (registry : Registry) (name : LoggerName) : List LoggerName :=
  registry.climb (registry.known.length + 1) name

/-- The level that counts for a logger: the nearest that is set. -/
def effectiveLevel (registry : Registry) (name : LoggerName) : Nat :=
  (((registry.lineage name).map fun above => (registry.logger above).level).find? (· != 0)).getD 0

/-- The handlers that a record of a logger passes. -/
def handlers (registry : Registry) (name : LoggerName) : List Handler :=
  (registry.lineage name).flatMap fun above => (registry.logger above).handlers

/-- What comes of a record of a logger. -/
def publish (registry : Registry) (name : LoggerName) (record : Record) :
    Output × Except Failure Unit :=
  match registry.handlers name with
  | [] => (lastResort record, .ok ())
  | handlers => deliver record handlers

end Registry

end ProofWire.Log
