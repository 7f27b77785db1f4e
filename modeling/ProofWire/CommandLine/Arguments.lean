import ProofWire.CommandLine.Token

/-! Arguments: what a command line gives for the options and the positional arguments of a grammar. -/

namespace ProofWire.CommandLine

/-- What is given so far; the newest values come first. -/
structure Arguments where
  /-- In some editions an option can be given without a text. -/
  values : List (String × Option String)
  flags : List String
  /-- A positional argument can be given without a text. -/
  positionals : List (String × Option String)
  /-- Positional arguments that are still to come. -/
  pending : List PositionalRule
  /-- Arguments that have no place. -/
  extras : List String

namespace Arguments

/-- Nothing is given. -/
def start (grammar : Grammar) : Arguments :=
  ⟨[], [], [], grammar.positionals, []⟩

/-- Leaves an argument over. -/
def leave (arguments : Arguments) (texts : List String) : Arguments :=
  { arguments with extras := arguments.extras ++ texts }

/-- Gives an option its value. Where the word `--` counts as a terminator, it leaves the option without text. -/
def give (edition : Edition) (arguments : Arguments) (rule : OptionRule) (text : String) : Arguments :=
  let value := if text = "--" && !edition.keepsDashes then none else some text
  { arguments with values := (rule.name, value) :: arguments.values }

/-- Sets a flag. -/
def raise (arguments : Arguments) (rule : OptionRule) : Arguments :=
  { arguments with flags := rule.name :: arguments.flags }

/-- Places a word, perhaps beside a terminator, at the next positional argument. Without another terminator the word
`--` counts as one and leaves the argument without text. -/
def place (arguments : Arguments) (text : String) (beside : List String) : Except Misuse Arguments :=
  match arguments.pending with
  | [] => .ok (arguments.leave beside)
  | rule :: pending =>
    if text = "--" && beside.length = 1 then
      .ok { arguments with positionals := (rule.name, none) :: arguments.positionals, pending := pending }
    else if rule.choices.isEmpty || rule.choices.contains text then
      .ok { arguments with positionals := (rule.name, some text) :: arguments.positionals, pending := pending }
    else .error (.badChoice rule.name text rule.choices)

/-- Takes the tokens in order. -/
def take (edition : Edition) (arguments : Arguments) : List Token → Except Stop Arguments
  | [] => .ok arguments
  | .help none :: _ => .error .help
  | .help (some value) :: _ => .error (.misuse (.needlessValue helpLabel value))
  | .unknown text :: rest => take edition (arguments.leave [text]) rest
  | .flag rule none :: rest => take edition (arguments.raise rule) rest
  | .flag rule (some value) :: _ => .error (.misuse (.needlessValue rule.name value))
  | .option rule (some value) :: rest => take edition (give edition arguments rule value) rest
  | .option rule none :: .word text :: rest => take edition (give edition arguments rule text) rest
  | .option rule none :: _ => .error (.misuse (.missingValue rule.name))
  | .terminator :: .word text :: rest =>
    match arguments.place text ["--", text] with
    | .ok arguments => take edition arguments rest
    | .error problem => .error (.misuse problem)
  | .word text :: .terminator :: rest =>
    match arguments.place text [text, "--"] with
    | .ok arguments => take edition arguments rest
    | .error problem => .error (.misuse problem)
  | .terminator :: rest => take edition (arguments.leave ["--"]) rest
  | .word text :: rest =>
    match arguments.place text [text] with
    | .ok arguments => take edition arguments rest
    | .error problem => .error (.misuse problem)

/-- An option is given, perhaps without a text. -/
def isGiven (arguments : Arguments) (name : String) : Bool :=
  (arguments.values.lookup name).isSome

/-- The text of an option. -/
def text? (arguments : Arguments) (name : String) : Option String :=
  (arguments.values.lookup name).join

/-- The names of required arguments that are not given. -/
def missing (grammar : Grammar) (arguments : Arguments) : List String :=
  ((grammar.options.filter fun rule => rule.isRequired && !arguments.isGiven rule.name).map
    OptionRule.name) ++ arguments.pending.map PositionalRule.name

/-- The arguments of a command line that has all it needs and nothing else. -/
def ofTexts (edition : Edition) (grammar : Grammar) (texts : List String) : Except Stop Arguments :=
  match tokens edition grammar texts with
  | .error problem => .error (.misuse problem)
  | .ok found =>
    match take edition (start grammar) found with
    | .error stop => .error stop
    | .ok arguments =>
      let missing := arguments.missing grammar
      if !missing.isEmpty then .error (.misuse (.missing missing))
      else if !arguments.extras.isEmpty then .error (.misuse (.unrecognized arguments.extras))
      else .ok arguments

end Arguments

end ProofWire.CommandLine
