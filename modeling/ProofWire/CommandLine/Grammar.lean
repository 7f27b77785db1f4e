import ProofWire.Text.Quoted

/-! Grammars of command lines: options, positional arguments, and misuses of them. -/

namespace ProofWire.CommandLine

/-- An option with a long name; it takes a value or is a flag. -/
structure OptionRule where
  name : String
  takesValue : Bool
  isRequired : Bool
deriving DecidableEq

/-- A positional argument; without choices any text will do. -/
structure PositionalRule where
  name : String
  choices : List String
deriving DecidableEq

/-- The options and the positional arguments of a command; every command can be asked for help, too. -/
structure Grammar where
  options : List OptionRule
  positionals : List PositionalRule

/-- An edition of the reader of command lines. -/
structure Edition where
  /-- The word `--` can be the value of an option; else it counts as a terminator there, too, and leaves no value. -/
  keepsDashes : Bool
  /-- Letters behind `-h` that ask for nothing are passed over; else they are a value without need. -/
  passesLetters : Bool
deriving DecidableEq

/-- What is wrong with a use of a command. -/
inductive Misuse where
  /-- A shortened option could be any of several. -/
  | ambiguous (text : String) (names : List String)
  /-- An option lacks its value. -/
  | missingValue (option : String)
  /-- A flag has a value. -/
  | needlessValue (option value : String)
  /-- A positional argument is none of its choices. -/
  | badChoice (argument text : String) (choices : List String)
  /-- Required arguments are missing. -/
  | missing (names : List String)
  /-- Arguments are left over. -/
  | unrecognized (texts : List String)
  /-- Of two options that belong together one is given. -/
  | unpaired (first second : String)
deriving DecidableEq

/-- The wording of a misuse. -/
def Misuse.message : Misuse → String
  | .ambiguous text names => s!"ambiguous option: {text} could match " ++ ", ".intercalate names
  | .missingValue option => s!"argument {option}: expected one argument"
  | .needlessValue option value =>
    s!"argument {option}: ignored explicit argument {Text.quoted value}"
  | .badChoice argument text choices =>
    s!"argument {argument}: invalid choice: {Text.quoted text} (choose from " ++
      ", ".intercalate (choices.map Text.quoted) ++ ")"
  | .missing names => "the following arguments are required: " ++ ", ".intercalate names
  | .unrecognized texts => "unrecognized arguments: " ++ " ".intercalate texts
  | .unpaired first second => s!"{first} and {second} must be given together"

/-- Why a command line does not lead to a run. -/
inductive Stop where
  | help
  | misuse (problem : Misuse)

end ProofWire.CommandLine
