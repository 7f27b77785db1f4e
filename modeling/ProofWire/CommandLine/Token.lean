import ProofWire.CommandLine.Grammar
import ProofWire.Text.Wordlike

/-! Tokens of command lines: what each argument can be by its own text. -/

namespace ProofWire.CommandLine

/-- What an argument is. -/
inductive Token where
  /-- A value, or a positional argument. -/
  | word (text : String)
  /-- The two dashes after which all arguments are words. -/
  | terminator
  /-- An option that takes a value, which its text may hold. -/
  | option (rule : OptionRule) (value : Option String)
  /-- A flag, with the value that its text may hold. -/
  | flag (rule : OptionRule) (value : Option String)
  /-- A request for help, with the value that its text may hold. -/
  | help (value : Option String)
  /-- An option that no command has. -/
  | unknown (text : String)

/-- What the long name of an option means. -/
inductive Meaning where
  | help
  | rule (content : OptionRule)

/-- The name under which misuses of help are told. -/
def helpLabel : String := "-h/--help"

/-- The long names of a grammar in order. -/
def Grammar.longNames (grammar : Grammar) : List (String × Meaning) :=
  ("--help", .help) :: grammar.options.map fun content => (content.name, .rule content)

/-- The token of a name and the value that follows it. -/
def Meaning.token (value : Option String) : Meaning → Token
  | .help => .help value
  | .rule content => if content.takesValue then .option content value else .flag content value

/-- The value that letters after `-h` carry without need: each further `h` asks for help again, and the first other
letter starts the value. -/
def clusterValue? : List Char → Option String
  | [] => none
  | 'h' :: rest => clusterValue? rest
  | rest => some (String.ofList rest)

/-- The value where letters are passed over: what follows an equals sign, or starts with a dash. -/
def explicitValue? : List Char → Option String
  | '=' :: rest => some (String.ofList rest)
  | 'h' :: rest => explicitValue? rest
  | '-' :: rest => some (String.ofList ('-' :: rest))
  | _ => none

/-- The token of a request for help by letter. An equals sign can come before the value, which may then be empty. -/
def clusterToken (edition : Edition) (text : List Char) : Token :=
  if edition.passesLetters then .help (explicitValue? text)
  else
    match text with
    | ['='] => .help (some "")
    | '=' :: rest => .help (clusterValue? rest)
    | rest => .help (clusterValue? rest)

/-- The text before an equals sign, and the value after it. -/
def splitValue (text : List Char) : List Char × Option String :=
  match text.dropWhile (· != '=') with
  | _ :: value => (text.takeWhile (· != '='), some (String.ofList value))
  | [] => (text, none)

/-- A negative number in digits of any script, with or without a decimal point; one line end may follow. -/
def isNegativeNumber : List Char → Bool
  | '-' :: text =>
    let body := if text.getLast? = some '\n' then text.dropLast else text
    let tail := body.dropWhile Text.isAnyDigit
    match tail with
    | [] => !body.isEmpty
    | '.' :: digits => !digits.isEmpty && digits.all Text.isAnyDigit
    | _ => false
  | _ => false

/-- An argument that is no option of the grammar but starts with a dash: negative numbers and texts with a space are
words. -/
def unknownToken (text : List Char) : Token :=
  if isNegativeNumber text || text.contains ' ' then .word (String.ofList text)
  else .unknown (String.ofList text)

/-- The token of an argument that starts with two dashes; a long name can be cut short where its rest is clear. -/
def longToken (grammar : Grammar) (text : List Char) : Except Misuse Token :=
  let (name, value) := splitValue text
  match grammar.longNames.lookup (String.ofList text), grammar.longNames.lookup (String.ofList name) with
  | some meaning, _ => .ok (meaning.token none)
  | none, some meaning => .ok (meaning.token value)
  | none, none =>
    match grammar.longNames.filter fun entry => name.isPrefixOf entry.1.toList with
    | [] => .ok (unknownToken text)
    | [entry] => .ok (entry.2.token value)
    | entries => .error (.ambiguous (String.ofList text) (entries.map Prod.fst))

/-- The token of an argument before any terminator. -/
def Token.ofText (edition : Edition) (grammar : Grammar) (text : String) : Except Misuse Token :=
  match text.toList with
  | '-' :: '-' :: rest => longToken grammar ('-' :: '-' :: rest)
  | '-' :: 'h' :: rest => .ok (clusterToken edition rest)
  | '-' :: c :: rest => .ok (unknownToken ('-' :: c :: rest))
  | _ => .ok (.word text)

/-- The tokens of a command line. -/
def tokens (edition : Edition) (grammar : Grammar) : List String → Except Misuse (List Token)
  | [] => .ok []
  | text :: rest =>
    if text = "--" then .ok (.terminator :: rest.map .word)
    else do
      let first ← Token.ofText edition grammar text
      let others ← tokens edition grammar rest
      return first :: others

end ProofWire.CommandLine
