import ProofWire.Failure.Basic
import ProofWire.Json.Token

/-! Reading JSON: tokens build one value, and the first token out of place is the fault. -/

namespace ProofWire.Json

/-- An array or an object that is not closed yet; the newest items come first. -/
inductive Frame where
  | array (items : List Value)
  | object (entries : List (String × Value)) (key : String)

/-- What may come next. -/
inductive Expected where
  | value
  | firstItem
  | firstName
  | name
  | colon
  | separator
  | nothing (result : Value)

/-- The open frames, the innermost first, and what may come next. -/
structure State where
  frames : List Frame
  expected : Expected

/-- Why a token is refused: a problem at a place, a number of too many digits, or a depth that leaves no room for what
has to be done there. -/
inductive Trouble where
  | misplaced (problem : JsonProblem) (position : Nat)
  | longNumber (digits : Nat)
  | tooDeep (task : String)

/-- A finished value takes its place in the innermost frame. -/
def finish (value : Value) : List Frame → State
  | [] => ⟨[], .nothing value⟩
  | .array items :: outer => ⟨.array (value :: items) :: outer, .separator⟩
  | .object entries key :: outer => ⟨.object (Value.insertEntry entries key value) key :: outer, .separator⟩

/-- A step into one more level, unless as many are open as there can be. -/
def descend (depth : Nat) (task : String) (frames : List Frame) (next : State) : Except Trouble State :=
  if frames.length < depth then .ok next else .error (.tooDeep task)

/-- The levels that it takes to tell of a problem from inside the frames. -/
def faultLevels : Nat := 3

/-- Tells of a problem, for which there has to be room below the innermost frame. -/
def complain (depth : Nat) (frames : List Frame) (problem : JsonProblem) (position : Nat) : Trouble :=
  if frames.length + faultLevels ≤ depth then .misplaced problem position else .tooDeep ""

/-- A token where a value has to be. That there is none is told outside of all frames. -/
def startValue (depth : Nat) (frames : List Frame) (lexeme : Lexeme) : Except Trouble State :=
  match lexeme.token with
  | .scalar value => .ok (finish value frames)
  | .constant value => descend depth "" frames (finish (.float value) frames)
  | .text content => .ok (finish (.text content) frames)
  | .beginArray =>
    descend depth " while decoding a JSON array from a unicode string" frames ⟨.array [] :: frames, .firstItem⟩
  | .beginObject =>
    descend depth " while decoding a JSON object from a unicode string" frames ⟨.object [] "" :: frames, .firstName⟩
  | .longNumber digits => .error (.longNumber digits)
  | .broken problem position => .error (complain depth frames problem position)
  | _ => .error (.misplaced .value lexeme.position)

/-- A token where the name of an entry has to be. -/
def startName (depth : Nat) (frames : List Frame) (lexeme : Lexeme) : Except Trouble State :=
  match lexeme.token, frames with
  | .text name, .object entries _ :: outer => .ok ⟨.object entries name :: outer, .colon⟩
  | .broken problem position, frames => .error (complain depth frames problem position)
  | _, frames => .error (complain depth frames .propertyName lexeme.position)

/-- A token after a value inside a frame. -/
def afterValue (depth : Nat) (frames : List Frame) (lexeme : Lexeme) : Except Trouble State :=
  match lexeme.token, frames with
  | .comma, .array _ :: _ => .ok ⟨frames, .value⟩
  | .comma, .object _ _ :: _ => .ok ⟨frames, .name⟩
  | .endArray, .array items :: outer => .ok (finish (.list items.reverse) outer)
  | .endObject, .object entries _ :: outer => .ok (finish (.object entries) outer)
  | _, frames => .error (complain depth frames .comma lexeme.position)

/-- Takes the next token. -/
def step (depth : Nat) (state : State) (lexeme : Lexeme) : Except Trouble State :=
  match state.expected, lexeme.token, state.frames with
  | .value, _, frames => startValue depth frames lexeme
  | .firstItem, .endArray, .array _ :: outer => .ok (finish (.list []) outer)
  | .firstItem, _, frames => startValue depth frames lexeme
  | .firstName, .endObject, .object _ _ :: outer => .ok (finish (.object []) outer)
  | .firstName, _, frames => startName depth frames lexeme
  | .name, _, frames => startName depth frames lexeme
  | .colon, .colon, frames => .ok ⟨frames, .value⟩
  | .colon, _, frames => .error (complain depth frames .colon lexeme.position)
  | .separator, _, frames => afterValue depth frames lexeme
  | .nothing _, _, _ => .error (.misplaced .extra lexeme.position)

/-- The value of a finished text, or what is missing at its end. -/
def conclude (depth length : Nat) (state : State) : Except Trouble Value :=
  match state.expected with
  | .nothing result => .ok result
  | .value | .firstItem => .error (.misplaced .value length)
  | .firstName | .name => .error (complain depth state.frames .propertyName length)
  | .colon => .error (complain depth state.frames .colon length)
  | .separator => .error (complain depth state.frames .comma length)

/-- The value of a text without a byte order mark, in which no more frames are open at once than the depth allows. -/
def parse (depth : Nat) (text : List Char) : Except Trouble Value := do
  let state ← (tokens text).foldlM (step depth) ⟨[], .value⟩
  conclude depth text.length state

/-- The failure of a refused token. -/
def Trouble.failure (text : List Char) : Trouble → Failure
  | .misplaced problem position => .notJson (JsonFault.locate problem text position)
  | .longNumber digits => .digits (some digits)
  | .tooDeep task => .tooDeep task

/-- The value of a JSON text, read to some depth. -/
def read (depth : Nat) (text : List Char) : Except Failure Value :=
  if text.head? = some (Char.ofNat 0xfeff) then
    .error (.notJson (JsonFault.locate .byteOrderMark text 0))
  else
    match parse depth text with
    | .ok value => .ok value
    | .error trouble => .error (trouble.failure text)

end ProofWire.Json
