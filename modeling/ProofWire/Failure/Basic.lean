import ProofWire.Fault.Cause
import ProofWire.Json.Fault
import ProofWire.Text.Utf8

/-! Failures: every way in which an operation can end without a result. -/

namespace ProofWire

/-- Why the system refuses a path: its number for the error, and its wording. -/
structure Refusal where
  number : Nat
  wording : String
deriving DecidableEq

namespace Refusal

/-- Nothing is there. -/
def notFound : Refusal :=
  ⟨2, "No such file or directory"⟩

/-- There is something that may not be opened or looked at. -/
def denied : Refusal :=
  ⟨13, "Permission denied"⟩

/-- A name on the way is that of a file. -/
def notDirectory : Refusal :=
  ⟨20, "Not a directory"⟩

/-- A directory does not open as a file. -/
def isDirectory : Refusal :=
  ⟨21, "Is a directory"⟩

/-- A name, or the path, has too many bytes. -/
def nameTooLong : Refusal :=
  ⟨36, "File name too long"⟩

/-- The number and the wording of a refusal. -/
def message (refusal : Refusal) : String :=
  s!"[Errno {refusal.number}] {refusal.wording}"

/-- Errors by which a path that is looked up leads nowhere: nothing there, no open descriptor, a file on the way, or
links without end. -/
def isAbsence (refusal : Refusal) : Bool :=
  [2, 9, 20, 40].contains refusal.number

end Refusal

/-- The end of an operation without a result. -/
inductive Failure where
  /-- A classified fault of the input. -/
  | classified (fault : Fault)
  /-- A number has more digits than are read or written; a numeral that was read knows how many. -/
  | digits (count : Option Nat)
  /-- A digest algorithm has no such name. -/
  | unsupportedAlgorithm (name : String)
  /-- Settings name unknown digest algorithms. -/
  | unsupportedAlgorithms (path : String) (names : List String)
  /-- A logger has no such level. -/
  | unknownLevel (name : String)
  /-- A record format shows no field. -/
  | invalidFormat (format : String)
  /-- An entry of a section given as a row is no pair. -/
  | entryLength (index length : Nat)
  /-- A path holds the null character. -/
  | nullInPath
  /-- A file holds no text. -/
  | notText (fault : Text.Utf8Fault)
  /-- A text is no JSON. -/
  | notJson (fault : JsonFault)
  /-- A text holds more open arrays and objects at once than leave room for a task. -/
  | tooDeep (task : String)
  /-- A path does not open. -/
  | refused (refusal : Refusal) (path : String)
  /-- A value has a type on which the operation is not defined. -/
  | wrongType
  /-- A value lacks the operation asked of it. -/
  | noSuchOperation
  /-- A key is absent. -/
  | missingKey
  /-- A negative number has no unsigned bytes. -/
  | negativeWord

/-- The fault of a cause; a message that cannot be written turns into the failure to write it. -/
def Cause.raise (cause : Cause) : Failure :=
  match cause.message? with
  | some message => .classified ⟨cause.kind, message, cause.context⟩
  | none => .digits none

namespace Failure

/-- The advice that ends a message about too many digits. -/
def digitAdvice : String :=
  "use sys.set_int_max_str_digits() to increase the limit"

/-- The byte of a two-digit code. -/
def byteCode (byte : UInt8) : String :=
  String.ofList (Text.hexDigits 2 byte.toNat)

/-- The wording of bytes that are no text. -/
def utf8Message (fault : Text.Utf8Fault) : String :=
  match fault.bytes with
  | [byte] =>
    s!"'utf-8' codec can't decode byte 0x{byteCode byte} in position {fault.position}: " ++
      fault.problem.message
  | bytes =>
    s!"'utf-8' codec can't decode bytes in position {fault.position}-" ++
      s!"{fault.position + bytes.length - 1}: " ++ fault.problem.message

/-- The wording of a failure, empty where it carries no text of its own. -/
def message : Failure → String
  | .classified fault => fault.describe?.getD ""
  | .digits none =>
    s!"Exceeds the limit ({Text.maxDigits} digits) for integer string conversion; " ++ digitAdvice
  | .digits (some count) =>
    s!"Exceeds the limit ({Text.maxDigits} digits) for integer string conversion: " ++
      s!"value has {count} digits; " ++ digitAdvice
  | .unsupportedAlgorithm name => s!"unsupported hash algorithm: {name}"
  | .unsupportedAlgorithms path names =>
    s!"unsupported hash algorithm(s) in {path}: " ++ ", ".intercalate names
  | .unknownLevel name => s!"Unknown level: {Text.quoted name}"
  | .invalidFormat format => s!"Invalid format '{format}' for '%' style"
  | .entryLength index length =>
    s!"dictionary update sequence element #{index} has length {length}; 2 is required"
  | .nullInPath => "embedded null byte"
  | .notText fault => utf8Message fault
  | .notJson fault => fault.message
  | .tooDeep task => "maximum recursion depth exceeded" ++ task
  | .refused refusal path => s!"{refusal.message}: {Text.quoted path}"
  | .wrongType | .noSuchOperation | .missingKey | .negativeWord => ""

/-- An unfit value was noticed and refused; the other failures come from a step that took its input for granted. -/
def isRejection : Failure → Bool
  | .tooDeep _ | .refused _ _ | .wrongType | .noSuchOperation | .missingKey | .negativeWord => false
  | _ => true

/-- More context for a fault; the other failures have none. -/
def mention (failure : Failure) (entries : Context) : Failure :=
  match failure with
  | .classified fault => .classified (fault.mention entries)
  | other => other

end Failure

/-- Locates the fault of a computation that ends in one. -/
def located (entries : Context) : Except Failure α → Except Failure α
  | .ok value => .ok value
  | .error failure => .error (failure.mention entries)

end ProofWire
