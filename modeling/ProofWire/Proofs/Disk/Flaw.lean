import ProofWire.Disk.Basic
import ProofWire.Proofs.Outcome

/-! Files that cannot be read: those that do not open or hold no JSON, and the flaws that no reader expects. -/

namespace ProofWire

namespace Json

namespace Token

/-- Tokens that the reader of scalars makes. -/
def isScalar : Token → Bool
  | .scalar _ | .longNumber _ => true
  | _ => false

/-- The token is a number that is too long. -/
def isLong : Token → Bool
  | .longNumber _ => true
  | _ => false

/-- The token opens an array or an object. -/
def opens : Token → Bool
  | .beginArray | .beginObject => true
  | _ => false

end Token

/-- How many arrays and objects a text opens. -/
def openings (text : List Char) : Nat :=
  (tokens text).countP fun lexeme => lexeme.token.opens

/-- A number that is too long has more digits than are read. -/
theorem number?_longNumber {negative : Bool} {text rest : List Char} {digits : Nat}
    (read : number? negative text = some (.longNumber digits, rest)) : Text.maxDigits < digits := by
  simp only [number?] at read
  split at read
  · cases read
  · split at read
    · -- A whole number is counted before it is read.
      split at read
      · rename_i long
        cases read
        exact long
      · cases read
    · cases read

/-- No other scalar is too long. -/
theorem scalar?_longNumber {text rest : List Char} {digits : Nat}
    (read : scalar? text = some (.longNumber digits, rest)) : Text.maxDigits < digits := by
  -- No word stands for a long number, so that only a number is left.
  unfold scalar? at read
  split at read
  · rename_i word token found
    cases read
    have short : (words.all fun word => !word.2.isLong) = true := by decide
    have simple := List.all_eq_true.mp short _ (List.mem_of_find?_eq_some found)
    cases simple
  · split at read <;> exact number?_longNumber read

/-- Every scalar among the tokens of a text is read as one somewhere. -/
theorem exists_scalar?_of_mem_tokensFrom {lexeme : Lexeme} (simple : lexeme.token.isScalar = true) :
    ∀ {fuel position : Nat} {text : List Char}, lexeme ∈ tokensFrom fuel position text →
      ∃ source rest, scalar? source = some (lexeme.token, rest) := by
  -- The scanner goes on behind each token, so that the induction is on its fuel.
  intro fuel
  induction fuel with
  | zero =>
    intro position text member
    cases member
  | succ fuel ih =>
    intro position text member
    cases text with
    | nil => cases member
    | cons c rest =>
      rw [tokensFrom] at member
      -- The first token is a sign, a string, junk or a scalar, and only the last is of use here.
      split at member
      · exact ih member
      · split at member
        · rename_i token sign
          rcases List.mem_cons.mp member with rfl | later
          · unfold punctuation? at sign
            split at sign <;> cases sign <;> cases simple
          · exact ih later
        · split at member
          · split at member
            · rw [List.mem_singleton.mp member] at simple
              cases simple
            · rcases List.mem_cons.mp member with rfl | later
              · cases simple
              · exact ih later
          · split at member
            · rw [List.mem_singleton.mp member] at simple
              cases simple
            · rename_i token after scalar
              rcases List.mem_cons.mp member with rfl | later
              · exact ⟨_, _, scalar⟩
              · exact ih later

/-- Every long number among the tokens of a text has more digits than are read. -/
theorem maxDigits_lt_of_mem_tokens {lexeme : Lexeme} {digits : Nat} {text : List Char}
    (long : lexeme.token = .longNumber digits) (member : lexeme ∈ tokens text) : Text.maxDigits < digits := by
  -- A number is one token of the scanner, which takes it for long only beyond the bound.
  have simple : lexeme.token.isScalar = true := by rw [long]; rfl
  obtain ⟨source, rest, read⟩ := exists_scalar?_of_mem_tokensFrom simple member
  rw [long] at read
  exact scalar?_longNumber read

variable {depth : Nat}

/-- Why a token is refused with some frames open: a problem, a number that is too long, or frames that leave too little
room. -/
inductive Stops (depth : Nat) (frames : List Frame) (token : Token) : Trouble → Prop where
  | misplaced (problem : JsonProblem) (position : Nat) : Stops depth frames token (.misplaced problem position)
  | longNumber {digits : Nat} (found : token = .longNumber digits) : Stops depth frames token (.longNumber digits)
  | tooDeep (task : String) (deep : depth < frames.length + faultLevels) : Stops depth frames token (.tooDeep task)

variable {frames : List Frame} {lexeme : Lexeme} {trouble : Trouble}

/-- A problem is told unless there is too little room for it. -/
theorem stops_complain (token : Token) (problem : JsonProblem) (position : Nat) :
    Stops depth frames token (complain depth frames problem position) := by
  -- There has to be room for the parser to fail in its own words.
  unfold complain
  split
  · exact .misplaced problem position
  · exact .tooDeep "" (by omega)

/-- One more level is refused where too many are open. -/
theorem stops_of_descend {task : String} {next : State} (token : Token)
    (stopped : descend depth task frames next = .error trouble) : Stops depth frames token trouble := by
  -- The room is used up by the levels that are open, give or take those a fault needs.
  unfold descend at stopped
  split at stopped
  · cases stopped
  · cases stopped
    exact .tooDeep task (by rw [faultLevels]; omega)

/-- Why a token is no value. -/
theorem stops_of_startValue (stopped : startValue depth frames lexeme = .error trouble) :
    Stops depth frames lexeme.token trouble := by
  -- Only here is there a place for a number.
  unfold startValue at stopped
  split at stopped
  case h_1 | h_3 => cases stopped
  case h_2 | h_4 | h_5 => exact stops_of_descend _ stopped
  case h_6 found =>
    cases stopped
    exact .longNumber found
  case h_7 =>
    cases stopped
    exact stops_complain _ _ _
  case h_8 =>
    cases stopped
    exact .misplaced _ _

/-- Why a token is no name. -/
theorem stops_of_startName (stopped : startName depth frames lexeme = .error trouble) :
    Stops depth frames lexeme.token trouble := by
  unfold startName at stopped
  split at stopped <;> cases stopped <;> exact stops_complain _ _ _

/-- Why a token does not go on after a value. -/
theorem stops_of_afterValue (stopped : afterValue depth frames lexeme = .error trouble) :
    Stops depth frames lexeme.token trouble := by
  -- Only a comma or a sign that closes the frame goes on.
  unfold afterValue at stopped
  split at stopped <;> cases stopped
  exact stops_complain _ _ _

/-- Why a token is refused. -/
theorem stops_of_step {state : State} (stopped : step depth state lexeme = .error trouble) :
    Stops depth state.frames lexeme.token trouble := by
  -- What is expected decides who takes the token.
  unfold step at stopped
  split at stopped
  case h_1 | h_3 => exact stops_of_startValue stopped
  case h_5 | h_6 => exact stops_of_startName stopped
  case h_9 => exact stops_of_afterValue stopped
  case h_8 =>
    cases stopped
    exact stops_complain _ _ _
  case h_10 =>
    cases stopped
    exact .misplaced _ _
  case h_2 | h_4 | h_7 => cases stopped

/-- Why a text does not end here. -/
theorem stops_of_conclude {state : State} {length : Nat} (token : Token)
    (stopped : conclude depth length state = .error trouble) : Stops depth state.frames token trouble := by
  -- A text that is over within a frame or before a value is at fault there.
  unfold conclude at stopped
  split at stopped
  case h_1 => cases stopped
  case h_2 | h_3 =>
    cases stopped
    exact .misplaced _ _
  all_goals
    cases stopped
    exact stops_complain _ _ _

/-- A finished value opens nothing. -/
@[simp] theorem length_frames_finish (value : Value) (frames : List Frame) :
    (finish value frames).frames.length = frames.length := by
  unfold finish
  split <;> rfl

/-- One more level leads to the state that was meant. -/
theorem descend_eq_ok {task : String} {after next : State} (descended : descend depth task frames after = .ok next) :
    after = next := by
  -- Descending checks the room and does nothing else.
  unfold descend at descended
  split at descended
  · exact Except.ok.inj descended
  · cases descended

/-- A value opens a frame only if its token does. -/
theorem length_frames_of_startValue {next : State} (stepped : startValue depth frames lexeme = .ok next) :
    next.frames.length ≤ frames.length + if lexeme.token.opens then 1 else 0 := by
  -- Scalars and empty rows finish at once, which opens nothing.
  unfold startValue at stepped
  split at stepped
  case h_1 | h_3 =>
    cases stepped
    rw [length_frames_finish]
    exact Nat.le_add_right _ _
  case h_2 =>
    rw [← descend_eq_ok stepped, length_frames_finish]
    exact Nat.le_add_right _ _
  case h_4 opened | h_5 opened =>
    rw [← descend_eq_ok stepped, opened]
    exact Nat.le_refl _
  all_goals cases stepped

/-- A name keeps the frames. -/
theorem length_frames_of_startName {next : State} (stepped : startName depth frames lexeme = .ok next) :
    next.frames.length = frames.length := by
  -- The name goes into the frame that is open.
  unfold startName at stepped
  split at stepped <;> cases stepped
  rfl

/-- What follows a value opens no frame. -/
theorem length_frames_of_afterValue {next : State} (stepped : afterValue depth frames lexeme = .ok next) :
    next.frames.length ≤ frames.length := by
  unfold afterValue at stepped
  split at stepped <;> cases stepped <;> simp

/-- A token opens a frame only if it is a sign for that. -/
theorem length_frames_of_step {state next : State} (stepped : step depth state lexeme = .ok next) :
    next.frames.length ≤ state.frames.length + if lexeme.token.opens then 1 else 0 := by
  -- Names, colons and commas keep the frames, and the end of a frame closes one.
  unfold step at stepped
  split at stepped
  case h_1 | h_3 => exact length_frames_of_startValue stepped
  case h_5 | h_6 => exact (length_frames_of_startName stepped).trans_le (Nat.le_add_right _ _)
  case h_9 => exact (length_frames_of_afterValue stepped).trans (Nat.le_add_right _ _)
  case h_2 opened | h_4 opened =>
    cases stepped
    rw [length_frames_finish, opened, List.length_cons]
    omega
  case h_7 =>
    cases stepped
    exact Nat.le_add_right _ _
  case h_8 | h_10 => cases stepped

/-- Taking tokens opens no more frames than there are signs for that. -/
theorem length_frames_of_foldlM {lexemes : List Lexeme} {state last : State}
    (taken : lexemes.foldlM (step depth) state = .ok last) :
    last.frames.length ≤ state.frames.length + lexemes.countP fun lexeme => lexeme.token.opens := by
  -- Each token adds one frame at most, and only one that opens something.
  induction lexemes generalizing state with
  | nil =>
    cases taken
    exact Nat.le_add_right _ _
  | cons first rest ih =>
    rw [List.foldlM_cons] at taken
    obtain ⟨next, stepped, later⟩ := bind_eq_ok_iff.mp taken
    have here := length_frames_of_step stepped
    have there := ih later
    rw [List.countP_cons]
    omega

/-- Tokens are not taken because of one of them, which is met with no more frames open than there are signs for. -/
theorem exists_stops_of_foldlM {lexemes : List Lexeme} {state : State}
    (stopped : lexemes.foldlM (step depth) state = .error trouble) :
    ∃ lexeme ∈ lexemes, ∃ frames : List Frame,
      frames.length ≤ state.frames.length + lexemes.countP (fun lexeme => lexeme.token.opens) ∧
      Stops depth frames lexeme.token trouble := by
  -- The first token that is refused ends the reading.
  induction lexemes generalizing state with
  | nil => cases stopped
  | cons first rest ih =>
    rw [List.foldlM_cons] at stopped
    rcases bind_eq_error_iff.mp stopped with here | ⟨next, stepped, later⟩
    · exact ⟨first, List.mem_cons_self, state.frames, Nat.le_add_right _ _, stops_of_step here⟩
    · obtain ⟨lexeme, member, frames, bound, found⟩ := ih later
      have opened := length_frames_of_step stepped
      refine ⟨lexeme, List.mem_cons_of_mem _ member, frames, ?_, found⟩
      rw [List.countP_cons]
      omega

/-- A text is no value for a problem in it, a number of more digits than are read, or more openings than the depth has
room for. -/
theorem stops_of_parse {text : List Char} (stopped : parse depth text = .error trouble) :
    (∃ problem position, trouble = .misplaced problem position) ∨
      (∃ digits, trouble = .longNumber digits ∧ Text.maxDigits < digits) ∨
      (∃ task, trouble = .tooDeep task ∧ depth < openings text + faultLevels) := by
  rcases bind_eq_error_iff.mp stopped with unread | ⟨state, taken, unfinished⟩
  · -- A reader stops at a token, and the tokens are those of the text.
    obtain ⟨lexeme, member, frames, bound, stops⟩ := exists_stops_of_foldlM unread
    rw [List.length_nil, Nat.zero_add] at bound
    cases stops with
    | misplaced problem position => exact Or.inl ⟨problem, position, rfl⟩
    | longNumber found => exact Or.inr (Or.inl ⟨_, rfl, maxDigits_lt_of_mem_tokens found member⟩)
    | tooDeep task deep => exact Or.inr (Or.inr ⟨task, rfl, by rw [openings]; omega⟩)
  · -- A text that ends too early has no long number.
    have bound := length_frames_of_foldlM taken
    rw [List.length_nil, Nat.zero_add] at bound
    cases stops_of_conclude .junk unfinished with
    | misplaced problem position => exact Or.inl ⟨problem, position, rfl⟩
    | longNumber found => cases found
    | tooDeep task deep => exact Or.inr (Or.inr ⟨task, rfl, by rw [openings]; omega⟩)

end Json

namespace Disk

variable {disk : Disk} {depth : Nat} {path : String} {failure : Failure}

/-- Flaws of a file of text that no reader expects: its path holds the null character, or its bytes are no text. -/
inductive TextFlaw (disk : Disk) (path : String) : Failure → Prop where
  | null (held : hasNull path = true) : TextFlaw disk path .nullInPath
  | noText {content : Bytes} {fault : Text.Utf8Fault} (held : disk.bytes path = .ok content)
    (undecoded : Text.decodeUtf8 content = .error fault) : TextFlaw disk path (.notText fault)

/-- Flaws of a JSON file that no reader expects: those of its text, a number of more digits than are read, and openings
of more arrays and objects than the depth has room for. -/
inductive JsonFlaw (disk : Disk) (depth : Nat) (path : String) : Failure → Prop where
  | text {failure : Failure} (flaw : disk.TextFlaw path failure) : JsonFlaw disk depth path failure
  | longNumber {text : List Char} {digits : Nat} (held : disk.text path = .ok text)
    (stopped : Json.parse depth text = .error (.longNumber digits)) (long : Text.maxDigits < digits) :
    JsonFlaw disk depth path (.digits (some digits))
  | tooDeep {text : List Char} {task : String} (held : disk.text path = .ok text)
    (stopped : Json.parse depth text = .error (.tooDeep task)) (deep : depth < Json.openings text + Json.faultLevels) :
    JsonFlaw disk depth path (.tooDeep task)

/-- A path that is refused does not open. -/
def Refused (disk : Disk) (path : String) (failure : Failure) : Prop :=
  ∃ refusal, disk.bytes path = .error (.refused refusal path) ∧ failure = .refused refusal path

/-- A path does not open because it is refused, or because of the null character. -/
theorem bytes_cases (failed : disk.bytes path = .error failure) :
    disk.Refused path failure ∨ (failure = .nullInPath ∧ hasNull path = true) := by
  have kept := failed
  -- The path itself is looked at before the disk is asked.
  unfold bytes at failed
  split at failed
  · rename_i null
    cases failed
    exact Or.inr ⟨rfl, null⟩
  · split at failed
    · cases failed
    · cases failed
      exact Or.inl ⟨_, kept, rfl⟩

/-- A file of text is refused, or it has a flaw. -/
theorem text_cases (failed : disk.text path = .error failure) :
    disk.Refused path failure ∨ disk.TextFlaw path failure := by
  -- The file does not open, or its bytes are not decoded.
  rcases bind_eq_error_iff.mp failed with unopened | ⟨content, held, undecoded⟩
  · rcases bytes_cases unopened with refused | ⟨rfl, null⟩
    · exact Or.inl refused
    · exact Or.inr (.null null)
  · split at undecoded
    · cases undecoded
    · rename_i fault decoded
      cases undecoded
      exact Or.inr (.noText held decoded)

/-- A JSON file is refused, is no JSON, or has a flaw. -/
theorem json_cases (failed : disk.json depth path = .error failure) :
    disk.Refused path failure ∨ (∃ fault, failure = .notJson fault) ∨ disk.JsonFlaw depth path failure := by
  -- The text is not read, or it is no value.
  rcases bind_eq_error_iff.mp failed with unread | ⟨text, held, unparsed⟩
  · rcases text_cases unread with refused | flaw
    · exact Or.inl refused
    · exact Or.inr (Or.inr (.text flaw))
  · unfold Json.read at unparsed
    split at unparsed
    · cases unparsed
      exact Or.inr (Or.inl ⟨_, rfl⟩)
    · split at unparsed
      · cases unparsed
      · rename_i trouble stopped
        cases unparsed
        rcases Json.stops_of_parse stopped with ⟨problem, position, rfl⟩ | ⟨digits, rfl, long⟩ | ⟨task, rfl, deep⟩
        · exact Or.inr (Or.inl ⟨_, rfl⟩)
        · exact Or.inr (Or.inr (.longNumber held stopped long))
        · exact Or.inr (Or.inr (.tooDeep held stopped deep))

/-- Settings are refused for the flaws of a JSON file, unless it is too deep to be read at all. -/
theorem JsonFlaw.isRejection (flaw : disk.JsonFlaw depth path failure) :
    failure.isRejection = true ∨ ∃ task, failure = .tooDeep task := by
  -- All of these are errors of a value, but for the depth.
  cases flaw with
  | text flaw => cases flaw <;> exact Or.inl rfl
  | longNumber => exact Or.inl rfl
  | tooDeep => exact Or.inr ⟨_, rfl⟩

end Disk

end ProofWire
