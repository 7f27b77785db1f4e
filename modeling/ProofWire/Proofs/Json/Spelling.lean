import ProofWire.Proofs.Disk.Flaw

/-! The grammar of JSON tokens: whatever is read is spelled by its tokens, and a name that is given again replaces its
entry. -/

namespace ProofWire

namespace Value

/-- A value without parts. -/
def isLeaf : Value → Bool
  | .list _ | .tuple _ | .object _ => false
  | _ => true

/-- The entries that members make one after another. -/
def entriesOf (members : List (String × Value)) : List (String × Value) :=
  members.foldl (fun entries member => insertEntry entries member.1 member.2) []

/-- A name that is set is found, and the others are found as before. -/
theorem lookup_insertEntry (entries : List (String × Value)) (key name : String) (value : Value) :
    (insertEntry entries key value).lookup name = if name = key then some value else entries.lookup name := by
  -- The entry takes the place of its name, or the last place of all.
  induction entries with
  | nil =>
    rw [insertEntry, List.lookup_cons]
    by_cases same : name = key
    · rw [if_pos same, beq_iff_eq.mpr same]
    · rw [if_neg same, beq_false_of_ne same]
  | cons first rest ih =>
    rw [insertEntry]
    by_cases here : first.1 = key
    · rw [if_pos here, List.lookup_cons, List.lookup_cons, here]
      by_cases same : name = key
      · rw [if_pos same, beq_iff_eq.mpr same]
      · rw [if_neg same, beq_false_of_ne same]
    · rw [if_neg here, List.lookup_cons, List.lookup_cons, ih]
      by_cases found : name = first.1
      · have other : name ≠ key := fun same => here (found.symm.trans same)
        rw [beq_iff_eq.mpr found, if_neg other, if_neg other]
      · rw [beq_false_of_ne found]

/-- The last member is set after the ones before it. -/
theorem entriesOf_append (members : List (String × Value)) (member : String × Value) :
    entriesOf (members ++ [member]) = insertEntry (entriesOf members) member.1 member.2 := by
  rw [entriesOf, List.foldl_append]
  rfl

/-- Every name has the value of its last member. -/
theorem lookup_entriesOf (members : List (String × Value)) (name : String) :
    (entriesOf members).lookup name = members.reverse.lookup name := by
  -- Induction from the last member, which is set last.
  induction members using List.reverseRecOn with
  | nil => rfl
  | append_singleton members member ih =>
    rw [entriesOf_append, lookup_insertEntry, ih, List.reverse_append, List.reverse_singleton, List.singleton_append,
      List.lookup_cons]
    by_cases same : name = member.1
    · rw [if_pos same, beq_iff_eq.mpr same]
    · rw [if_neg same, beq_false_of_ne same]

/-- An entry is the one that was set, or it was there before. -/
theorem mem_insertEntry {entries : List (String × Value)} {key : String} {value : Value} {entry : String × Value}
    (member : entry ∈ insertEntry entries key value) : entry = (key, value) ∨ entry ∈ entries := by
  -- The first entry of the name is replaced, or a new one comes at the end.
  induction entries with
  | nil => exact Or.inl (List.mem_singleton.mp member)
  | cons first rest ih =>
    rw [insertEntry] at member
    split at member
    · exact (List.mem_cons.mp member).imp_right (List.mem_cons_of_mem first)
    · rcases List.mem_cons.mp member with rfl | later
      · exact Or.inr List.mem_cons_self
      · exact (ih later).imp_right (List.mem_cons_of_mem first)

/-- Distinct names stay distinct when an entry is set. -/
theorem nodup_insertEntry {entries : List (String × Value)} {key : String} {value : Value}
    (nodup : (entries.map Prod.fst).Nodup) : ((insertEntry entries key value).map Prod.fst).Nodup := by
  induction entries with
  | nil => exact List.nodup_singleton key
  | cons first rest ih =>
    obtain ⟨fresh, later⟩ := List.nodup_cons.mp nodup
    rw [insertEntry]
    split
    · rename_i same
      exact List.nodup_cons.mpr ⟨same ▸ fresh, later⟩
    · rename_i other
      refine List.nodup_cons.mpr ⟨fun found => ?_, ih later⟩
      -- An entry of the same name would have been there before.
      obtain ⟨entry, member, same⟩ := List.mem_map.mp found
      rcases mem_insertEntry member with rfl | earlier
      · exact other same.symm
      · exact fresh (List.mem_map.mpr ⟨entry, earlier, same⟩)

/-- The entries that members make have distinct names. -/
theorem nodup_entriesOf (members : List (String × Value)) : ((entriesOf members).map Prod.fst).Nodup := by
  -- Setting an entry does not repeat its name.
  induction members using List.reverseRecOn with
  | nil => exact List.nodup_nil
  | append_singleton members member ih =>
    rw [entriesOf_append]
    exact nodup_insertEntry ih

end Value

namespace Json

mutual

/-- Tokens spell a value. -/
inductive Spells : List Token → Value → Prop where
  | leaf {value : Value} (leaf : value.isLeaf = true) : Spells [.scalar value] value
  | constant (value : Binary64) : Spells [.constant value] (.float value)
  | text (content : String) : Spells [.text content] (.text content)
  | emptyArray : Spells [.beginArray, .endArray] (.list [])
  | array {tokens : List Token} {items : List Value} (spelled : SpellsItems tokens items) :
    Spells (.beginArray :: tokens ++ [.endArray]) (.list items)
  | object {tokens : List Token} {members : List (String × Value)} (spelled : SpellsObject tokens members) :
    Spells tokens (.object (Value.entriesOf members))

/-- Tokens spell one or more items with commas between them. -/
inductive SpellsItems : List Token → List Value → Prop where
  | single {tokens : List Token} {value : Value} (spelled : Spells tokens value) : SpellsItems tokens [value]
  | more {tokens others : List Token} {items : List Value} {value : Value} (earlier : SpellsItems tokens items)
    (spelled : Spells others value) : SpellsItems (tokens ++ .comma :: others) (items ++ [value])

/-- Tokens spell the members of an object, its braces included. -/
inductive SpellsObject : List Token → List (String × Value) → Prop where
  | empty : SpellsObject [.beginObject, .endObject] []
  | filled {tokens : List Token} {members : List (String × Value)} (spelled : SpellsMembers tokens members) :
    SpellsObject (.beginObject :: tokens ++ [.endObject]) members

/-- Tokens spell one or more members with commas between them. -/
inductive SpellsMembers : List Token → List (String × Value) → Prop where
  | single {tokens : List Token} {value : Value} (name : String) (spelled : Spells tokens value) :
    SpellsMembers (.text name :: .colon :: tokens) [(name, value)]
  | more {tokens others : List Token} {members : List (String × Value)} {value : Value}
    (earlier : SpellsMembers tokens members) (name : String) (spelled : Spells others value) :
    SpellsMembers (tokens ++ .comma :: .text name :: .colon :: others) (members ++ [(name, value)])

end

/-- The tokens in front of a place for a value, which the open frames account for. -/
inductive Opens : List Frame → List Token → Prop where
  | start : Opens [] []
  | firstItem {outer : List Frame} {front : List Token} (above : Opens outer front) :
    Opens (.array [] :: outer) (front ++ [.beginArray])
  | nextItem {outer : List Frame} {front tokens : List Token} {items : List Value} (above : Opens outer front)
    (earlier : SpellsItems tokens items) :
    Opens (.array items.reverse :: outer) (front ++ .beginArray :: (tokens ++ [.comma]))
  | firstMember {outer : List Frame} {front : List Token} (above : Opens outer front) (name : String) :
    Opens (.object [] name :: outer) (front ++ [.beginObject, .text name, .colon])
  | nextMember {outer : List Frame} {front tokens : List Token} {members : List (String × Value)}
    (above : Opens outer front) (earlier : SpellsMembers tokens members) (name : String) :
    Opens (.object (Value.entriesOf members) name :: outer)
      (front ++ .beginObject :: (tokens ++ [.comma, .text name, .colon]))

/-- The tokens that led a reader to its state. -/
inductive Reads : State → List Token → Prop where
  | value {frames : List Frame} {tokens : List Token} (opens : Opens frames tokens) : Reads ⟨frames, .value⟩ tokens
  | firstItem {outer : List Frame} {front : List Token} (above : Opens outer front) :
    Reads ⟨.array [] :: outer, .firstItem⟩ (front ++ [.beginArray])
  | firstName {outer : List Frame} {front : List Token} (above : Opens outer front) :
    Reads ⟨.object [] "" :: outer, .firstName⟩ (front ++ [.beginObject])
  | name {outer : List Frame} {front tokens : List Token} {members : List (String × Value)} {last : String}
    (above : Opens outer front) (earlier : SpellsMembers tokens members) :
    Reads ⟨.object (Value.entriesOf members) last :: outer, .name⟩ (front ++ .beginObject :: (tokens ++ [.comma]))
  | colon {frames : List Frame} {tokens : List Token} (opens : Opens frames (tokens ++ [.colon])) :
    Reads ⟨frames, .colon⟩ tokens
  | item {outer : List Frame} {front tokens : List Token} {items : List Value} (above : Opens outer front)
    (spelled : SpellsItems tokens items) :
    Reads ⟨.array items.reverse :: outer, .separator⟩ (front ++ .beginArray :: tokens)
  | member {outer : List Frame} {front tokens : List Token} {members : List (String × Value)} {last : String}
    (above : Opens outer front) (spelled : SpellsMembers tokens members) :
    Reads ⟨.object (Value.entriesOf members) last :: outer, .separator⟩ (front ++ .beginObject :: tokens)
  | whole {tokens : List Token} {value : Value} (spelled : Spells tokens value) : Reads ⟨[], .nothing value⟩ tokens

/-- A value that is spelled at its place is taken by the innermost frame. -/
theorem reads_finish {frames : List Frame} {front tokens : List Token} {value : Value} (opens : Opens frames front)
    (spelled : Spells tokens value) : Reads (finish value frames) (front ++ tokens) := by
  -- An array keeps its items in reverse, and an object its entries as they are made.
  cases opens with
  | start => exact .whole spelled
  | firstItem above =>
    rw [List.append_assoc]
    exact .item above (.single spelled)
  | nextItem above earlier =>
    have read := Reads.item above (earlier.more spelled)
    rw [List.reverse_append] at read
    simpa [finish] using read
  | firstMember above name =>
    rw [List.append_assoc]
    exact .member above (.single name spelled)
  | nextMember above earlier name =>
    rename_i outer others tokens members
    have read : Reads ⟨.object (Value.entriesOf (members ++ [(name, value)])) name :: outer, .separator⟩ _ :=
      .member above (earlier.more name spelled)
    rw [Value.entriesOf_append] at read
    simpa [finish] using read

variable {depth : Nat}

/-- A token at a place for a value spells it, or it opens a frame. -/
theorem reads_startValue {frames : List Frame} {front : List Token} {lexeme : Lexeme} {next : State}
    (opens : Opens frames front) (leaf : ∀ value, lexeme.token = .scalar value → value.isLeaf = true)
    (stepped : startValue depth frames lexeme = .ok next) : Reads next (front ++ [lexeme.token]) := by
  -- There are three kinds of values of one token, and two of frames.
  unfold startValue at stepped
  split at stepped
  case h_1 value scalar =>
    cases stepped
    rw [scalar]
    exact reads_finish opens (.leaf (leaf value scalar))
  case h_2 value constant =>
    rw [← descend_eq_ok stepped, constant]
    exact reads_finish opens (.constant value)
  case h_3 content text =>
    cases stepped
    rw [text]
    exact reads_finish opens (.text content)
  case h_4 sign =>
    rw [← descend_eq_ok stepped, sign]
    exact .firstItem opens
  case h_5 sign =>
    rw [← descend_eq_ok stepped, sign]
    exact .firstName opens
  all_goals cases stepped

/-- A name is taken by the object in front, which waits for the colon then. -/
theorem startName_eq_ok {frames : List Frame} {lexeme : Lexeme} {next : State}
    (stepped : startName depth frames lexeme = .ok next) :
    ∃ name entries last outer, lexeme.token = .text name ∧ frames = .object entries last :: outer ∧
      next = ⟨.object entries name :: outer, .colon⟩ := by
  -- A name is expected within an object only.
  unfold startName at stepped
  split at stepped
  · rename_i name entries last outer text
    exact ⟨name, entries, last, outer, text, rfl, (Except.ok.inj stepped).symm⟩
  all_goals cases stepped

/-- After an item comes another one, or the end of its array. -/
theorem reads_afterItem {outer : List Frame} {front tokens : List Token} {items : List Value} {lexeme : Lexeme}
    {next : State} (above : Opens outer front) (spelled : SpellsItems tokens items)
    (stepped : afterValue depth (.array items.reverse :: outer) lexeme = .ok next) :
    Reads next (front ++ .beginArray :: tokens ++ [lexeme.token]) := by
  -- A comma leaves the array open, and a bracket closes it.
  unfold afterValue at stepped
  split at stepped
  case h_1 comma opened =>
    cases stepped
    rw [comma]
    have opens := Opens.nextItem above spelled
    exact .value (by simpa using opens)
  case h_3 closed opened =>
    cases opened
    cases stepped
    rw [closed, List.reverse_reverse, List.append_assoc]
    exact reads_finish above (.array spelled)
  case h_2 opened | h_4 opened => cases opened
  case h_5 => cases stepped

/-- After a member comes another one, or the end of its object. -/
theorem reads_afterMember {outer : List Frame} {front tokens : List Token} {members : List (String × Value)}
    {last : String} {lexeme : Lexeme} {next : State} (above : Opens outer front)
    (spelled : SpellsMembers tokens members)
    (stepped : afterValue depth (.object (Value.entriesOf members) last :: outer) lexeme = .ok next) :
    Reads next (front ++ .beginObject :: tokens ++ [lexeme.token]) := by
  -- A comma leaves the object open, and a brace closes it.
  unfold afterValue at stepped
  split at stepped
  case h_2 comma opened =>
    cases stepped
    rw [comma]
    have reads : Reads ⟨.object (Value.entriesOf members) last :: outer, .name⟩ _ := .name above spelled
    simpa using reads
  case h_4 closed opened =>
    cases opened
    cases stepped
    rw [closed, List.append_assoc]
    exact reads_finish above (.object (.filled spelled))
  case h_1 opened | h_3 opened => cases opened
  case h_5 => cases stepped

/-- Taking a token keeps account of all tokens. -/
theorem Reads.step {state next : State} {tokens : List Token} {lexeme : Lexeme} (reads : Reads state tokens)
    (leaf : ∀ value, lexeme.token = .scalar value → value.isLeaf = true) (stepped : step depth state lexeme = .ok next) :
    Reads next (tokens ++ [lexeme.token]) := by
  -- What is expected decides which tokens are taken; an array or an object may end before its first part.
  cases reads with
  | value opens => exact reads_startValue opens leaf stepped
  | firstItem above =>
    simp only [Json.step] at stepped
    split at stepped
    case h_2 closed opened =>
      cases opened
      cases stepped
      rw [closed, List.append_assoc]
      exact reads_finish above .emptyArray
    case h_3 => exact reads_startValue (.firstItem above) leaf stepped
    all_goals contradiction
  | firstName above =>
    simp only [Json.step] at stepped
    split at stepped
    case h_4 closed opened =>
      cases opened
      cases stepped
      rw [closed, List.append_assoc]
      exact reads_finish above (.object .empty)
    case h_5 =>
      obtain ⟨name, _, _, _, text, opened, rfl⟩ := startName_eq_ok stepped
      cases opened
      rw [text]
      have opens := Opens.firstMember above name
      exact .colon (by simpa using opens)
    all_goals contradiction
  | name above earlier =>
    obtain ⟨name, _, _, _, text, opened, rfl⟩ := startName_eq_ok stepped
    cases opened
    rw [text]
    have opens := Opens.nextMember above earlier name
    exact .colon (by simpa using opens)
  | colon opens =>
    simp only [Json.step] at stepped
    split at stepped
    case h_7 colon =>
      cases stepped
      rw [colon]
      exact .value opens
    all_goals contradiction
  | item above spelled => exact reads_afterItem above spelled stepped
  | member above spelled => exact reads_afterMember above spelled stepped
  | whole spelled => cases stepped

/-- Taking tokens one after another keeps account of all of them. -/
theorem Reads.foldlM {lexemes : List Lexeme} {state last : State} {tokens : List Token} (reads : Reads state tokens)
    (leaf : ∀ lexeme ∈ lexemes, ∀ value, lexeme.token = .scalar value → value.isLeaf = true)
    (taken : lexemes.foldlM (Json.step depth) state = .ok last) : Reads last (tokens ++ lexemes.map Lexeme.token) := by
  -- Each token joins those that are accounted for already.
  induction lexemes generalizing state tokens with
  | nil =>
    cases taken
    rwa [List.map_nil, List.append_nil]
  | cons first rest ih =>
    rw [List.foldlM_cons] at taken
    obtain ⟨middle, stepped, later⟩ := bind_eq_ok_iff.mp taken
    obtain ⟨leafFirst, leafRest⟩ := List.forall_mem_cons.mp leaf
    have read := ih (reads.step leafFirst stepped) leafRest later
    rwa [List.append_assoc, List.singleton_append] at read

/-- A token of one value has one without parts. -/
def Token.isSimple : Token → Bool
  | .scalar value => value.isLeaf
  | _ => true

/-- Words and numbers have no parts. -/
theorem isLeaf_of_scalar? {text rest : List Char} {value : Value} (read : scalar? text = some (.scalar value, rest)) :
    value.isLeaf = true := by
  -- The words are checked one by one, and a number is whole or a double.
  have number : ∀ {negative : Bool} {text : List Char}, number? negative text = some (.scalar value, rest) →
      value.isLeaf = true := by
    intro negative text read
    simp only [number?] at read
    split at read
    · cases read
    · split at read
      · split at read <;> cases read
        rfl
      · cases read
        rfl
  unfold scalar? at read
  split at read
  · rename_i word token found
    cases read
    have leaves : (words.all fun word => word.2.isSimple) = true := by decide
    exact List.all_eq_true.mp leaves _ (List.mem_of_find?_eq_some found)
  · split at read <;> exact number read

/-- A value that is read is spelled by the tokens of its text. -/
theorem spells_of_parse {text : List Char} {value : Value} (parsed : parse depth text = .ok value) :
    Spells ((tokens text).map Lexeme.token) value := by
  obtain ⟨state, taken, concluded⟩ := bind_eq_ok_iff.mp parsed
  have leaf : ∀ lexeme ∈ tokens text, ∀ value, lexeme.token = .scalar value → value.isLeaf = true := by
    intro lexeme member value scalar
    have simple : lexeme.token.isScalar = true := by rw [scalar]; rfl
    obtain ⟨source, rest, read⟩ := exists_scalar?_of_mem_tokensFrom simple member
    rw [scalar] at read
    exact isLeaf_of_scalar? read
  have reads := (Reads.value Opens.start).foldlM leaf taken
  rw [List.nil_append] at reads
  generalize (tokens text).map Lexeme.token = spelling at reads ⊢
  -- Only a reader that expects nothing more has a value.
  cases reads with
  | whole spelled =>
    cases concluded
    exact spelled
  | _ => cases concluded

/-- An object has the entries that its members make. -/
theorem exists_members_of_spells {tokens : List Token} {entries : List (String × Value)}
    (spelled : Spells tokens (.object entries)) :
    ∃ members, SpellsObject tokens members ∧ entries = Value.entriesOf members := by
  -- Only an object is spelled by members.
  cases spelled with
  | leaf leaf => cases leaf
  | object spelled => exact ⟨_, spelled, rfl⟩

end Json

/-- The value of a JSON file is spelled by the tokens of its text. -/
theorem Disk.spells_of_json {disk : Disk} {depth : Nat} {path : String} {value : Value}
    (held : disk.json depth path = .ok value) :
    ∃ text, disk.text path = .ok text ∧ Json.Spells ((Json.tokens text).map Json.Lexeme.token) value := by
  -- The file is read as text, and its text is parsed.
  obtain ⟨text, given, read⟩ := bind_eq_ok_iff.mp held
  unfold Json.read at read
  split at read
  · cases read
  · split at read
    · rename_i result parsed
      cases read
      exact ⟨text, given, Json.spells_of_parse parsed⟩
    · cases read

end ProofWire
