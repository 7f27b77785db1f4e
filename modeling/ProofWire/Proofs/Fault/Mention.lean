import ProofWire.Proofs.Value.Shown

/-! What a fault knows after it was made and told more: the first mention of a key counts, and a location that is made
of a label and an index lasts. -/

namespace ProofWire

namespace Value

/-- Only null does not count as given. -/
theorem isGiven_iff {value : Value} : value.isGiven = true ↔ value ≠ .null := by
  cases value <;> simp [isGiven]

/-- A text is there unless it is empty. -/
theorem isPresent_text {content : String} (named : content ≠ "") : (text content).isPresent = true := by
  simp [isPresent, named]

end Value

namespace Context

/-- A known key keeps its value, and any other one takes what is mentioned. -/
theorem lookup_mention (context : Context) (entry : String × Value) (key : String) :
    (context.mention entry).lookup key = (context.lookup key).or ([entry].lookup key) := by
  unfold mention
  split
  · rename_i known
    obtain ⟨value, held⟩ := Option.isSome_iff_exists.mp known
    -- What goes unheard is either known already or said of another key.
    by_cases same : key = entry.1
    · rw [same, held, Option.some_or]
    · have other : [entry].lookup key = none := by rw [List.lookup_cons, beq_false_of_ne same, List.lookup_nil]
      rw [other, Option.or_none]
  · rw [List.lookup_append]

/-- Mentions add what the first of them says of each unknown key. -/
theorem lookup_mentionAll (context entries : Context) (key : String) :
    (context.mentionAll entries).lookup key = (context.lookup key).or (entries.lookup key) := by
  -- The first entry of all that were said decides, whether it was known before or is mentioned.
  induction entries generalizing context with
  | nil => rw [List.lookup_nil, Option.or_none]; rfl
  | cons entry rest ih =>
    show ((context.mention entry).mentionAll rest).lookup key = _
    rw [ih, lookup_mention, Option.or_assoc, ← List.lookup_append, List.singleton_append]

/-- A mention does not repeat a key. -/
theorem nodup_mention {context : Context} (distinct : (context.map Prod.fst).Nodup) (entry : String × Value) :
    ((context.mention entry).map Prod.fst).Nodup := by
  -- The key is added only when the lookup does not find it.
  unfold mention
  split
  · exact distinct
  · rename_i unknown
    have absent : entry.1 ∉ context.map Prod.fst := by
      rw [Bool.not_eq_true, Option.isSome_eq_false_iff, Option.isNone_iff_eq_none, List.lookup_eq_none_iff] at unknown
      intro member
      obtain ⟨other, known, same⟩ := List.mem_map.mp member
      exact bne_iff_ne.mp (unknown other known) same.symm
    rw [List.map_append, List.map_singleton, ← List.concat_eq_append]
    exact List.Nodup.concat absent distinct

/-- Mentions do not repeat a key. -/
theorem nodup_mentionAll {context : Context} (distinct : (context.map Prod.fst).Nodup) (entries : Context) :
    ((context.mentionAll entries).map Prod.fst).Nodup := by
  -- Each mention keeps the keys apart.
  induction entries generalizing context with
  | nil => exact distinct
  | cons entry rest ih => exact ih (nodup_mention distinct entry)

/-- Rounds of mentions say of a key what the first round says that names it. -/
theorem lookup_flatten (rounds : List Context) (key : String) :
    rounds.flatten.lookup key = rounds.findSome? (·.lookup key) := by
  -- The first round that names the key comes first in the joined row as well.
  induction rounds with
  | nil => rfl
  | cons entries rest ih =>
    rw [List.flatten_cons, List.lookup_append, ih, List.findSome?_cons]
    cases entries.lookup key <;> rfl

/-- A value counts when it is known and not null. -/
theorem given?_eq_some_iff {context : Context} {key : String} {value : Value} :
    context.given? key = some value ↔ context.lookup key = some value ∧ value ≠ .null := by
  -- A null that is known counts as nothing.
  unfold given?
  split
  · rename_i null
    simp [null, eq_comm]
  · rename_i found other
    refine ⟨fun held => ⟨held, ?_⟩, And.left⟩
    rintro rfl
    exact other held

/-- No value counts when nothing is known but null. -/
theorem given?_eq_none_iff {context : Context} {key : String} :
    context.given? key = none ↔ ∀ value, context.lookup key = some value → value = .null := by
  rw [Option.eq_none_iff_forall_ne_some]
  simp only [ne_eq, given?_eq_some_iff, not_and, not_not]

/-- Under distinct keys each entry is found. -/
theorem lookup_eq_some_iff_mem {entries : Context} (distinct : (entries.map Prod.fst).Nodup) {key : String}
    {value : Value} : entries.lookup key = some value ↔ (key, value) ∈ entries := by
  constructor
  · intro found
    obtain ⟨before, after, rfl, _⟩ := List.lookup_eq_some_iff.mp found
    exact List.mem_append_right before List.mem_cons_self
  · intro member
    obtain ⟨before, after, rfl⟩ := List.append_of_mem member
    -- No entry in front of this one has its key.
    rw [List.map_append, List.map_cons, List.nodup_append] at distinct
    refine List.lookup_eq_some_iff.mpr ⟨before, after, rfl, fun other earlier => bne_iff_ne.mpr ?_⟩
    exact (distinct.2.2 _ (List.mem_map_of_mem earlier) _ List.mem_cons_self).symm

/-- Among the values that are not null those are found that count. -/
theorem lookup_filter_isGiven {given : Context} (distinct : (given.map Prod.fst).Nodup) (key : String) :
    (given.filter (·.2.isGiven)).lookup key = given.given? key := by
  -- Entries that are distinct are found by being among them, also after some are left out.
  have distinctKept : ((given.filter (·.2.isGiven)).map Prod.fst).Nodup :=
    distinct.sublist (List.filter_sublist.map Prod.fst)
  ext value
  rw [lookup_eq_some_iff_mem distinctKept, List.mem_filter, Value.isGiven_iff, given?_eq_some_iff,
    lookup_eq_some_iff_mem distinct]

/--
What is first said of a key, by given entries and then in rounds.

A null among the given entries says nothing, and one in a round is a value like any other.
-/
inductive FirstSaid (given : Context) (rounds : List Context) (key : String) : Option Value → Prop where
  | given {value : Value} (held : given.lookup key = some value) (solid : value ≠ .null) :
    FirstSaid given rounds key (some value)
  | mentioned (before : List Context) {after : List Context} {entries : Context} {value : Value}
    (ungiven : ∀ value, given.lookup key = some value → value = .null) (split : rounds = before ++ entries :: after)
    (unnamed : ∀ earlier ∈ before, earlier.lookup key = none) (named : entries.lookup key = some value) :
    FirstSaid given rounds key (some value)
  | never (ungiven : ∀ value, given.lookup key = some value → value = .null)
    (unnamed : ∀ entries ∈ rounds, entries.lookup key = none) : FirstSaid given rounds key none

/-- What is first said of a key is the value that counts among the given ones, or else the first mention. -/
theorem firstSaid_iff {given : Context} {rounds : List Context} {key : String} {found : Option Value} :
    FirstSaid given rounds key found ↔ (given.given? key).or (rounds.findSome? (·.lookup key)) = found := by
  -- A value that was given leaves the rounds unheard, and without one the first round with the key decides.
  constructor
  · intro said
    cases said with
    | given held solid => rw [given?_eq_some_iff.mpr ⟨held, solid⟩, Option.some_or]
    | mentioned before ungiven split unnamed named =>
      rw [given?_eq_none_iff.mpr ungiven, Option.none_or]
      exact List.findSome?_eq_some_iff.mpr ⟨_, _, _, split, named, unnamed⟩
    | never ungiven unnamed =>
      rw [given?_eq_none_iff.mpr ungiven, Option.none_or]
      exact List.findSome?_eq_none_iff.mpr unnamed
  · rintro rfl
    cases counted : given.given? key with
    | some value =>
      obtain ⟨held, solid⟩ := given?_eq_some_iff.mp counted
      exact .given held solid
    | none =>
      have ungiven := given?_eq_none_iff.mp counted
      rw [Option.none_or]
      cases first : rounds.findSome? (·.lookup key) with
      | some value =>
        obtain ⟨_, _, _, split, named, unnamed⟩ := List.findSome?_eq_some_iff.mp first
        exact .mentioned _ ungiven split unnamed named
      | none => exact .never ungiven (List.findSome?_eq_none_iff.mp first)

/-- What is known under a key, null if nothing is. -/
def known (context : Context) (key : String) : Value :=
  (context.lookup key).getD .null

end Context

namespace Fault

/-- More context in rounds. -/
def mentionEach (fault : Fault) (rounds : List Context) : Fault :=
  rounds.foldl mention fault

/-- Rounds of mentions are one mention of all that is said in them. -/
theorem mentionEach_eq (fault : Fault) (rounds : List Context) :
    fault.mentionEach rounds = fault.mention rounds.flatten := by
  -- Every mention takes up where the one before it ended.
  induction rounds generalizing fault with
  | nil => rfl
  | cons entries rest ih =>
    show (fault.mention entries).mentionEach rest = _
    rw [ih, List.flatten_cons]
    simp only [mention, Context.mentionAll, List.foldl_append]

/-- What a fault knows stays first, and rounds of mentions add what they say first. -/
theorem lookup_mentionEach (fault : Fault) (rounds : List Context) (key : String) :
    (fault.mentionEach rounds).context.lookup key =
      (fault.context.lookup key).or (rounds.findSome? (·.lookup key)) := by
  rw [mentionEach_eq, mention, Context.lookup_mentionAll, Context.lookup_flatten]

/-- A fault that is made knows the values that count among the given ones. -/
theorem lookup_ofContext {kind : FaultKind} {message : String} {given : Context}
    (distinct : (given.map Prod.fst).Nodup) (key : String) :
    (ofContext kind message given).context.lookup key = given.given? key :=
  Context.lookup_filter_isGiven distinct key

/-- A fault is placed at a label and an index when it knows both and neither is null. -/
structure PlacedAt (fault : Fault) (label index : Value) : Prop where
  label_known : fault.context.lookup "label" = some label
  index_known : fault.context.lookup "index" = some index
  label_solid : label ≠ .null
  index_solid : index ≠ .null

/-- A placed fault stays placed when it is told more. -/
theorem PlacedAt.mentionEach {fault : Fault} {label index : Value} (placed : fault.PlacedAt label index)
    (rounds : List Context) : (fault.mentionEach rounds).PlacedAt label index where
  -- What is known already is not replaced.
  label_known := by rw [lookup_mentionEach, placed.label_known, Option.some_or]
  index_known := by rw [lookup_mentionEach, placed.index_known, Option.some_or]
  label_solid := placed.label_solid
  index_solid := placed.index_solid

/-- The location of a placed fault is its label with its index in brackets, if both have a text. -/
theorem PlacedAt.location?_eq {fault : Fault} {label index : Value} (placed : fault.PlacedAt label index) :
    fault.location? = do
      let labelText ← label.shown?
      let indexText ← index.shown?
      return .text (labelText ++ "[" ++ indexText ++ "]") := by
  -- Both are given, so that the location is made of both.
  have label_given := Context.given?_eq_some_iff.mpr ⟨placed.label_known, placed.label_solid⟩
  have index_given := Context.given?_eq_some_iff.mpr ⟨placed.index_known, placed.index_solid⟩
  rw [location?, label_given, index_given]

/-- The location of any other fault is its label, or the empty text. -/
theorem location?_of_unplaced {fault : Fault} (unplaced : ∀ label index, ¬ fault.PlacedAt label index) :
    fault.location? = some (.text "") ∨ fault.location? = some (fault.context.known "label") := by
  -- Either there is no label, or there is no index, for else the fault would be placed.
  cases label_given : fault.context.given? "label" with
  | none =>
    rw [location?, label_given]
    exact Or.inl rfl
  | some label =>
    obtain ⟨label_known, label_solid⟩ := Context.given?_eq_some_iff.mp label_given
    cases index_given : fault.context.given? "index" with
    | none =>
      rw [location?, label_given, index_given, Context.known, label_known]
      cases present : label.isPresent with
      | false => exact Or.inl (by simp [present])
      | true => exact Or.inr (by simp [present])
    | some index =>
      obtain ⟨index_known, index_solid⟩ := Context.given?_eq_some_iff.mp index_given
      exact absurd ⟨label_known, index_known, label_solid, index_solid⟩ (unplaced label index)

/-- A place that reads as the label of a fault with its index in brackets. -/
def Brackets (fault : Fault) (place : Value) : Prop :=
  ∃ labelText indexText, (fault.context.known "label").shown? = some labelText ∧
    (fault.context.known "index").shown? = some indexText ∧ place = .text (labelText ++ "[" ++ indexText ++ "]")

/-- Brackets are neither empty nor the label itself. -/
theorem Brackets.ne {fault : Fault} {place : Value} (brackets : fault.Brackets place) :
    place ≠ .text "" ∧ place ≠ fault.context.known "label" := by
  obtain ⟨labelText, indexText, labelled, _, rfl⟩ := brackets
  have longer : labelText.length < (labelText ++ "[" ++ indexText ++ "]").length := by
    have mark : "[".length = 1 := rfl
    simp only [String.length_append]
    omega
  constructor
  · intro same
    rw [Value.text.inj same] at longer
    exact Nat.not_lt_zero _ longer
  · -- A label that is a text is its own text, which is shorter.
    intro same
    rw [← same, Value.shown?, Option.some.injEq] at labelled
    rw [labelled] at longer
    exact Nat.lt_irrefl _ longer

/-- A location of a placed fault is made of brackets. -/
theorem PlacedAt.brackets {fault : Fault} {label index place : Value} (placed : fault.PlacedAt label index)
    (located : fault.location? = some place) : fault.Brackets place := by
  -- Both texts are there, since the location is.
  rw [placed.location?_eq] at located
  obtain ⟨labelText, labelled, rest⟩ := Option.bind_eq_some_iff.mp located
  obtain ⟨indexText, indexed, made⟩ := Option.bind_eq_some_iff.mp rest
  refine ⟨labelText, indexText, ?_, ?_, (Option.some.inj made).symm⟩
  · rwa [Context.known, placed.label_known]
  · rwa [Context.known, placed.index_known]

/-- A location that is made of brackets is that of a placed fault. -/
theorem Brackets.exists_placedAt {fault : Fault} {place : Value} (brackets : fault.Brackets place)
    (located : fault.location? = some place) : ∃ label index, fault.PlacedAt label index := by
  -- Every other location is null or the label alone, and neither has brackets.
  by_contra unplaced
  simp only [not_exists] at unplaced
  rcases location?_of_unplaced unplaced with bare | labelled
  · exact brackets.ne.1 (Option.some.inj (located.symm.trans bare))
  · exact brackets.ne.2 (Option.some.inj (located.symm.trans labelled))

/-- A placed fault has no location exactly when its label or its index shows a number that is too long. -/
theorem PlacedAt.location?_eq_none_iff {fault : Fault} {label index : Value} (placed : fault.PlacedAt label index) :
    fault.location? = none ↔ label.ShowsLong ∨ index.ShowsLong := by
  rw [placed.location?_eq, joined_eq_none_iff, Value.shown?_eq_none_iff, Value.shown?_eq_none_iff]

/-- Only for a placed fault there may be no location. -/
theorem location?_eq_none_iff {fault : Fault} : fault.location? = none ↔
    ∃ label index, fault.PlacedAt label index ∧ (label.ShowsLong ∨ index.ShowsLong) := by
  -- A fault that is not placed has a location without brackets, if only null.
  constructor
  · intro missing
    by_cases placed : ∃ label index, fault.PlacedAt label index
    · obtain ⟨label, index, placed⟩ := placed
      exact ⟨label, index, placed, placed.location?_eq_none_iff.mp missing⟩
    · simp only [not_exists] at placed
      rcases location?_of_unplaced placed with bare | labelled
      · cases missing.symm.trans bare
      · cases missing.symm.trans labelled
  · rintro ⟨label, index, placed, long⟩
    exact placed.location?_eq_none_iff.mpr long

/-- A fault is located by brackets exactly when it is placed and no number is in the way. -/
theorem exists_brackets_iff {fault : Fault} : (∃ place, fault.location? = some place ∧ fault.Brackets place) ↔
    ∃ label index, fault.PlacedAt label index ∧ ¬ label.ShowsLong ∧ ¬ index.ShowsLong := by
  -- Brackets show that a fault is placed, and its location exists only without a long number.
  constructor
  · rintro ⟨place, located, brackets⟩
    obtain ⟨label, index, placed⟩ := brackets.exists_placedAt located
    refine ⟨label, index, placed, not_or.mp fun long => ?_⟩
    cases located.symm.trans (placed.location?_eq_none_iff.mpr long)
  · rintro ⟨label, index, placed, labelShort, indexShort⟩
    cases located : fault.location? with
    | none => exact absurd (placed.location?_eq_none_iff.mp located) (not_or.mpr ⟨labelShort, indexShort⟩)
    | some place => exact ⟨place, rfl, placed.brackets located⟩

/-- The location of a placed fault does not change when the fault is told more. -/
theorem PlacedAt.location?_mentionEach {fault : Fault} {label index : Value} (placed : fault.PlacedAt label index)
    (later : List Context) : (fault.mentionEach later).location? = fault.location? := by
  rw [(placed.mentionEach later).location?_eq, placed.location?_eq]

/-- The description of a placed fault does not change when the fault is told more. -/
theorem PlacedAt.describe?_mentionEach {fault : Fault} {label index : Value} (placed : fault.PlacedAt label index)
    (later : List Context) : (fault.mentionEach later).describe? = fault.describe? := by
  -- The message stays what it was, and the location before it lasts.
  rw [describe?, describe?, placed.location?_mentionEach later, mentionEach_eq, mention]

/-- A fault with a text for its location is described by its message behind that text. -/
theorem describe?_of_location {fault : Fault} {place : String} (located : fault.location? = some (.text place))
    (named : place ≠ "") : fault.describe? = some (place ++ ": " ++ fault.message) := by
  simp only [describe?, located, Option.bind_eq_bind, Option.bind_some, Value.isPresent_text named, if_true]
  rfl

/-- What becomes of a fault that is made with given entries and then told more in rounds. -/
structure Settled (kind : FaultKind) (message : String) (given : Context) (rounds : List Context)
    (fault : Fault) : Prop where
  unchanged : fault.kind = kind ∧ fault.kind.categoryOf = kind.categoryOf ∧ fault.message = message
  distinct : (fault.context.map Prod.fst).Nodup
  lookup_iff : ∀ key found, fault.context.lookup key = found ↔ Context.FirstSaid given rounds key found
  brackets_iff : (∃ place, fault.location? = some place ∧ fault.Brackets place) ↔
    ∃ label index, fault.PlacedAt label index ∧ ¬ label.ShowsLong ∧ ¬ index.ShowsLong
  missing_iff : fault.location? = none ↔
    ∃ label index, fault.PlacedAt label index ∧ (label.ShowsLong ∨ index.ShowsLong)
  described : ∀ place, fault.location? = some (.text place) → place ≠ "" →
    fault.describe? = some (place ++ ": " ++ message)
  lasting : ∀ label index, fault.PlacedAt label index → ∀ later : List Context,
    (fault.mentionEach later).location? = fault.location? ∧ (fault.mentionEach later).describe? = fault.describe?

/--
The first mention counts.

A fault keeps its kind and its message, and under each key the value that it was made with, unless that is null, or else
the first one that is mentioned, null included. Its location is the label with the index in brackets exactly when both
are known and not null, and then it lasts, as does the description; only a number with too many digits in one of the
two leaves the fault without a location.
-/
theorem first_mention_counts {given : Context} (distinct : (given.map Prod.fst).Nodup) (kind : FaultKind)
    (message : String) (rounds : List Context) :
    Settled kind message given rounds ((ofContext kind message given).mentionEach rounds) where
  -- What is asked of the whole run is what the lemmas say of the joined mentions.
  unchanged := by
    rw [mentionEach_eq]
    exact ⟨rfl, rfl, rfl⟩
  distinct := by
    rw [mentionEach_eq]
    exact Context.nodup_mentionAll (distinct.sublist (List.filter_sublist.map Prod.fst)) rounds.flatten
  lookup_iff key found := by
    rw [lookup_mentionEach, lookup_ofContext distinct, Context.firstSaid_iff]
  brackets_iff := exists_brackets_iff
  missing_iff := location?_eq_none_iff
  described place located named := by
    rw [describe?_of_location located named, mentionEach_eq]
    rfl
  lasting _ _ placed later := ⟨placed.location?_mentionEach later, placed.describe?_mentionEach later⟩

/-- A fault that is made with a null for its label, and then told of two labels and of a null before another value. -/
def relabelled : Fault :=
  (ofContext .negativeLiteral "negative" [("label", .null), ("modulus", .int 7)]).mentionEach
    [[("label", .text "public"), ("value", .null)], [("label", .text "pi_a"), ("value", .int 9), ("index", .text "3")]]

/-- The first label counts, the null that was mentioned stays, and the location lasts. -/
theorem first_mention_counts_null_mentioned :
    relabelled.context.lookup "label" = some (.text "public") ∧ relabelled.context.lookup "value" = some .null ∧
      relabelled.context.lookup "shape" = none ∧
      ∀ later : List Context, (relabelled.mentionEach later).location? = some (.text "public[3]") := by
  have distinct : (([("label", .null), ("modulus", .int 7)] : Context).map Prod.fst).Nodup := by decide
  have settled : Settled _ _ _ _ relabelled := first_mention_counts distinct .negativeLiteral "negative"
    [[("label", .text "public"), ("value", .null)], [("label", .text "pi_a"), ("value", .int 9), ("index", .text "3")]]
  -- The null that was given says nothing, so the first round is the first to name a label.
  have label : relabelled.context.lookup "label" = some (.text "public") :=
    (settled.lookup_iff _ _).mpr <| .mentioned [] (fun _ held => (Option.some.inj held).symm) rfl nofun rfl
  have value : relabelled.context.lookup "value" = some .null :=
    (settled.lookup_iff _ _).mpr <| .mentioned [] nofun rfl nofun rfl
  have shape : relabelled.context.lookup "shape" = none :=
    (settled.lookup_iff _ _).mpr <| .never nofun (by decide)
  have index : relabelled.context.lookup "index" = some (.text "3") :=
    (settled.lookup_iff _ _).mpr <| .mentioned [_] nofun rfl (by decide) rfl
  have placed : relabelled.PlacedAt (.text "public") (.text "3") := ⟨label, index, nofun, nofun⟩
  obtain ⟨place, located, labelText, indexText, labelled, indexed, rfl⟩ := settled.brackets_iff.mpr
    ⟨_, _, placed, Value.not_showsLong_text _, Value.not_showsLong_text _⟩
  refine ⟨label, value, shape, fun later => ?_⟩
  rw [Context.known, label] at labelled
  rw [Context.known, index] at indexed
  cases labelled
  cases indexed
  exact (settled.lasting _ _ placed later).1.trans located

/-- A fault that knows a label, and an index with more digits than are written. -/
def farIndexed : Fault :=
  ofContext (.category .parse) "unread" [("label", .text "public"), ("index", .int Text.decimalBound)]

/-- Label and index are known and not null, and yet the fault has neither a location nor a description. -/
theorem placed_without_location :
    farIndexed.PlacedAt (.text "public") (.int Text.decimalBound) ∧ farIndexed.location? = none ∧
      farIndexed.describe? = none := by
  -- The bound itself has one digit too many.
  have placed : farIndexed.PlacedAt (.text "public") (.int Text.decimalBound) := ⟨rfl, rfl, nofun, nofun⟩
  have missing : farIndexed.location? = none :=
    placed.location?_eq_none_iff.mpr (Or.inr ⟨_, .self, .int (by rw [Int.natAbs_natCast])⟩)
  refine ⟨placed, missing, ?_⟩
  rw [describe?, missing]
  rfl

end Fault

end ProofWire
