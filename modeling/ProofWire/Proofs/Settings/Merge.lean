import ProofWire.Proofs.Json.Spelling
import ProofWire.Proofs.Settings.Flaw
import ProofWire.Proofs.Settings.Key

/-! Merged settings: every entry is the last one that the file gives for its key, or else the default. -/

namespace ProofWire

namespace Section

/-- What a value consists of: the items of a sequence, the characters of a text or the names of an object. -/
inductive Elements : Value → List Value → Prop where
  | items {source : Value} {items : List Value} (given : source.items? = some items) : Elements source items
  | characters (text : String) : Elements (.text text) (text.toList.map fun c => .text (String.singleton c))
  | names (entries : List (String × Value)) : Elements (.object entries) (entries.map fun entry => .text entry.1)

/-- An element stands for the key and the value that it consists of. -/
inductive StandsFor : Value → Value × Value → Prop where
  | pair {element key value : Value} (elements : Elements element [key, value]) (fit : isKey key = true) :
    StandsFor element (key, value)

/-- The changes that a value gives for a section: the entries of an object, or the pairs of a row. -/
inductive Gives : Value → List (Value × Value) → Prop where
  | object (entries : List (String × Value)) :
    Gives (.object entries) (entries.map fun entry => (.text entry.1, entry.2))
  | row {source : Value} {elements : List Value} {changes : List (Value × Value)}
    (single : ∀ entries, source ≠ .object entries) (given : Elements source elements)
    (pairs : List.Forall₂ StandsFor elements changes) : Gives source changes

/-- The last value that changes give for a key; no later change is one of that key. -/
inductive LastGiven (key : Value) : List (Value × Value) → Value → Prop where
  | last {front back : List (Value × Value)} {name value : Value} (same : name.NamesSame key)
    (later : ∀ change ∈ back, ¬ change.1.NamesSame key) : LastGiven key (front ++ (name, value) :: back) value

/-- The elements of a value are those that are listed. -/
theorem elementItems?_eq_some_iff {source : Value} {elements : List Value} :
    elementItems? source = some elements ↔ Elements source elements := by
  -- Each kind of value has its own elements, and most kinds have none.
  constructor
  · intro listed
    unfold elementItems? at listed
    split at listed
    · cases listed
      exact .items rfl
    · cases listed
      exact .items rfl
    · cases listed
      exact .characters _
    · cases listed
      exact .names _
    · cases listed
  · intro given
    cases given with
    | items given =>
      unfold Value.items? at given
      split at given
      · exact given
      · exact given
      · cases given
    | characters text => rfl
    | names entries => rfl

/-- An element is taken for the pair that it stands for. -/
theorem pair_eq_ok_iff {index : Nat} {element : Value} {change : Value × Value} :
    pair index element = .ok change ↔ StandsFor element change := by
  -- An element is a pair when its items are two and the first one can be a key.
  constructor
  · intro taken
    unfold pair at taken
    split at taken
    · cases taken
    · rename_i key value listed
      split at taken
      · rename_i fit
        cases taken
        exact .pair (elementItems?_eq_some_iff.mp listed) fit
      · cases taken
    · cases taken
  · rintro ⟨elements, fit⟩
    rw [pair, elementItems?_eq_some_iff.mpr elements]
    exact if_pos fit

/-- Elements are taken for the pairs that they stand for. -/
theorem pairs_eq_ok_iff {index : Nat} {elements : List Value} {changes : List (Value × Value)} :
    pairs index elements = .ok changes ↔ List.Forall₂ StandsFor elements changes := by
  -- The index is for the message only, so that it may be any.
  induction elements generalizing index changes with
  | nil =>
    rw [pairs, List.forall₂_nil_left_iff, Except.ok.injEq]
    exact eq_comm
  | cons element rest ih =>
    constructor
    · intro taken
      obtain ⟨first, firstTaken, taken⟩ := bind_eq_ok_iff.mp taken
      obtain ⟨others, othersTaken, done⟩ := bind_eq_ok_iff.mp taken
      cases done
      exact .cons (pair_eq_ok_iff.mp firstTaken) (ih.mp othersTaken)
    · intro standing
      cases standing with
      | cons first others =>
        exact bind_eq_ok_iff.mpr ⟨_, pair_eq_ok_iff.mpr first, bind_eq_ok_iff.mpr ⟨_, ih.mpr others, rfl⟩⟩

/-- A value has the changes that it gives. -/
theorem given_eq_ok_iff {source : Value} {changes : List (Value × Value)} :
    given source = .ok changes ↔ Gives source changes := by
  -- Objects come first, although they have elements, too.
  constructor
  · intro taken
    unfold given at taken
    split at taken
    · cases taken
      exact .object _
    · rename_i single
      split at taken
      · rename_i elements listed
        exact .row single (elementItems?_eq_some_iff.mp listed) (pairs_eq_ok_iff.mp taken)
      · cases taken
  · intro gives
    cases gives with
    | object entries => rfl
    | row single elements standing =>
      unfold given
      split
      · rename_i entries
        exact absurd rfl (single entries)
      · rw [elementItems?_eq_some_iff.mpr elements]
        exact pairs_eq_ok_iff.mpr standing

/-- The first entry whose key names the same is found. -/
theorem get?_cons (first : Value × Value) (rest : Section) (key : Value) :
    Section.get? (first :: rest) key = if first.1.isSameKey key then some first.2 else rest.get? key := by
  -- The search stops at the first key that fits.
  unfold Section.get?
  rw [List.find?_cons]
  cases first.1.isSameKey key <;> rfl

/-- An entry that is set is found under every key that names the same, and all others are found as before. -/
theorem get?_insert (entries : Section) (change : Value × Value) (key : Value) :
    (insert entries change).get? key = if change.1.isSameKey key then some change.2 else entries.get? key := by
  -- The change replaces the first entry that names the same, or comes last.
  induction entries with
  | nil => rw [insert, get?_cons]
  | cons first rest ih =>
    rw [insert]
    by_cases known : first.1.isSameKey change.1 = true
    · -- The known key, which stays, is found for the same keys as the one that is given.
      have named := Value.isSameKey_iff.mp known
      have alike : first.1.isSameKey key = change.1.isSameKey key := by
        rw [Bool.eq_iff_iff, Value.isSameKey_iff, Value.isSameKey_iff]
        exact ⟨named.symm.trans, named.trans⟩
      rw [if_pos known, get?_cons, get?_cons]
      simp only [alike]
      split <;> rfl
    · -- The first entry stays, and where it is found the change is not.
      rw [if_neg known, get?_cons, get?_cons, ih]
      by_cases found : first.1.isSameKey key = true
      · have other : ¬ change.1.isSameKey key = true := fun same => known (Value.isSameKey_iff.mpr
          ((Value.isSameKey_iff.mp found).trans (Value.isSameKey_iff.mp same).symm))
        rw [if_pos found, if_neg other, if_pos found]
      · rw [if_neg found, if_neg found]

/-- The last change decides for its own key, and those before it decide for the others. -/
theorem lastGiven_append_iff {changes : List (Value × Value)} {change : Value × Value} {key value : Value} :
    LastGiven key (changes ++ [change]) value ↔
      (change.1.NamesSame key ∧ change.2 = value) ∨ (¬ change.1.NamesSame key ∧ LastGiven key changes value) := by
  constructor
  · intro last
    generalize given : changes ++ [change] = whole at last
    obtain ⟨same, later⟩ := last
    rename_i front back name
    -- Either nothing comes later, or the last change does.
    rcases back.eq_nil_or_concat with rfl | ⟨middle, other, rfl⟩
    · obtain ⟨_, final⟩ := List.append_inj' given rfl
      obtain rfl := (List.cons.inj final).1
      exact Or.inl ⟨same, rfl⟩
    · rw [List.concat_eq_append, ← List.cons_append, ← List.append_assoc] at given
      obtain ⟨rfl, final⟩ := List.append_inj' given rfl
      obtain rfl := (List.cons.inj final).1
      rw [List.concat_eq_append] at later
      refine Or.inr ⟨later _ (List.mem_append_right _ List.mem_cons_self), .last same fun entry member => ?_⟩
      exact later entry (List.mem_append_left _ member)
  · rintro (⟨same, rfl⟩ | ⟨other, last⟩)
    · exact .last same (List.forall_mem_nil _)
    · obtain ⟨same, later⟩ := last
      rename_i front back name
      rw [List.append_assoc, List.cons_append]
      refine .last same fun entry member => ?_
      rcases List.mem_append.mp member with earlier | final
      · exact later entry earlier
      · rw [List.mem_singleton.mp final]
        exact other

/-- Without changes there is no last one. -/
theorem not_lastGiven_nil {key value : Value} : ¬ LastGiven key [] value := by
  -- The last change is one of them.
  intro last
  generalize given : [] = changes at last
  obtain ⟨_, _⟩ := last
  cases List.append_eq_nil_iff.mp given.symm with
  | intro _ impossible => cases impossible

/-- A section holds the last value that changes give for a key, or what it held before if there is none. -/
theorem get?_foldl_insert_iff {entries : Section} {changes : List (Value × Value)} {key value : Value} :
    (changes.foldl insert entries).get? key = some value ↔
      LastGiven key changes value ∨ ((∀ other, ¬ LastGiven key changes other) ∧ entries.get? key = some value) := by
  -- The induction takes the last change away, which is the one that decides first.
  induction changes using List.reverseRecOn with
  | nil =>
    rw [List.foldl_nil, or_iff_right not_lastGiven_nil, and_iff_right fun _ => not_lastGiven_nil]
  | append_singleton changes change ih =>
    rw [List.foldl_append, List.foldl_cons, List.foldl_nil, get?_insert]
    simp only [lastGiven_append_iff]
    by_cases same : change.1.NamesSame key
    · rw [if_pos (Value.isSameKey_iff.mpr same), Option.some.injEq]
      constructor
      · exact fun value => Or.inl (Or.inl ⟨same, value⟩)
      · rintro ((⟨_, value⟩ | ⟨other, _⟩) | ⟨none, _⟩)
        · exact value
        · exact absurd same other
        · exact absurd (Or.inl ⟨same, rfl⟩) (none change.2)
    · rw [if_neg (mt Value.isSameKey_iff.mp same), ih]
      simp only [same, false_and, false_or, not_false_eq_true, true_and]

/-- An update holds the last value that its source gives for a key, or what was held before if there is none. -/
theorem exists_gives_of_update {entries updated : Section} {source : Value}
    (done : update entries source = .ok updated) :
    ∃ changes, Gives source changes ∧ ∀ key value, updated.get? key = some value ↔
      LastGiven key changes value ∨ ((∀ other, ¬ LastGiven key changes other) ∧ entries.get? key = some value) := by
  -- The changes are taken first, and then they are put in one after the other.
  obtain ⟨changes, taken, folded⟩ := bind_eq_ok_iff.mp done
  cases folded
  exact ⟨changes, given_eq_ok_iff.mp taken, fun _ _ => get?_foldl_insert_iff⟩

end Section

namespace Config

/-- The value under a key of a section. -/
def value? (config : Config) (name : String) (key : Value) : Option Value :=
  ((config.lookup name).getD []).get? key

/-- The last value that the section of a name gives for a key, among the sections of a file. -/
inductive Gives (sections : List (String × Value)) (name : String) (key : Value) : Value → Prop where
  | last {source value : Value} {changes : List (Value × Value)} (named : sections.lookup name = some source)
    (given : Section.Gives source changes) (last : Section.LastGiven key changes value) :
    Gives sections name key value

variable {config merged : Config} {sections : List (String × Value)}

/-- The entries of settings are the values under their texts. -/
theorem get?_eq_value? (config : Config) (name key : String) : config.get? name key = config.value? name (.text key) := by
  unfold get? value?
  cases config.lookup name <;> rfl

/-- Merging a section gives its name the updated entries and leaves all other sections as they are. -/
theorem lookup_mergeSection {given : String × Value} (done : config.mergeSection given = .ok merged) :
    ∃ updated, Section.update ((config.lookup given.1).getD []) given.2 = .ok updated ∧
      ∀ name, merged.lookup name = if name = given.1 then some updated else config.lookup name := by
  -- Only the section of that name is put in again.
  obtain ⟨updated, updates, kept⟩ := bind_eq_ok_iff.mp done
  cases kept
  exact ⟨updated, updates, fun name => lookup_insert config given.1 name updated⟩

/-- Sections that a file does not name stay as they are, and each other one is updated once. -/
theorem lookup_foldlM (distinct : (sections.map Prod.fst).Nodup)
    (done : sections.foldlM mergeSection config = .ok merged) (name : String) :
    (sections.lookup name = none ∧ merged.lookup name = config.lookup name) ∨
      ∃ source updated, sections.lookup name = some source ∧ merged.lookup name = some updated ∧
        Section.update ((config.lookup name).getD []) source = .ok updated := by
  -- The first section is merged, and the others find the settings that it leaves.
  induction sections generalizing config with
  | nil =>
    cases done
    exact Or.inl ⟨rfl, rfl⟩
  | cons first rest ih =>
    rw [List.foldlM_cons] at done
    obtain ⟨next, mergedFirst, later⟩ := bind_eq_ok_iff.mp done
    obtain ⟨fresh, distinct⟩ := List.nodup_cons.mp distinct
    obtain ⟨updated, updates, kept⟩ := lookup_mergeSection mergedFirst
    have others := ih distinct later
    rw [kept] at others
    rw [List.lookup_cons]
    by_cases same : name = first.1
    · -- The name does not occur again, so that its section stays as it is now.
      have unnamed : rest.lookup name = none := by
        refine List.lookup_eq_none_iff.mpr fun entry member => bne_iff_ne.mpr fun other => ?_
        exact fresh (List.mem_map.mpr ⟨entry, member, other.symm.trans same⟩)
      rw [if_pos same] at others
      rcases others with ⟨_, found⟩ | ⟨_, _, named, _⟩
      · rw [beq_iff_eq.mpr same]
        exact Or.inr ⟨first.2, updated, rfl, found, same ▸ updates⟩
      · cases unnamed.symm.trans named
    · rw [if_neg same] at others
      rw [beq_false_of_ne same]
      exact others

/-- A section that is named gives what its changes do. -/
theorem gives_iff {name : String} {source key value : Value} {changes : List (Value × Value)}
    (named : sections.lookup name = some source) (given : Section.Gives source changes) :
    Gives sections name key value ↔ Section.LastGiven key changes value := by
  constructor
  · rintro ⟨other, otherGiven, last⟩
    obtain rfl := Option.some.inj (named.symm.trans other)
    -- A value does not give two rows of changes.
    have same := (Section.given_eq_ok_iff.mpr given).symm.trans (Section.given_eq_ok_iff.mpr otherGiven)
    rwa [Except.ok.inj same]
  · exact .last named given

/-- Settings hold the last value that the file gives for a key, or else what they held before. -/
theorem value?_foldlM_iff (distinct : (sections.map Prod.fst).Nodup)
    (done : sections.foldlM mergeSection config = .ok merged) {name : String} {key value : Value} :
    merged.value? name key = some value ↔
      Gives sections name key value ∨
        ((∀ other, ¬ Gives sections name key other) ∧ config.value? name key = some value) := by
  -- A name is given once at most, so that one section of the file decides about its keys.
  unfold value?
  rcases lookup_foldlM distinct done name with ⟨unnamed, kept⟩ | ⟨source, updated, named, found, updates⟩
  · have never : ∀ other, ¬ Gives sections name key other := by
      rintro other ⟨named, _, _⟩
      cases unnamed.symm.trans named
    rw [kept, or_iff_right (never value), and_iff_right never]
  · obtain ⟨changes, given, held⟩ := Section.exists_gives_of_update updates
    simp only [found, Option.getD_some, gives_iff named given]
    exact held key value

/-- Sections are merged exactly when each of them gives its changes. -/
theorem exists_foldlM_iff {config : Config} :
    (∃ merged, sections.foldlM mergeSection config = .ok merged) ↔
      ∀ entry ∈ sections, ∃ changes, Section.Gives entry.2 changes := by
  -- Whether a section gives changes does not depend on the settings that it is merged into.
  induction sections generalizing config with
  | nil => exact ⟨fun _ => List.forall_mem_nil _, fun _ => ⟨config, rfl⟩⟩
  | cons first rest ih =>
    rw [List.forall_mem_cons, List.foldlM_cons]
    constructor
    · rintro ⟨merged, done⟩
      obtain ⟨next, mergedFirst, later⟩ := bind_eq_ok_iff.mp done
      obtain ⟨updated, updates, _⟩ := lookup_mergeSection mergedFirst
      obtain ⟨changes, given, _⟩ := Section.exists_gives_of_update updates
      exact ⟨⟨changes, given⟩, ih.mp ⟨merged, later⟩⟩
    · rintro ⟨⟨changes, given⟩, others⟩
      have taken := Section.given_eq_ok_iff.mpr given
      have updates : Section.update ((config.lookup first.1).getD []) first.2
          = .ok (changes.foldl Section.insert ((config.lookup first.1).getD [])) :=
        bind_eq_ok_iff.mpr ⟨changes, taken, rfl⟩
      obtain ⟨merged, later⟩ := ih.mpr others
      exact ⟨merged, bind_eq_ok_iff.mpr ⟨_, bind_eq_ok_iff.mpr ⟨_, updates, rfl⟩, later⟩⟩

end Config

/-- A value names an algorithm when it is the text of its name. -/
theorem Algorithm.ofValue?_eq_some_iff {value : Value} {algorithm : Algorithm} :
    ofValue? value = some algorithm ↔ value = .text algorithm.name := by
  -- Only the two known texts have an algorithm.
  constructor
  · intro named
    unfold ofValue? at named
    split at named
    · unfold ofName? at named
      split at named <;> cases named <;> rfl
    · cases named
  · rintro rfl
    exact ofName?_name algorithm

/-- The names without an algorithm are those besides the two known ones. -/
theorem Algorithm.isNone_ofName? (name : String) : (ofName? name).isNone = decide (name ∉ ["sha256", "keccak"]) := by
  -- Two names are known.
  unfold ofName?
  split
  · rfl
  · rfl
  · rename_i first second
    exact (decide_eq_true (by simpa using ⟨first, second⟩)).symm

namespace Settings

/-- An entry is the value under the text of its key. -/
theorem entry_eq_ok_iff {settings : Settings} {name key : String} {value : Value} :
    settings.entry name key = .ok value ↔ settings.config.value? name (.text key) = some value := by
  -- An entry that is missing is an error, and nothing else is.
  rw [entry, Config.get?_eq_value?]
  cases settings.config.value? name (.text key) with
  | none =>
    constructor
    · intro found
      cases found
    · intro held
      cases held
  | some held => rw [Except.ok.injEq, Option.some.injEq]

/-- Values that are all texts have these texts. -/
theorem texts_map (names : List String) : texts (names.map .text) = .ok names := by
  -- Texts are taken one by one.
  induction names with
  | nil => rfl
  | cons name rest ih => exact bind_eq_ok_iff.mpr ⟨rest, ih, rfl⟩

/-- The elements that name the algorithms are sorted into known and unknown ones. -/
theorem algorithms_eq {settings : Settings} {value : Value} {elements : List Value}
    (named : settings.entry "compat" "hash_algos" = .ok value) (listed : Section.Elements value elements) :
    settings.algorithms =
      if (elements.filter fun element => (Algorithm.ofValue? element).isNone).isEmpty then
        .ok (elements.filterMap Algorithm.ofValue?)
      else texts (elements.filter fun element => (Algorithm.ofValue? element).isNone) >>= fun unknown =>
        .error (.unsupportedAlgorithms settings.source.text unknown) := by
  simp only [algorithms, named, Section.elementItems?_eq_some_iff.mpr listed, Bind.bind, Except.bind]
  rfl

/-- Elements that all name algorithms are the texts of these in order. -/
theorem map_filterMap_ofValue? {elements : List Value}
    (known : ∀ element ∈ elements, ¬ (Algorithm.ofValue? element).isNone = true) :
    (elements.filterMap Algorithm.ofValue?).map (fun algorithm => Value.text algorithm.name) = elements := by
  -- Every element names an algorithm, whose text it is.
  induction elements with
  | nil => rfl
  | cons first rest ih =>
    obtain ⟨knownFirst, knownRest⟩ := List.forall_mem_cons.mp known
    cases named : Algorithm.ofValue? first with
    | none => exact absurd (by rw [named]; rfl) knownFirst
    | some algorithm =>
      rw [List.filterMap_cons_some named, List.map_cons, ih knownRest, Algorithm.ofValue?_eq_some_iff.mp named]

/-- The algorithms are the elements in order, as long as each of them names one. -/
theorem algorithms_eq_ok_iff {settings : Settings} {value : Value} {elements : List Value}
    (named : settings.entry "compat" "hash_algos" = .ok value) (listed : Section.Elements value elements)
    {algorithms : List Algorithm} :
    settings.algorithms = .ok algorithms ↔ elements = algorithms.map fun algorithm => .text algorithm.name := by
  rw [algorithms_eq named listed]
  constructor
  · intro done
    split at done
    · rename_i known
      cases done
      exact (map_filterMap_ofValue? (List.filter_eq_nil_iff.mp (List.isEmpty_iff.mp known))).symm
    · obtain ⟨_, _, failed⟩ := bind_eq_ok_iff.mp done
      cases failed
  · -- Every name leads back to its algorithm, so that none is unknown.
    rintro rfl
    have back : Algorithm.ofValue? ∘ (fun algorithm => Value.text algorithm.name) = some :=
      funext fun algorithm => Algorithm.ofValue?_eq_some_iff.mpr rfl
    have known : ((algorithms.map fun algorithm => Value.text algorithm.name).filter
        fun element => (Algorithm.ofValue? element).isNone) = [] := by
      refine List.filter_eq_nil_iff.mpr (List.forall_mem_map.mpr fun algorithm _ => ?_)
      rw [Algorithm.ofValue?_eq_some_iff.mpr rfl]
      exact Bool.false_ne_true
    rw [known, List.filterMap_map, back, List.filterMap_some]
    rfl

/-- Texts that name no algorithm are told in order. -/
theorem algorithms_eq_error {settings : Settings} {value : Value} {names : List String}
    (named : settings.entry "compat" "hash_algos" = .ok value) (listed : Section.Elements value (names.map .text))
    (unknown : ∃ name ∈ names, name ∉ ["sha256", "keccak"]) :
    settings.algorithms = .error (.unsupportedAlgorithms settings.source.text
      (names.filter fun name => name ∉ ["sha256", "keccak"])) := by
  -- Those that are not known are left by the filter, and there is one at least.
  have sorted : ((names.map Value.text).filter fun element => (Algorithm.ofValue? element).isNone)
      = (names.filter fun name => name ∉ ["sha256", "keccak"]).map .text := by
    rw [List.filter_map]
    exact congrArg (List.map Value.text) (List.filter_congr fun name _ => Algorithm.isNone_ofName? name)
  have filled : ¬ ((names.filter fun name => name ∉ ["sha256", "keccak"]).map Value.text).isEmpty = true := by
    obtain ⟨name, member, strange⟩ := unknown
    rw [List.isEmpty_map, List.isEmpty_iff]
    exact List.ne_nil_of_mem (List.mem_filter.mpr ⟨member, decide_eq_true strange⟩)
  rw [algorithms_eq named listed, sorted, if_neg filled, texts_map]
  rfl

/-- A file that holds an object has its sections merged into the defaults. -/
theorem load_of_object {disk : Disk} {depth : Nat} {path : String} {sections : List (String × Value)}
    (found : disk.isFile path = .ok true) (held : disk.json depth path = .ok (.object sections)) :
    load disk depth (.file path) =
      (sections.foldlM Config.mergeSection Config.defaults) >>= fun config => .ok ⟨.file path, config⟩ := by
  simp only [load, found, held, Config.merge, Bind.bind, Except.bind]
  rfl

/-- What settings come to that are merged from the sections of a file. -/
structure Merged (sections : List (String × Value)) (settings : Settings) : Prop where
  value?_iff : ∀ name key value, settings.config.value? name key = some value ↔
    Config.Gives sections name key value ∨
      ((∀ other, ¬ Config.Gives sections name key other) ∧ Config.defaults.value? name key = some value)
  entries : ∀ name key value, settings.entry name key = .ok value ↔
    settings.config.value? name (.text key) = some value
  unnamed : ∀ name, sections.lookup name = none → settings.config.lookup name = Config.defaults.lookup name
  standing : (∃ value, settings.loggerName = .ok value) ∧ (∃ value, settings.loggerLevel = .ok value) ∧
    (∃ value, settings.loggerFormat = .ok value) ∧ ∃ value, settings.entry "compat" "hash_algos" = .ok value
  accepted : ∀ value elements, settings.entry "compat" "hash_algos" = .ok value → Section.Elements value elements →
    ∀ algorithms, settings.algorithms = .ok algorithms ↔
      elements = algorithms.map fun algorithm => .text algorithm.name
  refused : ∀ value (names : List String), settings.entry "compat" "hash_algos" = .ok value →
    Section.Elements value (names.map .text) → (∃ name ∈ names, name ∉ ["sha256", "keccak"]) →
    settings.algorithms = .error (.unsupportedAlgorithms settings.source.text
      (names.filter fun name => name ∉ ["sha256", "keccak"]))

/-- Settings whose sections have distinct names are merged from them. -/
theorem merged_of_foldlM {source : SettingsSource} {sections : List (String × Value)} {config : Config}
    (distinct : (sections.map Prod.fst).Nodup) (done : sections.foldlM Config.mergeSection Config.defaults = .ok config) :
    Merged sections ⟨source, config⟩ where
  -- The defaults are merged with the sections of the file, and each field is about one lookup.
  value?_iff _ _ _ := Config.value?_foldlM_iff distinct done
  entries _ _ _ := entry_eq_ok_iff
  unnamed := by
    intro name unnamed
    rcases Config.lookup_foldlM distinct done name with ⟨_, kept⟩ | ⟨_, _, named, _⟩
    · exact kept
    · cases unnamed.symm.trans named
  standing := by
    have standing := Config.standing_defaults.foldlM.1 config done
    exact ⟨exists_entry standing (by decide), exists_entry standing (by decide), exists_entry standing (by decide),
      exists_entry standing (by decide)⟩
  accepted _ _ named listed _ := algorithms_eq_ok_iff named listed
  refused _ _ named listed unknown := algorithms_eq_error named listed unknown

/--
Settings from a file keep the defaults wherever the file gives nothing else.

The file is an object whose last member of a name is the section of that name. Settings are loaded exactly when each
section is an object or a row of pairs. An entry is the last one that its section gives for the key, or else the
default, so that the standing entries are always there.
-/
theorem settings_merged {disk : Disk} {depth : Nat} {path : String} {sections : List (String × Value)}
    (found : disk.isFile path = .ok true) (held : disk.json depth path = .ok (.object sections)) :
    (∃ text members, disk.text path = .ok text ∧
        Json.SpellsObject ((Json.tokens text).map Json.Lexeme.token) members ∧
        ∀ name, sections.lookup name = members.reverse.lookup name) ∧
      ((∃ settings, load disk depth (.file path) = .ok settings) ↔
        ∀ entry ∈ sections, ∃ changes, Section.Gives entry.2 changes) ∧
      ∀ settings, load disk depth (.file path) = .ok settings → settings.source = .file path ∧ Merged sections settings := by
  -- The file is read as an object, whose last members count, and then its sections are merged.
  obtain ⟨text, given, spelled⟩ := Disk.spells_of_json held
  obtain ⟨members, object, rfl⟩ := Json.exists_members_of_spells spelled
  rw [load_of_object found held]
  refine ⟨⟨text, members, given, object, Value.lookup_entriesOf members⟩, ?_, ?_⟩
  · rw [← Config.exists_foldlM_iff]
    constructor
    · rintro ⟨settings, loaded⟩
      obtain ⟨config, done, _⟩ := bind_eq_ok_iff.mp loaded
      exact ⟨config, done⟩
    · rintro ⟨config, done⟩
      exact ⟨_, bind_eq_ok_iff.mpr ⟨config, done, rfl⟩⟩
  · intro settings loaded
    obtain ⟨config, done, same⟩ := bind_eq_ok_iff.mp loaded
    cases same
    exact ⟨rfl, merged_of_foldlM (Value.nodup_entriesOf members) done⟩

/-- A disk whose files give the level of the logger twice. -/
def twoLevels : Disk where
  contents _ :=
    .ok ("\x7b\"logger\": \x7b\"level\": 1, \"level\": 2\x7d\x7d".toList.map fun c => UInt8.ofNat c.toNat)
  isOrdinary _ := .ok true

/-- The later one of two levels counts, and the algorithms that are not mentioned are the default ones. -/
theorem settings_merged_two_levels :
    ∃ settings, load twoLevels 990 (.file "c") = .ok settings ∧
      settings.config.value? "logger" (.text "level") = some (.int 2) ∧
      settings.config.lookup "compat" = Config.defaults.lookup "compat" := by
  -- The object of the section has the later member only.
  have found : twoLevels.isFile "c" = .ok true := rfl
  have held : twoLevels.json 990 "c" = .ok (.object [("logger", .object [("level", .int 2)])]) := rfl
  obtain ⟨_, loads, merges⟩ := settings_merged found held
  have given : Section.Gives (.object [("level", .int 2)]) ([] ++ (.text "level", .int 2) :: []) := .object _
  obtain ⟨settings, loaded⟩ := loads.mpr (List.forall_mem_singleton.mpr ⟨_, given⟩)
  obtain ⟨_, merged⟩ := merges settings loaded
  refine ⟨settings, loaded, (merged.value?_iff _ _ _).mpr (Or.inl ?_), merged.unnamed "compat" rfl⟩
  exact .last rfl given (.last ⟨_, .text _, .text _⟩ (List.forall_mem_nil _))

end Settings

end ProofWire
