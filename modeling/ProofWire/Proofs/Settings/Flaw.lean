import ProofWire.Proofs.Disk.Flaw
import ProofWire.Settings.Basic

/-! Settings that cannot be used: those that are refused with a message, and the flaws for which there is none. -/

namespace ProofWire

/-- A value that is neither an object nor a row of pairs, so that it gives no entries. -/
inductive Section.Unfit : Value → Prop where
  | single {value : Value} (object : ∀ entries, value ≠ .object entries)
    (row : elementItems? value = none) : Unfit value
  | unpaired {value element : Value} {elements : List Value} (row : elementItems? value = some elements)
    (member : element ∈ elements) (single : elementItems? element = none) : Unfit value
  | unkeyed {value element key held : Value} {elements : List Value} (row : elementItems? value = some elements)
    (member : element ∈ elements) (pair : elementItems? element = some [key, held])
    (unfit : isKey key = false) : Unfit value

/-- Elements are not taken for pairs because of one of them. -/
theorem Section.exists_pair_of_pairs {elements : List Value} {index : Nat} {failure : Failure}
    (failed : pairs index elements = .error failure) :
    ∃ element ∈ elements, ∃ place, pair place element = .error failure := by
  -- The first element that is no pair ends the reading, wherever it stands.
  induction elements generalizing index with
  | nil => cases failed
  | cons first rest ih =>
    rw [pairs] at failed
    rcases bind_eq_error_iff.mp failed with refused | ⟨_, _, later⟩
    · exact ⟨first, List.mem_cons_self, index, refused⟩
    · rcases bind_eq_error_iff.mp later with refused | ⟨_, _, done⟩
      · obtain ⟨element, member, place, other⟩ := ih refused
        exact ⟨element, List.mem_cons_of_mem _ member, place, other⟩
      · cases done

/-- A value that gives no entries is refused, or it is unfit. -/
theorem Section.unfit_of_given {value : Value} {failure : Failure} (failed : given value = .error failure) :
    failure.isRejection = true ∨ (failure = .wrongType ∧ Unfit value) := by
  -- An object always gives its entries, and a row of pairs those of its elements.
  unfold given at failed
  split at failed
  · cases failed
  · rename_i object
    split at failed
    · -- An element of the row is no pair.
      rename_i elements row
      obtain ⟨element, member, place, unpaired⟩ := exists_pair_of_pairs failed
      unfold pair at unpaired
      split at unpaired
      · rename_i single
        cases unpaired
        exact Or.inr ⟨rfl, .unpaired row member single⟩
      · rename_i key held pair
        split at unpaired
        · cases unpaired
        · rename_i unfit
          cases unpaired
          exact Or.inr ⟨rfl, .unkeyed row member pair (by simpa using unfit)⟩
      · cases unpaired
        exact Or.inl rfl
    · rename_i single
      cases failed
      exact Or.inr ⟨rfl, .single object single⟩

/-- An entry that is there stays there when another one is set. -/
theorem Section.isSome_get?_insert {entries : Section} {key : Value} (entry : Value × Value)
    (there : (entries.get? key).isSome = true) : ((insert entries entry).get? key).isSome = true := by
  -- A known key keeps its spelling, so that it is found as before.
  simp only [get?, Option.isSome_map, List.find?_isSome] at there ⊢
  obtain ⟨found, member, same⟩ := there
  induction entries with
  | nil => cases member
  | cons first rest ih =>
    rw [insert]
    split
    · rcases List.mem_cons.mp member with rfl | later
      · exact ⟨_, List.mem_cons_self, same⟩
      · exact ⟨found, List.mem_cons_of_mem _ later, same⟩
    · rcases List.mem_cons.mp member with rfl | later
      · exact ⟨_, List.mem_cons_self, same⟩
      · obtain ⟨other, kept, alike⟩ := ih later
        exact ⟨other, List.mem_cons_of_mem _ kept, alike⟩

/-- An entry that is there stays there when its section is updated. -/
theorem Section.isSome_get?_update {entries updated : Section} {source key : Value}
    (done : update entries source = .ok updated) (there : (entries.get? key).isSome = true) :
    (updated.get? key).isSome = true := by
  obtain ⟨changes, given, folded⟩ := bind_eq_ok_iff.mp done
  cases folded
  -- Which value gave the changes does not matter.
  clear given done
  induction changes generalizing entries with
  | nil => exact there
  | cons first rest ih => exact ih (isSome_get?_insert first there)

namespace Config

/-- A section that is set is found, and the others are found as before. -/
theorem lookup_insert (config : Config) (name other : String) (entries : Section) :
    (config.insert name entries).lookup other = if other = name then some entries else config.lookup other := by
  -- The section takes the first place of its name, or the last place of all.
  induction config with
  | nil =>
    rw [insert, List.lookup_cons]
    by_cases same : other = name
    · simp only [same, beq_self_eq_true, if_true]
    · simp only [beq_false_of_ne same, if_neg same, List.lookup_nil]
  | cons first rest ih =>
    rw [insert]
    by_cases here : first.1 = name
    · rw [if_pos here, List.lookup_cons, List.lookup_cons, here]
      by_cases same : other = name
      · simp only [same, beq_self_eq_true, if_true]
      · simp only [beq_false_of_ne same, if_neg same]
    · rw [if_neg here, List.lookup_cons, List.lookup_cons, ih]
      by_cases found : other = first.1
      · have apart : other ≠ name := fun same => here (found.symm.trans same)
        simp only [found, beq_self_eq_true, if_neg here]
      · simp only [beq_false_of_ne found]

/-- The entries that settings have from the start. -/
def Standing (config : Config) : Prop :=
  ∀ entry ∈ [("logger", "name"), ("logger", "level"), ("logger", "format"), ("compat", "hash_algos")],
    (config.get? entry.1 entry.2).isSome = true

/-- An entry that is there stays there when a section is merged. -/
theorem isSome_get?_mergeSection {config merged : Config} {given : String × Value} {name key : String}
    (done : config.mergeSection given = .ok merged) (there : (config.get? name key).isSome = true) :
    (merged.get? name key).isSome = true := by
  obtain ⟨entries, updated, kept⟩ := bind_eq_ok_iff.mp done
  cases kept
  simp only [get?, Option.bind_eq_bind] at there ⊢
  rw [lookup_insert]
  -- The section that had the entry is updated, or it is another one and stays as it is.
  obtain ⟨held, found, entry⟩ : ∃ found, config.lookup name = some found ∧
      (found.get? (.text key)).isSome = true := by
    cases found : config.lookup name with
    | none => rw [found] at there; cases there
    | some entries => rw [found] at there; exact ⟨entries, rfl, there⟩
  by_cases same : name = given.1
  · rw [if_pos same, Option.bind_some]
    rw [← same, found, Option.getD_some] at updated
    exact Section.isSome_get?_update updated entry
  · rw [if_neg same, found]
    exact entry

/-- The defaults have their entries. -/
theorem standing_defaults : defaults.Standing := by
  unfold Standing
  decide

/-- Settings keep their standing entries when a section is merged. -/
theorem Standing.mergeSection {config merged : Config} {given : String × Value} (standing : config.Standing)
    (done : config.mergeSection given = .ok merged) : merged.Standing :=
  fun entry member => isSome_get?_mergeSection done (standing entry member)

/-- Sections that are merged keep the standing entries, or one of them is refused or unfit. -/
theorem Standing.foldlM {config : Config} {given : List (String × Value)} (standing : config.Standing) :
    (∀ merged, given.foldlM Config.mergeSection config = .ok merged → merged.Standing) ∧
      ∀ failure, given.foldlM Config.mergeSection config = .error failure →
        failure.isRejection = true ∨ (failure = .wrongType ∧ ∃ entry ∈ given, Section.Unfit entry.2) := by
  -- The sections are merged one after another, and the first that fails ends this.
  induction given generalizing config with
  | nil =>
    constructor
    · intro merged done
      cases done
      exact standing
    · intro failure failed
      cases failed
  | cons first rest ih =>
    simp only [List.foldlM_cons]
    constructor
    · intro merged done
      obtain ⟨next, updated, later⟩ := bind_eq_ok_iff.mp done
      exact (ih (standing.mergeSection updated)).1 merged later
    · intro failure failed
      rcases bind_eq_error_iff.mp failed with refused | ⟨next, updated, later⟩
      · rcases bind_eq_error_iff.mp refused with unread | ⟨_, _, kept⟩
        · rcases bind_eq_error_iff.mp unread with ungiven | ⟨_, _, kept⟩
          · refine (Section.unfit_of_given ungiven).imp_right fun unfit => ?_
            exact ⟨unfit.1, first, List.mem_cons_self, unfit.2⟩
          · cases kept
        · cases kept
      · refine ((ih (standing.mergeSection updated)).2 failure later).imp_right fun unfit => ?_
        obtain ⟨same, entry, member, unfit⟩ := unfit
        exact ⟨same, entry, List.mem_cons_of_mem _ member, unfit⟩

end Config

namespace Settings

/--
Flaws of settings for which there is no message.

The path cannot be looked up, its file does not open or is too deep, the file or a section in it is of a type without
entries, or one of the three values for the logger is of a wrong type. What else a command asks of its settings may have
`further` flaws.
-/
inductive Flaw (disk : Disk) (depth : Nat) (source : SettingsSource) (further : Settings → Failure → Prop) :
    Failure → Prop where
  | barred {path : String} {refusal : Refusal} (named : source = .file path)
    (refused : disk.isOrdinary path = .error refusal) (told : refusal.isAbsence = false) :
    Flaw disk depth source further (.refused refusal path)
  | unopened {path : String} {refusal : Refusal} (named : source = .file path) (found : disk.isFile path = .ok true)
    (refused : disk.bytes path = .error (.refused refusal path)) :
    Flaw disk depth source further (.refused refusal path)
  | tooDeep {path task : String} (named : source = .file path) (found : disk.isFile path = .ok true)
    (flaw : disk.JsonFlaw depth path (.tooDeep task)) : Flaw disk depth source further (.tooDeep task)
  | noSections {path : String} {value : Value} (named : source = .file path)
    (held : disk.json depth path = .ok value) (object : ∀ entries, value ≠ .object entries) :
    Flaw disk depth source further .noSuchOperation
  | noEntries {path : String} {entries : List (String × Value)} {entry : String × Value}
    (named : source = .file path) (held : disk.json depth path = .ok (.object entries)) (member : entry ∈ entries)
    (unfit : Section.Unfit entry.2) : Flaw disk depth source further .wrongType
  | name {settings : Settings} {value : Value} (loaded : load disk depth source = .ok settings)
    (given : settings.loggerName = .ok value) (present : value.isPresent = true)
    (single : ∀ text, value ≠ .text text) : Flaw disk depth source further .wrongType
  | level {settings : Settings} {value : Value} (loaded : load disk depth source = .ok settings)
    (given : settings.loggerLevel = .ok value) (single : ∀ text, value ≠ .text text) :
    Flaw disk depth source further .noSuchOperation
  | format {settings : Settings} {value : Value} (loaded : load disk depth source = .ok settings)
    (given : settings.loggerFormat = .ok value) (present : value.isPresent = true)
    (single : ∀ text, value ≠ .text text) : Flaw disk depth source further .wrongType
  | further {settings : Settings} {failure : Failure} (loaded : load disk depth source = .ok settings)
    (flawed : further settings failure) : Flaw disk depth source further failure

variable {disk : Disk} {depth : Nat} {source : SettingsSource}

/-- A file that is found fails to be JSON in refused ways, unless it does not open or is too deep. -/
theorem flaw_of_json {path : String} {further : Settings → Failure → Prop} {failure : Failure}
    (named : source = .file path) (found : disk.isFile path = .ok true)
    (failed : disk.json depth path = .error failure) :
    failure.isRejection = true ∨ Flaw disk depth source further failure := by
  -- The file was found, so that what is refused now is its opening.
  rcases Disk.json_cases failed with ⟨_, refused, rfl⟩ | ⟨_, rfl⟩ | flaw
  · exact Or.inr (.unopened named found refused)
  · exact Or.inl rfl
  · rcases flaw.isRejection with rejected | ⟨_, rfl⟩
    · exact Or.inl rejected
    · exact Or.inr (.tooDeep named found flaw)

/-- A path leads to an ordinary file or to none, or it cannot be looked up. -/
theorem isFile_cases (disk : Disk) (path : String) :
    (∃ found, disk.isFile path = .ok found) ∨
      ∃ refusal, disk.isFile path = .error (.refused refusal path) ∧ disk.isOrdinary path = .error refusal ∧
        refusal.isAbsence = false := by
  unfold Disk.isFile
  split
  · exact Or.inl ⟨_, rfl⟩
  · split
    · exact Or.inl ⟨_, rfl⟩
    · rename_i refusal refused
      -- What tells that nothing is there is an answer as well.
      cases told : refusal.isAbsence with
      | true => exact Or.inl ⟨_, rfl⟩
      | false => exact Or.inr ⟨refusal, rfl, refused, told⟩

/-- What a file holds is merged into the defaults, which keeps the standing entries; else it is refused or unfit. -/
theorem merge_cases {path : String} {value : Value} (further : Settings → Failure → Prop)
    (named : source = .file path) (read : disk.json depth path = .ok value) :
    (∃ config, Config.defaults.merge value = .ok config ∧ config.Standing) ∨
      ∃ failure, Config.defaults.merge value = .error failure ∧
        (failure.isRejection = true ∨ Flaw disk depth source further failure) := by
  -- Only an object has sections to merge.
  unfold Config.merge
  split
  · rename_i given
    cases merged : given.foldlM Config.mergeSection Config.defaults with
    | ok config => exact Or.inl ⟨config, rfl, Config.standing_defaults.foldlM.1 config merged⟩
    | error failure =>
      refine Or.inr ⟨failure, rfl, ?_⟩
      refine (Config.standing_defaults.foldlM.2 failure merged).imp_right fun flawed => ?_
      obtain ⟨rfl, entry, member, unfit⟩ := flawed
      exact .noEntries named read member unfit
  · rename_i object
    exact Or.inr ⟨_, rfl, Or.inr (.noSections named read object)⟩

/-- Settings that are loaded have the standing entries; else they are refused or have a flaw. -/
theorem load_cases (disk : Disk) (depth : Nat) (source : SettingsSource) (further : Settings → Failure → Prop) :
    (∃ settings, load disk depth source = .ok settings ∧ settings.config.Standing) ∨
      ∃ failure, load disk depth source = .error failure ∧
        (failure.isRejection = true ∨ Flaw disk depth source further failure) := by
  cases source with
  | standard => exact Or.inl ⟨_, rfl, Config.standing_defaults⟩
  | file path =>
    rw [load]
    rcases isFile_cases disk path with ⟨found, looked⟩ | ⟨refusal, failed, refused, told⟩
    · simp only [looked, Bind.bind, Except.bind]
      cases found with
      | false =>
        -- A path that leads to no file leaves the defaults, as no path does.
        exact Or.inl ⟨_, rfl, Config.standing_defaults⟩
      | true =>
        cases read : disk.json depth path with
        | error failure => exact Or.inr ⟨failure, rfl, flaw_of_json rfl looked read⟩
        | ok value =>
          rcases merge_cases further rfl read with ⟨config, merged, standing⟩ | ⟨failure, unmerged, flawed⟩
          · simp only [merged]
            exact Or.inl ⟨_, rfl, standing⟩
          · simp only [unmerged]
            exact Or.inr ⟨failure, rfl, flawed⟩
    · simp only [failed, Bind.bind, Except.bind]
      exact Or.inr ⟨_, rfl, Or.inr (.barred rfl refused told)⟩

/-- Settings that are loaded have the standing entries. -/
theorem standing_of_load {settings : Settings} (loaded : load disk depth source = .ok settings) :
    settings.config.Standing := by
  -- Whatever is asked further of settings, those that are refused or flawed are not loaded.
  rcases load_cases disk depth source fun _ _ => False with ⟨_, same, standing⟩ | ⟨_, failed, _⟩
  · cases same.symm.trans loaded
    exact standing
  · cases failed.symm.trans loaded

/-- Settings that are not loaded are refused or have a flaw. -/
theorem flaw_of_load {failure : Failure} (further : Settings → Failure → Prop)
    (unloaded : load disk depth source = .error failure) :
    failure.isRejection = true ∨ Flaw disk depth source further failure := by
  -- Settings that are loaded are no failure.
  rcases load_cases disk depth source further with ⟨_, loaded, _⟩ | ⟨_, failed, reason⟩
  · cases loaded.symm.trans unloaded
  · cases failed.symm.trans unloaded
    exact reason

/-- A standing entry is there. -/
theorem exists_entry {settings : Settings} (standing : settings.config.Standing) {name key : String}
    (member : (name, key) ∈ [("logger", "name"), ("logger", "level"), ("logger", "format"),
      ("compat", "hash_algos")]) : ∃ value, settings.entry name key = .ok value := by
  obtain ⟨value, found⟩ := Option.isSome_iff_exists.mp (standing (name, key) member)
  exact ⟨value, by simp only [entry, found]⟩

/--
Flaws of the digest algorithms that settings name: they are named by no sequence, or an unknown one is named by no
text.
-/
inductive AlgorithmFlaw (settings : Settings) : Failure → Prop where
  | noRow {value : Value} (given : settings.entry "compat" "hash_algos" = .ok value)
    (row : Section.elementItems? value = none) : AlgorithmFlaw settings .wrongType
  | noText {value name : Value} {names : List Value} (given : settings.entry "compat" "hash_algos" = .ok value)
    (row : Section.elementItems? value = some names) (member : name ∈ names)
    (unknown : Algorithm.ofValue? name = none) (single : ∀ text, name ≠ .text text) :
    AlgorithmFlaw settings .wrongType

/-- Values are not all texts because of one of them. -/
theorem exists_single_of_texts {values : List Value} {failure : Failure} (failed : texts values = .error failure) :
    failure = .wrongType ∧ ∃ value ∈ values, ∀ text, value ≠ .text text := by
  -- Texts are passed over until a value comes that is none.
  induction values with
  | nil => cases failed
  | cons first rest ih =>
    unfold texts at failed
    split at failed
    · cases failed
    · rename_i same
      obtain ⟨rfl, rfl⟩ := List.cons.inj same
      rcases bind_eq_error_iff.mp failed with unread | ⟨_, _, done⟩
      · obtain ⟨wrong, value, member, single⟩ := ih unread
        exact ⟨wrong, value, List.mem_cons_of_mem _ member, single⟩
      · cases done
    · rename_i single same
      obtain ⟨rfl, rfl⟩ := List.cons.inj same
      cases failed
      exact ⟨rfl, _, List.mem_cons_self, single⟩

/-- Algorithms that cannot be used are refused, or there is a flaw in how they are named. -/
theorem algorithms_cases {settings : Settings} {failure : Failure} (standing : settings.config.Standing)
    (failed : settings.algorithms = .error failure) :
    failure.isRejection = true ∨ settings.AlgorithmFlaw failure := by
  obtain ⟨value, given⟩ : ∃ value, settings.entry "compat" "hash_algos" = .ok value :=
    exists_entry standing (by decide)
  simp only [algorithms, given, Bind.bind, Except.bind] at failed
  split at failed
  · rename_i row
    cases failed
    exact Or.inr (.noRow given row)
  · rename_i names row
    split at failed
    · cases failed
    · -- The message lists the unknown names, all of which have to be texts.
      split at failed
      · rename_i untold
        cases failed
        obtain ⟨rfl, name, member, single⟩ := exists_single_of_texts untold
        obtain ⟨member, unknown⟩ := List.mem_filter.mp member
        exact Or.inr (.noText given row member (Option.isNone_iff_eq_none.mp unknown) single)
      · cases failed
        exact Or.inl rfl

end Settings

end ProofWire
