import Mathlib
import ProofWire.Log.State

/-! Taking names into use, and reporting: what moves in the hierarchy of loggers, and what stays as it is. -/

namespace ProofWire.Log

/-- What is set for a logger, whatever stands above it. -/
def Logger.own (logger : Logger) : Logger :=
  { logger with parent := none }

namespace LoggerName

/-- A name above another one is shorter. -/
theorem length_aboveReversed (text : List Char) : ∀ name ∈ aboveReversed text, name.length < text.length := by
  -- Induction on the reversed text: a name above ends at a dot, and what is in front of a dot is shorter.
  induction text using aboveReversed.induct with
  | case1 last rest ih =>
    rw [aboveReversed]
    refine List.forall_mem_cons.mpr ⟨by simp, fun name member => ?_⟩
    have shorter := ih name member
    simp only [List.length_cons]
    omega
  | case2 c rest single ih =>
    intro name member
    rw [aboveReversed] at member
    · have shorter := ih name member
      simp only [List.length_cons]
      omega
    · exact single
  | case3 =>
    intro name member
    cases member

/-- No name stands above itself. -/
theorem notMem_above (text : String) : text ∉ above text := by
  -- It would be shorter than itself.
  intro member
  have shorter := length_aboveReversed _ text member
  rw [List.length_reverse, String.length_toList] at shorter
  exact Nat.lt_irrefl _ shorter

end LoggerName

namespace Registry

variable {registry : Registry} {name other : LoggerName} {text : String}

/-- A changed logger is changed, and the others are not. -/
theorem logger_change (registry : Registry) (name other : LoggerName) (next : Logger → Logger) :
    (registry.change name next).logger other =
      if other = name then next (registry.logger other) else registry.logger other :=
  rfl

/-- What a change leaves as it is at one logger, it leaves as it is at all of them. -/
theorem change_keeps (registry : Registry) (name : LoggerName) {next : Logger → Logger} {α : Type} (part : Logger → α)
    (kept : part (next (registry.logger name)) = part (registry.logger name)) (other : LoggerName) :
    part ((registry.change name next).logger other) = part (registry.logger other) := by
  -- Only one logger changes, and there it is kept.
  rw [logger_change]
  split
  · rename_i here
    rw [here, kept]
  · rfl

/-- A parent is all that a logger gets. -/
theorem own_setParent (registry : Registry) (name parent other : LoggerName) :
    ((registry.setParent name parent).logger other).own = (registry.logger other).own := by
  rw [setParent, logger_change]
  split <;> rfl

/-- Only the logger that gets a parent moves. -/
theorem logger_setParent_of_ne (registry : Registry) {name parent other : LoggerName} (apart : other ≠ name) :
    (registry.setParent name parent).logger other = registry.logger other := by
  rw [setParent, logger_change, if_neg apart]

/-- The logger that gets a parent has it. -/
theorem parent_setParent (registry : Registry) (name parent : LoggerName) :
    ((registry.setParent name parent).logger name).parent = some parent := by
  rw [setParent, logger_change, if_pos rfl]

/-- Settling lets a logger wait, and then gives it one parent. -/
theorem settle_eq (registry : Registry) (text : String) (above : List String) :
    ∃ waiting parent,
      registry.settle text above = ({ registry with waiting } : Registry).setParent (.named text) parent := by
  -- A name above that is not in use only adds to what is waited for.
  induction above generalizing registry with
  | nil => exact ⟨registry.waiting, .root, rfl⟩
  | cons first rest ih =>
    rw [settle]
    split
    · exact ⟨registry.waiting, .named first, rfl⟩
    · exact ih (registry.wait first text)

/-- Settling gives a logger a parent and does nothing else to the loggers. -/
theorem own_settle (registry : Registry) (text : String) (above : List String) (other : LoggerName) :
    ((registry.settle text above).logger other).own = (registry.logger other).own := by
  obtain ⟨_, _, settled⟩ := registry.settle_eq text above
  rw [settled, own_setParent]

/-- Only the logger that settles moves. -/
theorem logger_settle_of_ne (registry : Registry) {text : String} (above : List String) {other : LoggerName}
    (apart : other ≠ .named text) : (registry.settle text above).logger other = registry.logger other := by
  obtain ⟨_, _, settled⟩ := registry.settle_eq text above
  rw [settled, logger_setParent_of_ne _ apart]

/-- A logger that settles has a parent. -/
theorem isSome_parent_settle (registry : Registry) (text : String) (above : List String) :
    ((registry.settle text above).logger (.named text)).parent.isSome = true := by
  obtain ⟨_, _, settled⟩ := registry.settle_eq text above
  rw [settled, parent_setParent, Option.isSome_some]

/-- Settling takes no name into use. -/
theorem known_settle (registry : Registry) (text : String) (above : List String) :
    (registry.settle text above).known = registry.known := by
  -- Neither waiting nor a parent puts a name into use.
  obtain ⟨_, _, settled⟩ := registry.settle_eq text above
  rw [settled]
  rfl

/-- A logger with no name in use above it settles below the root. -/
theorem parent_settle (registry : Registry) (text : String) {above : List String}
    (unknown : ∀ first ∈ above, registry.known.contains first = false) :
    ((registry.settle text above).logger (.named text)).parent = some .root := by
  -- With none of the names in use, the row is walked to its end, where the root is.
  induction above generalizing registry with
  | nil => exact parent_setParent registry _ _
  | cons first rest ih =>
    obtain ⟨absent, later⟩ := List.forall_mem_cons.mp unknown
    rw [settle, if_neg (by rw [absent]; decide)]
    exact ih (registry.wait first text) later

/-- A logger that settles waits for names above it, and no other logger begins to wait. -/
theorem waiting_settle (registry : Registry) (text : String) (above : List String) {awaited below : String}
    (waits : below ∈ (registry.settle text above).waiting awaited) :
    below ∈ registry.waiting awaited ∨ (below = text ∧ awaited ∈ above) := by
  induction above generalizing registry with
  | nil => exact Or.inl waits
  | cons first rest ih =>
    rw [settle] at waits
    split at waits
    · exact Or.inl waits
    · rcases ih (registry.wait first text) waits with before | ⟨same, member⟩
      · by_cases here : awaited = first
        · -- This is where the logger itself came to wait.
          simp only [wait, if_pos here, List.mem_append, List.mem_singleton] at before
          exact before.imp_right fun same => ⟨same, here ▸ List.mem_cons_self⟩
        · simp only [wait, if_neg here] at before
          exact Or.inl before
      · exact Or.inr ⟨same, List.mem_cons_of_mem _ member⟩

/-- What the single moves keep, adopting keeps: a logger that waits comes below the new one, and that one below its
parent. -/
theorem adopt_keeps (Kept : Registry → Prop) {text : String} {waiting : List String}
    (moves : ∀ registry parent, ∀ below ∈ waiting, Kept registry →
      Kept ((registry.setParent (.named text) parent).setParent (.named below) (.named text)))
    {registry : Registry} (start : Kept registry) : Kept (registry.adopt text waiting).1 := by
  -- One logger that waits may end it or be passed over; else there is one more move.
  induction waiting generalizing registry with
  | nil => exact start
  | cons below rest ih =>
    have later := fun registry parent other member =>
      moves registry parent other (List.mem_cons_of_mem below member)
    rw [adopt]
    split
    · exact start
    · split
      · exact ih later start
      · exact ih later (moves registry _ below List.mem_cons_self start)

/-- Adopting moves loggers and does nothing else to them. -/
theorem own_adopt (registry : Registry) (text : String) (waiting : List String) (other : LoggerName) :
    ((registry.adopt text waiting).1.logger other).own = (registry.logger other).own := by
  -- Each move changes a parent and nothing else.
  refine adopt_keeps (fun next => (next.logger other).own = (registry.logger other).own) ?_ rfl
  intro next parent below _ kept
  rw [own_setParent, own_setParent, kept]

/-- Adopting moves the new logger and those that waited for it. -/
theorem logger_adopt_of_notMem (registry : Registry) {text : String} (waiting : List String) {other : LoggerName}
    (apart : other ≠ .named text) (absent : ∀ below ∈ waiting, other ≠ .named below) :
    (registry.adopt text waiting).1.logger other = registry.logger other := by
  -- Each move is one of the new logger or of one that waited.
  refine adopt_keeps (fun next => next.logger other = registry.logger other) ?_ rfl
  intro next parent below member kept
  rw [logger_setParent_of_ne _ (absent below member), logger_setParent_of_ne _ apart, kept]

/-- Adopting gives a logger that waited the new one for its parent, or leaves it where it was. -/
theorem parent_adopt (registry : Registry) (text : String) (waiting : List String) (apart : other ≠ .named text) :
    ((registry.adopt text waiting).1.logger other).parent = (registry.logger other).parent ∨
      ((registry.adopt text waiting).1.logger other).parent = some (.named text) := by
  refine adopt_keeps (fun next => (next.logger other).parent = (registry.logger other).parent ∨
    (next.logger other).parent = some (.named text)) ?_ (Or.inl rfl)
  -- A logger that waited comes below the new one, and the next move leaves it there.
  intro next parent below _ kept
  by_cases moved : other = .named below
  · rw [moved, parent_setParent]
    exact Or.inr rfl
  · rw [logger_setParent_of_ne _ moved, logger_setParent_of_ne _ apart]
    exact kept

/-- Adopting takes no name into use and lets none wait. -/
theorem known_adopt (registry : Registry) (text : String) (waiting : List String) :
    (registry.adopt text waiting).1.known = registry.known ∧
      (registry.adopt text waiting).1.waiting = registry.waiting :=
  adopt_keeps (fun next => next.known = registry.known ∧ next.waiting = registry.waiting)
    (fun _ _ _ _ kept => kept) ⟨rfl, rfl⟩

/-- A parent that was there is replaced at most. -/
theorem isSome_parent_setParent (registry : Registry) (name parent : LoggerName) {other : LoggerName}
    (there : (registry.logger other).parent.isSome = true) :
    ((registry.setParent name parent).logger other).parent.isSome = true := by
  -- Only the logger that is moved has another parent, and that one is given.
  rw [setParent, logger_change]
  split
  · rfl
  · exact there

/-- Loggers that have parents are adopted. -/
theorem adopt_ok (registry : Registry) (text : String) {waiting : List String}
    (parents : ∀ below ∈ waiting, (registry.logger (.named below)).parent.isSome = true) :
    (registry.adopt text waiting).2 = .ok () := by
  -- A logger that waits ends this only when it has no parent, and no move takes one away.
  induction waiting generalizing registry with
  | nil => rfl
  | cons below rest ih =>
    obtain ⟨first, later⟩ := List.forall_mem_cons.mp parents
    rw [adopt]
    split
    · rename_i orphan
      rw [orphan] at first
      cases first
    · split
      · exact ih registry later
      · refine ih _ fun other member => ?_
        exact isSome_parent_setParent _ _ _ (isSome_parent_setParent _ _ _ (later other member))

/-- Adopting takes no parent away. -/
theorem isSome_parent_adopt (registry : Registry) (text : String) (waiting : List String)
    (there : (registry.logger other).parent.isSome = true) :
    ((registry.adopt text waiting).1.logger other).parent.isSome = true :=
  adopt_keeps (fun next => (next.logger other).parent.isSome = true)
    (fun _ _ _ _ kept => isSome_parent_setParent _ _ _ (isSome_parent_setParent _ _ _ kept)) there

/-- A name among those in use. -/
def enlist (registry : Registry) (text : String) : Registry :=
  { registry with known := registry.known ++ [text] }

/--
A name is in use already, or it is taken into use: the loggers that wait for it are adopted, and then it settles.
Adopting may fail, which ends this.
-/
inductive Uses (registry : Registry) : LoggerName → Registry × Except Failure Unit → Prop where
  | root : Uses registry .root (registry, .ok ())
  | known {text : String} (there : registry.known.contains text = true) :
    Uses registry (.named text) (registry, .ok ())
  | fresh {text : String} (absent : registry.known.contains text = false)
    (adopted : ((registry.enlist text).adopt text (registry.waiting text)).2 = .ok ()) :
    Uses registry (.named text)
      (((registry.enlist text).adopt text (registry.waiting text)).1.settle text (LoggerName.above text), .ok ())
  | orphaned {text : String} {failure : Failure} (absent : registry.known.contains text = false)
    (refused : ((registry.enlist text).adopt text (registry.waiting text)).2 = .error failure) :
    Uses registry (.named text)
      (((registry.enlist text).adopt text (registry.waiting text)).1, .error failure)

/-- Taking a name into use comes to one of these. -/
theorem uses_use (registry : Registry) (name : LoggerName) : registry.Uses name (registry.use name) := by
  cases name with
  | root => exact .root
  | named text =>
    cases there : registry.known.contains text with
    | true =>
      rw [use, if_pos there]
      exact .known there
    | false =>
      have absent : ¬ registry.known.contains text = true := by rw [there]; decide
      cases adopting : (registry.enlist text).adopt text (registry.waiting text) with
      | mk adopted result =>
        have first : ((registry.enlist text).adopt text (registry.waiting text)).1 = adopted := by rw [adopting]
        have second : ((registry.enlist text).adopt text (registry.waiting text)).2 = result := by rw [adopting]
        -- What becomes of the adoption decides how the name is taken into use.
        rw [enlist] at adopting
        cases result with
        | ok done =>
          simp only [use, if_neg absent, adopting]
          rw [← first]
          exact .fresh there second
        | error failure =>
          simp only [use, if_neg absent, adopting]
          rw [← first]
          exact .orphaned there second

/-- Taking a name into use changes nothing of a logger but what stands above it. -/
theorem own_use (registry : Registry) (name other : LoggerName) :
    ((registry.use name).1.logger other).own = (registry.logger other).own := by
  -- Both steps only move loggers.
  have uses := registry.uses_use name
  generalize registry.use name = used at uses ⊢
  cases uses with
  | root | known => rfl
  | fresh => rw [own_settle, own_adopt]; rfl
  | orphaned => rw [own_adopt]; rfl

/-- Taking a name into use moves its logger and those that waited for it. -/
theorem logger_use_of_notMem (registry : Registry) {name other : LoggerName} (apart : other ≠ name)
    (absent : ∀ text, name = .named text → ∀ below ∈ registry.waiting text, other ≠ .named below) :
    (registry.use name).1.logger other = registry.logger other := by
  -- Adopting moves those that waited, and settling moves the new logger.
  have uses := registry.uses_use name
  generalize registry.use name = used at uses ⊢
  cases uses with
  | root | known => rfl
  | fresh =>
    rw [logger_settle_of_ne _ _ apart, logger_adopt_of_notMem _ _ apart (absent _ rfl)]
    rfl
  | orphaned =>
    rw [logger_adopt_of_notMem _ _ apart (absent _ rfl)]
    rfl

/-- The root stays where it is. -/
theorem logger_use_root (registry : Registry) (name : LoggerName) :
    (registry.use name).1.logger .root = registry.logger .root := by
  -- The root is neither a name that is taken into use nor one that waits.
  cases name with
  | root => rfl
  | named text =>
    exact logger_use_of_notMem registry (fun same => by cases same) fun _ _ below _ same => by cases same

/-- Names stay in use, and at most the name itself joins them. -/
theorem known_use (registry : Registry) (name : LoggerName) :
    (registry.use name).1.known = registry.known ∨
      ∃ text, name = .named text ∧ (registry.use name).1.known = registry.known ++ [text] := by
  -- The name is listed at the start, and neither step lists any other.
  have uses := registry.uses_use name
  generalize registry.use name = used at uses ⊢
  cases uses with
  | root | known => exact Or.inl rfl
  | fresh => exact Or.inr ⟨_, rfl, by rw [known_settle, (known_adopt _ _ _).1]; rfl⟩
  | orphaned => exact Or.inr ⟨_, rfl, by rw [(known_adopt _ _ _).1]; rfl⟩

/-- Names that are in use stay in use. -/
theorem contains_known_use_of_contains (registry : Registry) (name : LoggerName) {text : String}
    (there : registry.known.contains text = true) : (registry.use name).1.known.contains text = true := by
  -- At most one name joins those that are known.
  rcases registry.known_use name with same | ⟨_, _, added⟩
  · rw [same, there]
  · rw [added, List.contains_append, there, Bool.true_or]

/-- A name that is taken into use is in use. -/
theorem contains_known_use (registry : Registry) (text : String) :
    (registry.use (.named text)).1.known.contains text = true := by
  -- It was listed before, or it is listed now.
  have uses := registry.uses_use (.named text)
  have last : (registry.known ++ [text]).contains text = true := by simp
  generalize registry.use (.named text) = used at uses ⊢
  cases uses with
  | known there => exact there
  | fresh =>
    rw [known_settle, (known_adopt _ _ _).1]
    exact last
  | orphaned =>
    rw [(known_adopt _ _ _).1]
    exact last

/-- Nothing happens when a name is in use already. -/
theorem use_of_known (registry : Registry) {text : String} (there : registry.known.contains text = true) :
    registry.use (.named text) = (registry, .ok ()) := by
  rw [use, if_pos there]

/-- Nothing happens when a name is taken into use once more. -/
theorem use_again (registry : Registry) (name : LoggerName) :
    (registry.use name).1.use name = ((registry.use name).1, .ok ()) := by
  -- By then the name is in use, and the root always is.
  cases name with
  | root => rfl
  | named text => exact use_of_known _ (contains_known_use registry text)

/-- Only the logger of a name that is taken into use begins to wait, namely for names above it; it has a parent. -/
theorem waiting_use (registry : Registry) {name : LoggerName} {awaited below : String}
    (waits : below ∈ (registry.use name).1.waiting awaited) :
    below ∈ registry.waiting awaited ∨ (name = .named below ∧ awaited ∈ LoggerName.above below ∧
      ((registry.use name).1.logger name).parent.isSome = true) := by
  -- Adopting lets nothing wait, so that only settling can add to it.
  have uses := registry.uses_use name
  generalize registry.use name = used at uses waits ⊢
  cases uses with
  | root | known => exact Or.inl waits
  | fresh =>
    rcases waiting_settle _ _ _ waits with before | ⟨same, member⟩
    · rw [(known_adopt _ _ _).2] at before
      exact Or.inl before
    · subst same
      exact Or.inr ⟨rfl, member, isSome_parent_settle _ _ _⟩
  | orphaned =>
    rw [(known_adopt _ _ _).2] at waits
    exact Or.inl waits

/-- Taking a name into use takes no parent away. -/
theorem isSome_parent_use (registry : Registry) (name : LoggerName)
    (there : (registry.logger other).parent.isSome = true) :
    ((registry.use name).1.logger other).parent.isSome = true := by
  -- The new logger gets a parent at the end; no other loses its own.
  have uses := registry.uses_use name
  generalize registry.use name = used at uses ⊢
  cases uses with
  | root | known => exact there
  | @fresh text =>
    by_cases here : other = .named text
    · rw [here]
      exact isSome_parent_settle _ _ _
    · rw [logger_settle_of_ne _ _ here]
      exact isSome_parent_adopt (registry.enlist text) text _ there
  | @orphaned text => exact isSome_parent_adopt (registry.enlist text) text _ there

/-- A name is taken into use when the loggers that wait for it have parents. -/
theorem use_ok (registry : Registry) {name : LoggerName}
    (parents : ∀ text, name = .named text → ∀ below ∈ registry.waiting text,
      (registry.logger (.named below)).parent.isSome = true) : (registry.use name).2 = .ok () := by
  -- The one way to fail is a logger that waits without a parent.
  have uses := registry.uses_use name
  generalize registry.use name = used at uses ⊢
  cases uses with
  | root | known | fresh => rfl
  | @orphaned text failure absent refused =>
    have adopted := adopt_ok (registry.enlist text) text (parents text rfl)
    cases adopted.symm.trans refused

/-- A new logger with no name in use above it comes to stand below the root. -/
theorem parent_use (registry : Registry) {text : String} (fresh : registry.known.contains text = false)
    (unknown : ∀ above ∈ LoggerName.above text, registry.known.contains above = false)
    (taken : (registry.use (.named text)).2 = .ok ()) :
    ((registry.use (.named text)).1.logger (.named text)).parent = some .root := by
  -- What is adopted does not matter: settling comes last and finds no name above in use.
  have uses := registry.uses_use (.named text)
  generalize registry.use (.named text) = used at uses taken ⊢
  cases uses with
  | known there => cases fresh.symm.trans there
  | fresh =>
    refine parent_settle _ text fun above member => ?_
    -- The name itself is listed by now, but it does not stand above itself.
    have apart : above ≠ text := fun same => LoggerName.notMem_above text (same ▸ member)
    have absent := unknown above member
    rw [(known_adopt _ _ _).1, enlist, List.contains_append, absent, List.contains_cons, beq_false_of_ne apart]
    rfl
  | orphaned => cases taken

/-- Another logger comes below the one that is taken into use, or stays where it was. -/
theorem parent_use_of_ne (registry : Registry) {name other : LoggerName} (apart : other ≠ name) :
    ((registry.use name).1.logger other).parent = (registry.logger other).parent ∨
      ((registry.use name).1.logger other).parent = some name := by
  -- Settling moves the new logger alone, so that only adopting can matter.
  have uses := registry.uses_use name
  generalize registry.use name = used at uses ⊢
  cases uses with
  | root | known => exact Or.inl rfl
  | @fresh text absent adopted =>
    rw [logger_settle_of_ne _ _ apart]
    exact parent_adopt (registry.enlist text) text _ apart
  | @orphaned text failure absent refused => exact parent_adopt (registry.enlist text) text _ apart

/-- Nothing is above a logger without a parent. -/
theorem lineage_of_none (registry : Registry) {name : LoggerName} (top : (registry.logger name).parent = none) :
    registry.lineage name = [name] := by
  rw [lineage, climb, top]

/-- A logger of a name in use may stand right below the root. -/
theorem lineage_of_root (registry : Registry) {name : LoggerName} (top : (registry.logger .root).parent = none)
    (parent : (registry.logger name).parent = some .root) (used : registry.known ≠ []) :
    registry.lineage name = [name, .root] := by
  -- With one name in use the fuel is two at least, which is what the climb takes.
  have some := List.length_pos_iff.mpr used
  obtain ⟨count, length⟩ : ∃ count, registry.known.length + 1 = count + 2 :=
    ⟨registry.known.length - 1, by omega⟩
  rw [lineage, length]
  simp only [climb, parent, top]

/-- A logger may stand below one other logger. -/
theorem lineage_of_parent (registry : Registry) {name above : LoggerName}
    (top : (registry.logger .root).parent = none) (parent : (registry.logger name).parent = some above)
    (grandparent : (registry.logger above).parent = some .root) (used : 2 ≤ registry.known.length) :
    registry.lineage name = [name, above, .root] := by
  -- With two names in use the fuel is three at least, which is what the climb takes.
  obtain ⟨count, length⟩ : ∃ count, registry.known.length + 1 = count + 3 :=
    ⟨registry.known.length - 2, by omega⟩
  rw [lineage, length]
  simp only [climb, parent, grandparent, top]

end Registry

namespace State

/-- A question about a severity is answered once. -/
theorem decide_cases (state : State) (name : LoggerName) (severity : Severity) :
    (state.decide name severity).1 = state ∨
      ∃ answer, (state.decide name severity).1 =
        { state with decided := ((name, severity), answer) :: state.decided } := by
  -- An answer is looked up, or it is given now and written down.
  unfold State.decide
  split
  · exact Or.inl rfl
  · exact Or.inr ⟨_, rfl⟩

/-- A question that is open, or was answered as the level says, is answered so from then on. -/
theorem decide_of_agreed (state : State) {name : LoggerName} {severity : Severity} {taken : Bool}
    (level : Decidable.decide (state.registry.effectiveLevel name ≤ severity.rank) = taken)
    (agreed : ∀ answer, state.decided.lookup (name, severity) = some answer → answer = taken) :
    ∃ decided, state.decide name severity = ({ state with decided }, taken) ∧
      ∀ answer, decided.lookup (name, severity) = some answer → answer = taken := by
  unfold State.decide
  split
  · -- There is an answer, which is the one that the level gives.
    rename_i answer found
    refine ⟨state.decided, ?_, agreed⟩
    rw [agreed answer found]
  · refine ⟨((name, severity), taken) :: state.decided, by simp only [level], fun answer found => ?_⟩
    rw [List.lookup_cons, beq_self_eq_true] at found
    exact (Option.some.inj found).symm

/-- A report leaves the loggers as they are, and answers at most the question about its severity. -/
theorem report_frame (state : State) (name : LoggerName) (severity : Severity) (addsCause : Bool) (message : String)
    (moment : Moment) :
    (state.report name severity addsCause message moment).state.registry = state.registry ∧
      ((state.report name severity addsCause message moment).state.decided = state.decided ∨
        ∃ answer, (state.report name severity addsCause message moment).state.decided =
          ((name, severity), answer) :: state.decided) := by
  -- Whatever becomes of the record, only the queue changes after the question.
  have kept : (state.report name severity addsCause message moment).state.registry =
        (state.decide name severity).1.registry ∧
      (state.report name severity addsCause message moment).state.decided =
        (state.decide name severity).1.decided := by
    unfold State.report
    dsimp only
    split
    · exact ⟨rfl, rfl⟩
    · split
      · exact ⟨rfl, rfl⟩
      · exact ⟨rfl, rfl⟩
  rw [kept.1, kept.2]
  rcases state.decide_cases name severity with same | ⟨answer, asked⟩
  · rw [same]
    exact ⟨rfl, Or.inl rfl⟩
  · rw [asked]
    exact ⟨rfl, Or.inr ⟨answer, rfl⟩⟩

end State

end ProofWire.Log
