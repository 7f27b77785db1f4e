import ProofWire.Proofs.Log.Drain

/-! The listener: it stands below the root, whatever names come into use, and what it drains passes its own handlers
and those of the root. -/

namespace ProofWire.Log

/-- The name of the listener. -/
def listenerName : String := "listener"

namespace Registry

/--
The listener can be taken into use, and from then on it stands below the root.

It waits for no name, and the loggers that wait for it stand somewhere. Every handler is the queue or a stream, and no
logger has filters.
-/
structure Intact (registry : Registry) : Prop where
  top : (registry.logger .root).parent = none
  free : ∀ awaited, listenerName ∉ registry.waiting awaited
  below : ∀ text ∈ registry.waiting listenerName, (registry.logger (.named text)).parent.isSome = true
  placed : registry.known.contains listenerName = true →
    (registry.logger State.listener).parent = some .root
  plain : ∀ name, ∀ handler ∈ (registry.logger name).handlers, handler.IsPlain
  unfiltered : ∀ name, (registry.logger name).filters = []

/-- At the start the listener is not in use, and nothing waits for it. -/
theorem intact_initial : initial.Intact where
  -- No name is in use and nothing waits, so that most of it holds of nothing.
  top := rfl
  free _ := List.not_mem_nil
  below _ waits := by cases waits
  placed known := by cases known
  plain _ _ member := by cases member
  unfiltered _ := rfl

variable {registry : Registry}

/-- Changes of one logger do no harm when it stays where it is and gets no filter and no handler of another kind. -/
theorem Intact.change (intact : registry.Intact) (name : LoggerName) (next : Logger → Logger)
    (parent : (next (registry.logger name)).parent = (registry.logger name).parent)
    (filters : (next (registry.logger name)).filters = (registry.logger name).filters)
    (plain : ∀ handler ∈ (next (registry.logger name)).handlers,
      handler ∈ (registry.logger name).handlers ∨ handler.IsPlain) : (registry.change name next).Intact := by
  -- Only the changed logger differs, and neither its parent nor its filters do.
  have parents := registry.change_keeps name Logger.parent parent
  refine ⟨(parents _).trans intact.top, intact.free, fun text waits => ?_, fun known => ?_, fun other handler member => ?_,
    fun other => ?_⟩
  · rw [parents]
    exact intact.below text waits
  · rw [parents]
    exact intact.placed known
  · rw [logger_change] at member
    split at member
    · rename_i here
      rw [here] at member
      exact (plain handler member).elim (intact.plain name handler) id
    · exact intact.plain other handler member
  · exact (registry.change_keeps name Logger.filters filters other).trans (intact.unfiltered other)

/-- The listener can be taken into use. -/
theorem Intact.use_listener (intact : registry.Intact) : (registry.use State.listener).2 = .ok () :=
  -- Only a logger that waits for the listener could keep it from coming into use.
  use_ok registry fun text same below waits => by
    cases same
    exact intact.below below waits

/-- No name stands above that of the listener. -/
theorem above_listenerName : LoggerName.above listenerName = [] := by
  decide

/-- The listener comes into use below the root. -/
theorem Intact.parent_use_listener (intact : registry.Intact) :
    ((registry.use State.listener).1.logger State.listener).parent = some .root := by
  cases known : registry.known.contains listenerName with
  | true =>
    have same : registry.use State.listener = (registry, .ok ()) := use_of_known registry known
    rw [same]
    exact intact.placed known
  | false =>
    -- There is no name above that could be in use.
    have unknown : ∀ above ∈ LoggerName.above listenerName, registry.known.contains above = false := by
      rw [above_listenerName]
      exact List.forall_mem_nil _
    exact parent_use registry known unknown intact.use_listener

/-- Taking names into use does no harm. -/
theorem Intact.use (intact : registry.Intact) (name : LoggerName) : (registry.use name).1.Intact where
  top := by rw [logger_use_root, intact.top]
  -- A logger waits for the names above its own only, and the listener has none.
  free awaited waits := by
    rcases waiting_use registry waits with before | ⟨_, member, _⟩
    · exact intact.free awaited before
    · rw [above_listenerName] at member
      cases member
  below text waits := by
    rcases waiting_use registry waits with before | ⟨rfl, _, there⟩
    · exact isSome_parent_use registry name (intact.below text before)
    · exact there
  placed known := by
    by_cases here : name = State.listener
    · subst here
      exact intact.parent_use_listener
    · -- Nothing but its own use moves the listener, since it waits for no name.
      have kept : (registry.use name).1.logger State.listener = registry.logger State.listener := by
        refine logger_use_of_notMem registry (Ne.symm here) fun text _ below waits same => ?_
        cases same
        exact intact.free text waits
      rw [kept]
      refine intact.placed ?_
      rcases registry.known_use name with same | ⟨text, rfl, added⟩
      · rw [← same]
        exact known
      · have apart : listenerName ≠ text := fun same => here (congrArg LoggerName.named same).symm
        rw [added, List.contains_append, List.contains_cons, beq_false_of_ne apart] at known
        simpa using known
  plain other handler member := by
    have own := own_use registry name other
    rw [show ((registry.use name).1.logger other).handlers = _ from (congrArg Logger.handlers own :)] at member
    exact intact.plain other handler member
  unfiltered other := (congrArg Logger.filters (own_use registry name other)).trans (intact.unfiltered other)

/-- The records of a listener below the root pass its own handlers, then those of the root. -/
theorem handlers_listener (registry : Registry) (top : (registry.logger .root).parent = none)
    (known : registry.known.contains listenerName = true)
    (placed : (registry.logger State.listener).parent = some .root) :
    registry.handlers State.listener =
      (registry.logger State.listener).handlers ++ (registry.logger .root).handlers := by
  -- One name is in use at least, so that the climb goes on to the root.
  have some : registry.known ≠ [] := by
    intro none
    rw [none] at known
    cases known
  rw [handlers, lineage_of_root registry top placed some]
  simp only [List.flatMap_cons, List.flatMap_nil, List.append_nil]

end Registry

namespace State

variable {state : State}

/-- The handlers that a record passes while the queue is drained: those of the listener, the file, and those of the
root. -/
def outlets (state : State) (shown : Format) : List Handler :=
  (state.logger listener).handlers ++ .file shown :: (state.logger .root).handlers

/-- Before it passes records on, the listener comes into use and gets its level, but nothing else changes for it. -/
theorem logger_listening (state : State) (name : LoggerName) :
    state.listening.logger name =
      if name = listener then { (state.registry.use listener).1.logger name with level := Severity.debug.rank }
      else (state.registry.use listener).1.logger name :=
  rfl

/-- Getting ready to drain leaves the handlers and the filters of all loggers as they are. -/
theorem own_listening (state : State) (name : LoggerName) :
    (state.listening.logger name).handlers = (state.logger name).handlers ∧
      (state.listening.logger name).filters = (state.logger name).filters := by
  -- Only a level is set, and what stands above the listener.
  have own := Registry.own_use state.registry listener name
  rw [logger_listening]
  split
  · exact ⟨(congrArg Logger.handlers own :), (congrArg Logger.filters own :)⟩
  · exact ⟨(congrArg Logger.handlers own :), (congrArg Logger.filters own :)⟩

/-- While it drains, the listener passes records to its own handlers, the file, and the handlers of the root. -/
theorem handlers_draining (intact : state.registry.Intact) (shown : Format) :
    (state.listening.attach listener (.file shown)).registry.handlers listener = state.outlets shown := by
  -- The file is not among the handlers yet, none of which writes there.
  have absent : (state.listening.registry.logger listener).handlers.contains (.file shown) = false := by
    have fresh : Handler.file shown ∉ (state.listening.logger listener).handlers := by
      rw [(own_listening state listener).1]
      intro member
      rcases intact.plain listener _ member with same | stream
      · cases same
      · cases stream
    simpa [State.logger] using fresh
  have attached : ∀ name, (state.listening.attach listener (.file shown)).registry.logger name =
      if name = listener then { state.listening.logger name with
        handlers := (state.listening.logger name).handlers ++ [.file shown] } else state.listening.logger name := by
    intro name
    simp only [attach, change, Registry.logger_change]
    split
    · rename_i here
      rw [here, absent]
      rfl
    · rfl
  -- Neither the level nor the file moves the listener away from where it comes into use.
  have placed : ((state.listening.attach listener (.file shown)).registry.logger listener).parent = some .root := by
    rw [attached, if_pos rfl, logger_listening, if_pos rfl]
    exact intact.parent_use_listener
  have top : ((state.listening.attach listener (.file shown)).registry.logger .root).parent = none :=
    (intact.use listener).top
  have known := Registry.contains_known_use state.registry listenerName
  rw [Registry.handlers_listener _ top known placed, attached, attached, if_pos rfl,
    if_neg (show LoggerName.root ≠ listener from nofun)]
  simp only [outlets, (own_listening state _).1, List.append_assoc, List.singleton_append]

end State

end ProofWire.Log
