import Playfield.Proofs.Agent.Writes

/-!
Cues keep to their own fields.

A write changes one field of the states that it reaches, removes no state, and adds one only for an
agent of the scene, which starts now (`confined_perform`). Events write to the behaviors that stand
in for an agent's own and keyframes to the place for the frame, so after the events of a frame
nothing but the former has changed, and after its keyframes nothing but the latter
(`confined_applyEvents`, `confined_applyKeyframes`).
-/

namespace Playfield

namespace AgentState

/-- A state that differs from another one at most in the behaviors that stand in for the agent's
own. -/
def Rearmed (s s' : AgentState) : Prop :=
  ∃ behaviors, s' = { s with behaviorOverride := behaviors }

/-- A state that differs from another one at most in the place that is set for the frame. -/
def Placed (s s' : AgentState) : Prop :=
  ∃ place, s' = { s with keyframe := place }

/-- A state that differs from another one at most in these two. -/
def Cued (s s' : AgentState) : Prop :=
  ∃ behaviors place, s' = { s with behaviorOverride := behaviors, keyframe := place }

variable {s s' s'' : AgentState}

theorem Rearmed.refl (s : AgentState) : Rearmed s s :=
  ⟨s.behaviorOverride, rfl⟩

theorem Rearmed.trans (h : Rearmed s s') (h' : Rearmed s' s'') : Rearmed s s'' := by
  obtain ⟨_, rfl⟩ := h
  obtain ⟨behaviors, rfl⟩ := h'
  exact ⟨behaviors, rfl⟩

/-- The behaviors of the second state are the ones that stand in. -/
theorem Rearmed.eq (h : Rearmed s s') :
    s' = { s with behaviorOverride := s'.behaviorOverride } := by
  obtain ⟨_, rfl⟩ := h
  rfl

theorem Placed.refl (s : AgentState) : Placed s s :=
  ⟨s.keyframe, rfl⟩

theorem Placed.trans (h : Placed s s') (h' : Placed s' s'') : Placed s s'' := by
  obtain ⟨_, rfl⟩ := h
  obtain ⟨place, rfl⟩ := h'
  exact ⟨place, rfl⟩

/-- A change of behaviors is a change of the two fields at most. -/
theorem Rearmed.cued (h : Rearmed s s') : Cued s s' := by
  obtain ⟨behaviors, rfl⟩ := h
  exact ⟨behaviors, s.keyframe, rfl⟩

/-- A change of place is a change of the two fields at most. -/
theorem Placed.cued (h : Placed s s') : Cued s s' := by
  obtain ⟨place, rfl⟩ := h
  exact ⟨s.behaviorOverride, place, rfl⟩

theorem Cued.trans (h : Cued s s') (h' : Cued s' s'') : Cued s s'' := by
  obtain ⟨_, _, rfl⟩ := h
  obtain ⟨behaviors, place, rfl⟩ := h'
  exact ⟨behaviors, place, rfl⟩

end AgentState

namespace Cue

open AgentState (Rearmed Placed Cued)

/-- The second states come from the first: every id keeps its state, changed within `R` at most, and
one that is new belongs to an id whose first object is an agent and is, but for such a change, the
state in which that agent starts. -/
structure Confined (R : AgentState → AgentState → Prop) (scene : Scene) (ctx : FrameContext)
    (states states' : AgentStates) : Prop where
  kept : ∀ id s, states.get? id = some s → ∃ s', states'.get? id = some s' ∧ R s s'
  added : ∀ id s', states.get? id = none → states'.get? id = some s' →
    ∃ o, scene.find? id = some o ∧ o.isAgent ∧ R (AgentState.spawn o ctx) s'

namespace Confined

variable {R R' : AgentState → AgentState → Prop} {scene : Scene} {ctx : FrameContext}
  {states states' states'' : AgentStates}

theorem refl (reflexive : ∀ s, R s s) (states : AgentStates) :
    Confined R scene ctx states states where
  kept _ s found := ⟨s, found, reflexive s⟩
  added id s' missing found := by
    rw [missing] at found
    cases found

theorem mono (h : Confined R scene ctx states states') (wider : ∀ s s', R s s' → R' s s') :
    Confined R' scene ctx states states' where
  kept id s found := by
    obtain ⟨s', left, changed⟩ := h.kept id s found
    exact ⟨s', left, wider s s' changed⟩
  added id s' missing found := by
    obtain ⟨o, first, agent, changed⟩ := h.added id s' missing found
    exact ⟨o, first, agent, wider _ s' changed⟩

theorem trans (transitive : ∀ s s' s'', R s s' → R s' s'' → R s s'')
    (h : Confined R scene ctx states states') (h' : Confined R scene ctx states' states'') :
    Confined R scene ctx states states'' where
  kept id s found := by
    obtain ⟨s', left, changed⟩ := h.kept id s found
    obtain ⟨s'', left', changed'⟩ := h'.kept id s' left
    exact ⟨s'', left', transitive s s' s'' changed changed'⟩
  added id s'' missing found := by
    -- A state that is new in the end came with the first change or with the second.
    cases between : states'.get? id with
    | none => exact h'.added id s'' between found
    | some s' =>
      obtain ⟨o, first, agent, changed⟩ := h.added id s' missing between
      obtain ⟨t, left, changed'⟩ := h'.kept id s' between
      obtain rfl : s'' = t := Option.some.inj (found.symm.trans left)
      exact ⟨o, first, agent, transitive _ s' s'' changed changed'⟩

/-- Seen from an agent of the scene, which has the state in which it starts until it gets another
one. -/
theorem current (h : Confined R scene ctx states states') (reflexive : ∀ s, R s s)
    {o : SceneObject} (first : scene.find? o.id = some o) :
    R ((states.get? o.id).getD (AgentState.spawn o ctx))
      ((states'.get? o.id).getD (AgentState.spawn o ctx)) := by
  cases found : states.get? o.id with
  | some s =>
    obtain ⟨s', left, changed⟩ := h.kept o.id s found
    rw [left]
    exact changed
  | none =>
    cases left : states'.get? o.id with
    | none => exact reflexive _
    | some s' =>
      obtain ⟨q, first', -, changed⟩ := h.added o.id s' found left
      obtain rfl : q = o := Option.some.inj (first'.symm.trans first)
      exact changed

end Confined

/-! ### Writes -/

variable {R : AgentState → AgentState → Prop} (scene : Scene) (ctx : FrameContext)

/-- Changing the state of an id within `R` keeps all states within `R`. -/
theorem confined_change (reflexive : ∀ s, R s s) (states : AgentStates) (id : String)
    {f : AgentState → AgentState} (changes : ∀ s, R s (f s)) :
    Confined R scene ctx states (change scene ctx states id f) := by
  rw [change_eq]
  split
  · exact .refl reflexive states
  · rename_i o chosen
    obtain ⟨first, agent⟩ := Option.filter_eq_some_iff.mp chosen
    constructor
    · intro other s found
      rw [IdMap.get?_insert]
      split
      · rename_i same
        rw [← same, found]
        exact ⟨_, rfl, changes s⟩
      · exact ⟨s, found, reflexive s⟩
    · intro other s' missing found
      rw [IdMap.get?_insert] at found
      split at found
      · rename_i same
        subst same
        rw [missing] at found
        cases found
        exact ⟨o, first, agent, changes _⟩
      · rw [missing] at found
        cases found

/-- A change to every state adds none. -/
theorem confined_mapValues (states : AgentStates) {f : String → AgentState → AgentState}
    (changes : ∀ id s, R s (f id s)) : Confined R scene ctx states (states.mapValues f) where
  kept id s found := by
    rw [IdMap.get?_mapValues, found]
    exact ⟨f id s, rfl, changes id s⟩
  added id s' missing found := by
    rw [IdMap.get?_mapValues, missing] at found
    cases found

/-- What a write may do to a state that it reaches. -/
def Write.changes : Write → AgentState → AgentState → Prop
  | .put _ _ => Placed
  | .assign _ _ | .drop _ | .dropAll => Rearmed

/-- Performing a write changes the states within the kind of change that it makes. -/
theorem confined_perform (states : AgentStates) (write : Write) :
    Confined write.changes scene ctx states (write.perform scene ctx states) := by
  cases write with
  | assign id behaviors =>
    exact confined_change scene ctx Rearmed.refl states id fun s => ⟨some behaviors, rfl⟩
  | drop id =>
    have changes (other : String) (s : AgentState) :
        Rearmed s (if other = id then dropOverride s else s) := by
      split
      · exact ⟨none, rfl⟩
      · exact .refl s
    exact confined_mapValues scene ctx states changes
  | dropAll =>
    have changes (_ : String) (s : AgentState) : Rearmed s (dropOverride s) := ⟨none, rfl⟩
    exact confined_mapValues scene ctx states changes
  | put id place => exact confined_change scene ctx Placed.refl states id fun s => ⟨some place, rfl⟩

/-- A list of writes changes no more than each of them may. -/
theorem confined_foldl (reflexive : ∀ s, R s s)
    (transitive : ∀ s s' s'', R s s' → R s' s'' → R s s'') {writes : List Write}
    (within : ∀ write ∈ writes, ∀ s s', write.changes s s' → R s s') (states : AgentStates) :
    Confined R scene ctx states (writes.foldl (Write.perform scene ctx) states) := by
  induction writes generalizing states with
  | nil => exact .refl reflexive states
  | cons write rest ih =>
    have once := (confined_perform scene ctx states write).mono (within write List.mem_cons_self)
    exact once.trans transitive (ih (fun later member =>
      within later (List.mem_cons_of_mem write member)) (write.perform scene ctx states))

/-! ### Events and keyframes -/

variable {scene} in
/-- The writes of an event change behaviors only. -/
theorem changes_of_mem_eventWrites {canvas : Vec2} {kind : EventKind} {write : Write}
    (inside : write ∈ eventWrites scene canvas kind) : write.changes = Rearmed := by
  cases write with
  | put id place =>
    -- No event puts an agent at a place.
    unfold eventWrites at inside
    split at inside <;> simp at inside
  | _ => rfl

variable {scene} in
/-- The writes of keyframes change the place for the frame only. -/
theorem changes_of_mem_keyframeWrites {canvas : Vec2} {frame : Nat} {write : Write}
    (inside : write ∈ keyframeWrites scene canvas frame) : write.changes = Placed := by
  obtain ⟨entry, -, put⟩ := List.mem_filterMap.mp inside
  obtain ⟨place, -, rfl⟩ := Option.map_eq_some_iff.mp put
  rfl

/-- The events of a frame change behaviors only. -/
theorem confined_applyEvents (states : AgentStates) :
    Confined Rearmed scene ctx states (applyEvents scene ctx states) := by
  rw [applyEvents_eq_foldl_writes]
  refine confined_foldl scene ctx Rearmed.refl (fun _ _ _ => Rearmed.trans) ?_ states
  intro write inside s s' changed
  obtain ⟨e, -, written⟩ := List.mem_flatMap.mp inside
  rwa [changes_of_mem_eventWrites written] at changed

/-- The keyframes of a frame change the place for the frame only. -/
theorem confined_applyKeyframes (states : AgentStates) :
    Confined Placed scene ctx states (applyKeyframes scene ctx states) := by
  rw [applyKeyframes_eq_foldl_writes]
  refine confined_foldl scene ctx Placed.refl (fun _ _ _ => Placed.trans) ?_ states
  intro write inside s s' changed
  rwa [changes_of_mem_keyframeWrites inside] at changed

/-- The cues of a frame change the behaviors that stand in and the place for the frame only. -/
theorem confined_applyAll (states : AgentStates) :
    Confined Cued scene ctx states (applyAll scene ctx states) :=
  .trans (fun _ _ _ => Cued.trans)
    ((confined_applyEvents scene ctx states).mono fun _ _ => Rearmed.cued)
    ((confined_applyKeyframes scene ctx _).mono fun _ _ => Placed.cued)

end Cue

end Playfield
