import Playfield.Proofs.Frame.Commands

/-!
What a frame says of an object in its three outputs.

A visible object of a known kind makes an entry in its turn (`Progress.listing?`), and the command
that it draws, if it draws one, shows that entry (`shows_of_command?`). With distinct ids the
entries of a frame are therefore those of the objects that show, its commands are one for each of
them but the groups, and both agree with the states that the agents leave (`resolve_agrees`).
-/

namespace Playfield

/-- A command shows an entry: it belongs to the same object and stands at its position, with its
opacity, on its layer. -/
structure DrawCommand.Shows (c : DrawCommand) (entry : ResolvedObject) : Prop where
  id : entry.id = c.objectId
  position : c.figure.position? = some entry.position
  opacity : c.opacity = entry.opacity
  layer : c.layer = entry.layer

namespace Frame

/-! ### The entry of one object -/

section Resolve

variable {ctx : FrameContext} {snap : AgentStates} {p : Progress} {o : SceneObject}

/-- Whether an object shows in its turn: it is visible, and of a kind that is known. -/
def Progress.shows (p : Progress) (ctx : FrameContext) (o : SceneObject) : Bool :=
  p.sees ctx o && o.kind != .unknown

/-- The entry that an object makes in its turn, if it shows. -/
def Progress.listing? (p : Progress) (ctx : FrameContext) (snap : AgentStates) (o : SceneObject) :
    Option ResolvedObject :=
  if p.shows ctx o then
    some ⟨o.id, o.kind.name, p.standing ctx snap o,
      Formula.settleNumber o.opacity 1 (p.scope ctx o), o.layer⟩
  else none

/-- An object makes an entry iff it shows. -/
theorem isSome_listing? : (p.listing? ctx snap o).isSome = p.shows ctx o := by
  unfold Progress.listing?
  cases p.shows ctx o <;> rfl

/-- An entry stands where its object does. -/
theorem position_of_listing? {entry : ResolvedObject} (made : p.listing? ctx snap o = some entry) :
    entry.position = p.standing ctx snap o := by
  unfold Progress.listing? at made
  split at made
  · cases made
    rfl
  · cases made

/-- The turn of an object adds its entry, if it makes one. -/
theorem objects_resolve :
    (p.resolve ctx snap o).objects =
      match p.listing? ctx snap o with
      | some entry => p.objects.insert o.id entry
      | none => p.objects := by
  rw [Progress.resolve_eq]
  unfold Progress.listing? Progress.shows Progress.sees Progress.standing
  split
  · rename_i visible
    rw [visible]
    cases kind : o.kind with
    | unknown => simp
    | agent agent => simp [SceneObject.agent?, kind]
    | _ => simp [SceneObject.agent?, kind]
  · rename_i hidden
    rw [Bool.not_eq_true] at hidden
    rw [hidden]
    unfold Progress.carry
    cases snap.get? o.id <;> rfl

/-- After its turn the entry of an object is the one that it makes, or the one that was there. -/
theorem objects_resolve_get?_self :
    (p.resolve ctx snap o).objects.get? o.id =
      (p.listing? ctx snap o).or (p.objects.get? o.id) := by
  rw [objects_resolve]
  cases p.listing? ctx snap o with
  | none => rfl
  | some entry => simp [IdMap.get?_insert]

/-- Only groups and objects of an unknown kind have no figure. -/
theorem isSome_figure? {position : Vec2} {scope : Formula.Scope} :
    (figure? o position scope).isSome = (o.kind != .unknown && o.kind != .group) := by
  unfold figure? figureM?
  cases o.kind <;> rfl

/-- A figure stands where its object stands. -/
theorem position?_of_figure? {position : Vec2} {scope : Formula.Scope} {f : Figure}
    (drawn : figure? o position scope = some f) : f.position? = some position := by
  unfold figure? figureM? at drawn
  split at drawn <;> cases drawn <;> rfl

/-- An object draws a command iff it shows and is no group. -/
theorem isSome_command? :
    (p.command? ctx snap o).isSome = (p.shows ctx o && o.kind != .group) := by
  unfold Progress.command? Progress.shows
  cases p.sees ctx o with
  | true => simp [isSome_figure?]
  | false => rfl

/-- The command that an object draws in its turn shows the entry that it makes. -/
theorem shows_of_command? {c : DrawCommand} (drawn : p.command? ctx snap o = some c) :
    ∃ entry, p.listing? ctx snap o = some entry ∧ c.Shows entry := by
  have isSome : (p.command? ctx snap o).isSome = (p.shows ctx o && o.kind != .group) :=
    isSome_command?
  rw [drawn, Option.isSome_some] at isSome
  have shows : p.shows ctx o := (Bool.and_eq_true_iff.mp isSome.symm).1
  refine ⟨_, if_pos shows, ?_⟩
  unfold Progress.command? at drawn
  dsimp only at drawn
  split at drawn
  · obtain ⟨f, shape, rfl⟩ := Option.map_eq_some_iff.mp drawn
    exact ⟨rfl, position?_of_figure? shape, rfl, rfl⟩
  · cases drawn

end Resolve

/-! ### All entries -/

section Outputs

variable {scene : Scene} {ctx : FrameContext} {previous : AgentStates} {o : SceneObject}

variable (scene ctx previous o) in
/-- Whether an object shows on a frame. -/
def shown : Bool :=
  (turn scene ctx previous o).shows ctx o

/-- The entry of an object is the one that it makes in its turn. -/
theorem resolve_objects_get? (distinct : scene.DistinctIds) (member : o ∈ scene.objects) :
    (resolve scene ctx previous).objects.get? o.id =
      (turn scene ctx previous o).listing? ctx (startStates scene ctx previous) o := by
  rw [resolve_eq_final, (sameAt_final distinct member).objects, objects_resolve_get?_self,
    (sameAt_turn o).objects]
  simp [Progress.start]

/-- There is no entry under an id that no object has. -/
theorem resolve_objects_get?_eq_none {id : String} (absent : ∀ o ∈ scene.objects, o.id ≠ id) :
    (resolve scene ctx previous).objects.get? id = none := by
  rw [resolve_eq_final]
  exact (sameAt_foldl_resolve fun o member => absent o (mem_dependencyOrder.mp member)).objects

/-- With ids that differ, an id has an entry iff the object that has it shows. -/
theorem isSome_resolve_objects (distinct : scene.DistinctIds) {id : String} :
    ((resolve scene ctx previous).objects.get? id).isSome ↔
      ∃ o ∈ scene.objects, o.id = id ∧ shown scene ctx previous o := by
  constructor
  · intro entered
    by_cases declared : ∃ o ∈ scene.objects, o.id = id
    · obtain ⟨o, member, rfl⟩ := declared
      rw [resolve_objects_get? distinct member, isSome_listing?] at entered
      exact ⟨o, member, rfl, entered⟩
    · rw [resolve_objects_get?_eq_none fun o member same => declared ⟨o, member, same⟩] at entered
      cases entered
  · rintro ⟨o, member, rfl, shows⟩
    rw [resolve_objects_get? distinct member, isSome_listing?]
    exact shows

/-- An agent that shows stands where its state for the next frame has it. -/
theorem resolve_agent_agrees (distinct : scene.DistinctIds) (member : o ∈ scene.objects)
    (agent : o.isAgent) (shows : shown scene ctx previous o) :
    ∃ s entry, (resolve scene ctx previous).states.get? o.id = some s ∧
      (resolve scene ctx previous).objects.get? o.id = some entry ∧
      entry.position = s.position := by
  obtain ⟨agent, is⟩ := Option.isSome_iff_exists.mp agent
  have visible : (turn scene ctx previous o).sees ctx o := (Bool.and_eq_true_iff.mp shows).1
  have left : (resolve scene ctx previous).states.get? o.id =
      some (stepAgent o agent (startStates scene ctx previous)
        (turn scene ctx previous o).published ctx) := by
    rw [resolve_states_get? distinct member, Progress.nextState?, if_pos visible, is,
      Option.map_some]
  obtain ⟨entry, made⟩ := Option.isSome_iff_exists.mp (isSome_listing?.trans shows)
  refine ⟨_, entry, left, ?_, ?_⟩
  · rw [resolve_objects_get? distinct member, made]
  · rw [position_of_listing? made, Progress.standing, is]

/-- The objects with a command are those that show and are no groups. -/
theorem map_objectId_filterMap_drawn? (objects : List SceneObject) :
    (objects.filterMap (drawn? scene ctx previous)).map (·.objectId) =
      (objects.filter fun o => shown scene ctx previous o && o.kind != .group).map (·.id) := by
  have named (o : SceneObject) : (drawn? scene ctx previous o).map (·.objectId) =
      (Option.guard (fun o => shown scene ctx previous o && o.kind != .group) o).map (·.id) := by
    have isSome : (drawn? scene ctx previous o).isSome =
        (shown scene ctx previous o && o.kind != .group) := isSome_command?
    cases drawn : drawn? scene ctx previous o with
    | none =>
      rw [drawn, Option.isSome_none] at isSome
      simp [Option.guard, ← isSome]
    | some c =>
      rw [drawn, Option.isSome_some] at isSome
      simp [Option.guard, ← isSome, (command?_eq_some drawn).1]
  rw [List.map_filterMap, List.filterMap_congr fun o _ => named o, ← List.map_filterMap,
    List.filterMap_eq_filter]

/-- **The outputs of a frame agree.** With distinct ids there is an entry for every object that is
visible and of a known kind and for nothing else. There is one command for each of these that is no
group and no other command, and every command shows the entry of its object. The entry of an agent
has the position of the state that the agent leaves. -/
theorem resolve_agrees (distinct : scene.DistinctIds) (ctx : FrameContext)
    (previous : AgentStates) :
    let frame := resolve scene ctx previous
    (∀ id, id ∈ frame.objects.keys ↔
      ∃ o ∈ scene.objects, o.id = id ∧ shown scene ctx previous o) ∧
    (frame.commands.map (·.objectId)).Perm ((scene.objects.filter fun o =>
      shown scene ctx previous o && o.kind != .group).map (·.id)) ∧
    (∀ c ∈ frame.commands, ∃ entry, frame.objects.get? c.objectId = some entry ∧ c.Shows entry) ∧
    ∀ o ∈ scene.objects, o.isAgent → shown scene ctx previous o →
      ∃ s entry, frame.states.get? o.id = some s ∧ frame.objects.get? o.id = some entry ∧
        entry.position = s.position := by
  intro frame
  have perm : frame.commands.Perm (scene.objects.filterMap (drawn? scene ctx previous)) := by
    have resolved : frame.commands = _ := resolve_commands ctx previous distinct
    rw [resolved]
    exact (List.mergeSort_perm _ _).trans ((Order.dependencyOrder_perm scene.objects).filterMap _)
  refine ⟨fun id => ?_, ?_, ?_, ?_⟩
  · rw [IdMap.mem_keys, isSome_resolve_objects distinct]
  · rw [← map_objectId_filterMap_drawn?]
    exact perm.map _
  · intro c inside
    obtain ⟨o, member, drawn⟩ := List.mem_filterMap.mp (perm.mem_iff.mp inside)
    obtain ⟨entry, made, shows⟩ := shows_of_command? drawn
    refine ⟨entry, ?_, shows⟩
    rw [(command?_eq_some drawn).1, resolve_objects_get? distinct member, made]
  · intro o member agent shows
    exact resolve_agent_agrees distinct member agent shows

def runner : SceneObject :=
  { id := "runner", opacity := some (.formula "objects.field.opacity / 2"),
    kind := .agent { vx := some 3 } }

/-- A field and a mark on it, a runner, a net that is taken down, and something unheard-of. -/
def training : Scene where
  objects :=
    [{ id := "mark", parent := some "field", layer := 2, kind := .ellipse {} },
      { id := "field", kind := .group },
      runner,
      { id := "net", visible := some (.formula "not true"), kind := .rect {} },
      { id := "drone", kind := .unknown }]

def trainingContext : FrameContext :=
  ⟨0, 0, ⟨800, 600⟩, 0⟩

/-- The entries, the commands and the states of a training. -/
theorem resolve_agrees_training :
    training.DistinctIds ∧
      "field" ∈ (resolve training trainingContext .empty).objects.keys ∧
      "net" ∉ (resolve training trainingContext .empty).objects.keys ∧
      "drone" ∉ (resolve training trainingContext .empty).objects.keys ∧
      ((resolve training trainingContext .empty).commands.map (·.objectId)).Perm
        ["mark", "runner"] ∧
      ∃ s entry, (resolve training trainingContext .empty).states.get? "runner" = some s ∧
        (resolve training trainingContext .empty).objects.get? "runner" = some entry ∧
        entry.position = s.position := by
  have distinct : training.DistinctIds := by decide
  obtain ⟨entries, commands, -, agents⟩ := resolve_agrees distinct trainingContext .empty
  have drawn : (training.objects.filter fun o => shown training trainingContext .empty o &&
      o.kind != .group).map (·.id) = ["mark", "runner"] := by decide +kernel
  rw [drawn] at commands
  refine ⟨distinct, ?_, ?_, ?_, commands, ?_⟩
  · exact (entries "field").mpr (by decide +kernel)
  · exact fun listed => absurd ((entries "net").mp listed) (by decide +kernel)
  · exact fun listed => absurd ((entries "drone").mp listed) (by decide +kernel)
  · exact agents runner (by decide +kernel) rfl (by decide +kernel)

end Outputs

end Frame

end Playfield
