import Playfield.Scene.Object

/-!
The order in which the objects of a scene are resolved: parents before their children.

A parent is the first object with the id that a child names; a name that no object has asks for
nothing. Objects on a cycle of parents ask for nothing either. Otherwise the order changes as little
as possible: an object comes where it is declared, preceded by those of its ancestors that are not
there yet.
-/

namespace Playfield.Order

/-- For each object the index of its parent, if it has one among the objects. -/
abbrev Links := Array (Option Nat)

def parent? (links : Links) (i : Nat) : Option Nat :=
  (links[i]?).join

/-- The links of a list of objects. -/
def linksOf (objects : List SceneObject) : Links :=
  (objects.map fun o => o.parent.bind fun id => objects.findIdx? fun p => p.id == id).toArray

/-- The parent of `i`, its parent, and so on, up to a number of steps. -/
def ancestors (links : Links) : Nat → Nat → List Nat
  | 0, _ => []
  | steps + 1, i =>
    match parent? links i with
    | none => []
    | some p => p :: ancestors links steps p

/-- Whether `i` is an ancestor of itself. A cycle has no more members than there are objects. -/
def onCycle (links : Links) (i : Nat) : Bool :=
  (ancestors links links.size i).contains i

section

variable {m : Type → Type} [Monad m]

/-- The parent that must come before `i`, by the way in which it is looked up whether an index is on
a cycle and what its parent is. -/
def beforeBy (looped : Nat → m Bool) (parent : Nat → m (Option Nat)) (i : Nat) :
    m (Option Nat) := do
  if ← looped i then return none else parent i

/-- Put `i` before `below`, and before it those of its ancestors that are not placed yet, by the way
in which it is looked up whether an index is placed and which one must come before it. The first
number bounds how many there are to put. -/
def climbBy (placed : Nat → m Bool) (before : Nat → m (Option Nat)) :
    Nat → Nat → List Nat → m (List Nat)
  | 0, _, below => return below
  | steps + 1, i, below => do
    if ← placed i then return below
    else
      match ← before i with
      | none => return i :: below
      | some p => climbBy placed before steps p (i :: below)

end

/-- The parent that must come before `i`. -/
def before? (links : Links) (i : Nat) : Option Nat :=
  Id.run (beforeBy (fun i => return onCycle links i) (fun i => return parent? links i) i)

/-- Put `i` before `below`, and before it those of its ancestors that are not placed yet. The first
number bounds how many those are. -/
def climb (links : Links) (placed : List Nat) (steps i : Nat) (below : List Nat) : List Nat :=
  Id.run (climbBy (fun i => return placed.contains i) (fun i => return before? links i) steps i
    below)

/-- All indices, parents first. -/
def indices (links : Links) : List Nat :=
  (List.range links.size).foldl (fun placed i => placed ++ climb links placed links.size i []) []

/-- The indices of some objects in the order of their resolution. -/
def dependencyIndices (objects : List SceneObject) : List Nat :=
  indices (linksOf objects)

/-- The objects in the order of their resolution. -/
def dependencyOrder (objects : List SceneObject) : List SceneObject :=
  let declared := objects.toArray
  (dependencyIndices objects).filterMap fun i => declared[i]?

end Playfield.Order
