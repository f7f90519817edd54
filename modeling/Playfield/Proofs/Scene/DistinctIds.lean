import Mathlib.Data.List.Nodup
import Playfield.Scene

/-!
Scenes in which every object has an id of its own.
-/

namespace Playfield.Scene

/-- No id is given to two objects. -/
def DistinctIds (scene : Scene) : Prop :=
  (scene.objects.map (·.id)).Nodup

instance (scene : Scene) : Decidable scene.DistinctIds := by
  unfold DistinctIds; infer_instance

namespace DistinctIds

variable {scene : Scene} (distinct : scene.DistinctIds)

include distinct

/-- Two objects with one id are the same. -/
theorem eq_of_id {o q : SceneObject} (member : o ∈ scene.objects) (member' : q ∈ scene.objects)
    (same : o.id = q.id) : o = q :=
  List.inj_on_of_nodup_map distinct member member' same

/-- With distinct ids an object is the first one with its id. -/
theorem find?_eq {o : SceneObject} (member : o ∈ scene.objects) : scene.find? o.id = some o := by
  obtain ⟨q, found⟩ : ∃ q, scene.find? o.id = some q :=
    Option.isSome_iff_exists.mp (List.find?_isSome.mpr ⟨o, member, beq_self_eq_true o.id⟩)
  have same : q.id = o.id := by simpa using List.find?_some found
  rw [found, distinct.eq_of_id (List.mem_of_find?_eq_some found) member same]

/-- Ids that differ do so in any order. -/
theorem perm {objects : List SceneObject} (perm : objects.Perm scene.objects) :
    DistinctIds { scene with objects := objects } :=
  (perm.map _).nodup_iff.mpr distinct

end DistinctIds

end Playfield.Scene
