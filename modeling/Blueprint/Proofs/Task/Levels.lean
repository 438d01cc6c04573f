import Blueprint.Task.Tree
import Mathlib.Data.List.Perm.Basic

/-!
# Levels of a task tree

Every node of a tree stands on exactly one of its levels.
-/

namespace Blueprint

def TaskNode.levels : TaskNode → List TaskTree
  | .leaf _ _ => []
  | .decision _ _ success failure => [success, failure]
  | .loop _ _ _ body => [body]

def TaskNode.nested (n : TaskNode) : List TaskNode := n.levels.flatten

/-- The top level of a tree and every level inside it. -/
def TaskTree.levels (t : TaskTree) : List TaskTree := t :: t.allNodes.flatMap TaskNode.levels

open List in
theorem append_append_perm {α : Type} {s f a b a' b' : List α} (first : a.Perm (s ++ a'))
    (second : b.Perm (f ++ b')) : (a ++ b).Perm ((s ++ f) ++ (a' ++ b')) := by
  refine (first.append second).trans ?_
  rw [append_assoc, append_assoc]
  exact (perm_append_comm_assoc a' f b').append_left s

mutual

theorem TaskNode.all_perm : ∀ n : TaskNode, n.all.Perm (n :: n.all.flatMap TaskNode.nested)
  | .leaf _ _ => List.Perm.refl _
  | .decision head script success failure => by
    rw [all, List.flatMap_cons, List.flatMap_append]
    refine List.Perm.cons _ ?_
    simpa [nested, levels] using append_append_perm (allOf_perm success) (allOf_perm failure)
  | .loop head iterations loopVariable body => by
    rw [all, List.flatMap_cons]
    refine List.Perm.cons _ ?_
    simpa [nested, levels] using allOf_perm body

theorem TaskNode.allOf_perm :
    ∀ ns : List TaskNode, (allOf ns).Perm (ns ++ (allOf ns).flatMap TaskNode.nested)
  | [] => List.Perm.refl _
  | n :: ns => by
    rw [allOf, List.flatMap_append]
    exact append_append_perm (s := [n]) (all_perm n) (allOf_perm ns)

end

/-- No node is on two levels, and none is on no level. -/
theorem TaskTree.levels_perm (t : TaskTree) : t.levels.flatten.Perm t.allNodes := by
  have inner : (t.allNodes.flatMap TaskNode.levels).flatten =
      t.allNodes.flatMap TaskNode.nested := by
    rw [List.flatMap_def, List.flatten_flatten, List.map_map]
    rfl
  rw [levels, List.flatten_cons, inner]
  exact (TaskNode.allOf_perm t).symm

end Blueprint
