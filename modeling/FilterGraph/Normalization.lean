import FilterGraph.Finding
import FilterGraph.Graph

namespace FilterGraph

namespace Graph

def discovered (g : Graph) (id : String) (fresh : List String) : List String :=
  let next := g.successors id
  fresh.filter fun v => next.contains v

def undiscovered (g : Graph) (id : String) (fresh : List String) : List String :=
  let next := g.successors id
  fresh.filter fun v => !next.contains v

theorem discovered_length (g : Graph) (id : String) (fresh : List String) :
    (g.undiscovered id fresh).length + (g.discovered id fresh).length = fresh.length := by
  simp only [undiscovered, discovered]
  induction fresh with
  | nil => rfl
  | cons v rest ih =>
    simp only [List.filter_cons]
    cases (g.successors id).contains v <;> simp at ih ⊢ <;> omega

def reachableFrom (g : Graph) (fresh : List String) : List String → List String
  | [] => []
  | id :: queue =>
    id :: reachableFrom g (g.undiscovered id fresh) (queue ++ g.discovered id fresh)
termination_by queue => fresh.length + queue.length
decreasing_by
  have := g.discovered_length id fresh
  simp only [List.length_append, List.length_cons]
  omega

def reachable (g : Graph) : List String :=
  g.reachableFrom (g.nodeIds.filter (· != sourceId)) [sourceId]

end Graph

/-- A search for cycles. The stack holds the nodes on the current path, the last one first, each with
    the connections still to follow; `fresh` are the ids not visited so far. -/
structure CycleSearch where
  fresh : List String
  stack : List (String × List Connection)
  removed : List Connection := []

namespace CycleSearch

def onPath (s : CycleSearch) (id : String) : Bool := s.stack.any (·.1 == id)

def pending (stack : List (String × List Connection)) : Nat :=
  stack.foldr (fun frame count => frame.2.length + 1 + count) 0

def step (g : Graph) (s : CycleSearch) : CycleSearch :=
  match s.stack with
  | [] => s
  | (_, []) :: below => { s with stack := below }
  | (id, c :: rest) :: below =>
    let target := c.input.node
    -- a connection back to the path closes a cycle
    if s.onPath target then { s with stack := (id, rest) :: below, removed := s.removed ++ [c] }
    else if s.fresh.contains target then
      { s with
        fresh := s.fresh.erase target
        stack := (target, g.outgoing target) :: (id, rest) :: below }
    else { s with stack := (id, rest) :: below }

theorem step_decreases (g : Graph) (s : CycleSearch) (h : s.stack ≠ []) :
    (s.step g).fresh.length < s.fresh.length ∨
      ((s.step g).fresh.length = s.fresh.length ∧ pending (s.step g).stack < pending s.stack) := by
  obtain ⟨fresh, stack, removed⟩ := s
  match stack, h with
  | (_, []) :: below, _ => right; simp [step, pending]
  | (id, c :: rest) :: below, _ =>
    simp only [step]
    split
    · right; simp [pending]
    · split
      · rename_i found
        left
        have member := List.mem_of_elem_eq_true found
        have size := List.length_erase_of_mem member
        have := List.length_pos_of_mem member
        simp only [size]
        omega
      · right; simp [pending]

def run (g : Graph) (s : CycleSearch) : List Connection :=
  if _h : s.stack = [] then s.removed else run g (s.step g)
termination_by (s.fresh.length, pending s.stack)
decreasing_by
  rcases step_decreases g s _h with fewer | ⟨same, less⟩
  · exact Prod.Lex.left _ _ fewer
  · rw [same]; exact Prod.Lex.right _ less

end CycleSearch

namespace Graph

def backConnections (g : Graph) : List Connection :=
  CycleSearch.run g
    { fresh := g.nodeIds.filter (· != sourceId), stack := [(sourceId, g.outgoing sourceId)] }

end Graph

structure Normalization where
  graph : Graph
  unreachable : List String
  removed : List Connection

namespace Normalization

def findings (n : Normalization) : List Finding :=
  n.unreachable.map .unreachable ++ n.removed.map .cycleBroken

end Normalization

namespace Graph

def unreachable (g : Graph) : List String :=
  let reached := g.reachable
  g.nodeIds.filter fun id => !reached.contains id && !isPermanentId id

def normalize (g : Graph) : Normalization :=
  let unreachable := g.unreachable
  let kept := unreachable.foldl without g
  let removed := kept.backConnections
  { graph := removed.foldl (fun g c => g.unplugged c.output) kept, unreachable, removed }

end Graph
end FilterGraph
