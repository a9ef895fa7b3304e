import FilterGraph.Finding
import FilterGraph.Graph

namespace FilterGraph

/-- `fresh` are the ports that no colour has reached; `conflicts` holds the colour that was refused. -/
structure Coloring where
  fresh : List PortRef
  colors : Entries PortRef Flow := []
  conflicts : Entries PortRef Flow := []

namespace Graph

def portsAfter (g : Graph) (r : PortRef) : List PortRef :=
  match g.port? r with
  | some p =>
    match p.kind with
    | .output => (g.target? r).toList
    | .input => ((g.node? r.node).map Node.outputRefs).getD []
  | none => []

def portsBefore (g : Graph) (r : PortRef) : List PortRef :=
  match g.port? r with
  | some p =>
    match p.kind with
    | .input => (g.connections.filter (·.input == r)).map (·.output)
    | .output => ((g.node? r.node).map Node.inputRefs).getD []
  | none => []

def spread (g : Graph) (color : Flow) (r : PortRef) : List PortRef :=
  if color == .incoming then g.portsAfter r else g.portsBefore r

def declaredFlow (g : Graph) (r : PortRef) : Flow := ((g.port? r).map (·.flow)).getD .unset

end Graph

namespace Coloring

abbrev Front := Entries PortRef Flow

def arrivals (front : Front) : Front :=
  (front.foldl (fun (known : Front) (r, color) => Entries.set r color known) []).mergeSort
    fun a b => a.1.le b.1

def arrive (g : Graph) (s : Coloring) (r : PortRef) (color : Flow) : Coloring × Front :=
  if s.fresh.contains r then
    let rest := s.fresh.erase r
    -- a port that refuses the colour is done as well, and no other one reaches it
    if (g.declaredFlow r).compatible color then
      ({ s with fresh := rest, colors := s.colors ++ [(r, color)] },
        (g.spread color r).map fun next => (next, color))
    else ({ s with fresh := rest, conflicts := s.conflicts ++ [(r, color)] }, [])
  else (s, [])

def round (g : Graph) (s : Coloring) : Front → Coloring × Front
  | [] => (s, [])
  | (r, color) :: rest =>
    let (s, here) := arrive g s r color
    let (s, later) := round g s rest
    (s, here ++ later)

theorem arrive_decreases (g : Graph) (s : Coloring) (r : PortRef) (color : Flow) :
    (arrive g s r color).1.fresh.length < s.fresh.length ∨
      ((arrive g s r color).1.fresh.length = s.fresh.length ∧ (arrive g s r color).2 = []) := by
  unfold arrive
  split
  · rename_i found
    left
    have member := List.mem_of_elem_eq_true found
    have size := List.length_erase_of_mem member
    have := List.length_pos_of_mem member
    split <;> simp only [size] <;> omega
  · right; exact ⟨rfl, rfl⟩

theorem round_decreases (g : Graph) (s : Coloring) (front : Front) :
    (round g s front).1.fresh.length < s.fresh.length ∨
      ((round g s front).1.fresh.length = s.fresh.length ∧ (round g s front).2 = []) := by
  induction front generalizing s with
  | nil => right; exact ⟨rfl, rfl⟩
  | cons arrival rest ih =>
    obtain ⟨r, color⟩ := arrival
    have here := arrive_decreases g s r color
    have later := ih (arrive g s r color).1
    simp only [round]
    rcases here with fewer | ⟨same, none⟩ <;> rcases later with less | ⟨equal, stopped⟩
    · left; omega
    · left; omega
    · left; omega
    · right; exact ⟨by omega, by simp [none, stopped]⟩

/-- Incoming ports come first in a front, so that of two colours for one port the outgoing one stays. -/
def ordered (front : Front) : Front :=
  front.filter (·.2 == .incoming) ++ front.filter (·.2 != .incoming)

def flood (g : Graph) (s : Coloring) (front : Front) : Coloring :=
  if _h : front = [] then s
  else
    let next := round g s (arrivals (ordered front))
    flood g next.1 next.2
termination_by (s.fresh.length, front.length)
decreasing_by
  rcases round_decreases g s (arrivals (ordered front)) with fewer | ⟨same, stopped⟩
  · exact Prod.Lex.left _ _ fewer
  · rw [same, stopped]
    exact Prod.Lex.right _ (List.length_pos_iff.mpr _h)

end Coloring

namespace Graph

def firstFront (g : Graph) : Coloring.Front :=
  let refs (id : String) (ports : Node → List PortRef) := ((g.node? id).map ports).getD []
  (refs sourceId Node.outputRefs).map (fun r => (r, Flow.incoming)) ++
    (refs localhostId Node.inputRefs).map fun r => (r, Flow.outgoing)

def coloring (g : Graph) : Coloring :=
  Coloring.flood g { fresh := g.ports.eraseDups } g.firstFront

end Graph

namespace Coloring

def colorOf (s : Coloring) (r : PortRef) : Flow := (s.colors.get? r).getD .unset

def connectionColor (s : Coloring) (c : Connection) : Flow := s.colorOf c.output

/-- The direction a node is exported under: that of its first input, or of its first output if it has no
    inputs; incoming where there is no colour. -/
def nodeFlow (s : Coloring) (n : Node) : Flow :=
  let refs := if n.inputRefs.isEmpty then n.outputRefs else n.inputRefs
  match refs with
  | [] => .incoming
  | r :: _ => if s.colorOf r == .unset then .incoming else s.colorOf r

def flowOf (s : Coloring) (g : Graph) (id : String) : Flow :=
  ((g.node? id).map s.nodeFlow).getD .incoming

def findings (s : Coloring) (g : Graph) : List Finding :=
  s.conflicts.map fun (r, color) => .flowConflict r (g.declaredFlow r) color

end Coloring
end FilterGraph
