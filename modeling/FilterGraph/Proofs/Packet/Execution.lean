import FilterGraph.Rule

namespace FilterGraph

structure Packet where
  family : AddressFamily
  holds : String → Bool
  concrete : family ≠ .inet

inductive Decision where
  | accept
  | drop
  deriving DecidableEq, Repr

inductive Exit where
  | goto (chain : String)
  | decided (d : Decision)
  deriving DecidableEq, Repr

def Verdict.exit? : Verdict → Option Exit
  | .goto chain => some (.goto chain)
  | .leave | .accept => some (.decided .accept)
  | .drop => some (.decided .drop)
  | .mark _ => none

namespace Packet

def meets (p : Packet) : Condition → Bool
  | .always => true
  | .family f => p.family == f
  | .expression text => p.holds text

/-- How a packet leaves the rules of a chain, and the mark it then has. To leave a chain without a decision is
    to be accepted, by the policy of the base chain. -/
def exit (p : Packet) (mark : Int) : List Rule → Exit × Int
  | [] => (.decided .accept, mark)
  | r :: rest =>
    if p.meets r.condition then
      match r.verdict with
      | .goto chain => (.goto chain, mark)
      | .leave => (.decided .accept, mark)
      | .accept => (.decided .accept, mark)
      | .drop => (.decided .drop, mark)
      | .mark n => p.exit n rest
    else p.exit mark rest

theorem exit_hit (p : Packet) {chain : String} {condition : Condition} {v : Verdict} {e : Exit}
    (hit : p.meets condition = true) (leaves : v.exit? = some e) (mark : Int) (rest : List Rule) :
    p.exit mark (⟨chain, condition, v⟩ :: rest) = (e, mark) := by
  rw [exit, if_pos hit]
  cases v with
  | mark n => cases leaves
  | goto | leave | accept | drop =>
    cases leaves
    rfl

theorem exit_miss (p : Packet) {chain : String} {condition : Condition} {v : Verdict}
    (miss : p.meets condition = false) (mark : Int) (rest : List Rule) :
    p.exit mark (⟨chain, condition, v⟩ :: rest) = p.exit mark rest := by
  rw [exit, if_neg (Bool.not_eq_true _ ▸ miss)]

theorem exit_always {p : Packet} {chain : String} {v : Verdict} {e : Exit} (leaves : v.exit? = some e) (mark : Int)
    (rest : List Rule) : p.exit mark (⟨chain, .always, v⟩ :: rest) = (e, mark) :=
  p.exit_hit (show p.meets .always = true from rfl) leaves mark rest

theorem exit_true {p : Packet} {chain text : String} {v : Verdict} {e : Exit} (hit : p.holds text = true)
    (leaves : v.exit? = some e) (mark : Int) (rest : List Rule) :
    p.exit mark (⟨chain, .expression text, v⟩ :: rest) = (e, mark) :=
  p.exit_hit (show p.meets (.expression text) = true from hit) leaves mark rest

theorem exit_false {p : Packet} {chain text : String} {v : Verdict} (miss : p.holds text = false) (mark : Int)
    (rest : List Rule) : p.exit mark (⟨chain, .expression text, v⟩ :: rest) = p.exit mark rest :=
  p.exit_miss (show p.meets (.expression text) = false from miss) mark rest

/-- The packet goes from chain to chain: from the given one with the given mark, through the listed chains, to
    the decision, which it meets with the last mark. -/
inductive Executes (p : Packet) (rules : List Rule) : String → Int → List String → Decision → Int → Prop
  | decided {chain : String} {mark after : Int} {d : Decision}
      (left : p.exit mark (rules.filter (·.chain == chain)) = (.decided d, after)) :
      Executes p rules chain mark [chain] d after
  | goto {chain next : String} {mark between after : Int} {trace : List String} {d : Decision}
      (left : p.exit mark (rules.filter (·.chain == chain)) = (.goto next, between))
      (later : Executes p rules next between trace d after) :
      Executes p rules chain mark (chain :: trace) d after

theorem Executes.unique {p : Packet} {rules : List Rule} {chain : String} {mark after last : Int}
    {trace path : List String} {d e : Decision} (left : p.Executes rules chain mark trace d after)
    (right : p.Executes rules chain mark path e last) : trace = path ∧ d = e ∧ after = last := by
  induction left generalizing path e last with
  | decided left =>
    cases right with
    | decided right =>
      cases left.symm.trans right
      exact ⟨rfl, rfl, rfl⟩
    | goto right => cases left.symm.trans right
  | goto left _ ih =>
    cases right with
    | decided right => cases left.symm.trans right
    | goto right later =>
      cases left.symm.trans right
      obtain ⟨rfl, rfl, rfl⟩ := ih later
      exact ⟨rfl, rfl, rfl⟩

end Packet
end FilterGraph
