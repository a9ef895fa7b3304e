import FilterGraph.Proofs.Export.Compiled
import FilterGraph.Proofs.Export.Order
import FilterGraph.Proofs.Registry.Integrity

namespace FilterGraph

namespace Fragment

structure Admitted (f : Fragment) (s : Settings) : Prop where
  files : ∀ file ∈ f.files, isFileName file.1 = true
  hooks : ∀ stated ∈ f.nat, ∃ side, Side.ofHook? stated.1 = some side ∧ s.admitsNat side = true

inductive Flawed (f : Fragment) (s : Settings) : ExportCause → Prop
  | file {file : String × String} (first : f.sortedFiles.find? (fun file => !isFileName file.1) = some file) :
      Flawed f s (.invalidFileName file.1)
  | hook {cause : ExportCause} (named : ∀ file ∈ f.files, isFileName file.1 = true)
      (first : f.nat.findSome? (fun stated => s.hookProblem? stated.1) = some cause) : Flawed f s cause

end Fragment

theorem Settings.hookProblem?_eq_none {s : Settings} {hook : String} :
    s.hookProblem? hook = none ↔ ∃ side, Side.ofHook? hook = some side ∧ s.admitsNat side = true := by
  unfold hookProblem?
  cases Side.ofHook? hook with
  | none => simp
  | some side =>
    by_cases admits : s.admitsNat side = true
    · simp [admits]
    · simp only [admits, Bool.false_eq_true, if_false, Option.some.injEq, exists_eq_left', iff_false]
      split <;> exact Option.some_ne_none _

theorem Settings.hookProblem?_long {s : Settings} (side : Side) (late : s.admitsNat side = false)
    (long : (Scalar.int s.basePriority).isLongNumber = true) :
    s.hookProblem? side.hook = some (.fault (.unwritable .longNumber)) := by
  have known : Side.ofHook? side.hook = some side := by cases side <;> rfl
  simp only [hookProblem?, known, late, long, Bool.false_eq_true, if_false, if_true]

namespace Fragment

variable {f : Fragment} {s : Settings}

theorem find?_sortedFiles :
    f.sortedFiles.find? (fun file => !isFileName file.1) = none ↔ ∀ file ∈ f.files, isFileName file.1 = true := by
  simp only [List.find?_eq_none, sortedFiles, List.mem_mergeSort, Bool.not_eq_true', Bool.not_eq_false]

theorem problem?_eq_none : f.problem? s = none ↔ f.Admitted s := by
  unfold problem?
  split
  case h_1 name content found =>
    refine ⟨nofun, fun admitted => ?_⟩
    rw [find?_sortedFiles.mpr admitted.files] at found
    cases found
  case h_2 none =>
    have named := find?_sortedFiles.mp none
    simp only [List.findSome?_eq_none_iff, Settings.hookProblem?_eq_none]
    exact ⟨fun hooks => ⟨named, hooks⟩, fun admitted => admitted.hooks⟩

theorem problem?_eq_some {cause : ExportCause} : f.problem? s = some cause ↔ f.Flawed s cause := by
  unfold problem?
  split
  case h_1 name content found =>
    constructor
    · rintro ⟨⟩
      exact .file found
    · rintro (first | ⟨named, first⟩)
      · rw [found] at first
        cases first
        rfl
      · rw [find?_sortedFiles.mpr named] at found
        cases found
  case h_2 none =>
    constructor
    · exact fun first => .hook (find?_sortedFiles.mp none) first
    · rintro (first | ⟨named, first⟩)
      · rw [none] at first
        cases first
      · exact first

end Fragment

theorem EmitError.toExportError_raised {e : EmitError} (node typeId : String) (plain : ∀ refusal, e ≠ .refused refusal)
    (value : ∀ kind, e ≠ .notAFragment kind) :
    e.toExportError node typeId = ⟨some node, .failed e.description.1 e.description.2⟩ := by
  cases e with
  | refused e => exact absurd rfl (plain e)
  | notAFragment kind => exact absurd rfl (value kind)
  | _ => rfl

namespace Plan

variable {p : Plan} {s : Settings} {files : FileTree} {mark : Nat} {id : String}

inductive Passes (p : Plan) (s : Settings) (files : FileTree) (mark : Nat) (id : String) : Prop
  | intro {n : Node} {f : Fragment} (node : p.analysis.graph.node? id = some n)
      (made : p.emitted s files mark n = .ok f) (admitted : f.Admitted s)

/-- The error that names a node at fault; one that its type raises as such is handed on as it is. -/
inductive Blames (p : Plan) (s : Settings) (files : FileTree) (mark : Nat) (id : String) : ExportError → Prop
  | refused {n : Node} {e : ExportError} (node : p.analysis.graph.node? id = some n)
      (raised : p.emitted s files mark n = .error (.refused e)) : Blames p s files mark id e
  | raised {n : Node} {e : EmitError} (node : p.analysis.graph.node? id = some n)
      (raised : p.emitted s files mark n = .error e) (plain : ∀ refusal, e ≠ .refused refusal)
      (value : ∀ kind, e ≠ .notAFragment kind) :
      Blames p s files mark id ⟨some id, .failed e.description.1 e.description.2⟩
  | returned {n : Node} {kind : String} (node : p.analysis.graph.node? id = some n)
      (returned : p.emitted s files mark n = .error (.notAFragment kind)) :
      Blames p s files mark id ⟨some id, .notAFragment n.type.typeId kind⟩
  | flawed {n : Node} {f : Fragment} {cause : ExportCause} (node : p.analysis.graph.node? id = some n)
      (made : p.emitted s files mark n = .ok f) (flawed : f.Flawed s cause) : Blames p s files mark id ⟨some id, cause⟩

theorem emit_ok_iff : (∃ e, p.emit s files mark id = .ok e) ↔ p.Passes s files mark id := by
  constructor
  · rintro ⟨e, done⟩
    obtain ⟨n, node, -, made, fine⟩ := emit_made done
    exact ⟨node, made, Fragment.problem?_eq_none.mp fine⟩
  · rintro ⟨node, made, admitted⟩
    exact ⟨_, emit_of_fragment node made (Fragment.problem?_eq_none.mpr admitted)⟩

theorem emit_error_iff (known : id ∈ p.analysis.graph.nodeIds) {e : ExportError} :
    p.emit s files mark id = .error e ↔ p.Blames s files mark id e := by
  obtain ⟨n, node⟩ := Graph.node?_isSome known
  rw [emit_of_node node]
  cases made : p.emitted s files mark n with
  | error failure =>
    simp only [Except.mapError, Except.bind, Except.error.injEq]
    constructor
    · rintro rfl
      by_cases refusal : ∃ e, failure = .refused e
      · obtain ⟨e, rfl⟩ := refusal
        exact .refused node made
      by_cases returned : ∃ kind, failure = .notAFragment kind
      · obtain ⟨kind, rfl⟩ := returned
        exact .returned node made
      have plain := not_exists.mp refusal
      have value := not_exists.mp returned
      exact EmitError.toExportError_raised id n.type.typeId plain value ▸ .raised node made plain value
    -- what the node gave decides which blame is due, and the others are about something else that it gave
    · rintro (⟨here, raised⟩ | ⟨here, raised, plain, value⟩ | ⟨here, returned⟩ | ⟨here, given, flawed⟩) <;>
        cases node.symm.trans here
      · cases made.symm.trans raised
        rfl
      · cases made.symm.trans raised
        exact EmitError.toExportError_raised id n.type.typeId plain value
      · cases made.symm.trans returned
        rfl
      · cases made.symm.trans given
  | ok f =>
    simp only [Except.mapError, Except.bind]
    constructor
    · intro failed
      split at failed
      case h_1 cause problem =>
        cases failed
        exact .flawed node made (Fragment.problem?_eq_some.mp problem)
      case h_2 => cases failed
    · rintro (⟨here, raised⟩ | ⟨here, raised, plain, value⟩ | ⟨here, returned⟩ | ⟨here, given, flawed⟩) <;>
        cases node.symm.trans here
      · cases made.symm.trans raised
      · cases made.symm.trans raised
      · cases made.symm.trans returned
      · cases made.symm.trans given
        rw [Fragment.problem?_eq_some.mpr flawed]

/-- The first node of the order that is at fault, the permanent ones left out. -/
inductive FirstBlamed (p : Plan) (s : Settings) (files : FileTree) (e : ExportError) : Prop
  | intro {mark : Nat} {id : String} (place : p.order[mark]? = some id) (inner : isPermanentId id = false)
      (blames : p.Blames s files mark id e)
      (earlier : ∀ before other, before < mark → p.order[before]? = some other → isPermanentId other = false →
        p.Passes s files before other)

theorem marked_sorted (p : Plan) : p.marked.Pairwise fun a b => a.2 < b.2 := by
  have marks : (p.order.zipIdx.map Prod.snd).Pairwise (· < ·) := by
    rw [List.zipIdx_map_snd]
    exact List.pairwise_lt_range'
  exact (List.pairwise_map.mp marks).filter _

theorem emitAll_none_iff {nodes : List (String × Nat)} :
    (p.emitAll s files nodes).2 = none ↔ ∀ node ∈ nodes, ∃ e, p.emit s files node.2 node.1 = .ok e := by
  induction nodes with
  | nil => exact ⟨fun _ => nofun, fun _ => rfl⟩
  | cons node rest ih =>
    rw [List.forall_mem_cons, ← ih, emitAll]
    cases p.emit s files node.2 node.1 with
    | error e => simp
    | ok e => simp

theorem emitAll_some_iff {nodes : List (String × Nat)} (sorted : nodes.Pairwise fun a b => a.2 < b.2) {e : ExportError} :
    (p.emitAll s files nodes).2 = some e ↔ ∃ node ∈ nodes, p.emit s files node.2 node.1 = .error e ∧
      ∀ other ∈ nodes, other.2 < node.2 → ∃ e, p.emit s files other.2 other.1 = .ok e := by
  induction nodes with
  | nil => exact ⟨nofun, nofun⟩
  | cons first rest ih =>
    obtain ⟨later, sorted⟩ := List.pairwise_cons.mp sorted
    rw [emitAll]
    cases emitted : p.emit s files first.2 first.1 with
    | error failure =>
      simp only [Option.some.injEq]
      constructor
      · rintro rfl
        refine ⟨first, List.mem_cons_self, emitted, fun other member before => ?_⟩
        rcases List.mem_cons.mp member with rfl | after
        · exact absurd before (Nat.lt_irrefl _)
        · exact absurd before (Nat.lt_asymm (later other after))
      · rintro ⟨node, member, failed, earlier⟩
        rcases List.mem_cons.mp member with rfl | after
        · exact Except.error.inj (emitted.symm.trans failed)
        · obtain ⟨e, done⟩ := earlier first List.mem_cons_self (later node after)
          cases emitted.symm.trans done
    | ok emission =>
      show (p.emitAll s files rest).2 = some e ↔ _
      rw [ih sorted]
      constructor
      · rintro ⟨node, member, failed, earlier⟩
        refine ⟨node, List.mem_cons_of_mem _ member, failed, List.forall_mem_cons.mpr ⟨fun _ => ⟨emission, emitted⟩, earlier⟩⟩
      · rintro ⟨node, member, failed, earlier⟩
        rcases List.mem_cons.mp member with rfl | after
        · cases emitted.symm.trans failed
        · exact ⟨node, after, failed, (List.forall_mem_cons.mp earlier).2⟩

def Passing (p : Plan) (s : Settings) (files : FileTree) : Prop :=
  ∀ mark id, p.order[mark]? = some id → isPermanentId id = false → p.Passes s files mark id

theorem emitAll_marked_none_iff : (p.emitAll s files p.marked).2 = none ↔ p.Passing s files := by
  simp only [emitAll_none_iff, Prod.forall, emit_ok_iff, mem_marked, and_imp]
  exact forall_comm

theorem emitAll_marked_some_iff (known : ∀ id ∈ p.order, id ∈ p.analysis.graph.nodeIds) {e : ExportError} :
    (p.emitAll s files p.marked).2 = some e ↔ p.FirstBlamed s files e := by
  rw [emitAll_some_iff p.marked_sorted]
  constructor
  · rintro ⟨⟨id, mark⟩, marked, failed, earlier⟩
    obtain ⟨place, inner⟩ := mem_marked.mp marked
    refine ⟨place, inner, (emit_error_iff (known id (List.mem_of_getElem? place))).mp failed, ?_⟩
    intro before other less there open'
    exact emit_ok_iff.mp (earlier (other, before) (mem_marked.mpr ⟨there, open'⟩) less)
  · rintro @⟨mark, id, place, inner, blames, earlier⟩
    refine ⟨(id, mark), mem_marked.mpr ⟨place, inner⟩, (emit_error_iff (known id (List.mem_of_getElem? place))).mpr blames, ?_⟩
    rintro ⟨other, before⟩ marked less
    obtain ⟨there, open'⟩ := mem_marked.mp marked
    exact emit_ok_iff.mpr (earlier before other less there open')

theorem artifact_error_iff {es : List Emission} {e : ExportError} : p.artifact s es = .error e ↔
    (Scalar.int s.basePriority).isLongNumber = true ∧ e = ⟨none, .fault (.unwritable .longNumber)⟩ := by
  rw [artifact]
  split
  case isTrue long => rw [Except.error.injEq, eq_comm, and_iff_right long]
  case isFalse short =>
    refine iff_of_false ?_ fun both => short both.1
    intro failed
    cases failed

theorem artifact_ok_iff {es : List Emission} :
    (∃ a, p.artifact s es = .ok a) ↔ (Scalar.int s.basePriority).isLongNumber = false := by
  rw [artifact, ← Bool.not_eq_true]
  split
  case isTrue long =>
    refine iff_of_false ?_ (not_not.mpr long)
    rintro ⟨a, made⟩
    cases made
  case isFalse short => exact iff_of_true ⟨_, rfl⟩ short

/-- An error of a node is a report, but for a priority too long to be told and for what the type raises as a refusal. -/
theorem Blames.report {e : ExportError} (blames : p.Blames s files mark id e) :
    e.cause.IsReport ∨ (Scalar.int s.basePriority).isLongNumber = true ∨
      ∃ n, p.analysis.graph.node? id = some n ∧ p.emitted s files mark n = .error (.refused e) := by
  cases blames with
  | refused node raised => exact .inr (.inr ⟨_, node, raised⟩)
  | raised => exact .inl fun f => by simp
  | returned => exact .inl fun f => by simp
  | flawed node made flawed =>
    rcases Graph.problem_report (Fragment.problem?_eq_some.mpr flawed) with report | long
    · exact .inl report
    · exact .inr (.inl long)

end Plan

namespace Graph

variable {r : Registry} {g : Graph} {s : Settings} {files : FileTree} {order : List String}

def planned (g : Graph) (order : List String) : Plan := ⟨g.analyze, order, order.map withChain⟩

theorem ofAnalysis_of_nodup (ordered : g.normalize.graph.order g.normalize.graph.coloring = .ok order)
    (distinct : (order.map chainName).Nodup) : Plan.ofAnalysis g.analyze = .ok (g.planned order) := by
  have ordered : g.analyze.graph.order g.analyze.coloring = .ok order := ordered
  rw [Plan.ofAnalysis, ordered]
  show (chainNames order).bind _ = _
  rw [chainNames_of_nodup distinct]
  rfl

theorem ofAnalysis_of_taken (ordered : g.normalize.graph.order g.normalize.graph.coloring = .ok order) {id owner : String}
    (taken : FirstTaken order id owner) :
    Plan.ofAnalysis g.analyze = .error ⟨some id, .chainTaken (chainName id) owner⟩ := by
  have ordered : g.analyze.graph.order g.analyze.coloring = .ok order := ordered
  rw [Plan.ofAnalysis, ordered]
  show (chainNames order).bind _ = _
  rw [chainNames_of_taken taken]
  rfl

theorem compile_of_plan {p : Plan} (plan : Plan.ofAnalysis g.analyze = .ok p) :
    g.compile s files = match (p.emitAll s files p.marked).2 with
      | some e => .error e
      | none => p.artifact s (p.emitAll s files p.marked).1 := by
  simp only [compile, compilation, plan]
  cases p.emitAll s files p.marked with
  | mk emissions error? => cases error? <;> simp only

theorem compile_of_no_plan {e : ExportError} (failed : Plan.ofAnalysis g.analyze = .error e) :
    g.compile s files = .error e := by
  simp only [compile, compilation, failed]

/-- The errors of compiling, by what they come from. -/
inductive CompileFails (g : Graph) (order : List String) (s : Settings) (files : FileTree) : ExportError → Prop
  | taken {id owner : String} (first : FirstTaken order id owner) :
      CompileFails g order s files ⟨some id, .chainTaken (chainName id) owner⟩
  | blamed {e : ExportError} (distinct : (order.map chainName).Nodup) (first : (g.planned order).FirstBlamed s files e) :
      CompileFails g order s files e
  | priority (distinct : (order.map chainName).Nodup) (passing : (g.planned order).Passing s files)
      (long : (Scalar.int s.basePriority).isLongNumber = true) :
      CompileFails g order s files ⟨none, .fault (.unwritable .longNumber)⟩

theorem compile_ok_iff (ordered : g.normalize.graph.order g.normalize.graph.coloring = .ok order) :
    (∃ a, g.compile s files = .ok a) ↔ (order.map chainName).Nodup ∧ (g.planned order).Passing s files ∧
      (Scalar.int s.basePriority).isLongNumber = false := by
  by_cases distinct : (order.map chainName).Nodup
  case neg =>
    obtain ⟨id, owner, taken⟩ := FirstTaken.exists distinct
    simp [compile_of_no_plan (ofAnalysis_of_taken ordered taken), distinct]
  case pos =>
    rw [compile_of_plan (ofAnalysis_of_nodup ordered distinct), ← Plan.emitAll_marked_none_iff]
    cases ((g.planned order).emitAll s files (g.planned order).marked).2 with
    | some e => simp
    | none => simp [distinct, Plan.artifact_ok_iff]

theorem compile_error_iff (ordered : g.normalize.graph.order g.normalize.graph.coloring = .ok order)
    (known : ∀ id ∈ order, id ∈ g.normalize.graph.nodeIds) {e : ExportError} :
    g.compile s files = .error e ↔ g.CompileFails order s files e := by
  -- a chain name taken twice refuses the plan before any node is asked
  by_cases distinct : (order.map chainName).Nodup
  case neg =>
    obtain ⟨id, owner, taken⟩ := FirstTaken.exists distinct
    have plan := ofAnalysis_of_taken ordered taken
    rw [compile_of_no_plan plan, Except.error.injEq]
    constructor
    · rintro rfl
      exact .taken taken
    · rintro (first | ⟨all, -⟩ | ⟨all, -⟩)
      · exact Except.error.inj (plan.symm.trans (ofAnalysis_of_taken ordered first))
      · exact absurd all distinct
      · exact absurd all distinct
  case pos =>
    let p := g.planned order
    have none : (p.emitAll s files p.marked).2 = none ↔ p.Passing s files := Plan.emitAll_marked_none_iff
    have some : ∀ {e}, (p.emitAll s files p.marked).2 = some e ↔ p.FirstBlamed s files e := Plan.emitAll_marked_some_iff known
    rw [compile_of_plan (ofAnalysis_of_nodup ordered distinct)]
    revert none some
    cases (p.emitAll s files p.marked).2 with
    | some failure =>
      intro none some
      rw [Except.error.injEq]
      constructor
      · rintro rfl
        exact .blamed distinct (some.mp rfl)
      · rintro (first | ⟨-, first⟩ | ⟨-, passing, -⟩)
        · exact absurd distinct first.not_nodup
        · exact Option.some.inj (some.mpr first)
        · cases none.mpr passing
    | none =>
      intro none some
      rw [Plan.artifact_error_iff]
      constructor
      · rintro ⟨long, rfl⟩
        exact .priority distinct (none.mp rfl) long
      · rintro (first | ⟨-, first⟩ | ⟨-, -, long⟩)
        · exact absurd distinct first.not_nodup
        · cases some.mpr first
        · exact ⟨long, rfl⟩

theorem Authored.export_order (authored : Authored r g) (differ : g.PortsDiffer) :
    ∃ order, g.normalize.graph.order g.normalize.graph.coloring = .ok order ∧ order.Nodup ∧
      (∀ id, id ∈ order ↔ g.Reaches sourceId id ∨ isPermanentId id = true) ∧ ∀ id ∈ order, id ∈ g.normalize.graph.nodeIds := by
  obtain ⟨built, wf⟩ := authored.well_formed
  obtain ⟨order, ordered⟩ := normalize_ordered built wf differ g.normalize.graph.coloring
  have spec := order_spec built (normalize_well_formed wf) differ.normalize ordered
  exact ⟨order, ordered, spec.distinct, fun id => spec.nodes.mem_iff.trans (mem_normalize_nodeIds wf), fun id => spec.nodes.mem_iff.mp⟩

theorem compile_ends (authored : Authored r g) (differ : g.PortsDiffer) (s : Settings) (files : FileTree) :
    ∃ order, g.normalize.graph.order g.normalize.graph.coloring = .ok order ∧ order.Nodup ∧
      (∀ id, id ∈ order ↔ g.Reaches sourceId id ∨ isPermanentId id = true) ∧
      ((∃ a, g.compile s files = .ok a) ↔ (order.map chainName).Nodup ∧ (g.planned order).Passing s files ∧
        (Scalar.int s.basePriority).isLongNumber = false) ∧
      (∀ e, g.compile s files = .error e ↔ g.CompileFails order s files e) ∧
      ∀ e, g.compile s files = .error e → e.cause.IsReport ∨ (Scalar.int s.basePriority).isLongNumber = true ∨
        ∃ mark id n, order[mark]? = some id ∧ g.normalize.graph.node? id = some n ∧
          (g.planned order).emitted s files mark n = .error (.refused e) := by
  obtain ⟨order, ordered, distinct, exported, known⟩ := authored.export_order differ
  have ends : ∀ {e}, g.compile s files = .error e ↔ g.CompileFails order s files e := compile_error_iff ordered known
  refine ⟨order, ordered, distinct, exported, compile_ok_iff ordered, fun e => ends, fun e failed => ?_⟩
  rcases ends.mp failed with first | ⟨-, @⟨mark, id, place, inner, blames, -⟩⟩ | ⟨-, -, long⟩
  · exact .inl fun f => by simp
  · rcases blames.report with report | long | ⟨n, node, raised⟩
    · exact .inl report
    · exact .inr (.inl long)
    · exact .inr (.inr ⟨mark, id, n, place, node, raised⟩)
  · exact .inr (.inl long)

def late : NodeType :=
  { Builtin.drop.nodeType with typeId := "lab:late", emit := fun _ _ _ _ => .ok { nat := [("postrouting", [])] } }

def broken : NodeType :=
  { Builtin.drop.nodeType with typeId := "lab:broken", emit := fun _ _ _ _ => .error (.failure "RuntimeError" "boom") }

def trials : Bundle := .ofTypes "lab" [late, broken]

def withTrials : Registry :=
  { types := Registry.builtin.types ++ trials.types, extensions := [(trials.id, trials.fingerprint)] }

def trial : Graph :=
  Graph.new.edits withTrials
    [.add "lab:late" (some "a") [] (.list [.int 0, .int 0]), .add "lab:broken" (some "b") [] (.list [.int 0, .int 0]),
      .connect ⟨⟨sourceId, "out"⟩, ⟨"a", "in"⟩⟩]

theorem trial_authored : Authored withTrials trial := by
  have loading : Registry.builtin.load trials = .ok (withTrials, true) :=
    Registry.load_of_new rfl (Registry.clashes_eq_nil.mpr (by decide))
  exact .edits (.new (.loaded .builtin loading)) _

theorem trial_ends : (∃ a, trial.compile {} (.empty (Path.ofText "/w")) = .ok a) ∧
    trial.compile { baseHook := .postrouting, basePriority := longNumber } (.empty (Path.ofText "/w")) =
      .error ⟨some "a", .fault (.unwritable .longNumber)⟩ := by
  have differ : trial.PortsDiffer := by
    unfold PortsDiffer NodeType.PortsDiffer
    decide +kernel
  obtain ⟨-, wf⟩ := trial_authored.well_formed
  obtain ⟨order, ordered, distinct, exported, fine, -, -⟩ :=
    compile_ends trial_authored differ {} (.empty (Path.ofText "/w"))
  obtain ⟨order', ordered', -, -, -, ends, -⟩ := compile_ends trial_authored differ
    { baseHook := .postrouting, basePriority := longNumber } (.empty (Path.ofText "/w"))
  cases ordered.symm.trans ordered'
  have reached : "a" ∈ order := (exported "a").mpr (.inl (.single ⟨⟨⟨sourceId, "out"⟩, ⟨"a", "in"⟩⟩, by decide +kernel, rfl, rfl⟩))
  have inner : ∀ id ∈ order, isPermanentId id = false → id = "a" := by
    intro id member open'
    rcases (exported id).mp member with way | permanent
    · rcases way.cases_tail with rfl | ⟨near, -, c, wired, -, rfl⟩
      · exact absurd open' (by decide)
      · have only : ∀ c ∈ trial.connections, c.input.node = "a" := by decide +kernel
        exact only c wired
    · rw [permanent] at open'
      cases open'
  have names : (order.map chainName).Nodup := by
    have three : ∀ id ∈ order, id ∈ [sourceId, "a", localhostId] := by
      intro id member
      cases open' : isPermanentId id with
      | false => simp [inner id member open']
      | true => rcases isPermanentId_iff.mp open' with rfl | rfl <;> simp
    have apart : ∀ id ∈ [sourceId, "a", localhostId], ∀ other ∈ [sourceId, "a", localhostId],
        chainName id = chainName other → id = other := by decide +kernel
    exact distinct.map_on fun id here other there => apart id (three id here) other (three other there)
  have emitted : ∀ s mark n, (trial.planned order).analysis.graph.node? "a" = some n →
      (trial.planned order).emitted s (.empty (Path.ofText "/w")) mark n = .ok { nat := [("postrouting", [])] } := by
    intro s mark n node
    obtain ⟨member, id⟩ := node?_mem node
    have kept := mem_analyze member
    have typeIds : ∀ n ∈ trial.nodes, n.id = "a" → n.type.typeId = "lab:late" := by decide +kernel
    have type := wf.types n kept
    rw [typeIds n kept id] at type
    rw [Plan.emitted, ← Option.some.inj type]
    rfl
  obtain ⟨n, node⟩ : ∃ n, (trial.planned order).analysis.graph.node? "a" = some n :=
    node?_isSome ((mem_normalize_nodeIds wf).mpr ((exported "a").mp reached))
  obtain ⟨mark, place⟩ := List.getElem?_of_mem reached
  constructor
  case left =>
    refine fine.mpr ⟨names, fun mark id place open' => ?_, by decide +kernel⟩
    rw [inner id (List.mem_of_getElem? place) open']
    exact ⟨node, emitted _ mark n node, nofun, by decide⟩
  case right =>
    refine (ends _).mpr (.blamed names ⟨place, by decide, .flawed node (emitted _ mark n node) (.hook nofun ?_), ?_⟩)
    · have long : (Scalar.int longNumber).isLongNumber = true := by
        rw [Scalar.isLongNumber, Int.natAbs_natCast, decide_eq_true (Nat.le_refl _)]
      have refused : ({ baseHook := .postrouting, basePriority := longNumber } : Settings).admitsNat .source = false := by
        decide +kernel
      rw [List.findSome?_singleton]
      exact Settings.hookProblem?_long .source refused long
    · intro before other less there open'
      rw [inner other (List.mem_of_getElem? there) open'] at there
      have same := (List.getElem?_inj (List.getElem?_eq_some_iff.mp place).1 distinct).mp (place.trans there.symm)
      omega

end Graph

end FilterGraph
