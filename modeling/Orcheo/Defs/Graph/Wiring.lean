import Orcheo.Defs.Graph.BuilderCoverage
import Orcheo.Defs.Graph.Routing

/-! The edges of a rebuilt graph: what the graph library refuses of them, and which vertex a name
denotes in each of the two kinds of edges. -/

namespace Orcheo.Graph

open Lib (bind_ok_iff foldlM_ok_invariant foldlM_isOk_iff)

inductive WiringError
  | startsAtEnd
  | endsAtStart
  | unknown (vertex : String)
  | config (message : String)
  deriving DecidableEq, Repr

/-- `edges` are the direct ones; a branch is a source with the destinations of its path map. -/
structure StateGraph where
  nodes : List String
  edges : List EdgeSpec := []
  branches : List (String × List String) := []
  deriving DecidableEq, Repr

namespace StateGraph

variable (g : StateGraph)

def checkSource (source : String) : Except WiringError Unit :=
  if source = langgraphEnd then .error .startsAtEnd
  else if source = langgraphStart ∨ source ∈ g.nodes then .ok ()
  else .error (.unknown source)

def checkTarget (target : String) : Except WiringError Unit :=
  if target = langgraphStart then .error .endsAtStart
  else if target = langgraphEnd ∨ target ∈ g.nodes then .ok ()
  else .error (.unknown target)

def addEdge (e : EdgeSpec) : Except WiringError StateGraph := do
  g.checkSource e.source
  g.checkTarget e.target
  return { g with edges := g.edges ++ [e] }

def addBranch (source : String) (destinations : List String) :
    Except WiringError StateGraph := do
  g.checkSource source
  destinations.forM g.checkTarget
  return { g with branches := g.branches ++ [(source, destinations)] }

end StateGraph

/-- `_vertex`, whose sentinels stand for the constants -/
def vertex (name : String) : String :=
  if name = startVertex then langgraphStart
  else if name = endVertex then langgraphEnd
  else name

def destinationPathMap (mapping : List (String × String)) (default : Option String) :
    List String :=
  (normalisedMapping mapping).map Prod.snd ++ (resolvedDefault default).toList

/-- `add_conditional_edges`, without edge instances -/
def addConditionalEdges (g : StateGraph) (c : ConditionalEdgeSpec) :
    Except WiringError StateGraph :=
  if c.source = "" then .error (.config "Conditional edge requires a source string")
  else if c.path = "" then .error (.config "Conditional edge requires a path string")
  else if c.mapping.isEmpty then .error (.config "Conditional edge requires a non-empty mapping")
  else g.addBranch (normaliseVertex c.source) (destinationPathMap c.mapping c.default)

def addDirectEdge (g : StateGraph) (e : EdgeSpec) : Except WiringError StateGraph :=
  g.addEdge ⟨vertex e.source, vertex e.target⟩

def addStartEdge (ir : GraphIR) (g : StateGraph) : Except WiringError StateGraph :=
  if ir.edges.any (fun e => e.source = startVertex) then .ok g
  else g.addEdge ⟨langgraphStart, ir.entrypoint⟩

def GraphIR.nodeIds (ir : GraphIR) : List String := ir.nodes.map NodeSpecOf.id

/-- `_wire_edges`, then `_wire_conditional_edges` -/
def wire (ir : GraphIR) : Except WiringError StateGraph := do
  let g ← ir.edges.foldlM addDirectEdge ⟨ir.nodeIds, [], []⟩
  let g ← addStartEdge ir g
  ir.conditionalEdges.foldlM addConditionalEdges g

structure Referenced (ir : GraphIR) : Prop where
  named : ∀ id ∈ ir.nodeIds, id ≠ "" ∧ id ≠ startVertex ∧ id ≠ endVertex
  entrypoint : ir.entrypoint ∈ ir.nodeIds
  edges : ∀ e ∈ ir.edges, isKnownVertex ir.nodeIds e.source ∧ isKnownVertex ir.nodeIds e.target
  sources : ∀ c ∈ ir.conditionalEdges, c.source ∈ ir.nodeIds
  mapped : ∀ c ∈ ir.conditionalEdges, c.mapping ≠ [] ∧
    ∀ m ∈ c.mapping, isKnownVertex ir.nodeIds m.2
  defaults : ∀ c ∈ ir.conditionalEdges, ∀ name ∈ c.default, isKnownVertex ir.nodeIds name

section Referenced

variable {host : Host} {path : String} {ir : GraphIR}

theorem requireIr_ok {condition : Bool} {message : String}
    (h : requireIr condition message = .ok ()) : condition = true := by
  cases condition with
  | true => rfl
  | false => cases h

variable {ids : List String}

theorem isKnownVertex_iff {name : String} :
    isKnownVertex ids name ↔ name ∈ ids ∨ name = startVertex ∨ name = endVertex := by
  simp [isKnownVertex, isSentinel]

theorem validateNodes_ok {seen : List String} {specs : List NodeSpec}
    (valid : validateNodes host path seen specs = .ok ids) :
    ids = seen ++ specs.map NodeSpecOf.id ∧
    ∀ id ∈ specs.map NodeSpecOf.id, id ≠ "" ∧ id ≠ startVertex ∧ id ≠ endVertex := by
  induction specs generalizing seen with
  | nil =>
    cases valid
    exact ⟨(List.append_nil _).symm, by simp⟩
  | cons spec specs ih =>
    obtain ⟨_, blank, valid⟩ := bind_ok_iff.mp valid
    obtain ⟨_, _, valid⟩ := bind_ok_iff.mp valid
    obtain ⟨_, reserved, valid⟩ := bind_ok_iff.mp valid
    obtain ⟨_, _, valid⟩ := bind_ok_iff.mp valid
    obtain ⟨same, named⟩ := ih valid
    have blank := requireIr_ok blank
    have reserved := requireIr_ok reserved
    refine ⟨by rw [same, List.append_assoc]; rfl, ?_⟩
    rw [List.map_cons, List.forall_mem_cons]
    refine ⟨⟨?_, ?_⟩, named⟩
    · intro empty
      simp [isBlank, empty] at blank
    · simpa [isSentinel] using reserved

theorem validateEdge_ok {e : EdgeSpec} (valid : validateEdge path ids e = .ok ()) :
    isKnownVertex ids e.source ∧ isKnownVertex ids e.target := by
  obtain ⟨_, source, valid⟩ := bind_ok_iff.mp valid
  exact ⟨requireIr_ok source, requireIr_ok valid⟩

theorem validateConditionalEdge_ok {c : ConditionalEdgeSpec}
    (valid : validateConditionalEdge path ids c = .ok ()) :
    c.source ∈ ids ∧ (c.mapping ≠ [] ∧ ∀ m ∈ c.mapping, isKnownVertex ids m.2) ∧
      ∀ name ∈ c.default, isKnownVertex ids name := by
  obtain ⟨_, source, valid⟩ := bind_ok_iff.mp valid
  obtain ⟨_, nonempty, valid⟩ := bind_ok_iff.mp valid
  obtain ⟨_, mapped, default⟩ := bind_ok_iff.mp valid
  refine ⟨of_decide_eq_true (requireIr_ok source), ⟨?_, ?_⟩, ?_⟩
  · intro empty
    simp [empty, requireIr, rejectIr] at nonempty
  · intro m hm
    exact requireIr_ok (checkAll_ok mapped m hm)
  · intro name given
    have known := requireIr_ok default
    rw [Option.mem_def.mp given] at known
    exact known

theorem validateGraphModel_referenced {levels : Nat}
    (valid : validateGraphModel host levels path ir = .ok ()) : Referenced ir := by
  cases levels with
  | zero => cases valid
  | succ below =>
    obtain ⟨_, _, valid⟩ := bind_ok_iff.mp valid
    obtain ⟨ids, nodes, valid⟩ := bind_ok_iff.mp valid
    obtain ⟨_, entrypoint, valid⟩ := bind_ok_iff.mp valid
    obtain ⟨_, edges, valid⟩ := bind_ok_iff.mp valid
    obtain ⟨_, conditional, _⟩ := bind_ok_iff.mp valid
    obtain ⟨same, named⟩ := validateNodes_ok nodes
    rw [List.nil_append] at same
    subst same
    obtain ⟨_, _, entrypoint⟩ := bind_ok_iff.mp entrypoint
    have conditional := fun c hc => validateConditionalEdge_ok (checkAll_ok conditional c hc)
    exact {
      named := named
      entrypoint := of_decide_eq_true (requireIr_ok entrypoint)
      edges := fun e he => validateEdge_ok (checkAll_ok edges e he)
      sources := fun c hc => (conditional c hc).1
      mapped := fun c hc => (conditional c hc).2.1
      defaults := fun c hc => (conditional c hc).2.2 }

theorem Built.referenced {root : GraphIR} (accepted : validateIr host root = .ok ()) {depth : Nat}
    (built : Built host root depth ir) : Referenced ir := by
  obtain ⟨_, _, _, _, valid⟩ := built.visited accepted
  exact validateGraphModel_referenced valid

end Referenced

/-- No edge starts at the end or ends at the start, under either of their spellings in a
conditional edge, and no conditional edge has an empty path. -/
structure Wirable (ir : GraphIR) : Prop where
  edges : ∀ e ∈ ir.edges, e.source ≠ endVertex ∧ e.target ≠ startVertex
  paths : ∀ c ∈ ir.conditionalEdges, c.path ≠ ""
  sources : ∀ c ∈ ir.conditionalEdges, c.source ≠ "END"
  targets : ∀ c ∈ ir.conditionalEdges, ∀ name ∈ c.mapping.map Prod.snd ++ c.default.toList,
    name ≠ startVertex ∧ name ≠ "START"

variable (name : String)

@[simp] theorem vertex_eq : vertex name = name := by
  unfold vertex
  split
  next start => exact start.symm
  next =>
    split
    next finish => exact finish.symm
    next => rfl

theorem normaliseVertex_start :
    normaliseVertex name = langgraphStart ↔ name = startVertex ∨ name = "START" := by
  unfold normaliseVertex
  by_cases start : name = "START"
  · simp [start]
  · by_cases finish : name = "END"
    · simp [finish, langgraphStart, langgraphEnd, startVertex]
    · simp [start, finish, langgraphStart, startVertex]

theorem normaliseVertex_end :
    normaliseVertex name = langgraphEnd ↔ name = endVertex ∨ name = "END" := by
  unfold normaliseVertex
  by_cases start : name = "START"
  · simp [start, langgraphStart, langgraphEnd, endVertex]
  · by_cases finish : name = "END"
    · simp [finish]
    · simp [start, finish, langgraphEnd, endVertex]

theorem normaliseVertex_cases :
    normaliseVertex name = langgraphStart ∨ normaliseVertex name = langgraphEnd ∨
      normaliseVertex name = name := by
  unfold normaliseVertex
  split
  next => exact .inl rfl
  next =>
    split
    next => exact .inr (.inl rfl)
    next => exact .inr (.inr rfl)

namespace StateGraph

section Checks

variable (g : StateGraph)

theorem checkSource_ok {source : String}
    (known : source ∈ g.nodes ∨ source = langgraphStart ∨ source = langgraphEnd) :
    g.checkSource source = .ok () ↔ source ≠ langgraphEnd := by
  unfold checkSource
  by_cases finish : source = langgraphEnd
  · simp [finish]
  · have : source = langgraphStart ∨ source ∈ g.nodes := by tauto
    simp [finish, this]

theorem checkTarget_ok {target : String}
    (known : target ∈ g.nodes ∨ target = langgraphStart ∨ target = langgraphEnd) :
    g.checkTarget target = .ok () ↔ target ≠ langgraphStart := by
  unfold checkTarget
  by_cases start : target = langgraphStart
  · simp [start]
  · have : target = langgraphEnd ∨ target ∈ g.nodes := by tauto
    simp [start, this]

end Checks

variable {g : StateGraph}

theorem addEdge_isOk (g : StateGraph) (e : EdgeSpec) : (∃ g', g.addEdge e = .ok g') ↔
    g.checkSource e.source = .ok () ∧ g.checkTarget e.target = .ok () := by
  constructor
  · rintro ⟨g', added⟩
    obtain ⟨_, source, added⟩ := bind_ok_iff.mp added
    obtain ⟨_, target, _⟩ := bind_ok_iff.mp added
    exact ⟨source, target⟩
  · rintro ⟨source, target⟩
    exact ⟨_, bind_ok_iff.mpr ⟨(), source, bind_ok_iff.mpr ⟨(), target, rfl⟩⟩⟩

variable {e : EdgeSpec} {g' : StateGraph}

theorem addEdge_eq (added : g.addEdge e = .ok g') :
    g' = { g with edges := g.edges ++ [e] } := by
  obtain ⟨_, _, added⟩ := bind_ok_iff.mp added
  obtain ⟨_, _, added⟩ := bind_ok_iff.mp added
  exact (Except.ok.inj added).symm

theorem addEdge_nodes (added : g.addEdge e = .ok g') :
    g'.nodes = g.nodes := by
  rw [addEdge_eq added]

theorem addEdge_edges (added : g.addEdge e = .ok g') :
    g'.edges = g.edges ++ [e] := by
  rw [addEdge_eq added]

theorem forM_ok_iff {targets : List String} :
    targets.forM g.checkTarget = .ok () ↔ ∀ target ∈ targets, g.checkTarget target = .ok () := by
  induction targets with
  | nil => exact iff_of_true rfl (by simp)
  | cons target targets ih =>
    change (g.checkTarget target >>= fun _ => targets.forM g.checkTarget) = .ok () ↔ _
    rw [bind_ok_iff, List.forall_mem_cons, ← ih]
    constructor
    · rintro ⟨_, first, rest⟩
      exact ⟨first, rest⟩
    · rintro ⟨first, rest⟩
      exact ⟨(), first, rest⟩

theorem addBranch_isOk (source : String) (destinations : List String) :
    (∃ g', g.addBranch source destinations = .ok g') ↔
      g.checkSource source = .ok () ∧ ∀ target ∈ destinations, g.checkTarget target = .ok () := by
  constructor
  · rintro ⟨g', added⟩
    obtain ⟨_, source, added⟩ := bind_ok_iff.mp added
    obtain ⟨_, targets, _⟩ := bind_ok_iff.mp added
    exact ⟨source, forM_ok_iff.mp targets⟩
  · rintro ⟨source, targets⟩
    exact ⟨_, bind_ok_iff.mpr ⟨(), source, bind_ok_iff.mpr ⟨(), forM_ok_iff.mpr targets, rfl⟩⟩⟩

theorem addBranch_eq {source : String} {destinations : List String}
    (added : g.addBranch source destinations = .ok g') :
    g' = { g with branches := g.branches ++ [(source, destinations)] } := by
  obtain ⟨_, _, added⟩ := bind_ok_iff.mp added
  obtain ⟨_, _, added⟩ := bind_ok_iff.mp added
  exact (Except.ok.inj added).symm

end StateGraph

section Wirable

variable {ir : GraphIR} {g : StateGraph}

theorem addDirectEdge_isOk (nodes : g.nodes = ir.nodeIds) {e : EdgeSpec}
    (known : isKnownVertex ir.nodeIds e.source ∧ isKnownVertex ir.nodeIds e.target) :
    (∃ g', addDirectEdge g e = .ok g') ↔ e.source ≠ endVertex ∧ e.target ≠ startVertex := by
  obtain ⟨source, target⟩ := known
  unfold addDirectEdge
  rw [StateGraph.addEdge_isOk, vertex_eq, vertex_eq]
  refine and_congr (g.checkSource_ok ?_) (g.checkTarget_ok ?_)
  · rw [nodes]
    exact isKnownVertex_iff.mp source
  · rw [nodes]
    exact isKnownVertex_iff.mp target

variable {g' : StateGraph} {c : ConditionalEdgeSpec}

theorem addDirectEdge_nodes {e : EdgeSpec} (added : addDirectEdge g e = .ok g') :
    g'.nodes = g.nodes :=
  StateGraph.addEdge_nodes added

theorem addConditionalEdges_branch (added : addConditionalEdges g c = .ok g') :
    ∃ source destinations, g.addBranch source destinations = .ok g' := by
  unfold addConditionalEdges at added
  split at added
  next => cases added
  next =>
    split at added
    next => cases added
    next =>
      split at added
      next => cases added
      next => exact ⟨_, _, added⟩

theorem addConditionalEdges_nodes (added : addConditionalEdges g c = .ok g') :
    g'.nodes = g.nodes := by
  obtain ⟨_, _, branch⟩ := addConditionalEdges_branch added
  rw [StateGraph.addBranch_eq branch]

theorem addStartEdge_ok (referenced : Referenced ir) (nodes : g.nodes = ir.nodeIds) :
    ∃ g', addStartEdge ir g = .ok g' ∧ g'.nodes = ir.nodeIds := by
  unfold addStartEdge
  split
  next => exact ⟨g, rfl, nodes⟩
  next =>
    obtain ⟨_, notStart, _⟩ := referenced.named _ referenced.entrypoint
    have source := g.checkSource_ok (.inr (.inl (Eq.refl langgraphStart)))
    have target := g.checkTarget_ok (.inl (nodes ▸ referenced.entrypoint))
    obtain ⟨g', added⟩ := (g.addEdge_isOk ⟨langgraphStart, ir.entrypoint⟩).mpr
      ⟨source.mpr (by decide), target.mpr notStart⟩
    exact ⟨g', added, (StateGraph.addEdge_nodes added).trans nodes⟩

theorem normaliseVertex_known (nodes : g.nodes = ir.nodeIds) {name : String}
    (known : isKnownVertex ir.nodeIds name) : normaliseVertex name ∈ g.nodes ∨
      normaliseVertex name = langgraphStart ∨ normaliseVertex name = langgraphEnd := by
  obtain start | finish | same := normaliseVertex_cases name
  · exact .inr (.inl start)
  · exact .inr (.inr finish)
  · rw [same, nodes]
    exact isKnownVertex_iff.mp known

theorem destinationPathMap_eq {mapping : List (String × String)} {default : Option String}
    (named : ∀ name ∈ default, name ≠ "") : destinationPathMap mapping default =
      (mapping.map Prod.snd ++ default.toList).map normaliseVertex := by
  have given : resolvedDefault default = default.map normaliseVertex := by
    cases default with
    | none => rfl
    | some name => simp [resolvedDefault, Option.filter, named name rfl]
  unfold destinationPathMap normalisedMapping
  rw [given, List.map_append, List.map_map, List.map_map, Option.toList_map]
  rfl

theorem addConditionalEdges_isOk (referenced : Referenced ir) (nodes : g.nodes = ir.nodeIds)
    (hc : c ∈ ir.conditionalEdges) :
    (∃ g', addConditionalEdges g c = .ok g') ↔ c.path ≠ "" ∧ c.source ≠ "END" ∧
      ∀ name ∈ c.mapping.map Prod.snd ++ c.default.toList, name ≠ startVertex ∧ name ≠ "START" := by
  have source := referenced.sources c hc
  obtain ⟨nonempty, mapped⟩ := referenced.mapped c hc
  obtain ⟨filled, _, notEnd⟩ := referenced.named _ source
  have knownSource : isKnownVertex ir.nodeIds c.source := isKnownVertex_iff.mpr (.inl source)
  have known : ∀ name ∈ c.mapping.map Prod.snd ++ c.default.toList,
      isKnownVertex ir.nodeIds name := by
    intro name listed
    rcases List.mem_append.mp listed with listed | listed
    · obtain ⟨m, hm, rfl⟩ := List.mem_map.mp listed
      exact mapped m hm
    · exact referenced.defaults c hc name (Option.mem_toList.mp listed)
  have named : ∀ name ∈ c.default, name ≠ "" := by
    intro name given empty
    rcases isKnownVertex_iff.mp (referenced.defaults c hc name given) with id | start | finish
    · exact (referenced.named _ id).1 empty
    · rw [empty] at start
      exact absurd start (by decide)
    · rw [empty] at finish
      exact absurd finish (by decide)
  have targets : (∀ target ∈ destinationPathMap c.mapping c.default,
      g.checkTarget target = .ok ()) ↔ ∀ name ∈ c.mapping.map Prod.snd ++ c.default.toList,
        name ≠ startVertex ∧ name ≠ "START" := by
    rw [destinationPathMap_eq named, List.forall_mem_map]
    refine forall₂_congr fun name listed => ?_
    rw [g.checkTarget_ok (normaliseVertex_known nodes (known name listed)), ne_eq,
      normaliseVertex_start, not_or]
  have start : g.checkSource (normaliseVertex c.source) = .ok () ↔ c.source ≠ "END" := by
    rw [g.checkSource_ok (normaliseVertex_known nodes knownSource), ne_eq,
      normaliseVertex_end, not_or]
    exact and_iff_right notEnd
  unfold addConditionalEdges
  rw [if_neg filled]
  by_cases path : c.path = ""
  · rw [if_pos path]
    refine iff_of_false ?_ ?_
    · rintro ⟨g', ⟨⟩⟩
    · rintro ⟨given, _⟩
      exact given path
  · rw [if_neg path, if_neg (by simpa using nonempty), StateGraph.addBranch_isOk, start, targets]
    exact (and_iff_right path).symm

end Wirable

def loopingAgent : GraphIR :=
  .mk currentSchemaVersion defaultStateRef "agent"
    [.builtin { id := "agent", type := "AgentNode", config := [] }] [⟨"agent", startVertex⟩] []

/-- The two kinds of edges agree on the vertex of every name, unless a node has the name of a
constant of the graph library. -/
theorem vertices_agree_iff {host : Host} {root ir : GraphIR}
    (accepted : validateIr host root = .ok ()) {depth : Nat} (built : Built host root depth ir) :
    (∀ name, isKnownVertex ir.nodeIds name → vertex name = normaliseVertex name) ↔
      "START" ∉ ir.nodeIds ∧ "END" ∉ ir.nodeIds := by
  have referenced := built.referenced accepted
  constructor
  · intro agree
    have apart : ∀ name ∈ ir.nodeIds, normaliseVertex name ≠ langgraphStart ∧
        normaliseVertex name ≠ langgraphEnd := by
      intro name id
      rw [← agree name (isKnownVertex_iff.mpr (.inl id)), vertex_eq]
      exact (referenced.named name id).2
    exact ⟨fun id => (apart _ id).1 rfl, fun id => (apart _ id).2 rfl⟩
  · rintro ⟨noStart, noEnd⟩ name known
    have own : name ≠ "START" ∧ name ≠ "END" := by
      rcases isKnownVertex_iff.mp known with id | rfl | rfl
      · exact ⟨fun same => noStart (same ▸ id), fun same => noEnd (same ▸ id)⟩
      · exact ⟨by decide, by decide⟩
      · exact ⟨by decide, by decide⟩
    rw [vertex_eq, normaliseVertex, if_neg own.1, if_neg own.2]

theorem vertices_agree_single :
    (∀ name, isKnownVertex (singleAgent []).nodeIds name → vertex name = normaliseVertex name) ↔
      "START" ∉ (singleAgent []).nodeIds ∧ "END" ∉ (singleAgent []).nodeIds :=
  vertices_agree_iff (rfl : validateIr agentHost (singleAgent []) = .ok ()) .root

def endingAgent : GraphIR :=
  .mk currentSchemaVersion defaultStateRef "END"
    [.builtin { id := "END", type := "AgentNode", config := [] }] [] []

theorem node_named_end : ¬ ∀ (host : Host) (root ir : GraphIR) (depth : Nat),
    validateIr host root = .ok () → Built host root depth ir →
      ∀ name, isKnownVertex ir.nodeIds name → vertex name = normaliseVertex name := by
  intro agree
  have same := agree agentHost endingAgent endingAgent 0 rfl .root "END" rfl
  exact absurd same (by decide)

end Orcheo.Graph
