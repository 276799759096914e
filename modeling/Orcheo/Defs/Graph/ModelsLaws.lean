import Orcheo.Defs.Graph.Models

/-! A dumped graph reads back as itself. -/

namespace Orcheo.Graph

open Lib (Dict)
open Value (entries? str? list depth)

theorem mapM_some_of_forall {α β : Type} {f : β → Option α} {g : α → β} {xs : List α}
    (h : ∀ x ∈ xs, f (g x) = some x) : (xs.map g).mapM f = some xs := by
  induction xs with
  | nil => rfl
  | cons x xs ih =>
    have hx := h x List.mem_cons_self
    have hxs := ih fun y hy => h y (List.mem_cons_of_mem _ hy)
    simp only [List.map_cons, List.mapM_cons, hx, hxs, Option.pure_def, Option.bind_eq_bind,
      Option.bind_some]

theorem readList_dump {α : Type} {read : Value → Option α} {dump : α → Value} {xs : List α}
    (h : ∀ x ∈ xs, read (dump x) = some x) : readList read (.list (xs.map dump)) = some xs :=
  mapM_some_of_forall h

@[simp] theorem readEdge_dump (e : EdgeSpec) : readEdge e.modelDump = some e := rfl

theorem readMapping_dump (mapping : List (String × String)) :
    readMapping (.dict (mapping.map (fun e => (e.1, .str e.2)))) = some mapping :=
  mapM_some_of_forall fun _ _ => rfl

theorem readOptionalStr_dump (s : Option String) : readOptionalStr (optionalStr s) = some s := by
  cases s <;> rfl

@[simp] theorem readConditionalEdge_dump (c : ConditionalEdgeSpec) :
    readConditionalEdge c.modelDump = some c := by
  have hm := readMapping_dump c.mapping
  have hd := readOptionalStr_dump c.default
  simp [readConditionalEdge, ConditionalEdgeSpec.modelDump, entries?, knownFields, fieldOr,
    Dict.lookup, str?, hm, hd]

theorem readInjected_dump (names : List String) :
    readList str? (.list (names.map .str)) = some names := readList_dump fun _ _ => rfl

section Nodes

variable {read : Value → Option GraphIR}

theorem readNode_builtin (spec : BuiltinNodeSpec) :
    readNode read spec.modelDump = some (.builtin spec) := by
  simp [readNode, BuiltinNodeSpec.modelDump, entries?, knownFields, fieldOr, Dict.lookup,
    str?]

theorem readNode_code (spec : CodeNodeSpec) :
    readNode read spec.modelDump = some (.code spec) := by
  have hi := readInjected_dump spec.injected
  simp [readNode, CodeNodeSpec.modelDump, entries?, knownFields, fieldOr, Dict.lookup,
    str?, hi]

theorem readNode_subgraph {id : String} {graph : GraphIR} (h : read graph.modelDump = some graph) :
    readNode read (dumpNode (.subgraph id graph)) = some (.subgraph id graph) := by
  simp [readNode, dumpNode, entries?, knownFields, fieldOr, Dict.lookup, str?, h]

end Nodes

theorem dumpNodes_eq_map (nodes : List NodeSpec) : dumpNodes nodes = nodes.map dumpNode := by
  induction nodes with
  | nil => rfl
  | cons node nodes ih => rw [dumpNodes, ih, List.map_cons]

theorem depth_le_depthList {v : Value} {vs : List Value} (h : v ∈ vs) : v.depth ≤ depthList vs := by
  induction vs with
  | nil => cases h
  | cons x xs ih =>
    rw [depthList]
    cases List.mem_cons.mp h with
    | inl h => exact h ▸ Nat.le_max_left _ _
    | inr h => exact Nat.le_trans (ih h) (Nat.le_max_right _ _)

theorem depth_le_depthEntries {key : String} {v : Value} {kvs : List (String × Value)}
    (h : (key, v) ∈ kvs) : v.depth ≤ depthEntries kvs := by
  induction kvs with
  | nil => cases h
  | cons e kvs ih =>
    rw [depthEntries]
    cases List.mem_cons.mp h with
    | inl h => exact h ▸ Nat.le_max_left _ _
    | inr h => exact Nat.le_trans (ih h) (Nat.le_max_right _ _)

theorem depth_dumpNode_lt {node : NodeSpec} {ir : GraphIR} (h : node ∈ ir.nodes) :
    (dumpNode node).depth + 1 < ir.modelDump.depth := by
  obtain ⟨schemaVersion, stateRef, entrypoint, nodes, edges, conditionalEdges⟩ := ir
  have hnode : (dumpNode node).depth ≤ depthList (dumpNodes nodes) := by
    apply depth_le_depthList
    rw [dumpNodes_eq_map]
    exact List.mem_map_of_mem h
  have hmem : ("nodes", list (dumpNodes nodes)) ∈ [("schema_version", .int schemaVersion),
      ("state_ref", .str stateRef), ("entrypoint", .str entrypoint),
      ("nodes", .list (dumpNodes nodes)), ("edges", .list (edges.map EdgeSpec.modelDump)),
      ("conditional_edges", .list (conditionalEdges.map ConditionalEdgeSpec.modelDump))] := by
    simp
  have hlist := depth_le_depthEntries hmem
  simp only [GraphIR.modelDump, depth] at hlist ⊢
  omega

theorem depth_subgraph_lt (id : String) (graph : GraphIR) :
    graph.modelDump.depth < (dumpNode (.subgraph id graph)).depth := by
  simp only [dumpNode, depth, depthEntries]
  omega

theorem readGraph_record (nr : NumberReader) (n : Nat)
    (version stateRef entrypoint nodes edges conditionalEdges : Value) :
    readGraph nr (n + 1) (.dict [("schema_version", version), ("state_ref", stateRef),
      ("entrypoint", entrypoint), ("nodes", nodes), ("edges", edges),
      ("conditional_edges", conditionalEdges)]) = do
        return .mk (← readInt nr version) (← stateRef.str?) (← entrypoint.str?)
          (← readList (readNode (readGraph nr n)) nodes) (← readList readEdge edges)
          (← readList readConditionalEdge conditionalEdges) := rfl

mutual
theorem readGraph_dump (nr : NumberReader) : ∀ (ir : GraphIR) (n : Nat),
    ir.modelDump.depth ≤ n → readGraph nr n ir.modelDump = some ir
  | .mk schemaVersion stateRef entrypoint nodes edges conditionalEdges, n, hn => by
    cases n with
    | zero => simp [GraphIR.modelDump, depth] at hn
    | succ n =>
      have hnodes : readList (readNode (readGraph nr n)) (.list (dumpNodes nodes)) = some nodes := by
        rw [dumpNodes_eq_map]
        apply readList_dump
        intro node hnode
        apply readNode_dump nr node n
        have hlt : (dumpNode node).depth + 1 <
            (GraphIR.mk schemaVersion stateRef entrypoint nodes edges
              conditionalEdges).modelDump.depth := depth_dumpNode_lt hnode
        omega
      have hedges := @readList_dump _ readEdge _ edges fun e _ => readEdge_dump e
      have hconds := @readList_dump _ readConditionalEdge _ conditionalEdges fun c _ => readConditionalEdge_dump c
      rw [GraphIR.modelDump, readGraph_record]
      simp only [readInt, str?, hnodes, hedges, hconds, Option.bind_eq_bind, Option.bind_some,
        Option.pure_def]

theorem readNode_dump (nr : NumberReader) : ∀ (node : NodeSpecOf GraphIR) (n : Nat),
    (dumpNode node).depth ≤ n → readNode (readGraph nr n) (dumpNode node) = some node
  | .builtin spec, _, _ => readNode_builtin spec
  | .code spec, _, _ => readNode_code spec
  | .subgraph id graph, n, hn => by
    apply readNode_subgraph
    apply readGraph_dump nr graph n
    have hlt := depth_subgraph_lt id graph
    omega
end

theorem modelValidate_dump (nr : NumberReader) (ir : GraphIR) :
    modelValidate nr ir.modelDump = some ir :=
  readGraph_dump nr ir _ (Nat.le_refl _)

end Orcheo.Graph
