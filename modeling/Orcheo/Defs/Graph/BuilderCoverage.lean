import Orcheo.Defs.Graph.NodePolicy

/-! Every graph that the builder makes has been through the validation, at the same level of
nesting. -/

namespace Orcheo.Graph

open Lib (Dict bind_ok_iff)

mutual
/-- The graphs that `_validate_config_graphs` hands on, each with its path.  A graph object
below a marker is read like its dump. -/
def configGraphs (host : Host) (path : String) : Value → List (String × GraphIR)
  | .dict kvs =>
    match (Value.dict kvs).get? irConfigKindKey with
    | some (.str kind) =>
      if kind = workflowToolConfigKind then
        match (Value.dict kvs).get? "graph" with
        | some (.dict graph) =>
          (modelValidate host.numbers (.dict graph)).toList.map ((path ++ " workflow tool", ·))
        | _ => []
      else configGraphsOfEntries host path kvs
    | _ => configGraphsOfEntries host path kvs
  | .list xs | .tuple xs => configGraphsOfList host path 0 xs
  | _ => []

def configGraphsOfList (host : Host) (path : String) (index : Nat) :
    List Value → List (String × GraphIR)
  | [] => []
  | x :: xs => configGraphs host (path ++ "[" ++ toString index ++ "]") x ++
    configGraphsOfList host path (index + 1) xs

def configGraphsOfEntries (host : Host) (path : String) :
    List (String × Value) → List (String × GraphIR)
  | [] => []
  | (key, x) :: kvs => configGraphs host (path ++ "." ++ key) x ++
    configGraphsOfEntries host path kvs
end

/-- The calls of `_validate_graph_model` for a graph: their depths, paths and models. -/
inductive Visited (host : Host) (root : GraphIR) : Nat → String → GraphIR → Prop
  | root : Visited host root 0 "IR" root
  | tool {depth : Nat} {path at_ : String} {ir nested : GraphIR} {spec : BuiltinNodeSpec}
      (visited : Visited host root depth path ir) (node : .builtin spec ∈ ir.nodes)
      (config : (at_, nested) ∈
        configGraphs host (path ++ " node '" ++ spec.id ++ "' config") (.dict spec.config)) :
      Visited host root (depth + 1) at_ nested
  | subgraph {depth : Nat} {path id : String} {ir nested : GraphIR}
      (visited : Visited host root depth path ir) (node : .subgraph id nested ∈ ir.nodes) :
      Visited host root (depth + 1) (path ++ " subgraph '" ++ id ++ "'") nested

/-- The calls of `_build_graph_model` for a graph, where no constructor fails before. -/
inductive Built (host : Host) (root : GraphIR) : Nat → GraphIR → Prop
  | root : Built host root 0 root
  | tool {depth : Nat} {ir nested : GraphIR} {spec : BuiltinNodeSpec}
      (built : Built host root depth ir) (node : .builtin spec ∈ ir.nodes)
      (config : nested ∈ toolGraphs host (.dict spec.config)) : Built host root (depth + 1) nested
  | subgraph {depth : Nat} {id : String} {ir nested : GraphIR}
      (built : Built host root depth ir) (node : .subgraph id nested ∈ ir.nodes) :
      Built host root (depth + 1) nested

section Config

variable {host : Host} {nested : String → GraphIR → Checked Unit}

theorem coerceIr_ok_iff {v : Value} {ir : GraphIR} :
    coerceIr host v = .ok ir ↔ modelValidate host.numbers v = some ir := by
  unfold coerceIr
  cases modelValidate host.numbers v <;> simp [rejectIr]

theorem markedGraphs_ok {path : String} {graph : Config}
    (valid : (do nested path (← coerceIr host (.dict graph))) = .ok ()) :
    ∀ e ∈ (modelValidate host.numbers (.dict graph)).toList.map ((path, ·)),
      nested e.1 e.2 = .ok () := by
  obtain ⟨ir, coerced, passed⟩ := bind_ok_iff.mp valid
  rw [coerceIr_ok_iff.mp coerced]
  simpa using passed

mutual
theorem configGraphs_ok {path : String} : ∀ (v : Value),
    validateConfigGraphs host nested path v = .ok () →
    ∀ e ∈ configGraphs host path v, nested e.1 e.2 = .ok ()
  | .dict kvs, valid, e, he => by
    have plain (valid : validateEntries host nested path kvs = .ok ()) :=
      configGraphsOfEntries_ok kvs valid
    cases found : Dict.lookup irConfigKindKey kvs with
    | none =>
      simp only [validateConfigGraphs, configGraphs, Value.get?, found] at valid he
      exact plain valid e he
    | some kind =>
      cases kind with
      | str kind =>
        simp only [validateConfigGraphs, configGraphs, Value.get?, found] at valid he
        by_cases tool : kind = workflowToolConfigKind
        · simp only [tool, if_true] at valid he
          cases graph : Dict.lookup "graph" kvs with
          | none => simp [graph] at he
          | some g =>
            cases g with
            | dict fields =>
              simp only [graph] at valid he
              exact markedGraphs_ok valid e he
            | _ => simp [graph] at he
        · simp only [tool, if_false] at valid he
          exact plain valid e he
      | _ =>
        simp only [validateConfigGraphs, configGraphs, Value.get?, found] at valid he
        exact plain valid e he
  | .list xs, valid, e, he => by
    simp only [validateConfigGraphs, configGraphs] at valid he
    exact configGraphsOfList_ok xs valid e he
  | .tuple xs, valid, e, he => by
    simp only [validateConfigGraphs, configGraphs] at valid he
    exact configGraphsOfList_ok xs valid e he
  | .none, _, _, he => by simp [configGraphs] at he
  | .bool _, _, _, he => by simp [configGraphs] at he
  | .int _, _, _, he => by simp [configGraphs] at he
  | .float _, _, _, he => by simp [configGraphs] at he
  | .str _, _, _, he => by simp [configGraphs] at he

theorem configGraphsOfList_ok {path : String} {index : Nat} : ∀ (xs : List Value),
    validateElements host nested path index xs = .ok () →
    ∀ e ∈ configGraphsOfList host path index xs, nested e.1 e.2 = .ok ()
  | [], _, _, he => by simp [configGraphsOfList] at he
  | x :: xs, valid, e, he => by
    rw [validateElements] at valid
    obtain ⟨⟨⟩, first, rest⟩ := bind_ok_iff.mp valid
    rw [configGraphsOfList, List.mem_append] at he
    cases he with
    | inl here => exact configGraphs_ok x first e here
    | inr later => exact configGraphsOfList_ok xs rest e later

theorem configGraphsOfEntries_ok {path : String} : ∀ (kvs : Config),
    validateEntries host nested path kvs = .ok () →
    ∀ e ∈ configGraphsOfEntries host path kvs, nested e.1 e.2 = .ok ()
  | [], _, _, he => by simp [configGraphsOfEntries] at he
  | (key, x) :: kvs, valid, e, he => by
    rw [validateEntries] at valid
    obtain ⟨⟨⟩, first, rest⟩ := bind_ok_iff.mp valid
    rw [configGraphsOfEntries, List.mem_append] at he
    cases he with
    | inl here => exact configGraphs_ok x first e here
    | inr later => exact configGraphsOfEntries_ok kvs rest e later
end

theorem mem_toolGraph {kvs : Config} {ir : GraphIR} (h : toolGraph host kvs = some ir) :
    ∃ graph, Dict.lookup "graph" kvs = some (.dict graph) ∧
      modelValidate host.numbers (.dict graph) = some ir := by
  unfold toolGraph at h
  split at h
  next below => exact ⟨_, below, h⟩
  next => cases h

mutual
theorem mem_configGraphs {path : String} {ir : GraphIR} : ∀ (v : Value),
    ir ∈ toolGraphs host v → ∃ at_, (at_, ir) ∈ configGraphs host path v
  | .dict kvs, h => by
    have plain (h : ir ∈ toolGraphsOfEntries host kvs) :
        ∃ at_, (at_, ir) ∈ configGraphsOfEntries host path kvs := mem_configGraphsOfEntries kvs h
    cases found : Dict.lookup irConfigKindKey kvs with
    | none =>
      simp only [toolGraphs, configGraphs, Value.get?, found] at h ⊢
      exact plain h
    | some kind =>
      cases kind with
      | str kind =>
        simp only [toolGraphs, configGraphs, Value.get?, found] at h ⊢
        by_cases tool : kind = workflowToolConfigKind
        · simp only [tool, if_true, Option.mem_toList] at h ⊢
          obtain ⟨graph, below, valid⟩ := mem_toolGraph h
          rw [below]
          exact ⟨path ++ " workflow tool", by simp [valid]⟩
        · simp only [tool, if_false] at h ⊢
          split at h
          · cases h
          · exact plain h
      | _ =>
        simp only [toolGraphs, configGraphs, Value.get?, found] at h ⊢
        exact plain h
  | .list xs, h => by
    simp only [toolGraphs, configGraphs] at h ⊢
    exact mem_configGraphsOfList xs h
  | .tuple xs, h => by
    simp only [toolGraphs, configGraphs] at h ⊢
    exact mem_configGraphsOfList xs h
  | .none, h => by simp [toolGraphs] at h
  | .bool _, h => by simp [toolGraphs] at h
  | .int _, h => by simp [toolGraphs] at h
  | .float _, h => by simp [toolGraphs] at h
  | .str _, h => by simp [toolGraphs] at h

theorem mem_configGraphsOfList {path : String} {index : Nat} {ir : GraphIR} :
    ∀ (xs : List Value), ir ∈ toolGraphsOfList host xs →
      ∃ at_, (at_, ir) ∈ configGraphsOfList host path index xs
  | [], h => by simp [toolGraphsOfList] at h
  | x :: xs, h => by
    rw [toolGraphsOfList, List.mem_append] at h
    cases h with
    | inl here =>
      obtain ⟨at_, found⟩ := mem_configGraphs x here
      exact ⟨at_, List.mem_append_left _ found⟩
    | inr later =>
      obtain ⟨at_, found⟩ := mem_configGraphsOfList xs later
      exact ⟨at_, List.mem_append_right _ found⟩

theorem mem_configGraphsOfEntries {path : String} {ir : GraphIR} : ∀ (kvs : Config),
    ir ∈ toolGraphsOfEntries host kvs → ∃ at_, (at_, ir) ∈ configGraphsOfEntries host path kvs
  | [], h => by simp [toolGraphsOfEntries] at h
  | (key, x) :: kvs, h => by
    rw [toolGraphsOfEntries, List.mem_append] at h
    cases h with
    | inl here =>
      obtain ⟨at_, found⟩ := mem_configGraphs x here
      exact ⟨at_, List.mem_append_left _ found⟩
    | inr later =>
      obtain ⟨at_, found⟩ := mem_configGraphsOfEntries kvs later
      exact ⟨at_, List.mem_append_right _ found⟩
end

end Config

section Graphs

variable {host : Host} {root ir : GraphIR}

theorem checkAll_ok {α : Type} {check : α → Checked Unit} {xs : List α}
    (h : checkAll check xs = .ok ()) : ∀ x ∈ xs, check x = .ok () := by
  induction xs with
  | nil => simp
  | cons y ys ih =>
    obtain ⟨⟨⟩, first, rest⟩ := bind_ok_iff.mp h
    intro x hx
    cases List.mem_cons.mp hx with
    | inl same => rw [same, first]
    | inr later => exact ih rest x later

theorem validateGraphModel_nodes {levels : Nat} {path : String}
    (valid : validateGraphModel host levels path ir = .ok ()) :
    ∃ below, levels = below + 1 ∧
      (∀ spec, .builtin spec ∈ ir.nodes → validateConfigGraphs host (validateGraphModel host below)
        (path ++ " node '" ++ spec.id ++ "' config") (.dict spec.config) = .ok ()) ∧
      ∀ id nested, .subgraph id nested ∈ ir.nodes →
        validateGraphModel host below (path ++ " subgraph '" ++ id ++ "'") nested = .ok () := by
  cases levels with
  | zero => cases valid
  | succ below =>
    obtain ⟨_, _, valid⟩ := bind_ok_iff.mp valid
    obtain ⟨_, _, valid⟩ := bind_ok_iff.mp valid
    obtain ⟨_, _, valid⟩ := bind_ok_iff.mp valid
    obtain ⟨_, _, valid⟩ := bind_ok_iff.mp valid
    obtain ⟨_, _, valid⟩ := bind_ok_iff.mp valid
    have nodes := checkAll_ok valid
    exact ⟨below, rfl, fun spec node => nodes _ node, fun id nested node => nodes _ node⟩

theorem Built.visited (accepted : validateIr host root = .ok ()) {depth : Nat}
    (built : Built host root depth ir) :
    ∃ path levels, depth + levels = maxGraphDepth + 1 ∧ Visited host root depth path ir ∧
      validateGraphModel host levels path ir = .ok () := by
  induction built with
  | root => exact ⟨"IR", maxGraphDepth + 1, Nat.zero_add _, .root, accepted⟩
  | tool _ node config ih =>
    obtain ⟨path, levels, total, visited, valid⟩ := ih
    obtain ⟨below, rfl, configs, _⟩ := validateGraphModel_nodes valid
    obtain ⟨at_, found⟩ := mem_configGraphs _ config
    refine ⟨at_, below, by omega, visited.tool node found, ?_⟩
    exact configGraphs_ok _ (configs _ node) _ found
  | subgraph _ node ih =>
    obtain ⟨path, levels, total, visited, valid⟩ := ih
    obtain ⟨below, rfl, _, subgraphs⟩ := validateGraphModel_nodes valid
    exact ⟨_, below, by omega, visited.subgraph node, subgraphs _ _ node⟩

/-- Every graph that the builder makes of an accepted one has been validated at its depth, and
lies no deeper than the greatest depth. -/
theorem built_graphs_validated (accepted : validateIr host root = .ok ()) {depth : Nat}
    (built : Built host root depth ir) :
    depth ≤ maxGraphDepth ∧ ∃ path, Visited host root depth path ir ∧
      validateGraphModel host (maxGraphDepth + 1 - depth) path ir = .ok () := by
  obtain ⟨path, levels, total, visited, valid⟩ := built.visited accepted
  obtain ⟨below, rfl, _⟩ := validateGraphModel_nodes valid
  have rest : maxGraphDepth + 1 - depth = below + 1 := by omega
  exact ⟨by omega, path, visited, rest ▸ valid⟩

end Graphs

def singleAgent (config : Config) : GraphIR :=
  .mk currentSchemaVersion defaultStateRef "agent"
    [.builtin { id := "agent", type := "AgentNode", config := config }] [] []

def delegatingAgent : GraphIR :=
  singleAgent [("tools", .list [.dict [(irConfigKindKey, .str workflowToolConfigKind),
    ("name", .str "helper"), ("description", .str "a helper"),
    ("graph", (singleAgent []).modelDump)]])]

theorem built_graphs_validated_tool : 1 ≤ maxGraphDepth ∧
    ∃ path, Visited agentHost delegatingAgent 1 path (singleAgent []) ∧
      validateGraphModel agentHost (maxGraphDepth + 1 - 1) path (singleAgent []) = .ok () :=
  built_graphs_validated rfl
    (.tool .root (List.mem_singleton_self _) (List.mem_singleton_self (singleAgent [])))

end Orcheo.Graph
