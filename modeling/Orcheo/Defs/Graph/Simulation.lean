import Orcheo.Defs.Graph.Execution

/-! The interpreter follows the execution of a builder: what it registers on a graph is what
the statements register on the object. -/

namespace Orcheo.Graph

open Lib (Dict bind_ok_iff pure_ok_iff mapM_some_iff)
open Names (registration step)
open Registration (added edge entryPoint)

section Relations

variable (bs : Bindings) (graphs : List String)

/-- An expression for a graph of the builder.  Graphs have their names in the order of their
addresses. -/
inductive GraphRel : Expr → Nat → Prop
  | variable {g : String} {a : Nat} (named : graphs[a]? = some g) : GraphRel (.name g) a
  | compiled {g : String} {a : Nat} (named : graphs[a]? = some g) :
    GraphRel (.call (.attr (.name g) "compile") [] []) a

inductive ToolRel : Expr → ToolGraph → Prop
  | graph {e : Expr} {a : Nat} (h : GraphRel graphs e a) : ToolRel e (.graph a)
  | helper {f : String} {b : GraphBuilder} (denotes : bs.denotes f = some (.function b)) :
    ToolRel (.call (.name f) [] []) (.helper b)

inductive NodeRel : Expr → Object → Prop
  | graph {e : Expr} {a : Nat} (h : GraphRel graphs e a) : NodeRel e (.graph a)
  | imported {f className : String} {keywords : Keywords} {tools : List ToolGraph}
      (denotes : bs.denotes f = some (.imported className))
      (given : List.Forall₂ (ToolRel bs graphs) (toolExprs (keywordDict keywords [])) tools) :
    NodeRel (.call (.name f) [] keywords) (.node (.imported className) keywords tools)
  | classDef {f : String} {c : ClassDef} {keywords : Keywords}
      (denotes : bs.denotes f = some (.classDef c)) (code : isSchemaClass c = false) :
    NodeRel (.call (.name f) [] keywords) (.node (.classDef c) keywords [])

end Relations

structure Matches (bs : Bindings) (graphs : List String) (rs : List Registration)
    (r : Registered) : Prop where
  nodes : List.Forall₂ (fun a x => a.id = x.1 ∧ a.graphs <+: graphs ∧
    NodeRel bs a.graphs a.expr x.2) (rs.filterMap added) r.nodes
  edges : rs.filterMap edge = r.edges
  conditionalEdges : rs.filterMap Registration.conditionalEdge = r.conditionalEdges
  entryPoints : rs.filterMap entryPoint = r.entryPoints

structure Simulates (bs : Bindings) (names : Names) (rs : String → List Registration)
    (store : Store) : Prop where
  nodup : names.graphs.Nodup
  size : names.graphs.length = store.heap.length
  graph : ∀ x a, store.env.get? x = some (.graph a) →
    names.graphs[a]? = some x ∧ names.nodes.get? x = none
  node : ∀ x callee keywords tools, store.env.get? x = some (.node callee keywords tools) →
    ∃ call, names.nodes.get? x = some call ∧
      NodeRel bs names.graphs call (.node callee keywords tools)
  empty : ∀ x, x ∉ names.graphs → rs x = []
  registered : ∀ (a : Nat) x r, names.graphs[a]? = some x → store.heap[a]? = some r →
    Matches bs names.graphs (rs x) r

theorem getElem?_longer {α : Type} {xs ys : List α} {i : Nat} {x : α} (h : xs <+: ys)
    (hx : xs[i]? = some x) : ys[i]? = some x := by
  obtain ⟨zs, rfl⟩ := h
  rw [List.getElem?_append_left (List.getElem?_eq_some_iff.mp hx).1, hx]

section Mono

variable {bs : Bindings} {graphs graphs' : List String}

variable {e : Expr}

theorem GraphRel.mono {a : Nat} (rel : GraphRel graphs e a) (h : graphs <+: graphs') :
    GraphRel graphs' e a := by
  cases rel with
  | «variable» named => exact .variable (getElem?_longer h named)
  | compiled named => exact .compiled (getElem?_longer h named)

theorem ToolRel.mono {t : ToolGraph} (rel : ToolRel bs graphs e t) (h : graphs <+: graphs') :
    ToolRel bs graphs' e t := by
  cases rel with
  | graph rel => exact .graph (rel.mono h)
  | helper denotes => exact .helper denotes

theorem NodeRel.mono {x : Object} (rel : NodeRel bs graphs e x) (h : graphs <+: graphs') :
    NodeRel bs graphs' e x := by
  cases rel with
  | graph rel => exact .graph (rel.mono h)
  | imported denotes given => exact .imported denotes (given.imp fun _ _ rel => rel.mono h)
  | classDef denotes code => exact .classDef denotes code

theorem Matches.mono {rs : List Registration} {r : Registered} (rel : Matches bs graphs rs r)
    (h : graphs <+: graphs') : Matches bs graphs' rs r :=
  { rel with nodes := rel.nodes.imp fun _ _ ⟨id, earlier, node⟩ => ⟨id, earlier.trans h, node⟩ }

end Mono

section Add

variable {bs : Bindings} {graphs : List String} {rs : List Registration} {r : Registered}
  (before : Matches bs graphs rs r)
include before

theorem Matches.node {id : String} {e : Expr} {x : Object} (rel : NodeRel bs graphs e x) :
    Matches bs graphs (rs ++ [⟨graphs, .node id e⟩]) { r with nodes := r.nodes ++ [(id, x)] } := by
  constructor <;> rw [List.filterMap_append]
  · exact List.rel_append before.nodes (.cons ⟨rfl, List.prefix_rfl, rel⟩ .nil)
  · exact (List.append_nil _).trans before.edges
  · exact (List.append_nil _).trans before.conditionalEdges
  · exact (List.append_nil _).trans before.entryPoints

theorem Matches.edge (e : EdgeSpec) :
    Matches bs graphs (rs ++ [⟨graphs, .edge e⟩]) { r with edges := r.edges ++ [e] } := by
  constructor <;> rw [List.filterMap_append]
  · exact (List.append_nil (rs.filterMap added)).symm ▸ before.nodes
  · exact congrArg (· ++ [e]) before.edges
  · exact (List.append_nil _).trans before.conditionalEdges
  · exact (List.append_nil _).trans before.entryPoints

theorem Matches.conditionalEdge (c : ConditionalEdgeSpec) :
    Matches bs graphs (rs ++ [⟨graphs, .conditionalEdge c⟩])
      { r with conditionalEdges := r.conditionalEdges ++ [c] } := by
  constructor <;> rw [List.filterMap_append]
  · exact (List.append_nil (rs.filterMap added)).symm ▸ before.nodes
  · exact (List.append_nil _).trans before.edges
  · exact congrArg (· ++ [c]) before.conditionalEdges
  · exact (List.append_nil _).trans before.entryPoints

theorem Matches.entryPoint (id : String) :
    Matches bs graphs (rs ++ [⟨graphs, .entryPoint id⟩])
      { r with entryPoints := r.entryPoints ++ [id] } := by
  constructor <;> rw [List.filterMap_append]
  · exact (List.append_nil (rs.filterMap added)).symm ▸ before.nodes
  · exact (List.append_nil _).trans before.edges
  · exact (List.append_nil _).trans before.conditionalEdges
  · exact congrArg (· ++ [id]) before.entryPoints

end Add

section Eval

variable {b : GraphBuilder} {m : Module} {names : Names} {rs : String → List Registration}
  {store : Store}

theorem denotes_mem {name : String} {g : Global} (h : (b.bindings m).denotes name = some g) :
    (name, g) ∈ m.bindings := by
  rw [Bindings.denotes] at h
  split at h
  case isTrue => cases h
  case isFalse => exact List.mem_reverse.mp (Dict.mem_of_lookup h)

variable {e : Expr} {items : List (Option Expr × Expr)} {kwargs : Kwargs}

theorem evalString_ok {s : String} (what : String) (h : evalString e = some s) :
    asString what e = .ok s := by
  unfold evalString at h
  split at h
  case h_1 =>
    cases h
    rfl
  case h_2 => cases h

theorem evalVertex_ok (plain : m.Plain) {v v' : String}
    (h : evalVertex (b.bindings m) e = some v) (interpreted : vertexFromExpr e = .ok v') :
    v' = v := by
  unfold evalVertex at h
  split at h
  case h_1 =>
    cases h
    cases interpreted
    rfl
  case h_2 id =>
    split at h
    case h_1 denotes =>
      cases plain.unrenamed _ _ (denotes_mem denotes)
      cases h
      cases interpreted
      rfl
    case h_2 denotes =>
      cases plain.unrenamed _ _ (denotes_mem denotes)
      cases h
      cases interpreted
      rfl
    case h_3 => cases h
  case h_3 => cases h

theorem nameKwarg_ok {callee : Global} {keywords : Keywords} {tools : List ToolGraph} {id : String}
    (h : objectName (.node callee keywords tools) = some id) : nameKwarg keywords = .ok id := by
  obtain ⟨kw, found, hid⟩ := Option.bind_eq_some_iff.mp h
  rw [nameKwarg, found]
  exact evalString_ok _ hid

/-! Conditional edges -/

theorem parseConditionalMapping_rel {entries : Kwargs} {mapping mapping' : List (String × String)}
    (start : List.Forall₂ (fun x y => x.1 = y.1 ∧ vertexFromExpr x.2 = .ok y.2) kwargs mapping)
    (h : dictEntries items kwargs = some entries)
    (interpreted : parseConditionalMapping items mapping = .ok mapping') :
    List.Forall₂ (fun x y => x.1 = y.1 ∧ vertexFromExpr x.2 = .ok y.2) entries mapping' := by
  fun_induction dictEntries items kwargs generalizing mapping with
  | case1 =>
    cases h
    cases interpreted
    exact start
  | case2 key e items kwargs ih =>
    obtain ⟨v, hv, interpreted⟩ := bind_ok_iff.mp interpreted
    exact ih (Dict.forall₂_insertEntry (R := fun _ e v => vertexFromExpr e = .ok v) hv start) h
      interpreted
  | case3 => cases h

theorem evalMapping_ok (plain : m.Plain) {mapping mapping' : List (String × String)}
    (given : evalMapping (b.bindings m) (.dict items) = some mapping)
    (interpreted : parseConditionalMapping items [] = .ok mapping') : mapping' = mapping := by
  obtain ⟨entries, he, h⟩ := Option.bind_eq_some_iff.mp given
  have vertices := parseConditionalMapping_rel .nil he interpreted
  have values := mapM_some_iff.mp h
  clear given h he interpreted
  induction vertices generalizing mapping with
  | nil =>
    cases values
    rfl
  | @cons x y entries mapping' vertex _ ih =>
    obtain ⟨key, v'⟩ := y
    obtain ⟨rfl, vertex⟩ := vertex
    cases values with
    | cons value rest =>
      obtain ⟨v, hv, rfl⟩ := Option.map_eq_some_iff.mp value
      cases evalVertex_ok plain hv vertex
      rw [ih rest]

structure ConditionalRel (config : ConditionalConfig) (kwargs : Kwargs) : Prop where
  path : ∀ e, Dict.lookup "path" kwargs = some e →
    ∃ s, asString "conditional edge path" e = .ok s ∧ config.path = some s
  mapping : ∀ e, Dict.lookup "mapping" kwargs = some e →
    ∃ items mapping, e = .dict items ∧ parseConditionalMapping items [] = .ok mapping ∧
      config.mapping = some mapping
  default : ∀ e, Dict.lookup "default" kwargs = some e → noneOr vertexFromExpr e = .ok config.default
  noDefault : Dict.lookup "default" kwargs = none → config.default = none

theorem parseConditionalEntry_rel {config config' : ConditionalConfig} {key : String}
    (rel : ConditionalRel config kwargs) (h : parseConditionalEntry config key e = .ok config') :
    ConditionalRel config' (Dict.insertEntry key e kwargs) := by
  unfold parseConditionalEntry at h
  split at h
  case h_1 =>
    obtain ⟨s, hs, h⟩ := bind_ok_iff.mp h
    cases pure_ok_iff.mp h
    constructor <;> simp only [Dict.lookup_insertEntry]
    · rintro _ ⟨⟩
      exact ⟨s, hs, rfl⟩
    · exact rel.mapping
    · exact rel.default
    · exact rel.noDefault
  case h_2 =>
    split at h
    case h_1 items =>
      obtain ⟨mapping, hm, h⟩ := bind_ok_iff.mp h
      cases pure_ok_iff.mp h
      constructor <;> simp only [Dict.lookup_insertEntry]
      · exact rel.path
      · rintro _ ⟨⟩
        exact ⟨items, mapping, rfl, hm, rfl⟩
      · exact rel.default
      · exact rel.noDefault
    case h_2 => cases h
  case h_3 =>
    obtain ⟨default, hd, h⟩ := bind_ok_iff.mp h
    cases pure_ok_iff.mp h
    constructor <;> simp only [Dict.lookup_insertEntry]
    · exact rel.path
    · exact rel.mapping
    · rintro _ ⟨⟩
      exact hd
    · intro h
      cases h
  case h_4 => cases h

theorem parseConditionalConfig_rel {entries : Kwargs} {config config' : ConditionalConfig}
    (start : ConditionalRel config kwargs) (h : dictEntries items kwargs = some entries)
    (interpreted : parseConditionalConfig items config = .ok config') :
    ConditionalRel config' entries := by
  fun_induction dictEntries items kwargs generalizing config with
  | case1 =>
    cases h
    cases interpreted
    exact start
  | case2 key e items kwargs ih =>
    obtain ⟨next, hn, interpreted⟩ := bind_ok_iff.mp interpreted
    exact ih (parseConditionalEntry_rel start hn) h interpreted
  | case3 => cases h

theorem evalDefault_ok (plain : m.Plain) {e : Option Expr} {v v' : Option String}
    (h : evalDefault (b.bindings m) e = some v)
    (given : ∀ e', e = some e' → noneOr vertexFromExpr e' = .ok v')
    (absent : e = none → v' = none) : v' = v := by
  cases e with
  | none =>
    cases h
    exact absent rfl
  | some e =>
    have given := given e rfl
    rw [noneOr] at given
    rw [evalDefault] at h
    split at h
    case isTrue none =>
      rw [if_pos none] at given
      cases given
      cases h
      rfl
    case isFalse some =>
      rw [if_neg some] at given
      obtain ⟨w', hw', given⟩ := bind_ok_iff.mp given
      obtain ⟨w, hw, h⟩ := Option.map_eq_some_iff.mp h
      cases pure_ok_iff.mp given
      rw [← h, evalVertex_ok plain hw hw']

theorem evalConditionalEdge_ok (plain : m.Plain) {source config : Expr}
    {c c' : ConditionalEdgeSpec} (h : evalConditionalEdge (b.bindings m) source config = some c)
    (interpreted : interpretConditionalEdge [source, config] = .ok c') : c' = c := by
  unfold evalConditionalEdge at h
  split at h
  case h_2 => cases h
  case h_1 items =>
    obtain ⟨entries, he, h⟩ := Option.bind_eq_some_iff.mp h
    obtain ⟨s, hs, h⟩ := Option.bind_eq_some_iff.mp h
    obtain ⟨pathExpr, hpath, h⟩ := Option.bind_eq_some_iff.mp h
    obtain ⟨path, hp, h⟩ := Option.bind_eq_some_iff.mp h
    obtain ⟨mappingExpr, hmapping, h⟩ := Option.bind_eq_some_iff.mp h
    obtain ⟨mapping, hm, h⟩ := Option.bind_eq_some_iff.mp h
    obtain ⟨default, hd, h⟩ := Option.bind_eq_some_iff.mp h
    cases h
    obtain ⟨s', hs', interpreted⟩ := bind_ok_iff.mp interpreted
    obtain ⟨config, hc, interpreted⟩ := bind_ok_iff.mp interpreted
    have empty : ConditionalRel {} [] := by
      constructor
      · rintro _ ⟨⟩
      · rintro _ ⟨⟩
      · rintro _ ⟨⟩
      · intro _
        rfl
    have rel := parseConditionalConfig_rel empty he hc
    cases (evalString_ok _ hs).symm.trans hs'
    obtain ⟨path', hp', pathOf⟩ := rel.path _ hpath
    cases (evalString_ok _ hp).symm.trans hp'
    obtain ⟨items', mapping', rfl, hm', mappingOf⟩ := rel.mapping _ hmapping
    cases evalMapping_ok plain hm hm'
    obtain ⟨_, _, default'⟩ := config
    cases pathOf
    cases mappingOf
    cases interpreted
    have same : default' = default := evalDefault_ok plain hd rel.default rel.noDefault
    rw [same]

variable (sim : Simulates (b.bindings m) names rs store)
include sim

theorem address_named {id : String} {a : Nat}
    (h : (store.env.get? id).bind Object.address = some a) : names.graphs[a]? = some id := by
  obtain ⟨x, hx, ha⟩ := Option.bind_eq_some_iff.mp h
  cases x with
  | node => cases ha
  | graph a' =>
    cases ha
    exact (sim.graph id _ hx).1

theorem evalGraph_rel {a : Nat} (h : evalGraph store.env e = some a) :
    GraphRel names.graphs e a := by
  unfold evalGraph at h
  split at h
  case h_1 => exact .variable (address_named sim h)
  case h_2 => exact .compiled (address_named sim h)
  case h_3 => cases h

theorem evalToolGraph_rel {t : ToolGraph} (h : evalToolGraph (b.bindings m) store.env e = some t) :
    ToolRel (b.bindings m) names.graphs e t := by
  unfold evalToolGraph at h
  split at h
  case h_1 =>
    split at h
    case h_1 denotes =>
      cases h
      exact .helper denotes
    case h_2 => cases h
  case h_2 =>
    obtain ⟨a, ha, h⟩ := Option.map_eq_some_iff.mp h
    cases h
    exact .graph (evalGraph_rel sim ha)

theorem construct_rel {f : String} {keywords : Keywords} {x : Object}
    (h : construct (b.bindings m) store.env f keywords = some x) :
    NodeRel (b.bindings m) names.graphs (.call (.name f) [] keywords) x := by
  unfold construct at h
  split at h
  case h_1 className denotes =>
    obtain ⟨tools, ht, h⟩ := Option.bind_eq_some_iff.mp h
    cases h
    refine .imported denotes ((mapM_some_iff.mp ht).imp ?_)
    intro e t ht
    exact evalToolGraph_rel sim ht
  case h_2 c denotes =>
    split at h
    case isTrue => cases h
    case isFalse code =>
      cases h
      exact .classDef denotes (eq_false_of_ne_true code)
  case h_3 => cases h

theorem evalObject_rel {e' : Expr} {x : Object} (h : evalObject (b.bindings m) store.env e = some x)
    (interpreted : resolveNodeExpr names.nodes e = .ok e') :
    NodeRel (b.bindings m) names.graphs e' x := by
  unfold evalObject at h
  split at h
  case h_1 id =>
    cases interpreted
    cases x with
    | graph a =>
      obtain ⟨named, none⟩ := sim.graph id a h
      rw [none]
      exact .graph (.variable named)
    | node callee keywords tools =>
      obtain ⟨call, some, rel⟩ := sim.node id callee keywords tools h
      rw [some]
      exact rel
  case h_2 =>
    cases interpreted
    exact construct_rel sim h
  case h_3 notName _ =>
    obtain ⟨a, ha, h⟩ := Option.map_eq_some_iff.mp h
    cases h
    have rel := evalGraph_rel sim ha
    cases rel with
    | «variable» named => exact (notName _ rfl).elim
    | compiled named =>
      cases interpreted
      exact .graph (.compiled named)

theorem registerCall_matches (plain : m.Plain) {method : String} {args : List Expr}
    {rs' : List Registration} {r r' : Registered} {effect : Effect}
    (h : registerCall (b.bindings m) store.env r method args = some r')
    (interpreted : effectOf names.nodes method args = .ok effect)
    (before : Matches (b.bindings m) names.graphs rs' r) :
    Matches (b.bindings m) names.graphs (rs' ++ [⟨names.graphs, effect⟩]) r' := by
  unfold registerCall at h
  split at h
  case h_1 idExpr node =>
    obtain ⟨id, hid, h⟩ := Option.bind_eq_some_iff.mp h
    obtain ⟨x, hx, h⟩ := Option.bind_eq_some_iff.mp h
    cases h
    obtain ⟨⟨id', e⟩, hargs, interpreted⟩ := bind_ok_iff.mp interpreted
    cases pure_ok_iff.mp interpreted
    obtain ⟨_, hid', hargs⟩ := bind_ok_iff.mp hargs
    obtain ⟨_, he, hargs⟩ := bind_ok_iff.mp hargs
    cases pure_ok_iff.mp hargs
    cases (evalString_ok _ hid).symm.trans hid'
    exact before.node (evalObject_rel sim hx he)
  case h_2 node =>
    obtain ⟨x, hx, h⟩ := Option.bind_eq_some_iff.mp h
    obtain ⟨id, hid, h⟩ := Option.bind_eq_some_iff.mp h
    cases h
    obtain ⟨⟨id', e⟩, hargs, interpreted⟩ := bind_ok_iff.mp interpreted
    cases pure_ok_iff.mp interpreted
    obtain ⟨e', he, hargs⟩ := bind_ok_iff.mp hargs
    have rel := evalObject_rel sim hx he
    cases x with
    | graph => cases hid
    | node callee keywords tools =>
      have named := nameKwarg_ok hid
      cases rel with
      | imported denotes given =>
        obtain ⟨id'', hid', hargs⟩ := bind_ok_iff.mp hargs
        cases pure_ok_iff.mp hargs
        cases named.symm.trans hid'
        exact before.node (.imported denotes given)
      | classDef denotes code =>
        obtain ⟨id'', hid', hargs⟩ := bind_ok_iff.mp hargs
        cases pure_ok_iff.mp hargs
        cases named.symm.trans hid'
        exact before.node (.classDef denotes code)
  case h_3 source target =>
    obtain ⟨s, hs, h⟩ := Option.bind_eq_some_iff.mp h
    obtain ⟨t, ht, h⟩ := Option.bind_eq_some_iff.mp h
    cases h
    obtain ⟨e, he, interpreted⟩ := bind_ok_iff.mp interpreted
    cases pure_ok_iff.mp interpreted
    obtain ⟨s', hs', he⟩ := bind_ok_iff.mp he
    obtain ⟨t', ht', he⟩ := bind_ok_iff.mp he
    cases pure_ok_iff.mp he
    cases evalVertex_ok plain hs hs'
    cases evalVertex_ok plain ht ht'
    exact before.edge _
  case h_4 source config =>
    obtain ⟨c, hc, h⟩ := Option.bind_eq_some_iff.mp h
    cases h
    obtain ⟨c', hc', interpreted⟩ := bind_ok_iff.mp interpreted
    cases pure_ok_iff.mp interpreted
    cases evalConditionalEdge_ok plain hc hc'
    exact before.conditionalEdge _
  case h_5 idExpr =>
    obtain ⟨id, hid, h⟩ := Option.bind_eq_some_iff.mp h
    cases h
    obtain ⟨id', hid', interpreted⟩ := bind_ok_iff.mp interpreted
    cases pure_ok_iff.mp interpreted
    cases (evalString_ok _ hid).symm.trans hid'
    exact before.entryPoint _
  case h_6 idExpr =>
    obtain ⟨id, hid, h⟩ := Option.bind_eq_some_iff.mp h
    cases h
    obtain ⟨id', hid', interpreted⟩ := bind_ok_iff.mp interpreted
    cases pure_ok_iff.mp interpreted
    cases (evalString_ok _ hid).symm.trans hid'
    exact before.edge _
  case h_7 => cases h

end Eval

section Run

variable {ctx : CompileContext} {helper : String → Checked GraphIR} {b : GraphBuilder} {m : Module}
  {names : Names} {rs : String → List Registration} {store store' : Store} {scope scope' : Scope}

variable {a : Nat}

theorem Simulates.step_method (plain : m.Plain)
    (sim : Simulates (b.bindings m) scope.names rs store) {g method : String} {args : List Expr}
    {r r' : Registered} (address : (store.env.get? g).bind Object.address = some a)
    (found : store.heap[a]? = some r)
    (registered : registerCall (b.bindings m) store.env r method args = some r')
    (interpreted : scope.perform ctx helper (.method g method args) = .ok scope') :
    Simulates (b.bindings m) (scope.names.step (.method g method args))
      (fun x => rs x ++ scope.names.registration x (.method g method args))
      { store with heap := store.heap.set a r' } := by
  obtain ⟨_, _, effect, _, he, _, _⟩ := perform_method interpreted
  have he : effectOf scope.names.nodes method args = .ok effect := he
  have named := address_named sim address
  refine ⟨sim.nodup, ?_, sim.graph, sim.node, ?_, ?_⟩
  · rw [List.length_set]
    exact sim.size
  · intro x absent
    have apart : g ≠ x := by
      rintro rfl
      exact absent (List.mem_of_getElem? named)
    rw [registration, if_neg apart, List.append_nil]
    exact sim.empty x absent
  · intro a' x r₁ hx hr
    rw [List.getElem?_set] at hr
    split at hr
    case isTrue same =>
      subst same
      cases named.symm.trans hx
      rw [if_pos (List.getElem?_eq_some_iff.mp found).1] at hr
      cases hr
      simp only [registration, he, if_pos]
      exact registerCall_matches sim plain registered he (sim.registered a g r named found)
    case isFalse other =>
      have apart : g ≠ x := by
        rintro rfl
        apply other
        have inside := (List.getElem?_eq_some_iff.mp named).1
        exact (List.getElem?_inj inside sim.nodup).mp (named.trans hx.symm)
      rw [registration, if_neg apart, List.append_nil]
      exact sim.registered a' x r₁ hx hr

theorem Simulates.step_newGraph (sim : Simulates (b.bindings m) scope.names rs store) {g : String}
    (fresh : scope.names.nodes.get? g = none)
    (interpreted : scope.perform ctx helper (.newGraph g) = .ok scope') :
    Simulates (b.bindings m) (scope.names.step (.newGraph g)) rs
      { env := store.env.set g (.graph store.heap.length), heap := store.heap ++ [{}] } := by
  have absent : g ∉ scope.names.graphs := (perform_newGraph interpreted).1
  have longer : scope.names.graphs <+: scope.names.graphs ++ [g] := List.prefix_append _ _
  constructor
  case nodup =>
    rw [step, ← List.concat_eq_append]
    exact sim.nodup.concat absent
  case size => simp [step, sim.size]
  case graph =>
    intro x a hx
    rw [Dict.get?_set] at hx
    split at hx
    case isTrue same =>
      cases hx
      subst same
      refine ⟨?_, fresh⟩
      rw [step, ← sim.size, List.getElem?_concat_length]
    case isFalse other =>
      obtain ⟨named, none⟩ := sim.graph x a hx
      exact ⟨getElem?_longer longer named, none⟩
  case node =>
    intro x callee keywords tools hx
    rw [Dict.get?_set] at hx
    split at hx
    case isTrue => cases hx
    case isFalse =>
      obtain ⟨call, some, rel⟩ := sim.node x callee keywords tools hx
      exact ⟨call, some, rel.mono longer⟩
  case empty =>
    intro x hx
    exact sim.empty x fun h => hx (List.mem_append_left _ h)
  case registered =>
    intro a x r hx hr
    cases Nat.lt_or_ge a store.heap.length with
    | inl old =>
      rw [List.getElem?_append_left old] at hr
      rw [step, List.getElem?_append_left (sim.size ▸ old)] at hx
      exact (sim.registered a x r hx hr).mono longer
    | inr new =>
      have inside := (List.getElem?_eq_some_iff.mp hr).1
      have last : a = store.heap.length := by
        rw [List.length_append, List.length_singleton] at inside
        omega
      subst last
      rw [List.getElem?_concat_length] at hr
      rw [step, ← sim.size, List.getElem?_concat_length] at hx
      cases hr
      cases hx
      rw [sim.empty g absent]
      exact ⟨.nil, rfl, rfl, rfl⟩

theorem Simulates.step_newNode (sim : Simulates (b.bindings m) names rs store) {x : String}
    {call : Expr} {callee : Global} {keywords : Keywords} {tools : List ToolGraph}
    (rel : NodeRel (b.bindings m) names.graphs call (.node callee keywords tools)) :
    Simulates (b.bindings m) (names.step (.newNode x call)) rs
      { store with env := store.env.set x (.node callee keywords tools) } := by
  constructor
  case nodup => exact sim.nodup
  case size => exact sim.size
  case empty => exact sim.empty
  case registered => exact sim.registered
  case graph =>
    intro y a hy
    rw [Dict.get?_set] at hy
    split at hy
    case isTrue => cases hy
    case isFalse other =>
      obtain ⟨named, none⟩ := sim.graph y a hy
      refine ⟨named, ?_⟩
      rw [step, Dict.get?_set, if_neg other, none]
  case node =>
    intro y callee' keywords' tools' hy
    rw [Dict.get?_set] at hy
    rw [step, Dict.get?_set]
    split at hy
    case isTrue same =>
      cases hy
      exact ⟨call, if_pos same, rel⟩
    case isFalse other =>
      obtain ⟨call', some, rel'⟩ := sim.node y callee' keywords' tools' hy
      exact ⟨call', (if_neg other).trans some, rel'⟩

theorem action_assign {target f : String} {args : List Expr} {keywords : Keywords}
    (h : f ≠ "StateGraph") : (Stmt.assign [.name target] (.call (.name f) args keywords)).action =
      .newNode target (.call (.name f) args keywords) := by
  rw [Stmt.action]
  rintro ⟨⟩
  exact h rfl

theorem Simulates.step (plain : m.Plain) (sim : Simulates (b.bindings m) scope.names rs store)
    {stmt : Stmt} (executed : execute (b.bindings m) store stmt = some store')
    (interpreted : scope.perform ctx helper stmt.action = .ok scope')
    (keeps : scope.names.keepsNode stmt.action = true) :
    Simulates (b.bindings m) (scope.names.step stmt.action)
      (fun x => rs x ++ scope.names.registration x stmt.action) store' := by
  unfold execute at executed
  split at executed
  case h_1 target f args keywords =>
    unfold assign at executed
    split at executed
    case h_1 denotes =>
      cases plain.unrenamed _ _ (denotes_mem denotes)
      cases executed
      have fresh : scope.names.nodes.get? target = none := by
        simpa [Names.keepsNode, Stmt.action, Dict.contains] using keeps
      have next := sim.step_newGraph fresh interpreted
      simpa only [Stmt.action, registration, List.append_nil] using next
    case h_2 notGraph =>
      obtain ⟨object, made, executed⟩ := Option.bind_eq_some_iff.mp executed
      cases executed
      have other : f ≠ "StateGraph" := by
        rintro rfl
        unfold construct at made
        split at made
        case h_1 attr denotes =>
          cases plain.unrenamed _ _ (denotes_mem denotes)
          exact notGraph denotes
        case h_2 c denotes => exact plain.stateGraph c (denotes_mem denotes)
        case h_3 => cases made
      rw [action_assign other]
      have rel := construct_rel sim made
      simp only [registration, List.append_nil]
      cases object with
      | graph a =>
        cases rel with
        | graph h => cases h
      | node callee keywords' tools => exact sim.step_newNode rel
    case h_3 => cases executed
  case h_2 g method args =>
    obtain ⟨a, address, executed⟩ := Option.bind_eq_some_iff.mp executed
    obtain ⟨r, found, executed⟩ := Option.bind_eq_some_iff.mp executed
    obtain ⟨r', registered, executed⟩ := Option.bind_eq_some_iff.mp executed
    cases executed
    exact sim.step_method plain address found registered interpreted
  case h_3 =>
    cases executed
    simpa only [Stmt.action, step, registration, List.append_nil] using sim
  case h_4 => cases executed

def namesAt : List Stmt → Names → Names
  | [], names => names
  | .ret _ :: _, names => names
  | stmt :: body, names => namesAt body (names.step stmt.action)

theorem evalReturn_named (sim : Simulates (b.bindings m) names rs store) {value : Option Expr}
    {name : String} (h : evalReturn store.env value = some a)
    (interpreted : returnGraphName value = .ok name) : names.graphs[a]? = some name := by
  unfold evalReturn at h
  split at h
  case h_1 =>
    cases interpreted
    exact address_named sim h
  case h_2 =>
    cases interpreted
    exact address_named sim h
  case h_3 => cases h

theorem Simulates.run (plain : m.Plain) {body : List Stmt} {root : Option String}
    (sim : Simulates (b.bindings m) scope.names rs store)
    (executed : runStmts (b.bindings m) body store = some (store', a))
    (interpreted : interpretBody ctx helper body scope = .ok (scope', root))
    (keeps : keepsNodes body scope.names = true) :
    Simulates (b.bindings m) (namesAt body scope.names)
      (fun x => rs x ++ registrations x body scope.names) store' ∧
    ∃ x, root = some x ∧ (namesAt body scope.names).graphs[a]? = some x := by
  fun_induction returned body generalizing scope rs store with
  | case1 => cases executed
  | case2 value body =>
    obtain ⟨a', ha, executed⟩ := Option.bind_eq_some_iff.mp executed
    cases executed
    obtain ⟨name, hn, interpreted⟩ := bind_ok_iff.mp interpreted
    cases pure_ok_iff.mp interpreted
    simp only [registrations, List.append_nil]
    exact ⟨sim, name, rfl, evalReturn_named sim ha hn⟩
  | case3 stmt body notRet ih =>
    rw [interpretBody_cons fun value h => notRet value h] at interpreted
    obtain ⟨next, hs, interpreted⟩ := bind_ok_iff.mp interpreted
    rw [runStmts] at executed
    · obtain ⟨middle, first, executed⟩ := Option.bind_eq_some_iff.mp executed
      rw [keepsNodes, Bool.and_eq_true] at keeps
      · have stepped := sim.step plain first hs keeps.1
        rw [← perform_names hs] at stepped keeps
        have rest := ih stepped executed interpreted keeps.2
        rw [perform_names hs] at rest
        rw [namesAt]
        · have all : (fun x => rs x ++ registrations x (stmt :: body) scope.names) = fun x =>
              (rs x ++ scope.names.registration x stmt.action) ++
                registrations x body (scope.names.step stmt.action) := by
            funext x
            rw [registrations, List.append_assoc]
            exact notRet
          rw [all]
          exact rest
        · exact notRet
      · exact notRet
    · exact notRet

end Run

end Orcheo.Graph
