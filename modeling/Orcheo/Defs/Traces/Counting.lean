import Mathlib.Algebra.BigOperators.Group.List.Basic
import Orcheo.Defs.Traces.Attributes
import Orcheo.Defs.Traces.Live
import Orcheo.Defs.Traces.Sequential

/-! When the response to a sequential run has one span for each invocation and each update. -/

namespace Orcheo.Traces

open Lib (Dict)
open List (map_cons map_append mem_cons_self mem_cons_of_mem all_cons nil_append cons_append mem_append_left mem_append_right mem_map_of_mem map_map sum)

section Response

variable (rt : TraceRuntime) (record : RunHistoryRecord) (times : Nat → Instant)

def leaves (run : List RunEvent) : List Numbered :=
  (numbered run).filter (fun u => !u.1.aggregate)

/-- One span for each invocation and each update that is not an aggregate, and nothing else but the
span of the run. The tokens are those of the updates. -/
structure ShownOnce (run : List RunEvent) : Prop where
  spans : ∃ containers, List.Forall₂ (IsContainer rt record) (invocationsOf [] run) containers ∧
    (nodeSpans (buildTraceResponse rt (record.ran times run)).spans).Perm
      (containers ++ (leaves run).map (nodeSpanOf rt record times))
  inputTokens : (buildTraceResponse rt (record.ran times run)).execution.inputTokens =
    ((leaves run).map (fun u => (extractInputTokens rt u.1.payload).getD 0)).sum
  outputTokens : (buildTraceResponse rt (record.ran times run)).execution.outputTokens =
    ((leaves run).map (fun u => (extractOutputTokens rt u.1.payload).getD 0)).sum

def Apart (run : List RunEvent) : Prop :=
  (rootSpanId rt record ::
    ((invocationsOf [] run).map (deriveNamespaceSpanId rt record.executionId) ++
      (numbered run).map (fun u => deriveChildSpanId rt record.executionId u.2 u.1.nodeKey))).Nodup

end Response

variable {rt : TraceRuntime} {record : RunHistoryRecord} {times : Nat → Instant}
  {tracker : Tracker} {u : Numbered} {run : List RunEvent}

variable (rt record times tracker) in
theorem spansFrom_cons (u : Numbered) (us : List Numbered) :
    spansFrom rt record times tracker (u :: us) =
      (buildSpansForStep rt record (stepOf times u) tracker).2 ++
        spansFrom rt record times (tracker.observeAll rt (stepOf times u)) us := by
  unfold spansFrom
  rw [map_cons, buildSpansForSteps]
  dsimp only
  rw [buildSpansForStep_tracker]

theorem spansFrom_append (us vs : List Numbered) :
    spansFrom rt record times tracker (us ++ vs) =
      spansFrom rt record times tracker us ++
        spansFrom rt record times (walk rt times tracker us) vs := by
  unfold spansFrom walk
  rw [map_append, buildSpansForSteps_append]

theorem walk_append (us vs : List Numbered) :
    walk rt times tracker (us ++ vs) = walk rt times (walk rt times tracker us) vs := by
  unfold walk
  rw [map_append, List.foldl_append]

theorem observeAll_stepOf (named : u.1.nodeKey ≠ namespaceMetadataKey) :
    tracker.observeAll rt (stepOf times u) =
      (tracker.observe rt (stepOf times u) u.1.nodeKey u.1.payload u.1.path).1 := by
  unfold Tracker.observeAll
  rw [stepOf_updates named, stepOf_path named]
  rfl

variable {path : Namespace} {name : String} {us : List Numbered} {span : TraceSpan}

variable (rt record) in
theorem render_known (known : (tracker.bounds.get? path).isSome) :
    ∃ span, renderContainer rt record tracker path = some span ∧ IsContainer rt record path span := by
  have rendered : (renderContainer rt record tracker path).isSome := by
    unfold renderContainer
    rwa [Option.isSome_map]
  obtain ⟨span, rendered⟩ := Option.isSome_iff_exists.mp rendered
  exact ⟨span, rendered, tracker, rendered⟩

theorem idle_span (idle : Idle tracker) (named : u.1.nodeKey ≠ namespaceMetadataKey)
    (top : u.1.path = []) : buildSpansForStep rt record (stepOf times u) tracker =
      (tracker, [nodeSpanOf rt record times u]) := by
  rw [buildSpansForStep_stepOf named, top, observe_idle rt _ _ _ idle]
  rfl

variable (rt record times) in
theorem leaf_accounts (idle : Idle tracker) (named : u.1.nodeKey ≠ namespaceMetadataKey)
    (top : u.1.path = []) (leaf : u.1.aggregate = false) :
    Accounts rt record times [] [u] (buildSpansForStep rt record (stepOf times u) tracker).2 ∧
      tracker.observeAll rt (stepOf times u) = tracker := by
  rw [← buildSpansForStep_tracker, idle_span idle named top]
  refine ⟨⟨?_, ?_, ?_⟩, rfl⟩
  · intro span mem
    exact .inr ⟨u, mem_cons_self, leaf, by simpa using mem⟩
  · intro v mem _
    rw [List.mem_singleton.mp mem]
    simp
  · simp

variable (rt record times) in
theorem inner_accounts (named : u.1.nodeKey ≠ namespaceMetadataKey)
    (path : u.1.path = [name]) (leaf : u.1.aggregate = false)
    (state : Idle tracker ∧ tracker.bounds.get? [name] = none ∨ Inside tracker [name]) :
    Accounts rt record times [[name]] [u]
        (buildSpansForStep rt record (stepOf times u) tracker).2 ∧
      Inside (tracker.observeAll rt (stepOf times u)) [name] ∧
      Knows tracker (tracker.observeAll rt (stepOf times u)) [name] := by
  obtain ⟨touched, inside, knows⟩ :=
    observe_inner rt (stepOf times u) u.1.nodeKey u.1.payload state
  obtain ⟨container, rendered, shown⟩ := render_known rt record inside.known
  rw [observeAll_stepOf named, buildSpansForStep_stepOf named, path]
  refine ⟨?_, inside, knows⟩
  dsimp only
  rw [touched, List.filterMap_cons_some rendered, if_pos (by simp), List.filterMap_nil]
  refine ⟨?_, ?_, ?_⟩
  · intro span mem
    rcases List.mem_cons.mp mem with rfl | mem
    · exact .inl ⟨[name], mem_cons_self, shown⟩
    · exact .inr ⟨u, mem_cons_self, leaf, by simpa using mem⟩
  · intro v mem _
    rw [List.mem_singleton.mp mem]
    exact mem_cons_of_mem _ mem_cons_self
  · intro p mem
    rw [List.mem_singleton.mp mem]
    exact ⟨container, mem_cons_self, shown⟩

variable (rt record times) in
theorem aggregate_accounts (named : u.1.nodeKey ≠ namespaceMetadataKey)
    (top : u.1.path = []) (aggregate : u.1.aggregate = true) (inside : Inside tracker path)
    (closes : namespaceSegmentName (path.getLast?.getD "") = u.1.nodeKey) :
    Accounts rt record times [path] [u] (buildSpansForStep rt record (stepOf times u) tracker).2 ∧
      Idle (tracker.observeAll rt (stepOf times u)) ∧
      Knows tracker (tracker.observeAll rt (stepOf times u)) path := by
  obtain ⟨touched, idle, knows⟩ :=
    observe_aggregate rt (stepOf times u) u.1.payload inside closes
  have known := (knows path).mpr (.inl rfl)
  obtain ⟨container, rendered, shown⟩ := render_known rt record known
  rw [observeAll_stepOf named, buildSpansForStep_stepOf named, top]
  refine ⟨?_, idle, knows⟩
  dsimp only
  rw [touched, List.filterMap_cons_some rendered, if_neg (by simp), List.filterMap_nil]
  refine ⟨?_, ?_, ?_⟩
  · intro span mem
    exact .inl ⟨path, mem_cons_self, by simpa [← List.mem_singleton.mp mem] using shown⟩
  · intro v mem leaf
    rw [List.mem_singleton.mp mem, aggregate] at leaf
    cases leaf
  · intro p mem
    rw [List.mem_singleton.mp mem]
    exact ⟨container, mem_cons_self, shown⟩

theorem emittedBy_nodes (path : Namespace) {inner : List RunEvent}
    (nodes : inner.all RunEvent.isNode = true) :
    (∀ v ∈ emittedBy path inner, v.path = path ∧ v.aggregate = false) ∧
      (emittedBy path inner).length = inner.length ∧ invocationsOf path inner = [] := by
  induction inner with
  | nil => exact ⟨by simp [emittedBy], rfl, rfl⟩
  | cons event rest ih =>
    rw [all_cons, Bool.and_eq_true] at nodes
    obtain ⟨paths, lengths, none_in⟩ := ih nodes.2
    cases event with
    | node nodeKey payload =>
      rw [emittedBy, invocationsOf, RunEvent.emitted, RunEvent.invocations]
      refine ⟨?_, by simp [lengths], none_in⟩
      intro v mem
      rcases List.mem_append.mp mem with here | later
      · rw [List.mem_singleton.mp here]
        exact ⟨rfl, rfl⟩
      · exact paths v later
    | subgraph => exact absurd nodes.1 (by simp [RunEvent.isNode])

variable (rt record times) in
theorem inside_accounts {closing : Numbered}
    (inner : ∀ v ∈ us, v.1.nodeKey ≠ namespaceMetadataKey ∧ v.1.path = [name] ∧
      v.1.aggregate = false) (named : closing.1.nodeKey ≠ namespaceMetadataKey)
    (top : closing.1.path = []) (aggregate : closing.1.aggregate = true)
    (closes : namespaceSegmentName name = closing.1.nodeKey) (inside : Inside tracker [name]) :
    Accounts rt record times [[name]] (us ++ [closing])
        (spansFrom rt record times tracker (us ++ [closing])) ∧
      Idle (walk rt times tracker (us ++ [closing])) ∧
      Knows tracker (walk rt times tracker (us ++ [closing])) [name] := by
  induction us generalizing tracker with
  | nil =>
    obtain ⟨accounts, idle, knows⟩ := aggregate_accounts rt record times named top aggregate inside closes
    rw [nil_append, spansFrom_cons]
    exact ⟨by simpa [spansFrom, buildSpansForSteps] using accounts, idle, knows⟩
  | cons v us ih =>
    obtain ⟨named_v, path, leaf⟩ := inner v mem_cons_self
    obtain ⟨accounts, inside, knows⟩ := inner_accounts rt record times named_v path leaf (.inr inside)
    obtain ⟨later, idle, knows_later⟩ :=
      ih (fun v mem => inner v (mem_cons_of_mem _ mem)) inside
    rw [cons_append, spansFrom_cons]
    exact ⟨(accounts.append later).of_mem (by simp), idle, knows.trans knows_later⟩

variable (rt record times tracker) in
theorem shallow_accounts (shallow : run.all RunEvent.shallow = true)
    (named : ∀ v ∈ us, ':' ∉ v.1.nodeKey.toList ∧ v.1.nodeKey ≠ namespaceMetadataKey)
    (emitted : us.map Prod.fst = emittedBy [] run) (apart : (invocationsOf [] run).Nodup)
    (fresh : ∀ path ∈ invocationsOf [] run, tracker.bounds.get? path = none) (idle : Idle tracker) :
    Accounts rt record times (invocationsOf [] run) us (spansFrom rt record times tracker us) ∧
      Idle (walk rt times tracker us) := by
  induction run generalizing tracker us with
  | nil =>
    rw [List.map_eq_nil_iff.mp emitted]
    exact ⟨accounts_nil, idle⟩
  | cons event rest ih =>
    rw [all_cons, Bool.and_eq_true] at shallow
    rw [emittedBy] at emitted
    obtain ⟨us, vs, rfl, here, later⟩ := List.map_eq_append_iff.mp emitted
    rw [invocationsOf] at apart fresh ⊢
    obtain ⟨_, apart_rest, other⟩ := List.nodup_append.mp apart
    have named_us := fun v mem => named v (mem_append_left vs mem)
    have named_vs := fun v mem => named v (mem_append_right us mem)
    have fresh_rest := fun path mem => fresh path (mem_append_right _ mem)
    rw [spansFrom_append, walk_append]
    cases event with
    | node nodeKey payload =>
      rw [RunEvent.emitted] at here
      obtain ⟨u, rfl, same⟩ := List.map_eq_singleton_iff.mp here
      obtain ⟨accounts, stays⟩ := leaf_accounts rt record times (u := u) idle (named_us u mem_cons_self).2 (by rw [same]) (by rw [same])
      have walked : walk rt times tracker [u] = tracker := stays
      have spans : spansFrom rt record times tracker [u] =
          (buildSpansForStep rt record (stepOf times u) tracker).2 := by
        rw [spansFrom_cons]
        exact List.append_nil _
      obtain ⟨accounts_rest, idle_rest⟩ :=
        ih _ shallow.2 named_vs later apart_rest fresh_rest idle
      rw [walked, spans]
      exact ⟨accounts.append accounts_rest, idle_rest⟩
    | subgraph name taskId inner aggregate =>
      rw [RunEvent.emitted] at here
      obtain ⟨inner_us, last, rfl, inner_here, last_here⟩ := List.map_eq_append_iff.mp here
      obtain ⟨closing, rfl, same⟩ := List.map_eq_singleton_iff.mp last_here
      obtain ⟨filled, nodes⟩ : inner ≠ [] ∧ inner.all RunEvent.isNode = true := by
        simpa [RunEvent.shallow] using shallow.1
      obtain ⟨paths, lengths, no_inner⟩ := emittedBy_nodes [segment name taskId] nodes
      have inner_named (v : Numbered) (mem : v ∈ inner_us) : v.1.nodeKey ≠ namespaceMetadataKey ∧
          v.1.path = [segment name taskId] ∧ v.1.aggregate = false := by
        have among : v.1 ∈ emittedBy [segment name taskId] inner :=
          inner_here ▸ mem_map_of_mem mem
        exact ⟨(named_us v (mem_append_left _ mem)).2, paths v.1 among⟩
      have closing_named := named_us closing (mem_append_right _ mem_cons_self)
      rw [RunEvent.invocations, nil_append, no_inner] at apart fresh other ⊢
      cases inner_us with
      | nil =>
        have empty : inner.length = 0 := by
          rw [← lengths]
          exact congrArg List.length inner_here.symm
        exact absurd (List.length_eq_zero_iff.mp empty) filled
      | cons u inner_us =>
        obtain ⟨u_named, u_path, u_leaf⟩ := inner_named u mem_cons_self
        obtain ⟨first, inside, knows⟩ := inner_accounts rt record times u_named u_path u_leaf
          (.inl ⟨idle, fresh _ mem_cons_self⟩)
        have closes : namespaceSegmentName (segment name taskId) = closing.1.nodeKey := by
          rw [same] at closing_named ⊢
          exact segment_name taskId closing_named.1
        obtain ⟨others, idle_after, knows_after⟩ := inside_accounts rt record times
          (fun v mem => inner_named v (mem_cons_of_mem _ mem))
          closing_named.2 (by rw [same]) (by rw [same]) closes inside
        have fresh_after (path : Namespace) (mem : path ∈ invocationsOf [] rest) :
            (walk rt times tracker (u :: inner_us ++ [closing])).bounds.get? path = none := by
          have knows_all := (knows.trans knows_after) path
          rw [← Option.not_isSome_iff_eq_none]
          intro known
          rcases knows_all.mp known with rfl | before
          · exact other _ mem_cons_self _ mem rfl
          · rw [fresh_rest path mem] at before
            cases before
        obtain ⟨accounts_rest, idle_rest⟩ :=
          ih _ shallow.2 named_vs later apart_rest fresh_after idle_after
        have event : Accounts rt record times [[segment name taskId]] _ _ :=
          (first.append others).of_mem (by simp)
        have spans := spansFrom_cons rt record times tracker u (inner_us ++ [closing])
        rw [← spans] at event
        exact ⟨event.append accounts_rest, idle_rest⟩

variable {spans : List TraceSpan} {known : Dict String TraceSpan}

theorem foldSpans_keyed (keyed : known.KeyedBy TraceSpan.spanId) :
    (foldSpans spans known).KeyedBy TraceSpan.spanId := by
  induction spans generalizing known with
  | nil => exact keyed
  | cons span spans ih => exact ih (keyed.set rfl)

theorem foldSpans_known (there : span ∈ spans ∨ (known.get? span.spanId).isSome) :
    ((foldSpans spans known).get? span.spanId).isSome := by
  induction spans generalizing known with
  | nil => exact there.resolve_left (by simp)
  | cons s spans ih =>
    refine ih ?_
    rw [Dict.get?_set]
    rcases there with mem | before
    · rcases List.mem_cons.mp mem with rfl | mem
      · exact .inr (by simp)
      · exact .inl mem
    · refine .inr ?_
      split
      · rfl
      · exact before

variable (rt record times run) in
theorem knownSpans_ran : knownSpans rt (record.ran times run) =
    foldSpans (spansFrom rt record times {} (numbered run)) ∅ := by
  unfold knownSpans spansFrom
  rw [buildSpansForSteps_eq, buildSpansForSteps_eq]
  congr 2
  exact spansOfSteps_record record record.inputs _ {} _

theorem numbered_fst (run : List RunEvent) : (numbered run).map Prod.fst = emittedBy [] run :=
  List.zipIdx_map_fst 0 _

theorem Named.of_mem (named : Named run) {u : Numbered} (mem : u ∈ numbered run) :
    ':' ∉ u.1.nodeKey.toList ∧ u.1.nodeKey ≠ namespaceMetadataKey :=
  named u.1 (numbered_fst run ▸ mem_map_of_mem mem)

theorem container_spanId (container : IsContainer rt record path span) :
    span.spanId = deriveNamespaceSpanId rt record.executionId path := by
  obtain ⟨tracker, rendered⟩ := container
  obtain ⟨bounds, _, rfl⟩ := Option.map_eq_some_iff.mp rendered
  rfl

theorem container_tokens {key : String} (container : IsContainer rt record path span)
    (kind : key ≠ "orcheo.node.kind") (namespace_ : key ≠ "orcheo.node.namespace") :
    attributeInt rt key span = 0 := by
  obtain ⟨tracker, rendered⟩ := container
  obtain ⟨bounds, _, rfl⟩ := Option.map_eq_some_iff.mp rendered
  unfold attributeInt
  simp [Dict.get?_set, kind, namespace_]

section Containers

variable {paths : List Namespace} {containers : List TraceSpan}

theorem containers_tokens (are : List.Forall₂ (IsContainer rt record) paths containers)
    {key : String} (kind : key ≠ "orcheo.node.kind") (namespace_ : key ≠ "orcheo.node.namespace") :
    (containers.map (attributeInt rt key)).sum = 0 := by
  induction are with
  | nil => rfl
  | cons container _ ih =>
    rw [map_cons, List.sum_cons, container_tokens container kind namespace_, ih]
    rfl

theorem container_of_mem (are : List.Forall₂ (IsContainer rt record) paths containers)
    {span : TraceSpan} (mem : span ∈ containers) :
    ∃ path ∈ paths, IsContainer rt record path span := by
  induction are with
  | nil => cases mem
  | cons container _ ih =>
    rcases List.mem_cons.mp mem with rfl | mem
    · exact ⟨_, mem_cons_self, container⟩
    · obtain ⟨path, here, shown⟩ := ih mem
      exact ⟨path, mem_cons_of_mem _ here, shown⟩

end Containers

structure Told (rt : TraceRuntime) (record : RunHistoryRecord) (run : List RunEvent) : Prop where
  container_root : ∀ path ∈ invocationsOf [] run,
    deriveNamespaceSpanId rt record.executionId path ≠ rootSpanId rt record
  node_root : ∀ u ∈ numbered run,
    deriveChildSpanId rt record.executionId u.2 u.1.nodeKey ≠ rootSpanId rt record
  container_node : ∀ path ∈ invocationsOf [] run, ∀ u ∈ numbered run,
    deriveNamespaceSpanId rt record.executionId path ≠
      deriveChildSpanId rt record.executionId u.2 u.1.nodeKey
  container : ∀ p ∈ invocationsOf [] run, ∀ q ∈ invocationsOf [] run,
    deriveNamespaceSpanId rt record.executionId p =
      deriveNamespaceSpanId rt record.executionId q → p = q
  node : ∀ u ∈ numbered run, ∀ v ∈ numbered run,
    deriveChildSpanId rt record.executionId u.2 u.1.nodeKey =
      deriveChildSpanId rt record.executionId v.2 v.1.nodeKey → u = v

theorem Apart.told (apart : Apart rt record run) : Told rt record run := by
  unfold Apart at apart
  obtain ⟨root, others⟩ := List.nodup_cons.mp apart
  obtain ⟨paths, nodes, between⟩ := List.nodup_append.mp others
  rw [List.mem_append, not_or] at root
  exact {
    container_root := fun path mem same => root.1 (List.mem_map.mpr ⟨path, mem, same⟩)
    node_root := fun u mem same => root.2 (List.mem_map.mpr ⟨u, mem, same⟩)
    container_node := fun path mem u there same =>
      between _ (mem_map_of_mem mem) _ (List.mem_map.mpr ⟨u, there, rfl⟩) same
    container := fun p mem q there same => List.inj_on_of_nodup_map paths mem there same
    node := fun u mem v there same => List.inj_on_of_nodup_map nodes mem there same }

section Shallow

variable {S : List TraceSpan}

theorem known_of_accounts
    (accounts : Accounts rt record times (invocationsOf [] run) (numbered run) S)
    {id : String} {span : TraceSpan} (found : (foldSpans S ∅).get? id = some span) :
    span.spanId = id ∧ ((∃ path ∈ invocationsOf [] run, IsContainer rt record path span) ∨
      ∃ u ∈ leaves run, span = nodeSpanOf rt record times u) := by
  refine ⟨foldSpans_keyed Dict.keyedBy_empty id span found, ?_⟩
  have shown : span ∈ S := foldSpans_values nofun
    (fun span mem => mem) found
  rcases accounts.only span shown with container | ⟨u, mem, leaf, same⟩
  · exact .inl container
  · exact .inr ⟨u, List.mem_filter.mpr ⟨mem, by simp [leaf]⟩, same⟩

section

variable (told : Told rt record run)
  (accounts : Accounts rt record times (invocationsOf [] run) (numbered run) S)
include told accounts

theorem container_known {path : Namespace} (mem : path ∈ invocationsOf [] run) : ∃ span,
      (foldSpans S ∅).get? (deriveNamespaceSpanId rt record.executionId path) = some span ∧
        IsContainer rt record path span := by
  obtain ⟨shown, there, container⟩ := accounts.container path mem
  have known : ((foldSpans S ∅).get? shown.spanId).isSome := foldSpans_known (.inl there)
  rw [container_spanId container] at known
  obtain ⟨span, found⟩ := Option.isSome_iff_exists.mp known
  obtain ⟨id, ⟨other, among, is_other⟩ | ⟨u, among, rfl⟩⟩ := known_of_accounts accounts found
  · rw [container_spanId is_other] at id
    rw [told.container other among path mem id] at is_other
    exact ⟨span, found, is_other⟩
  · exact absurd id.symm (told.container_node path mem u (List.mem_of_mem_filter among))

theorem node_known {u : Numbered} (mem : u ∈ leaves run) :
    (foldSpans S ∅).get? (deriveChildSpanId rt record.executionId u.2 u.1.nodeKey) =
      some (nodeSpanOf rt record times u) := by
  obtain ⟨among, leaf⟩ := List.mem_filter.mp mem
  have there := accounts.node u among (by simpa using leaf)
  have known : ((foldSpans S ∅).get? (nodeSpanOf rt record times u).spanId).isSome :=
    foldSpans_known (.inl there)
  obtain ⟨span, found⟩ := Option.isSome_iff_exists.mp known
  obtain ⟨id, ⟨path, here, container⟩ | ⟨v, here, rfl⟩⟩ := known_of_accounts accounts found
  · rw [container_spanId container] at id
    exact absurd id (told.container_node path here u among)
  · have same := told.node v (List.mem_of_mem_filter here) u among id
    rw [same] at found
    exact found

theorem root_unknown : (foldSpans S ∅).get? (rootSpanId rt record) = none := by
  rw [Option.eq_none_iff_forall_not_mem]
  intro span found
  obtain ⟨id, ⟨path, here, container⟩ | ⟨u, here, rfl⟩⟩ := known_of_accounts accounts found
  · rw [container_spanId container] at id
    exact told.container_root path here id
  · exact told.node_root u (List.mem_of_mem_filter here) id

end

theorem known_perm (apart : Apart rt record run)
    (accounts : Accounts rt record times (invocationsOf [] run) (numbered run) S) :
    ∃ containers, List.Forall₂ (IsContainer rt record) (invocationsOf [] run) containers ∧
      (foldSpans S ∅).values.Perm
        (containers ++ (leaves run).map (nodeSpanOf rt record times)) := by
  have told := apart.told
  have known (path : Namespace) (mem : path ∈ invocationsOf [] run) :=
    container_known told accounts mem
  have : Nonempty TraceSpan := ⟨buildRootSpan rt record⟩
  choose! container found is_container using known
  have ids : ((invocationsOf [] run).map container ++
      (leaves run).map (nodeSpanOf rt record times)).map TraceSpan.spanId =
      (invocationsOf [] run).map (deriveNamespaceSpanId rt record.executionId) ++
        (leaves run).map (fun u => deriveChildSpanId rt record.executionId u.2 u.1.nodeKey) := by
    rw [map_append, map_map, map_map]
    congr 1
    exact List.map_congr_left (fun path mem => container_spanId (is_container path mem))
  have nodup : ((invocationsOf [] run).map container ++
      (leaves run).map (nodeSpanOf rt record times)).Nodup := by
    refine List.Nodup.of_map TraceSpan.spanId ?_
    rw [ids]
    exact (List.nodup_cons.mp apart).2.sublist
      (List.Sublist.append_left (List.filter_sublist.map _) _)
  refine ⟨(invocationsOf [] run).map container, ?_, ?_⟩
  · rw [List.forall₂_map_right_iff, List.forall₂_same]
    exact is_container
  · have values_nodup : (foldSpans S ∅).values.Nodup := List.Nodup.of_map TraceSpan.spanId
      (Dict.KeyedBy.nodup_values (foldSpans_keyed Dict.keyedBy_empty))
    refine (List.perm_ext_iff_of_nodup values_nodup nodup).mpr (fun span => ?_)
    rw [Dict.mem_values_iff, List.mem_append]
    constructor
    · rintro ⟨id, there⟩
      obtain ⟨same, ⟨path, here, shown⟩ | ⟨u, here, rfl⟩⟩ := known_of_accounts accounts there
      · rw [← same, container_spanId shown, found path here] at there
        exact .inl (List.mem_map.mpr ⟨path, here, Option.some.inj there⟩)
      · exact .inr (mem_map_of_mem here)
    · rintro (mem | mem)
      · obtain ⟨path, here, rfl⟩ := List.mem_map.mp mem
        exact ⟨_, found path here⟩
      · obtain ⟨u, here, rfl⟩ := List.mem_map.mp mem
        exact ⟨_, node_known told accounts here⟩

end Shallow

theorem totalTokens_known (absent : (knownSpans rt record).get? (rootSpanId rt record) = none)
    (key : String) : totalTokens rt record key (spansById rt record).values =
      ((knownSpans rt record).values.map (attributeInt rt key)).sum := by
  have others : (knownSpans rt record).values.filter
      (fun span => span.spanId ≠ rootSpanId rt record) = (knownSpans rt record).values := by
    rw [List.filter_eq_self]
    intro span mem
    obtain ⟨id, there⟩ := ((knownSpans rt record).mem_values_iff span).mp mem
    have keyed := foldSpans_keyed Dict.keyedBy_empty id span there
    have other : span.spanId ≠ rootSpanId rt record := by
      intro same
      rw [← keyed, same, absent] at there
      cases there
    simpa using other
  unfold totalTokens
  rw [(spansById_headed rt record).values_of_absent absent,
    List.filter_cons_of_neg (by simp [buildRootSpan]), others]

theorem shownOnce_of_shallow (named : Named run) (apart : Apart rt record run)
    (shallow : run.all RunEvent.shallow = true) : ShownOnce rt record times run := by
  have paths : (invocationsOf [] run).Nodup :=
    List.Nodup.of_map _ (List.nodup_append.mp (List.nodup_cons.mp apart).2).1
  obtain ⟨accounts, _⟩ := shallow_accounts rt record times {} shallow
    (fun v mem => named.of_mem mem) (numbered_fst run) paths
    (fun _ _ => rfl) (fun _ => rfl)
  obtain ⟨containers, are, perm⟩ := known_perm apart accounts
  have absent := root_unknown apart.told accounts
  rw [← knownSpans_ran] at perm absent
  have sums (key : String) (kind : key ≠ "orcheo.node.kind")
      (namespace_ : key ≠ "orcheo.node.namespace") :
      totalTokens rt (record.ran times run) key (spansById rt (record.ran times run)).values =
        ((leaves run).map (fun u => attributeInt rt key (nodeSpanOf rt record times u))).sum := by
    rw [totalTokens_known absent, (perm.map _).sum_eq, map_append, List.sum_append,
      containers_tokens are kind namespace_, map_map, Int.zero_add]
    rfl
  refine ⟨⟨containers, are, ?_⟩, ?_, ?_⟩
  · exact (nodeSpans_known rt (record.ran times run)).1.trans perm
  · refine (sums "orcheo.token.input" (by decide) (by decide)).trans ?_
    exact congrArg sum (List.map_congr_left (fun u _ => (tokens_of_node record _ _ _ _).1))
  · refine (sums "orcheo.token.output" (by decide) (by decide)).trans ?_
    exact congrArg sum (List.map_congr_left (fun u _ => (tokens_of_node record _ _ _ _).2))

theorem own_span_of_inner
    (named : ∀ v ∈ us, v.1.nodeKey ≠ namespaceMetadataKey) (mem : u ∈ us) (inner : u.1.path ≠ []) :
    nodeSpanOf rt record times u ∈ spansFrom rt record times tracker us := by
  induction us generalizing tracker with
  | nil => cases mem
  | cons v us ih =>
    rw [spansFrom_cons]
    rcases List.mem_cons.mp mem with rfl | mem
    · refine mem_append_left _ ?_
      rw [buildSpansForStep_stepOf (named u mem_cons_self)]
      dsimp only
      rw [if_pos (.inl inner)]
      exact mem_append_right _ mem_cons_self
    · exact mem_append_right _ (ih (fun v mem => named v (mem_cons_of_mem _ mem)) mem)

theorem aggregate_not_shown (apart : Apart rt record run) (once : ShownOnce rt record times run)
    (mem : u ∈ numbered run) (aggregate : u.1.aggregate = true) :
    nodeSpanOf rt record times u ∉ spansFrom rt record times {} (numbered run) := by
  intro shown
  have told := apart.told
  have known : ((knownSpans rt (record.ran times run)).get?
      (nodeSpanOf rt record times u).spanId).isSome := by
    rw [knownSpans_ran]
    exact foldSpans_known (.inl shown)
  obtain ⟨span, found⟩ := Option.isSome_iff_exists.mp known
  have id : span.spanId = (nodeSpanOf rt record times u).spanId :=
    foldSpans_keyed Dict.keyedBy_empty _ span found
  obtain ⟨containers, are, perm⟩ := once.spans
  have value : span ∈ (knownSpans rt (record.ran times run)).values :=
    (Dict.mem_values_iff _ span).mpr ⟨_, found⟩
  have listed := ((nodeSpans_known rt (record.ran times run)).1.symm.trans perm).subset value
  rcases List.mem_append.mp listed with container | leaf
  · obtain ⟨path, here, is_container⟩ := container_of_mem are container
    rw [container_spanId is_container] at id
    exact told.container_node path here u mem id
  · obtain ⟨v, here, rfl⟩ := List.mem_map.mp leaf
    obtain ⟨among, is_leaf⟩ := List.mem_filter.mp here
    rw [told.node v among u mem id, aggregate] at is_leaf
    cases is_leaf

theorem emittedBy_append (path : Namespace) (events later : List RunEvent) :
    emittedBy path (events ++ later) = emittedBy path events ++ emittedBy path later := by
  induction events with
  | nil => rfl
  | cons event events ih => rw [cons_append, emittedBy, emittedBy, ih, List.append_assoc]

theorem invocationsOf_append (path : Namespace) (events later : List RunEvent) :
    invocationsOf path (events ++ later) =
      invocationsOf path events ++ invocationsOf path later := by
  induction events with
  | nil => rfl
  | cons event events ih =>
    rw [cons_append, invocationsOf, invocationsOf, ih, List.append_assoc]

theorem emitted_of_mem {events : List RunEvent} {event : RunEvent}
    (mem : event ∈ events) {v : NodeUpdate} (there : v ∈ event.emitted path) :
    v ∈ emittedBy path events := by
  obtain ⟨before, after, rfl⟩ := List.append_of_mem mem
  rw [emittedBy_append, emittedBy]
  exact mem_append_right _ (mem_append_left _ there)

theorem bare_aggregate_shown {before after : List RunEvent} {taskId : String}
    {payload : Entries} (events : run = before ++ .subgraph name taskId [] payload :: after)
    (shallow : before.all RunEvent.shallow = true) (named : Named run)
    (apart : Apart rt record run) : ∃ u ∈ numbered run, u.1.aggregate = true ∧
      nodeSpanOf rt record times u ∈ spansFrom rt record times {} (numbered run) := by
  have all := numbered_fst run
  have paths : (invocationsOf [] run).Nodup :=
    List.Nodup.of_map _ (List.nodup_append.mp (List.nodup_cons.mp apart).2).1
  have named_all (v : Numbered) (mem : v ∈ numbered run) := named.of_mem mem
  generalize numbered run = ns at all named_all
  subst events
  rw [emittedBy_append, emittedBy, RunEvent.emitted, emittedBy, nil_append] at all
  obtain ⟨us, rest, rfl, of_before, of_rest⟩ := List.map_eq_append_iff.mp all
  obtain ⟨u, vs, rfl, same, _⟩ := List.map_eq_cons_iff.mp of_rest
  rw [invocationsOf_append] at paths
  obtain ⟨_, idle⟩ := shallow_accounts rt record times {} shallow
    (fun v mem => named_all v (mem_append_left _ mem)) of_before
    (List.nodup_append.mp paths).1 (fun _ _ => rfl) (fun _ => rfl)
  have mem : u ∈ us ++ u :: vs := mem_append_right _ mem_cons_self
  refine ⟨u, mem, by rw [same], ?_⟩
  rw [spansFrom_append, spansFrom_cons, idle_span idle (named_all u mem).2 (by rw [same])]
  exact mem_append_right _ (mem_append_left _ mem_cons_self)

theorem nested_aggregate_shown {event : RunEvent} (mem : event ∈ run) {taskId : String}
    {inner : List RunEvent} {payload : Entries}
    (subgraph : event = .subgraph name taskId inner payload)
    (deep : ¬ inner.all RunEvent.isNode = true) (named : Named run) :
    ∃ u ∈ numbered run, u.1.aggregate = true ∧
      nodeSpanOf rt record times u ∈ spansFrom rt record times {} (numbered run) := by
  obtain ⟨nested, here, not_node⟩ : ∃ x ∈ inner, ¬ x.isNode = true := by
    simpa [List.all_eq_true] using deep
  cases nested with
  | node => exact absurd rfl not_node
  | subgraph name' taskId' inner' payload' =>
    have of_nested : (⟨[segment name taskId], name', payload', true⟩ : NodeUpdate) ∈
        emittedBy [segment name taskId] inner := by
      refine emitted_of_mem here ?_
      rw [RunEvent.emitted]
      exact mem_append_right _ mem_cons_self
    have of_run : (⟨[segment name taskId], name', payload', true⟩ : NodeUpdate) ∈
        emittedBy [] run := by
      refine emitted_of_mem mem ?_
      rw [subgraph, RunEvent.emitted]
      exact mem_append_left _ of_nested
    rw [← numbered_fst] at of_run
    obtain ⟨u, among, same⟩ := List.mem_map.mp of_run
    refine ⟨u, among, by rw [same], ?_⟩
    exact own_span_of_inner (fun v mem => (named.of_mem mem).2) among (by rw [same]; simp)

theorem first_not_shallow (deep : ¬ run.all RunEvent.shallow = true) : ∃ before event after,
    run = before ++ event :: after ∧ before.all RunEvent.shallow = true ∧
      event.shallow = false := by
  induction run with
  | nil => exact absurd rfl deep
  | cons event rest ih =>
    cases here : event.shallow with
    | false => exact ⟨[], event, rest, rfl, rfl, here⟩
    | true =>
      rw [all_cons, here, Bool.true_and] at deep
      obtain ⟨before, e, after, rfl, shallow, found⟩ := ih deep
      exact ⟨event :: before, e, after, rfl, by rw [all_cons, here, shallow]; rfl, found⟩

/-- Everything is shown and counted once if and only if every subgraph is run outside of all others
and has an update of its own. -/
theorem executions_shown_once_iff (named : Named run) (apart : Apart rt record run) :
    ShownOnce rt record times run ↔ run.all RunEvent.shallow = true := by
  constructor
  · intro once
    by_contra deep
    obtain ⟨before, event, after, events, shallow, found⟩ := first_not_shallow deep
    have hidden := fun u mem aggregate => aggregate_not_shown (u := u) apart once mem aggregate
    cases event with
    | node => cases found
    | subgraph name taskId inner payload =>
      by_cases nodes : inner.all RunEvent.isNode = true
      · have empty : inner = [] := by simpa [RunEvent.shallow, nodes] using found
        subst empty
        obtain ⟨u, mem, aggregate, shown⟩ := bare_aggregate_shown events shallow named apart
        exact hidden u mem aggregate shown
      · have mem : RunEvent.subgraph name taskId inner payload ∈ run := by
          rw [events]
          exact mem_append_right _ mem_cons_self
        obtain ⟨u, mem, aggregate, shown⟩ := nested_aggregate_shown mem rfl nodes named
        exact hidden u mem aggregate shown
  · exact shownOnce_of_shallow named apart

def nestedRun : List RunEvent :=
  [.subgraph "outer" "1" [.subgraph "inner" "2" [.node "writer" [("input_tokens", .int 5)]]
    [("input_tokens", .int 5)]] []]

def emptyRecord : RunHistoryRecord where
  workflowId := "workflow"
  executionId := "run"
  startedAt := 0

theorem nested_aggregate_counted_twice : ¬ ∀ (rt : TraceRuntime) (record : RunHistoryRecord)
    (times : Nat → Instant) (run : List RunEvent), Named run → Apart rt record run →
    ShownOnce rt record times run := by
  intro once
  have named : Named nestedRun := by
    unfold Named
    decide
  have apart : Apart .plain emptyRecord nestedRun := by
    unfold Apart
    decide +kernel
  have tokens := (once .plain emptyRecord (fun i => i) nestedRun named apart).inputTokens
  revert tokens
  decide +kernel

def loopedRun : List RunEvent :=
  [.node "start" [], .subgraph "review" "1" [.node "writer" []] [],
    .subgraph "review" "2" [.node "writer" [], .node "reviewer" []] []]

theorem executions_shown_once_iff_looped :
    ShownOnce .plain emptyRecord (fun i => i) loopedRun ↔
      loopedRun.all RunEvent.shallow = true :=
  executions_shown_once_iff (by unfold Named; decide) (by unfold Apart; decide +kernel)

end Orcheo.Traces
