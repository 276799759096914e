import Orcheo.Defs.Repository.HandleIndex
import Orcheo.Defs.Repository.References

/-! In memory and in Postgres a reference resolves alike exactly where one workflow comes first
in both orders. -/

namespace Orcheo.Repository

open Lib (Dict Leads Earliest argmin_eq_some_iff_earliest stagedKey inStages inStages_iff argmin_stagedKey_here argmin_congr argmin_map head?_mergeSort findSome?_argmin
  argmin_of_perm_iff argmin_of_perm_eq_none_iff)

def rowScope (row : WorkflowRow) : Option String := row.2.workspaceId

namespace InMemoryRepositoryState

variable (s : InMemoryRepositoryState)

def memoryKey (row : WorkflowRow) : Nat ×ₗ Int :=
  if row.2.isArchived then toLex (0, 0)
  else toLex (if isDefaultTeamWorkflow s.defaultTeamByWorkspace row.2 then 0 else 1,
    -row.2.updatedAt)

def memoryOrder (workspaceId : Option String) : WorkflowRow → Nat ×ₗ Nat ×ₗ Nat ×ₗ Int :=
  stagedKey (fun row => row.2.isArchived)
    (stagedKey rowScope s.memoryKey (s.scopeKeys workspaceId)) [false, true]

end InMemoryRepositoryState

theorem argmin_const {α : Type} (c : Nat) (l : List α) : l.argmin (fun _ => c) = l.head? := by
  cases l with
  | nil => rfl
  | cons a l =>
    rw [List.argmin_cons]
    cases l.argmin (fun _ => c) with
    | none => rfl
    | some b => simp

theorem head?_sortMatches {workflows : Dict Uuid Workflow} {defaultTeams : Dict String Uuid}
    (ids : List Uuid) : (sortMatches workflows defaultTeams ids).head? =
      ids.argmin (fun x => toLex (activeHandleSortKey workflows defaultTeams x)) := by
  have order : (fun a b : (Nat × Int) × Uuid => sortKeyLe a.1 b.1) =
      fun a b => decide (toLex a.1 ≤ toLex b.1) := by
    funext a b
    rw [sortKeyLe, decide_eq_decide, Prod.Lex.toLex_le_toLex]
  unfold sortMatches
  rw [List.head?_map, order, head?_mergeSort, argmin_map, Option.map_map]
  exact congrFun Option.map_id _

theorem bucket_handleEntries (archived : Bool) (workflows : Dict Uuid Workflow)
    (scope : Option String) (ref : String) :
    (HandleIndex.ofEntries (handleEntries archived workflows)).bucket scope ref =
      ((workflows.entries.filter (fun row =>
        decide (row.2.isArchived = archived ∧ row.2.handle = some ref))).filter
        (fun row => decide (rowScope row = scope))).map Prod.fst := by
  rw [HandleIndex.bucket_ofEntries, handleEntries]
  induction workflows.entries with
  | nil => rfl
  | cons row rows ih =>
    rw [List.filterMap_cons]
    by_cases flag : row.2.isArchived = archived
    · cases handled : row.2.handle with
      | none => simpa [flag, handled] using ih
      | some handle =>
        by_cases same : handle = ref
        · by_cases inScope : row.2.workspaceId = scope
          · simpa [flag, handled, same, rowScope, inScope] using ih
          · simpa [flag, handled, same, rowScope, inScope] using ih
        · simpa [flag, handled, same] using ih
    · simpa [flag] using ih

structure StoredWorkflows (rt : TextRuntime) where
  state : InMemoryRepositoryState
  indexed : (state.activeWorkflowHandles, state.archivedWorkflowHandles) =
    rebuildHandleIndexes state.workflows state.defaultTeamByWorkspace
  workspaces (x : Uuid) (w : Workflow) : state.workflows.get? x = some w →
    state.workflowWorkspaces.get? x = w.workspaceId
  handles (x : Uuid) (w : Workflow) (handle : String) : state.workflows.get? x = some w →
    w.handle = some handle → rt.uuid handle = none

open InMemoryRepositoryState (findInHandleIndex matchesTeam memoryKey memoryOrder rebuilt
  resolveByUuid resolveWorkflowRef storedWithin)

namespace StoredWorkflows

variable {rt : TextRuntime} (st : StoredWorkflows rt)

def index (archived : Bool) : HandleIndex :=
  if archived then st.state.archivedWorkflowHandles else st.state.activeWorkflowHandles

def handled (archived : Bool) (ref : String) : List WorkflowRow :=
  st.state.workflows.entries.filter
    (fun row => decide (row.2.isArchived = archived ∧ row.2.handle = some ref))

variable {st}

theorem get?_of_mem_handled {archived : Bool} {ref : String} {row : WorkflowRow}
    (mem : row ∈ st.handled archived ref) :
    st.state.workflows.get? row.1 = some row.2 ∧ row.2.isArchived = archived := by
  obtain ⟨stored, same⟩ := List.mem_filter.mp mem
  exact ⟨(Dict.get?_eq_some_iff _ _ _).mpr stored, (of_decide_eq_true same).1⟩

theorem head?_bucket (archived : Bool) (scope : Option String) (ref : String) :
    ((st.index archived).bucket scope ref).head? =
      (((st.handled archived ref).filter (fun row => decide (rowScope row = scope))).argmin
        st.state.memoryKey).map Prod.fst := by
  cases archived with
  | true =>
    have index : st.index true = (rebuildHandleIndexes st.state.workflows
        st.state.defaultTeamByWorkspace).2 := congrArg Prod.snd st.indexed
    rw [index, rebuildHandleIndexes, bucket_handleEntries, List.head?_map, ← argmin_const 0]
    congr 1
    apply argmin_congr
    intro a ha b hb
    have archived := (get?_of_mem_handled (List.mem_of_mem_filter ha)).2
    have archived' := (get?_of_mem_handled (List.mem_of_mem_filter hb)).2
    simp [memoryKey, archived, archived']
  | false =>
    have index : st.index false = (rebuildHandleIndexes st.state.workflows
        st.state.defaultTeamByWorkspace).1 := congrArg Prod.fst st.indexed
    rw [index, bucket_rebuildHandleIndexes, head?_sortMatches, activeMatches,
      bucket_handleEntries, argmin_map]
    congr 1
    apply argmin_congr
    intro a ha b hb
    have key (row : WorkflowRow) (mem : row ∈ st.handled false ref) :
        toLex (activeHandleSortKey st.state.workflows st.state.defaultTeamByWorkspace row.1) =
          st.state.memoryKey row := by
      obtain ⟨found, active⟩ := get?_of_mem_handled mem
      rw [activeHandleSortKey, found, memoryKey, active]
      rfl
    rw [Function.comp_apply, Function.comp_apply, key a (List.mem_of_mem_filter ha),
      key b (List.mem_of_mem_filter hb)]

theorem find?_matchesTeam_none (ids : List Uuid) :
    ids.find? (st.state.matchesTeam none) = ids.head? := by
  cases ids with
  | nil => rfl
  | cons x ids => rw [List.find?_cons, matchesTeam, List.head?_cons]

theorem findInHandleIndex_eq (archived : Bool) (scopeKeys : List (Option String)) (ref : String) :
    st.state.findInHandleIndex (st.index archived) scopeKeys ref none =
      (((st.handled archived ref).filter (inStages rowScope scopeKeys)).argmin
        (stagedKey rowScope st.state.memoryKey scopeKeys)).map Prod.fst := by
  rw [← findSome?_argmin, List.map_findSome?]
  unfold findInHandleIndex
  congr 1
  funext scope
  rw [find?_matchesTeam_none, head?_bucket]
  rfl

end StoredWorkflows

def carries (ref : String) (includeArchived : Bool) (row : WorkflowRow) : Bool :=
  decide (row.2.handle = some ref ∧ (includeArchived = true ∨ row.2.isArchived = false))

def within (workspaceId : Option String) (row : WorkflowRow) : Bool :=
  match workspaceId with
  | none => true
  | some workspace => inStages rowScope [some workspace, none] row

theorem within_some {workspace : String} {row : WorkflowRow} :
    within (some workspace) row = true ↔
      row.2.workspaceId = some workspace ∨ row.2.workspaceId = none := by
  rw [within, inStages_iff, List.mem_pair]
  rfl

namespace StoredWorkflows

variable {rt : TextRuntime} (st : StoredWorkflows rt) (ref : String) (q : ReferenceQuery)

def candidates : List WorkflowRow :=
  st.state.workflows.entries.filter
    (fun row => carries ref q.includeArchived row && within q.workspaceId row)

def listed : List WorkflowRow :=
  (st.state.workflows.entries.filter (carries ref q.includeArchived)).filter
    (inStages rowScope (st.state.scopeKeys q.workspaceId))

variable {st ref q}

theorem mem_candidates_of_mem_listed {row : WorkflowRow} (mem : row ∈ st.listed ref q) :
    row ∈ st.candidates ref q := by
  obtain ⟨stored, inScope⟩ := List.mem_filter.mp mem
  obtain ⟨stored, carried⟩ := List.mem_filter.mp stored
  apply List.mem_filter.mpr
  refine ⟨stored, ?_⟩
  rw [carried, Bool.true_and]
  cases workspace : q.workspaceId with
  | none => rfl
  | some _ =>
    rw [workspace] at inScope
    exact inScope

theorem findHandle_eq : (st.state.findInHandleIndex st.state.activeWorkflowHandles
      (st.state.scopeKeys q.workspaceId) ref none).or
      (if q.includeArchived then st.state.findInHandleIndex st.state.archivedWorkflowHandles
        (st.state.scopeKeys q.workspaceId) ref none else none) =
      ((st.listed ref q).argmin (st.state.memoryOrder q.workspaceId)).map Prod.fst := by
  have active := st.findInHandleIndex_eq false (st.state.scopeKeys q.workspaceId) ref
  have archived := st.findInHandleIndex_eq true (st.state.scopeKeys q.workspaceId) ref
  rw [index, if_neg Bool.false_ne_true] at active
  rw [index, if_pos rfl] at archived
  rw [active, archived]
  -- the workflows with the handle in these scopes, archived or not
  let rows := st.state.workflows.entries.filter (fun row =>
    decide (row.2.handle = some ref) && inStages rowScope (st.state.scopeKeys q.workspaceId) row)
  have part (archived : Bool) : (st.handled archived ref).filter
      (inStages rowScope (st.state.scopeKeys q.workspaceId)) =
      rows.filter (fun row => decide (row.2.isArchived = archived)) := by
    rw [handled, List.filter_filter, List.filter_filter]
    apply List.filter_congr
    intro row _
    rw [Bool.decide_and, Bool.and_comm, Bool.and_assoc]
  rw [part, part]
  cases flag : q.includeArchived with
  | false =>
    have listed : st.listed ref q =
        rows.filter (fun row => decide (row.2.isArchived = false)) := by
      rw [StoredWorkflows.listed, List.filter_filter, List.filter_filter]
      apply List.filter_congr
      intro row _
      simp [carries, flag, Bool.and_comm, Bool.and_assoc]
    rw [listed, memoryOrder, argmin_stagedKey_here,
      if_neg Bool.false_ne_true, Option.or_none]
  | true =>
    have listed : st.listed ref q =
        rows.filter (inStages (fun row => row.2.isArchived) [false, true]) := by
      rw [StoredWorkflows.listed, List.filter_filter, List.filter_filter]
      apply List.filter_congr
      intro row _
      simp [carries, flag, inStages, Bool.and_comm]
    rw [listed, memoryOrder, ← findSome?_argmin, if_pos rfl,
      List.findSome?_cons, List.findSome?_cons]
    cases (rows.filter (fun row => decide (row.2.isArchived = false))).argmin
      (stagedKey rowScope st.state.memoryKey (st.state.scopeKeys q.workspaceId)) with
    | some row => rfl
    | none =>
      dsimp only [Option.map_none, Option.none_or]
      cases (rows.filter (fun row => decide (row.2.isArchived = true))).argmin
        (stagedKey rowScope st.state.memoryKey (st.state.scopeKeys q.workspaceId)) with
      | some row => rfl
      | none => rfl

theorem storedWithin_iff {x : Uuid} : st.state.storedWithin q.workspaceId x = true ↔
    ∃ w, st.state.workflows.get? x = some w ∧ within q.workspaceId (x, w) = true := by
  unfold storedWithin
  cases found : st.state.workflows.get? x with
  | none => simp
  | some w =>
    have stored := st.workspaces x w found
    cases workspace : q.workspaceId with
    | none => simp [within]
    | some workspace =>
      rw [stored]
      cases scope : w.workspaceId with
      | none => simp [within_some, scope]
      | some other => simp [within_some, scope]

end StoredWorkflows

namespace WorkflowTables

/-- The kinds of match come first, after the scope where the queries go by scope. -/
def postgresOrder (teams : Dict Uuid Team) (ref : String) (workspaceId : Option String) :
    WorkflowRow → Nat ×ₗ Nat ×ₗ Nat ×ₗ Int :=
  match workspaceId with
  | none => fun row => toLex (0, refOrder ref (fun _ => false) row)
  | some workspace =>
    stagedKey rowScope (refOrder ref (fun w => w.workspaceId.isSome && inDefaultTeam teams w))
      [some workspace, none]

variable {t : WorkflowTables} {rt : ReferenceRuntime} {ref : String} {q : ReferenceQuery}

def asked (rt : ReferenceRuntime) (ref : String) (q : ReferenceQuery) (row : WorkflowRow) : Bool :=
  answers rt ref q.includeArchived row && within q.workspaceId row

theorem resolveLocked_eq (team : q.teamId = none) : t.resolveLocked rt ref q =
    (t.workflows.filter (asked rt ref q)).argmin (postgresOrder t.teams ref q.workspaceId) := by
  unfold resolveLocked
  rw [team]
  cases workspace : q.workspaceId with
  | none =>
    have all : t.workflows.filter (asked rt ref q) =
        t.workflows.filter (answers rt ref q.includeArchived) := by
      apply List.filter_congr
      intro row _
      simp [asked, within, workspace]
    rw [all]
    apply argmin_congr
    intro a _ b _
    simp [postgresOrder, Prod.Lex.toLex_lt_toLex]
  | some workspace' =>
    have both : t.workflows.filter (asked rt ref q) =
        (t.workflows.filter (answers rt ref q.includeArchived)).filter
          (inStages rowScope [some workspace', none]) := by
      rw [List.filter_filter]
      apply List.filter_congr
      intro row _
      rw [asked, workspace, Bool.and_comm]
      rfl
    rw [both, postgresOrder, ← findSome?_argmin]
    show [some workspace', none].findSome? (t.queryScope rt ref q.includeArchived) = _
    congr 1
    funext scope
    rw [queryScope, List.filter_filter]
    apply argmin_congr
    intro a ha b hb
    -- in one scope the join is made for all rows or for none
    have here (row : WorkflowRow) (mem : row ∈ t.workflows.filter (fun row =>
        decide (row.2.workspaceId = scope) && answers rt ref q.includeArchived row)) :
        row.2.workspaceId = scope := by
      have holds := (List.mem_filter.mp mem).2
      rw [Bool.and_eq_true] at holds
      exact of_decide_eq_true holds.1
    rw [refOrder, refOrder, refOrder, refOrder, here a ha, here b hb]

theorem find?_key {rows : List WorkflowRow} (nodup : (rows.map Prod.fst).Nodup)
    {row : WorkflowRow} (mem : row ∈ rows) : rows.find? (fun r => r.1 = row.1) = some row := by
  induction rows with
  | nil => cases mem
  | cons r rows ih =>
    rw [List.map_cons, List.nodup_cons] at nodup
    rw [List.find?_cons]
    cases mem with
    | head => simp
    | tail _ later =>
      have other : r.1 ≠ row.1 := fun same => nodup.1 (same ▸ List.mem_map_of_mem later)
      rw [decide_eq_false other]
      exact ih nodup.2 later

theorem checkWorkspace_ok {row : WorkflowRow} (nodup : (t.workflows.map Prod.fst).Nodup)
    (mem : row ∈ t.workflows) (inScope : within q.workspaceId row = true) :
    t.checkWorkspace q.workspaceId row.1 = .ok row.1 := by
  have stored : t.workspaceOf row.1 = row.2.workspaceId := by
    rw [workspaceOf, find?_key nodup mem]
    rfl
  unfold checkWorkspace
  rw [stored]
  cases workspace : q.workspaceId with
  | none => rfl
  | some workspace' =>
    rw [workspace, within_some] at inScope
    cases scope : row.2.workspaceId with
    | none => rfl
    | some other =>
      have same : other = workspace' := by simpa [scope] using inScope
      dsimp only
      rw [if_neg (not_not_intro same)]

theorem resolveWorkflowRef_eq (present : normalizeRef rt.toTextRuntime q.workflowRef = ref)
    (nonempty : ref ≠ "") (team : q.teamId = none) (nodup : (t.workflows.map Prod.fst).Nodup) :
    t.resolveWorkflowRef rt q = orNotFound (((t.workflows.filter (asked rt ref q)).argmin
      (postgresOrder t.teams ref q.workspaceId)).map Prod.fst) := by
  unfold resolveWorkflowRef
  dsimp only
  rw [present, if_neg nonempty, resolveLocked_eq team]
  cases chosen : (t.workflows.filter (asked rt ref q)).argmin
    (postgresOrder t.teams ref q.workspaceId) with
  | none => rfl
  | some row =>
    obtain ⟨stored, wanted⟩ := List.mem_filter.mp (List.argmin_mem chosen)
    rw [asked, Bool.and_eq_true] at wanted
    exact checkWorkspace_ok nodup stored wanted.2

end WorkflowTables

open WorkflowTables (postgresOrder asked answers)

structure SameWorkflows (s : InMemoryRepositoryState) (t : WorkflowTables) : Prop where
  workflows : t.workflows.Perm s.workflows.entries
  teams : t.teams = s.teams

def ofRef (workflowRef : String) (includeArchived : Bool) (workspaceId : Option String) :
    ReferenceQuery :=
  { workflowRef := workflowRef, includeArchived := includeArchived, workspaceId := workspaceId }

namespace StoredWorkflows

variable {rt : ReferenceRuntime} (st : StoredWorkflows rt.toTextRuntime) (ref : String)
  (q : ReferenceQuery)

def HandleAgrees : Prop :=
  st.candidates ref q = [] ∨ ∃ row,
    Leads (postgresOrder st.state.teams ref q.workspaceId) (st.candidates ref q)
      row ∧
    Earliest (st.state.memoryOrder q.workspaceId) (st.listed ref q) row

def IdentifierAgrees (x : Uuid) : Prop :=
  st.state.storedWithin q.workspaceId x = true → rt.text x = ref

def Agrees : Prop :=
  match rt.uuid ref with
  | some x => st.IdentifierAgrees ref q x
  | none => st.HandleAgrees ref q

variable {st ref q} {t : WorkflowTables}

variable {row : WorkflowRow} {x : Uuid}

theorem not_carries (shaped : rt.uuid ref = some x) (stored : row ∈ st.state.workflows.entries) :
    carries ref q.includeArchived row = false := by
  cases carried : carries ref q.includeArchived row with
  | false => rfl
  | true =>
    have handled := (of_decide_eq_true carried).1
    have plain := st.handles row.1 row.2 ref ((Dict.get?_eq_some_iff _ _ _).mpr stored) handled
    rw [shaped] at plain
    cases plain

theorem resolveByUuid_eq (team : q.teamId = none) :
    st.state.resolveByUuid rt.toTextRuntime ref q.workspaceId q.teamId =
      (rt.uuid ref).filter (st.state.storedWithin q.workspaceId) := by
  rw [resolveByUuid, team]
  rfl

theorem resolveWorkflowRef_eq (present : normalizeRef rt.toTextRuntime q.workflowRef = ref)
    (nonempty : ref ≠ "") (team : q.teamId = none) :
    st.state.resolveWorkflowRef rt.toTextRuntime q =
      orNotFound ((((st.listed ref q).argmin (st.state.memoryOrder q.workspaceId)).map
        Prod.fst).or ((rt.uuid ref).filter (st.state.storedWithin q.workspaceId))) := by
  unfold resolveWorkflowRef
  dsimp only
  rw [present, if_neg nonempty, resolveByUuid_eq team, team, ← Option.or_assoc, findHandle_eq]

theorem row_ext {r r' : WorkflowRow} (stored : r ∈ st.state.workflows.entries)
    (stored' : r' ∈ st.state.workflows.entries) (same : r.1 = r'.1) : r = r' := by
  have found := (Dict.get?_eq_some_iff _ _ _).mpr stored
  have found' := (Dict.get?_eq_some_iff _ _ _).mpr stored'
  rw [same] at found
  exact Prod.ext same (Option.some.inj (found.symm.trans found'))

theorem listed_argmin_iff :
    (st.listed ref q).argmin (st.state.memoryOrder q.workspaceId) = some row ↔
      Earliest (st.state.memoryOrder q.workspaceId) (st.listed ref q) row :=
  argmin_eq_some_iff_earliest

theorem handleAgrees_iff : (∀ rows : List WorkflowRow, rows.Perm st.state.workflows.entries →
      ((rows.filter (fun row => carries ref q.includeArchived row &&
        within q.workspaceId row)).argmin
          (postgresOrder st.state.teams ref q.workspaceId)).map Prod.fst =
        ((st.listed ref q).argmin (st.state.memoryOrder q.workspaceId)).map Prod.fst) ↔
      st.HandleAgrees ref q := by
  cases chosen : (st.listed ref q).argmin (st.state.memoryOrder q.workspaceId) with
  | none =>
    have nobody (row : WorkflowRow) :
        ¬ Earliest (st.state.memoryOrder q.workspaceId) (st.listed ref q) row := by
      intro first
      rw [← listed_argmin_iff, chosen] at first
      cases first
    simp only [Option.map_none, Option.map_eq_none_iff]
    rw [argmin_of_perm_eq_none_iff]
    constructor
    · intro empty
      exact Or.inl empty
    · intro agrees
      cases agrees with
      | inl empty => exact empty
      | inr first =>
        obtain ⟨row, _, first⟩ := first
        exact absurd first (nobody row)
  | some row =>
    have first := listed_argmin_iff.mp chosen
    have mem : row ∈ st.candidates ref q := mem_candidates_of_mem_listed first.1
    have leads := argmin_of_perm_iff
      (postgresOrder st.state.teams ref q.workspaceId)
      (fun row => carries ref q.includeArchived row && within q.workspaceId row)
      st.state.workflows.entries row
    trans Leads (postgresOrder st.state.teams ref q.workspaceId)
      (st.candidates ref q) row
    · rw [candidates, ← leads]
      apply forall₂_congr
      intro rows perm
      constructor
      · intro same
        rw [Option.map_some, Option.map_eq_some_iff] at same
        obtain ⟨row', least, same⟩ := same
        have stored' := perm.mem_iff.mp (List.mem_of_mem_filter (List.argmin_mem least))
        rw [least, row_ext stored' (List.mem_of_mem_filter mem) same]
      · intro least
        rw [least]
    · constructor
      · intro leads
        exact Or.inr ⟨row, leads, first⟩
      · intro agrees
        cases agrees with
        | inl empty =>
          rw [empty] at mem
          cases mem
        | inr both =>
          obtain ⟨row', leads, first'⟩ := both
          have same := listed_argmin_iff.mpr first'
          rw [chosen] at same
          exact Option.some.inj same ▸ leads

section

variable (shaped : rt.uuid ref = some x)
include shaped

theorem listed_eq_nil : st.listed ref q = [] := by
  have nobody : st.state.workflows.entries.filter (carries ref q.includeArchived) = [] := by
    rw [List.filter_eq_nil_iff]
    intro row stored
    rw [not_carries shaped stored]
    exact Bool.false_ne_true
  rw [listed, nobody]
  rfl

theorem asked_iff (stored : row ∈ st.state.workflows.entries) :
    asked rt ref q row = true ↔
      rt.text row.1 = ref ∧ within q.workspaceId row = true := by
  have plain := not_carries (q := q) shaped stored
  rw [carries] at plain
  rw [asked, answers, plain, shaped]
  simp

theorem argmin_asked {rows : List WorkflowRow} (perm : rows.Perm st.state.workflows.entries) :
    ((rows.filter (asked rt ref q)).argmin
      (postgresOrder st.state.teams ref q.workspaceId)).map Prod.fst =
      if rt.text x = ref ∧ st.state.storedWithin q.workspaceId x = true then some x else none := by
  cases chosen : (rows.filter (asked rt ref q)).argmin
    (postgresOrder st.state.teams ref q.workspaceId) with
  | none =>
    rw [if_neg]
    · rfl
    · rintro ⟨canonical, visible⟩
      obtain ⟨w, found, inScope⟩ := storedWithin_iff.mp visible
      have stored := (Dict.get?_eq_some_iff _ _ _).mp found
      have mem : (x, w) ∈ rows.filter (asked rt ref q) :=
        List.mem_filter.mpr ⟨perm.mem_iff.mpr stored,
          (asked_iff shaped stored).mpr ⟨canonical, inScope⟩⟩
      rw [List.argmin_eq_none.mp chosen] at mem
      cases mem
  | some row =>
    obtain ⟨mem, wanted⟩ := List.mem_filter.mp (List.argmin_mem chosen)
    have stored := perm.mem_iff.mp mem
    obtain ⟨canonical, inScope⟩ := (asked_iff shaped stored).mp wanted
    have same : row.1 = x := by
      have reads := rt.uuid_text row.1
      rw [canonical, shaped] at reads
      exact (Option.some.inj reads).symm
    rw [if_pos]
    · rw [← same]
      rfl
    · rw [← same, storedWithin_iff]
      exact ⟨canonical, row.2, (Dict.get?_eq_some_iff _ _ _).mpr stored, inScope⟩

theorem identifierAgrees_iff : (∀ rows : List WorkflowRow, rows.Perm st.state.workflows.entries →
      ((rows.filter (asked rt ref q)).argmin
        (postgresOrder st.state.teams ref q.workspaceId)).map Prod.fst =
        (some x).filter (st.state.storedWithin q.workspaceId)) ↔ st.IdentifierAgrees ref q x := by
  constructor
  · intro alike visible
    have here := alike _ (List.Perm.refl _)
    rw [argmin_asked shaped (List.Perm.refl _), Option.filter_some, if_pos visible] at here
    split at here
    case isTrue both => exact both.1
    case isFalse => cases here
  · intro agrees rows perm
    rw [argmin_asked shaped perm, Option.filter_some]
    cases visible : st.state.storedWithin q.workspaceId x with
    | true => simp [agrees visible]
    | false => simp

end

theorem orNotFound_inj {x y : Option Uuid} : orNotFound x = orNotFound y ↔ x = y := by
  constructor
  · intro same
    cases x with
    | none => cases y with
      | none => rfl
      | some y => cases same
    | some x => cases y with
      | none => cases same
      | some y => exact congrArg some (Except.ok.inj same)
  · intro same
    rw [same]

theorem forall_sameWorkflows_iff {p : WorkflowTables → Prop} :
    (∀ t, SameWorkflows st.state t → p t) ↔
      ∀ rows : List WorkflowRow, rows.Perm st.state.workflows.entries →
        p ⟨rows, st.state.teams⟩ := by
  constructor
  · intro all rows perm
    exact all _ ⟨perm, rfl⟩
  · rintro all ⟨rows, teams⟩ ⟨perm, same⟩
    dsimp only at perm same
    rw [same]
    exact all rows perm

theorem agrees_iff (present : normalizeRef rt.toTextRuntime q.workflowRef = ref)
    (nonempty : ref ≠ "") (team : q.teamId = none) :
    (∀ t : WorkflowTables, SameWorkflows st.state t →
      t.resolveWorkflowRef rt q = st.state.resolveWorkflowRef rt.toTextRuntime q) ↔
      st.Agrees ref q := by
  have options : (∀ t : WorkflowTables, SameWorkflows st.state t →
      t.resolveWorkflowRef rt q = st.state.resolveWorkflowRef rt.toTextRuntime q) ↔
      ∀ rows : List WorkflowRow, rows.Perm st.state.workflows.entries →
        ((rows.filter (asked rt ref q)).argmin
          (postgresOrder st.state.teams ref q.workspaceId)).map Prod.fst =
          (((st.listed ref q).argmin (st.state.memoryOrder q.workspaceId)).map Prod.fst).or
            ((rt.uuid ref).filter (st.state.storedWithin q.workspaceId)) := by
    rw [forall_sameWorkflows_iff, resolveWorkflowRef_eq present nonempty team]
    apply forall₂_congr
    intro rows perm
    have nodup : (rows.map Prod.fst).Nodup :=
      (perm.map Prod.fst).nodup_iff.mpr st.state.workflows.nodup
    rw [WorkflowTables.resolveWorkflowRef_eq present nonempty team nodup, orNotFound_inj]
  rw [options, Agrees]
  cases shaped : rt.uuid ref with
  | some x =>
    simp only [listed_eq_nil shaped, List.argmin_nil, Option.map_none, Option.none_or]
    exact identifierAgrees_iff shaped
  | none =>
    have asked (row : WorkflowRow) : asked rt ref q row =
        (carries ref q.includeArchived row && within q.workspaceId row) := by
      rw [asked, answers, shaped, carries]
      simp
    simp only [funext asked, Option.filter_none, Option.or_none]
    exact handleAgrees_iff

/-- The two stores resolve a reference alike exactly where no workflow is meant or the same
one is. -/
theorem references_resolve_alike (rt : ReferenceRuntime) (st : StoredWorkflows rt.toTextRuntime)
    (workflowRef : String) (includeArchived : Bool) (workspaceId : Option String) :
    (∀ t : WorkflowTables, SameWorkflows st.state t →
      t.resolveWorkflowRef rt (ofRef workflowRef includeArchived workspaceId) =
        st.state.resolveWorkflowRef rt.toTextRuntime
          (ofRef workflowRef includeArchived workspaceId)) ↔
      (normalizeRef rt.toTextRuntime workflowRef = "" ∨
        st.Agrees (normalizeRef rt.toTextRuntime workflowRef)
          (ofRef workflowRef includeArchived workspaceId)) := by
  by_cases empty : normalizeRef rt.toTextRuntime workflowRef = ""
  · constructor
    · intro _
      exact Or.inl empty
    · intro _ t _
      trans Except.error WorkflowError.notFound
      · exact if_pos empty
      · exact (if_pos empty).symm
  · rw [or_iff_right empty]
    exact agrees_iff rfl empty rfl

def archivedTwin : StoredWorkflows ReferenceRuntime.ascii.toTextRuntime where
  state := rebuilt {
    workflows := (Dict.set ∅ 1 {
      name := "flow", handle := some "flow", workspaceId := some "acme", isArchived := true,
      updatedAt := 0 }).set 2 { name := "flow", handle := some "flow", updatedAt := 0 }
    workflowWorkspaces := Dict.set ∅ 1 "acme" }
  indexed := rfl
  workspaces := by
    intro x w found
    rw [rebuilt] at found
    obtain ⟨same, rfl⟩ | ⟨-, found⟩ := Dict.of_get?_set found
    · rw [same]
      rfl
    · rw [Dict.get?_set] at found
      split at found
      case isTrue same =>
        cases found
        rw [same]
        rfl
      case isFalse => cases found
  handles := by
    intro x w handle found handled
    rw [rebuilt] at found
    obtain ⟨-, rfl⟩ | ⟨-, found⟩ := Dict.of_get?_set found
    · cases handled
      decide
    · rw [Dict.get?_set] at found
      split at found
      case isTrue =>
        cases found
        cases handled
        decide
      case isFalse => cases found

theorem references_diverge : ¬ ∀ (rt : ReferenceRuntime) (st : StoredWorkflows rt.toTextRuntime)
    (workflowRef : String) (includeArchived : Bool) (workspaceId : Option String)
    (t : WorkflowTables), SameWorkflows st.state t →
      t.resolveWorkflowRef rt (ofRef workflowRef includeArchived workspaceId) =
        st.state.resolveWorkflowRef rt.toTextRuntime
          (ofRef workflowRef includeArchived workspaceId) := by
  intro alike
  have same := alike .ascii archivedTwin "flow" true (some "acme")
    ⟨archivedTwin.state.workflows.entries, ∅⟩ ⟨List.Perm.refl _, rfl⟩
  have inMemory : archivedTwin.state.resolveWorkflowRef ReferenceRuntime.ascii.toTextRuntime
      (ofRef "flow" true (some "acme")) = .ok 2 := by
    rw [resolveWorkflowRef_eq rfl (by decide) rfl]
    decide
  rw [inMemory] at same
  exact absurd same (by decide)

end StoredWorkflows

end Orcheo.Repository
