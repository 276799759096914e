import Orcheo.Defs.Vault.Updates

/-! Secrets, tokens and names of credentials while several processes work on one vault. -/

namespace Orcheo.Vault

open Lib (Access Always AllSteps Dict Event Server)
open CredentialMetadata (encryption oauthTokens)
open CredentialRequest (rotates refreshes program)

abbrev VaultServer :=
  Server VaultStore CredentialRequest VaultOp.Answer (Except VaultError CredentialReply)

abbrev VaultEvent := Event VaultOp.Answer

abbrev VaultTurn := Lib.Turn CredentialRequest

def rows : Access VaultEvent Uuid CredentialMetadata where
  caller e := e.caller
  reads
    | ⟨⟨.loadMetadata credentialId, .ok (m : CredentialMetadata)⟩, _⟩ => some (credentialId, m)
    | _ => none
  writes
    | ⟨⟨.upsertMetadata m, .ok _⟩, _⟩ => some (m.id, m)
    | _ => none
  apart := by
    rintro ⟨⟨op, answer⟩, i⟩ reads
    cases op with
    | upsertMetadata => cases reads
    | _ => rfl

namespace VaultStore

def aspect? {A : Type} (aspect : CredentialMetadata → A) (s : VaultStore) (id : Uuid) : Option A :=
  (s.credentials.get? id).map (fun row => aspect row.payload)

def UniqueNames (rt : StorageRuntime) (s : VaultStore) : Prop :=
  ∀ id id' row row', s.credentials.get? id = some row → s.credentials.get? id' = some row' →
    row.workspaceId = row'.workspaceId →
    rt.lowerSql row.payload.name = rt.lowerSql row'.payload.name → id = id'

def Filed (s : VaultStore) : Prop :=
  ∀ id row, s.credentials.get? id = some row → row.payload.id = id ∧
    row.payload.workspaceId.or row.workspaceId = row.workspaceId

end VaultStore

def BroughtBy {A : Type} [DecidableEq A] (aspect : CredentialMetadata → A)
    (brings : CredentialRequest → Bool) (s : VaultServer) : Prop :=
  ∀ newer e older, s.trace = newer ++ e :: older → (rows.changed aspect e older).isSome →
    ∃ t, s.threads[e.caller]? = some t ∧ brings t.request = true

structure LastBrought {A : Type} [DecidableEq A] (aspect : CredentialMetadata → A)
    (brings : CredentialRequest → Bool) (s₀ : VaultStore) (s : VaultServer) : Prop where
  last : ∀ id, s.store.aspect? aspect id = rows.standing aspect (s₀.aspect? aspect) id s.trace
  brought : BroughtBy aspect brings s

/-- Secrets are those of the last rotations, tokens those of the last refreshes, and names are
unique. -/
structure NoLostUpdate (rt : StorageRuntime) (s₀ : VaultStore) (s : VaultServer) : Prop where
  secrets : LastBrought encryption rotates s₀ s
  tokens : LastBrought oauthTokens refreshes s₀ s
  names : s.store.UniqueNames rt

def claims (rt : StorageRuntime) (m : CredentialMetadata) (e : VaultEvent) : Bool :=
  (rows.writes e).any (fun w => w.1 ≠ m.id && w.2.workspaceId = m.workspaceId &&
    rt.lowerSql w.2.name = rt.lowerSql m.name)

def unclaimed (rt : StorageRuntime) (i : Nat) (m : CredentialMetadata) : List VaultEvent → Bool
  | [] => true
  | e :: older => e.caller = i && e.op = .selectDuplicates m.name m.workspaceId ||
    !claims rt m e && unclaimed rt i m older

def upToDate {A : Type} [DecidableEq A] (aspect : CredentialMetadata → A) (i : Nat)
    (m : CredentialMetadata) (trace : List VaultEvent) : Bool :=
  (rows.latestRead i m.id trace).map aspect ≠ some (aspect m) || rows.unchanged aspect i m.id trace

/-- Nothing that a write relies on has happened between its statements. -/
def writesCurrent (rt : StorageRuntime) (s : VaultServer) : VaultTurn → Bool
  | .begin _ => true
  | .advance i => match s.threads[i]? with
    | some ⟨_, _, .ask (.upsertMetadata m) _⟩ =>
      upToDate encryption i m s.trace &&
      upToDate oauthTokens i m s.trace && unclaimed rt i m s.trace
    | _ => true

def createsFresh (s : VaultServer) : VaultTurn → Bool
  | .begin _ => true
  | .advance i => match s.threads[i]? with
    | some ⟨.createCredential _, _, .ask (.upsertMetadata m) _⟩ =>
      !s.store.credentials.contains m.id
    | _ => true

open VaultStore (aspect? exec loadMetadata removeTemplate selectDuplicates upsertAlert
  upsertMetadata upsertTemplate)

def vaultStep (rt : StorageRuntime) (cipher : CredentialCipher) : VaultServer → VaultTurn →
    VaultServer :=
  Server.step (exec rt .postgres) (program rt.toVaultRuntime cipher)

variable {rt : StorageRuntime} {cipher : CredentialCipher} {A : Type} [DecidableEq A]
  {aspect : CredentialMetadata → A} {brings : CredentialRequest → Bool} {s₀ : VaultStore}
  {s : VaultServer} {i : Nat} {r : CredentialRequest} {past : VaultPast} {op : VaultOp}
  {next : op.Answer → VaultCall CredentialReply} {m : CredentialMetadata} {id : Uuid}
  {e : VaultEvent} {trace : List VaultEvent}

def CredentialRow.of (m : CredentialMetadata) : CredentialRow := ⟨m.workspaceId, m⟩

theorem exec_of_reading {b : Backend} {store : VaultStore} (reading : op.Reading) :
    (store.exec rt b op).2.credentials = store.credentials := by
  cases op with
  | upsertMetadata | removeCredential => cases reading
  | upsertTemplate template =>
    show (store.upsertTemplate rt b template).2.credentials = _
    unfold upsertTemplate
    cases b with
    | inMemory => rfl
    | postgres =>
      dsimp only
      split <;> rfl
  | removeTemplate templateId =>
    show (store.removeTemplate templateId).2.credentials = _
    unfold removeTemplate
    split <;> rfl
  | upsertAlert alert =>
    show (store.upsertAlert rt b alert).2.credentials = _
    unfold upsertAlert
    split <;> rfl
  | _ => rfl

theorem writes_of_reading {answer : op.Answer} (reading : op.Reading) :
    rows.writes ⟨⟨op, answer⟩, i⟩ = none := by
  cases op with
  | upsertMetadata | removeCredential => cases reading
  | _ => rfl

theorem reads_exec {store : VaultStore} {k : Uuid}
    (reads : rows.reads ⟨⟨op, (store.exec rt .postgres op).1⟩, i⟩ = some (k, m)) :
    ∃ row, store.credentials.get? k = some row ∧ row.metadata = m := by
  cases op with
  | loadMetadata credentialId =>
    change rows.reads ⟨⟨.loadMetadata credentialId, store.loadMetadata credentialId⟩, i⟩ = _
      at reads
    unfold loadMetadata at reads
    split at reads
    next => cases reads
    next row found =>
      cases reads
      exact ⟨row, found, rfl⟩
  | _ => cases reads

variable {ids : List Uuid}

theorem selected_of_event {store : VaultStore} {name : String} {workspaceId : Option String} {j : Nat}
    (event : (⟨⟨op, (store.exec rt .postgres op).1⟩, i⟩ : VaultEvent) =
      ⟨⟨.selectDuplicates name workspaceId, .ok ids⟩, j⟩) :
    store.selectDuplicates rt .postgres name workspaceId = .ok ids := by
  generalize answered : (store.exec rt .postgres op).1 = answer at event
  cases event
  exact answered

theorem mem_of_selected {store : VaultStore} {name : String} {workspaceId : Option String} {row : CredentialRow}
    (selected : store.selectDuplicates rt .postgres name workspaceId = .ok ids)
    (found : store.credentials.get? id = some row)
    (sameName : rt.lowerSql row.payload.name = rt.lowerSql name)
    (sameWorkspace : row.workspaceId = workspaceId) : id ∈ ids := by
  unfold selectDuplicates at selected
  dsimp only at selected
  split at selected
  · cases selected
  · cases selected
    rw [List.mem_map]
    refine ⟨(id, row), ?_, rfl⟩
    rw [List.mem_filter]
    refine ⟨(Dict.get?_eq_some_iff _ _ _).mp found, ?_⟩
    simp [sameName, sameWorkspace]

theorem latestRead_eq (i : Nat) (id : Uuid) (trace : List VaultEvent) :
    rows.latestRead i id trace =
      (Server.asked i trace).findSome? (fun a => rows.readBy i id ⟨a, i⟩) := by
  induction trace with
  | nil => rfl
  | cons e older ih =>
    unfold Server.asked at ih ⊢
    rw [Access.latestRead, ih, List.filterMap_cons]
    obtain ⟨a, j⟩ := e
    by_cases here : j = i
    · subst here
      rw [if_pos rfl, List.findSome?_cons]
      cases rows.readBy j id ⟨a, j⟩ <;> rfl
    · rw [if_neg here]
      have other : rows.readBy i id ⟨a, j⟩ = none := by
        cases read : rows.readBy i id ⟨a, j⟩ with
        | none => rfl
        | some m => exact absurd (Access.readBy_iff.mp read).2 here
      rw [other, Option.none_or]

theorem WritesBack.looked (back : WritesBack rt.toVaultRuntime cipher r past m) :
    ∃ (ids : List Uuid) (rest : VaultPast), (∀ id ∈ ids, id = m.id) ∧
      past = ⟨.selectDuplicates m.name m.workspaceId, .ok ids⟩ :: rest := by
  cases back with
  | created new kind ids own => exact ⟨ids, [], own, rfl⟩
  | modified =>
    rename_i ids own keeps
    exact ⟨ids, _, own, rfl⟩

theorem latestRead_of_modified {read : CredentialMetadata}
    (asked : Server.asked i trace = ⟨.selectDuplicates m.name m.workspaceId, .ok ids⟩ ::
      ⟨.loadMetadata m.id, .ok read⟩ :: past) : rows.latestRead i m.id trace = some read := by
  rw [latestRead_eq, asked]
  have here : rows.readBy i m.id ⟨⟨.loadMetadata m.id, .ok read⟩, i⟩ = some read :=
    Access.readBy_iff.mpr ⟨rfl, rfl⟩
  have before : rows.readBy i m.id ⟨⟨.selectDuplicates m.name m.workspaceId, .ok ids⟩, i⟩ = none :=
    rfl
  rw [List.findSome?_cons, before, List.findSome?_cons, here]

theorem looked_of_unclaimed
    (asked : Server.asked i trace = ⟨.selectDuplicates m.name m.workspaceId, .ok ids⟩ :: past)
    (free : unclaimed rt i m trace = true) : ∃ newer older,
      trace = newer ++ ⟨⟨.selectDuplicates m.name m.workspaceId, .ok ids⟩, i⟩ :: older ∧
      ∀ e ∈ newer, claims rt m e = false := by
  induction trace with
  | nil => cases asked
  | cons e older ih =>
    obtain ⟨a, j⟩ := e
    unfold Server.asked at asked ih
    rw [List.filterMap_cons] at asked
    by_cases here : j = i
    · subst here
      rw [if_pos rfl] at asked
      have head : a = ⟨.selectDuplicates m.name m.workspaceId, .ok ids⟩ := (List.cons.inj asked).1
      subst head
      refine ⟨[], older, rfl, ?_⟩
      intro e mem
      cases mem
    · rw [if_neg here] at asked
      rw [unclaimed, Bool.or_eq_true, Bool.and_eq_true, Bool.and_eq_true] at free
      cases free with
      | inl looked => exact absurd (of_decide_eq_true looked.1) here
      | inr free =>
        obtain ⟨newer, older', split, unclaimed⟩ := ih asked free.2
        refine ⟨⟨a, j⟩ :: newer, older', by rw [split]; rfl, ?_⟩
        intro e mem
        cases List.mem_cons.mp mem with
        | inl new =>
          rw [new]
          simpa using free.1
        | inr old => exact unclaimed e old

/-- What was found when a name was looked for still tells which credentials have it, but for those
that were given it since. -/
def Looked (rt : StorageRuntime) (s : VaultServer) : Prop :=
  ∀ newer i older name workspaceId (ids : List Uuid), s.trace =
    newer ++ ⟨⟨.selectDuplicates name workspaceId, .ok ids⟩, i⟩ :: older →
  ∀ id row, s.store.credentials.get? id = some row →
    rt.lowerSql row.payload.name = rt.lowerSql name → row.workspaceId = workspaceId →
    id ∈ ids ∨ ∃ e ∈ newer, ∃ m, rows.writes e = some (id, m) ∧ row = CredentialRow.of m

def Placed (s : VaultServer) : Prop :=
  ∀ e ∈ s.trace, ∀ id m, rows.reads e = some (id, m) →
    ∃ row, s.store.credentials.get? id = some row ∧ row.workspaceId = m.workspaceId

structure VaultInvariant (rt : StorageRuntime) (s₀ : VaultStore) (s : VaultServer) : Prop where
  order : Server.InOrder s
  filed : s.store.Filed
  placed : Placed s
  looked : Looked rt s
  names : s.store.UniqueNames rt
  secrets : rows.Stands encryption (s₀.aspect? encryption)
    (s.store.aspect? encryption) s.trace
  tokens : rows.Stands oauthTokens (s₀.aspect? oauthTokens)
    (s.store.aspect? oauthTokens) s.trace
  rotated : BroughtBy encryption rotates s
  refreshed : BroughtBy oauthTokens refreshes s
theorem VaultInvariant.noLostUpdate (inv : VaultInvariant rt s₀ s) : NoLostUpdate rt s₀ s where
  secrets := ⟨inv.secrets.now, inv.rotated⟩
  tokens := ⟨inv.tokens.now, inv.refreshed⟩
  names := inv.names

theorem invariant_fresh (filed : s₀.Filed) (names : s₀.UniqueNames rt) :
    VaultInvariant rt s₀ ({ store := s₀ } : VaultServer) where
  order := Server.inOrder_fresh
  filed := filed
  placed := by
    intro e mem
    cases mem
  looked := by
    intro newer i older name workspaceId ids split
    have := congrArg List.length split
    simp at this
  names := names
  secrets := Access.stands_nil
  tokens := Access.stands_nil
  rotated := by
    intro newer e older split
    have := congrArg List.length split
    simp at this
  refreshed := by
    intro newer e older split
    have := congrArg List.length split
    simp at this

theorem broughtBy_started (brought : BroughtBy aspect brings s) :
    BroughtBy aspect brings (s.started (program rt.toVaultRuntime cipher) r) := by
  intro newer e older split changes
  obtain ⟨t, there, brings⟩ := brought newer e older split changes
  exact ⟨t, Server.started_of_there there, brings⟩

theorem VaultInvariant.started (inv : VaultInvariant rt s₀ s) : VaultInvariant rt s₀
    (s.started (program rt.toVaultRuntime cipher) r) where
  order := inv.order.started
  filed := inv.filed
  placed := inv.placed
  looked := inv.looked
  names := inv.names
  secrets := inv.secrets
  tokens := inv.tokens
  rotated := broughtBy_started inv.rotated
  refreshed := broughtBy_started inv.refreshed

theorem broughtBy_answered (there : s.threads[i]? = some ⟨r, past, .ask op next⟩)
    (brought : BroughtBy aspect brings s)
    (new : (rows.changed aspect ⟨⟨op, (s.store.exec rt .postgres op).1⟩, i⟩ s.trace).isSome →
      brings r = true) :
    BroughtBy aspect brings (s.answered (exec rt .postgres) i r past op next) := by
  intro newer e older split changes
  cases newer with
  | nil =>
    cases split
    obtain ⟨t, found, same⟩ := Server.answered_of_there (exec rt .postgres) there there
    refine ⟨t, found, ?_⟩
    rw [same]
    exact new changes
  | cons e' newer =>
    obtain ⟨t, found, brings⟩ := brought newer e older (List.cons.inj split).2 changes
    obtain ⟨t', found', same⟩ :=
      Server.answered_of_there (exec rt .postgres) there found
    refine ⟨t', found', ?_⟩
    rw [same]
    exact brings

omit [DecidableEq A] in
theorem aspect_of_read {k : Uuid}
    (stable : ∀ row : CredentialRow, aspect row.metadata = aspect row.payload)
    (reads : rows.reads ⟨⟨op, (s.store.exec rt .postgres op).1⟩, i⟩ = some (k, m)) :
    s.store.aspect? aspect k = some (aspect m) := by
  obtain ⟨row, found, same⟩ := reads_exec reads
  unfold aspect?
  rw [found, ← same, stable]
  rfl

theorem not_changed_of_quiet (quiet : rows.writes e = none) :
    ¬(rows.changed aspect e trace).isSome := by
  simp [Access.changed, quiet]

theorem VaultInvariant.quiet (inv : VaultInvariant rt s₀ s)
    (there : s.threads[i]? = some ⟨r, past, .ask op next⟩)
    (same : (s.store.exec rt .postgres op).2.credentials = s.store.credentials)
    (quiet : rows.writes ⟨⟨op, (s.store.exec rt .postgres op).1⟩, i⟩ = none) :
    VaultInvariant rt s₀ (s.answered (exec rt .postgres) i r past op next) := by
  have stands {B : Type} [DecidableEq B] {aspect : CredentialMetadata → B}
      (stable : ∀ row : CredentialRow, aspect row.metadata = aspect row.payload)
      (before : rows.Stands aspect (s₀.aspect? aspect) (s.store.aspect? aspect) s.trace) :
      rows.Stands aspect (s₀.aspect? aspect)
        ((s.store.exec rt .postgres op).2.aspect? aspect)
        (⟨⟨op, (s.store.exec rt .postgres op).1⟩, i⟩ :: s.trace) := by
    have kept : (s.store.exec rt .postgres op).2.aspect? aspect = s.store.aspect? aspect := by
      funext id
      unfold aspect?
      rw [same]
    refine before.cons (fun k m reads => aspect_of_read stable reads) ?_ (fun _ => kept) ?_
    · intro k m writes
      cases quiet.symm.trans writes
    · intro k m writes
      cases quiet.symm.trans writes
  constructor
  case order => exact inv.order.answered there
  case filed =>
    show ∀ id row, (s.store.exec rt .postgres op).2.credentials.get? id = some row → _
    rw [same]
    exact inv.filed
  case placed =>
    show ∀ e ∈ _ :: s.trace, ∀ id m, rows.reads e = some (id, m) →
      ∃ row, (s.store.exec rt .postgres op).2.credentials.get? id = some row ∧ _
    rw [same]
    intro e mem id m reads
    cases List.mem_cons.mp mem with
    | inl new =>
      rw [new] at reads
      obtain ⟨row, found, read⟩ := reads_exec reads
      refine ⟨row, found, ?_⟩
      rw [← read]
      exact (inv.filed id row found).2.symm
    | inr old => exact inv.placed e old id m reads
  case looked =>
    intro newer j older name workspaceId ids split id row found sameName sameWorkspace
    change (s.store.exec rt .postgres op).2.credentials.get? id = some row at found
    rw [same] at found
    cases newer with
    | nil =>
      have selected := selected_of_event (List.cons.inj split).1
      exact Or.inl (mem_of_selected selected found sameName sameWorkspace)
    | cons e newer =>
      obtain old | ⟨e', mem, written⟩ := inv.looked newer j older name workspaceId ids
        (List.cons.inj split).2 id row found sameName sameWorkspace
      · exact Or.inl old
      · exact Or.inr ⟨e', List.mem_cons_of_mem _ mem, written⟩
  case names =>
    show ∀ id id' row row', (s.store.exec rt .postgres op).2.credentials.get? id = some row →
      (s.store.exec rt .postgres op).2.credentials.get? id' = some row' → _
    rw [same]
    exact inv.names
  case secrets => exact stands (fun _ => rfl) inv.secrets
  case tokens => exact stands (fun _ => rfl) inv.tokens
  case rotated =>
    exact broughtBy_answered there inv.rotated
      (fun changes => absurd changes (not_changed_of_quiet quiet))
  case refreshed =>
    exact broughtBy_answered there inv.refreshed
      (fun changes => absurd changes (not_changed_of_quiet quiet))

section Writing

variable {next : Except VaultError Unit → VaultCall CredentialReply}

omit [DecidableEq A] in
theorem mem_trace_of_past (inv : VaultInvariant rt s₀ s)
    {t : Lib.Thread CredentialRequest VaultOp.Answer (Except VaultError CredentialReply)}
    {a : Lib.Asked VaultOp.Answer} (there : s.threads[i]? = some t) (mem : a ∈ t.past) :
    ⟨a, i⟩ ∈ s.trace := by
  rw [inv.order.past i t there] at mem
  obtain ⟨⟨a', j⟩, inTrace, same⟩ := List.mem_filterMap.mp mem
  dsimp only at same
  split at same
  next here =>
    cases same
    cases here
    exact inTrace
  next => cases same

omit [DecidableEq A] in
theorem workspace_kept (inv : VaultInvariant rt s₀ s)
    (there : s.threads[i]? = some ⟨r, past, .ask (.upsertMetadata m) next⟩)
    (back : WritesBack rt.toVaultRuntime cipher r past m)
    (fresh : createsFresh s (.advance i) = true) {row : CredentialRow}
    (found : s.store.credentials.get? m.id = some row) : row.workspaceId = m.workspaceId := by
  cases back with
  | created =>
    simp [createsFresh, there, Dict.contains, found] at fresh
  | modified =>
    rename_i rest read ids own keeps
    have mem : (⟨.loadMetadata m.id, .ok read⟩ : Lib.Asked VaultOp.Answer) ∈
        (⟨.selectDuplicates m.name m.workspaceId, .ok ids⟩ ::
          ⟨.loadMetadata m.id, .ok read⟩ :: rest : VaultPast) :=
      List.mem_cons_of_mem _ List.mem_cons_self
    obtain ⟨row', found', placed⟩ :=
      inv.placed _ (mem_trace_of_past inv there mem) m.id read rfl
    cases found.symm.trans found'
    rw [placed, keeps.workspaceId]

omit [DecidableEq A] in
theorem upsert_cases (inv : VaultInvariant rt s₀ s)
    (there : s.threads[i]? = some ⟨r, past, .ask (.upsertMetadata m) next⟩)
    (back : WritesBack rt.toVaultRuntime cipher r past m)
    (fresh : createsFresh s (.advance i) = true) :
    s.store.exec rt .postgres (.upsertMetadata m) = (.error refusedRow, s.store) ∨
    s.store.exec rt .postgres (.upsertMetadata m) = (.ok (), { s.store with
      credentials := s.store.credentials.set m.id (.of m) }) := by
  show s.store.upsertMetadata rt .postgres m = _ ∨ s.store.upsertMetadata rt .postgres m = _
  unfold upsertMetadata
  dsimp only
  split
  · exact Or.inl rfl
  · right
    have column : m.workspaceId.or ((s.store.credentials.get? m.id).bind CredentialRow.workspaceId)
        = m.workspaceId := by
      cases found : s.store.credentials.get? m.id with
      | none => simp
      | some row =>
        rw [Option.bind_some, workspace_kept inv there back fresh found]
        cases m.workspaceId <;> rfl
    rw [column]
    rfl

theorem brings_of_changed (inv : VaultInvariant rt s₀ s)
    (there : s.threads[i]? = some ⟨r, past, .ask (.upsertMetadata m) next⟩)
    (back : WritesBack rt.toVaultRuntime cipher r past m)
    (creating : ∀ new, brings (.createCredential new) = true)
    (keeping : ∀ read, Keeps r read m → brings r = false → aspect m = aspect read)
    (writes : rows.writes e = some (m.id, m)) (caller : rows.caller e = i)
    (changes : (rows.changed aspect e s.trace).isSome) : brings r = true := by
  cases back with
  | created => exact creating _
  | modified =>
    rename_i rest read ids own keeps
    have latest := latestRead_of_modified (inv.order.past i _ there).symm
    by_contra other
    have same := keeping read keeps (by simpa using other)
    rw [← caller] at latest
    simp [Access.changed, writes, latest, same] at changes

theorem stands_written {store : VaultStore}
    (written : store.credentials = s.store.credentials.set m.id (.of m))
    (before : rows.Stands aspect (s₀.aspect? aspect) (s.store.aspect? aspect) s.trace)
    (writes : rows.writes e = some (m.id, m)) (caller : rows.caller e = i)
    (current : upToDate aspect i m s.trace = true) :
    rows.Stands aspect (s₀.aspect? aspect) (store.aspect? aspect) (e :: s.trace) := by
  refine before.cons ?_ ?_ ?_ ?_
  · intro k m' reads
    have quiet := rows.apart e (by rw [reads]; rfl)
    cases writes.symm.trans quiet
  · intro k m' writes'
    cases writes.symm.trans writes'
    constructor
    · simp [aspect?, written, CredentialRow.of]
    · intro k' other
      simp [aspect?, written, Dict.get?_set, other]
  · intro quiet
    cases writes.symm.trans quiet
  · intro k m' writes' kept
    cases writes.symm.trans writes'
    rw [Access.changedOf_self writes] at kept
    split at kept
    next same =>
      subst caller
      simpa [upToDate, same] using current
    next => cases kept

theorem uniqueNames_written (inv : VaultInvariant rt s₀ s)
    (there : s.threads[i]? = some ⟨r, past, .ask (.upsertMetadata m) next⟩)
    (back : WritesBack rt.toVaultRuntime cipher r past m) (free : unclaimed rt i m s.trace = true) :
    ({ s.store with credentials := s.store.credentials.set m.id (.of m) } :
      VaultStore).UniqueNames rt := by
  obtain ⟨ids, rest, own, asked⟩ := back.looked
  obtain ⟨newer, older, split, quiet⟩ := looked_of_unclaimed
    ((inv.order.past i _ there).symm.trans asked) free
  have absent {id : Uuid} {row : CredentialRow} (found : s.store.credentials.get? id = some row)
      (sameName : rt.lowerSql row.payload.name = rt.lowerSql m.name)
      (sameWorkspace : row.workspaceId = m.workspaceId) : id = m.id := by
    obtain listed | ⟨e, mem, m', writes, rfl⟩ := inv.looked newer i older _ _ ids split id row
      found sameName sameWorkspace
    · exact own id listed
    · by_contra other
      have claimed : claims rt m e = true := by
        change m'.workspaceId = m.workspaceId at sameWorkspace
        change rt.lowerSql m'.name = rt.lowerSql m.name at sameName
        simp [claims, writes, other, sameWorkspace, sameName]
      rw [quiet e mem] at claimed
      cases claimed
  intro id id' row row' found found' sameWorkspace sameName
  change (s.store.credentials.set m.id _).get? id = some row at found
  change (s.store.credentials.set m.id _).get? id' = some row' at found'
  rw [Dict.get?_set] at found found'
  split at found
  next here =>
    cases found
    split at found'
    next here' => rw [here, here']
    next => rw [here, absent found' sameName.symm sameWorkspace.symm]
  next =>
    split at found'
    next here' =>
      cases found'
      rw [here', absent found sameName sameWorkspace]
    next => exact inv.names id id' row row' found found' sameWorkspace sameName

theorem VaultInvariant.writing (inv : VaultInvariant rt s₀ s)
    (there : s.threads[i]? = some ⟨r, past, .ask (.upsertMetadata m) next⟩)
    (back : WritesBack rt.toVaultRuntime cipher r past m)
    (fresh : createsFresh s (.advance i) = true)
    (current : writesCurrent rt s (.advance i) = true) : VaultInvariant rt s₀
      (s.answered (exec rt .postgres) i r past (.upsertMetadata m) next) := by
  cases upsert_cases inv there back fresh with
  | inl refused =>
    apply inv.quiet there
    · rw [refused]
    · rw [refused]
      rfl
  | inr taken =>
    simp only [writesCurrent, there, Bool.and_eq_true] at current
    obtain ⟨⟨secret, tokens⟩, free⟩ := current
    have writes : rows.writes
        ⟨⟨.upsertMetadata m, (s.store.exec rt .postgres (.upsertMetadata m)).1⟩, i⟩ =
        some (m.id, m) := by
      rw [taken]
      rfl
    have written : (s.store.exec rt .postgres (.upsertMetadata m)).2.credentials =
        s.store.credentials.set m.id (.of m) := by rw [taken]
    constructor
    case order => exact inv.order.answered there
    case filed =>
      show VaultStore.Filed (s.store.exec rt .postgres (.upsertMetadata m)).2
      rw [taken]
      intro id row found
      change (s.store.credentials.set m.id _).get? id = some row at found
      obtain ⟨here, rfl⟩ | ⟨-, found⟩ := Dict.of_get?_set found
      · refine ⟨here.symm, ?_⟩
        show m.workspaceId.or m.workspaceId = m.workspaceId
        cases m.workspaceId <;> rfl
      · exact inv.filed id row found
    case placed =>
      intro e mem id m' reads
      have before : ∃ row, s.store.credentials.get? id = some row ∧
          row.workspaceId = m'.workspaceId := by
        cases List.mem_cons.mp mem with
        | inl new =>
          rw [new] at reads
          cases reads
        | inr old => exact inv.placed e old id m' reads
      obtain ⟨row, found, placed⟩ := before
      show ∃ row, (s.store.exec rt .postgres (.upsertMetadata m)).2.credentials.get? id =
        some row ∧ _
      rw [written, Dict.get?_set]
      split
      next here =>
        rw [here] at found
        refine ⟨_, rfl, ?_⟩
        rw [← placed, workspace_kept inv there back fresh found]
        rfl
      next => exact ⟨row, found, placed⟩
    case looked =>
      intro newer j older name workspaceId ids split id row found sameName sameWorkspace
      cases newer with
      | nil => cases (List.cons.inj split).1
      | cons e newer =>
        change (s.store.exec rt .postgres (.upsertMetadata m)).2.credentials.get? id = some row
          at found
        rw [written] at found
        obtain ⟨here, rfl⟩ | ⟨-, found⟩ := Dict.of_get?_set found
        · right
          refine ⟨e, List.mem_cons_self, m, ?_, rfl⟩
          rw [← (List.cons.inj split).1, here]
          exact writes
        · obtain old | ⟨e', mem, written⟩ := inv.looked newer j older name workspaceId ids
            (List.cons.inj split).2 id row found sameName sameWorkspace
          · exact Or.inl old
          · exact Or.inr ⟨e', List.mem_cons_of_mem _ mem, written⟩
    case names =>
      show VaultStore.UniqueNames rt (s.store.exec rt .postgres (.upsertMetadata m)).2
      rw [taken]
      exact uniqueNames_written inv there back free
    case secrets => exact stands_written written inv.secrets writes rfl secret
    case tokens => exact stands_written written inv.tokens writes rfl tokens
    case rotated =>
      exact broughtBy_answered there inv.rotated (brings_of_changed inv there back (fun _ => rfl)
        (fun _ keeps => keeps.encryption) writes rfl)
    case refreshed =>
      exact broughtBy_answered there inv.refreshed (brings_of_changed inv there back (fun _ => rfl)
        (fun _ keeps => keeps.oauthTokens) writes rfl)

end Writing

theorem fits_exec (filed : s.store.Filed) (op : VaultOp) :
    op.Fits (s.store.exec rt .postgres op).1 := by
  cases op with
  | loadMetadata credentialId =>
    show VaultOp.Fits (.loadMetadata credentialId) (s.store.loadMetadata credentialId)
    unfold loadMetadata
    split
    next => trivial
    next row found => exact (filed credentialId row found).1
  | _ => trivial

/-- While every write relies only on what still holds, no secret or token is lost, and no name is
given twice. -/
theorem credential_updates_not_lost (rt : StorageRuntime) (cipher : CredentialCipher)
    (s₀ : VaultStore)
    (filed : s₀.Filed) (names : s₀.UniqueNames rt) (turns : List VaultTurn)
    (fresh : AllSteps (vaultStep rt cipher) (fun s turn => createsFresh s turn = true)
      { store := s₀ } turns)
    (current : AllSteps (vaultStep rt cipher) (fun s turn => writesCurrent rt s turn = true)
      { store := s₀ } turns) :
    Always (vaultStep rt cipher) (NoLostUpdate rt s₀) { store := s₀ } turns := by
  let contract : Server.Contract VaultOp.Answer CredentialRequest
      (Except VaultError CredentialReply) :=
    { fits := VaultOp.Fits, asks := VaultOp.Allowed rt.toVaultRuntime cipher }
  refine AllSteps.always (I := fun s => VaultInvariant rt s₀ s ∧ Server.Sound contract s)
    (fun s inv => inv.1.noLostUpdate) ?_ ⟨invariant_fresh filed names, Server.sound_fresh⟩
    (Lib.allSteps_and_iff.mpr ⟨fresh, current⟩)
  refine Server.keep_step _ _ contract (fun r => program_meets rt.toVaultRuntime cipher r)
    (fun s op inv => fits_exec inv.filed op) (fun s r inv _ _ => inv.started) ?_
  intro s i r past op next inv _ there allowed guard
  cases op with
  | upsertMetadata m => exact inv.writing there allowed guard.1 guard.2
  | removeCredential => exact absurd allowed id
  | _ => exact inv.quiet there (exec_of_reading trivial) (writes_of_reading trivial)

/-! Two processes work on an OAuth credential: one rotates its secret, while another is between
reading it and writing its health. -/

namespace LostUpdates

def credential : CredentialMetadata :=
  NewCredential.metadata .ascii .plain
    { id := 1, name := "mail", provider := "mail", secret := "old", actor := "ann", nonce := "",
      now := 0 } .oauth

def store : VaultStore := { credentials := (∅ : Dict Uuid CredentialRow).set 1 (.of credential) }

def rotation : CredentialRequest := .rotateSecret 1 "new" "ann" none "" 1

def check : CredentialRequest := .markHealth 1 .healthy none none none 2

def interleaved : List VaultTurn :=
  [.begin rotation, .begin check, .advance 1, .advance 0, .advance 0, .advance 0, .advance 1,
    .advance 1]

def ordered : List VaultTurn :=
  [.begin rotation, .begin check, .advance 0, .advance 0, .advance 0, .advance 1, .advance 1,
    .advance 1]

theorem store_filed : store.Filed := by
  intro id row found
  change ((∅ : Dict Uuid CredentialRow).set 1 _).get? id = some row at found
  obtain ⟨here, rfl⟩ | ⟨-, found⟩ := Dict.of_get?_set found
  · exact ⟨here.symm, rfl⟩
  · cases found

theorem store_uniqueNames : store.UniqueNames .ascii := by
  have only {id : Uuid} {row : CredentialRow} (found : store.credentials.get? id = some row) :
      id = 1 := (store_filed id row found).1.symm.trans (by
    change ((∅ : Dict Uuid CredentialRow).set 1 _).get? id = some row at found
    obtain ⟨-, rfl⟩ | ⟨-, found⟩ := Dict.of_get?_set found
    · rfl
    · cases found)
  intro id id' row row' found found' _ _
  rw [only found, only found']

end LostUpdates

open LostUpdates (store store_filed store_uniqueNames ordered)

theorem credential_updates_not_lost_interleaved :
    ¬∀ (rt : StorageRuntime) (cipher : CredentialCipher)
    (s₀ : VaultStore), s₀.Filed → s₀.UniqueNames rt → ∀ turns : List VaultTurn,
    AllSteps (vaultStep rt cipher) (fun s turn => createsFresh s turn = true) { store := s₀ } turns →
    Always (vaultStep rt cipher) (NoLostUpdate rt s₀) { store := s₀ } turns := by
  intro claim
  have last := (claim .ascii .plain store store_filed
    store_uniqueNames LostUpdates.interleaved (by decide +kernel)).last
  have stands := last.secrets.last 1
  revert stands
  decide +kernel

theorem credential_updates_not_lost_ordered :
    Always (vaultStep .ascii .plain) (NoLostUpdate .ascii store)
      { store := store } ordered :=
  credential_updates_not_lost .ascii .plain store store_filed
    store_uniqueNames ordered (by decide +kernel) (by decide +kernel)

end Orcheo.Vault
