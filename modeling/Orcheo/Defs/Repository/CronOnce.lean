import Orcheo.Defs.Repository.CronDispatchLaws

/-! At-most-once and non-overlapping dispatch, over any interleaving of the processes. -/

universe u

namespace Orcheo.Repository

open Lib
open Triggers (Calendar WebhookRuntime)

variable {P : Type u}

def RunRow.dispatchedFor (row : RunRow) : Option (Uuid × Instant) :=
  row.payload.cronInput.map (fun input => (row.payload.workflowId, input.scheduledFor))

namespace CronSystem

def HasActiveCronRun (s : CronSystem P) (w : Uuid) : Prop :=
  ∃ r row, s.runs.get? r = some row ∧ row.payload.cronInput.isSome ∧
    row.payload.workflowId = w ∧ row.status.isActive

def Overlapped (s : CronSystem P) (tx : Tx) : Prop :=
  tx.done ≠ .locked → tx.config.allowOverlapping = false →
    ¬ s.HasActiveCronRun tx.plan.workflowId

def Held (s : CronSystem P) (tx : Tx) : Prop :=
  ∃ row, s.triggers.get? tx.plan.workflowId = some row ∧ row.config = tx.config ∧
    ∀ last, row.lastDispatchedAt = some last → last < tx.plan.scheduledFor

structure Inv (s : CronSystem P) : Prop where
  agrees : s.runs.Agrees
  cron : ∀ r row, s.runs.get? r = some row → row.payload.cronInput.isSome →
    row.payload.triggeredBy = "cron"
  locks : ∀ p w, s.locks.get? w = some p ↔ ∃ tx, s.tx p = some tx ∧ tx.plan.workflowId = w
  held : ∀ p tx, s.tx p = some tx → s.Held tx
  overlapped : ∀ p tx, s.tx p = some tx → s.Overlapped tx
  inserted : ∀ p plan config r row, s.tx p = some ⟨plan, config, .inserted r row⟩ →
    row.Agrees ∧ row.payload.triggeredBy = "cron" ∧
      row.dispatchedFor = some (plan.workflowId, plan.scheduledFor)

variable {s s' : CronSystem P} {w : Uuid} {tx : Tx} {op : CronOp P}

theorem mem_activeCronRuns {r : Uuid} :
    r ∈ s.activeCronRuns w ↔ ∃ row, s.runs.get? r = some row ∧ row.isActiveCronRunOf w := by
  simp [activeCronRuns, Dict.get?_eq_some_iff]

theorem Inv.not_hasActiveCronRun (h : s.Inv) (ha : s.activeCronRuns w = []) :
    ¬ s.HasActiveCronRun w := by
  rintro ⟨r, row, hr, hc, hw, hact⟩
  have hm : r ∈ s.activeCronRuns w := mem_activeCronRuns.mpr
    ⟨row, hr, by simp [RunRow.isActiveCronRunOf, hw, h.cron r row hr hc, hact]⟩
  rw [ha] at hm
  cases hm

theorem hasActiveCronRun_congr (h : s'.runs = s.runs) (w : Uuid) :
    s'.HasActiveCronRun w ↔ s.HasActiveCronRun w := by
  simp only [HasActiveCronRun, h]

theorem HasActiveCronRun.of_evolves (he : s.runs.Evolves s'.runs) (h : s'.HasActiveCronRun w) :
    s.HasActiveCronRun w := by
  obtain ⟨r, row', hr', hc, hw, hact⟩ := h
  cases he r row' hr' with
  | inr hn => simp [hn] at hc
  | inl hrow =>
    obtain ⟨row, hr, he⟩ := hrow
    refine ⟨r, row, hr, he.cronInput ▸ hc, he.workflowId ▸ hw, ?_⟩
    cases ha : row.status.isActive with
    | true => rfl
    | false => rw [he.inactive ha] at hact; cases hact

theorem held_congr (h : s'.triggers.get? tx.plan.workflowId = s.triggers.get? tx.plan.workflowId) :
    s'.Held tx ↔ s.Held tx := by
  simp only [Held, h]

theorem overlapped_congr (h : s'.runs = s.runs) :
    s'.Overlapped tx ↔ s.Overlapped tx := by
  simp only [Overlapped, hasActiveCronRun_congr h]

theorem Inv.tx_unique (h : s.Inv) {p q : P} {tx' : Tx} (hp : s.tx p = some tx)
    (hq : s.tx q = some tx') (hw : tx.plan.workflowId = tx'.plan.workflowId) : p = q := by
  have hlp := (h.locks p _).mpr ⟨tx, hp, rfl⟩
  have hlq := (h.locks q _).mpr ⟨tx', hq, rfl⟩
  rw [hw] at hlp
  exact Option.some.inj (hlp.symm.trans hlq)

theorem inv_init : ({} : CronSystem P).Inv where
  agrees _ _ h := by cases h
  cron _ _ h := by cases h
  locks _ _ := iff_of_false nofun (fun ⟨_, h, _⟩ => by cases h)
  held _ _ h := by cases h
  overlapped _ _ h := by cases h
  inserted _ _ _ _ _ h := by cases h

theorem Inv.of_tx (h : s.Inv) (ht : s'.triggers = s.triggers) (hr : s'.runs = s.runs)
    (locks : ∀ p w, s'.locks.get? w = some p ↔ ∃ tx, s'.tx p = some tx ∧ tx.plan.workflowId = w)
    (txs : ∀ q tx, s'.tx q = some tx → s.tx q = some tx ∨ s'.Held tx ∧ s'.Overlapped tx ∧
      ∀ r row, tx.done = .inserted r row → row.Agrees ∧ row.payload.triggeredBy = "cron" ∧
        row.dispatchedFor = some (tx.plan.workflowId, tx.plan.scheduledFor)) : s'.Inv where
  agrees := by rw [hr]; exact h.agrees
  cron := by rw [hr]; exact h.cron
  locks := locks
  held q tx hq := by
    cases txs q tx hq with
    | inl old => exact (held_congr (by rw [ht])).mpr (h.held q tx old)
    | inr new => exact new.1
  overlapped q tx hq := by
    cases txs q tx hq with
    | inl old => exact (overlapped_congr hr).mpr (h.overlapped q tx old)
    | inr new => exact new.2.1
  inserted q plan config r row hq := by
    cases txs q _ hq with
    | inl old => exact h.inserted q plan config r row old
    | inr new => exact new.2.2 r row rfl

variable [DecidableEq P]

theorem Inv.locks_erase (h : s.Inv) {p : P}
    (hp : s.tx p = some tx) (hk : s'.locks = s.locks.erase tx.plan.workflowId)
    (hs : ∀ q, s'.tx q = if q = p then none else s.tx q) (q : P) (w : Uuid) :
    s'.locks.get? w = some q ↔ ∃ tx, s'.tx q = some tx ∧ tx.plan.workflowId = w := by
  rw [hk, Dict.get?_erase, hs q]
  by_cases hq : q = p
  · subst hq
    by_cases hw : w = tx.plan.workflowId
    · simp [hw]
    · rw [if_neg hw, h.locks q w, hp]
      simp [Ne.symm hw]
  · by_cases hw : w = tx.plan.workflowId
    · subst hw
      simp only [if_true, if_neg hq]
      refine iff_of_false (by simp) ?_
      rintro ⟨tx', hq', hw'⟩
      exact hq (h.tx_unique hq' hp hw')
    · rw [if_neg hw, if_neg hq, h.locks q w]

theorem Inv.advanced (h : s.Inv) {p : P} {done : TxStep} (hp : s.tx p = some tx)
    (ht : s'.triggers = s.triggers) (hr : s'.runs = s.runs) (hk : s'.locks = s.locks)
    (hs : ∀ q, s'.tx q = if q = p then some { tx with done := done } else s.tx q)
    (free : tx.config.allowOverlapping = false → ¬ s.HasActiveCronRun tx.plan.workflowId)
    (made : ∀ r row, done = .inserted r row → row.Agrees ∧ row.payload.triggeredBy = "cron" ∧
      row.dispatchedFor = some (tx.plan.workflowId, tx.plan.scheduledFor)) : s'.Inv := by
  refine h.of_tx ht hr (fun q w => ?_) (fun q tx' hq => ?_)
  · rw [hk, hs q, h.locks q w]
    split
    case isTrue hq => subst hq; simp [hp]
    case isFalse => rfl
  · rw [hs] at hq
    split at hq
    · cases hq
      have held : s'.Held tx := (held_congr (by rw [ht])).mpr (h.held p _ hp)
      refine Or.inr ⟨held, fun _ ha => ?_, made⟩
      rw [hasActiveCronRun_congr hr]
      exact free ha
    · exact Or.inl hq

theorem Inv.effect (h : s.Inv) (he : s.Effect op s') :
    s'.Inv := by
  cases he with
  | quiet ht hr hk hp =>
    refine h.of_tx ht hr (fun p w => ?_) (fun p tx htx => Or.inl (by rwa [hp] at htx))
    rw [hk, hp]
    exact h.locks p w
  | runs ht hk hp hr =>
    obtain ⟨ha, he⟩ := hr h.agrees
    constructor
    · exact ha
    · intro r row' hr' hc
      cases he r row' hr' with
      | inr hn => simp [hn] at hc
      | inl hrow =>
        obtain ⟨row, hr, he⟩ := hrow
        rw [he.triggeredBy]
        exact h.cron r row hr (he.cronInput ▸ hc)
    · intro p w; rw [hk, hp]; exact h.locks p w
    · intro p tx htx; rw [hp] at htx; exact (held_congr (by rw [ht])).mpr (h.held p tx htx)
    · intro p tx htx hd hc ha
      rw [hp] at htx
      exact h.overlapped p tx htx hd hc (ha.of_evolves he)
    · intro p plan config r row htx; rw [hp] at htx; exact h.inserted p plan config r row htx
  | trigger w hl hr hk hp hw _ =>
    constructor
    · rw [hr]; exact h.agrees
    · rw [hr]; exact h.cron
    · intro p w; rw [hk, hp]; exact h.locks p w
    · intro p tx htx
      rw [hp] at htx
      -- the written row is held by nobody
      have hne : tx.plan.workflowId ≠ w := fun hw => by
        have := (h.locks p w).mpr ⟨tx, htx, hw⟩
        rw [hl] at this
        cases this
      exact (held_congr (hw _ hne)).mpr (h.held p tx htx)
    · intro p tx htx; rw [hp] at htx; exact (overlapped_congr hr).mpr (h.overlapped p tx htx)
    · intro p plan config r row htx; rw [hp] at htx; exact h.inserted p plan config r row htx
  | ended p tx hp ht hr hk hs =>
    refine h.of_tx ht hr (h.locks_erase hp hk hs) (fun q tx' hq => Or.inl ?_)
    rw [hs] at hq
    split at hq
    · cases hq
    · exact hq
  | locked p plan row hp hl hrow hlast ht hr hk hs =>
    refine h.of_tx ht hr (fun q w => ?_) (fun q tx hq => ?_)
    · rw [hk, Dict.get?_set, hs q]
      by_cases hq : q = p
      · subst hq
        by_cases hw : w = plan.workflowId
        · simp [hw]
        · rw [if_neg hw, h.locks q w, hp]
          simp [Ne.symm hw]
      · by_cases hw : w = plan.workflowId
        · subst hw
          have hno := h.locks q plan.workflowId
          rw [hl] at hno
          simp only [if_true, if_neg hq, ← hno]
          simp [Ne.symm hq]
        · rw [if_neg hw, if_neg hq, h.locks q w]
    · rw [hs] at hq
      split at hq
      · cases hq
        exact Or.inr ⟨⟨row, by rw [ht]; exact hrow, rfl, hlast⟩, fun hd => absurd rfl hd, fun _ _ => nofun⟩
      · exact Or.inl hq
  | checked p plan config hp hc ht hr hk hs =>
    exact h.advanced hp ht hr hk hs (fun ha => h.not_hasActiveCronRun (hc ha)) fun _ _ => nofun
  | inserted p plan config r c hp ht hr hk hs =>
    refine h.advanced hp ht hr hk hs (h.overlapped p _ hp (by simp)) (fun r' row made => ?_)
    cases made
    exact ⟨rfl, rfl, rfl⟩
  | committed p plan config r row hp hn hr hk hw ht hs _ =>
    obtain ⟨hag, hcron, hfor⟩ := h.inserted p plan config r row hp
    have hold : ∀ q tx, s'.tx q = some tx → s.tx q = some tx ∧ tx.plan.workflowId ≠ plan.workflowId := by
      intro q tx hq
      rw [hs] at hq
      split at hq
      case isTrue => cases hq
      case isFalse hne => exact ⟨hq, fun he => hne (h.tx_unique hq hp he)⟩
    constructor
    · intro r' row' hr'
      rw [hr, Dict.get?_set] at hr'
      split at hr'
      · cases hr'; exact hag
      · exact h.agrees r' row' hr'
    · intro r' row' hr' hc
      rw [hr, Dict.get?_set] at hr'
      split at hr'
      · cases hr'; exact hcron
      · exact h.cron r' row' hr' hc
    · exact h.locks_erase hp hk hs
    · intro q tx hq
      obtain ⟨hq, hne⟩ := hold q tx hq
      exact (held_congr (hw _ hne)).mpr (h.held q tx hq)
    · intro q tx hq hd hc ha
      obtain ⟨hq, hne⟩ := hold q tx hq
      apply h.overlapped q tx hq hd hc
      obtain ⟨r', row', hr', hc', hw', hact⟩ := ha
      rw [hr, Dict.get?_set] at hr'
      split at hr'
      · cases hr'
        -- the new run belongs to the workflow of the committed plan
        cases hi : row.payload.cronInput with
        | none => simp [hi] at hc'
        | some input =>
          simp only [RunRow.dispatchedFor, hi, Option.map_some, Option.some.injEq,
            Prod.mk.injEq] at hfor
          exact absurd (hw'.symm.trans hfor.1) hne
      · exact ⟨r', row', hr', hc', hw', hact⟩
    · intro q plan' config' r' row' hq
      exact h.inserted q plan' config' r' row' (hold q _ hq).1

variable (rt : WebhookRuntime)

theorem inv_run (cal : Calendar) (ops : List (CronOp P)) : (ops.foldl (step rt cal) {}).Inv :=
  foldl_invariant (P := Inv) (fun s op h => h.effect (effect_step rt cal s op)) inv_init ops

/-- The operation creates run `r` for the instant `t` of the workflow's schedule. -/
def Dispatches (cal : Calendar) (s : CronSystem P) (op : CronOp P)
    (w : Uuid) (t : Instant) (r : Uuid) : Prop :=
  s.runs.get? r = none ∧ ((s.step rt cal op).runs.get? r).bind RunRow.dispatchedFor = some (w, t)

example : ([.createWorkflow 1, .configureCronTrigger true 1 {}, .refresh true,
    .collect true none 0 (fun _ => true), .resolve true true true, .lockRow true,
    .checkOverlap true, .insertRun true 9 ⟨0, 0, 0, 0⟩].foldl (step .ascii .hourly)
      ({} : CronSystem Bool)).Dispatches .ascii .hourly (.commit true 0) 1 0 9 := by
  unfold Dispatches
  decide

structure Due (s : CronSystem P) (w : Uuid) (t : Instant) (row : CronRow) : Prop where
  trigger : s.triggers.get? w = some row
  later : ∀ last, row.lastDispatchedAt = some last → last < t
  alone : row.config.allowOverlapping = false → ¬ s.HasActiveCronRun w

theorem dispatch_of_effect (h : s.Inv) (he : s.Effect op s') {r : Uuid} {t : Instant}
    (hn : s.runs.get? r = none) (hd : (s'.runs.get? r).bind RunRow.dispatchedFor = some (w, t)) :
    (∃ row, s.Due w t row) ∧ s'.lastDispatched w = some t := by
  have hsame : s'.runs = s.runs → False := fun hr => by simp [hr, hn] at hd
  cases he with
  | quiet _ hr => exact (hsame hr).elim
  | trigger _ _ hr => exact (hsame hr).elim
  | ended _ _ _ _ hr => exact (hsame hr).elim
  | locked _ _ _ _ _ _ _ _ hr => exact (hsame hr).elim
  | checked _ _ _ _ _ _ hr => exact (hsame hr).elim
  | inserted _ _ _ _ _ _ _ hr => exact (hsame hr).elim
  | runs _ _ _ hr =>
    obtain ⟨row', hr', hf⟩ := Option.bind_eq_some_iff.mp hd
    cases (hr h.agrees).2 r row' hr' with
    | inl hrow =>
      obtain ⟨row, hr, _⟩ := hrow
      exact absurd (hn.symm.trans hr) (by simp)
    | inr hc => simp [RunRow.dispatchedFor, hc] at hf
  | committed p plan config q row hp hq hr hk hw ht hs _ =>
    by_cases hrq : r = q
    · subst hrq
      obtain ⟨-, -, hfor⟩ := h.inserted p plan config r row hp
      simp only [hr, Dict.get?_set, if_true, Option.bind_some, hfor, Option.some.injEq,
        Prod.mk.injEq] at hd
      obtain ⟨rfl, rfl⟩ := hd
      obtain ⟨trigger, htr, hc, hl⟩ := h.held p _ hp
      refine ⟨⟨trigger, htr, hl, fun ha => ?_⟩, ?_⟩
      · exact h.overlapped p _ hp (by simp) (hc ▸ ha)
      · simp only [lastDispatched, ht]
        rw [htr]
        rfl
    · simp [hr, hrq, hn] at hd

theorem lastDispatched_of_effect (h : s.Inv) (he : s.Effect op s') (hw : ¬ op.Deletes w) :
    s'.lastDispatched w = s.lastDispatched w ∨
      ∃ t, s'.lastDispatched w = some t ∧ ∀ last, s.lastDispatched w = some last → last < t := by
  have hsame : s'.triggers = s.triggers → s'.lastDispatched w = s.lastDispatched w :=
    fun ht => by simp only [lastDispatched, ht]
  cases he with
  | quiet ht => exact .inl (hsame ht)
  | runs ht => exact .inl (hsame ht)
  | ended _ _ _ ht => exact .inl (hsame ht)
  | locked _ _ _ _ _ _ _ ht => exact .inl (hsame ht)
  | checked _ _ _ _ _ ht => exact .inl (hsame ht)
  | inserted _ _ _ _ _ _ ht => exact .inl (hsame ht)
  | trigger w' _ _ _ _ hother hd =>
    by_cases hww : w = w'
    · subst hww
      exact .inl (hd hw)
    · exact .inl (by simp only [lastDispatched, hother w hww])
  | committed p plan config q row hp _ _ _ hother ht _ _ =>
    by_cases hww : w = plan.workflowId
    · subst hww
      obtain ⟨trigger, htr, -, hl⟩ := h.held p _ hp
      refine .inr ⟨plan.scheduledFor, ?_, ?_⟩
      · simp only [lastDispatched, ht]
        rw [htr]
        rfl
      · intro last hlast
        apply hl last
        change s.triggers.get? plan.workflowId = some trigger at htr
        simpa [lastDispatched, htr] using hlast
    · exact .inl (by simp only [lastDispatched, hother w hww])

theorem lastDispatched_run (cal : Calendar)
    (h : s.Inv) (more : List (CronOp P)) (hw : ∀ op ∈ more, ¬ op.Deletes w)
    {last : Instant} (hl : s.lastDispatched w = some last) :
    ∃ last', (more.foldl (step rt cal) s).lastDispatched w = some last' ∧ last ≤ last' := by
  induction more generalizing s last with
  | nil => exact ⟨last, hl, le_refl last⟩
  | cons op more ih =>
    have he := effect_step rt cal s op
    have htail := fun op' hop' => hw op' (List.mem_cons_of_mem op hop')
    cases lastDispatched_of_effect h he (hw op List.mem_cons_self) with
    | inl hsame => exact ih (h.effect he) htail (hsame.trans hl)
    | inr hlater =>
      obtain ⟨t, ht, hlt⟩ := hlater
      obtain ⟨last', hl', hle⟩ := ih (h.effect he) htail ht
      exact ⟨last', hl', le_trans (le_of_lt (hlt last hl)) hle⟩

/-- Any interleaving of any processes: a dispatch finds its instant undispatched and, where
runs may not overlap, no cron run active; a later one, with the trigger not deleted in
between, is for a later instant; and `last_dispatched_at` only ever advances. -/
theorem cron_dispatch_once (rt : WebhookRuntime) (cal : Calendar) (ops : List (CronOp P)) :
    let s := ops.foldl (step rt cal) ({} : CronSystem P)
    (∀ op w t r, s.Dispatches rt cal op w t r → (∃ row, s.Due w t row) ∧
      (s.step rt cal op).lastDispatched w = some t ∧
      ∀ (more : List (CronOp P)) op' t' r', (∀ o ∈ more, ¬ o.Deletes w) →
        (more.foldl (step rt cal) (s.step rt cal op)).Dispatches rt cal op' w t' r' → t < t') ∧
    (∀ (op : CronOp P) w, ¬ op.Deletes w → (s.step rt cal op).lastDispatched w = s.lastDispatched w ∨
      ∃ t, (s.step rt cal op).lastDispatched w = some t ∧
        ∀ last, s.lastDispatched w = some last → last < t) := by
  intro s
  have hs : s.Inv := inv_run rt cal ops
  refine ⟨?_, fun op w hw => lastDispatched_of_effect hs (effect_step rt cal s op) hw⟩
  intro op w t r hd
  have he := effect_step rt cal s op
  obtain ⟨hdue, hlast⟩ := dispatch_of_effect hs he hd.1 hd.2
  refine ⟨hdue, hlast, ?_⟩
  intro more op' t' r' hw hd'
  obtain ⟨last, hl, hle⟩ := lastDispatched_run rt cal (hs.effect he) more hw hlast
  have hs' : (more.foldl (step rt cal) (s.step rt cal op)).Inv :=
    foldl_invariant (P := Inv) (fun u o h => h.effect (effect_step rt cal u o)) (hs.effect he) more
  obtain ⟨⟨row, hrow, hlater, -⟩, -⟩ :=
    dispatch_of_effect hs' (effect_step rt cal _ op') hd'.1 hd'.2
  have hlt : last < t' := hlater last (by simpa [lastDispatched, hrow] using hl)
  exact lt_of_le_of_lt hle hlt

end CronSystem

end Orcheo.Repository
