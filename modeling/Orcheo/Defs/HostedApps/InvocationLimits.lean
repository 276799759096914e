import Mathlib.Algebra.Order.Group.Int
import Mathlib.Data.Set.Finite.Lattice
import Orcheo.Lib.SlidingWindow
import Orcheo.Defs.HostedApps.Invocations

/-! Limits of invocations: what a minute holds of accepted invocations, how many runs are live at
a time, and what a rejected invocation leaves, in both services. -/

namespace Orcheo.HostedApps

open Lib (Dict bind_ok_iff)
open Lib.SlidingWindow (Admitted charged)

inductive Allowance
  | app (appId : Uuid)
  | ip (appId : Uuid) (clientIp : String)
  | session (appId sessionId : Uuid)

namespace Allowance

def limit (workspaceId : Uuid) (allowance : Allowance) (inv : Invocation) : Option Int :=
  if inv.workspaceId = workspaceId then match allowance with
    | app appId =>
      if inv.appId = appId then inv.binding.limits.get? "per_app_per_minute" else none
    | ip appId clientIp =>
      if inv.appId = appId ∧ inv.clientIp = some clientIp then
        inv.binding.limits.get? "per_ip_per_minute"
      else none
    | session appId sessionId =>
      if inv.appId = appId ∧ inv.sessionId = some sessionId then
        inv.binding.limits.get? "per_session_per_minute"
      else none
  else none

/-- The window that a service keeps for it. -/
def key (scope : String) (client : String → String) : Allowance → String
  | app appId => scope ++ "app:" ++ toString appId
  | ip appId clientIp => scope ++ "ip:" ++ toString appId ++ ":" ++ client clientIp
  | session appId sessionId =>
    scope ++ "session:" ++ toString appId ++ ":" ++ toString sessionId

end Allowance

structure RunScope where
  workspaceId : Uuid
  appId : Uuid
  bindingId : Uuid
  deriving DecidableEq

def Invocation.runScope (inv : Invocation) : RunScope :=
  ⟨inv.workspaceId, inv.appId, inv.binding.id⟩

def AppRun.runScope (run : AppRun) : RunScope := ⟨run.workspaceId, run.appId, run.bindingId⟩

def AppRun.liveAt (run : AppRun) (now : Instant) : Bool :=
  run.status.live && run.timeoutAt.all fun t => decide (now < t)

theorem AppRun.liveAt_mono {run : AppRun} {now later : Instant}
    (live : run.liveAt later = true) (before : now ≤ later) : run.liveAt now = true := by
  unfold liveAt at live ⊢
  cases timeout : run.timeoutAt with
  | none => simpa [timeout] using live
  | some t =>
    simp only [timeout, Option.all_some, Bool.and_eq_true, decide_eq_true_eq] at live ⊢
    exact ⟨live.1, lt_of_le_of_lt before live.2⟩

namespace RuntimeService

variable (service : RuntimeService)

def accepts (s : service.State) (c : Instant × RuntimeCall) : Option (Instant × Invocation) :=
  match c.2 with
  | .accept handle inv => match service.accept s c.1 handle inv with
    | .ok r => if r.newlyAccepted then some (c.1, inv) else none
    | .error _ => none
  | .run _ _ => none

def accepted : service.State → List (Instant × RuntimeCall) → List (Instant × Invocation)
  | _, [] => []
  | s, c :: cs => (service.accepts s c).toList ++ accepted (service.step s c) cs

def Live (s : service.State) (scope : RunScope) (now : Instant) (handle : String) : Prop :=
  ∃ run, service.run s handle = some run ∧ run.runScope = scope ∧ run.liveAt now = true

structure LimitsKept (calls : List (Instant × RuntimeCall)) : Prop where
  minute : ∀ workspaceId allowance most (window : Instant → Bool),
    (∀ t t', window t = true → window t' = true → t' < t + seconds 60) →
      (service.accepted service.start calls).countP (fun e => window e.1 &&
        (Allowance.limit workspaceId allowance e.2).any fun l => decide (l ≤ most)) ≤ most.toNat
  concurrency : ∀ scope most now, (∀ c ∈ calls, c.1 ≤ now) →
    (∀ e ∈ service.accepted service.start calls, e.2.runScope = scope →
      ∃ l, e.2.binding.limits.get? "max_concurrency" = some l ∧ l ≤ most) →
    ∀ handles : List String, handles.Nodup →
      (∀ h ∈ handles, service.Live (calls.foldl service.step service.start) scope now h) →
        handles.length ≤ most.toNat
  rejected : ∀ before now handle inv e more, calls = before ++ (now, .accept handle inv) :: more →
    service.accept (before.foldl service.step service.start) now handle inv = .error e →
    ∀ later handle' inv', (∀ c ∈ calls, c.1 ≤ later) →
      service.accept (calls.foldl service.step service.start) later handle' inv' =
        service.accept ((before ++ more).foldl service.step service.start) later handle' inv'

variable {service}

structure Counted (scope : String) (client : String → String)
    (standing : Instant → Uuid → String → Nat) (now : Instant) (log : List (Instant × Invocation)) :
    Prop where
  past : ∀ e ∈ log, e.1 ≤ now
  counted : ∀ workspaceId (allowance : Allowance) later, now ≤ later →
    charged (allowance.limit workspaceId) (later - seconds 60) log ≤
      standing later workspaceId (allowance.key scope client)
  admitted : ∀ workspaceId (allowance : Allowance),
    Admitted (allowance.limit workspaceId) (seconds 60) log

section Counted

variable {scope : String} {client : String → String}
  {standing standing' : Instant → Uuid → String → Nat} {now now' : Instant}
  {log : List (Instant × Invocation)}

theorem Counted.kept (known : Counted scope client standing now log) (later : now ≤ now')
    (more : ∀ t workspaceId (allowance : Allowance), now' ≤ t →
      standing t workspaceId (allowance.key scope client) ≤
        standing' t workspaceId (allowance.key scope client)) :
    Counted scope client standing' now' log where
  past e mem := le_trans (known.past e mem) later
  counted workspaceId allowance t after :=
    le_trans (known.counted workspaceId allowance t (le_trans later after))
      (more t workspaceId allowance after)
  admitted := known.admitted

theorem mem_windows {inv : Invocation} {specs : List (String × Int)}
    (windows : inv.windows scope client = .ok specs) {workspaceId : Uuid} {allowance : Allowance}
    {l : Int} (limited : allowance.limit workspaceId inv = some l) :
    inv.workspaceId = workspaceId ∧ (allowance.key scope client, l) ∈ specs := by
  unfold Allowance.limit at limited
  by_cases own : inv.workspaceId = workspaceId
  · refine ⟨own, ?_⟩
    rw [if_pos own] at limited
    unfold Invocation.windows at windows
    cases allowance with
    | app appId =>
      dsimp only at limited
      by_cases here : inv.appId = appId
      · rw [if_pos here] at limited
        simp only [limited, here, Option.map_some, Option.toList_some] at windows
        split at windows <;> try split at windows
        all_goals cases windows
        all_goals exact List.mem_append_left _ (by simp [Allowance.key])
      · rw [if_neg here] at limited
        cases limited
    | ip appId clientIp =>
      dsimp only at limited
      by_cases here : inv.appId = appId ∧ inv.clientIp = some clientIp
      · rw [if_pos here] at limited
        simp only [limited, here.1, here.2] at windows
        split at windows
        next => cases windows
        next =>
          cases windows
          simp [Allowance.key]
      · rw [if_neg here] at limited
        cases limited
    | session appId sessionId =>
      dsimp only at limited
      by_cases here : inv.appId = appId ∧ inv.sessionId = some sessionId
      · rw [if_pos here] at limited
        simp only [limited, here.1, here.2] at windows
        split at windows <;> try split at windows
        all_goals cases windows
        all_goals exact List.mem_append_right _ (by simp [Allowance.key])
      · rw [if_neg here] at limited
        cases limited
  · rw [if_neg own] at limited
    cases limited

theorem Counted.accept (known : Counted scope client standing now log) {inv : Invocation}
    {specs : List (String × Int)} (windows : inv.windows scope client = .ok specs)
    (room : ∀ spec ∈ specs, (standing now inv.workspaceId spec.1 : Int) < spec.2)
    (more : ∀ t workspaceId (allowance : Allowance), now ≤ t →
      standing t workspaceId (allowance.key scope client) +
        (if inv.workspaceId = workspaceId ∧ allowance.key scope client ∈ specs.map Prod.fst ∧
          t - seconds 60 < now then 1 else 0) ≤
        standing' t workspaceId (allowance.key scope client)) :
    Counted scope client standing' now (log ++ [(now, inv)]) where
  past e mem := by
    cases List.mem_append.mp mem with
    | inl old => exact known.past e old
    | inr new => exact le_of_eq (congrArg Prod.fst (List.mem_singleton.mp new))
  counted workspaceId allowance t after := by
    have before := known.counted workspaceId allowance t after
    have grown := more t workspaceId allowance after
    unfold charged at before ⊢
    rw [List.countP_append, List.countP_singleton]
    by_cases counts : ((allowance.limit workspaceId inv).isSome &&
        decide (t - seconds 60 < now)) = true
    · obtain ⟨limited, recent⟩ := Bool.and_eq_true_iff.mp counts
      obtain ⟨l, limited⟩ := Option.isSome_iff_exists.mp limited
      obtain ⟨own, mem⟩ := mem_windows windows limited
      rw [if_pos ⟨own, List.mem_map_of_mem (f := Prod.fst) mem, of_decide_eq_true recent⟩] at grown
      rw [if_pos counts]
      omega
    · rw [if_neg counts]
      omega
  admitted workspaceId allowance := by
    refine .take (known.admitted workspaceId allowance) known.past fun l limited => ?_
    obtain ⟨own, mem⟩ := mem_windows windows limited
    have free := room _ mem
    rw [own] at free
    exact lt_of_le_of_lt (Int.ofNat_le.mpr (known.counted workspaceId allowance now le_rfl)) free

end Counted

section Accepts

variable {s : service.State} {now : Instant} {handle : String} {inv : Invocation}

theorem accepts_of_new {r : AppRuntimeResult} (done : service.accept s now handle inv = .ok r)
    (new : r.newlyAccepted = true) :
    service.accepts s (now, .accept handle inv) = some (now, inv) := by
  unfold accepts
  simp only [done, new, if_true]

theorem accepts_of_old
    (old : ∀ r, service.accept s now handle inv = .ok r → r.newlyAccepted = false) :
    service.accepts s (now, .accept handle inv) = none := by
  unfold accepts
  cases done : service.accept s now handle inv with
  | error e => simp only [done]
  | ok r => simp [done, old r done]

theorem call_of_accepts {c : Instant × RuntimeCall} {e : Instant × Invocation}
    (accepted : service.accepts s c = some e) : ∃ handle r, c.2 = .accept handle e.2 ∧
      service.accept s c.1 handle e.2 = .ok r ∧ r.newlyAccepted = true := by
  obtain ⟨now, call⟩ := c
  unfold accepts at accepted
  cases call with
  | run handle call => cases accepted
  | accept handle inv =>
    cases done : service.accept s now handle inv with
    | error e => simp [done] at accepted
    | ok r =>
      simp only [done] at accepted
      split at accepted
      next new =>
        cases accepted
        exact ⟨handle, r, rfl, done, new⟩
      next => cases accepted

end Accepts

abbrev Log := List (Instant × Invocation)

def Log.Bounded (log : Log) (scope : RunScope) (most : Int) : Prop :=
  ∀ e ∈ log, e.2.runScope = scope →
    ∃ l, e.2.binding.limits.get? "max_concurrency" = some l ∧ l ≤ most

def Held (s : service.State) (now : Instant) (log : Log) : Prop :=
  ∀ scope most later, now ≤ later → log.Bounded scope most → ∀ handles : List String,
    handles.Nodup → (∀ h ∈ handles, service.Live s scope later h) → handles.length ≤ most.toNat

/-- What keeps the limits: `Known` is kept by the calls, and states that are `Alike` answer the same
from a time on. -/
structure Limits (service : RuntimeService) (Valid : Instant × RuntimeCall → Prop)
    (scope : String) (client : String → String)
    (standing : service.State → Instant → Uuid → String → Nat)
    (Known : service.State → Instant → Log → Prop)
    (Alike : Instant → service.State → service.State → Prop) : Prop where
  start : ∀ now, Known service.start now []
  fresh : ∀ h, service.run service.start h = none
  later : ∀ s now now' log, Known s now log → now ≤ now' → Known s now' log
  counted : ∀ s now log, Known s now log → Counted scope client (standing s) now log
  step : ∀ s c log, Valid c → Known s c.1 log →
    Known (service.step s c) c.1 (log ++ (service.accepts s c).toList)
  live : ∀ s c scope now h, service.Live (service.step s c) scope now h →
    service.Live s scope now h ∨
      ∃ inv, c.2 = .accept h inv ∧ service.accepts s c = some (c.1, inv) ∧ inv.runScope = scope
  room : ∀ s c log inv most l, Known s c.1 log → service.accepts s c = some (c.1, inv) →
    inv.binding.limits.get? "max_concurrency" = some l → log.Bounded inv.runScope most →
    ∀ handles : List String, handles.Nodup →
      (∀ h ∈ handles, service.Live s inv.runScope c.1 h) → (handles.length : Int) < l
  rejected : ∀ s now handle inv e, service.accept s now handle inv = .error e →
    Alike now (service.step s (now, .accept handle inv)) s
  alike_later : ∀ s s' now now', Alike now s s' → now ≤ now' → Alike now' s s'
  alike_step : ∀ s s' c, Alike c.1 s s' → Alike c.1 (service.step s c) (service.step s' c)
  alike_accept : ∀ s s' now handle inv, Alike now s s' →
    service.accept s now handle inv = service.accept s' now handle inv

section Limits

variable {Valid : Instant × RuntimeCall → Prop} {scope : String} {client : String → String}
  {standing : service.State → Instant → Uuid → String → Nat}
  {Known : service.State → Instant → Log → Prop}
  {Alike : Instant → service.State → service.State → Prop}
  {s s' : service.State} {c : Instant × RuntimeCall} {now : Instant} {log : Log}

theorem Live.earlier {scope : RunScope} {later : Instant} {h : String}
    (live : service.Live s scope later h) (before : now ≤ later) : service.Live s scope now h := by
  obtain ⟨run, stored, here, live⟩ := live
  exact ⟨run, stored, here, AppRun.liveAt_mono live before⟩

theorem Held.step (limits : Limits service Valid scope client standing Known Alike)
    (held : Held s c.1 log) (known : Known s c.1 log) :
    Held (service.step s c) c.1 (log ++ (service.accepts s c).toList) := by
  intro σ most later after bounded handles nodup live
  have old : log.Bounded σ most := fun e mem => bounded e (List.mem_append_left _ mem)
  by_cases started : ∃ h inv, h ∈ handles ∧ c.2 = .accept h inv ∧
      service.accepts s c = some (c.1, inv) ∧ inv.runScope = σ
  · obtain ⟨h, inv, mem, call, accepted, here⟩ := started
    obtain ⟨l, limited, small⟩ := bounded (c.1, inv)
      (List.mem_append_right _ (by simp [accepted])) here
    have room := limits.room s c log inv most l known accepted limited (here ▸ old)
      (handles.erase h) (nodup.erase h) fun h' mem' => by
        obtain ⟨other, mem'⟩ := nodup.mem_erase_iff.mp mem'
        cases limits.live s c σ later h' (live h' mem') with
        | inl before => exact here ▸ before.earlier after
        | inr new =>
          obtain ⟨_, same, _⟩ := new
          rw [call, RuntimeCall.accept.injEq] at same
          exact absurd same.1.symm other
    have shorter := List.length_erase_of_mem mem
    have some := List.length_pos_of_mem mem
    omega
  · refine held σ most later after old handles nodup fun h mem => ?_
    cases limits.live s c σ later h (live h mem) with
    | inl before => exact before
    | inr new =>
      obtain ⟨inv, new⟩ := new
      exact absurd ⟨h, inv, mem, new⟩ started

variable {calls : List (Instant × RuntimeCall)} {last : Instant}

section

variable (limits : Limits service Valid scope client standing Known Alike)
  (ordered : calls.Pairwise (·.1 ≤ ·.1))
include limits ordered

theorem Limits.run (valid : ∀ c ∈ calls, Valid c) (past : ∀ c ∈ calls, c.1 ≤ last)
    (known : Known s now log) (held : Held s now log) (from_ : ∀ c ∈ calls, now ≤ c.1)
    (reaches : now ≤ last) :
    Known (calls.foldl service.step s) last (log ++ service.accepted s calls) ∧
      Held (calls.foldl service.step s) last (log ++ service.accepted s calls) := by
  induction calls generalizing s now log with
  | nil =>
    rw [accepted, List.append_nil]
    exact ⟨limits.later s now last log known reaches,
      fun σ most later after => held σ most later (le_trans reaches after)⟩
  | cons c cs ih =>
    obtain ⟨first, ordered⟩ := List.pairwise_cons.mp ordered
    have reached := from_ c List.mem_cons_self
    have known := limits.later s now c.1 log known reached
    have held : Held s c.1 log :=
      fun σ most later after => held σ most later (le_trans reached after)
    rw [List.foldl_cons, accepted, ← List.append_assoc]
    exact ih ordered (fun c' mem => valid c' (List.mem_cons_of_mem c mem))
      (fun c' mem => past c' (List.mem_cons_of_mem c mem))
      (limits.step s c log (valid c List.mem_cons_self) known) (held.step limits known) first
      (past c List.mem_cons_self)

theorem Limits.alike_run (from_ : ∀ c ∈ calls, now ≤ c.1) (alike_ : Alike now s s')
    (past : ∀ c ∈ calls, c.1 ≤ last) (reaches : now ≤ last) :
    Alike last (calls.foldl service.step s) (calls.foldl service.step s') := by
  induction calls generalizing s s' now with
  | nil => exact limits.alike_later s s' now last alike_ reaches
  | cons c cs ih =>
    obtain ⟨first, ordered⟩ := List.pairwise_cons.mp ordered
    have alike_ := limits.alike_later s s' now c.1 alike_ (from_ c List.mem_cons_self)
    exact ih ordered first (limits.alike_step s s' c alike_)
      (fun c' mem => past c' (List.mem_cons_of_mem c mem)) (past c List.mem_cons_self)

theorem Limits.whole (valid : ∀ c ∈ calls, Valid c) (past : ∀ c ∈ calls, c.1 ≤ last) :
    Known (calls.foldl service.step service.start) last (service.accepted service.start calls) ∧
      Held (calls.foldl service.step service.start) last
        (service.accepted service.start calls) := by
  have held (now : Instant) : Held service.start now [] := by
    intro σ most later _ _ handles _ live
    cases handles with
    | nil => exact Nat.zero_le _
    | cons h hs =>
      obtain ⟨run, stored, _⟩ := live h List.mem_cons_self
      rw [limits.fresh] at stored
      cases stored
  cases calls with
  | nil => exact ⟨limits.start last, held last⟩
  | cons c cs =>
    refine limits.run ordered valid past (limits.start c.1) (held c.1) (fun c' mem => ?_)
      (past c List.mem_cons_self)
    cases mem with
    | head => exact le_rfl
    | tail _ mem => exact (List.pairwise_cons.mp ordered).1 c' mem

theorem Limits.limitsKept (valid : ∀ c ∈ calls, Valid c) : service.LimitsKept calls := by
  constructor
  case minute =>
    intro workspaceId allowance most window shorter
    obtain ⟨last, past⟩ := (calls.map Prod.fst).finite_toSet.bddAbove
    have known := (limits.whole ordered valid fun c mem => past (List.mem_map_of_mem mem)).1
    exact ((limits.counted _ _ _ known).admitted workspaceId allowance).countP_le most shorter
  case concurrency =>
    intro σ most now past bounded
    exact (limits.whole ordered valid past).2 σ most now le_rfl bounded
  case rejected =>
    intro before now handle inv e more split refused later handle' inv' past
    rw [split] at ordered past ⊢
    obtain ⟨_, ordered, _⟩ := List.pairwise_append.mp ordered
    obtain ⟨after, ordered⟩ := List.pairwise_cons.mp ordered
    rw [List.foldl_append, List.foldl_cons, List.foldl_append]
    apply limits.alike_accept
    exact limits.alike_run ordered after (limits.rejected _ now handle inv e refused)
      (fun c mem => past c (by simp [mem])) (past (now, .accept handle inv) (by simp))

end

end Limits

end RuntimeService

open RuntimeService (accepts_of_old accepts_of_new call_of_accepts)

section Windows

variable {now later : Instant} {windows : Dict String (List Instant)} {key : String}

def visible (now : Instant) (windows : Dict String (List Instant)) : Dict String (List Instant) :=
  (windows.mapValues fun _ => expireWindow now).filter fun _ events => !events.isEmpty

def standingIn (windows : Dict String (List Instant)) (now : Instant) (key : String) : Nat :=
  (expireWindow now ((windows.get? key).getD [])).length

theorem expireWindow_expireWindow (after : now ≤ later) (events : List Instant) :
    expireWindow later (expireWindow now events) = expireWindow later events := by
  induction events with
  | nil => rfl
  | cons event events ih =>
    by_cases old : event ≤ now - seconds 60
    · have older : event ≤ later - seconds 60 := le_trans old (sub_le_sub_right after _)
      simpa only [expireWindow, List.dropWhile_cons, old, older, decide_true, if_true] using ih
    · rw [show expireWindow now (event :: events) = event :: events from
        List.dropWhile_cons_of_neg (by simpa using old)]

theorem standingIn_eq_visible :
    standingIn windows now key = (((visible now windows).get? key).getD []).length := by
  unfold standingIn visible
  rw [Dict.get?_filter, Dict.get?_mapValues]
  cases windows.get? key with
  | none => rfl
  | some events =>
    cases left : expireWindow now events with
    | nil => simp [left, Option.filter]
    | cons event events' => simp [left, Option.filter]

theorem visible_visible (after : now ≤ later) :
    visible later (visible now windows) = visible later windows := by
  apply Dict.ext_entries
  show (((windows.entries.map fun e => (e.1, expireWindow now e.2)).filter
      fun e => !e.2.isEmpty).map fun e => (e.1, expireWindow later e.2)).filter
        (fun e => !e.2.isEmpty) =
    (windows.entries.map fun e => (e.1, expireWindow later e.2)).filter fun e => !e.2.isEmpty
  induction windows.entries with
  | nil => rfl
  | cons e es ih =>
    have same := expireWindow_expireWindow after e.2
    cases left : expireWindow now e.2 with
    | nil =>
      rw [left] at same
      have none : expireWindow later e.2 = [] := same.symm
      simpa [left, none] using ih
    | cons event events =>
      rw [left] at same
      simp only [List.map_cons, left, List.filter_cons, List.isEmpty_cons, Bool.not_false, if_true,
        same, ih]

theorem visible_set (after : now ≤ later) :
    visible later (windows.set key (expireWindow now ((windows.get? key).getD []))) =
      visible later windows := by
  unfold visible
  rw [Dict.mapValues_set, expireWindow_expireWindow after]
  cases there : windows.get? key with
  | none =>
    apply Dict.filter_set_of_refused
    · rw [Dict.get?_mapValues, there, Option.map_none]
    · rfl
  | some events =>
    rw [Dict.set_of_get? (by rw [Dict.get?_mapValues, there, Option.map_some, Option.getD_some])]

variable (specs : List (String × Int))

theorem checkWindows_spec : (∀ later, now ≤ later →
      visible later (AppRuntimeService.checkWindows now windows specs).1 = visible later windows) ∧
    ((AppRuntimeService.checkWindows now windows specs).2 = .ok () →
      ∀ spec ∈ specs, (standingIn windows now spec.1 : Int) < spec.2) := by
  induction specs generalizing windows with
  | nil => exact ⟨fun _ _ => rfl, nofun⟩
  | cons spec specs ih =>
    obtain ⟨key, limit⟩ := spec
    rw [AppRuntimeService.checkWindows]
    split
    next => exact ⟨fun later after => visible_set after, nofun⟩
    next free =>
      obtain ⟨same, room⟩ := @ih (windows.set key _)
      refine ⟨fun later after => (same later after).trans (visible_set after), fun ok spec mem => ?_⟩
      cases mem with
      | head => exact not_le.mp free
      | tail _ mem =>
        have room := room ok spec mem
        rwa [standingIn_eq_visible, visible_set le_rfl, ← standingIn_eq_visible] at room

theorem length_expireWindow_append (events : List Instant) :
    (expireWindow later events).length + (if later - seconds 60 < now then 1 else 0) ≤
      (expireWindow later (events ++ [now])).length := by
  unfold expireWindow
  rw [List.dropWhile_append]
  cases List.dropWhile _ events with
  | nil =>
    by_cases recent : later - seconds 60 < now
    · simp [recent]
    · simp [recent]
  | cons event rest => split <;> simp

theorem standingIn_foldl :
    standingIn windows later key +
        (if key ∈ specs.map Prod.fst ∧ later - seconds 60 < now then 1 else 0) ≤
      standingIn (specs.foldl (fun windows spec =>
        windows.set spec.1 ((windows.get? spec.1).getD [] ++ [now])) windows) later key := by
  induction specs generalizing windows with
  | nil => simp
  | cons spec specs ih =>
    rw [List.foldl_cons]
    refine le_trans ?_ ih
    unfold standingIn
    rw [Dict.get?_set]
    by_cases here : key = spec.1
    · have more := @length_expireWindow_append now later
        ((windows.get? spec.1).getD [])
      simp only [here, if_true, Option.getD_some, List.map_cons, List.mem_cons, true_or, true_and]
      omega
    · simp only [List.map_cons, List.mem_cons, here, false_or, if_false, le_rfl]

end Windows

namespace AppRun

variable {rt : RuntimeHost} {now : Instant} {run : AppRun}

theorem live_applyTimeout (live : (run.applyTimeout now).status.live = true) :
    run.applyTimeout now = run := by
  unfold applyTimeout at live ⊢
  split at live
  next => cases live
  next settled => rw [if_neg settled]

theorem live_inMemory {call : RunCall} (live : (run.inMemory rt now call).status.live = true) :
    run.inMemory rt now call = run := by
  cases call with
  | status scope =>
    rw [inMemory] at live ⊢
    split at live
    next inScope =>
      rw [if_pos inScope]
      exact live_applyTimeout live
    next outside => rw [if_neg outside]
  | complete output error =>
    rw [inMemory, AppRuntimeService.completeRun] at live ⊢
    by_cases failed : (run.applyTimeout now).status = .failed
    · simp only [failed, if_true] at live
      cases live
    · by_cases reported : error.isSome = true
      · simp only [failed, reported, if_true, if_false] at live
        cases live
      · simp only [failed, reported, if_false] at live ⊢
        cases text : rt.canonicalJson (projectOutput output (run.applyTimeout now).outputProjection)
        case none =>
          simp only [text] at live ⊢
          exact live_applyTimeout live
        case some encoded =>
          simp only [text] at live
          by_cases big : (run.applyTimeout now).maxOutputBytes < encoded.utf8ByteSize
          · rw [if_pos big] at live
            cases live
          · rw [if_neg big] at live
            cases live
  | cancel =>
    rw [inMemory] at live ⊢
    split at live
    next => cases live
    next settled => rw [if_neg settled]

theorem settled_of_settle {output : Json} {error : Option String} {run' : AppRun}
    (written : PostgresAppRuntimeService.settle rt now output error run = .ok (some run')) :
    run'.status.live = false ∧ run'.runScope = run.runScope := by
  unfold PostgresAppRuntimeService.settle at written
  split at written
  next => cases written
  next =>
    split at written
    next =>
      cases written
      exact ⟨rfl, rfl⟩
    next =>
      split at written
      next =>
        cases written
        exact ⟨rfl, rfl⟩
      next =>
        dsimp only at written
        split at written
        next => cases written
        next =>
          split at written
          next =>
            cases written
            exact ⟨rfl, rfl⟩
          next =>
            split at written
            next => cases written
            next =>
              cases written
              exact ⟨rfl, rfl⟩

end AppRun

theorem old_of_replay {requestHash : String} {runs : String → Option AppRun}
    {prior : String × String × Instant} {r : AppRuntimeResult}
    (replayed : replay requestHash runs prior = .ok r) : r.newlyAccepted = false := by
  unfold replay at replayed
  dsimp only at replayed
  split at replayed
  next => cases replayed
  next =>
    split at replayed
    next => cases replayed
    next =>
      cases replayed
      rfl

namespace AppRuntimeService

variable {rt : RuntimeHost} {config : RuntimeConfig} {svc svc' : AppRuntimeService}
  {now later : Instant} {handle : String}

theorem prune_congr (runs : svc.runs = svc'.runs) (idempotency : svc.idempotency = svc'.idempotency)
    (windows : visible now svc.invocationWindows = visible now svc'.invocationWindows) :
    svc.prune now = svc'.prune now := by
  unfold prune
  rw [runs, idempotency]
  unfold visible at windows
  rw [windows]

theorem prune_prune (after : now ≤ later) : (svc.prune now).prune later = svc.prune later := by
  have runs : (svc.prune now).runs.filter (fun _ run => decide (later < run.expiresAt)) =
      svc.runs.filter fun _ run => decide (later < run.expiresAt) := by
    dsimp only [prune]
    apply Dict.filter_filter_of_imp
    intro h run kept
    exact decide_eq_true (lt_of_le_of_lt after (of_decide_eq_true kept))
  rw [prune, runs]
  dsimp only [prune]
  congr 1
  · apply Dict.filter_filter_of_imp
    intro scope prior kept
    obtain ⟨live, there⟩ := Bool.and_eq_true_iff.mp kept
    obtain ⟨run, there⟩ := Option.isSome_iff_exists.mp there
    have there : (svc.prune now).runs.get? prior.2.1 = some run := by
      obtain ⟨stored, live⟩ := get?_prune.mp there
      exact get?_prune.mpr ⟨stored, lt_of_le_of_lt after live⟩
    rw [Bool.and_eq_true_iff, decide_eq_true_iff]
    exact ⟨lt_of_le_of_lt after (of_decide_eq_true live), Option.isSome_iff_exists.mpr ⟨run, there⟩⟩
  · exact visible_visible after

theorem step_absent (absent : svc.runs.get? handle = none) (call : RunCall) :
    svc.step rt config (now, .run handle call) = svc := by
  cases call <;> simp [step, status, complete, cancel, absent]

theorem step_run {run : AppRun} (stored : svc.runs.get? handle = some run) (call : RunCall) :
    svc.step rt config (now, .run handle call) =
      { svc with runs := svc.runs.set handle (run.inMemory rt now call) } := by
  cases call with
  | status scope =>
    cases inScope : run.inScope now scope with
    | false => simp [step, status, stored, AppRun.inMemory, inScope, Dict.set_of_get? stored]
    | true =>
      cases visitor : (run.applyTimeout now).ofVisitor scope <;>
        simp [step, status, stored, AppRun.inMemory, inScope, visitor]
  | complete output error => simp [step, complete, stored, AppRun.inMemory]
  | cancel =>
    cases live : run.status.live <;>
      simp [step, cancel, stored, AppRun.inMemory, live, Dict.set_of_get? stored]

theorem prune_call (call : RunCall) : (svc.step rt config (now, .run handle call)).prune later =
      (svc.prune later).step rt config (now, .run handle call) := by
  cases stored : svc.runs.get? handle with
  | none =>
    have absent : (svc.prune later).runs.get? handle = none := by
      rw [prune, Dict.get?_filter, stored]
      rfl
    rw [step_absent stored, step_absent absent]
  | some run =>
    have expires : (run.inMemory rt now call).expiresAt = run.expiresAt :=
      expiresAt_inMemory run call
    rw [step_run stored]
    by_cases kept : later < run.expiresAt
    · have there : (svc.prune later).runs.get? handle = some run := get?_prune.mpr ⟨stored, kept⟩
      have runs : (svc.runs.set handle (run.inMemory rt now call)).filter
          (fun _ run => decide (later < run.expiresAt)) =
            (svc.prune later).runs.set handle (run.inMemory rt now call) :=
        Dict.filter_replaced_of_kept stored (decide_eq_true kept)
          (decide_eq_true (expires ▸ kept))
      have known (h : String) : ((svc.prune later).runs.set handle
          (run.inMemory rt now call)).contains h = (svc.prune later).runs.contains h := by
        unfold Dict.contains
        rw [Dict.get?_set]
        split
        next here =>
          rw [here, there]
          rfl
        next => rfl
      rw [step_run there, prune]
      dsimp only
      rw [runs]
      simp only [known]
      rfl
    · have absent : (svc.prune later).runs.get? handle = none := by
        rw [prune, Dict.get?_filter, stored, Option.filter_some_neg (by simpa using kept)]
      have runs : (svc.runs.set handle (run.inMemory rt now call)).filter
          (fun _ run => decide (later < run.expiresAt)) =
            svc.runs.filter fun _ run => decide (later < run.expiresAt) :=
        Dict.filter_replaced_of_refused stored (decide_eq_false kept)
          (decide_eq_false (expires ▸ kept))
      rw [step_absent absent, prune]
      dsimp only
      rw [runs]
      rfl

theorem enforce_cases (svc : AppRuntimeService) (now : Instant) (inv : Invocation) :
    (∃ e, (svc.enforceInvocationLimits now inv).2 = .error e) ∧
        (∀ later, now ≤ later →
          visible later (svc.enforceInvocationLimits now inv).1.invocationWindows =
            visible later svc.invocationWindows) ∨
      (svc.enforceInvocationLimits now inv).2 = .ok () ∧
        (∀ l, inv.binding.limits.get? "max_concurrency" = some l →
          (svc.concurrent now inv : Int) < l) ∧
        ∃ specs, inv.windows "" id = .ok specs ∧
          (∀ spec ∈ specs, (standingIn svc.invocationWindows now spec.1 : Int) < spec.2) ∧
          ∀ later key, now ≤ later → standingIn svc.invocationWindows later key +
              (if key ∈ specs.map Prod.fst ∧ later - seconds 60 < now then 1 else 0) ≤
            standingIn (svc.enforceInvocationLimits now inv).1.invocationWindows later key := by
  unfold enforceInvocationLimits
  by_cases full : (inv.binding.limits.get? "max_concurrency").any
      (fun (limit : Int) => decide (limit ≤ svc.concurrent now inv)) = true
  · rw [if_pos full]
    exact .inl ⟨⟨_, rfl⟩, fun _ _ => rfl⟩
  · rw [if_neg full]
    cases windows : inv.windows "" id with
    | error e => exact .inl ⟨⟨e, rfl⟩, fun _ _ => rfl⟩
    | ok specs =>
      obtain ⟨same, room⟩ := @checkWindows_spec now svc.invocationWindows specs
      dsimp only
      cases checked : checkWindows now svc.invocationWindows specs with
      | mk left result =>
        rw [checked] at same room
        cases result with
        | error e => exact .inl ⟨⟨e, rfl⟩, same⟩
        | ok _ =>
          refine .inr ⟨rfl, fun l limited => ?_, specs, rfl, room rfl, fun later key after => ?_⟩
          · rw [limited, Option.any_some, decide_eq_true_iff] at full
            exact not_le.mp full
          · have grown := @standingIn_foldl now later left key specs
            rwa [standingIn_eq_visible, same later after, ← standingIn_eq_visible] at grown

theorem accept_outcome (svc : AppRuntimeService) (now : Instant) (handle : String)
    (inv : Invocation) :
    (∀ r, (svc.accept rt config now handle inv).2 = .ok r → r.newlyAccepted = false) ∧
        (∀ later, now ≤ later →
          (svc.accept rt config now handle inv).1.prune later = svc.prune later) ∧
        (∀ h run, (svc.accept rt config now handle inv).1.runs.get? h = some run →
          svc.runs.get? h = some run) ∨
      (∃ r, (svc.accept rt config now handle inv).2 = .ok r ∧ r.newlyAccepted = true) ∧
        (∀ l, inv.binding.limits.get? "max_concurrency" = some l →
          ((svc.prune now).concurrent now inv : Int) < l) ∧
        ∃ specs, inv.windows "" id = .ok specs ∧
          (∀ spec ∈ specs, (standingIn svc.invocationWindows now spec.1 : Int) < spec.2) ∧
          ∀ later key, now ≤ later → standingIn svc.invocationWindows later key +
              (if key ∈ specs.map Prod.fst ∧ later - seconds 60 < now then 1 else 0) ≤
            standingIn (svc.accept rt config now handle inv).1.invocationWindows later key := by
  have older {h : String} {run : AppRun} (pruned : (svc.prune now).runs.get? h = some run) :
      svc.runs.get? h = some run := (get?_prune.mp pruned).1
  have standing {later : Instant} (key : String) (after : now ≤ later) :
      standingIn (svc.prune now).invocationWindows later key =
        standingIn svc.invocationWindows later key := by
    rw [standingIn_eq_visible, standingIn_eq_visible]
    exact congrArg (fun windows => ((Dict.get? windows key).getD []).length) (visible_visible after)
  unfold accept
  cases inv.admission rt config with
  | error e => exact .inl ⟨nofun, fun _ _ => rfl, fun _ _ => id⟩
  | ok hashes =>
    obtain ⟨scopeHash, requestHash⟩ := hashes
    dsimp only
    cases (svc.prune now).idempotency.get? scopeHash with
    | some prior =>
      refine .inl ⟨fun r replayed => ?_, fun _ => prune_prune, fun _ _ => older⟩
      exact old_of_replay replayed
    | none =>
      have runs : ((svc.prune now).enforceInvocationLimits now inv).1.runs = _ :=
        runs_enforceInvocationLimits inv
      have idempotency : ((svc.prune now).enforceInvocationLimits now inv).1.idempotency = _ :=
        idempotency_enforceInvocationLimits inv
      have outcome := enforce_cases (svc.prune now) now inv
      cases limited : (svc.prune now).enforceInvocationLimits now inv with
      | mk svc' result =>
        rw [limited] at runs idempotency outcome
        dsimp only at runs idempotency outcome ⊢
        cases result with
        | error e =>
          obtain ⟨_, same⟩ := outcome.resolve_right fun granted => (by cases granted.1)
          refine .inl ⟨nofun, fun later after => ?_, fun h run stored => ?_⟩
          · exact (prune_congr runs idempotency (same later after)).trans (prune_prune after)
          · exact older (runs ▸ stored)
        | ok _ =>
          obtain ⟨_, room, specs, windows, free, grown⟩ :=
            outcome.resolve_left fun refused => (by cases refused.1.choose_spec)
          refine .inr ⟨⟨_, rfl, rfl⟩, room, specs, windows, fun spec mem => ?_,
            fun later key after => ?_⟩
          · exact standing spec.1 le_rfl ▸ free spec mem
          · exact standing key after ▸ grown later key after

structure Known (svc : AppRuntimeService) (now : Instant) (log : RuntimeService.Log) : Prop where
  counted : RuntimeService.Counted "" id (fun t _ key => standingIn svc.invocationWindows t key)
    now log
  unexpired : ∀ h run t, svc.runs.get? h = some run → run.liveAt t = true → t < run.expiresAt

def timesOut (config : RuntimeConfig) (c : Instant × RuntimeCall) : Prop :=
  match c.2 with
  | .accept _ inv => inv.binding.limit "timeout_seconds" config.handleTtl ≤ config.handleTtl
  | .run _ _ => True

theorem Known.step {c : Instant × RuntimeCall} {log : RuntimeService.Log}
    (timesOut : timesOut config c) (known : Known svc c.1 log) :
    Known (svc.step rt config c) c.1
      (log ++ ((RuntimeBackend.service rt config .memory).accepts svc c).toList) := by
  obtain ⟨now, call⟩ := c
  cases call with
  | run handle call =>
    rw [show (RuntimeBackend.service rt config .memory).accepts svc (now, .run handle call) = none
      from rfl, Option.toList_none, List.append_nil]
    have windows : (svc.step rt config (now, .run handle call)).invocationWindows =
        svc.invocationWindows := by
      cases stored : svc.runs.get? handle with
      | none => rw [step_absent stored]
      | some run => rw [step_run stored]
    refine ⟨known.counted.kept le_rfl fun t _ key _ => by rw [windows], fun h run t stored live => ?_⟩
    rw [get?_step, Option.map_eq_some_iff] at stored
    obtain ⟨old, stored, rfl⟩ := stored
    split at live
    next here =>
      have same := AppRun.live_inMemory (Bool.and_eq_true_iff.mp live).1
      rw [if_pos here, same]
      exact known.unexpired h old t stored (same ▸ live)
    next other =>
      rw [if_neg other]
      exact known.unexpired h old t stored live
  | accept handle inv =>
    let service := RuntimeBackend.service rt config .memory
    rcases @accept_outcome rt config svc now handle inv with
      ⟨old, same, runs⟩ | ⟨⟨r, started, new⟩, _, specs, windows, free, grown⟩
    · rw [@accepts_of_old service svc now handle inv old, Option.toList_none,
        List.append_nil]
      refine ⟨known.counted.kept le_rfl fun t _ key after => le_of_eq ?_, fun h run t stored live =>
        known.unexpired h run t (runs h run stored) live⟩
      rw [standingIn_eq_visible, standingIn_eq_visible]
      exact congrArg (fun svc : AppRuntimeService => ((svc.invocationWindows.get? _).getD []).length)
        (same t after).symm
    · rw [@accepts_of_new service svc now handle inv r started new,
        Option.toList_some]
      refine ⟨known.counted.accept windows free fun t workspaceId key after => ?_,
        fun h run t stored live => ?_⟩
      · refine le_trans ?_ (grown t _ after)
        by_cases counts : inv.workspaceId = workspaceId ∧ key.key "" id ∈ specs.map Prod.fst ∧
          t - seconds 60 < now
        · rw [if_pos counts, if_pos counts.2]
        · rw [if_neg counts]
          omega
      · cases get?_accept stored with
        | inl old => exact known.unexpired h run t old live
        | inr new =>
          rw [new.2] at live ⊢
          have before := of_decide_eq_true (Bool.and_eq_true_iff.mp live).2
          have timesOut : inv.binding.limit "timeout_seconds" config.handleTtl ≤ config.handleTtl :=
            timesOut
          show t < now + seconds config.handleTtl
          unfold seconds at before ⊢
          unfold Instant Duration at *
          omega

theorem limits (rt : RuntimeHost) (config : RuntimeConfig) :
    (RuntimeBackend.service rt config .memory).Limits (timesOut config) "" id
      (fun svc t _ key => standingIn svc.invocationWindows t key) Known
      (fun now svc svc' => ∀ later, now ≤ later → svc.prune later = svc'.prune later) where
  start now := by
    refine ⟨⟨nofun, fun _ _ _ _ => Nat.zero_le _, fun _ _ => .nil⟩, ?_⟩
    intro h run t stored
    cases stored
  fresh h := rfl
  later svc now now' log known after :=
    ⟨known.counted.kept after fun _ _ _ _ => le_rfl, known.unexpired⟩
  counted svc now log known := known.counted
  step svc c log timesOut known := known.step timesOut
  live svc c scope now h live := by
    obtain ⟨run, stored, here, live⟩ := live
    obtain ⟨time, call⟩ := c
    cases call with
    | run handle call =>
      obtain ⟨old, before, rfl⟩ :=
        Option.map_eq_some_iff.mp ((get?_step handle call h).symm.trans stored)
      split at live
      next same =>
        have kept := AppRun.live_inMemory (Bool.and_eq_true_iff.mp live).1
        rw [if_pos same, kept] at here
        exact .inl ⟨old, before, here, kept ▸ live⟩
      next other =>
        rw [if_neg other] at here
        exact .inl ⟨old, before, here, live⟩
    | accept handle inv =>
      rcases @accept_outcome rt config svc time handle inv with
        ⟨_, _, runs⟩ | ⟨⟨r, started, new⟩, _⟩
      · exact .inl ⟨run, runs h run stored, here, live⟩
      · cases get?_accept stored with
        | inl old => exact .inl ⟨run, old, here, live⟩
        | inr added =>
          rw [added.2] at here
          exact .inr ⟨inv, by rw [added.1], accepts_of_new started new, here⟩
  room svc c log inv most l known accepted limited _ handles nodup live := by
    obtain ⟨time, call⟩ := c
    obtain ⟨handle, r, call, started, new⟩ := call_of_accepts accepted
    rcases @accept_outcome rt config svc time handle inv with ⟨old, _⟩ | ⟨_, room, _⟩
    · rw [old r started] at new
      cases new
    · refine lt_of_le_of_lt (Int.ofNat_le.mpr ?_) (room l limited)
      apply Dict.length_le_filter_values nodup
      intro h mem
      obtain ⟨run, stored, here, live⟩ := live h mem
      have kept := known.unexpired h run time stored live
      obtain ⟨pending, pendingFor⟩ := Bool.and_eq_true_iff.mp live
      refine ⟨run, get?_prune.mpr ⟨stored, kept⟩, ?_⟩
      rw [Bool.and_eq_true_iff, decide_eq_true_iff]
      exact ⟨⟨congrArg RunScope.appId here, congrArg RunScope.bindingId here, pending, kept⟩,
        pendingFor⟩
  rejected svc now handle inv e refused := by
    rcases @accept_outcome rt config svc now handle inv with ⟨_, same, _⟩ | ⟨⟨r, started, _⟩, _⟩
    · exact same
    · cases refused.symm.trans started
  alike_later svc svc' now now' alike_ after later more := alike_ later (le_trans after more)
  alike_step svc svc' c alike_ later after := by
    obtain ⟨now, call⟩ := c
    cases call with
    | run handle call =>
      have same := congrArg (step rt config · (now, .run handle call)) (alike_ later after)
      exact (prune_call call).trans (same.trans (prune_call call).symm)
    | accept handle inv =>
      show (svc.accept rt config now handle inv).1.prune later =
        (svc'.accept rt config now handle inv).1.prune later
      unfold accept
      cases inv.admission rt config with
      | error e => exact alike_ later after
      | ok hashes =>
        dsimp only
        rw [alike_ now le_rfl]
  alike_accept svc svc' now handle inv alike_ := by
    show (svc.accept rt config now handle inv).2 = (svc'.accept rt config now handle inv).2
    unfold accept
    cases inv.admission rt config with
    | error e => rfl
    | ok hashes =>
      dsimp only
      rw [alike_ now le_rfl]

end AppRuntimeService

def RunScope.operation (scope : RunScope) : String :=
  "runtime:concurrency:" ++ toString scope.appId ++ ":" ++ toString scope.bindingId

theorem Allowance.key_ne_operation (allowance : Allowance) (client : String → String)
    (scope : RunScope) : allowance.key "runtime:" client ≠ scope.operation := by
  intro same
  have letter := congrArg (fun text : String => text.toList[8]?) same
  unfold RunScope.operation at letter
  cases allowance with
  | app =>
    simp only [key, String.toList_append] at letter
    exact absurd (show some 'a' = some 'c' from letter) (by decide)
  | ip =>
    simp only [key, String.toList_append] at letter
    exact absurd (show some 'i' = some 'c' from letter) (by decide)
  | session =>
    simp only [key, String.toList_append] at letter
    exact absurd (show some 's' = some 'c' from letter) (by decide)

def QuotaLease.active (workspaceId : Uuid) (operation : String) (now : Instant)
    (lease : QuotaLease) : Bool :=
  decide (lease.workspaceId = workspaceId ∧ lease.operation = operation ∧
    lease.releasedAt = none ∧ now < lease.expiresAt)

abbrev Leases := Dict Uuid QuotaLease

namespace Leases

variable {leases leases' leases'' : Leases} {now later : Instant} {workspaceId : Uuid}
  {operation : String} {id : Uuid}

def used (leases : Leases) (now : Instant) (workspaceId : Uuid) (operation : String) : Nat :=
  (leases.values.filter (QuotaLease.active workspaceId operation now)).length

def Grows (now : Instant) (leases leases' : Leases) : Prop :=
  ∀ id lease, leases.get? id = some lease → ∃ lease', leases'.get? id = some lease' ∧
    lease'.operation = lease.operation ∧ ∀ workspaceId operation later, now ≤ later →
      lease.active workspaceId operation later = true →
        lease'.active workspaceId operation later = true

theorem Grows.refl : Grows now leases leases :=
  fun _ lease stored => ⟨lease, stored, rfl, fun _ _ _ _ active => active⟩

theorem Grows.trans (grows : Grows now leases leases') (grows' : Grows now leases' leases'') :
    Grows now leases leases'' := by
  intro id lease stored
  obtain ⟨lease', stored', same, active⟩ := grows id lease stored
  obtain ⟨lease'', stored'', same', active'⟩ := grows' id lease' stored'
  exact ⟨lease'', stored'', same'.trans same, fun w o t after now_ =>
    active' w o t after (active w o t after now_)⟩

def counting (leases : Leases) (now : Instant) (workspaceId : Uuid) (operation : String) :
    List Uuid :=
  (leases.filter fun _ lease => lease.active workspaceId operation now).keys

theorem length_counting :
    (leases.counting now workspaceId operation).length = leases.used now workspaceId operation := by
  unfold counting used Dict.keys Dict.values Dict.filter
  rw [List.length_map, List.filter_map, List.length_map]
  rfl

theorem mem_counting_iff : id ∈ leases.counting now workspaceId operation ↔
    ∃ lease, leases.get? id = some lease ∧ lease.active workspaceId operation now = true := by
  unfold counting
  simp [Dict.mem_keys_iff, Option.filter_eq_some_iff]

section

variable (grows : Grows now leases leases')
include grows

theorem Grows.counting (after : now ≤ later)
    (mem : id ∈ leases.counting later workspaceId operation) :
    ∃ lease, leases'.get? id = some lease ∧ lease.active workspaceId operation later = true := by
  obtain ⟨lease, stored, active⟩ := mem_counting_iff.mp mem
  obtain ⟨lease', stored', _, active'⟩ := grows id lease stored
  exact ⟨lease', stored', active' _ _ _ after active⟩

theorem Grows.used_le (after : now ≤ later) :
    leases.used later workspaceId operation ≤ leases'.used later workspaceId operation := by
  rw [← length_counting]
  exact Dict.length_le_filter_values (Dict.nodup _) fun id mem => grows.counting after mem

theorem Grows.used_lt (after : now ≤ later)
    (absent : leases.get? id = none) {lease : QuotaLease} (stored : leases'.get? id = some lease)
    (active : lease.active workspaceId operation later = true) :
    leases.used later workspaceId operation < leases'.used later workspaceId operation := by
  rw [← length_counting, ← Nat.add_one_le_iff, ← List.length_cons (a := id)]
  refine Dict.length_le_filter_values (List.nodup_cons.mpr ⟨fun mem => ?_, Dict.nodup _⟩)
    fun other mem => ?_
  · obtain ⟨_, there, _⟩ := mem_counting_iff.mp mem
    rw [absent] at there
    cases there
  · cases mem with
    | head => exact ⟨lease, stored, active⟩
    | tail _ mem => exact grows.counting after mem

end

end Leases

open Leases (used)

namespace PostgresAppRuntimeService

variable {rt : RuntimeHost} {config : RuntimeConfig} {svc svc' : PostgresAppRuntimeService}
  {now : Instant} {handle : String}

theorem reserveLimit_ok {workspaceId : Uuid} {operation message : String} {limit : Int}
    {expiresAt : Instant} {id : Uuid}
    (reserved : reserveLimit svc now workspaceId operation limit expiresAt message =
      .ok (svc', id)) :
    Leases.Grows now svc.leases svc'.leases ∧
      (used svc.leases now workspaceId operation : Int) < limit ∧
      svc.leases.get? id = none ∧ ∃ lease, svc'.leases.get? id = some lease ∧
        lease.operation = operation ∧
        ∀ later, later < expiresAt → lease.active workspaceId operation later = true := by
  unfold reserveLimit at reserved
  dsimp only at reserved
  generalize released_ : svc.leases.mapValues (fun _ lease =>
    if lease.operation = operation ∧ lease.releasedAt = none ∧ lease.expiresAt ≤ now then
      { lease with releasedAt := some now }
    else lease) = released at reserved
  have grows : Leases.Grows now svc.leases released := by
    intro id lease stored
    rw [← released_, Dict.get?_mapValues, stored, Option.map_some]
    refine ⟨_, rfl, by split <;> rfl, fun w o t after active => ?_⟩
    split
    next expired =>
      have running := (of_decide_eq_true active).2.2.2
      exact absurd (le_trans expired.2.2 after) (not_le.mpr running)
    next => exact active
  split at reserved
  next => cases reserved
  next free =>
    cases reserved
    have absent : released.get? released.fresh = none := Dict.get?_fresh released
    refine ⟨grows.trans fun id lease stored => ⟨lease, ?_, rfl, fun _ _ _ _ active => active⟩,
      lt_of_le_of_lt (Int.ofNat_le.mpr (grows.used_le le_rfl)) (not_le.mp free), ?_, _,
      (Dict.get?_set _ _ _ _).trans (if_pos rfl), rfl,
      fun later before => decide_eq_true ⟨rfl, rfl, rfl, before⟩⟩
    · rw [Dict.get?_set, if_neg, stored]
      intro same
      rw [same, absent] at stored
      cases stored
    · rw [← released_, Dict.get?_mapValues, Option.map_eq_none_iff] at absent
      rw [← released_]
      exact absent

theorem reserveWindows_ok {workspaceId : Uuid} {message : String} {specs : List (String × Int)}
    (reserved : specs.foldlM (fun svc spec => do
      let (svc, _) ← reserveLimit svc now workspaceId spec.1 spec.2 (now + seconds 60) message
      return svc) svc = .ok svc') :
    Leases.Grows now svc.leases svc'.leases ∧
      (∀ spec ∈ specs, (used svc.leases now workspaceId spec.1 : Int) < spec.2) ∧
      ∀ later key, now ≤ later → used svc.leases later workspaceId key +
          (if key ∈ specs.map Prod.fst ∧ later - seconds 60 < now then 1 else 0) ≤
        used svc'.leases later workspaceId key := by
  induction specs generalizing svc with
  | nil =>
    cases reserved
    exact ⟨.refl, nofun, fun _ _ _ => by simp⟩
  | cons spec specs ih =>
    rw [List.foldlM_cons] at reserved
    obtain ⟨svc₁, first, reserved⟩ := bind_ok_iff.mp reserved
    obtain ⟨⟨_, id⟩, first, done⟩ := bind_ok_iff.mp first
    cases done
    obtain ⟨grows, room, absent, lease, stored, _, active⟩ := reserveLimit_ok first
    obtain ⟨grows', rooms, more⟩ := ih reserved
    refine ⟨grows.trans grows', fun spec' mem => ?_, fun later key after => ?_⟩
    · cases mem with
      | head => exact room
      | tail _ mem => exact lt_of_le_of_lt (Int.ofNat_le.mpr (grows.used_le le_rfl)) (rooms _ mem)
    · by_cases new : key = spec.1 ∧ later - seconds 60 < now
      · have before : later < now + seconds 60 := sub_lt_iff_lt_add.mp new.2
        have counts := grows.used_lt after absent stored (active later before)
        have kept : used svc₁.leases later workspaceId spec.1 ≤ _ := grows'.used_le after
        rw [new.1, if_pos ⟨List.mem_cons_self, new.2⟩]
        omega
      · refine le_trans ?_ (more later key after)
        have same : (key ∈ (spec :: specs).map Prod.fst ∧ later - seconds 60 < now) ↔
            (key ∈ specs.map Prod.fst ∧ later - seconds 60 < now) := by
          rw [List.map_cons, List.mem_cons]
          tauto
        rw [if_congr same rfl rfl]
        exact Nat.add_le_add_right (grows.used_le after) _

structure Reserved (rt : RuntimeHost) (config : RuntimeConfig) (now : Instant) (inv : Invocation)
    (leases leases' : Leases) (ids : List Uuid) : Prop where
  grows : Leases.Grows now leases leases'
  windows : ∃ specs, inv.windows "runtime:" rt.hash = .ok specs ∧
    (∀ spec ∈ specs, (leases.used now inv.workspaceId spec.1 : Int) < spec.2) ∧
    ∀ later key, now ≤ later → leases.used later inv.workspaceId key +
        (if key ∈ specs.map Prod.fst ∧ later - seconds 60 < now then 1 else 0) ≤
      leases'.used later inv.workspaceId key
  unlimited : inv.binding.limits.get? "max_concurrency" = none → ids = []
  limited : ∀ l, inv.binding.limits.get? "max_concurrency" = some l →
    (leases.used now inv.workspaceId inv.runScope.operation : Int) < l ∧ ∃ id lease, ids = [id] ∧
      leases.get? id = none ∧ leases'.get? id = some lease ∧
      lease.operation = inv.runScope.operation ∧
      ∀ later, (inv.run config now).liveAt later = true →
        lease.active inv.workspaceId inv.runScope.operation later = true

theorem reserveLimits_ok {inv : Invocation} {ids : List Uuid}
    (reserved : reserveLimits rt svc now inv ((inv.run config now).timeoutAt.getD now) =
      .ok (svc', ids)) :
    Reserved rt config now inv svc.leases svc'.leases ids := by
  unfold reserveLimits at reserved
  obtain ⟨specs, windows, reserved⟩ := bind_ok_iff.mp reserved
  obtain ⟨svc₁, reservedWindows, reserved⟩ := bind_ok_iff.mp reserved
  obtain ⟨grows, rooms, more⟩ := reserveWindows_ok reservedWindows
  cases limited : inv.binding.limits.get? "max_concurrency" with
  | none =>
    rw [limited] at reserved
    cases reserved
    exact ⟨grows, ⟨specs, windows, rooms, more⟩, fun _ => rfl, fun l is => (by
      rw [limited] at is
      cases is)⟩
  | some limit =>
    rw [limited] at reserved
    obtain ⟨⟨_, id⟩, last, done⟩ := bind_ok_iff.mp reserved
    cases done
    obtain ⟨grows', room, absent, lease, stored, operation, active⟩ := reserveLimit_ok last
    refine ⟨grows.trans grows', ⟨specs, windows, rooms, fun later key after =>
      le_trans (more later key after) (grows'.used_le after)⟩, fun is => (by
      rw [limited] at is
      cases is), fun l is => ?_⟩
    rw [limited, Option.some.injEq] at is
    refine ⟨is ▸ lt_of_le_of_lt (Int.ofNat_le.mpr (grows.used_le le_rfl)) room, id, lease, rfl, ?_,
      stored, operation, fun later live =>
        active later (of_decide_eq_true (Bool.and_eq_true_iff.mp live).2)⟩
    cases there : svc.leases.get? id with
    | none => rfl
    | some old =>
      obtain ⟨_, stored', _⟩ := grows id old there
      rw [absent] at stored'
      cases stored'

theorem accept_outcome (svc : PostgresAppRuntimeService) (now : Instant) (handle : String)
    (inv : Invocation) :
    ((∀ r, (svc.accept rt config now handle inv).2 = .ok r → r.newlyAccepted = false) ∧
        (svc.accept rt config now handle inv).1.runs = svc.runs ∧
        (svc.accept rt config now handle inv).1.leases = svc.leases ∧
        ∀ e, (svc.accept rt config now handle inv).2 = .error e →
          (svc.accept rt config now handle inv).1 = svc) ∨
      (∃ r, (svc.accept rt config now handle inv).2 = .ok r ∧ r.newlyAccepted = true) ∧
        svc.runs.get? handle = none ∧ ∃ ids,
          (svc.accept rt config now handle inv).1.runs =
            svc.runs.set handle ⟨inv.run config now, ids⟩ ∧
          Reserved rt config now inv svc.leases (svc.accept rt config now handle inv).1.leases
            ids := by
  unfold accept
  cases inv.admission rt config with
  | error e => exact .inl ⟨nofun, rfl, rfl, fun _ _ => rfl⟩
  | ok hashes =>
    obtain ⟨scopeHash, requestHash⟩ := hashes
    dsimp only
    cases done : acceptIn rt config svc now handle scopeHash requestHash inv with
    | error e => exact .inl ⟨nofun, rfl, rfl, fun _ _ => rfl⟩
    | ok outcome =>
      obtain ⟨svc', result⟩ := outcome
      dsimp only
      unfold acceptIn at done
      dsimp only at done
      split at done
      next prior _ =>
        obtain ⟨r, replayed, done⟩ := bind_ok_iff.mp done
        cases done
        refine .inl ⟨fun r done => ?_, rfl, rfl, nofun⟩
        cases done
        exact old_of_replay replayed
      next =>
        obtain ⟨⟨svc₁, ids⟩, reserved, done⟩ := bind_ok_iff.mp done
        have runs := runs_reserveLimits reserved
        have kept := reserveLimits_ok reserved
        dsimp only at done runs
        split at done
        next => cases done
        next new =>
          cases done
          rw [not_or, runs, Dict.contains, Bool.not_eq_true, Option.isSome_eq_false_iff,
            Option.isNone_iff_eq_none] at new
          exact .inr ⟨⟨_, rfl, rfl⟩, new.1, ids, by rw [runs], kept⟩

theorem step_run {row : RuntimeRow} (stored : svc.runs.get? handle = some row) (call : RunCall) :
    svc.step rt config (now, .run handle call) = svc ∨ ∃ run : AppRun,
      svc.step rt config (now, .run handle call) = svc.write now handle row (some run) ∧
        run.status.live = false ∧ run.runScope = row.run.runScope := by
  cases call with
  | status scope =>
    by_cases refused : row.run.inScope now scope = false ∨ row.run.ofVisitor scope = false
    · exact .inl (by simp [step, status, stored, refused])
    · by_cases overdue : row.run.overdue now = true
      · exact .inr ⟨markFailed row.run "Workflow execution timed out.",
          by simp [step, status, stored, refused, settleTimeout, overdue], rfl, rfl⟩
      · exact .inl (by simp [step, status, stored, refused, settleTimeout, overdue, write])
  | complete output error =>
    cases settled : settle rt now output error row.run with
    | error e => exact .inl (by simp [step, complete, stored, settled])
    | ok written =>
      cases written with
      | none => exact .inl (by simp [step, complete, stored, settled, write])
      | some run =>
        exact .inr ⟨run, by simp [step, complete, stored, settled],
          AppRun.settled_of_settle settled⟩
  | cancel =>
    cases live : row.run.status.live with
    | false => exact .inl (by simp [step, cancel, stored, live])
    | true =>
      exact .inr ⟨{ row.run with status := .cancelled }, by simp [step, cancel, stored, live], rfl,
        rfl⟩

theorem step_absent (absent : svc.runs.get? handle = none) (call : RunCall) :
    svc.step rt config (now, .run handle call) = svc := by
  cases call <;> simp [step, status, complete, cancel, absent]

structure Known (rt : RuntimeHost) (svc : PostgresAppRuntimeService) (now : Instant)
    (log : RuntimeService.Log) : Prop where
  counted : RuntimeService.Counted "runtime:" rt.hash (used svc.leases) now log
  operations : ∀ h row id, svc.runs.get? h = some row → id ∈ row.quotaLeaseIds →
    ∃ lease, svc.leases.get? id = some lease ∧ lease.operation = row.run.runScope.operation
  held : ∀ h row later, svc.runs.get? h = some row → now ≤ later → row.run.liveAt later = true →
    (∃ e ∈ log, e.2.runScope = row.run.runScope ∧
      e.2.binding.limits.get? "max_concurrency" = none) ∨
    ∃ id lease, row.quotaLeaseIds = [id] ∧ svc.leases.get? id = some lease ∧
      lease.active row.run.workspaceId row.run.runScope.operation later = true
  apart : ∀ h h' row row' id, svc.runs.get? h = some row → svc.runs.get? h' = some row' →
    id ∈ row.quotaLeaseIds → id ∈ row'.quotaLeaseIds → h = h'

section Known

variable {log : RuntimeService.Log}

theorem Known.write (known : Known rt svc now log) {row : RuntimeRow}
    (stored : svc.runs.get? handle = some row) {run : AppRun} (settled : run.status.live = false)
    (scope : run.runScope = row.run.runScope) :
    Known rt (svc.write now handle row (some run)) now log := by
  have leases (id : Uuid) : (svc.write now handle row (some run)).leases.get? id =
      (svc.leases.get? id).map fun lease =>
        if id ∈ row.quotaLeaseIds ∧ lease.releasedAt = none then
          { lease with releasedAt := some now }
        else lease := Dict.get?_mapValues _ _ _
  have rows {h : String} {row' : RuntimeRow}
      (there : (svc.write now handle row (some run)).runs.get? h = some row') :
      ∃ old, svc.runs.get? h = some old ∧ row'.quotaLeaseIds = old.quotaLeaseIds ∧
        row'.run.runScope = old.run.runScope ∧ (h = handle ∧ row'.run = run ∨
          h ≠ handle ∧ row' = old) := by
    rw [runs_write] at there
    obtain ⟨here, rfl⟩ | ⟨other, there⟩ := Dict.of_get?_set there
    · exact ⟨row, here ▸ stored, rfl, scope, .inl ⟨here, rfl⟩⟩
    · exact ⟨row', there, rfl, rfl, .inr ⟨other, rfl⟩⟩
  constructor
  case counted =>
    refine known.counted.kept le_rfl fun t workspaceId allowance after => ?_
    apply Dict.filter_values_le_mapValues
    intro id lease there active
    rw [if_neg]
    · exact active
    · rintro ⟨mem, _⟩
      obtain ⟨lease', there', operation⟩ := known.operations handle row id stored mem
      rw [there, Option.some.injEq] at there'
      rw [← there', (of_decide_eq_true active).2.1] at operation
      exact allowance.key_ne_operation _ _ operation
  case operations =>
    intro h row' id there mem
    obtain ⟨old, before, ids, same, _⟩ := rows there
    obtain ⟨lease, found, operation⟩ := known.operations h old id before (ids ▸ mem)
    rw [leases, found, same]
    refine ⟨_, rfl, ?_⟩
    dsimp only
    split <;> exact operation
  case held =>
    intro h row' later there after live
    obtain ⟨old, before, _, _, here | other⟩ := rows there
    · rw [here.2, AppRun.liveAt, settled, Bool.false_and] at live
      cases live
    · rw [other.2] at live ⊢
      refine (known.held h old later before after live).imp id ?_
      rintro ⟨id, lease, ids, found, active⟩
      refine ⟨id, lease, ids, ?_, active⟩
      rw [leases, found, Option.map_some, if_neg]
      rintro ⟨mem, _⟩
      exact other.1 (known.apart h handle old row id before stored (ids ▸ List.mem_singleton_self id)
        mem)
  case apart =>
    intro h h' row₁ row₂ id there there' mem mem'
    obtain ⟨old, before, ids, _⟩ := rows there
    obtain ⟨old', before', ids', _⟩ := rows there'
    exact known.apart h h' old old' id before before' (ids ▸ mem) (ids' ▸ mem')

theorem Known.reserve (known : Known rt svc now log) {inv : Invocation} {ids : List Uuid}
    (runs : svc'.runs = svc.runs.set handle ⟨inv.run config now, ids⟩)
    (reserved : Reserved rt config now inv svc.leases svc'.leases ids) :
    Known rt svc' now (log ++ [(now, inv)]) := by
  have rows {h : String} {row : RuntimeRow} (there : svc'.runs.get? h = some row) :
      h = handle ∧ row = ⟨inv.run config now, ids⟩ ∨ h ≠ handle ∧ svc.runs.get? h = some row := by
    rw [runs] at there
    obtain ⟨here, rfl⟩ | ⟨other, there⟩ := Dict.of_get?_set there
    · exact .inl ⟨here, rfl⟩
    · exact .inr ⟨other, there⟩
  have fresh (id : Uuid) (mem : id ∈ ids) : svc.leases.get? id = none ∧
      ∃ lease, svc'.leases.get? id = some lease ∧ lease.operation = inv.runScope.operation := by
    cases limited : inv.binding.limits.get? "max_concurrency" with
    | none =>
      rw [reserved.unlimited limited] at mem
      cases mem
    | some l =>
      obtain ⟨_, id', lease, same, absent, stored, operation, _⟩ := reserved.limited l limited
      rw [same, List.mem_singleton] at mem
      exact mem ▸ ⟨absent, lease, stored, operation⟩
  have new {h : String} {row : RuntimeRow} {id : Uuid} (stored : svc.runs.get? h = some row)
      (mem : id ∈ row.quotaLeaseIds) : id ∉ ids := by
    intro drawn
    obtain ⟨lease, there, _⟩ := known.operations h row id stored mem
    rw [(fresh id drawn).1] at there
    cases there
  constructor
  case counted =>
    obtain ⟨specs, windows, rooms, more⟩ := reserved.windows
    refine known.counted.accept windows rooms fun t workspaceId allowance after => ?_
    by_cases own : inv.workspaceId = workspaceId
    · simp only [own, true_and] at more ⊢
      exact more t _ after
    · simp only [own, false_and, if_false, Nat.add_zero]
      exact reserved.grows.used_le after
  case operations =>
    intro h row id there mem
    rcases rows there with ⟨_, rfl⟩ | ⟨_, before⟩
    · exact (fresh id mem).2
    · obtain ⟨lease, found, operation⟩ := known.operations h row id before mem
      obtain ⟨lease', found', same, _⟩ := reserved.grows id lease found
      exact ⟨lease', found', same.trans operation⟩
  case held =>
    intro h row later there after live
    rcases rows there with ⟨_, rfl⟩ | ⟨_, before⟩
    · cases limited : inv.binding.limits.get? "max_concurrency" with
      | none => exact .inl ⟨(now, inv), List.mem_append_right _ List.mem_cons_self, rfl, limited⟩
      | some l =>
        obtain ⟨_, id, lease, same, _, stored, _, active⟩ := reserved.limited l limited
        exact .inr ⟨id, lease, same, stored, active later live⟩
    · rcases known.held h row later before after live with ⟨e, mem, is⟩ | ⟨id, lease, is, found, on⟩
      · exact .inl ⟨e, List.mem_append_left _ mem, is⟩
      · obtain ⟨lease', found', _, active⟩ := reserved.grows id lease found
        exact .inr ⟨id, lease', is, found', active _ _ later after on⟩
  case apart =>
    intro h h' row row' id there there' mem mem'
    rcases rows there with ⟨here, rfl⟩ | ⟨_, before⟩
    · rcases rows there' with ⟨here', rfl⟩ | ⟨_, before'⟩
      · exact here.trans here'.symm
      · exact absurd mem (new before' mem')
    · rcases rows there' with ⟨_, rfl⟩ | ⟨_, before'⟩
      · exact absurd mem' (new before mem)
      · exact known.apart h h' row row' id before before' mem mem'

theorem Known.congr (known : Known rt svc now log) (runs : svc'.runs = svc.runs)
    (leases : svc'.leases = svc.leases) : Known rt svc' now log := by
  obtain ⟨counted, operations, held, apart⟩ := known
  rw [← leases] at counted operations held
  rw [← runs] at operations held apart
  exact ⟨counted, operations, held, apart⟩

theorem Known.step {c : Instant × RuntimeCall} (known : Known rt svc c.1 log) :
    Known rt (svc.step rt config c) c.1
      (log ++ ((RuntimeBackend.service rt config .postgres).accepts svc c).toList) := by
  obtain ⟨now, call⟩ := c
  let service := RuntimeBackend.service rt config .postgres
  cases call with
  | run handle call =>
    rw [show (RuntimeBackend.service rt config .postgres).accepts svc (now, .run handle call) = none
      from rfl, Option.toList_none, List.append_nil]
    cases stored : svc.runs.get? handle with
    | none =>
      rw [step_absent stored]
      exact known
    | some row =>
      rcases @step_run rt config svc now handle row stored call with
        same | ⟨run, written, settled, scope⟩
      · rw [same]
        exact known
      · rw [written]
        exact known.write stored settled scope
  | accept handle inv =>
    rcases @accept_outcome rt config svc now handle inv with
      ⟨old, runs, leases, _⟩ | ⟨⟨r, started, new⟩, _, ids, runs, reserved⟩
    · rw [@accepts_of_old service svc now handle inv old, Option.toList_none,
        List.append_nil]
      exact known.congr runs leases
    · rw [@accepts_of_new service svc now handle inv r started new,
        Option.toList_some]
      exact known.reserve runs reserved

theorem stored_of_live {call : RunCall} {h : String} {row : RuntimeRow}
    (there : (svc.step rt config (now, .run handle call)).runs.get? h = some row)
    (live : row.run.status.live = true) : svc.runs.get? h = some row := by
  cases stored : svc.runs.get? handle with
  | none => rwa [step_absent stored] at there
  | some old =>
    rcases @step_run rt config svc now handle old stored call with same | ⟨run, written, settled, _⟩
    · rwa [same] at there
    · rw [written, runs_write] at there
      obtain ⟨-, rfl⟩ | ⟨-, there⟩ := Dict.of_get?_set there
      · rw [settled] at live
        cases live
      · exact there

theorem Known.room (known : Known rt svc now log) {scope : RunScope} {most : Int}
    (bounded : log.Bounded scope most) {handles : List String} (nodup : handles.Nodup)
    (live : ∀ h ∈ handles, ∃ row, svc.runs.get? h = some row ∧ row.run.runScope = scope ∧
      row.run.liveAt now = true) :
    handles.length ≤ used svc.leases now scope.workspaceId scope.operation := by
  have reserved (h : String) (mem : h ∈ handles) : ∃ row id lease, svc.runs.get? h = some row ∧
      row.quotaLeaseIds = [id] ∧ svc.leases.get? id = some lease ∧
      lease.active scope.workspaceId scope.operation now = true := by
    obtain ⟨row, stored, here, live⟩ := live h mem
    rcases known.held h row now stored le_rfl live with ⟨e, mem, same, unlimited⟩ | leased
    · obtain ⟨l, limited, _⟩ := bounded e mem (same.trans here)
      rw [unlimited] at limited
      cases limited
    · obtain ⟨id, lease, ids, found, active⟩ := leased
      exact ⟨row, id, lease, stored, ids, found, here ▸ active⟩
  let lease (h : String) : Uuid :=
    ((svc.runs.get? h).bind fun row => row.quotaLeaseIds.head?).getD 0
  have is {h : String} {row : RuntimeRow} {id : Uuid} (stored : svc.runs.get? h = some row)
      (ids : row.quotaLeaseIds = [id]) : lease h = id := by
    simp [lease, stored, ids]
  rw [← List.length_map (f := lease)]
  apply Dict.length_le_filter_values
  · refine nodup.map_on fun h mem h' mem' same => ?_
    obtain ⟨row, id, _, stored, ids, _⟩ := reserved h mem
    obtain ⟨row', id', _, stored', ids', _⟩ := reserved h' mem'
    rw [is stored ids, is stored' ids'] at same
    exact known.apart h h' row row' id stored stored' (ids ▸ List.mem_singleton_self id)
      (ids' ▸ same ▸ List.mem_singleton_self id)
  · intro id mem
    obtain ⟨h, given, rfl⟩ := List.mem_map.mp mem
    obtain ⟨row, id, lease', stored, ids, found, active⟩ := reserved h given
    exact ⟨lease', is stored ids ▸ found, active⟩

end Known

theorem limits (rt : RuntimeHost) (config : RuntimeConfig) :
    (RuntimeBackend.service rt config .postgres).Limits (fun _ => True) "runtime:" rt.hash
      (fun svc => used svc.leases) (Known rt) (fun _ svc svc' => svc = svc') where
  start now := by
    refine ⟨⟨nofun, fun _ _ _ _ => Nat.zero_le _, fun _ _ => .nil⟩, ?_, ?_, ?_⟩
    · intro h row id stored
      cases stored
    · intro h row later stored
      cases stored
    · intro h h' row row' id stored
      cases stored
  fresh h := rfl
  later svc now now' log known after :=
    ⟨known.counted.kept after fun _ _ _ _ => le_rfl, known.operations,
      fun h row later stored more => known.held h row later stored (le_trans after more),
      known.apart⟩
  counted svc now log known := known.counted
  step svc c log _ known := known.step
  live svc c scope now h live := by
    obtain ⟨run, stored, here, live⟩ := live
    obtain ⟨time, call⟩ := c
    obtain ⟨row, there, rfl⟩ := Option.map_eq_some_iff.mp stored
    cases call with
    | run handle call =>
      have before := stored_of_live there (Bool.and_eq_true_iff.mp live).1
      exact .inl ⟨row.run, Option.map_eq_some_iff.mpr ⟨row, before, rfl⟩, here, live⟩
    | accept handle inv =>
      have before (stored : Dict.get? (runs svc) h = some row) :
          (RuntimeBackend.service rt config .postgres).Live svc scope now h :=
        ⟨row.run, Option.map_eq_some_iff.mpr ⟨row, stored, rfl⟩, here, live⟩
      rcases @accept_outcome rt config svc time handle inv with
        ⟨_, same, _⟩ | ⟨⟨r, started, new⟩, _⟩
      · exact .inl (before ((congrArg (Dict.get? · h) same).symm.trans there))
      · cases get?_accept there with
        | inl old => exact .inl (before old)
        | inr added =>
          rw [added.2] at here
          exact .inr ⟨inv, by rw [added.1], accepts_of_new started new, here⟩
  room svc c log inv most l known accepted limited bounded handles nodup live := by
    obtain ⟨time, call⟩ := c
    obtain ⟨handle, r, call, started, new⟩ := call_of_accepts accepted
    rcases @accept_outcome rt config svc time handle inv with ⟨old, _⟩ | ⟨_, _, ids, _, reserved⟩
    · rw [old r started] at new
      cases new
    · refine lt_of_le_of_lt (Int.ofNat_le.mpr ?_) (reserved.limited l limited).1
      refine known.room bounded nodup fun h mem => ?_
      obtain ⟨run, stored, here, live⟩ := live h mem
      obtain ⟨row, there, rfl⟩ := Option.map_eq_some_iff.mp stored
      exact ⟨row, there, here, live⟩
  rejected svc now handle inv e refused := by
    rcases @accept_outcome rt config svc now handle inv with ⟨_, _, _, same⟩ | ⟨⟨r, started, _⟩, _⟩
    · exact same e refused
    · cases refused.symm.trans started
  alike_later svc svc' now now' same _ := same
  alike_step svc svc' c same := by rw [same]
  alike_accept svc svc' now handle inv same := by rw [same]

end PostgresAppRuntimeService

/-- In calls that come in order of time, no window of less than a minute holds more accepted
invocations of an app, a client or a session than their limit, no more runs of a binding are live
than its limit, and a rejected invocation leaves no trace in later answers. -/
theorem invocation_limits_kept (rt : RuntimeHost) (config : RuntimeConfig)
    (backend : RuntimeBackend) (calls : List (Instant × RuntimeCall))
    (ordered : calls.Pairwise (·.1 ≤ ·.1))
    (timesOut : ∀ c ∈ calls, AppRuntimeService.timesOut config c) :
    (backend.service rt config).LimitsKept calls := by
  cases backend with
  | memory => exact (AppRuntimeService.limits rt config).limitsKept ordered timesOut
  | postgres =>
    exact (PostgresAppRuntimeService.limits rt config).limitsKept ordered fun _ _ => trivial

def limitedInvocation (idempotencyKey : String) : Invocation :=
  { Runtimes.sampleInvocation with
    binding := { Runtimes.sampleInvocation.binding with
      limits := .ofList [("per_app_per_minute", 1), ("max_concurrency", 1)] }
    idempotencyKey := idempotencyKey }

theorem invocation_limits_kept_twice :
    (RuntimeBackend.service Runtimes.sampleHost {} .memory).LimitsKept
      [(0, .accept "first" (limitedInvocation "a")), (1, .accept "second" (limitedInvocation "b"))] :=
  invocation_limits_kept Runtimes.sampleHost {} .memory _ (List.pairwise_pair.mpr (by decide))
    (List.forall_mem_cons.mpr
      ⟨le_refl (3600 : Int), List.forall_mem_singleton.mpr (le_refl (3600 : Int))⟩)

end Orcheo.HostedApps
