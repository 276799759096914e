import Orcheo.Lib.Run

/-! Calls on a shared store.  A call asks one atomic operation after another and goes on with the
answers; any number of calls run at once, with their operations in any order. -/

universe u v w x y z

namespace Orcheo.Lib

inductive Call {Op : Type u} (Answer : Op → Type v) (α : Type w)
  | done (result : α)
  | ask (op : Op) (next : Answer op → Call Answer α)

structure Asked {Op : Type u} (Answer : Op → Type v) where
  op : Op
  answer : Answer op

variable {Op : Type u} {Answer : Op → Type v} {α β : Type w}

namespace Call

def bind : Call Answer α → (α → Call Answer β) → Call Answer β
  | done a, f => f a
  | ask op next, f => ask op (fun answer => (next answer).bind f)

def andThen {ε : Type w} (c : Call Answer (Except ε α)) (f : α → Call Answer (Except ε β)) :
    Call Answer (Except ε β) :=
  c.bind (fun r => match r with
    | .error e => done (.error e)
    | .ok a => f a)

variable {c : Call Answer α}

theorem bind_assoc {γ : Type w} {f : α → Call Answer β}
    {g : β → Call Answer γ} : (c.bind f).bind g = c.bind (fun a => (f a).bind g) := by
  induction c with
  | done a => rfl
  | ask op next ih =>
    apply congrArg (ask op)
    funext answer
    exact ih answer

theorem andThen_assoc {ε : Type w} {γ : Type w} {c : Call Answer (Except ε α)}
    {f : α → Call Answer (Except ε β)} {g : β → Call Answer (Except ε γ)} :
    (c.andThen f).andThen g = c.andThen (fun a => (f a).andThen g) := by
  unfold andThen
  rw [bind_assoc]
  congr
  funext r
  cases r <;> rfl

theorem andThen_done {ε : Type w} (c : Call Answer (Except ε α)) :
    c.andThen (fun a => done (.ok a)) = c := by
  unfold andThen
  induction c with
  | done r => cases r <;> rfl
  | ask op next ih =>
    apply congrArg (ask op)
    funext answer
    exact ih answer

/-- Every operation is asked, and the result is given, after a past that allows it, as long as
the answers are fitting ones.  The past is kept with the latest first. -/
def Meets (Fits : (op : Op) → Answer op → Prop) (P : List (Asked Answer) → Op → Prop)
    (Q : List (Asked Answer) → α → Prop) : Call Answer α → List (Asked Answer) → Prop
  | done a, past => Q past a
  | ask op next, past =>
    P past op ∧ ∀ answer, Fits op answer → (next answer).Meets Fits P Q (⟨op, answer⟩ :: past)

variable {Fits : (op : Op) → Answer op → Prop} {P : List (Asked Answer) → Op → Prop}
  {Q : List (Asked Answer) → α → Prop} {R : List (Asked Answer) → β → Prop}
  {past : List (Asked Answer)}

@[simp] theorem meets_done {a : α} : (done a : Call Answer α).Meets Fits P Q past ↔ Q past a :=
  Iff.rfl

@[simp] theorem meets_ask {op : Op} {next : Answer op → Call Answer α} :
    (ask op next).Meets Fits P Q past ↔ P past op ∧
      ∀ answer, Fits op answer → (next answer).Meets Fits P Q (⟨op, answer⟩ :: past) :=
  Iff.rfl

@[simp] theorem meets_bind {f : α → Call Answer β} : (c.bind f).Meets Fits P R past ↔
      c.Meets Fits P (fun past a => (f a).Meets Fits P R past) past := by
  induction c generalizing past with
  | done a => rfl
  | ask op next ih =>
    change (P past op ∧ ∀ answer, Fits op answer → ((next answer).bind f).Meets Fits P R _) ↔ _
    simp only [ih, meets_ask]

@[simp] theorem meets_andThen {ε : Type w} {c : Call Answer (Except ε α)}
    {f : α → Call Answer (Except ε β)} {R : List (Asked Answer) → Except ε β → Prop} :
    (c.andThen f).Meets Fits P R past ↔ c.Meets Fits P (fun past r => match r with
      | .error e => R past (.error e)
      | .ok a => (f a).Meets Fits P R past) past := by
  unfold andThen
  rw [meets_bind]
  apply iff_of_eq
  congr
  funext past r
  cases r <;> rfl

theorem Meets.mono {P' : List (Asked Answer) → Op → Prop} {Q' : List (Asked Answer) → α → Prop} (meets : c.Meets Fits P Q past) (asks : ∀ past op, P past op → P' past op)
    (gives : ∀ past a, Q past a → Q' past a) : c.Meets Fits P' Q' past := by
  induction c generalizing past with
  | done a => exact gives past a meets
  | ask op next ih =>
    exact ⟨asks past op meets.1, fun answer fits => ih answer (meets.2 answer fits)⟩

section Runs

variable {S : Type x} (exec : (op : Op) → S → Answer op × S)

def run : Call Answer α → S → α × S
  | done a, s => (a, s)
  | ask op next, s => (next (exec op s).1).run (exec op s).2

/-- What has to hold of the store for the condition to hold when the call is over. -/
def Runs (c : Call Answer α) (C : α → S → Prop) (s : S) :
    Prop := C (c.run exec s).1 (c.run exec s).2

variable {exec} {C D : α → S → Prop} {s : S}

@[simp] theorem runs_done {a : α} : (done a : Call Answer α).Runs exec C s ↔ C a s := Iff.rfl

@[simp] theorem runs_ask {op : Op} {next : Answer op → Call Answer α} :
    (ask op next).Runs exec C s ↔ (next (exec op s).1).Runs exec C (exec op s).2 := Iff.rfl

variable {c : Call Answer α} {f : α → Call Answer β}

@[simp] theorem runs_bind {C : β → S → Prop} :
    (c.bind f).Runs exec C s ↔ c.Runs exec (fun a s => (f a).Runs exec C s) s := by
  induction c generalizing s with
  | done a => rfl
  | ask op next ih => exact ih _

variable {ε : Type w}

@[simp] theorem runs_andThen {c : Call Answer (Except ε α)}
    {f : α → Call Answer (Except ε β)} {C : Except ε β → S → Prop} :
    (c.andThen f).Runs exec C s ↔ c.Runs exec (fun r s => match r with
      | .error e => C (.error e) s
      | .ok a => (f a).Runs exec C s) s := by
  unfold andThen
  rw [runs_bind]
  apply iff_of_eq
  congr
  funext r s
  cases r <;> rfl

theorem run_bind : (c.bind f).run exec s = (f (c.run exec s).1).run exec (c.run exec s).2 := by
  induction c generalizing s with
  | done a => rfl
  | ask op next ih => exact ih _

theorem run_andThen_ok {c : Call Answer (Except ε α)}
    {f : α → Call Answer (Except ε β)} {a : α} {t : S} (ran : c.run exec s = (.ok a, t)) :
    (c.andThen f).run exec s = (f a).run exec t := by
  unfold andThen
  rw [run_bind, ran]

theorem run_andThen_error {c : Call Answer (Except ε α)}
    {f : α → Call Answer (Except ε β)} {e : ε} {t : S} (ran : c.run exec s = (.error e, t)) :
    (c.andThen f).run exec s = (.error e, t) := by
  unfold andThen
  rw [run_bind, ran]
  rfl

theorem Runs.mono (runs : c.Runs exec C s) (gives : ∀ a s, C a s → D a s) :
    c.Runs exec D s := gives _ _ runs

end Runs

/-- Whatever it is answered, the call asks only such operations. -/
def Only (A : Op → Prop) : Call Answer α → Prop
  | done _ => True
  | ask op next => A op ∧ ∀ answer, (next answer).Only A

section Only

variable {A : Op → Prop}

@[simp] theorem only_done {a : α} : (done a : Call Answer α).Only A := trivial

theorem Only.bind {c : Call Answer α} {f : α → Call Answer β} (first : c.Only A)
    (second : ∀ a, (f a).Only A) : (c.bind f).Only A := by
  induction c with
  | done a => exact second a
  | ask op next ih => exact ⟨first.1, fun answer => ih answer (first.2 answer)⟩

theorem Only.andThen {ε : Type w} {c : Call Answer (Except ε α)}
    {f : α → Call Answer (Except ε β)} (first : c.Only A) (second : ∀ a, (f a).Only A) :
    (c.andThen f).Only A := by
  apply first.bind
  intro r
  cases r with
  | error e => trivial
  | ok a => exact second a

theorem Only.meets {c : Call Answer α} {K : List (Asked Answer) → Prop} (only : c.Only A)
    (asks : ∀ past op, K past → A op → P past op)
    (keeps : ∀ past op answer, K past → A op → K (⟨op, answer⟩ :: past)) (start : K past) :
    c.Meets Fits P (fun past _ => K past) past := by
  induction c generalizing past with
  | done a => exact start
  | ask op next ih =>
    exact ⟨asks past op start only.1,
      fun answer _ => ih answer (only.2 answer) (keeps past op answer start only.1)⟩

theorem Only.relates {S : Type x} {exec : (op : Op) → S → Answer op × S} {R : S → S → Prop}
    (refl : ∀ s, R s s) (trans : ∀ s t u, R s t → R t u → R s u)
    (step : ∀ op s, A op → R s (exec op s).2) {c : Call Answer α} (only : c.Only A) (s : S) :
    R s (c.run exec s).2 := by
  induction c generalizing s with
  | done a => exact refl s
  | ask op next ih => exact trans _ _ _ (step op s only.1) (ih _ (only.2 _) _)

end Only

end Call

/-- A call under way, with the request that it was made for and what it has asked so far. -/
structure Thread (R : Type x) (Answer : Op → Type v) (α : Type w) where
  request : R
  past : List (Asked Answer) := []
  call : Call Answer α

structure Event (Answer : Op → Type v) extends Asked Answer where
  caller : Nat

/-- The trace has the latest event first. -/
structure Server (S : Type y) (R : Type x) (Answer : Op → Type v) (α : Type w) where
  store : S
  threads : List (Thread R Answer α) := []
  trace : List (Event Answer) := []

inductive Turn (R : Type x)
  | begin (request : R)
  | advance (caller : Nat)
  deriving DecidableEq

namespace Server

variable {S : Type y} {R : Type x} (exec : (op : Op) → S → Answer op × S)
  (program : R → Call Answer α) (s : Server S R Answer α)

def started (request : R) : Server S R Answer α :=
  { s with threads := s.threads ++ [{ request := request, call := program request }] }

def answered (i : Nat) (request : R) (past : List (Asked Answer)) (op : Op)
    (next : Answer op → Call Answer α) : Server S R Answer α where
  store := (exec op s.store).2
  threads := s.threads.set i
    ⟨request, ⟨op, (exec op s.store).1⟩ :: past, next (exec op s.store).1⟩
  trace := ⟨⟨op, (exec op s.store).1⟩, i⟩ :: s.trace

def step : Turn R → Server S R Answer α
  | .begin request => s.started program request
  | .advance i => match s.threads[i]? with
    | some ⟨request, past, .ask op next⟩ => s.answered exec i request past op next
    | _ => s

theorem step_advance (i : Nat) : s.step exec program (.advance i) = s ∨
    ∃ request past op next, s.threads[i]? = some ⟨request, past, .ask op next⟩ ∧
      s.step exec program (.advance i) = s.answered exec i request past op next := by
  unfold step
  dsimp only
  split
  next request past op next there => exact Or.inr ⟨request, past, op, next, there, rfl⟩
  next => exact Or.inl rfl

variable {exec} {program} {s}

/-- What the answers are like, what a request may ask after its past, and what it may give. -/
structure Contract {Op : Type u} (Answer : Op → Type v) (R : Type x) (α : Type w) where
  fits : (op : Op) → Answer op → Prop := fun _ _ => True
  asks : R → List (Asked Answer) → Op → Prop := fun _ _ _ => True
  gives : R → List (Asked Answer) → α → Prop := fun _ _ _ => True

/-- Every call keeps to the contract, and its past is in the trace under its number. -/
structure Sound (c : Contract Answer R α) (s : Server S R Answer α) : Prop where
  meets : ∀ (i : Nat) (t : Thread R Answer α), s.threads[i]? = some t →
    t.call.Meets c.fits (c.asks t.request) (c.gives t.request) t.past
  traced : ∀ (i : Nat) (t : Thread R Answer α) (a : Asked Answer), s.threads[i]? = some t →
    (a ∈ t.past ↔ ⟨a, i⟩ ∈ s.trace)
  callers : ∀ e ∈ s.trace, e.caller < s.threads.length

variable {c : Contract Answer R α} {i j : Nat} {request : R} {past : List (Asked Answer)} {op : Op}
  {next : Answer op → Call Answer α} {t : Thread R Answer α}

theorem sound_fresh {store : S} : Sound c ({ store := store } : Server S R Answer α) where
  meets i t there := by cases there
  traced i t a there := by cases there
  callers e mem := by cases mem

theorem started_cases (there : (s.started program request).threads[i]? = some t) :
    s.threads[i]? = some t ∨
      i = s.threads.length ∧ t = { request := request, call := program request } := by
  change (s.threads ++ [_])[i]? = some t at there
  rw [List.getElem?_append] at there
  split at there
  next => exact Or.inl there
  next beyond =>
    cases gap : i - s.threads.length with
    | zero =>
      rw [gap] at there
      cases there
      exact Or.inr ⟨by omega, rfl⟩
    | succ n =>
      rw [gap] at there
      cases there

theorem started_of_there (there : s.threads[i]? = some t) :
    (s.started program request).threads[i]? = some t := by
  show (s.threads ++ [_])[i]? = some t
  rw [List.getElem?_append_left (List.getElem?_eq_some_iff.mp there).1]
  exact there

theorem answered_cases (there : s.threads[i]? = some ⟨request, past, .ask op next⟩)
    (found : (s.answered exec i request past op next).threads[j]? = some t) :
    j = i ∧ t = ⟨request, ⟨op, (exec op s.store).1⟩ :: past, next (exec op s.store).1⟩ ∨
      j ≠ i ∧ s.threads[j]? = some t := by
  change (s.threads.set i _)[j]? = some t at found
  by_cases same : j = i
  · subst same
    rw [List.getElem?_set_self (List.getElem?_eq_some_iff.mp there).1] at found
    exact Or.inl ⟨rfl, (Option.some.inj found).symm⟩
  · rw [List.getElem?_set_ne (Ne.symm same)] at found
    exact Or.inr ⟨same, found⟩

variable (exec) in
theorem answered_of_there (there : s.threads[i]? = some ⟨request, past, .ask op next⟩)
    (found : s.threads[j]? = some t) :
    ∃ t', (s.answered exec i request past op next).threads[j]? = some t' ∧
      t'.request = t.request := by
  show ∃ t', (s.threads.set i _)[j]? = some t' ∧ _
  by_cases same : j = i
  · subst same
    rw [List.getElem?_set_self (List.getElem?_eq_some_iff.mp there).1]
    cases there.symm.trans found
    exact ⟨_, rfl, rfl⟩
  · rw [List.getElem?_set_ne (Ne.symm same)]
    exact ⟨t, found, rfl⟩

variable (exec) in
theorem answered_of_done (there : s.threads[i]? = some ⟨request, past, .ask op next⟩)
    {request' : R} {past' : List (Asked Answer)} {result : α}
    (found : s.threads[j]? = some ⟨request', past', .done result⟩) : j ≠ i ∧
      (s.answered exec i request past op next).threads[j]? = some ⟨request', past', .done result⟩ := by
  have other : j ≠ i := by
    intro same
    rw [same] at found
    cases there.symm.trans found
  refine ⟨other, ?_⟩
  show (s.threads.set i _)[j]? = some _
  rw [List.getElem?_set_ne (Ne.symm other)]
  exact found

theorem Sound.started (sound : Sound c s)
    (meets : (program request).Meets c.fits (c.asks request) (c.gives request) []) :
    Sound c (s.started program request) := by
  constructor
  case meets =>
    intro i t there
    cases started_cases there with
    | inl old => exact sound.meets i t old
    | inr new =>
      rw [new.2]
      exact meets
  case traced =>
    intro i t a there
    cases started_cases there with
    | inl old => exact sound.traced i t a old
    | inr new =>
      rw [new.1, new.2]
      constructor
      · intro mem
        cases mem
      · intro mem
        exact absurd (sound.callers _ mem) (Nat.lt_irrefl _)
  case callers =>
    intro e mem
    have before := sound.callers e mem
    show e.caller < (s.threads ++ [_]).length
    rw [List.length_append]
    omega

theorem Sound.asks (sound : Sound c s)
    (there : s.threads[i]? = some ⟨request, past, .ask op next⟩) : c.asks request past op :=
  (sound.meets i _ there).1

theorem Sound.gives (sound : Sound c s) {result : α}
    (there : s.threads[i]? = some ⟨request, past, .done result⟩) : c.gives request past result :=
  sound.meets i _ there

theorem Sound.answered (sound : Sound c s)
    (there : s.threads[i]? = some ⟨request, past, .ask op next⟩)
    (fits : c.fits op (exec op s.store).1) :
    Sound c (s.answered exec i request past op next) := by
  constructor
  case meets =>
    intro j t found
    cases answered_cases there found with
    | inl here =>
      rw [here.2]
      exact (sound.meets i _ there).2 _ fits
    | inr other => exact sound.meets j t other.2
  case traced =>
    intro j t a found
    show a ∈ t.past ↔ ⟨a, j⟩ ∈ (⟨⟨op, (exec op s.store).1⟩, i⟩ : Event Answer) :: s.trace
    rw [List.mem_cons]
    cases answered_cases there found with
    | inl here =>
      rw [here.1, here.2, List.mem_cons, sound.traced i _ a there]
      simp
    | inr other =>
      rw [sound.traced j t a other.2]
      simp [other.1]
  case callers =>
    intro e mem
    show e.caller < (s.threads.set i _).length
    rw [List.length_set]
    cases List.mem_cons.mp mem with
    | inl new =>
      rw [new]
      exact (List.getElem?_eq_some_iff.mp there).1
    | inr old => exact sound.callers e old

def asked (i : Nat) (trace : List (Event Answer)) : List (Asked Answer) :=
  trace.filterMap (fun e => if e.caller = i then some e.toAsked else none)

/-- The past of every call is what it has asked, in the order of the trace. -/
structure InOrder (s : Server S R Answer α) : Prop where
  past : ∀ (i : Nat) (t : Thread R Answer α), s.threads[i]? = some t → t.past = asked i s.trace
  callers : ∀ e ∈ s.trace, e.caller < s.threads.length

theorem inOrder_fresh {store : S} : InOrder ({ store := store } : Server S R Answer α) where
  past i t there := by cases there
  callers e mem := by cases mem

theorem InOrder.started (order : InOrder s) : InOrder (s.started program request) where
  past i t there := by
    cases started_cases there with
    | inl old => exact order.past i t old
    | inr new =>
      rw [new.1, new.2]
      symm
      show asked _ s.trace = []
      unfold asked
      rw [List.filterMap_eq_nil_iff]
      intro e mem
      exact if_neg (Nat.ne_of_lt (order.callers e mem))
  callers e mem := by
    have before := order.callers e mem
    show e.caller < (s.threads ++ [_]).length
    rw [List.length_append]
    omega

theorem InOrder.answered (order : InOrder s)
    (there : s.threads[i]? = some ⟨request, past, .ask op next⟩) :
    InOrder (s.answered exec i request past op next) where
  past j t found := by
    show t.past = asked j (⟨⟨op, (exec op s.store).1⟩, i⟩ :: s.trace)
    cases answered_cases there found with
    | inl here =>
      rw [here.1, here.2]
      simp only [asked, List.filterMap_cons, if_true]
      exact congrArg _ (order.past i _ there)
    | inr other =>
      rw [order.past j t other.2]
      simp [asked, Ne.symm other.1]
  callers e mem := by
    show e.caller < (s.threads.set i _).length
    rw [List.length_set]
    cases List.mem_cons.mp mem with
    | inl new =>
      rw [new]
      exact (List.getElem?_eq_some_iff.mp there).1
    | inr old => exact order.callers e old

theorem store_invariant {I : S → Prop} (kept : ∀ op store, I store → I (exec op store).2)
    {store : S} (start : I store) (turns : List (Turn R)) :
    I (turns.foldl (step exec program) { store := store }).store := by
  refine foldl_invariant (P := fun s : Server S R Answer α => I s.store) ?_ start turns
  intro s turn inv
  cases turn with
  | begin request => exact inv
  | advance i =>
    obtain same | ⟨_, _, op, _, _, answered⟩ := s.step_advance exec program i
    · rwa [same]
    · rw [answered]
      exact kept op _ inv

variable {I : Server S R Answer α → Prop} {Guard : Server S R Answer α → Turn R → Prop}

variable (exec) (program) (c) in
theorem keep_step (programs : ∀ r, (program r).Meets c.fits (c.asks r) (c.gives r) [])
    (fits : ∀ s op, I s → c.fits op (exec op s.store).1)
    (starts : ∀ s r, I s → Sound c s → Guard s (.begin r) → I (s.started program r))
    (answers : ∀ (s : Server S R Answer α) i r past op next, I s → Sound c s →
      s.threads[i]? = some ⟨r, past, .ask op next⟩ → c.asks r past op → Guard s (.advance i) →
      I (s.answered exec i r past op next)) (s : Server S R Answer α) (m : Turn R)
    (good : I s ∧ Sound c s) (guard : Guard s m) :
    I (s.step exec program m) ∧ Sound c (s.step exec program m) := by
  cases m with
  | begin r => exact ⟨starts s r good.1 good.2 guard, good.2.started (programs r)⟩
  | advance i =>
    cases step_advance exec program s i with
    | inl idle =>
      rw [idle]
      exact good
    | inr asked =>
      obtain ⟨r, past, op, next, there, moved⟩ := asked
      rw [moved]
      exact ⟨answers s i r past op next good.1 good.2 there (good.2.asks there) guard,
        good.2.answered there (fits s op good.1)⟩

variable {T : Type z} (draw : R → Option T) (writes : Asked Answer → Option T)

/-- What the operations have written, the latest first. -/
def written (s : Server S R Answer α) : List T := s.trace.filterMap (fun e => writes e.toAsked)

/-- A request draws what no earlier one has drawn. -/
def DrawsFresh (s : Server S R Answer α) : Turn R → Prop
  | .begin r => ∀ x, draw r = some x → ∀ t ∈ s.threads, draw t.request ≠ some x
  | .advance _ => True

instance [DecidableEq T] : (turn : Turn R) → Decidable (DrawsFresh draw s turn)
  | .begin r => decidable_of_iff
    ((draw r).all (fun x => s.threads.all (fun t => draw t.request ≠ some x)) = true)
    (by simp [DrawsFresh, Option.all_eq_true])
  | .advance _ => isTrue trivial

/-- What is drawn belongs to one request, which writes it at most once. -/
structure DrawsOnce (s : Server S R Answer α) : Prop where
  single : ∀ (i j : Nat) (t t' : Thread R Answer α) (x : T), s.threads[i]? = some t →
    s.threads[j]? = some t' → draw t.request = some x → draw t'.request = some x → i = j
  owned : ∀ e ∈ s.trace, ∀ x, writes e.toAsked = some x →
    ∃ t, s.threads[e.caller]? = some t ∧ draw t.request = some x
  nodup : (s.written writes).Nodup

variable {draw} {writes}

theorem mem_written {x : T} : x ∈ s.written writes ↔ ∃ e ∈ s.trace, writes e.toAsked = some x :=
  List.mem_filterMap

theorem eq_of_nodup_filterMap {E : Type x} {f : E → Option T} {x : T} {es : List E}
    (nodup : (es.filterMap f).Nodup) {e e' : E} (mem : e ∈ es) (mem' : e' ∈ es)
    (same : f e = some x) (same' : f e' = some x) : e = e' := by
  have only {e : E} {es : List E} (absent : x ∉ es.filterMap f) (mem : e ∈ es) : f e ≠ some x :=
    fun here => absent (List.mem_filterMap.mpr ⟨e, mem, here⟩)
  induction es with
  | nil => cases mem
  | cons e'' es ih =>
    cases head : f e'' with
    | none =>
      rw [List.filterMap_cons_none head] at nodup
      cases mem with
      | head => cases head.symm.trans same
      | tail _ mem =>
        cases mem' with
        | head => cases head.symm.trans same'
        | tail _ mem' => exact ih nodup mem mem'
    | some y =>
      rw [List.filterMap_cons_some head, List.nodup_cons] at nodup
      cases mem with
      | head =>
        cases mem' with
        | head => rfl
        | tail _ mem' =>
          cases head.symm.trans same
          exact absurd same' (only nodup.1 mem')
      | tail _ mem =>
        cases mem' with
        | head =>
          cases head.symm.trans same'
          exact absurd same (only nodup.1 mem)
        | tail _ mem' => exact ih nodup.2 mem mem'

theorem written_of_traced {s' : Server S R Answer α} {a : Asked Answer}
    (traced : s'.trace = ⟨a, i⟩ :: s.trace) :
    s'.written writes = (writes a).toList ++ s.written writes := by
  unfold written
  rw [traced]
  cases wrote : writes a with
  | none => simp [wrote]
  | some x => simp [wrote]

theorem drawsOnce_fresh {store : S} :
    DrawsOnce draw writes ({ store := store } : Server S R Answer α) where
  single i j t t' x there := by cases there
  owned e mem := by cases mem
  nodup := List.nodup_nil

section

variable (once : DrawsOnce draw writes s)
include once

theorem DrawsOnce.started (fresh : DrawsFresh draw s (.begin request)) :
    DrawsOnce draw writes (s.started program request) := by
  have unused {i : Nat} {t : Thread R Answer α} {x : T} (there : s.threads[i]? = some t)
      (drawn : draw request = some x) : draw t.request ≠ some x :=
    fresh x drawn t (List.mem_of_getElem? there)
  constructor
  case single =>
    intro i j t t' x there there' drawn drawn'
    cases started_cases there with
    | inl old =>
      cases started_cases there' with
      | inl old' => exact once.single i j t t' x old old' drawn drawn'
      | inr new' =>
        rw [new'.2] at drawn'
        exact absurd drawn (unused old drawn')
    | inr new =>
      cases started_cases there' with
      | inl old' =>
        rw [new.2] at drawn
        exact absurd drawn' (unused old' drawn)
      | inr new' => rw [new.1, new'.1]
  case owned =>
    intro e mem x wrote
    obtain ⟨t, there, drawn⟩ := once.owned e mem x wrote
    exact ⟨t, started_of_there there, drawn⟩
  case nodup => exact once.nodup

theorem DrawsOnce.unwritten (sound : Sound c s) {x : T}
    (there : s.threads[i]? = some t) (drawn : draw t.request = some x)
    (unwritten : ∀ a ∈ t.past, writes a = none) : x ∉ s.written writes := by
  intro mem
  obtain ⟨e, traced, wrote⟩ := mem_written.mp mem
  obtain ⟨t', there', drawn'⟩ := once.owned e traced x wrote
  have same : e.caller = i := once.single _ _ t' t x there' there drawn' drawn
  have inPast : e.toAsked ∈ t.past := by
    rw [sound.traced i t e.toAsked there, ← same]
    exact traced
  rw [unwritten e.toAsked inPast] at wrote
  cases wrote

theorem DrawsOnce.answered (sound : Sound c s)
    (there : s.threads[i]? = some ⟨request, past, .ask op next⟩)
    (own : ∀ x, writes ⟨op, (exec op s.store).1⟩ = some x →
      draw request = some x ∧ ∀ a ∈ past, writes a = none) :
    DrawsOnce draw writes (s.answered exec i request past op next) := by
  have kept {j : Nat} {t : Thread R Answer α}
      (found : (s.answered exec i request past op next).threads[j]? = some t) :
      ∃ t', s.threads[j]? = some t' ∧ t'.request = t.request := by
    cases answered_cases there found with
    | inl here =>
      rw [here.1, here.2]
      exact ⟨_, there, rfl⟩
    | inr other => exact ⟨t, other.2, rfl⟩
  constructor
  case single =>
    intro j k t t' x found found' drawn drawn'
    obtain ⟨u, foundU, sameU⟩ := kept found
    obtain ⟨u', foundU', sameU'⟩ := kept found'
    rw [← sameU] at drawn
    rw [← sameU'] at drawn'
    exact once.single j k u u' x foundU foundU' drawn drawn'
  case owned =>
    intro e mem x wrote
    cases List.mem_cons.mp mem with
    | inl new =>
      rw [new] at wrote ⊢
      obtain ⟨t', found', same'⟩ := answered_of_there exec there there
      refine ⟨t', found', ?_⟩
      rw [same']
      exact (own x wrote).1
    | inr old =>
      obtain ⟨t, found, drawn⟩ := once.owned e old x wrote
      obtain ⟨t', found', same'⟩ := answered_of_there exec there found
      refine ⟨t', found', ?_⟩
      rw [same']
      exact drawn
  case nodup =>
    rw [written_of_traced rfl]
    cases wrote : writes ⟨op, (exec op s.store).1⟩ with
    | none => exact once.nodup
    | some x =>
      obtain ⟨drawn, unwritten⟩ := own x wrote
      exact List.nodup_cons.mpr ⟨once.unwritten sound there drawn unwritten, once.nodup⟩

end

end Server

end Orcheo.Lib
