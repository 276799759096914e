/-! Records that are read, changed and written back, by callers that run at once.  Every aspect of
a record is as it was last changed, as long as no caller writes back what it has read before a
change.  The trace has the latest event first. -/

universe u v w x

namespace Orcheo.Lib

/-- Who causes an event, and the record that it reads or writes. -/
structure Access (E : Type u) (K : Type v) (V : Type w) where
  caller : E → Nat
  reads : E → Option (K × V)
  writes : E → Option (K × V)
  apart : ∀ e, (reads e).isSome → writes e = none

namespace Access

variable {E : Type u} {K : Type v} {V : Type w} {A : Type x} [DecidableEq K] [DecidableEq A]
  (acc : Access E K V)

def readBy (i : Nat) (k : K) (e : E) : Option V :=
  (acc.reads e).bind (fun r => if acc.caller e = i ∧ r.1 = k then some r.2 else none)

/-- What the caller has read of the record the last time. -/
def latestRead (i : Nat) (k : K) : List E → Option V
  | [] => none
  | e :: older => (acc.readBy i k e).or (latestRead i k older)

variable (aspect : V → A)

/-- The aspect that an event writes, where its caller has not read it so. -/
def changed (e : E) (older : List E) : Option (K × A) :=
  (acc.writes e).bind (fun r =>
    if (acc.latestRead (acc.caller e) r.1 older).map aspect = some (aspect r.2) then none
    else some (r.1, aspect r.2))

def changedOf (k : K) (e : E) (older : List E) : Option A :=
  (acc.changed aspect e older).bind (fun r => if r.1 = k then some r.2 else none)

def standing (initial : K → Option A) (k : K) : List E → Option A
  | [] => initial k
  | e :: older => (acc.changedOf aspect k e older).or (standing initial k older)

/-- The aspect has not been changed since the caller has read the record. -/
def unchanged (i : Nat) (k : K) : List E → Bool
  | [] => true
  | e :: older => (acc.readBy i k e).isSome ||
    (acc.changedOf aspect k e older).isNone && unchanged i k older

/-- The records are as they were last changed, and so were they when they were read. -/
structure Stands (initial current : K → Option A) (trace : List E) : Prop where
  now : ∀ k, current k = acc.standing aspect initial k trace
  read : ∀ newer e older, trace = newer ++ e :: older → ∀ k v, acc.reads e = some (k, v) →
    acc.standing aspect initial k older = some (aspect v)

variable {acc aspect} {initial current current' : K → Option A} {i : Nat} {k : K} {v : V} {e : E}
  {older trace : List E}

theorem readBy_iff : acc.readBy i k e = some v ↔ acc.reads e = some (k, v) ∧ acc.caller e = i := by
  unfold readBy
  rw [Option.bind_eq_some_iff]
  constructor
  · rintro ⟨⟨k', v'⟩, reads, same⟩
    split at same
    next here =>
      cases same
      cases here.2
      exact ⟨reads, here.1⟩
    next => cases same
  · rintro ⟨reads, here⟩
    exact ⟨(k, v), reads, by simp [here]⟩

theorem changedOf_of_writes_none (quiet : acc.writes e = none) :
    acc.changedOf aspect k e older = none := by
  simp [changedOf, changed, quiet]

theorem changedOf_other {k' : K} (writes : acc.writes e = some (k', v)) (other : k' ≠ k) :
    acc.changedOf aspect k e older = none := by
  unfold changedOf changed
  rw [writes, Option.bind_some]
  split
  · rfl
  · simp [other]

theorem changedOf_self (writes : acc.writes e = some (k, v)) : acc.changedOf aspect k e older =
    if (acc.latestRead (acc.caller e) k older).map aspect = some (aspect v) then none
    else some (aspect v) := by
  unfold changedOf changed
  rw [writes, Option.bind_some]
  split
  · rfl
  · simp

theorem stands_nil : acc.Stands aspect initial initial [] where
  now _ := rfl
  read newer e older split := by
    have := congrArg List.length split
    simp at this

theorem standing_of_unchanged
    (read : ∀ newer e older, trace = newer ++ e :: older → ∀ k v, acc.reads e = some (k, v) →
      acc.standing aspect initial k older = some (aspect v))
    (latest : acc.latestRead i k trace = some v) (same : acc.unchanged aspect i k trace = true) :
    acc.standing aspect initial k trace = some (aspect v) := by
  induction trace with
  | nil => cases latest
  | cons e older ih =>
    rw [latestRead] at latest
    rw [standing]
    cases here : acc.readBy i k e with
    | some v' =>
      rw [here] at latest
      cases latest
      have reads := (readBy_iff.mp here).1
      have quiet := acc.apart e (by rw [reads]; rfl)
      rw [changedOf_of_writes_none quiet, Option.none_or]
      exact read [] e older rfl k v reads
    | none =>
      rw [here] at latest
      rw [unchanged, here, Option.isSome_none, Bool.false_or, Bool.and_eq_true,
        Option.isNone_iff_eq_none] at same
      rw [same.1, Option.none_or]
      refine ih ?_ latest same.2
      intro newer e' older' split
      exact read (e :: newer) e' older' (by rw [split]; rfl)

theorem Stands.cons (stands : acc.Stands aspect initial current older)
    (reads : ∀ k v, acc.reads e = some (k, v) → current k = some (aspect v))
    (writes : ∀ k v, acc.writes e = some (k, v) → current' k = some (aspect v) ∧
      ∀ k', k' ≠ k → current' k' = current k') (quiet : acc.writes e = none → current' = current)
    (back : ∀ k v, acc.writes e = some (k, v) → acc.changedOf aspect k e older = none →
      acc.unchanged aspect (acc.caller e) k older = true) :
    acc.Stands aspect initial current' (e :: older) where
  now k := by
    rw [standing]
    cases written : acc.writes e with
    | none => rw [changedOf_of_writes_none written, Option.none_or, quiet written, stands.now]
    | some r =>
      obtain ⟨k', v⟩ := r
      obtain ⟨here, others⟩ := writes k' v written
      by_cases same : k = k'
      · subst same
        rw [here]
        cases changes : acc.changedOf aspect k e older with
        | some a =>
          rw [changedOf_self written] at changes
          split at changes
          · cases changes
          · rw [changes, Option.some_or]
        | none =>
          have kept := back k v written changes
          rw [changedOf_self written] at changes
          split at changes
          next latest =>
            obtain ⟨v', latest, read⟩ := Option.map_eq_some_iff.mp latest
            rw [Option.none_or, standing_of_unchanged stands.read latest kept, read]
          next => cases changes
      · rw [changedOf_other written (Ne.symm same), Option.none_or, others k same, stands.now]
  read newer e' older' split k v read := by
    cases newer with
    | nil =>
      cases split
      rw [← stands.now]
      exact reads k v read
    | cons e'' newer =>
      cases split
      exact stands.read newer e' older' rfl k v read

end Access

end Orcheo.Lib
