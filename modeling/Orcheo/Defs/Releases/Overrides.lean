import Orcheo.Defs.Values

/-! The configurable values of an installed workflow version, across its releases. -/

namespace Orcheo.Releases

open Lib (Dict)

/-- `configurable` is none where the config has none, or one that is no object. -/
structure RunnableConfig where
  configurable : Option (Dict String Json)
  others : Dict String Json := ∅

/-- `configurableDefaults` is what the metadata records under `CONFIGURABLE_DEFAULTS_KEY`. -/
structure WorkflowVersion where
  runnableConfig : Option RunnableConfig
  configurableDefaults : Option (Dict String Json)

def extractConfigurableDefaults (config : Option RunnableConfig) : Dict String Json :=
  (config.bind RunnableConfig.configurable).getD ∅

def userValues (existing : Dict String Json) : Option (Dict String Json) → Dict String Json
  | none => existing
  | some previousDefaults => existing.filter fun key value =>
    (previousDefaults.get? key).all fun default => !default.pyEq value

def mergeUserConfigurable (newConfig existingConfig : Option RunnableConfig)
    (previousDefaults : Option (Dict String Json)) : Option RunnableConfig :=
  match newConfig, existingConfig.bind RunnableConfig.configurable with
  | some ⟨some newCfg, others⟩, some existingCfg =>
    if existingCfg.entries = [] then newConfig
    else some ⟨some (newCfg.mapValues fun key value =>
      ((userValues existingCfg previousDefaults).get? key).getD value), others⟩
  | _, _ => newConfig

def applyUserConfigurableOverrides (newConfig : Option RunnableConfig) :
    Option WorkflowVersion → Option RunnableConfig
  | none => newConfig
  | some existing =>
    mergeUserConfigurable newConfig existing.runnableConfig existing.configurableDefaults

inductive ReleaseOp
  | release (config : Option RunnableConfig)
  | update (config : Option RunnableConfig)

def step (installed : Option WorkflowVersion) : ReleaseOp → Option WorkflowVersion
  | .release config =>
    let defaults := extractConfigurableDefaults config
    some ⟨applyUserConfigurableOverrides config installed,
      if defaults.entries = [] then none else some defaults⟩
  | .update config => installed.map fun version => { version with runnableConfig := config }

variable (ops : List ReleaseOp)

def run : Option WorkflowVersion := ops.foldl step none

def installedValues : Dict String Json :=
  extractConfigurableDefaults ((run ops).bind WorkflowVersion.runnableConfig)

def inForce : Dict String Json :=
  ops.foldl (fun defaults op => match op with
    | .release config => extractConfigurableDefaults config
    | .update _ => defaults) ∅

/-- The last update brought the value, against the default in force, and all later releases
declare the field, with a default of which `later` holds. -/
def LastEdited (later : Json → Json → Prop) (ops : List ReleaseOp) (key : String) (value : Json) :
    Prop :=
  ∃ before config, ∃ releases : List (Option RunnableConfig),
    ops = before ++ .update config :: releases.map .release ∧
    run before ≠ none ∧ (extractConfigurableDefaults config).get? key = some value ∧
    (∀ default, (inForce before).get? key = some default → default.pyEq value = false) ∧
    ∀ release ∈ releases, ∃ default,
      (extractConfigurableDefaults release).get? key = some default ∧ later default value

abbrev UserChanged (key : String) (value : Json) : Prop :=
  LastEdited (fun default value => default.pyEq value = false) ops key value

section Laws

variable {ops : List ReleaseOp} {config : Option RunnableConfig} {key : String} {value : Json}

def ownValues (version : Option WorkflowVersion) : Dict String Json :=
  match version with
  | none => ∅
  | some v => userValues (extractConfigurableDefaults v.runnableConfig) v.configurableDefaults

theorem get?_userValues (existing : Dict String Json) (previous : Option (Dict String Json)) :
    (userValues existing previous).get? key = some value ↔ existing.get? key = some value ∧
      ∀ default, (previous.getD ∅).get? key = some default → default.pyEq value = false := by
  cases previous with
  | none =>
    constructor
    · intro found
      exact ⟨found, nofun⟩
    · exact And.left
  | some previous =>
    rw [userValues, Dict.get?_filter, Option.filter_eq_some_iff, Option.all_eq_true]
    simp only [Option.getD_some, Bool.not_eq_true']

theorem ownValues_sub (version : WorkflowVersion) (found : (ownValues (some version)).get? key =
    some value) : (extractConfigurableDefaults version.runnableConfig).get? key = some value :=
  ((get?_userValues _ _).mp found).1

theorem get?_applied (config : Option RunnableConfig) (version : Option WorkflowVersion) :
    (extractConfigurableDefaults (applyUserConfigurableOverrides config version)).get? key =
      ((extractConfigurableDefaults config).get? key).map
        (fun default => ((ownValues version).get? key).getD default) := by
  have same : (extractConfigurableDefaults config).get? key =
      ((extractConfigurableDefaults config).get? key).map (fun default => default) :=
    Option.map_id'.symm
  match config, version with
  | none, none | none, some _ | some ⟨none, _⟩, none | some ⟨none, _⟩, some _ => rfl
  | some ⟨some newCfg, others⟩, none => exact same
  | some ⟨some newCfg, others⟩, some version =>
    have kept : (ownValues (some version)).get? key = none →
        (extractConfigurableDefaults (some ⟨some newCfg, others⟩)).get? key =
          ((extractConfigurableDefaults (some ⟨some newCfg, others⟩)).get? key).map
            (fun default => ((ownValues (some version)).get? key).getD default) := by
      intro none
      rw [none]
      exact same
    show (extractConfigurableDefaults (mergeUserConfigurable _ version.runnableConfig
      version.configurableDefaults)).get? key = _
    cases existing : version.runnableConfig.bind RunnableConfig.configurable with
    | none =>
      unfold mergeUserConfigurable
      rw [existing]
      refine kept (Option.eq_none_iff_forall_ne_some.mpr (fun value found => ?_))
      have there := ownValues_sub version found
      rw [extractConfigurableDefaults, existing] at there
      cases there
    | some existingCfg =>
      unfold mergeUserConfigurable
      rw [existing]
      dsimp only
      split
      next empty =>
        refine kept (Option.eq_none_iff_forall_ne_some.mpr (fun value found => ?_))
        have there := ownValues_sub version found
        rw [extractConfigurableDefaults, existing, Option.getD_some, Dict.get?, empty] at there
        cases there
      next =>
        have read : extractConfigurableDefaults version.runnableConfig = existingCfg := by
          rw [extractConfigurableDefaults, existing]
          rfl
        rw [ownValues, read]
        exact newCfg.get?_mapValues (fun key value =>
          ((userValues existingCfg version.configurableDefaults).get? key).getD value) key

theorem run_append (ops : List ReleaseOp) (op : ReleaseOp) :
    run (ops ++ [op]) = step (run ops) op :=
  List.foldl_concat _ _ _ _

theorem recorded_run (ops : List ReleaseOp) (version : WorkflowVersion)
    (installed : run ops = some version) : version.configurableDefaults.getD ∅ = inForce ops := by
  induction ops using List.reverseRecOn generalizing version with
  | nil => cases installed
  | append_singleton ops op ih =>
    rw [run_append] at installed
    rw [inForce, List.foldl_concat, ← inForce]
    cases op with
    | release config =>
      cases installed
      dsimp only
      split
      next empty => exact Dict.ext_entries empty.symm
      next => rfl
    | update config =>
      obtain ⟨earlier, before, rfl⟩ := Option.map_eq_some_iff.mp installed
      exact ih earlier before

variable {later : Json → Json → Prop}

theorem lastEdited_update :
    LastEdited later (ops ++ [.update config]) key value ↔ run ops ≠ none ∧
      (extractConfigurableDefaults config).get? key = some value ∧
      ∀ default, (inForce ops).get? key = some default → default.pyEq value = false := by
  constructor
  · rintro ⟨before, config', releases, eq, there, found, differs, -⟩
    rcases List.eq_nil_or_concat releases with rfl | ⟨more, last, rfl⟩
    · obtain ⟨rfl, same⟩ := List.append_inj' eq rfl
      cases same
      exact ⟨there, found, differs⟩
    · rw [List.map_concat, List.concat_eq_append, ← List.cons_append, ← List.append_assoc] at eq
      cases (List.append_inj' eq rfl).2
  · rintro ⟨there, found, differs⟩
    exact ⟨ops, config, [], rfl, there, found, differs, nofun⟩

theorem lastEdited_release :
    LastEdited later (ops ++ [.release config]) key value ↔ LastEdited later ops key value ∧
      ∃ default, (extractConfigurableDefaults config).get? key = some default ∧
        later default value := by
  constructor
  · rintro ⟨before, config', releases, eq, there, found, differs, declared⟩
    rcases List.eq_nil_or_concat releases with rfl | ⟨more, last, rfl⟩
    · cases (List.append_inj' eq rfl).2
    · rw [List.map_concat, List.concat_eq_append, ← List.cons_append, ← List.append_assoc] at eq
      obtain ⟨rfl, same⟩ := List.append_inj' eq rfl
      cases same
      exact ⟨⟨before, config', more, rfl, there, found, differs,
        fun release mem => declared release
          (by rw [List.concat_eq_append]; exact List.mem_append_left _ mem)⟩,
        declared config (by rw [List.concat_eq_append]; exact List.mem_append_right _ (.head _))⟩
  · rintro ⟨⟨before, config', releases, rfl, there, found, differs, declared⟩, last⟩
    refine ⟨before, config', releases ++ [config], ?_, there, found, differs, ?_⟩
    · rw [List.map_append, List.append_assoc]
      rfl
    · intro release mem
      rcases List.mem_append.mp mem with mem | mem
      · exact declared release mem
      · rw [List.mem_singleton.mp mem]
        exact last

/-- Defaults are equal to themselves: none of them is a NaN. -/
def Plain (ops : List ReleaseOp) : Prop := ∀ config, .release config ∈ ops → ∀ key default,
  (extractConfigurableDefaults config).get? key = some default → default.pyEq default = true

theorem ownValues_run (plain : Plain ops) :
    (ownValues (run ops)).get? key = some value ↔ UserChanged ops key value := by
  induction ops using List.reverseRecOn generalizing value with
  | nil =>
    constructor
    · intro found
      cases found
    · rintro ⟨before, config, releases, eq, -⟩
      exact absurd eq.symm (List.append_ne_nil_of_right_ne_nil _ (List.cons_ne_nil _ _))
  | append_singleton ops op ih =>
    have ih := fun value => @ih value (fun config mem => plain config (List.mem_append_left _ mem))
    rw [run_append]
    cases op with
    | update config =>
      rw [UserChanged, lastEdited_update]
      cases installed : run ops with
      | none =>
        constructor
        · intro found
          cases found
        · rintro ⟨there, -⟩
          exact absurd rfl there
      | some version =>
        show (userValues _ version.configurableDefaults).get? key = some value ↔ _
        rw [get?_userValues, recorded_run ops version installed]
        exact ⟨fun found => ⟨Option.some_ne_none _, found⟩, And.right⟩
    | release config =>
      have recorded := recorded_run (ops ++ [.release config]) _ (run_append ops (.release config))
      rw [UserChanged, lastEdited_release, ← UserChanged, ← ih]
      show (userValues _ _).get? key = some value ↔ _
      rw [get?_userValues, recorded, inForce, List.foldl_concat, get?_applied]
      cases declared : (extractConfigurableDefaults config).get? key with
      | none => simp
      | some default =>
        have self := plain config (List.mem_append_right _ (.head _)) key default declared
        cases own : (ownValues (run ops)).get? key with
        | none =>
          constructor
          · rintro ⟨kept, differs⟩
            cases kept
            exact absurd (self.symm.trans (differs default rfl)) (by decide)
          · rintro ⟨found, -⟩
            cases found
        | some mine => simp

end Laws

/-- A field that the user has changed, and that all releases since declare with another default,
keeps the user's value; any other field has the default of the release. -/
theorem installed_after_release {ops : List ReleaseOp} (plain : Plain ops)
    {config : Option RunnableConfig} {key : String} {default : Json}
    (declared : (extractConfigurableDefaults config).get? key = some default) :
    (∀ value, UserChanged ops key value →
      (installedValues (ops ++ [.release config])).get? key = some value) ∧
    ((∀ value, ¬UserChanged ops key value) →
      (installedValues (ops ++ [.release config])).get? key = some default) := by
  have found : (installedValues (ops ++ [.release config])).get? key =
      some (((ownValues (run ops)).get? key).getD default) := by
    rw [installedValues, run_append]
    show (extractConfigurableDefaults (applyUserConfigurableOverrides config (run ops))).get? key = _
    rw [get?_applied, declared]
    rfl
  constructor
  · intro value changed
    rw [found, (ownValues_run plain).mpr changed]
    rfl
  · intro unchanged
    have none : (ownValues (run ops)).get? key = none :=
      Option.eq_none_iff_forall_ne_some.mpr
        (fun value own => unchanged value ((ownValues_run plain).mp own))
    rw [found, none]
    rfl

def modelNamed (name : String) : Option RunnableConfig :=
  some ⟨some ⟨[("model", .str name)], List.nodup_singleton _⟩, ∅⟩

theorem installed_after_release_lost : ¬∀ (ops : List ReleaseOp) (config : Option RunnableConfig)
    (key : String) (default value : Json),
    (extractConfigurableDefaults config).get? key = some default →
    LastEdited (fun _ _ => True) ops key value →
    (installedValues (ops ++ [.release config])).get? key = some value := by
  intro all
  have kept := all [.release (modelNamed "a"), .update (modelNamed "b"), .release (modelNamed "b")]
    (modelNamed "c") "model" (.str "c") (.str "b") rfl
    ⟨[.release (modelNamed "a")], modelNamed "b", [modelNamed "b"], rfl, by decide, rfl,
      fun default found => by cases found; decide, fun release mem => by
        rw [List.mem_singleton.mp mem]; exact ⟨_, rfl, trivial⟩⟩
  exact absurd kept (by decide +kernel)

theorem installed_after_release_kept :
    (installedValues [.release (modelNamed "a"), .update (modelNamed "b"),
      .release (modelNamed "c")]).get? "model" = some (.str "b") := by
  refine (@installed_after_release [.release (modelNamed "a"), .update (modelNamed "b")] ?_
    (modelNamed "c") "model" (.str "c") rfl).1 (.str "b")
    ⟨[.release (modelNamed "a")], modelNamed "b", [], rfl, by decide, rfl,
      fun default found => by cases found; decide, nofun⟩
  intro config mem key default found
  simp only [List.mem_cons, List.not_mem_nil, or_false, reduceCtorEq, ReleaseOp.release.injEq] at mem
  subst mem
  have entry := Dict.mem_of_lookup found
  cases List.mem_singleton.mp entry
  decide

end Orcheo.Releases
