import Orcheo.Defs.Rag.Documents
import Mathlib.Data.Set.Finite.Range
import Mathlib.Data.Set.Finite.Lemmas

/-! Codebooks of qualitative analyses: how an emergent one is merged into a seed. -/

namespace Orcheo.Qualitative

open Rag (Text strip strip_strip)

local instance lawfulBEqText : LawfulBEq Text := inferInstance

structure Subtheme where
  codeId : Text
  title : Text
  definition : Text := []
  included : List Text := []
  excluded : List Text := []
  exampleQuotes : List (List (Text × Text)) := []
  deriving DecidableEq

structure Theme where
  themeId : Text
  title : Text
  subthemes : List Subtheme := []
  deriving DecidableEq

structure Codebook where
  themes : List Theme := []

def Codebook.subthemes (c : Codebook) : List Subtheme := c.themes.flatMap Theme.subthemes

def zeroPadded (width n : Nat) : Text :=
  List.replicate (width - (Nat.toDigits 10 n).length) '0' ++ Nat.toDigits 10 n

def makeCodeId (index : Nat) : Text := 'C' :: zeroPadded 3 index
def makeThemeId (index : Nat) : Text := 'T' :: zeroPadded 2 index

def normaliseSubthemes (codeCounter : Nat) : List Subtheme → List Subtheme
  | [] => []
  | s :: rest =>
    { s with codeId := if s.codeId = [] then makeCodeId codeCounter else strip s.codeId } ::
      normaliseSubthemes (codeCounter + 1) rest

def shownThemeId (themeIndex : Nat) (themeId : Text) : Text :=
  if themeId = [] then makeThemeId themeIndex else strip themeId

def normaliseThemes (codeCounter themeIndex : Nat) : List Theme → List Theme
  | [] => []
  | t :: rest =>
    { t with
      themeId := shownThemeId themeIndex t.themeId
      subthemes := normaliseSubthemes codeCounter t.subthemes } ::
      normaliseThemes (codeCounter + t.subthemes.length) (themeIndex + 1) rest

def normaliseCodebookIds (codebook : Codebook) : Codebook := ⟨normaliseThemes 1 1 codebook.themes⟩

/-- The loop of `merge_codebooks`; none when the fuel is not enough. -/
def mintCodeId (used : List Text) : (fuel : Nat) → Text → Nat → Option (Text × Nat)
  | 0, _, _ => none
  | fuel + 1, codeId, next =>
    if codeId = [] ∨ used.contains codeId = true then mintCodeId used fuel (makeCodeId next) (next + 1)
    else some (codeId, next)

section Merge

variable (lower : Text → Text)

def foldTitle (s : Subtheme) : Text := lower (strip s.title)

def mergeSubthemes (fuel : Nat) (seedTitles : List Text) :
    List Text → Nat → List Subtheme → Option (List Subtheme × List Text × Nat)
  | used, next, [] => some ([], used, next)
  | used, next, s :: rest =>
    if foldTitle lower s ∈ seedTitles then mergeSubthemes fuel seedTitles used next rest
    else do
      let (codeId, next) ← mintCodeId used fuel (strip s.codeId) next
      let (merged, used, next) ← mergeSubthemes fuel seedTitles (codeId :: used) next rest
      return ({ s with codeId } :: merged, used, next)

def mergeThemes (fuel : Nat) (seedTitles : List Text) :
    List Text → Nat → List Theme → Option (List Theme)
  | _, _, [] => some []
  | used, next, t :: rest => do
    let (subthemes, used, next) ← mergeSubthemes lower fuel seedTitles used next t.subthemes
    let merged ← mergeThemes fuel seedTitles used next rest
    return if subthemes = [] then merged else { t with subthemes } :: merged

def seedTitles (seed : Codebook) : List Text := seed.subthemes.map (foldTitle lower)

def usedCodeIds (seed : Codebook) : List Text :=
  ((seed.subthemes.map (fun s => strip s.codeId)).filter (· ≠ [])).dedup

def mergeCodebooks (fuel : Nat) (seed emergent : Codebook) : Option Codebook := do
  let used := usedCodeIds seed
  let merged ← mergeThemes lower fuel (seedTitles lower seed) used (used.length + 1) emergent.themes
  return normaliseCodebookIds ⟨seed.themes ++ merged⟩

def Theme.has (title : Text) (t : Theme) : Prop := title ∈ t.subthemes.map (foldTitle lower)

def Theme.fresh (seedTitles : List Text) (t : Theme) : Theme :=
  { t with subthemes := t.subthemes.filter (fun s => foldTitle lower s ∉ seedTitles) }

def newThemes (seedTitles : List Text) (themes : List Theme) : List Theme :=
  (themes.map (Theme.fresh lower seedTitles)).filter (fun t => t.subthemes ≠ [])

def newTitles (seedTitles : List Text) (themes : List Theme) : List Text :=
  ((newThemes lower seedTitles themes).flatMap Theme.subthemes).map (foldTitle lower)

structure Codebook.Proper (c : Codebook) : Prop where
  codeIds : (c.subthemes.map Subtheme.codeId).Nodup ∧ ∀ s ∈ c.subthemes, strip s.codeId ≠ []
  themeIds : (c.themes.map Theme.themeId).Nodup ∧ ∀ t ∈ c.themes, strip t.themeId ≠ []
  titles : (c.subthemes.map Subtheme.title).Nodup ∧ ∀ s ∈ c.subthemes, strip s.title ≠ []

structure Keeps (seed emergent merged : Codebook) : Prop where
  seedFirst : seed.themes <+: merged.themes
  codeIds : (merged.subthemes.map Subtheme.codeId).Nodup
  themeIds : (merged.themes.map Theme.themeId).Nodup
  titles : (merged.subthemes.map (foldTitle lower)).Nodup
  /-- A new title stands once, in what has become of the first theme that has it. -/
  placed : ∀ before t after title, emergent.themes = before ++ t :: after →
    t.has lower title → title ∉ seedTitles lower seed → (∀ u ∈ before, ¬u.has lower title) →
    (merged.subthemes.map (foldTitle lower)).count title = 1 ∧ ∃ t',
      merged.themes[seed.themes.length +
        (newThemes lower (seedTitles lower seed) before).length]? = some t' ∧
      t'.title = t.title ∧ t'.has lower title

def shownThemeIds (themeIndex : Nat) : List Theme → List Text
  | [] => []
  | t :: rest => shownThemeId themeIndex t.themeId :: shownThemeIds (themeIndex + 1) rest

structure Apart (seed emergent : Codebook) : Prop where
  trimmedCodes : ∀ s ∈ seed.subthemes, strip s.codeId = s.codeId
  trimmedThemes : ∀ t ∈ seed.themes, strip t.themeId = t.themeId
  seedTitles : (seedTitles lower seed).Nodup
  newTitles : (newTitles lower (Qualitative.seedTitles lower seed) emergent.themes).Nodup
  themeIds : (shownThemeIds 1 (seed.themes ++
    newThemes lower (Qualitative.seedTitles lower seed) emergent.themes)).Nodup

theorem makeCodeId_injective : Function.Injective makeCodeId := by
  intro a b same
  have read : ∀ n, Nat.ofDigitChars 10 (zeroPadded 3 n) 0 = n := by
    intro n
    rw [zeroPadded, Nat.ofDigitChars_append, Nat.ofDigitChars_replicate_zero, Nat.mul_zero,
      Nat.ofDigitChars_ten_toDigits]
  rw [← read a, List.cons_injective same, read b]

theorem strip_makeCodeId (n : Nat) : strip (makeCodeId n) = makeCodeId n := by
  have solid : ∀ c ∈ makeCodeId n, Lib.Lines.isspace c = false := by
    intro c mem
    have digit : c = 'C' ∨ c.isDigit = true := by
      rcases List.mem_cons.mp mem with here | mem
      · exact .inl here
      · rcases List.mem_append.mp mem with zero | mem
        · rw [List.eq_of_mem_replicate zero]
          exact .inr rfl
        · exact .inr (Nat.isDigit_of_mem_toDigits (by decide) (by decide) mem)
    rcases digit with rfl | digit
    · rfl
    · have bounds : 48 ≤ c.toNat ∧ c.toNat ≤ 57 := Char.isDigit_iff_toNat.mp digit
      simp only [Lib.Lines.isspace, Bool.or_eq_false_iff, Bool.and_eq_false_iff,
        decide_eq_false_iff_not]
      omega
  unfold strip
  rw [List.dropWhile_eq_self_iff.mpr, List.rdropWhile_eq_self_iff.mpr]
  · intro some
    rw [solid _ (List.getLast_mem some)]
    decide
  · intro some
    rw [solid _ (List.getElem_mem some)]
    decide

structure Minted (used : List Text) (codeId : Text) : Prop where
  nonempty : codeId ≠ []
  unused : codeId ∉ used
  trimmed : strip codeId = codeId

def MintEnds (used : List Text) (codeId : Text) (next : Nat) : Prop :=
  ∃ codeId' next' fuel₀, Minted used codeId' ∧
    ∀ fuel ≥ fuel₀, mintCodeId used fuel codeId next = some (codeId', next')

section Loop

variable {used : List Text} {codeId : Text} {next : Nat}

theorem mintEnds_free (free : ¬(codeId = [] ∨ codeId ∈ used)) (trimmed : strip codeId = codeId) :
    MintEnds used codeId next := by
  refine ⟨codeId, next, 1, ⟨fun none => free (.inl none), fun mem => free (.inr mem), trimmed⟩,
    fun fuel enough => ?_⟩
  obtain ⟨fuel, rfl⟩ := Nat.exists_eq_add_of_le' enough
  rw [mintCodeId, if_neg (by simpa using free)]

theorem mintEnds_taken (taken : codeId = [] ∨ codeId ∈ used)
    (later : MintEnds used (makeCodeId next) (next + 1)) : MintEnds used codeId next := by
  obtain ⟨codeId', next', fuel₀, minted, ends⟩ := later
  refine ⟨codeId', next', fuel₀ + 1, minted, fun fuel enough => ?_⟩
  obtain ⟨fuel, rfl⟩ := Nat.exists_eq_add_of_le' enough
  rw [← Nat.add_assoc, mintCodeId, if_pos (by simpa using taken)]
  exact ends _ (Nat.le_add_left _ _)

theorem mintCodeId_ends (trimmed : strip codeId = codeId) : MintEnds used codeId next := by
  obtain ⟨_, ⟨n, rfl⟩, unused⟩ := (Set.infinite_range_of_injective
    (makeCodeId_injective.comp (add_right_injective next))).exists_notMem_finite
    (List.finite_toSet used)
  induction n generalizing codeId next with
  | zero =>
    by_cases taken : codeId = [] ∨ codeId ∈ used
    · exact mintEnds_taken taken (mintEnds_free (not_or.mpr ⟨List.cons_ne_nil _ _, unused⟩)
        (strip_makeCodeId next))
    · exact mintEnds_free taken trimmed
  | succ n ih =>
    by_cases taken : codeId = [] ∨ codeId ∈ used
    · refine mintEnds_taken taken (ih (strip_makeCodeId next) ?_)
      rw [Function.comp_apply, Nat.add_right_comm]
      exact unused
    · exact mintEnds_free taken trimmed

end Loop

inductive MintedAll : List Text → List Text → Prop
  | nil {used} : MintedAll used []
  | cons {used codeId rest} : Minted used codeId → MintedAll (codeId :: used) rest →
    MintedAll used (codeId :: rest)

theorem MintedAll.append {used a b : List Text} (first : MintedAll used a)
    (second : MintedAll (a.reverse ++ used) b) : MintedAll used (a ++ b) := by
  induction first with
  | nil => exact second
  | cons minted _ ih =>
    refine .cons minted (ih ?_)
    rwa [List.reverse_cons, List.append_assoc] at second

theorem MintedAll.mem {used ids : List Text} (all : MintedAll used ids) {codeId : Text}
    (mem : codeId ∈ ids) : Minted used codeId := by
  induction all with
  | nil => cases mem
  | cons minted _ ih =>
    rcases List.mem_cons.mp mem with rfl | mem
    · exact minted
    · exact ⟨(ih mem).nonempty, fun taken => (ih mem).unused (List.mem_cons_of_mem _ taken),
        (ih mem).trimmed⟩

theorem MintedAll.nodup {used ids : List Text} (all : MintedAll used ids) : ids.Nodup := by
  induction all with
  | nil => exact .nil
  | cons _ rest ih =>
    exact List.nodup_cons.mpr ⟨fun mem => (rest.mem mem).unused List.mem_cons_self, ih⟩

def Subtheme.unnamed (s : Subtheme) : Subtheme := { s with codeId := [] }

def Theme.unnamed (t : Theme) : Theme := { t with subthemes := t.subthemes.map Subtheme.unnamed }

variable {lower} (titles : List Text)

theorem mergeSubthemes_ends (used : List Text) (next : Nat) (subthemes : List Subtheme) :
    ∃ merged next' fuel₀, MintedAll used (merged.map Subtheme.codeId) ∧
      merged.map Subtheme.unnamed =
        (subthemes.filter (fun s => foldTitle lower s ∉ titles)).map Subtheme.unnamed ∧
      ∀ fuel ≥ fuel₀, mergeSubthemes lower fuel titles used next subthemes =
        some (merged, (merged.map Subtheme.codeId).reverse ++ used, next') := by
  induction subthemes generalizing used next with
  | nil => exact ⟨[], next, 0, .nil, rfl, fun _ _ => rfl⟩
  | cons s rest ih =>
    by_cases known : foldTitle lower s ∈ titles
    · obtain ⟨merged, next', fuel₀, minted, same, ends⟩ := ih used next
      refine ⟨merged, next', fuel₀, minted, ?_, fun fuel enough => ?_⟩
      · rw [same, List.filter_cons_of_neg (by simpa using known)]
      · rw [mergeSubthemes, if_pos known, ends fuel enough]
    · obtain ⟨codeId, next₁, fuel₁, minted₁, ends₁⟩ :=
        @mintCodeId_ends used _ next (strip_strip s.codeId)
      obtain ⟨merged, next', fuel₀, minted, same, ends⟩ := ih (codeId :: used) next₁
      refine ⟨{ s with codeId } :: merged, next', max fuel₁ fuel₀, .cons minted₁ minted, ?_,
        fun fuel enough => ?_⟩
      · rw [List.filter_cons_of_pos (by simpa using known), List.map_cons, List.map_cons, same]
        rfl
      · rw [mergeSubthemes, if_neg known, ends₁ fuel (le_of_max_le_left enough)]
        simp only [Option.bind_eq_bind, Option.bind_some, ends fuel (le_of_max_le_right enough),
          List.map_cons, List.reverse_cons, List.append_assoc, List.singleton_append, Option.pure_def]

theorem newThemes_cons (t : Theme) (rest : List Theme) : newThemes lower titles (t :: rest) =
    if (t.fresh lower titles).subthemes = [] then newThemes lower titles rest
    else t.fresh lower titles :: newThemes lower titles rest := by
  rw [newThemes, List.map_cons, List.filter_cons]
  split
  next some => rw [if_neg (of_decide_eq_true some)]; rfl
  next none => rw [if_pos (not_not.mp (fun some => none (decide_eq_true some)))]; rfl

theorem mergeThemes_ends (used : List Text) (next : Nat) (themes : List Theme) :
    ∃ merged fuel₀, MintedAll used ((merged.flatMap Theme.subthemes).map Subtheme.codeId) ∧
      merged.map Theme.unnamed = (newThemes lower titles themes).map Theme.unnamed ∧
      ∀ fuel ≥ fuel₀, mergeThemes lower fuel titles used next themes = some merged := by
  induction themes generalizing used next with
  | nil => exact ⟨[], 0, .nil, rfl, fun _ _ => rfl⟩
  | cons t rest ih =>
    obtain ⟨subthemes, next₁, fuel₁, minted₁, same₁, ends₁⟩ :=
      @mergeSubthemes_ends lower titles used next t.subthemes
    obtain ⟨merged, fuel₀, minted, same, ends⟩ :=
      ih ((subthemes.map Subtheme.codeId).reverse ++ used) next₁
    have computed : ∀ fuel ≥ max fuel₁ fuel₀, mergeThemes lower fuel titles used next (t :: rest) =
        some (if subthemes = [] then merged else { t with subthemes } :: merged) := by
      intro fuel enough
      rw [mergeThemes, ends₁ fuel (le_of_max_le_left enough)]
      simp only [Option.bind_eq_bind, Option.bind_some, ends fuel (le_of_max_le_right enough),
        Option.pure_def]
    by_cases none : subthemes = []
    · subst none
      refine ⟨merged, _, minted, ?_, computed⟩
      rw [same, newThemes_cons, if_pos]
      exact List.map_eq_nil_iff.mp same₁.symm
    · refine ⟨{ t with subthemes } :: merged, _, ?_, ?_, fun fuel enough =>
        (computed fuel enough).trans (congrArg some (if_neg none))⟩
      · rw [List.flatMap_cons, List.map_append]
        exact minted₁.append minted
      · rw [newThemes_cons, if_neg, List.map_cons, List.map_cons, same]
        · exact congrArg (· :: _) (congrArg (Theme.mk t.themeId t.title) same₁)
        · intro empty
          exact none (List.map_eq_nil_iff.mp (same₁.trans (congrArg _ empty)))

section Normalise

variable {codeCounter themeIndex : Nat}

theorem unnamed_normaliseSubthemes (l : List Subtheme) :
    (normaliseSubthemes codeCounter l).map Subtheme.unnamed = l.map Subtheme.unnamed := by
  induction l generalizing codeCounter with
  | nil => rfl
  | cons s rest ih => exact congrArg (s.unnamed :: ·) ih

theorem codeIds_normaliseSubthemes {l : List Subtheme} (named : ∀ s ∈ l, s.codeId ≠ []) :
    (normaliseSubthemes codeCounter l).map Subtheme.codeId = l.map (fun s => strip s.codeId) := by
  induction l generalizing codeCounter with
  | nil => rfl
  | cons s rest ih =>
    rw [normaliseSubthemes, List.map_cons, ih (fun s mem => named s (.tail _ mem)),
      if_neg (named s (.head _))]
    rfl

def Theme.shape (t : Theme) : Text × List Subtheme := (t.title, t.subthemes.map Subtheme.unnamed)

theorem shape_unnamed (t : Theme) : t.unnamed.shape = t.shape := by
  rw [Theme.shape, Theme.unnamed, List.map_map]
  rfl

theorem shape_normaliseThemes (ts : List Theme) :
    (normaliseThemes codeCounter themeIndex ts).map Theme.shape = ts.map Theme.shape := by
  induction ts generalizing codeCounter themeIndex with
  | nil => rfl
  | cons t rest ih =>
    rw [normaliseThemes, List.map_cons, ih, Theme.shape, unnamed_normaliseSubthemes]
    rfl

theorem themeIds_normaliseThemes (ts : List Theme) :
    (normaliseThemes codeCounter themeIndex ts).map Theme.themeId = shownThemeIds themeIndex ts := by
  induction ts generalizing codeCounter themeIndex with
  | nil => rfl
  | cons t rest ih => exact congrArg (_ :: ·) ih

variable {ts : List Theme}

theorem shownThemeIds_named (named : ∀ t ∈ ts, t.themeId ≠ []) :
    shownThemeIds themeIndex ts = ts.map (fun t => strip t.themeId) := by
  induction ts generalizing themeIndex with
  | nil => rfl
  | cons t rest ih =>
    rw [shownThemeIds, ih (fun t mem => named t (.tail _ mem)), shownThemeId,
      if_neg (named t (.head _))]
    rfl

theorem codeIds_normaliseThemes (named : ∀ s ∈ ts.flatMap Theme.subthemes, s.codeId ≠ []) :
    ((normaliseThemes codeCounter themeIndex ts).flatMap Theme.subthemes).map Subtheme.codeId =
      (ts.flatMap Theme.subthemes).map (fun s => strip s.codeId) := by
  induction ts generalizing codeCounter themeIndex with
  | nil => rfl
  | cons t rest ih =>
    rw [List.flatMap_cons] at named
    rw [normaliseThemes, List.flatMap_cons, List.flatMap_cons, List.map_append, List.map_append,
      codeIds_normaliseSubthemes (fun s mem => named s (List.mem_append_left _ mem)),
      ih (fun s mem => named s (List.mem_append_right _ mem))]

theorem normaliseThemes_append (a b : List Theme) : ∃ rest,
    normaliseThemes codeCounter themeIndex (a ++ b) =
      normaliseThemes codeCounter themeIndex a ++ rest := by
  induction a generalizing codeCounter themeIndex with
  | nil => exact ⟨_, rfl⟩
  | cons t more ih =>
    obtain ⟨rest, eq⟩ := @ih (codeCounter + t.subthemes.length) (themeIndex + 1)
    exact ⟨rest, congrArg (_ :: ·) eq⟩

theorem normaliseSubthemes_eq {l : List Subtheme}
    (same : (normaliseSubthemes codeCounter l).map Subtheme.codeId = l.map Subtheme.codeId) :
    normaliseSubthemes codeCounter l = l := by
  induction l generalizing codeCounter with
  | nil => rfl
  | cons s rest ih =>
    obtain ⟨first, later⟩ := List.cons.inj same
    rw [normaliseSubthemes, ih later]
    exact congrArg (fun codeId => { s with codeId } :: rest) first

theorem normaliseThemes_eq
    (codes : ∀ s ∈ ts.flatMap Theme.subthemes, s.codeId ≠ [] ∧ strip s.codeId = s.codeId)
    (themes : ∀ t ∈ ts, t.themeId ≠ [] ∧ strip t.themeId = t.themeId) :
    normaliseThemes codeCounter themeIndex ts = ts := by
  induction ts generalizing codeCounter themeIndex with
  | nil => rfl
  | cons t rest ih =>
    rw [List.flatMap_cons] at codes
    have inner : normaliseSubthemes codeCounter t.subthemes = t.subthemes := by
      apply normaliseSubthemes_eq
      rw [codeIds_normaliseSubthemes (fun s mem => (codes s (List.mem_append_left _ mem)).1)]
      exact List.map_congr_left (fun s mem => (codes s (List.mem_append_left _ mem)).2)
    have outer : shownThemeId themeIndex t.themeId = t.themeId := by
      rw [shownThemeId, if_neg (themes t (.head _)).1, (themes t (.head _)).2]
    rw [normaliseThemes, inner, outer, ih (fun s mem => codes s (List.mem_append_right _ mem))
      (fun t mem => themes t (.tail _ mem))]

theorem shownThemeIds_congr {ts us : List Theme}
    (same : ts.map Theme.themeId = us.map Theme.themeId) :
    shownThemeIds themeIndex ts = shownThemeIds themeIndex us := by
  induction ts generalizing us themeIndex with
  | nil => rw [List.map_eq_nil_iff.mp same.symm]
  | cons t rest ih =>
    cases us with
    | nil => cases same
    | cons u more =>
      obtain ⟨first, later⟩ := List.cons.inj same
      rw [shownThemeIds, shownThemeIds, ih later, show t.themeId = u.themeId from first]

theorem titles_of_shape {ts us : List Theme} (same : ts.map Theme.shape = us.map Theme.shape) :
    (ts.flatMap Theme.subthemes).map (foldTitle lower) =
      (us.flatMap Theme.subthemes).map (foldTitle lower) := by
  have through : ∀ ts : List Theme, (ts.flatMap Theme.subthemes).map (foldTitle lower) =
      ((ts.map Theme.shape).flatMap Prod.snd).map (foldTitle lower) := by
    intro ts
    rw [List.flatMap_map, List.map_flatMap, List.map_flatMap]
    simp only [Theme.shape, List.map_map]
    rfl
  rw [through, same, ← through]

end Normalise

theorem disjoint_newTitles {themes : List Theme} {title : Text}
    (mem : title ∈ newTitles lower titles themes) : title ∉ titles := by
  obtain ⟨s, inside, rfl⟩ := List.mem_map.mp mem
  obtain ⟨t, kept, inside⟩ := List.mem_flatMap.mp inside
  obtain ⟨t, -, rfl⟩ := List.mem_map.mp (List.mem_of_mem_filter kept)
  exact of_decide_eq_true (List.mem_filter.mp inside).2

theorem mem_newThemes {t : Theme} {title : Text} (there : t.has lower title)
    (fresh : title ∉ titles) : newThemes lower titles [t] = [t.fresh lower titles] ∧
      (t.fresh lower titles).has lower title := by
  obtain ⟨s, mem, rfl⟩ := List.mem_map.mp there
  have inside : s ∈ (t.fresh lower titles).subthemes :=
    List.mem_filter.mpr ⟨mem, decide_eq_true fresh⟩
  refine ⟨?_, List.mem_map_of_mem inside⟩
  rw [newThemes_cons, if_neg (List.ne_nil_of_mem inside)]
  rfl

variable {seed emergent merged : Codebook} {m : List Theme}
  (shape : merged.themes.map Theme.shape =
    (seed.themes ++ newThemes lower (seedTitles lower seed) emergent.themes).map Theme.shape)

include shape in
theorem titles_merged : merged.subthemes.map (foldTitle lower) = seedTitles lower seed ++
    newTitles lower (seedTitles lower seed) emergent.themes := by
  rw [Codebook.subthemes, titles_of_shape shape, List.flatMap_append, List.map_append]
  rfl

include shape in
theorem placed_of_titles (titles : (merged.subthemes.map (foldTitle lower)).Nodup)
    {before after : List Theme} {t : Theme} {title : Text}
    (split : emergent.themes = before ++ t :: after) (there : t.has lower title)
    (fresh : title ∉ seedTitles lower seed) :
    (merged.subthemes.map (foldTitle lower)).count title = 1 ∧ ∃ t',
      merged.themes[seed.themes.length +
        (newThemes lower (seedTitles lower seed) before).length]? = some t' ∧
      t'.title = t.title ∧ t'.has lower title := by
  obtain ⟨one, has⟩ := mem_newThemes (seedTitles lower seed) there fresh
  have kept : newThemes lower (seedTitles lower seed) emergent.themes =
      newThemes lower (seedTitles lower seed) before ++ t.fresh lower (seedTitles lower seed) ::
        newThemes lower (seedTitles lower seed) after := by
    have cons : newThemes lower (seedTitles lower seed) (t :: after) =
        newThemes lower (seedTitles lower seed) [t] ++
          newThemes lower (seedTitles lower seed) after := by
      rw [newThemes, List.map_cons, ← List.singleton_append, List.filter_append]
      rfl
    rw [split, newThemes, List.map_append, List.filter_append, ← newThemes, ← newThemes, cons, one]
    rfl
  have place : (merged.themes.map Theme.shape)[seed.themes.length +
      (newThemes lower (seedTitles lower seed) before).length]? =
      some (t.fresh lower (seedTitles lower seed)).shape := by
    rw [shape, kept, List.getElem?_map, List.getElem?_append_right (Nat.le_add_right _ _),
      Nat.add_sub_cancel_left, List.getElem?_append_right (Nat.le_refl _), Nat.sub_self]
    rfl
  rw [List.getElem?_map, Option.map_eq_some_iff] at place
  obtain ⟨t', found, same⟩ := place
  have has' : t'.has lower title := by
    have listed : t'.subthemes.map (foldTitle lower) =
        (t.fresh lower (seedTitles lower seed)).subthemes.map (foldTitle lower) := by
      have := @titles_of_shape lower [t'] [t.fresh lower (seedTitles lower seed)]
        (congrArg (fun s => [s]) same)
      rwa [List.flatMap_singleton, List.flatMap_singleton] at this
    rw [Theme.has, listed]
    exact has
  refine ⟨List.count_eq_one_of_mem titles ?_, t', found, congrArg Prod.fst same, has'⟩
  obtain ⟨s, mem, eq⟩ := List.mem_map.mp has'
  exact List.mem_map.mpr ⟨s, List.mem_flatMap.mpr ⟨t', List.mem_of_getElem? found, mem⟩, eq⟩

def clashingCodebooks : Codebook × Codebook :=
  (⟨[⟨['T', '1'], ['a'], [⟨['C', '1'], ['a'], [], [], [], []⟩]⟩]⟩,
    ⟨[⟨['T', '1'], ['b'], [⟨['C', '1'], ['b'], [], [], [], []⟩]⟩]⟩)

theorem clashingCodebooks_proper : clashingCodebooks.1.Proper := by
  refine ⟨⟨?_, ?_⟩, ⟨?_, ?_⟩, ⟨?_, ?_⟩⟩ <;> decide +kernel

end Merge

end Orcheo.Qualitative
