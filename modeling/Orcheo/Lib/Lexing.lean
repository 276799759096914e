import Mathlib.Data.List.DropRight
import Orcheo.Lib.Lines

/-! The lexical structure of Python: which lines begin a logical line, which go on with one, and
which begin within a string literal. -/

namespace Orcheo.Lib.Lexing

open Lines

/-- What is open: a bracket, a string literal, or in an f-string a replacement field or its format
specifier. -/
inductive Frame
  | bracket
  | literal (double triple raw format : Bool)
  | field
  | spec
  deriving DecidableEq

def Frame.isLiteral : Frame → Bool
  | literal _ _ _ _ => true
  | _ => false

def inLiteral (frames : List Frame) : Bool := frames.any Frame.isLiteral

/-- Whether what comes next is code, perhaps that of a replacement field. -/
def inCode : List Frame → Bool
  | .literal _ _ _ _ :: _ => false
  | .spec :: _ => false
  | _ => true

/-- A literal is taken as it is written, an f-string with its fields. -/
inductive Token
  | char (c : Char)
  | gap
  | text (c : Char)
  | newline
  deriving DecidableEq

def token (frames : List Frame) (c : Char) : Token :=
  if inLiteral frames then .text c else if isspace c then .gap else .char c

def quoteChar (double : Bool) : Char := if double then '\x22' else '\x27'

def isWordChar (c : Char) : Bool := c.isAlphanum || c = '_' || 128 ≤ c.toNat

/-- The prefixes of string literals, forwards and backwards. -/
def stringPrefixes : List (List Char) :=
  [['r'], ['u'], ['b'], ['f'], ['t'], ['b', 'r'], ['r', 'b'], ['f', 'r'], ['r', 'f'], ['t', 'r'],
    ['r', 't']]

/-- The literal that a quote opens; the word before it may be a prefix. -/
def opened (word : List Char) (double triple : Bool) : Frame :=
  let word := word.map Char.toLower
  let known := stringPrefixes.contains word
  .literal double triple (known && word.contains 'r')
    (known && (word.contains 'f' || word.contains 't'))

/-- How many characters a backslash takes with it. -/
def escaped (raw format : Bool) (cs : List Char) : Nat :=
  if format && (cs.head? = some '\x7b' || cs.head? = some '\x7d') then 0
  else if format && !raw && cs.take 2 = ['N', '\x7b'] then 2
  else 1

def literalStep (double triple raw format : Bool) (outer : List Frame) (c : Char)
    (cs : List Char) : List Frame × Nat :=
  let quote := quoteChar double
  let frames := .literal double triple raw format :: outer
  if c = '\\' then (frames, escaped raw format cs)
  else if c = quote ∧ (triple = true → cs.take 2 = [quote, quote]) then
    (outer, if triple then 2 else 0)
  else if format ∧ c = '\x7b' then
    if cs.head? = some '\x7b' then (frames, 1) else (.field :: frames, 0)
  else (frames, 0)

def specStep (outer : List Frame) (c : Char) : List Frame × Nat :=
  if c = '\x7b' then (.field :: .spec :: outer, 0)
  else if c = '\x7d' then (outer, 0)
  else (.spec :: outer, 0)

def codeStep (frames : List Frame) (word : List Char) (c : Char) (cs : List Char) :
    List Frame × Nat :=
  if c = quoteChar true ∨ c = quoteChar false then
    let triple := decide (cs.take 2 = [c, c])
    (opened word (c = quoteChar true) triple :: frames, if triple then 2 else 0)
  else if c = '(' ∨ c = '[' ∨ c = '\x7b' then (.bracket :: frames, 0)
  else if c = ')' ∨ c = ']' ∨ c = '\x7d' then (frames.tail, 0)
  else if c = ':' ∧ frames.head? = some .field then (.spec :: frames.tail, 0)
  else (frames, 0)

/-- What is open after a character, and how many characters belong to it. -/
def step (frames : List Frame) (word : List Char) (c : Char) (cs : List Char) :
    List Frame × Nat :=
  match frames with
  | .literal double triple raw format :: outer => literalStep double triple raw format outer c cs
  | .spec :: outer => specStep outer c
  | frames => codeStep frames word c cs

structure Scan where
  tokens : List Token
  frames : List Frame
  /-- a backslash joins the next line -/
  joins : Bool

def Scan.after (t : Token) (s : Scan) : Scan := { s with tokens := t :: s.tokens }

/-- A line from within; `word` is the word just read, backwards. -/
def scan (frames : List Frame) (word : List Char) : Nat → List Char → Scan
  | _, [] => ⟨[], frames, false⟩
  | skip + 1, c :: cs => (scan frames [] skip cs).after (.text c)
  | 0, c :: cs =>
    if inCode frames ∧ c = '#' then
      ⟨if inLiteral frames then (c :: cs).map .text else [], frames, false⟩
    else if inCode frames ∧ c = '\\' ∧ cs = [] then ⟨[token frames c], frames, true⟩
    else
      let next := step frames word c cs
      (scan next.1 (if isWordChar c then c :: word else []) next.2 cs).after (token frames c)

structure State where
  frames : List Frame := []
  joins : Bool := false
  deriving DecidableEq

inductive Mode
  | start | continued | within
  deriving DecidableEq

def State.mode (s : State) : Mode :=
  if inLiteral s.frames then .within
  else if s.joins || !s.frames.isEmpty then .continued
  else .start

def State.ending (s : State) : List Token :=
  match s.mode with
  | .start => [.newline]
  | .continued => []
  | .within => [.text '\n']

variable (l : Line)

def unindented : Line := l.dropWhile isBlank

def ignored : Bool := l.all isspace || (unindented l).head? = some '#'

structure Lexed where
  /-- the indentation, where a logical line begins -/
  indentation : Option Line := none
  tokens : List Token
  state : State

def scanned (indentation : Option Line) (before : List Token) (s : Scan) : Lexed :=
  let state := ⟨s.frames, s.joins⟩
  ⟨indentation, before ++ s.tokens ++ state.ending, state⟩

def lexLine (s : State) (l : Line) : Lexed :=
  match s.mode with
  | .start =>
    if ignored l then ⟨none, [], s⟩
    else scanned (some (indentation l)) [] (scan s.frames [] 0 (unindented l))
  | .continued => scanned none [.gap] (scan s.frames [] 0 (unindented l))
  | .within => scanned none [] (scan s.frames [] 0 l)

/-- The indentations of the logical lines, and the tokens. -/
def lex : State → List Line → List Line × List Token
  | _, [] => ([], [])
  | s, l :: ls =>
    let lexed := lexLine s l
    let rest := lex lexed.state ls
    (lexed.indentation.toList ++ rest.1, lexed.tokens ++ rest.2)

/-- The lines that begin within a literal. -/
def withinLines : State → List Line → List Line
  | _, [] => []
  | s, l :: ls =>
    let rest := withinLines (lexLine s l).state ls
    if s.mode = .within then l :: rest else rest

/-- The column after some blanks where a tab goes to the next multiple of 8, and where it is one
column. -/
abbrev Column := Nat × Nat

def column (blanks : Line) : Column :=
  blanks.foldl (fun c b => if b = '\t' then ((c.1 / 8 + 1) * 8, c.2 + 1) else (c.1 + 1, c.2 + 1))
    (0, 0)

inductive Dent
  | same | indent
  | dedent (levels : Nat)
  | inconsistent
  deriving DecidableEq

/-- How a line's indentation relates to those that are open. -/
def dent (levels : List Column) (c : Column) : Dent × List Column :=
  match levels with
  | [] => (.inconsistent, [])
  | top :: _ =>
    if c.1 = top.1 then (if c.2 = top.2 then .same else .inconsistent, levels)
    else if top.1 < c.1 then (if top.2 < c.2 then .indent else .inconsistent, c :: levels)
    else
      let kept := levels.dropWhile (fun level => c.1 < level.1)
      (if kept.head? = some c then .dedent (levels.length - kept.length) else .inconsistent, kept)

def dentsFrom : List Column → List Column → List Dent
  | _, [] => []
  | levels, c :: cs => (dent levels c).1 :: dentsFrom (dent levels c).2 cs

/-- The indentations of a block, compared from its first line on. -/
def dents : List Line → List Dent
  | [] => []
  | first :: others => dentsFrom [column first] (others.map column)

/-- The statements of a block as the parser gets them. -/
def statements (ls : List Line) : List Dent × List Token :=
  let lexed := lex {} ls
  (dents lexed.1, lexed.2)

theorem indentation_append : indentation l ++ unindented l = l :=
  List.takeWhile_append_dropWhile

variable {w : Line} {frames : List Frame} {c : Char}

theorem unindented_append (blanks : isBlankLine w = true) (l : Line) :
    unindented (w ++ l) = unindented l :=
  List.dropWhile_append_of_pos (List.all_eq_true.mp blanks)

theorem unindented_blank {l : Line} (blanks : isBlankLine l = true) : unindented l = [] := by
  rw [← List.append_nil l, unindented_append blanks]
  rfl

theorem unindented_unindented : unindented (unindented l) = unindented l :=
  List.dropWhile_idempotent isBlank l

/-- The first line is emptied where it is blank, and else has other blanks in front. -/
def Reindented (l l' : Line) : Prop :=
  if isBlankLine l then l' = [] else ∃ w, isBlankLine w = true ∧ l' = w ++ unindented l

theorem Reindented.unindented {l l' : Line} (h : Reindented l l') :
    unindented l' = unindented l := by
  unfold Reindented at h
  split at h
  · next blanks => rw [h, unindented_blank blanks]; rfl
  · obtain ⟨w, blanks, rfl⟩ := h
    rw [unindented_append blanks, unindented_unindented]

theorem blank_spaces (blanks : isBlankLine w = true) : w.all isspace = true :=
  List.all_eq_true.mpr fun c hc => isspace_of_blank (List.all_eq_true.mp blanks c hc)

theorem all_isspace : l.all isspace = (unindented l).all isspace := by
  conv => lhs; rw [← indentation_append l, List.all_append,
    blank_spaces (w := indentation l) List.all_takeWhile, Bool.true_and]

theorem Reindented.ignored {l l' : Line} (h : Reindented l l') : ignored l' = ignored l := by
  unfold Lexing.ignored
  rw [all_isspace l', all_isspace l, h.unindented]

theorem token_within (within : inLiteral frames = true) (c : Char) :
    token frames c = .text c := if_pos within

theorem scan_within (within : inLiteral frames = true) (word : List Char)
    (c : Char) (cs : List Char) :
    ∃ rest, (scan frames word 0 (c :: cs)).tokens = .text c :: rest := by
  rw [scan]
  by_cases comment : inCode frames ∧ c = '#'
  · rw [if_pos comment, if_pos within]
    exact ⟨_, rfl⟩
  · rw [if_neg comment]
    split
    · exact ⟨[], by rw [token_within within]⟩
    · exact ⟨_, by rw [token_within within]; rfl⟩

theorem ne_of_blank {d : Char} (blanks : isBlank c = true) (other : isBlank d = false) :
    c ≠ d := by
  rintro rfl
  rw [blanks] at other
  cases other

theorem quoteChar_not_blank (double : Bool) : isBlank (quoteChar double) = false := by
  cases double <;> decide

theorem step_blank (blanks : isBlank c = true) (frames : List Frame) (word cs : List Char) :
    step frames word c cs = (frames, 0) := by
  have apart : ∀ d, isBlank d = false → c ≠ d := fun d => ne_of_blank blanks
  have quote : ∀ double, c ≠ quoteChar double := fun d => apart _ (quoteChar_not_blank d)
  unfold step
  split
  · unfold literalStep
    rw [if_neg (apart _ (by decide)), if_neg (fun h => quote _ h.1),
      if_neg (fun h => apart _ (by decide) h.2)]
  · unfold specStep
    rw [if_neg (apart _ (by decide)), if_neg (apart _ (by decide))]
  · unfold codeStep
    rw [if_neg (not_or.mpr ⟨quote _, quote _⟩), if_neg, if_neg,
      if_neg (fun h => apart _ (by decide) h.1)]
    · exact not_or.mpr ⟨apart _ (by decide), not_or.mpr ⟨apart _ (by decide), apart _ (by decide)⟩⟩
    · exact not_or.mpr ⟨apart _ (by decide), not_or.mpr ⟨apart _ (by decide), apart _ (by decide)⟩⟩

theorem scan_blank (within : inLiteral frames = true) (blanks : isBlank c = true) (cs : List Char) :
    scan frames [] 0 (c :: cs) = (scan frames [] 0 cs).after (.text c) := by
  have either : c = ' ' ∨ c = '\t' := by simpa [isBlank] using blanks
  have word : isWordChar c = false := by rcases either with rfl | rfl <;> decide
  have comment : ¬ (inCode frames ∧ c = '#') := fun h => ne_of_blank blanks (by decide) h.2
  have joint : ¬ (inCode frames ∧ c = '\\' ∧ cs = []) :=
    fun h => ne_of_blank blanks (by decide) h.2.1
  rw [scan, if_neg comment, if_neg joint, step_blank blanks, token_within within, word]
  rfl

theorem scan_blanks (within : inLiteral frames = true) (blanks : isBlankLine w = true) (l : Line) :
    scan frames [] 0 (w ++ l) = { scan frames [] 0 l with
      tokens := w.map .text ++ (scan frames [] 0 l).tokens } := by
  induction w with
  | nil => rfl
  | cons c w ih =>
    obtain ⟨first, others⟩ : isBlank c = true ∧ isBlankLine w = true := by
      simpa [isBlankLine] using blanks
    rw [List.cons_append, scan_blank within first, ih others]
    rfl

variable {s : State}

theorem State.within (h : s.mode = .within) : inLiteral s.frames = true := by
  unfold State.mode at h
  by_contra outside
  rw [if_neg outside] at h
  split at h <;> cases h

theorem lexLine_start (h : s.mode = .start) (l : Line) : lexLine s l =
    if ignored l then ⟨none, [], s⟩
    else scanned (some (indentation l)) [] (scan s.frames [] 0 (unindented l)) := by
  unfold lexLine
  rw [h]

theorem lexLine_continued (h : s.mode = .continued) (l : Line) :
    lexLine s l = scanned none [.gap] (scan s.frames [] 0 (unindented l)) := by
  unfold lexLine
  rw [h]

theorem lexLine_within (h : s.mode = .within) (l : Line) :
    lexLine s l = scanned none [] (scan s.frames [] 0 l) := by
  unfold lexLine
  rw [h]

namespace Reindented

variable {l l' : Line} (h : Reindented l l') (s : State)

include h

theorem state : (lexLine s l').state = (lexLine s l).state := by
  cases mode : s.mode with
  | start =>
    rw [lexLine_start mode, lexLine_start mode, h.ignored, h.unindented]
    split <;> rfl
  | continued => rw [lexLine_continued mode, lexLine_continued mode, h.unindented]
  | within =>
    have within := State.within mode
    rw [lexLine_within mode, lexLine_within mode]
    unfold Reindented at h
    split at h
    · next blanks =>
      have emptied := scan_blanks within blanks []
      rw [List.append_nil] at emptied
      rw [h, emptied]
      rfl
    · obtain ⟨w, blanks, rfl⟩ := h
      have own := scan_blanks within (w := indentation l) List.all_takeWhile (Lexing.unindented l)
      rw [indentation_append] at own
      rw [own, scan_blanks within blanks]
      rfl

theorem tokens (outside : s.mode ≠ .within) : (lexLine s l').tokens = (lexLine s l).tokens := by
  cases mode : s.mode with
  | start =>
    rw [lexLine_start mode, lexLine_start mode, h.ignored, h.unindented]
    split <;> rfl
  | continued => rw [lexLine_continued mode, lexLine_continued mode, h.unindented]
  | within => exact absurd mode outside

end Reindented

theorem texts_inj {a b : Line} (ha : isBlankLine a = true) (hb : isBlankLine b = true)
    (hc : isBlank c = false) {x y : List Token}
    (same : a.map .text ++ .text c :: x = b.map .text ++ .text c :: y) : a = b := by
  induction a generalizing b with
  | nil =>
    cases b with
    | nil => rfl
    | cons d b =>
      obtain ⟨rfl, -⟩ : c = d ∧ _ := by simpa using same
      have blanks : isBlank c = true := (List.all_eq_true.mp hb) c List.mem_cons_self
      rw [hc] at blanks
      cases blanks
  | cons d a ih =>
    cases b with
    | nil =>
      obtain ⟨rfl, -⟩ : d = c ∧ _ := by simpa using same
      have blanks : isBlank d = true := (List.all_eq_true.mp ha) d List.mem_cons_self
      rw [hc] at blanks
      cases blanks
    | cons e b =>
      obtain ⟨rfl, rest⟩ : d = e ∧ _ := by simpa using same
      have ha' : isBlankLine a = true := by simp_all [isBlankLine]
      have hb' : isBlankLine b = true := by simp_all [isBlankLine]
      rw [ih ha' hb' (by simpa using rest)]

theorem unindented_written {l : Line} (written : ¬ isBlankLine l = true) :
    ∃ c cs, unindented l = c :: cs ∧ isBlank c = false := by
  cases given : unindented l with
  | nil => exact absurd (List.all_eq_true.mpr (List.dropWhile_eq_nil_iff.mp given)) written
  | cons c cs =>
    refine ⟨c, cs, rfl, ?_⟩
    have first := List.head?_dropWhile_not isBlank l
    rw [show l.dropWhile isBlank = c :: cs from given] at first
    exact first

theorem lexLine_tokens_within (mode : s.mode = .within)
    (blanks : isBlankLine w = true) (c : Char) (cs : List Char) :
    ∃ more, (lexLine s (w ++ c :: cs)).tokens = w.map .text ++ .text c :: more := by
  have within := State.within mode
  obtain ⟨more, first⟩ := scan_within within [] c cs
  let rest := scan s.frames [] 0 (c :: cs)
  refine ⟨more ++ State.ending ⟨rest.frames, rest.joins⟩, ?_⟩
  rw [lexLine_within mode, scan_blanks within blanks, first]
  exact List.append_assoc _ (.text c :: more) _

theorem lexLine_tokens_empty (mode : s.mode = .within) : (lexLine s []).tokens = [.text '\n'] := by
  have still : State.mode ⟨s.frames, false⟩ = .within := if_pos (State.within mode)
  rw [lexLine_within mode]
  change [] ++ [] ++ State.ending ⟨s.frames, false⟩ = _
  unfold State.ending
  rw [still]
  rfl

theorem Reindented.eq_of_tokens {l l' : Line} (h : Reindented l l') {s : State}
    (mode : s.mode = .within) {rest rest' : List Token}
    (same : (lexLine s l').tokens ++ rest' = (lexLine s l).tokens ++ rest) : l' = l := by
  unfold Reindented at h
  split at h
  · next blanks =>
    subst h
    cases l with
    | nil => rfl
    | cons c cs =>
      obtain ⟨more, first⟩ := lexLine_tokens_within (w := []) mode rfl c cs
      rw [lexLine_tokens_empty mode, show c :: cs = [] ++ c :: cs from rfl, first] at same
      obtain ⟨feed, -⟩ : '\n' = c ∧ _ := by simpa using same
      have first : isBlank c = true := List.all_eq_true.mp blanks c List.mem_cons_self
      rw [← feed] at first
      cases first
  · next written =>
    obtain ⟨w, blanks, rfl⟩ := h
    obtain ⟨c, cs, given, other⟩ := unindented_written written
    obtain ⟨more, own⟩ := lexLine_tokens_within (w := indentation l) mode List.all_takeWhile c cs
    obtain ⟨more', shifted⟩ := lexLine_tokens_within mode blanks c cs
    rw [← given, indentation_append] at own
    rw [← given] at shifted
    rw [own, shifted, List.append_assoc, List.append_assoc] at same
    rw [texts_inj blanks List.all_takeWhile other same]
    exact indentation_append l

theorem withinLines_subset (s : State) (ls : List Line) : withinLines s ls ⊆ ls := by
  induction ls generalizing s with
  | nil => exact List.Subset.refl []
  | cons l ls ih =>
    rw [withinLines]
    split
    · exact List.cons_subset_cons l (ih _)
    · exact List.subset_cons_of_subset l (ih _)

section Blocks

variable {f : Line → Line}

theorem lex_tokens_iff {ls : List Line} (h : ∀ l ∈ ls, Reindented l (f l)) (s : State) :
    (lex s (ls.map f)).2 = (lex s ls).2 ↔ ∀ l ∈ withinLines s ls, f l = l := by
  induction ls generalizing s with
  | nil => simp [withinLines, lex]
  | cons l ls ih =>
    have first := h l List.mem_cons_self
    have later := ih (fun k hk => h k (List.mem_cons_of_mem l hk)) (lexLine s l).state
    change (lexLine s (f l)).tokens ++ (lex (lexLine s (f l)).state (ls.map f)).2 =
      (lexLine s l).tokens ++ (lex (lexLine s l).state ls).2 ↔ _
    rw [first.state]
    by_cases mode : s.mode = .within
    · rw [withinLines, if_pos mode, List.forall_mem_cons, ← later]
      constructor
      · intro same
        have kept := first.eq_of_tokens mode same
        rw [kept] at same
        exact ⟨kept, List.append_cancel_left same⟩
      · rintro ⟨kept, same⟩
        rw [kept, same]
    · rw [withinLines, if_neg mode, ← later, first.tokens s mode, List.append_cancel_left_eq]

theorem lex_indentations {ls : List Line} (h : ∀ l ∈ ls, Reindented l (f l)) {g : Line → Line}
    (shifted : ∀ l ∈ ls, ignored l = false → indentation (f l) = g (indentation l)) (s : State) :
    (lex s (ls.map f)).1 = (lex s ls).1.map g := by
  induction ls generalizing s with
  | nil => rfl
  | cons l ls ih =>
    have first := h l List.mem_cons_self
    have later := ih (fun k hk => h k (List.mem_cons_of_mem l hk))
      (fun k hk => shifted k (List.mem_cons_of_mem l hk)) (lexLine s l).state
    have here : (lexLine s (f l)).indentation = (lexLine s l).indentation.map g := by
      cases mode : s.mode with
      | start =>
        rw [lexLine_start mode, lexLine_start mode, first.ignored]
        cases skipped : ignored l with
        | true => rfl
        | false => exact congrArg some (shifted l List.mem_cons_self skipped)
      | continued => rw [lexLine_continued mode, lexLine_continued mode]; rfl
      | within => rw [lexLine_within mode, lexLine_within mode]; rfl
    change (lexLine s (f l)).indentation.toList ++ (lex (lexLine s (f l)).state (ls.map f)).1 =
      ((lexLine s l).indentation.toList ++ (lex (lexLine s l).state ls).1).map g
    rw [first.state, later, here, List.map_append]
    cases (lexLine s l).indentation <;> rfl

end Blocks

/-- A line with the margin taken off and other blanks put in front. -/
def reindent (before m l : Line) : Line := indentLine before (dedentLine m l)

def Kept (before m l : Line) : Prop :=
  l = [] ∨ (l.all isspace = false ∧ m = before) ∨
    (l.all isspace = true ∧ isBlankLine l = false ∧ m = [])

instance (before m l : Line) : Decidable (Kept before m l) :=
  inferInstanceAs (Decidable (_ ∨ _ ∨ _))

section Reindent

variable {before m r l : Line}

theorem reindent_blank (blanks : isBlankLine l = true) : reindent before m l = [] := by
  unfold reindent dedentLine
  rw [if_pos blanks]
  rfl

theorem append_all_isspace (marked : isBlankLine m = true) :
    (m ++ r).all isspace = r.all isspace := by
  rw [List.all_append, blank_spaces marked, Bool.true_and]

theorem dedentLine_append (written : ¬ isBlankLine (m ++ r) = true) :
    dedentLine m (m ++ r) = r := by
  unfold dedentLine
  rw [if_neg written, List.drop_left]

theorem reindent_spaces (marked : isBlankLine m = true) (written : ¬ isBlankLine (m ++ r) = true)
    (spaces : (m ++ r).all isspace = true) : reindent before m (m ++ r) = r := by
  unfold reindent
  rw [dedentLine_append written]
  exact if_pos (by rwa [append_all_isspace marked] at spaces)

theorem reindent_visible (marked : isBlankLine m = true) (visible : ¬ (m ++ r).all isspace = true) :
    reindent before m (m ++ r) = before ++ r := by
  unfold reindent
  rw [dedentLine_append fun blanks => visible (blank_spaces blanks)]
  exact if_neg (by rwa [append_all_isspace marked] at visible)

theorem reindent_eq_iff (marked : isBlankLine m = true) (fits : ¬ isBlankLine l = true → m <+: l) :
    reindent before m l = l ↔ Kept before m l := by
  unfold Kept
  by_cases blanks : isBlankLine l = true
  · simp [reindent_blank blanks, blank_spaces blanks, blanks, eq_comm]
  · obtain ⟨r, rfl⟩ := fits blanks
    have nonempty : m ++ r ≠ [] := by
      intro empty
      rw [empty] at blanks
      exact blanks rfl
    by_cases spaces : (m ++ r).all isspace = true
    · rw [reindent_spaces marked blanks spaces]
      simp [nonempty, spaces, blanks]
    · rw [reindent_visible marked spaces, List.append_cancel_right_eq]
      constructor
      · intro same
        exact .inr (.inl ⟨by simpa using spaces, same.symm⟩)
      · rintro (empty | ⟨-, same⟩ | ⟨all, -⟩)
        · exact absurd empty nonempty
        · exact same.symm
        · exact absurd all spaces

theorem reindented (spaces : isBlankLine before = true) (marked : isBlankLine m = true)
    (fits : ¬ isBlankLine l = true → m <+: l) : Reindented l (reindent before m l) := by
  unfold Reindented
  by_cases blanks : isBlankLine l = true
  · rw [if_pos blanks, reindent_blank blanks]
  · rw [if_neg blanks]
    obtain ⟨r, rfl⟩ := fits blanks
    rw [unindented_append marked]
    by_cases invisible : (m ++ r).all isspace = true
    · refine ⟨indentation r, List.all_takeWhile, ?_⟩
      rw [reindent_spaces marked blanks invisible, indentation_append]
    · refine ⟨before ++ indentation r, ?_, ?_⟩
      · unfold isBlankLine at spaces ⊢
        rw [List.all_append, spaces]
        exact List.all_takeWhile
      · rw [reindent_visible marked invisible, List.append_assoc, indentation_append]

theorem indentation_append_blank {w : Line} (blanks : isBlankLine w = true) :
    indentation (w ++ r) = w ++ indentation r :=
  List.takeWhile_append_of_pos (List.all_eq_true.mp blanks)

theorem indentation_reindent (spaces : isBlankLine before = true) (marked : isBlankLine m = true)
    (fits : ¬ isBlankLine l = true → m <+: l) (read : ignored l = false) :
    indentation (reindent before m l) = before ++ (indentation l).drop m.length := by
  have visible : ¬ l.all isspace = true := by
    intro invisible
    unfold ignored at read
    rw [invisible] at read
    cases read
  obtain ⟨r, rfl⟩ := fits fun blanks => visible (blank_spaces blanks)
  rw [reindent_visible marked visible, indentation_append_blank spaces,
    indentation_append_blank marked, List.drop_left]

end Reindent

/-- The lines within literals are as they were, and the indentations compare as before. -/
structure Survives (before : Line) (ls : List Line) : Prop where
  literals : ∀ l ∈ withinLines {} ls, Kept before (margin ls) l
  order : dents ((lex {} ls).1.map fun i => before ++ i.drop (margin ls).length) =
    dents (lex {} ls).1

/-- A block that `textwrap` has dedented and indented means the same just where it survives. -/
theorem statements_reindent_iff {before : Line} (spaces : isBlankLine before = true)
    (ls : List Line) :
    statements (ls.map (reindent before (margin ls))) = statements ls ↔ Survives before ls := by
  have marked : isBlankLine (margin ls) = true := List.all_eq_true.mpr (margin_blank ls)
  have fits : ∀ l ∈ ls, ¬ isBlankLine l = true → margin ls <+: l := fun l hl written =>
    (margin_indentation hl (by simpa using written)).trans (List.takeWhile_prefix isBlank)
  have each : ∀ l ∈ ls, Reindented l (reindent before (margin ls) l) := fun l hl =>
    reindented spaces marked (fits l hl)
  have within := withinLines_subset {} ls
  unfold statements
  rw [Prod.mk.injEq, lex_tokens_iff each,
    lex_indentations each (g := fun i => before ++ i.drop (margin ls).length)
      (fun l hl read => indentation_reindent spaces marked (fits l hl) read)]
  constructor
  · rintro ⟨order, literals⟩
    exact ⟨fun l hl => (reindent_eq_iff marked (fits l (within hl))).mp (literals l hl), order⟩
  · rintro ⟨literals, order⟩
    exact ⟨order, fun l hl => (reindent_eq_iff marked (fits l (within hl))).mpr (literals l hl)⟩

end Orcheo.Lib.Lexing
