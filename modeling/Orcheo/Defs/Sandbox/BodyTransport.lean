import Orcheo.Defs.Graph.NodePolicy
import Orcheo.Lib.Lexing

/-! What becomes of the text of a `run` method on its way into the sandbox's program. -/

namespace Orcheo.Graph

/-- The host with Python's own `splitlines` and `dedent`. -/
def Host.python (host : Host) : Host :=
  { host with
    splitlines := fun source => (Lib.Lines.splitlines source.toList).map String.ofList
    dedent := fun text => String.ofList (Lib.Lines.dedent text.toList) }

end Orcheo.Graph

namespace Orcheo.Sandbox

open Lib.Lines Lib.Lexing
open Graph (Host RunFunction BodyStmt ClassDef validateClass validateCodeBody validateBodyBuiltins agentHost codenodeBase extractRunBody stripNewlines)

def fourBlanks : Line := "    ".toList

/-- `literal` is the JSON of the inputs, as a JSON string. -/
def preamble (literal : Line) : List Line :=
  ["import json as _json".toList, "_DATA = _json.loads(".toList ++ literal ++ [')'],
    "class _Cfg:".toList, "    pass".toList, "self = _Cfg()".toList,
    "for _k in _DATA['configurable']:".toList, "    setattr(self, _k, _DATA['configurable'][_k])".toList,
    "state = _DATA['state']".toList, "config = _DATA['config']".toList,
    "def _run(self=self, state=state, config=config):".toList]

def epilogue : List Line :=
  ["try:".toList, "    _out = _run()".toList,
    "    print(_json.dumps(\x7b'update': _out\x7d))".toList, "except Exception as _e:".toList,
    ("    print(_json.dumps(" ++
      "\x7b'error': \x7b'type': type(_e).__name__, 'message': str(_e)\x7d\x7d))").toList]

def buildProgram (body : String) (literal : Line) : List Char :=
  joined (preamble literal ++ indent fourBlanks body.toList :: epilogue) ++ ['\n']

/-- In the program the suite of `_run` has these statements. -/
def Runs (program : List Char) (literal : Line) (written : List Dent × List Token) : Prop :=
  ∃ suite, physicalLines program = preamble literal ++ suite ++ epilogue ∧
    statements suite = written

/-- The lines of the statements of `run`. -/
inductive Suite
  /-- a block, with the lines before the line of the first statement -/
  | block (skipped body : List Line)
  /-- statements on the line of the colon; the whole lines, and what is of each statement -/
  | inline (whole : List Line) (segments : List (List Line))

def Suite.lines : Suite → List Line
  | block skipped body => skipped ++ body
  | inline whole _ => whole

/-- The statements as their author wrote them; those of one line are separate lines. -/
def Suite.written : Suite → List Dent × List Token
  | block skipped body => statements (skipped ++ body)
  | inline _ segments => statements segments.flatten

def Suite.body : Suite → List Line
  | block _ body => body
  | inline _ segments => segments.flatten

/-- The lines of the source around `run`: those above its `def`, whole lines of its signature,
and those below its last statement. -/
structure Layout where
  above : List Line
  signature : List Line
  suite : Suite
  below : List Line

namespace Layout

variable (layout : Layout)

def firstLine : Nat := match layout.suite with
  | .block skipped _ => layout.above.length + layout.signature.length + skipped.length + 1
  | .inline _ _ => layout.above.length + layout.signature.length + 1

def lastLine : Nat :=
  layout.above.length + layout.signature.length + layout.suite.lines.length

/-- The positions are those that the parser gives; a decorated function begins at its `def`. -/
structure Located (host : Host) (source : String) (f : RunFunction) : Prop where
  lines : physicalLines source.toList =
    layout.above ++ layout.signature ++ layout.suite.lines ++ layout.below
  lineno : f.lineno = layout.above.length + 1
  first : f.body.head?.map BodyStmt.lineno = some layout.firstLine
  last : f.body.getLast?.map BodyStmt.endLineno = some layout.lastLine
  signature : ∀ skipped body, layout.suite = .block skipped body → layout.signature ≠ []
  segments : ∀ whole segments, layout.suite = .inline whole segments →
    f.body.map (host.sourceSegment source) =
      segments.map (fun segment => some (String.ofList (joined segment)))
  filled : ∀ whole segments, layout.suite = .inline whole segments → ∀ s ∈ segments, s ≠ []
  begins : ∃ l, layout.suite.body.head? = some l ∧ isBlankLine l = false
  ends : ∃ l, layout.suite.body.getLast? = some l ∧ isBlankLine l = false

/-- The body begins on the line of the `def`, or on a line of its own with only blank lines and
comments before it; up to its end there are no other line boundaries than line feeds and, outside
statements on the line of the `def`, carriage returns. -/
def Plain (source : String) : Prop := match layout.suite with
  | .block skipped _ => (∀ l ∈ skipped, ignored l = true) ∧
      ∀ l ∈ (physicalLines source.toList).take layout.lastLine, ∀ c ∈ l, isLineBoundary c = false
  | .inline _ segments => layout.signature = [] ∧
      ∀ segment ∈ segments, ∀ l ∈ segment, ∀ c ∈ l, isLineBoundary c = false

end Layout

section Extraction

variable {host : Host} {source : String} {f : RunFunction} {layout : Layout}

theorem joined_toList (ls : List Line) :
    ("\n".intercalate (ls.map String.ofList)).toList = joined ls := by
  rw [String.toList_intercalate, List.map_map]
  have each : String.toList ∘ String.ofList = id := funext fun l => String.toList_ofList
  rw [each, List.map_id]
  rfl

section

variable (located : layout.Located host source f)
include located

variable {skipped body : List Line}

theorem taken (suite : layout.suite = .block skipped body) :
    (physicalLines source.toList).take layout.lastLine =
      layout.above ++ layout.signature ++ skipped ++ body := by
  have stop : layout.lastLine =
      (layout.above ++ layout.signature ++ (skipped ++ body)).length := by
    unfold Layout.lastLine
    rw [suite, List.length_append, List.length_append]
    rfl
  rw [located.lines, suite, stop, Suite.lines, List.take_left, List.append_assoc _ skipped]

theorem sliced (suite : layout.suite = .block skipped body)
    (clear : ∀ l ∈ (physicalLines source.toList).take layout.lastLine, ∀ c ∈ l,
      isLineBoundary c = false) :
    ((host.python.splitlines source).take layout.lastLine).drop (layout.firstLine - 1) =
      body.map String.ofList := by
  have start : layout.firstLine - 1 =
      (layout.above ++ layout.signature ++ skipped).length := by
    unfold Layout.firstLine
    rw [suite, List.length_append, List.length_append]
    rfl
  change (((splitlines source.toList).map String.ofList).take _).drop _ = _
  rw [← List.map_take, splitlines_take clear, taken located suite, ← List.map_drop, start,
    List.drop_left]

theorem extracted (plain : layout.Plain source) :
    extractRunBody host.python source f =
      stripNewlines (String.ofList (dedent (joined layout.suite.body))) := by
  have place : layout.firstLine = f.lineno ↔ ∃ whole segments,
      layout.suite = .inline whole segments ∧ layout.signature = [] := by
    rw [located.lineno]
    unfold Layout.firstLine
    cases suite : layout.suite with
    | block skipped body =>
      have later := List.length_pos_iff.mpr (located.signature skipped body suite)
      constructor
      · intro same
        dsimp only at same
        omega
      · rintro ⟨whole, segments, ⟨⟩, -⟩
    | inline whole segments =>
      rw [← List.length_eq_zero_iff]
      constructor
      · intro same
        dsimp only at same
        exact ⟨whole, segments, rfl, by omega⟩
      · rintro ⟨_, _, -, none⟩
        rw [none]
  unfold extractRunBody
  rw [located.first, located.last, Option.getD_some, Option.getD_some]
  dsimp only
  cases suite : layout.suite with
  | block skipped body =>
    unfold Layout.Plain at plain
    rw [suite] at plain
    rw [if_neg, sliced located suite plain.2]
    · change stripNewlines (String.ofList (dedent ("\n".intercalate _).toList)) = _
      rw [joined_toList]
      rfl
    · rw [place]
      rintro ⟨whole, segments, same, -⟩
      rw [suite] at same
      cases same
  | inline whole segments =>
    unfold Layout.Plain at plain
    rw [suite] at plain
    rw [if_pos (place.mpr ⟨whole, segments, suite, plain.1⟩)]
    have texts : f.body.filterMap (host.sourceSegment source) =
        (segments.map joined).map String.ofList := by
      have each := congrArg (List.filterMap id) (located.segments whole segments suite)
      rw [List.filterMap_map, List.filterMap_map] at each
      refine each.trans ?_
      rw [List.map_map, ← List.filterMap_eq_map]
      rfl
    change stripNewlines (String.ofList (dedent ("\n".intercalate
      (f.body.filterMap (host.sourceSegment source))).toList)) = _
    rw [texts, joined_toList, joined_flatten (located.filled whole segments suite)]
    rfl

theorem body_clear (plain : layout.Plain source) :
    ∀ l ∈ layout.suite.body, ∀ c ∈ l, isLineBoundary c = false := by
  unfold Layout.Plain at plain
  cases suite : layout.suite with
  | block skipped body =>
    rw [suite] at plain
    intro l hl
    refine plain.2 l ?_
    rw [taken located suite]
    exact List.mem_append_right _ hl
  | inline whole segments =>
    rw [suite] at plain
    intro l hl
    obtain ⟨segment, hs, hl⟩ := List.mem_flatten.mp hl
    exact plain.2 segment hs l hl

end

end Extraction

section Program

variable {ls : List Line} (clear : ∀ l ∈ ls, ∀ c ∈ l, isLineBoundary c = false)

theorem dedentLine_subset (m l : Line) : dedentLine m l ⊆ l := by
  unfold dedentLine
  split
  · exact List.nil_subset l
  · exact List.drop_subset _ l

theorem dedentLine_nonempty {l : Line} (hl : l ∈ ls) (written : isBlankLine l = false) :
    dedentLine (margin ls) l ≠ [] := by
  intro empty
  have whole := margin_append hl written
  unfold dedentLine at empty
  rw [if_neg (by rw [written]; decide)] at empty
  rw [empty, List.append_nil] at whole
  have blanks : isBlankLine l = true := by
    rw [whole]
    exact List.all_eq_true.mpr (margin_blank ls)
  rw [written] at blanks
  cases blanks

theorem dropWhile_self {text : List Char} (first : ∀ c ∈ text.head?, c ≠ '\n') :
    text.dropWhile (· = '\n') = text := by
  cases text with
  | nil => rfl
  | cons c text => exact List.dropWhile_cons_of_neg (by simpa using first c rfl)

theorem stripNewlines_self {text : List Char} (first : ∀ c ∈ text.head?, c ≠ '\n')
    (last : ∀ c ∈ text.getLast?, c ≠ '\n') :
    stripNewlines (String.ofList text) = String.ofList text := by
  unfold stripNewlines
  rw [String.toList_ofList, dropWhile_self first, dropWhile_self, List.reverse_reverse]
  rwa [List.head?_reverse]

variable {l l' : Line} (first : ls.head? = some l) (begins : isBlankLine l = false)
  (last : ls.getLast? = some l') (ends : isBlankLine l' = false)

include clear first begins last ends

theorem transported :
    indent fourBlanks (stripNewlines (String.ofList (dedent (joined ls)))).toList =
      joined (ls.map (reindent fourBlanks (margin ls))) := by
  have feed : ∀ k ∈ ls, '\n' ∉ k := fun k hk mem => by
    have := clear k hk '\n' mem
    cases this
  have nonempty : ls ≠ [] := by
    rintro rfl
    cases first
  let dedented := ls.map (dedentLine (margin ls))
  have kept : ∀ k ∈ dedented, ∀ c ∈ k, isLineBoundary c = false := by
    intro k hk c hc
    obtain ⟨k', hk', rfl⟩ := List.mem_map.mp hk
    exact clear k' hk' c (dedentLine_subset _ _ hc)
  have apart : ∀ k ∈ dedented, ∀ c ∈ k, c ≠ '\n' := by
    rintro k hk c hc rfl
    have := kept k hk '\n' hc
    cases this
  have head : dedented.head? = some (dedentLine (margin ls) l) := by
    rw [List.head?_map, first]
    rfl
  have tail : dedented.getLast? = some (dedentLine (margin ls) l') := by
    rw [List.getLast?_map, last]
    rfl
  have nonblank := dedentLine_nonempty (List.mem_of_mem_getLast? last) ends
  have stripped : stripNewlines (String.ofList (joined dedented)) =
      String.ofList (joined dedented) := by
    refine stripNewlines_self ?_ ?_
    · obtain ⟨rest, text⟩ := joined_head head
      have visible := dedentLine_nonempty (List.mem_of_mem_head? first) begins
      intro c hc
      rw [text, List.head?_append_of_ne_nil _ visible] at hc
      exact apart _ (List.mem_of_mem_head? head) c (List.mem_of_mem_head? hc)
    · obtain ⟨rest, text⟩ := joined_last tail
      intro c hc
      rw [text, List.getLast?_append_of_ne_nil _ nonblank] at hc
      exact apart _ (List.mem_of_mem_getLast? tail) c (List.mem_of_mem_getLast? hc)
  rw [dedent_joined feed nonempty, stripped, String.toList_ofList, indent_joined fourBlanks kept,
    List.map_map]
  · rfl
  · intro k hk
    rw [tail] at hk
    cases hk
    exact nonblank

end Program

theorem preamble_clear {literal : Line} (clear : ∀ c ∈ literal, isNewline c = false) :
    ∀ l ∈ preamble literal, ∀ c ∈ l, isNewline c = false := by
  refine List.forall_mem_cons.mpr ⟨without (by decide), List.forall_mem_cons.mpr
    ⟨?_, without_lines (by decide)⟩⟩
  refine List.forall_mem_append.mpr ⟨List.forall_mem_append.mpr
    ⟨without (by decide), clear⟩, without (by decide)⟩

theorem epilogue_clear : ∀ l ∈ epilogue, ∀ c ∈ l, isNewline c = false := without_lines (by decide)

theorem buildProgram_lines {body : String} {suite : List Line} {literal : Line}
    (indented : indent fourBlanks body.toList = joined suite) (nonempty : suite ≠ [])
    (literal_clear : ∀ c ∈ literal, isNewline c = false)
    (clear : ∀ l ∈ suite, ∀ c ∈ l, isNewline c = false) :
    physicalLines (buildProgram body literal) = preamble literal ++ suite ++ epilogue := by
  have text : joined (preamble literal ++ joined suite :: epilogue) =
      joined (preamble literal ++ (suite ++ epilogue)) := by
    rw [joined_append (by simp [preamble]) (by simp), joined_append (by simp [preamble])
      (List.append_ne_nil_of_left_ne_nil nonempty _), joined_append nonempty (by simp [epilogue])]
    exact congrArg (_ ++ '\n' :: ·) (joined_cons_cons _ _ _)
  unfold buildProgram
  rw [indented, text, physicalLines, lines_joined_feed (by decide), List.append_assoc]
  · refine List.forall_mem_append.mpr ⟨preamble_clear literal_clear, ?_⟩
    exact List.forall_mem_append.mpr ⟨clear, epilogue_clear⟩
  · simp [preamble]

theorem statements_skipped {skipped body : List Line} (h : ∀ l ∈ skipped, ignored l = true) :
    statements (skipped ++ body) = statements body := by
  have lexed : lex {} (skipped ++ body) = lex {} body := by
    induction skipped with
    | nil => rfl
    | cons l skipped ih =>
      have first : lexLine {} l = ⟨none, [], {}⟩ := if_pos (h l List.mem_cons_self)
      rw [List.cons_append, lex, first]
      exact ih fun k hk => h k (List.mem_cons_of_mem l hk)
  unfold statements
  rw [lexed]

theorem reindent_clear {m l : Line} (clear : ∀ c ∈ l, isLineBoundary c = false) :
    ∀ c ∈ reindent fourBlanks m l, isNewline c = false := by
  have inside : ∀ c ∈ dedentLine m l, isNewline c = false := by
    intro c hc
    by_contra breaks
    have := isLineBoundary_of_newline (by simpa using breaks)
    rw [clear c (dedentLine_subset m l hc)] at this
    cases this
  unfold reindent indentLine
  split
  · exact inside
  · exact List.forall_mem_append.mpr ⟨without (by decide), inside⟩

def noteRun : RunFunction where
  lineno := 2
  body := [⟨3, 4, 8, 12, .node .other [.node (.name "text" false) [], .node .other []]⟩,
    ⟨5, 5, 8, 19, .node (.ret true) [.node (.name "text" true) []]⟩]

def noteClass : ClassDef where
  name := "Note"
  bases := [.name codenodeBase]
  body := [.function noteRun]

def noteLayout (first second : String) : Layout where
  above := ["class Note(CodeNode):".toList]
  signature := ["    def run(self, state, config):".toList]
  suite := .block [] [first.toList, second.toList, "        return text".toList]
  below := []

def noteSource (first second : String) : String :=
  "\n".intercalate ["class Note(CodeNode):", "    def run(self, state, config):", first, second,
    "        return text\n"]

theorem note_located {first second : String}
    (lines : physicalLines (noteSource first second).toList =
      (noteLayout first second).above ++ (noteLayout first second).signature ++
        (noteLayout first second).suite.lines ++ (noteLayout first second).below)
    (begins : isBlankLine first.toList = false) :
    (noteLayout first second).Located agentHost (noteSource first second) noteRun where
  lines := lines
  lineno := rfl
  first := rfl
  last := rfl
  signature := fun _ _ _ => List.cons_ne_nil _ _
  segments := by rintro _ _ ⟨⟩
  filled := by rintro _ _ ⟨⟩
  begins := ⟨_, rfl, begins⟩
  ends := ⟨"        return text".toList, rfl, by decide +kernel⟩

end Orcheo.Sandbox
