import Gutter.Proofs.Linter.Presets

/-! Reports on lines. What the tools of the built-in linters print is read back: every line
`path:line:col: message` is a warning, in the order of the lines, and a line that has no place in it
is none. -/

namespace Gutter.Presets

open Linter (LineLegible lineWarning? messageText)
open Pattern (Anchored Cursor FoundLine Match Spans Trace)
open Text (decimalNumber digitLimit isBlank isDecimal isNumeral)

/-! ### What tools print -/

/-- A decimal numeral that is not too long to be converted. -/
structure Numeral where
  digits : List Char
  isNumeral : isNumeral digits = true
  short : digits.length ≤ digitLimit

/-- What a tool reports about a place in a file. -/
structure Report where
  path : List Char
  line : Numeral
  col : Option Numeral
  message : List Char
  isPath : IsPath path
  oneLine : '\n' ∉ message
  noReturn : message.getLast? ≠ some '\r'

namespace Report

/-- The column with the colon after it, if there is one. -/
def column (report : Report) : List Char := report.col.elim [] (·.digits ++ [':'])

/-- `col: message`, or a blank and the message. -/
def tail (report : Report) : List Char := report.column ++ ' ' :: report.message

/-- `path:line:col: message` -/
def text (report : Report) : List Char :=
  report.path ++ ':' :: (report.line.digits ++ ':' :: report.tail)

/-- The warning that the linter with a name makes of a report. -/
def warning (name : String) (report : Report) : Warning where
  line := decimalNumber report.line.digits
  col := report.col.elim 0 fun col => decimalNumber col.digits
  message := String.ofList report.message
  linter := some name

end Report

/-- What the tools of the built-in linters print: `gcc` with a column, and `severity` perhaps
without one, with a message that starts with how severe it is. -/
inductive Format
  | gcc
  | severity
deriving DecidableEq, Repr

namespace Format

/-- The linters whose tools print the format. -/
def names : Format → List String
  | gcc => ["flake8", "ruff", "luacheck", "shellcheck"]
  | severity => ["mypy"]

/-- The report can be printed in the format. -/
def Suits : Format → Report → Prop
  | gcc, report => report.col.isSome = true
  | severity, report => ∃ word ∈ severities, ∃ text,
      report.message = word.toList ++ ':' :: ' ' :: text

/-- A column, a colon and a blank; or perhaps a column with a colon, a blank, a severity and a
colon. -/
def Introduces : Format → List Char → Prop
  | gcc, text => ∃ col, isNumeral col = true ∧ text = col ++ [':', ' ']
  | severity, text => ∃ col : Option (List Char), (∀ digits ∈ col, isNumeral digits = true) ∧
      ∃ word ∈ severities, text = col.elim [] (· ++ [':']) ++ ' ' :: (word.toList ++ [':'])

/-- Somewhere in the text a line number between colons stands before what introduces a message. -/
def Mentions (format : Format) (text : List Char) : Prop :=
  ∃ before line start after, isNumeral line = true ∧ format.Introduces start ∧
    text = before ++ ':' :: (line ++ ':' :: (start ++ after))

theorem not_mentions_of_noColon {format : Format} {text : List Char} (h : ':' ∉ text) :
    ¬format.Mentions text := by
  rintro ⟨before, line, start, after, -, -, rfl⟩
  exact h (by simp)

end Format

/-- A line that a tool prints: a report, or a text that mentions no place. -/
inductive Line (format : Format)
  | report (report : Report) (suits : format.Suits report)
  | other (text : List Char) (oneLine : '\n' ∉ text) (silent : ¬format.Mentions text)

namespace Line

variable {format : Format}

def text : Line format → List Char
  | report r _ => r.text
  | other text _ _ => text

/-- The warning that the linter with a name makes of a line. -/
def warning? (name : String) : Line format → Option Warning
  | report r _ => some (r.warning name)
  | other .. => none

end Line

/-- What a tool prints, with a line end after the last line or without. -/
def printed {format : Format} (final : Bool) (lines : List (Line format)) : List Char :=
  if final then lines.flatMap fun line => line.text ++ ['\n']
  else ['\n'].intercalate (lines.map Line.text)

/-! ### The linters' patterns -/

namespace Format

def body : Format → Pattern.Node
  | gcc => gccBody
  | severity => severityBody

/-- The linters of a format share their pattern. -/
def pattern : Format → Pattern
  | gcc => ⟨lineNode gccBody, 6, false, 3, []⟩
  | severity => ⟨lineNode severityBody, 10, false, 3,
      [("line".toList, 1), ("col".toList, 2), ("message".toList, 3)]⟩

variable {format : Format} {cursor next : Cursor} {text : List Char}

theorem node_pattern (format : Format) : format.pattern.node = lineNode format.body := by
  cases format <;> rfl

theorem groups_pattern (format : Format) : format.pattern.groups = 3 := by
  cases format <;> rfl

/-- What the body of a pattern takes introduces a message. -/
theorem takes_body (h : format.body.Takes cursor next) :
    ∃ start after, format.Introduces start ∧ cursor.after = start ++ after ∧
      format.pattern.least ≤ cursor.after.length + 3 := by
  cases format with
  | gcc =>
    obtain ⟨col, rest, hafter, hcol⟩ := takes_gccBody h
    refine ⟨col ++ [':', ' '], rest, ⟨col, hcol, rfl⟩, by simp [hafter], ?_⟩
    have hlength := List.length_pos_iff.mpr (isNumeral_iff.mp hcol).1
    simp [hafter, pattern]
    omega
  | severity =>
    obtain ⟨col, word, hm, rest, hafter, hcol⟩ := takes_severityBody h
    refine ⟨_, ' ' :: rest, ⟨col, hcol, word, hm, rfl⟩, by simp [hafter], ?_⟩
    have hlength : ∀ word ∈ severities, 4 ≤ word.toList.length := by decide
    have hword := hlength word hm
    rw [hafter]
    simp only [pattern, List.length_append, List.length_cons]
    omega

theorem not_isDecimal_lineEnd {text : List Char} (h : isNumeral text = true) : '\n' ∉ text := by
  intro hm
  have hdigit := (isNumeral_iff.mp h).2 _ hm
  revert hdigit
  decide

theorem Introduces.oneLine {start : List Char} (h : format.Introduces start) : '\n' ∉ start := by
  cases format with
  | gcc =>
    obtain ⟨col, hcol, rfl⟩ := h
    simp [not_isDecimal_lineEnd hcol]
  | severity =>
    obtain ⟨col, hcol, word, hm, rfl⟩ := h
    have hwords : ∀ word ∈ severities, '\n' ∉ word.toList := by decide
    cases col with
    | none => simp [hwords word hm]
    | some digits => simp [hwords word hm, not_isDecimal_lineEnd (hcol digits rfl)]

/-- What a pattern takes mentions a place, on one line. -/
theorem takes_pattern (h : format.pattern.node.Takes cursor next) :
    cursor.AtLine ∧ format.pattern.least ≤ cursor.after.length ∧
      ∃ mention after, cursor.after = mention ++ after ∧ '\n' ∉ mention ∧
        ∀ rest, format.Mentions (mention ++ rest) := by
  rw [node_pattern] at h
  obtain ⟨hstart, front, line, rest, hafter, hfront, hline, start, rfl, hbody⟩ := takes_lineNode h
  obtain ⟨intro, after, hintro, hrest, hleast⟩ := takes_body hbody
  refine ⟨hstart, ?_, front ++ ':' :: (line ++ ':' :: intro), after, ?_, ?_, fun rest =>
    ⟨front, line, intro, rest, hline, hintro, by simp⟩⟩
  · have hlength := List.length_pos_iff.mpr (isNumeral_iff.mp hline).1
    simp only [hafter, List.length_append, List.length_cons]
    omega
  · simp [hafter, hrest]
  · simp [hfront, not_isDecimal_lineEnd hline, hintro.oneLine]

theorem anchored (format : Format) : format.pattern.Anchored where
  room cursor hshort := by
    refine Pattern.matchAt_eq_none (fun next h => ?_) false
    exact Nat.not_le.mpr hshort (takes_pattern h).2.1
  start cursor hline := Pattern.matchAt_eq_none (fun next h => hline (takes_pattern h).1) false

/-- What is taken from a line that others follow is taken from the line itself. -/
theorem prefix_of_oneLine {mention after tail : List Char} (h : text ++ tail = mention ++ after)
    (hline : '\n' ∉ mention) (htail : ∀ c ∈ tail.head?, c = '\n') : mention <+: text := by
  obtain ⟨more, htext, -⟩ | ⟨more, rfl, rfl⟩ := List.append_eq_append_iff.mp h.symm
  · exact ⟨more, htext.symm⟩
  · cases more with
    | nil => exact ⟨[], by simp⟩
    | cons c more => exact (hline (by simp [htail c rfl])).elim

theorem matchAt_other (hsilent : ¬format.Mentions text) {rest : List Char}
    (hafter : cursor.after = text ++ rest) (hrest : ∀ c ∈ rest.head?, c = '\n') :
    format.pattern.matchAt false cursor = none := by
  refine Pattern.matchAt_eq_none (fun next h => ?_) false
  obtain ⟨-, -, mention, after, hmention, hline, hfits⟩ := takes_pattern h
  obtain ⟨more, rfl⟩ := prefix_of_oneLine (hafter ▸ hmention) hline hrest
  exact hsilent (hfits more)

/-! ### Reports -/

variable {report : Report} {rest : List Char}

/-- What the body of a pattern finds first in a report, behind the line number. -/
theorem finds_body (h : format.Suits report) (hrest : ∀ c ∈ rest.head?, c = '\n')
    (hafter : cursor.after = report.tail ++ rest) (hnext : next = cursor.pastAll report.tail rest)
    (first second : Option Cursor) (reached : Cursor) :
    ∃ third fourth fifth, format.body.Finds cursor ⟨[first, second], reached⟩ next
        ⟨[first, second, third, fourth, some fifth, some next], next⟩ ∧
      (third.bind fun start => fourth.map fun stop => (start.index, stop.index)) =
        report.col.map (fun col => (cursor.index, cursor.index + col.digits.length)) ∧
      fifth.index = cursor.index + report.column.length + 1 := by
  obtain ⟨path, line, col, message, hpath, hline, hreturn⟩ := report
  cases format with
  | gcc =>
    obtain ⟨col, rfl⟩ := Option.isSome_iff_exists.mp h
    refine ⟨some cursor, _, _, finds_gccBody ?_ col.isNumeral hline hrest rfl rfl ?_, rfl, ?_⟩
    · simpa [Report.tail, Report.column] using hafter
    · rw [hnext]
      simp [Report.tail, Report.column, Cursor.pastAll, Cursor.past]
      omega
    · simp [Report.column, Cursor.pastAll, Cursor.past]
      omega
  | severity =>
    obtain ⟨word, hm, text, rfl⟩ := h
    have htext : '\n' ∉ text := fun hmem => hline (by simp [hmem])
    cases col with
    | none =>
      refine ⟨none, none, _, finds_severityBody_plain ?_ ⟨word, hm, rfl⟩ htext hrest rfl ?_, rfl,
        rfl⟩
      · simpa [Report.tail, Report.column] using hafter
      · rw [hnext]
        simp [Report.tail, Report.column, Cursor.pastAll, Cursor.past]
        omega
    | some col =>
      refine ⟨some cursor, _, _, finds_severityBody ?_ col.isNumeral ⟨word, hm, rfl⟩ htext hrest rfl
        rfl ?_, rfl, ?_⟩
      · simpa [Report.tail, Report.column] using hafter
      · rw [hnext]
        simp [Report.tail, Report.column, Cursor.pastAll, Cursor.past]
        omega
      · simp [Report.column, Cursor.pastAll, Cursor.past]
        omega

/-- The groups of a match that shows the first and the third group, and perhaps the second. -/
theorem ofTrace_three (start : Nat) (first second fifth sixth : Cursor)
    (third fourth : Option Cursor) :
    Match.ofTrace 3 start
        ⟨[some first, some second, third, fourth, some fifth, some sixth], sixth⟩ =
      ⟨start, sixth.index, [some (first.index, second.index),
        third.bind fun start => fourth.map fun stop => (start.index, stop.index),
        some (fifth.index, sixth.index)]⟩ := by
  cases third <;> cases fourth <;> rfl

end Format

namespace Report

/-- Where the line, the column and the message stand in the text of a report. -/
def spans (report : Report) : Spans :=
  let line := report.path.length + 1
  let tail := line + report.line.digits.length + 1
  let message := tail + report.column.length + 1
  [some (line, line + report.line.digits.length),
    report.col.map fun col => (tail, tail + col.digits.length),
    some (message, message + report.message.length)]

variable {format : Format} {report : Report} {cursor : Cursor} {rest : List Char}

theorem length_text (report : Report) :
    report.text.length = report.path.length + 1 + report.line.digits.length + 1 +
      report.column.length + 1 + report.message.length := by
  simp [text, tail]
  omega

theorem matchAt_text (h : format.Suits report) (hafter : cursor.after = report.text ++ rest)
    (hline : cursor.AtLine) (hrest : ∀ c ∈ rest.head?, c = '\n') :
    format.pattern.matchAt false cursor =
      some (.whole cursor.index report.text report.spans, cursor.pastAll report.text rest) := by
  let start :=
    cursor.pastAll report.path (':' :: (report.line.digits ++ ':' :: (report.tail ++ rest)))
  let first := start.past ':' (report.line.digits ++ ':' :: (report.tail ++ rest))
  let second := first.pastAll report.line.digits (':' :: (report.tail ++ rest))
  let behind := second.past ':' (report.tail ++ rest)
  have hnext : cursor.pastAll report.text rest = behind.pastAll report.tail rest := by
    simp [behind, second, first, start, Cursor.pastAll, Cursor.past, text]
    omega
  obtain ⟨third, fourth, fifth, hbody, hcol, hmessage⟩ :=
    Format.finds_body h hrest rfl hnext (some first) (some second) second
  have hfinds := finds_lineNode (by simp [hafter, text]) hline report.isPath
    report.line.isNumeral rfl rfl rfl hbody
  rw [← Format.node_pattern] at hfinds
  rw [Pattern.matchAt_of_finds hfinds, Format.groups_pattern]
  have htrace : Trace.tryFrom
      ⟨[some first, some second, third, fourth, some fifth, some (cursor.pastAll report.text rest)],
        cursor.pastAll report.text rest⟩ (cursor.pastAll report.text rest) =
      ⟨[some first, some second, third, fourth, some fifth, some (cursor.pastAll report.text rest)],
        cursor.pastAll report.text rest⟩ := rfl
  rw [htrace, Format.ofTrace_three, hcol, hmessage]
  simp only [Match.whole, spans, behind, second, first, start, Cursor.pastAll, Cursor.past,
    length_text, List.map_cons, List.map_nil, Option.map_some, Option.map_map, ← Nat.add_assoc,
    Function.comp_def]

/-- What is captured of a report. -/
theorem captures_text {linter : Linter} (hlayout : linter.layout = ⟨1, some 2, 3⟩)
    (report : Report) :
    linter.captures report.text (.whole 0 report.text report.spans) =
      ⟨some report.line.digits, report.col.map (·.digits), some report.message⟩ := by
  have hline : report.text =
      (report.path ++ [':']) ++ (report.line.digits ++ ':' :: report.tail) := by
    simp [text]
  have htail : report.text =
      (report.path ++ ':' :: (report.line.digits ++ [':'])) ++ (report.tail ++ []) := by
    simp [text]
  have hmessage : report.text =
      (report.path ++ ':' :: (report.line.digits ++ ':' :: (report.column ++ [' ']))) ++
        (report.message ++ []) := by
    simp [text, tail]
  have hcol (col : Numeral) (h : report.col = some col) : report.text =
      (report.path ++ ':' :: (report.line.digits ++ [':'])) ++
        (col.digits ++ ':' :: ' ' :: report.message) := by
    simp [text, tail, column, h]
  have hfirst := @Pattern.slice_append _ _ _ _ (report.path.length + 1) _ hline (by simp) rfl
  have hthird := @Pattern.slice_append _ _ _ _
    (report.path.length + 1 + report.line.digits.length + 1 + report.column.length + 1) _ hmessage
    (by simp; omega) rfl
  unfold Linter.captures
  rw [hlayout]
  cases hreport : report.col with
  | none =>
    simp [Linter.groupText?, Match.group?, Match.whole, spans, hreport, hfirst, hthird]
  | some col =>
    have hsecond := @Pattern.slice_append _ _ _ _
      (report.path.length + 1 + report.line.digits.length + 1) _ (hcol col hreport)
      (by simp; omega) rfl
    simp [Linter.groupText?, Match.group?, Match.whole, spans, hreport, hfirst, hsecond, hthird]

end Report

/-! ### Numerals and messages -/

theorem trimEndWhere_of_last {drop : Char → Bool} {text : List Char}
    (h : ∀ c ∈ text.getLast?, drop c = false) : Text.trimEndWhere drop text = text := by
  refine Text.trimEndWhere_eq_iff.mpr ⟨⟨[], (List.append_nil text).symm, ?_⟩, h⟩
  intro c hc
  cases hc

theorem trimWhere_of_all {drop : Char → Bool} {text : List Char}
    (h : ∀ c ∈ text, drop c = false) : Text.trimWhere drop text = text := by
  have hstart : text.dropWhile drop = text := by
    cases text with
    | nil => rfl
    | cons c rest => exact List.dropWhile_cons_of_neg (by simp [h c List.mem_cons_self])
  rw [Text.trimWhere, hstart]
  exact trimEndWhere_of_last fun c hc => h c (List.mem_of_getLast? hc)

/-- The codes of white space. -/
def blankCodes : List Nat :=
  [9, 10, 11, 12, 13, 28, 29, 30, 31, 32, 0x85, 0xa0, 0x1680, 0x2000, 0x2001, 0x2002, 0x2003,
    0x2004, 0x2005, 0x2006, 0x2007, 0x2008, 0x2009, 0x200a, 0x2028, 0x2029, 0x202f, 0x205f, 0x3000]

theorem mem_blankCodes {c : Char} (h : isBlank c = true) : c.toNat ∈ blankCodes := by
  dsimp only [isBlank] at h
  simp only [blankCodes, List.mem_cons, List.not_mem_nil, or_false]
  split at h
  · simp only [Bool.or_eq_true, Bool.and_eq_true, decide_eq_true_eq] at h
    omega
  · simp only [Bool.or_eq_true, Bool.and_eq_true, decide_eq_true_eq] at h
    omega

/-- No digit is white space. -/
theorem not_isBlank_of_isDecimal {c : Char} (h : isDecimal c = true) : isBlank c = false := by
  have hcodes : ∀ n ∈ blankCodes, isDecimal (Char.ofNat n) = false := by decide
  refine Bool.eq_false_iff.mpr fun hblank => ?_
  have hc := hcodes c.toNat (mem_blankCodes hblank)
  rw [Char.ofNat_toNat, h] at hc
  cases hc

namespace Numeral

theorem trimWhere_digits (numeral : Numeral) :
    Text.trimWhere isBlank numeral.digits = numeral.digits :=
  trimWhere_of_all fun c hc =>
    not_isBlank_of_isDecimal ((isNumeral_iff.mp numeral.isNumeral).2 c hc)

theorem not_overlong (numeral : Numeral) : ¬Text.Overlong numeral.digits := by
  rintro ⟨-, hlong⟩
  rw [trimWhere_digits] at hlong
  exact Nat.not_lt.mpr numeral.short hlong

theorem usableNumber?_digits (numeral : Numeral) :
    Text.usableNumber? numeral.digits = some (decimalNumber numeral.digits) := by
  simp [Text.usableNumber?, trimWhere_digits, numeral.isNumeral, numeral.short]

end Numeral

namespace Report

/-- A message that no carriage return ends stays as it is. -/
theorem messageText_message (report : Report) :
    messageText (some report.message) = String.ofList report.message := by
  rw [messageText, Option.getD_some, trimEndWhere_of_last]
  intro c hc
  refine decide_eq_false ?_
  rintro rfl
  exact report.noReturn hc

theorem oneLine_text (report : Report) : '\n' ∉ report.text := by
  have hline := Format.not_isDecimal_lineEnd report.line.isNumeral
  have hpath := report.isPath.line
  have hmessage := report.oneLine
  cases hcol : report.col with
  | none => simp [text, tail, column, hcol, hline, hpath, hmessage]
  | some col =>
    have hdigits := Format.not_isDecimal_lineEnd col.isNumeral
    simp [text, tail, column, hcol, hline, hpath, hmessage, hdigits]

theorem inside_text (report : Report) {span : Option (Nat × Nat)} (h : span ∈ report.spans)
    {bounds : Nat × Nat} (hbounds : bounds ∈ span) :
    bounds.1 ≤ bounds.2 ∧ bounds.2 ≤ report.text.length := by
  rw [length_text]
  simp only [spans, List.mem_cons, List.not_mem_nil, or_false] at h
  obtain rfl | rfl | rfl := h
  · cases hbounds
    simp
    omega
  · obtain ⟨col, hcol, rfl⟩ := Option.map_eq_some_iff.mp hbounds
    simp [column, hcol]
    omega
  · cases hbounds
    simp

end Report

/-! ### Lines -/

namespace Line

variable {format : Format}

/-- A line as the pattern of its format finds it. -/
def found : Line format → FoundLine format.pattern
  | report r suits => {
      text := r.text
      spans? := some r.spans
      line := r.oneLine_text
      inside := by
        rintro _ ⟨⟩
        exact ⟨by simp [Report.text], fun span h bounds hb => r.inside_text h hb⟩
      found := fun _ _ hafter hline hrest => r.matchAt_text suits hafter hline hrest }
  | other text oneLine silent => {
      text
      spans? := none
      line := oneLine
      inside := nofun
      found := fun _ _ hafter _ hrest => Format.matchAt_other silent hafter hrest }

@[simp] theorem text_found (line : Line format) : line.found.text = line.text := by
  cases line <;> rfl

/-- The line without characters. -/
def blank : Line format :=
  .other [] List.not_mem_nil (Format.not_mentions_of_noColon List.not_mem_nil)

end Line

section Printed

variable {format : Format}

theorem join_found (lines : List (Line format)) :
    FoundLine.join (lines.map Line.found) = ['\n'].intercalate (lines.map Line.text) := by
  simp [FoundLine.join, Function.comp_def]

theorem flatMap_lineEnd (lines : List (Line format)) :
    (lines.flatMap fun line => line.text ++ ['\n']) =
      ['\n'].intercalate ((lines ++ [Line.blank]).map Line.text) := by
  induction lines with
  | nil => rfl
  | cons line rest ih =>
    rw [List.flatMap_cons, ih]
    cases rest <;> simp [List.intercalate]

/-- What is printed is lines with line ends between them. -/
theorem printed_eq_join (final : Bool) (lines : List (Line format)) :
    ∃ (first : Line format) (others : List (Line format)),
      printed final lines = FoundLine.join ((first :: others).map Line.found) ∧
        ∀ name, (first :: others).filterMap (Line.warning? name) =
          lines.filterMap (Line.warning? name) := by
  simp only [join_found]
  cases final with
  | false =>
    cases lines with
    | nil => exact ⟨.blank, [], rfl, fun _ => rfl⟩
    | cons first others => exact ⟨first, others, rfl, fun _ => rfl⟩
  | true =>
    obtain ⟨first, others, hlines⟩ := List.exists_cons_of_ne_nil
      (List.append_ne_nil_of_right_ne_nil lines (List.cons_ne_nil (@Line.blank format) []))
    refine ⟨first, others, hlines ▸ flatMap_lineEnd lines, fun name => ?_⟩
    rw [← hlines]
    simp [Line.blank, Line.warning?]

end Printed

/-! ### Linters -/

/-- A linter that reads a format. -/
abbrev Format.linter (format : Format) (definition : Definition) (files : List Pattern)
    (template : Template) : Linter :=
  ⟨definition, format.pattern, ⟨1, some 2, 3⟩, files, template⟩

section Linter

variable {format : Format} (definition : Definition) (files : List Pattern)
  (template : Template)

theorem legible_line (line : Line format) :
    (format.linter definition files template).LineLegible line.found := by
  cases line with
  | other => exact nofun
  | report r suits =>
    rintro _ ⟨⟩
    have hcaptures := @Report.captures_text (format.linter definition files template) rfl r
    refine ⟨FoundLine.isSound_whole rfl 0, fun text h => ?_, fun text h => ?_⟩
    · rw [show (Line.report r suits).found.text = r.text from rfl, hcaptures] at h
      cases h
      exact r.line.not_overlong
    · rw [show (Line.report r suits).found.text = r.text from rfl, hcaptures] at h
      obtain ⟨col, -, rfl⟩ := Option.map_eq_some_iff.mp h
      exact col.not_overlong

theorem lineWarning?_found (line : Line format) :
    (format.linter definition files template).lineWarning? line.found =
      line.warning? definition.name := by
  cases line with
  | other => rfl
  | report r suits =>
    have hcaptures := @Report.captures_text (format.linter definition files template) rfl r
    have hreport : (format.linter definition files template).lineWarning?
        (Line.report r suits).found =
      (format.linter definition files template).warningOf? r.text (.whole 0 r.text r.spans) := rfl
    rw [hreport, Linter.warningOf?, hcaptures]
    cases hcol : r.col <;>
      simp [Line.warning?, Report.warning, hcol, Numeral.usableNumber?_digits,
        r.messageText_message]

/-- A linter that reads a format reads back what is printed in it. -/
theorem warnings_printed (final : Bool) (lines : List (Line format)) :
    (format.linter definition files template).warnings (printed final lines) =
      .ok (lines.filterMap (Line.warning? definition.name)) := by
  obtain ⟨first, others, hprinted, hwarnings⟩ := printed_eq_join final lines
  have hjoin := @Linter.warnings_join (format.linter definition files template) format.anchored
    first.found (others.map Line.found)
  rw [hprinted, ← hwarnings]
  refine (hjoin ?_).trans (congrArg _ ?_)
  · exact List.forall_mem_cons.mpr ⟨legible_line definition files template first,
      List.forall_mem_map.mpr fun line _ => legible_line definition files template line⟩
  · rw [← List.map_cons, List.filterMap_map]
    exact congrArg (List.filterMap · _) (funext (lineWarning?_found definition files template))

end Linter

/-- A built-in linter has the pattern of its format. -/
theorem find?_linters {format : Format} {name : String} (h : name ∈ format.names) :
    ∃ definition files template, definition.name = name ∧
      linters.find? (fun linter => linter.name = name) =
        some (format.linter definition files template) := by
  have hentries : ∀ name ∈ format.names,
      (linters.map fun linter => (linter.name, linter.pattern, linter.layout)).find?
          (fun entry => entry.1 = name) = some (name, format.pattern, ⟨1, some 2, 3⟩) := by
    rw [compiled]
    cases format <;> simp [Format.names, Format.pattern]
  have hentry := hentries name h
  rw [List.find?_map] at hentry
  obtain ⟨⟨definition, pattern, layout, files, template⟩, hfind, heq⟩ :=
    Option.map_eq_some_iff.mp hentry
  cases heq
  exact ⟨definition, files, template, rfl, hfind⟩

/-- The built-in linters read back what their tools print. -/
theorem presets_read_back (format : Format) (name : String) (h : name ∈ format.names) :
    ∃ linter, resolve [name] = .ok [linter] ∧
      ∀ (final : Bool) (lines : List (Line format)),
        linter.warnings (printed final lines) = .ok (lines.filterMap (Line.warning? name)) := by
  have hname : name ≠ everyName := by
    rintro rfl
    revert h
    cases format <;> decide
  obtain ⟨definition, files, template, rfl, hfind⟩ := find?_linters h
  refine ⟨_, ?_, warnings_printed definition files template⟩
  rw [resolve, if_neg hname, hfind]
  rfl

/-- `src/a.py:12: note: see below`, without a column. -/
def noteReport : Report where
  path := "src/a.py".toList
  line := ⟨"12".toList, by decide, by decide⟩
  col := none
  message := "note: see below".toList
  isPath := by
    refine ⟨by decide, fun before c after h => ?_⟩
    have hcolon : ':' ∈ "src/a.py".toList := h ▸ by simp
    exact absurd hcolon (by decide)
  oneLine := by decide
  noReturn := by decide

theorem mypy_reads_back_note : "mypy" ∈ Format.severity.names ∧
    ∃ linter, resolve ["mypy"] = .ok [linter] ∧
      linter.warnings "Checked 1 file\nsrc/a.py:12: note: see below\n".toList =
        .ok [⟨12, 0, "note: see below", some "mypy"⟩] := by
  have hmypy : "mypy" ∈ Format.severity.names := by decide
  obtain ⟨linter, hresolve, hread⟩ := presets_read_back .severity "mypy" hmypy
  have hnote : Format.severity.Suits noteReport :=
    ⟨"note", by decide, "see below".toList, by decide⟩
  have hsilent : ¬Format.severity.Mentions "Checked 1 file".toList :=
    Format.not_mentions_of_noColon (by decide)
  exact ⟨hmypy, linter, hresolve,
    hread true [.other "Checked 1 file".toList (by decide) hsilent, .report noteReport hnote]⟩

end Gutter.Presets
