import Gutter.Linter.Registry
import Gutter.Proofs.Linter.Lines
import Gutter.Proofs.Pattern.Finds

/-! The built-in linters read back what the tools print for which they are made: every line
`path:line:col: message`, wherever it stands among lines of another kind. -/

namespace Gutter.Presets

open Pattern (CharTest Cursor Match Spans Trace)
open Text (isDecimal isNumeral)

/-! ### The patterns as they are matched -/

def digit : CharTest := .set false false ⟨.exact, false⟩ [.category false .digit]

def notLineEnd : CharTest := .code .exact true '\n'.toNat

def colon : Pattern.Node := .char (.only ':')

def blank : Pattern.Node := .char (.only ' ')

/-- `(\d+)` -/
def numeral (inLoop : Bool) (index : Nat) : Pattern.Node :=
  .group index (.many inLoop none .greedy 1 none digit)

/-- `.*` -/
def anything : Pattern.Node := .many false none .greedy 0 none .notNewline

/-- `:(\d+):`, and then `body` -/
def numbered (body : Pattern.Node) : Pattern.Node :=
  .seq colon (.seq (numeral false 1) (.seq colon body))

/-- `^[^\n]*?:(\d+):`, and then `body` -/
def lineNode (body : Pattern.Node) : Pattern.Node :=
  .seq (.place .lineStart)
    (.seq (.many false (some (.only ':')) .lazy 0 none notLineEnd) (numbered body))

/-- `(\d+): (.*)$` -/
def gccBody : Pattern.Node :=
  .seq (numeral false 2) (.seq colon (.seq blank (.seq (.group 3 anything) (.place .lineEnd))))

/-- The words for how severe something is. -/
def severities : List String := ["error", "warning", "note"]

/-- `error|warning|note` -/
def severityNode : List String → Pattern.Node
  | [] => .never
  | word :: rest =>
    .either false (word.toList.head?.map CharTest.only) (.word word.toList) (severityNode rest)

/-- `(?:error|warning|note): .*` -/
def severityMessage : Pattern.Node :=
  .seq (severityNode severities) (.seq colon (.seq blank anything))

/-- `(?:(\d+):)? ((?:error|warning|note): .*)$` -/
def severityBody : Pattern.Node :=
  .seq (.loop false .greedy 0 (some 1) (.seq (numeral true 2) colon))
    (.seq blank (.seq (.group 3 severityMessage) (.place .lineEnd)))

theorem compiled : (linters.map fun linter => (linter.name, linter.pattern, linter.layout)) =
    [("flake8", ⟨lineNode gccBody, 6, false, 3, []⟩, ⟨1, some 2, 3⟩),
      ("ruff", ⟨lineNode gccBody, 6, false, 3, []⟩, ⟨1, some 2, 3⟩),
      ("mypy", ⟨lineNode severityBody, 10, false, 3,
        [("line".toList, 1), ("col".toList, 2), ("message".toList, 3)]⟩, ⟨1, some 2, 3⟩),
      ("luacheck", ⟨lineNode gccBody, 6, false, 3, []⟩, ⟨1, some 2, 3⟩),
      ("shellcheck", ⟨lineNode gccBody, 6, false, 3, []⟩, ⟨1, some 2, 3⟩)] := by
  decide +kernel

/-! ### What they take -/

@[simp] theorem holds_digit {c : Char} : digit.holds c = true ↔ isDecimal c = true := by
  simp [digit, CharTest.holds, Pattern.Member.holds, Pattern.Category.holds]

@[simp] theorem holds_notLineEnd {c : Char} : notLineEnd.holds c = true ↔ c ≠ '\n' := by
  rw [ne_eq, ← Char.toNat_inj]
  cases h : decide (c.toNat = '\n'.toNat) <;>
    simp_all [notLineEnd, CharTest.holds, Pattern.Fold.lower, Pattern.Fold.variants]

theorem isNumeral_iff {text : List Char} :
    isNumeral text = true ↔ text ≠ [] ∧ ∀ c ∈ text, isDecimal c = true := by
  simp [isNumeral]

section Takes

variable {cursor next : Cursor} {body : Pattern.Node}

theorem takes_numeral {inLoop : Bool} {index : Nat}
    (h : (numeral inLoop index).Takes cursor next) :
    ∃ digits rest, cursor.after = digits ++ rest ∧ isNumeral digits = true ∧
      next = cursor.pastAll digits rest := by
  obtain ⟨digits, rest, hafter, hdigits, hcounts, hnext⟩ := h
  refine ⟨digits, rest, hafter, isNumeral_iff.mpr ⟨?_, fun c hc => ?_⟩, hnext⟩
  · exact List.length_pos_iff.mp hcounts.1
  · exact holds_digit.mp (hdigits c hc)

/-- A colon, a numeral and a colon stand before what the body takes. -/
theorem takes_numbered (h : (numbered body).Takes cursor next) :
    ∃ line rest, cursor.after = ':' :: (line ++ ':' :: rest) ∧ isNumeral line = true ∧
      ∃ start, start.after = rest ∧ body.Takes start next := by
  obtain ⟨first, hfirst, second, hsecond, third, hthird, hbody⟩ := h
  obtain ⟨rest, hafter, rfl⟩ := Pattern.Node.takes_only.mp hfirst
  obtain ⟨line, rest', hline, hnumeral, rfl⟩ := takes_numeral hsecond
  obtain ⟨last, hlast, rfl⟩ := Pattern.Node.takes_only.mp hthird
  obtain rfl : rest = line ++ rest' := hline
  obtain rfl : rest' = ':' :: last := hlast
  exact ⟨line, last, hafter, hnumeral, _, rfl, hbody⟩

theorem takes_lineNode (h : (lineNode body).Takes cursor next) :
    cursor.AtLine ∧ ∃ front line rest, cursor.after = front ++ ':' :: (line ++ ':' :: rest) ∧
      '\n' ∉ front ∧ isNumeral line = true ∧
      ∃ start, start.after = rest ∧ body.Takes start next := by
  obtain ⟨_, ⟨hstart, rfl⟩, second, ⟨front, rest, hafter, hfront, -, rfl⟩, hbody⟩ := h
  obtain ⟨line, last, hline, hnumeral, hrest⟩ := takes_numbered hbody
  obtain rfl : rest = _ := hline
  exact ⟨hstart, front, line, last, hafter, fun hm => holds_notLineEnd.mp (hfront _ hm) rfl,
    hnumeral, hrest⟩

theorem takes_gccBody (h : gccBody.Takes cursor next) :
    ∃ col rest, cursor.after = col ++ ':' :: ' ' :: rest ∧ isNumeral col = true := by
  obtain ⟨first, hfirst, second, hsecond, third, hthird, -⟩ := h
  obtain ⟨col, rest, hafter, hnumeral, rfl⟩ := takes_numeral hfirst
  obtain ⟨rest', hcolon, rfl⟩ := Pattern.Node.takes_only.mp hsecond
  obtain ⟨last, hblank, rfl⟩ := Pattern.Node.takes_only.mp hthird
  obtain rfl : rest = ':' :: rest' := hcolon
  obtain rfl : rest' = ' ' :: last := hblank
  exact ⟨col, last, hafter, hnumeral⟩

theorem takes_severityNode {words : List String} (h : (severityNode words).Takes cursor next) :
    ∃ word ∈ words, ∃ rest, cursor.after = word.toList ++ rest ∧
      next = cursor.pastAll word.toList rest := by
  induction words with
  | nil => exact h.elim
  | cons word words ih =>
    obtain h | h := h
    · exact ⟨word, List.mem_cons_self, Pattern.Node.takes_word h⟩
    · obtain ⟨other, hm, hrest⟩ := ih h
      exact ⟨other, List.mem_cons_of_mem word hm, hrest⟩

theorem takes_severityBody (h : severityBody.Takes cursor next) :
    ∃ col : Option (List Char), ∃ severity ∈ severities, ∃ rest,
      cursor.after = col.elim [] (· ++ [':']) ++ ' ' :: (severity.toList ++ ':' :: ' ' :: rest) ∧
        ∀ digits ∈ col, isNumeral digits = true := by
  obtain ⟨first, hfirst, second, hsecond, _, ⟨third, hthird, fourth, hfourth, fifth, hfifth, -⟩,
    -⟩ := h
  obtain ⟨rest, hblank, rfl⟩ := Pattern.Node.takes_only.mp hsecond
  obtain ⟨severity, hm, rest', hseverity, rfl⟩ := takes_severityNode hthird
  obtain ⟨last', hcolon, rfl⟩ := Pattern.Node.takes_only.mp hfourth
  obtain ⟨last, hlast, rfl⟩ := Pattern.Node.takes_only.mp hfifth
  obtain rfl : rest = severity.toList ++ rest' := hseverity
  obtain rfl : rest' = ':' :: last' := hcolon
  obtain rfl : last' = ' ' :: last := hlast
  obtain hmode | ⟨n, ⟨-, hmost⟩, hrounds⟩ := hfirst
  · cases hmode
  cases hrounds with
  | none => exact ⟨none, severity, hm, last, hblank, nofun⟩
  | more hround hrest =>
    have hn := hmost 1 rfl
    cases hrest with
    | more => simp at hn
    | none =>
      obtain ⟨_, hnumeral, hend⟩ := hround
      obtain ⟨digits, after, hafter, hdigits, rfl⟩ := takes_numeral hnumeral
      obtain ⟨behind, hbehind, rfl⟩ := Pattern.Node.takes_only.mp hend
      obtain rfl : after = ':' :: behind := hbehind
      obtain rfl : behind = ' ' :: _ := hblank
      refine ⟨some digits, severity, hm, last, ?_, fun other ho => Option.mem_some.mp ho ▸ hdigits⟩
      rw [hafter]
      simp

end Takes

/-! ### What they find first -/

section Finds

variable {cursor next : Cursor} {trace after : Trace} {body : Pattern.Node} {rest : List Char}

theorem mark_of_le {marks : List (Option Cursor)} {n : Nat} (h : marks.length ≤ n)
    (reached cursor : Cursor) :
    Trace.mark ⟨marks, reached⟩ n cursor =
      ⟨marks ++ List.replicate (n - marks.length) none ++ [some cursor], reached⟩ := by
  simp [Trace.mark, Nat.not_lt.mpr h]

variable {marks : List (Option Cursor)} {reached : Cursor}

/-- A group that is opened and closed again after the groups before it. -/
theorem finds_group {index : Nat} (hmarks : marks.length ≤ Trace.openMark index)
    {front : List (Option Cursor)}
    (hfront : front = marks ++ List.replicate (Trace.openMark index - marks.length) none)
    (h : body.Finds cursor ⟨front ++ [some cursor], reached⟩ next
      ⟨front ++ [some cursor], next⟩) :
    (Pattern.Node.group index body).Finds cursor ⟨marks, reached⟩ next
      ⟨front ++ [some cursor, some next], next⟩ := by
  have hlength : (front ++ [some cursor]).length = Trace.closeMark index := by
    simp [hfront, Trace.closeMark, Trace.openMark] at hmarks ⊢
    omega
  have hgroup : (Pattern.Node.group index body).Finds cursor ⟨marks, reached⟩ next
      (Trace.mark ⟨front ++ [some cursor], next⟩ (Trace.closeMark index) next) := by
    refine .group ?_
    rw [mark_of_le hmarks, ← hfront]
    exact h
  rw [mark_of_le (Nat.le_of_eq hlength), hlength, Nat.sub_self] at hgroup
  simpa using hgroup

theorem finds_numeral {inLoop : Bool} {index : Nat} {digits : List Char} {c : Char}
    (hmarks : marks.length = Trace.openMark index) (hafter : cursor.after = digits ++ c :: rest)
    (hdigits : isNumeral digits = true) (hc : isDecimal c = false)
    (hnext : next = cursor.pastAll digits (c :: rest)) :
    (numeral inLoop index).Finds cursor ⟨marks, reached⟩ next
      ⟨marks ++ [some cursor, some next], next⟩ := by
  subst hnext
  obtain ⟨hne, hall⟩ := isNumeral_iff.mp hdigits
  refine finds_group (Nat.le_of_eq hmarks) (by simp [hmarks]) (Pattern.Node.finds_greedy rfl hafter
    (fun c hc => holds_digit.mpr (hall c hc)) ?_ (List.length_pos_iff.mpr hne))
  simpa [← Bool.not_eq_true] using hc

/-- A colon is not part of a numeral. -/
theorem not_isDecimal_colon : isDecimal ':' = false := by decide

theorem finds_numbered {line : List Char} {first second : Cursor}
    (hafter : cursor.after = ':' :: (line ++ ':' :: rest)) (hline : isNumeral line = true)
    (hfirst : first = cursor.past ':' (line ++ ':' :: rest))
    (hsecond : second = first.pastAll line (':' :: rest)) (reached : Cursor)
    (h : body.Finds (second.past ':' rest) ⟨[some first, some second], second⟩ next after) :
    (numbered body).Finds cursor ⟨[], reached⟩ next after := by
  subst hfirst
  exact (Pattern.Node.finds_only hafter).seq <|
    (finds_numeral rfl rfl hline not_isDecimal_colon hsecond).seq <|
      (Pattern.Node.finds_only (hsecond ▸ rfl)).seq h

/-- A path has no line end, and no colon before a digit. -/
structure IsPath (path : List Char) : Prop where
  line : '\n' ∉ path
  colons : ∀ before c after, path = before ++ ':' :: c :: after → isDecimal c = false

/-- Before the end of a path no colon stands before a numeral. -/
theorem IsPath.not_takes_numbered {path : List Char} (hpath : IsPath path) {before last : List Char}
    (hsplit : path = before ++ last) (hne : last ≠ [])
    (hafter : cursor.after = last ++ ':' :: rest) : ¬(numbered body).Takes cursor next := by
  intro h
  obtain ⟨line, behind, hnumbered, hline, -⟩ := takes_numbered h
  obtain ⟨hne', hall⟩ := isNumeral_iff.mp hline
  obtain ⟨d, line, rfl⟩ := List.exists_cons_of_ne_nil hne'
  have hd : isDecimal d = true := hall d List.mem_cons_self
  rw [hafter] at hnumbered
  rcases last with _ | ⟨c, _ | ⟨c', last⟩⟩
  · exact hne rfl
  · injection hnumbered with _ hd'
    injection hd' with hd' _
    rw [← hd', not_isDecimal_colon] at hd
    cases hd
  · injection hnumbered with hc hd'
    injection hd' with hd' _
    rw [hpath.colons before d last (by rw [hsplit, hc, hd'])] at hd
    cases hd

theorem finds_lineNode {path line : List Char} {start first second : Cursor}
    (hafter : cursor.after = path ++ ':' :: (line ++ ':' :: rest)) (hline : cursor.AtLine)
    (hpath : IsPath path) (hnumeral : isNumeral line = true)
    (hstart : start = cursor.pastAll path (':' :: (line ++ ':' :: rest)))
    (hfirst : first = start.past ':' (line ++ ':' :: rest))
    (hsecond : second = first.pastAll line (':' :: rest))
    (h : body.Finds (second.past ':' rest) ⟨[some first, some second], second⟩ next after) :
    (lineNode body).Finds cursor ⟨[], cursor⟩ next after := by
  refine (Pattern.Node.finds_place hline).seq fun go hfound => ?_
  let tail : Pattern.Goal := fun here trace => (numbered body).search here trace go
  have hnumbered : tail start ⟨[], start⟩ = go next after :=
    finds_numbered (hstart ▸ rfl) hnumeral hfirst hsecond start h go hfound
  have htail := (congrArg Pattern.Attempt.found hnumbered).trans hfound
  have hpass (c : Char) (hc : c ∈ path) : notLineEnd.holds c = true := by
    rw [holds_notLineEnd]
    rintro rfl
    exact hpath.line hc
  have hvain (before last : List Char) (hsplit : path = before ++ last) (hne : last ≠ [])
      (trace : Trace) :
      (tail (cursor.pastAll before (last ++ ':' :: (line ++ ':' :: rest))) trace).found = false :=
    Pattern.Node.not_found_of_not_takes (fun next => hpath.not_takes_numbered hsplit hne rfl)
      trace go
  subst hstart
  exact (Pattern.search_lazy false (some (.only ':')) hpass hafter hvain htail cursor).trans
    hnumbered

/-- All that is left on a line. -/
theorem finds_anything {text : List Char} (hafter : cursor.after = text ++ rest)
    (hline : '\n' ∉ text) (hrest : ∀ c ∈ rest.head?, c = '\n') :
    anything.Finds cursor trace (cursor.pastAll text rest)
      (trace.tryFrom (cursor.pastAll text rest)) := by
  have hpass (c : Char) (hc : c ∈ text) : CharTest.notNewline.holds c = true := by
    refine decide_eq_true ?_
    rintro rfl
    exact hline hc
  have hstop (c : Char) (hc : c ∈ rest.head?) : CharTest.notNewline.holds c = false := by
    simp [CharTest.holds, hrest c hc]
  exact Pattern.Node.finds_greedy rfl hafter hpass hstop (Nat.zero_le _)

/-- The third group, at the end of its line. -/
theorem finds_message (marks front : List (Option Cursor)) (hmarks : marks.length ≤ 4)
    (hfront : front = marks ++ List.replicate (4 - marks.length) none)
    (hend : ∀ c ∈ next.after.head?, c = '\n')
    (h : body.Finds cursor ⟨front ++ [some cursor], reached⟩ next
      ⟨front ++ [some cursor], next⟩) :
    (Pattern.Node.seq (.group 3 body) (.place .lineEnd)).Finds cursor ⟨marks, reached⟩ next
      ⟨front ++ [some cursor, some next], next⟩ := by
  have hplace : Pattern.Place.lineEnd.holds next = true := by
    unfold Pattern.Place.holds
    cases hafter : next.after with
    | nil => rfl
    | cons c rest => exact decide_eq_true (hend c (by rw [hafter]; rfl))
  exact (finds_group hmarks hfront h).seq (Pattern.Node.finds_place hplace)

variable {first second : Option Cursor} {third fourth fifth sixth : Cursor}

/-- A column, a colon, a blank and a message. -/
theorem finds_gccBody {col message : List Char}
    (hthird : third.after = col ++ ':' :: ' ' :: (message ++ rest)) (hcol : isNumeral col = true)
    (hline : '\n' ∉ message) (hrest : ∀ c ∈ rest.head?, c = '\n')
    (hfourth : fourth = third.pastAll col (':' :: ' ' :: (message ++ rest)))
    (hfifth : fifth = (fourth.past ':' (' ' :: (message ++ rest))).past ' ' (message ++ rest))
    (hsixth : sixth = fifth.pastAll message rest) :
    gccBody.Finds third ⟨[first, second], reached⟩ sixth
      ⟨[first, second, some third, some fourth, some fifth, some sixth], sixth⟩ := by
  subst hsixth
  have hmessage : (Pattern.Node.seq (.group 3 anything) (.place .lineEnd)).Finds fifth
      ⟨[first, second, some third, some fourth], fourth⟩ (fifth.pastAll message rest)
      ⟨[first, second, some third, some fourth, some fifth, some (fifth.pastAll message rest)],
        fifth.pastAll message rest⟩ :=
    finds_message [first, second, some third, some fourth] _ (Nat.le_refl 4) rfl hrest
      (finds_anything (hfifth ▸ rfl) hline hrest)
  subst hfifth
  exact (finds_numeral rfl hthird hcol not_isDecimal_colon hfourth).seq <|
    (Pattern.Node.finds_only (hfourth ▸ rfl)).seq <| (Pattern.Node.finds_only rfl).seq hmessage

/-- One of the words for how severe something is. -/
theorem finds_severityNode {words : List String} {word : String} (hm : word ∈ words)
    (hwords : words.Pairwise fun one other => one.toList.head? ≠ other.toList.head?)
    (hne : ∀ one ∈ words, one.toList ≠ []) (hafter : cursor.after = word.toList ++ rest) :
    (severityNode words).Finds cursor ⟨marks, reached⟩ (cursor.pastAll word.toList rest)
      ⟨marks, cursor⟩ := by
  induction words generalizing reached with
  | nil => cases hm
  | cons one others ih =>
    obtain ⟨hdiffer, hothers⟩ := List.pairwise_cons.mp hwords
    obtain ⟨hone, hne⟩ := List.forall_mem_cons.mp hne
    obtain ⟨c, tail, hhead⟩ := List.exists_cons_of_ne_nil hone
    obtain rfl | hm := List.mem_cons.mp hm
    · refine .first ?_ (Pattern.Node.finds_word hafter)
      simp [Pattern.passes, hafter, hhead]
    · obtain ⟨d, tail', hword⟩ := List.exists_cons_of_ne_nil (hne word hm)
      refine .second ?_ (ih hm hothers hne)
      have hcd : d ≠ c := by
        simpa [hhead, hword, eq_comm] using hdiffer word hm
      simpa [Pattern.passes, hafter, hhead, hword, ← Bool.not_eq_true] using hcd

/-- A severity, a colon, a blank and what else there is on a line. -/
theorem finds_severity {severity text : List Char} (marks front : List (Option Cursor))
    (hmarks : marks.length ≤ 4) (hfront : front = marks ++ List.replicate (4 - marks.length) none)
    (hseverity : ∃ word ∈ severities, severity = word.toList)
    (hafter : cursor.after = severity ++ ':' :: ' ' :: (text ++ rest)) (hline : '\n' ∉ text)
    (hrest : ∀ c ∈ rest.head?, c = '\n')
    (hnext : next = cursor.pastAll (severity ++ ':' :: ' ' :: text) rest) :
    (Pattern.Node.seq (.group 3 severityMessage) (.place .lineEnd)).Finds cursor
      ⟨marks, reached⟩ next ⟨front ++ [some cursor, some next], next⟩ := by
  obtain ⟨word, hm, rfl⟩ := hseverity
  have hwords : severities.Pairwise fun one other => one.toList.head? ≠ other.toList.head? := by
    decide
  have hne : ∀ one ∈ severities, one.toList ≠ [] := by decide
  refine finds_message marks front hmarks hfront (hnext ▸ hrest) <|
    (finds_severityNode hm hwords hne hafter).seq <| (Pattern.Node.finds_only rfl).seq <|
      (Pattern.Node.finds_only rfl).seq ?_
  have htext := @finds_anything _ ⟨front ++ [some cursor], cursor⟩ rest text
    (rfl : (((cursor.pastAll word.toList (':' :: ' ' :: (text ++ rest))).past ':'
      (' ' :: (text ++ rest))).past ' ' (text ++ rest)).after = text ++ rest) hline hrest
  have hsame : (((cursor.pastAll word.toList (':' :: ' ' :: (text ++ rest))).past ':'
      (' ' :: (text ++ rest))).past ' ' (text ++ rest)).pastAll text rest = next := by
    simp [hnext, Cursor.pastAll, Cursor.past]
    omega
  rwa [hsame] at htext

/-- A column and a colon, a blank, and a severity with a text. -/
theorem finds_severityBody {col severity text : List Char}
    (hthird : third.after = col ++ ':' :: ' ' :: (severity ++ ':' :: ' ' :: (text ++ rest)))
    (hcol : isNumeral col = true) (hseverity : ∃ word ∈ severities, severity = word.toList)
    (hline : '\n' ∉ text) (hrest : ∀ c ∈ rest.head?, c = '\n')
    (hfourth : fourth = third.pastAll col
      (':' :: ' ' :: (severity ++ ':' :: ' ' :: (text ++ rest))))
    (hfifth : fifth = (fourth.past ':' (' ' :: (severity ++ ':' :: ' ' :: (text ++ rest)))).past ' '
      (severity ++ ':' :: ' ' :: (text ++ rest)))
    (hsixth : sixth = fifth.pastAll (severity ++ ':' :: ' ' :: text) rest) :
    severityBody.Finds third ⟨[first, second], reached⟩ sixth
      ⟨[first, second, some third, some fourth, some fifth, some sixth], sixth⟩ := by
  have hmessage : (Pattern.Node.seq (.group 3 severityMessage) (.place .lineEnd)).Finds fifth
      ⟨[first, second, some third, some fourth], fourth.past ':'
        (' ' :: (severity ++ ':' :: ' ' :: (text ++ rest)))⟩ sixth
      ⟨[first, second, some third, some fourth, some fifth, some sixth], sixth⟩ :=
    finds_severity [first, second, some third, some fourth] _ (Nat.le_refl 4) rfl hseverity
      (hfifth ▸ rfl) hline hrest hsixth
  subst hfifth
  exact (Pattern.Node.Finds.optional
    ((finds_numeral rfl hthird hcol not_isDecimal_colon hfourth).seq
      (Pattern.Node.finds_only (hfourth ▸ rfl)))).seq <|
    (Pattern.Node.finds_only rfl).seq hmessage

/-- A blank, and a severity with a text. -/
theorem finds_severityBody_plain {severity text : List Char}
    (hthird : third.after = ' ' :: (severity ++ ':' :: ' ' :: (text ++ rest)))
    (hseverity : ∃ word ∈ severities, severity = word.toList)
    (hline : '\n' ∉ text) (hrest : ∀ c ∈ rest.head?, c = '\n')
    (hfifth : fifth = third.past ' ' (severity ++ ':' :: ' ' :: (text ++ rest)))
    (hsixth : sixth = fifth.pastAll (severity ++ ':' :: ' ' :: text) rest) :
    severityBody.Finds third ⟨[first, second], reached⟩ sixth
      ⟨[first, second, none, none, some fifth, some sixth], sixth⟩ := by
  have hnone (next : Cursor) : ¬(Pattern.Node.seq (numeral true 2) colon).Takes third next := by
    rintro ⟨_, hnumeral, -⟩
    obtain ⟨digits, behind, hafter, hdigits, -⟩ := takes_numeral hnumeral
    obtain ⟨hne, hall⟩ := isNumeral_iff.mp hdigits
    obtain ⟨c, digits, rfl⟩ := List.exists_cons_of_ne_nil hne
    rw [hthird] at hafter
    injection hafter with hc _
    have hblank := hall c List.mem_cons_self
    rw [← hc] at hblank
    revert hblank
    decide
  have hmessage : (Pattern.Node.seq (.group 3 severityMessage) (.place .lineEnd)).Finds fifth
      ⟨[first, second], third⟩ sixth
      ⟨[first, second, none, none, some fifth, some sixth], sixth⟩ :=
    finds_severity [first, second] _ (Nat.le_add_right 2 2) rfl hseverity (hfifth ▸ rfl) hline
      hrest hsixth
  subst hfifth
  exact (Pattern.Node.finds_optional_none hnone).seq <|
    (Pattern.Node.finds_only hthird).seq hmessage

end Finds

end Gutter.Presets
