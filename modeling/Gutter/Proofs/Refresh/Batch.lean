import Gutter.Proofs.Pattern.Takes
import Gutter.Proofs.Refresh.Completion
import Gutter.Proofs.Validation.Stopping
import Mathlib

/-! One linter among others: when a refresh is complete with the warnings of every linter, and how
one of them can spoil it for all. -/

namespace Gutter.Refresh

open Pattern (Cursor Trace CharTest succeed)

/-! ### A numeral that is too long -/

def digit : CharTest :=
  .set false false { fold := .exact, ascii := false } [.category false .digit]

def digits : Pattern.Node := .many false none .greedy 1 none digit

def colon : Pattern.Node := .char (.code .exact false 58)

/-- The part of `placed` after the line. -/
def behindLine : Pattern.Node :=
  .seq colon (.seq (.group 2 digits) (.seq colon
    (.group 3 (.many false none .greedy 0 none .notNewline))))

/-- A line, a column and a message with colons between them. -/
def placed : Pattern := ⟨.seq (.group 1 digits) behindLine, 4, false, 3, []⟩

/-- A tool that is for Python files and says where its warnings stand. -/
def teller (name : String) : Linter :=
  ⟨⟨name, name, "(\\d+):(\\d+):(.*)", ["py"], false⟩, placed, ⟨1, some 2, 3⟩,
    [⟨.seq (.char (.code .exact false 112)) (.char (.code .exact false 121)), 2, true, 0, []⟩],
    .words [name.toList]⟩

/-- What follows the line of a warning. -/
def lost : List Char := [':', '1', ':', 'l', 'o', 's', 't']

theorem digit_holds (c : Char) : digit.holds c = Text.isDecimal c := by
  simp [digit, CharTest.holds, Pattern.Member.holds, Pattern.Category.holds]

theorem search_lost (before : List Char) (index : Nat) (opened closed reached : Cursor) :
    ∃ marks stop, behindLine.search ⟨before, lost, index⟩ ⟨[some opened, some closed], reached⟩
      succeed = ⟨true, ⟨some opened :: some closed :: marks, stop⟩⟩ :=
  ⟨_, _, by cbv⟩

section Numeral

variable {numeral : List Char} (hd : ∀ c ∈ numeral, Text.isDecimal c = true)
  (hne : numeral ≠ [])

include hd hne

theorem search_numeral : ∃ marks stop,
    placed.node.search (Pattern.start (numeral ++ lost))
        ⟨[], Pattern.start (numeral ++ lost)⟩ succeed =
      ⟨true, ⟨some (Pattern.start (numeral ++ lost)) ::
        some ((Pattern.start (numeral ++ lost)).pastAll numeral lost) :: marks, stop⟩⟩ := by
  let first := Pattern.start (numeral ++ lost)
  let last := first.pastAll numeral lost
  obtain ⟨marks, stop, hs⟩ :=
    search_lost (numeral.reverse ++ []) (0 + numeral.length) first last last
  have hlast : (⟨numeral.reverse ++ [], lost, 0 + numeral.length⟩ : Cursor) = last := rfl
  rw [hlast] at hs
  refine ⟨marks, stop, ?_⟩
  have hlength : 1 ≤ numeral.length := List.length_pos_iff.mpr hne
  have hcolon : ∀ c ∈ lost.head?, digit.holds c = false := by
    intro c hc
    obtain rfl : ':' = c := by simpa [lost] using hc
    cbv
  rw [placed, Pattern.Node.search, Pattern.Node.search, digits,
    Pattern.search_greedy rfl (fun c hc => (digit_holds c).trans (hd c hc)) hcolon hlength]
  · exact hs
  · rfl
  · change (behindLine.search last ⟨[some first, some last], last⟩ succeed).found = true
    rw [hs]

/-- The numeral in front of a warning is its line, however long it is. -/
theorem exists_match_numeral :
    ∃ found ∈ placed.findAll (numeral ++ lost), found.group? 1 = some (0, numeral.length) := by
  obtain ⟨marks, stop, hs⟩ := search_numeral hd hne
  have hroom : (Pattern.start (numeral ++ lost)).hasRoom placed.least = true :=
    Pattern.hasRoom_of_length (by simp [Pattern.start, placed, lost])
  have hat : ∃ found, placed.matchAt false (Pattern.start (numeral ++ lost)) = some (found, stop) ∧
      found.group? 1 = some (0, numeral.length) := by
    unfold Pattern.matchAt
    simp only [Bool.false_and, Bool.false_eq_true, if_false, hs, if_true]
    refine ⟨_, rfl, ?_⟩
    simp [Pattern.Match.group?, Pattern.Match.ofTrace, placed, Trace.bounds?, Trace.openMark,
      Trace.closeMark, Cursor.pastAll, Pattern.start]
  obtain ⟨found, hat, hgroup⟩ := hat
  refine ⟨found, ?_, hgroup⟩
  unfold Pattern.findAll
  rw [Pattern.allFrom, Pattern.firstFrom]
  simp only [hroom, Bool.not_true, Bool.false_eq_true, if_false, Bool.false_and, hat,
    Option.some_or]
  exact List.mem_cons_self

end Numeral

/-- What the tool `loud` prints: a line whose number has one digit more than are converted. -/
def loudText : List Char := List.replicate (Text.digitLimit + 1) '1' ++ lost

/-- Two tools run, `loud` and then `plain`. -/
def tellers : Registry := ⟨[teller "loud", teller "plain"]⟩

/-- What each run comes to if the first prints `text`. -/
def told (text : List Char) : Forecast
  | 0 => .ended 1 (String.ofList text) none
  | _ => .ended 1 "3:1:unused" none

/-- Nobody has a home, and relative paths start at the root. -/
def bareBase : Path.Base := ⟨.empty, [], []⟩

def pythonFile : Document := ⟨0, some "/w/a.py", [], 0⟩

theorem told_calm (text : List Char) (place : Nat) (message : String) :
    told text place ≠ .crashed message := by
  cases place <;> simp [told]

theorem path_pythonFile : Path.ofName bareBase pythonFile.filename = .ok "/w/a.py" := by cbv

theorem matching_tellers : tellers.matching pythonFile.filename = tellers.linters := by cbv

theorem told_tellers : ∃ linters, tellers.matching? pythonFile.filename = .ok linters :=
  ⟨tellers.linters, by cbv⟩

theorem one_isDecimal : Text.isDecimal '1' = true := by cbv

theorem one_not_blank : Text.isBlank '1' = false := by cbv

theorem overlong_ones : Text.Overlong (List.replicate (Text.digitLimit + 1) '1') := by
  have htrim : Text.trimWhere Text.isBlank (List.replicate (Text.digitLimit + 1) '1') =
      List.replicate (Text.digitLimit + 1) '1' := by
    simp [Text.trimWhere, Text.trimEndWhere, one_not_blank]
  refine ⟨?_, ?_⟩
  · simp [htrim, Text.isNumeral, one_isDecimal]
  · simp [htrim]

theorem told_text {text : List Char} (h : text.getLast? ≠ some '\n') :
    (told text 0).text = text := by
  simp [told, Outcome.text, Outcome.output, Outcome.trimNewline, h]

/-- The first match in what `loud` prints cannot be read. -/
theorem not_legible_loud : ¬AllLegible (told loudText) 0 tellers.linters := by
  intro hall
  have hd : ∀ c ∈ List.replicate (Text.digitLimit + 1) '1', Text.isDecimal c = true := by
    intro c hc
    rw [List.eq_of_mem_replicate hc, one_isDecimal]
  obtain ⟨found, hm, hgroup⟩ := exists_match_numeral hd (by simp)
  have htext : (told loudText 0).text = loudText := told_text (by simp [loudText, lost])
  have hlegible := hall 0 (teller "loud") rfl found (by rw [Nat.add_zero, htext]; exact hm)
  rw [Nat.add_zero, htext] at hlegible
  refine hlegible.line (List.replicate (Text.digitLimit + 1) '1') ?_ overlong_ones
  simp [Linter.captures, Linter.groupText?, teller, hgroup, Pattern.slice, loudText]

theorem checked_placed : Linter.checkWarningPattern (.text "(\\d+):(\\d+):(.*)") =
    .ok ("(\\d+):(\\d+):(.*)", placed, ⟨1, some 2, 3⟩) := by cbv

theorem compiled_files : Linter.compileFiles ["py"] =
    .ok [⟨.seq (.char (.code .exact false 112)) (.char (.code .exact false 121)), 2, true, 0,
      []⟩] := by cbv

/-- A tool of this kind is accepted with any command that can be split into words. -/
theorem accepted_teller (name : String) {command : String} {words : List (List Char)}
    (h : Shell.words command.toList = .ok words) :
    Linter.ofValue { teller name with command, template := .words words }.value =
      .accepted { teller name with command, template := .words words } := by
  have htemplate : Linter.template? false command = .ok (.words words) := by
    rw [Linter.template?, h]
    rfl
  exact Linter.ofValue_value_eq_accepted.mpr
    ⟨_, _, _, checked_placed, compiled_files, htemplate, rfl⟩

theorem accepted_tellers :
    ∀ linter ∈ tellers.linters, Linter.ofValue linter.value = .accepted linter := by
  intro linter hl
  simp only [tellers, List.mem_cons, List.not_mem_nil, or_false] at hl
  obtain rfl | rfl := hl
  · exact accepted_teller "loud" (by cbv)
  · exact accepted_teller "plain" (by cbv)

theorem reports_plain (text : List Char) : reports (told text) (0 + 1) [teller "plain"] =
    [⟨3, 1, "unused", some "plain"⟩] := by cbv

/-! ### Whether a refresh is spoiled -/

/-- The document has a path, it can be told which linters are for it, and no match in what they
printed spoils the refresh. -/
def Unspoiled (base : Path.Base) (registry : Registry) (document : Document)
    (forecast : Forecast) : Prop :=
  (∃ path, Path.ofName base document.filename = .ok path) ∧
    (∃ linters, registry.matching? document.filename = .ok linters) ∧
    AllLegible forecast 0 (registry.matching document.filename)

/-- A refresh is completed with the warnings of all well-formed matches exactly if nothing spoils
it, in whatever order its runs end; otherwise it fails. -/
theorem completes_iff_unspoiled (settings : Settings) (base : Path.Base) (registry : Registry)
    (document : Document) (forecast : Forecast) (hsize : 0 < settings.batchSize)
    (calm : ∀ place message, forecast place ≠ .crashed message) :
    (ComesTo (GoesOn settings forecast)
        (Stage.HasReports (reports forecast 0 (registry.matching document.filename)))
        (start settings base registry document).stage ↔
      Unspoiled base registry document forecast) ∧
    (¬Unspoiled base registry document forecast →
      ComesTo (GoesOn settings forecast) (fun last => ∃ e, last = .failed e)
        (start settings base registry document).stage) := by
  refine ⟨⟨fun hcomes => ?_, fun h => completes_of_legible hsize calm h.1 h.2.1 h.2.2⟩,
    fails_of_not_legible hsize calm⟩
  by_contra hspoiled
  exact not_completes_of_fails hcomes (fails_of_not_legible hsize calm hspoiled)

/-- Two outputs with one warning each are both reported. -/
theorem tellers_complete :
    0 < ({} : Settings).batchSize ∧
    (∀ place message, told "2:5:odd".toList place ≠ .crashed message) ∧
    ComesTo (GoesOn {} (told "2:5:odd".toList))
      (Stage.HasReports [⟨2, 5, "odd", some "loud"⟩, ⟨3, 1, "unused", some "plain"⟩])
      (start {} bareBase tellers pythonFile).stage := by
  have hsize : 0 < ({} : Settings).batchSize := by decide
  have hreports : reports (told "2:5:odd".toList) 0 (tellers.matching pythonFile.filename) =
      [⟨2, 5, "odd", some "loud"⟩, ⟨3, 1, "unused", some "plain"⟩] := by cbv
  have hall : AllLegible (told "2:5:odd".toList) 0 (tellers.matching pythonFile.filename) := by
    rw [matching_tellers, tellers, allLegible_cons, allLegible_cons]
    refine ⟨(Linter.readings_none_iff _).mp (by cbv), (Linter.readings_none_iff _).mp (by cbv), ?_⟩
    intro index linter h
    simp at h
  refine ⟨hsize, told_calm _, ?_⟩
  rw [← hreports]
  exact (completes_iff_unspoiled {} bareBase tellers pythonFile _ hsize (told_calm _)).1.mpr
    ⟨⟨_, path_pythonFile⟩, told_tellers, hall⟩

/-- A numeral that one tool prints in front of a warning makes the warning of another tool
disappear. -/
theorem numeral_spoils_refresh :
    (∀ linter ∈ tellers.linters, Linter.ofValue linter.value = .accepted linter) ∧
    (∀ place message, told loudText place ≠ .crashed message) ∧
    ⟨3, 1, "unused", some "plain"⟩ ∈
      reports (told loudText) 0 (tellers.matching pythonFile.filename) ∧
    ComesTo (GoesOn {} (told loudText)) (fun last => ∃ e, last = .failed e)
      (start {} bareBase tellers pythonFile).stage ∧
    ¬ComesTo (GoesOn {} (told loudText))
      (Stage.HasReports (reports (told loudText) 0 (tellers.matching pythonFile.filename)))
      (start {} bareBase tellers pythonFile).stage := by
  have hfails : ComesTo (GoesOn {} (told loudText)) (fun last => ∃ e, last = .failed e)
      (start {} bareBase tellers pythonFile).stage :=
    fails_of_not_legible (by decide) (told_calm _)
      (fun h => not_legible_loud (matching_tellers ▸ h.2.2))
  refine ⟨accepted_tellers, told_calm _, ?_, hfails, fun h => not_completes_of_fails h hfails⟩
  rw [matching_tellers, tellers, reports]
  refine List.mem_append_right _ ?_
  rw [reports_plain]
  exact List.mem_singleton.mpr rfl

end Gutter.Refresh
