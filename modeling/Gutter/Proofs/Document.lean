import Gutter.Document
import Gutter.Session.Query

/-! Documents under change: a document keeps its number, and one that has a name has one after
every change. Whatever is done with a document, its revision counts the edits and tells its
lines, and the edits splice its text. -/

namespace Gutter

namespace Text

theorem joinWith_ne_nil {mark : Char} {pieces : List (List Char)} (hsome : pieces ≠ [])
    (hall : ∀ piece ∈ pieces, piece ≠ []) : joinWith mark pieces ≠ [] := by
  cases pieces with
  | nil => exact (hsome rfl).elim
  | cons piece rest =>
    cases rest with
    | nil => exact hall piece List.mem_cons_self
    | cons next rest => simp [joinWith]

theorem joinWith_cons (mark : Char) (piece : List Char) (rest : List (List Char)) :
    joinWith mark (piece :: rest) = piece ++ rest.flatMap (mark :: ·) := by
  induction rest generalizing piece with
  | nil => simp [joinWith]
  | cons next rest ih =>
    rw [joinWith, ih, List.flatMap_cons, List.cons_append]
    exact List.cons_ne_nil next rest

/-- Pieces that follow others each come with a mark in front of them. -/
theorem joinWith_append {mark : Char} {pieces : List (List Char)} (hsome : pieces ≠ [])
    (after : List (List Char)) :
    joinWith mark (pieces ++ after) = joinWith mark pieces ++ after.flatMap (mark :: ·) := by
  obtain ⟨piece, rest, rfl⟩ := List.exists_cons_of_ne_nil hsome
  rw [List.cons_append, joinWith_cons, joinWith_cons, List.flatMap_append, List.append_assoc]

/-- Pieces that others follow each come with a mark behind them. -/
theorem joinWith_prepend {mark : Char} {pieces : List (List Char)} (hsome : pieces ≠ [])
    (before : List (List Char)) :
    joinWith mark (before ++ pieces) = before.flatMap (· ++ [mark]) ++ joinWith mark pieces := by
  induction before with
  | nil => rfl
  | cons piece before ih =>
    obtain ⟨next, rest, hmore⟩ : ∃ next rest, before ++ pieces = next :: rest :=
      List.exists_cons_of_ne_nil (List.append_ne_nil_of_right_ne_nil before hsome)
    rw [List.cons_append, hmore, joinWith, ← hmore, ih]
    · simp
    · exact List.cons_ne_nil next rest

end Text

namespace Path

/-- No path has an empty normal form. -/
theorem text_ofText_ne_nil (text : List Char) : (ofText text).text ≠ [] := by
  unfold Path.text
  split
  · exact List.cons_ne_nil _ _
  next h =>
    intro hnil
    obtain ⟨hslashes, hparts⟩ := List.append_eq_nil_iff.mp hnil
    have hzero : (ofText text).slashes = 0 := by simpa using hslashes
    refine Text.joinWith_ne_nil (fun hnone => h ?_) (fun part hm => ?_) hparts
    · rw [hnone, hzero]
      rfl
    · have hpart := (List.mem_filter.mp hm).2
      rintro rfl
      cases hpart

theorem normal_ne_empty (text : String) : normal text ≠ "" := by
  intro h
  have hlist := congrArg String.toList h
  rw [normal, String.toList_ofList] at hlist
  exact text_ofText_ne_nil _ hlist

end Path

namespace Document

/-- The document after changes, one after another. Those that are not possible change nothing. -/
def after (document : Document) (changes : List Change) : Document :=
  changes.foldl (fun document change => (document.change? change).getD document) document

/-- The name that a change gives a document. -/
def Change.name? : Change → Option String
  | .rename path => some (Path.normal path)
  | _ => none

/-- The name that the last of the changes gives that gives any. -/
def nameGiven? (changes : List Change) : Option String := (changes.filterMap Change.name?).getLast?

variable {document after : Document} {change : Change}

theorem id_of_change? (h : document.change? change = some after) : after.id = document.id := by
  cases change with
  | replaceLine line text =>
    simp only [change?, replaceLine?] at h
    split at h
    · cases h
      rfl
    · cases h
  | _ =>
    cases h
    rfl

theorem named_of_change? (h : document.change? change = some after)
    (hnamed : Session.isNamed document = true) : Session.isNamed after = true := by
  cases change with
  | replaceLine line text =>
    simp only [change?, replaceLine?] at h
    split at h
    · cases h
      exact hnamed
    · cases h
  | rename path =>
    cases h
    simp [Session.isNamed, Path.normal_ne_empty]
  | _ =>
    cases h
    exact hnamed

theorem id_changed (document : Document) (change : Change) :
    ((document.change? change).getD document).id = document.id := by
  cases h : document.change? change with
  | none => rfl
  | some after => exact id_of_change? h

theorem named_changed (change : Change) (hnamed : Session.isNamed document = true) :
    Session.isNamed ((document.change? change).getD document) = true := by
  cases h : document.change? change with
  | none => exact hnamed
  | some after => exact named_of_change? h hnamed

theorem after_append (document : Document) (first second : List Change) :
    document.after (first ++ second) = (document.after first).after second := List.foldl_append

theorem nameGiven?_cons_or (change : Change) (changes : List Change) (filename : Option String) :
    (nameGiven? (change :: changes)).or filename =
      (nameGiven? changes).or (change.name?.or filename) := by
  unfold nameGiven?
  cases hname : change.name? with
  | none => simp [hname]
  | some name =>
    rw [List.filterMap_cons_some hname, List.getLast?_cons]
    cases (changes.filterMap Change.name?).getLast? <;> rfl

/-- An edit counts; a change that does not count changes the name at most. -/
theorem changed_cases (document : Document) (change : Change) :
    document.revision < ((document.change? change).getD document).revision ∨
      (document.change? change).getD document =
        { document with filename := change.name?.or document.filename } := by
  cases change with
  | setText text => exact .inl (Nat.lt_succ_self _)
  | insert line col text => exact .inl (Nat.lt_succ_self _)
  | replaceLine line text =>
    simp only [change?, replaceLine?]
    split
    · exact .inl (Nat.lt_succ_self _)
    · exact .inr rfl
  | rename path => exact .inr rfl

theorem after_cases (document : Document) (changes : List Change) :
    document.revision < (document.after changes).revision ∨
      document.after changes =
        { document with filename := (nameGiven? changes).or document.filename } := by
  induction changes generalizing document with
  | nil => exact .inr rfl
  | cons change changes ih =>
    have hafter : document.after (change :: changes) =
        ((document.change? change).getD document).after changes := rfl
    rw [hafter, nameGiven?_cons_or]
    have hrest := ih ((document.change? change).getD document)
    obtain hfirst | hfirst := changed_cases document change
    · obtain hlater | hlater := hrest
      · exact .inl (Nat.lt_trans hfirst hlater)
      · exact .inl (Nat.lt_of_lt_of_eq hfirst (by rw [hlater]))
    · rw [hfirst] at hrest ⊢
      exact hrest

theorem revision_le_after (document : Document) (changes : List Change) :
    document.revision ≤ (document.after changes).revision := by
  obtain hlt | heq := document.after_cases changes
  · exact Nat.le_of_lt hlt
  · exact Nat.le_of_eq (by rw [heq])

/-- A document that kept its revision has its old text still. -/
theorem after_eq (document : Document) {changes : List Change}
    (h : (document.after changes).revision = document.revision) : document.after changes =
      { document with filename := (nameGiven? changes).or document.filename } :=
  (document.after_cases changes).resolve_left (by omega)

/-! ### Actions -/

/-- What is done with a document: an edit, a save in some files, or a read. -/
inductive Action
  | setText (text : List Char)
  | insert (line col : Int) (text : List Char)
  | replaceLine (line : Int) (text : List Char)
  | save (files : Files) (path : Option String)
  | line (number : Int)
  | text

def Action.isEdit : Action → Bool
  | .setText _ => true
  | .insert .. => true
  | .replaceLine .. => true
  | _ => false

/-- Why an action is refused. -/
inductive Refusal
  | outOfRange (line : Int)
  | unsaved (e : SaveError)

/-- The document after an action, and why the action is refused if it is. -/
def perform (document : Document) : Action → Document × Option Refusal
  | .setText text => (document.setText text, none)
  | .insert line col text => (document.insert line col text, none)
  | .replaceLine line text =>
    match document.replaceLine? line text with
    | some after => (after, none)
    | none => (document, some (.outOfRange line))
  | .save files path =>
    match document.save files path with
    | .ok (_, after) => (after, none)
    | .error e => (document, some (.unsaved e))
  | .line _ => (document, none)
  | .text => (document, none)

/-- The document after actions, one after another. -/
def through (document : Document) (actions : List Action) : Document :=
  actions.foldl (fun document action => (document.perform action).1) document

/-- An edit that is not refused counts. -/
def edits (document : Document) (action : Action) : Nat :=
  if action.isEdit && (document.perform action).2.isNone then 1 else 0

/-- How many of the actions are edits that are not refused. -/
def editsThrough (document : Document) : List Action → Nat
  | [] => 0
  | action :: actions =>
    document.edits action + (document.perform action).1.editsThrough actions

/-- There are lines, none of them has a newline, and they are those of the text. -/
structure IsLined (document : Document) : Prop where
  nonempty : document.lines ≠ []
  noNewline : ∀ line ∈ document.lines, '\n' ∉ line
  split : Text.splitOn '\n' document.text = document.lines

theorem isLined_of_lines (hne : document.lines ≠ [])
    (hlines : ∀ line ∈ document.lines, '\n' ∉ line) : document.IsLined :=
  ⟨hne, hlines, Text.splitOn_joinWith hne hlines⟩

theorem isLined_ofText (id : Nat) (text : List Char) (filename : Option String) :
    (ofText id text filename).IsLined :=
  isLined_of_lines (Text.splitOn_ne_nil _ text) fun _ => Text.not_mem_of_mem_splitOn

theorem IsLined.splice (h : document.IsLined) (index : Nat) (text : List Char) :
    (document.edited (splice document.lines index text)).IsLined := by
  refine isLined_of_lines (fun hnil => ?_) fun line hm => ?_
  · exact Text.splitOn_ne_nil '\n' text
      (List.append_eq_nil_iff.mp (List.append_eq_nil_iff.mp hnil).1).2
  · obtain hm | hm := List.mem_append.mp hm
    · obtain hm | hm := List.mem_append.mp hm
      · exact h.noNewline line (List.mem_of_mem_take hm)
      · exact Text.not_mem_of_mem_splitOn hm
    · exact h.noNewline line (List.mem_of_mem_drop hm)

theorem replaceLine?_eq_some {line : Int} {text : List Char}
    (h : document.replaceLine? line text = some after) :
    after = document.edited (splice document.lines (line - 1).toNat text) := by
  unfold replaceLine? at h
  split at h
  · exact (Option.some.inj h).symm
  · cases h

theorem save_eq_ok {files kept : Files} {path : Option String}
    (h : document.save files path = .ok (kept, after)) : ∃ target,
      path.or document.filename = some target ∧
        files.write (Path.normal target) (Text.Utf8.encode document.text) = .ok kept ∧
        after = { document with filename := some (Path.normal target) } := by
  unfold save at h
  split at h
  · cases h
  next target htarget =>
    dsimp only at h
    split at h
    · cases h
    next hwrite =>
      cases h
      exact ⟨target, htarget, hwrite, rfl⟩

/-- What an action makes of a document: an edit that counts, the same document under the name that
it was saved by, or the same document, if the action is a read or is refused. -/
inductive Performed (document : Document) : Action → Document × Option Refusal → Prop
  | edited {action : Action} {lines : List (List Char)} (hedit : action.isEdit = true)
    (hlined : document.IsLined → (document.edited lines).IsLined) :
    Performed document action (document.edited lines, none)
  | saved {files : Files} {path : Option String} {target : String}
    (htarget : path.or document.filename = some target) :
    Performed document (.save files path)
      ({ document with filename := some (Path.normal target) }, none)
  | read {action : Action} (hread : ∀ files path, action ≠ .save files path)
    (hedit : action.isEdit = false) : Performed document action (document, none)
  | refused (action : Action) (refusal : Refusal) :
    Performed document action (document, some refusal)

theorem performed (document : Document) (action : Action) :
    Performed document action (document.perform action) := by
  cases action with
  | setText text =>
    refine .edited rfl fun _ => isLined_of_lines (Text.splitOn_ne_nil _ text) fun _ => ?_
    exact Text.not_mem_of_mem_splitOn
  | insert line col text => exact .edited rfl fun h => h.splice _ _
  | replaceLine line text =>
    dsimp only [perform]
    split
    next after h =>
      obtain rfl := replaceLine?_eq_some h
      exact .edited rfl fun h => h.splice _ _
    · exact .refused _ _
  | save files path =>
    dsimp only [perform]
    split
    next kept after h =>
      obtain ⟨target, htarget, -, rfl⟩ := save_eq_ok h
      exact .saved htarget
    · exact .refused _ _
  | line number => exact .read (fun _ _ h => by cases h) rfl
  | text => exact .read (fun _ _ h => by cases h) rfl

theorem perform_refused {action : Action} {refusal : Refusal}
    (h : (document.perform action).2 = some refusal) : (document.perform action).1 = document := by
  have hperformed := document.performed action
  generalize document.perform action = result at h hperformed ⊢
  cases hperformed with
  | refused => rfl
  | _ => cases h

theorem perform_saved {files : Files} {path : Option String}
    (h : (document.perform (.save files path)).2 = none) : ∃ target,
      path.or document.filename = some target ∧ (document.perform (.save files path)).1 =
        { document with filename := some (Path.normal target) } := by
  have hperformed := document.performed (.save files path)
  generalize document.perform (.save files path) = result at h hperformed ⊢
  cases hperformed with
  | edited hedit => cases hedit
  | saved htarget => exact ⟨_, htarget, rfl⟩
  | read hread => exact (hread files path rfl).elim
  | refused => cases h

theorem revision_perform (document : Document) (action : Action) :
    (document.perform action).1.revision = document.revision + document.edits action := by
  have hperformed := document.performed action
  unfold edits
  generalize document.perform action = result at hperformed ⊢
  cases hperformed with
  | edited hedit => simp [hedit, edited]
  | saved => rfl
  | read _ hedit => simp [hedit]
  | refused => simp

theorem IsLined.perform (h : document.IsLined) (action : Action) :
    (document.perform action).1.IsLined := by
  have hperformed := document.performed action
  generalize document.perform action = result at hperformed ⊢
  cases hperformed with
  | edited _ hlined => exact hlined h
  | saved => exact ⟨h.nonempty, h.noNewline, h.split⟩
  | _ => exact h

/-- The lines change only where the revision grows. -/
theorem perform_lines (document : Document) (action : Action) :
    document.revision < (document.perform action).1.revision ∨
      (document.perform action).1.lines = document.lines := by
  have hperformed := document.performed action
  generalize document.perform action = result at hperformed ⊢
  cases hperformed with
  | edited => exact .inl (Nat.lt_succ_self _)
  | _ => exact .inr rfl

theorem through_cons (document : Document) (action : Action) (actions : List Action) :
    document.through (action :: actions) = (document.perform action).1.through actions := rfl

theorem revision_through (document : Document) (actions : List Action) :
    (document.through actions).revision = document.revision + document.editsThrough actions := by
  induction actions generalizing document with
  | nil => rfl
  | cons action actions ih =>
    rw [through_cons, ih, revision_perform, editsThrough, Nat.add_assoc]

theorem IsLined.through (h : document.IsLined) (actions : List Action) :
    (document.through actions).IsLined := by
  induction actions generalizing document with
  | nil => exact h
  | cons action actions ih => exact ih (h.perform action)

theorem through_lines (document : Document) (actions : List Action) :
    document.revision < (document.through actions).revision ∨
      (document.through actions).lines = document.lines := by
  induction actions generalizing document with
  | nil => exact .inr rfl
  | cons action actions ih =>
    rw [through_cons]
    have hfirst := document.revision_perform action
    have hrest := (document.perform action).1.revision_through actions
    obtain hlater | hlater := ih (document.perform action).1
    · exact .inl (by omega)
    · rw [hlater]
      exact (document.perform_lines action).imp_left fun hlt => by omega

/-- The revision counts the edits of a document and tells its lines, whatever is done with it. What
is refused leaves a document as it is, and a save changes its name at most. -/
theorem revision_tells_lines (id : Nat) (text : List Char) (filename : Option String)
    (actions : List Action) :
    let document := (ofText id text filename).through actions
    document.revision = (ofText id text filename).editsThrough actions ∧
      document.IsLined ∧
      (∀ action refusal, (document.perform action).2 = some refusal →
        (document.perform action).1 = document) ∧
      (∀ files path, (document.perform (.save files path)).2 = none → ∃ target,
        path.or document.filename = some target ∧ (document.perform (.save files path)).1 =
          { document with filename := some (Path.normal target) }) ∧
      ∀ more, (document.through more).revision = document.revision →
        (document.through more).lines = document.lines := by
  intro document
  refine ⟨?_, (isLined_ofText id text filename).through actions, fun _ _ => perform_refused,
    fun _ _ => perform_saved, fun more h => ?_⟩
  · rw [revision_through]
    exact Nat.zero_add _
  · exact (document.through_lines more).resolve_left (by omega)

/-! ### The text -/

/-- How many characters of a text stand in front of a line: those of the lines before it, and a
newline after each of these. -/
def charsBefore (lines : List (List Char)) (index : Nat) : Nat :=
  (lines.take index).foldr (fun line n => line.length + n) 0 + index

theorem length_flatMap_newline (lines : List (List Char)) :
    (lines.flatMap (· ++ ['\n'])).length =
      lines.foldr (fun line n => line.length + n) 0 + lines.length := by
  induction lines with
  | nil => rfl
  | cons line lines ih =>
    simp only [List.flatMap_cons, List.length_append, List.length_cons, List.length_nil, ih,
      List.foldr_cons]
    omega

/-- A line stands in the text behind the characters before it, and what is spliced in comes to
stand in its place. -/
theorem text_splice {index : Nat} {current : List Char}
    (h : document.lines[index]? = some current) : ∃ front back,
      front.length = charsBefore document.lines index ∧
      document.text = front ++ (current ++ back) ∧
      ∀ added, (document.edited (splice document.lines index added)).text =
        front ++ (added ++ back) := by
  obtain ⟨hindex, hcurrent⟩ := List.getElem?_eq_some_iff.mp h
  let before := document.lines.take index
  let after := document.lines.drop (index + 1)
  have hlines : document.lines = before ++ ([current] ++ after) := by
    simp [before, after, ← hcurrent]
  refine ⟨before.flatMap (· ++ ['\n']), after.flatMap ('\n' :: ·), ?_, ?_, fun added => ?_⟩
  · rw [length_flatMap_newline, charsBefore, List.length_take, Nat.min_eq_left (by omega)]
  · rw [text, hlines, Text.joinWith_prepend (by simp), Text.joinWith_append (by simp)]
    rfl
  · have hsome : Text.splitOn '\n' added ≠ [] := Text.splitOn_ne_nil '\n' added
    have hjoined : Text.joinWith '\n' (Text.splitOn '\n' added) = added :=
      Text.joinWith_splitOn '\n' added
    change Text.joinWith '\n' (before ++ Text.splitOn '\n' added ++ after) = _
    rw [List.append_assoc, Text.joinWith_prepend (by simp [hsome]), Text.joinWith_append hsome,
      hjoined]

theorem clamp_bounds (n : Int) {last : Nat} (h : 0 < last) :
    1 ≤ clamp n last ∧ clamp n last ≤ last := by
  unfold clamp
  omega

theorem insert_eq {line : Int} {current : List Char}
    (h : document.lines[clamp line document.lines.length - 1]? = some current) (col : Int)
    (added : List Char) :
    let offset := clamp col (current.length + 1) - 1
    document.insert line col added = document.edited (splice document.lines
      (clamp line document.lines.length - 1)
      (current.take offset ++ added ++ current.drop offset)) := by
  simp only [insert, h, Option.getD_some]

/-- An insertion puts its text in front of the character at the nearest place. -/
theorem IsLined.text_insert (h : document.IsLined) (line col : Int) (added : List Char) :
    ∃ current,
      let number := clamp line document.lines.length
      let place := charsBefore document.lines (number - 1) + (clamp col (current.length + 1) - 1)
      document.lines[number - 1]? = some current ∧
      (document.insert line col added).text =
        document.text.take place ++ added ++ document.text.drop place := by
  obtain ⟨hfirst, hlast⟩ := clamp_bounds line (List.length_pos_iff.mpr h.nonempty)
  obtain ⟨current, hcurrent⟩ :
      ∃ current, document.lines[clamp line document.lines.length - 1]? = some current :=
    ⟨_, List.getElem?_eq_getElem (by omega)⟩
  obtain ⟨front, back, hfront, htext, hafter⟩ := text_splice hcurrent
  have hoffset : clamp col (current.length + 1) - 1 ≤ current.length :=
    Nat.sub_le_of_le_add (clamp_bounds col (Nat.succ_pos current.length)).2
  refine ⟨current, hcurrent, ?_⟩
  rw [insert_eq hcurrent, hafter, htext, ← hfront, List.take_length_add_append,
    List.drop_length_add_append, List.take_append_of_le_length hoffset,
    List.drop_append_of_le_length hoffset]
  simp only [List.append_assoc]

/-- A text comes to stand in the place of the line that it replaces. -/
theorem text_replaceLine {line : Int} (hone : 1 ≤ line) (hle : line ≤ document.lines.length)
    (added : List Char) : ∃ current front back,
      document.lines[(line - 1).toNat]? = some current ∧
      document.text = front ++ current ++ back ∧
      front.length = charsBefore document.lines (line - 1).toNat ∧
      (document.edited (splice document.lines (line - 1).toNat added)).text =
        front ++ added ++ back := by
  obtain ⟨current, hcurrent⟩ : ∃ current, document.lines[(line - 1).toNat]? = some current :=
    ⟨_, List.getElem?_eq_getElem (by omega)⟩
  obtain ⟨front, back, hfront, htext, hafter⟩ := text_splice hcurrent
  refine ⟨current, front, back, hcurrent, ?_, hfront, ?_⟩
  · rw [htext, List.append_assoc]
  · rw [hafter, List.append_assoc]

/-- Edits splice the text. An insertion puts its text in front of the character at the nearest place
to the one that it names, and the replacement of a line puts it in the place of the characters of
that line; the lines are those of the text that this makes. -/
theorem edits_splice_text (id : Nat) (text : List Char) (filename : Option String)
    (actions : List Action) :
    let document := (ofText id text filename).through actions
    (∀ line col added, ∃ current,
      let number := clamp line document.lines.length
      let place := charsBefore document.lines (number - 1) + (clamp col (current.length + 1) - 1)
      let after := document.insert line col added
      document.lines[number - 1]? = some current ∧
      after.text = document.text.take place ++ added ++ document.text.drop place ∧
      after.lines = Text.splitOn '\n' after.text) ∧
    ∀ (line : Int) (added : List Char), 1 ≤ line → line ≤ document.lines.length →
      ∃ current front back after, document.lines[(line - 1).toNat]? = some current ∧
        document.text = front ++ current ++ back ∧
        front.length = charsBefore document.lines (line - 1).toNat ∧
        document.replaceLine? line added = some after ∧
        after.text = front ++ added ++ back ∧
        after.lines = Text.splitOn '\n' after.text := by
  intro document
  have hlined : document.IsLined := (isLined_ofText id text filename).through actions
  constructor
  · intro line col added
    obtain ⟨current, hcurrent, htext⟩ := hlined.text_insert line col added
    exact ⟨current, hcurrent, htext, (hlined.splice _ _).split.symm⟩
  · intro line added hone hle
    obtain ⟨current, front, back, hcurrent, htext, hfront, hafter⟩ :=
      text_replaceLine hone hle added
    have hreplaced : document.replaceLine? line added =
        some (document.edited (splice document.lines (line - 1).toNat added)) :=
      if_pos ⟨hone, hle⟩
    exact ⟨current, front, back, _, hcurrent, htext, hfront, hreplaced, hafter,
      (hlined.splice _ _).split.symm⟩

/-- A place behind the end stands for the end. -/
example : ((ofText 0 ['a', '\n', 'b'] none).insert 9 9 ['c', '\n']).text =
    ['a', '\n', 'b', 'c', '\n'] := by decide

end Document

end Gutter
