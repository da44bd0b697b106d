import Gutter.Linter.Reading
import Gutter.Proofs.Pattern.Finds
import Gutter.Proofs.Validation.Stopping
import Mathlib

/-! Linters that were accepted can be used: what a use asks for is what the check of the definition
made sure of. Groups that are asked for by name or number are there, and a command that is split
again has the same words. Only whether a file is one of a linter's cannot always be told: a file
pattern may be found in a way that is not sound. -/

namespace Gutter

namespace Pattern

/-! ### Groups -/

/-- The names of a pattern stand for its groups. -/
theorem inRange_of_compile {flags : Flags} {text : List Char} {pattern : Pattern}
    (h : compile flags text = .ok pattern) :
    ∀ entry ∈ pattern.names, 0 < entry.2 ∧ entry.2 ≤ pattern.groups := by
  unfold compile at h
  cases hwritten : Written.read flags text with
  | error e =>
    rw [hwritten] at h
    cases h
  | ok written =>
    rw [hwritten] at h
    cases hnode : sequenceNode written.groups.widths written.flags false none written.items with
    | error e =>
      simp only [bind, Except.bind, hnode] at h
      cases h
    | ok node =>
      simp only [bind, Except.bind, hnode] at h
      cases h
      exact written.groups.inRange

section Groups

variable {pattern : Pattern} {advance : Bool} {cursor next : Cursor} {found : Match}

theorem length_groups_matchAt (h : pattern.matchAt advance cursor = some (found, next)) :
    found.groups.length = pattern.groups := by
  unfold matchAt at h
  simp only at h
  split at h
  · cases h
    simp [Match.ofTrace]
  · cases h

theorem length_groups_firstFrom (h : pattern.firstFrom advance cursor = some (found, next)) :
    found.groups.length = pattern.groups := by
  obtain ⟨_, _, _, -, hmatch⟩ := matchAt_of_firstFrom h
  exact length_groups_matchAt hmatch

theorem InTurn.length_groups {hits : List Match} (h : pattern.InTurn cursor hits) :
    ∀ found ∈ hits, found.groups.length = pattern.groups := by
  induction h with
  | none => exact fun _ h => (List.not_mem_nil h).elim
  | next _ hmatch _ ih => exact List.forall_mem_cons.mpr ⟨length_groups_matchAt hmatch, ih⟩

/-- Every match has all groups of its pattern. -/
theorem length_groups_findAll {text : List Char} (h : found ∈ pattern.findAll text) :
    found.groups.length = pattern.groups :=
  (inTurn_findAll pattern text).length_groups found h

end Groups

/-! ### Patterns that occur -/

/-- The first of the patterns that is found in the text is found in a way that is not sound. -/
def Confounds (patterns : List Pattern) (text : List Char) : Prop :=
  ∃ before pattern after found, patterns = before ++ pattern :: after ∧
    (∀ other ∈ before, other.first? text = none) ∧
    pattern.first? text = some found ∧ found.isSound = false

section Occurs

variable {patterns : List Pattern} {text : List Char}

theorem not_confounds_nil : ¬Confounds [] text := by
  rintro ⟨before, _, _, _, hsplit, -⟩
  cases before <;> cases hsplit

theorem confounds_cons_of_none {pattern : Pattern} (h : pattern.first? text = none) :
    Confounds (pattern :: patterns) text ↔ Confounds patterns text := by
  constructor
  · rintro ⟨before, confused, after, found, hsplit, hbefore, hfound, hsound⟩
    cases before with
    | nil =>
      cases hsplit
      rw [h] at hfound
      cases hfound
    | cons first before =>
      cases hsplit
      exact ⟨before, confused, after, found, rfl, fun other hm =>
        hbefore other (List.mem_cons_of_mem _ hm), hfound, hsound⟩
  · rintro ⟨before, confused, after, found, rfl, hbefore, hfound, hsound⟩
    exact ⟨pattern :: before, confused, after, found, rfl,
      List.forall_mem_cons.mpr ⟨h, hbefore⟩, hfound, hsound⟩

theorem confounds_cons_of_some {pattern : Pattern} {found : Match}
    (h : pattern.first? text = some found) :
    Confounds (pattern :: patterns) text ↔ found.isSound = false := by
  constructor
  · rintro ⟨before, confused, after, other, hsplit, hbefore, hfound, hsound⟩
    cases before with
    | nil =>
      cases hsplit
      cases h.symm.trans hfound
      exact hsound
    | cons first before =>
      cases hsplit
      cases h.symm.trans (hbefore pattern List.mem_cons_self)
  · intro hsound
    exact ⟨[], pattern, patterns, found, rfl, fun _ hm => absurd hm List.not_mem_nil, h, hsound⟩

/-- It can be told whether one of the patterns occurs, unless the first that does confounds. -/
theorem anyOccurs_eq (text : List Char) (patterns : List Pattern) :
    (Confounds patterns text → anyOccurs text patterns = .error ⟨⟩) ∧
    (¬Confounds patterns text →
      anyOccurs text patterns = .ok (patterns.any fun pattern => (pattern.first? text).isSome)) := by
  induction patterns with
  | nil => exact ⟨fun h => (not_confounds_nil h).elim, fun _ => rfl⟩
  | cons pattern rest ih =>
    rw [anyOccurs]
    cases hfirst : pattern.first? text with
    | none =>
      rw [confounds_cons_of_none hfirst, List.any_cons, hfirst, Option.isSome_none, Bool.false_or]
      exact ih
    | some found =>
      rw [confounds_cons_of_some hfirst, List.any_cons, hfirst, Option.isSome_some, Bool.true_or]
      cases hsound : found.isSound <;> simp [hsound]

/-- Patterns without groups confound nowhere. -/
theorem not_confounds_of_no_groups (h : ∀ pattern ∈ patterns, pattern.groups = 0)
    (text : List Char) : ¬Confounds patterns text := by
  rintro ⟨before, pattern, after, found, rfl, -, hfound, hsound⟩
  obtain ⟨⟨_, next⟩, hfirst, rfl⟩ := Option.map_eq_some_iff.mp hfound
  have hgroups := length_groups_firstFrom hfirst
  rw [h pattern (by simp), List.length_eq_zero_iff] at hgroups
  simp [Match.isSound, hgroups] at hsound

end Occurs

end Pattern

namespace Linter

open Validation

/-! ### Captures -/

/-- A match has no group of this number, or a pattern none of this name. -/
structure NoSuchGroup

/-- The text of a group by its number, if the match has the group. -/
def groupNumbered (raw : List Char) (found : Pattern.Match) (index : Nat) :
    Except NoSuchGroup (Option (List Char)) :=
  if index ≤ found.groups.length then .ok (groupText? raw found index) else .error ⟨⟩

/-- The pattern has a group of this name. -/
def hasGroup (pattern : Pattern) (name : String) : Bool :=
  (pattern.names.lookup name.toList).isSome

/-- The text of a group by its name, if the pattern has the name. -/
def groupNamed (pattern : Pattern) (raw : List Char) (found : Pattern.Match) (name : String) :
    Except NoSuchGroup (Option (List Char)) :=
  match pattern.names.lookup name.toList with
  | some index => groupNumbered raw found index
  | none => .error ⟨⟩

/-- The parts of a warning: the groups of their names if `line` and `message` are names, and the
first three groups otherwise. -/
def askCaptures (pattern : Pattern) (raw : List Char) (found : Pattern.Match) :
    Except NoSuchGroup Captures :=
  if hasGroup pattern "line" && hasGroup pattern "message" then do
    let col ← if hasGroup pattern "col" then groupNamed pattern raw found "col" else pure none
    return ⟨← groupNamed pattern raw found "line", col, ← groupNamed pattern raw found "message"⟩
  else
    return ⟨← groupNumbered raw found 1, ← groupNumbered raw found 2, ← groupNumbered raw found 3⟩

/-- The pattern tells the parts of a warning apart, by names or by their order. -/
def TellsParts (pattern : Pattern) : Prop :=
  (hasGroup pattern "line" = true ∧ hasGroup pattern "message" = true) ∨ 3 ≤ pattern.groups

/-- Where the parts of a warning stand: in groups of their names, or in the first three. -/
theorem layout?_eq_some_iff {pattern : Pattern} {layout : Layout} :
    layout? pattern = some layout ↔
      (∃ line message, pattern.names.lookup "line".toList = some line ∧
        pattern.names.lookup "message".toList = some message ∧
        layout = ⟨line, pattern.names.lookup "col".toList, message⟩) ∨
      ((hasGroup pattern "line" && hasGroup pattern "message") = false ∧ 3 ≤ pattern.groups ∧
        layout = ⟨1, some 2, 3⟩) := by
  unfold layout? hasGroup
  cases pattern.names.lookup "line".toList <;> cases pattern.names.lookup "message".toList <;>
    simp [eq_comm]

theorem exists_layout_iff {pattern : Pattern} :
    (∃ layout, layout? pattern = some layout) ↔ TellsParts pattern := by
  unfold layout? TellsParts hasGroup
  cases pattern.names.lookup "line".toList <;> cases pattern.names.lookup "message".toList <;>
    simp

theorem mem_of_lookup {names : List (List Char × Nat)} {name : List Char} {index : Nat}
    (h : names.lookup name = some index) : (name, index) ∈ names := by
  obtain ⟨before, after, rfl, -⟩ := List.lookup_eq_some_iff.mp h
  exact List.mem_append_right _ List.mem_cons_self

section Captures

variable {pattern : Pattern} {raw : List Char} {found : Pattern.Match}

theorem groupNumbered_of_le {index : Nat} (h : index ≤ found.groups.length) :
    groupNumbered raw found index = .ok (groupText? raw found index) := if_pos h

/-- No group that a layout speaks of is missing in a match. -/
theorem askCaptures_eq {layout : Layout} (hlayout : layout? pattern = some layout)
    (hnames : ∀ entry ∈ pattern.names, entry.2 ≤ pattern.groups)
    (hgroups : found.groups.length = pattern.groups) :
    askCaptures pattern raw found = .ok
      ⟨groupText? raw found layout.line, layout.col.bind (groupText? raw found),
        groupText? raw found layout.message⟩ := by
  have hnamed {name : String} {index : Nat} (h : pattern.names.lookup name.toList = some index) :
      groupNamed pattern raw found name = .ok (groupText? raw found index) := by
    have hindex : index ≤ found.groups.length := hgroups ▸ hnames _ (mem_of_lookup h)
    rw [groupNamed, h]
    exact groupNumbered_of_le hindex
  unfold askCaptures
  obtain ⟨line, message, hline, hmessage, rfl⟩ | ⟨hunnamed, hthree, rfl⟩ :=
    layout?_eq_some_iff.mp hlayout
  · have hboth : (hasGroup pattern "line" && hasGroup pattern "message") = true := by
      rw [hasGroup, hasGroup, hline, hmessage]
      rfl
    rw [if_pos hboth, hnamed hline, hnamed hmessage, hasGroup]
    cases hcol : pattern.names.lookup "col".toList with
    | none => rfl
    | some col =>
      rw [hnamed hcol]
      rfl
  · rw [hunnamed, if_neg Bool.false_ne_true, groupNumbered_of_le (by omega),
      groupNumbered_of_le (by omega), groupNumbered_of_le (by omega)]
    rfl

end Captures

/-- The captures of a linter are what it asks a match for. -/
theorem Ready.askCaptures_eq {linter : Linter} (h : Ready linter) {raw : List Char}
    {found : Pattern.Match} (hfound : found ∈ linter.pattern.findAll raw) :
    askCaptures linter.pattern raw found = .ok (linter.captures raw found) :=
  Linter.askCaptures_eq h.layout
    (fun entry hm => (Pattern.inRange_of_compile h.pattern entry hm).2)
    (Pattern.length_groups_findAll hfound)

/-! ### Commands -/

/-- The command for a file, from a template that is split when it is needed. -/
def splitCommand (d : Definition) (placeholder path : String) :
    Except Shell.WordsError Command :=
  if d.shell then
    .ok (.shell (String.ofList (Text.replaceAll placeholder.toList (Shell.quoteWord path.toList)
      d.command.toList)))
  else
    (Shell.words d.command.toList).map fun words => .call (words.map fun word =>
      String.ofList (Text.replaceAll placeholder.toList path.toList word))

/-- The command can be split. -/
def Splits (d : Definition) : Prop := ∃ words, Shell.words d.command.toList = .ok words

theorem exists_template_iff {d : Definition} :
    (∃ template, template? d.shell d.command = .ok template) ↔ d.shell = true ∨ Splits d := by
  unfold template? Splits
  cases d.shell with
  | true => simp
  | false => cases Shell.words d.command.toList <;> simp [Except.map]

section Commands

variable {linter : Linter}

/-- The template of a linter is its command as it stands, or the words of it. -/
theorem Ready.template_cases (h : Ready linter) :
    (linter.shell = true ∧ linter.template = .shell linter.command.toList) ∨
    ∃ words, linter.shell = false ∧ Shell.words linter.command.toList = .ok words ∧
      linter.template = .words words := by
  have htemplate := h.template
  unfold template? at htemplate
  split at htemplate
  next hshell => exact .inl ⟨hshell, (Except.ok.inj htemplate).symm⟩
  next hshell =>
    cases hwords : Shell.words linter.command.toList with
    | error e =>
      rw [hwords] at htemplate
      cases htemplate
    | ok words =>
      rw [hwords] at htemplate
      exact .inr ⟨words, Bool.eq_false_iff.mpr hshell, rfl, (Except.ok.inj htemplate).symm⟩

/-- The command of a linter is that of its template, split again. -/
theorem Ready.splitCommand_eq (h : Ready linter) (placeholder path : String) :
    splitCommand linter.toDefinition placeholder path =
      .ok (linter.commandFor placeholder path) := by
  unfold splitCommand commandFor
  obtain ⟨hshell, htemplate⟩ | ⟨words, hshell, hwords, htemplate⟩ := h.template_cases
  · rw [hshell, htemplate, if_pos rfl]
  · rw [hshell, htemplate, hwords, if_neg Bool.false_ne_true]
    rfl

/-- A linter that is no command line has as many arguments as its command has words. -/
theorem Ready.length_args (h : Ready linter) (placeholder path : String)
    (hshell : linter.shell = false) :
    ∃ words args, Shell.words linter.command.toList = .ok words ∧
      linter.commandFor placeholder path = .call args ∧ args.length = words.length := by
  unfold commandFor
  obtain ⟨hline, -⟩ | ⟨words, -, hwords, htemplate⟩ := h.template_cases
  · rw [hshell] at hline
    cases hline
  · rw [htemplate]
    exact ⟨words, _, hwords, rfl, List.length_map _⟩

end Commands

theorem exists_compiledFiles_iff {texts : List String} :
    (∃ files, compileFiles texts = .ok files) ↔
      ∀ text ∈ texts, ∃ file, Pattern.compile .none text.toList = .ok file := by
  induction texts with
  | nil => exact iff_of_true ⟨[], rfl⟩ fun _ h => absurd h List.not_mem_nil
  | cons text rest ih =>
    rw [List.forall_mem_cons, ← ih, compileFiles]
    cases Pattern.compile .none text.toList with
    | error e =>
      refine iff_of_false ?_ ?_
      · rintro ⟨_, ⟨⟩⟩
      · rintro ⟨⟨_, ⟨⟩⟩, -⟩
    | ok file => cases compileFiles rest <;> simp [Except.map]

/-- If the fields have their types and the patterns can be read, a table is accepted if its pattern
tells the parts of a warning apart and its command can be split where it has to be. -/
theorem accepts_iff {entries : List (String × Value)} {d : Definition} {pattern : Pattern}
    (htyped : Typed entries d)
    (hpattern : Pattern.compile warningFlags d.warningPattern.toList = .ok pattern)
    (hfiles : ∀ text ∈ d.filePatterns, ∃ file, Pattern.compile .none text.toList = .ok file) :
    (∃ linter, ofValue (.table entries) = .accepted linter) ↔
      TellsParts pattern ∧ (d.shell = true ∨ Splits d) := by
  rw [← exists_layout_iff, ← exists_template_iff]
  constructor
  · rintro ⟨linter, h⟩
    obtain ⟨htyped', hready⟩ := ofValue_table_eq_accepted.mp h
    obtain rfl := htyped.unique htyped'
    obtain rfl := Except.ok.inj (hpattern.symm.trans hready.pattern)
    exact ⟨⟨_, hready.layout⟩, ⟨_, hready.template⟩⟩
  · rintro ⟨⟨layout, hlayout⟩, template, htemplate⟩
    obtain ⟨files, hcompiled⟩ := exists_compiledFiles_iff.mpr hfiles
    exact ⟨⟨d, pattern, layout, files, template⟩, ofValue_table_eq_accepted.mpr
      ⟨htyped, hpattern, hlayout, hcompiled, htemplate⟩⟩

/-- What can be asked of a linter: whether it is for a file, unless the first file pattern that is
found in the name is found in a way that is not sound; what a match of its pattern captured, for
which no group is missing; and its command for a file, which has as many arguments as the command
has words. -/
structure Usable (linter : Linter) : Prop where
  told (filename : String) : ¬Pattern.Confounds linter.files filename.toList →
    linter.isFor? filename =
      .ok (linter.files.any fun file => (file.first? filename.toList).isSome)
  untold (filename : String) : Pattern.Confounds linter.files filename.toList →
    ∃ e, linter.isFor? filename = .error e
  captures (raw : List Char) : ∀ found ∈ linter.pattern.findAll raw,
    askCaptures linter.pattern raw found = .ok (linter.captures raw found)
  command (placeholder path : String) :
    splitCommand linter.toDefinition placeholder path = .ok (linter.commandFor placeholder path)
  arguments (placeholder path : String) : linter.shell = false →
    ∃ words args, Shell.words linter.command.toList = .ok words ∧
      linter.commandFor placeholder path = .call args ∧ args.length = words.length

theorem Ready.usable {linter : Linter} (h : Ready linter) : Usable linter where
  told filename := (Pattern.anyOccurs_eq filename.toList linter.files).2
  untold filename hconfounds :=
    ⟨_, (Pattern.anyOccurs_eq filename.toList linter.files).1 hconfounds⟩
  captures _ _ hfound := h.askCaptures_eq hfound
  command := h.splitCommand_eq
  arguments := h.length_args

section Examples

/-- A tool that tells no column, with a blank in one of its arguments. -/
def checker : Definition :=
  ⟨"checker", "check 'C 11' $FILENAME", "(?P<line>\\d+):(?P<message>.*)", ["\\.c$"], false⟩

/-- A tool with a file pattern whose groups lose their order: in each round of the repetition the
inner group is opened anew, but it is closed in the first round only. -/
def confused : Definition :=
  ⟨"confused", "true", "(a)(b)(c)", ["((x)|y|z)*+"], false⟩

end Examples

end Linter

end Gutter
