import Gutter.Proofs.Validation.Stopping
import Gutter.Settings.Discovery

/-! Whether what goes wrong with settings is told as an error of the settings. It is, except where a
path is too long to be looked up, where a file's bytes are no text, at an integer that has too many
digits, and at a pattern with a count that is too large. -/

namespace Gutter

open Validation (Checked optionalField requiredField checkText checkTruth)
open Validation.Checked (Stops)

/-! ### Counts that are too large -/

namespace Linter

/-- A pattern with a count that is too large to be read. -/
def Uncountable (flags : Pattern.Flags) (text : String) : Prop :=
  Pattern.compile flags text.toList = .error .repeatTooLarge

theorem stops_refusePattern {α : Type} {what text : String} {input : Value}
    {fault : Pattern.Fault} :
    (refusePattern what text input fault : Checked α).Stops ↔ fault = .repeatTooLarge := by
  cases fault with
  | repeatTooLarge => exact iff_of_true trivial rfl
  | _ => exact iff_of_false (Checked.not_stops_refuse _ _) nofun

theorem stops_checkWarningPattern {value : Value} :
    (checkWarningPattern value).Stops ↔
      ∃ text, value = .text text ∧ Uncountable warningFlags text := by
  unfold checkWarningPattern
  simp only [Checked.stops_andThen, Validation.not_stops_checkText, false_or,
    Validation.checkText_eq_ok]
  refine exists_congr fun text => and_congr_right ?_
  rintro rfl
  unfold Uncountable
  split
  next fault hfault => simp [stops_refusePattern, hfault]
  next pattern hpattern =>
    simp only [hpattern]
    split <;> simp

@[simp] theorem not_stops_checkFilePatterns {value : Value} :
    ¬(checkFilePatterns value).Stops := by
  unfold checkFilePatterns
  split <;> simp

theorem stops_assemble {input : Value} {name command : String}
    {warning : String × Pattern × Layout} {filePatterns : List String} {shell : Bool} :
    (assemble input name command warning filePatterns shell).Stops ↔
      ∃ text, compileFiles filePatterns = .error (text, .repeatTooLarge) := by
  unfold assemble
  split
  next text fault hfault => simp [stops_refusePattern, hfault]
  next files hfiles =>
    simp only [hfiles]
    split <;> simp

/-- The entries of a linter's table are as they should be, each for itself, and the file patterns
are these. -/
structure Passing (entries : List (String × Value)) (filePatterns : List String) : Prop where
  name : ∃ name, optionalField entries "name" checkText defaultName = .ok name
  command : ∃ command, requiredField entries "command" checkText = .ok command
  warning : ∃ warning, requiredField entries "warning_pattern" checkWarningPattern = .ok warning
  files : optionalField entries "file_patterns" checkFilePatterns [] = .ok filePatterns
  shell : ∃ shell, optionalField entries "shell" checkTruth false = .ok shell

/-- A table whose warning pattern has a count that is too large, or, if all entries pass, the first
of its file patterns with a fault. -/
inductive Oversized : Value → Prop
  | warning {entries : List (String × Value)} {text : String}
    (hfound : Value.find? "warning_pattern" entries = some (.text text))
    (hcount : Uncountable warningFlags text) : Oversized (.table entries)
  | file {entries : List (String × Value)} {filePatterns : List String} {text : String}
    (hpassing : Passing entries filePatterns)
    (hcount : compileFiles filePatterns = .error (text, .repeatTooLarge)) :
    Oversized (.table entries)

/-- A linter's check stops exactly at a count that is too large. -/
theorem stops_check {value : Value} : (check value).Stops ↔ Oversized value := by
  cases value with
  | table entries =>
    simp only [check, Checked.stops_andThen, Checked.stops_seq, Checked.stops_functorMap,
      Validation.stops_optionalField, Validation.stops_requiredField, Checked.seq_eq_ok,
      Checked.functorMap_eq_ok,
      Validation.not_stops_checkText, Validation.not_stops_checkTruth,
      not_stops_checkFilePatterns, stops_checkWarningPattern, and_false, exists_false, false_or,
      or_false, id]
    constructor
    · rintro (⟨_, hfound, text, rfl, hcount⟩ | ⟨_, ⟨_, shell, ⟨_, files, ⟨_, warning, ⟨_, command,
        ⟨name, hname, rfl⟩, hcommand, rfl⟩, hwarning, rfl⟩, hfiles, rfl⟩, hshell, rfl⟩, hstops⟩)
      · exact .warning hfound hcount
      · obtain ⟨text, hcount⟩ := stops_assemble.mp hstops
        exact .file ⟨⟨name, hname⟩, ⟨command, hcommand⟩, ⟨warning, hwarning⟩, hfiles,
          ⟨shell, hshell⟩⟩ hcount
    · rintro (⟨hfound, hcount⟩ | ⟨⟨⟨name, hname⟩, ⟨command, hcommand⟩, ⟨warning, hwarning⟩, hfiles,
        ⟨shell, hshell⟩⟩, hcount⟩)
      · exact .inl ⟨_, hfound, _, rfl, hcount⟩
      · exact .inr ⟨_, ⟨_, shell, ⟨_, _, ⟨_, warning, ⟨_, command, ⟨name, hname, rfl⟩, hcommand,
          rfl⟩, hwarning, rfl⟩, hfiles, rfl⟩, hshell, rfl⟩, stops_assemble.mpr ⟨_, hcount⟩⟩
  | _ => exact iff_of_false (by simp [check]) (by rintro ⟨⟩)

end Linter

namespace Settings

@[simp] theorem named_of_entries (entries : List (String × Value)) :
    Payload.named (entries.map fun (name, value) => (.text name, value)) = entries := by
  induction entries with
  | nil => rfl
  | cons entry rest ih => exact congrArg (entry :: ·) ih

@[simp] theorem not_stops_extras {payload : Payload} : ¬(extras payload).Stops := by
  unfold extras
  cases payload.filterMap stray? with
  | nil => simp
  | cons issue rest => exact id

/-- The check of settings stops exactly if the check of one of their linters does. -/
theorem stops_check {entries : List (String × Value)} :
    (check (.table entries)).Stops ↔ ∃ items, Value.find? "linters" entries = some (.list items) ∧
      ∃ item ∈ items, Linter.Oversized item := by
  have htimeout (value : Value) : ¬(checkTimeout value).Stops :=
    Validation.not_stops_checkOptional fun _ => Validation.not_stops_checkPositiveNumber
  have hpresets (value : Value) : ¬(checkPresets value).Stops := by
    simp [checkPresets]
  simp only [check, checkPayload, Checked.stops_seq, Checked.stops_functorMap,
    Validation.stops_optionalField, named_of_entries, Validation.not_stops_checkPositive,
    Validation.not_stops_checkTruth, Validation.not_stops_checkFilledText, htimeout, hpresets,
    not_stops_extras, and_false, exists_false, false_or, or_false, checkLinters,
    Validation.stops_checkList, Linter.stops_check]
  constructor
  · rintro ⟨_, hfound, items, rfl, hitem⟩
    exact ⟨items, hfound, hitem⟩
  · rintro ⟨items, hfound, hitem⟩
    exact ⟨_, hfound, items, rfl, hitem⟩

/-- One of the linters of a payload has a pattern with a count that is too large, once references to
variables are replaced. -/
def Oversized (env : Environment) (payload : List (String × Value)) : Prop :=
  ∃ items, Value.find? "linters" (env.expandEntries payload) = some (.list items) ∧
    ∃ item ∈ items, Linter.Oversized item

theorem build_eq_countTooLarge {env : Environment} {payload : List (String × Value)} :
    build env (.table payload) = .countTooLarge ↔ Oversized env payload :=
  Validation.outcome_eq_countTooLarge.trans stops_check

/-! ### What leaves as it came about -/

/-- Nothing is found, and the error is not told as one of the settings. -/
def Escapes {α : Type} (x : Except DiscoveryError α) : Prop :=
  ∃ e, x = .error e ∧ e.isConverted = false

section Escapes

variable {α β : Type}

@[simp] theorem not_escapes_ok (a : α) : ¬Escapes (.ok a) := nofun

@[simp] theorem escapes_error {e : DiscoveryError} :
    Escapes (.error e : Except DiscoveryError α) ↔ e.isConverted = false := by
  simp [Escapes]

@[simp] theorem escapes_map {f : α → β} {x : Except DiscoveryError α} :
    Escapes (x.map f) ↔ Escapes x := by
  cases x <;> simp [Except.map]

end Escapes

section Files

variable {files : Files} {path : String}

/-- A name on the path is too long to be looked up, or the path itself is. -/
def TooLong (files : Files) (path : String) : Prop := files.find path = .error .nameTooLong

theorem isFile_eq_error {e : DiscoveryError} :
    isFile files path = .error e ↔ TooLong files path ∧ e = .file ⟨.nameTooLong, path⟩ := by
  unfold isFile Files.isFile TooLong
  rcases files.find path with fault | node
  · cases fault <;> simp [eq_comm]
  · cases node <;> simp

theorem not_tooLong_of_ok {found : Bool} (h : isFile files path = .ok found) :
    ¬TooLong files path := by
  intro hlong
  rw [isFile_eq_error.mpr ⟨hlong, rfl⟩] at h
  cases h

/-- The file is read, and its bytes are no text, or its text has an integer of too many digits
before anything else that is wrong. -/
inductive Spoilt (files : Files) (path : String) : Prop
  | bytes {bytes : List UInt8} {e : Text.Utf8.DecodeError} (hread : files.read path = .ok bytes)
    (hbytes : Text.Utf8.decode bytes = .error e) : Spoilt files path
  | numeral {bytes : List UInt8} {text : List Char} {e : Text.NumeralTooLong}
    (hread : files.read path = .ok bytes) (htext : Text.Utf8.decode bytes = .ok text)
    (hnumeral : Toml.ofText text = .error (.numeralTooLong e)) : Spoilt files path

theorem ofText_ne_bytes (text : List Char) (e : Text.Utf8.DecodeError) :
    Toml.ofText text ≠ .error (.bytes e) := by
  simp only [Toml.ofText]
  split <;> simp

theorem escapes_readToml : Escapes (readToml files path) ↔ Spoilt files path := by
  constructor
  · rintro ⟨e, h, hconverted⟩
    unfold readToml at h
    split at h
    · cases h
      cases hconverted
    next bytes hread =>
      unfold Toml.ofBytes at h
      cases hbytes : Text.Utf8.decode bytes with
      | error e => exact .bytes hread hbytes
      | ok text =>
        rw [hbytes] at h
        simp only at h
        split at h
        · cases h
        next e hfault => exact (ofText_ne_bytes text e hfault).elim
        · cases h
          cases hconverted
        next e hnumeral => exact .numeral hread hbytes hnumeral
  · rintro (⟨hread, hbytes⟩ | ⟨hread, htext, hnumeral⟩)
    · simp [readToml, Toml.ofBytes, hread, hbytes, DiscoveryError.isConverted]
    · simp [readToml, Toml.ofBytes, hread, htext, hnumeral, DiscoveryError.isConverted]

/-- A section that is no table is told as such. -/
theorem escapes_projectSection : Escapes (projectSection files path) ↔ Spoilt files path := by
  rw [← escapes_readToml]
  unfold projectSection
  cases readToml files path with
  | error e => simp
  | ok entries =>
    refine iff_of_false ?_ (not_escapes_ok _)
    simp only
    split
    · split <;> simp [DiscoveryError.isConverted]
    · simp

end Files

section Places

variable {files : Files} {directory path : String} {explicit : Option String}

/-- The paths that may hold settings, in the order in which they are looked up. -/
def candidates (directory : String) : Option String → List String
  | some path => [Path.normal path]
  | none => [inDirectory directory fileName, inDirectory directory projectName]

/-- The first of some paths that is a file. -/
def firstFile? (files : Files) : List String → Except DiscoveryError (Option String)
  | [] => .ok none
  | path :: rest =>
    match isFile files path with
    | .error e => .error e
    | .ok true => .ok (some path)
    | .ok false => firstFile? files rest

/-- Of some paths, the first ones are looked up in vain, and `path` is the next. -/
def Reaches (files : Files) (paths : List String) (path : String) : Prop :=
  ∃ before after, paths = before ++ path :: after ∧
    ∀ other ∈ before, isFile files other = .ok false

theorem not_reaches_nil : ¬Reaches files [] path := by
  rintro ⟨before, after, h, -⟩
  cases before <;> cases h

theorem reaches_cons {first : String} {rest : List String} :
    Reaches files (first :: rest) path ↔
      path = first ∨ (isFile files first = .ok false ∧ Reaches files rest path) := by
  constructor
  · rintro ⟨_ | ⟨other, before⟩, after, h, hbefore⟩
    · cases h
      exact .inl rfl
    · cases h
      exact .inr ⟨hbefore _ List.mem_cons_self, before, after, rfl,
        fun p hm => hbefore p (List.mem_cons_of_mem _ hm)⟩
  · rintro (rfl | ⟨hfirst, before, after, rfl, hbefore⟩)
    · exact ⟨[], rest, rfl, nofun⟩
    · exact ⟨first :: before, after, rfl, List.forall_mem_cons.mpr ⟨hfirst, hbefore⟩⟩

theorem escapes_firstFile? {paths : List String} :
    Escapes (firstFile? files paths) ↔ ∃ path, Reaches files paths path ∧ TooLong files path := by
  induction paths with
  | nil => simp [firstFile?, not_reaches_nil]
  | cons first rest ih =>
    unfold firstFile?
    simp only [reaches_cons]
    rcases hfile : isFile files first with e | found
    · obtain ⟨hlong, rfl⟩ := isFile_eq_error.mp hfile
      exact iff_of_true ⟨_, rfl, rfl⟩ ⟨first, .inl rfl, hlong⟩
    have hshort := not_tooLong_of_ok hfile
    cases found with
    | true => simp [hshort]
    | false => simp [ih, or_and_right, exists_or, hshort]

theorem firstFile?_eq_some {paths : List String} :
    firstFile? files paths = .ok (some path) ↔
      Reaches files paths path ∧ isFile files path = .ok true := by
  induction paths with
  | nil => simp [firstFile?, not_reaches_nil]
  | cons first rest ih =>
    unfold firstFile?
    rw [reaches_cons]
    rcases hfile : isFile files first with e | (_ | _)
    · refine iff_of_false nofun ?_
      rintro ⟨rfl | ⟨h, -⟩, htrue⟩ <;> simp_all
    · simp only [ih, true_and]
      refine and_congr_left fun htrue => (or_iff_right ?_).symm
      rintro rfl
      simp [hfile] at htrue
    · simp only [Except.ok.injEq, Option.some.injEq, Bool.true_eq_false, false_and, or_false]
      exact ⟨fun h => ⟨h.symm, h ▸ hfile⟩, fun h => h.1.symm⟩

theorem discover_explicit :
    discover files directory (some path) =
      match isFile files (Path.normal path) with
      | .error e => .error e
      | .ok false => .error (.missing (Path.normal path))
      | .ok true =>
        (readToml files (Path.normal path)).map fun entries => ⟨entries, Path.normal path⟩ := by
  simp only [discover, bind, Except.bind]
  rcases isFile files (Path.normal path) with e | found
  · rfl
  · cases found with
    | false => rfl
    | true => cases readToml files (Path.normal path) <;> rfl

theorem discover_directory :
    discover files directory none =
      match isFile files (inDirectory directory fileName) with
      | .error e => .error e
      | .ok true =>
        (readToml files (inDirectory directory fileName)).map fun entries =>
          ⟨entries, inDirectory directory fileName⟩
      | .ok false =>
        match isFile files (inDirectory directory projectName) with
        | .error e => .error e
        | .ok false => .ok ⟨[], "built-in defaults"⟩
        | .ok true =>
          (projectSection files (inDirectory directory projectName)).map fun
            | some entries => ⟨entries, s!"{inDirectory directory projectName} {sectionText}"⟩
            | none => ⟨[], "built-in defaults"⟩ := by
  simp only [discover, bind, Except.bind]
  rcases isFile files (inDirectory directory fileName) with e | found
  · rfl
  · cases found with
    | true => cases readToml files (inDirectory directory fileName) <;> rfl
    | false =>
      rcases isFile files (inDirectory directory projectName) with e | found
      · rfl
      · cases found with
        | false => rfl
        | true =>
          rcases projectSection files (inDirectory directory projectName) with e | (_ | entries) <;>
            rfl

/-- A path that is looked up is too long, or the file that is read is spoilt. -/
def Unreadable (files : Files) (paths : List String) : Prop :=
  ∃ path, Reaches files paths path ∧
    (TooLong files path ∨ (isFile files path = .ok true ∧ Spoilt files path))

theorem escapes_discover_iff_firstFile? :
    Escapes (discover files directory explicit) ↔
      Escapes (firstFile? files (candidates directory explicit)) ∨
        ∃ path, firstFile? files (candidates directory explicit) = .ok (some path) ∧
          Spoilt files path := by
  cases explicit with
  | some path =>
    rw [discover_explicit]
    simp only [candidates, firstFile?]
    rcases isFile files (Path.normal path) with e | (_ | _)
    · simp
    · simp [DiscoveryError.isConverted]
    · simp [escapes_readToml]
  | none =>
    rw [discover_directory]
    simp only [candidates, firstFile?]
    rcases isFile files (inDirectory directory fileName) with e | (_ | _)
    · simp
    · rcases isFile files (inDirectory directory projectName) with e | (_ | _)
      · simp
      · simp
      · simp [escapes_projectSection]
    · simp [escapes_readToml]

/-- Settings that are not found are told of as such, unless a path that is looked up is too long or
the file that is read is spoilt. -/
theorem escapes_discover :
    Escapes (discover files directory explicit) ↔
      Unreadable files (candidates directory explicit) := by
  rw [escapes_discover_iff_firstFile?, escapes_firstFile?]
  simp only [firstFile?_eq_some, Unreadable, and_or_left, exists_or, and_assoc]

end Places

/-- Where settings come from: what goes wrong is told as an error of the settings exactly if no path
that is looked up is too long and the file that is read has bytes that are a text and no integer of
too many digits; and so it is for the settings that come of it, if also no linter has a pattern with
a count that is too large. -/
theorem settings_errors_escape_iff (files : Files) (env : Environment) (directory : String)
    (explicit : Option String) :
    (Escapes (discover files directory explicit) ↔
      Unreadable files (candidates directory explicit)) ∧
    ((∃ e, load files env directory explicit = .error e ∧ e.isConverted = false) ↔
      Unreadable files (candidates directory explicit) ∨
        ∃ found, discover files directory explicit = .ok found ∧ Oversized env found.payload) := by
  refine ⟨escapes_discover, ?_⟩
  rw [← escapes_discover]
  unfold load
  cases discover files directory explicit with
  | error e => simp [LoadError.isConverted]
  | ok found =>
    simp only [not_escapes_ok, false_or, Except.ok.injEq, exists_eq_left',
      ← build_eq_countTooLarge]
    cases build env (.table found.payload) <;> simp [LoadError.isConverted]

section StrangeByte

/-- A directory whose file for settings is the one byte 255. -/
def strangeByte : Files :=
  (Files.empty [['w']]).install [['w'], fileName.toList] (.file [255] false)

/-- The byte is no text, and that is not told as an error of the settings. -/
theorem strange_byte_escapes :
    ∃ e, load strangeByte .empty "/w" none = .error e ∧ e.isConverted = false ∧
      e.message = "'utf-8' codec can't decode byte 0xff in position 0: invalid start byte" := by
  exact ⟨_, rfl, rfl, rfl⟩

end StrangeByte

end Settings

end Gutter
