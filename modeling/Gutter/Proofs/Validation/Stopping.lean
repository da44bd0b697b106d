import Gutter.Linter.Basic

/-! Checks that stop, and checks that pass. A pattern with a count that is too large to be read ends
all checks at once; a check of a whole stops exactly if one of its parts does. The parts that pass
are what the whole is made of. -/

namespace Gutter

namespace Validation

namespace Checked

variable {α β : Type}

/-- The check met a count that is too large to be read. -/
def Stops (x : Checked α) : Prop :=
  match x with
  | .error .countTooLarge => True
  | _ => False

@[simp] theorem not_stops_ok (a : α) : ¬(Checked.ok a).Stops := nofun

@[simp] theorem not_stops_refuse (cause : Cause) (input : Value) :
    ¬(Checked.refuse cause input : Checked α).Stops := nofun

@[simp] theorem stops_seq {f : Checked (α → β)} {x : Checked α} :
    (f <*> x).Stops ↔ f.Stops ∨ x.Stops := by
  show (apply f x).Stops ↔ f.Stops ∨ x.Stops
  rcases f with (_ | _) | _ <;> rcases x with (_ | _) | _ <;> simp [apply, Stops, Refusal.both]

@[simp] theorem stops_andThen {x : Checked α} {f : α → Checked β} :
    (x.andThen f).Stops ↔ x.Stops ∨ ∃ a, x = .ok a ∧ (f a).Stops := by
  rcases x with (_ | _) | a
  · exact iff_of_false id (by rintro (h | ⟨_, h, -⟩) <;> cases h)
  · exact iff_of_true trivial (.inl trivial)
  · constructor
    · exact fun h => .inr ⟨a, rfl, h⟩
    · rintro (h | ⟨_, h, hstops⟩)
      · exact h.elim
      · cases h
        exact hstops

theorem seq_eq_ok {f : Checked (α → β)} {x : Checked α} {b : β} :
    (f <*> x) = Checked.ok b ↔ ∃ g a, f = .ok g ∧ x = .ok a ∧ b = g a := by
  show Checked.apply f x = Checked.ok b ↔ _
  constructor
  · intro h
    rcases f with e | g <;> rcases x with e' | a
    · cases h
    · cases h
    · cases h
    · cases h
      exact ⟨g, a, rfl, rfl, rfl⟩
  · rintro ⟨g, a, rfl, rfl, rfl⟩
    rfl

theorem functorMap_eq_ok {f : α → β} {x : Checked α} {b : β} :
    (f <$> x) = Checked.ok b ↔ ∃ a, x = .ok a ∧ b = f a := by
  show (Checked.ok f <*> x) = Checked.ok b ↔ _
  rw [seq_eq_ok]
  constructor
  · rintro ⟨g, a, hg, rfl, rfl⟩
    cases hg
    exact ⟨a, rfl, rfl⟩
  · rintro ⟨a, rfl, rfl⟩
    exact ⟨f, a, rfl, rfl, rfl⟩

theorem andThen_eq_ok {x : Checked α} {f : α → Checked β} {b : β} :
    x.andThen f = .ok b ↔ ∃ a, x = .ok a ∧ f a = .ok b := by
  constructor
  · intro h
    cases x with
    | error e => cases h
    | ok a => exact ⟨a, rfl, h⟩
  · rintro ⟨a, rfl, h⟩
    exact h

theorem map_eq_ok {f : α → β} {x : Checked α} {b : β} :
    x.map f = .ok b ↔ ∃ a, x = .ok a ∧ b = f a := by
  simp only [map, andThen_eq_ok]
  refine exists_congr fun a => and_congr_right fun _ => ⟨?_, ?_⟩
  · rintro ⟨⟩
    rfl
  · rintro rfl
    rfl

theorem under_eq_ok {step : Step} {x : Checked α} {a : α} : x.under step = .ok a ↔ x = .ok a := by
  rcases x with (_ | _) | _ <;> simp [under, ok]

@[simp] theorem stops_map {f : α → β} {x : Checked α} : (x.map f).Stops ↔ x.Stops := by
  simp [map]

@[simp] theorem stops_functorMap {f : α → β} {x : Checked α} : (f <$> x).Stops ↔ x.Stops := by
  show (ok f <*> x).Stops ↔ x.Stops
  simp

@[simp] theorem stops_under {step : Step} {x : Checked α} : (x.under step).Stops ↔ x.Stops := by
  rcases x with (_ | _) | _ <;> simp [under, Stops, ok]

@[simp] theorem stops_each {check : Value → Checked α} {index : Nat} {items : List Value} :
    (each check index items).Stops ↔ ∃ item ∈ items, (check item).Stops := by
  induction items generalizing index with
  | nil => simp [each]
  | cons item rest ih => simp [each, ih]

end Checked

open Checked (Stops)

section Values

variable {α : Type} {value : Value}

theorem checkText_eq_ok {text : String} : checkText value = .ok text ↔ value = .text text := by
  constructor
  · intro h
    cases value <;> cases h
    rfl
  · rintro rfl
    rfl

@[simp] theorem not_stops_checkText : ¬(checkText value).Stops := by
  cases value <;> nofun

@[simp] theorem not_stops_checkFilledText : ¬(checkFilledText value).Stops := by
  unfold checkFilledText
  simp only [Checked.stops_andThen, not_stops_checkText, false_or, not_exists, not_and]
  intro s _
  split <;> simp

@[simp] theorem not_stops_checkInteger : ¬(checkInteger value).Stops := by
  unfold checkInteger
  split
  · simp
  · simp
  · split <;> simp
  · split <;> simp
  · simp

@[simp] theorem not_stops_checkPositive : ¬(checkPositive value).Stops := by
  unfold checkPositive
  simp only [Checked.stops_andThen, not_stops_checkInteger, false_or, not_exists, not_and]
  intro n _
  split <;> simp

@[simp] theorem not_stops_checkNumber : ¬(checkNumber value).Stops := by
  unfold checkNumber
  split
  · simp
  · simp
  · split <;> simp
  · split <;> simp
  · simp

@[simp] theorem not_stops_checkPositiveNumber : ¬(checkPositiveNumber value).Stops := by
  unfold checkPositiveNumber
  simp only [Checked.stops_andThen, not_stops_checkNumber, false_or, not_exists, not_and]
  intro x _
  split <;> simp

@[simp] theorem not_stops_checkTruth : ¬(checkTruth value).Stops := by
  unfold checkTruth
  split
  · simp
  · dsimp only
    split <;> simp
  · split
    · dsimp only
      split <;> simp
    · simp
  · split
    · dsimp only
      split <;> simp
    · simp
  · simp

@[simp] theorem stops_checkList {check : Value → Checked α} :
    (checkList check value).Stops ↔
      ∃ items, value = .list items ∧ ∃ item ∈ items, (check item).Stops := by
  cases value <;> simp [checkList]

@[simp] theorem stops_checkTuple {check : Value → Checked α} :
    (checkTuple check value).Stops ↔
      ∃ items, value = .list items ∧ ∃ item ∈ items, (check item).Stops := by
  cases value <;> simp [checkTuple]

theorem not_stops_checkOptional {check : Value → Checked α} (h : ∀ value, ¬(check value).Stops) :
    ¬(checkOptional check value).Stops := by
  unfold checkOptional
  split <;> simp [h]

@[simp] theorem stops_optionalField {entries : List (String × Value)} {name : String}
    {check : Value → Checked α} {otherwise : α} :
    (optionalField entries name check otherwise).Stops ↔
      ∃ value, Value.find? name entries = some value ∧ (check value).Stops := by
  unfold optionalField
  split <;> simp_all

@[simp] theorem stops_requiredField {entries : List (String × Value)} {name : String}
    {check : Value → Checked α} :
    (requiredField entries name check).Stops ↔
      ∃ value, Value.find? name entries = some value ∧ (check value).Stops := by
  unfold requiredField
  split <;> simp_all

theorem outcome_eq_countTooLarge {model : String} {x : Checked α} :
    x.outcome model = .countTooLarge ↔ x.Stops := by
  rcases x with (_ | _) | _ <;> simp [Checked.outcome, Stops]

end Values

/-! ### Checks that pass -/

section Fields

variable {α : Type} {entries : List (String × Value)} {name : String} {check : Value → Checked α}
  {value : Value} {a : α}

/-- A required field is there and has passed its check. -/
theorem requiredField_eq_ok_iff :
    requiredField entries name check = .ok a ↔
      ∃ value, Value.find? name entries = some value ∧ check value = .ok a := by
  unfold requiredField
  constructor
  · intro h
    split at h
    next value hfound => exact ⟨value, hfound, Checked.under_eq_ok.mp h⟩
    next => cases h
  · rintro ⟨value, hfound, hcheck⟩
    rw [hfound]
    exact Checked.under_eq_ok.mpr hcheck

theorem requiredField_eq_ok (hfound : Value.find? name entries = some value)
    (hcheck : check value = .ok a) : requiredField entries name check = .ok a :=
  requiredField_eq_ok_iff.mpr ⟨value, hfound, hcheck⟩

theorem optionalField_eq_ok (hfound : Value.find? name entries = some value)
    (hcheck : check value = .ok a) (otherwise : α) :
    optionalField entries name check otherwise = .ok a := by
  rw [optionalField, hfound]
  simp only [hcheck]
  rfl

/-- What a field comes to is its default or has passed its check. -/
theorem of_optionalField {otherwise : α}
    (h : optionalField entries name check otherwise = .ok a) :
    a = otherwise ∨ ∃ value, check value = .ok a := by
  unfold optionalField at h
  split at h
  next value _ => exact .inr ⟨value, Checked.under_eq_ok.mp h⟩
  next =>
    cases h
    exact .inl rfl

theorem checkNatural_int (n : Nat) : checkNatural (.int n) = .ok n := by
  show (if (0 : Int) ≤ n then Checked.ok (n : Int).toNat
    else Checked.refuse (.notAtLeast 0) (.int n)) = Checked.ok n
  rw [if_pos (Int.natCast_nonneg n), Int.toNat_natCast]

theorem each_checkText (texts : List String) (index : Nat) :
    Checked.each checkText index (texts.map .text) = .ok texts := by
  induction texts generalizing index with
  | nil => rfl
  | cons text texts ih =>
    rw [List.map_cons, Checked.each, ih]
    rfl

theorem outcome_eq_accepted {model : String} {x : Checked α} :
    x.outcome model = .accepted a ↔ x = .ok a := by
  constructor
  · intro h
    rcases x with (_ | _) | _ <;> cases h
    rfl
  · rintro rfl
    rfl

end Fields

end Validation

namespace Linter

open Validation

/-! ### Definitions that are accepted -/

theorem refusePattern_ne_ok {α : Type} (what text : String) (input : Value)
    (fault : Pattern.Fault) (a : α) : refusePattern what text input fault ≠ .ok a := by
  intro h
  cases fault <;> cases h

theorem assemble_eq_ok {input : Value} {name command : String}
    {warning : String × Pattern × Layout} {filePatterns : List String} {shell : Bool}
    {linter : Linter} :
    assemble input name command warning filePatterns shell = .ok linter ↔
      ∃ files template, compileFiles filePatterns = .ok files ∧
        template? shell command = .ok template ∧
        linter = ⟨⟨name, command, warning.1, filePatterns, shell⟩, warning.2.1, warning.2.2, files,
          template⟩ := by
  unfold assemble
  constructor
  · intro h
    split at h
    next => exact (refusePattern_ne_ok _ _ _ _ _ h).elim
    next files hfiles =>
      split at h
      next => cases h
      next template htemplate =>
        cases h
        exact ⟨files, template, hfiles, htemplate, rfl⟩
  · rintro ⟨files, template, hfiles, htemplate, rfl⟩
    rw [hfiles]
    simp only [htemplate]

/-- The parts of a linter were made from its definition. -/
structure Ready (linter : Linter) : Prop where
  pattern : Pattern.compile warningFlags linter.warningPattern.toList = .ok linter.pattern
  layout : layout? linter.pattern = some linter.layout
  files : compileFiles linter.filePatterns = .ok linter.files
  template : template? linter.shell linter.command = .ok linter.template

/-- The fields of a table have their types, and are those of the definition. -/
structure Typed (entries : List (String × Value)) (d : Definition) : Prop where
  name : optionalField entries "name" checkText defaultName = .ok d.name
  command : requiredField entries "command" checkText = .ok d.command
  warningPattern : requiredField entries "warning_pattern" checkText = .ok d.warningPattern
  filePatterns : optionalField entries "file_patterns" checkFilePatterns [] = .ok d.filePatterns
  shell : optionalField entries "shell" checkTruth false = .ok d.shell

theorem checkWarningPattern_eq_ok {value : Value} {warning : String × Pattern × Layout} :
    checkWarningPattern value = .ok warning ↔ value = .text warning.1 ∧
      Pattern.compile warningFlags warning.1.toList = .ok warning.2.1 ∧
      layout? warning.2.1 = some warning.2.2 := by
  rw [checkWarningPattern, Checked.andThen_eq_ok]
  constructor
  · rintro ⟨text, htext, h⟩
    obtain rfl := checkText_eq_ok.mp htext
    split at h
    next => exact (refusePattern_ne_ok _ _ _ _ _ h).elim
    next pattern hpattern =>
      split at h
      next layout hlayout =>
        cases h
        exact ⟨rfl, hpattern, hlayout⟩
      next => cases h
  · obtain ⟨text, pattern, layout⟩ := warning
    rintro ⟨rfl, hpattern, hlayout⟩
    refine ⟨text, rfl, ?_⟩
    simp only at hpattern hlayout ⊢
    rw [hpattern]
    simp only [hlayout]

theorem requiredField_checkWarningPattern {entries : List (String × Value)}
    {warning : String × Pattern × Layout} :
    requiredField entries "warning_pattern" checkWarningPattern = .ok warning ↔
      requiredField entries "warning_pattern" checkText = .ok warning.1 ∧
      Pattern.compile warningFlags warning.1.toList = .ok warning.2.1 ∧
      layout? warning.2.1 = some warning.2.2 := by
  simp only [requiredField_eq_ok_iff, checkWarningPattern_eq_ok, checkText_eq_ok]
  constructor
  · rintro ⟨value, hfound, rfl, h⟩
    exact ⟨⟨_, hfound, rfl⟩, h⟩
  · rintro ⟨⟨value, hfound, rfl⟩, h⟩
    exact ⟨_, hfound, rfl, h⟩

/-- A table is accepted if its fields have their types and all parts can be made from them. -/
theorem ofValue_table_eq_accepted {entries : List (String × Value)} {linter : Linter} :
    ofValue (.table entries) = .accepted linter ↔
      Typed entries linter.toDefinition ∧ Ready linter := by
  rw [ofValue, outcome_eq_accepted, check]
  constructor
  · intro h
    simp only [Checked.andThen_eq_ok, Checked.seq_eq_ok, Checked.functorMap_eq_ok, id] at h
    obtain ⟨_, ⟨_, shell, ⟨_, files, ⟨_, warning, ⟨_, command, ⟨name, hname, rfl⟩, hcommand, rfl⟩,
      hwarning, rfl⟩, hfiles, rfl⟩, hshell, rfl⟩, hlinter⟩ := h
    obtain ⟨compiled, template, hcompiled, htemplate, rfl⟩ := assemble_eq_ok.mp hlinter
    obtain ⟨htext, hpattern, hlayout⟩ := requiredField_checkWarningPattern.mp hwarning
    exact ⟨⟨hname, hcommand, htext, hfiles, hshell⟩, ⟨hpattern, hlayout, hcompiled, htemplate⟩⟩
  · rintro ⟨htyped, hready⟩
    have hwarning : requiredField entries "warning_pattern" checkWarningPattern =
        .ok (linter.warningPattern, linter.pattern, linter.layout) :=
      requiredField_checkWarningPattern.mpr
        ⟨htyped.warningPattern, hready.pattern, hready.layout⟩
    simp only [htyped.name, htyped.command, htyped.filePatterns, htyped.shell, hwarning]
    exact assemble_eq_ok.mpr ⟨_, _, hready.files, hready.template, rfl⟩

theorem ofValue_eq_accepted {value : Value} {linter : Linter} :
    ofValue value = .accepted linter ↔
      ∃ entries, value = .table entries ∧ Typed entries linter.toDefinition ∧ Ready linter := by
  constructor
  · intro h
    cases value with
    | table entries => exact ⟨entries, rfl, ofValue_table_eq_accepted.mp h⟩
    | _ => cases h
  · rintro ⟨entries, rfl, h⟩
    exact ofValue_table_eq_accepted.mpr h

/-- The table of a definition has the fields of the definition. -/
theorem typed_value (d : Definition) : ∃ entries, d.value = .table entries ∧ Typed entries d :=
  ⟨_, rfl, rfl, rfl, rfl, optionalField_eq_ok rfl (each_checkText d.filePatterns 0) _, rfl⟩

theorem Typed.unique {entries : List (String × Value)} {d d' : Definition} (h : Typed entries d)
    (h' : Typed entries d') : d = d' := by
  have hname := Except.ok.inj (h.name.symm.trans h'.name)
  have hcommand := Except.ok.inj (h.command.symm.trans h'.command)
  have hwarning := Except.ok.inj (h.warningPattern.symm.trans h'.warningPattern)
  have hfiles := Except.ok.inj (h.filePatterns.symm.trans h'.filePatterns)
  have hshell := Except.ok.inj (h.shell.symm.trans h'.shell)
  cases d
  cases d'
  simp_all

/-- A definition is accepted if its patterns are and its command has a template; the linter is made
of these. -/
theorem ofValue_value_eq_accepted {d : Definition} {linter : Linter} :
    ofValue d.value = .accepted linter ↔
      ∃ warning files template, checkWarningPattern (.text d.warningPattern) = .ok warning ∧
        compileFiles d.filePatterns = .ok files ∧ template? d.shell d.command = .ok template ∧
        linter = ⟨{ d with warningPattern := warning.1 }, warning.2.1, warning.2.2, files,
          template⟩ := by
  obtain ⟨entries, hvalue, htyped⟩ := typed_value d
  rw [hvalue, ofValue_table_eq_accepted]
  constructor
  · rintro ⟨htyped', hready⟩
    obtain rfl := htyped.unique htyped'
    exact ⟨(linter.warningPattern, linter.pattern, linter.layout), linter.files, linter.template,
      checkWarningPattern_eq_ok.mpr ⟨rfl, hready.pattern, hready.layout⟩, hready.files,
      hready.template, rfl⟩
  · rintro ⟨⟨text, pattern, layout⟩, files, template, hwarning, hfiles, htemplate, rfl⟩
    obtain ⟨htext, hpattern, hlayout⟩ := checkWarningPattern_eq_ok.mp hwarning
    obtain rfl : d.warningPattern = text := Value.text.inj htext
    exact ⟨htyped, hpattern, hlayout, hfiles, htemplate⟩

end Linter

end Gutter
