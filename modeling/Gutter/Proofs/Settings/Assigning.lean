import Gutter.Proofs.Environment
import Gutter.Proofs.Validation.Stopping
import Gutter.Settings

/-! Settings that were accepted stay sound: every assignment checks what it sets, changes its own
field only, and changes nothing if it is refused. So batches always have a size, and linters can be
made ready to run unless a preset is unknown. -/

namespace Gutter

/-! ### What checks accept -/

namespace Validation

open Number (Binary64)

variable {value : Value}

theorem pos_of_checkPositive {n : Nat} (h : checkPositive value = .ok n) : 0 < n := by
  obtain ⟨k, -, hk⟩ := Checked.andThen_eq_ok.mp h
  split at hk
  next hpos =>
    cases hk
    exact Int.pos_iff_toNat_pos.mp hpos
  next => cases hk

theorem isPositive_of_checkPositiveNumber {x : Binary64} (h : checkPositiveNumber value = .ok x) :
    x.isPositive = true := by
  obtain ⟨y, -, hy⟩ := Checked.andThen_eq_ok.mp h
  split at hy
  next hpos =>
    cases hy
    exact hpos
  next => cases hy

theorem ne_of_checkFilledText {text : String} (h : checkFilledText value = .ok text) :
    text ≠ "" := by
  obtain ⟨s, -, hs⟩ := Checked.andThen_eq_ok.mp h
  split at hs
  next => cases hs
  next hfilled =>
    cases hs
    exact fun he => hfilled (String.isEmpty_iff.mpr he)

/-- What a value that may be null comes to has passed the check. -/
theorem of_checkOptional {α : Type} {check : Value → Checked α} {a : α}
    (h : checkOptional check value = .ok (some a)) : check value = .ok a := by
  unfold checkOptional at h
  split at h
  · cases h
  · obtain ⟨_, hcheck, he⟩ := Checked.map_eq_ok.mp h
    cases he
    exact hcheck

end Validation

namespace Presets

theorem eq_error_of_map {α β ε : Type} {f : α → β} {x : Except ε α} {e : ε}
    (h : x.map f = .error e) : x = .error e := by
  cases x <;> cases h
  rfl

/-- A name that is no preset is one of those that were asked for. -/
theorem unknown_of_resolve {asked : List String} {e : Unknown} (h : resolve asked = .error e) :
    e.name ∈ asked ∧ e.name ≠ everyName ∧ ∀ linter ∈ linters, linter.name ≠ e.name := by
  induction asked with
  | nil => cases h
  | cons name rest ih =>
    have later (hrest : resolve rest = .error e) :
        e.name ∈ name :: rest ∧ e.name ≠ everyName ∧ ∀ linter ∈ linters, linter.name ≠ e.name :=
      ⟨List.mem_cons_of_mem _ (ih hrest).1, (ih hrest).2⟩
    unfold resolve at h
    split at h
    next => exact later (eq_error_of_map h)
    next hname =>
      split at h
      next hnone =>
        cases h
        refine ⟨List.mem_cons_self, hname, fun linter hlinter => ?_⟩
        simpa using List.find?_eq_none.mp hnone linter hlinter
      next => exact later (eq_error_of_map h)

end Presets

namespace Settings

open Validation

/-! ### Sound settings -/

/-- Boxes have a width, batches a size, a time limit is more than zero, and a placeholder can be
found in a command. -/
structure Sound (settings : Settings) : Prop where
  boxWidth : 0 < settings.boxWidth
  batchSize : 0 < settings.batchSize
  timeout : ∀ timeout ∈ settings.timeout, timeout.isPositive = true
  placeholder : settings.placeholder ≠ ""

theorem isPositive_of_checkTimeout {value : Value} {timeout : Option Number.Binary64}
    (h : checkTimeout value = .ok timeout) : ∀ limit ∈ timeout, limit.isPositive = true := by
  rintro limit rfl
  exact isPositive_of_checkPositiveNumber (of_checkOptional h)

theorem sound_of_checkPayload {payload : Payload} {settings : Settings}
    (h : checkPayload payload = .ok settings) : Sound settings := by
  simp only [checkPayload, Checked.seq_eq_ok, Checked.functorMap_eq_ok] at h
  obtain ⟨_, _, ⟨_, _, ⟨_, _, ⟨_, _, ⟨_, _, ⟨_, _, ⟨_, batch, ⟨width, hwidth, rfl⟩, hbatch, rfl⟩,
    htimeout, rfl⟩, -, rfl⟩, hplaceholder, rfl⟩, -, rfl⟩, -, rfl⟩, -, rfl⟩ := h
  constructor
  case boxWidth =>
    obtain rfl | ⟨value, hvalue⟩ := of_optionalField hwidth
    · exact Nat.succ_pos 79
    · exact pos_of_checkPositive hvalue
  case batchSize =>
    obtain rfl | ⟨value, hvalue⟩ := of_optionalField hbatch
    · exact Nat.succ_pos 19
    · exact pos_of_checkPositive hvalue
  case timeout =>
    obtain rfl | ⟨value, hvalue⟩ := of_optionalField htimeout
    · rintro _ ⟨⟩
      decide
    · exact isPositive_of_checkTimeout hvalue
  case placeholder =>
    obtain rfl | ⟨value, hvalue⟩ := of_optionalField hplaceholder
    · simp [Linter.defaultPlaceholder]
    · exact ne_of_checkFilledText hvalue

/-- Settings that are accepted are sound. -/
theorem sound_of_buildFrom {env : Environment} {payload : Value} {settings : Settings}
    (h : buildFrom env payload = .ok (.accepted settings)) : Sound settings := by
  unfold buildFrom at h
  cases hpayload : Payload.ofValue payload with
  | error e =>
    rw [hpayload] at h
    cases h
  | ok entries =>
    rw [hpayload] at h
    exact sound_of_checkPayload (outcome_eq_accepted.mp (Except.ok.inj h))

/-- What a table describes is what it describes as a payload. -/
theorem buildFrom_table (env : Environment) (entries : List (String × Value)) :
    buildFrom env (.table entries) = .ok (build env (.table entries)) := by
  rw [build, Environment.expand_table, ofValue, check]
  simp only [buildFrom, Payload.ofValue, Except.map, List.map_map]
  rfl

theorem sound_of_build {env : Environment} {payload : Value} {settings : Settings}
    (h : build env payload = .accepted settings) : Sound settings := by
  cases payload with
  | table entries => exact sound_of_buildFrom ((buildFrom_table env entries).trans (congrArg _ h))
  | _ => cases h

/-! ### Assignments -/

/-- What an assignment that is accepted does: it sets one field to what the check of this field
makes of the value. What is set under a name that starts with `_` is no setting. -/
inductive Sets (settings : Settings) (value : Value) : String → Settings → Prop
  | boxWidth {boxWidth : Nat} (h : checkPositive value = .ok boxWidth) :
    Sets settings value "max_box_chars" { settings with boxWidth }
  | batchSize {batchSize : Nat} (h : checkPositive value = .ok batchSize) :
    Sets settings value "batch_size" { settings with batchSize }
  | timeout {timeout : Option Number.Binary64} (h : checkTimeout value = .ok timeout) :
    Sets settings value "subprocess_timeout" { settings with timeout }
  | parallel {parallel : Bool} (h : checkTruth value = .ok parallel) :
    Sets settings value "parallel_linters" { settings with parallel }
  | placeholder {placeholder : String} (h : checkFilledText value = .ok placeholder) :
    Sets settings value "placeholder" { settings with placeholder }
  | presets {presets : List String} (h : checkPresets value = .ok presets) :
    Sets settings value "presets" { settings with presets }
  | linters {linters : List Linter} (h : checkLinters value = .ok linters) :
    Sets settings value "linters" { settings with linters }
  | beside {name : String} (h : name.startsWith "_" = true) : Sets settings value name settings

theorem sets_of_assign {settings after : Settings} {name : String} {value : Value}
    (h : settings.assign name value = .accepted after) : Sets settings value name after := by
  have hset : settings.setField name value = .ok after :=
    Checked.under_eq_ok.mp (outcome_eq_accepted.mp h)
  unfold setField at hset
  split at hset
  case h_8 =>
    split at hset
    next hbeside =>
      cases hset
      exact .beside hbeside
    next => cases hset
  all_goals
    obtain ⟨_, hvalue, rfl⟩ := Checked.map_eq_ok.mp hset
    constructor
    exact hvalue

/-- The settings agree on every field but the one of the name. -/
structure AgreeBeyond (name : String) (before after : Settings) : Prop where
  boxWidth : name ≠ "max_box_chars" → after.boxWidth = before.boxWidth
  batchSize : name ≠ "batch_size" → after.batchSize = before.batchSize
  timeout : name ≠ "subprocess_timeout" → after.timeout = before.timeout
  parallel : name ≠ "parallel_linters" → after.parallel = before.parallel
  placeholder : name ≠ "placeholder" → after.placeholder = before.placeholder
  presets : name ≠ "presets" → after.presets = before.presets
  linters : name ≠ "linters" → after.linters = before.linters

section Assign

variable {settings after : Settings} {name : String} {value : Value}

/-- An assignment changes its own field only. -/
theorem Sets.agreeBeyond (h : Sets settings value name after) :
    AgreeBeyond name settings after := by
  cases h <;> constructor <;> intro hname <;> first | rfl | exact (hname rfl).elim

/-- An assignment that is accepted keeps settings sound. -/
theorem Sets.sound (h : Sets settings value name after) (hsound : Sound settings) :
    Sound after := by
  cases h with
  | boxWidth h => exact { hsound with boxWidth := pos_of_checkPositive h }
  | batchSize h => exact { hsound with batchSize := pos_of_checkPositive h }
  | timeout h => exact { hsound with timeout := isPositive_of_checkTimeout h }
  | placeholder h => exact { hsound with placeholder := ne_of_checkFilledText h }
  | parallel | presets | linters => exact { hsound with }
  | beside => exact hsound

theorem tried_of_accepted (h : settings.assign name value = .accepted after) :
    settings.tried name value = after := by
  rw [tried, h]

theorem tried_of_refused (h : ∀ after, settings.assign name value ≠ .accepted after) :
    settings.tried name value = settings := by
  unfold tried
  split
  next after hafter => exact (h after hafter).elim
  next => rfl

/-- No assignment makes settings unsound, be it accepted or refused. -/
theorem Sound.tried (h : Sound settings) (name : String) (value : Value) :
    Sound (settings.tried name value) := by
  unfold Settings.tried
  split
  next hafter => exact (sets_of_assign hafter).sound h
  next => exact h

end Assign

/-- The settings after assignments, one after another. -/
def assigned (settings : Settings) (assignments : List (String × Value)) : Settings :=
  assignments.foldl (fun settings (name, value) => settings.tried name value) settings

theorem Sound.assigned {settings : Settings} (h : Sound settings)
    (assignments : List (String × Value)) : Sound (settings.assigned assignments) := by
  induction assignments generalizing settings with
  | nil => exact h
  | cons assignment rest ih => exact ih (h.tried assignment.1 assignment.2)

/-! ### Linters made ready -/

theorem Sound.batchSize?_eq {settings : Settings} (h : Sound settings) :
    Linter.batchSize? settings.batchSize = .ok settings.batchSize := by
  have hsize := h.batchSize
  rw [Linter.batchSize?, if_neg (by omega), Int.toNat_natCast]

/-- The linters of sound settings can be made ready unless a preset is unknown. -/
theorem Sound.unknown_of_prepare {settings : Settings} (h : Sound settings) {failure : Unready}
    (hprepare : settings.prepare = .error failure) :
    ∃ e, failure = .preset e ∧ e.name ∈ settings.presets ∧ e.name ≠ Presets.everyName ∧
      ∀ linter ∈ Presets.linters, linter.name ≠ e.name := by
  unfold prepare at hprepare
  rw [h.batchSize?_eq] at hprepare
  split at hprepare
  next e hregistry =>
    cases hprepare
    exact ⟨e, rfl, Presets.unknown_of_resolve (Presets.eq_error_of_map hregistry)⟩
  next => cases hprepare

/-- Settings that were accepted stay sound through all assignments. One that is refused leaves every
field as it was, one that is accepted changes its own field only; and then linters can be made ready
to run unless a preset is unknown, for the size of batches is never refused. -/
theorem assignments_keep_sound {env : Environment} {payload : Value} {settings last : Settings}
    {assignments : List (String × Value)}
    (h : buildFrom env payload = .ok (.accepted settings))
    (hlast : settings.assigned assignments = last) :
    Sound last ∧
    (∀ name value,
      ((∀ after, last.assign name value ≠ .accepted after) →
        settings.assigned (assignments ++ [(name, value)]) = last) ∧
      ∀ after, last.assign name value = .accepted after →
        settings.assigned (assignments ++ [(name, value)]) = after ∧
        AgreeBeyond name last after) ∧
    Linter.batchSize? last.batchSize = .ok last.batchSize ∧
    ∀ failure, last.prepare = .error failure →
      ∃ e, failure = .preset e ∧ e.name ∈ last.presets ∧ e.name ≠ Presets.everyName ∧
        ∀ linter ∈ Presets.linters, linter.name ≠ e.name := by
  subst hlast
  have hsound := (sound_of_buildFrom h).assigned assignments
  refine ⟨hsound, fun name value => ?_, hsound.batchSize?_eq,
    fun failure => hsound.unknown_of_prepare⟩
  have hsnoc : settings.assigned (assignments ++ [(name, value)]) =
      (settings.assigned assignments).tried name value := by
    rw [assigned, List.foldl_append]
    rfl
  rw [hsnoc]
  exact ⟨tried_of_refused, fun after hafter =>
    ⟨tried_of_accepted hafter, (sets_of_assign hafter).agreeBeyond⟩⟩

/-- The size of batches comes from a variable; then zero is refused, truth is one, and a preset is
asked for that there is not. -/
theorem sound_after_refused_batch_size :
    buildFrom ⟨[("SIZE", "5")]⟩ (.table [("batch_size", .text "${SIZE}")]) =
      .ok (.accepted { batchSize := 5 }) ∧
    assigned { batchSize := 5 } [("batch_size", .int 0), ("batch_size", .bool true),
      ("presets", .list [.text "none"])] = { batchSize := 1, presets := ["none"] } ∧
    Sound { batchSize := 1, presets := ["none"] } := by
  have hbuilt : buildFrom ⟨[("SIZE", "5")]⟩ (.table [("batch_size", .text "${SIZE}")]) =
      .ok (.accepted { batchSize := 5 }) := by rfl
  have hlast : assigned { batchSize := 5 } [("batch_size", .int 0), ("batch_size", .bool true),
      ("presets", .list [.text "none"])] = { batchSize := 1, presets := ["none"] } := by rfl
  exact ⟨hbuilt, hlast, (assignments_keep_sound hbuilt hlast).1⟩

end Settings

end Gutter
