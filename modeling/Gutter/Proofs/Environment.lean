import Gutter.Environment
import Gutter.Linter.Basic
import Mathlib.Data.List.Forall2
import Mathlib.Data.List.TakeWhile

/-! Expansion of payloads. A text is read once, from the left, as characters and references, and
each reference to a variable that is set gives way to the text of that variable. Texts of variables
without braces and dollar signs make no new references and break none, so that a second expansion
finds just those which the first one left. -/

namespace Gutter

namespace Value

/-- Neither a text nor made of other values. -/
def isLeaf : Value → Bool
  | .text _ | .list _ | .table _ => false
  | _ => true

/-- Induction over a value and all values in it. -/
@[elab_as_elim]
theorem induction {motive : Value → Prop} (text : ∀ s, motive (.text s))
    (leaf : ∀ value, value.isLeaf = true → motive value)
    (list : ∀ items, (∀ item ∈ items, motive item) → motive (.list items))
    (table : ∀ entries, (∀ entry ∈ entries, motive entry.2) → motive (.table entries))
    (value : Value) : motive value := by
  refine @Value.rec motive (fun items => ∀ item ∈ items, motive item)
    (fun entries => ∀ entry ∈ entries, motive entry.2) (fun entry => motive entry.2) (leaf _ rfl)
    (fun _ => leaf _ rfl) (fun _ => leaf _ rfl) (fun _ => leaf _ rfl) text list table
    (fun _ => leaf _ rfl) (fun _ => leaf _ rfl) (fun _ => leaf _ rfl) ?_ ?_ ?_ ?_ ?_ value
  · exact fun _ h => (List.not_mem_nil h).elim
  · exact fun _ _ hitem hrest => List.forall_mem_cons.mpr ⟨hitem, hrest⟩
  · exact fun _ h => (List.not_mem_nil h).elim
  · exact fun _ _ hentry hrest => List.forall_mem_cons.mpr ⟨hentry, hrest⟩
  · exact fun _ _ hvalue => hvalue

/-- The second value is the first with other texts in it. Lists are as long as they were, tables
have the same names in the same order, and what is no text is the same; each text is related to the
one in its place. -/
inductive Alike (R : String → String → Prop) : Value → Value → Prop
  | text {s t : String} (h : R s t) : Alike R (.text s) (.text t)
  | leaf {value : Value} (h : value.isLeaf = true) : Alike R value value
  | list {items others : List Value} (h : List.Forall₂ (Alike R) items others) :
    Alike R (.list items) (.list others)
  | table {entries others : List (String × Value)}
    (hnames : others.map Prod.fst = entries.map Prod.fst)
    (h : List.Forall₂ (Alike R) (entries.map Prod.snd) (others.map Prod.snd)) :
    Alike R (.table entries) (.table others)

end Value

namespace Environment

theorem find?_override (env other : Environment) (name : String) :
    (env.override other).find? name = (other.find? name).or (env.find? name) :=
  List.lookup_append

/-! ### References -/

section References

variable {name rest after inner : List Char}

/-- What can stand between the braces of a reference. -/
def IsName (name : List Char) : Prop := name ≠ [] ∧ '\x7d' ∉ name

theorem reference?_eq_some :
    reference? inner = some (name, after) ↔ IsName name ∧ inner = name ++ '\x7d' :: after := by
  constructor
  · intro h
    have hsplit := List.takeWhile_append_dropWhile (p := (· ≠ '\x7d')) (l := inner)
    simp only [reference?] at h
    split at h
    · cases h
    next c rest hdrop =>
      split at h
      · cases h
      next hne =>
        cases h
        have hc := List.head?_dropWhile_not (· ≠ '\x7d') inner
        rw [hdrop] at hc hsplit
        obtain rfl : c = '\x7d' := by simpa using hc
        refine ⟨⟨by simpa using hne, fun hm => ?_⟩, hsplit.symm⟩
        simpa using List.mem_takeWhile_imp hm
  · rintro ⟨⟨hne, hm⟩, rfl⟩
    have hall : ∀ c ∈ name, (decide (c ≠ '\x7d')) = true := fun c hc => by
      simpa using fun he : c = '\x7d' => hm (he ▸ hc)
    rw [reference?, List.takeWhile_append_of_pos hall, List.dropWhile_append_of_pos hall]
    simp [hne]

/-- A reference starts the text. -/
def StartsReference (text : List Char) : Prop :=
  ∃ name after, IsName name ∧ text = '$' :: '\x7b' :: (name ++ '\x7d' :: after)

/-- A brace is closed some time after it was opened, but not at once. -/
theorem startsReference_iff :
    StartsReference ('$' :: '\x7b' :: inner) ↔ '\x7d' ∈ inner ∧ inner.head? ≠ some '\x7d' := by
  constructor
  · rintro ⟨name, after, ⟨hne, hm⟩, h⟩
    obtain rfl : inner = name ++ '\x7d' :: after := by simpa using h
    obtain ⟨c, name, rfl⟩ := List.exists_cons_of_ne_nil hne
    simp only [List.mem_cons, not_or] at hm
    exact ⟨by simp, by simpa using Ne.symm hm.1⟩
  · rintro ⟨hm, hhead⟩
    obtain ⟨name, after, rfl, hname⟩ := List.eq_append_cons_of_mem hm
    refine ⟨name, after, ⟨?_, hname⟩, rfl⟩
    rintro rfl
    exact hhead rfl

end References

/-! ### Parts of a text -/

/-- A part of a text: a character that stands for itself, or a reference to a variable. -/
inductive Part
  | plain (c : Char)
  | reference (name : List Char)

namespace Part

/-- What stands for the part once it is expanded. -/
def expanded (env : Environment) : Part → List Char
  | plain c => [c]
  | reference name => env.replacement name

/-- The parts of what stands for the part once it is expanded. -/
def settled (env : Environment) : Part → List Part
  | plain c => [plain c]
  | reference name =>
    match env.find? (String.ofList name) with
    | some text => text.toList.map plain
    | none => [reference name]

end Part

/-- The parts of a text, read from the left: a reference wherever one starts, or a character. -/
inductive HasParts : List Char → List Part → Prop
  | nil : HasParts [] []
  | plain {c : Char} {rest : List Char} {parts : List Part} (hnone : ¬StartsReference (c :: rest))
    (h : HasParts rest parts) : HasParts (c :: rest) (.plain c :: parts)
  | reference {name rest : List Char} {parts : List Part} (hname : IsName name)
    (h : HasParts rest parts) :
    HasParts ('$' :: '\x7b' :: (name ++ '\x7d' :: rest)) (.reference name :: parts)

theorem exists_hasParts (text : List Char) : ∃ parts, HasParts text parts := by
  suffices h : ∀ bound, ∀ text : List Char, text.length ≤ bound → ∃ parts, HasParts text parts from
    h _ text (Nat.le_refl _)
  intro bound
  induction bound with
  | zero =>
    intro text hlength
    obtain rfl := List.length_eq_zero_iff.mp (Nat.le_zero.mp hlength)
    exact ⟨[], .nil⟩
  | succ bound ih =>
    intro text hlength
    by_cases hstarts : StartsReference text
    · obtain ⟨name, after, hname, rfl⟩ := hstarts
      obtain ⟨parts, hparts⟩ := ih after (by simp at hlength; omega)
      exact ⟨_, .reference hname hparts⟩
    · cases text with
      | nil => exact ⟨[], .nil⟩
      | cons c rest =>
        obtain ⟨parts, hparts⟩ := ih rest (by simp at hlength; omega)
        exact ⟨_, .plain hstarts hparts⟩

section Steps

variable {name rest : List Char} (env : Environment) (steps : Nat)

theorem expandWithin_plain {c : Char} (hnone : ¬StartsReference (c :: rest)) :
    env.expandWithin (steps + 1) (c :: rest) = c :: env.expandWithin steps rest := by
  rw [expandWithin.eq_def]
  simp only
  split
  next inner =>
    split
    next name after href =>
      obtain ⟨hname, rfl⟩ := reference?_eq_some.mp href
      exact (hnone ⟨name, after, hname, rfl⟩).elim
    · rfl
  · rfl

theorem expandWithin_reference (hname : IsName name) :
    env.expandWithin (steps + 1) ('$' :: '\x7b' :: (name ++ '\x7d' :: rest)) =
      env.replacement name ++ env.expandWithin steps rest := by
  rw [expandWithin, reference?_eq_some.mpr ⟨hname, rfl⟩]

end Steps

/-- Every part of a text is expanded by itself. -/
theorem HasParts.expandText_eq {text : List Char} {parts : List Part} (h : HasParts text parts)
    (env : Environment) : env.expandText text = parts.flatMap (Part.expanded env) := by
  suffices hsteps : ∀ steps, text.length ≤ steps →
      env.expandWithin steps text = parts.flatMap (Part.expanded env) from
    hsteps _ (Nat.le_refl _)
  induction h with
  | nil =>
    intro steps _
    cases steps <;> rfl
  | plain hnone _ ih =>
    intro steps hsteps
    obtain ⟨steps, rfl⟩ := Nat.exists_eq_add_of_le' (Nat.lt_of_lt_of_le (Nat.succ_pos _) hsteps)
    rw [expandWithin_plain env steps hnone, ih steps (by simpa using hsteps)]
    rfl
  | reference hname _ ih =>
    intro steps hsteps
    obtain ⟨steps, rfl⟩ := Nat.exists_eq_add_of_le' (Nat.lt_of_lt_of_le (Nat.succ_pos _) hsteps)
    rw [expandWithin_reference env steps hname, ih steps (by simp at hsteps; omega)]
    rfl

/-! ### Expanding twice -/

/-- The texts of variables are not empty and hold nothing of which a reference is made. -/
def Calm (env : Environment) : Prop :=
  ∀ name text, env.find? name = some text →
    text ≠ "" ∧ ∀ c ∈ text.toList, c ≠ '$' ∧ c ≠ '\x7b' ∧ c ≠ '\x7d'

section Twice

variable {env first second : Environment} {text : List Char} {parts : List Part}

theorem Calm.toList_ne_nil {name value : String} (h : env.Calm)
    (hfind : env.find? name = some value) : value.toList ≠ [] :=
  fun hnil => (h name value hfind).1 (String.toList_eq_nil_iff.mp hnil)

/-- What is closed in an expanded text was closed in the text itself. -/
theorem HasParts.closed (h : HasParts text parts)
    (hclosed : '\x7d' ∈ parts.flatMap (Part.expanded env)) : '\x7d' ∈ text := by
  induction h with
  | nil => exact hclosed
  | plain _ _ ih =>
    obtain hc | hrest := List.mem_cons.mp hclosed
    · exact hc ▸ List.mem_cons_self
    · exact List.mem_cons_of_mem _ (ih hrest)
  | reference => simp

/-- An expanded text does not start with a brace or the end of one unless the text itself does. -/
theorem HasParts.brace (h : HasParts text parts) (hcalm : env.Calm) {c : Char}
    {rest : List Char} (hc : c = '\x7b' ∨ c = '\x7d')
    (hhead : parts.flatMap (Part.expanded env) = c :: rest) :
    ∃ parts' text', HasParts text' parts' ∧ text = c :: text' ∧
      parts'.flatMap (Part.expanded env) = rest := by
  cases h with
  | nil => cases hhead
  | @plain d after parts' _ h =>
    obtain ⟨rfl, hrest⟩ := List.cons.inj hhead
    exact ⟨parts', after, h, rfl, hrest⟩
  | @reference name after parts' hname h =>
    simp only [List.flatMap_cons, Part.expanded, replacement] at hhead
    split at hhead
    next value hfind =>
      obtain ⟨d, more, hvalue⟩ := List.exists_cons_of_ne_nil (hcalm.toList_ne_nil hfind)
      rw [hvalue] at hhead
      obtain ⟨rfl, -⟩ := List.cons.inj hhead
      obtain ⟨-, hopen, hclose⟩ := (hcalm _ value hfind).2 d (hvalue ▸ List.mem_cons_self)
      exact (hc.elim hopen hclose).elim
    next =>
      obtain ⟨rfl, -⟩ := List.cons.inj hhead
      simp at hc

/-- No reference starts where none started before. -/
theorem HasParts.not_startsReference (h : HasParts text parts) (hcalm : env.Calm) {c : Char}
    (hnone : ¬StartsReference (c :: text)) :
    ¬StartsReference (c :: parts.flatMap (Part.expanded env)) := by
  rintro ⟨name, after, hname, heq⟩
  obtain ⟨rfl, hopen⟩ := List.cons.inj heq
  obtain ⟨parts', text', h', rfl, hinner⟩ := h.brace hcalm (.inl rfl) hopen
  have hstarts := startsReference_iff.mp ⟨name, after, hname, rfl⟩
  rw [← hinner] at hstarts
  refine hnone (startsReference_iff.mpr ⟨h'.closed hstarts.1, fun hhead => hstarts.2 ?_⟩)
  cases h' with
  | nil => cases hhead
  | plain => exact hhead
  | reference => simp at hhead

/-- Characters with which no reference starts are parts of their own. -/
theorem HasParts.append {calm : List Char} (h : HasParts text parts) (hcalm : ∀ c ∈ calm, c ≠ '$') :
    HasParts (calm ++ text) (calm.map .plain ++ parts) := by
  induction calm with
  | nil => exact h
  | cons c calm ih =>
    obtain ⟨hc, hrest⟩ := List.forall_mem_cons.mp hcalm
    refine .plain ?_ (ih hrest)
    rintro ⟨name, after, -, heq⟩
    exact hc (List.cons.inj heq).1

/-- What stands for a text once it is expanded has the parts that its own parts became. -/
theorem HasParts.settled (h : HasParts text parts) (hcalm : env.Calm) :
    HasParts (parts.flatMap (Part.expanded env)) (parts.flatMap (Part.settled env)) := by
  induction h with
  | nil => exact .nil
  | plain hnone h ih => exact .plain (h.not_startsReference hcalm hnone) ih
  | @reference name rest parts hname h ih =>
    simp only [List.flatMap_cons, Part.expanded, Part.settled, replacement]
    cases hfind : env.find? (String.ofList name) with
    | none =>
      have hkept := HasParts.reference hname ih
      simpa using hkept
    | some value => exact ih.append fun c hc => ((hcalm _ value hfind).2 c hc).1

theorem Part.expanded_settled (part : Part) :
    (part.settled first).flatMap (expanded second) = part.expanded (second.override first) := by
  cases part with
  | plain c => rfl
  | reference name =>
    simp only [settled, expanded, replacement, find?_override]
    cases first.find? (String.ofList name) with
    | none => simp [expanded, replacement]
    | some value => simp [List.flatMap_map, expanded]

theorem expandText_expandText (hcalm : first.Calm) (text : List Char) :
    second.expandText (first.expandText text) = (second.override first).expandText text := by
  obtain ⟨parts, hparts⟩ := exists_hasParts text
  rw [hparts.expandText_eq first, (hparts.settled hcalm).expandText_eq second,
    hparts.expandText_eq, List.flatMap_assoc]
  simp only [Part.expanded_settled]

theorem expandText_idem (hcalm : env.Calm) (text : List Char) :
    env.expandText (env.expandText text) = env.expandText text := by
  obtain ⟨parts, hparts⟩ := exists_hasParts text
  have hself : Part.expanded (env.override env) = Part.expanded env := by
    funext part
    cases part with
    | plain c => rfl
    | reference name => simp [Part.expanded, replacement, find?_override]
  rw [expandText_expandText hcalm, hparts.expandText_eq, hparts.expandText_eq, hself]

end Twice

/-! ### Payloads -/

section Payloads

theorem expandItems_eq_map (env : Environment) (items : List Value) :
    env.expandItems items = items.map env.expand := by
  induction items with
  | nil => rfl
  | cons item rest ih => rw [expandItems, ih, List.map_cons]

theorem expandEntries_eq_map (env : Environment) (entries : List (String × Value)) :
    env.expandEntries entries = entries.map fun (name, value) => (name, env.expand value) := by
  induction entries with
  | nil => rfl
  | cons entry rest ih => rw [expandEntries, ih, List.map_cons]

theorem expand_list (env : Environment) (items : List Value) :
    env.expand (.list items) = .list (items.map env.expand) := by
  rw [expand, expandItems_eq_map]

theorem expand_table (env : Environment) (entries : List (String × Value)) :
    env.expand (.table entries) =
      .table (entries.map fun (name, value) => (name, env.expand value)) := by
  rw [expand, expandEntries_eq_map]

theorem expand_leaf (env : Environment) {value : Value} (h : value.isLeaf = true) :
    env.expand value = value := by
  cases value <;> first | rfl | cases h

/-- Two expansions are one wherever they are one of every text. -/
theorem expand_expand {first second both : Environment}
    (h : ∀ text, second.expandText (first.expandText text) = both.expandText text)
    (payload : Value) : second.expand (first.expand payload) = both.expand payload := by
  induction payload using Value.induction with
  | text s => simp only [expand, String.toList_ofList, h]
  | leaf value hleaf => simp only [expand_leaf _ hleaf]
  | list items ih =>
    simp only [expand_list, List.map_map]
    exact congrArg Value.list (List.map_congr_left ih)
  | table entries ih =>
    simp only [expand_table, List.map_map]
    refine congrArg Value.table (List.map_congr_left fun entry hm => ?_)
    exact congrArg (Prod.mk entry.1) (ih entry hm)

theorem alike_expand {env : Environment} {R : String → String → Prop}
    (h : ∀ s : String, R s (String.ofList (env.expandText s.toList))) (payload : Value) :
    Value.Alike R payload (env.expand payload) := by
  induction payload using Value.induction with
  | text s => exact .text (h s)
  | leaf value hleaf =>
    rw [expand_leaf _ hleaf]
    exact .leaf hleaf
  | list items ih =>
    rw [expand_list]
    exact .list (List.forall₂_map_right_iff.mpr (List.forall₂_same.mpr ih))
  | table entries ih =>
    rw [expand_table]
    refine .table (by simp) ?_
    rw [List.map_map, List.forall₂_map_left_iff, List.forall₂_map_right_iff]
    exact List.forall₂_same.mpr ih

end Payloads

/-! ### Placeholders -/

/-- The second text is the first with some of the references in it replaced, and nothing else. -/
inductive Replaced (env : Environment) : List Char → List Char → Prop
  | nil : Replaced env [] []
  | keep (c : Char) {text after : List Char} (h : Replaced env text after) :
    Replaced env (c :: text) (c :: after)
  | replace {name value : String} {text after : List Char} (hfind : env.find? name = some value)
    (h : Replaced env text after) :
    Replaced env ('$' :: '\x7b' :: (name.toList ++ '\x7d' :: text)) (value.toList ++ after)

section Replaced

variable {env : Environment} {text after : List Char}

theorem Replaced.append (h : Replaced env text after) (front : List Char) :
    Replaced env (front ++ text) (front ++ after) := by
  induction front with
  | nil => exact h
  | cons c front ih => exact .keep c ih

theorem HasParts.replaced {parts : List Part} (h : HasParts text parts) (env : Environment) :
    Replaced env text (parts.flatMap (Part.expanded env)) := by
  induction h with
  | nil => exact .nil
  | plain _ _ ih => exact .keep _ ih
  | @reference name rest parts _ _ ih =>
    simp only [List.flatMap_cons, Part.expanded, replacement]
    cases hfind : env.find? (String.ofList name) with
    | some value =>
      have h := Replaced.replace hfind ih
      rwa [String.toList_ofList] at h
    | none =>
      have h := ih.append ('$' :: '\x7b' :: name ++ ['\x7d'])
      simpa using h

/-- A text without a dollar sign stays in its place. -/
theorem Replaced.of_append {calm : List Char} (hcalm : '$' ∉ calm)
    (h : Replaced env (calm ++ text) after) :
    ∃ rest, after = calm ++ rest ∧ Replaced env text rest := by
  induction calm generalizing after with
  | nil => exact ⟨after, rfl, h⟩
  | cons c calm ih =>
    obtain ⟨hc, hrest⟩ := not_or.mp (mt List.mem_cons.mpr hcalm)
    generalize htext : c :: calm ++ text = whole at h
    cases h with
    | nil => cases htext
    | keep _ h =>
      obtain ⟨rfl, rfl⟩ := List.cons.inj htext
      obtain ⟨rest, rfl, hrest⟩ := ih hrest h
      exact ⟨rest, rfl, hrest⟩
    | replace => exact (hc (List.cons.inj htext).1.symm).elim

/-- No variable has a dollar sign in its name. -/
def NamesCalm (env : Environment) : Prop :=
  ∀ name value, env.find? name = some value → '$' ∉ name.toList

/-- A dollar sign without a brace belongs to no reference that is replaced. -/
theorem Replaced.split (h : Replaced env text after) (hnames : env.NamesCalm)
    {front body back : List Char} (hbody : '$' ∉ body) (hbrace : (body ++ back).head? ≠ some '\x7b')
    (htext : text = front ++ '$' :: (body ++ back)) :
    ∃ front' back', after = front' ++ '$' :: (body ++ back') ∧ Replaced env front front' ∧
      Replaced env back back' := by
  induction h generalizing front with
  | nil => simp at htext
  | @keep c text after h ih =>
    cases front with
    | nil =>
      obtain ⟨rfl, rfl⟩ := List.cons.inj htext
      obtain ⟨rest, rfl, hrest⟩ := h.of_append hbody
      exact ⟨[], rest, rfl, .nil, hrest⟩
    | cons d front =>
      obtain ⟨rfl, rfl⟩ := List.cons.inj htext
      obtain ⟨front', back', rfl, hfront, hback⟩ := ih rfl
      exact ⟨c :: front', back', rfl, .keep c hfront, hback⟩
  | @replace name value text after hfind h ih =>
    let reference := '$' :: '\x7b' :: (name.toList ++ ['\x7d'])
    have hsplit : reference ++ text = front ++ '$' :: (body ++ back) := by
      simpa [reference] using htext
    have hlater (more : List Char) (hfront : front = reference ++ more)
        (hmore : text = more ++ '$' :: (body ++ back)) :
        ∃ front' back', value.toList ++ after = front' ++ '$' :: (body ++ back') ∧
          Replaced env front front' ∧ Replaced env back back' := by
      obtain ⟨front', back', rfl, hrest, hback⟩ := ih hmore
      refine ⟨value.toList ++ front', back', by simp, ?_, hback⟩
      have hreplaced := Replaced.replace hfind hrest
      rw [hfront]
      simpa [reference] using hreplaced
    obtain ⟨more, hfront, hmore⟩ | ⟨more, hreference, hmore⟩ :=
      List.append_eq_append_iff.mp hsplit
    · exact hlater more hfront hmore
    cases more with
    | nil => exact hlater [] (by simpa using hreference.symm) (by simpa using hmore.symm)
    | cons c more =>
      obtain ⟨rfl, hbehind⟩ := List.cons.inj hmore
      cases front with
      | nil =>
        obtain ⟨-, hopen⟩ := List.cons.inj hreference
        rw [← hopen] at hbehind
        exact (hbrace (by rw [hbehind]; rfl)).elim
      | cons d front =>
        obtain ⟨-, hinner⟩ := List.cons.inj hreference
        have hm : '$' ∈ '\x7b' :: (name.toList ++ ['\x7d']) := by
          rw [hinner]
          simp
        have hname := hnames name value hfind
        simp [hname] at hm

/-- Wherever `marker` stands in a text it stands in the replaced text as well, and what is between
two places comes from what was between them. -/
theorem Replaced.intercalate (hnames : env.NamesCalm) {body : List Char} (hbody : '$' ∉ body)
    (hbrace : ∀ back, (body ++ back).head? ≠ some '\x7b') {pieces : List (List Char)}
    (h : Replaced env (('$' :: body).intercalate pieces) after) :
    ∃ others, after = ('$' :: body).intercalate others ∧
      List.Forall₂ (Replaced env) pieces others := by
  induction pieces generalizing after with
  | nil =>
    cases h
    exact ⟨[], rfl, .nil⟩
  | cons piece rest ih =>
    cases rest with
    | nil => exact ⟨[after], by simp, .cons (by simpa using h) .nil⟩
    | cons next more =>
      obtain ⟨front, back, rfl, hfront, hback⟩ := h.split hnames hbody (hbrace _) (by
        rw [List.intercalate_cons_cons, List.append_assoc, List.cons_append])
      obtain ⟨others, rfl, hrest⟩ := ih hback
      refine ⟨front :: others, ?_, .cons hfront hrest⟩
      cases hrest with
      | cons => simp

end Replaced

/-- The first text expands to the second: every part of it does. -/
def Expands (env : Environment) (s t : String) : Prop :=
  ∃ parts, HasParts s.toList parts ∧ t.toList = parts.flatMap (Part.expanded env)

theorem expands (env : Environment) (s : String) :
    Expands env s (String.ofList (env.expandText s.toList)) := by
  obtain ⟨parts, hparts⟩ := exists_hasParts s.toList
  exact ⟨parts, hparts, by rw [String.toList_ofList, hparts.expandText_eq]⟩

/-- All placeholders of the first text stand in the second, in the same order, and what is between
two of them comes from what was between them. -/
def KeepsPlaceholders (env : Environment) (s t : String) : Prop :=
  ∀ pieces, s.toList = Linter.defaultPlaceholder.toList.intercalate pieces →
    ∃ others, t.toList = Linter.defaultPlaceholder.toList.intercalate others ∧
      List.Forall₂ (Replaced env) pieces others

theorem keepsPlaceholders {env : Environment} (hnames : env.NamesCalm) (s : String) :
    KeepsPlaceholders env s (String.ofList (env.expandText s.toList)) := by
  intro pieces hpieces
  obtain ⟨parts, hparts⟩ := exists_hasParts s.toList
  have hmarker : Linter.defaultPlaceholder.toList = '$' :: "FILENAME".toList := by rfl
  have hreplaced := hparts.replaced env
  rw [hpieces, hmarker] at hreplaced
  rw [String.toList_ofList, hparts.expandText_eq, hmarker]
  exact hreplaced.intercalate hnames (by decide) (by simp)

/-- Expansion is one pass over a payload that keeps its structure. A second expansion after one with
calm texts is as good as a single one in which those come first; each text is expanded part by part,
and all else is as it was; and no placeholder is lost unless a variable has a dollar sign in its
name. -/
theorem expansion_is_one_pass (first second : Environment) (payload : Value) :
    (first.Calm →
      second.expand (first.expand payload) = (second.override first).expand payload ∧
      first.expand (first.expand payload) = first.expand payload) ∧
    Value.Alike first.Expands payload (first.expand payload) ∧
    (first.NamesCalm → Value.Alike first.KeepsPlaceholders payload (first.expand payload)) :=
  ⟨fun hcalm => ⟨expand_expand (expandText_expandText hcalm) payload,
      expand_expand (expandText_idem hcalm) payload⟩,
    alike_expand (expands first) payload,
    fun hnames => alike_expand (keepsPlaceholders hnames) payload⟩

/-- The tool of a linter is set, and its arguments are set later. -/
theorem command_expands_in_one_pass :
    let tools : Environment := ⟨[("TOOL", "mytool")]⟩
    let later : Environment := ⟨[("TOOL", "other"), ("ARGS", "${TOOL}")]⟩
    let payload : Value := .table [
      ("command", .text "${TOOL} ${ARGS} $\x7b\x7d $FILENAME $${TOOL}"),
      ("sizes", .list [.int 3, .text "$\x7bARGS"])]
    tools.Calm ∧ tools.NamesCalm ∧
      later.expand (tools.expand payload) =
        .table [("command", .text "mytool ${TOOL} $\x7b\x7d $FILENAME $mytool"),
          ("sizes", .list [.int 3, .text "$\x7bARGS"])] ∧
      tools.expand (tools.expand payload) = tools.expand payload ∧
      Value.Alike tools.KeepsPlaceholders payload (tools.expand payload) := by
  intro tools later payload
  have htools (name value : String) (h : tools.find? name = some value) :
      name = "TOOL" ∧ value = "mytool" := by
    simp only [tools, find?, List.lookup_cons] at h
    split at h
    next hname => exact ⟨eq_of_beq hname, (Option.some.inj h).symm⟩
    · cases h
  have hcalm : tools.Calm := by
    intro name value h
    obtain ⟨rfl, rfl⟩ := htools name value h
    simp
  have hnames : tools.NamesCalm := by
    intro name value h
    obtain ⟨rfl, rfl⟩ := htools name value h
    simp
  obtain ⟨htwice, -, hkeeps⟩ := expansion_is_one_pass tools later payload
  obtain ⟨hlater, hself⟩ := htwice hcalm
  exact ⟨hcalm, hnames, hlater.trans (by rfl), hself, hkeeps hnames⟩

end Environment

end Gutter
