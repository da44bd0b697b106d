import Gutter.WarningSet
import Mathlib.Data.Int.Order.Basic
import Mathlib.Data.List.Induction
import Mathlib.Data.List.Nodup
import Mathlib.Data.List.Perm.Subperm
import Mathlib.Data.Nat.Basic

/-! Warnings grouped by line: what a line holds after warnings are added is what it held before,
followed by those of them that are about it. So the list of a set of warnings is the list that the
set came from, sorted by line, and the warnings of a line keep their order. No entry of such a set
is empty, so what its lines hold tells it from other sets. -/

namespace Gutter.WarningSet

/-! ### What a line holds -/

/-- The warning is about the line. -/
def isOn (line : Int) (warning : Warning) : Bool := (warning.line : Int) = line

theorem find?_insertAt (line other : Int) (warning : Warning) (lines : List (Int × List Warning)) :
    (insertAt line warning lines).find? (fun entry => entry.1 = other) =
      if other = line then
        some (line, ((lines.find? fun entry => entry.1 = line).map (·.2)).getD [] ++ [warning])
      else lines.find? fun entry => entry.1 = other := by
  induction lines with
  | nil => by_cases h : other = line <;> simp [insertAt, h, eq_comm]
  | cons entry rest ih =>
    obtain ⟨key, warnings⟩ := entry
    by_cases hk : key = line
    · subst hk
      by_cases ho : other = key
      · simp [insertAt, ho]
      · have hne : ¬key = other := fun e => ho e.symm
        simp [insertAt, ho, hne]
    · by_cases ho : other = line
      · subst ho
        simp [insertAt, hk, ih]
      · by_cases hko : key = other <;> simp [insertAt, hk, ho, hko, ih]

theorem forLine_add (set : WarningSet) (warning : Warning) (line : Int) :
    (set.add warning).forLine line =
      set.forLine line ++ [warning].filter (isOn line) := by
  by_cases h : line = warning.line
  · simp [forLine, find?, add, find?_insertAt, isOn, h]
  · have hne : ¬(warning.line : Int) = line := fun e => h e.symm
    simp [forLine, find?, add, find?_insertAt, isOn, h, hne]

@[simp] theorem addAll_nil (set : WarningSet) : set.addAll [] = set := rfl

theorem addAll_append (set : WarningSet) (first second : List Warning) :
    set.addAll (first ++ second) = (set.addAll first).addAll second :=
  List.foldl_append

theorem forLine_addAll (set : WarningSet) (warnings : List Warning) (line : Int) :
    (set.addAll warnings).forLine line =
      set.forLine line ++ warnings.filter (isOn line) := by
  induction warnings generalizing set with
  | nil => simp
  | cons warning rest ih =>
    have hstep : set.addAll (warning :: rest) = (set.add warning).addAll rest := rfl
    rw [hstep, ih, forLine_add, List.append_assoc, ← List.filter_append]
    rfl

@[simp] theorem forLine_empty (line : Int) : empty.forLine line = [] := rfl

/-- Each line of a set holds the warnings about it, in their order. -/
theorem forLine_ofList (warnings : List Warning) (line : Int) :
    (ofList warnings).forLine line = warnings.filter (isOn line) := by
  rw [ofList, forLine_addAll, forLine_empty, List.nil_append]

/-- Warnings in ascending order of their lines; those of a line keep their order. -/
def sorted (warnings : List Warning) : List Warning :=
  warnings.mergeSort fun a b => a.line ≤ b.line

/-! ### How many there are -/

theorem count_insertAt (line : Int) (warning : Warning) (lines : List (Int × List Warning)) :
    count ⟨insertAt line warning lines⟩ = count ⟨lines⟩ + 1 := by
  induction lines with
  | nil => rfl
  | cons entry rest ih =>
    obtain ⟨key, warnings⟩ := entry
    simp only [count, insertAt] at ih ⊢
    split
    · simp only [List.foldr_cons, List.length_append, List.length_singleton]
      omega
    · simp only [List.foldr_cons, ih]
      omega

theorem count_addAll (set : WarningSet) (warnings : List Warning) :
    (set.addAll warnings).count = set.count + warnings.length := by
  induction warnings generalizing set with
  | nil => rfl
  | cons warning rest ih =>
    have hstep : set.addAll (warning :: rest) = (set.add warning).addAll rest := rfl
    have hadd : (set.add warning).count = set.count + 1 := count_insertAt ..
    rw [hstep, ih, hadd, List.length_cons]
    omega

/-- A set holds each warning that it came from once. -/
theorem count_ofList (warnings : List Warning) : (ofList warnings).count = warnings.length :=
  (count_addAll empty warnings).trans (Nat.zero_add _)

/-! ### Lines -/

theorem keys_insertAt (line : Int) (warning : Warning) (lines : List (Int × List Warning)) :
    (insertAt line warning lines).map (·.1) =
      if line ∈ lines.map (·.1) then lines.map (·.1) else lines.map (·.1) ++ [line] := by
  induction lines with
  | nil => rfl
  | cons entry rest ih =>
    obtain ⟨key, warnings⟩ := entry
    by_cases hkey : key = line
    · simp [insertAt, hkey]
    · simp only [insertAt, if_neg hkey, List.map_cons, ih, List.mem_cons, Ne.symm hkey, false_or]
      split <;> rfl

/-- The lines that have warnings, each once. -/
theorem keys_addAll (set : WarningSet) (h : (set.lines.map (·.1)).Nodup)
    (warnings : List Warning) :
    ((set.addAll warnings).lines.map (·.1)).Nodup ∧
      ∀ line, line ∈ (set.addAll warnings).lines.map (·.1) ↔
        line ∈ set.lines.map (·.1) ∨ ∃ warning ∈ warnings, (warning.line : Int) = line := by
  induction warnings generalizing set with
  | nil => exact ⟨h, by simp [addAll_nil]⟩
  | cons warning rest ih =>
    have hkeys : (set.add warning).lines.map (·.1) = _ := keys_insertAt ..
    have hadd : ((set.add warning).lines.map (·.1)).Nodup ∧ ∀ line,
        line ∈ (set.add warning).lines.map (·.1) ↔
          line ∈ set.lines.map (·.1) ∨ (warning.line : Int) = line := by
      rw [hkeys]
      split
      next hmem =>
        refine ⟨h, fun line => ⟨.inl, ?_⟩⟩
        rintro (hline | rfl)
        · exact hline
        · exact hmem
      next hnew =>
        refine ⟨List.nodup_append.mpr ⟨h, List.nodup_singleton _, ?_⟩, fun line => ?_⟩
        · rintro key hkey _ hlast rfl
          exact hnew (List.mem_singleton.mp hlast ▸ hkey)
        · rw [List.mem_append, List.mem_singleton, eq_comm (a := line)]
    obtain ⟨hnodup, hmem⟩ := ih (set.add warning) hadd.1
    refine ⟨hnodup, fun line => ?_⟩
    rw [show set.addAll (warning :: rest) = (set.add warning).addAll rest from rfl, hmem,
      hadd.2, or_assoc, List.exists_mem_cons_iff]

/-! ### Order -/

section Order

variable {α : Type} {key : α → Int} {list : List α}

/-- An ascending list has what is of the least key first. -/
theorem filter_append_filter {least : Int} (hsorted : list.Pairwise fun a b => key a ≤ key b)
    (hleast : ∀ x ∈ list, least ≤ key x) :
    list.filter (key · = least) ++ list.filter (key · ≠ least) = list := by
  induction list with
  | nil => rfl
  | cons x rest ih =>
    obtain ⟨hx, hrest⟩ := List.pairwise_cons.mp hsorted
    have ih := ih hrest fun y hy => hleast y (List.mem_cons_of_mem _ hy)
    by_cases hkey : key x = least
    · rw [List.filter_cons_of_pos (by simpa using hkey),
        List.filter_cons_of_neg (by simpa using hkey), List.cons_append, ih]
    · -- Nothing that follows has the least key.
      have hmore (y : α) (hy : y ∈ rest) : key y ≠ least := by
        have hle := hx y hy
        have hge := hleast x List.mem_cons_self
        omega
      have hnone : rest.filter (key · = least) = [] :=
        List.filter_eq_nil_iff.mpr fun y hy => by simpa using hmore y hy
      rw [List.filter_cons_of_neg (by simpa using hkey),
        List.filter_cons_of_pos (by simpa using hkey), hnone, List.nil_append,
        List.filter_eq_self.mpr fun y hy => decide_eq_true (hmore y hy)]

/-- An ascending list is put together from what is of each key. -/
theorem flatMap_filter {keys : List Int} (hkeys : keys.Pairwise (· < ·))
    (hsorted : list.Pairwise fun a b => key a ≤ key b) (hall : ∀ x ∈ list, key x ∈ keys) :
    keys.flatMap (fun k => list.filter (key · = k)) = list := by
  induction keys generalizing list with
  | nil => exact (List.eq_nil_iff_forall_not_mem.mpr fun x hx => List.not_mem_nil (hall x hx)).symm
  | cons least rest ih =>
    obtain ⟨hless, hrest⟩ := List.pairwise_cons.mp hkeys
    have hleast (x : α) (hx : x ∈ list) : least ≤ key x := by
      obtain he | hm := List.mem_cons.mp (hall x hx)
      · exact Int.le_of_eq he.symm
      · exact Int.le_of_lt (hless _ hm)
    have hothers : rest.flatMap (fun k => list.filter (key · = k)) =
        list.filter (key · ≠ least) := by
      have hlater : rest.flatMap (fun k => (list.filter (key · ≠ least)).filter (key · = k)) =
          list.filter (key · ≠ least) := ih hrest (hsorted.filter _) fun x hx => by
        obtain ⟨hx, hne⟩ := List.mem_filter.mp hx
        exact (List.mem_cons.mp (hall x hx)).resolve_left (of_decide_eq_true hne)
      refine (List.flatMap_congr fun k hk => ?_).trans hlater
      rw [List.filter_filter]
      refine List.filter_congr fun x _ => ?_
      have hne : k ≠ least := Int.ne_of_gt (hless k hk)
      by_cases hx : key x = k <;> simp [hx, hne]
    rw [List.flatMap_cons, hothers, filter_append_filter hsorted hleast]

end Order

section Keys

variable {α β : Type} [LE β] [DecidableLE β] [Std.IsLinearPreorder β] (key : α → β)

theorem le_trans_key (a b c : α) (hab : decide (key a ≤ key b) = true)
    (hbc : decide (key b ≤ key c) = true) : decide (key a ≤ key c) = true :=
  decide_eq_true (Std.le_trans (of_decide_eq_true hab) (of_decide_eq_true hbc))

theorem le_total_key (a b : α) : (decide (key a ≤ key b) || decide (key b ≤ key a)) = true := by
  simpa using Std.le_total (a := key a) (b := key b)

/-- What is sorted by a key is ascending. -/
theorem pairwise_mergeSort_key (list : List α) :
    (list.mergeSort fun a b => key a ≤ key b).Pairwise fun a b => key a ≤ key b :=
  (List.pairwise_mergeSort (le_trans_key key) (le_total_key key) list).imp
    fun h => of_decide_eq_true h

end Keys

section Sorted

variable (warnings : List Warning)

theorem pairwise_sorted : (sorted warnings).Pairwise fun a b => a.line ≤ b.line :=
  pairwise_mergeSort_key Warning.line warnings

theorem sorted_perm : (sorted warnings).Perm warnings := List.mergeSort_perm ..

/-- Sorting keeps the order of the warnings of a line. -/
theorem filter_sorted (line : Int) :
    (sorted warnings).filter (isOn line) = warnings.filter (isOn line) := by
  have hline :
      (warnings.filter (isOn line)).Pairwise fun a b => decide (a.line ≤ b.line) = true := by
    refine List.pairwise_iff_forall_sublist.mpr fun {a b} hab => ?_
    have ha : isOn line a = true := (List.mem_filter.mp (hab.subset List.mem_cons_self)).2
    have hb : isOn line b = true := (List.mem_filter.mp (hab.subset (by simp))).2
    simp only [isOn, decide_eq_true_eq] at ha hb ⊢
    omega
  have hsublist : (warnings.filter (isOn line)).Sublist (sorted warnings) :=
    List.sublist_mergeSort (le_trans_key Warning.line) (le_total_key Warning.line) hline
      List.filter_sublist
  have hfilter := hsublist.filter (isOn line)
  rw [List.filter_filter, List.filter_congr fun x _ => Bool.and_self _] at hfilter
  exact (hfilter.eq_of_length ((sorted_perm warnings).filter _).length_eq.symm).symm

/-- A set lists the warnings that it came from in ascending order. -/
theorem toList_ofList : (ofList warnings).toList = sorted warnings := by
  obtain ⟨hnodup, hmem⟩ := keys_addAll empty List.nodup_nil warnings
  have hperm : (ofList warnings).sortedLines.Perm ((ofList warnings).lines.map (·.1)) :=
    List.mergeSort_perm ..
  have hle : (ofList warnings).sortedLines.Pairwise (· ≤ ·) := pairwise_mergeSort_key id _
  have hlt : (ofList warnings).sortedLines.Pairwise (· < ·) :=
    (hle.and (hperm.nodup_iff.mpr hnodup)).imp fun h => lt_of_le_of_ne h.1 h.2
  have hall (warning : Warning) (hw : warning ∈ sorted warnings) :
      (warning.line : Int) ∈ (ofList warnings).sortedLines :=
    hperm.mem_iff.mpr ((hmem _).mpr (.inr ⟨warning, (sorted_perm warnings).mem_iff.mp hw, rfl⟩))
  calc (ofList warnings).toList
      = (ofList warnings).sortedLines.flatMap fun line => (sorted warnings).filter (isOn line) :=
        List.flatMap_congr fun line _ => by rw [forLine_ofList, filter_sorted]
    _ = sorted warnings :=
        flatMap_filter hlt ((pairwise_sorted warnings).imp Int.ofNat_le.mpr) hall

end Sorted

/-! ### Sets as groups -/

/-- Each line has one entry, and no entry is without warnings. -/
structure Grouped (set : WarningSet) : Prop where
  nodup : (set.lines.map (·.1)).Nodup
  filled : ∀ entry ∈ set.lines, entry.2 ≠ []

theorem Grouped.empty : Grouped empty := ⟨List.nodup_nil, by simp [WarningSet.empty]⟩

theorem filled_insertAt (line : Int) (warning : Warning) {lines : List (Int × List Warning)}
    (h : ∀ entry ∈ lines, entry.2 ≠ []) :
    ∀ entry ∈ insertAt line warning lines, entry.2 ≠ [] := by
  induction lines with
  | nil => simp [insertAt]
  | cons first rest ih =>
    obtain ⟨hfirst, hrest⟩ := List.forall_mem_cons.mp h
    unfold insertAt
    split
    · exact List.forall_mem_cons.mpr ⟨by simp, hrest⟩
    · exact List.forall_mem_cons.mpr ⟨hfirst, ih hrest⟩

theorem Grouped.add {set : WarningSet} (h : Grouped set) (warning : Warning) :
    Grouped (set.add warning) :=
  ⟨(keys_addAll set h.nodup [warning]).1, filled_insertAt _ _ h.filled⟩

theorem Grouped.addAll {set : WarningSet} (h : Grouped set) (warnings : List Warning) :
    Grouped (set.addAll warnings) := by
  induction warnings generalizing set with
  | nil => exact h
  | cons warning rest ih => exact ih (h.add warning)

theorem grouped_ofList (warnings : List Warning) : Grouped (ofList warnings) :=
  Grouped.empty.addAll warnings

section Grouped

variable {a b : WarningSet}

theorem Grouped.find?_eq_some_iff (h : Grouped a) {line : Int} {warnings : List Warning} :
    a.find? line = some warnings ↔ (line, warnings) ∈ a.lines := by
  constructor
  · intro hfind
    obtain ⟨entry, hentry, rfl⟩ := Option.map_eq_some_iff.mp hfind
    obtain rfl : entry.1 = line := by simpa using List.find?_some hentry
    exact List.mem_of_find?_eq_some hentry
  · intro hmem
    obtain ⟨entry, hentry⟩ : ∃ entry, a.lines.find? (fun entry => entry.1 = line) = some entry :=
      Option.isSome_iff_exists.mp (List.find?_isSome.mpr ⟨_, hmem, by simp⟩)
    have hkey : entry.1 = line := by simpa using List.find?_some hentry
    obtain rfl : entry = (line, warnings) :=
      List.inj_on_of_nodup_map h.nodup (List.mem_of_find?_eq_some hentry) hmem hkey
    rw [find?, hentry, Option.map_some]

/-- A line has an entry when there are warnings about it. -/
theorem Grouped.find?_eq_some_iff_forLine (h : Grouped a) {line : Int} {warnings : List Warning} :
    a.find? line = some warnings ↔ a.forLine line = warnings ∧ warnings ≠ [] := by
  rw [forLine]
  constructor
  · intro hfind
    exact ⟨by rw [hfind, Option.getD_some], h.filled _ (h.find?_eq_some_iff.mp hfind)⟩
  · rintro ⟨rfl, hne⟩
    cases hfind : a.find? line with
    | none => simp [hfind] at hne
    | some found => rfl

theorem Grouped.mem_keys (h : Grouped a) {line : Int} :
    line ∈ a.lines.map (·.1) ↔ a.forLine line ≠ [] := by
  constructor
  · intro hmem
    obtain ⟨⟨_, warnings⟩, hentry, rfl⟩ := List.mem_map.mp hmem
    obtain ⟨rfl, hne⟩ := h.find?_eq_some_iff_forLine.mp (h.find?_eq_some_iff.mpr hentry)
    exact hne
  · intro hne
    have hfind := h.find?_eq_some_iff_forLine.mpr ⟨rfl, hne⟩
    exact List.mem_map_of_mem (h.find?_eq_some_iff.mp hfind)

/-- Sets that agree on every line have entries for the same lines. -/
theorem Grouped.keys_perm (ha : Grouped a) (hb : Grouped b)
    (h : ∀ line, a.forLine line = b.forLine line) :
    (a.lines.map (·.1)).Perm (b.lines.map (·.1)) :=
  (List.perm_ext_iff_of_nodup ha.nodup hb.nodup).mpr fun line => by
    rw [ha.mem_keys, hb.mem_keys, h]

theorem Grouped.same_iff (ha : Grouped a) (hb : Grouped b) :
    same a b = true ↔ ∀ line, a.forLine line = b.forLine line := by
  simp only [same, Bool.and_eq_true, List.all_eq_true, decide_eq_true_eq]
  constructor
  · rintro ⟨hsize, hall⟩ line
    have hfound {line : Int} (hline : line ∈ a.lines.map (·.1)) :
        b.find? line = some (a.forLine line) := by
      obtain ⟨entry, hentry, rfl⟩ := List.mem_map.mp hline
      rw [(ha.find?_eq_some_iff_forLine.mp (ha.find?_eq_some_iff.mpr hentry)).1]
      exact hall entry hentry
    -- Lines of `a` are lines of `b`, and there are as many of them.
    have hperm : (a.lines.map (·.1)).Perm (b.lines.map (·.1)) := by
      refine (List.subperm_of_subset ha.nodup fun line hline => ?_).perm_of_length_le ?_
      · exact hb.mem_keys.mpr <| by
          rw [(hb.find?_eq_some_iff_forLine.mp (hfound hline)).1]
          exact ha.mem_keys.mp hline
      · rw [List.length_map, List.length_map]
        exact Nat.le_of_eq hsize.symm
    by_cases hline : line ∈ a.lines.map (·.1)
    · exact ((hb.find?_eq_some_iff_forLine.mp (hfound hline)).1).symm
    · rw [not_ne_iff.mp (ha.mem_keys.not.mp hline),
        not_ne_iff.mp (hb.mem_keys.not.mp (hperm.mem_iff.not.mp hline))]
  · intro h
    refine ⟨by simpa [size] using (ha.keys_perm hb h).length_eq, fun entry hentry => ?_⟩
    rw [hb.find?_eq_some_iff_forLine, ← h]
    exact ha.find?_eq_some_iff_forLine.mp (ha.find?_eq_some_iff.mpr hentry)

/-- Sets that agree on every line list the same warnings. -/
theorem Grouped.toList_congr (ha : Grouped a) (hb : Grouped b)
    (h : ∀ line, a.forLine line = b.forLine line) : a.toList = b.toList := by
  have hperm : a.sortedLines.Perm b.sortedLines :=
    (List.mergeSort_perm _ _).trans ((ha.keys_perm hb h).trans (List.mergeSort_perm _ _).symm)
  have hlines : a.sortedLines = b.sortedLines :=
    hperm.eq_of_pairwise (fun _ _ _ _ => Int.le_antisymm) (pairwise_mergeSort_key id _)
      (pairwise_mergeSort_key id _)
  rw [toList, toList, hlines]
  exact List.flatMap_congr fun line _ => h line

end Grouped

theorem eraseDups_concat (list : List Int) (x : Int) :
    (list ++ [x]).eraseDups = if x ∈ list then list.eraseDups else list.eraseDups ++ [x] := by
  rw [List.eraseDups_append, List.removeAll]
  by_cases h : x ∈ list <;> simp [h, List.eraseDups_cons]

/-- The lines stand in the order in which they are first met. -/
theorem keys_ofList (warnings : List Warning) :
    (ofList warnings).lines.map (·.1) =
      (warnings.map fun warning => (warning.line : Int)).eraseDups := by
  induction warnings using List.reverseRecOn with
  | nil => rfl
  | append_singleton warnings last ih =>
    have hadd : ofList (warnings ++ [last]) = (ofList warnings).add last :=
      addAll_append empty warnings [last]
    rw [hadd, add, keys_insertAt, ih, List.map_append, List.map_singleton, eraseDups_concat]
    simp only [List.mem_eraseDups]

theorem filter_toList_ofList (warnings : List Warning) (line : Int) :
    (ofList warnings).toList.filter (isOn line) = (ofList warnings).forLine line := by
  rw [toList_ofList, filter_sorted, forLine_ofList]

/-- Sets of warnings are the same when they list the same warnings. -/
theorem toList_ofList_inj {warnings others : List Warning} :
    (ofList warnings).toList = (ofList others).toList ↔
      ∀ line, (ofList warnings).forLine line = (ofList others).forLine line :=
  ⟨fun h line => by rw [← filter_toList_ofList, h, filter_toList_ofList],
    (grouped_ofList warnings).toList_congr (grouped_ofList others)⟩


/-- A set of warnings is a stable grouping by line: each line holds the warnings about it in the
order in which they came, the lines stand in the order in which they are first met, and the list
of the set is the warnings sorted by line, where those of a line keep their order. It holds as many
as there are, and what its lines hold tells it from other sets, as does its list. -/
theorem grouping_is_stable (warnings : List Warning) :
    (∀ line, (ofList warnings).forLine line =
      warnings.filter fun warning => (warning.line : Int) = line) ∧
    (ofList warnings).lines.map (·.1) =
      (warnings.map fun warning => (warning.line : Int)).eraseDups ∧
    ((ofList warnings).toList.Perm warnings ∧
      (ofList warnings).toList.Pairwise (fun a b => a.line ≤ b.line) ∧
      ∀ line, (ofList warnings).toList.filter (·.line = line) = warnings.filter (·.line = line)) ∧
    (ofList warnings).count = warnings.length ∧
    ∀ others,
      (same (ofList warnings) (ofList others) = true ↔
        ∀ line, (ofList warnings).forLine line = (ofList others).forLine line) ∧
      (same (ofList warnings) (ofList others) = true ↔
        (ofList warnings).toList = (ofList others).toList) := by
  refine ⟨forLine_ofList warnings, keys_ofList warnings, ⟨?_, ?_, fun line => ?_⟩,
    count_ofList warnings, fun others => ?_⟩
  · rw [toList_ofList]
    exact sorted_perm warnings
  · rw [toList_ofList]
    exact pairwise_sorted warnings
  · have hline : (fun warning : Warning => decide (warning.line = line)) = isOn line := by
      funext warning
      exact decide_eq_decide.mpr Int.natCast_inj.symm
    rw [hline, toList_ofList, filter_sorted]
  · have hsame := (grouped_ofList warnings).same_iff (grouped_ofList others)
    exact ⟨hsame, hsame.trans toList_ofList_inj.symm⟩

end Gutter.WarningSet
