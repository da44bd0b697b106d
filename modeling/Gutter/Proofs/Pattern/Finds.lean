import Gutter.Proofs.Pattern.Takes

/-! What a search finds first. Where it is known how a node goes on from a cursor, the goal that
follows it decides whether anything else is tried. In a text matches are found one after another. -/

namespace Gutter.Pattern

namespace Node

/-- From the cursor the node goes on to `next` first: a goal that is reached from there ends the
search. -/
def Finds (node : Node) (cursor : Cursor) (trace : Trace) (next : Cursor) (after : Trace) : Prop :=
  ∀ go : Goal, (go next after).found = true → node.search cursor trace go = go next after

section Finds

variable {cursor between next : Cursor} {trace during after : Trace} {rest : List Char}

theorem finds_char {test : CharTest} {c : Char} (hafter : cursor.after = c :: rest)
    (hc : test.holds c = true) : (char test).Finds cursor trace (cursor.past c rest) trace := by
  intro go _
  simp [search, hafter, hc]

theorem finds_place {point : Place} (h : point.holds cursor = true) :
    (place point).Finds cursor trace cursor trace := by
  intro go _
  simp [search, h]

theorem Finds.seq {first second : Node} (h : first.Finds cursor trace between during)
    (h' : second.Finds between during next after) :
    (seq first second).Finds cursor trace next after := by
  intro go hfound
  have hsecond := h' go hfound
  exact (h _ (hsecond ▸ hfound)).trans hsecond

theorem Finds.group {body : Node} {index : Nat}
    (h : body.Finds cursor (trace.mark (Trace.openMark index) cursor) next after) :
    (group index body).Finds cursor trace next (after.mark (Trace.closeMark index) next) :=
  fun _ hfound => h _ hfound

theorem finds_greedy {test : CharTest} {taken : List Char} {inLoop : Bool} {min : Nat}
    (hplain : test.isStepwise = false) (hafter : cursor.after = taken ++ rest)
    (h : ∀ c ∈ taken, test.holds c = true) (hstop : ∀ c ∈ rest.head?, test.holds c = false)
    (hmin : min ≤ taken.length) :
    (many inLoop none .greedy min none test).Finds cursor trace (cursor.pastAll taken rest)
      (trace.tryFrom (cursor.pastAll taken rest)) :=
  fun go hfound => search_greedy hplain h hstop hmin inLoop hafter trace go hfound

/-- What a body that takes nothing leaves out. -/
theorem not_found_of_not_takes {node : Node} (h : ∀ next, ¬node.Takes cursor next) (trace : Trace)
    (go : Goal) : (node.search cursor trace go).found = false := by
  refine Bool.eq_false_iff.mpr fun hfound => ?_
  obtain ⟨next, _, htakes, -⟩ := takes_of_search hfound
  exact h next htakes

theorem Finds.optional {body : Node} {inLoop : Bool}
    (h : body.Finds cursor (trace.tryFrom cursor) next after) :
    (loop inLoop .greedy 0 (some 1) body).Finds cursor trace next (after.tryFrom next) := by
  intro go hfound
  have hleave (fuel : Nat) (last : Option Nat) :
      loopGreedy body.search go (fuel + 1) 0 (some 0) last next after =
        go next (after.tryFrom next) := by
    simp [loopGreedy, Attempt.orElse, hfound]
  have hround := h (loopGreedy body.search go
    (1 + cursor.index + cursor.after.length + 1) 0 (some 0) (some cursor.index))
  rw [hleave] at hround
  show loopGreedy body.search go (1 + cursor.index + cursor.after.length + 1 + 1) 0 (some 1) none
    cursor trace = _
  rw [loopGreedy]
  simp [oneLess, Attempt.orElse, hround hfound, hfound]

theorem finds_optional_none {body : Node} {inLoop : Bool}
    (h : ∀ next, ¬body.Takes cursor next) :
    (loop inLoop .greedy 0 (some 1) body).Finds cursor trace cursor (trace.tryFrom cursor) := by
  intro go hfound
  show loopGreedy body.search go (1 + cursor.index + cursor.after.length + 1 + 1) 0 (some 1) none
    cursor trace = _
  rw [loopGreedy]
  simp [Attempt.orElse, not_found_of_not_takes h, hfound]

theorem Finds.first {inLoop : Bool} {lead : Option CharTest} {first second : Node}
    (hlead : passes lead cursor.after = true)
    (h : first.Finds cursor (trace.tryFrom cursor) next after) :
    (either inLoop lead first second).Finds cursor trace next after := by
  intro go hfound
  simp [search, hlead, Attempt.orElse, h go hfound, hfound]

theorem Finds.second {inLoop : Bool} {lead : Option CharTest} {first second : Node}
    (hlead : passes lead cursor.after = false) (h : second.Finds cursor trace next after) :
    (either inLoop lead first second).Finds cursor trace next after := by
  intro go hfound
  simp [search, hlead, h go hfound]

end Finds

end Node

/-! ### Words -/

/-- The test for one character. -/
def CharTest.only (c : Char) : CharTest := .code .exact false c.toNat

@[simp] theorem holds_only {c d : Char} : (CharTest.only d).holds c = true ↔ c = d := by
  simp [CharTest.only, CharTest.holds, Fold.lower, Fold.variants, Char.toNat_inj]

namespace Node

variable {cursor next : Cursor} {trace : Trace} {rest : List Char}

theorem takes_only {c : Char} :
    (char (.only c)).Takes cursor next ↔
      ∃ rest, cursor.after = c :: rest ∧ next = cursor.past c rest := by
  simp only [Takes, holds_only]
  constructor
  · rintro ⟨d, rest, hafter, rfl, hnext⟩
    exact ⟨rest, hafter, hnext⟩
  · rintro ⟨rest, hafter, hnext⟩
    exact ⟨c, rest, hafter, rfl, hnext⟩

theorem finds_only {c : Char} (hafter : cursor.after = c :: rest) :
    (char (.only c)).Finds cursor trace (cursor.past c rest) trace :=
  finds_char hafter (holds_only.mpr rfl)

/-- The characters of a word, one after another. -/
def word : List Char → Node
  | [] => .nothing
  | [c] => .char (.only c)
  | c :: rest => .seq (.char (.only c)) (word rest)

theorem takes_word {text : List Char} (h : (word text).Takes cursor next) :
    ∃ rest, cursor.after = text ++ rest ∧ next = cursor.pastAll text rest := by
  induction text generalizing cursor with
  | nil =>
    obtain rfl : next = cursor := h
    exact ⟨next.after, rfl, (pastAll_nil rfl).symm⟩
  | cons c text ih =>
    obtain ⟨rest, hafter, hrest⟩ : ∃ rest, cursor.after = c :: rest ∧
        (word text).Takes (cursor.past c rest) next := by
      cases text with
      | nil => exact takes_only.mp h
      | cons d text =>
        obtain ⟨between, hfirst, hrest⟩ := h
        obtain ⟨rest, hafter, rfl⟩ := takes_only.mp hfirst
        exact ⟨rest, hafter, hrest⟩
    obtain ⟨last, htext, rfl⟩ := ih hrest
    obtain rfl : rest = text ++ last := htext
    exact ⟨last, hafter, Cursor.pastAll_cons cursor c text last⟩

theorem finds_word {text : List Char} (hafter : cursor.after = text ++ rest) :
    (word text).Finds cursor trace (cursor.pastAll text rest) trace := by
  induction text generalizing cursor with
  | nil =>
    have hstay : cursor.pastAll [] rest = cursor := pastAll_nil hafter
    rw [hstay]
    exact fun go _ => rfl
  | cons c text ih =>
    have hfirst : (char (.only c)).Finds cursor trace (cursor.past c (text ++ rest)) trace :=
      finds_only hafter
    have hrest := @ih (cursor.past c (text ++ rest)) rfl
    rw [Cursor.pastAll_cons] at hrest
    cases text with
    | nil => exact hfirst
    | cons d text => exact hfirst.seq hrest

end Node

/-! ### Lazy repeats -/

/-- A lazy repeat tries its goal before every character that it takes. If that is in vain, and
leaves no marks, it is as if the repeat had started after them. -/
theorem takeLazy_append {test : CharTest} {taken rest : List Char} {goal : Goal} {cursor : Cursor}
    (h : ∀ c ∈ taken, test.holds c = true)
    (hfail : ∀ before after, taken = before ++ after → after ≠ [] → ∀ trace,
      (goal (cursor.pastAll before (after ++ rest)) trace).found = false ∧
        (goal (cursor.pastAll before (after ++ rest)) trace).trace.marks = [])
    (hafter : cursor.after = taken ++ rest) {trace : Trace} (hmarks : trace.marks = []) :
    ∃ now, now.marks = [] ∧ takeLazy test goal (taken ++ rest) 0 none cursor trace =
      takeLazy test goal rest 0 none (cursor.pastAll taken rest) now := by
  induction taken generalizing cursor trace with
  | nil =>
    have hstay : cursor.pastAll [] rest = cursor := pastAll_nil hafter
    exact ⟨trace, hmarks, by rw [hstay]; rfl⟩
  | cons c taken ih =>
    have hstay : cursor.pastAll [] (c :: taken ++ rest) = cursor := pastAll_nil hafter
    obtain ⟨hfound, hnow⟩ := hstay ▸ hfail [] (c :: taken) rfl nofun trace
    have hlater (before after : List Char) (hsplit : taken = before ++ after) (hne : after ≠ [])
        (trace : Trace) :
        (goal ((cursor.past c (taken ++ rest)).pastAll before (after ++ rest)) trace).found =
          false ∧
        (goal ((cursor.past c (taken ++ rest)).pastAll before (after ++ rest)) trace).trace.marks =
          [] := by
      subst hsplit
      rw [List.append_assoc, Cursor.pastAll_cons]
      exact hfail (c :: before) after rfl hne trace
    have hsettled : (test.settle (cursor.past c (taken ++ rest))
        ((goal cursor trace).trace.tryFrom cursor)).marks = [] := by
      rw [settle_marks]
      exact hnow
    obtain ⟨now, hempty, heq⟩ :=
      ih (fun d hd => h d (List.mem_cons_of_mem c hd)) hlater rfl hsettled
    rw [Cursor.pastAll_cons] at heq
    refine ⟨now, hempty, ?_⟩
    rw [← heq, List.cons_append, takeLazy]
    simp [finish, Attempt.orElse, hfound, h c List.mem_cons_self, oneLess]

/-- A lazy repeat at the start of a search goes on where what follows is found first. -/
theorem search_lazy (inLoop : Bool) (lead : Option CharTest) {test : CharTest} {go : Goal}
    {cursor : Cursor} {taken rest : List Char} (h : ∀ c ∈ taken, test.holds c = true)
    (hafter : cursor.after = taken ++ rest)
    (hfail : ∀ before after, taken = before ++ after → after ≠ [] → ∀ trace,
      (go (cursor.pastAll before (after ++ rest)) trace).found = false)
    (hfound : (go (cursor.pastAll taken rest) ⟨[], cursor.pastAll taken rest⟩).found = true)
    (reached : Cursor) :
    (Node.many inLoop lead .lazy 0 none test).search cursor ⟨[], reached⟩ go =
      go (cursor.pastAll taken rest) ⟨[], cursor.pastAll taken rest⟩ := by
  let start : Trace := ⟨[], cursor⟩
  let attempt : Goal := fun here trace =>
    (go here (trace.tryFrom here)).orElse fun now => fail (start.undo inLoop now)
  have hvain (before after : List Char) (hsplit : taken = before ++ after) (hne : after ≠ [])
      (trace : Trace) : (attempt (cursor.pastAll before (after ++ rest)) trace).found = false ∧
        (attempt (cursor.pastAll before (after ++ rest)) trace).trace.marks = [] := by
    simp [attempt, start, Attempt.orElse, hfail before after hsplit hne, fail, Trace.undo]
  obtain ⟨⟨marks, last⟩, rfl, heq⟩ :=
    takeLazy_append h hvain hafter (rfl : start.marks = [])
  have hsearch : (Node.many inLoop lead .lazy 0 none test).search cursor ⟨[], reached⟩ go =
      takeLazy test attempt (taken ++ rest) 0 none cursor start := by
    simp [Node.search, Cursor.hasRoom, hafter, Trace.tryFrom, attempt, start]
  rw [hsearch, heq]
  cases rest <;> simp [takeLazy, finish, Attempt.orElse, Trace.tryFrom, attempt, hfound]

/-- What a node finds first from a cursor is the match there. -/
theorem matchAt_of_finds {pattern : Pattern} {cursor next : Cursor} {after : Trace}
    (h : pattern.node.Finds cursor ⟨[], cursor⟩ next after) :
    pattern.matchAt false cursor =
      some (.ofTrace pattern.groups cursor.index (after.tryFrom next), next) := by
  have hsearch := h succeed rfl
  have haccept : (fun (stop : Cursor) (trace : Trace) =>
      if (false && decide (stop.index = cursor.index)) = true then fail trace
      else succeed stop trace) = succeed := by
    funext stop trace
    simp
  simp only [matchAt]
  rw [haccept, hsearch]
  rfl

/-! ### In a text -/

section Text

variable {pattern : Pattern} {advance : Bool} {cursor next : Cursor} {found : Match}

theorem matchAt_of_firstAfter {after : List Char} (hafter : cursor.after = after)
    (h : pattern.firstAfter after cursor = some (found, next)) :
    ∃ skipped rest, cursor.after = skipped ++ rest ∧
      pattern.matchAt false (cursor.pastAll skipped rest) = some (found, next) := by
  induction after generalizing cursor with
  | nil => cases h
  | cons c after ih =>
    rw [firstAfter] at h
    split at h
    · cases h
    · obtain h | ⟨-, h⟩ := Option.or_eq_some_iff.mp h
      · exact ⟨[c], after, hafter, h⟩
      · obtain ⟨skipped, rest, hrest, hmatch⟩ := @ih (cursor.past c after) rfl h
        obtain rfl : after = skipped ++ rest := hrest
        rw [Cursor.pastAll_cons] at hmatch
        exact ⟨c :: skipped, rest, hafter, hmatch⟩

/-- The first match from a cursor on is one at that cursor, or behind characters that are skipped. -/
theorem matchAt_of_firstFrom (h : pattern.firstFrom advance cursor = some (found, next)) :
    ∃ advance skipped rest, cursor.after = skipped ++ rest ∧
      pattern.matchAt advance (cursor.pastAll skipped rest) = some (found, next) := by
  unfold firstFrom at h
  split at h
  · cases h
  · obtain h | ⟨-, h⟩ := Option.or_eq_some_iff.mp h
    · have hstay : cursor.pastAll [] cursor.after = cursor := pastAll_nil rfl
      exact ⟨_, [], cursor.after, rfl, hstay.symm ▸ h⟩
    · exact ⟨false, matchAt_of_firstAfter rfl h⟩

/-- From the cursor on there are these matches, one after another, with what is skipped between
them. -/
inductive InTurn (pattern : Pattern) : Cursor → List Match → Prop
  | none (cursor : Cursor) : InTurn pattern cursor []
  | next {cursor after : Cursor} {advance : Bool} {skipped rest : List Char} {found : Match}
    {others : List Match} (hskipped : cursor.after = skipped ++ rest)
    (hmatch : pattern.matchAt advance (cursor.pastAll skipped rest) = some (found, after))
    (hothers : InTurn pattern after others) : InTurn pattern cursor (found :: others)

theorem inTurn_allFrom (pattern : Pattern) (fuel : Nat) (advance : Bool) (cursor : Cursor) :
    InTurn pattern cursor (pattern.allFrom fuel advance cursor) := by
  induction fuel generalizing advance cursor with
  | zero => exact .none cursor
  | succ fuel ih =>
    rw [allFrom]
    split
    next => exact .none cursor
    next found after hfirst =>
      obtain ⟨advance, skipped, rest, hskipped, hmatch⟩ := matchAt_of_firstFrom hfirst
      refine .next hskipped hmatch ?_
      split
      · exact ih _ after
      · exact .none after

/-- All matches in a text are found in turn. -/
theorem inTurn_findAll (pattern : Pattern) (text : List Char) :
    InTurn pattern (start text) (pattern.findAll text) :=
  inTurn_allFrom pattern _ _ _

theorem slice_append {text before part after : List Char} {start stop : Nat}
    (htext : text = before ++ (part ++ after)) (hstart : start = before.length)
    (hstop : stop = start + part.length) : slice text start stop = part := by
  subst htext hstart hstop
  simp [slice]

end Text

end Gutter.Pattern
