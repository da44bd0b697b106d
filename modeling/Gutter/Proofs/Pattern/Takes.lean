import Gutter.Pattern

/-! What a pattern takes. Wherever a search finds something, it is one of the ways in which the node
can take characters from the cursor on; the order in which a search tries them has no part in that.
On its way a search moves the marks of its own groups only, so that groups in sequence are told by
what each of them takes. -/

namespace Gutter.Pattern

/-! ### Greedy repeats

One that can go on behind a run of characters that pass its test takes the whole run. -/

/-- The cursor after the characters `taken`, which `rest` follows. -/
def Cursor.pastAll (cursor : Cursor) (taken rest : List Char) : Cursor :=
  ⟨taken.reverse ++ cursor.before, rest, cursor.index + taken.length⟩

theorem Cursor.pastAll_cons (cursor : Cursor) (c : Char) (taken rest : List Char) :
    (cursor.past c (taken ++ rest)).pastAll taken rest = cursor.pastAll (c :: taken) rest := by
  simp only [pastAll, past, List.reverse_cons, List.append_assoc, List.length_cons,
    List.singleton_append, Cursor.mk.injEq, true_and]
  omega

theorem Cursor.pastAll_pastAll (cursor : Cursor) (first second rest : List Char) :
    (cursor.pastAll first (second ++ rest)).pastAll second rest =
      cursor.pastAll (first ++ second) rest := by
  simp [pastAll, Nat.add_assoc]

theorem takeGreedy_append {test : CharTest} {taken : List Char}
    (h : ∀ c ∈ taken, test.holds c = true) (go : Goal) (rest : List Char) (min : Nat)
    (cursor : Cursor) (trace : Trace) (hafter : cursor.after = taken ++ rest)
    (hf : (takeGreedy test go rest (min - taken.length) none (cursor.pastAll taken rest)
      trace).found = true) :
    takeGreedy test go (taken ++ rest) min none cursor trace =
      takeGreedy test go rest (min - taken.length) none (cursor.pastAll taken rest) trace := by
  induction taken generalizing min cursor with
  | nil =>
    obtain ⟨before, after, index⟩ := cursor
    obtain rfl : after = rest := hafter
    rfl
  | cons c taken ih =>
    have hlength : min - (c :: taken).length = min - 1 - taken.length := by
      simp only [List.length_cons]
      omega
    rw [hlength, ← Cursor.pastAll_cons] at hf ⊢
    have hrest := ih (fun d hd => h d (List.mem_cons_of_mem c hd)) (min - 1) _ rfl hf
    have hc : test.holds c = true := h c List.mem_cons_self
    simp only [List.cons_append, takeGreedy, hc, oneLess, Option.map_none, hrest,
      Attempt.orElse, hf]
    simp

theorem hasRoom_of_length {cursor : Cursor} {n : Nat} (h : n ≤ cursor.after.length) :
    cursor.hasRoom n = true := by
  cases n with
  | zero => rfl
  | succ n =>
    have hn : cursor.after.drop n ≠ [] := by
      rw [ne_eq, List.drop_eq_nil_iff]
      omega
    simp [Cursor.hasRoom, hn]

/-- Where no character that passes follows, a greedy repeat goes on if enough were taken. -/
theorem takeGreedy_stop {test : CharTest} (hplain : test.isStepwise = false) {rest : List Char}
    (hstop : ∀ c ∈ rest.head?, test.holds c = false) (go : Goal) (cursor : Cursor)
    (trace : Trace) : takeGreedy test go rest 0 none cursor trace = go cursor trace := by
  have hsettle : test.settle cursor trace = trace := by simp [CharTest.settle, hplain]
  cases rest with
  | nil => simp [takeGreedy, finish, hsettle]
  | cons c rest => simp [takeGreedy, finish, hsettle, hstop c rfl]

/-- A greedy repeat takes all characters that pass its test, if what follows is found behind
them. -/
theorem search_greedy {test : CharTest} (hplain : test.isStepwise = false)
    {taken rest : List Char} (h : ∀ c ∈ taken, test.holds c = true)
    (hstop : ∀ c ∈ rest.head?, test.holds c = false) {min : Nat} (hmin : min ≤ taken.length)
    (inLoop : Bool) {cursor : Cursor} (hafter : cursor.after = taken ++ rest) (trace : Trace)
    (go : Goal) (hfound : (go (cursor.pastAll taken rest)
      (trace.tryFrom (cursor.pastAll taken rest))).found = true) :
    (Node.many inLoop none .greedy min none test).search cursor trace go =
      go (cursor.pastAll taken rest) (trace.tryFrom (cursor.pastAll taken rest)) := by
  have hroom : cursor.hasRoom min = true :=
    hasRoom_of_length (by rw [hafter, List.length_append]; omega)
  have hzero : min - taken.length = 0 := by omega
  simp only [Node.search, hroom, Bool.not_true, Bool.false_eq_true, if_false, hafter]
  rw [Trace.tryFrom] at hfound
  rw [takeGreedy_append h _ _ _ _ _ hafter]
  · simp [hzero, takeGreedy_stop hplain hstop, passes, Trace.tryFrom, Attempt.orElse, hfound]
  · simp [hzero, takeGreedy_stop hplain hstop, passes, Trace.tryFrom, Attempt.orElse, hfound]

/-! ### Ways to take characters -/

/-- A number of steps, one after another. -/
inductive Rounds (step : Cursor → Cursor → Prop) : Nat → Cursor → Cursor → Prop
  | none (cursor : Cursor) : Rounds step 0 cursor cursor
  | more {n : Nat} {cursor between next : Cursor} (hfirst : step cursor between)
    (hrest : Rounds step n between next) : Rounds step (n + 1) cursor next

/-- The count is within the bounds of a repetition, of which the lower one counts first. -/
def Counts (least : Nat) (most : Option Nat) (n : Nat) : Prop :=
  least ≤ n ∧ ∀ bound ∈ most, n ≤ max least bound

theorem counts_zero (most : Option Nat) : Counts 0 most 0 :=
  ⟨Nat.le_refl 0, fun _ _ => Nat.zero_le _⟩

theorem Counts.succ {least : Nat} {most : Option Nat} {n : Nat}
    (h : Counts (least - 1) (oneLess most) n) (hroom : 0 < least ∨ most ≠ some 0) :
    Counts least most (n + 1) := by
  refine ⟨by have := h.1; omega, fun bound hbound => ?_⟩
  obtain rfl : most = some bound := hbound
  have hle : n ≤ max (least - 1) (bound - 1) := h.2 _ rfl
  have hpos : 0 < least ∨ bound ≠ 0 := hroom.imp_right fun hne hzero => hne (hzero ▸ rfl)
  omega

/-- Characters from the cursor on that pass a test, as many as the bounds allow. -/
def TakesRun (test : CharTest) (min : Nat) (max : Option Nat) (cursor next : Cursor) : Prop :=
  ∃ taken rest, cursor.after = taken ++ rest ∧ (∀ c ∈ taken, test.holds c = true) ∧
    Counts min max taken.length ∧ next = cursor.pastAll taken rest

theorem pastAll_nil {cursor : Cursor} {rest : List Char} (h : cursor.after = rest) :
    cursor.pastAll [] rest = cursor := by
  subst h
  rfl

theorem TakesRun.none {test : CharTest} {max : Option Nat} (cursor : Cursor) :
    TakesRun test 0 max cursor cursor :=
  ⟨[], cursor.after, rfl, nofun, counts_zero max, (pastAll_nil rfl).symm⟩

theorem TakesRun.more {test : CharTest} {min : Nat} {max : Option Nat} {c : Char}
    {rest : List Char} {cursor next : Cursor} (hafter : cursor.after = c :: rest)
    (hc : test.holds c = true) (hmax : max ≠ some 0)
    (h : TakesRun test (min - 1) (oneLess max) (cursor.past c rest) next) :
    TakesRun test min max cursor next := by
  obtain ⟨taken, rest', hrest, hall, hcounts, rfl⟩ := h
  obtain rfl : rest = taken ++ rest' := hrest
  exact ⟨c :: taken, rest', hafter, List.forall_mem_cons.mpr ⟨hc, hall⟩, hcounts.succ (.inr hmax),
    Cursor.pastAll_cons cursor c taken rest'⟩

/-- The ways in which a node can take characters, from the first cursor to the second. What stands
in a test of its surroundings is not taken, and nothing is said of a loop that gives nothing
back. -/
def Node.Takes : Node → Cursor → Cursor → Prop
  | .nothing, cursor, next => next = cursor
  | .never, _, _ => False
  | .char test, cursor, next =>
    ∃ c rest, cursor.after = c :: rest ∧ test.holds c = true ∧ next = cursor.past c rest
  | .place point, cursor, next => point.holds cursor = true ∧ next = cursor
  | .seq first second, cursor, next =>
    ∃ between, first.Takes cursor between ∧ second.Takes between next
  | .either _ _ first second, cursor, next => first.Takes cursor next ∨ second.Takes cursor next
  | .group _ body, cursor, next => body.Takes cursor next
  | .many _ _ _ min max test, cursor, next => TakesRun test min max cursor next
  | .loop _ mode min max body, cursor, next =>
    mode = .possessive ∨ ∃ n, Counts min max n ∧ Rounds body.Takes n cursor next
  | .look _ _ _ _, cursor, next => next = cursor
  | .atomic body, cursor, next => body.Takes cursor next
  | .again _ _, cursor, next =>
    ∃ taken rest, cursor.after = taken ++ rest ∧ next = cursor.pastAll taken rest
  | .whenSet _ yes no, cursor, next => yes.Takes cursor next ∨ no.Takes cursor next

/-! ### Marks that are kept -/

/-- The marks of the trace start with these. -/
def Trace.Keeps (kept : List (Option Cursor)) (trace : Trace) : Prop := kept <+: trace.marks

/-- The marks are still there if the attempt has failed. -/
def Attempt.Leaves (kept : List (Option Cursor)) (attempt : Attempt) : Prop :=
  attempt.found = false → attempt.trace.Keeps kept

/-- The groups of a node, and of the nodes in it. -/
def Node.groupNumbers : Node → List Nat
  | .seq first second => first.groupNumbers ++ second.groupNumbers
  | .either _ _ first second => first.groupNumbers ++ second.groupNumbers
  | .group index body => index :: body.groupNumbers
  | .loop _ _ _ _ body => body.groupNumbers
  | .look _ _ _ body => body.groupNumbers
  | .atomic body => body.groupNumbers
  | .whenSet _ yes no => yes.groupNumbers ++ no.groupNumbers
  | _ => []

/-- Its groups have their marks behind these. -/
def Node.Spares (node : Node) (kept : List (Option Cursor)) : Prop :=
  ∀ index ∈ node.groupNumbers, kept.length ≤ Trace.openMark index

@[simp] theorem settle_marks (test : CharTest) (cursor : Cursor) (trace : Trace) :
    (test.settle cursor trace).marks = trace.marks := by
  unfold CharTest.settle
  split <;> rfl

section Keeps

variable {kept : List (Option Cursor)} {trace start now : Trace}

theorem keeps_nil (trace : Trace) : trace.Keeps [] := List.nil_prefix

theorem Trace.Keeps.of_append {marks : List (Option Cursor)} (h : trace.Keeps (kept ++ marks)) :
    trace.Keeps kept := (List.prefix_append kept marks).trans h

theorem Trace.Keeps.tryFrom (h : trace.Keeps kept) (cursor : Cursor) :
    (trace.tryFrom cursor).Keeps kept := h

theorem Trace.Keeps.settle (h : trace.Keeps kept) (test : CharTest) (cursor : Cursor) :
    (test.settle cursor trace).Keeps kept := by
  rw [Keeps, settle_marks]
  exact h

/-- What is undone are the marks behind those at the start. -/
theorem Trace.Keeps.undo (h : start.Keeps kept) (hnow : now.Keeps kept) (inLoop : Bool) :
    (start.undo inLoop now).Keeps kept := by
  cases inLoop with
  | true => exact h
  | false => exact List.prefix_take_iff.mpr ⟨hnow, h.length_le⟩

theorem Trace.Keeps.mark (h : trace.Keeps kept) {n : Nat} (hn : kept.length ≤ n)
    (cursor : Cursor) : (trace.mark n cursor).Keeps kept := by
  obtain ⟨marks, reached⟩ := trace
  obtain ⟨others, rfl⟩ := h
  simp only [Keeps, Trace.mark]
  split
  · rw [List.set_append_right n _ hn]
    exact List.prefix_append kept _
  · rw [List.append_assoc]
    exact List.prefix_append kept _

/-- The mark behind those that are kept is kept as well. -/
theorem Trace.Keeps.mark_next (h : trace.Keeps kept) (cursor : Cursor) :
    (trace.mark kept.length cursor).Keeps (kept ++ [some cursor]) := by
  obtain ⟨marks, reached⟩ := trace
  obtain ⟨others, rfl⟩ := h
  cases others with
  | nil => simp [Keeps, Trace.mark]
  | cons first others =>
    have hset : (kept ++ first :: others).set kept.length (some cursor) =
        (kept ++ [some cursor]) ++ others := by
      rw [List.set_append_right _ _ (Nat.le_refl _)]
      simp
    simp only [Keeps, Trace.mark, hset, List.length_append, List.length_cons]
    rw [if_pos (by omega)]
    exact List.prefix_append _ others

end Keeps

/-- The attempt only asks the goal, at cursors of which `R` holds and with these marks. If it found
something, it is what the goal found there; otherwise the marks are still there, unless the goal
loses them. -/
def LeadsTo (kept : List (Option Cursor)) (R : Cursor → Prop) (go : Goal) (attempt : Attempt) :
    Prop :=
  (∀ next trace, R next → trace.Keeps kept → (go next trace).Leaves kept) →
    attempt.Leaves kept ∧
    (attempt.found = true → ∃ next trace, R next ∧ trace.Keeps kept ∧ attempt = go next trace)

namespace LeadsTo

variable {kept : List (Option Cursor)} {R S : Cursor → Prop} {go goal : Goal} {attempt : Attempt}
  {trace : Trace}

theorem fail (h : trace.Keeps kept) : LeadsTo kept R go (fail trace) := fun _ => ⟨fun _ => h, nofun⟩

theorem here {cursor : Cursor} (h : R cursor) (hkeeps : trace.Keeps kept) :
    LeadsTo kept R go (go cursor trace) :=
  fun hgo => ⟨hgo cursor trace h hkeeps, fun _ => ⟨cursor, trace, h, hkeeps, rfl⟩⟩

theorem orElse {other : Trace → Attempt} (h : LeadsTo kept R go attempt)
    (h' : ∀ trace, trace.Keeps kept → LeadsTo kept R go (other trace)) :
    LeadsTo kept R go (attempt.orElse other) := by
  intro hgo
  unfold Attempt.orElse
  split
  · exact h hgo
  next hfailed => exact h' _ ((h hgo).1 (Bool.eq_false_iff.mpr hfailed)) hgo

theorem ite {p : Prop} [Decidable p] {other : Attempt} (h : p → LeadsTo kept R go attempt)
    (h' : ¬p → LeadsTo kept R go other) : LeadsTo kept R go (if p then attempt else other) := by
  split
  next hp => exact h hp
  next hp => exact h' hp

theorem trans (h : LeadsTo kept R go attempt)
    (hgo : ∀ next trace, R next → trace.Keeps kept → LeadsTo kept S goal (go next trace)) :
    LeadsTo kept S goal attempt := by
  intro hgoal
  obtain ⟨hleaves, hfinds⟩ := h fun next trace hr hkeeps => (hgo next trace hr hkeeps hgoal).1
  refine ⟨hleaves, fun hfound => ?_⟩
  obtain ⟨next, trace, hr, hkeeps, rfl⟩ := hfinds hfound
  exact (hgo next trace hr hkeeps hgoal).2 hfound

theorem mono (h : LeadsTo kept R go attempt) (hRS : ∀ next, R next → S next) :
    LeadsTo kept S go attempt :=
  h.trans fun _ _ hr hkeeps => here (hRS _ hr) hkeeps

end LeadsTo

section Repeats

variable {test : CharTest} {go : Goal} {kept : List (Option Cursor)} {cursor : Cursor}
  {trace : Trace} {min : Nat} {max : Option Nat}

theorem leadsTo_finish (h : trace.Keeps kept) :
    LeadsTo kept (TakesRun test min max cursor) go (finish go min cursor trace) := by
  refine .ite (fun hmin => ?_) fun _ => .fail h
  subst hmin
  exact .here (.none cursor) h

theorem leadsTo_takeGreedy {after : List Char} (hafter : cursor.after = after)
    (h : trace.Keeps kept) :
    LeadsTo kept (TakesRun test min max cursor) go
      (takeGreedy test go after min max cursor trace) := by
  induction after generalizing min max cursor with
  | nil => exact leadsTo_finish (h.settle test cursor)
  | cons c rest ih =>
    refine .ite (fun hmore => ?_) fun _ => leadsTo_finish (h.settle test cursor)
    simp only [Bool.and_eq_true, decide_eq_true_eq] at hmore
    exact .orElse ((ih rfl).mono fun _ => .more hafter hmore.1 hmore.2) fun _ => leadsTo_finish

theorem leadsTo_takeLazy {after : List Char} (hafter : cursor.after = after)
    (h : trace.Keeps kept) :
    LeadsTo kept (TakesRun test min max cursor) go
      (takeLazy test go after min max cursor trace) := by
  induction after generalizing min max cursor trace with
  | nil => exact .orElse (leadsTo_finish h) fun _ h => .fail (h.tryFrom cursor)
  | cons c rest ih =>
    refine .orElse (leadsTo_finish h) fun now hnow => ?_
    have htried : (if min = 0 then now.tryFrom cursor else now).Keeps kept := by
      split
      · exact hnow
      · exact hnow
    refine .ite (fun hc => ?_) fun _ => .fail htried
    have hsettled := htried.settle test (cursor.past c rest)
    exact .ite (fun _ => .fail hsettled) fun hmax =>
      (ih rfl hsettled).mono fun _ => .more hafter hc hmax

theorem leadsTo_takePossessive {after : List Char} (hafter : cursor.after = after)
    (h : trace.Keeps kept) :
    LeadsTo kept (TakesRun test min max cursor) go
      (takePossessive test go after min max cursor trace) := by
  induction after generalizing min max cursor with
  | nil => exact leadsTo_finish (h.settle test cursor)
  | cons c rest ih =>
    refine .ite (fun hmore => ?_) fun _ => leadsTo_finish (h.settle test cursor)
    simp only [Bool.and_eq_true, decide_eq_true_eq] at hmore
    exact (ih rfl).mono fun _ => .more hafter hmore.1 hmore.2

variable {body : Search} {step : Cursor → Cursor → Prop}

/-- The rounds of a loop, as many as the bounds allow. -/
def TakesRounds (step : Cursor → Cursor → Prop) (min : Nat) (max : Option Nat)
    (cursor next : Cursor) : Prop :=
  ∃ n, Counts min max n ∧ Rounds step n cursor next

theorem TakesRounds.none {max : Option Nat} (cursor : Cursor) :
    TakesRounds step 0 max cursor cursor := ⟨0, counts_zero max, .none cursor⟩

theorem TakesRounds.more {min : Nat} {max : Option Nat} {cursor between next : Cursor}
    (hfirst : step cursor between) (hroom : 0 < min ∨ max ≠ some 0)
    (h : TakesRounds step (min - 1) (oneLess max) between next) :
    TakesRounds step min max cursor next := by
  obtain ⟨n, hcounts, hrest⟩ := h
  exact ⟨n + 1, hcounts.succ hroom, .more hfirst hrest⟩

/-- A body whose searches all lead where `step` does, and keep these marks. -/
def Steps (kept : List (Option Cursor)) (body : Search) (step : Cursor → Cursor → Prop) : Prop :=
  ∀ cursor trace go, trace.Keeps kept → LeadsTo kept (step cursor) go (body cursor trace go)

theorem Steps.round (h : Steps kept body step) {goal : Goal} (hkeeps : trace.Keeps kept)
    (hroom : 0 < min ∨ max ≠ some 0)
    (hgoal : ∀ next trace, trace.Keeps kept →
      LeadsTo kept (TakesRounds step (min - 1) (oneLess max) next) go (goal next trace)) :
    LeadsTo kept (TakesRounds step min max cursor) go (body cursor trace goal) :=
  (h cursor trace goal hkeeps).trans fun next trace hstep hkeeps =>
    (hgoal next trace hkeeps).mono fun _ => .more hstep hroom

variable {last : Option Nat}

theorem leadsTo_loopGreedy (h : Steps kept body step) {fuel : Nat} (hkeeps : trace.Keeps kept) :
    LeadsTo kept (TakesRounds step min max cursor) go
      (loopGreedy body go fuel min max last cursor trace) := by
  induction fuel generalizing min max last cursor trace with
  | zero => exact .fail hkeeps
  | succ fuel ih =>
    have hstart : (trace.tryFrom cursor).Keeps kept := hkeeps
    refine .ite (fun hmin => ?_) fun hmin => ?_
    · exact .orElse (h.round hstart (.inl hmin) fun _ _ => ih) fun _ h => .fail (h.tryFrom cursor)
    · obtain rfl : min = 0 := by omega
      have hleave : LeadsTo kept (TakesRounds step 0 max cursor) go
          ((go cursor (trace.tryFrom cursor)).orElse fun trace =>
            Pattern.fail (trace.tryFrom cursor)) :=
        .orElse (.here (.none cursor) hstart) fun _ h => .fail (h.tryFrom cursor)
      refine .ite (fun hmore => ?_) fun _ => hleave
      simp only [Bool.and_eq_true, decide_eq_true_eq] at hmore
      exact .orElse (h.round hstart (.inr hmore.1) fun _ _ => ih) fun _ _ => hleave

theorem leadsTo_loopLazy (h : Steps kept body step) {inLoop : Bool} {fuel : Nat}
    (hkeeps : trace.Keeps kept) :
    LeadsTo kept (TakesRounds step min max cursor) go
      (loopLazy inLoop body go fuel min max last cursor trace) := by
  induction fuel generalizing min max last cursor trace with
  | zero => exact .fail hkeeps
  | succ fuel ih =>
    have hstart : (trace.tryFrom cursor).Keeps kept := hkeeps
    refine .ite (fun hmin => ?_) fun hmin => ?_
    · exact .orElse (h.round hstart (.inl hmin) fun _ _ => ih) fun _ h => .fail (h.tryFrom cursor)
    · obtain rfl : min = 0 := by omega
      refine .orElse (.here (.none cursor) hstart) fun now hnow => ?_
      have hundone := (hstart.undo hnow inLoop).tryFrom cursor
      refine .ite (fun hmore => ?_) fun _ => .fail hundone
      simp only [Bool.and_eq_true, decide_eq_true_eq] at hmore
      exact .orElse (h.round hundone (.inr hmore.1) fun _ _ => ih) fun _ h =>
        .fail (h.tryFrom cursor)

/-- A search that stands by itself keeps the marks, whatever comes of it. -/
theorem LeadsTo.alone {R : Cursor → Prop} {attempt : Attempt}
    (h : LeadsTo kept R succeed attempt) :
    attempt.trace.Keeps kept ∧ (attempt.found = true → R attempt.trace.reached) := by
  obtain ⟨hleaves, hfinds⟩ := h fun _ _ _ _ => nofun
  cases hfound : attempt.found with
  | false => exact ⟨hleaves hfound, nofun⟩
  | true =>
    obtain ⟨next, trace, hr, hkeeps, rfl⟩ := hfinds hfound
    exact ⟨hkeeps, fun _ => hr⟩

theorem keeps_loopPossessive (h : Steps kept body step) {fuel : Nat} (hkeeps : trace.Keeps kept) :
    (loopPossessive body fuel min max last cursor trace).trace.Keeps kept := by
  induction fuel generalizing min max last cursor trace with
  | zero => exact hkeeps
  | succ fuel ih =>
    have hstart : (trace.tryFrom cursor).Keeps kept := hkeeps
    have hround := (h cursor (trace.tryFrom cursor) succeed hstart).alone.1
    simp only [loopPossessive]
    split
    · split
      · exact ih hround
      · exact hround
    · split
      · split
        · exact ih hround
        · exact hstart.undo hround true
      · exact hstart

end Repeats

theorem takeAgain_eq_some {fold : Fold} {text : List Char} {cursor next : Cursor}
    (h : takeAgain fold text cursor = some next) :
    ∃ taken rest, cursor.after = taken ++ rest ∧ next = cursor.pastAll taken rest := by
  induction text generalizing cursor with
  | nil =>
    cases h
    exact ⟨[], next.after, rfl, (pastAll_nil rfl).symm⟩
  | cons c text ih =>
    unfold takeAgain at h
    split at h
    · cases h
    next d after hafter =>
      split at h
      · obtain ⟨taken, rest, rfl, rfl⟩ := ih h
        exact ⟨d :: taken, rest, hafter, Cursor.pastAll_cons cursor d taken rest⟩
      · cases h

/-- A search that finds something takes characters in one of the ways that the node has, and moves
the marks of its own groups only. -/
theorem steps_search {kept : List (Option Cursor)} (node : Node) (hspares : node.Spares kept) :
    Steps kept node.search node.Takes := by
  induction node with
  | nothing => exact fun cursor trace _ h => .here (R := (· = cursor)) rfl h
  | never => exact fun _ trace _ h => .fail h
  | char test =>
    intro cursor trace go h
    unfold Node.search
    split
    · exact .fail h
    next c rest hafter =>
      exact .ite (fun hc => .here ⟨c, rest, hafter, hc, rfl⟩ h) fun _ => .fail h
  | place point =>
    exact fun cursor trace go h => .ite (fun hplace => .here ⟨hplace, rfl⟩ h) fun _ => .fail h
  | seq first second ih ih' =>
    obtain ⟨hspares, hspares'⟩ := List.forall_mem_append.mp hspares
    exact fun cursor trace go h => (ih hspares cursor trace _ h).trans fun between trace hfirst h =>
      (ih' hspares' between trace go h).mono fun _ hsecond => ⟨between, hfirst, hsecond⟩
  | either inLoop lead first second ih ih' =>
    obtain ⟨hspares, hspares'⟩ := List.forall_mem_append.mp hspares
    intro cursor trace go h
    have hsecond (trace : Trace) (h : trace.Keeps kept) := (ih' hspares' cursor trace go h).mono
      fun _ => (Or.inr : _ → Node.Takes (.either inLoop lead first second) cursor _)
    refine .ite (fun _ => .orElse ?_ fun now hnow => hsecond _ (h.undo hnow inLoop)) fun _ =>
      hsecond _ h
    exact (ih hspares cursor _ go (h.tryFrom cursor)).mono fun _ => Or.inl
  | group index body ih =>
    obtain ⟨hopen, hspares⟩ := List.forall_mem_cons.mp hspares
    intro cursor trace go h
    refine (ih hspares cursor _ _ (h.mark hopen cursor)).trans fun next trace htakes h => ?_
    exact .here htakes (h.mark (Nat.le_succ_of_le hopen) next)
  | many inLoop next mode min max test =>
    intro cursor trace go h
    refine .ite (fun _ => .fail h) fun _ => ?_
    have hstart : (trace.tryFrom cursor).Keeps kept := h
    have hattempt (now : Cursor) (seen : Trace) (hseen : seen.Keeps kept) :
        LeadsTo kept (now = ·) go ((go now (seen.tryFrom now)).orElse fun now =>
          fail ((trace.tryFrom cursor).undo inLoop now)) :=
      .orElse (.here rfl hseen) fun _ hnow => .fail (hstart.undo hnow inLoop)
    cases mode with
    | greedy =>
      refine (leadsTo_takeGreedy rfl hstart).trans fun now seen htakes hseen =>
        .ite (fun _ => ?_) fun _ => .fail hseen
      exact (hattempt now seen hseen).mono fun _ heq => heq ▸ htakes
    | lazy =>
      exact (leadsTo_takeLazy rfl hstart).trans fun now seen htakes hseen =>
        (hattempt now seen hseen).mono fun _ heq => heq ▸ htakes
    | possessive =>
      exact (leadsTo_takePossessive rfl hstart).trans fun now seen htakes hseen =>
        .here htakes hseen
  | loop inLoop mode min max body ih =>
    intro cursor trace go h
    cases mode with
    | greedy => exact (leadsTo_loopGreedy (ih hspares) h).mono fun _ => Or.inr
    | lazy => exact (leadsTo_loopLazy (ih hspares) h).mono fun _ => Or.inr
    | possessive =>
      exact .ite (fun _ => .here (.inl rfl) (keeps_loopPossessive (ih hspares) h)) fun _ =>
        .fail (keeps_loopPossessive (ih hspares) h)
  | look inLoop back negated body ih =>
    intro cursor trace go h
    unfold Node.search
    split
    · exact .ite (fun _ => .here (R := (· = cursor)) rfl h) fun _ => .fail h
    next start hstart =>
      have hseen := (ih hspares start (trace.tryFrom start) succeed h).alone.1
      refine .ite (fun _ => .here (R := (· = cursor)) rfl ?_) fun _ => .fail hseen
      cases negated with
      | true => exact h.undo hseen inLoop
      | false => exact hseen
  | atomic body ih =>
    intro cursor trace go h
    obtain ⟨hinner, htakes⟩ := (ih hspares cursor (trace.tryFrom cursor) succeed h).alone
    exact .ite (fun hfound => .here (htakes hfound) hinner) fun _ => .fail hinner
  | again fold index =>
    intro cursor trace go h
    unfold Node.search
    split
    · exact .fail h
    next next hnext =>
      obtain ⟨text, -, htaken⟩ := Option.bind_eq_some_iff.mp hnext
      exact .here (takeAgain_eq_some htaken) h
  | whenSet index yes no ih ih' =>
    obtain ⟨hspares, hspares'⟩ := List.forall_mem_append.mp hspares
    exact fun cursor trace go h => .ite
      (fun _ => (ih hspares cursor trace go h).mono fun _ => Or.inl)
      fun _ => (ih' hspares' cursor trace go h).mono fun _ => Or.inr

theorem spares_nil (node : Node) : node.Spares [] := fun _ _ => Nat.zero_le _

/-- What a search finds the goal finds behind characters that the node takes. -/
theorem takes_of_search {node : Node} {cursor : Cursor} {trace : Trace} {go : Goal}
    (h : (node.search cursor trace go).found = true) :
    ∃ next after, node.Takes cursor next ∧ node.search cursor trace go = go next after := by
  obtain ⟨-, hfinds⟩ := steps_search node (spares_nil node) cursor trace go (keeps_nil trace)
    fun _ _ _ _ _ => keeps_nil _
  obtain ⟨next, after, htakes, -, hsearch⟩ := hfinds h
  exact ⟨next, after, htakes, hsearch⟩

/-- A match is what a search has found whose goal does nothing but to refuse some ends. -/
theorem search_of_matchAt {pattern : Pattern} {advance : Bool} {cursor next : Cursor}
    {found : Match} (h : pattern.matchAt advance cursor = some (found, next)) :
    ∃ go : Goal, (∀ stop trace, go stop trace = fail trace ∨ go stop trace = succeed stop trace) ∧
      ∃ trace, pattern.node.search cursor ⟨[], cursor⟩ go = ⟨true, trace⟩ ∧
        found = .ofTrace pattern.groups cursor.index trace ∧ next = trace.reached := by
  let accept : Goal := fun stop trace =>
    if advance && stop.index = cursor.index then fail trace else succeed stop trace
  have haccept (stop : Cursor) (trace : Trace) :
      accept stop trace = fail trace ∨ accept stop trace = succeed stop trace := by
    by_cases hsame : (advance && stop.index = cursor.index) = true
    · exact .inl (if_pos hsame)
    · exact .inr (if_neg hsame)
  change (if (pattern.node.search cursor ⟨[], cursor⟩ accept).found then _ else none) = _ at h
  cases hattempt : pattern.node.search cursor ⟨[], cursor⟩ accept with
  | mk hit trace =>
    rw [hattempt] at h
    cases hit with
    | false => cases h
    | true =>
      cases h
      exact ⟨accept, haccept, trace, hattempt, rfl, rfl⟩

/-- What is found at a cursor is taken from there on. -/
theorem takes_of_matchAt {pattern : Pattern} {advance : Bool} {cursor next : Cursor} {found : Match}
    (h : pattern.matchAt advance cursor = some (found, next)) :
    pattern.node.Takes cursor next := by
  obtain ⟨go, hgo, trace, hsearch, -, rfl⟩ := search_of_matchAt h
  obtain ⟨stop, after, htakes, hsame⟩ := takes_of_search (congrArg Attempt.found hsearch)
  rw [hsearch] at hsame
  rcases hgo stop after with hfail | hsucceed
  · cases hsame.trans hfail
  · cases hsame.trans hsucceed
    exact htakes

theorem matchAt_eq_none {pattern : Pattern} {cursor : Cursor}
    (h : ∀ next, ¬pattern.node.Takes cursor next) (advance : Bool) :
    pattern.matchAt advance cursor = none := by
  refine Option.eq_none_iff_forall_ne_some.mpr ?_
  rintro ⟨found, next⟩ hmatch
  exact h next (takes_of_matchAt hmatch)

/-! ### Groups in sequence -/

/-- The groups of the node are not in one another, nor in anything else that may be tried again, and
the first of them opens with mark `n`. -/
def Node.InSequence : Node → Nat → Prop
  | .seq first second, n =>
    first.InSequence n ∧ second.InSequence (n + 2 * first.groupNumbers.length)
  | .group index body, n => Trace.openMark index = n ∧ body.groupNumbers = []
  | node, _ => node.groupNumbers = []

/-- The ways in which a node takes characters, with the marks of its groups in sequence. -/
def Node.Marks : Node → Cursor → List (Option Cursor) → Cursor → Prop
  | .seq first second, cursor, marks, next =>
    ∃ between early late, first.Marks cursor early between ∧ second.Marks between late next ∧
      marks = early ++ late
  | .group _ body, cursor, marks, next => body.Takes cursor next ∧ marks = [some cursor, some next]
  | node, cursor, marks, next => node.Takes cursor next ∧ marks = []

section Marks

variable {node : Node} {kept marks : List (Option Cursor)} {cursor next : Cursor}

theorem length_of_marks {n : Nat} (h : node.InSequence n) (hmarks : node.Marks cursor marks next) :
    marks.length = 2 * node.groupNumbers.length := by
  induction node generalizing n cursor marks next with
  | seq first second ih ih' =>
    obtain ⟨between, early, late, hfirst, hsecond, rfl⟩ := hmarks
    rw [List.length_append, ih h.1 hfirst, ih' h.2 hsecond, Node.groupNumbers, List.length_append]
    omega
  | group index body =>
    rw [hmarks.2, Node.groupNumbers, h.2]
    rfl
  | _ =>
    have hnone : Node.groupNumbers _ = [] := h
    rw [hmarks.2, hnone]
    rfl

theorem spares_of_no_groups (h : node.groupNumbers = []) (kept : List (Option Cursor)) :
    node.Spares kept := by
  intro index hindex
  rw [h] at hindex
  cases hindex

/-- The attempt only asks the goal, at cursors and with further marks of which `R` holds. -/
def MarksTo (kept : List (Option Cursor)) (R : List (Option Cursor) → Cursor → Prop) (go : Goal)
    (attempt : Attempt) : Prop :=
  (∀ next marks trace, R marks next → trace.Keeps (kept ++ marks) →
      (go next trace).Leaves (kept ++ marks)) →
    attempt.Leaves kept ∧
    (attempt.found = true → ∃ next marks trace, R marks next ∧ trace.Keeps (kept ++ marks) ∧
      attempt = go next trace)

theorem LeadsTo.marksTo {R : Cursor → Prop} {go : Goal} {attempt : Attempt}
    (h : LeadsTo kept R go attempt) :
    MarksTo kept (fun marks next => R next ∧ marks = []) go attempt := by
  intro hgo
  have hnone : kept ++ [] = kept := List.append_nil kept
  obtain ⟨hleaves, hfinds⟩ := h fun next trace hr hkeeps =>
    hnone ▸ hgo next [] trace ⟨hr, rfl⟩ (hnone.symm ▸ hkeeps)
  refine ⟨hleaves, fun hfound => ?_⟩
  obtain ⟨next, trace, hr, hkeeps, hsame⟩ := hfinds hfound
  exact ⟨next, [], trace, ⟨hr, rfl⟩, hnone.symm ▸ hkeeps, hsame⟩

/-- A search that finds something has marked what each group in sequence takes. -/
theorem marksTo_search (h : node.InSequence kept.length) (cursor : Cursor) (trace : Trace)
    (go : Goal) (hkeeps : trace.Keeps kept) :
    MarksTo kept (node.Marks cursor) go (node.search cursor trace go) := by
  induction node generalizing kept cursor trace go with
  | seq first second ih ih' =>
    intro hgo
    have hsecond (between : Cursor) (early : List (Option Cursor)) (now : Trace)
        (hfirst : first.Marks cursor early between) (hnow : now.Keeps (kept ++ early)) :
        MarksTo (kept ++ early) (second.Marks between) go (second.search between now go) := by
      refine @ih' (kept ++ early) ?_ between now go hnow
      rw [List.length_append, length_of_marks h.1 hfirst]
      exact h.2
    have hgoes (between : Cursor) (early : List (Option Cursor))
        (hfirst : first.Marks cursor early between) (next : Cursor) (late : List (Option Cursor))
        (now : Trace) (hlate : second.Marks between late next)
        (hnow : now.Keeps (kept ++ early ++ late)) :
        (go next now).Leaves (kept ++ early ++ late) := by
      rw [List.append_assoc] at hnow ⊢
      exact hgo next (early ++ late) now ⟨between, early, late, hfirst, hlate, rfl⟩ hnow
    obtain ⟨hleaves, hfinds⟩ := ih h.1 cursor trace _ hkeeps fun between early now hfirst hnow =>
      (hsecond between early now hfirst hnow (hgoes between early hfirst)).1
    refine ⟨hleaves, fun hfound => ?_⟩
    obtain ⟨between, early, now, hfirst, hnow, hsame⟩ := hfinds hfound
    replace hsame : (Node.seq first second).search cursor trace go =
      second.search between now go := hsame
    rw [hsame] at hfound ⊢
    obtain ⟨next, late, after, hlate, hafter, hsame'⟩ :=
      (hsecond between early now hfirst hnow (hgoes between early hfirst)).2 hfound
    rw [List.append_assoc] at hafter
    exact ⟨next, early ++ late, after, ⟨between, early, late, hfirst, hlate, rfl⟩, hafter, hsame'⟩
  | group index body =>
    obtain ⟨hopen, hnone⟩ := h
    intro hgo
    have hopened : (trace.mark (Trace.openMark index) cursor).Keeps (kept ++ [some cursor]) := by
      rw [hopen]
      exact hkeeps.mark_next cursor
    have hclosed (next : Cursor) (now : Trace) (hnow : now.Keeps (kept ++ [some cursor])) :
        (now.mark (Trace.closeMark index) next).Keeps (kept ++ [some cursor, some next]) := by
      have hclose : Trace.closeMark index = (kept ++ [some cursor]).length := by
        rw [List.length_append, ← hopen]
        rfl
      rw [hclose, List.append_cons]
      exact hnow.mark_next next
    have hgoes (next : Cursor) (now : Trace) (htakes : body.Takes cursor next)
        (hnow : now.Keeps (kept ++ [some cursor])) :
        (go next (now.mark (Trace.closeMark index) next)).Leaves (kept ++ [some cursor]) := by
      intro hfailed
      have hleft := hgo next _ _ ⟨htakes, rfl⟩ (hclosed next now hnow) hfailed
      rw [List.append_cons] at hleft
      exact hleft.of_append
    obtain ⟨hleaves, hfinds⟩ :=
      steps_search body (spares_of_no_groups hnone _) cursor _
        (fun next now => go next (now.mark (Trace.closeMark index) next)) hopened hgoes
    refine ⟨fun hfailed => (hleaves hfailed).of_append, fun hfound => ?_⟩
    obtain ⟨next, now, htakes, hnow, hsame⟩ := hfinds hfound
    exact ⟨next, _, _, ⟨htakes, rfl⟩, hclosed next now hnow, hsame⟩
  | _ =>
    exact (steps_search _ (spares_of_no_groups h kept) cursor trace go hkeeps).marksTo

/-- Where groups were opened and closed is told by the marks that a trace keeps. -/
theorem Trace.Keeps.ofTrace_eq {trace : Trace} (h : trace.Keeps kept) {groups : Nat}
    (hgroups : 2 * groups ≤ kept.length) (start : Nat) :
    Match.ofTrace groups start trace = .ofTrace groups start ⟨kept, trace.reached⟩ := by
  have hmark {n : Nat} (hn : n < kept.length) : trace.marks[n]? = kept[n]? := by
    rw [List.prefix_iff_eq_take.mp h, List.getElem?_take_of_lt hn]
  simp only [Match.ofTrace, Match.mk.injEq, true_and]
  refine List.map_congr_left fun n hn => ?_
  have hlt := List.mem_range.mp hn
  simp only [Trace.bounds?]
  rw [hmark (by simp only [Trace.openMark]; omega), hmark (by simp only [Trace.closeMark]; omega)]

/-- What is found at a cursor, if all groups are in sequence. -/
theorem marks_of_matchAt {pattern : Pattern} {advance : Bool} {found : Match}
    (hseq : pattern.node.InSequence 0) (hgroups : pattern.node.groupNumbers.length = pattern.groups)
    (h : pattern.matchAt advance cursor = some (found, next)) :
    ∃ marks, pattern.node.Marks cursor marks next ∧
      found = .ofTrace pattern.groups cursor.index ⟨marks, next⟩ := by
  obtain ⟨go, hgo, trace, hsearch, rfl, rfl⟩ := search_of_matchAt h
  have hleaves (stop : Cursor) (marks : List (Option Cursor)) (now : Trace)
      (_ : pattern.node.Marks cursor marks stop) (hnow : now.Keeps ([] ++ marks)) :
      (go stop now).Leaves ([] ++ marks) := by
    rcases hgo stop now with hfail | hsucceed
    · rw [hfail]
      exact fun _ => hnow
    · rw [hsucceed]
      exact nofun
  obtain ⟨stop, marks, after, hmarks, hafter, hsame⟩ :=
    (marksTo_search hseq cursor _ go (keeps_nil _) hleaves).2 (congrArg Attempt.found hsearch)
  rw [hsearch] at hsame
  rcases hgo stop after with hfail | hsucceed
  · cases hsame.trans hfail
  · cases hsame.trans hsucceed
    have hlength : marks.length = 2 * pattern.groups := by
      rw [length_of_marks hseq hmarks, hgroups]
    exact ⟨marks, hmarks, (hafter.tryFrom stop).ofTrace_eq (Nat.le_of_eq hlength.symm) cursor.index⟩

end Marks

end Gutter.Pattern
