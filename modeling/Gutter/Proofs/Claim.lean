import Gutter.Claim
import Mathlib.Data.List.Nodup

/-! Claims on the names of one guard. Whatever is done with them, the guard names those which are
not released, each once: nobody gets a name that is claimed, and a claim that was released leaves
the one that came after it alone. -/

namespace Gutter

namespace Guard

variable {α : Type} [DecidableEq α] {guard : Guard α} {name other : α}

theorem contains_iff : guard.contains name = true ↔ name ∈ guard.names := by
  simp [contains]

theorem mem_mark : other ∈ (guard.mark name).names ↔ other ∈ guard.names ∨ other = name := by
  unfold mark
  split
  next h =>
    rw [contains_iff] at h
    exact ⟨.inl, fun hor => hor.elim id fun he => he ▸ h⟩
  next => simp

theorem mem_erase : other ∈ (guard.erase name).names ↔ other ∈ guard.names ∧ other ≠ name := by
  simp [erase]

theorem filter_ne_of_not_mem {names : List α} (h : name ∉ names) :
    names.filter (· ≠ name) = names := by
  apply List.filter_eq_self.mpr
  intro other hm
  simpa using fun he : other = name => h (he ▸ hm)

/-- A name that is claimed and given back leaves the guard as it was. -/
theorem erase_mark (h : guard.contains name = false) : (guard.mark name).erase name = guard := by
  have hn : name ∉ guard.names := by
    rw [← contains_iff, h]
    exact Bool.false_ne_true
  simp only [mark, h, Bool.false_eq_true, if_false, erase, List.filter_append]
  rw [filter_ne_of_not_mem hn]
  simp

end Guard

/-! ### What is done with claims -/

/-- Something that is done with claims: one is made, one is given back, everything breaks off, or
more is done, for which there is a claim, or of which nobody hears if it breaks off. -/
inductive Move (α : Type)
  | acquire (name : α)
  | release (number : Nat)
  | fail (message : String)
  | within (number : Nat) (body : List (Move α))
  | attempt (body : List (Move α))

namespace Ledger

variable {α : Type} [DecidableEq α]

mutual

def perform (ledger : Ledger α) : Move α → Ledger α × Option (Claim.Fault α)
  | .acquire name => ledger.acquire name
  | .release number => (ledger.release number, none)
  | .fail message => (ledger, some (.other message))
  | .within number body => ledger.within number fun ledger => performAll ledger body
  | .attempt body => ((performAll ledger body).1, none)

/-- Does one thing after another, up to the first that breaks off. -/
def performAll (ledger : Ledger α) : List (Move α) → Ledger α × Option (Claim.Fault α)
  | [] => (ledger, none)
  | move :: rest =>
    match perform ledger move with
    | (after, none) => performAll after rest
    | (after, some fault) => (after, some fault)

end

/-- The ledgers that there are while moves are made from a ledger: in the end, and before that. -/
inductive Passes : Ledger α → List (Move α) → Ledger α → Prop
  | start (ledger : Ledger α) (moves : List (Move α)) : Passes ledger moves ledger
  | made (ledger : Ledger α) (move : Move α) (rest : List (Move α)) :
    Passes ledger (move :: rest) (ledger.perform move).1
  | later {ledger now : Ledger α} {move : Move α} {rest : List (Move α)}
    (hmade : (ledger.perform move).2 = none) (h : Passes (ledger.perform move).1 rest now) :
    Passes ledger (move :: rest) now
  | within {ledger now : Ledger α} {number : Nat} {body rest : List (Move α)}
    (h : Passes ledger body now) : Passes ledger (.within number body :: rest) now
  | attempt {ledger now : Ledger α} {body rest : List (Move α)} (h : Passes ledger body now) :
    Passes ledger (.attempt body :: rest) now

/-- Claims are made and given back, one after another. -/
inductive Steps : Ledger α → Ledger α → Prop
  | refl (ledger : Ledger α) : Steps ledger ledger
  | acquire {before ledger : Ledger α} (h : Steps before ledger) (name : α) :
    Steps before (ledger.acquire name).1
  | release {before ledger : Ledger α} (h : Steps before ledger) (number : Nat) :
    Steps before (ledger.release number)

section Steps

variable {before ledger now after : Ledger α}

theorem Steps.trans (h : Steps before ledger) (h' : Steps ledger after) : Steps before after := by
  induction h' with
  | refl => exact h
  | acquire _ name ih => exact ih.acquire name
  | release _ number ih => exact ih.release number

mutual

/-- Nothing is done with claims but to make them and to give them back. -/
theorem steps_perform (ledger : Ledger α) (move : Move α) :
    Steps ledger (ledger.perform move).1 := by
  cases move with
  | acquire name => exact (Steps.refl ledger).acquire name
  | release number => exact (Steps.refl ledger).release number
  | fail message => exact .refl ledger
  | within number body => exact (steps_performAll ledger body).release number
  | attempt body => exact steps_performAll ledger body

theorem steps_performAll (ledger : Ledger α) (moves : List (Move α)) :
    Steps ledger (ledger.performAll moves).1 := by
  cases moves with
  | nil => exact .refl ledger
  | cons move rest =>
    have hmove := steps_perform ledger move
    rw [performAll]
    split
    next after hafter =>
      rw [hafter] at hmove
      exact hmove.trans (steps_performAll after rest)
    next after fault hafter =>
      rw [hafter] at hmove
      exact hmove

end

theorem Passes.steps {moves : List (Move α)} (h : Passes ledger moves now) : Steps ledger now := by
  induction h with
  | start ledger moves => exact .refl ledger
  | made ledger move rest => exact steps_perform ledger move
  | later _ _ ih => exact (steps_perform _ _).trans ih
  | within _ ih => exact ih
  | attempt _ ih => exact ih

end Steps

/-! ### What is held -/

/-- The names of the claims that are not released. -/
def heldBy (claims : List (Claim α)) : List α :=
  (claims.filter fun claim => !claim.released).map (·.name)

/-- The names that are held. -/
def held (ledger : Ledger α) : List α := heldBy ledger.claims

/-- The guard names what is held, and each name is held once. -/
structure Tallies (ledger : Ledger α) : Prop where
  guard : ledger.guard.names = ledger.held
  nodup : ledger.held.Nodup

omit [DecidableEq α] in
theorem heldBy_append (claims more : List (Claim α)) :
    heldBy (claims ++ more) = heldBy claims ++ heldBy more := by
  simp [heldBy]

section Tallies

variable {ledger : Ledger α} {name : α} {number : Nat} {claim : Claim α}

theorem acquire_claimed (h : name ∈ ledger.guard.names) :
    ledger.acquire name = (ledger, some (.claimed name)) := by
  simp [acquire, Guard.acquire?, Guard.contains_iff.mpr h]

theorem acquire_free (h : name ∉ ledger.guard.names) :
    ledger.acquire name =
      (⟨⟨ledger.guard.names ++ [name]⟩, ledger.claims ++ [⟨name, false⟩]⟩, none) := by
  have hfree : ledger.guard.contains name = false :=
    Bool.eq_false_iff.mpr fun hcontains => h (Guard.contains_iff.mp hcontains)
  simp [acquire, Guard.acquire?, Guard.mark, hfree]

theorem release_unknown (h : ledger.claims[number]? = none) : ledger.release number = ledger := by
  rw [release, h]

/-- A claim that was released is released for good. -/
theorem release_released (h : ledger.claims[number]? = some claim)
    (hreleased : claim.released = true) : ledger.release number = ledger := by
  obtain ⟨hlt, rfl⟩ := List.getElem?_eq_some_iff.mp h
  simp only [release, h, Guard.release, hreleased, if_true, List.set_getElem_self]

theorem release_held (h : ledger.claims[number]? = some claim) (hheld : claim.released = false) :
    ledger.release number =
      ⟨ledger.guard.erase claim.name, ledger.claims.set number ⟨claim.name, true⟩⟩ := by
  simp [release, h, Guard.release, hheld]

theorem Tallies.acquire (h : Tallies ledger) (name : α) : Tallies (ledger.acquire name).1 := by
  by_cases hname : name ∈ ledger.guard.names
  · rw [acquire_claimed hname]
    exact h
  · rw [acquire_free hname]
    have hheld : heldBy (ledger.claims ++ [⟨name, false⟩]) = ledger.held ++ [name] :=
      heldBy_append _ _
    constructor
    · show ledger.guard.names ++ [name] = _
      rw [held, hheld, h.guard]
    · rw [held, hheld]
      rw [h.guard] at hname
      exact h.nodup.append (List.nodup_singleton name) (by simpa using hname)

theorem Tallies.release (h : Tallies ledger) (number : Nat) : Tallies (ledger.release number) := by
  cases hfind : ledger.claims[number]? with
  | none =>
    rw [release_unknown hfind]
    exact h
  | some claim =>
    cases hreleased : claim.released with
    | true =>
      rw [release_released hfind hreleased]
      exact h
    | false =>
      rw [release_held hfind hreleased]
      obtain ⟨hlt, hget⟩ := List.getElem?_eq_some_iff.mp hfind
      obtain ⟨front, back, hclaims, -, hset⟩ :=
        @List.exists_of_set _ number ⟨claim.name, true⟩ ledger.claims hlt
      rw [hget] at hclaims
      have hbefore : ledger.held = heldBy front ++ claim.name :: heldBy back := by
        rw [held, hclaims, heldBy_append]
        simp [heldBy, hreleased]
      have hafter : heldBy (ledger.claims.set number ⟨claim.name, true⟩) =
          heldBy front ++ heldBy back := by
        rw [hset, heldBy_append]
        simp [heldBy]
      have hnodup := h.nodup
      rw [hbefore] at hnodup
      have hnew := (List.nodup_middle.mp hnodup)
      rw [List.nodup_cons, List.mem_append, not_or] at hnew
      constructor
      · show ledger.guard.names.filter (· ≠ claim.name) = _
        rw [held, hafter, h.guard, hbefore, List.filter_append, List.filter_cons,
          Guard.filter_ne_of_not_mem hnew.1.1, Guard.filter_ne_of_not_mem hnew.1.2]
        simp
      · rw [held, hafter]
        exact hnew.2

theorem Tallies.steps {before after : Ledger α} (h : Tallies before) (hsteps : Steps before after) :
    Tallies after := by
  induction hsteps with
  | refl => exact h
  | acquire _ name ih => exact ih.acquire name
  | release _ number ih => exact ih.release number

/-- After this a claim is released, whether it was before or not. -/
theorem released_of_release {released : Bool}
    (h : ledger.claims[number]? = some ⟨name, released⟩) :
    (ledger.release number).claims[number]? = some ⟨name, true⟩ := by
  cases released with
  | true =>
    rw [release_released h rfl]
    exact h
  | false =>
    rw [release_held h rfl]
    have hlt := (List.getElem?_eq_some_iff.mp h).1
    simp [hlt]

/-- One claim is given back; the others are left as they are. -/
theorem claims_release_of_ne {other : Nat} (h : other ≠ number) :
    (ledger.release other).claims[number]? = ledger.claims[number]? := by
  cases hfind : ledger.claims[other]? with
  | none => rw [release_unknown hfind]
  | some claim =>
    cases hreleased : claim.released with
    | true => rw [release_released hfind hreleased]
    | false =>
      rw [release_held hfind hreleased]
      exact List.getElem?_set_ne h

/-- A claim is in the ledger for good. -/
theorem Steps.kept {before after : Ledger α} (h : Steps before after)
    (hclaim : before.claims[number]? = some claim) :
    ∃ released, after.claims[number]? = some ⟨claim.name, released⟩ := by
  induction h with
  | refl => exact ⟨claim.released, hclaim⟩
  | @acquire ledger h name ih =>
    obtain ⟨released, hfind⟩ := ih
    refine ⟨released, ?_⟩
    by_cases hname : name ∈ ledger.guard.names
    · rw [acquire_claimed hname]
      exact hfind
    · rw [acquire_free hname]
      show (ledger.claims ++ [⟨name, false⟩])[number]? = _
      rw [List.getElem?_append_left (List.getElem?_eq_some_iff.mp hfind).1]
      exact hfind
  | @release ledger h other ih =>
    obtain ⟨released, hfind⟩ := ih
    by_cases hsame : other = number
    · subst hsame
      exact ⟨true, released_of_release hfind⟩
    · rw [claims_release_of_ne hsame]
      exact ⟨released, hfind⟩

end Tallies

omit [DecidableEq α] in
theorem tallies_empty : Tallies (.empty : Ledger α) := ⟨rfl, List.nodup_nil⟩

/-- Whatever is done with claims, from an empty guard on: the guard names those that are not
released, each once. A name that is claimed is refused, and nothing changes; any other can be
claimed. What is done for a claim leaves it released, be it broken off or not. And to release a
claim once more changes nothing, even if its name is claimed anew. -/
theorem claims_are_exclusive {moves : List (Move α)} {ledger : Ledger α}
    (h : Passes .empty moves ledger) :
    ledger.guard.names = ledger.held ∧ ledger.held.Nodup ∧
    (∀ name,
      (name ∈ ledger.held → ledger.acquire name = (ledger, some (.claimed name))) ∧
      (name ∉ ledger.held → ∃ guard,
        ledger.acquire name = (⟨guard, ledger.claims ++ [⟨name, false⟩]⟩, none))) ∧
    (∀ number claim body, ledger.claims[number]? = some claim →
      (ledger.perform (.within number body)).1.claims[number]? = some ⟨claim.name, true⟩ ∧
      (ledger.perform (.within number body)).2 = (ledger.performAll body).2) ∧
    ∀ number claim, ledger.claims[number]? = some claim → claim.released = true →
      ledger.release number = ledger := by
  have htallies : Tallies ledger := tallies_empty.steps h.steps
  refine ⟨htallies.guard, htallies.nodup, fun name => ?_, fun number claim body hclaim => ?_,
    fun number claim => release_released⟩
  · rw [← htallies.guard]
    exact ⟨acquire_claimed, fun hname => ⟨_, acquire_free hname⟩⟩
  · obtain ⟨released, hafter⟩ := (steps_performAll ledger body).kept hclaim
    exact ⟨released_of_release hafter, rfl⟩

/-- What was done for a claim breaks off, but it had been given back, and its name claimed anew:
that name stays claimed, also when the old claim is released once more. -/
theorem newer_claim_is_left_alone :
    let moves : List (Move String) :=
      [.acquire "notes", .attempt [.within 0 [.release 0, .acquire "notes", .fail "no result"]],
        .release 0]
    let ledger := (Ledger.empty.performAll moves).1
    ledger = ⟨⟨["notes"]⟩, [⟨"notes", true⟩, ⟨"notes", false⟩]⟩ ∧
    ledger.acquire "notes" = (ledger, some (.claimed "notes")) ∧ ledger.release 0 = ledger := by
  intro moves ledger
  have hpasses : Passes .empty moves ledger :=
    .later rfl (.later rfl (.made _ _ []))
  have hledger : ledger = ⟨⟨["notes"]⟩, [⟨"notes", true⟩, ⟨"notes", false⟩]⟩ := by decide
  obtain ⟨-, -, hacquire, -, hrelease⟩ := claims_are_exclusive hpasses
  refine ⟨hledger, (hacquire "notes").1 ?_, hrelease 0 ⟨"notes", true⟩ ?_ rfl⟩
  · decide
  · rw [hledger]
    rfl

end Ledger

end Gutter
