import Gutter.Proofs.Document
import Gutter.Proofs.Session.Calls

/-! What a session keeps of one document: while a call waits for its warnings, only what happens to
the document itself can change it, its entry, or whether it is tracked. -/

namespace Gutter.Session

open Refresh (Turn)

/-- The document is the same in both sessions, and so is its entry; it is still tracked if it
was. -/
structure Keeps (id : Nat) (s s' : Session) : Prop where
  document : s'.document? id = s.document? id
  entry : Session.entry? s' id = s.entry? id
  tracked : id ∈ s.tracked → id ∈ s'.tracked

namespace Keeps

variable {id : Nat} {s s' s'' : Session}

theorem refl (id : Nat) (s : Session) : Keeps id s s := ⟨rfl, rfl, fun h => h⟩

theorem trans (h : Keeps id s s') (h' : Keeps id s' s'') : Keeps id s s'' :=
  ⟨h'.document.trans h.document, h'.entry.trans h.entry, h'.tracked ∘ h.tracked⟩

end Keeps

theorem SameStore.keeps {s s' : Session} (h : SameStore s s') {id : Nat}
    (htracked : id ∈ s.tracked → id ∈ s'.tracked) : Keeps id s s' :=
  ⟨h.document? id, h.entry_eq id, htracked⟩

/-- A search finds the same in a list without elements that it does not look for. -/
theorem find?_filter_of_imp {α : Type} {kept sought : α → Bool}
    (h : ∀ x, sought x = true → kept x = true) (list : List α) :
    (list.filter kept).find? sought = list.find? sought := by
  rw [List.find?_filter]
  congr 1
  funext x
  cases hx : sought x with
  | false => simp
  | true => simp [h x hx]

section Keeps

variable (s : Session) {id other : Nat}

theorem keeps_say (lines : List LogLine) : Keeps id s (s.say lines) :=
  ⟨rfl, rfl, fun h => h⟩

theorem keeps_forget (h : other ≠ id) : Keeps id s (s.forget other) where
  document := rfl
  entry := find?_filter_of_imp (fun entry he => by
    simp only [decide_eq_true_eq] at he ⊢
    omega) s.entries
  tracked := fun hm => List.mem_filter.mpr ⟨hm, decide_eq_true (Ne.symm h)⟩

/-- Nothing of the document is collected while it is used. -/
theorem keeps_collect (h : other = id → s.isUsed id = true) : Keeps id s (s.collect other) := by
  unfold collect
  split
  · exact .refl id s
  next m hm =>
    split
    · exact .refl id s
    next hfree =>
      have hne : other ≠ id := by
        rintro rfl
        simp [h rfl] at hfree
      have hmembers : Keeps id s
          { s with members := s.members.filter (·.document.id ≠ other) } := by
        refine ⟨congrArg (Option.map _) ?_, rfl, fun hm => hm⟩
        refine find?_filter_of_imp (fun m hd => ?_) s.members
        simp only [decide_eq_true_eq] at hd ⊢
        omega
      simp only
      split
      · exact hmembers.trans (keeps_forget _ hne)
      · exact hmembers

theorem find?_putEntry_ne {entry : Entry} (h : entry.document ≠ id) (entries : List Entry) :
    (putEntry entry entries).find? (·.document = id) = entries.find? (·.document = id) := by
  induction entries with
  | nil => simp [putEntry, h]
  | cons old rest ih =>
    unfold putEntry
    split
    next hold =>
      have hne : old.document ≠ id := fun he => h (hold.symm.trans he)
      simp [h, hne]
    next =>
      rw [List.find?_cons, List.find?_cons, ih]

theorem find?_putEntry (entry : Entry) (entries : List Entry) :
    (putEntry entry entries).find? (·.document = entry.document) = some entry := by
  induction entries with
  | nil => simp [putEntry]
  | cons old rest ih =>
    unfold putEntry
    split
    next => simp
    next hold => simpa [hold] using ih

theorem keeps_publish {entry : Entry} (h : entry.document ≠ id) :
    Keeps id s (s.publish entry) := by
  unfold publish
  split
  · exact ⟨rfl, find?_putEntry_ne h s.entries, fun hm => hm⟩
  · exact ⟨rfl, rfl, fun hm => hm⟩

/-- An entry that is published of a document that is tracked is there. -/
theorem entry_publish {entry : Entry} (h : entry.document ∈ s.tracked) :
    Session.entry? (s.publish entry) entry.document = some entry := by
  unfold publish
  rw [if_pos (List.contains_iff_mem.mpr h)]
  exact find?_putEntry entry s.entries

theorem tracked_publish (entry : Entry) : (s.publish entry).tracked = s.tracked := by
  obtain ⟨entries, log, h⟩ := publish_eq s entry
  rw [h]

theorem document?_publish (entry : Entry) : (s.publish entry).document? id = s.document? id := by
  obtain ⟨entries, log, h⟩ := publish_eq s entry
  rw [h]
  rfl

/-- A change of members that leaves their numbers. -/
theorem member?_map {f : Member → Member} (h : ∀ m, (f m).document.id = m.document.id) :
    member? { s with members := s.members.map f } id = (s.member? id).map f := by
  simp only [member?, List.find?_map]
  congr 2
  funext m
  simp [h m]

theorem document?_map {f : Member → Member} (h : ∀ m, (f m).document.id = m.document.id) :
    document? { s with members := s.members.map f } id =
      (s.member? id).map fun m => (f m).document := by
  rw [document?, member?_map s h, Option.map_map]
  rfl

theorem document?_edit (change : Document.Change) :
    (s.edit other change).document? id = (s.document? id).map fun document =>
      if document.id = other then (document.change? change).getD document else document := by
  unfold edit
  rw [document?_map s fun m => ?_]
  · simp only [document?, Option.map_map]
    congr 1
    funext m
    simp only [Function.comp_apply]
    split <;> rfl
  · split
    · exact Document.id_changed m.document change
    · rfl

theorem keeps_unhold : Keeps id s (s.unhold other) := by
  refine ⟨?_, rfl, fun hm => hm⟩
  unfold unhold
  rw [document?_map s fun m => by split <;> rfl]
  unfold document?
  congr 1
  funext m
  split <;> rfl

theorem keeps_drop (h : other = id → s.isUsed id = true) : Keeps id s (s.drop other) :=
  (keeps_unhold s).trans (keeps_collect _ h)

/-- A document that is added is found after those that are there. -/
theorem keeps_add {document : Document} (h : s.document? id = some document) (new : Document)
    (watched : Bool) : Keeps id s (s.add new watched) := by
  unfold add
  split
  · exact .refl id s
  · refine ⟨?_, rfl, fun hm => hm⟩
    unfold document? member? at h ⊢
    rw [List.find?_append]
    cases hm : s.members.find? fun m => m.document.id = id with
    | none => simp [hm] at h
    | some m => rfl

theorem mem_tracked_track (h : id ∈ s.tracked ∨ other = id) : id ∈ (s.track other).tracked := by
  unfold track
  split
  next hc =>
    obtain h | rfl := h
    · exact h
    · exact List.contains_iff_mem.mp hc
  next => exact List.mem_append.mpr (h.imp_right fun he => by simp [he])

theorem tracked_trigger (loop : Bool) (document : Document) :
    (s.trigger loop document).tracked = s.tracked := by
  unfold trigger
  split
  · rfl
  · split <;> rfl

/-- A query for a document that has a name tracks it, and leaves others as they are. -/
theorem mem_tracked_get {loop : Bool} (h : id ∈ s.tracked ∨ other = id ∧
    (s.document? id).any isNamed = true) : id ∈ (s.get loop other).1.tracked := by
  have hlater : id ∈ s.tracked → id ∈ (s.track other).tracked := fun hm =>
    mem_tracked_track s (.inl hm)
  unfold get
  split
  next hnone =>
    obtain h | ⟨rfl, hnamed⟩ := h
    · exact h
    · simp [hnone] at hnamed
  next document hd =>
    split
    next hunnamed =>
      obtain h | ⟨rfl, hnamed⟩ := h
      · exact h
      · simp only [hd, Option.any_some] at hnamed
        simp [hnamed] at hunnamed
    next =>
      have htracked := mem_tracked_track s (h.imp_right And.left)
      simp only
      split
      · exact htracked
      · rw [tracked_trigger]
        exact htracked

theorem keeps_get (loop : Bool) : Keeps id s (s.get loop other).1 :=
  (sameStore_get s loop other).keeps fun hm => mem_tracked_get s (.inl hm)

theorem keeps_tryCall (tries : Nat) : Keeps id s (s.tryCall other tries).1 := by
  cases tries with
  | zero => exact .refl id s
  | succ tries =>
    rw [session_tryCall]
    exact keeps_get s true

end Keeps

/-- A call for the warnings of the document waits. -/
def Waits (id : Nat) (s : Session) : Prop := ∃ tries, .waiting id tries ∈ s.calls

theorem Waits.isUsed {id : Nat} {s : Session} (h : Waits id s) : s.isUsed id = true := by
  obtain ⟨tries, hm⟩ := h
  unfold Session.isUsed
  rw [Bool.or_eq_true, List.any_eq_true (l := s.calls)]
  exact .inr ⟨_, hm, decide_eq_true rfl⟩

section Turns

variable {s : Session} {id : Nat} (hwaits : Waits id s)

include hwaits

theorem keeps_retire (task : Task) : Keeps id s (s.retire task) := by
  have hused : Waits id (s.release task) := hwaits
  have hcollect : Keeps id (s.release task) (s.retire task) :=
    keeps_collect _ fun _ => hused.isUsed
  exact ⟨hcollect.document, hcollect.entry, hcollect.tracked⟩

/-- A turn in which no entry of the document is completed. -/
theorem keeps_takeTurn (task : Task) {turn : Turn}
    (h : ∀ entry, turn.stage = .completed entry → entry.document ≠ id) :
    Keeps id s (s.takeTurn task turn) := by
  obtain ⟨stage, log⟩ := turn
  cases stage with
  | completed entry =>
    have hpublish : Waits id ((s.say log).publish entry) := by
      unfold Waits
      rw [calls_publish]
      exact hwaits
    exact ((keeps_say s log).trans (keeps_publish _ (h entry rfl))).trans (keeps_retire hpublish _)
  | failed e =>
    refine ((keeps_say s log).trans (keeps_say _ _)).trans (keeps_retire ?_ _)
    exact hwaits
  | _ => exact ⟨rfl, rfl, fun hm => hm⟩

/-- A turn in which an entry of the document is completed. -/
theorem entry_takeTurn (task : Task) {turn : Turn} {entry : Entry}
    (h : turn.stage = .completed entry) (hdocument : entry.document = id)
    (htracked : id ∈ s.tracked) :
    (s.takeTurn task turn).document? id = s.document? id ∧
      Session.entry? (s.takeTurn task turn) id = some entry ∧
      id ∈ (s.takeTurn task turn).tracked := by
  subst hdocument
  obtain ⟨stage, log⟩ := turn
  cases h
  have hpublish : Waits entry.document ((s.say log).publish entry) := by
    unfold Waits
    rw [calls_publish]
    exact hwaits
  have hkeeps := keeps_retire hpublish { task with stage := .completed entry }
  refine ⟨?_, ?_, hkeeps.tracked ?_⟩
  · exact hkeeps.document.trans (document?_publish (s.say log) entry)
  · exact hkeeps.entry.trans (entry_publish (s.say log) htracked)
  · rw [tracked_publish]
    exact htracked

end Turns

end Gutter.Session
