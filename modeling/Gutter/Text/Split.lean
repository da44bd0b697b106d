/-! Texts as lists of characters: the pieces between marks, pieces joined again, and what is left
without the blanks at the ends. -/

namespace Gutter.Text

/-- Puts `c` in front of the first piece. -/
def consFirst (c : Char) : List (List Char) → List (List Char)
  | [] => [[c]]
  | piece :: pieces => (c :: piece) :: pieces

/-- The pieces of a text between the characters `mark`: one more than there are marks. -/
def splitOn (mark : Char) : List Char → List (List Char)
  | [] => [[]]
  | c :: rest => if c = mark then [] :: splitOn mark rest else consFirst c (splitOn mark rest)

/-- The pieces with `mark` between them. -/
def joinWith (mark : Char) : List (List Char) → List Char
  | [] => []
  | [piece] => piece
  | piece :: pieces => piece ++ mark :: joinWith mark pieces

theorem splitOn_ne_nil (mark : Char) (text : List Char) : splitOn mark text ≠ [] := by
  cases text with
  | nil => simp [splitOn]
  | cons c rest =>
    rw [splitOn]
    split
    · simp
    · cases splitOn mark rest <;> simp [consFirst]

theorem splitOn_eq (mark : Char) (text : List Char) : splitOn mark text = text.splitOn mark := by
  induction text with
  | nil => rfl
  | cons c text ih =>
    rw [splitOn, List.splitOn_cons_eq_if_modifyHead, ih]
    by_cases hc : c = mark
    · rw [if_pos hc, if_pos (beq_iff_eq.mpr hc)]
    · rw [if_neg hc, if_neg (mt beq_iff_eq.mp hc)]
      obtain ⟨piece, pieces, h⟩ := List.exists_cons_of_ne_nil (List.splitOn_ne_nil mark text)
      rw [h]
      rfl

theorem joinWith_eq (mark : Char) (pieces : List (List Char)) :
    joinWith mark pieces = [mark].intercalate pieces := by
  induction pieces with
  | nil => rfl
  | cons piece pieces ih =>
    cases pieces with
    | nil => simp [joinWith]
    | cons next pieces => simp [joinWith, ih]

/-- The pieces of a text make it up again. -/
theorem joinWith_splitOn (mark : Char) (text : List Char) :
    joinWith mark (splitOn mark text) = text := by
  rw [splitOn_eq, joinWith_eq, List.intercalate_splitOn]

/-- Pieces without marks are those of the text that they make up. -/
theorem splitOn_joinWith {mark : Char} {pieces : List (List Char)} (hne : pieces ≠ [])
    (h : ∀ piece ∈ pieces, mark ∉ piece) : splitOn mark (joinWith mark pieces) = pieces := by
  rw [splitOn_eq, joinWith_eq, List.splitOn_intercalate mark h hne]

/-- No mark is left in the pieces between marks. -/
theorem not_mem_of_mem_splitOn {mark : Char} {text piece : List Char}
    (h : piece ∈ splitOn mark text) : mark ∉ piece := by
  induction text generalizing piece with
  | nil =>
    rw [List.mem_singleton.mp h]
    exact List.not_mem_nil
  | cons c text ih =>
    unfold splitOn at h
    split at h
    · obtain rfl | h := List.mem_cons.mp h
      · exact List.not_mem_nil
      · exact ih h
    next hc =>
      cases hrest : splitOn mark text with
      | nil => exact (splitOn_ne_nil mark text hrest).elim
      | cons first rest =>
        rw [hrest] at h ih
        obtain rfl | h := List.mem_cons.mp h
        · exact fun hm => (List.mem_cons.mp hm).elim (fun heq => hc heq.symm)
            (ih List.mem_cons_self)
        · exact ih (List.mem_cons_of_mem first h)

/-- Without the characters at the end that satisfy `drop`. -/
def trimEndWhere (drop : Char → Bool) (text : List Char) : List Char :=
  (text.reverse.dropWhile drop).reverse

/-- Without the characters at both ends that satisfy `drop`. -/
def trimWhere (drop : Char → Bool) (text : List Char) : List Char :=
  trimEndWhere drop (text.dropWhile drop)

/-- `part` stands at the start of `text`: what follows it there. -/
def dropStart? : List Char → List Char → Option (List Char)
  | [], text => some text
  | _ :: _, [] => none
  | c :: part, d :: text => if c = d then dropStart? part text else none

/-- Every occurrence of `part` in `text`, from the left and without overlap, replaced by `new`. The
length of `text` bounds the number of steps. -/
def replaceAllWithin (part new : List Char) : Nat → List Char → List Char
  | 0, text => text
  | _ + 1, [] => []
  | steps + 1, c :: rest =>
    match dropStart? part (c :: rest) with
    | some after => new ++ replaceAllWithin part new steps after
    | none => c :: replaceAllWithin part new steps rest

/-- Every occurrence of the non-empty `part`, from the left and without overlap, replaced by `new`.
An empty `part` occurs before each character and at the end. -/
def replaceAll (part new text : List Char) : List Char :=
  if part.isEmpty then new ++ text.flatMap fun c => c :: new
  else replaceAllWithin part new text.length text

end Gutter.Text
