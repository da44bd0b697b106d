import Gutter.Text.Utf8
import Mathlib

/-! UTF-8 there and back: bytes decode to a text where they are the bytes of that text, and to no
other. -/

namespace Gutter.Text.Utf8

/-- The bytes of one character, and its number: the bits of the first byte that do not tell how many
bytes there are, and six of each other byte. -/
inductive Reads : List UInt8 → Nat → Prop
  | one {b0 : UInt8} (h0 : b0 < 0x80) : Reads [b0] b0.toNat
  | two {b0 b1 : UInt8} (hlow : 0xc2 ≤ b0) (hhigh : b0 < 0xe0) (h1 : isContinuation b1 = true) :
    Reads [b0, b1] (b0.toNat % 0x20 * 0x40 + payload b1)
  | three {b0 b1 b2 : UInt8} (hlow : 0xe0 ≤ b0) (hhigh : b0 < 0xf0)
    (h1 : secondFits b0 b1 = true) (h2 : isContinuation b2 = true) :
    Reads [b0, b1, b2] ((b0.toNat % 0x10 * 0x40 + payload b1) * 0x40 + payload b2)
  | four {b0 b1 b2 b3 : UInt8} (hlow : 0xf0 ≤ b0) (hhigh : b0 < 0xf5)
    (h1 : secondFits b0 b1 = true) (h2 : isContinuation b2 = true)
    (h3 : isContinuation b3 = true) : Reads [b0, b1, b2, b3]
      (((b0.toNat % 8 * 0x40 + payload b1) * 0x40 + payload b2) * 0x40 + payload b3)

section Steps

variable {b : UInt8} {rest tail : List UInt8} {n size : Nat} {c : Char}

theorem step_of_reads (h : Reads (b :: tail) n) (rest : List UInt8) :
    step b (tail ++ rest) = .char (Char.ofNat n) (tail.length + 1) := by
  cases h with
  | one h0 => simp [step.eq_def, h0]
  | two hlow hhigh h1 => grind [step.eq_def]
  | three hlow hhigh h1 h2 => grind [step.eq_def]
  | four hlow hhigh h1 h2 h3 => grind [step.eq_def]

theorem reads_of_step (h : step b rest = .char c size) : ∃ tail more n,
    rest = tail ++ more ∧ Reads (b :: tail) n ∧ c = Char.ofNat n ∧ size = tail.length + 1 := by
  unfold step at h
  -- The branches on the first byte: one byte, none, two, three and four of them.
  split at h
  next h0 =>
    cases h
    exact ⟨[], rest, _, rfl, .one h0, rfl, rfl⟩
  split at h
  · cases h
  next hstart =>
  split at h
  next hhigh =>
    split at h
    · cases h
    split at h
    next h1 =>
      cases h
      exact ⟨[_], _, _, rfl, .two (by grind) hhigh h1, rfl, rfl⟩
    · cases h
  next hlow =>
  split at h
  next hhigh =>
    split at h
    · cases h
    · split at h <;> cases h
    · split at h
      · cases h
      next h1 =>
      split at h
      · cases h
      next h2 =>
        cases h
        exact ⟨[_, _], _, _, rfl, .three (by grind) hhigh (by grind) (by grind), rfl, rfl⟩
  · split at h
    · cases h
    · split at h <;> cases h
    · split at h
      · cases h
      · split at h <;> cases h
    · split at h
      · cases h
      next h1 =>
      split at h
      · cases h
      next h2 =>
      split at h
      · cases h
      next h3 =>
        cases h
        exact ⟨[_, _, _], _, _, rfl,
          .four (by grind) (by grind) (by grind) (by grind) (by grind), rfl, rfl⟩

end Steps

/-! ### Bytes and numbers -/

section Bytes

variable {b b0 b1 : UInt8} {k n : Nat} {bytes : List UInt8}

theorem isContinuation_iff : isContinuation b = true ↔ 0x80 ≤ b.toNat ∧ b.toNat < 0xc0 := by
  simp [isContinuation, UInt8.le_iff_toNat_le, UInt8.lt_iff_toNat_lt]

theorem secondFits_iff : secondFits b0 b1 = true ↔ (0x80 ≤ b1.toNat ∧ b1.toNat < 0xc0) ∧
    (b0.toNat = 0xe0 → 0xa0 ≤ b1.toNat) ∧ (b0.toNat = 0xed → b1.toNat < 0xa0) ∧
      (b0.toNat = 0xf0 → 0x90 ≤ b1.toNat) ∧ (b0.toNat = 0xf4 → b1.toNat < 0x90) := by
  simp [secondFits, isContinuation_iff, ← UInt8.toNat_inj, UInt8.le_iff_toNat_le,
    UInt8.lt_iff_toNat_lt]
  omega

theorem secondFits_continuation (h : secondFits b0 b1 = true) : isContinuation b1 = true :=
  isContinuation_iff.mpr (secondFits_iff.mp h).1

theorem payload_eq (h : isContinuation b = true) :
    b.toNat = 0x80 + payload b ∧ payload b < 0x40 := by
  have := isContinuation_iff.mp h
  unfold payload
  omega

theorem toNat_toUInt8 (h : n < 0x100) : n.toUInt8.toNat = n := UInt8.toNat_ofNat_of_lt' h

theorem toUInt8_eq (h : n = b.toNat) : n.toUInt8 = b := by
  rw [h]
  exact UInt8.ofNat_toNat

theorem toNat_continuation (k : Nat) : (0x80 + k % 0x40).toUInt8.toNat = 0x80 + k % 0x40 :=
  toNat_toUInt8 (by omega)

theorem isContinuation_toUInt8 (k : Nat) : isContinuation (0x80 + k % 0x40).toUInt8 = true := by
  rw [isContinuation_iff, toNat_continuation]
  omega

theorem payload_toUInt8 (k : Nat) : payload (0x80 + k % 0x40).toUInt8 = k % 0x40 := by
  rw [payload, toNat_continuation]
  omega

theorem toUInt8_lt (h : n < b.toNat) : n.toUInt8 < b := by
  have := b.toNat_lt
  rwa [UInt8.lt_iff_toNat_lt, toNat_toUInt8 (by omega)]

/-- A first byte has the number that it is made from, and lies where that does. -/
theorem first_toUInt8 {low high : UInt8} (hlow : low.toNat ≤ n) (hhigh : n < high.toNat) :
    n.toUInt8.toNat = n ∧ low ≤ n.toUInt8 ∧ n.toUInt8 < high := by
  have := high.toNat_lt
  have hn : n.toUInt8.toNat = n := toNat_toUInt8 (by omega)
  refine ⟨hn, ?_, toUInt8_lt hhigh⟩
  rwa [UInt8.le_iff_toNat_le, hn]

theorem Reads.of_eq (h : Reads bytes k) (heq : k = n) : Reads bytes n := heq ▸ h

theorem reads_encodeChar (c : Char) : Reads (encodeChar c) c.toNat := by
  have hvalid : c.toNat < 0xd800 ∨ 0xdfff < c.toNat ∧ c.toNat < 0x110000 := c.valid
  generalize hn : c.toNat = n at hvalid
  simp only [encodeChar, hn]
  split
  next h =>
    exact .of_eq (.one (toUInt8_lt h)) (toNat_toUInt8 (by omega))
  split
  next h =>
    obtain ⟨h0, hlow, hhigh⟩ : (0xc0 + n / 0x40).toUInt8.toNat = 0xc0 + n / 0x40 ∧
        0xc2 ≤ (0xc0 + n / 0x40).toUInt8 ∧ (0xc0 + n / 0x40).toUInt8 < 0xe0 :=
      first_toUInt8 (show 0xc2 ≤ 0xc0 + n / 0x40 by omega) (show 0xc0 + n / 0x40 < 0xe0 by omega)
    refine .of_eq (.two hlow hhigh (isContinuation_toUInt8 _)) ?_
    rw [h0, payload_toUInt8]
    omega
  split
  next h =>
    obtain ⟨h0, hlow, hhigh⟩ : (0xe0 + n / 0x1000).toUInt8.toNat = 0xe0 + n / 0x1000 ∧
        0xe0 ≤ (0xe0 + n / 0x1000).toUInt8 ∧ (0xe0 + n / 0x1000).toUInt8 < 0xf0 :=
      first_toUInt8 (show 0xe0 ≤ 0xe0 + n / 0x1000 by omega)
        (show 0xe0 + n / 0x1000 < 0xf0 by omega)
    have hsecond :
        secondFits (0xe0 + n / 0x1000).toUInt8 (0x80 + n / 0x40 % 0x40).toUInt8 = true := by
      rw [secondFits_iff, h0, toNat_continuation]
      omega
    refine .of_eq (.three hlow hhigh hsecond (isContinuation_toUInt8 _)) ?_
    rw [h0, payload_toUInt8, payload_toUInt8]
    omega
  next h =>
    obtain ⟨h0, hlow, hhigh⟩ : (0xf0 + n / 0x40000).toUInt8.toNat = 0xf0 + n / 0x40000 ∧
        0xf0 ≤ (0xf0 + n / 0x40000).toUInt8 ∧ (0xf0 + n / 0x40000).toUInt8 < 0xf5 :=
      first_toUInt8 (show 0xf0 ≤ 0xf0 + n / 0x40000 by omega)
        (show 0xf0 + n / 0x40000 < 0xf5 by omega)
    have hsecond :
        secondFits (0xf0 + n / 0x40000).toUInt8 (0x80 + n / 0x1000 % 0x40).toUInt8 = true := by
      rw [secondFits_iff, h0, toNat_continuation]
      omega
    refine .of_eq (.four hlow hhigh hsecond (isContinuation_toUInt8 _)
      (isContinuation_toUInt8 _)) ?_
    rw [h0, payload_toUInt8, payload_toUInt8, payload_toUInt8]
    omega

/-- The byte of six bits of a number. -/
theorem toUInt8_payload (h : isContinuation b = true) (hk : k % 0x40 = payload b) :
    (0x80 + k % 0x40).toUInt8 = b := by
  obtain ⟨hb, -⟩ := payload_eq h
  exact toUInt8_eq (by omega)

theorem encodeChar_of_reads (h : Reads bytes n) : encodeChar (Char.ofNat n) = bytes := by
  cases h with
  | @one b0 h0 =>
    have h0 : b0.toNat < 0x80 := UInt8.lt_iff_toNat_lt.mp h0
    have hc : (Char.ofNat b0.toNat).toNat = b0.toNat :=
      (Char.toNat_ofNat _).trans (if_pos (.inl (by omega)))
    simp only [encodeChar, hc]
    rw [if_pos h0, toUInt8_eq rfl]
  | @two b0 b1 hlow hhigh h1 =>
    have hlow : 0xc2 ≤ b0.toNat := UInt8.le_iff_toNat_le.mp hlow
    have hhigh : b0.toNat < 0xe0 := UInt8.lt_iff_toNat_lt.mp hhigh
    obtain ⟨-, hp1⟩ := payload_eq h1
    generalize hn : b0.toNat % 0x20 * 0x40 + payload b1 = n
    have hc : (Char.ofNat n).toNat = n := (Char.toNat_ofNat _).trans (if_pos (.inl (by omega)))
    simp only [encodeChar, hc]
    rw [if_neg (by omega), if_pos (by omega), toUInt8_eq (b := b0) (by omega),
      toUInt8_payload h1 (by omega)]
  | @three b0 b1 b2 hlow hhigh h1 h2 =>
    have hlow : 0xe0 ≤ b0.toNat := UInt8.le_iff_toNat_le.mp hlow
    have hhigh : b0.toNat < 0xf0 := UInt8.lt_iff_toNat_lt.mp hhigh
    have hsecond := secondFits_iff.mp h1
    have h1 := secondFits_continuation h1
    obtain ⟨hb1, hp1⟩ := payload_eq h1
    obtain ⟨-, hp2⟩ := payload_eq h2
    generalize hn : (b0.toNat % 0x10 * 0x40 + payload b1) * 0x40 + payload b2 = n
    have hvalid : n < 0xd800 ∨ 0xdfff < n ∧ n < 0x110000 := by omega
    have hc : (Char.ofNat n).toNat = n := (Char.toNat_ofNat n).trans (if_pos hvalid)
    simp only [encodeChar, hc]
    rw [if_neg (by omega), if_neg (by omega), if_pos (by omega),
      toUInt8_eq (b := b0) (by omega), toUInt8_payload h1 (by omega),
      toUInt8_payload h2 (by omega)]
  | @four b0 b1 b2 b3 hlow hhigh h1 h2 h3 =>
    have hlow : 0xf0 ≤ b0.toNat := UInt8.le_iff_toNat_le.mp hlow
    have hhigh : b0.toNat < 0xf5 := UInt8.lt_iff_toNat_lt.mp hhigh
    have hsecond := secondFits_iff.mp h1
    have h1 := secondFits_continuation h1
    obtain ⟨hb1, hp1⟩ := payload_eq h1
    obtain ⟨-, hp2⟩ := payload_eq h2
    obtain ⟨-, hp3⟩ := payload_eq h3
    generalize hn :
      ((b0.toNat % 8 * 0x40 + payload b1) * 0x40 + payload b2) * 0x40 + payload b3 = n
    have hvalid : n < 0xd800 ∨ 0xdfff < n ∧ n < 0x110000 := by omega
    have hc : (Char.ofNat n).toNat = n := (Char.toNat_ofNat n).trans (if_pos hvalid)
    simp only [encodeChar, hc]
    rw [if_neg (by omega), if_neg (by omega), if_neg (by omega),
      toUInt8_eq (b := b0) (by omega), toUInt8_payload h1 (by omega),
      toUInt8_payload h2 (by omega), toUInt8_payload h3 (by omega)]

end Bytes

/-! ### Texts -/

/-- Bytes that were read before are passed over. -/
theorem decodeFrom_skip (position skip : Nat) (bytes : List UInt8) :
    decodeFrom position skip bytes = decodeFrom (position + skip) 0 (bytes.drop skip) := by
  induction bytes generalizing position skip with
  | nil => cases skip <;> rfl
  | cons b rest ih =>
    cases skip with
    | zero => rfl
    | succ skip => rw [decodeFrom, ih, List.drop_succ_cons, Nat.add_assoc, Nat.add_comm 1]

theorem encode_cons (c : Char) (text : List Char) :
    encode (c :: text) = encodeChar c ++ encode text := List.flatMap_cons

theorem decodeFrom_encode (position : Nat) (text : List Char) :
    decodeFrom position 0 (encode text) = .ok text := by
  induction text generalizing position with
  | nil => rfl
  | cons c text ih =>
    have hreads := reads_encodeChar c
    rw [encode_cons]
    generalize encodeChar c = bytes at hreads
    cases bytes with
    | nil => cases hreads
    | cons b tail =>
      rw [List.cons_append, decodeFrom, step_of_reads hreads]
      dsimp only
      rw [Nat.add_sub_cancel, decodeFrom_skip, List.drop_left, ih, Char.ofNat_toNat]
      rfl

/-- The bytes of a text decode to it. -/
theorem decode_encode (text : List Char) : decode (encode text) = .ok text :=
  decodeFrom_encode 0 text

theorem encode_of_decodeFrom {position skip : Nat} {bytes : List UInt8} {text : List Char}
    (h : decodeFrom position skip bytes = .ok text) : encode text = bytes.drop skip := by
  induction bytes generalizing position skip text with
  | nil =>
    cases skip <;> cases h <;> rfl
  | cons b rest ih =>
    cases skip with
    | succ skip => exact ih h
    | zero =>
      unfold decodeFrom at h
      split at h
      next c size hstep =>
        obtain ⟨tail, more, n, rfl, hreads, rfl, rfl⟩ := reads_of_step hstep
        cases hrest : decodeFrom (position + 1) tail.length (tail ++ more) with
        | error e =>
          rw [Nat.add_sub_cancel, hrest] at h
          cases h
        | ok after =>
          rw [Nat.add_sub_cancel, hrest] at h
          cases h
          have hmore := ih hrest
          rw [List.drop_left] at hmore
          rw [encode_cons, encodeChar_of_reads hreads, hmore, List.cons_append, List.drop_zero]
      · cases h

/-- Bytes that decode to a text are its bytes. -/
theorem encode_of_decode {bytes : List UInt8} {text : List Char} (h : decode bytes = .ok text) :
    encode text = bytes := encode_of_decodeFrom h

end Gutter.Text.Utf8
