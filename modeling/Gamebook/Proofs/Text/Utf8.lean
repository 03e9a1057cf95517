/-
# UTF-8 is read as it is written

`decode_encode` says that the bytes of a text are read as the text.  There is one lemma for each
number of bytes that a character may have; what the reader sees of a single byte is settled by
trying all of them.
-/
import Gamebook.Text.Utf8

namespace Gamebook.Utf8

variable {position : Nat} {rest : Bytes} {begun : Begun}

/-! ## 1. Bytes -/

/-- A byte that goes on with a character. -/
def tailByte (n : Nat) : UInt8 := UInt8.ofNat (n + 0x80)

/-- What is seen of a byte that goes on with a character. -/
theorem tailByte_spec : ∀ n < 64, (tailByte n).toNat % 64 = n ∧
    ¬ tailByte n < 0x80 ∧ ¬ 0xBF < tailByte n ∧
    (32 ≤ n → ¬ tailByte n < 0xA0) ∧ (n < 32 → ¬ 0x9F < tailByte n) ∧
    (16 ≤ n → ¬ tailByte n < 0x90) ∧ (n < 16 → ¬ 0x8F < tailByte n) := by
  decide

/-- The first of one byte. -/
theorem single_spec : ∀ n < 0x80,
    continuation? (UInt8.ofNat n) = some (0, 0, 0) ∧ (UInt8.ofNat n).toNat = n := by
  decide

/-- The first of two bytes. -/
theorem lead_two : ∀ n < 32, 2 ≤ n →
    continuation? (UInt8.ofNat (n + 0xC0)) = some (1, 0x80, 0xBF) ∧
      leadBits 1 (UInt8.ofNat (n + 0xC0)) = n := by
  decide

/-- The first of three bytes. -/
theorem lead_three : ∀ n < 16,
    continuation? (UInt8.ofNat (n + 0xE0)) =
      some (2, if n = 0 then 0xA0 else 0x80, if n = 13 then 0x9F else 0xBF) ∧
      leadBits 2 (UInt8.ofNat (n + 0xE0)) = n := by
  decide

/-- The first of four bytes. -/
theorem lead_four : ∀ n < 5,
    continuation? (UInt8.ofNat (n + 0xF0)) =
      some (3, if n = 0 then 0x90 else 0x80, if n = 4 then 0x8F else 0xBF) ∧
      leadBits 3 (UInt8.ofNat (n + 0xF0)) = n := by
  decide

/-! ## 2. Steps -/

/-- A byte between the bounds that goes on with a character. -/
structure Goes (begun : Begun) (n : Nat) : Prop where
  bits : n < 64
  low : ¬ tailByte n < begun.low
  high : ¬ begun.high < tailByte n

theorem decodeFrom_last {n : Nat} (goes : Goes begun n) (last : begun.missing ≤ 1) :
    decodeFrom position (some begun) (tailByte n :: rest) =
      (decodeFrom (position + 1) none rest).map (Char.ofNat (begun.code * 64 + n) :: ·) := by
  have bits := (tailByte_spec n goes.bits).1
  rw [decodeFrom]
  simp [goes.low, goes.high, last, bits]

theorem decodeFrom_next {n : Nat} (goes : Goes begun n) (more : ¬ begun.missing ≤ 1) :
    decodeFrom position (some begun) (tailByte n :: rest) =
      decodeFrom (position + 1) (some ⟨begun.missing - 1, 0x80, 0xBF, begun.code * 64 + n,
        begun.position, tailByte n :: begun.read⟩) rest := by
  have bits := (tailByte_spec n goes.bits).1
  rw [decodeFrom]
  simp [goes.low, goes.high, more, bits]

theorem decodeFrom_first {b : UInt8} {count : Nat} {low high : UInt8} (positive : count ≠ 0)
    (begins : continuation? b = some (count, low, high)) :
    decodeFrom position none (b :: rest) =
      decodeFrom (position + 1) (some ⟨count, low, high, leadBits count b, position, [b]⟩)
        rest := by
  rw [decodeFrom, begins]
  cases count with
  | zero => exact absurd rfl positive
  | succ count => rfl

theorem decodeFrom_single {n : Nat} (small : n < 0x80) :
    decodeFrom position none (UInt8.ofNat n :: rest) =
      (decodeFrom (position + 1) none rest).map (Char.ofNat n :: ·) := by
  obtain ⟨begins, byte⟩ := single_spec n small
  rw [decodeFrom, begins, byte]
  rfl

theorem decodeFrom_two {v : Nat} (low : 0x7F < v) (high : v ≤ 0x7FF) :
    decodeFrom position none
        (UInt8.ofNat (v / 64 % 32 + 0xC0) :: tailByte (v % 64) :: rest) =
      (decodeFrom (position + 2) none rest).map (Char.ofNat v :: ·) := by
  obtain ⟨begins, lead⟩ := lead_two (v / 64 % 32) (by omega) (by omega)
  obtain ⟨-, least, most, -⟩ := tailByte_spec (v % 64) (by omega)
  have code : v / 64 % 32 * 64 + v % 64 = v := by omega
  rw [decodeFrom_first (by decide) begins, decodeFrom_last ⟨by omega, least, most⟩ (by simp), lead]
  simp only [code]

theorem decodeFrom_three {v : Nat} (low : 0x7FF < v) (high : v ≤ 0xFFFF)
    (valid : v < 0xD800 ∨ 0xDFFF < v) :
    decodeFrom position none (UInt8.ofNat (v / 4096 % 16 + 0xE0) ::
        tailByte (v / 64 % 64) :: tailByte (v % 64) :: rest) =
      (decodeFrom (position + 3) none rest).map (Char.ofNat v :: ·) := by
  obtain ⟨begins, lead⟩ := lead_three (v / 4096 % 16) (by omega)
  obtain ⟨-, least, most, after, before, -⟩ := tailByte_spec (v / 64 % 64) (by omega)
  obtain ⟨-, least', most', -⟩ := tailByte_spec (v % 64) (by omega)
  have code : (v / 4096 % 16 * 64 + v / 64 % 64) * 64 + v % 64 = v := by omega
  rw [decodeFrom_first (by decide) begins, decodeFrom_next ⟨by omega, ?_, ?_⟩ (by simp),
    decodeFrom_last ⟨by omega, least', most'⟩ (by simp), lead]
  · simp only [code]
  · simp only
    split
    · exact after (by omega)
    · exact least
  · simp only
    split
    · exact before (by omega)
    · exact most

theorem decodeFrom_four {v : Nat} (low : 0xFFFF < v) (high : v < 0x110000) :
    decodeFrom position none (UInt8.ofNat (v / 262144 % 8 + 0xF0) ::
        tailByte (v / 4096 % 64) :: tailByte (v / 64 % 64) :: tailByte (v % 64) :: rest) =
      (decodeFrom (position + 4) none rest).map (Char.ofNat v :: ·) := by
  obtain ⟨begins, lead⟩ := lead_four (v / 262144 % 8) (by omega)
  obtain ⟨-, least, most, -, -, after, before⟩ := tailByte_spec (v / 4096 % 64) (by omega)
  obtain ⟨-, least', most', -⟩ := tailByte_spec (v / 64 % 64) (by omega)
  obtain ⟨-, least'', most'', -⟩ := tailByte_spec (v % 64) (by omega)
  have code : ((v / 262144 % 8 * 64 + v / 4096 % 64) * 64 + v / 64 % 64) * 64 + v % 64 = v := by
    omega
  rw [decodeFrom_first (by decide) begins, decodeFrom_next ⟨by omega, ?_, ?_⟩ (by simp),
    decodeFrom_next ⟨by omega, least', most'⟩ (by simp),
    decodeFrom_last ⟨by omega, least'', most''⟩ (by simp), lead]
  · simp only [code]
  · simp only
    split
    · exact after (by omega)
    · exact least
  · simp only
    split
    · exact before (by omega)
    · exact most

/-! ## 3. Texts -/

/-- A character is read as it is written. -/
theorem decodeFrom_encodeChar (c : Char) (rest : List UInt8) :
    ∃ next, decodeFrom position none (String.utf8EncodeChar c ++ rest) =
      (decodeFrom next none rest).map (c :: ·) := by
  have same : Char.ofNat c.val.toNat = c := Char.ofNat_toNat c
  have valid : c.val.toNat < 0xD800 ∨ 0xDFFF < c.val.toNat ∧ c.val.toNat < 0x110000 := c.valid
  unfold String.utf8EncodeChar
  simp only
  generalize c.val.toNat = v at *
  subst same
  split
  · exact ⟨_, decodeFrom_single (by omega)⟩
  · split
    · exact ⟨_, decodeFrom_two (by omega) (by assumption)⟩
    · split
      · exact ⟨_, decodeFrom_three (by omega) (by assumption) (by omega)⟩
      · exact ⟨_, decodeFrom_four (by omega) (by omega)⟩

theorem decodeFrom_encode (cs : List Char) : decodeFrom position none (encode cs) = .ok cs := by
  induction cs generalizing position with
  | nil => rw [encode, List.flatMap_nil, decodeFrom]
  | cons c cs ih =>
    rw [encode, List.flatMap_cons]
    obtain ⟨next, read⟩ := decodeFrom_encodeChar c (encode cs)
    rw [encode] at read ih
    rw [read, ih]
    rfl

/-- **A text is read as it is written.** -/
theorem decode_encode (cs : List Char) : decode (encode cs) = .ok cs := decodeFrom_encode cs

end Gamebook.Utf8
