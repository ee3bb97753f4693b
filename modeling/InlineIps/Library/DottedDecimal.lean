import Mathlib.Data.List.Basic
import Mathlib.Tactic.Common

/-!
# Dotted decimal notation

The bytes of an address as decimal numbers with dots between them. The notation is canonical: no
byte has another one, and `read?` accepts nothing else.

* `read?_eq_some_iff`: what is read is what was written.
-/

namespace Library.DottedDecimal

/-- The digits of a byte. -/
def digits (b : UInt8) : List Char := Nat.toDigits 10 b.toNat

/-- The notation of a list of bytes. -/
def write (bytes : List UInt8) : List Char := List.intercalate ['.'] (bytes.map digits)

/-- The byte with the given digits. -/
def readByte? (text : List Char) : Option UInt8 :=
  let n := Nat.ofDigitChars 10 text 0
  if n < 256 ∧ Nat.toDigits 10 n = text then some (UInt8.ofNat n) else none

/-- The bytes in a text. -/
def read? (text : List Char) : Option (List UInt8) := (text.splitOn '.').mapM readByte?

theorem isDigit_of_mem_digits {b : UInt8} {c : Char} (h : c ∈ digits b) : c.isDigit :=
  Nat.isDigit_of_mem_toDigits (by decide) (by decide) h

theorem readByte?_eq_some_iff {text : List Char} {b : UInt8} :
    readByte? text = some b ↔ text = digits b := by
  unfold readByte? digits
  dsimp only
  constructor
  · intro h
    split at h
    · rename_i hn
      cases h
      rw [UInt8.toNat_ofNat', Nat.mod_eq_of_lt hn.1]
      exact hn.2.symm
    · cases h
  · rintro rfl
    rw [Nat.ofDigitChars_ten_toDigits, if_pos ⟨b.toNat_lt, rfl⟩, UInt8.ofNat_toNat]

theorem mapM_readByte? {texts : List (List Char)} {bytes : List UInt8} :
    texts.mapM readByte? = some bytes ↔ texts = bytes.map digits := by
  induction texts generalizing bytes with
  | nil => cases bytes <;> simp
  | cons text texts ih =>
    cases bytes with
    | nil => simp [List.mapM_cons, Option.bind_eq_some_iff]
    | cons b bytes =>
      simp [List.mapM_cons, Option.bind_eq_some_iff, readByte?_eq_some_iff, ih]

/-- **The notation is read back, and nothing else is read.** -/
theorem read?_eq_some_iff {text : List Char} {bytes : List UInt8} (hne : bytes ≠ []) :
    read? text = some bytes ↔ text = write bytes := by
  rw [read?, mapM_readByte?]
  constructor
  · intro h
    rw [write, ← h, List.intercalate_splitOn]
  · rintro rfl
    refine List.splitOn_intercalate '.' (fun octet hoctet hdot => ?_) (by simpa using hne)
    obtain ⟨b, -, rfl⟩ := List.mem_map.mp hoctet
    exact absurd (isDigit_of_mem_digits hdot) (by decide)

/-- Only digits and dots are written. -/
theorem isDigit_or_dot {bytes : List UInt8} {c : Char} (h : c ∈ write bytes) :
    c.isDigit ∨ c = '.' := by
  unfold write at h
  induction bytes with
  | nil => simp [List.intercalate] at h
  | cons b bytes ih =>
    rcases eq_or_ne bytes [] with rfl | hne
    · simp only [List.map_cons, List.map_nil, List.intercalate_singleton] at h
      exact Or.inl (isDigit_of_mem_digits h)
    · rw [List.map_cons, List.intercalate_cons_of_ne_nil (by simpa using hne)] at h
      rcases List.mem_append.mp h with hdigits | hrest
      · rcases List.mem_append.mp hdigits with hbyte | hdot
        · exact Or.inl (isDigit_of_mem_digits hbyte)
        · exact Or.inr (List.mem_singleton.mp hdot)
      · exact ih hrest

end Library.DottedDecimal
