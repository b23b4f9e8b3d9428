/-!
# UTF-8 ranges — the bytes of a range of characters

The characters from one code point to another are a list of sequences of byte ranges: a text of as
many bytes as a sequence has ranges is one of these characters if each byte lies in its range.
-/

namespace BuildLog.Pattern

/-- An inclusive range of byte values. -/
structure ByteRange where
  lo : Nat
  hi : Nat
deriving Repr, DecidableEq

namespace Utf8

/-- The bytes of a code point. -/
def encode (n : Nat) : List Nat :=
  if n < 0x80 then [n]
  else if n < 0x800 then [0xC0 + n / 64, 0x80 + n % 64]
  else if n < 0x10000 then [0xE0 + n / 4096, 0x80 + n / 64 % 64, 0x80 + n % 64]
  else [0xF0 + n / 262144, 0x80 + n / 4096 % 64, 0x80 + n / 64 % 64, 0x80 + n % 64]

/-- The last code point of the first part of a range that its bytes divide: parts have characters
of one length, and all but their last differing byte take all values. -/
def cut? (lo hi : Nat) : Option Nat :=
  match [0x7F, 0x7FF, 0xFFFF].find? fun m => lo ≤ m && m < hi with
  | some m => some m
  | none =>
    if hi < 0x80 then none
    else
      [64, 4096, 262144].findSome? fun block =>
        if lo / block = hi / block then none
        else if lo % block ≠ 0 then some ((lo / block + 1) * block - 1)
        else if hi % block ≠ block - 1 then some (hi / block * block - 1)
        else none

/-- The sequences for the characters from `lo` to `hi`, which are no surrogates. -/
def sequencesOf (lo hi : Nat) : List (List ByteRange) :=
  match cut? lo hi with
  | some m =>
    if _h : lo ≤ m ∧ m < hi then sequencesOf lo m ++ sequencesOf (m + 1) hi
    else []
  | none => [List.zipWith ByteRange.mk (encode lo) (encode hi)]
termination_by hi - lo

/-- The sequences for the characters from `lo` to `hi`, in ascending order. -/
def sequences (lo hi : Nat) : List (List ByteRange) :=
  let before := min hi 0xD7FF
  let after := max lo 0xE000
  (if lo ≤ before then sequencesOf lo before else [])
    ++ (if after ≤ hi then sequencesOf after hi else [])

example : sequences 0x61 0x7A = [[⟨0x61, 0x7A⟩]] := by
  simp [sequences, sequencesOf, cut?, encode]

end Utf8

end BuildLog.Pattern
