import ConsulLookup.Text.Hex

/-! UTF-8 with and without replacement. -/

namespace ConsulLookup.Utf8

/-- The octets of a character. -/
def encode (c : Char) : List Nat :=
  let n := c.toNat
  if n < 0x80 then [n]
  else if n < 0x800 then [0xC0 + n / 0x40, 0x80 + n % 0x40]
  else if n < 0x10000 then [0xE0 + n / 0x1000, 0x80 + n / 0x40 % 0x40, 0x80 + n % 0x40]
  else [0xF0 + n / 0x40000, 0x80 + n / 0x1000 % 0x40, 0x80 + n / 0x40 % 0x40, 0x80 + n % 0x40]

/-- What a leading octet asks for: the number of continuation octets, and the range the first of
them must lie in (the others lie in `0x80–0xBF`). -/
def leadShape (b : Nat) : Option (Nat × Nat × Nat) :=
  if 0xC2 ≤ b && b ≤ 0xDF then some (1, 0x80, 0xBF)
  else if b = 0xE0 then some (2, 0xA0, 0xBF)
  else if (0xE1 ≤ b && b ≤ 0xEC) || b = 0xEE || b = 0xEF then some (2, 0x80, 0xBF)
  else if b = 0xED then some (2, 0x80, 0x9F)
  else if b = 0xF0 then some (3, 0x90, 0xBF)
  else if 0xF1 ≤ b && b ≤ 0xF3 then some (3, 0x80, 0xBF)
  else if b = 0xF4 then some (3, 0x80, 0x8F)
  else none

/-- The bits a leading octet contributes. -/
def leadBits (b : Nat) : Nat :=
  if b < 0xE0 then b % 0x20 else if b < 0xF0 then b % 0x10 else b % 0x08

/-- Reads `n` continuation octets onto `acc`, the first within `[lo, hi]`: the code point and the
rest, or the rest from the octet that breaks the sequence off. -/
def continuation : Nat → Nat → Nat → Nat → List Nat → Except (List Nat) (Nat × List Nat)
  | 0, _, _, acc, rest => .ok (acc, rest)
  | n + 1, lo, hi, acc, b :: rest =>
    if lo ≤ b && b ≤ hi then continuation n 0x80 0xBF (acc * 0x40 + b % 0x40) rest
    else .error (b :: rest)
  | _ + 1, _, _, _, [] => .error []

/-- Continuation reading never gives back more octets than it was handed. -/
theorem continuation_rest_le {n lo hi acc : Nat} {bs : List Nat} :
    (∀ r, continuation n lo hi acc bs = .error r → r.length ≤ bs.length) ∧
    (∀ c r, continuation n lo hi acc bs = .ok (c, r) → r.length ≤ bs.length) := by
  induction n generalizing lo hi acc bs with
  | zero =>
    constructor
    · intro r h; simp [continuation] at h
    · intro c r h
      simp only [continuation, Except.ok.injEq, Prod.mk.injEq] at h
      obtain ⟨_, rfl⟩ := h
      exact Nat.le_refl _
  | succ n ih =>
    cases bs with
    | nil =>
      constructor
      · intro r h; simp [continuation] at h; subst h; simp
      · intro c r h; simp [continuation] at h
    | cons b rest =>
      constructor
      · intro r h
        simp only [continuation] at h
        split at h
        · have := ih.1 r h; simp; omega
        · simp at h; subst h; simp
      · intro c r h
        simp only [continuation] at h
        split at h
        · have := ih.2 c r h; simp; omega
        · simp at h

/-- The characters of a list of octets, each maximal ill-formed subsequence read as U+FFFD. -/
def decodeLossy : List Nat → List Char
  | [] => []
  | b :: rest =>
    if b < 0x80 then Char.ofNat b :: decodeLossy rest
    else
      match h : leadShape b with
      | none => '�' :: decodeLossy rest
      | some (n, lo, hi) =>
        match hc : continuation n lo hi (leadBits b) rest with
        | .ok (c, after) =>
          have : after.length < rest.length + 1 := by
            have := continuation_rest_le.2 c after hc; omega
          Char.ofNat c :: decodeLossy after
        | .error after =>
          have : after.length < rest.length + 1 := by
            have := continuation_rest_le.1 after hc; omega
          '�' :: decodeLossy after
termination_by bs => bs.length

/-- Where a list of octets stops being UTF-8: the first octet of the bad sequence, the octet
after it, and what is wrong. -/
structure DecodeError where
  start : Nat
  stop : Nat
  reason : String
  deriving DecidableEq, Repr

/-- The characters of a list of octets that starts at position `pos`, or the first maximal
ill-formed subsequence: an octet that starts no sequence, a start that the next octet breaks
off, or a start that the end of the octets cuts short. -/
def decodeStrictFrom (pos : Nat) : List Nat → Except DecodeError (List Char)
  | [] => .ok []
  | b :: rest =>
    if b < 0x80 then (decodeStrictFrom (pos + 1) rest).map (Char.ofNat b :: ·)
    else
      match leadShape b with
      | none => .error ⟨pos, pos + 1, "invalid start byte"⟩
      | some (n, lo, hi) =>
        match hc : continuation n lo hi (leadBits b) rest with
        | .ok (c, after) =>
          have : after.length < rest.length + 1 := by
            have := continuation_rest_le.2 c after hc; omega
          (decodeStrictFrom (pos + 1 + (rest.length - after.length)) after).map (Char.ofNat c :: ·)
        | .error after =>
          let stop := pos + 1 + (rest.length - after.length)
          .error ⟨pos, stop, if after.isEmpty then "unexpected end of data"
            else "invalid continuation byte"⟩
termination_by bs => bs.length

/-- The message of a decoding error over the given octets. -/
def DecodeError.message (e : DecodeError) (octets : List Nat) : String :=
  if e.stop = e.start + 1 then
    "'utf-8' codec can't decode byte 0x" ++ String.ofList (Text.hexPadded 2 (octets.getD e.start 0)) ++
      " in position " ++ toString e.start ++ ": " ++ e.reason
  else
    "'utf-8' codec can't decode bytes in position " ++ toString e.start ++ "-" ++
      toString (e.stop - 1) ++ ": " ++ e.reason

example : decodeLossy [0xE6, 0x97, 0xA5] = ['日'] ∧ decodeLossy [0xE6, 0x41] = ['�', 'A'] ∧
    decodeLossy [0xC0, 0xAF] = ['�', '�'] := by
  decide +kernel

end ConsulLookup.Utf8
