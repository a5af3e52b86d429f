/-! Lower-case hexadecimal numerals of a fixed width, as escapes in quoted texts use them. -/

namespace ConsulLookup.Text

/-- The lower-case hexadecimal digit of a value below sixteen. -/
def hexDigit (d : Nat) : Char :=
  if d < 10 then Char.ofNat (0x30 + d) else Char.ofNat (0x57 + d)

/-- The last `width` hexadecimal digits of `n`, most significant first, padded with zeros. -/
def hexPadded : Nat → Nat → List Char
  | 0, _ => []
  | width + 1, n => hexPadded width (n / 16) ++ [hexDigit (n % 16)]

/-- A numeral has exactly the width asked for. -/
theorem length_hexPadded (width n : Nat) : (hexPadded width n).length = width := by
  induction width generalizing n with
  | zero => rfl
  | succ width ih => simp [hexPadded, ih]

example : hexPadded 4 0x3000 = ['3', '0', '0', '0'] ∧ hexPadded 2 0x7f = ['7', 'f'] := by
  decide

end ConsulLookup.Text
