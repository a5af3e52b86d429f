import ConsulLookup.Number.Shortest

/-! Float layouts: where the shortest digits of a float go, and how specials read. -/

namespace ConsulLookup

/-- How a float is written once its shortest digits are known. With `d₁ … dₖ` the digits and the
value `0.d₁ … dₖ · 10 ^ point`, the notation is positional when `point` lies in
`(positionalAbove, positionalUpTo]`, and `d₁.d₂ … dₖ` followed by the exponent otherwise. -/
structure FloatLayout where
  positionalAbove : Int
  positionalUpTo : Int
  /-- Whether an integral positional value keeps a `.0`. -/
  pointZero : Bool
  exponentMark : Char
  /-- Whether a non-negative exponent is written with `+`. -/
  exponentPlus : Bool
  /-- The least number of exponent digits, padded with zeros. -/
  exponentDigits : Nat
  infinityText : String
  nanText : String

namespace FloatLayout

/-- Pads a digit list with zeros on the left up to `width`. -/
def padDigits (width : Nat) (ds : List Char) : List Char :=
  List.replicate (width - ds.length) '0' ++ ds

/-- The positional form of digits `ds` with the point at `point`. -/
def positional (f : FloatLayout) (ds : List Char) (point : Int) : List Char :=
  if point ≤ 0 then '0' :: '.' :: List.replicate (-point).toNat '0' ++ ds
  else if point.toNat < ds.length then ds.take point.toNat ++ '.' :: ds.drop point.toNat
  else ds ++ List.replicate (point.toNat - ds.length) '0' ++ (if f.pointZero then ['.', '0'] else [])

/-- The exponent form of digits `ds` with the point at `point`. -/
def scientific (f : FloatLayout) (ds : List Char) (point : Int) : List Char :=
  let mantissa := match ds with
    | [] => ['0']
    | [d] => [d]
    | d :: rest => d :: '.' :: rest
  let exp := point - 1
  let sign := if exp < 0 then ['-'] else if f.exponentPlus then ['+'] else []
  mantissa ++ f.exponentMark :: sign ++ padDigits f.exponentDigits (Nat.toDigits 10 exp.natAbs)

/-- The text of a positive finite `m · 2 ^ e`. -/
def finiteText (f : FloatLayout) (m : Nat) (e : Int) : List Char :=
  let (c, p) := Shortest.digits m e
  let ds := Nat.toDigits 10 c
  let point := Int.ofNat ds.length + p
  if f.positionalAbove < point && point ≤ f.positionalUpTo then f.positional ds point
  else f.scientific ds point

/-- The text of a float. -/
def render (f : FloatLayout) (x : Float) : String :=
  match Binary64.decode x with
  | .nan => f.nanText
  | .infinity negative => (if negative then "-" else "") ++ f.infinityText
  | .finite negative m e =>
    let body := if m = 0 then f.positional ['0'] 1 else f.finiteText m e
    String.ofList ((if negative then ['-'] else []) ++ body)

end FloatLayout

end ConsulLookup
