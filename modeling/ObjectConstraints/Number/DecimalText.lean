import ObjectConstraints.Number.Double
import ObjectConstraints.Unicode.Ranges

/-!
# Decimal text of doubles

Reading takes a sign, digits with at most one point, and an exponent; or the words for infinity and
for a NaN in any case. Writing chooses the fewest digits that read back as the same number, the
nearest such digits, the larger of two equally near ones, and never an exponent.
-/

namespace ObjectConstraints.Double

def isDigit (c : Char) : Bool := '0' ≤ c && c ≤ '9'

/-- The number a run of decimal digits denotes. -/
def digitsValue (digits : List Char) : Nat :=
  digits.foldl (fun n c => 10 * n + (c.toNat - 48)) 0

/-- A sign in front of a text: whether it is a minus, and the rest. -/
def takeSign : List Char → Bool × List Char
  | '-' :: rest => (true, rest)
  | '+' :: rest => (false, rest)
  | cs => (false, cs)

/-- The exponent that follows a mantissa: nothing, or a letter `e` with a signed numeral. -/
def readExponent : List Char → Option Int
  | [] => some 0
  | e :: rest =>
    if e == 'e' || e == 'E' then
      let (negative, digits) := takeSign rest
      if digits.isEmpty || !digits.all isDigit then none
      else some (if negative then -(digitsValue digits : Int) else digitsValue digits)
    else none

/-- A numeral without its sign. -/
def readUnsigned (negative : Bool) (cs : List Char) : Option Double :=
  let whole := cs.takeWhile isDigit
  let rest := cs.dropWhile isDigit
  let (fraction, rest) := match rest with
    | '.' :: more => (more.takeWhile isDigit, more.dropWhile isDigit)
    | _ => ([], rest)
  if whole.isEmpty && fraction.isEmpty then none
  else (readExponent rest).map fun exponent =>
    ofDecimal negative (digitsValue (whole ++ fraction)) (exponent - fraction.length)

/-- Reads a double. -/
def ofText? (text : String) : Option Double :=
  let (negative, rest) := takeSign text.toList
  let word := rest.map fun c => if 'A' ≤ c && c ≤ 'Z' then Char.ofNat (c.toNat + 32) else c
  if word == "inf".toList || word == "infinity".toList then some (.infinite negative)
  else if word == "nan".toList then some .nan
  else readUnsigned negative rest

/-- Whether a number lies in an interval, with or without its ends. -/
def inInterval (low high : Nat) (closed : Bool) (n : Nat) : Bool :=
  if closed then low ≤ n && n ≤ high else low < n && n < high

/-- The shortest digits of a positive magnitude: digits `d` and an exponent `e` with `d * 10 ^ e`
in the interval of reals that round to it. All quantities are multiplied by a common factor, so
that the ends of the interval and the decimal grid are integers. -/
def shortest (units : Nat) : Nat × Int :=
  let step := spacing units
  -- the interval in quarters of a unit
  let high := 4 * units + 2 * step
  let isPower := units = step * Nat.pow 2 52 && step ≠ 1
  let low := if isPower then 4 * units - step else 4 * units - 2 * step
  let closed := (units / step) % 2 == 0
  -- the decimal order of magnitude: the least `k` with `units / unit < 10 ^ k`
  let estimate : Int := ((units.log2 : Int) - 1074) * 30103 / 100000 - 1
  let below (k : Int) : Bool :=
    if 0 ≤ k then units < Nat.pow 10 k.toNat * unit else units * Nat.pow 10 (-k).toNat < unit
  let order := estimate + ((List.range 4).takeWhile fun (i : Nat) => !below (estimate + i)).length
  let onGrid? (n : Nat) : Option (Nat × Int) :=
    let e := order - n
    -- the grid spacing `10 ^ e` and the interval over the common factor `scale`
    let (grid, scale) : Nat × Nat :=
      if 0 ≤ e then (4 * Nat.pow 10 e.toNat * unit, 1) else (4 * unit, Nat.pow 10 (-e).toNat)
    let value := 4 * units * scale
    let down := value / grid
    let inside (d : Nat) := inInterval (low * scale) (high * scale) closed (d * grid)
    match inside down && down ≠ 0, inside (down + 1) with
    | true, true =>
      some (if value - down * grid < (down + 1) * grid - value then (down, e) else (down + 1, e))
    | true, false => some (down, e)
    | false, true => some (down + 1, e)
    | false, false => none
  ((List.range 18).findSome? fun i => onGrid? (i + 1)).getD (units, -1074)

/-- Drops the zeros at the end of a digit sequence given in reverse, counting them. -/
def dropZeros : List Char → Int → List Char × Int
  | '0' :: rest, e => dropZeros rest (e + 1)
  | digits, e => (digits, e)

/-- A decimal written without an exponent. -/
def positional (digits : Nat) (exponent : Int) : String :=
  let (reversed, exponent) := dropZeros (Nat.toDigits 10 digits).reverse exponent
  let written := reversed.reverse
  if 0 ≤ exponent then String.ofList (written ++ List.replicate exponent.toNat '0')
  else
    let places := (-exponent).toNat
    let padded := List.replicate (places + 1 - written.length) '0' ++ written
    let point := padded.length - places
    String.ofList (padded.take point ++ '.' :: padded.drop point)

/-- Writes a double. -/
def text : Double → String
  | .nan => "NaN"
  | .infinite negative => if negative then "-inf" else "inf"
  | .finite negative units =>
    let magnitude := if units = 0 then "0" else
      let (digits, exponent) := shortest units
      positional digits exponent
    if negative then "-" ++ magnitude else magnitude

end ObjectConstraints.Double
