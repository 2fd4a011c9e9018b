/-!
# Punycode

Labels of domain names in ASCII: the ASCII characters of a label, then where and which the others
are to be inserted, in increasing order, as numbers in base 36 whose digits have thresholds that
adapt to the numbers seen so far.
-/

namespace ObjectConstraints.Punycode

/-- The value of a digit: letters of either case, then the decimal digits. -/
def digitValue? (c : Char) : Option Nat :=
  if 'a' ≤ c && c ≤ 'z' then some (c.toNat - 97)
  else if 'A' ≤ c && c ≤ 'Z' then some (c.toNat - 65)
  else if '0' ≤ c && c ≤ '9' then some (c.toNat - 22)
  else none

def digit (value : Nat) : Char :=
  if value < 26 then Char.ofNat (value + 97) else Char.ofNat (value + 22)

/-- The threshold of the digit at a position, counted in steps of 36. -/
def threshold (position bias : Nat) : Nat :=
  if position ≤ bias then 1 else if bias + 26 ≤ position then 26 else position - bias

theorem threshold_pos (position bias : Nat) : 1 ≤ threshold position bias := by
  unfold threshold
  split
  · omega
  · split <;> omega

/-- Divides a number by 35 until it is small, counting the divisions in steps of 36. -/
def reduce (delta count : Nat) : Nat × Nat :=
  if 455 < delta then reduce (delta / 35) (count + 36) else (delta, count)
  termination_by delta
  decreasing_by omega

/-- The bias after a number, when the label has grown to a length. -/
def adapt (delta length : Nat) (isFirst : Bool) : Nat :=
  let scaled := if isFirst then delta / 700 else delta / 2
  let (small, count) := reduce (scaled + scaled / length) 0
  count + 36 * small / (small + 38)

/-- The bound of all numbers that arise. -/
def bound : Nat := Nat.pow 2 32

/-- The state of decoding: the label so far, the least character that can be inserted next, the
position of the last insertion, the bias, and the number being read. -/
structure State where
  label : List Char
  next : Nat := 128
  index : Nat := 0
  bias : Nat := 72
  delta : Nat := 0
  weight : Nat := 1
  position : Nat := 36

/-- The state once a number has been read: its character is inserted. -/
def State.insert? (s : State) : Option State :=
  let length := s.label.length + 1
  let total := s.index + s.delta
  let code := s.next + total / length
  let place := total % length
  if bound ≤ total || 0x110000 ≤ code || (0xd800 ≤ code && code < 0xe000) then none
  else some {
    label := s.label.take place ++ Char.ofNat code :: s.label.drop place
    next := code
    index := place + 1
    bias := adapt s.delta length (s.index == 0) }

/-- Decodes the insertions. The text may end only between two numbers. -/
def decodeFrom (s : State) : List Char → Option (List Char)
  | [] => if s.position = 36 then some s.label else none
  | c :: cs =>
    match digitValue? c with
    | none => none
    | some value =>
      let limit := threshold s.position s.bias
      let delta := s.delta + value * s.weight
      if bound ≤ delta then none
      else if value < limit then
        match { s with delta }.insert? with
        | some s => decodeFrom s cs
        | none => none
      else
        decodeFrom
          { s with delta, weight := s.weight * (36 - limit), position := s.position + 36 } cs

/-- Splits a text at its last hyphen, unless that is the first character. -/
def splitLast (cs : List Char) : List Char × List Char :=
  let tail := (cs.reverse.takeWhile (· != '-')).reverse
  let front := cs.take (cs.length - tail.length - 1)
  if tail.length < cs.length && !front.isEmpty then (front, tail) else ([], cs)

def decode? (cs : List Char) : Option (List Char) :=
  let (front, tail) := splitLast cs
  decodeFrom { label := front } tail

def digits (bias position value : Nat) : List Char :=
  let limit := threshold position bias
  if value < limit then [digit value]
  else
    digit (limit + (value - limit) % (36 - limit)) ::
      digits bias (position + 36) ((value - limit) / (36 - limit))
  termination_by value
  decreasing_by
    have := threshold_pos position bias
    have := Nat.div_le_self (value - threshold position bias) (36 - threshold position bias)
    omega

/-- The state of encoding: the digits so far, the number being counted, the bias and how many
characters have been dealt with. -/
structure Progress where
  written : List Char := []
  delta : Nat := 0
  bias : Nat := 72
  handled : Nat

/-- Takes note of one character while those equal to `code` are being written. -/
def Progress.step (ascii code : Nat) (p : Progress) (c : Char) : Progress :=
  if c.toNat < code then { p with delta := p.delta + 1 }
  else if c.toNat = code then {
    written := p.written ++ digits p.bias 36 p.delta
    delta := 0
    bias := adapt p.delta (p.handled + 1) (p.handled == ascii)
    handled := p.handled + 1 }
  else p

/-- Inserts a number into an increasing list that has each of its members once. -/
def insertOnce (n : Nat) : List Nat → List Nat
  | [] => [n]
  | m :: rest =>
    if n < m then n :: m :: rest else if n = m then m :: rest else m :: insertOnce n rest

/-- Writes the characters of the given codes, which increase; `next` is the least code that has not
been dealt with. -/
def encodeCodes (label : List Char) (ascii : Nat) : List Nat → Nat → Progress → Progress
  | [], _, p => p
  | code :: rest, next, p =>
    let p := { p with delta := p.delta + (code - next) * (p.handled + 1) }
    let p := label.foldl (Progress.step ascii code) p
    encodeCodes label ascii rest (code + 1) { p with delta := p.delta + 1 }

def encode (label : List Char) : List Char :=
  let ascii := label.filter (·.toNat < 128)
  let codes := label.foldl
    (fun codes c => if c.toNat < 128 then codes else insertOnce c.toNat codes) []
  let front := if ascii.isEmpty then [] else ascii ++ ['-']
  front ++ (encodeCodes label ascii.length codes 128 { handled := ascii.length }).written

end ObjectConstraints.Punycode
