/-!
Labels of domain names in ASCII: the characters outside ASCII are written after the others, in the
order of their code points, each as a distance in digits of variable weight.
-/
namespace ReleaseBulletin.Url.Punycode

/-- A digit with base 36, letters first. -/
def digitChar (n : Nat) : Char := if n < 26 then Char.ofNat (97 + n) else Char.ofNat (48 + (n - 26))

def digitValue? (c : Char) : Option Nat :=
  if 'a' ≤ c ∧ c ≤ 'z' then some (c.toNat - 97)
  else if 'A' ≤ c ∧ c ≤ 'Z' then some (c.toNat - 65)
  else if c.isDigit then some (c.toNat - 48 + 26)
  else none

/-- The least digit that ends a number, for the digit of weight class `k`. -/
def threshold (k bias : Nat) : Nat :=
  if k ≤ bias then 1 else if bias + 26 ≤ k then 26 else k - bias

/-- Divides a distance by 35 until it is small, counting the steps by 36. -/
def shrink : Nat → Nat → Nat → Nat × Nat
  | 0, delta, k => (delta, k)
  | fuel + 1, delta, k => if 455 < delta then shrink fuel (delta / 35) (k + 36) else (delta, k)

/-- The bias after a distance, where `count` characters have been placed. -/
def adapt (delta count : Nat) (first : Bool) : Nat :=
  let delta := if first then delta / 700 else delta / 2
  let (delta, k) := shrink 64 (delta + delta / count) 0
  k + 36 * delta / (delta + 38)

def digits (bias : Nat) : Nat → Nat → Nat → List Char
  | 0, _, _ => []
  | fuel + 1, k, q =>
    let t := threshold k bias
    if q < t then [digitChar q]
    else digitChar (t + (q - t) % (36 - t)) :: digits bias fuel (k + 36) ((q - t) / (36 - t))

/-- The progress of writing: the digits so far, the distance to the next character, the bias, and
the number of characters placed. -/
structure Progress where
  written : List Char
  delta : Nat
  bias : Nat
  placed : Nat

/-- Passes one character of the label while the characters with code `n` are written. -/
def pass (basic n : Nat) (p : Progress) (c : Char) : Progress :=
  if c.toNat < n then { p with delta := p.delta + 1 }
  else if c.toNat = n then
    { written := p.written ++ digits p.bias 64 36 p.delta
      delta := 0
      bias := adapt p.delta (p.placed + 1) (p.placed == basic)
      placed := p.placed + 1 }
  else p

/-- Writes the characters of the given codes, which are ascending and not below `n`. -/
def encodeCodes (label : List Char) (basic : Nat) : List Nat → Nat → Progress → Progress
  | [], _, p => p
  | m :: codes, n, p =>
    let start := { p with delta := p.delta + (m - n) * (p.placed + 1) }
    let q := label.foldl (pass basic m) start
    encodeCodes label basic codes (m + 1) { q with delta := q.delta + 1 }

/-- The ASCII form of a label, without the mark in front of it. -/
def encode (label : List Char) : List Char :=
  let basic := label.filter (·.toNat < 0x80)
  let codes := (((label.map Char.toNat).filter (0x80 ≤ ·)).mergeSort).eraseDups
  let p := encodeCodes label basic.length codes 0x80 ⟨[], 0, 72, basic.length⟩
  basic ++ (if basic.isEmpty then [] else ['-']) ++ p.written

/-- Reads a distance, and the text after it. -/
def distance (bias : Nat) : Nat → Nat → Nat → List Char → Option (Nat × List Char)
  | _, _, _, [] => none
  | k, weight, sum, c :: rest =>
    match digitValue? c with
    | none => none
    | some d =>
      let t := threshold k bias
      let sum := sum + d * weight
      if d < t then some (sum, rest) else distance bias (k + 36) (weight * (36 - t)) sum rest

/-- Places the characters that the digits describe; one unit of fuel for each of them. -/
def place : Nat → Nat → Nat → Nat → List Char → List Char → Option (List Char)
  | _, _, _, _, label, [] => some label
  | 0, _, _, _, _, _ => none
  | fuel + 1, n, i, bias, label, text =>
    match distance bias 36 1 0 text with
    | none => none
    | some (d, rest) =>
      let count := label.length + 1
      let j := i + d
      let m := n + j / count
      if m < 0x110000 ∧ ¬ (0xD800 ≤ m ∧ m < 0xE000) then
        let at_ := j % count
        place fuel m (at_ + 1) (adapt d count (i == 0 && n == 0x80))
          (label.take at_ ++ Char.ofNat m :: label.drop at_) rest
      else none

/-- The label of an ASCII form without the mark in front of it. -/
def decode (text : List Char) : Option (List Char) :=
  let reversed := text.reverse
  let tail := (reversed.takeWhile (· != '-')).reverse
  let basic := (reversed.dropWhile (· != '-')).tail.reverse
  place text.length 0x80 0 72 basic tail

end ReleaseBulletin.Url.Punycode
