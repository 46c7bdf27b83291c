import ReleaseBulletin.Url.Domain
import ReleaseBulletin.Url.Fault
import ReleaseBulletin.Url.Percent
import ReleaseBulletin.Width

/-!
Hosts of URLs: domain names and the two kinds of addresses.
-/
namespace ReleaseBulletin.Url
open Text.Affix Text.Radix

/-- A host. -/
inductive Host where
  | name (s : String)
  | address4 (n : Nat)
  | address6 (pieces : List Nat)
  deriving DecidableEq, Repr

/-- A part of a written IPv4 address: hexadecimal after `0x`, octal after `0`, else decimal. Nothing
at all after the sign of the base is zero. -/
def Host.part4? : List Char → Option Nat
  | [] => none
  | '0' :: c :: rest =>
    if c = 'x' ∨ c = 'X' then natOf? 16 rest else natOf? 8 (c :: rest)
  | cs => natOf? 10 cs

/-- Whether the name has to be an address: its last label is a number. -/
def Host.endsInNumber (name : List Char) : Bool :=
  let labels := (split '.' name).reverse
  let last := match labels with
    | [] :: next :: _ => next
    | [[]] => []
    | label :: _ => label
    | [] => []
  !last.isEmpty && (last.all Char.isDigit || (part4? last).isSome)

def Host.limit4 : Nat := Width.count 32

/-- The address that the last part and the parts before it make: each of those is one byte. -/
def Host.combine4? (front : List Nat) (last : Nat) : Option Nat :=
  if front.any (255 < ·) || Nat.pow 256 (4 - front.length) ≤ last then none
  else some (front.zipIdx.foldl (fun n p => n + p.1 * Nat.pow 256 (3 - p.2)) last)

def Host.address4? (cs : List Char) : Option Nat := do
  let parts := split '.' cs
  let parts := if parts.getLast? = some [] then parts.dropLast else parts
  if 4 < parts.length then none
  else
    let numbers ← parts.mapM part4?
    if numbers.any (limit4 ≤ ·) then none
    else
      let last ← numbers.getLast?
      combine4? numbers.dropLast last

def Host.address4Bytes (n : Nat) : List Nat :=
  [n / 16777216 % 256, n / 65536 % 256, n / 256 % 256, n % 256]

def Host.byte? (cs : List Char) : Option Nat :=
  if cs.length = 0 ∨ 3 < cs.length ∨ (cs.head? = some '0' ∧ 1 < cs.length) then none
  else (natOf? 10 cs).filter (· < 256)

/-- The two pieces of an IPv6 address that end in a written IPv4 address. -/
def Host.embedded4? (cs : List Char) : Option (List Nat) := do
  match ← (split '.' cs).mapM byte? with
  | [a, b, c, d] => some [a * 256 + b, c * 256 + d]
  | _ => none

/-- The pieces of an IPv6 address, and the place of the gap among them. -/
structure Host.Pieces where
  numbers : List Nat
  gap : Option Nat
  deriving DecidableEq, Repr

/-- Reads pieces after those read already. A colon in front of a piece opens the gap. -/
def Host.pieces6? : Nat → Pieces → List Char → Option Pieces
  | _, p, [] => some p
  | 0, _, _ => none
  | fuel + 1, p, cs =>
    if 8 ≤ p.numbers.length then none
    else
      match cs with
      | ':' :: rest =>
        if p.gap.isSome then none else pieces6? fuel { p with gap := some p.numbers.length } rest
      | cs =>
        let digits := (cs.take 4).takeWhile (Text.Radix.isDigit 16)
        let rest := cs.drop digits.length
        match rest with
        | '.' :: _ =>
          if digits.isEmpty || 6 < p.numbers.length then none
          else (embedded4? cs).map fun two => { p with numbers := p.numbers ++ two }
        | ':' :: rest =>
          if rest.isEmpty then none
          else (natOf? 16 digits).bind fun n =>
            pieces6? fuel { p with numbers := p.numbers ++ [n] } rest
        | _ :: _ => none
        | [] => (natOf? 16 digits).map fun n => { p with numbers := p.numbers ++ [n] }

/-- The eight numbers of the pieces. -/
def Host.Pieces.filled? (p : Pieces) : Option (List Nat) :=
  match p.gap with
  | some k => some (p.numbers.take k ++ List.replicate (8 - p.numbers.length) 0 ++ p.numbers.drop k)
  | none => if p.numbers.length = 8 then some p.numbers else none

def Host.address6? (cs : List Char) : Option (List Nat) :=
  let start := match cs with
    | ':' :: ':' :: rest => (pieces6? (rest.length + 1) ⟨[], some 0⟩ rest)
    | ':' :: _ => none
    | [] => none
    | cs => pieces6? (cs.length + 1) ⟨[], none⟩ cs
  start.bind Pieces.filled?

/-- The host of a web address. -/
def Host.ofWeb (cs : List Char) : Except Fault Host :=
  match cs with
  | '[' :: rest =>
    if rest.getLast? = some ']' then
      match address6? rest.dropLast with
      | some pieces => .ok (.address6 pieces)
      | none => .error .invalidAddress6
    else .error .invalidAddress6
  | cs =>
    match Bytes.Utf8.decode (Percent.decode cs) with
    | .error _ => .error .invalidDomain
    | .ok text =>
      match Domain.ascii? text with
      | none => .error .invalidDomain
      | some [] => .error .emptyHost
      | some domain =>
        if endsInNumber domain then
          match address4? domain with
          | some n => .ok (.address4 n)
          | none => .error .invalidAddress4
        else .ok (.name (String.ofList domain))

def Host.isForbidden (c : Char) : Bool :=
  ['\x00', '\t', '\n', '\r', ' ', '#', '/', ':', '<', '>', '?', '@', '[', '\\', ']', '^',
   '|'].contains c

/-- The host of an address outside the web, which is kept as it is written. -/
def Host.ofOther (cs : List Char) : Except Fault Host :=
  match cs with
  | '[' :: rest =>
    if rest.getLast? = some ']' then
      match address6? rest.dropLast with
      | some pieces => .ok (.address6 pieces)
      | none => .error .invalidAddress6
    else .error .invalidAddress6
  | cs =>
    if cs.any isForbidden then .error .invalidHostCharacter
    else .ok (.name (String.ofList (Percent.encode [] cs)))

/-- The longest run of zeros among the numbers, the first if several are as long: where it starts
and its length. -/
def Host.longestZeros (numbers : List Nat) : Nat × Nat :=
  let zeros (i : Nat) : Nat := ((numbers.drop i).takeWhile (· == 0)).length
  let runs := (List.range numbers.length).map fun i => (i, zeros i)
  runs.foldl (fun best run => if best.2 < run.2 then run else best) (0, 0)

/-- A piece of an IPv6 address. -/
def Host.piece (n : Nat) : List Char := Nat.toDigits 16 n

/-- The text of an IPv6 address: the longest run of two zeros at least is left out. -/
def Host.address6Text (numbers : List Nat) : List Char :=
  let (start, count) := longestZeros numbers
  if count < 2 then joined [':'] (numbers.map piece)
  else
    joined [':'] ((numbers.take start).map piece) ++ [':', ':'] ++
      joined [':'] ((numbers.drop (start + count)).map piece)

def Host.text : Host → List Char
  | .name s => s.toList
  | .address4 n => joined ['.'] ((address4Bytes n).map fun b => Nat.toDigits 10 b)
  | .address6 numbers => ['['] ++ address6Text numbers ++ [']']

end ReleaseBulletin.Url
