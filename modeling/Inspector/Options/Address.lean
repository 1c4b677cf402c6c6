/-!
# Network addresses

Reading and writing of IPv4 and IPv6 addresses. A reader takes characters off the front and gives
what is left; an address has to take up the whole text.
-/

namespace Inspector

/-- A network address, as four bytes or eight groups of sixteen bits. -/
inductive Address where
  | v4 (octets : List Nat)
  | v6 (groups : List Nat)
deriving DecidableEq, Repr

namespace Address

/-! ## Writing -/

def hexText (n : Nat) : String :=
  String.ofList (Nat.toDigits 16 n)

/-- Four bytes in decimal, with points between them. -/
def v4Text (octets : List Nat) : String :=
  String.intercalate "." (octets.map fun n => String.ofList (Nat.toDigits 10 n))

/-- Groups in hexadecimal, with colons between them. -/
def groupsText (groups : List Nat) : String :=
  String.intercalate ":" (groups.map hexText)

/-- The number of zeros at the front. -/
def leadingZeros (groups : List Nat) : Nat :=
  (groups.takeWhile (· == 0)).length

/-- The longest run of zeros, as its place and its length; of equal runs the first. -/
def longestZeros : List Nat → Nat × Nat
  | [] => (0, 0)
  | group :: rest =>
    let here := leadingZeros (group :: rest)
    let (place, length) := longestZeros rest
    if length ≤ here then (0, here) else (place + 1, length)

/-- Eight groups: an address that stands for an IPv4 address shows it, and else the longest run of
two or more zeros is left out. -/
def v6Text (groups : List Nat) : String :=
  match groups with
  | [0, 0, 0, 0, 0, 0xffff, high, low] =>
    "::ffff:" ++ v4Text [high / 256, high % 256, low / 256, low % 256]
  | _ =>
    let (place, length) := longestZeros groups
    if 1 < length then
      groupsText (groups.take place) ++ "::" ++ groupsText (groups.drop (place + length))
    else groupsText groups

def text : Address → String
  | v4 octets => v4Text octets
  | v6 groups => v6Text groups

def withPort (address : Address) (port : Nat) : String :=
  match address with
  | v4 octets => s!"{v4Text octets}:{port}"
  | v6 groups => s!"[{v6Text groups}]:{port}"

/-! ## Reading -/

def digit? (radix : Nat) (c : Char) : Option Nat :=
  let value :=
    if '0' ≤ c ∧ c ≤ '9' then c.toNat - '0'.toNat
    else if 'a' ≤ c ∧ c ≤ 'z' then c.toNat - 'a'.toNat + 10
    else if 'A' ≤ c ∧ c ≤ 'Z' then c.toNat - 'A'.toNat + 10
    else radix
  if value < radix then some value else none

/-- A number of one digit at least and `maxDigits` at most. -/
def number? (radix maxDigits : Nat) (leadingZero : Bool) (input : List Char) :
    Option (Nat × List Char) :=
  let digits := (input.takeWhile fun c => (digit? radix c).isSome).filterMap (digit? radix)
  let rest := input.dropWhile fun c => (digit? radix c).isSome
  if digits.isEmpty || maxDigits < digits.length then none
  else if !leadingZero && 1 < digits.length && digits.head? == some 0 then none
  else some (digits.foldl (fun n d => n * radix + d) 0, rest)

def char? (c : Char) : List Char → Option (List Char)
  | first :: rest => if first = c then some rest else none
  | [] => none

/-- A byte in decimal, without zeros in front. -/
def octet? (input : List Char) : Option (Nat × List Char) := do
  let (n, rest) ← number? 10 3 false input
  if n < 256 then some (n, rest) else none

def v4? (input : List Char) : Option (List Nat × List Char) := do
  let (a, rest) ← octet? input
  let (b, rest) ← octet? (← char? '.' rest)
  let (c, rest) ← octet? (← char? '.' rest)
  let (d, rest) ← octet? (← char? '.' rest)
  some ([a, b, c, d], rest)

/-- What stands where a group can begin: all but the first have a colon in front. -/
def groupStart? (first : Bool) (input : List Char) : Option (List Char) :=
  if first then some input else char? ':' input

/-- At most `room` groups, and whether the last two were given as an IPv4 address. -/
def groups : (room : Nat) → (first : Bool) → List Char → List Nat × Bool × List Char
  | 0, _, input => ([], false, input)
  | room + 1, first, input =>
    let embedded := if 0 < room then (groupStart? first input).bind v4? else none
    match embedded with
    | some ([a, b, c, d], rest) => ([a * 256 + b, c * 256 + d], true, rest)
    | _ =>
      match (groupStart? first input).bind (number? 16 4 true) with
      | none => ([], false, input)
      | some (group, rest) =>
        let (others, mapped, after) := groups room false rest
        (group :: others, mapped, after)

/-- Eight groups, of which a run of zeros may be left out once. -/
def v6? (input : List Char) : Option (List Nat × List Char) := do
  let (head, mapped, rest) := groups 8 true input
  if head.length = 8 then some (head, rest)
  else if mapped then none
  else
    let rest ← char? ':' (← char? ':' rest)
    let (tail, _, rest) := groups (7 - head.length) true rest
    some (head ++ List.replicate (8 - head.length - tail.length) 0 ++ tail, rest)

def ofText? (text : String) : Option Address :=
  match v4? text.toList with
  | some (octets, rest) => if rest.isEmpty then some (v4 octets) else none
  | none =>
    match v6? text.toList with
    | some (groups, rest) => if rest.isEmpty then some (v6 groups) else none
    | none => none

end Address

end Inspector
