import Inspector.Bytes

/-!
# Bytes as hexadecimal digits

Each byte is two lower-case digits, the high one first. Reading takes capitals as well;
`decode?_encode` says that it undoes writing.
-/

namespace Inspector.Text.Hexadecimal

def digit (n : Nat) : Char :=
  Nat.digitChar n

def value? (c : Char) : Option Nat :=
  if '0' ≤ c ∧ c ≤ '9' then some (c.toNat - '0'.toNat)
  else if 'a' ≤ c ∧ c ≤ 'f' then some (c.toNat - 'a'.toNat + 10)
  else if 'A' ≤ c ∧ c ≤ 'F' then some (c.toNat - 'A'.toNat + 10)
  else none

def encode (bytes : Bytes) : List Char :=
  bytes.flatMap fun b => [digit (b.toNat / 16), digit (b.toNat % 16)]

/-- The byte string with the given digits, if they are digits and come in pairs. -/
def decode? : List Char → Option Bytes
  | [] => some []
  | [_] => none
  | high :: low :: rest => do
    let first := UInt8.ofNat ((← value? high) * 16 + (← value? low))
    return first :: (← decode? rest)

theorem value?_digit : ∀ n < 16, value? (digit n) = some n := by
  decide

/-- Reading undoes writing. -/
theorem decode?_encode (bytes : Bytes) : decode? (encode bytes) = some bytes := by
  induction bytes with
  | nil => rfl
  | cons b rest ih =>
    have size := b.toNat_lt
    have high := value?_digit (b.toNat / 16) (by omega)
    have low := value?_digit (b.toNat % 16) (by omega)
    have whole : UInt8.ofNat (b.toNat / 16 * 16 + b.toNat % 16) = b := by
      rw [show b.toNat / 16 * 16 + b.toNat % 16 = b.toNat by omega, UInt8.ofNat_toNat]
    simp only [encode, List.flatMap_cons, List.cons_append, List.nil_append] at ih ⊢
    simp only [decode?, high, low, ih, whole, Option.bind_eq_bind, Option.bind_some,
      Option.pure_def]

end Inspector.Text.Hexadecimal
