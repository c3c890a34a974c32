/-!
# Base 64

The texts that encode bytes in base 64 with padding.
-/

namespace ModelGate.Base64

/-- The six bits that a character stands for. -/
def value? (c : Char) : Option Nat :=
  if 'A' ≤ c && c ≤ 'Z' then some (c.toNat - 65)
  else if 'a' ≤ c && c ≤ 'z' then some (c.toNat - 71)
  else if '0' ≤ c && c ≤ '9' then some (c.toNat + 4)
  else if c == '+' then some 62
  else if c == '/' then some 63
  else none

/-- Whether the text of whole bytes is encoded: groups of four characters, the last one padded
and without stray bits. -/
def isEncoded : List Char → Bool
  | [] => true
  | [a, b, '=', '='] => (value? a).isSome && (value? b).any fun n => n % 16 == 0
  | [a, b, c, '='] =>
    (value? a).isSome && (value? b).isSome && (value? c).any fun n => n % 4 == 0
  | a :: b :: c :: d :: rest =>
    (value? a).isSome && (value? b).isSome && (value? c).isSome && (value? d).isSome &&
      isEncoded rest
  | _ => false

end ModelGate.Base64
