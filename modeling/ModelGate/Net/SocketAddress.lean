/-!
# Socket addresses

An IP address with a port. Version 6 addresses stand in brackets, possibly with a numeric scope,
and are written in lower case with their longest run of zero groups left out.
-/

namespace ModelGate.Net

inductive SocketAddress where
  | v4 (octets : List Nat) (port : Nat)
  | v6 (groups : List Nat) (scope : Nat) (port : Nat)
  deriving DecidableEq, Repr

/-- The value of a digit in a base up to sixteen. -/
def digit? (base : Nat) (c : Char) : Option Nat :=
  let value :=
    if '0' ≤ c && c ≤ '9' then c.toNat - 48
    else if 'a' ≤ c && c ≤ 'f' then c.toNat - 87
    else if 'A' ≤ c && c ≤ 'F' then c.toNat - 55
    else 16
  if value < base then some value else none

/-- Reads a number below a bound from all digits that follow, but at most the given count of them.
Without leave for it a number of several digits must not start with a zero. -/
def readNumber? (base bound : Nat) (most : Option Nat) (leadingZeros : Bool) (cs : List Char) :
    Option (Nat × List Char) :=
  let digits := cs.takeWhile fun c => (digit? base c).isSome
  let value := (digits.filterMap (digit? base)).foldl (fun n d => n * base + d) 0
  if digits.isEmpty || most.any (decide <| · < digits.length) then none
  else if !leadingZeros && digits.head? == some '0' && 1 < digits.length then none
  else if value < bound then some (value, cs.drop digits.length)
  else none

/-- Reads a given character. -/
def readChar? (x : Char) : List Char → Option (List Char)
  | c :: rest => if c == x then some rest else none
  | [] => none

/-- Reads an octet of a version 4 address. -/
def readOctet? (cs : List Char) : Option (Nat × List Char) :=
  readNumber? 10 256 (some 3) false cs

/-- Reads a version 4 address: four octets between points. -/
def readV4? (cs : List Char) : Option (List Nat × List Char) := do
  let (a, cs) ← readOctet? cs
  let (b, cs) ← readOctet? (← readChar? '.' cs)
  let (c, cs) ← readOctet? (← readChar? '.' cs)
  let (d, cs) ← readOctet? (← readChar? '.' cs)
  return ([a, b, c, d], cs)

/-- Reads the colon in front of every group but the first. -/
def readSeparator? (first : Bool) (cs : List Char) : Option (List Char) :=
  if first then some cs else readChar? ':' cs

/-- Reads a version 4 address as the last two groups of a version 6 address. -/
def readEmbedded? (first : Bool) (cs : List Char) : Option (List Nat × List Char) := do
  match ← readV4? (← readSeparator? first cs) with
  | ([a, b, c, d], rest) => return ([a * 256 + b, c * 256 + d], rest)
  | _ => none

/-- Reads groups of a version 6 address, at most the given count. The result tells whether they
end in a version 4 address. -/
def readGroups : Nat → Bool → List Char → List Nat × Bool × List Char
  | 0, _, cs => ([], false, cs)
  | left + 1, first, cs =>
    match if 0 < left then readEmbedded? first cs else none with
    | some (groups, rest) => (groups, true, rest)
    | none =>
      match (readSeparator? first cs).bind (readNumber? 16 65536 (some 4) true) with
      | none => ([], false, cs)
      | some (group, rest) =>
        let (groups, embedded, rest) := readGroups left false rest
        (group :: groups, embedded, rest)

/-- Reads a version 6 address; two colons in a row stand for at least one group of zeros. -/
def readV6? (cs : List Char) : Option (List Nat × List Char) := do
  let (head, embedded, cs) := readGroups 8 true cs
  if head.length = 8 then return (head, cs)
  if embedded then none
  let cs ← readChar? ':' (← readChar? ':' cs)
  let (tail, _, cs) := readGroups (7 - head.length) true cs
  return (head ++ List.replicate (8 - head.length - tail.length) 0 ++ tail, cs)

/-- Reads the port behind a colon. -/
def readPort? (cs : List Char) : Option (Nat × List Char) := do
  readNumber? 10 65536 none true (← readChar? ':' cs)

/-- Reads the scope of a version 6 address, if there is one. -/
def readScope? : List Char → Option (Nat × List Char)
  | '%' :: rest => readNumber? 10 UInt32.size none true rest
  | cs => some (0, cs)

namespace SocketAddress

/-- The address with a version 4 text. -/
def ofV4? (cs : List Char) : Option SocketAddress := do
  let (octets, cs) ← readV4? cs
  match ← readPort? cs with
  | (port, []) => return .v4 octets port
  | _ => none

/-- The address with a version 6 text. -/
def ofV6? (cs : List Char) : Option SocketAddress := do
  let (groups, cs) ← readV6? (← readChar? '[' cs)
  let (scope, cs) ← readScope? cs
  match ← readPort? (← readChar? ']' cs) with
  | (port, []) => return .v6 groups scope port
  | _ => none

/-- The address that a text gives. -/
def parse? (text : String) : Option SocketAddress :=
  (ofV4? text.toList).or (ofV6? text.toList)

/-- The text of a version 4 address. -/
def octetText (octets : List Nat) : String :=
  ".".intercalate (octets.map toString)

/-- The text of groups between colons. -/
def groupText (groups : List Nat) : String :=
  ":".intercalate (groups.map fun n => String.ofList (Nat.toDigits 16 n))

/-- The start and the length of the longest run of zeros, the first of several. -/
def longestZeros (groups : List Nat) : Nat × Nat :=
  let scan := groups.foldl (fun (s : Nat × Nat × Nat × Nat) group =>
    let (index, run, start, length) := s
    if group = 0 then
      let run := run + 1
      if length < run then (index + 1, run, index + 1 - run, run) else (index + 1, run, start, length)
    else (index + 1, 0, start, length)) (0, 0, 0, 0)
  (scan.2.2.1, scan.2.2.2)

/-- The text of a version 6 address; one that stands for a version 4 address ends like it. -/
def groupsText (groups : List Nat) : String :=
  match groups with
  | [0, 0, 0, 0, 0, 0xFFFF, a, b] =>
    "::ffff:" ++ octetText [a / 256, a % 256, b / 256, b % 256]
  | _ =>
    let (start, length) := longestZeros groups
    if 1 < length then
      groupText (groups.take start) ++ "::" ++ groupText (groups.drop (start + length))
    else groupText groups

def text : SocketAddress → String
  | .v4 octets port => octetText octets ++ ":" ++ toString port
  | .v6 groups scope port =>
    let zone := if scope = 0 then "" else "%" ++ toString scope
    "[" ++ groupsText groups ++ zone ++ "]:" ++ toString port

end SocketAddress

end ModelGate.Net
