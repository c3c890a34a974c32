import ModelGate.Text.Whitespace

/-!
# Points of time in the calendar

Unix seconds as dates and times in UTC, and the texts in which API objects give points of time.
-/

namespace ModelGate.Calendar

/-- A number with at least a given count of digits. -/
def padded (width n : Nat) : String :=
  let digits := toString n
  String.ofList (List.replicate (width - digits.length) '0') ++ digits

/-- A year with four digits, or with its sign when it is negative or needs more. -/
def yearText (year : Int) : String :=
  if year < 0 then "-" ++ padded 4 year.natAbs
  else if year < 10000 then padded 4 year.natAbs
  else "+" ++ padded 5 year.natAbs

/-- The year, month and day of a number of days since the start of 1970, counted in eras of 400
years that start in March. -/
def civil (days : Int) : Int × Nat × Nat :=
  let shifted := days + 719468
  let era := shifted / 146097
  let dayOfEra := (shifted % 146097).toNat
  let yearOfEra := (dayOfEra - dayOfEra / 1460 + dayOfEra / 36524 - dayOfEra / 146096) / 365
  let dayOfYear := dayOfEra - (365 * yearOfEra + yearOfEra / 4 - yearOfEra / 100)
  let fromMarch := (5 * dayOfYear + 2) / 153
  let day := dayOfYear - (153 * fromMarch + 2) / 5 + 1
  let month := if fromMarch < 10 then fromMarch + 3 else fromMarch - 9
  let year := (yearOfEra : Int) + era * 400 + (if month ≤ 2 then 1 else 0)
  (year, month, day)

/-- The date and time in UTC of a number of seconds since the start of 1970. -/
def timestamp (unix : Int) : String :=
  let (year, month, day) := civil (unix / 86400)
  let second := (unix % 86400).toNat
  yearText year ++ "-" ++ padded 2 month ++ "-" ++ padded 2 day ++ "T" ++
    padded 2 (second / 3600) ++ ":" ++ padded 2 (second / 60 % 60) ++ ":" ++
    padded 2 (second % 60) ++ "Z"

def isLeap (year : Int) : Bool :=
  year % 4 == 0 && (year % 100 != 0 || year % 400 == 0)

/-- The number of days of a month. -/
def monthLength (year : Int) (month : Nat) : Nat :=
  if month == 2 then (if isLeap year then 29 else 28)
  else if month == 4 || month == 6 || month == 9 || month == 11 then 30
  else 31

/-- Drops white space. -/
def skipSpace (cs : List Char) : List Char :=
  cs.dropWhile isWhitespaceChar

/-- Reads a number of one up to a given count of digits, behind white space. -/
def readNumber? (width : Nat) (cs : List Char) : Option (Nat × List Char) :=
  let cs := skipSpace cs
  let digits := (cs.take width).takeWhile Char.isDigit
  if digits.isEmpty then none
  else some (digits.foldl (fun n d => n * 10 + (d.toNat - 48)) 0, cs.drop digits.length)

/-- Reads a year: four digits at most, or any number of them behind a sign. -/
def readYear? (cs : List Char) : Option (Int × List Char) :=
  match skipSpace cs with
  | '-' :: rest =>
    if rest.head?.any Char.isDigit then
      (readNumber? rest.length rest).map fun (n, rest) => (-(n : Int), rest)
    else none
  | '+' :: rest =>
    if rest.head?.any Char.isDigit then
      (readNumber? rest.length rest).map fun (n, rest) => ((n : Int), rest)
    else none
  | cs => (readNumber? 4 cs).map fun (n, rest) => ((n : Int), rest)

/-- Reads a given character behind white space. -/
def readMark? (mark : Char) (cs : List Char) : Option (List Char) :=
  match skipSpace cs with
  | c :: rest => if c == mark then some rest else none
  | [] => none

/-- Reads a fraction of a second, if there is one. -/
def readFraction? : List Char → Option (List Char)
  | '.' :: rest =>
    if rest.head?.any Char.isDigit then some (rest.dropWhile Char.isDigit) else none
  | cs => some cs

/-- Reads the distance to UTC: a `Z`, the word `UTC`, or a sign with hours and minutes. -/
def readOffset? (cs : List Char) : Option (List Char) :=
  let cs := skipSpace cs
  if (cs.take 3).map Char.toUpper == ['U', 'T', 'C'] then some (cs.drop 3)
  else
    match cs with
    | 'Z' :: rest => some rest
    | 'z' :: rest => some rest
    | sign :: h₁ :: h₂ :: rest =>
      if (sign == '+' || sign == '-' || sign == '\u2212') && h₁.isDigit && h₂.isDigit then
        match rest.dropWhile fun c => c == ':' || isWhitespaceChar c with
        | m₁ :: m₂ :: rest =>
          if '0' ≤ m₁ && m₁ ≤ '5' && m₂.isDigit &&
              decide ((h₁.toNat - 48) * 10 + (h₂.toNat - 48) < 24) then some rest
          else none
        | _ => none
      else none
    | _ => none

/-- Whether a text gives a point of time: a date, one of `T`, `t` and a blank, and a time with
its distance to UTC. White space may stand between the parts. -/
def isTimestamp (text : String) : Bool :=
  let parsed : Option Unit := do
    let (year, cs) ← readYear? text.toList
    let (month, cs) ← readNumber? 2 (← readMark? '-' cs)
    let (day, cs) ← readNumber? 2 (← readMark? '-' cs)
    let cs ← match cs with
      | c :: rest => if c == 'T' || c == 't' || c == ' ' then some rest else none
      | [] => none
    let (hour, cs) ← readNumber? 2 cs
    let (minute, cs) ← readNumber? 2 (← readMark? ':' cs)
    let (second, cs) ← readNumber? 2 (← readMark? ':' cs)
    let rest ← readOffset? (← readFraction? cs)
    if (skipSpace rest).isEmpty && decide (-262143 ≤ year) && decide (year ≤ 262142) &&
        decide (1 ≤ month) && decide (month ≤ 12) && decide (1 ≤ day) &&
        decide (day ≤ monthLength year month) && decide (hour < 24) && decide (minute < 60) &&
        decide (second ≤ 60) then
      some ()
    else none
  parsed.isSome

end ModelGate.Calendar
