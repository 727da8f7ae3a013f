import LoginGateway.Text.Blank
import LoginGateway.Time.Instant

namespace LoginGateway.Rfc3339

def padded (width n : Nat) : String :=
  let digits := toString n
  String.ofList (List.replicate (width - digits.length) '0') ++ digits

def yearText (year : Int) : String :=
  if year < 0 then "-" ++ padded 4 year.natAbs
  else if year ≤ 9999 then padded 4 year.natAbs
  else "+" ++ padded 4 year.natAbs

def fractionText (nanos : Nat) : String :=
  if nanos = 0 then ""
  else if nanos % 1000000 = 0 then "." ++ padded 3 (nanos / 1000000)
  else if nanos % 1000 = 0 then "." ++ padded 6 (nanos / 1000)
  else "." ++ padded 9 nanos

/-- The text of an instant; a leap second is second 60 of its minute. -/
def print (instant : Instant) : String :=
  let date := Date.ofDays (instant.seconds / 86400)
  let second := (instant.seconds % 86400).toNat
  let leap := instant.nanos / Instant.billion
  yearText date.year ++ "-" ++ padded 2 date.month ++ "-" ++ padded 2 date.day ++ "T"
    ++ padded 2 (second / 3600) ++ ":" ++ padded 2 (second / 60 % 60) ++ ":" ++ padded 2 (second % 60 + leap)
    ++ fractionText (instant.nanos % Instant.billion) ++ "Z"

def skipBlanks (text : List Char) : List Char := text.dropWhile Text.isBlank

def digitValue (c : Char) : Nat := c.toNat - 48

def numberOf (digits : List Char) : Nat := digits.foldl (fun n c => n * 10 + digitValue c) 0

def digits? (limit : Option Nat) (text : List Char) : Option (List Char × List Char) :=
  let run := text.takeWhile Char.isDigit
  let taken := match limit with
    | some limit => run.take limit
    | none => run
  if taken.isEmpty then none else some (taken, text.drop taken.length)

def field? (least greatest : Nat) (text : List Char) : Option (Nat × List Char) := do
  let (digits, rest) ← digits? (some 2) (skipBlanks text)
  let n := numberOf digits
  if least ≤ n ∧ n ≤ greatest then some (n, rest) else none

def year? (text : List Char) : Option (Int × List Char) := do
  match skipBlanks text with
  | '-' :: rest => do
    let (digits, rest) ← digits? none rest
    return (-(numberOf digits : Int), rest)
  | '+' :: rest => do
    let (digits, rest) ← digits? none rest
    return ((numberOf digits : Int), rest)
  | text => do
    let (digits, rest) ← digits? (some 4) text
    return ((numberOf digits : Int), rest)

def mark? (mark : Char) (text : List Char) : Option (List Char) :=
  match skipBlanks text with
  | c :: rest => if c = mark then some rest else none
  | [] => none

def fraction? : List Char → Option (Nat × List Char)
  | '.' :: text => do
    let (digits, rest) ← digits? (some 9) text
    return (numberOf digits * Nat.pow 10 (9 - digits.length), rest.dropWhile Char.isDigit)
  | text => some (0, text)

def pair? : List Char → Option (Nat × List Char)
  | a :: b :: rest => if a.isDigit && b.isDigit then some (numberOf [a, b], rest) else none
  | _ => none

def offsetSize? (text : List Char) : Option (Nat × List Char) := do
  let (hours, rest) ← pair? text
  let (minutes, rest) ← pair? (rest.dropWhile fun c => c == ':' || Text.isBlank c)
  if minutes ≤ 59 ∧ hours ≤ 23 then some (hours * 3600 + minutes * 60, rest) else none

def offset? (text : List Char) : Option (Int × List Char) :=
  match text with
  | 'Z' :: rest | 'z' :: rest => some (0, rest)
  | '+' :: rest => (offsetSize? rest).map fun (n, rest) => ((n : Int), rest)
  | '-' :: rest | '\u2212' :: rest => (offsetSize? rest).map fun (n, rest) => (-(n : Int), rest)
  | u :: t :: c :: rest => if [u, t, c].map Char.toUpper = ['U', 'T', 'C'] then some (0, rest) else none
  | _ => none

def onDate? (date : Date) (text : List Char) : Option Instant := do
  let (hour, rest) ← field? 0 23 text
  let (minute, rest) ← field? 0 59 (← mark? ':' rest)
  let (second, rest) ← field? 0 60 (← mark? ':' rest)
  let (nanos, rest) ← fraction? rest
  let (offset, rest) ← offset? (skipBlanks rest)
  let leap := second / 60
  let seconds := date.toDays * 86400 + hour * 3600 + minute * 60 + (second - leap : Nat) - offset
  if date.Valid ∧ Instant.InRange seconds ∧ (skipBlanks rest).isEmpty then
    some ⟨seconds, nanos + leap * Instant.billion⟩
  else none

def parse? (text : String) : Option Instant := do
  let (year, rest) ← year? text.toList
  let (month, rest) ← field? 1 12 (← mark? '-' rest)
  let (day, rest) ← field? 1 31 (← mark? '-' rest)
  match rest with
  | 't' :: rest | 'T' :: rest | ' ' :: rest => onDate? ⟨year, month, day⟩ rest
  | _ => none

end LoginGateway.Rfc3339
