import LoginGateway.Text.Split
import LoginGateway.Time.Calendar

namespace LoginGateway.Toml

def isTextChar (c : Char) : Bool := c == '\t' || (0x20 ≤ c.val && c.val != 0x7F)

def hexDigitValue? (c : Char) : Option Nat :=
  if c.isDigit then some (c.toNat - 48)
  else if 'a' ≤ c && c ≤ 'f' then some (c.toNat - 87)
  else if 'A' ≤ c && c ≤ 'F' then some (c.toNat - 55)
  else none

def charOfHex? (digits : List Char) : Option Char := do
  let code ← digits.foldlM (fun n c => (hexDigitValue? c).map (n * 16 + ·)) 0
  if code < 0xD800 ∨ (0xDFFF < code ∧ code ≤ 0x10FFFF) then some (Char.ofNat code) else none

def simpleEscape? : Char → Option Char
  | 'b' => some '\x08'
  | 't' => some '\t'
  | 'n' => some '\n'
  | 'f' => some '\x0c'
  | 'r' => some '\r'
  | '\x22' => some '\x22'
  | '\\' => some '\\'
  | _ => none

def basicText? (read : List Char) : List Char → Option (String × List Char)
  | [] => none
  | '\x22' :: rest => some (String.ofList read.reverse, rest)
  | '\\' :: 'u' :: a :: b :: c :: d :: rest =>
    match charOfHex? [a, b, c, d] with
    | some char => basicText? (char :: read) rest
    | none => none
  | '\\' :: 'U' :: a :: b :: c :: d :: e :: f :: g :: h :: rest =>
    match charOfHex? [a, b, c, d, e, f, g, h] with
    | some char => basicText? (char :: read) rest
    | none => none
  | '\\' :: escape :: rest =>
    match simpleEscape? escape with
    | some char => basicText? (char :: read) rest
    | none => none
  | c :: rest => if isTextChar c && c != '\\' then basicText? (c :: read) rest else none

def literalText? (read : List Char) : List Char → Option (String × List Char)
  | [] => none
  | '\x27' :: rest => some (String.ofList read.reverse, rest)
  | c :: rest => if isTextChar c then literalText? (c :: read) rest else none

def endsLine (text : List Char) : Bool :=
  match text.dropWhile fun c => c == ' ' || c == '\t' with
  | '\n' :: _ => true
  | '\r' :: '\n' :: _ => true
  | _ => false

def basicLines? (skipping : Bool) (read : List Char) : List Char → Option (String × List Char)
  | [] => none
  | '\x22' :: '\x22' :: '\x22' :: '\x22' :: '\x22' :: rest =>
    some (String.ofList ('\x22' :: '\x22' :: read).reverse, rest)
  | '\x22' :: '\x22' :: '\x22' :: '\x22' :: rest => some (String.ofList ('\x22' :: read).reverse, rest)
  | '\x22' :: '\x22' :: '\x22' :: rest => some (String.ofList read.reverse, rest)
  | '\r' :: '\n' :: rest => if skipping then basicLines? true read rest else basicLines? false ('\n' :: read) rest
  | '\n' :: rest => if skipping then basicLines? true read rest else basicLines? false ('\n' :: read) rest
  | '\\' :: 'u' :: a :: b :: c :: d :: rest =>
    match charOfHex? [a, b, c, d] with
    | some char => basicLines? false (char :: read) rest
    | none => none
  | '\\' :: 'U' :: a :: b :: c :: d :: e :: f :: g :: h :: rest =>
    match charOfHex? [a, b, c, d, e, f, g, h] with
    | some char => basicLines? false (char :: read) rest
    | none => none
  | '\\' :: c :: rest =>
    match simpleEscape? c with
    | some char => basicLines? false (char :: read) rest
    | none => if endsLine (c :: rest) then basicLines? true read (c :: rest) else none
  | c :: rest =>
    if skipping && (c == ' ' || c == '\t') then basicLines? true read rest
    else if isTextChar c && c != '\\' then basicLines? false (c :: read) rest
    else none

def literalLines? (read : List Char) : List Char → Option (String × List Char)
  | [] => none
  | '\x27' :: '\x27' :: '\x27' :: '\x27' :: '\x27' :: rest =>
    some (String.ofList ('\x27' :: '\x27' :: read).reverse, rest)
  | '\x27' :: '\x27' :: '\x27' :: '\x27' :: rest => some (String.ofList ('\x27' :: read).reverse, rest)
  | '\x27' :: '\x27' :: '\x27' :: rest => some (String.ofList read.reverse, rest)
  | '\r' :: '\n' :: rest => literalLines? ('\n' :: read) rest
  | '\n' :: rest => literalLines? ('\n' :: read) rest
  | c :: rest => if isTextChar c then literalLines? (c :: read) rest else none

def withoutFirstLine : List Char → List Char
  | '\r' :: '\n' :: rest => rest
  | '\n' :: rest => rest
  | text => text

def quoted? (overLines : Bool) : List Char → Option (String × List Char)
  | '\x22' :: '\x22' :: '\x22' :: rest =>
    if overLines then basicLines? false [] (withoutFirstLine rest) else none
  | '\x27' :: '\x27' :: '\x27' :: rest => if overLines then literalLines? [] (withoutFirstLine rest) else none
  | '\x22' :: rest => basicText? [] rest
  | '\x27' :: rest => literalText? [] rest
  | _ => none

def digitsIn? (base : Nat) (text : List Char) : Option Nat :=
  let parts := Text.split (· == '_') text
  if parts.any List.isEmpty then none
  else parts.flatten.foldlM (fun n c => match hexDigitValue? c with
    | some value => if value < base then some (n * base + value) else none
    | none => none) 0

def decimal? (text : List Char) : Option Nat :=
  match text with
  | '0' :: _ :: _ => none
  | digits => digitsIn? 10 digits

def unsign : List Char → Bool × List Char
  | '-' :: rest => (true, rest)
  | '+' :: rest => (false, rest)
  | text => (false, text)

def integer? (text : List Char) : Option Int := do
  let n : Int ← match text with
    | '0' :: 'x' :: digits => (digitsIn? 16 digits).map Int.ofNat
    | '0' :: 'o' :: digits => (digitsIn? 8 digits).map Int.ofNat
    | '0' :: 'b' :: digits => (digitsIn? 2 digits).map Int.ofNat
    | _ =>
      let (negative, digits) := unsign text
      (decimal? digits).map fun n => if negative then -(n : Int) else n
  if -0x8000000000000000 ≤ n ∧ n ≤ 0x7FFFFFFFFFFFFFFF then some n else none

def isFloat (text : List Char) : Bool :=
  let digits := (unsign text).2
  if digits = ['i', 'n', 'f'] ∨ digits = ['n', 'a', 'n'] then true
  else
    let (mantissa, exponent) := Text.cut (fun c => c == 'e' || c == 'E') digits
    let (whole, fraction) := Text.cut (· == '.') mantissa
    (decimal? whole).isSome && (fraction.isSome || exponent.isSome)
      && (fraction.all fun part => (digitsIn? 10 part).isSome)
      && (exponent.all fun part => (digitsIn? 10 (unsign part).2).isSome)

def fixed? (width : Nat) (text : List Char) : Option Nat :=
  if text.length = width ∧ text.all Char.isDigit then digitsIn? 10 text else none

def isDate (text : List Char) : Bool :=
  match Text.split (· == '-') text with
  | [year, month, day] =>
    match fixed? 4 year, fixed? 2 month, fixed? 2 day with
    | some year, some month, some day =>
      1 ≤ month && month ≤ 12 && 1 ≤ day && day ≤ Date.daysInMonth year month
    | _, _, _ => false
  | _ => false

def isTime (text : List Char) : Bool :=
  match Text.split (· == ':') text with
  | [hour, minute, second] =>
    let (second, fraction) := Text.cut (· == '.') second
    match fixed? 2 hour, fixed? 2 minute, fixed? 2 second with
    | some hour, some minute, some second =>
      hour ≤ 23 && minute ≤ 59 && second ≤ 60 && (fraction.all fun part => !part.isEmpty && part.all Char.isDigit)
    | _, _, _ => false
  | _ => false

def isOffset (text : List Char) : Bool :=
  match text with
  | ['Z'] | ['z'] => true
  | '+' :: rest | '-' :: rest =>
    match Text.split (· == ':') rest with
    | [hour, minute] =>
      match fixed? 2 hour, fixed? 2 minute with
      | some hour, some minute => hour ≤ 23 && minute ≤ 59
      | _, _ => false
    | _ => false
  | _ => false

def isTimeWithOffset (text : List Char) : Bool :=
  let time := text.takeWhile fun c => c.isDigit || c == ':' || c == '.'
  let offset := text.drop time.length
  isTime time && (offset.isEmpty || isOffset offset)

def isDateTime (text : List Char) : Bool :=
  let (date, time) := Text.cut (fun c => c == 'T' || c == 't' || c == ' ') text
  match time with
  | some time => isDate date && isTimeWithOffset time
  | none => isDate date || isTime date

end LoginGateway.Toml
