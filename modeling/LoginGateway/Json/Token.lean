import LoginGateway.Text.Utf8

namespace LoginGateway.Json

structure Numeral where
  negative : Bool
  whole : Octets
  fraction : Option Octets
  exponent : Option (Bool × Octets)
  deriving DecidableEq, Repr

inductive Token where
  | openList
  | closeList
  | openObject
  | closeObject
  | colon
  | comma
  | null
  | bool (value : Bool)
  | number (numeral : Numeral)
  | text (raw : Octets)
  | broken
  deriving DecidableEq, Repr

def isDigit (octet : UInt8) : Bool := 0x30 ≤ octet && octet ≤ 0x39

def isLetter (octet : UInt8) : Bool := 0x61 ≤ octet && octet ≤ 0x7A

def isSpace (octet : UInt8) : Bool := octet == 0x20 || octet == 0x0A || octet == 0x0D || octet == 0x09

def hexValue? (octet : UInt8) : Option Nat :=
  if isDigit octet then some (octet.toNat - 0x30)
  else if 0x61 ≤ octet && octet ≤ 0x66 then some (octet.toNat - 0x57)
  else if 0x41 ≤ octet && octet ≤ 0x46 then some (octet.toNat - 0x37)
  else none

def isNumeric (octet : UInt8) : Bool :=
  isDigit octet || octet == 0x2D || octet == 0x2B || octet == 0x2E || octet == 0x65 || octet == 0x45

def Numeral.withExponent (negative : Bool) (whole : Octets) (fraction : Option Octets) : Octets → Option Numeral
  | [] => some ⟨negative, whole, fraction, none⟩
  | mark :: rest =>
    if mark == 0x65 || mark == 0x45 then
      let (down, digits) := match rest with
        | 0x2D :: digits => (true, digits)
        | 0x2B :: digits => (false, digits)
        | digits => (false, digits)
      if !digits.isEmpty && digits.all isDigit then some ⟨negative, whole, fraction, some (down, digits)⟩ else none
    else none

def Numeral.withFraction (negative : Bool) (whole : Octets) : Octets → Option Numeral
  | 0x2E :: rest =>
    let digits := rest.takeWhile isDigit
    if digits.isEmpty then none
    else Numeral.withExponent negative whole (some digits) (rest.dropWhile isDigit)
  | rest => Numeral.withExponent negative whole none rest

def Numeral.unsigned (negative : Bool) (text : Octets) : Option Numeral :=
  match text.takeWhile isDigit with
  | [] => none
  | 0x30 :: _ :: _ => none
  | whole => Numeral.withFraction negative whole (text.dropWhile isDigit)

def Numeral.ofOctets? : Octets → Option Numeral
  | 0x2D :: rest => Numeral.unsigned true rest
  | text => Numeral.unsigned false text

inductive Reading where
  | between
  | inWord (read : Octets)
  | inNumber (read : Octets)
  | inText (read : Octets)
  | inEscape (read : Octets)
  | inCode (owed : Nat) (read : Octets)
  | stopped
  deriving DecidableEq, Repr

structure Lexer where
  tokens : List Token
  reading : Reading
  deriving DecidableEq, Repr

def Lexer.stop (tokens : List Token) : Lexer := ⟨.broken :: tokens, .stopped⟩

def word : Octets → Token
  | [0x6E, 0x75, 0x6C, 0x6C] => .null
  | [0x74, 0x72, 0x75, 0x65] => .bool true
  | [0x66, 0x61, 0x6C, 0x73, 0x65] => .bool false
  | _ => .broken

def Lexer.emit (tokens : List Token) : Token → Lexer
  | .broken => .stop tokens
  | token => ⟨token :: tokens, .between⟩

def Lexer.settle (lexer : Lexer) : Lexer :=
  match lexer.reading with
  | .inWord read => .emit lexer.tokens (word read.reverse)
  | .inNumber read =>
    match Numeral.ofOctets? read.reverse with
    | some numeral => .emit lexer.tokens (.number numeral)
    | none => .stop lexer.tokens
  | _ => lexer

def begin (tokens : List Token) (octet : UInt8) : Lexer :=
  if isSpace octet then ⟨tokens, .between⟩
  else if octet == 0x22 then ⟨tokens, .inText []⟩
  else if isDigit octet || octet == 0x2D then ⟨tokens, .inNumber [octet]⟩
  else if isLetter octet then ⟨tokens, .inWord [octet]⟩
  else if octet == 0x5B then .emit tokens .openList
  else if octet == 0x5D then .emit tokens .closeList
  else if octet == 0x7B then .emit tokens .openObject
  else if octet == 0x7D then .emit tokens .closeObject
  else if octet == 0x3A then .emit tokens .colon
  else if octet == 0x2C then .emit tokens .comma
  else .stop tokens

def isSimpleEscape (octet : UInt8) : Bool :=
  octet == 0x22 || octet == 0x5C || octet == 0x2F || octet == 0x62 || octet == 0x66 || octet == 0x6E
    || octet == 0x72 || octet == 0x74

def Lexer.resume (lexer : Lexer) (octet : UInt8) : Lexer :=
  match lexer.settle with
  | ⟨tokens, .between⟩ => begin tokens octet
  | stopped => stopped

def Lexer.step (lexer : Lexer) (octet : UInt8) : Lexer :=
  match lexer.reading with
  | .stopped => lexer
  | .between => begin lexer.tokens octet
  | .inWord read =>
    if isLetter octet then ⟨lexer.tokens, .inWord (octet :: read)⟩ else lexer.resume octet
  | .inNumber read =>
    if isNumeric octet then ⟨lexer.tokens, .inNumber (octet :: read)⟩ else lexer.resume octet
  | .inText read =>
    if octet == 0x22 then ⟨.text read.reverse :: lexer.tokens, .between⟩
    else if octet == 0x5C then ⟨lexer.tokens, .inEscape (octet :: read)⟩
    else if octet < 0x20 then .stop lexer.tokens
    else ⟨lexer.tokens, .inText (octet :: read)⟩
  | .inEscape read =>
    if octet == 0x75 then ⟨lexer.tokens, .inCode 4 (octet :: read)⟩
    else if isSimpleEscape octet then ⟨lexer.tokens, .inText (octet :: read)⟩
    else .stop lexer.tokens
  | .inCode owed read =>
    if (hexValue? octet).isSome then
      if owed ≤ 1 then ⟨lexer.tokens, .inText (octet :: read)⟩
      else ⟨lexer.tokens, .inCode (owed - 1) (octet :: read)⟩
    else .stop lexer.tokens

def Lexer.finish (lexer : Lexer) : List Token :=
  let settled := lexer.settle
  match settled.reading with
  | .between | .stopped => settled.tokens.reverse
  | _ => (Token.broken :: settled.tokens).reverse

def tokenize (text : Octets) : List Token := (text.foldl Lexer.step ⟨[], .between⟩).finish

end LoginGateway.Json
