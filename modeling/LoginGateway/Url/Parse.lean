import LoginGateway.Text.Blank
import LoginGateway.Url.Host
import LoginGateway.Url.Path

namespace LoginGateway

structure Url where
  scheme : String
  host : Option Url.Host
  port : Option Nat
  path : String
  query : Option String
  deriving DecidableEq, Repr

namespace Url

def ownPort? : String → Option Nat
  | "http" | "ws" => some 80
  | "https" | "wss" => some 443
  | "ftp" => some 21
  | _ => none

def isWeb (scheme : String) : Bool := (ownPort? scheme).isSome

def scheme? (text : List Char) : Option (String × List Char) :=
  match Text.cut (· == ':') text with
  | (first :: more, some rest) =>
    if first.isAlpha && more.all (fun c => c.isAlphanum || c == '+' || c == '-' || c == '.') then
      some (String.ofList ((first :: more).map Char.toLower), rest)
    else none
  | _ => none

def cutPort (inside : Bool) : List Char → List Char × Option (List Char)
  | [] => ([], none)
  | c :: rest =>
    if c == ':' && !inside then ([], some rest)
    else
      let (host, port) := cutPort (if c == '[' then true else if c == ']' then false else inside) rest
      (c :: host, port)

def port? (scheme : String) (digits : List Char) : Option (Option Nat) :=
  if digits.isEmpty then some none
  else if digits.all Char.isDigit then do
    let port ← numberIn? 10 digits
    if port ≤ 65535 then some (if ownPort? scheme = some port then none else some port) else none
  else none

def authority? (scheme : String) (authority : List Char) : Option (Host × Option Nat) := do
  let (hostPort, user) := Text.cutLast (· == '@') authority
  let (hostText, digits) := cutPort false hostPort
  let host ← if isWeb scheme then webHost? hostText else otherHost? hostText
  if hostText.isEmpty ∧ (digits.isSome ∨ user.isSome) then none
  else
    let port ← port? scheme (digits.getD [])
    return (host, port)

def cutQuery (text : List Char) : List Char × Option (List Char) :=
  Text.cut (· == '?') (text.takeWhile (· != '#'))

def withAuthority? (scheme : String) (text : List Char) : Option Url := do
  let web := isWeb scheme
  let stops c := c == '/' || c == '?' || c == '#' || (web && c == '\\')
  let (host, port) ← authority? scheme (text.takeWhile fun c => !stops c)
  let (path, query) := cutQuery (text.dropWhile fun c => !stops c)
  return ⟨scheme, some host, port, normalPath web path, query.map (normalQuery web)⟩

def file? (text : List Char) : Option Url := do
  let isSlash c := c == '/' || c == '\\'
  let (host, rest) ← match text with
    | a :: b :: rest =>
      if isSlash a && isSlash b then
        let hostText := rest.takeWhile fun c => !(isSlash c || c == '?' || c == '#')
        let rest := rest.dropWhile fun c => !(isSlash c || c == '?' || c == '#')
        match hostText with
        | [] => some (none, rest)
        | [drive, mark] =>
          if drive.isAlpha && (mark == ':' || mark == '|') then some (none, hostText ++ rest)
          else (webHost? hostText).map fun host => (some host, rest)
        | _ => (webHost? hostText).map fun host => (some host, rest)
      else some (none, text)
    | _ => some (none, text)
  let (path, query) := cutQuery rest
  return ⟨"file", host, none, normalPath true path, query.map (normalQuery true)⟩

/-- The URL that a text is. Spaces and control characters around it, and tabs and line ends in it, are left
out. -/
def parse? (text : String) : Option Url := do
  let trimmed := Text.strip (fun c => c.val ≤ 0x20) text.toList
  let (scheme, rest) ← scheme? (trimmed.filter fun c => c != '\t' && c != '\n' && c != '\r')
  if scheme = "file" then file? rest
  else if isWeb scheme then withAuthority? scheme (rest.dropWhile fun c => c == '/' || c == '\\')
  else match rest with
    | '/' :: '/' :: rest => withAuthority? scheme rest
    | rest =>
      let (path, query) := cutQuery rest
      return ⟨scheme, none, none, String.ofList path, query.map (normalQuery false)⟩

def target (url : Url) : String :=
  url.path ++ (match url.query with | some query => "?" ++ query | none => "")

def effectivePort (url : Url) : Option Nat := url.port.or (ownPort? url.scheme)

end Url

end LoginGateway
