import LoginGateway.Encoding.Percent
import LoginGateway.Text.Split

namespace LoginGateway.Url

def isPrintable (c : Char) : Bool := 0x20 < c.val && c.val < 0x7F

def isPathChar (c : Char) : Bool :=
  isPrintable c && !(['\x22', '#', '<', '>', '?', '\x60', '\x7b', '\x7d'].contains c)

def isQueryChar (web : Bool) (c : Char) : Bool :=
  isPrintable c && !(['\x22', '#', '<', '>'].contains c) && !(web && c == '\x27')

def isDot (segment : List Char) : Bool :=
  match segment with
  | ['.'] => true
  | ['%', '2', e] => e == 'e' || e == 'E'
  | _ => false

def isDoubleDot (segment : List Char) : Bool :=
  match segment with
  | '.' :: rest => isDot rest
  | '%' :: two :: e :: rest => isDot ['%', two, e] && isDot rest
  | _ => false

def resolve (done : List (List Char)) : List (List Char) → List (List Char)
  | [] => done
  | segment :: rest =>
    if isDoubleDot segment then
      let up := done.drop 1
      if rest.isEmpty then [] :: up else resolve up rest
    else if isDot segment then
      if rest.isEmpty then [] :: done else resolve done rest
    else resolve (segment :: done) rest

def normalPath (web : Bool) (text : List Char) : String :=
  let isSlash c := c == '/' || (web && c == '\\')
  match text with
  | [] => if web then "/" else ""
  | first :: rest =>
    let segments := (resolve [] (Text.split isSlash (if isSlash first then rest else text))).reverse
    String.join (segments.map fun segment => "/" ++ Percent.encode isPathChar (String.ofList segment))

def normalQuery (web : Bool) (text : List Char) : String :=
  Percent.encode (isQueryChar web) (String.ofList text)

end LoginGateway.Url
