import LoginGateway.Json.Token

namespace LoginGateway.Json

inductive Node where
  | null
  | bool (value : Bool)
  | number (numeral : Numeral)
  | text (raw : Octets)
  | list (items : List Node) (closed : Bool)
  | object (members : List (Octets × Node)) (closed : Bool)
  | fault
  deriving Repr

def Node.complete : Node → Bool
  | .list _ closed => closed
  | .object _ closed => closed
  | .fault => false
  | _ => true

inductive Frame where
  | list (items : List Node)
  | object (members : List (Octets × Node)) (key : Octets)
  deriving Repr

inductive Expected where
  | value (first : Bool)
  | key (members : List (Octets × Node)) (first : Bool)
  | colon
  | separator (value : Node)
  | nothing (root : Node)
  deriving Repr

/-- The frames around the place of reading, innermost first, what is expected there, and whether something
else came. -/
structure Builder where
  frames : List Frame
  expected : Expected
  failed : Bool
  deriving Repr

def Builder.place (frames : List Frame) (value : Node) : Builder :=
  if frames.isEmpty then ⟨[], .nothing value, false⟩ else ⟨frames, .separator value, false⟩

def Builder.fail (builder : Builder) : Builder := { builder with failed := true }

def Builder.takeValue (builder : Builder) (first : Bool) : Token → Builder
  | .null => .place builder.frames .null
  | .bool value => .place builder.frames (.bool value)
  | .number numeral => .place builder.frames (.number numeral)
  | .text raw => .place builder.frames (.text raw)
  | .openList => ⟨.list [] :: builder.frames, .value true, false⟩
  | .openObject => ⟨builder.frames, .key [] true, false⟩
  | .closeList =>
    match first, builder.frames with
    | true, .list items :: frames => .place frames (.list items.reverse true)
    | _, _ => builder.fail
  | _ => builder.fail

def Builder.takeKey (builder : Builder) (members : List (Octets × Node)) (first : Bool) : Token → Builder
  | .text raw => ⟨.object members raw :: builder.frames, .colon, false⟩
  | .closeObject => if first then .place builder.frames (.object members.reverse true) else builder.fail
  | _ => builder.fail

def Builder.takeSeparator (builder : Builder) (value : Node) : Token → Builder
  | .comma =>
    match builder.frames with
    | .list items :: frames => ⟨.list (value :: items) :: frames, .value false, false⟩
    | .object members key :: frames => ⟨frames, .key ((key, value) :: members) false, false⟩
    | [] => builder.fail
  | .closeList =>
    match builder.frames with
    | .list items :: frames => .place frames (.list (value :: items).reverse true)
    | _ => builder.fail
  | .closeObject =>
    match builder.frames with
    | .object members key :: frames => .place frames (.object ((key, value) :: members).reverse true)
    | _ => builder.fail
  | _ => builder.fail

def Builder.step (builder : Builder) (token : Token) : Builder :=
  if builder.failed then builder
  else match builder.expected with
    | .value first => builder.takeValue first token
    | .key members first => builder.takeKey members first token
    | .colon => match token with
      | .colon => ⟨builder.frames, .value false, false⟩
      | _ => builder.fail
    | .separator value => builder.takeSeparator value token
    | .nothing _ => builder.fail

def enclose (value : Node) : List Frame → Node
  | [] => value
  | .list items :: frames => enclose (.list (value :: items).reverse false) frames
  | .object members key :: frames => enclose (.object ((key, value) :: members).reverse false) frames

structure Document where
  root : Node
  ends : Bool
  deriving Repr

def Builder.finish (builder : Builder) : Document :=
  match builder.expected with
  | .nothing root => ⟨root, !builder.failed⟩
  | .value _ | .colon => ⟨enclose .fault builder.frames, false⟩
  | .key members _ => ⟨enclose (.object members.reverse false) builder.frames, false⟩
  | .separator value => ⟨enclose value builder.frames, false⟩

def build (tokens : List Token) : Document := (tokens.foldl Builder.step ⟨[], .value true, false⟩).finish

def parse (text : Octets) : Document := build (tokenize text)

end LoginGateway.Json
