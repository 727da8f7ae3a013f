import LoginGateway.Json.Decode
import LoginGateway.Proofs.Json.Numbers
import LoginGateway.Proofs.Json.Texts
import Mathlib.Data.List.Forall2

namespace LoginGateway.Json

def Lexed (octets : Octets) (read : List Token) : Prop :=
  ∀ tokens, (octets.foldl Lexer.step ⟨tokens, .between⟩).settle = ⟨read.reverse ++ tokens, .between⟩

def separates (octet : UInt8) : Bool := !isLetter octet && !isNumeric octet

theorem step_of_settle {lexer : Lexer} {tokens : List Token} (settled : lexer.settle = ⟨tokens, .between⟩)
    {octet : UInt8} (ends : separates octet) : lexer.step octet = begin tokens octet := by
  obtain ⟨before, reading⟩ := lexer
  simp only [separates, Bool.and_eq_true, Bool.not_eq_true'] at ends
  cases reading with
  | between =>
    cases settled
    rfl
  | inWord read => simp only [Lexer.step, Lexer.resume, ends.1, settled, Bool.false_eq_true, if_false]
  | inNumber read => simp only [Lexer.step, Lexer.resume, ends.2, settled, Bool.false_eq_true, if_false]
  | _ => cases settled

theorem Lexed.append {first : Octets} {left : List Token} (before : Lexed first left) {octet : UInt8}
    {rest : Octets} {right : List Token} (after : Lexed (octet :: rest) right) (ends : separates octet) :
    Lexed (first ++ octet :: rest) (left ++ right) := by
  intro tokens
  have taken := step_of_settle (before tokens) ends
  rw [List.foldl_append, List.foldl_cons, taken, List.reverse_append, List.append_assoc]
  exact after _

theorem Lexed.mark {octet : UInt8} {token : Token}
    (single : ∀ tokens, begin tokens octet = ⟨token :: tokens, .between⟩) {rest : Octets} {read : List Token}
    (lexed : Lexed rest read) : Lexed (octet :: rest) (token :: read) := by
  intro tokens
  have taken : Lexer.step ⟨tokens, .between⟩ octet = ⟨token :: tokens, .between⟩ := single tokens
  rw [List.foldl_cons, taken, lexed, List.reverse_cons, List.append_assoc]
  rfl

theorem lexed_nil : Lexed [] [] := fun _ => rfl

theorem lexed_numeral {octets : Octets} {numeral : Numeral} (read : Numeral.ofOctets? octets = some numeral) :
    Lexed octets [.number numeral] := fun tokens => settle_numeral tokens read

theorem tokenize_of_lexed {octets : Octets} {read : List Token} (lexed : Lexed octets read) :
    tokenize octets = read := by
  simp only [tokenize, Lexer.finish, lexed []]
  simp

/-- Tokens that make up a value wherever one may stand. -/
def Builds (tokens : List Token) (node : Node) : Prop :=
  ∀ frames first, tokens.foldl Builder.step ⟨frames, .value first, false⟩ = .place frames node

def separated : List (List Token) → List Token
  | [] => []
  | piece :: pieces => piece ++ pieces.flatMap (.comma :: ·)

theorem build_items {pieces : List (List Token)} {items : List Node} (each : List.Forall₂ Builds pieces items)
    (frames : List Frame) (done : List Node) (node : Node) :
    (pieces.flatMap (Token.comma :: ·) ++ [Token.closeList]).foldl Builder.step
        ⟨.list done :: frames, .separator node, false⟩ =
      .place frames (.list ((node :: done).reverse ++ items) true) := by
  induction each generalizing done node with
  | nil =>
    rw [List.append_nil]
    rfl
  | @cons piece item pieces items builds _ ih =>
    have next : Builder.step ⟨.list done :: frames, .separator node, false⟩ .comma =
      ⟨.list (node :: done) :: frames, .value false, false⟩ := rfl
    have placed : Builder.place (.list (node :: done) :: frames) item =
      ⟨.list (node :: done) :: frames, .separator item, false⟩ := rfl
    rw [List.flatMap_cons, List.cons_append, List.cons_append, List.foldl_cons, next, List.append_assoc,
      List.foldl_append, builds, placed, ih]
    simp

theorem builds_list {pieces : List (List Token)} {items : List Node} (each : List.Forall₂ Builds pieces items) :
    Builds (.openList :: (separated pieces ++ [.closeList])) (.list items true) := by
  intro frames first
  have opened : Builder.step ⟨frames, .value first, false⟩ .openList = ⟨.list [] :: frames, .value true, false⟩ := rfl
  cases each with
  | nil => rfl
  | @cons piece item pieces items builds others =>
    have placed : Builder.place (.list [] :: frames) item = ⟨.list [] :: frames, .separator item, false⟩ := rfl
    rw [List.foldl_cons, opened, separated, List.append_assoc, List.foldl_append, builds, placed, build_items others]
    rfl

def BuildsMember (tokens : List Token) (member : Octets × Node) : Prop :=
  ∃ value, tokens = .text member.1 :: .colon :: value ∧ Builds value member.2

theorem BuildsMember.build {tokens : List Token} {member : Octets × Node} (builds : BuildsMember tokens member)
    (frames : List Frame) (members : List (Octets × Node)) (first : Bool) :
    tokens.foldl Builder.step ⟨frames, .key members first, false⟩ =
      ⟨.object members member.1 :: frames, .separator member.2, false⟩ := by
  obtain ⟨value, rfl, builds⟩ := builds
  exact builds (.object members member.1 :: frames) false

theorem build_members {pieces : List (List Token)} {members : List (Octets × Node)}
    (each : List.Forall₂ BuildsMember pieces members) (frames : List Frame) (done : List (Octets × Node)) (raw : Octets)
    (node : Node) :
    (pieces.flatMap (Token.comma :: ·) ++ [Token.closeObject]).foldl Builder.step
        ⟨.object done raw :: frames, .separator node, false⟩ =
      .place frames (.object (((raw, node) :: done).reverse ++ members) true) := by
  induction each generalizing done raw node with
  | nil =>
    rw [List.append_nil]
    rfl
  | @cons piece member pieces members builds _ ih =>
    have next : Builder.step ⟨.object done raw :: frames, .separator node, false⟩ .comma =
      ⟨frames, .key ((raw, node) :: done) false, false⟩ := rfl
    rw [List.flatMap_cons, List.cons_append, List.cons_append, List.foldl_cons, next, List.append_assoc,
      List.foldl_append, builds.build, ih]
    simp

theorem builds_object {pieces : List (List Token)} {members : List (Octets × Node)}
    (each : List.Forall₂ BuildsMember pieces members) :
    Builds (.openObject :: (separated pieces ++ [.closeObject])) (.object members true) := by
  intro frames first
  have opened : Builder.step ⟨frames, .value first, false⟩ .openObject = ⟨frames, .key [] true, false⟩ := rfl
  cases each with
  | nil => rfl
  | @cons piece member pieces members builds others =>
    rw [List.foldl_cons, opened, separated, List.append_assoc, List.foldl_append, builds.build, build_members others]
    rfl

end LoginGateway.Json
