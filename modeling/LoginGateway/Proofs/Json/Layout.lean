import LoginGateway.Proofs.Json.Whole
import Mathlib.Data.List.Chain

namespace LoginGateway.Json

inductive Token.Spelled : Token → Octets → Prop
  | openList : Spelled .openList [0x5B]
  | closeList : Spelled .closeList [0x5D]
  | openObject : Spelled .openObject [0x7B]
  | closeObject : Spelled .closeObject [0x7D]
  | colon : Spelled .colon [0x3A]
  | comma : Spelled .comma [0x2C]
  | null : Spelled .null [0x6E, 0x75, 0x6C, 0x6C]
  | yes : Spelled (.bool true) [0x74, 0x72, 0x75, 0x65]
  | no : Spelled (.bool false) [0x66, 0x61, 0x6C, 0x73, 0x65]
  | number {numeral : Numeral} {octets : Octets} (read : Numeral.ofOctets? octets = some numeral) :
      Spelled (.number numeral) octets
  | text {raw : Octets} (body : Body raw) : Spelled (.text raw) (0x22 :: (raw ++ [0x22]))

inductive Spaced : List Token → Octets → Prop
  | nil {blanks : Octets} (blank : ∀ octet ∈ blanks, isSpace octet) : Spaced [] blanks
  | cons {blanks octets rest : Octets} {token : Token} {tokens : List Token}
      (blank : ∀ octet ∈ blanks, isSpace octet) (spelled : token.Spelled octets) (after : Spaced tokens rest) :
      Spaced (token :: tokens) (blanks ++ (octets ++ rest))

theorem Spaced.before {tokens : List Token} {text blanks : Octets} (spaced : Spaced tokens text)
    (blank : ∀ octet ∈ blanks, isSpace octet) : Spaced tokens (blanks ++ text) := by
  cases spaced with
  | nil own => exact .nil fun octet member => (List.mem_append.mp member).elim (blank octet) (own octet)
  | cons own spelled after =>
    rw [← List.append_assoc]
    exact .cons (fun octet member => (List.mem_append.mp member).elim (blank octet) (own octet)) spelled after

theorem Spaced.append {first second : List Token} {left right : Octets} (before : Spaced first left)
    (after : Spaced second right) : Spaced (first ++ second) (left ++ right) := by
  induction before with
  | nil blank => exact after.before blank
  | cons blank spelled _ ih =>
    rw [List.append_assoc, List.append_assoc]
    exact .cons blank spelled ih

theorem Token.Spelled.spaced {token : Token} {octets : Octets} (spelled : token.Spelled octets) :
    Spaced [token] octets := by
  have alone : Spaced [token] ([] ++ (octets ++ [])) := .cons nofun spelled (.nil nofun)
  simpa using alone

def Token.isWord : Token → Bool
  | .null | .bool _ | .number _ => true
  | _ => false

def Apart (tokens : List Token) : Prop := tokens.IsChain fun left right => (left.isWord && right.isWord) = false

theorem Token.Spelled.lexed {token : Token} {octets : Octets} (spelled : token.Spelled octets) :
    Lexed octets [token] := by
  cases spelled with
  | number read => exact lexed_numeral read
  | text body =>
    intro tokens
    rw [step_body body]
    rfl
  | null | yes | no => exact fun _ => rfl
  | _ => exact lexed_nil.mark fun _ => rfl

/-- What is no word is read with its last octet, whatever comes next. -/
theorem Token.Spelled.step {token : Token} {octets : Octets} (spelled : token.Spelled octets)
    (bounded : token.isWord = false) (tokens : List Token) :
    octets.foldl Lexer.step ⟨tokens, .between⟩ = ⟨token :: tokens, .between⟩ := by
  cases spelled with
  | number _ | null | yes | no => cases bounded
  | text body => exact step_body body tokens
  | _ => rfl

theorem separates_of_isSpace (octet : UInt8) : isSpace octet → separates octet := by
  revert octet
  apply forall_octet
  decide

theorem step_blanks {blanks : Octets} (blank : ∀ octet ∈ blanks, isSpace octet) (tokens : List Token) :
    blanks.foldl Lexer.step ⟨tokens, .between⟩ = ⟨tokens, .between⟩ := by
  induction blanks with
  | nil => rfl
  | cons octet blanks ih =>
    obtain ⟨first, others⟩ := List.forall_mem_cons.mp blank
    have stepped : Lexer.step ⟨tokens, .between⟩ octet = ⟨tokens, .between⟩ := by simp [Lexer.step, begin, first]
    rw [List.foldl_cons, stepped, ih others]

theorem Token.Spelled.starts {token : Token} {octets : Octets} (spelled : token.Spelled octets)
    (bounded : token.isWord = false) : ∃ octet rest, octets = octet :: rest ∧ separates octet := by
  cases spelled with
  | number _ | null | yes | no => cases bounded
  | _ => exact ⟨_, _, rfl, by decide⟩

theorem Spaced.after_word {token : Token} {tokens : List Token} {text : Octets} (spaced : Spaced tokens text)
    (apart : Apart (token :: tokens)) (word : token.isWord) :
    (tokens = [] ∧ text = []) ∨ ∃ octet rest, text = octet :: rest ∧ separates octet := by
  cases spaced with
  | nil blank =>
    cases text with
    | nil => exact .inl ⟨rfl, rfl⟩
    | cons octet rest => exact .inr ⟨octet, rest, rfl, separates_of_isSpace octet (blank octet List.mem_cons_self)⟩
  | @cons blanks octets rest next tokens blank spelled _ =>
    right
    cases blanks with
    | cons octet blanks =>
      exact ⟨octet, blanks ++ (octets ++ rest), rfl, separates_of_isSpace octet (blank octet List.mem_cons_self)⟩
    | nil =>
      have bounded : next.isWord = false := by
        have pair := (List.isChain_cons_cons.mp apart).1
        rwa [word, Bool.true_and] at pair
      obtain ⟨octet, others, rfl, ends⟩ := spelled.starts bounded
      exact ⟨octet, others ++ rest, rfl, ends⟩

theorem Spaced.lexed {tokens : List Token} {text : Octets} (spaced : Spaced tokens text) (apart : Apart tokens) :
    Lexed text tokens := by
  induction spaced with
  | nil blank =>
    intro tokens
    rw [step_blanks blank]
    rfl
  | @cons blanks octets rest token tokens blank spelled after ih =>
    have lexedRest := ih apart.tail
    -- a word is still open after its octets, so what comes next has to end it
    have unblanked : Lexed (octets ++ rest) (token :: tokens) := by
      cases word : token.isWord with
      | false =>
        intro done
        rw [List.foldl_append, spelled.step word, lexedRest, List.reverse_cons, List.append_assoc]
        rfl
      | true =>
        rcases after.after_word apart word with ⟨rfl, rfl⟩ | ⟨octet, others, rfl, ends⟩
        · rw [List.append_nil]
          exact spelled.lexed
        · exact spelled.lexed.append lexedRest ends
    intro done
    rw [List.foldl_append, step_blanks blank]
    exact unblanked done

mutual
def Node.tokens : Node → List Token
  | .null => [.null]
  | .bool value => [.bool value]
  | .number numeral => [.number numeral]
  | .text raw => [.text raw]
  | .list items _ => .openList :: (separated (Node.itemTokens items) ++ [.closeList])
  | .object members _ => .openObject :: (separated (Node.memberTokens members) ++ [.closeObject])
  | .fault => []
def Node.itemTokens : List Node → List (List Token)
  | [] => []
  | item :: items => item.tokens :: Node.itemTokens items
def Node.memberTokens : List (Octets × Node) → List (List Token)
  | [] => []
  | (raw, node) :: members => (.text raw :: .colon :: node.tokens) :: Node.memberTokens members
end

theorem itemTokens_eq (items : List Node) : Node.itemTokens items = items.map Node.tokens := by
  induction items with
  | nil => rfl
  | cons item items ih => rw [Node.itemTokens, ih, List.map_cons]

theorem memberTokens_eq (members : List (Octets × Node)) :
    Node.memberTokens members = members.map fun member => .text member.1 :: .colon :: member.2.tokens := by
  induction members with
  | nil => rfl
  | cons member members ih => rw [Node.memberTokens, ih, List.map_cons]

theorem Whole.builds {node : Node} (whole : Whole node) : Builds node.tokens node := by
  induction whole with
  | null | bool | number | text => exact fun _ _ => rfl
  | @list items _ ih =>
    have each : List.Forall₂ Builds (items.map Node.tokens) items :=
      List.forall₂_map_left_iff.mpr (List.forall₂_same.mpr ih)
    rw [Node.tokens, itemTokens_eq]
    exact builds_list each
  | @object members _ ih =>
    have each : List.Forall₂ BuildsMember (Node.memberTokens members) members := by
      rw [memberTokens_eq, List.forall₂_map_left_iff, List.forall₂_same]
      exact fun member among => ⟨member.2.tokens, rfl, ih member among⟩
    rw [Node.tokens]
    exact builds_object each

theorem Apart.append {left right : List Token} {token : Token} (first : Apart left)
    (second : Apart (token :: right)) (bounded : token.isWord = false) : Apart (left ++ token :: right) := by
  refine List.isChain_append.mpr ⟨first, second, fun last _ next isNext => ?_⟩
  rw [List.head?_cons, Option.mem_some_iff] at isNext
  rw [← isNext, bounded, Bool.and_false]

theorem Apart.mark {token : Token} {tokens : List Token} (apart : Apart tokens) (bounded : token.isWord = false) :
    Apart (token :: tokens) := by
  refine List.isChain_cons.mpr ⟨fun next _ => ?_, apart⟩
  rw [bounded, Bool.false_and]

theorem apart_rest {close : Token} (bounded : close.isWord = false) {pieces : List (List Token)}
    (each : ∀ piece ∈ pieces, Apart piece) :
    ∃ token tokens, pieces.flatMap (.comma :: ·) ++ [close] = token :: tokens ∧ token.isWord = false ∧
      Apart (token :: tokens) := by
  induction pieces with
  | nil => exact ⟨close, [], rfl, bounded, List.isChain_singleton _⟩
  | cons piece pieces ih =>
    obtain ⟨first, others⟩ := List.forall_mem_cons.mp each
    obtain ⟨token, tokens, written, ends, apart⟩ := ih others
    refine ⟨.comma, piece ++ token :: tokens, by simp [← written], rfl, ?_⟩
    exact (first.append apart ends).mark rfl

theorem apart_separated {close : Token} (bounded : close.isWord = false) {pieces : List (List Token)}
    (each : ∀ piece ∈ pieces, Apart piece) : Apart (separated pieces ++ [close]) := by
  cases pieces with
  | nil => exact List.isChain_singleton _
  | cons piece pieces =>
    obtain ⟨first, others⟩ := List.forall_mem_cons.mp each
    obtain ⟨token, tokens, written, ends, apart⟩ := apart_rest bounded others
    rw [separated, List.append_assoc, written]
    exact first.append apart ends

theorem Whole.apart {node : Node} (whole : Whole node) : Apart node.tokens := by
  induction whole with
  | null | bool | number | text => exact List.isChain_singleton _
  | @list items _ ih =>
    rw [Node.tokens, itemTokens_eq]
    exact (apart_separated rfl (List.forall_mem_map.mpr ih)).mark rfl
  | @object members _ ih =>
    rw [Node.tokens, memberTokens_eq]
    refine (apart_separated rfl (List.forall_mem_map.mpr fun member among => ?_)).mark rfl
    exact ((ih member among).mark rfl).mark rfl

/-- A text of a tree that has nothing left open. -/
structure Node.Text (node : Node) (text : Octets) : Prop where
  whole : Whole node
  spaced : Spaced node.tokens text

theorem Node.Text.before {node : Node} {text blanks : Octets} (written : node.Text text)
    (blank : ∀ octet ∈ blanks, isSpace octet) : node.Text (blanks ++ text) :=
  ⟨written.whole, written.spaced.before blank⟩

theorem Node.Text.parse {node : Node} {text : Octets} (written : node.Text text) : parse text = ⟨node, true⟩ := by
  rw [Json.parse, tokenize_of_lexed (written.spaced.lexed written.whole.apart), build, written.whole.builds]
  rfl

theorem Node.Text.decode {α : Type} (decoder : Decoder α) {node : Node} {text : Octets} (written : node.Text text) :
    decode decoder text = decoder node := by
  rw [Json.decode, written.parse]
  cases decoder node <;> rfl

theorem text_quote (content : String) : (textNode content).Text (quote content) :=
  ⟨.text _, (Token.Spelled.text (body_escape _)).spaced⟩

theorem text_integer (n : Int) : (Node.number (.ofInt n)).Text (integer n) :=
  ⟨.number _, (Token.Spelled.number (ofOctets?_integer n)).spaced⟩

theorem spaced_rest {close : Token} {octet : UInt8} (closes : close.Spelled [octet]) {texts : List Octets}
    {pieces : List (List Token)} (each : List.Forall₂ Spaced pieces texts) :
    Spaced (pieces.flatMap (.comma :: ·) ++ [close]) (texts.flatMap (0x2C :: ·) ++ [octet]) := by
  induction each with
  | nil => exact closes.spaced
  | cons first _ ih =>
    rw [List.flatMap_cons, List.flatMap_cons, List.append_assoc, List.append_assoc]
    exact (Token.Spelled.comma.spaced.append first).append ih

theorem spaced_joined {close : Token} {octet : UInt8} (closes : close.Spelled [octet]) {texts : List Octets}
    {pieces : List (List Token)} (each : List.Forall₂ Spaced pieces texts) :
    Spaced (separated pieces ++ [close]) (joined texts ++ [octet]) := by
  cases each with
  | nil => exact closes.spaced
  | cons first others =>
    rw [separated, joined, List.append_assoc, List.append_assoc]
    exact first.append (spaced_rest closes others)

theorem text_list {items : List Octets} {nodes : List Node}
    (each : List.Forall₂ (fun item node => node.Text item) items nodes) : (Node.list nodes true).Text (list items) := by
  have parts : (∀ node ∈ nodes, Whole node) ∧ List.Forall₂ Spaced (Node.itemTokens nodes) items := by
    induction each with
    | nil => exact ⟨nofun, .nil⟩
    | cons first _ ih => exact ⟨List.forall_mem_cons.mpr ⟨first.whole, ih.1⟩, .cons first.spaced ih.2⟩
  refine ⟨.list parts.1, ?_⟩
  rw [Node.tokens]
  exact Token.Spelled.openList.spaced.append (spaced_joined .closeList parts.2)

def MemberText (member : String × Octets) (read : Octets × Node) : Prop :=
  read.1 = escape (Text.encode member.1) ∧ read.2.Text member.2

theorem Node.Text.member {node : Node} {text : Octets} (written : node.Text text) (key : String) :
    MemberText (key, text) (memberNode key node) := ⟨rfl, written⟩

theorem text_object {members : List (String × Octets)} {nodes : List (Octets × Node)}
    (each : List.Forall₂ MemberText members nodes) : (Node.object nodes true).Text (object members) := by
  have parts : (∀ node ∈ nodes, Whole node.2) ∧
      List.Forall₂ Spaced (Node.memberTokens nodes) (members.map fun member => quote member.1 ++ 0x3A :: member.2) := by
    induction each with
    | nil => exact ⟨nofun, .nil⟩
    | @cons member node members nodes first _ ih =>
      obtain ⟨named, text⟩ := first
      have key : Spaced [.text node.1] (quote member.1) := by
        rw [named]
        exact (text_quote member.1).spaced
      exact ⟨List.forall_mem_cons.mpr ⟨text.whole, ih.1⟩,
        .cons (key.append (Token.Spelled.colon.spaced.append text.spaced)) ih.2⟩
  refine ⟨.object parts.1, ?_⟩
  rw [Node.tokens]
  exact Token.Spelled.openObject.spaced.append (spaced_joined .closeObject parts.2)

end LoginGateway.Json
