import LoginGateway.Proofs.Json.Trees

namespace LoginGateway.Json

def Lexer.after (lexer : Lexer) (earlier : List Token) : Lexer := ⟨lexer.tokens ++ earlier, lexer.reading⟩

section

variable (earlier : List Token)

theorem emit_after (tokens : List Token) (token : Token) :
    Lexer.emit (tokens ++ earlier) token = (Lexer.emit tokens token).after earlier := by
  cases token <;> rfl

theorem begin_after (tokens : List Token) (octet : UInt8) :
    begin (tokens ++ earlier) octet = (begin tokens octet).after earlier := by
  unfold begin
  repeat (first | exact emit_after _ _ _ | rfl | split)

theorem settle_after (lexer : Lexer) : (lexer.after earlier).settle = lexer.settle.after earlier := by
  obtain ⟨tokens, reading⟩ := lexer
  cases reading with
  | inWord read => exact emit_after earlier tokens _
  | inNumber read =>
    simp only [Lexer.settle, Lexer.after]
    split
    · exact emit_after earlier tokens _
    · rfl
  | _ => rfl

theorem resume_after (lexer : Lexer) (octet : UInt8) :
    (lexer.after earlier).resume octet = (lexer.resume octet).after earlier := by
  unfold Lexer.resume
  rw [settle_after]
  obtain ⟨tokens, reading⟩ := lexer.settle
  cases reading with
  | between => exact begin_after earlier tokens octet
  | _ => rfl

theorem step_after (lexer : Lexer) (octet : UInt8) :
    (lexer.after earlier).step octet = (lexer.step octet).after earlier := by
  obtain ⟨tokens, reading⟩ := lexer
  cases reading with
  | stopped => rfl
  | between => exact begin_after earlier tokens octet
  | inWord read =>
    simp only [Lexer.step, Lexer.after]
    split
    · rfl
    · exact resume_after earlier ⟨tokens, .inWord read⟩ octet
  | inNumber read =>
    simp only [Lexer.step, Lexer.after]
    split
    · rfl
    · exact resume_after earlier ⟨tokens, .inNumber read⟩ octet
  | _ =>
    simp only [Lexer.step, Lexer.after]
    repeat (first | rfl | split)

theorem run_after (octets : Octets) (lexer : Lexer) :
    octets.foldl Lexer.step (lexer.after earlier) = (octets.foldl Lexer.step lexer).after earlier := by
  induction octets generalizing lexer with
  | nil => rfl
  | cons octet octets ih => rw [List.foldl_cons, step_after, ih, List.foldl_cons]

theorem finish_after (lexer : Lexer) : (lexer.after earlier).finish = earlier.reverse ++ lexer.finish := by
  simp only [Lexer.finish, settle_after]
  obtain ⟨settled, reading⟩ := lexer.settle
  cases reading <;> simp [Lexer.after]

end

theorem tokenize_text {before raw : Octets} {earlier : List Token}
    (read : before.foldl Lexer.step ⟨[], .between⟩ = ⟨earlier, .between⟩) (body : Body raw) (rest : Octets) :
    tokenize (before ++ 0x22 :: (raw ++ 0x22 :: rest)) = earlier.reverse ++ .text raw :: tokenize rest := by
  have parts : before ++ 0x22 :: (raw ++ 0x22 :: rest) = before ++ ((0x22 :: (raw ++ [0x22])) ++ rest) := by simp
  have text : (⟨.text raw :: earlier, .between⟩ : Lexer) = Lexer.after ⟨[], .between⟩ (.text raw :: earlier) := rfl
  rw [tokenize, parts, List.foldl_append, read, List.foldl_append, step_body body, text, run_after, finish_after]
  simp [tokenize]

/-- The octets are followed by a value of the text's outermost list or object; the frame holds what is before it. -/
def ValueNext (before : Octets) (frame : Frame) : Prop :=
  ∃ earlier first, before.foldl Lexer.step ⟨[], .between⟩ = ⟨earlier, .between⟩ ∧
    earlier.reverse.foldl Builder.step ⟨[], .value true, false⟩ = ⟨[frame], .value first, false⟩

inductive TakenIn : Frame → (Octets → Frame) → Prop
  | list {items : List Node} (later : List Node) :
      TakenIn (.list items) fun raw => .list (later ++ .text raw :: items)
  | object {members : List (Octets × Node)} {key : Octets} (later : List (Octets × Node)) (next : Octets) :
      TakenIn (.object members key) fun raw => .object (later ++ (key, .text raw) :: members) next

inductive Filled : Frame → (Octets → Node) → Prop
  | list {items : List Node} (later : List Node) (closed : Bool) :
      Filled (.list items) fun raw => .list (later ++ .text raw :: items).reverse closed
  | object {members : List (Octets × Node)} {key : Octets} (later : List (Octets × Node)) (closed : Bool) :
      Filled (.object members key) fun raw => .object (later ++ (key, .text raw) :: members).reverse closed

inductive Expected.Within : Expected → Prop
  | value (first : Bool) : Within (.value first)
  | key (members : List (Octets × Node)) (first : Bool) : Within (.key members first)
  | colon : Within .colon
  | separator (value : Node) : Within (.separator value)

/-- What a builder comes to after a text, whatever the text: all that it has is the same but for the text. -/
inductive Holds (frame : Frame) : (Octets → Builder) → Prop
  | last (failed : Bool) : Holds frame fun raw => ⟨[frame], .separator (.text raw), failed⟩
  | within {outer : Octets → Frame} (taken : TakenIn frame outer) (inner : List Frame) {expected : Expected}
      (awaits : expected.Within) (failed : Bool) : Holds frame fun raw => ⟨inner ++ [outer raw], expected, failed⟩
  | between {members : List (Octets × Node)} {key : Octets} (same : frame = .object members key)
      (later : List (Octets × Node)) (first failed : Bool) :
      Holds frame fun raw => ⟨[], .key (later ++ (key, .text raw) :: members) first, failed⟩
  | done {root : Octets → Node} (filled : Filled frame root) (failed : Bool) :
      Holds frame fun raw => ⟨[], .nothing (root raw), failed⟩

namespace Holds

variable {frame : Frame} {outer : Octets → Frame}

theorem place (taken : TakenIn frame outer) (inner : List Frame) (value : Node) :
    Holds frame fun raw => .place (inner ++ [outer raw]) value := by
  have around : ∀ raw, (inner ++ [outer raw]).isEmpty = false := by simp
  simp only [Builder.place, around, Bool.false_eq_true, if_false]
  exact .within taken inner (.separator value) false

variable {expected : Expected}

theorem takeValue (taken : TakenIn frame outer) (inner : List Frame) (awaits : expected.Within) (first : Bool)
    (token : Token) :
    Holds frame fun raw => Builder.takeValue ⟨inner ++ [outer raw], expected, false⟩ first token := by
  cases token with
  | null => exact place taken inner .null
  | bool value => exact place taken inner (.bool value)
  | number numeral => exact place taken inner (.number numeral)
  | text raw => exact place taken inner (.text raw)
  | openList => exact .within taken (.list [] :: inner) (.value true) false
  | openObject => exact .within taken inner (.key [] true) false
  | closeList =>
    cases first with
    | false => exact .within taken inner awaits true
    | true =>
      cases inner with
      | nil =>
        cases taken with
        | list later => exact .done (.list later true) false
        | object later next => exact .within (.object later next) [] awaits true
      | cons innermost inner =>
        cases innermost with
        | list items => exact place taken inner (.list items.reverse true)
        | object members key => exact .within taken (.object members key :: inner) awaits true
  | _ => exact .within taken inner awaits true

theorem takeKey (taken : TakenIn frame outer) (inner : List Frame) (awaits : expected.Within)
    (members : List (Octets × Node)) (first : Bool) (token : Token) :
    Holds frame fun raw => Builder.takeKey ⟨inner ++ [outer raw], expected, false⟩ members first token := by
  cases token with
  | text raw => exact .within taken (.object members raw :: inner) .colon false
  | closeObject =>
    cases first with
    | true => exact place taken inner (.object members.reverse true)
    | false => exact .within taken inner awaits true
  | _ => exact .within taken inner awaits true

theorem takeSeparator (taken : TakenIn frame outer) (inner : List Frame) (awaits : expected.Within) (value : Node)
    (token : Token) :
    Holds frame fun raw => Builder.takeSeparator ⟨inner ++ [outer raw], expected, false⟩ value token := by
  cases token with
  | comma =>
    cases inner with
    | nil =>
      cases taken with
      | list later => exact .within (.list (value :: later)) [] (.value false) false
      | object later next => exact .between rfl ((next, value) :: later) false false
    | cons innermost inner =>
      cases innermost with
      | list items => exact .within taken (.list (value :: items) :: inner) (.value false) false
      | object members key => exact .within taken inner (.key ((key, value) :: members) false) false
  | closeList =>
    cases inner with
    | nil =>
      cases taken with
      | list later => exact .done (.list (value :: later) true) false
      | object later next => exact .within (.object later next) [] awaits true
    | cons innermost inner =>
      cases innermost with
      | list items => exact place taken inner (.list (value :: items).reverse true)
      | object members key => exact .within taken (.object members key :: inner) awaits true
  | closeObject =>
    cases inner with
    | nil =>
      cases taken with
      | list later => exact .within (.list later) [] awaits true
      | object later next => exact .done (.object ((next, value) :: later) true) false
    | cons innermost inner =>
      cases innermost with
      | list items => exact .within taken (.list items :: inner) awaits true
      | object members key => exact place taken inner (.object ((key, value) :: members).reverse true)
  | _ => exact .within taken inner awaits true

theorem takeText (frame : Frame) (token : Token) :
    Holds frame fun raw => Builder.takeSeparator ⟨[frame], .separator (.text raw), false⟩ (.text raw) token := by
  cases token with
  | comma =>
    cases frame with
    | list items => exact .within (.list []) [] (.value false) false
    | object members key => exact .between rfl [] false false
  | closeList =>
    cases frame with
    | list items => exact .done (.list [] true) false
    | object members key => exact .last true
  | closeObject =>
    cases frame with
    | list items => exact .last true
    | object members key => exact .done (.object [] true) false
  | _ => exact .last true

theorem step {builder : Octets → Builder} (holds : Holds frame builder) (token : Token) :
    Holds frame fun raw => (builder raw).step token := by
  cases holds with
  | last failed =>
    cases failed with
    | true => exact .last true
    | false => exact takeText frame token
  | @within outer taken inner expected awaits failed =>
    cases failed with
    | true => exact .within taken inner awaits true
    | false =>
      cases expected with
      | value first => exact takeValue taken inner awaits first token
      | key members first => exact takeKey taken inner awaits members first token
      | colon =>
        cases token with
        | colon => exact .within taken inner (.value false) false
        | _ => exact .within taken inner awaits true
      | separator value => exact takeSeparator taken inner awaits value token
      | nothing root => cases awaits
  | @between members key same later first failed =>
    subst same
    cases failed with
    | true => exact .between rfl later first true
    | false =>
      cases token with
      | text raw => exact .within (.object later raw) [] .colon false
      | closeObject =>
        cases first with
        | true => exact .done (.object later true) false
        | false => exact .between rfl later false true
      | _ => exact .between rfl later first true
  | done filled failed =>
    cases failed with
    | true => exact .done filled true
    | false => exact .done filled true

theorem run {builder : Octets → Builder} (holds : Holds frame builder) (tokens : List Token) :
    Holds frame fun raw => tokens.foldl Builder.step (builder raw) := by
  induction tokens generalizing builder with
  | nil => exact holds
  | cons token tokens ih => exact ih (holds.step token)

end Holds

theorem enclose_append (value : Node) (inner : List Frame) (frame : Frame) :
    enclose value (inner ++ [frame]) = enclose (enclose value inner) [frame] := by
  induction inner generalizing value with
  | nil => rfl
  | cons innermost inner ih => cases innermost <;> exact ih _

theorem Expected.Within.finish {expected : Expected} (awaits : expected.Within) :
    ∃ value, ∀ frames failed, Builder.finish ⟨frames, expected, failed⟩ = ⟨enclose value frames, false⟩ := by
  cases awaits with
  | value first => exact ⟨.fault, fun _ _ => rfl⟩
  | key members first => exact ⟨.object members.reverse false, fun _ _ => rfl⟩
  | colon => exact ⟨.fault, fun _ _ => rfl⟩
  | separator value => exact ⟨value, fun _ _ => rfl⟩

theorem Holds.finish {frame : Frame} {builder : Octets → Builder} (holds : Holds frame builder) :
    ∃ root ends, Filled frame root ∧ ∀ raw, (builder raw).finish = ⟨root raw, ends⟩ := by
  cases holds with
  | last failed =>
    cases frame with
    | list items => exact ⟨_, false, .list [] false, fun raw => rfl⟩
    | object members key => exact ⟨_, false, .object [] false, fun raw => rfl⟩
  | within taken inner awaits failed =>
    obtain ⟨value, finished⟩ := awaits.finish
    have enclosed : ∀ outer : Frame,
        Document.mk (enclose value (inner ++ [outer])) false = ⟨enclose (enclose value inner) [outer], false⟩ :=
      fun outer => congrArg (Document.mk · false) (enclose_append value inner outer)
    cases taken with
    | list later =>
      exact ⟨_, false, .list (enclose value inner :: later) false, fun raw => (finished _ _).trans (enclosed _)⟩
    | object later next =>
      exact ⟨_, false, .object ((next, enclose value inner) :: later) false,
        fun raw => (finished _ _).trans (enclosed _)⟩
  | between same later first failed =>
    subst same
    exact ⟨_, false, .object later false, fun raw => rfl⟩
  | done filled failed => exact ⟨_, !failed, filled, fun raw => rfl⟩

/-- Whatever text stands in the place, the whole is read as the same tree but for it. -/
theorem parse_text_next {before : Octets} {frame : Frame} (next : ValueNext before frame) (rest : Octets) :
    ∃ root ends, Filled frame root ∧
      ∀ raw, Body raw → parse (before ++ 0x22 :: (raw ++ 0x22 :: rest)) = ⟨root raw, ends⟩ := by
  obtain ⟨earlier, first, read, built⟩ := next
  have holds : Holds frame fun raw => (tokenize rest).foldl Builder.step ⟨[frame], .separator (.text raw), false⟩ :=
    Holds.run (.last false) (tokenize rest)
  obtain ⟨root, ends, filled, finished⟩ := holds.finish
  refine ⟨root, ends, filled, fun raw body => ?_⟩
  rw [parse, build, tokenize_text read body, List.foldl_append, built]
  exact finished raw

end LoginGateway.Json
