import LoginGateway.Json.Decode
import LoginGateway.Json.Printer
import LoginGateway.Proofs.Text.Octets

namespace LoginGateway.Json

theorem hexDigits_of_octet (octet : UInt8) :
    (hexValue? (hexDigit (octet >>> 4))).isSome ∧ (hexValue? (hexDigit (octet &&& 0x0F))).isSome := by
  revert octet
  apply forall_octet
  decide

theorem codeUnit_control (octet : UInt8) : octet < 0x20 →
    codeUnit 0x30 0x30 (hexDigit (octet >>> 4)) (hexDigit (octet &&& 0x0F)) = octet.toNat ∧
      Text.encode (String.singleton (Char.ofNat octet.toNat)) = [octet] := by
  revert octet
  apply forall_octet
  decide

theorem escapeOctet_cases (octet : UInt8) :
    (∃ letter, isSimpleEscape letter ∧ simpleEscape letter = octet ∧ escapeOctet octet = [0x5C, letter]) ∨
    (octet < 0x20 ∧
      escapeOctet octet = [0x5C, 0x75, 0x30, 0x30, hexDigit (octet >>> 4), hexDigit (octet &&& 0x0F)]) ∨
    (octet ≠ 0x22 ∧ octet ≠ 0x5C ∧ ¬octet < 0x20 ∧ escapeOctet octet = [octet]) := by
  by_cases simple : octet ∈ [0x22, 0x5C, 0x08, 0x0C, 0x0A, 0x0D, 0x09]
  · simp only [List.mem_cons, List.not_mem_nil, or_false] at simple
    left
    rcases simple with rfl | rfl | rfl | rfl | rfl | rfl | rfl <;> exact ⟨_, by decide, by decide, rfl⟩
  · simp only [List.mem_cons, List.not_mem_nil, or_false, not_or] at simple
    right
    by_cases control : octet < 0x20
    · exact .inl ⟨control, by simp [escapeOctet, simple, control]⟩
    · exact .inr ⟨simple.1, simple.2.1, control, by simp [escapeOctet, simple, control]⟩

theorem unescape_plain (done : Octets) {octet : UInt8} (plain : octet ≠ 0x5C) (rest : Octets) :
    unescape done (octet :: rest) = unescape (octet :: done) rest := by
  simp [unescape, plain]

theorem unescape_simple (done : Octets) {letter : UInt8} (simple : isSimpleEscape letter) (rest : Octets) :
    unescape done (0x5C :: letter :: rest) = unescape (simpleEscape letter :: done) rest := by
  have unnumbered : letter ≠ 0x75 := by
    rintro rfl
    cases simple
  simp [unescape, unnumbered]

theorem unescape_control (done : Octets) {octet : UInt8} (control : octet < 0x20) (rest : Octets) :
    unescape done (0x5C :: 0x75 :: 0x30 :: 0x30 :: hexDigit (octet >>> 4) :: hexDigit (octet &&& 0x0F) :: rest) =
      unescape (octet :: done) rest := by
  have ⟨code, text⟩ := codeUnit_control octet control
  have small : octet.toNat < 0x20 := UInt8.lt_iff_toNat_lt.mp control
  have notHigh : ¬0xD800 ≤ octet.toNat := by omega
  have notLow : ¬0xDC00 ≤ octet.toNat := by omega
  rw [unescape.eq_def]
  simp only [code, notHigh, notLow, text, decide_false, Bool.false_and, Bool.false_eq_true, if_false]
  rfl

theorem unescape_escapeOctet (done : Octets) (octet : UInt8) (rest : Octets) :
    unescape done (escapeOctet octet ++ rest) = unescape (octet :: done) rest := by
  rcases escapeOctet_cases octet with ⟨letter, simple, same, written⟩ | ⟨control, written⟩ | ⟨-, plain, -, written⟩
  · rw [written]
    exact (unescape_simple done simple rest).trans (by rw [same])
  · rw [written]
    exact unescape_control done control rest
  · rw [written]
    exact unescape_plain done plain rest

theorem unescape_escape (done octets : Octets) : unescape done (escape octets) = some (octets.reverse ++ done) := by
  induction octets generalizing done with
  | nil => rfl
  | cons octet octets ih =>
    rw [escape, List.flatMap_cons, unescape_escapeOctet, ← escape, ih, List.reverse_cons, List.append_assoc]
    rfl

theorem readText?_escape (text : String) : readText? (escape (Text.encode text)) = some text := by
  simp [readText?, unescape_escape]

/-- What may stand between the quotes of a text. -/
inductive Body : Octets → Prop
  | nil : Body []
  | plain {octet : UInt8} {rest : Octets} (unquoted : octet ≠ 0x22) (unescaped : octet ≠ 0x5C) (visible : ¬octet < 0x20)
      (after : Body rest) : Body (octet :: rest)
  | escape {letter : UInt8} {rest : Octets} (simple : isSimpleEscape letter) (after : Body rest) :
      Body (0x5C :: letter :: rest)
  | code {a b c d : UInt8} {rest : Octets} (digits : ∀ digit ∈ [a, b, c, d], (hexValue? digit).isSome)
      (after : Body rest) : Body (0x5C :: 0x75 :: a :: b :: c :: d :: rest)

theorem body_escape (octets : Octets) : Body (escape octets) := by
  induction octets with
  | nil => exact .nil
  | cons octet octets ih =>
    rw [escape, List.flatMap_cons]
    rcases escapeOctet_cases octet with
      ⟨letter, simple, -, written⟩ | ⟨-, written⟩ | ⟨unquoted, plain, visible, written⟩
    · rw [written]
      exact .escape simple ih
    · obtain ⟨high, low⟩ := hexDigits_of_octet octet
      have zero : (hexValue? 0x30).isSome := rfl
      rw [written]
      exact .code (by simp [zero, high, low]) ih
    · rw [written]
      exact .plain unquoted plain visible ih

theorem Body.step {raw : Octets} (body : Body raw) (tokens : List Token) (read : Octets) :
    raw.foldl Lexer.step ⟨tokens, .inText read⟩ = ⟨tokens, .inText (raw.reverse ++ read)⟩ := by
  induction body generalizing read with
  | nil => rfl
  | @plain octet rest unquoted unescaped visible _ ih =>
    have stepped : Lexer.step ⟨tokens, .inText read⟩ octet = ⟨tokens, .inText (octet :: read)⟩ := by
      simp [Lexer.step, unquoted, unescaped, visible]
    rw [List.foldl_cons, stepped, ih]
    simp
  | @escape letter rest simple _ ih =>
    have unnumbered : letter ≠ 0x75 := by
      rintro rfl
      cases simple
    have stepped : [0x5C, letter].foldl Lexer.step ⟨tokens, .inText read⟩ =
        ⟨tokens, .inText (letter :: 0x5C :: read)⟩ := by
      simp [Lexer.step, simple, unnumbered]
    have parts : 0x5C :: letter :: rest = [0x5C, letter] ++ rest := rfl
    rw [parts, List.foldl_append, stepped, ih]
    simp
  | @code a b c d rest digits _ ih =>
    simp only [List.mem_cons, List.not_mem_nil, or_false, forall_eq_or_imp, forall_eq] at digits
    obtain ⟨first, second, third, fourth⟩ := digits
    have stepped : [0x5C, 0x75, a, b, c, d].foldl Lexer.step ⟨tokens, .inText read⟩ =
        ⟨tokens, .inText (d :: c :: b :: a :: 0x75 :: 0x5C :: read)⟩ := by
      simp [Lexer.step, first, second, third, fourth]
    have parts : 0x5C :: 0x75 :: a :: b :: c :: d :: rest = [0x5C, 0x75, a, b, c, d] ++ rest := rfl
    rw [parts, List.foldl_append, stepped, ih]
    simp

theorem step_body {raw : Octets} (body : Body raw) (tokens : List Token) :
    (0x22 :: (raw ++ [0x22])).foldl Lexer.step ⟨tokens, .between⟩ = ⟨.text raw :: tokens, .between⟩ := by
  have opened : Lexer.step ⟨tokens, .between⟩ 0x22 = ⟨tokens, .inText []⟩ := rfl
  rw [List.foldl_cons, opened, List.foldl_append, body.step]
  simp [Lexer.step]

end LoginGateway.Json
