import LoginGateway.Json.Decode
import LoginGateway.Json.Printer
import LoginGateway.Proofs.Text.Octets
import Mathlib.Data.List.TakeWhile

namespace LoginGateway.Json

def Numeral.ofInt (n : Int) : Numeral := ⟨decide (n < 0), natural n.natAbs, none, none⟩

theorem val_of_isDigit {c : Char} (digit : c.isDigit) : 0x30 ≤ c.toNat ∧ c.toNat ≤ 0x39 := by
  simp only [Char.isDigit, Bool.and_eq_true, decide_eq_true_eq, UInt32.le_iff_toNat_le, ge_iff_le] at digit
  exact digit

theorem natural_eq (n : Nat) : natural n = (Nat.toDigits 10 n).map Text.octetOf := by
  apply Text.encode_ofList_ascii
  intro c member
  obtain ⟨-, most⟩ := val_of_isDigit (Nat.isDigit_of_mem_toDigits (by decide) (by decide) member)
  rw [UInt32.lt_iff_toNat_lt]
  exact Nat.lt_of_le_of_lt most (by decide)

theorem toNat_octetOf {c : Char} (digit : c.isDigit) : (Text.octetOf c).toNat = c.toNat := by
  obtain ⟨-, most⟩ := val_of_isDigit digit
  change c.val.toNat % 256 = c.val.toNat
  change c.val.toNat ≤ 0x39 at most
  omega

theorem natural_digits (n : Nat) : ∀ octet ∈ natural n, isDigit octet := by
  rw [natural_eq]
  intro octet member
  obtain ⟨c, held, rfl⟩ := List.mem_map.mp member
  have digit := Nat.isDigit_of_mem_toDigits (by decide) (by decide) held
  have ⟨least, most⟩ := val_of_isDigit digit
  simp only [isDigit, Bool.and_eq_true, decide_eq_true_eq, UInt8.le_iff_toNat_le, toNat_octetOf digit]
  exact ⟨least, most⟩

theorem natural_ne_nil (n : Nat) : natural n ≠ [] := by
  rw [natural_eq, ne_eq, List.map_eq_nil_iff]
  exact Nat.toDigits_ne_nil

theorem natural_value (n : Nat) : (natural n).foldl (fun n digit => n * 10 + (digit.toNat - 0x30)) 0 = n := by
  have read : ∀ (cs : List Char) (start : Nat), (∀ c ∈ cs, c.isDigit) →
      (cs.map Text.octetOf).foldl (fun n digit => n * 10 + (digit.toNat - 0x30)) start =
        Nat.ofDigitChars 10 cs start := by
    intro cs
    induction cs with
    | nil => intro start _; rfl
    | cons c cs ih =>
      intro start digits
      have ⟨first, others⟩ := List.forall_mem_cons.mp digits
      rw [List.map_cons, List.foldl_cons, Nat.ofDigitChars_cons, ih _ others, toNat_octetOf first, Nat.mul_comm]
      rfl
  rw [natural_eq, read _ _ fun c member => Nat.isDigit_of_mem_toDigits (by decide) (by decide) member]
  exact Nat.ofDigitChars_ten_toDigits

theorem head_toDigits {n : Nat} (positive : 0 < n) (rest : List Char) : Nat.toDigits 10 n ≠ '0' :: rest := by
  induction n using Nat.strongRecOn generalizing rest with
  | ind n ih =>
    rw [Nat.toDigits_eq_if (by decide)]
    split
    · rename_i small
      have : n = 1 ∨ n = 2 ∨ n = 3 ∨ n = 4 ∨ n = 5 ∨ n = 6 ∨ n = 7 ∨ n = 8 ∨ n = 9 := by omega
      rcases this with rfl | rfl | rfl | rfl | rfl | rfl | rfl | rfl | rfl <;> simp [Nat.digitChar]
    · intro same
      cases whole : Nat.toDigits 10 (n / 10) with
      | nil => exact Nat.toDigits_ne_nil whole
      | cons c cs =>
        rw [whole, List.cons_append, List.cons.injEq] at same
        exact ih (n / 10) (by omega) (by omega) cs (same.1 ▸ whole)

theorem natural_ne_padded (n : Nat) (octet : UInt8) (rest : Octets) : natural n ≠ 0x30 :: octet :: rest := by
  rcases Nat.eq_zero_or_pos n with rfl | positive
  · have zero : natural 0 = [0x30] := by decide
    simp [zero]
  · intro same
    rw [natural_eq] at same
    cases written : Nat.toDigits 10 n with
    | nil => exact Nat.toDigits_ne_nil written
    | cons c cs =>
      rw [written, List.map_cons, List.cons.injEq] at same
      have digit : c.isDigit :=
        Nat.isDigit_of_mem_toDigits (by decide) (by decide) (written ▸ List.mem_cons_self)
      have zero : c = '0' := by
        apply Char.toNat_inj.mp
        rw [← toNat_octetOf digit, same.1]
        rfl
      exact head_toDigits positive cs (zero ▸ written)

theorem unsigned_natural (negative : Bool) (n : Nat) :
    Numeral.unsigned negative (natural n) = some ⟨negative, natural n, none, none⟩ := by
  have digits := natural_digits n
  have whole : (natural n).takeWhile isDigit = natural n := List.takeWhile_eq_self_iff.mpr digits
  have rest : (natural n).dropWhile isDigit = [] := List.dropWhile_eq_nil_iff.mpr digits
  rw [Numeral.unsigned, whole, rest]
  split
  · rename_i empty
    exact absurd empty (natural_ne_nil n)
  · rename_i octet others padded
    exact absurd padded (natural_ne_padded n octet others)
  · rfl

theorem ofOctets?_integer (n : Int) : Numeral.ofOctets? (integer n) = some (.ofInt n) := by
  unfold integer
  split
  · rename_i negative
    have read : Numeral.ofOctets? (0x2D :: natural n.natAbs) = Numeral.unsigned true (natural n.natAbs) := rfl
    rw [read, unsigned_natural, Numeral.ofInt, decide_eq_true negative]
  · rename_i positive
    have unsignedRead : Numeral.ofOctets? (natural n.natAbs) = Numeral.unsigned false (natural n.natAbs) := by
      rw [Numeral.ofOctets?.eq_def]
      split
      · rename_i rest signed
        have digit := natural_digits n.natAbs 0x2D (signed ▸ List.mem_cons_self)
        cases digit
      · rfl
    rw [unsignedRead, unsigned_natural, Numeral.ofInt, decide_eq_false positive]

theorem toInt?_ofInt (n : Int) : (Numeral.ofInt n).toInt? = some n := by
  simp only [Numeral.ofInt, Numeral.toInt?, natural_value, decide_eq_true_eq]
  split
  · rename_i negative
    rw [if_neg (by omega)]
    congr 1
    omega
  · congr 1
    omega

theorem numberStart (octet : UInt8) : (isDigit octet || octet == 0x2D) = true →
    isSpace octet = false ∧ (octet == 0x22) = false := by
  revert octet
  apply forall_octet
  decide

theorem numeric_of_digits {octets : Octets} (digits : octets.all isDigit) : ∀ octet ∈ octets, isNumeric octet := by
  intro octet member
  simp [isNumeric, List.all_eq_true.mp digits octet member]

theorem numeric_of_parts {octets : Octets} (rest : ∀ octet ∈ octets.dropWhile isDigit, isNumeric octet) :
    ∀ octet ∈ octets, isNumeric octet := by
  intro octet member
  rw [← List.takeWhile_append_dropWhile (p := isDigit) (l := octets)] at member
  rcases List.mem_append.mp member with digit | other
  · exact numeric_of_digits List.all_takeWhile octet digit
  · exact rest octet other

theorem numeric_withExponent {negative : Bool} {whole : Octets} {fraction : Option Octets} {octets : Octets}
    {numeral : Numeral} (read : Numeral.withExponent negative whole fraction octets = some numeral) :
    ∀ octet ∈ octets, isNumeric octet := by
  cases octets with
  | nil => nofun
  | cons mark rest =>
    simp only [Numeral.withExponent] at read
    split at read
    · rename_i marked
      have numericMark : isNumeric mark := by
        rcases Bool.or_eq_true_iff.mp marked with small | capital
        · simp [isNumeric, small]
        · simp [isNumeric, capital]
      refine List.forall_mem_cons.mpr ⟨numericMark, ?_⟩
      split at read
      · obtain ⟨digits, -⟩ := Option.ite_none_right_eq_some.mp read
        exact List.forall_mem_cons.mpr ⟨by decide, numeric_of_digits (Bool.and_eq_true_iff.mp digits).2⟩
      · obtain ⟨digits, -⟩ := Option.ite_none_right_eq_some.mp read
        exact List.forall_mem_cons.mpr ⟨by decide, numeric_of_digits (Bool.and_eq_true_iff.mp digits).2⟩
      · obtain ⟨digits, -⟩ := Option.ite_none_right_eq_some.mp read
        exact numeric_of_digits (Bool.and_eq_true_iff.mp digits).2
    · cases read

theorem numeric_withFraction {negative : Bool} {whole octets : Octets} {numeral : Numeral}
    (read : Numeral.withFraction negative whole octets = some numeral) : ∀ octet ∈ octets, isNumeric octet := by
  unfold Numeral.withFraction at read
  split at read
  · dsimp only at read
    split at read
    · cases read
    · exact List.forall_mem_cons.mpr ⟨by decide, numeric_of_parts (numeric_withExponent read)⟩
  · exact numeric_withExponent read

theorem numeric_unsigned {negative : Bool} {octets : Octets} {numeral : Numeral}
    (read : Numeral.unsigned negative octets = some numeral) :
    (∃ first rest, octets = first :: rest ∧ isDigit first) ∧ ∀ octet ∈ octets, isNumeric octet := by
  unfold Numeral.unsigned at read
  split at read
  · cases read
  · cases read
  · rename_i nonempty _
    refine ⟨?_, numeric_of_parts (numeric_withFraction read)⟩
    cases octets with
    | nil => exact absurd rfl nonempty
    | cons first rest =>
      refine ⟨first, rest, rfl, ?_⟩
      by_contra other
      exact nonempty (List.takeWhile_cons_of_neg other)

theorem numeric_of_read {octets : Octets} {numeral : Numeral} (read : Numeral.ofOctets? octets = some numeral) :
    ∃ first rest, octets = first :: rest ∧ (isDigit first || first == 0x2D) = true ∧
      ∀ octet ∈ rest, isNumeric octet := by
  unfold Numeral.ofOctets? at read
  split at read
  · exact ⟨_, _, rfl, rfl, (numeric_unsigned read).2⟩
  · obtain ⟨⟨first, rest, rfl, digit⟩, numeric⟩ := numeric_unsigned read
    exact ⟨first, rest, rfl, by simp [digit], (List.forall_mem_cons.mp numeric).2⟩

theorem step_numeric (tokens : List Token) {octets : Octets} (numeric : ∀ octet ∈ octets, isNumeric octet = true)
    (read : Octets) :
    octets.foldl Lexer.step ⟨tokens, .inNumber read⟩ = ⟨tokens, .inNumber (octets.reverse ++ read)⟩ := by
  induction octets generalizing read with
  | nil => rfl
  | cons octet octets ih =>
    have ⟨first, others⟩ := List.forall_mem_cons.mp numeric
    have stepped : Lexer.step ⟨tokens, .inNumber read⟩ octet = ⟨tokens, .inNumber (octet :: read)⟩ := by
      simp [Lexer.step, first]
    rw [List.foldl_cons, stepped, ih others, List.reverse_cons, List.append_assoc]
    rfl

theorem settle_numeral (tokens : List Token) {octets : Octets} {numeral : Numeral}
    (read : Numeral.ofOctets? octets = some numeral) :
    (octets.foldl Lexer.step ⟨tokens, .between⟩).settle = ⟨.number numeral :: tokens, .between⟩ := by
  obtain ⟨first, rest, rfl, opens, numeric⟩ := numeric_of_read read
  have ⟨unspaced, unquoted⟩ := numberStart first opens
  have opened : Lexer.step ⟨tokens, .between⟩ first = ⟨tokens, .inNumber [first]⟩ := by
    simp only [Lexer.step, begin, unspaced, unquoted, opens, Bool.false_eq_true, if_false, if_true]
  rw [List.foldl_cons, opened, step_numeric tokens numeric]
  simp [Lexer.settle, read, Lexer.emit]

end LoginGateway.Json
