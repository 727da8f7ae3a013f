import LoginGateway.Time.Rfc3339
import LoginGateway.Proofs.Time.Calendar
import LoginGateway.Proofs.Json.Numbers
import Mathlib.Algebra.Ring.Nat

namespace LoginGateway.Rfc3339

def paddedDigits (width n : Nat) : List Char :=
  List.replicate (width - (Nat.toDigits 10 n).length) '0' ++ Nat.toDigits 10 n

theorem toList_padded (width n : Nat) : (padded width n).toList = paddedDigits width n := by
  simp [padded, paddedDigits, ← String.length_toList]

theorem paddedDigits_isDigit {width n : Nat} : ∀ c ∈ paddedDigits width n, c.isDigit := by
  intro c member
  rcases List.mem_append.mp member with zero | digit
  · rw [List.eq_of_mem_replicate zero]
    rfl
  · exact Nat.isDigit_of_mem_toDigits (by decide) (by decide) digit

theorem paddedDigits_ne_nil (width n : Nat) : paddedDigits width n ≠ [] := by
  simp [paddedDigits]

theorem length_paddedDigits {width n : Nat} (positive : 0 < width) (fits : n < 10 ^ width) :
    (paddedDigits width n).length = width := by
  have short := (Nat.length_toDigits_le_iff (by decide) positive).mpr fits
  simp only [paddedDigits, List.length_append, List.length_replicate]
  omega

theorem numberOf_paddedDigits (width n : Nat) : numberOf (paddedDigits width n) = n := by
  have same : ∀ (digits : List Char) (start : Nat),
      digits.foldl (fun n c => n * 10 + digitValue c) start = Nat.ofDigitChars 10 digits start := by
    intro digits
    induction digits with
    | nil => intro start; rfl
    | cons c digits ih =>
      intro start
      rw [List.foldl_cons, ih, Nat.ofDigitChars_cons, Nat.mul_comm]
      rfl
  rw [numberOf, same, paddedDigits, Nat.ofDigitChars_append, Nat.ofDigitChars_replicate_zero, Nat.mul_zero]
  exact Nat.ofDigitChars_ten_toDigits

def Ends (rest : List Char) : Prop := ∃ c others, rest = c :: others ∧ c.isDigit = false

theorem digits?_append {limit : Option Nat} {digits rest : List Char} (run : ∀ c ∈ digits, c.isDigit)
    (some_digit : digits ≠ []) (ends : Ends rest) (fits : ∀ most ∈ limit, digits.length ≤ most) :
    digits? limit (digits ++ rest) = some (digits, rest) := by
  obtain ⟨c, others, rfl, other⟩ := ends
  have whole : (digits ++ c :: others).takeWhile Char.isDigit = digits := by
    rw [List.takeWhile_append_of_pos run, List.takeWhile_cons, other]
    simp
  cases limit with
  | none => simp [digits?, whole, some_digit]
  | some most =>
    have taken : digits.take most = digits := List.take_of_length_le (fits most rfl)
    simp [digits?, whole, taken, some_digit]

theorem skipBlanks_digits {digits rest : List Char} (run : ∀ c ∈ digits, c.isDigit) (some_digit : digits ≠ []) :
    skipBlanks (digits ++ rest) = digits ++ rest := by
  cases digits with
  | nil => exact absurd rfl some_digit
  | cons c digits =>
    have ⟨least, most⟩ := Json.val_of_isDigit (run c List.mem_cons_self)
    have dark : Text.isBlank c = false := Text.not_isBlank (by omega) (by omega)
    simp [skipBlanks, dark]

theorem field?_padded {least greatest n : Nat} {rest : List Char} (fits : n < 100) (above : least ≤ n)
    (below : n ≤ greatest) (ends : Ends rest) :
    field? least greatest (paddedDigits 2 n ++ rest) = some (n, rest) := by
  have length : (paddedDigits 2 n).length = 2 := length_paddedDigits (by decide) fits
  have read : digits? (some 2) (paddedDigits 2 n ++ rest) = some (paddedDigits 2 n, rest) :=
    digits?_append paddedDigits_isDigit (paddedDigits_ne_nil 2 n) ends (by simp [length])
  simp [field?, skipBlanks_digits paddedDigits_isDigit (paddedDigits_ne_nil 2 n), read, numberOf_paddedDigits,
    above, below]

theorem mark?_cons {mark : Char} (visible : Text.isBlank mark = false) (rest : List Char) :
    mark? mark (mark :: rest) = some rest := by
  simp [mark?, skipBlanks, visible]

theorem paddedDigits_append_ne {mark : Char} (other : mark.isDigit = false) (width n : Nat)
    (rest others : List Char) : paddedDigits width n ++ rest ≠ mark :: others := by
  intro same
  cases digits : paddedDigits width n with
  | nil => exact paddedDigits_ne_nil width n digits
  | cons c cs =>
    rw [digits, List.cons_append, List.cons.injEq] at same
    have digit := paddedDigits_isDigit c (digits ▸ List.mem_cons_self)
    rw [same.1, other] at digit
    cases digit

theorem year?_yearText {year : Int} {rest : List Char} (ends : Ends rest) :
    year? ((yearText year).toList ++ rest) = some (year, rest) := by
  have read : ∀ limit : Option Nat, (∀ most ∈ limit, (paddedDigits 4 year.natAbs).length ≤ most) →
      digits? limit (paddedDigits 4 year.natAbs ++ rest) = some (paddedDigits 4 year.natAbs, rest) :=
    fun limit fits => digits?_append paddedDigits_isDigit (paddedDigits_ne_nil _ _) ends fits
  have signed : ∀ mark : Char, Text.isBlank mark = false →
      skipBlanks (mark :: (paddedDigits 4 year.natAbs ++ rest)) = mark :: (paddedDigits 4 year.natAbs ++ rest) := by
    intro mark visible
    simp [skipBlanks, visible]
  by_cases negative : year < 0
  · have written : (yearText year).toList ++ rest = '-' :: (paddedDigits 4 year.natAbs ++ rest) := by
      simp [yearText, negative, toList_padded]
    have number : -(year.natAbs : Int) = year := by omega
    rw [written]
    simp only [year?, signed '-' rfl, read none (by simp), Option.bind_eq_bind, Option.bind_some, Option.pure_def,
      numberOf_paddedDigits, number]
  · have number : (year.natAbs : Int) = year := by omega
    by_cases short : year ≤ 9999
    · have written : (yearText year).toList ++ rest = paddedDigits 4 year.natAbs ++ rest := by
        simp [yearText, negative, short, toList_padded]
      have length : (paddedDigits 4 year.natAbs).length = 4 := length_paddedDigits (by decide) (by omega)
      rw [written, year?, skipBlanks_digits paddedDigits_isDigit (paddedDigits_ne_nil _ _)]
      split
      · rename_i same
        exact absurd same (paddedDigits_append_ne rfl _ _ _ _)
      · rename_i same
        exact absurd same (paddedDigits_append_ne rfl _ _ _ _)
      · simp [read (some 4) (by simp [length]), numberOf_paddedDigits, number]
    · have written : (yearText year).toList ++ rest = '+' :: (paddedDigits 4 year.natAbs ++ rest) := by
        simp [yearText, negative, short, toList_padded]
      rw [written]
      simp [year?, signed '+' rfl, read none (by simp), numberOf_paddedDigits, number]

theorem fraction?_fractionText {nanos : Nat} (small : nanos < Instant.billion) :
    fraction? ((fractionText nanos).toList ++ ['Z']) = some (nanos, ['Z']) := by
  have digits : ∀ width n, 0 < width → width ≤ 9 → n < 10 ^ width →
      fraction? ('.' :: (paddedDigits width n ++ ['Z'])) = some (n * 10 ^ (9 - width), ['Z']) := by
    intro width n positive narrow fits
    have length := length_paddedDigits positive fits
    have read : digits? (some 9) (paddedDigits width n ++ ['Z']) = some (paddedDigits width n, ['Z']) :=
      digits?_append paddedDigits_isDigit (paddedDigits_ne_nil width n) ⟨'Z', [], rfl, rfl⟩ (by simp [length, narrow])
    simp [fraction?, read, length, numberOf_paddedDigits]
  simp only [Instant.billion] at small
  unfold fractionText
  split
  · rename_i zero
    rw [zero]
    rfl
  · split
    · rename_i thousands
      have whole : nanos / 1000000 * 10 ^ (9 - 3) = nanos := by omega
      have read := digits 3 (nanos / 1000000) (by decide) (by decide) (by omega)
      rw [whole] at read
      simpa [toList_padded] using read
    · split
      · rename_i thousands
        have whole : nanos / 1000 * 10 ^ (9 - 6) = nanos := by omega
        have read := digits 6 (nanos / 1000) (by decide) (by decide) (by omega)
        rw [whole] at read
        simpa [toList_padded] using read
      · have read := digits 9 nanos (by decide) (by decide) small
        simpa [toList_padded] using read

theorem ends_fractionText (nanos : Nat) : Ends ((fractionText nanos).toList ++ ['Z']) := by
  unfold fractionText
  split
  · exact ⟨'Z', [], rfl, rfl⟩
  · split
    · exact ⟨'.', _, by rw [String.toList_append, List.append_assoc]; rfl, rfl⟩
    · split <;> exact ⟨'.', _, by rw [String.toList_append, List.append_assoc]; rfl, rfl⟩

def timeChars (hour minute second nanos : Nat) : List Char :=
  paddedDigits 2 hour ++ ':' :: (paddedDigits 2 minute ++ ':' :: (paddedDigits 2 second ++
    ((fractionText nanos).toList ++ ['Z'])))

def chars (date : Date) (hour minute second nanos : Nat) : List Char :=
  (yearText date.year).toList ++ '-' :: (paddedDigits 2 date.month ++ '-' :: (paddedDigits 2 date.day ++ 'T' ::
    timeChars hour minute second nanos))

theorem toList_print (instant : Instant) :
    (print instant).toList = chars (Date.ofDays (instant.seconds / 86400)) ((instant.seconds % 86400).toNat / 3600)
      ((instant.seconds % 86400).toNat / 60 % 60)
      ((instant.seconds % 86400).toNat % 60 + instant.nanos / Instant.billion)
      (instant.nanos % Instant.billion) := by
  simp [print, chars, timeChars, toList_padded]

theorem onDate?_written {date : Date} {hour minute second nanos : Nat} (valid : date.Valid) (hours : hour ≤ 23)
    (minutes : minute ≤ 59) (seconds : second ≤ 60) (small : nanos < Instant.billion)
    (kept : Instant.InRange (date.toDays * 86400 + hour * 3600 + minute * 60 + (second - second / 60 : Nat) - 0)) :
    onDate? date (timeChars hour minute second nanos) =
      some ⟨date.toDays * 86400 + hour * 3600 + minute * 60 + (second - second / 60 : Nat) - 0,
        nanos + second / 60 * Instant.billion⟩ := by
  have colon : ∀ rest, Ends (':' :: rest) := fun rest => ⟨':', rest, rfl, rfl⟩
  rw [onDate?, timeChars]
  rw [field?_padded (by omega) (Nat.zero_le _) hours (colon _)]
  simp only [Option.bind_eq_bind, Option.bind_some]
  rw [mark?_cons rfl]
  simp only [Option.bind_some]
  rw [field?_padded (by omega) (Nat.zero_le _) minutes (colon _)]
  simp only [Option.bind_some]
  rw [mark?_cons rfl]
  simp only [Option.bind_some]
  rw [field?_padded (by omega) (Nat.zero_le _) seconds (ends_fractionText nanos)]
  simp only [Option.bind_some]
  rw [fraction?_fractionText small]
  have offset : offset? (skipBlanks ['Z']) = some (0, []) := rfl
  simp only [Option.bind_some, offset]
  rw [if_pos ⟨valid, kept, rfl⟩]

theorem parse?_written {text : String} {date : Date} {hour minute second nanos : Nat}
    (same : text.toList = chars date hour minute second nanos) (valid : date.Valid) (hours : hour ≤ 23)
    (minutes : minute ≤ 59) (seconds : second ≤ 60) (small : nanos < Instant.billion)
    (kept : Instant.InRange (date.toDays * 86400 + hour * 3600 + minute * 60 + (second - second / 60 : Nat) - 0)) :
    parse? text = some ⟨date.toDays * 86400 + hour * 3600 + minute * 60 + (second - second / 60 : Nat) - 0,
      nanos + second / 60 * Instant.billion⟩ := by
  obtain ⟨year, month, day⟩ := date
  obtain ⟨-, -, monthLeast, monthMost, dayLeast, dayMost⟩ := id valid
  have inMonth : Date.daysInMonth year month ≤ 31 := by
    simp only [Date.daysInMonth]
    split <;> first | (split <;> decide) | decide
  have clear : ∀ (c : Char) rest, c.isDigit = false → Ends (c :: rest) := fun c rest other => ⟨c, rest, rfl, other⟩
  simp only at monthLeast monthMost dayLeast dayMost
  rw [parse?, same, chars]
  rw [year?_yearText (clear _ _ rfl)]
  simp only [Option.bind_eq_bind, Option.bind_some]
  rw [mark?_cons rfl]
  simp only [Option.bind_some]
  rw [field?_padded (by omega) monthLeast monthMost (clear _ _ rfl)]
  simp only [Option.bind_some]
  rw [mark?_cons rfl]
  simp only [Option.bind_some]
  rw [field?_padded (by omega) dayLeast (by omega) (clear _ _ rfl)]
  simp only [Option.bind_some]
  exact onDate?_written valid hours minutes seconds small kept

theorem parse?_print {instant : Instant} (valid : instant.Valid) :
    parse? (print instant) = some instant.asWritten := by
  obtain ⟨⟨least, most⟩, bounded⟩ := valid
  let second := (instant.seconds % 86400).toNat % 60
  let leap := instant.nanos / Instant.billion
  have date : (Date.ofDays (instant.seconds / 86400)).Valid := by
    simp only [Instant.leastSecond, Instant.greatestSecond] at least most
    apply Date.ofDays_valid <;> omega
  have single : leap ≤ 1 := by
    simp only [leap, Instant.billion] at bounded ⊢
    omega
  -- a leap second at the end of a minute is its second 60, any other one the second that follows
  have named : instant.asWritten =
      ⟨instant.seconds / 86400 * 86400 + ((instant.seconds % 86400).toNat / 3600 : Nat) * 3600 +
          ((instant.seconds % 86400).toNat / 60 % 60 : Nat) * 60 +
          (second + leap - (second + leap) / 60 : Nat) - 0,
        instant.nanos % Instant.billion + (second + leap) / 60 * Instant.billion⟩ := by
    unfold Instant.asWritten
    split <;> rename_i whole <;> simp only [Instant.OnMinute, Instant.billion, second, leap] at whole single ⊢
    · have counted : ((instant.seconds % 86400).toNat % 60 + instant.nanos / 1000000000) / 60 =
          instant.nanos / 1000000000 := by omega
      rw [counted]
      exact congrArg₂ Instant.mk (by omega) (by omega)
    · have counted : ((instant.seconds % 86400).toNat % 60 + instant.nanos / 1000000000) / 60 = 0 := by omega
      rw [counted]
      exact congrArg₂ Instant.mk (by omega) (by omega)
  have kept : Instant.InRange instant.asWritten.seconds := by
    unfold Instant.asWritten
    split
    · exact ⟨least, most⟩
    · rename_i whole
      simp only [Instant.OnMinute, Instant.InRange, Instant.leastSecond, Instant.greatestSecond] at whole least most ⊢
      omega
  have read := parse?_written (toList_print instant) date (by omega) (by omega) (by omega)
    (Nat.mod_lt _ (by decide)) (by rw [Date.toDays_ofDays]; rw [named] at kept; exact kept)
  rw [Date.toDays_ofDays] at read
  exact read.trans (congrArg some named.symm)

theorem numberOf_lt {digits : List Char} (run : ∀ c ∈ digits, c.isDigit) :
    numberOf digits < 10 ^ digits.length := by
  have bound : ∀ (digits : List Char) (start : Nat), (∀ c ∈ digits, c.isDigit) →
      digits.foldl (fun n c => n * 10 + digitValue c) start < (start + 1) * 10 ^ digits.length := by
    intro digits
    induction digits with
    | nil => intro start _; simp
    | cons c digits ih =>
      intro start run
      have ⟨first, others⟩ := List.forall_mem_cons.mp run
      have ⟨least, most⟩ := Json.val_of_isDigit first
      have step := ih (start * 10 + digitValue c) others
      have value : digitValue c ≤ 9 := by
        simp only [digitValue]
        omega
      calc (c :: digits).foldl (fun n c => n * 10 + digitValue c) start
          < (start * 10 + digitValue c + 1) * 10 ^ digits.length := step
        _ ≤ (start + 1) * 10 * 10 ^ digits.length := Nat.mul_le_mul_right _ (by omega)
        _ = (start + 1) * 10 ^ (c :: digits).length := by
          rw [List.length_cons, Nat.pow_succ', Nat.mul_assoc]
  simpa [numberOf] using bound digits 0 run

theorem digits?_read {limit : Option Nat} {text digits rest : List Char}
    (read : digits? limit text = some (digits, rest)) :
    (∀ c ∈ digits, c.isDigit) ∧ ∀ most ∈ limit, digits.length ≤ most := by
  have run : ∀ c ∈ text.takeWhile Char.isDigit, c.isDigit := fun c member => List.mem_takeWhile_imp member
  cases limit with
  | none =>
    simp only [digits?, Option.ite_none_left_eq_some, Option.some.injEq, Prod.mk.injEq] at read
    exact ⟨read.2.1 ▸ run, by simp⟩
  | some most =>
    simp only [digits?, Option.ite_none_left_eq_some, Option.some.injEq, Prod.mk.injEq] at read
    obtain ⟨-, rfl, -⟩ := read
    refine ⟨fun c member => run c (List.mem_of_mem_take member), ?_⟩
    rintro _ ⟨⟩
    exact List.length_take_le _ _

theorem fraction?_lt {text rest : List Char} {nanos : Nat} (read : fraction? text = some (nanos, rest)) :
    nanos < Instant.billion := by
  unfold fraction? at read
  split at read
  · rename_i others
    rw [Option.bind_eq_bind, Option.bind_eq_some_iff] at read
    obtain ⟨⟨digits, after⟩, taken, read⟩ := read
    have ⟨run, short⟩ := digits?_read taken
    have small := numberOf_lt run
    have length := short 9 rfl
    cases read
    calc numberOf digits * 10 ^ (9 - digits.length)
        < 10 ^ digits.length * 10 ^ (9 - digits.length) :=
          Nat.mul_lt_mul_of_pos_right small (Nat.pow_pos (by decide))
      _ = 10 ^ (digits.length + (9 - digits.length)) := (Nat.pow_add ..).symm
      _ = Instant.billion := by rw [Nat.add_sub_cancel' length]; rfl
  · cases read
    decide

theorem field?_read {least greatest n : Nat} {text rest : List Char}
    (read : field? least greatest text = some (n, rest)) : least ≤ n ∧ n ≤ greatest := by
  rw [field?, Option.bind_eq_bind, Option.bind_eq_some_iff] at read
  obtain ⟨_, -, read⟩ := read
  simp only [Option.ite_none_right_eq_some, Option.some.injEq, Prod.mk.injEq] at read
  exact read.2.1 ▸ read.1

theorem offsetSize?_read {text rest : List Char} {size : Nat} (read : offsetSize? text = some (size, rest)) :
    size % 60 = 0 := by
  simp only [offsetSize?, Option.bind_eq_bind, Option.bind_eq_some_iff, Option.ite_none_right_eq_some,
    Option.some.injEq, Prod.mk.injEq] at read
  obtain ⟨⟨hours, _⟩, -, ⟨minutes, _⟩, -, -, rfl, -⟩ := read
  simp only
  omega

theorem offset?_read {text rest : List Char} {offset : Int} (read : offset? text = some (offset, rest)) :
    offset % 60 = 0 := by
  unfold offset? at read
  have sized : ∀ (sign : Nat → Int) {text rest : List Char}, (∀ size, size % 60 = 0 → sign size % 60 = 0) →
      (offsetSize? text).map (fun sized => (sign sized.1, sized.2)) = some (offset, rest) → offset % 60 = 0 := by
    intro sign text rest whole read
    obtain ⟨⟨size, _⟩, taken, same⟩ := Option.map_eq_some_iff.mp read
    cases same
    exact whole size (offsetSize?_read taken)
  split at read
  · cases read
    rfl
  · cases read
    rfl
  · exact sized (fun size => size) (fun size whole => by omega) read
  · exact sized (fun size => -size) (fun size whole => by omega) read
  · exact sized (fun size => -size) (fun size whole => by omega) read
  · simp only [Option.ite_none_right_eq_some, Option.some.injEq, Prod.mk.injEq] at read
    omega
  · cases read

theorem onDate?_valid {date : Date} {text : List Char} {instant : Instant}
    (read : onDate? date text = some instant) : instant.Valid ∧ instant.OnMinute := by
  simp only [onDate?, Option.bind_eq_bind, Option.bind_eq_some_iff, Option.ite_none_right_eq_some,
    Option.some.injEq] at read
  obtain ⟨⟨hour, _⟩, -, _, -, ⟨minute, _⟩, -, _, -, ⟨second, _⟩, seconds, ⟨nanos, _⟩, fraction, ⟨offset, _⟩, away,
    ⟨-, kept, -⟩, rfl⟩ := read
  have small := fraction?_lt fraction
  have ⟨_, most⟩ := field?_read seconds
  have minutes := offset?_read away
  refine ⟨⟨kept, ?_⟩, ?_⟩
  · simp only [Instant.billion] at small ⊢
    omega
  · intro long
    have leap : second = 60 := by
      simp only [Instant.billion] at small long
      omega
    subst leap
    simp only
    omega

theorem parse?_valid {text : String} {instant : Instant} (read : parse? text = some instant) :
    instant.Valid ∧ instant.OnMinute := by
  simp only [parse?, Option.bind_eq_bind, Option.bind_eq_some_iff] at read
  obtain ⟨⟨year, _⟩, -, _, -, ⟨month, _⟩, -, _, -, ⟨day, rest⟩, -, read⟩ := read
  split at read
  · exact onDate?_valid read
  · exact onDate?_valid read
  · exact onDate?_valid read
  · cases read

end LoginGateway.Rfc3339
