import LoginGateway.Text.Split

namespace LoginGateway.Text

def isBlank (c : Char) : Bool :=
  (0x09 ≤ c.val && c.val ≤ 0x0D) || c.val == 0x20 || c.val == 0x85 || c.val == 0xA0 || c.val == 0x1680
    || (0x2000 ≤ c.val && c.val ≤ 0x200A) || c.val == 0x2028 || c.val == 0x2029 || c.val == 0x202F
    || c.val == 0x205F || c.val == 0x3000

def trim (text : String) : String := String.ofList (strip isBlank text.toList)

def words (text : String) : List String :=
  (split isBlank text.toList).filterMap fun piece => if piece.isEmpty then none else some (String.ofList piece)

def lowerAscii (text : String) : String := text.map Char.toLower

theorem not_isBlank {c : Char} (least : 0x21 ≤ c.toNat) (most : c.toNat ≤ 0x7E) : isBlank c = false := by
  have differs : ∀ code : UInt32, code.toNat ≤ 0x20 ∨ 0x7F ≤ code.toNat → (c.val == code) = false := by
    intro code outside
    rw [beq_eq_false_iff_ne]
    rintro rfl
    change c.val.toNat ≤ 0x20 ∨ 0x7F ≤ c.val.toNat at outside
    change 0x21 ≤ c.val.toNat at least
    change c.val.toNat ≤ 0x7E at most
    omega
  have low : ¬c.val ≤ 0x0D := by
    rw [UInt32.le_iff_toNat_le]
    change ¬c.toNat ≤ 13
    omega
  have high : ¬0x2000 ≤ c.val := by
    rw [UInt32.le_iff_toNat_le]
    change ¬0x2000 ≤ c.toNat
    omega
  simp only [isBlank, low, high, decide_false, Bool.and_false, Bool.false_and, Bool.false_or]
  simp [differs]

end LoginGateway.Text
