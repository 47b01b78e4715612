/-! Reading bytes as UTF-8 when they need not be UTF-8.

The longest beginning of a character that the bytes offer is taken at each place. When it is no
whole character it is read as one replacement character, and so is a byte that begins none. -/

set_option autoImplicit false

namespace Gamebook.Text.Utf8

def replacement : Char := '\uFFFD'

/-- The first byte of a longer character: the bits it gives, how many bytes follow it, and the
bounds of the first of these. The bounds leave out surrogates and what a shorter form can
express. -/
structure Lead where
  bits : Nat
  count : Nat
  low : Nat := 0x80
  high : Nat := 0xBF

def lead? (b : Nat) : Option Lead :=
  if b < 0xC2 then none
  else if b < 0xE0 then some ⟨b - 0xC0, 1, 0x80, 0xBF⟩
  else if b = 0xE0 then some ⟨0, 2, 0xA0, 0xBF⟩
  else if b = 0xED then some ⟨0xD, 2, 0x80, 0x9F⟩
  else if b < 0xF0 then some ⟨b - 0xE0, 2, 0x80, 0xBF⟩
  else if b = 0xF0 then some ⟨0, 3, 0x90, 0xBF⟩
  else if b < 0xF4 then some ⟨b - 0xF0, 3, 0x80, 0xBF⟩
  else if b = 0xF4 then some ⟨4, 3, 0x80, 0x8F⟩
  else none

/-- Takes the bytes that follow a first byte: the code point, if they are all there, and what is
left. -/
def continued (code low high : Nat) : Nat → List UInt8 → Option Nat × List UInt8
  | 0, rest => (some code, rest)
  | _ + 1, [] => (none, [])
  | n + 1, b :: rest =>
    if low ≤ b.toNat ∧ b.toNat ≤ high then
      continued (code * 64 + b.toNat % 64) 0x80 0xBF n rest
    else (none, b :: rest)

theorem length_continued_le (code low high n : Nat) (bytes : List UInt8) :
    (continued code low high n bytes).2.length ≤ bytes.length := by
  fun_induction continued code low high n bytes with
  | case1 => simp
  | case2 => simp
  | case3 _ _ _ _ _ _ _ ih => exact Nat.le_succ_of_le ih
  | case4 => simp

def decode : List UInt8 → List Char
  | [] => []
  | b :: rest =>
    if b.toNat < 0x80 then Char.ofNat b.toNat :: decode rest
    else
      match lead? b.toNat with
      | none => replacement :: decode rest
      | some lead =>
        let read := continued lead.bits lead.low lead.high lead.count rest
        (read.1.map Char.ofNat).getD replacement :: decode read.2
  termination_by bytes => bytes.length
  decreasing_by
    · simp
    · simp
    · exact Nat.lt_succ_of_le (length_continued_le ..)

end Gamebook.Text.Utf8
