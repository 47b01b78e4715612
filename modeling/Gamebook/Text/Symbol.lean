/-! Texts, and the halves of characters in them.

A character beyond the first 65536 has two halves. An escape sequence can name one by its code, and
a text can hold it, but a half is no character. So texts are kept in a code: a half is a mark and a
private character, the mark itself stands twice, and every other character is itself. Main
statement: `decode_encode`, no two sequences of symbols have one code. -/

set_option autoImplicit false

namespace Gamebook.Text

/-- What a text is made of: characters, and halves by their place among the halves. -/
inductive Symbol where
  | char (c : Char)
  | half (place : Fin 2048)
  deriving DecidableEq, Repr

/-- The mark before a coded half. -/
def mark : Char := Char.ofNat 0x10FFFF

/-- The first of the private characters that stand for halves. -/
def firstPrivate : Nat := 0xE000

def privateChar (place : Fin 2048) : Char :=
  Char.ofNat (firstPrivate + place.val)

namespace Symbol

def firstHalf : Nat := 0xD800

def code : Symbol → Nat
  | .char c => c.toNat
  | .half place => firstHalf + place.val

def ofCode (code : Nat) : Symbol :=
  if h : firstHalf ≤ code ∧ code < firstHalf + 2048 then .half ⟨code - firstHalf, by omega⟩
  else .char (Char.ofNat code)

def encode : Symbol → List Char
  | .char c => if c = mark then [mark, mark] else [c]
  | .half place => [mark, privateChar place]

def ofMarked (c : Char) : Symbol :=
  if h : firstPrivate ≤ c.toNat ∧ c.toNat < firstPrivate + 2048 then
    .half ⟨c.toNat - firstPrivate, by omega⟩
  else .char c

/-- The character that a symbol is where halves cannot stand. -/
def toChar : Symbol → Char
  | .char c => c
  | .half _ => '\uFFFD'

@[simp] theorem ofMarked_mark : ofMarked mark = .char mark := by decide

theorem toNat_privateChar (place : Fin 2048) :
    (privateChar place).toNat = firstPrivate + place.val := by
  have valid : (firstPrivate + place.val).isValidChar := by
    simp only [firstPrivate, Nat.isValidChar]
    omega
  have made : privateChar place = Char.ofNatAux (firstPrivate + place.val) valid := dif_pos valid
  rw [made]
  rfl

@[simp] theorem ofMarked_privateChar (place : Fin 2048) :
    ofMarked (privateChar place) = .half place := by
  simp [ofMarked, toNat_privateChar]

end Symbol

def encode (symbols : List Symbol) : List Char :=
  symbols.flatMap Symbol.encode

def decode : List Char → List Symbol
  | [] => []
  | c :: rest =>
    if c = mark then
      match rest with
      | [] => [.char c]
      | d :: rest => .ofMarked d :: decode rest
    else .char c :: decode rest

theorem decode_cons_of_ne {c : Char} (h : c ≠ mark) (rest : List Char) :
    decode (c :: rest) = .char c :: decode rest := by
  rw [decode.eq_def]
  simp [h]

theorem decode_encode (symbols : List Symbol) : decode (encode symbols) = symbols := by
  induction symbols with
  | nil => rfl
  | cons symbol rest ih =>
    rw [encode, List.flatMap_cons, ← encode]
    cases symbol with
    | char c =>
      by_cases h : c = mark
      · simp [Symbol.encode, decode, h, ih]
      · simp [Symbol.encode, decode_cons_of_ne, h, ih]
    | half place => simp [Symbol.encode, decode, ih]

def symbols (s : String) : List Symbol := decode s.toList

def ofSymbols (symbols : List Symbol) : String := String.ofList (encode symbols)

def ofChars (cs : List Char) : String := ofSymbols (cs.map .char)

/-- The characters of a text, where halves cannot stand. -/
def chars (s : String) : List Char := (symbols s).map Symbol.toChar

@[simp] theorem symbols_ofSymbols (list : List Symbol) : symbols (ofSymbols list) = list := by
  simp [symbols, ofSymbols, decode_encode]

def holdsHalf (s : String) : Bool :=
  (symbols s).any fun
    | .char _ => false
    | .half _ => true

end Gamebook.Text
