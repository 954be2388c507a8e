
namespace DeclBundle.Text

def utf8 (s : List Char) : List UInt8 := s.flatMap String.utf8EncodeChar

/-- The bytes that may follow a lead byte: how many, and between which bounds the first of them lies.
None for a byte that begins no character of several bytes. -/
def followers? (lead : UInt8) : Option (Nat × UInt8 × UInt8) :=
  if lead < 0xC2 then none
  else if lead < 0xE0 then some (1, 0x80, 0xBF)
  else if lead = 0xE0 then some (2, 0xA0, 0xBF)
  else if lead = 0xED then some (2, 0x80, 0x9F)
  else if lead < 0xF0 then some (2, 0x80, 0xBF)
  else if lead = 0xF0 then some (3, 0x90, 0xBF)
  else if lead < 0xF4 then some (3, 0x80, 0xBF)
  else if lead = 0xF4 then some (3, 0x80, 0x8F)
  else none

def readFollowers : Nat → UInt8 → UInt8 → Nat → List UInt8 → Option Nat × List UInt8
  | 0, _, _, code, s => (some code, s)
  | _ + 1, _, _, _, [] => (none, [])
  | count + 1, low, high, code, b :: s =>
    if low ≤ b && b ≤ high then readFollowers count 0x80 0xBF (64 * code + b.toNat % 64) s
    else (none, b :: s)

theorem readFollowers_length (count : Nat) (low high : UInt8) (code : Nat) (s : List UInt8) :
    (readFollowers count low high code s).2.length ≤ s.length := by
  induction count generalizing low high code s with
  | zero => simp [readFollowers]
  | succ count ih =>
    cases s with
    | nil => simp [readFollowers]
    | cons b s =>
      unfold readFollowers
      split
      · exact Nat.le_trans (ih ..) (by simp)
      · simp

def replacement : Char := Char.ofNat 0xFFFD

def decodeLossy : List UInt8 → List Char
  | [] => []
  | b :: s =>
    if b < 0x80 then Char.ofNat b.toNat :: decodeLossy s
    -- the bytes of a character that breaks off count as one; the byte after them is read again
    else match followers? b with
      | none => replacement :: decodeLossy s
      | some (count, low, high) =>
        have := readFollowers_length count low high (b.toNat % Nat.pow 2 (6 - count)) s
        let read := readFollowers count low high (b.toNat % Nat.pow 2 (6 - count)) s
        (read.1.map Char.ofNat).getD replacement :: decodeLossy read.2
termination_by s => s.length
decreasing_by all_goals (simp only [List.length_cons]; omega)

end DeclBundle.Text
