import DeclBundle.Text.Utf8
import Mathlib.Data.List.Basic

namespace DeclBundle.Text

def IsAscii (c : Char) : Prop := c.toNat < 128

instance : DecidablePred IsAscii := fun c => inferInstanceAs (Decidable (c.toNat < 128))

theorem isAscii_of_all {s : List Char} (all : s.all fun c => IsAscii c) : ∀ c ∈ s, IsAscii c := by
  intro c member
  exact of_decide_eq_true (List.all_eq_true.mp all c member)

def byteOf (c : Char) : UInt8 := UInt8.ofNat c.toNat

theorem byteOf_inj {c d : Char} (first : IsAscii c) (second : IsAscii d) (same : byteOf c = byteOf d) :
    c = d := by
  have bound : c.toNat < 256 := Nat.lt_trans first (by decide)
  have bound' : d.toNat < 256 := Nat.lt_trans second (by decide)
  have values := congrArg UInt8.toNat same
  simp only [byteOf, UInt8.toNat_ofNat', Nat.reducePow, Nat.mod_eq_of_lt bound, Nat.mod_eq_of_lt bound']
    at values
  exact Char.toNat_inj.mp values

theorem encode_ascii {c : Char} (ascii : IsAscii c) : String.utf8EncodeChar c = [byteOf c] := by
  have small : c.val.toNat ≤ 127 := Nat.le_of_lt_succ ascii
  simp only [String.utf8EncodeChar, small, if_true]
  rfl

theorem large_of_mem_encode {c : Char} (wide : ¬IsAscii c) {b : UInt8}
    (member : b ∈ String.utf8EncodeChar c) : 128 ≤ b.toNat := by
  have big : ¬c.val.toNat ≤ 127 := fun small => wide (Nat.lt_succ_of_le small)
  simp only [String.utf8EncodeChar, big, if_false] at member
  split at member
  · simp only [List.mem_cons, List.not_mem_nil, or_false] at member
    rcases member with rfl | rfl <;> simp only [UInt8.toNat_ofNat', Nat.reducePow] <;> omega
  · split at member
    all_goals simp only [List.mem_cons, List.not_mem_nil, or_false] at member
    · rcases member with rfl | rfl | rfl <;> simp only [UInt8.toNat_ofNat', Nat.reducePow] <;> omega
    · rcases member with rfl | rfl | rfl | rfl <;>
        simp only [UInt8.toNat_ofNat', Nat.reducePow] <;> omega

theorem utf8_cons (c : Char) (s : List Char) : utf8 (c :: s) = String.utf8EncodeChar c ++ utf8 s :=
  List.flatMap_cons

theorem utf8_append (s t : List Char) : utf8 (s ++ t) = utf8 s ++ utf8 t := List.flatMap_append

theorem utf8_cons_ascii {c : Char} (ascii : IsAscii c) (s : List Char) :
    utf8 (c :: s) = byteOf c :: utf8 s := by
  rw [utf8_cons, encode_ascii ascii]
  rfl

theorem utf8_eq_nil {s : List Char} : utf8 s = [] ↔ s = [] := by
  cases s with
  | nil => simp [utf8]
  | cons c s => simp [utf8_cons]

theorem exists_cut {c : Char} (ascii : IsAscii c) {s : List Char} {front back : List UInt8}
    (whole : utf8 s = front ++ byteOf c :: back) :
    ∃ left right, s = left ++ c :: right ∧ utf8 left = front ∧ utf8 right = back := by
  induction s generalizing front with
  | nil => simp [utf8] at whole
  | cons d s ih =>
    rw [utf8_cons] at whole
    rcases List.append_eq_append_iff.mp whole with ⟨more, rfl, rest⟩ | ⟨more, split, rest⟩
    · obtain ⟨left, right, rfl, rfl, rfl⟩ := ih rest
      exact ⟨d :: left, right, rfl, utf8_cons d left, rfl⟩
    · cases more with
      | nil =>
        rw [List.append_nil] at split
        obtain ⟨left, right, rfl, none, rfl⟩ := @ih [] rest.symm
        obtain rfl := utf8_eq_nil.mp none
        exact ⟨[d], right, rfl, by simp [utf8, split], rfl⟩
      | cons b more =>
        obtain ⟨rfl, rfl⟩ := List.cons.inj rest
        -- The byte would stand within the code of `d`: then it is all of it, or it is too large.
        by_cases narrow : IsAscii d
        · rw [encode_ascii narrow] at split
          obtain ⟨rfl, rest⟩ : front = [] ∧ [byteOf d] = byteOf c :: more := by
            cases front with
            | nil => exact ⟨rfl, split⟩
            | cons _ _ => simp at split
          obtain ⟨same, rfl⟩ := List.cons.inj rest
          obtain rfl := byteOf_inj narrow ascii same
          exact ⟨[], s, rfl, rfl, rfl⟩
        · have large := large_of_mem_encode narrow (b := byteOf c) (by simp [split])
          have bound : c.toNat < 256 := Nat.lt_trans ascii (by decide)
          simp only [byteOf, UInt8.toNat_ofNat', Nat.reducePow, Nat.mod_eq_of_lt bound] at large
          exact absurd ascii (Nat.not_lt_of_le large)

theorem prefix_utf8_iff {needle s : List Char} (ascii : ∀ c ∈ needle, IsAscii c) :
    utf8 needle <+: utf8 s ↔ needle <+: s := by
  induction needle generalizing s with
  | nil => simp [utf8]
  | cons c needle ih =>
    have first := ascii c List.mem_cons_self
    constructor
    · intro found
      obtain ⟨back, whole⟩ := found
      rw [utf8_cons_ascii first] at whole
      have start : utf8 s = [] ++ byteOf c :: (utf8 needle ++ back) := whole.symm
      obtain ⟨left, right, rfl, none, rest⟩ := exists_cut first start
      obtain rfl := utf8_eq_nil.mp none
      have inner := (ih fun d member => ascii d (List.mem_cons_of_mem _ member)).mp ⟨back, rest.symm⟩
      exact List.cons_prefix_cons.mpr ⟨rfl, inner⟩
    · intro found
      obtain ⟨back, rfl⟩ := found
      exact ⟨utf8 back, (utf8_append ..).symm⟩

theorem infix_utf8_iff {c : Char} {needle s : List Char} (ascii : ∀ d ∈ c :: needle, IsAscii d) :
    utf8 (c :: needle) <:+: utf8 s ↔ c :: needle <:+: s := by
  constructor
  · intro found
    obtain ⟨front, back, whole⟩ := found
    have first := ascii c List.mem_cons_self
    rw [utf8_cons_ascii first, List.append_assoc, List.cons_append] at whole
    obtain ⟨left, right, rfl, -, rest⟩ := exists_cut first whole.symm
    obtain ⟨more, rfl⟩ :=
      (prefix_utf8_iff fun d member => ascii d (List.mem_cons_of_mem _ member)).mp ⟨back, rest.symm⟩
    exact ⟨left, more, by simp⟩
  · intro found
    obtain ⟨front, back, rfl⟩ := found
    exact ⟨utf8 front, utf8 back, by simp only [utf8_append]⟩

theorem suffix_utf8_iff {c : Char} {needle s : List Char} (ascii : ∀ d ∈ c :: needle, IsAscii d) :
    utf8 (c :: needle) <:+ utf8 s ↔ c :: needle <:+ s := by
  constructor
  · intro found
    obtain ⟨front, whole⟩ := found
    have first := ascii c List.mem_cons_self
    rw [utf8_cons_ascii first] at whole
    obtain ⟨left, right, rfl, -, rest⟩ := exists_cut first whole.symm
    obtain ⟨more, rfl⟩ := (prefix_utf8_iff fun d member => ascii d (List.mem_cons_of_mem _ member)).mp
      ⟨[], (List.append_nil _).trans rest.symm⟩
    rw [utf8_append, List.append_right_eq_self] at rest
    obtain rfl := utf8_eq_nil.mp rest
    exact ⟨left, by simp⟩
  · intro found
    obtain ⟨front, rfl⟩ := found
    exact ⟨utf8 front, (utf8_append ..).symm⟩

section Decoding

theorem toNat_ofNat_of_lt {n : Nat} (small : n < 256) : (UInt8.ofNat n).toNat = n := by
  rw [UInt8.toNat_ofNat']
  omega

theorem followers?_ofNat {n : Nat} (least : 194 ≤ n) (most : n ≤ 244) :
    followers? (UInt8.ofNat n) = some
      (if n < 224 then (1, 0x80, 0xBF)
      else if n < 240 then (2, if n = 224 then 0xA0 else 0x80, if n = 237 then 0x9F else 0xBF)
      else (3, if n = 240 then 0x90 else 0x80, if n = 244 then 0x8F else 0xBF)) := by
  have value : (UInt8.ofNat n).toNat = n := toNat_ofNat_of_lt (by omega)
  unfold followers?
  simp only [UInt8.lt_iff_toNat_lt, ← UInt8.toNat_inj, value, UInt8.reduceToNat]
  grind

theorem readFollowers_cons {b low high : UInt8} (lower : low ≤ b) (upper : b ≤ high) (count code : Nat)
    (s : List UInt8) : readFollowers (count + 1) low high code (b :: s) =
      readFollowers count 0x80 0xBF (64 * code + b.toNat % 64) s := by
  simp [readFollowers, lower, upper]

def sixBits (n : Nat) : UInt8 := UInt8.ofNat (n % 64 + 128)

theorem toNat_sixBits (n : Nat) : (sixBits n).toNat = n % 64 + 128 := toNat_ofNat_of_lt (by omega)

theorem readFollowers_sixBits (n count code : Nat) (s : List UInt8) :
    readFollowers (count + 1) 0x80 0xBF code (sixBits n :: s) =
      readFollowers count 0x80 0xBF (64 * code + n % 64) s := by
  have lower : 0x80 ≤ sixBits n := by
    rw [UInt8.le_iff_toNat_le, toNat_sixBits]
    simp only [UInt8.reduceToNat]
    omega
  have upper : sixBits n ≤ 0xBF := by
    rw [UInt8.le_iff_toNat_le, toNat_sixBits]
    simp only [UInt8.reduceToNat]
    omega
  have bits : (n % 64 + 128) % 64 = n % 64 := by omega
  rw [readFollowers_cons lower upper, toNat_sixBits, bits]

theorem decodeLossy_of_followers {lead count : Nat} {low high : UInt8} (least : 128 ≤ lead) (most : lead < 256)
    (known : followers? (UInt8.ofNat lead) = some (count, low, high)) {size : Nat}
    (own : Nat.pow 2 (6 - count) = size) {s rest : List UInt8} {code : Nat}
    (read : readFollowers count low high (lead % size) s = (some code, rest)) :
    decodeLossy (UInt8.ofNat lead :: s) = Char.ofNat code :: decodeLossy rest := by
  have value := toNat_ofNat_of_lt most
  have large : ¬UInt8.ofNat lead < 0x80 := by
    rw [UInt8.lt_iff_toNat_lt, value]
    simpa using least
  rw [decodeLossy, if_neg large]
  simp only [known, value, own, read, Option.map_some, Option.getD_some]

variable {n : Nat} (s : List UInt8)

theorem decodeLossy_one (most : n ≤ 0x7F) :
    decodeLossy (UInt8.ofNat n :: s) = Char.ofNat n :: decodeLossy s := by
  have value := toNat_ofNat_of_lt (n := n) (by omega)
  have small : UInt8.ofNat n < 0x80 := by
    rw [UInt8.lt_iff_toNat_lt, value]
    simp only [UInt8.reduceToNat]
    omega
  rw [decodeLossy, if_pos small, value]

theorem decodeLossy_two (least : 0x7F < n) (most : n ≤ 0x7FF) :
    decodeLossy (UInt8.ofNat (n / 64 % 32 + 192) :: sixBits n :: s) = Char.ofNat n :: decodeLossy s := by
  have known := followers?_ofNat (n := n / 64 % 32 + 192) (by omega) (by omega)
  rw [if_pos (by omega)] at known
  have whole : 64 * ((n / 64 % 32 + 192) % 32) + n % 64 = n := by omega
  apply decodeLossy_of_followers (by omega) (by omega) known (rfl : Nat.pow 2 (6 - 1) = 32)
  rw [readFollowers_sixBits, whole, readFollowers]

theorem decodeLossy_three (least : 0x7FF < n) (most : n ≤ 0xFFFF) (valid : n < 0xD800 ∨ 0xDFFF < n) :
    decodeLossy (UInt8.ofNat (n / 4096 % 16 + 224) :: sixBits (n / 64) :: sixBits n :: s) =
      Char.ofNat n :: decodeLossy s := by
  have known := followers?_ofNat (n := n / 4096 % 16 + 224) (by omega) (by omega)
  rw [if_neg (by omega), if_pos (by omega)] at known
  have lower : (if n / 4096 % 16 + 224 = 224 then 0xA0 else 0x80) ≤ sixBits (n / 64) := by
    rw [UInt8.le_iff_toNat_le, toNat_sixBits]
    split <;> simp only [UInt8.reduceToNat] <;> omega
  have upper : sixBits (n / 64) ≤ if n / 4096 % 16 + 224 = 237 then 0x9F else 0xBF := by
    rw [UInt8.le_iff_toNat_le, toNat_sixBits]
    split <;> simp only [UInt8.reduceToNat] <;> omega
  have whole : 64 * (64 * ((n / 4096 % 16 + 224) % 16) + (n / 64 % 64 + 128) % 64) + n % 64 = n := by omega
  apply decodeLossy_of_followers (by omega) (by omega) known (rfl : Nat.pow 2 (6 - 2) = 16)
  rw [readFollowers_cons lower upper, toNat_sixBits, readFollowers_sixBits, whole, readFollowers]

theorem decodeLossy_four (least : 0xFFFF < n) (most : n < 0x110000) :
    decodeLossy (UInt8.ofNat (n / 262144 % 8 + 240) :: sixBits (n / 4096) :: sixBits (n / 64) :: sixBits n :: s) =
      Char.ofNat n :: decodeLossy s := by
  have known := followers?_ofNat (n := n / 262144 % 8 + 240) (by omega) (by omega)
  rw [if_neg (by omega), if_neg (by omega)] at known
  have lower : (if n / 262144 % 8 + 240 = 240 then 0x90 else 0x80) ≤ sixBits (n / 4096) := by
    rw [UInt8.le_iff_toNat_le, toNat_sixBits]
    split <;> simp only [UInt8.reduceToNat] <;> omega
  have upper : sixBits (n / 4096) ≤ if n / 262144 % 8 + 240 = 244 then 0x8F else 0xBF := by
    rw [UInt8.le_iff_toNat_le, toNat_sixBits]
    split <;> simp only [UInt8.reduceToNat] <;> omega
  have whole : 64 * (64 * (64 * ((n / 262144 % 8 + 240) % 8) + (n / 4096 % 64 + 128) % 64) +
      n / 64 % 64) + n % 64 = n := by
    omega
  apply decodeLossy_of_followers (by omega) (by omega) known (rfl : Nat.pow 2 (6 - 3) = 8)
  rw [readFollowers_cons lower upper, toNat_sixBits, readFollowers_sixBits, readFollowers_sixBits, whole,
    readFollowers]

theorem decodeLossy_encode (c : Char) : decodeLossy (String.utf8EncodeChar c ++ s) = c :: decodeLossy s := by
  have valid : c.val.toNat < 0xD800 ∨ 0xDFFF < c.val.toNat ∧ c.val.toNat < 0x110000 := c.valid
  have whole : Char.ofNat c.val.toNat = c := Char.ofNat_toNat c
  unfold String.utf8EncodeChar
  generalize c.val.toNat = n at valid whole ⊢
  subst whole
  dsimp only
  split
  · exact decodeLossy_one s ‹_›
  · split
    · exact decodeLossy_two s (by omega) ‹_›
    · split
      · exact decodeLossy_three s (by omega) ‹_› (valid.imp_right And.left)
      · exact decodeLossy_four s (by omega) (by omega)

theorem decodeLossy_utf8 (s : List Char) : decodeLossy (utf8 s) = s := by
  induction s with
  | nil => simp [utf8, decodeLossy]
  | cons c s ih => rw [utf8_cons, decodeLossy_encode, ih]

theorem utf8_injective : Function.Injective utf8 := Function.LeftInverse.injective decodeLossy_utf8

end Decoding

theorem toList_loop (bs : ByteArray) (i : Nat) (r : List UInt8) :
    ByteArray.toList.loop bs i r = r.reverse ++ bs.data.toList.drop i := by
  induction more : bs.size - i generalizing i r with
  | zero =>
    have past : ¬i < bs.size := by omega
    have length : bs.data.toList.length ≤ i := by simpa using past
    unfold ByteArray.toList.loop
    rw [if_neg past, List.drop_eq_nil_of_le length, List.append_nil]
  | succ more ih =>
    have bound : i < bs.size := by omega
    have inside : i < bs.data.toList.length := by simpa using bound
    have get : bs.get! i = bs.data.toList[i] := by
      simpa [ByteArray.get!] using getElem!_pos bs.data i bound
    unfold ByteArray.toList.loop
    rw [if_pos bound, ih (i + 1) _ (by omega), List.reverse_cons, List.append_assoc, List.singleton_append,
      get, List.drop_eq_getElem_cons inside]

theorem toList_toUTF8 (s : String) : s.toUTF8.toList = utf8 s.toList := by
  have bytes : s.toUTF8 = (utf8 s.toList).toByteArray := (String.utf8Encode_toList (b := s)).symm
  unfold ByteArray.toList
  rw [toList_loop, bytes, List.toList_data_toByteArray]
  rfl

end DeclBundle.Text
