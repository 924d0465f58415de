import DotPath.Text.Encoding
import Mathlib

set_option autoImplicit false

/-!
Texts in octets. What any of the encodings writes of a text is read back in the same encoding, and a
document is in the encoding that its first octets tell if it begins with two characters of ASCII,
neither of them NUL.
-/

namespace DotPath.Text

theorem isSurrogate_toNat (c : Char) : isSurrogate c.toNat = false := by
  have hv : c.toNat < 0xd800 ∨ 0xdfff < c.toNat ∧ c.toNat < 0x110000 := c.valid
  simp [isSurrogate]
  omega

theorem toNat_lt (c : Char) : c.toNat < 0x110000 := by
  have hv : c.toNat < 0xd800 ∨ 0xdfff < c.toNat ∧ c.toNat < 0x110000 := c.valid
  omega

theorem ofNat_toNat (c : Char) : CodePoint.ofNat c.toNat = .char c := by
  rw [CodePoint.ofNat, isSurrogate_toNat, Char.ofNat_toNat]
  rfl

theorem toNat_octet (n : Nat) (h : n < 256) : (UInt8.ofNat n).toNat = n := Nat.mod_eq_of_lt h

namespace Utf8

section Tails

variable (surrogates : Bool) (p : Partial) (i d : Nat) (bs : List UInt8) (hd : d < 64)
  (hlow : p.low ≤ 0x80 + d) (hhigh : 0x80 + d ≤ p.high)

include hd hlow hhigh

/-- An octet that ends the character under way. -/
theorem decodeFrom_last (h : p.missing = 1) :
    decodeFrom surrogates (some p) i (.ofNat (0x80 + d) :: bs) =
      (.ofNat (p.code * 64 + d) :: ·) <$> decodeFrom surrogates none (i + 1) bs := by
  rw [decodeFrom, toNat_octet _ (by omega)]
  simp [hlow, hhigh, h]

/-- An octet that goes on with the character under way. -/
theorem decodeFrom_more (h : p.missing ≠ 1) :
    decodeFrom surrogates (some p) i (.ofNat (0x80 + d) :: bs) =
      decodeFrom surrogates
        (some { p with
          taken := p.taken + 1, missing := p.missing - 1, low := 0x80, high := 0xbf,
          code := p.code * 64 + d })
        (i + 1) bs := by
  rw [decodeFrom, toNat_octet _ (by omega)]
  simp [hlow, hhigh, h]

end Tails

/-- The octets that a code point owes after its first one. -/
def tails (n : Nat) : Nat → List UInt8
  | 0 => []
  | k + 1 => .ofNat (0x80 + n / 64 ^ k % 64) :: tails n k

/-- The octets owed bring a character under way to its end. Only the first of them is held to the
bounds of that character. -/
theorem decodeFrom_tails (surrogates : Bool) (p : Partial) (n k i : Nat) (bs : List UInt8)
    (hmissing : p.missing = k + 1) (hcode : p.code = n / 64 ^ (k + 1))
    (hlow : p.low ≤ 0x80 + n / 64 ^ k % 64) (hhigh : 0x80 + n / 64 ^ k % 64 ≤ p.high) :
    ∃ j, decodeFrom surrogates (some p) i (tails n (k + 1) ++ bs) =
      (.ofNat n :: ·) <$> decodeFrom surrogates none j bs := by
  have hd : n / 64 ^ k % 64 < 64 := Nat.mod_lt _ (by decide)
  have hnext : p.code * 64 + n / 64 ^ k % 64 = n / 64 ^ k := by
    rw [hcode, Nat.pow_succ, ← Nat.div_div_eq_div_mul, Nat.div_add_mod']
  induction k generalizing p i with
  | zero =>
    refine ⟨i + 1, ?_⟩
    rw [tails, List.cons_append, decodeFrom_last _ p i _ _ hd hlow hhigh hmissing, hnext,
      Nat.pow_zero, Nat.div_one]
    rfl
  | succ k ih =>
    have hd' : n / 64 ^ k % 64 < 64 := Nat.mod_lt _ (by decide)
    rw [tails, List.cons_append, decodeFrom_more _ p i _ _ hd hlow hhigh (by omega), hnext]
    exact ih _ (i + 1) (by dsimp only; omega) rfl (by dsimp only; omega) (by dsimp only; omega) hd'
      (by dsimp only; rw [Nat.pow_succ, ← Nat.div_div_eq_div_mul, Nat.div_add_mod'])

section Begins

variable (surrogates : Bool) (n i : Nat)

/-- An octet begins a character and leaves `k + 1` octets of it to come. -/
def Begins (k : Nat) (b : UInt8) : Prop :=
  0x80 ≤ b.toNat ∧ ∃ low high,
    begin? surrogates b i = some ⟨b, i, 1, k + 1, low, high, n / 64 ^ (k + 1)⟩ ∧
      low ≤ 0x80 + n / 64 ^ k % 64 ∧ 0x80 + n / 64 ^ k % 64 ≤ high

theorem begins_two (h : 0x80 ≤ n) (hn : n < 0x800) :
    Begins surrogates n i 0 (.ofNat (0xc0 + n / 64)) := by
  have hoctet := toNat_octet (0xc0 + n / 64) (by omega)
  refine ⟨by omega, 0x80, 0xbf, ?_, by omega, by omega⟩
  rw [begin?, hoctet, if_neg (by omega), if_pos (by omega), Nat.add_sub_cancel_left]
  rfl

theorem begins_three (h : 0x800 ≤ n) (hn : n < 0x10000) (hs : isSurrogate n = false) :
    Begins surrogates n i 1 (.ofNat (0xe0 + n / 0x1000)) := by
  have hoctet := toNat_octet (0xe0 + n / 0x1000) (by omega)
  have hs' : n < 0xd800 ∨ 0xe000 ≤ n := by
    simp [isSurrogate] at hs
    omega
  refine ⟨by omega, ?_⟩
  rw [begin?, hoctet, if_neg (by omega), if_neg (by omega)]
  simp only [Nat.add_sub_cancel_left]
  split
  next h0 => exact ⟨0xa0, 0xbf, by rw [show n / 64 ^ (1 + 1) = 0 by omega], by omega, by omega⟩
  next h0 =>
  split
  next hd =>
    refine ⟨0x80, _, by rw [show n / 64 ^ (1 + 1) = 0xd by omega], by omega, ?_⟩
    split <;> omega
  next hd => exact ⟨0x80, 0xbf, if_pos (by omega), by omega, by omega⟩

theorem begins_four (h : 0x10000 ≤ n) (hn : n < 0x110000) :
    Begins surrogates n i 2 (.ofNat (0xf0 + n / 0x40000)) := by
  have hoctet := toNat_octet (0xf0 + n / 0x40000) (by omega)
  refine ⟨by omega, ?_⟩
  rw [begin?, hoctet, if_neg (by omega), if_neg (by omega), if_neg (by omega), if_neg (by omega),
    if_neg (by omega)]
  simp only [Nat.add_sub_cancel_left]
  split
  next h0 => exact ⟨0x90, 0xbf, by rw [show n / 64 ^ (2 + 1) = 0 by omega], by omega, by omega⟩
  next h0 =>
  split
  next h4 => exact ⟨0x80, 0xbf, rfl, by omega, by omega⟩
  next h4 =>
    refine ⟨0x80, 0x8f, ?_, by omega, by omega⟩
    rw [if_pos (by omega), show n / 64 ^ (2 + 1) = 4 by omega]

theorem decodeFrom_begins (k : Nat) (b : UInt8) (bs : List UInt8) (h : Begins surrogates n i k b) :
    ∃ j, decodeFrom surrogates none i (b :: tails n (k + 1) ++ bs) =
      (.ofNat n :: ·) <$> decodeFrom surrogates none j bs := by
  obtain ⟨hb, low, high, hbegin, hlow, hhigh⟩ := h
  rw [List.cons_append, decodeFrom, if_neg (by omega), hbegin]
  exact decodeFrom_tails surrogates _ n k (i + 1) bs rfl rfl hlow hhigh

/-- The octets of a character are read as that character. -/
theorem decodeFrom_encodeCode (bs : List UInt8) (hn : n < 0x110000) (hs : isSurrogate n = false) :
    ∃ j, decodeFrom surrogates none i (encodeCode n ++ bs) =
      (.ofNat n :: ·) <$> decodeFrom surrogates none j bs := by
  unfold encodeCode
  split
  next h =>
    refine ⟨i + 1, ?_⟩
    rw [List.singleton_append, decodeFrom, toNat_octet n (by omega), if_pos h]
  next h1 =>
  split
  next h => exact decodeFrom_begins surrogates n i 0 _ bs (begins_two surrogates n i (by omega) h)
  next h2 =>
  split
  next h =>
    exact decodeFrom_begins surrogates n i 1 _ bs (begins_three surrogates n i (by omega) h hs)
  next h3 =>
    exact decodeFrom_begins surrogates n i 2 _ bs (begins_four surrogates n i (by omega) hn)

end Begins

/-- A text in UTF-8 is read back. -/
theorem decodeFrom_encode (surrogates : Bool) (i : Nat) (cs : List Char) :
    decodeFrom surrogates none i (encode cs) = .ok (codePoints cs) := by
  induction cs generalizing i with
  | nil => rfl
  | cons c cs ih =>
    obtain ⟨j, hj⟩ := decodeFrom_encodeCode surrogates c.toNat i (encode cs) (toNat_lt c)
      (isSurrogate_toNat c)
    change decodeFrom surrogates none i (encodeCode c.toNat ++ encode cs) = _
    rw [hj, ih, ofNat_toNat]
    rfl

end Utf8

namespace Utf16

variable (order : ByteOrder)

theorem readUnits_unitOctets (i n : Nat) (bs : List UInt8) (h : n < 0x10000) :
    readUnits order i (unitOctets order n ++ bs) = (n :: ·) <$> readUnits order (i + 2) bs := by
  have hlow := toNat_octet (n % 256) (by omega)
  have hhigh := toNat_octet (n / 256) (by omega)
  cases order with
  | little =>
    rw [unitOctets, List.cons_append, List.singleton_append, readUnits, unitValue, hlow, hhigh,
      Nat.mod_add_div]
  | big =>
    rw [unitOctets, List.cons_append, List.singleton_append, readUnits, unitValue, hlow, hhigh,
      Nat.div_add_mod]

theorem readUnits_units (i : Nat) (ns : List Nat) (h : ∀ n ∈ ns, n < 0x10000) :
    readUnits order i (ns.flatMap (unitOctets order)) = .ok ns := by
  induction ns generalizing i with
  | nil => rfl
  | cons n ns ih =>
    obtain ⟨hn, hns⟩ := List.forall_mem_cons.1 h
    rw [List.flatMap_cons, readUnits_unitOctets order i n _ hn, ih (i + 2) hns]
    rfl

theorem units_lt (c : Char) : ∀ n ∈ units c.toNat, n < 0x10000 := by
  have hc := toNat_lt c
  unfold units
  split
  next h => simpa using h
  next h =>
    simp only [splitSurrogates, List.forall_mem_cons, List.not_mem_nil, false_imp_iff, implies_true,
      and_true]
    omega

/-- The units of a character are joined to that character. -/
theorem joinUnits_units (c : Char) (ns : List Nat) :
    joinUnits (units c.toNat ++ ns) = .char c :: joinUnits ns := by
  unfold units
  split
  next h =>
    have hs := isSurrogate_toNat c
    have hhigh : isHighSurrogate c.toNat = false := by
      simp [isSurrogate, isHighSurrogate] at hs ⊢
      omega
    cases ns with
    | nil => simp [joinUnits, ofNat_toNat]
    | cons n ns => simp [joinUnits, hhigh, ofNat_toNat]
  next h =>
    rw [List.cons_append, List.singleton_append, joinUnits,
      isHighSurrogate_split c.toNat (toNat_lt c), isLowSurrogate_split c.toNat,
      joinSurrogates_splitSurrogates c.toNat (by omega), ofNat_toNat]
    rfl

theorem joinUnits_flatMap (cs : List Char) :
    joinUnits (cs.flatMap fun c => units c.toNat) = codePoints cs := by
  induction cs with
  | nil => rfl
  | cons c cs ih => rw [List.flatMap_cons, joinUnits_units, ih, codePoints_cons]

/-- A text in UTF-16 is read back. -/
theorem decode_encode (i : Nat) (cs : List Char) :
    decode order i (encode order cs) = .ok (codePoints cs) := by
  have hflat :
      encode order cs = (cs.flatMap fun c => units c.toNat).flatMap (unitOctets order) := by
    rw [List.flatMap_assoc]
    rfl
  have hlt : ∀ n ∈ cs.flatMap (fun c => units c.toNat), n < 0x10000 := by
    intro n hn
    obtain ⟨c, -, hc⟩ := List.mem_flatMap.1 hn
    exact units_lt c n hc
  rw [decode, hflat, readUnits_units order i _ hlt]
  exact congrArg Except.ok (joinUnits_flatMap cs)

end Utf16

namespace Utf32

theorem decode_codeOctets (order : ByteOrder) (i n : Nat) (bs : List UInt8) (h : n < 0x110000) :
    decode order i (codeOctets order n ++ bs) = (.ofNat n :: ·) <$> decode order (i + 4) bs := by
  have hlow := toNat_octet (n % 256) (by omega)
  have hmiddle := toNat_octet (n / 256 % 256) (by omega)
  have hhigh := toNat_octet (n / 65536) (by omega)
  have hvalue : n % 256 + 256 * (n / 256 % 256 + 256 * (n / 65536 + 256 * 0)) = n := by omega
  cases order with
  | little =>
    rw [codeOctets, List.cons_append, List.cons_append, List.cons_append, List.singleton_append,
      decode]
    simp only [codeValue, hlow, hmiddle, hhigh, UInt8.toNat_zero, hvalue, h, if_true]
  | big =>
    rw [codeOctets, List.cons_append, List.cons_append, List.cons_append, List.singleton_append,
      decode]
    simp only [codeValue, hlow, hmiddle, hhigh, UInt8.toNat_zero, hvalue, h, if_true]

/-- A text in UTF-32 is read back. -/
theorem decode_encode (order : ByteOrder) (i : Nat) (cs : List Char) :
    decode order i (encode order cs) = .ok (codePoints cs) := by
  induction cs generalizing i with
  | nil => cases order <;> rfl
  | cons c cs ih =>
    change decode order i (codeOctets order c.toNat ++ encode order cs) = _
    rw [decode_codeOctets order i c.toNat _ (toNat_lt c), ih, ofNat_toNat]
    rfl

end Utf32

namespace Encoding

section Octets

variable (x y : UInt8) (bs : List UInt8) (hx : x ≠ 0) (hy : y ≠ 0)

include hx

/-- Octets that do not begin as a mark does tell their encoding by their zeros. -/
theorem detect_unmarked (h : x.toNat < 0x80) : detect (x :: bs) = ofZeros (x :: bs) := by
  have hne (m : UInt8) (hm : 0x80 ≤ m.toNat) : (m == x) = false := by
    rw [beq_eq_false_iff_ne]
    rintro rfl
    omega
  simp [detect, utf8Mark, List.isPrefixOf, hx.symm, hne 0xff (by decide), hne 0xfe (by decide),
    hne 0xef (by decide)]

theorem detect_utf16_big : detect (0 :: x :: 0 :: y :: bs) = .utf16 .big false := by
  simp [detect, ofZeros, utf8Mark, List.isPrefixOf, hx]

theorem detect_utf16_little_marked :
    detect (0xff :: 0xfe :: x :: bs) = .utf16 .little true := by
  simp [detect, List.isPrefixOf, hx.symm]

omit hx in
theorem detect_utf32_big : detect (0 :: 0 :: 0 :: x :: bs) = .utf32 .big false := by
  simp [detect, ofZeros, utf8Mark, List.isPrefixOf]

include hy

/-- Without zeros the octets are UTF-8, however few there are. -/
theorem ofZeros_utf8 : ofZeros (x :: y :: bs) = .utf8 false := by
  rcases bs with _ | ⟨c, _ | ⟨d, bs⟩⟩ <;> simp [ofZeros, hx, hy]

theorem ofZeros_utf16_little : ofZeros (x :: 0 :: y :: 0 :: bs) = .utf16 .little false := by
  simp [ofZeros, hx, hy]

omit hy in
theorem ofZeros_utf32_little : ofZeros (x :: 0 :: 0 :: 0 :: bs) = .utf32 .little false := by
  simp [ofZeros, hx]

end Octets

/-- A character of ASCII other than NUL. -/
def IsPlain (c : Char) : Prop := 0 < c.toNat ∧ c.toNat < 0x80

instance : DecidablePred IsPlain := fun c => inferInstanceAs (Decidable (_ ∧ c.toNat < 0x80))

section Plain

variable (a b : Char) (ha : IsPlain a) (hb : IsPlain b) (cs : List Char)

include ha

theorem plain_octet : UInt8.ofNat a.toNat ≠ 0 ∧ (UInt8.ofNat a.toNat).toNat < 0x80 := by
  obtain ⟨hpos, hlt⟩ := ha
  have hoctet := toNat_octet a.toNat (by omega)
  refine ⟨fun h => ?_, by omega⟩
  rw [h] at hoctet
  simp at hoctet
  omega

theorem encodeCode_plain : Utf8.encodeCode a.toNat = [.ofNat a.toNat] := if_pos ha.2

theorem unitOctets_plain (order : ByteOrder) :
    (Utf16.units a.toNat).flatMap (Utf16.unitOctets order) =
      match order with
      | .little => [.ofNat a.toNat, 0]
      | .big => [0, .ofNat a.toNat] := by
  have hlt : a.toNat < 256 := by have := ha.2; omega
  rw [Utf16.units, if_pos (by omega), List.flatMap_singleton]
  cases order <;> simp [Utf16.unitOctets, Nat.mod_eq_of_lt hlt, Nat.div_eq_of_lt hlt]

theorem codeOctets_plain (order : ByteOrder) :
    Utf32.codeOctets order a.toNat =
      match order with
      | .little => [.ofNat a.toNat, 0, 0, 0]
      | .big => [0, 0, 0, .ofNat a.toNat] := by
  have hlt : a.toNat < 256 := by have := ha.2; omega
  have hhigh : a.toNat / 65536 = 0 := Nat.div_eq_of_lt (by omega)
  cases order <;> simp [Utf32.codeOctets, Nat.mod_eq_of_lt hlt, Nat.div_eq_of_lt hlt, hhigh]

include hb

/-- The encoding of a text that begins with two plain characters is found. -/
theorem detect_encode (e : Encoding) : detect (e.encode (a :: b :: cs)) = e := by
  obtain ⟨hx, hlt⟩ := plain_octet a ha
  obtain ⟨hy, -⟩ := plain_octet b hb
  cases e with
  | utf8 marked =>
    cases marked with
    | false =>
      simp only [encode, Utf8.encode, List.flatMap_cons, encodeCode_plain a ha,
        encodeCode_plain b hb, List.singleton_append, Bool.false_eq_true, if_false]
      rw [detect_unmarked _ _ hx hlt, ofZeros_utf8 _ _ _ hx hy]
    | true => rfl
  | utf16 order marked =>
    cases marked with
    | false =>
      simp only [encode, Utf16.encode, List.flatMap_cons, unitOctets_plain a ha,
        unitOctets_plain b hb, Bool.false_eq_true, if_false]
      cases order with
      | little =>
        exact (detect_unmarked _ _ hx hlt).trans (ofZeros_utf16_little _ _ _ hx hy)
      | big => exact detect_utf16_big _ _ _ hx
    | true =>
      cases order with
      | little =>
        simp only [encode, Utf16.encode, List.flatMap_cons, unitOctets_plain a ha, if_true]
        exact detect_utf16_little_marked _ _ hx
      | big => rfl
  | utf32 order marked =>
    cases marked with
    | false =>
      simp only [encode, Utf32.encode, List.flatMap_cons, codeOctets_plain a ha,
        codeOctets_plain b hb, Bool.false_eq_true, if_false]
      cases order with
      | little => exact (detect_unmarked _ _ hx hlt).trans (ofZeros_utf32_little _ _ hx)
      | big => exact detect_utf32_big _ _
    | true => cases order <;> rfl

end Plain

/-- What an encoding writes, its mark included, it reads back. -/
theorem decode_encode (e : Encoding) (cs : List Char) :
    e.decode (e.encode cs) = .ok (codePoints cs) := by
  cases e with
  | utf8 marked =>
    cases marked with
    | false => exact Utf8.decodeFrom_encode true 0 cs
    | true => exact Utf8.decodeFrom_encode true 0 cs
  | utf16 order marked =>
    cases marked with
    | false => exact Utf16.decode_encode order 0 cs
    | true => cases order <;> exact Utf16.decode_encode _ 2 cs
  | utf32 order marked =>
    cases marked with
    | false => exact Utf32.decode_encode order 0 cs
    | true => cases order <;> exact Utf32.decode_encode _ 4 cs

end Encoding

/-- A document that begins with two plain characters is read in whatever encoding it is written. -/
theorem decodeDocument_encode (e : Encoding) (a b : Char) (cs : List Char)
    (ha : Encoding.IsPlain a) (hb : Encoding.IsPlain b) :
    decodeDocument (e.encode (a :: b :: cs)) = .ok (codePoints (a :: b :: cs)) := by
  rw [decodeDocument, Encoding.detect_encode a b ha hb cs e, Encoding.decode_encode]

end DotPath.Text
