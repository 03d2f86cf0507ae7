import BbrChrome.Library.CharBuffer
import BbrChrome.Packet.RoundTrip

/-!
# Decimal fields in their buffers

Both encoders fill a buffer with zeros, copy a numeral to its end and read the buffer back as a
C string. `size_t_to_string` reserves a byte for the terminator. `number_to_fix_len_string`
reserves none: it writes one byte behind its block whatever it is given.
-/

namespace BbrChrome

open ByteString CharBuffer

/-! ## Loops -/

/-- The conversion of an unsigned number to `int`. -/
def toInt32 (n : Nat) : Int :=
  let low : Nat := n % 2 ^ 32
  if low < 2 ^ 31 then low else low - 2 ^ 32

/-- `for (int i = 0; i < bound; i++) c[i] = '0'` from its round `i` on; `fuel` bounds the
rounds. -/
def fillZeros (bound : Nat) : Nat → Nat → Buffer → Except BufferFault Buffer
  | 0, _, c => .ok c
  | fuel + 1, i, c =>
      if i < bound then
        match write c i 48 with
        | .ok c => if i + 1 < 2 ^ 31 then fillZeros bound fuel (i + 1) c else .error .intOverflow
        | .error fault => .error fault
      else .ok c

/-- `for (…; j > -1; i--, j--) c[i] = s[j]`, where the first argument is `j + 1`. -/
def copyDigits (s : List UInt8) : Nat → Int → Buffer → Except BufferFault Buffer
  | 0, _, c => .ok c
  | j + 1, i, c =>
      match s[j]? with
      | some digit =>
          match write c i digit with
          | .ok c => copyDigits s j (i - 1) c
          | .error fault => .error fault
      | none => .error (.outOfBounds j)

/-- A numeral that is too long is not copied. -/
def copyNumeral (width : Nat) (s : List UInt8) (c : Buffer) : Except BufferFault Buffer :=
  if s.length ≤ width then copyDigits s s.length (toInt32 (subUint64 width 1)) c else .ok c

/-- Fill, copy, terminate and read. -/
def encodeInto (c : Buffer) (bound width : Nat) (s : List UInt8) :
    Except BufferFault (List UInt8) := do
  let c ← fillZeros bound bound 0 c
  let c ← copyNumeral width s c
  let c ← write c width 0
  readString c

/-- `size_t_to_string` in its buffer. -/
def sizeTToStringInBuffer (number : Nat) : Except BufferFault (List UInt8) :=
  encodeInto (reserve (sizeTLen + 1)) (sizeTLen + 1) sizeTLen (toDecimal (number % 10000000000))

/-- `number_to_fix_len_string` in a block of `reserved` bytes. -/
def numberToFixLenStringIn (reserved number len : Nat) : Except BufferFault (List UInt8) :=
  encodeInto (reserve reserved) (addUint64 len 1) len (toDecimal number)

/-- The block that `number_to_fix_len_string` takes has `len` bytes. -/
def numberToFixLenStringInBuffer (number len : Nat) : Except BufferFault (List UInt8) :=
  numberToFixLenStringIn len number len

variable {bound fuel i n width reserved number len : Nat} {s : List UInt8}
  {c c' rest front mid back : Buffer}

/-! ## Inside the buffer -/

theorem fillZeros_ok (rest : Buffer) (hfuel : i + fuel = bound) (hint : bound < 2 ^ 31)
    (hroom : fuel ≤ rest.length) :
    fillZeros bound fuel i (List.replicate i (some 48) ++ rest) =
      .ok (List.replicate bound (some 48) ++ rest.drop fuel) := by
  induction fuel generalizing i rest with
  | zero => rw [fillZeros, ← hfuel, Nat.add_zero, List.drop_zero]
  | succ fuel ih =>
      cases rest with
      | nil => simp at hroom
      | cons cell rest =>
          have hfront : ((i : Nat) : Int) = (List.replicate i (some (48 : UInt8))).length := by
            rw [List.length_replicate]
          have hnext := ih (i := i + 1) rest (by omega) (by simpa using hroom)
          rw [List.replicate_succ', List.append_assoc, List.singleton_append] at hnext
          rw [fillZeros, if_pos (by omega), write_append cell rest 48 hfront]
          simp only [if_pos (show i + 1 < 2 ^ 31 by omega)]
          exact hnext

theorem copyDigits_ok (front mid back : Buffer) (hmid : mid.length = n) (hn : n ≤ s.length) :
    copyDigits s n ((front.length + n : Nat) - 1) (front ++ mid ++ back) =
      .ok (front ++ (s.take n).map some ++ back) := by
  induction n generalizing mid back with
  | zero =>
      rw [copyDigits, List.length_eq_zero_iff.mp hmid, List.take_zero]
      rfl
  | succ n ih =>
      obtain ⟨mid', cell, rfl⟩ : ∃ mid' cell, mid = mid' ++ [cell] := by
        refine ⟨mid.dropLast, mid.getLast (by rintro rfl; cases hmid), ?_⟩
        rw [List.dropLast_append_getLast]
      have hmid' : mid'.length = n := by simpa using hmid
      have hindex : (((front.length + (n + 1) : Nat) : Int) - 1) = (front ++ mid').length := by
        rw [List.length_append, hmid']
        omega
      have hlt : n < s.length := by omega
      have hwrite := write_append cell back s[n] hindex
      have hrest := ih mid' (some s[n] :: back) hmid' (by omega)
      rw [copyDigits, List.getElem?_eq_getElem hlt,
        show front ++ (mid' ++ [cell]) ++ back = front ++ mid' ++ cell :: back by simp]
      simp only [hwrite]
      rw [show ((front.length + (n + 1) : Nat) : Int) - 1 - 1 = (front.length + n : Nat) - 1 by
        omega, hrest, List.take_succ_eq_append_getElem hlt, List.map_append]
      simp only [List.map_cons, List.map_nil, List.append_assoc, List.singleton_append]

theorem toInt32_pred (h : width < 2 ^ 31) : toInt32 (subUint64 width 1) = (width : Int) - 1 := by
  unfold toInt32 subUint64
  simp only
  split <;> split <;> omega

theorem copyNumeral_ok (s : List UInt8) (back : Buffer) (hint : width < 2 ^ 31) :
    copyNumeral width s (List.replicate width (some 48) ++ back) =
      .ok ((alignRight width s).map some ++ back) := by
  unfold copyNumeral alignRight
  split
  · next hfits =>
      have hcells : List.replicate width (some (48 : UInt8)) =
          List.replicate (width - s.length) (some 48) ++ List.replicate s.length (some 48) := by
        rw [List.replicate_append_replicate, Nat.sub_add_cancel hfits]
      have hdigits := copyDigits_ok (List.replicate (width - s.length) (some 48))
        (List.replicate s.length (some 48)) back List.length_replicate (Nat.le_refl s.length)
      rw [List.length_replicate, Nat.sub_add_cancel hfits, List.take_length] at hdigits
      rw [toInt32_pred hint, hcells, hdigits, List.map_append, List.map_replicate]
  · rw [List.map_replicate]

theorem zero_notMem_alignRight (h : 0 ∉ s) : 0 ∉ alignRight width s := by
  intro hmem
  unfold alignRight at hmem
  split at hmem
  · rcases List.mem_append.mp hmem with hpad | hs
    · cases List.eq_of_mem_replicate hpad
    · exact h hs
  · cases List.eq_of_mem_replicate hmem

/-- With room for the terminator the string is the numeral, aligned to the right. -/
theorem encodeInto_ok (hroom : width < reserved) (hint : width + 1 < 2 ^ 31) (hzero : 0 ∉ s) :
    encodeInto (reserve reserved) (width + 1) width s = .ok (alignRight width s) := by
  have hfill := fillZeros_ok (i := 0) (reserve reserved) (Nat.zero_add (width + 1)) hint
    (by rw [length_reserve]; omega)
  rw [List.replicate_zero, List.nil_append, List.replicate_succ', List.append_assoc,
    List.singleton_append] at hfill
  generalize (reserve reserved).drop (width + 1) = rest at hfill
  have hcopy := copyNumeral_ok s (some 48 :: rest) (show width < 2 ^ 31 by omega)
  have hwrite := write_append (some 48) rest 0
    (show (width : Int) = ((alignRight width s).map some).length by
      rw [List.length_map, length_alignRight])
  simp only [encodeInto, hfill, hcopy, hwrite, bind, Except.bind]
  exact readString_terminated (zero_notMem_alignRight hzero)

/-! ## Behind the buffer -/

theorem fillZeros_length (h : fillZeros bound fuel i c = .ok c') : c'.length = c.length := by
  induction fuel generalizing i c with
  | zero =>
      cases h
      rfl
  | succ fuel ih =>
      rw [fillZeros] at h
      split at h
      · split at h
        · next c₁ hwrite =>
            split at h
            · rw [ih h, (write_ok hwrite).1]
            · cases h
        · cases h
      · cases h
        rfl

/-- The counter of a loop that ends is an `int` to the end. -/
theorem fillZeros_bound (h : fillZeros bound fuel i c = .ok c') (hfuel : i + fuel = bound)
    (hpos : 0 < fuel) : bound < 2 ^ 31 := by
  induction fuel generalizing i c with
  | zero => omega
  | succ fuel ih =>
      rw [fillZeros, if_pos (by omega)] at h
      split at h
      · split at h
        · by_cases hlast : fuel = 0
          · omega
          · exact ih h (by omega) (by omega)
        · cases h
      · cases h

theorem copyDigits_length {i : Int} (h : copyDigits s n i c = .ok c') :
    c'.length = c.length := by
  induction n generalizing i c with
  | zero =>
      cases h
      rfl
  | succ n ih =>
      rw [copyDigits] at h
      split at h
      · split at h
        · next c₁ hwrite => rw [ih h, (write_ok hwrite).1]
        · cases h
      · cases h

theorem copyNumeral_length (h : copyNumeral width s c = .ok c') : c'.length = c.length := by
  unfold copyNumeral at h
  split at h
  · exact copyDigits_length h
  · cases h
    rfl

/-- A string comes out only when the loops end and the terminator has a place. -/
theorem encodeInto_inv {r : List UInt8} (h : encodeInto c bound width s = .ok r) :
    width < c.length ∧ (∃ c₁, fillZeros bound bound 0 c = .ok c₁) ∧
      ∃ c₁ c₂, copyNumeral width s c₁ = .ok c₂ := by
  obtain ⟨c₁, hfill, h⟩ := bind_ok h
  obtain ⟨c₂, hcopy, h⟩ := bind_ok h
  obtain ⟨c₃, hwrite, _⟩ := bind_ok h
  have hlen₁ := fillZeros_length hfill
  have hlen₂ := copyNumeral_length hcopy
  obtain ⟨_, _, hlt⟩ := write_ok hwrite
  exact ⟨by omega, ⟨c₁, hfill⟩, c₁, c₂, hcopy⟩

/-- The greatest width: the loop of the copy starts before the buffer. -/
theorem copyNumeral_max (hpos : 0 < s.length) (hlen : s.length ≤ maxUint64) :
    copyNumeral maxUint64 s c = .error (.outOfBounds (-2)) := by
  obtain ⟨n, hn⟩ : ∃ n, s.length = n + 1 := ⟨s.length - 1, by omega⟩
  have hindex : toInt32 (subUint64 maxUint64 1) = -2 := by decide
  unfold copyNumeral
  rw [if_pos hlen, hindex, hn, copyDigits, List.getElem?_eq_getElem (by omega)]
  simp only [write_outside (show ¬ ((0 : Int) ≤ -2 ∧ (-2 : Int) < c.length) by omega)]

theorem toDecimal_pos (n : Nat) : 0 < (toDecimal n).length := by
  rw [toDecimal, List.length_map]
  exact Nat.length_toDigits_pos

theorem length_toDecimal_of_size {n : Nat} (h : n < 2 ^ 64) : (toDecimal n).length ≤ 20 :=
  length_toDecimal_le (by decide) (lt_trans h (by decide))

theorem zero_notMem_toDecimal (n : Nat) : 0 ∉ toDecimal n :=
  fun hmem => ne_zero_of_isDigit (isDigit_of_mem_toDecimal hmem) rfl

/-! ## The encoders -/

theorem sizeTToStringInBuffer_eq (number : Nat) :
    sizeTToStringInBuffer number = .ok (sizeTToString number) :=
  encodeInto_ok (Nat.lt_succ_self sizeTLen) (by decide) (zero_notMem_toDecimal _)

theorem numberToFixLenStringIn_eq (hroom : len < reserved) (hint : len + 1 < 2 ^ 31) :
    numberToFixLenStringIn reserved number len = .ok (numberToFixLenString number len) := by
  unfold numberToFixLenStringIn
  rw [addUint64_of_lt (by omega)]
  exact encodeInto_ok hroom hint (zero_notMem_toDecimal number)

theorem numberToFixLenStringIn_inv {r : List UInt8} (hlen : len < 2 ^ 64)
    (hnumber : number < 2 ^ 64) (h : numberToFixLenStringIn reserved number len = .ok r) :
    len < reserved ∧ len + 1 < 2 ^ 31 := by
  obtain ⟨hroom, ⟨c₁, hfill⟩, c₂, c₃, hcopy⟩ := encodeInto_inv h
  rw [length_reserve] at hroom
  have hne : len ≠ maxUint64 := by
    rintro rfl
    have hsize := length_toDecimal_of_size hnumber
    rw [copyNumeral_max (toDecimal_pos number) (by unfold maxUint64; omega)] at hcopy
    cases hcopy
  unfold maxUint64 at hne
  rw [addUint64_of_lt (by omega)] at hfill
  exact ⟨hroom, fillZeros_bound hfill (Nat.zero_add _) (Nat.succ_pos len)⟩

/-- No access outside of the buffer, and a string of `width` digits that denotes the number where
it has that few. -/
def Encodes (width number : Nat) (r : Except BufferFault (List UInt8)) : Prop :=
  ∃ s, r = .ok s ∧ s.length = width ∧ (∀ d ∈ s, isDigit d = true) ∧
    (number < 10 ^ width → digitsValue s = number)

theorem encodes_sizeTToString (number : Nat) :
    Encodes sizeTLen (number % 10 ^ 10) (sizeTToStringInBuffer number) := by
  refine ⟨sizeTToString number, sizeTToStringInBuffer_eq number, length_sizeTToString number,
    ?_, ?_⟩
  · intro d hmem
    exact isDigit_of_mem_sizeTToString hmem
  · intro _
    exact digitsValue_sizeTToString number

theorem digitsValue_numberToFixLenString (h : number < 10 ^ len) :
    digitsValue (numberToFixLenString number len) = number := by
  cases len with
  | zero =>
      have hnone : numberToFixLenString number 0 = [] :=
        List.length_eq_zero_iff.mp length_alignRight
      have hzero : number = 0 := by simpa using h
      rw [hnone, hzero]
      rfl
  | succ len =>
      have hfits := length_toDecimal_le (Nat.succ_pos len) h
      rw [numberToFixLenString, digitsValue_alignRight hfits, digitsValue_toDecimal]

/-- The block decides: with one byte more than digits the encoder would be right. -/
theorem encodes_numberToFixLenStringIn_iff (hlen : len < 2 ^ 64) (hnumber : number < 2 ^ 64)
    (reserved : Nat) :
    Encodes len number (numberToFixLenStringIn reserved number len) ↔
      len < reserved ∧ len + 1 < 2 ^ 31 := by
  constructor
  · rintro ⟨s, hok, _⟩
    exact numberToFixLenStringIn_inv hlen hnumber hok
  · rintro ⟨hroom, hint⟩
    refine ⟨numberToFixLenString number len, numberToFixLenStringIn_eq hroom hint,
      length_alignRight, ?_, digitsValue_numberToFixLenString⟩
    intro d hmem
    exact isDigit_of_mem_numberToFixLenString hmem

/-- The fill loop leaves a buffer that is too short. -/
theorem fillZeros_overrun (rest : Buffer) (hfuel : i + fuel = bound)
    (hint : i + rest.length < 2 ^ 31) (hshort : rest.length < fuel) :
    fillZeros bound fuel i (List.replicate i (some 48) ++ rest) =
      .error (.outOfBounds (i + rest.length : Nat)) := by
  induction fuel generalizing i rest with
  | zero => omega
  | succ fuel ih =>
      rw [fillZeros, if_pos (by omega)]
      cases rest with
      | nil =>
          have houtside : ¬ ((0 : Int) ≤ i ∧
              (i : Int) < (List.replicate i (some (48 : UInt8)) ++ []).length) := by
            rw [List.append_nil, List.length_replicate]
            omega
          rw [write_outside houtside]
          rfl
      | cons cell rest =>
          have hfront : ((i : Nat) : Int) = (List.replicate i (some (48 : UInt8))).length := by
            rw [List.length_replicate]
          rw [List.length_cons] at hint hshort
          have hnext := ih (i := i + 1) rest (by omega) (by omega) (by omega)
          rw [List.replicate_succ', List.append_assoc, List.singleton_append] at hnext
          rw [write_append cell rest 48 hfront]
          simp only [if_pos (show i + 1 < 2 ^ 31 by omega)]
          rw [hnext, List.length_cons, show i + 1 + rest.length = i + (rest.length + 1) by omega]

/-- The first write behind the block is the last one of the fill loop. -/
theorem numberToFixLenStringInBuffer_overrun (number : Nat) (h : len < 2 ^ 31) :
    numberToFixLenStringInBuffer number len = .error (.outOfBounds len) := by
  have hfill := fillZeros_overrun (i := 0) (reserve len) (Nat.zero_add (len + 1))
    (by rw [length_reserve]; omega) (by rw [length_reserve]; omega)
  rw [List.replicate_zero, List.nil_append, length_reserve, Nat.zero_add] at hfill
  unfold numberToFixLenStringInBuffer numberToFixLenStringIn encodeInto
  rw [addUint64_of_lt (by omega), hfill]
  rfl

/-- `Serialize` with the buffers of its fields. -/
def WirePacket.serializeInBuffers (p : WirePacket) : Except BufferFault (List UInt8) := do
  let number ← sizeTToStringInBuffer p.packetNumber.toNat
  let time ← sizeTToStringInBuffer (toUint64 p.sendTime)
  let length ← sizeTToStringInBuffer p.encryptedLength.toNat
  let padding ← numberToFixLenStringInBuffer 0 senderPaddingLen
  return 48 :: (number ++ time ++ length) ++ padding

/-- Every packet is written with one byte behind the block of its padding. -/
theorem WirePacket.serializeInBuffers_overruns (p : WirePacket) :
    p.serializeInBuffers = .error (.outOfBounds senderPaddingLen) := by
  have hpadding := numberToFixLenStringInBuffer_overrun 0 (show senderPaddingLen < 2 ^ 31 by decide)
  unfold serializeInBuffers
  rw [sizeTToStringInBuffer_eq, sizeTToStringInBuffer_eq, sizeTToStringInBuffer_eq, hpadding]
  rfl

/-- `size_t_to_string` stays in its buffer and keeps the last ten digits of every number.
`number_to_fix_len_string` writes behind its block for every number and width, and would not with
one byte more as long as its counter is an `int`. -/
theorem fixedWidthEncoders_law (number len : UInt64) :
    Encodes sizeTLen (number.toNat % 10 ^ 10) (sizeTToStringInBuffer number.toNat) ∧
    ¬ Encodes len.toNat number.toNat (numberToFixLenStringInBuffer number.toNat len.toNat) ∧
    ∀ reserved, Encodes len.toNat number.toNat
        (numberToFixLenStringIn reserved number.toNat len.toNat) ↔
      len.toNat < reserved ∧ len.toNat + 1 < 2 ^ 31 := by
  have hiff := encodes_numberToFixLenStringIn_iff len.toNat_lt number.toNat_lt
  refine ⟨encodes_sizeTToString number.toNat, fun hencodes => ?_, hiff⟩
  have hroom := ((hiff len.toNat).mp hencodes).1
  omega

/-- The padding of every packet. -/
theorem padding_overruns :
    numberToFixLenStringInBuffer 0 senderPaddingLen = .error (.outOfBounds 1440) ∧
      ¬ Encodes senderPaddingLen 0 (numberToFixLenStringInBuffer 0 senderPaddingLen) := by
  have hfault : numberToFixLenStringInBuffer 0 senderPaddingLen = .error (.outOfBounds 1440) :=
    numberToFixLenStringInBuffer_overrun 0 (by decide)
  refine ⟨hfault, ?_⟩
  rintro ⟨s, hok, _⟩
  rw [hfault] at hok
  cases hok

end BbrChrome
