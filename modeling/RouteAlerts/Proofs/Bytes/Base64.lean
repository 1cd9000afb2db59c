import RouteAlerts.Bytes.Base64
import RouteAlerts.Proofs.Bytes.Utf8
import RouteAlerts.Proofs.Text.Blank

/-!
The 64-letter alphabet. A byte sequence is read back from its written form (`decode_encode`), and
from nothing else (`decode_eq_some_iff`): padding that is missing, too long or not zero is refused.
A written form has no blanks (`strip_encode`), so blanks that were put into one can be taken out.
-/

namespace RouteAlerts.Base64

open Text Utf8

/-! ### Letters -/

theorem sextet?_letter : ∀ n < 64, sextet? (letter n) = some n := by
  decide

theorem letter_ne_padding : ∀ n < 64, letter n ≠ '=' := by
  decide

theorem isBlank_letter : ∀ n < 64, isBlank (letter n) = false := by
  decide

theorem toNat_lt_of_sextet? {c : Char} {n : Nat} (h : sextet? c = some n) : c.toNat < 128 := by
  have below : ∀ {first last : Char}, (decide (first ≤ c) && decide (c ≤ last)) = true →
      last.toNat < 128 → c.toNat < 128 := by
    intro first last inside bound
    obtain ⟨-, le⟩ : first ≤ c ∧ c ≤ last := by simpa using inside
    exact Nat.lt_of_le_of_lt (show c.toNat ≤ last.toNat from le) bound
  unfold sextet? at h
  split at h
  · exact below ‹_› (by decide)
  · split at h
    · exact below ‹_› (by decide)
    · split at h
      · exact below ‹_› (by decide)
      · split at h
        · obtain rfl : c = '+' := by simpa using ‹(c == '+') = true›
          decide
        · split at h
          · obtain rfl : c = '/' := by simpa using ‹(c == '/') = true›
            decide
          · cases h

/-- What has a number is the letter of that number. -/
theorem letter_of_sextet? {c : Char} {n : Nat} (h : sextet? c = some n) :
    n < 64 ∧ letter n = c := by
  have checked : ∀ k < 128, ∀ n ∈ sextet? (Char.ofNat k), n < 64 ∧ letter n = Char.ofNat k := by
    decide
  have own := checked c.toNat (toNat_lt_of_sextet? h)
  rw [Char.ofNat_toNat] at own
  exact own n h

/-! ### Four letters for three bytes -/

section Group

variable (byte : UInt8)

theorem ofNat_first {low : Nat} (h : low < 16) :
    UInt8.ofNat (byte.toNat / 4 * 4 + (byte.toNat % 4 * 16 + low) / 16) = byte := by
  have sum : byte.toNat / 4 * 4 + (byte.toNat % 4 * 16 + low) / 16 = byte.toNat := by omega
  rw [sum, UInt8.ofNat_toNat]

theorem ofNat_second (high : Nat) {low : Nat} (h : low < 4) :
    UInt8.ofNat ((high * 16 + byte.toNat / 16) % 16 * 16 + (byte.toNat % 16 * 4 + low) / 4) =
      byte := by
  have bound := byte.toNat_lt
  have sum : (high * 16 + byte.toNat / 16) % 16 * 16 + (byte.toNat % 16 * 4 + low) / 4 =
      byte.toNat := by
    omega
  rw [sum, UInt8.ofNat_toNat]

theorem ofNat_third (high : Nat) :
    UInt8.ofNat ((high * 4 + byte.toNat / 64) % 4 * 64 + byte.toNat % 64) = byte := by
  have bound := byte.toNat_lt
  have sum : (high * 4 + byte.toNat / 64) % 4 * 64 + byte.toNat % 64 = byte.toNat := by omega
  rw [sum, UInt8.ofNat_toNat]

end Group

section Letters

variable {p q r t : Nat}

theorem decode_two (hp : p < 64) (hq : q < 64) (unused : q % 16 = 0) :
    decode [letter p, letter q, '=', '='] = some [UInt8.ofNat (p * 4 + q / 16)] := by
  rw [decode, sextet?_letter p hp, sextet?_letter q hq]
  simp only [Option.bind_eq_bind, Option.bind_some, unused]
  rfl

theorem decode_three (hp : p < 64) (hq : q < 64) (hr : r < 64) (unused : r % 4 = 0) :
    decode [letter p, letter q, letter r, '='] =
      some [UInt8.ofNat (p * 4 + q / 16), UInt8.ofNat (q % 16 * 16 + r / 4)] := by
  rw [decode, sextet?_letter p hp, sextet?_letter q hq, sextet?_letter r hr]
  · simp only [Option.bind_eq_bind, Option.bind_some, unused]
    rfl
  · exact letter_ne_padding r hr

theorem decode_four (hp : p < 64) (hq : q < 64) (hr : r < 64) (ht : t < 64) (s : List Char) :
    decode (letter p :: letter q :: letter r :: letter t :: s) =
      (decode s).map fun rest => UInt8.ofNat (p * 4 + q / 16) :: UInt8.ofNat (q % 16 * 16 + r / 4)
        :: UInt8.ofNat (r % 4 * 64 + t) :: rest := by
  rw [decode]
  · simp only [sextet?_letter, hp, hq, hr, ht]
    cases decode s <;> rfl
  · intro _ last _
    exact letter_ne_padding t ht last
  · intro last _
    exact letter_ne_padding t ht last

theorem encode_two (hp : p < 64) (hq : q < 64) (unused : q % 16 = 0) :
    encode [UInt8.ofNat (p * 4 + q / 16)] = [letter p, letter q, '=', '='] := by
  have first : (p * 4 + q / 16) / 4 = p := by omega
  have second : (p * 4 + q / 16) % 4 * 16 = q := by omega
  rw [encode, toNat_ofNat_of_lt (by omega), first, second]

theorem encode_three (hp : p < 64) (hq : q < 64) (hr : r < 64) (unused : r % 4 = 0) :
    encode [UInt8.ofNat (p * 4 + q / 16), UInt8.ofNat (q % 16 * 16 + r / 4)] =
      [letter p, letter q, letter r, '='] := by
  have first : (p * 4 + q / 16) / 4 = p := by omega
  have second : (p * 4 + q / 16) % 4 * 16 + (q % 16 * 16 + r / 4) / 16 = q := by omega
  have third : (q % 16 * 16 + r / 4) % 16 * 4 = r := by omega
  rw [encode, toNat_ofNat_of_lt (by omega), toNat_ofNat_of_lt (by omega), first, second, third]

theorem encode_four (hp : p < 64) (hq : q < 64) (hr : r < 64) (ht : t < 64) (rest : Bytes) :
    encode (UInt8.ofNat (p * 4 + q / 16) :: UInt8.ofNat (q % 16 * 16 + r / 4)
      :: UInt8.ofNat (r % 4 * 64 + t) :: rest) =
      letter p :: letter q :: letter r :: letter t :: encode rest := by
  have first : (p * 4 + q / 16) / 4 = p := by omega
  have second : (p * 4 + q / 16) % 4 * 16 + (q % 16 * 16 + r / 4) / 16 = q := by omega
  have third : (q % 16 * 16 + r / 4) % 16 * 4 + (r % 4 * 64 + t) / 64 = r := by omega
  have fourth : (r % 4 * 64 + t) % 64 = t := by omega
  rw [encode, toNat_ofNat_of_lt (by omega), toNat_ofNat_of_lt (by omega),
    toNat_ofNat_of_lt (by omega), first, second, third, fourth]

end Letters

/-- A byte sequence is read back from its written form. -/
theorem decode_encode (bytes : Bytes) : decode (encode bytes) = some bytes := by
  fun_induction encode bytes with
  | case1 => rfl
  | case2 a =>
    have ha := a.toNat_lt
    have first := @ofNat_first a 0 (by decide)
    rw [decode_two (by omega) (by omega) (by omega)]
    exact congrArg (fun byte => some [byte]) first
  | case3 a b =>
    have ha := a.toNat_lt
    have hb := b.toNat_lt
    have second := @ofNat_second b (a.toNat % 4) 0 (by decide)
    rw [decode_three (by omega) (by omega) (by omega) (by omega), ofNat_first a (by omega)]
    exact congrArg (fun byte => some [a, byte]) second
  | case4 a b c s ih =>
    have ha := a.toNat_lt
    have hb := b.toNat_lt
    have hc := c.toNat_lt
    rw [decode_four (by omega) (by omega) (by omega) (by omega), ih, Option.map_some,
      ofNat_first a (by omega), ofNat_second b _ (by omega), ofNat_third c]

/-- Nothing but the written form of a byte sequence is read as it. -/
theorem encode_of_decode {s : List Char} {bytes : Bytes} (h : decode s = some bytes) :
    encode bytes = s := by
  fun_induction decode s generalizing bytes with
  | case1 =>
    obtain rfl := Option.some.inj h
    rfl
  | case2 p q =>
    simp only [Option.bind_eq_bind, Option.bind_eq_some_iff] at h
    obtain ⟨p, hp, q, hq, h⟩ := h
    -- The bits that the padding leaves over have to be zero, or else two texts would give one byte.
    obtain ⟨unused, h⟩ := Option.ite_none_right_eq_some.mp h
    obtain ⟨boundP, rfl⟩ := letter_of_sextet? hp
    obtain ⟨boundQ, rfl⟩ := letter_of_sextet? hq
    obtain rfl := Option.some.inj h
    exact encode_two boundP boundQ (eq_of_beq unused)
  | case3 p q r =>
    simp only [Option.bind_eq_bind, Option.bind_eq_some_iff] at h
    obtain ⟨p, hp, q, hq, r, hr, h⟩ := h
    obtain ⟨unused, h⟩ := Option.ite_none_right_eq_some.mp h
    obtain ⟨boundP, rfl⟩ := letter_of_sextet? hp
    obtain ⟨boundQ, rfl⟩ := letter_of_sextet? hq
    obtain ⟨boundR, rfl⟩ := letter_of_sextet? hr
    obtain rfl := Option.some.inj h
    exact encode_three boundP boundQ boundR (eq_of_beq unused)
  | case4 p q r t s _ _ ih =>
    simp only [Option.bind_eq_bind, Option.bind_eq_some_iff] at h
    obtain ⟨p, hp, q, hq, r, hr, t, ht, rest, later, h⟩ := h
    obtain ⟨boundP, rfl⟩ := letter_of_sextet? hp
    obtain ⟨boundQ, rfl⟩ := letter_of_sextet? hq
    obtain ⟨boundR, rfl⟩ := letter_of_sextet? hr
    obtain ⟨boundT, rfl⟩ := letter_of_sextet? ht
    obtain rfl := Option.some.inj h
    rw [encode_four boundP boundQ boundR boundT, ih later]
  | case5 => cases h

theorem decode_eq_some_iff {s : List Char} {bytes : Bytes} :
    decode s = some bytes ↔ encode bytes = s :=
  ⟨encode_of_decode, fun h => h ▸ decode_encode bytes⟩

/-! ### Blanks -/

theorem isBlank_encode (bytes : Bytes) : ∀ c ∈ encode bytes, isBlank c = false := by
  have padding : isBlank '=' = false := by decide
  fun_induction encode bytes with
  | case1 => simp
  | case2 a =>
    have ha := a.toNat_lt
    simp only [List.forall_mem_cons]
    exact ⟨isBlank_letter _ (by omega), isBlank_letter _ (by omega), padding, padding, by simp⟩
  | case3 a b =>
    have ha := a.toNat_lt
    have hb := b.toNat_lt
    simp only [List.forall_mem_cons]
    exact ⟨isBlank_letter _ (by omega), isBlank_letter _ (by omega), isBlank_letter _ (by omega),
      padding, by simp⟩
  | case4 a b c s ih =>
    have ha := a.toNat_lt
    have hb := b.toNat_lt
    have hc := c.toNat_lt
    simp only [List.forall_mem_cons]
    exact ⟨isBlank_letter _ (by omega), isBlank_letter _ (by omega), isBlank_letter _ (by omega),
      isBlank_letter _ (by omega), ih⟩

theorem strip_encode (bytes : Bytes) : strip (encode bytes) = encode bytes :=
  strip_eq_self (isBlank_encode bytes)

end RouteAlerts.Base64
