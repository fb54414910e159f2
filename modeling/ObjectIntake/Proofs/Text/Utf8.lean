import Mathlib.Data.List.Basic
import ObjectIntake.Text.Utf8

/-!
Characters that were encoded are decoded again, and bytes are decoded only to the characters of which they are the
encoding.
-/
namespace ObjectIntake.Text.Utf8

theorem toNat_byte {n : Nat} (h : n < 256) : (byte n).toNat = n := by
  simp [byte, Nat.mod_eq_of_lt h]

theorem tail?_byte {n : Nat} (h : n < 64) : tail? (byte (0x80 + n)) = some n := by
  have hbyte : (byte (0x80 + n)).toNat = 0x80 + n := toNat_byte (by omega)
  have hrange : 0x80 ≤ 0x80 + n ∧ 0x80 + n < 0xC0 := by omega
  have hrest : 0x80 + n - 0x80 = n := by omega
  rw [tail?, hbyte, if_pos hrange, hrest]

theorem scalar?_toNat (c : Char) {least : Nat} (h : least ≤ c.toNat) : scalar? least c.toNat = some c := by
  have hvalid : c.toNat.isValidChar := c.valid
  simp [scalar?, h, hvalid, Char.ofNat_toNat]

section Lengths

variable (c : Char) (rest : List UInt8)

theorem decode_one (h : c.toNat < 0x80) : decode (byte c.toNat :: rest) = (decode rest).map (c :: ·) := by
  have hbyte : (byte c.toNat).toNat = c.toNat := toNat_byte (by omega)
  rw [decode.eq_def]
  simp [hbyte, h, Char.ofNat_toNat]

theorem decode_two (hleast : 0x80 ≤ c.toNat) (h : c.toNat < 0x800) :
    decode (byte (0xC0 + c.toNat / 64) :: byte (0x80 + c.toNat % 64) :: rest) = (decode rest).map (c :: ·) := by
  have hlead : (byte (0xC0 + c.toNat / 64)).toNat = 0xC0 + c.toNat / 64 := toNat_byte (by omega)
  have hlast : tail? (byte (0x80 + c.toNat % 64)) = some (c.toNat % 64) := tail?_byte (by omega)
  have hvalue : (0xC0 + c.toNat / 64 - 0xC0) * 64 + c.toNat % 64 = c.toNat := by omega
  have hone : ¬ 0xC0 + c.toNat / 64 < 0x80 ∧ ¬ 0xC0 + c.toNat / 64 < 0xC0 := by omega
  have htwo : 0xC0 + c.toNat / 64 < 0xE0 := by omega
  rw [decode.eq_def]
  simp only [hlead, if_neg hone.1, if_neg hone.2, hlast, if_pos htwo, hvalue, scalar?_toNat c hleast,
    Option.bind_eq_bind, Option.bind_some]
  cases decode rest <;> rfl

theorem decode_three (hleast : 0x800 ≤ c.toNat) (h : c.toNat < 0x10000) :
    decode (byte (0xE0 + c.toNat / 4096) :: byte (0x80 + c.toNat / 64 % 64) :: byte (0x80 + c.toNat % 64) :: rest) =
      (decode rest).map (c :: ·) := by
  have hlead : (byte (0xE0 + c.toNat / 4096)).toNat = 0xE0 + c.toNat / 4096 := toNat_byte (by omega)
  have hmiddle : tail? (byte (0x80 + c.toNat / 64 % 64)) = some (c.toNat / 64 % 64) := tail?_byte (by omega)
  have hlast : tail? (byte (0x80 + c.toNat % 64)) = some (c.toNat % 64) := tail?_byte (by omega)
  have hvalue : (0xE0 + c.toNat / 4096 - 0xE0) * 4096 + c.toNat / 64 % 64 * 64 + c.toNat % 64 = c.toNat := by omega
  have hone : ¬ 0xE0 + c.toNat / 4096 < 0x80 ∧ ¬ 0xE0 + c.toNat / 4096 < 0xC0 := by omega
  have htwo : ¬ 0xE0 + c.toNat / 4096 < 0xE0 := by omega
  have hthree : 0xE0 + c.toNat / 4096 < 0xF0 := by omega
  rw [decode.eq_def]
  simp only [hlead, if_neg hone.1, if_neg hone.2, if_neg htwo, hmiddle, hlast, if_pos hthree, hvalue,
    scalar?_toNat c hleast, Option.bind_eq_bind, Option.bind_some]
  cases decode rest <;> rfl

theorem decode_four (hleast : 0x10000 ≤ c.toNat) :
    decode (byte (0xF0 + c.toNat / 262144) :: byte (0x80 + c.toNat / 4096 % 64) :: byte (0x80 + c.toNat / 64 % 64) ::
      byte (0x80 + c.toNat % 64) :: rest) = (decode rest).map (c :: ·) := by
  have hvalid : c.toNat < 0xD800 ∨ 0xDFFF < c.toNat ∧ c.toNat < 0x110000 := c.valid
  have hlead : (byte (0xF0 + c.toNat / 262144)).toNat = 0xF0 + c.toNat / 262144 := toNat_byte (by omega)
  have hsecond : tail? (byte (0x80 + c.toNat / 4096 % 64)) = some (c.toNat / 4096 % 64) := tail?_byte (by omega)
  have hthird : tail? (byte (0x80 + c.toNat / 64 % 64)) = some (c.toNat / 64 % 64) := tail?_byte (by omega)
  have hlast : tail? (byte (0x80 + c.toNat % 64)) = some (c.toNat % 64) := tail?_byte (by omega)
  have hvalue : (0xF0 + c.toNat / 262144 - 0xF0) * 262144 + c.toNat / 4096 % 64 * 4096 + c.toNat / 64 % 64 * 64 +
      c.toNat % 64 = c.toNat := by omega
  have hone : ¬ 0xF0 + c.toNat / 262144 < 0x80 ∧ ¬ 0xF0 + c.toNat / 262144 < 0xC0 := by omega
  have htwo : ¬ 0xF0 + c.toNat / 262144 < 0xE0 := by omega
  have hthree : ¬ 0xF0 + c.toNat / 262144 < 0xF0 := by omega
  have hfour : 0xF0 + c.toNat / 262144 < 0xF8 := by omega
  rw [decode.eq_def]
  simp only [hlead, if_neg hone.1, if_neg hone.2, if_neg htwo, if_neg hthree, hsecond, hthird, hlast,
    Option.bind_eq_bind, Option.bind_some]
  -- With this step in the call above the kernel would multiply by 262144 in unary.
  rw [if_pos hfour, hvalue, scalar?_toNat c hleast]
  cases decode rest <;> rfl

/-- A character is decoded from its bytes, before what follows them. -/
theorem decode_encodeChar : decode (encodeChar c ++ rest) = (decode rest).map (c :: ·) := by
  unfold encodeChar
  dsimp only
  split
  next h => exact decode_one c rest h
  next hone =>
    split
    next h => exact decode_two c rest (Nat.le_of_not_lt hone) h
    next htwo =>
      split
      next h => exact decode_three c rest (Nat.le_of_not_lt htwo) h
      next hthree => exact decode_four c rest (Nat.le_of_not_lt hthree)

end Lengths

theorem decode_encode (s : List Char) : decode (encode s) = some s := by
  induction s with
  | nil => rfl
  | cons c s ih =>
    have hchar := decode_encodeChar c (encode s)
    rw [ih] at hchar
    exact hchar

theorem encodeChar_eq_utf8EncodeChar (c : Char) : encodeChar c = String.utf8EncodeChar c := by
  have hvalid : c.toNat < 0xD800 ∨ 0xDFFF < c.toNat ∧ c.toNat < 0x110000 := c.valid
  have hval : c.val.toNat = c.toNat := rfl
  unfold encodeChar String.utf8EncodeChar byte
  rw [hval]
  generalize c.toNat = n at hvalid
  have hlast : 0x80 + n % 64 = n % 64 + 0x80 := Nat.add_comm ..
  have hthird : 0x80 + n / 64 % 64 = n / 64 % 64 + 0x80 := Nat.add_comm ..
  have hsecond : 0x80 + n / 4096 % 64 = n / 4096 % 64 + 0x80 := Nat.add_comm ..
  dsimp only
  by_cases hone : n < 0x80
  · rw [if_pos hone, if_pos (show n ≤ 0x7f by omega)]
  by_cases htwo : n < 0x800
  · have hlead : 0xC0 + n / 64 = n / 64 % 32 + 0xc0 := by omega
    rw [if_neg hone, if_pos htwo, if_neg (show ¬ n ≤ 0x7f by omega), if_pos (show n ≤ 0x7ff by omega), hlead, hlast]
  by_cases hthree : n < 0x10000
  · have hlead : 0xE0 + n / 4096 = n / 4096 % 16 + 0xe0 := by omega
    rw [if_neg hone, if_neg htwo, if_pos hthree, if_neg (show ¬ n ≤ 0x7f by omega),
      if_neg (show ¬ n ≤ 0x7ff by omega), if_pos (show n ≤ 0xffff by omega), hlead, hthird, hlast]
  · have hlead : 0xF0 + n / 262144 = n / 262144 % 8 + 0xf0 := by omega
    rw [if_neg hone, if_neg htwo, if_neg hthree, if_neg (show ¬ n ≤ 0x7f by omega),
      if_neg (show ¬ n ≤ 0x7ff by omega), if_neg (show ¬ n ≤ 0xffff by omega), hlead, hsecond, hthird, hlast]

theorem toNat_ofNat {n : Nat} (h : n.isValidChar) : (Char.ofNat n).toNat = n := by
  rw [Char.ofNat, dif_pos h]
  exact UInt32.toNat_ofNatLT ..

theorem scalar?_eq_some {least n : Nat} {c : Char} (h : scalar? least n = some c) : least ≤ n ∧ c.toNat = n := by
  unfold scalar? at h
  split at h
  next hn =>
    rw [← Option.some.inj h]
    exact ⟨hn.1, toNat_ofNat hn.2⟩
  next => cases h

/-- A byte that goes on with a character. -/
def IsTail (b : UInt8) : Prop := 0x80 ≤ b.toNat ∧ b.toNat < 0xC0

instance : DecidablePred IsTail := fun b => inferInstanceAs (Decidable (0x80 ≤ b.toNat ∧ b.toNat < 0xC0))

theorem tail?_eq_some {b : UInt8} {x : Nat} (h : tail? b = some x) : x < 64 ∧ b = byte (0x80 + x) := by
  unfold tail? at h
  split at h
  next hb =>
    have hx := Option.some.inj h
    have hvalue : 0x80 + x = b.toNat := by omega
    exact ⟨by omega, by rw [hvalue, byte, UInt8.ofNat_toNat]⟩
  next => cases h

/-- Bytes that begin with those of a character decode to that character before what follows it. -/
def Opens (bs : List UInt8) (s : List Char) : Prop :=
  ∃ c rest t, bs = encodeChar c ++ rest ∧ decode rest = some t ∧ s = c :: t

theorem encodeChar_two {c : Char} {lead x : Nat} (hlead : 0xC0 ≤ lead ∧ lead < 0xE0) (hx : x < 64)
    (hleast : 0x80 ≤ c.toNat) (hc : c.toNat = (lead - 0xC0) * 64 + x) :
    encodeChar c = [byte lead, byte (0x80 + x)] := by
  have hone : ¬ c.toNat < 0x80 := by omega
  have htwo : c.toNat < 0x800 := by omega
  have hhigh : 0xC0 + c.toNat / 64 = lead := by omega
  have hlow : c.toNat % 64 = x := by omega
  simp only [encodeChar, if_neg hone, if_pos htwo, hhigh, hlow]

theorem encodeChar_three {c : Char} {lead x y : Nat} (hlead : 0xE0 ≤ lead ∧ lead < 0xF0) (hx : x < 64) (hy : y < 64)
    (hleast : 0x800 ≤ c.toNat) (hc : c.toNat = (lead - 0xE0) * 4096 + x * 64 + y) :
    encodeChar c = [byte lead, byte (0x80 + x), byte (0x80 + y)] := by
  have hone : ¬ c.toNat < 0x80 := by omega
  have htwo : ¬ c.toNat < 0x800 := by omega
  have hthree : c.toNat < 0x10000 := by omega
  have hhigh : 0xE0 + c.toNat / 4096 = lead := by omega
  have hmiddle : c.toNat / 64 % 64 = x := by omega
  have hlow : c.toNat % 64 = y := by omega
  simp only [encodeChar, if_neg hone, if_neg htwo, if_pos hthree, hhigh, hmiddle, hlow]

theorem encodeChar_four {c : Char} {lead x y z : Nat} (hlead : 0xF0 ≤ lead) (hx : x < 64)
    (hy : y < 64) (hz : z < 64) (hleast : 0x10000 ≤ c.toNat)
    (hc : c.toNat = (lead - 0xF0) * 262144 + x * 4096 + y * 64 + z) :
    encodeChar c = [byte lead, byte (0x80 + x), byte (0x80 + y), byte (0x80 + z)] := by
  have hone : ¬ c.toNat < 0x80 := by omega
  have htwo : ¬ c.toNat < 0x800 := by omega
  have hthree : ¬ c.toNat < 0x10000 := by omega
  have hhigh : 0xF0 + c.toNat / 262144 = lead := by omega
  have hsecond : c.toNat / 4096 % 64 = x := by omega
  have hthird : c.toNat / 64 % 64 = y := by omega
  have hlow : c.toNat % 64 = z := by omega
  simp only [encodeChar, if_neg hone, if_neg htwo, if_neg hthree, hhigh, hsecond, hthird, hlow]

theorem opens_of_scalar {least n : Nat} {bs rest : List UInt8} {s : List Char}
    (h : (do let c ← scalar? least n; return c :: (← decode rest)) = some s)
    (hbs : ∀ c : Char, least ≤ c.toNat → c.toNat = n → bs = encodeChar c ++ rest) : Opens bs s := by
  obtain ⟨c, hc, hrest⟩ := Option.bind_eq_some_iff.mp h
  obtain ⟨t, ht, hs⟩ := Option.bind_eq_some_iff.mp hrest
  obtain ⟨hleast, hvalue⟩ := scalar?_eq_some hc
  rw [← hvalue] at hleast
  exact ⟨c, rest, t, hbs c hleast hvalue, ht, (Option.some.inj hs).symm⟩

/-- Bytes that decode begin with those of a character, unless there are none. -/
theorem opens_of_decode {a : UInt8} {r : List UInt8} {s : List Char} (h : decode (a :: r) = some s) :
    Opens (a :: r) s := by
  have hlead : byte a.toNat = a := UInt8.ofNat_toNat
  rw [decode.eq_def] at h
  dsimp only at h
  split at h
  next hone =>
    have hvalid : a.toNat.isValidChar := Or.inl (by omega)
    obtain ⟨t, ht, hs⟩ := Option.map_eq_some_iff.mp h
    refine ⟨_, r, t, ?_, ht, hs.symm⟩
    simp only [encodeChar, toNat_ofNat hvalid, if_pos hone, hlead, List.singleton_append]
  next hone =>
  split at h
  next => cases h
  next htail =>
  cases r with
  | nil => cases h
  | cons b r =>
  obtain ⟨x, hx, hsecond⟩ := Option.bind_eq_some_iff.mp h
  obtain ⟨hxlt, hb⟩ := tail?_eq_some hx
  split at hsecond
  next htwo =>
    refine opens_of_scalar hsecond fun c hleast hvalue => ?_
    rw [encodeChar_two ⟨by omega, htwo⟩ hxlt hleast hvalue, hlead, hb]
    rfl
  next htwo =>
  cases r with
  | nil => cases hsecond
  | cons d r =>
  obtain ⟨y, hy, hthird⟩ := Option.bind_eq_some_iff.mp hsecond
  obtain ⟨hylt, hd⟩ := tail?_eq_some hy
  split at hthird
  next hthree =>
    refine opens_of_scalar hthird fun c hleast hvalue => ?_
    rw [encodeChar_three ⟨by omega, hthree⟩ hxlt hylt hleast hvalue, hlead, hb, hd]
    rfl
  next hthree =>
  cases r with
  | nil => cases hthird
  | cons e r =>
  obtain ⟨z, hz, hfourth⟩ := Option.bind_eq_some_iff.mp hthird
  obtain ⟨hzlt, he⟩ := tail?_eq_some hz
  split at hfourth
  next hfour =>
    refine opens_of_scalar hfourth fun c hleast hvalue => ?_
    rw [encodeChar_four (by omega) hxlt hylt hzlt hleast hvalue, hlead, hb, hd, he]
    rfl
  next => cases hfourth

theorem encode_of_decode {bs : List UInt8} {s : List Char} (h : decode bs = some s) : bs = encode s := by
  induction s generalizing bs with
  | nil =>
    cases bs with
    | nil => rfl
    | cons a r =>
      obtain ⟨c, rest, t, -, -, hs⟩ := opens_of_decode h
      cases hs
  | cons c s ih =>
    cases bs with
    | nil => cases h
    | cons a r =>
      obtain ⟨d, rest, t, hbytes, hrest, hs⟩ := opens_of_decode h
      cases hs
      rw [hbytes, ih hrest]
      rfl

/-- Bytes are decoded exactly if they are the encoding of something. -/
theorem decode_eq_some_iff {bs : List UInt8} {s : List Char} : decode bs = some s ↔ bs = encode s :=
  ⟨encode_of_decode, fun h => h ▸ decode_encode s⟩

theorem isTail_byte {n : Nat} (h : n < 64) : IsTail (byte (0x80 + n)) := by
  have hbyte : (byte (0x80 + n)).toNat = 0x80 + n := toNat_byte (by omega)
  unfold IsTail
  omega

/-- The first byte of a character does not go on with another one, and those after it do. -/
theorem encodeChar_eq_cons (c : Char) :
    ∃ lead tails, encodeChar c = lead :: tails ∧ ¬ IsTail lead ∧ ∀ b ∈ tails, IsTail b := by
  have hvalid : c.toNat < 0xD800 ∨ 0xDFFF < c.toNat ∧ c.toNat < 0x110000 := c.valid
  have hlead {n : Nat} (hn : n < 256) (hout : n < 0x80 ∨ 0xC0 ≤ n) : ¬ IsTail (byte n) := by
    have hbyte := toNat_byte hn
    unfold IsTail
    omega
  unfold encodeChar
  dsimp only
  split
  next h => exact ⟨_, _, rfl, hlead (by omega) (.inl h), by simp⟩
  next hone =>
    split
    next h =>
      refine ⟨_, _, rfl, hlead (by omega) (.inr (by omega)), ?_⟩
      simp only [List.forall_mem_singleton]
      exact isTail_byte (by omega)
    next htwo =>
      split
      next h =>
        refine ⟨_, _, rfl, hlead (by omega) (.inr (by omega)), ?_⟩
        simp only [List.forall_mem_cons, List.not_mem_nil, false_imp_iff, implies_true, and_true]
        exact ⟨isTail_byte (by omega), isTail_byte (by omega)⟩
      next h =>
        refine ⟨_, _, rfl, hlead (by omega) (.inr (by omega)), ?_⟩
        simp only [List.forall_mem_cons, List.not_mem_nil, false_imp_iff, implies_true, and_true]
        exact ⟨isTail_byte (by omega), isTail_byte (by omega), isTail_byte (by omega)⟩

end ObjectIntake.Text.Utf8
