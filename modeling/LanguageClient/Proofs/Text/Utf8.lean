import LanguageClient.Text.Utf8

/-!
# Text as bytes, and bytes as text

* `decodeOne_encode` — the bytes of a character are read as that character, whatever follows them.
* `encode_of_decodeOne` — where a character is read, its bytes are in front.
* **`decode_eq_ok`** — bytes are read as a text exactly if they are the bytes of that text.
-/

namespace LanguageClient.Utf8

/-- The numbers that are characters. -/
theorem toNat_valid (c : Char) : c.toNat < 0xD800 ∨ (0xDFFF < c.toNat ∧ c.toNat < 0x110000) := c.valid

theorem lead?_eq (b : UInt8) :
    lead? b =
      if b.toNat < 0xC2 then none
      else if b.toNat < 0xE0 then some ⟨1, 0x80, 0xBF, b.toNat - 0xC0⟩
      else if b.toNat = 0xE0 then some ⟨2, 0xA0, 0xBF, 0⟩
      else if b.toNat = 0xED then some ⟨2, 0x80, 0x9F, 13⟩
      else if b.toNat < 0xF0 then some ⟨2, 0x80, 0xBF, b.toNat - 0xE0⟩
      else if b.toNat = 0xF0 then some ⟨3, 0x90, 0xBF, 0⟩
      else if b.toNat < 0xF4 then some ⟨3, 0x80, 0xBF, b.toNat - 0xF0⟩
      else if b.toNat = 0xF4 then some ⟨3, 0x80, 0x8F, 4⟩
      else none := by
  simp only [lead?, UInt8.lt_iff_toNat_lt, ← UInt8.toNat_inj]
  rfl

/-- A continuation byte that fits. -/
theorem continuation_cons {n value k : Nat} {low high : UInt8} (hk : k < 64)
    (hl : low.toNat ≤ k + 0x80) (hh : k + 0x80 ≤ high.toNat) (bs : List UInt8) :
    continuation (n + 1) low high value (UInt8.ofNat (k + 0x80) :: bs) =
      ((continuation n 0x80 0xBF (value * 64 + k) bs).1,
        (continuation n 0x80 0xBF (value * 64 + k) bs).2 + 1) := by
  have hb : (UInt8.ofNat (k + 0x80)).toNat = k + 0x80 := by
    rw [UInt8.toNat_ofNat']
    omega
  rw [continuation, if_pos (by simp only [UInt8.le_iff_toNat_le, hb]; exact ⟨hl, hh⟩), hb]
  simp

theorem continuation_zero (low high : UInt8) (value : Nat) (bs : List UInt8) :
    continuation 0 low high value bs = (some value, 0) := rfl

theorem decodeOne_of_lead {b : UInt8} {bs : List UInt8} {l : Lead} {v k : Nat} (hb : 0x80 ≤ b.toNat)
    (hl : lead? b = some l) (hc : continuation l.tail l.low l.high l.bits bs = (some v, k)) :
    decodeOne b bs = (some (Char.ofNat v), k) := by
  have hn : ¬ b < 0x80 := by
    rw [UInt8.lt_iff_toNat_lt]
    exact Nat.not_lt.2 hb
  rw [decodeOne, if_neg hn, hl]
  simp only [hc, Option.map_some]

section

variable {v : Nat}

theorem toNat_ofNat {k : Nat} (hk : k < 256) : (UInt8.ofNat k).toNat = k := by
  rw [UInt8.toNat_ofNat']
  omega

theorem decodeOne_one (h : v < 0x80) (rest : List UInt8) :
    decodeOne (UInt8.ofNat v) rest = (some (Char.ofNat v), 0) := by
  have hb := toNat_ofNat (k := v) (by omega)
  rw [decodeOne, if_pos (by rw [UInt8.lt_iff_toNat_lt, hb]; exact h), hb]

theorem decodeOne_two (h : 0x80 ≤ v) (h' : v < 0x800) (rest : List UInt8) :
    decodeOne (UInt8.ofNat (v / 64 % 0x20 + 0xC0)) (UInt8.ofNat (v % 0x40 + 0x80) :: rest) =
      (some (Char.ofNat v), 1) := by
  have hb := toNat_ofNat (k := v / 64 % 0x20 + 0xC0) (by omega)
  refine decodeOne_of_lead (l := ⟨1, 0x80, 0xBF, v / 64⟩) (by rw [hb]; omega) ?_ ?_
  · rw [lead?_eq, hb, if_neg (by omega), if_pos (by omega),
      show v / 64 % 0x20 + 0xC0 - 0xC0 = v / 64 by omega]
  · have hlow : (0x80 : UInt8).toNat ≤ v % 0x40 + 0x80 := by show 0x80 ≤ _; omega
    have hhigh : v % 0x40 + 0x80 ≤ (0xBF : UInt8).toNat := by show _ ≤ 0xBF; omega
    rw [continuation_cons (by omega) hlow hhigh, continuation_zero]
    simp only [Prod.mk.injEq, Option.some.injEq, and_true]
    omega

/-- The last two bytes of three. -/
theorem continuation_two {low high : UInt8} {bits : Nat} (hb : bits = v / 4096)
    (hl : low.toNat ≤ v / 64 % 0x40 + 0x80) (hh : v / 64 % 0x40 + 0x80 ≤ high.toNat)
    (rest : List UInt8) :
    continuation 2 low high bits
        (UInt8.ofNat (v / 64 % 0x40 + 0x80) :: UInt8.ofNat (v % 0x40 + 0x80) :: rest) =
      (some v, 2) := by
  have hlow : (0x80 : UInt8).toNat ≤ v % 0x40 + 0x80 := by show 0x80 ≤ _; omega
  have hhigh : v % 0x40 + 0x80 ≤ (0xBF : UInt8).toNat := by show _ ≤ 0xBF; omega
  rw [continuation_cons (by omega) hl hh, continuation_cons (by omega) hlow hhigh, continuation_zero]
  simp only [Prod.mk.injEq, Option.some.injEq, and_true]
  omega

theorem decodeOne_three (h : 0x800 ≤ v) (h' : v < 0x10000) (hv : v < 0xD800 ∨ 0xDFFF < v)
    (rest : List UInt8) :
    decodeOne (UInt8.ofNat (v / 4096 % 0x10 + 0xE0))
        (UInt8.ofNat (v / 64 % 0x40 + 0x80) :: UInt8.ofNat (v % 0x40 + 0x80) :: rest) =
      (some (Char.ofNat v), 2) := by
  have hb := toNat_ofNat (k := v / 4096 % 0x10 + 0xE0) (by omega)
  have hbig : 0x80 ≤ (UInt8.ofNat (v / 4096 % 0x10 + 0xE0)).toNat := by rw [hb]; omega
  -- The first and the last but two of the lead bytes narrow what may come next.
  rcases Nat.lt_trichotomy (v / 4096) 0xD with hlt | heq | hgt
  · by_cases h0 : v / 4096 = 0
    · refine decodeOne_of_lead (l := ⟨2, 0xA0, 0xBF, 0⟩) hbig ?_ (continuation_two h0.symm ?_ ?_ rest)
      · rw [lead?_eq, hb, if_neg (by omega), if_neg (by omega), if_pos (by omega)]
      · show 0xA0 ≤ _; omega
      · show _ ≤ 0xBF; omega
    · refine decodeOne_of_lead (l := ⟨2, 0x80, 0xBF, v / 4096⟩) hbig ?_ (continuation_two rfl ?_ ?_ rest)
      · rw [lead?_eq, hb, if_neg (by omega), if_neg (by omega), if_neg (by omega), if_neg (by omega),
          if_pos (by omega), show v / 4096 % 0x10 + 0xE0 - 0xE0 = v / 4096 by omega]
      · show 0x80 ≤ _; omega
      · show _ ≤ 0xBF; omega
  · refine decodeOne_of_lead (l := ⟨2, 0x80, 0x9F, 13⟩) hbig ?_ (continuation_two heq.symm ?_ ?_ rest)
    · rw [lead?_eq, hb, if_neg (by omega), if_neg (by omega), if_neg (by omega), if_pos (by omega)]
    · show 0x80 ≤ _; omega
    · show _ ≤ 0x9F; omega
  · refine decodeOne_of_lead (l := ⟨2, 0x80, 0xBF, v / 4096⟩) hbig ?_ (continuation_two rfl ?_ ?_ rest)
    · rw [lead?_eq, hb, if_neg (by omega), if_neg (by omega), if_neg (by omega), if_neg (by omega),
        if_pos (by omega), show v / 4096 % 0x10 + 0xE0 - 0xE0 = v / 4096 by omega]
    · show 0x80 ≤ _; omega
    · show _ ≤ 0xBF; omega

/-- The last three bytes of four. -/
theorem continuation_three {low high : UInt8} {bits : Nat} (hb : bits = v / 262144)
    (hl : low.toNat ≤ v / 4096 % 0x40 + 0x80) (hh : v / 4096 % 0x40 + 0x80 ≤ high.toNat)
    (rest : List UInt8) :
    continuation 3 low high bits
        (UInt8.ofNat (v / 4096 % 0x40 + 0x80) :: UInt8.ofNat (v / 64 % 0x40 + 0x80) ::
          UInt8.ofNat (v % 0x40 + 0x80) :: rest) =
      (some v, 3) := by
  have hlow : (0x80 : UInt8).toNat ≤ v / 64 % 0x40 + 0x80 := by show 0x80 ≤ _; omega
  have hhigh : v / 64 % 0x40 + 0x80 ≤ (0xBF : UInt8).toNat := by show _ ≤ 0xBF; omega
  rw [continuation_cons (by omega) hl hh, continuation_two (by omega) hlow hhigh]

theorem decodeOne_four (h : 0x10000 ≤ v) (h' : v < 0x110000) (rest : List UInt8) :
    decodeOne (UInt8.ofNat (v / 262144 % 0x08 + 0xF0))
        (UInt8.ofNat (v / 4096 % 0x40 + 0x80) :: UInt8.ofNat (v / 64 % 0x40 + 0x80) ::
          UInt8.ofNat (v % 0x40 + 0x80) :: rest) =
      (some (Char.ofNat v), 3) := by
  have hb := toNat_ofNat (k := v / 262144 % 0x08 + 0xF0) (by omega)
  have hbig : 0x80 ≤ (UInt8.ofNat (v / 262144 % 0x08 + 0xF0)).toNat := by rw [hb]; omega
  by_cases h0 : v / 262144 = 0
  · refine decodeOne_of_lead (l := ⟨3, 0x90, 0xBF, 0⟩) hbig ?_ (continuation_three h0.symm ?_ ?_ rest)
    · rw [lead?_eq, hb, if_neg (by omega), if_neg (by omega), if_neg (by omega), if_neg (by omega),
        if_neg (by omega), if_pos (by omega)]
    · show 0x90 ≤ _; omega
    · show _ ≤ 0xBF; omega
  · by_cases h4 : v / 262144 = 4
    · refine decodeOne_of_lead (l := ⟨3, 0x80, 0x8F, 4⟩) hbig ?_ (continuation_three h4.symm ?_ ?_ rest)
      · rw [lead?_eq, hb, if_neg (by omega), if_neg (by omega), if_neg (by omega), if_neg (by omega),
          if_neg (by omega), if_neg (by omega), if_neg (by omega), if_pos (by omega)]
      · show 0x80 ≤ _; omega
      · show _ ≤ 0x8F; omega
    · refine decodeOne_of_lead (l := ⟨3, 0x80, 0xBF, v / 262144⟩) hbig ?_
        (continuation_three rfl ?_ ?_ rest)
      · rw [lead?_eq, hb, if_neg (by omega), if_neg (by omega), if_neg (by omega), if_neg (by omega),
          if_neg (by omega), if_neg (by omega), if_pos (by omega),
          show v / 262144 % 0x08 + 0xF0 - 0xF0 = v / 262144 by omega]
      · show 0x80 ≤ _; omega
      · show _ ≤ 0xBF; omega

end

/-- **The bytes of a character are read as that character**, whatever follows them. -/
theorem decodeOne_encode (c : Char) (rest : List UInt8) :
    ∃ b bs, String.utf8EncodeChar c = b :: bs ∧ decodeOne b (bs ++ rest) = (some c, bs.length) := by
  have hc := toNat_valid c
  have back : Char.ofNat c.toNat = c := Char.ofNat_toNat c
  have hv : c.val.toNat = c.toNat := rfl
  unfold String.utf8EncodeChar
  simp only [hv]
  generalize c.toNat = v at hc back
  subst back
  split
  next h1 => exact ⟨_, _, rfl, decodeOne_one (by omega) rest⟩
  next h1 =>
    split
    next h2 => exact ⟨_, _, rfl, decodeOne_two (by omega) (by omega) rest⟩
    next h2 =>
      split
      next h3 => exact ⟨_, _, rfl, decodeOne_three (by omega) (by omega) (by omega) rest⟩
      next h3 => exact ⟨_, _, rfl, decodeOne_four (by omega) (by omega) rest⟩

/-! ## What is read is in front -/

/-- A continuation takes one byte that fits, and goes on. -/
theorem continuation_eq_some {n value v k : Nat} {low high : UInt8} {bs : List UInt8}
    (h : continuation (n + 1) low high value bs = (some v, k)) :
    ∃ b bs' k', bs = b :: bs' ∧ low.toNat ≤ b.toNat ∧ b.toNat ≤ high.toNat ∧
      continuation n 0x80 0xBF (value * 64 + (b.toNat - 0x80)) bs' = (some v, k') ∧ k = k' + 1 := by
  cases bs with
  | nil => cases h
  | cons b bs' =>
    rw [continuation] at h
    split at h
    next hb =>
      simp only [UInt8.le_iff_toNat_le] at hb
      simp only [Prod.mk.injEq] at h
      exact ⟨b, bs', _, rfl, hb.1, hb.2, Prod.ext h.1 rfl, h.2.symm⟩
    next => cases h

section

variable {v : Nat} {b b₁ b₂ b₃ : UInt8}

theorem toNat_ofNat_of_valid (h : v < 0xD800 ∨ (0xDFFF < v ∧ v < 0x110000)) :
    (Char.ofNat v).val.toNat = v := by
  rw [Char.ofNat, dif_pos (show v.isValidChar from h)]
  rfl

theorem eq_ofNat {k : Nat} (h : b.toNat = k) : b = UInt8.ofNat k := by
  rw [← h, UInt8.ofNat_toNat]

theorem encode_one (hv : b.toNat = v) (h : v < 0x80) :
    String.utf8EncodeChar (Char.ofNat v) = [b] := by
  rw [String.utf8EncodeChar, toNat_ofNat_of_valid (by omega), if_pos (by omega), eq_ofNat hv]

theorem encode_two (hb : b.toNat = v / 64 + 0xC0) (hb₁ : b₁.toNat = v % 64 + 0x80) (h : 0x80 ≤ v)
    (h' : v < 0x800) : String.utf8EncodeChar (Char.ofNat v) = [b, b₁] := by
  rw [String.utf8EncodeChar, toNat_ofNat_of_valid (by omega), if_neg (by omega), if_pos (by omega),
    eq_ofNat (b := b) (k := v / 64 % 0x20 + 0xC0) (by omega), eq_ofNat hb₁]

theorem encode_three (hb : b.toNat = v / 4096 + 0xE0) (hb₁ : b₁.toNat = v / 64 % 64 + 0x80)
    (hb₂ : b₂.toNat = v % 64 + 0x80) (h : 0x800 ≤ v) (h' : v < 0x10000)
    (hv : v < 0xD800 ∨ 0xDFFF < v) : String.utf8EncodeChar (Char.ofNat v) = [b, b₁, b₂] := by
  rw [String.utf8EncodeChar, toNat_ofNat_of_valid (by omega), if_neg (by omega), if_neg (by omega),
    if_pos (by omega), eq_ofNat (b := b) (k := v / 4096 % 0x10 + 0xE0) (by omega), eq_ofNat hb₁,
    eq_ofNat hb₂]

theorem encode_four (hb : b.toNat = v / 262144 + 0xF0) (hb₁ : b₁.toNat = v / 4096 % 64 + 0x80)
    (hb₂ : b₂.toNat = v / 64 % 64 + 0x80) (hb₃ : b₃.toNat = v % 64 + 0x80) (h : 0x10000 ≤ v)
    (h' : v < 0x110000) : String.utf8EncodeChar (Char.ofNat v) = [b, b₁, b₂, b₃] := by
  rw [String.utf8EncodeChar, toNat_ofNat_of_valid (by omega), if_neg (by omega), if_neg (by omega),
    if_neg (by omega), eq_ofNat (b := b) (k := v / 262144 % 0x08 + 0xF0) (by omega), eq_ofNat hb₁,
    eq_ofNat hb₂, eq_ofNat hb₃]

end

/-- What a lead byte promises is the range of what it and the next byte may say. -/
theorem lead?_eq_some {b : UInt8} {l : Lead} (h : lead? b = some l) :
    (l.tail = 1 ∧ l.low = 0x80 ∧ l.high = 0xBF ∧ b.toNat = l.bits + 0xC0 ∧ 2 ≤ l.bits ∧ l.bits < 32) ∨
    (l.tail = 2 ∧ b.toNat = l.bits + 0xE0 ∧ l.bits < 16 ∧ 0x80 ≤ l.low.toNat ∧ l.high.toNat ≤ 0xBF ∧
      (l.bits = 0 → 0xA0 ≤ l.low.toNat) ∧ (l.bits = 13 → l.high.toNat ≤ 0x9F)) ∨
    (l.tail = 3 ∧ b.toNat = l.bits + 0xF0 ∧ l.bits ≤ 4 ∧ 0x80 ≤ l.low.toNat ∧ l.high.toNat ≤ 0xBF ∧
      (l.bits = 0 → 0x90 ≤ l.low.toNat) ∧ (l.bits = 4 → l.high.toNat ≤ 0x8F)) := by
  have h80 : (0x80 : UInt8).toNat = 0x80 := rfl
  have hA0 : (0xA0 : UInt8).toNat = 0xA0 := rfl
  have h90 : (0x90 : UInt8).toNat = 0x90 := rfl
  have hBF : (0xBF : UInt8).toNat = 0xBF := rfl
  have h9F : (0x9F : UInt8).toNat = 0x9F := rfl
  have h8F : (0x8F : UInt8).toNat = 0x8F := rfl
  rw [lead?_eq] at h
  split at h
  next => cases h
  split at h
  next => cases h; exact .inl ⟨rfl, rfl, rfl, by simp only; omega, by simp only; omega, by simp only; omega⟩
  split at h
  next => cases h; refine .inr (.inl ⟨rfl, ?_, ?_, ?_, ?_, ?_, ?_⟩) <;> simp only <;> omega
  split at h
  next => cases h; refine .inr (.inl ⟨rfl, ?_, ?_, ?_, ?_, ?_, ?_⟩) <;> simp only <;> omega
  split at h
  next => cases h; refine .inr (.inl ⟨rfl, ?_, ?_, ?_, ?_, ?_, ?_⟩) <;> simp only <;> omega
  split at h
  next => cases h; refine .inr (.inr ⟨rfl, ?_, ?_, ?_, ?_, ?_, ?_⟩) <;> simp only <;> omega
  split at h
  next => cases h; refine .inr (.inr ⟨rfl, ?_, ?_, ?_, ?_, ?_, ?_⟩) <;> simp only <;> omega
  split at h
  next => cases h; refine .inr (.inr ⟨rfl, ?_, ?_, ?_, ?_, ?_, ?_⟩) <;> simp only <;> omega
  next => cases h

/-- **Where a character is read, its bytes are in front.** -/
theorem encode_of_decodeOne {b : UInt8} {bs : List UInt8} {c : Char} {k : Nat}
    (h : decodeOne b bs = (some c, k)) :
    String.utf8EncodeChar c = b :: bs.take k ∧ k ≤ bs.length := by
  rw [decodeOne] at h
  split at h
  next hb =>
    rw [UInt8.lt_iff_toNat_lt] at hb
    cases h
    exact ⟨encode_one rfl hb, Nat.zero_le _⟩
  split at h
  next => cases h
  next l hl =>
    simp only [Prod.mk.injEq, Option.map_eq_some_iff] at h
    obtain ⟨⟨v, hv, rfl⟩, hk⟩ := h
    have hc : continuation l.tail l.low l.high l.bits bs = (some v, k) := Prod.ext hv hk
    obtain ⟨ht, hlow, hhigh, hb, hge, hlt⟩ | ⟨ht, hb, hbits, hlow, hhigh, hzero, hlast⟩ |
      ⟨ht, hb, hbits, hlow, hhigh, hzero, hlast⟩ := lead?_eq_some hl
    · rw [ht] at hc
      obtain ⟨b₁, bs, k₁, rfl, hl₁, hh₁, hc₁, rfl⟩ := continuation_eq_some hc
      rw [hlow] at hl₁
      rw [hhigh] at hh₁
      replace hl₁ : 0x80 ≤ b₁.toNat := hl₁
      replace hh₁ : b₁.toNat ≤ 0xBF := hh₁
      simp only [continuation_zero, Prod.mk.injEq, Option.some.injEq] at hc₁
      obtain ⟨rfl, rfl⟩ := hc₁
      refine ⟨?_, by simp⟩
      show _ = [b, b₁]
      exact encode_two (by omega) (by omega) (by omega) (by omega)
    · rw [ht] at hc
      obtain ⟨b₁, bs, k₁, rfl, hl₁, hh₁, hc₁, rfl⟩ := continuation_eq_some hc
      obtain ⟨b₂, bs, k₂, rfl, hl₂, hh₂, hc₂, rfl⟩ := continuation_eq_some hc₁
      replace hl₂ : 0x80 ≤ b₂.toNat := hl₂
      replace hh₂ : b₂.toNat ≤ 0xBF := hh₂
      simp only [continuation_zero, Prod.mk.injEq, Option.some.injEq] at hc₂
      obtain ⟨rfl, rfl⟩ := hc₂
      refine ⟨?_, by simp⟩
      show _ = [b, b₁, b₂]
      exact encode_three (by omega) (by omega) (by omega) (by omega) (by omega) (by omega)
    · rw [ht] at hc
      obtain ⟨b₁, bs, k₁, rfl, hl₁, hh₁, hc₁, rfl⟩ := continuation_eq_some hc
      obtain ⟨b₂, bs, k₂, rfl, hl₂, hh₂, hc₂, rfl⟩ := continuation_eq_some hc₁
      obtain ⟨b₃, bs, k₃, rfl, hl₃, hh₃, hc₃, rfl⟩ := continuation_eq_some hc₂
      replace hl₂ : 0x80 ≤ b₂.toNat := hl₂
      replace hh₂ : b₂.toNat ≤ 0xBF := hh₂
      replace hl₃ : 0x80 ≤ b₃.toNat := hl₃
      replace hh₃ : b₃.toNat ≤ 0xBF := hh₃
      simp only [continuation_zero, Prod.mk.injEq, Option.some.injEq] at hc₃
      obtain ⟨rfl, rfl⟩ := hc₃
      refine ⟨?_, by simp⟩
      show _ = [b, b₁, b₂, b₃]
      exact encode_four (by omega) (by omega) (by omega) (by omega) (by omega) (by omega)

/-! ## Texts -/

theorem encode_cons (c : Char) (cs : List Char) :
    encode (c :: cs) = String.utf8EncodeChar c ++ encode cs := List.flatMap_cons

theorem decodeFrom_encode (index : Nat) (cs : List Char) : decodeFrom index (encode cs) = .ok cs := by
  induction cs generalizing index with
  | nil =>
    rw [encode, List.flatMap_nil, decodeFrom]
  | cons c cs ih =>
    obtain ⟨b, bs, hc, hd⟩ := decodeOne_encode c (encode cs)
    rw [encode_cons, hc, List.cons_append, decodeFrom, hd]
    simp only [List.drop_left, ih]
    rfl

theorem eq_encode_of_decodeFrom {index : Nat} {bs : List UInt8} {cs : List Char}
    (h : decodeFrom index bs = .ok cs) : bs = encode cs := by
  induction cs generalizing index bs with
  | nil =>
    cases bs with
    | nil => rfl
    | cons b bs =>
      rw [decodeFrom] at h
      split at h
      next => cases hd : decodeFrom _ _ <;> rw [hd] at h <;> cases h
      next => split at h <;> cases h
  | cons c cs ih =>
    cases bs with
    | nil => rw [decodeFrom] at h; cases h
    | cons b bs =>
      rw [decodeFrom] at h
      split at h
      next c' k hone =>
        cases hd : decodeFrom (index + k + 1) (bs.drop k) with
        | error e => rw [hd] at h; cases h
        | ok cs' =>
          rw [hd] at h
          cases h
          have hrest := ih hd
          obtain ⟨hc, _⟩ := encode_of_decodeOne hone
          rw [encode_cons, hc, ← hrest, List.cons_append, List.take_append_drop]
      next => split at h <;> cases h

/-- **Bytes are read as a text exactly if they are the bytes of that text.** -/
theorem decode_eq_ok {bs : List UInt8} {s : String} : decode bs = .ok s ↔ bs = ofString s := by
  unfold decode ofString
  constructor
  · intro h
    cases hd : decodeFrom 0 bs with
    | error e => rw [hd] at h; cases h
    | ok cs =>
      rw [hd] at h
      cases h
      rw [String.toList_ofList]
      exact eq_encode_of_decodeFrom hd
  · rintro rfl
    rw [decodeFrom_encode]
    show Except.ok (String.ofList s.toList) = _
    rw [String.ofList_toList]

theorem decode_ofString (s : String) : decode (ofString s) = .ok s := decode_eq_ok.2 rfl

theorem ofString_append (s t : String) : ofString (s ++ t) = ofString s ++ ofString t := by
  rw [ofString, String.toList_append, encode, List.flatMap_append]
  rfl

/-- A text has as many bytes as it says. -/
theorem length_ofString (s : String) : (ofString s).length = s.utf8ByteSize := by
  have h : s.toByteArray = (ofString s).toByteArray := by
    rw [ofString, encode, ← List.utf8Encode, ← String.toByteArray_ofList, String.ofList_toList]
  rw [← String.size_toByteArray, h, List.size_toByteArray]

/-- A byte below `0x80` among the bytes of a character is that character. -/
theorem eq_of_mem_utf8EncodeChar {c : Char} {b : UInt8} (h : b ∈ String.utf8EncodeChar c)
    (hb : b.toNat < 0x80) : b.toNat = c.toNat := by
  have hc := toNat_valid c
  have hv : c.val.toNat = c.toNat := rfl
  unfold String.utf8EncodeChar at h
  simp only [hv] at h
  generalize c.toNat = v at h hc
  have big (k : Nat) (hk : k < 64) : ¬ (UInt8.ofNat (k + 0x80)).toNat < 0x80 := by
    rw [toNat_ofNat (by omega)]
    omega
  split at h
  next h1 =>
    obtain rfl := List.mem_singleton.1 h
    exact toNat_ofNat (by omega)
  next h1 =>
    exfalso
    split at h
    next h2 =>
      simp only [List.mem_cons, List.not_mem_nil, or_false] at h
      rcases h with rfl | rfl
      · rw [toNat_ofNat (by omega)] at hb; omega
      · exact big _ (by omega) hb
    next h2 =>
      split at h
      next h3 =>
        simp only [List.mem_cons, List.not_mem_nil, or_false] at h
        rcases h with rfl | rfl | rfl
        · rw [toNat_ofNat (by omega)] at hb; omega
        · exact big _ (by omega) hb
        · exact big _ (by omega) hb
      next h3 =>
        simp only [List.mem_cons, List.not_mem_nil, or_false] at h
        rcases h with rfl | rfl | rfl | rfl
        · rw [toNat_ofNat (by omega)] at hb; omega
        · exact big _ (by omega) hb
        · exact big _ (by omega) hb
        · exact big _ (by omega) hb

/-- A text without a line break has no byte that is one. -/
theorem not_mem_ofString {s : String} (h : '\n' ∉ s.toList) : (0x0A : UInt8) ∉ ofString s := by
  intro hmem
  obtain ⟨c, hc, hb⟩ := List.mem_flatMap.1 hmem
  have hn : (0x0A : UInt8).toNat = c.toNat := eq_of_mem_utf8EncodeChar hb (by decide)
  have : c = '\n' := Char.toNat_inj.1 hn.symm
  exact h (this ▸ hc)

end LanguageClient.Utf8
