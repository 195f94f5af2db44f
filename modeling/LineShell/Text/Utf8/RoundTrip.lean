import LineShell.Text.Utf8

/-!
What is written is read back: decoding undoes encoding, and the byte strings that some text is
written with are exactly the valid ones.
-/
namespace LineShell.Utf8

theorem toNat_byte {n : Nat} (h : n < 256) : (UInt8.ofNat n).toNat = n := by simp; omega

theorem step_of_begins {b : UInt8} {g : Begun} (h : lead b = .begins g) :
    Progress.step {} b = { begun := some g } := by
  simp only [Progress.step, Progress.start, h]

/-- A byte in the range of the character begun adds six bits to it. -/
theorem step_begun (g : Begun) (r : Text) {n : Nat} (hn : n < 64) (hl : g.low.toNat ≤ n + 128)
    (hh : n + 128 ≤ g.high.toNat) :
    Progress.step ⟨some g, r⟩ (UInt8.ofNat (n + 128)) =
      match g.later with
      | 0 => { reversed := Char.ofNat (g.bits * 64 + n) :: r }
      | later + 1 => { begun := some { bits := g.bits * 64 + n, later }, reversed := r } := by
  have hb := toNat_byte (show n + 128 < 256 by omega)
  have hm : (n + 128) % 64 = n := by omega
  unfold Progress.step
  cases h : g.later <;> simp only [UInt8.le_iff_toNat_le, hb, hl, hh, hm, h, and_self, if_true]

theorem lead_two {n : Nat} (h₁ : 2 ≤ n) (h₂ : n < 32) :
    lead (UInt8.ofNat (n + 192)) = .begins { bits := n, later := 0 } := by
  have hb := toNat_byte (show n + 192 < 256 by omega)
  unfold lead
  simp only [UInt8.lt_iff_toNat_lt, hb, UInt8.reduceToNat]
  rw [if_neg (by omega), if_neg (by omega), if_pos (by omega)]
  congr 2
  omega

theorem lead_three {n : Nat} (h₁ : n < 16) (h₂ : n ≠ 0) (h₃ : n ≠ 13) :
    lead (UInt8.ofNat (n + 224)) = .begins { bits := n, later := 1 } := by
  have hb := toNat_byte (show n + 224 < 256 by omega)
  unfold lead
  simp only [UInt8.lt_iff_toNat_lt, ← UInt8.toNat_inj, hb, UInt8.reduceToNat]
  rw [if_neg (by omega), if_neg (by omega), if_neg (by omega), if_neg (by omega),
    if_neg (by omega), if_pos (by omega)]
  congr 2
  omega

theorem lead_four {n : Nat} (h₁ : n < 4) (h₂ : n ≠ 0) :
    lead (UInt8.ofNat (n + 240)) = .begins { bits := n, later := 2 } := by
  have hb := toNat_byte (show n + 240 < 256 by omega)
  unfold lead
  simp only [UInt8.lt_iff_toNat_lt, ← UInt8.toNat_inj, hb, UInt8.reduceToNat]
  rw [if_neg (by omega), if_neg (by omega), if_neg (by omega), if_neg (by omega),
    if_neg (by omega), if_neg (by omega), if_neg (by omega), if_pos (by omega)]
  congr 2
  omega

/-- A byte that begins a character, and one in the range that it sets. -/
theorem step_two {b : UInt8} {g : Begun} {n bits later : Nat} (h : lead b = .begins g)
    (hg : g.later = later + 1) (hn : n < 64) (hl : g.low.toNat ≤ n + 128)
    (hh : n + 128 ≤ g.high.toNat) (hb : g.bits * 64 + n = bits) :
    Progress.step (Progress.step {} b) (UInt8.ofNat (n + 128)) =
      { begun := some { bits, later } } := by
  rw [step_of_begins h, step_begun g [] hn hl hh, hg, ← hb]

theorem foldl_step_two {v : Nat} (h₁ : 127 < v) (h₂ : v ≤ 2047) :
    [UInt8.ofNat (v / 64 % 32 + 192), UInt8.ofNat (v % 64 + 128)].foldl Progress.step {} =
      { reversed := [Char.ofNat v] } := by
  simp only [List.foldl_cons, List.foldl_nil]
  rw [step_of_begins (lead_two (n := v / 64 % 32) (by omega) (by omega)),
    step_begun _ _ (by omega) (by simp) (by simp; omega)]
  simp only [show v / 64 % 32 * 64 + v % 64 = v by omega]

theorem foldl_step_three {v : Nat} (hv : v < 0xD800 ∨ 0xDFFF < v) (h₁ : 2047 < v)
    (h₂ : v ≤ 65535) :
    [UInt8.ofNat (v / 4096 % 16 + 224), UInt8.ofNat (v / 64 % 64 + 128),
      UInt8.ofNat (v % 64 + 128)].foldl Progress.step {} = { reversed := [Char.ofNat v] } := by
  have hv₁ : v / 4096 % 16 * 64 + v / 64 % 64 = v / 64 := by omega
  have second : Progress.step (Progress.step {} (UInt8.ofNat (v / 4096 % 16 + 224)))
      (UInt8.ofNat (v / 64 % 64 + 128)) = { begun := some { bits := v / 64, later := 0 } } := by
    by_cases h0 : v / 4096 % 16 = 0
    · have hl : lead (UInt8.ofNat (v / 4096 % 16 + 224)) =
          .begins { bits := 0, later := 1, low := 0xA0 } := by rw [h0]; rfl
      exact step_two hl rfl (by omega) (by simp; omega) (by simp; omega) (by simp; omega)
    · by_cases h13 : v / 4096 % 16 = 13
      · have hl : lead (UInt8.ofNat (v / 4096 % 16 + 224)) =
            .begins { bits := 13, later := 1, high := 0x9F } := by rw [h13]; rfl
        exact step_two hl rfl (by omega) (by simp) (by simp; omega) (by simp; omega)
      · exact step_two (lead_three (by omega) h0 h13) rfl (by omega) (by simp) (by simp; omega) hv₁
  simp only [List.foldl_cons, List.foldl_nil]
  rw [second, step_begun _ _ (by omega) (by simp) (by simp; omega)]
  simp only [show v / 64 * 64 + v % 64 = v by omega]

theorem foldl_step_four {v : Nat} (h₁ : 65535 < v) (h₂ : v < 0x110000) :
    [UInt8.ofNat (v / 262144 % 8 + 240), UInt8.ofNat (v / 4096 % 64 + 128),
      UInt8.ofNat (v / 64 % 64 + 128), UInt8.ofNat (v % 64 + 128)].foldl Progress.step {} =
      { reversed := [Char.ofNat v] } := by
  have hv₁ : v / 262144 % 8 * 64 + v / 4096 % 64 = v / 4096 := by omega
  have second : Progress.step (Progress.step {} (UInt8.ofNat (v / 262144 % 8 + 240)))
      (UInt8.ofNat (v / 4096 % 64 + 128)) = { begun := some { bits := v / 4096, later := 1 } } := by
    by_cases h0 : v / 262144 % 8 = 0
    · have hl : lead (UInt8.ofNat (v / 262144 % 8 + 240)) =
          .begins { bits := 0, later := 2, low := 0x90 } := by rw [h0]; rfl
      exact step_two hl rfl (by omega) (by simp; omega) (by simp; omega) (by simp; omega)
    · by_cases h4 : v / 262144 % 8 = 4
      · have hl : lead (UInt8.ofNat (v / 262144 % 8 + 240)) =
            .begins { bits := 4, later := 2, high := 0x8F } := by rw [h4]; rfl
        exact step_two hl rfl (by omega) (by simp) (by simp; omega) (by simp; omega)
      · exact step_two (lead_four (by omega) h0) rfl (by omega) (by simp) (by simp; omega) hv₁
  simp only [List.foldl_cons, List.foldl_nil]
  rw [second, step_begun _ _ (by omega) (by simp) (by simp; omega)]
  simp only [show v / 4096 * 64 + v / 64 % 64 = v / 64 by omega]
  rw [step_begun _ _ (by omega) (by simp) (by simp; omega)]
  simp only [show v / 64 * 64 + v % 64 = v by omega]

theorem foldl_step_encodeChar (c : Char) :
    (String.utf8EncodeChar c).foldl Progress.step {} = { reversed := [c] } := by
  have hv : c.val.toNat < 0xD800 ∨ 0xDFFF < c.val.toNat ∧ c.val.toNat < 0x110000 := c.valid
  have hc : Char.ofNat c.val.toNat = c := Char.ofNat_toNat c
  conv => rhs; rw [← hc]
  unfold String.utf8EncodeChar
  simp only
  split
  next h =>
    have hl : lead (UInt8.ofNat c.val.toNat) = .whole (Char.ofNat c.val.toNat) := by
      have hb := toNat_byte (show c.val.toNat < 256 by omega)
      unfold lead
      rw [if_pos (by rw [UInt8.lt_iff_toNat_lt, hb]; exact Nat.lt_succ_of_le h), hb]
    simp only [List.foldl_cons, List.foldl_nil, Progress.step, Progress.start, hl]
  split
  · exact foldl_step_two (v := c.val.toNat) (by omega) (by omega)
  split
  · exact foldl_step_three (v := c.val.toNat) (by omega) (by omega) (by omega)
  · exact foldl_step_four (v := c.val.toNat) (by omega) (by omega)

theorem decode_encode_append (t : Text) (b : Bytes) : decode (encode t ++ b) = t ++ decode b := by
  induction t with
  | nil => rfl
  | cons c t ih =>
    have := decode_append_of_ended (t := [c]) (b := encode t ++ b) (foldl_step_encodeChar c)
    rw [ih] at this
    simpa [encode] using this

/-- Text is read back as it was written. -/
theorem decode_encode (t : Text) : decode (encode t) = t := by
  simpa [show decode [] = [] from rfl] using decode_encode_append t []

/-- Exactly the encodings are valid. -/
theorem decode?_eq_some_iff {bytes : Bytes} {t : Text} :
    decode? bytes = some t ↔ bytes = encode t := by
  unfold decode?
  constructor
  · intro h
    split at h
    next he => obtain rfl := by simpa using h
               exact he.symm
    · simp at h
  · rintro rfl
    simp [decode_encode]

/-- A byte below `80` is a character wherever one may begin. -/
theorem decode_cons_ascii {b : UInt8} (hb : b < 0x80) (bytes : Bytes) :
    decode (b :: bytes) = Char.ofNat b.toNat :: decode bytes :=
  decode_append_of_ended (foldl_step_ascii [] hb)

theorem head?_of_encode {t : Text} {b : UInt8} (hb : b < 0x80) (h : (encode t).head? = some b) :
    t.head? = some (Char.ofNat b.toNat) := by
  obtain ⟨bytes, he⟩ := List.head?_eq_some_iff.1 h
  rw [← decode_encode t, he, decode_cons_ascii hb, List.head?_cons]

/-- A character is written with a single byte below `80`, or with bytes that are not. -/
theorem encodeChar_ascii_or_high (c : Char) :
    (∃ b < 0x80, String.utf8EncodeChar c = [b] ∧ Char.ofNat b.toNat = c) ∨
      ∀ b ∈ String.utf8EncodeChar c, 0x80 ≤ b := by
  unfold String.utf8EncodeChar
  simp only
  split
  next h =>
    have hb := toNat_byte (show c.val.toNat < 256 by omega)
    refine .inl ⟨_, ?_, rfl, ?_⟩
    · rw [UInt8.lt_iff_toNat_lt, hb]
      exact Nat.lt_succ_of_le h
    · rw [hb]
      exact Char.ofNat_toNat c
  · right
    have high {n : Nat} (h : 128 ≤ n) (hn : n < 256) : (0x80 : UInt8) ≤ UInt8.ofNat n := by
      rw [UInt8.le_iff_toNat_le, toNat_byte hn]
      exact h
    intro b hb
    split at hb
    · simp only [List.mem_cons, List.not_mem_nil, or_false] at hb
      rcases hb with rfl | rfl <;> exact high (by omega) (by omega)
    split at hb
    · simp only [List.mem_cons, List.not_mem_nil, or_false] at hb
      rcases hb with rfl | rfl | rfl <;> exact high (by omega) (by omega)
    · simp only [List.mem_cons, List.not_mem_nil, or_false] at hb
      rcases hb with rfl | rfl | rfl | rfl <;> exact high (by omega) (by omega)

end LineShell.Utf8
