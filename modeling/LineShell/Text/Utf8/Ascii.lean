import LineShell.Text.Octets
import LineShell.Text.Utf8.RoundTrip
import Mathlib.Tactic.SplitIfs

/-!
Bytes below `80` and the characters of the same numbers go with each other in both directions: such
a character is decoded only from its own byte, and such a byte is written only for its own
character.
-/
namespace LineShell.Utf8

/-- With a next byte in the range of the character begun, its bits stay within those of a code point
from `80` on, of which so many bytes are still to come. -/
def Begun.IsWide (g : Begun) : Prop :=
  ∀ n, g.low.toNat ≤ n → n ≤ g.high.toNat →
    let bits := g.bits * 64 + n % 64
    (g.later = 0 → 0x80 ≤ bits ∧ bits.isValidChar) ∧
      (g.later = 1 → 2 ≤ bits ∧ bits < 0x360 ∨ 0x380 ≤ bits ∧ bits < 0x4400) ∧
      (g.later = 2 → 0x10 ≤ bits ∧ bits < 0x110) ∧ g.later < 3

theorem isWide_of_lead {b : UInt8} {g : Begun} (h : lead b = .begins g) : g.IsWide := by
  unfold lead at h
  simp only [UInt8.lt_iff_toNat_lt, ← UInt8.toNat_inj, UInt8.reduceToNat] at h
  intro n hl hh
  split_ifs at h
  -- The range of the second byte keeps out the overlong forms and the surrogates.
  all_goals
    obtain rfl := by simpa using h
    simp only [UInt8.reduceToNat, Nat.isValidChar] at hl hh ⊢
    omega

theorem Begun.IsWide.next {g : Begun} (hg : g.IsWide) {later n : Nat} (hlater : g.later = later + 1)
    (hl : g.low.toNat ≤ n) (hh : n ≤ g.high.toNat) :
    Begun.IsWide { bits := g.bits * 64 + n % 64, later } := by
  intro m _ _
  obtain ⟨-, h₁, h₂, h₃⟩ := hg n hl hh
  simp only [Nat.isValidChar]
  omega

/-- The character begun, if any, is none below `80`. -/
def Progress.IsWide (p : Progress) : Prop := ∀ g, p.begun = some g → g.IsWide

theorem Progress.isWide_start (reversed : Text) (b : UInt8) : (start reversed b).IsWide := by
  intro g hg
  unfold start at hg
  split at hg
  · simp at hg
  next begun hlead =>
    obtain rfl := by simpa using hg
    exact isWide_of_lead hlead
  · simp at hg

theorem Progress.IsWide.step {p : Progress} (hp : p.IsWide) (b : UInt8) : (p.step b).IsWide := by
  unfold Progress.step
  split
  · exact isWide_start _ _
  next g hg =>
    split
    next hb =>
      split
      · simp [IsWide]
      next later hlater =>
        intro g' hg'
        obtain rfl := by simpa using hg'
        exact (hp g hg).next hlater (UInt8.le_iff_toNat_le.1 hb.1) (UInt8.le_iff_toNat_le.1 hb.2)
    · exact isWide_start _ _

theorem not_ascii_replacement {c : Char} (hc : c.toNat < 0x80) : c ≠ replacement := by
  rintro rfl
  exact absurd hc (by decide)

theorem Progress.ascii_of_start {reversed : Text} {b : UInt8} {c : Char} (hc : c.toNat < 0x80)
    (h : c ∈ (start reversed b).reversed) :
    c ∈ reversed ∨ b < 0x80 ∧ Char.ofNat b.toNat = c := by
  have hr := not_ascii_replacement hc
  unfold start at h
  split at h
  next d hlead =>
    rcases List.mem_cons.1 h with rfl | h
    · refine .inr ?_
      unfold lead at hlead
      split_ifs at hlead with hb
      exact ⟨hb, by simpa using hlead⟩
    · exact .inl h
  · exact .inl h
  · exact .inl ((List.mem_cons.1 h).resolve_left hr)

/-- A byte adds no character below `80` but its own. -/
theorem Progress.ascii_of_step {p : Progress} (hp : p.IsWide) {b : UInt8} {c : Char}
    (hc : c.toNat < 0x80) (h : c ∈ (p.step b).reversed) :
    c ∈ p.reversed ∨ b < 0x80 ∧ Char.ofNat b.toNat = c := by
  have hr := not_ascii_replacement hc
  unfold step at h
  split at h
  · exact ascii_of_start hc h
  next g hg =>
    split at h
    next hb =>
      obtain ⟨hlow, hhigh⟩ := hb
      rw [UInt8.le_iff_toNat_le] at hlow hhigh
      split at h
      next hlater =>
        obtain ⟨hwide, hvalid⟩ := (hp g hg _ hlow hhigh).1 hlater
        refine .inl ((List.mem_cons.1 h).resolve_left ?_)
        rintro rfl
        have hn : (Char.ofNat (g.bits * 64 + b.toNat % 64)).toNat = g.bits * 64 + b.toNat % 64 := by
          rw [Char.ofNat, dif_pos hvalid]
          rfl
        omega
      · exact .inl h
    · refine (ascii_of_start hc h).imp_left fun h => ?_
      exact (List.mem_cons.1 h).resolve_left hr

theorem ascii_of_foldl_step {bytes : Bytes} {p : Progress} (hp : p.IsWide) {c : Char}
    (hc : c.toNat < 0x80) (h : c ∈ (bytes.foldl Progress.step p).reversed) :
    c ∈ p.reversed ∨ ∃ b ∈ bytes, b < 0x80 ∧ Char.ofNat b.toNat = c := by
  induction bytes generalizing p with
  | nil => exact .inl h
  | cons b bytes ih =>
    rcases ih (hp.step b) h with h | ⟨b', hb', hown⟩
    · exact (Progress.ascii_of_step hp hc h).imp_right fun hown => ⟨b, List.mem_cons_self, hown⟩
    · exact .inr ⟨b', List.mem_cons_of_mem _ hb', hown⟩

/-- A character below `80` is decoded only from its own byte. -/
theorem exists_byte_of_mem_decode {bytes : Bytes} {c : Char} (hc : c.toNat < 0x80)
    (h : c ∈ decode bytes) : ∃ b ∈ bytes, b < 0x80 ∧ Char.ofNat b.toNat = c := by
  have hfold : c ∈ (bytes.foldl Progress.step {}).reversed := by
    unfold decode Progress.text at h
    split at h
    · exact List.mem_reverse.1 h
    · exact (List.mem_cons.1 (List.mem_reverse.1 h)).resolve_left (not_ascii_replacement hc)
  have hstart : Progress.IsWide {} := by simp [Progress.IsWide]
  exact (ascii_of_foldl_step hstart hc hfold).resolve_left (by simp)

theorem newline_not_mem_decode {bytes : Bytes} (h : ∀ b ∈ bytes, (b == 0x0A) = false) :
    '\n' ∉ decode bytes := by
  intro hm
  obtain ⟨b, hb, hlt, hc⟩ := exists_byte_of_mem_decode (by decide) hm
  have hn : b.toNat = 10 := by
    have := congrArg Char.toNat hc
    rwa [Text.toNat_ofNat_byte] at this
  have := h b hb
  simp [← UInt8.toNat_inj, hn] at this

/-- A byte below `80` is written only for its own character. -/
theorem mem_of_mem_encode {t : Text} {b : UInt8} (hb : b < 0x80) (h : b ∈ encode t) :
    Char.ofNat b.toNat ∈ t := by
  obtain ⟨c, hc, hbc⟩ := List.mem_flatMap.1 h
  rcases encodeChar_ascii_or_high c with ⟨b', -, he, rfl⟩ | hhigh
  · rw [he] at hbc
    obtain rfl := List.mem_singleton.1 hbc
    exact hc
  · exact absurd hb (UInt8.not_lt.2 (hhigh b hbc))

theorem encode_append (a b : Text) : encode (a ++ b) = encode a ++ encode b := by simp [encode]

/-- The last byte of a text is one below `80` only where the last character is its own. -/
theorem getLast?_of_encode {t : Text} {b : UInt8} (hb : b < 0x80)
    (h : (encode t).getLast? = some b) : t.getLast? = some (Char.ofNat b.toNat) := by
  rcases t.eq_nil_or_concat with rfl | ⟨front, c, rfl⟩
  · simp [encode] at h
  have hne : encode [c] ≠ [] := by simp [encode]
  rw [List.concat_eq_append, encode_append, List.getLast?_append,
    List.getLast?_eq_some_getLast hne, Option.some_or] at h
  obtain rfl := Option.some.inj h
  have hm := mem_of_mem_encode hb (List.getLast_mem hne)
  rw [List.concat_eq_append, List.getLast?_concat, List.mem_singleton.1 hm]

end LineShell.Utf8
