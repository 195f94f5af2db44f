import LineShell.Text.Utf8.Ascii

/-!
Byte offsets in a text. A text can be cut at an offset where a character begins, and at its end.
-/
namespace LineShell

theorem Utf8.encode_injective : Function.Injective encode :=
  Function.LeftInverse.injective decode_encode

namespace Text

theorem length_encode (t : Text) : (Utf8.encode t).length = byteLength t := by
  induction t with
  | nil => rfl
  | cons c t ih =>
    have hcons : Utf8.encode (c :: t) = String.utf8EncodeChar c ++ Utf8.encode t := rfl
    rw [hcons, List.length_append, ih, String.length_utf8EncodeChar]
    rfl

/-- The bytes in front of offset `n` spell one text, and the bytes from there on another one. -/
structure CutsAt (t : Text) (n : Nat) (front behind : Text) : Prop where
  inside : n ≤ (Utf8.encode t).length
  front : (Utf8.encode t).take n = Utf8.encode front
  behind : (Utf8.encode t).drop n = Utf8.encode behind

theorem cutsAt_iff {t front behind : Text} {n : Nat} :
    CutsAt t n front behind ↔ front ++ behind = t ∧ byteLength front = n := by
  constructor
  · intro ⟨hinside, hfront, hbehind⟩
    have hbytes : Utf8.encode (front ++ behind) = Utf8.encode t := by
      rw [Utf8.encode_append, ← hfront, ← hbehind, List.take_append_drop]
    have hlength : (Utf8.encode front).length = n := by
      rw [← hfront, List.length_take_of_le hinside]
    exact ⟨Utf8.encode_injective hbytes, by rw [← length_encode, hlength]⟩
  · rintro ⟨rfl, hn⟩
    have hlength : (Utf8.encode front).length = n := by rw [length_encode, hn]
    refine ⟨?_, ?_, ?_⟩
    · rw [Utf8.encode_append, List.length_append, hlength]
      omega
    · rw [Utf8.encode_append, List.take_left' hlength]
    · rw [Utf8.encode_append, List.drop_left' hlength]

/-- What is behind an offset is there exactly if the text can be cut at it. -/
theorem dropBytes?_eq_some_iff {t behind : Text} {n : Nat} :
    t.dropBytes? n = some behind ↔ ∃ front, CutsAt t n front behind := by
  constructor
  · intro h
    fun_induction dropBytes? t n with
    | case1 t =>
      obtain rfl := Option.some.inj h
      exact ⟨[], cutsAt_iff.2 ⟨rfl, rfl⟩⟩
    | case2 => simp at h
    | case3 c t n hsize ih =>
      obtain ⟨front, hcut⟩ := ih h
      obtain ⟨rfl, hn⟩ := cutsAt_iff.1 hcut
      have hlength : byteLength (c :: front) = c.utf8Size + byteLength front := rfl
      refine ⟨c :: front, cutsAt_iff.2 ⟨rfl, ?_⟩⟩
      omega
    | case4 => simp at h
  · rintro ⟨front, hcut⟩
    obtain ⟨rfl, rfl⟩ := cutsAt_iff.1 hcut
    exact dropBytes?_append front behind

end Text
end LineShell
