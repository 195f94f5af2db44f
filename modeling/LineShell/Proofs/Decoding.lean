import LineShell.Text.Utf8.RoundTrip
import Mathlib.Algebra.Group.Nat.Defs
import Mathlib.Tactic.SplitIfs

/-!
What decoding makes of any byte string. From left to right, it is parted into characters and
undecodable parts, each as long as it can be. There is one such parting, and decoding shows each of
its undecodable parts as one replacement character.
-/
namespace LineShell.Utf8

/-- These are the first bytes of some character. -/
def Begins (part : Bytes) : Prop := ∃ c, part <+: String.utf8EncodeChar c

/-- Bytes in front of `rest` that are shown as one replacement character: no character can be read
there, and of what begins one this is all, or else a single byte. -/
structure Undecodable (part rest : Bytes) : Prop where
  nonempty : part ≠ []
  unread : ∀ c, ¬ String.utf8EncodeChar c <+: part ++ rest
  begins : part.length = 1 ∨ Begins part
  longest : ∀ more, more <+: rest → more ≠ [] → ¬ Begins (part ++ more)

/-- A byte string as it is read from left to right. -/
inductive Reads : Bytes → Text → Prop
  | done : Reads [] []
  | character (c : Char) {rest : Bytes} {t : Text} (later : Reads rest t) :
      Reads (String.utf8EncodeChar c ++ rest) (c :: t)
  | undecodable {part rest : Bytes} {t : Text} (cut : Undecodable part rest)
      (later : Reads rest t) : Reads (part ++ rest) (replacement :: t)

theorem Begins.of_append {part more : Bytes} (h : Begins (part ++ more)) : Begins part := by
  obtain ⟨c, hc⟩ := h
  exact ⟨c, (List.prefix_append part more).trans hc⟩

/-! ### How much is shown -/

namespace Progress

/-- How many characters are shown if nothing follows. -/
def shown (p : Progress) : Nat := p.reversed.length + if p.begun.isSome then 1 else 0

def Continues (p : Progress) (b : UInt8) : Prop := ∃ g, p.begun = some g ∧ g.low ≤ b ∧ b ≤ g.high

theorem length_text (p : Progress) : p.text.length = p.shown := by
  unfold text shown
  split <;> simp_all

theorem shown_start (reversed : Text) (b : UInt8) :
    (start reversed b).shown = reversed.length + 1 := by
  unfold start shown
  split <;> simp

/-- A byte that goes on with a character adds nothing to what is shown. -/
theorem shown_step_of_continues {p : Progress} {b : UInt8} (h : p.Continues b) :
    (p.step b).shown = p.shown := by
  obtain ⟨g, hg, hb⟩ := h
  unfold step
  simp only [hg, hb, and_self, if_true]
  split <;> simp [shown, hg]

/-- Any other byte adds one character. -/
theorem shown_step_of_not_continues {p : Progress} {b : UInt8} (h : ¬ p.Continues b) :
    (p.step b).shown = p.shown + 1 := by
  unfold step
  split
  next hg =>
    rw [shown_start]
    simp [shown, hg]
  next g hg =>
    rw [if_neg fun hb => h ⟨g, hg, hb⟩, shown_start]
    simp [shown, hg]

theorem shown_le_foldl (p : Progress) (bytes : Bytes) : p.shown ≤ (bytes.foldl step p).shown := by
  induction bytes generalizing p with
  | nil => exact Nat.le_refl _
  | cons b bytes ih =>
    refine Nat.le_trans ?_ (ih (p.step b))
    by_cases h : p.Continues b
    · exact Nat.le_of_eq (shown_step_of_continues h).symm
    · rw [shown_step_of_not_continues h]
      exact Nat.le_succ _

end Progress

/-- Nothing that begins a character is shown as more than one. -/
theorem shown_of_begins {part : Bytes} (h : Begins part) :
    (part.foldl Progress.step {}).shown ≤ 1 := by
  obtain ⟨c, more, hc⟩ := h
  have hle := Progress.shown_le_foldl (part.foldl Progress.step {}) more
  rw [← List.foldl_append, hc, foldl_step_encodeChar] at hle
  exact hle

/-- Where a byte does not go on with what is there, the two together begin no character. -/
theorem not_begins_of_not_continues {part : Bytes} {b : UInt8}
    (hshown : 0 < (part.foldl Progress.step {}).shown)
    (hb : ¬ (part.foldl Progress.step {}).Continues b) : ¬ Begins (part ++ [b]) := by
  intro h
  have hle := shown_of_begins h
  rw [List.foldl_append, List.foldl_cons, List.foldl_nil,
    Progress.shown_step_of_not_continues hb] at hle
  omega

theorem decode_ne_nil {bytes : Bytes} (h : bytes ≠ []) : decode bytes ≠ [] := by
  obtain ⟨b, rest, rfl⟩ := List.exists_cons_of_ne_nil h
  have hone : (Progress.step {} b).shown = 1 :=
    Progress.shown_step_of_not_continues (by simp [Progress.Continues])
  have hle := Progress.shown_le_foldl (Progress.step {} b) rest
  rw [← List.length_pos_iff, decode, Progress.length_text, List.foldl_cons]
  omega

/-! ### Characters that have begun -/

/-- These bytes have begun a character, of which so much is known. -/
inductive Spells : Bytes → Begun → Prop
  | lead {b : UInt8} {g : Begun} (h : lead b = .begins g) : Spells [b] g
  | next {part : Bytes} {g : Begun} {b : UInt8} {later : Nat} (h : Spells part g)
      (low : g.low ≤ b) (high : b ≤ g.high) (more : g.later = later + 1) :
      Spells (part ++ [b]) { bits := g.bits * 64 + b.toNat % 64, later }

theorem foldl_step_of_spells {part : Bytes} {g : Begun} (h : Spells part g) :
    part.foldl Progress.step {} = { begun := some g } := by
  induction h with
  | lead h => exact step_of_begins h
  | next h low high more ih =>
    rw [List.foldl_append, ih, List.foldl_cons, List.foldl_nil]
    simp only [Progress.step, low, high, and_self, if_true, more]

/-- The last bytes of a code point, `n + 1` of them. -/
def lastBytes (v : Nat) : Nat → Bytes
  | 0 => [UInt8.ofNat (v % 64 + 128)]
  | n + 1 => UInt8.ofNat (v / 64 ^ (n + 1) % 64 + 128) :: lastBytes v n

theorem ofNat_eq_byte {n : Nat} {b : UInt8} (h : n = b.toNat) : UInt8.ofNat n = b := by
  rw [h, UInt8.ofNat_toNat]

theorem toNat_ofNat_of_valid {v : Nat} (hv : v.isValidChar) : (Char.ofNat v).val.toNat = v := by
  rw [Char.ofNat, dif_pos hv]
  rfl

/-- A first byte holds the first bits of the code point and sets the range of those behind them. -/
theorem encodeChar_of_lead {b : UInt8} {g : Begun} (h : lead b = .begins g) {v : Nat}
    (hbits : v / 64 ^ (g.later + 1) = g.bits) (low : g.low.toNat ≤ v / 64 ^ g.later % 64 + 128)
    (high : v / 64 ^ g.later % 64 + 128 ≤ g.high.toNat) :
    String.utf8EncodeChar (Char.ofNat v) = b :: lastBytes v g.later := by
  unfold lead at h
  simp only [UInt8.lt_iff_toNat_lt, ← UInt8.toNat_inj, UInt8.reduceToNat] at h
  split_ifs at h
  -- The range keeps out the overlong forms and the surrogates, so the length is that of the lead.
  all_goals
    obtain rfl := by simpa using h
    simp only [UInt8.reduceToNat] at hbits low high
    rw [String.utf8EncodeChar, toNat_ofNat_of_valid (by simp only [Nat.isValidChar]; omega)]
    dsimp only
    split_ifs
    all_goals first
      | omega
      | rw [ofNat_eq_byte (b := b) (by omega)]; rfl

theorem range_of_lead {b : UInt8} {g : Begun} (h : lead b = .begins g) :
    g.low ≤ g.high ∧ g.high ≤ 0xBF := by
  unfold lead at h
  split_ifs at h
  all_goals
    obtain rfl := by simpa using h
    dsimp only
    decide

theorem range_of_spells {part : Bytes} {g : Begun} (h : Spells part g) :
    g.low ≤ g.high ∧ g.high ≤ 0xBF := by
  cases h with
  | lead h => exact range_of_lead h
  | next =>
    dsimp only
    decide

/-- What has been read of a character is the first bytes of every code point with these bits. -/
theorem encodeChar_of_spells {part : Bytes} {g : Begun} (h : Spells part g) {v : Nat}
    (hbits : v / 64 ^ (g.later + 1) = g.bits) (low : g.low.toNat ≤ v / 64 ^ g.later % 64 + 128)
    (high : v / 64 ^ g.later % 64 + 128 ≤ g.high.toNat) :
    String.utf8EncodeChar (Char.ofNat v) = part ++ lastBytes v g.later := by
  induction h with
  | lead h => exact encodeChar_of_lead h hbits low high
  | @next part g b later h hlow hhigh more ih =>
    have hmin := g.le_low
    obtain ⟨-, hmax⟩ := range_of_spells h
    rw [UInt8.le_iff_toNat_le] at hlow hhigh hmin hmax
    simp only [UInt8.reduceToNat] at hmin hmax
    have hbits : v / 64 ^ (later + 1) = g.bits * 64 + b.toNat % 64 := hbits
    have hbyte : v / 64 ^ (later + 1) % 64 + 128 = b.toNat := by omega
    have hfront : v / 64 ^ (later + 1 + 1) = g.bits := by
      rw [Nat.pow_succ, ← Nat.div_div_eq_div_mul]
      omega
    rw [more] at ih
    rw [ih hfront (by omega) (by omega), lastBytes, ofNat_eq_byte hbyte]
    simp

theorem encodeChar_of_last {part : Bytes} {g : Begun} (h : Spells part g) (hlast : g.later = 0)
    {b : UInt8} (low : g.low ≤ b) (high : b ≤ g.high) :
    String.utf8EncodeChar (Char.ofNat (g.bits * 64 + b.toNat % 64)) = part ++ [b] := by
  have hmin := g.le_low
  obtain ⟨-, hmax⟩ := range_of_spells h
  rw [UInt8.le_iff_toNat_le] at low high hmin hmax
  simp only [UInt8.reduceToNat] at hmin hmax
  have hchar := encodeChar_of_spells (v := g.bits * 64 + b.toNat % 64) h
  simp only [hlast, lastBytes] at hchar
  rw [hchar (by omega) (by omega) (by omega), ofNat_eq_byte (b := b) (by omega)]

/-- A character that has begun can be gone on with. -/
theorem begins_of_spells {part : Bytes} {g : Begun} (h : Spells part g) : Begins part := by
  have hmin := g.le_low
  obtain ⟨hle, hmax⟩ := range_of_spells h
  rw [UInt8.le_iff_toNat_le] at hle hmin hmax
  simp only [UInt8.reduceToNat] at hmin hmax
  let v := (g.bits * 64 + (g.low.toNat - 128)) * 64 ^ g.later
  have hpos : 0 < 64 ^ g.later := Nat.pow_pos (by decide)
  have hnext : v / 64 ^ g.later = g.bits * 64 + (g.low.toNat - 128) := Nat.mul_div_cancel _ hpos
  have hbits : v / 64 ^ (g.later + 1) = g.bits := by
    rw [Nat.pow_succ, ← Nat.div_div_eq_div_mul, hnext]
    omega
  have hchar := encodeChar_of_spells h hbits (by rw [hnext]; omega) (by rw [hnext]; omega)
  exact ⟨Char.ofNat v, lastBytes v g.later, hchar.symm⟩

/-! ### The parting -/

theorem decode_encodeChar_append (c : Char) (rest : Bytes) :
    decode (String.utf8EncodeChar c ++ rest) = c :: decode rest :=
  decode_append_of_ended (t := [c]) (foldl_step_encodeChar c)

theorem encodeChar_of_whole {b : UInt8} {c : Char} (h : lead b = .whole c) :
    String.utf8EncodeChar c = [b] := by
  unfold lead at h
  split_ifs at h with hb
  obtain rfl := by simpa using h
  rw [UInt8.lt_iff_toNat_lt] at hb
  simp only [UInt8.reduceToNat] at hb
  rw [String.utf8EncodeChar, toNat_ofNat_of_valid (.inl (by omega)), if_pos (by omega),
    UInt8.ofNat_toNat]

/-- A part that is shown as one character, but is none, and that nothing goes on with. -/
theorem undecodable_of_shown {part rest : Bytes} (hshown : (part.foldl Progress.step {}).shown = 1)
    (hwhole : ∀ c, String.utf8EncodeChar c ≠ part) (hbegins : part.length = 1 ∨ Begins part)
    (hnext : ∀ b, rest.head? = some b → ¬ (part.foldl Progress.step {}).Continues b) :
    Undecodable part rest := by
  have hlongest : ∀ more, more <+: rest → more ≠ [] → ¬ Begins (part ++ more) := by
    intro more hmore hne hbegins
    obtain ⟨b, more, rfl⟩ := List.exists_cons_of_ne_nil hne
    obtain ⟨behind, rfl⟩ := hmore
    rw [← List.singleton_append (l := more), ← List.append_assoc] at hbegins
    exact not_begins_of_not_continues (by omega) (hnext b rfl) hbegins.of_append
  refine ⟨?_, fun c h => ?_, hbegins, hlongest⟩
  · rintro rfl
    simp [Progress.shown] at hshown
  -- A character that is read there would end within the part, or go on behind it.
  rcases List.prefix_or_prefix_of_prefix h (List.prefix_append part rest) with hshort | hlong
  · obtain ⟨more, rfl⟩ := hshort
    have hne : more ≠ [] := fun he => hwhole c (by rw [he, List.append_nil])
    rw [← Progress.length_text, ← decode, decode_encodeChar_append, List.length_cons] at hshown
    exact decode_ne_nil hne (List.length_eq_zero_iff.1 (by omega))
  · obtain ⟨more, hmore⟩ := hlong
    have hne : more ≠ [] := fun he => hwhole c (by rw [← hmore, he, List.append_nil])
    rw [← hmore] at h
    exact hlongest more ((List.prefix_append_right_inj part).1 h) hne ⟨c, hmore ▸ List.prefix_rfl⟩

theorem undecodable_of_invalid {b : UInt8} (h : lead b = .invalid) (rest : Bytes) :
    Undecodable [b] rest := by
  have hfold : [b].foldl Progress.step {} = { reversed := [replacement] } := by
    simp [Progress.step, Progress.start, h]
  refine undecodable_of_shown (by rw [hfold]; rfl) (fun c hc => ?_) (.inl rfl) fun d _ => ?_
  · have hread := foldl_step_encodeChar c
    rw [hc, hfold] at hread
    obtain rfl : replacement = c := by simpa using hread
    have hlength : (String.utf8EncodeChar replacement).length = 1 := congrArg List.length hc
    exact absurd hlength (by decide)
  · simp [hfold, Progress.Continues]

theorem undecodable_of_spells {part : Bytes} {g : Begun} (h : Spells part g) {rest : Bytes}
    (hnext : ∀ b, rest.head? = some b → ¬ (g.low ≤ b ∧ b ≤ g.high)) : Undecodable part rest := by
  have hfold := foldl_step_of_spells h
  refine undecodable_of_shown (by rw [hfold]; rfl) (fun c hc => ?_) (.inr (begins_of_spells h))
    fun b hb => ?_
  · have hread := foldl_step_encodeChar c
    rw [hc, hfold] at hread
    simp at hread
  · simpa [hfold, Progress.Continues] using hnext b hb

theorem decode_append_of_spells {part : Bytes} {g : Begun} (h : Spells part g) {rest : Bytes}
    (hnext : ∀ b, rest.head? = some b → ¬ (g.low ≤ b ∧ b ≤ g.high)) :
    decode (part ++ rest) = replacement :: decode rest := by
  have hfold := foldl_step_of_spells h
  cases rest with
  | nil =>
    rw [List.append_nil, decode, hfold]
    rfl
  | cons b rest =>
    have hcut : Progress.step { begun := some g } b =
        Progress.step { reversed := [replacement] } b := by
      simp only [Progress.step, hnext b rfl, if_false]
    have hafter : (part ++ b :: rest).foldl Progress.step {} =
        (b :: rest).foldl Progress.step { reversed := [replacement] } := by
      rw [List.foldl_append, hfold, List.foldl_cons, List.foldl_cons, hcut]
    rw [decode, hafter, foldl_step [replacement], decode]
    unfold Progress.text
    split <;> simp_all

/-- Goes on with a character that has begun, for as long as its bytes follow. -/
theorem reads_of_spells {part : Bytes} {g : Begun} (h : Spells part g) {rest : Bytes}
    (hrest : ∀ later, later <:+ rest → Reads later (decode later)) :
    Reads (part ++ rest) (decode (part ++ rest)) := by
  induction rest generalizing part g with
  | nil =>
    rw [decode_append_of_spells h (by simp)]
    exact .undecodable (undecodable_of_spells h (by simp)) .done
  | cons b rest ih =>
    have hbehind := List.suffix_cons b rest
    by_cases hb : g.low ≤ b ∧ b ≤ g.high
    · cases hlater : g.later with
      | zero =>
        have hchar := encodeChar_of_last h hlater hb.1 hb.2
        rw [← List.singleton_append, ← List.append_assoc, ← hchar, decode_encodeChar_append]
        exact .character _ (hrest rest hbehind)
      | succ later =>
        rw [← List.singleton_append, ← List.append_assoc]
        exact ih (.next h hb.1 hb.2 hlater) fun later hl => hrest later (hl.trans hbehind)
    · have hnext : ∀ d, (b :: rest).head? = some d → ¬ (g.low ≤ d ∧ d ≤ g.high) := by
        rintro d hd
        obtain rfl := Option.some.inj hd
        exact hb
      rw [decode_append_of_spells h hnext]
      exact .undecodable (undecodable_of_spells h hnext) (hrest _ List.suffix_rfl)

/-- Decoding reads every byte string. -/
theorem reads_decode (bytes : Bytes) : Reads bytes (decode bytes) := by
  induction hn : bytes.length using Nat.strongRecOn generalizing bytes with
  | ind n ih =>
    cases bytes with
    | nil => exact .done
    | cons b rest =>
      have hrest : ∀ later, later <:+ rest → Reads later (decode later) := by
        intro later hl
        have hle := hl.length_le
        rw [List.length_cons] at hn
        exact ih _ (by omega) later rfl
      cases hlead : lead b with
      | whole c =>
        rw [← List.singleton_append, ← encodeChar_of_whole hlead, decode_encodeChar_append]
        exact .character c (hrest rest List.suffix_rfl)
      | begins g => exact reads_of_spells (.lead hlead) hrest
      | invalid =>
        have hfold : [b].foldl Progress.step {} = { reversed := [replacement].reverse } := by
          simp [Progress.step, Progress.start, hlead]
        rw [← List.singleton_append, decode_append_of_ended hfold]
        exact .undecodable (undecodable_of_invalid hlead rest) (hrest rest List.suffix_rfl)

/-! ### There is no other -/

/-- A part that ends before another one could be longer. -/
theorem Undecodable.eq_nil {part more rest rest' : Bytes} (h : Undecodable part (more ++ rest))
    (h' : Undecodable (part ++ more) rest') : more = [] := by
  cases more with
  | nil => rfl
  | cons b more =>
    exfalso
    have hpart := List.length_pos_iff.2 h.nonempty
    rcases h'.begins with hone | hbegins
    · rw [List.length_append, List.length_cons] at hone
      omega
    · exact h.longest (b :: more) (List.prefix_append _ rest) (by simp) hbegins

theorem Undecodable.append_inj {part rest part' rest' : Bytes} (h : Undecodable part rest)
    (h' : Undecodable part' rest') (he : part ++ rest = part' ++ rest') : rest = rest' := by
  rcases List.append_eq_append_iff.1 he with ⟨more, rfl, rfl⟩ | ⟨more, rfl, rfl⟩
  · rw [h.eq_nil h', List.nil_append]
  · rw [h'.eq_nil h, List.nil_append]

theorem Reads.unique {bytes : Bytes} {t t' : Text} (h : Reads bytes t) (h' : Reads bytes t') :
    t = t' := by
  induction h generalizing t' with
  | done =>
    generalize hb : [] = bytes at h'
    cases h' with
    | done => rfl
    | character c later => simp at hb
    | undecodable cut later => exact absurd (List.append_eq_nil_iff.1 hb.symm).1 cut.nonempty
  | @character c rest t later ih =>
    generalize hb : String.utf8EncodeChar c ++ rest = bytes at h'
    cases h' with
    | done => simp at hb
    | @character c' rest' t' later' =>
      have hd := congrArg decode hb
      rw [decode_encodeChar_append, decode_encodeChar_append] at hd
      obtain ⟨rfl, -⟩ := List.cons.inj hd
      rw [ih (List.append_cancel_left hb ▸ later')]
    | undecodable cut later' => exact absurd ⟨rest, hb⟩ (cut.unread c)
  | @undecodable part rest t cut later ih =>
    generalize hb : part ++ rest = bytes at h'
    cases h' with
    | done => exact absurd (List.append_eq_nil_iff.1 hb).1 cut.nonempty
    | character c later' => exact absurd ⟨_, hb.symm⟩ (cut.unread c)
    | undecodable cut' later' => rw [ih (cut.append_inj cut' hb ▸ later')]

/-- A byte string is read in one way, and that is how it is decoded. -/
theorem reads_iff {bytes : Bytes} {t : Text} : Reads bytes t ↔ decode bytes = t :=
  ⟨fun h => (reads_decode bytes).unique h, fun h => h ▸ reads_decode bytes⟩

end LineShell.Utf8
