import LineShell.Text.Basic

/-!
UTF-8. Decoding never fails: every maximal part of a byte string that begins a character and is
cut short, and every byte that can begin none, becomes one replacement character.
-/
namespace LineShell.Utf8

def replacement : Char := '\uFFFD'

def encode (t : Text) : Bytes := t.flatMap String.utf8EncodeChar

/-- A character that has begun: the bits read so far, how many bytes follow the next one, and the
range that the next one lies in. No byte of that range can be a character by itself. -/
structure Begun where
  bits : Nat
  later : Nat
  low : UInt8 := 0x80
  high : UInt8 := 0xBF
  le_low : 0x80 ≤ low := by decide

/-- What a byte does where a character may begin. -/
inductive Lead
  | whole (c : Char)
  | begins (b : Begun)
  | invalid

/-- The second byte of a character is held to a narrower range after `E0`, `ED`, `F0` and `F4`,
which leaves out overlong forms, surrogates and code points above `10FFFF`. -/
def lead (b : UInt8) : Lead :=
  if b < 0x80 then .whole (Char.ofNat b.toNat)
  else if b < 0xC2 then .invalid
  else if b < 0xE0 then .begins { bits := b.toNat % 32, later := 0 }
  else if b = 0xE0 then .begins { bits := 0, later := 1, low := 0xA0 }
  else if b = 0xED then .begins { bits := 13, later := 1, high := 0x9F }
  else if b < 0xF0 then .begins { bits := b.toNat % 16, later := 1 }
  else if b = 0xF0 then .begins { bits := 0, later := 2, low := 0x90 }
  else if b < 0xF4 then .begins { bits := b.toNat % 8, later := 2 }
  else if b = 0xF4 then .begins { bits := 4, later := 2, high := 0x8F }
  else .invalid

/-- How far decoding has come: the character begun, if any, and the text so far, last first. -/
structure Progress where
  begun : Option Begun := none
  reversed : Text := []

def Progress.start (reversed : Text) (b : UInt8) : Progress :=
  match lead b with
  | .whole c => { reversed := c :: reversed }
  | .begins begun => { begun := some begun, reversed }
  | .invalid => { reversed := replacement :: reversed }

/-- Reads a byte. One that cannot continue the character begun ends it undecoded and is read again
as the beginning of the next. -/
def Progress.step (p : Progress) (b : UInt8) : Progress :=
  match p.begun with
  | none => .start p.reversed b
  | some begun =>
    if begun.low ≤ b ∧ b ≤ begun.high then
      let bits := begun.bits * 64 + b.toNat % 64
      match begun.later with
      | 0 => { reversed := Char.ofNat bits :: p.reversed }
      | later + 1 => { begun := some { bits, later }, reversed := p.reversed }
    else .start (replacement :: p.reversed) b

/-- The text of a finished byte string; a character cut short by the end is undecodable. -/
def Progress.text (p : Progress) : Text :=
  match p.begun with
  | none => p.reversed.reverse
  | some _ => (replacement :: p.reversed).reverse

def decode (bytes : Bytes) : Text := (bytes.foldl Progress.step {}).text

/-- The text that is written with exactly these bytes, if there is one. -/
def decode? (bytes : Bytes) : Option Text :=
  if encode (decode bytes) = bytes then some (decode bytes) else none

theorem Progress.start_append (x r : Text) (b : UInt8) :
    Progress.start (x ++ r) b =
      ⟨(Progress.start x b).begun, (Progress.start x b).reversed ++ r⟩ := by
  unfold Progress.start
  split <;> rfl

/-- What has been decoded has no influence on what follows. -/
theorem Progress.step_append (g : Option Begun) (x r : Text) (b : UInt8) :
    Progress.step ⟨g, x ++ r⟩ b =
      ⟨(Progress.step ⟨g, x⟩ b).begun, (Progress.step ⟨g, x⟩ b).reversed ++ r⟩ := by
  unfold Progress.step
  cases g with
  | none => exact start_append x r b
  | some g =>
    simp only
    split
    · split <;> rfl
    · exact start_append (replacement :: x) r b

theorem foldl_step_append (g : Option Begun) (x r : Text) (bytes : Bytes) :
    bytes.foldl Progress.step ⟨g, x ++ r⟩ =
      ⟨(bytes.foldl Progress.step ⟨g, x⟩).begun,
        (bytes.foldl Progress.step ⟨g, x⟩).reversed ++ r⟩ := by
  induction bytes generalizing g x with
  | nil => rfl
  | cons b bytes ih => rw [List.foldl_cons, List.foldl_cons, Progress.step_append, ih]

theorem foldl_step (r : Text) (bytes : Bytes) :
    bytes.foldl Progress.step { reversed := r } =
      ⟨(bytes.foldl Progress.step {}).begun, (bytes.foldl Progress.step {}).reversed ++ r⟩ := by
  simpa using foldl_step_append none [] r bytes

/-- Where a character ends, the bytes behind it are decoded by themselves. -/
theorem decode_append_of_ended {a b : Bytes} {t : Text}
    (h : a.foldl Progress.step {} = { reversed := t.reverse }) :
    decode (a ++ b) = t ++ decode b := by
  rw [decode, List.foldl_append, h, foldl_step, decode]
  unfold Progress.text
  split <;> simp_all

/-- A byte below `80` ends whatever stands in front of it. -/
theorem foldl_step_ascii (a : Bytes) {b : UInt8} (hb : b < 0x80) :
    (a ++ [b]).foldl Progress.step {} =
      { reversed := (decode a ++ [Char.ofNat b.toNat]).reverse } := by
  have hl : lead b = .whole (Char.ofNat b.toNat) := by simp [lead, hb]
  rw [List.foldl_append, List.foldl_cons, List.foldl_nil, decode]
  generalize a.foldl Progress.step {} = p
  unfold Progress.step Progress.text
  split
  · simp [Progress.start, *]
  next g hg =>
    have : ¬ g.low ≤ b := by
      have := g.le_low
      rw [UInt8.le_iff_toNat_le] at *
      rw [UInt8.lt_iff_toNat_lt] at hb
      omega
    simp [Progress.start, hl, this]

/-- Decoding goes line by line: a newline is always a character by itself. -/
theorem decode_append_newline (a b : Bytes) :
    decode (a ++ 0x0A :: b) = decode a ++ '\n' :: decode b := by
  have := decode_append_of_ended (b := b) (foldl_step_ascii a (b := 0x0A) (by decide))
  simpa using this

end LineShell.Utf8
