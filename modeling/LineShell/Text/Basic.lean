/-! Text as a list of characters, its size in UTF-8, and the plain cuts the shell makes in it. -/
namespace LineShell

/-- What the shell reads, expands and prints. -/
abbrev Text := List Char

/-- What files and streams hold. -/
abbrev Bytes := List UInt8

def sumOf (ns : List Nat) : Nat := ns.foldr (· + ·) 0

@[simp] theorem sumOf_nil : sumOf [] = 0 := rfl

@[simp] theorem sumOf_cons (n : Nat) (ns : List Nat) : sumOf (n :: ns) = n + sumOf ns := rfl

@[simp] theorem sumOf_append (ms ns : List Nat) : sumOf (ms ++ ns) = sumOf ms + sumOf ns := by
  induction ms with
  | nil => simp
  | cons m ms ih => simp [ih, Nat.add_assoc]

/-- The pieces of a list between the elements that satisfy `p`: one more piece than such
elements. -/
def splitWhere {α : Type} (p : α → Bool) (xs : List α) : List (List α) :=
  xs.foldr (fun x pieces => if p x then [] :: pieces else pieces.modifyHead (x :: ·)) [[]]

@[simp] theorem splitWhere_nil {α : Type} (p : α → Bool) : splitWhere p [] = [[]] := rfl

theorem splitWhere_cons {α : Type} (p : α → Bool) (x : α) (xs : List α) :
    splitWhere p (x :: xs) =
      if p x then [] :: splitWhere p xs else (splitWhere p xs).modifyHead (x :: ·) := rfl

theorem splitWhere_ne_nil {α : Type} (p : α → Bool) (xs : List α) : splitWhere p xs ≠ [] := by
  cases xs with
  | nil => simp
  | cons x xs =>
    rw [splitWhere_cons]
    split
    · simp
    · simpa using splitWhere_ne_nil p xs

/-- An element that satisfies `p` parts the pieces before it from those behind it. -/
theorem splitWhere_append_cons {α : Type} {p : α → Bool} {x : α} (h : p x) (xs ys : List α) :
    splitWhere p (xs ++ x :: ys) = splitWhere p xs ++ splitWhere p ys := by
  induction xs with
  | nil => simp [splitWhere_cons, h]
  | cons y xs ih =>
    rw [List.cons_append, splitWhere_cons, splitWhere_cons, ih]
    split
    · rfl
    · obtain ⟨w, ws, hw⟩ := List.exists_cons_of_ne_nil (splitWhere_ne_nil p xs)
      simp [hw]

theorem splitWhere_of_forall {α : Type} {p : α → Bool} {xs : List α} (h : ∀ x ∈ xs, p x = false) :
    splitWhere p xs = [xs] := by
  induction xs with
  | nil => rfl
  | cons x xs ih =>
    rw [splitWhere_cons, ih fun y hy => h y (List.mem_cons_of_mem _ hy)]
    simp [h x]

theorem not_of_mem_splitWhere {α : Type} {p : α → Bool} {xs w : List α} (h : w ∈ splitWhere p xs) :
    ∀ x ∈ w, p x = false := by
  induction xs generalizing w with
  | nil => simp_all
  | cons y xs ih =>
    rw [splitWhere_cons] at h
    obtain ⟨v, vs, hv⟩ := List.exists_cons_of_ne_nil (splitWhere_ne_nil p xs)
    rw [hv] at h ih
    split at h
    · rcases List.mem_cons.1 h with rfl | h
      · simp
      · exact ih h
    · rcases List.mem_cons.1 h with rfl | h
      · intro x hx
        rcases List.mem_cons.1 hx with rfl | hx
        · simpa using ‹¬p x = true›
        · exact ih (List.mem_cons_self ..) x hx
      · exact ih (List.mem_cons_of_mem _ h)

theorem flatten_splitWhere {α : Type} (p : α → Bool) (xs : List α) :
    (splitWhere p xs).flatten = xs.filter (!p ·) := by
  induction xs with
  | nil => rfl
  | cons x xs ih =>
    rw [splitWhere_cons]
    by_cases hx : p x
    · simp [hx, ih]
    · obtain ⟨w, ws, hw⟩ := List.exists_cons_of_ne_nil (splitWhere_ne_nil p xs)
      rw [hw] at ih
      simpa [hx, hw] using ih

/-- A list has no element that satisfies `p`, or its first one parts it. -/
theorem forall_or_parted {α : Type} (p : α → Bool) (xs : List α) :
    (∀ x ∈ xs, p x = false) ∨
      ∃ ys x zs, xs = ys ++ x :: zs ∧ p x ∧ ∀ y ∈ ys, p y = false := by
  induction xs with
  | nil => exact .inl (by simp)
  | cons x xs ih =>
    by_cases hx : p x
    · exact .inr ⟨[], x, xs, rfl, hx, by simp⟩
    · rw [Bool.not_eq_true] at hx
      rcases ih with h | ⟨ys, y, zs, rfl, hy, hys⟩
      · exact .inl (List.forall_mem_cons.2 ⟨hx, h⟩)
      · exact .inr ⟨x :: ys, y, zs, rfl, hy, List.forall_mem_cons.2 ⟨hx, hys⟩⟩

/-- What holds of every list without an element that satisfies `p`, and of a list that its first
such element parts if it holds behind that one, holds of every list. -/
@[elab_as_elim]
theorem parted_induction {α : Type} (p : α → Bool) {motive : List α → Prop}
    (whole : ∀ xs, (∀ x ∈ xs, p x = false) → motive xs)
    (parted : ∀ xs x ys, (∀ y ∈ xs, p y = false) → p x → motive ys → motive (xs ++ x :: ys))
    (xs : List α) : motive xs := by
  -- What stands behind the first such element is shorter, but it is no immediate part of the list.
  induction hn : xs.length using Nat.strongRecOn generalizing xs with
  | ind n ih =>
    rcases forall_or_parted p xs with h | ⟨ys, x, zs, rfl, hx, hys⟩
    · exact whole xs h
    · have hlt : zs.length < n := by
        rw [← hn, List.length_append, List.length_cons]
        omega
      exact parted ys x zs hys hx (ih _ hlt zs rfl)

namespace Text

def byteLength (t : Text) : Nat := sumOf (t.map Char.utf8Size)

def isAtMost (a b : Text) : Bool := !decide (b < a)

/-- The text from byte offset `n` on; `none` when `n` is past the end or inside a character. -/
def dropBytes? : Text → Nat → Option Text
  | t, 0 => some t
  | [], _ + 1 => none
  | c :: t, n + 1 => if c.utf8Size ≤ n + 1 then dropBytes? t (n + 1 - c.utf8Size) else none

/-- What stands before and after the first `sep`. -/
def cut? (sep : Char) (t : Text) : Option (Text × Text) :=
  match t.dropWhile (· != sep) with
  | [] => none
  | _ :: rest => some (t.takeWhile (· != sep), rest)

/-- Takes one `left` off the front and one `right` off the end, if both are there. -/
def unwrap? (left right : Char) : Text → Option Text
  | [] => none
  | c :: rest => if c = left ∧ rest.getLast? = some right then some rest.dropLast else none

def decimal (n : Nat) : Text := Nat.toDigits 10 n

def natural? (t : Text) : Option Nat :=
  if t ≠ [] ∧ t.all Char.isDigit then
    some (t.foldl (fun n c => n * 10 + (c.toNat - '0'.toNat)) 0)
  else none

/-- Decimal digits after a minus sign where there is one. -/
def signed (i : Int) : Text := if i < 0 then '-' :: decimal i.natAbs else decimal i.natAbs

/-- The text as a line of its own. -/
def line (t : Text) : Text := t ++ ['\n']

/-- The parts with one `sep` between neighbours. -/
def joined (sep : Text) (parts : List Text) : Text := sep.intercalate parts

theorem joined_cons (sep part : Text) {parts : List Text} (h : parts ≠ []) :
    joined sep (part :: parts) = part ++ sep ++ joined sep parts := by
  cases parts with
  | nil => exact absurd rfl h
  | cons next parts => simp [joined, List.intercalate]

/-- Nothing is lost when a text is cut at a character. -/
theorem joined_splitWhere (sep : Char) (t : Text) : joined [sep] (splitWhere (· == sep) t) = t := by
  induction t with
  | nil => simp [joined, List.intercalate]
  | cons c t ih =>
    rw [splitWhere_cons]
    split
    next h =>
      rw [joined_cons _ _ (splitWhere_ne_nil _ _), ih, eq_of_beq h]
      rfl
    next =>
      obtain ⟨w, ws, hw⟩ := List.exists_cons_of_ne_nil (splitWhere_ne_nil (· == sep) t)
      rw [hw] at ih
      rw [hw, List.modifyHead_cons]
      cases ws with
      | nil => simpa [joined, List.intercalate] using ih
      | cons v ws =>
        rw [joined_cons _ _ (by simp)] at ih ⊢
        rw [← ih]
        simp

theorem byteLength_append (a b : Text) : byteLength (a ++ b) = byteLength a + byteLength b := by
  simp [byteLength]

theorem dropBytes?_append (a b : Text) : dropBytes? (a ++ b) (byteLength a) = some b := by
  induction a with
  | nil => cases b <;> rfl
  | cons c a ih =>
    have hc : 0 < c.utf8Size := c.utf8Size_pos
    have hl : byteLength (c :: a) = c.utf8Size + byteLength a := by simp [byteLength]
    obtain ⟨n, hn⟩ := Nat.exists_eq_add_of_lt hc
    rw [hl, List.cons_append, show c.utf8Size + byteLength a = (n + byteLength a) + 1 by omega,
      dropBytes?, if_pos (by omega), show n + byteLength a + 1 - c.utf8Size = byteLength a by omega]
    exact ih

theorem cut?_cons (sep c : Char) (t : Text) :
    cut? sep (c :: t) =
      if c = sep then some ([], t) else (cut? sep t).map fun (a, b) => (c :: a, b) := by
  by_cases h : c = sep
  · simp [cut?, h]
  · have hb : (c != sep) = true := by simpa using h
    simp only [cut?, List.dropWhile_cons, List.takeWhile_cons, hb, if_true, if_neg h]
    split <;> rfl

/-- A text has one cut: in front of it the mark does not occur. -/
theorem cut?_eq_some_iff {sep : Char} {t a b : Text} :
    cut? sep t = some (a, b) ↔ t = a ++ sep :: b ∧ sep ∉ a := by
  induction t generalizing a with
  | nil => simp [cut?]
  | cons c t ih =>
    rw [cut?_cons]
    by_cases h : c = sep
    · subst h
      cases a with
      | nil => simp [eq_comm]
      | cons d a => simpa using fun hd _ hne => absurd hd hne
    · cases a with
      | nil => simp [h]
      | cons d a =>
        rw [if_neg h]
        constructor
        · intro hm
          obtain ⟨⟨x, y⟩, hx, he⟩ := Option.map_eq_some_iff.1 hm
          obtain ⟨⟨rfl, rfl⟩, rfl⟩ := by simpa using he
          obtain ⟨rfl, hn⟩ := ih.1 hx
          exact ⟨rfl, by simp [hn, Ne.symm h]⟩
        · rintro ⟨he, hn⟩
          obtain ⟨rfl, ht⟩ := by simpa using he
          rw [ih.2 ⟨ht, fun hm => hn (List.mem_cons_of_mem _ hm)⟩]
          rfl

theorem cut?_eq_none_iff {sep : Char} {t : Text} : cut? sep t = none ↔ sep ∉ t := by
  induction t with
  | nil => simp [cut?]
  | cons c t ih =>
    rw [cut?_cons]
    by_cases h : c = sep
    · simp [h]
    · simp [h, ih, Ne.symm h]

end Text
end LineShell
