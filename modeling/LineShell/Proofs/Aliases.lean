import LineShell.Proofs.Coherence
import LineShell.Proofs.Expansion
import LineShell.Proofs.Quoting
import LineShell.Proofs.Rejections

/-!
Aliases from their definition to their use. What `alias` shows can be given to it again, and what is
defined is what a segment stands for that begins with the name.
-/
namespace LineShell

namespace Builtin

/-! ### One definition -/

/-- Operands that begin with a definition and have no other are one request. -/
theorem aliasRequests_definition {name : Text} (hname : '=' ∉ name) (x : Text) {xs : List Text}
    (hxs : ∀ w ∈ xs, '=' ∉ w) :
    aliasRequests ((name ++ '=' :: x) :: xs) =
      [.define name (unquote (Text.joined [' '] (x :: xs)))] := by
  have hcut : Text.cut? '=' (name ++ '=' :: x) = some (name, x) :=
    Text.cut?_eq_some_iff.2 ⟨rfl, hname⟩
  have hgo : ∀ w ∈ xs, continuesValue w = true := fun w hw => continuesValue_iff.2 (hxs w hw)
  rw [aliasRequests, hcut]
  dsimp only
  rw [List.takeWhile_eq_self_iff.2 hgo, List.dropWhile_eq_nil_iff.2 hgo, aliasRequests]

/-- A definition is carried out without a word. -/
theorem command_definition {name : Text} (named : name ≠ []) (hname : '=' ∉ name) (x : Text)
    {xs : List Text} (hxs : ∀ w ∈ xs, '=' ∉ w) (sh : Shell) :
    aliases.command ((name ++ '=' :: x) :: xs) sh =
      (.ok 0, { sh with
        session.aliases := (AliasRequest.define name
          (unquote (Text.joined [' '] (x :: xs)))).carryOut sh.session.aliases }) := by
  have hparse : aliases.parse ((name ++ '=' :: x) :: xs) =
      .ok { operands := (name ++ '=' :: x) :: xs } := parse_literal rfl rfl _
  have hruns : aliases.execute ((name ++ '=' :: x) :: xs) sh =
      runRequests 0 (aliasRequests ((name ++ '=' :: x) :: xs)) sh := rfl
  rw [command, hparse]
  dsimp only
  rw [hruns, aliasRequests_definition hname x hxs]
  obtain ⟨c, name, rfl⟩ := List.exists_cons_of_ne_nil named
  cases unquote (Text.joined [' '] (x :: xs)) with
  | nil => rfl
  | cons d value => rfl

end Builtin

/-! ### Reading back what is shown -/

/-- The tables of aliases that can come of nothing but running `alias`, each time in any shell that
has the table, on operands as a line is cut into them. -/
inductive Bindings.Reached : Bindings → Prop
  | empty : Reached {}
  | command {sh : Shell} {operands : List Text} (before : Reached sh.session.aliases)
      (cut : ∀ operand ∈ operands, operand.IsWord) :
      Reached (Builtin.aliases.command operands sh).2.session.aliases

namespace Builtin

/-- An alias whose value has been joined from words. -/
def IsSpacedAlias (name value : Text) : Prop := Session.IsAlias name value ∧ value.Spaced

theorem isSpacedAlias_of_define {operands : List Text} (h : ∀ operand ∈ operands, operand.IsWord)
    {name value : Text} (hm : .define name value ∈ aliasRequests operands) (named : name ≠ [])
    (valued : value ≠ []) : '=' ∉ name ∧ IsSpacedAlias name value := by
  obtain ⟨d, rfl, rfl, hoperands⟩ := exists_definition hm
  obtain ⟨-, hword⟩ := h d.first (hoperands List.mem_cons_self)
  have hblank : ∀ c ∈ d.name, isBlank c = false := fun c hc =>
    hword c (List.mem_append_left _ hc)
  have hstart : ∀ c ∈ d.start, isBlank c = false := fun c hc =>
    hword c (List.mem_append_right _ (List.mem_cons_of_mem _ hc))
  have hspaced : (Text.joined [' '] (d.start :: d.more)).Spaced :=
    .of_joined hstart fun w hw =>
      ⟨h w (hoperands (List.mem_cons_of_mem _ hw)), d.plainMore w hw⟩
  exact ⟨d.plainName, ⟨named, hblank, valued⟩, d.unquoted.spaced hspaced⟩

theorem orderly_of_reached {table : Bindings} (h : table.Reached) :
    table.Orderly IsSpacedAlias := by
  induction h with
  | empty => exact .empty
  | @command sh operands before cut ih =>
    -- A stream that fails may stop `alias`, but what it has carried out by then is a front of it.
    refine session_command (P := (·.aliases.Orderly IsSpacedAlias)) _ aliases sh ih
      fun given hgiven => ?_
    obtain rfl : ({ operands } : Arguments) = given :=
      Except.ok.inj ((parse_literal rfl rfl operands).symm.trans hgiven)
    obtain ⟨front, hfront, hsession⟩ := exists_carryOut_runAlias operands sh
    show (runAlias operands sh).2.session.aliases.Orderly IsSpacedAlias
    rw [hsession]
    refine carryOut_induction (fun table name value hm named valued htable => ?_)
      (fun table name _ htable => htable.unset name) ih
    obtain ⟨hname, halias⟩ := isSpacedAlias_of_define cut (hfront.mem hm) named valued
    exact htable.set hname halias

/-- The words of an alias as it is shown are one definition of the value that it has. -/
theorem words_formatAlias {name value : Text} (h : IsSpacedAlias name value) :
    ∃ x xs, (formatAlias name value).words = (name ++ '=' :: x) :: xs ∧ (∀ w ∈ xs, '=' ∉ w) ∧
      unquote (Text.joined [' '] (x :: xs)) = value := by
  obtain ⟨⟨named, hblank, -⟩, hspaced⟩ := h
  have hquoted : Text.Spaced ('\'' :: (value ++ ['\''])) :=
    .append_left (a := ['\'']) (by simp [isBlank]) (hspaced.concat (by decide) (by decide))
  have hlast : ('\'' :: (value ++ ['\''])).getLast? = some '\'' :=
    List.getLast?_concat (l := '\'' :: value)
  obtain ⟨x, xs, hjoined, hx, hxs⟩ :=
    hquoted.exists_joined (List.cons_ne_nil _ _) (by simp [isBlank]) (by simp [hlast, isBlank])
  have hfirst : (name ++ '=' :: x).IsWord :=
    Text.isWord_append hblank (Text.isWord_append (a := ['=']) (by simp [isBlank]) hx)
  have hwhole : formatAlias name value = Text.joined [' '] ((name ++ '=' :: x) :: xs) := calc
    formatAlias name value = name ++ '=' :: '\'' :: (value ++ ['\'']) := by simp [formatAlias]
    _ = name ++ '=' :: Text.joined [' '] (x :: xs) := by rw [hjoined]
    _ = Text.joined [' '] ((name ++ '=' :: x) :: xs) := by
      rw [Text.joined_eq_append, Text.joined_eq_append _ (name ++ _), List.append_assoc,
        List.cons_append]
  refine ⟨x, xs, ?_, fun w hw => (hxs w hw).2, ?_⟩
  · rw [hwhole, Text.words_joined]
    exact List.forall_mem_cons.2 ⟨hfirst, fun w hw => (hxs w hw).1⟩
  · rw [← hjoined, unquote_quoted (.inl rfl)]

/-- Given to `alias` as it is cut into words, an alias as it is shown is defined as it is: no other
alias changes its value or place, and nothing is written. -/
theorem command_formatAlias {sh : Shell} (h : sh.session.aliases.Reached) {name value : Text}
    (hm : (name, value) ∈ sh.session.aliases.pairs) :
    aliases.command (formatAlias name value).words sh = (.ok 0, sh) := by
  have horderly := orderly_of_reached h
  obtain ⟨hname, halias⟩ := horderly.of_mem_pairs hm
  obtain ⟨⟨named, -, valued⟩, -⟩ := id halias
  obtain ⟨x, xs, hwords, hxs, hvalue⟩ := words_formatAlias halias
  have hget : sh.session.aliases.get? name = some value :=
    Bindings.get?_of_mem_pairs horderly.distinct hm
  rw [hwords, command_definition named hname x hxs, hvalue,
    AliasRequest.carryOut_define _ named, if_neg valued, Bindings.set_eq_self hget]

/-- A value between blanks, and one with an `=` and a quote in it. -/
theorem command_formatAlias_blanks :
    let operands := ["a='".toList, ['b'], ['\''], "d=k=v".toList, "\"x".toList]
    let sh := (aliases.command operands {}).2
    sh.session.aliases.pairs = [(['a'], " b ".toList), (['d'], "k=v \"x".toList)] ∧
      aliases.command ["a='".toList, ['b'], ['\'']] sh = (.ok 0, sh) := by
  intro operands sh
  have hpairs : sh.session.aliases.pairs = [(['a'], " b ".toList), (['d'], "k=v \"x".toList)] := by
    decide +kernel
  have hreached : sh.session.aliases.Reached := .command .empty (by decide)
  have hm : (['a'], " b ".toList) ∈ sh.session.aliases.pairs := hpairs ▸ List.mem_cons_self
  exact ⟨hpairs, command_formatAlias hreached hm⟩

end Builtin

/-! ### Using what is defined -/

/-- What a segment stands for that begins with a word: its alias if it has one, with its references
replaced, and then the rest. -/
theorem Session.argv_of_first (s : Session) {word before rest : Text} (h : word.IsWord)
    (hbefore : ∀ c ∈ before, isBlank c) (hrest : ∀ c ∈ rest.head?, isBlank c) :
    s.argv (before ++ word ++ rest) =
      (s.expandVars ((s.aliases.get? word).getD word)).words ++ (s.expandVars rest).words := by
  have hwords : (before ++ word ++ rest).words = word :: rest.words := by
    rw [List.append_assoc, Text.words_blanks_append hbefore, Text.words_append hrest,
      Text.words_of_no_blank h.1 h.2]
    rfl
  have hfirst : (s.aliases.aliasWords word).flatMap (fun w => (s.expandVars w).words) =
      (s.expandVars ((s.aliases.get? word).getD word)).words := by
    unfold Bindings.aliasWords
    cases s.aliases.get? word with
    | none => exact List.flatMap_singleton _ word
    | some value => exact (s.words_expandVars value).symm
  rw [argv, s.words_expandVars, s.words_expandAlias, hwords]
  dsimp only
  rw [List.flatMap_append, hfirst, ← s.words_expandVars rest]

namespace Builtin

/-- An alias is used as it was defined: its value is what was given for it, words joined by single
spaces without the quotes around them all. A name that is given nothing has no alias any more. -/
theorem argv_of_definition {sh : Shell} (distinct : sh.session.aliases.names.Nodup) {name : Text}
    (named : name.IsWord) (hname : '=' ∉ name) {x : Text} {xs : List Text}
    (hxs : ∀ w ∈ xs, '=' ∉ w) {value : Text}
    (hvalue : Unquoted (Text.joined [' '] (x :: xs)) value) :
    ∃ table : Bindings,
      aliases.command ((name ++ '=' :: x) :: xs) sh =
        (.ok 0, { sh with session.aliases := table }) ∧
      table.get? name = (if value = [] then none else some value) ∧
      (table.except [name] = sh.session.aliases.except [name] ∧
        ∀ other ≠ name, table.get? other = sh.session.aliases.get? other) ∧
      let s : Session := { sh.session with aliases := table }
      ∀ before rest, (∀ c ∈ before, isBlank c) → (∀ c ∈ rest.head?, isBlank c) →
        s.argv (before ++ name ++ rest) =
          (s.expandVars (if value = [] then name else value)).words ++ (s.expandVars rest).words := by
  obtain ⟨hne, -⟩ := id named
  let table := if value = [] then sh.session.aliases.unset name
    else sh.session.aliases.set name value
  have hget : table.get? name = if value = [] then none else some value := by
    simp only [table]
    split
    · exact Bindings.get?_unset_self distinct name
    · rw [Bindings.get?_set _ hname, if_pos rfl]
  have hexcept : table.except [name] = sh.session.aliases.except [name] := by
    simp only [table]
    split
    · exact Bindings.except_unset _ List.mem_cons_self
    · exact Bindings.except_set _ hname value List.mem_cons_self
  refine ⟨table, ?_, hget, ⟨hexcept, fun other hother => ?_⟩, fun before rest hbefore hrest => ?_⟩
  · rw [command_definition hne hname x hxs, unquote_eq_iff.2 hvalue,
      AliasRequest.carryOut_define _ hne]
  · exact Bindings.get?_eq_of_except hexcept (by simpa using hother)
  · rw [Session.argv_of_first _ named hbefore hrest, hget]
    split <;> rfl

/-- The value ends with a reference that the rest of the segment does not go on with. -/
theorem argv_of_definition_quoted :
    let sh : Shell :=
      { session :=
          { env := .ofPairs [(['A'], "1 2".toList)]
            aliases := .ofPairs [(['g'], "git".toList), (['h'], ['x'])] } }
    let sh' := (aliases.command ["g=\"echo".toList, "$A\"".toList] sh).2
    sh'.session.aliases.texts = ["g=echo $A".toList, "h=x".toList] ∧
      sh'.session.argv "  g\t$A B".toList =
        ["echo".toList, ['1'], ['2'], ['1'], ['2'], ['B']] := by
  intro sh sh'
  have hvalue : Unquoted (Text.joined [' '] ["\"echo".toList, "$A\"".toList]) "echo $A".toList :=
    .quoted (.inr rfl) "echo $A".toList
  have distinct : sh.session.aliases.names.Nodup := by decide +kernel
  have named : Text.IsWord ['g'] := by decide
  obtain ⟨table, hran, -, -, hargv⟩ :=
    argv_of_definition distinct named (by decide) (by decide) hvalue
  have hsession : sh'.session = { sh.session with aliases := table } :=
    congrArg (·.2.session) hran
  have hbefore : ∀ c ∈ [' ', ' '], isBlank c := by simp [isBlank]
  have hrest : ∀ c ∈ ('\t' :: "$A B".toList).head?, isBlank c := by simp [isBlank]
  have hused := hargv _ _ hbefore hrest
  refine ⟨by decide +kernel, ?_⟩
  rw [hsession]
  refine hused.trans ?_
  rw [← hsession]
  decide +kernel

end Builtin
end LineShell
