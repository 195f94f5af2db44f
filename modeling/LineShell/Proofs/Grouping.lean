import LineShell.Proofs.Quoting

/-!
How `alias` groups its operands. Names that are asked for stand in front; behind them stand
definitions, each with the operands that go on with its value.
-/
namespace LineShell.Builtin

/-- A definition as operands spell it: the first one has the name and where the value starts, and
the value goes on in those behind it. Quotes around all of the value are not part of it. -/
structure Definition where
  name : Text
  start : Text
  more : List Text
  value : Text
  plainName : '=' ∉ name
  plainMore : ∀ operand ∈ more, '=' ∉ operand
  unquoted : Unquoted (Text.joined [' '] (start :: more)) value

namespace Definition

def first (d : Definition) : Text := d.name ++ '=' :: d.start

def operands (d : Definition) : List Text := d.first :: d.more

def request (d : Definition) : AliasRequest := .define d.name d.value

theorem equal_mem_first (d : Definition) : '=' ∈ d.first := by simp [first]

theorem filter_operands (d : Definition) : d.operands.filter ('=' ∈ ·) = [d.first] := by
  rw [operands, List.filter_cons_of_pos (by simpa using d.equal_mem_first),
    List.filter_eq_nil_iff.2 (by simpa using d.plainMore)]

/-- Where a definition begins, there is no name that is asked for. -/
theorem equal_mem_of_head? {definitions : List Definition} :
    ∀ operand ∈ (definitions.flatMap operands).head?, '=' ∈ operand := by
  intro operand ho
  cases definitions with
  | nil => simp at ho
  | cons d definitions =>
    obtain rfl := Option.some.inj ho
    exact d.equal_mem_first

end Definition

theorem continuesValue_iff {operand : Text} : continuesValue operand ↔ '=' ∉ operand := by
  simp [continuesValue]

/-- An operand with `=` in it ends the group in front of it. -/
theorem aliasRequests_append (before : List Text) {operand : Text} (h : '=' ∈ operand)
    (behind : List Text) :
    aliasRequests (before ++ operand :: behind) =
      aliasRequests before ++ aliasRequests (operand :: behind) := by
  have hends : continuesValue operand = false := by simpa [continuesValue] using h
  fun_induction aliasRequests before with
  | case1 => rfl
  | case2 query rest hcut ih =>
    rw [List.cons_append, aliasRequests, hcut]
    dsimp only
    rw [ih, List.cons_append]
  | case3 first rest name start hcut _ ih =>
    rw [List.cons_append, aliasRequests, hcut]
    dsimp only
    rw [takeWhile_append_cons hends, dropWhile_append_cons hends, ih, List.cons_append]

/-- Every list of operands is made of groups, and each group is one request. -/
theorem exists_groups (operands : List Text) :
    ∃ (queries : List Text) (definitions : List Definition),
      operands = queries ++ definitions.flatMap Definition.operands ∧
      (∀ query ∈ queries, '=' ∉ query) ∧
      aliasRequests operands = queries.map .query ++ definitions.map Definition.request := by
  fun_induction aliasRequests operands with
  | case1 => exact ⟨[], [], rfl, by simp, rfl⟩
  | case2 query rest hcut ih =>
    obtain ⟨queries, definitions, hoperands, hqueries, hrequests⟩ := ih
    have hquery : '=' ∉ query := Text.cut?_eq_none_iff.1 hcut
    refine ⟨query :: queries, definitions, ?_, List.forall_mem_cons.2 ⟨hquery, hqueries⟩, ?_⟩
    · rw [hoperands, List.cons_append]
    · rw [hrequests, List.map_cons, List.cons_append]
  | case3 first rest name start hcut _ ih =>
    obtain ⟨queries, definitions, hoperands, hqueries, hrequests⟩ := ih
    obtain ⟨rfl, hname⟩ := Text.cut?_eq_some_iff.1 hcut
    let d : Definition :=
      { name, start, plainName := hname
        more := rest.takeWhile continuesValue
        value := unquote (Text.joined [' '] (start :: rest.takeWhile continuesValue))
        plainMore := fun operand ho => continuesValue_iff.1 (List.mem_takeWhile_imp ho)
        unquoted := unquoted_unquote _ }
    -- What is left begins with an operand that has an equals sign, so it asks for nothing first.
    obtain rfl : queries = [] := by
      cases queries with
      | nil => rfl
      | cons query queries =>
        have h := List.head?_dropWhile_not continuesValue rest
        rw [hoperands, List.cons_append] at h
        exact absurd (continuesValue_iff.2 (hqueries query List.mem_cons_self)) (by simpa using h)
    refine ⟨[], d :: definitions, ?_, by simp, ?_⟩
    · rw [List.nil_append] at hoperands
      rw [List.nil_append, List.flatMap_cons, ← hoperands]
      exact congrArg (_ :: ·) List.takeWhile_append_dropWhile.symm
    · rw [hrequests]
      rfl

/-- What is defined is spelled by some of the operands. -/
theorem exists_definition {operands : List Text} {name value : Text}
    (h : .define name value ∈ aliasRequests operands) :
    ∃ d : Definition, d.name = name ∧ d.value = value ∧ d.operands ⊆ operands := by
  obtain ⟨queries, definitions, hoperands, -, hrequests⟩ := exists_groups operands
  rw [hrequests] at h
  rcases List.mem_append.1 h with hquery | hdefinition
  · simp at hquery
  · obtain ⟨d, hd, hrequest⟩ := List.mem_map.1 hdefinition
    obtain ⟨hname, hvalue⟩ := AliasRequest.define.inj hrequest
    refine ⟨d, hname, hvalue, fun operand ho => ?_⟩
    rw [hoperands]
    exact List.mem_append_right queries (List.mem_flatMap.2 ⟨d, hd, ho⟩)

/-- In front stand the operands up to the first one with an equals sign, each of them a query; then
each operand with an equals sign is a definition, together with those behind it that have none. No
group goes on behind an operand with an equals sign, so what stands in front of one is grouped on
its own. -/
theorem aliasRequests_groups (operands : List Text) :
    (∃ (queries : List Text) (definitions : List Definition),
      operands = queries ++ definitions.flatMap Definition.operands ∧
      IsLongestFront ('=' ∉ ·) queries operands ∧
      definitions.map Definition.first = operands.filter ('=' ∈ ·) ∧
      aliasRequests operands = queries.map .query ++ definitions.map Definition.request) ∧
    ∀ before : List Text, (∃ first ∈ operands.head?, '=' ∈ first) →
      aliasRequests (before ++ operands) = aliasRequests before ++ aliasRequests operands := by
  constructor
  · obtain ⟨queries, definitions, hoperands, hqueries, hrequests⟩ := exists_groups operands
    refine ⟨queries, definitions, hoperands, ?_, ?_, hrequests⟩
    · rw [hoperands]
      refine isLongestFront_append hqueries fun operand ho hplain => ?_
      exact hplain (Definition.equal_mem_of_head? operand ho)
    · have hnone : queries.filter ('=' ∈ ·) = [] :=
        List.filter_eq_nil_iff.2 (by simpa using hqueries)
      rw [hoperands, List.filter_append, hnone, List.filter_flatMap, List.nil_append,
        List.map_eq_flatMap]
      simp only [Definition.filter_operands]
  · rintro before ⟨first, hfirst, hequal⟩
    obtain ⟨behind, rfl⟩ := List.head?_eq_some_iff.1 hfirst
    exact aliasRequests_append before hequal behind

/-- A query and a value whose quotes stand in two operands, and behind them a name that is empty, a
value that is empty and a quote that stands alone. -/
theorem aliasRequests_groups_quoted :
    let before := ["q".toList, "a='x".toList, "y'".toList]
    let operands := ["=v".toList, "w".toList, "b=".toList, "c=\"".toList]
    (∃ first ∈ operands.head?, '=' ∈ first) ∧
      aliasRequests (before ++ operands) =
        [.query "q".toList, .define "a".toList "x y".toList, .define [] "v w".toList,
          .define "b".toList [], .define "c".toList ['"']] := by
  intro before operands
  have hbegins : ∃ first ∈ operands.head?, '=' ∈ first := ⟨"=v".toList, rfl, by decide⟩
  refine ⟨hbegins, ?_⟩
  rw [(aliasRequests_groups operands).2 before hbegins]
  decide +kernel

end LineShell.Builtin
