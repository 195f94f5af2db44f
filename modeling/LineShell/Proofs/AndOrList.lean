import LineShell.Proofs.Runs

/-!
A line is a list of trees: semicolons part it into chains, and in a chain the operators group to the
left. Running the line is evaluating the trees in their order.
-/
namespace LineShell

/-- Commands with `&&` and `||` between them. -/
inductive AndOr
  | command (text : Text)
  | and (left right : AndOr)
  | or (left right : AndOr)
  deriving DecidableEq, Repr

namespace AndOr

/-- The tree of a chain. What is read already, with the operator behind it, is what `join` puts in
front of the next command. -/
def parse (join : AndOr → AndOr) (read : Text) : Text → AndOr
  | '|' :: '|' :: rest => parse (or (join (command read.reverse))) [] rest
  | '&' :: '&' :: rest => parse (and (join (command read.reverse))) [] rest
  | c :: rest => parse join (c :: read) rest
  | [] => join (command read.reverse)

def ofChain (chain : Text) : AndOr := parse id [] chain

def ofLine (line : Text) : List AndOr := (splitWhere (· == ';') line).map ofChain

def leaves : AndOr → List Text
  | command text => [text]
  | and left right | or left right => left.leaves ++ right.leaves

def spelling : AndOr → Text
  | command text => text
  | and left right => left.spelling ++ ['&', '&'] ++ right.spelling
  | or left right => left.spelling ++ ['|', '|'] ++ right.spelling

def LeftAssociative : AndOr → Prop
  | command _ => True
  | and left right | or left right => left.LeftAssociative ∧ ∃ text, right = command text

/-- The trees spell the line, group to the left, and have the segments of the line as leaves. -/
structure Reading (line : Text) (chains : List AndOr) : Prop where
  spelled : Text.joined [';'] (chains.map spelling) = line
  grouped : ∀ chain ∈ chains, chain.LeftAssociative
  leaves : chains.flatMap leaves = (Segment.ofLine line).map (·.text)

/-- Evaluates the left side, then the right side if the status asks for it. No command is run after
a request to stop. -/
def eval (factories : List Factory) : AndOr → Shell → Shell
  | command text, sh =>
    if sh.session.exitRequest.isSome then sh else (sh.runSegment factories text).2
  | and left right, sh =>
    let sh := left.eval factories sh
    if sh.session.lastStatus = 0 then right.eval factories sh else sh
  | or left right, sh =>
    let sh := left.eval factories sh
    if sh.session.lastStatus = 0 then sh else right.eval factories sh

def evalAll (factories : List Factory) (chains : List AndOr) (sh : Shell) : Shell :=
  chains.foldl (fun sh chain => chain.eval factories sh) sh

theorem spelling_parse {join : AndOr → AndOr} (front : Text)
    (hj : ∀ a, (join a).spelling = front ++ a.spelling) (read t : Text) :
    (parse join read t).spelling = front ++ read.reverse ++ t := by
  fun_induction parse join read t generalizing front with
  | case1 join read rest ih | case2 join read rest ih =>
    rw [ih _ fun a => by rw [spelling, hj]]
    simp [spelling]
  | case3 join read c rest _ _ ih =>
    rw [ih front hj]
    simp
  | case4 => simp [hj, spelling]

theorem leftAssociative_parse {join : AndOr → AndOr}
    (hj : ∀ text, (join (command text)).LeftAssociative) (read t : Text) :
    (parse join read t).LeftAssociative := by
  fun_induction parse join read t with
  | case1 join read rest ih | case2 join read rest ih => exact ih fun text => ⟨hj _, text, rfl⟩
  | case3 join read c rest _ _ ih => exact ih hj
  | case4 => exact hj _

theorem leaves_parse {join : AndOr → AndOr} (front : List Text)
    (hj : ∀ text, (join (command text)).leaves = front ++ [text]) (gate : Gate) (read : Text)
    {t : Text} (ht : ';' ∉ t) :
    (parse join read t).leaves = front ++ (Segment.scan gate read t).map (·.text) := by
  fun_induction parse join read t generalizing front gate with
  | case1 join read rest ih =>
    rw [ih _ (fun text => by rw [leaves, hj, leaves]) .or (by simpa using ht)]
    simp [Segment.scan]
  | case2 join read rest ih =>
    rw [ih _ (fun text => by rw [leaves, hj, leaves]) .and (by simpa using ht)]
    simp [Segment.scan]
  | case3 join read c rest ho ha ih =>
    obtain ⟨hs, ht⟩ := not_or.1 (List.mem_cons.not.1 ht)
    rw [ih front hj gate ht, Segment.scan_cons (Ne.symm hs) (Segment.alone_of_not_operator ho ha)]
  | case4 => simp [hj, Segment.scan]

theorem leaves_ofChain {chain : Text} (hc : ';' ∉ chain) :
    (ofChain chain).leaves = (Segment.ofLine chain).map (·.text) :=
  leaves_parse [] (fun _ => rfl) .first [] hc

theorem map_text_joined {chains : List Text} (hne : chains ≠ []) :
    (Segment.ofLine (Text.joined [';'] chains)).map (·.text) =
      chains.flatMap fun chain => (Segment.ofLine chain).map (·.text) := by
  have hsame (segments : List Segment) :
      (segments.modifyHead ({ · with gate := .semicolon })).map (·.text) =
        segments.map (·.text) := by cases segments <;> rfl
  induction chains with
  | nil => exact absurd rfl hne
  | cons chain chains ih =>
    by_cases h : chains = []
    · subst h
      simp [Text.joined]
    · rw [Text.joined_cons _ _ h, List.append_assoc, List.singleton_append,
        Segment.ofLine_append_semicolon, List.map_append, hsame, ih h, List.flatMap_cons]

theorem not_semicolon_mem {line chain : Text} (h : chain ∈ splitWhere (· == ';') line) :
    ';' ∉ chain := by
  intro hm
  have := not_of_mem_splitWhere h _ hm
  simp at this

theorem reading_ofLine (line : Text) : Reading line (ofLine line) where
  spelled := by
    have hs : spelling ∘ ofChain = id :=
      funext fun chain => spelling_parse [] (fun _ => rfl) [] chain
    rw [ofLine, List.map_map, hs, List.map_id, Text.joined_splitWhere]
  grouped := by
    intro chain h
    obtain ⟨text, -, rfl⟩ := List.mem_map.1 h
    have hid (text : Text) : (id (command text)).LeftAssociative := trivial
    exact leftAssociative_parse hid [] text
  leaves := by
    have h := map_text_joined (splitWhere_ne_nil (· == ';') line)
    rw [Text.joined_splitWhere] at h
    rw [h, ofLine, List.flatMap_map]
    exact List.flatMap_congr fun chain hc => leaves_ofChain (not_semicolon_mem hc)

variable (factories : List Factory)

theorem eval_and_command (left : AndOr) (text : Text) (sh : Shell) :
    (and left (command text)).eval factories sh =
      Shell.runSegments factories [⟨.and, text⟩] (left.eval factories sh) := by
  by_cases h : (left.eval factories sh).session.lastStatus = 0 <;>
    simp [eval, Shell.runSegments, Gate.permits, h]

theorem eval_or_command (left : AndOr) (text : Text) (sh : Shell) :
    (or left (command text)).eval factories sh =
      Shell.runSegments factories [⟨.or, text⟩] (left.eval factories sh) := by
  by_cases h : (left.eval factories sh).session.lastStatus = 0 <;>
    simp [eval, Shell.runSegments, Gate.permits, h]

/-- The invariant of reading a chain: `sh₁` is where the tree that is read so far leads to, and the
next command runs there behind `gate`. -/
theorem eval_parse {join : AndOr → AndOr} {gate : Gate} {sh sh₁ : Shell}
    (hj : ∀ text, (join (command text)).eval factories sh =
      Shell.runSegments factories [⟨gate, text⟩] sh₁) (read : Text) {t : Text} (ht : ';' ∉ t) :
    (parse join read t).eval factories sh =
      Shell.runSegments factories (Segment.scan gate read t) sh₁ := by
  fun_induction parse join read t generalizing gate sh₁ with
  | case1 join read rest ih =>
    rw [Segment.scan, ← List.singleton_append, Shell.runSegments_append, ← hj]
    exact ih (fun text => eval_or_command factories _ text sh) (by simpa using ht)
  | case2 join read rest ih =>
    rw [Segment.scan, ← List.singleton_append, Shell.runSegments_append, ← hj]
    exact ih (fun text => eval_and_command factories _ text sh) (by simpa using ht)
  | case3 join read c rest ho ha ih =>
    obtain ⟨hs, ht⟩ := not_or.1 (List.mem_cons.not.1 ht)
    rw [ih hj ht, Segment.scan_cons (Ne.symm hs) (Segment.alone_of_not_operator ho ha)]
  | case4 join read => rw [hj, Segment.scan]

theorem eval_ofChain {chain : Text} (hc : ';' ∉ chain) (sh : Shell) :
    (ofChain chain).eval factories sh = sh.runLine factories chain :=
  eval_parse factories (fun text => by simp [eval, Shell.runSegments, Gate.permits]) [] hc

theorem runLine_joined {chains : List Text} (hne : chains ≠ []) (sh : Shell) :
    sh.runLine factories (Text.joined [';'] chains) =
      chains.foldl (fun sh chain => sh.runLine factories chain) sh := by
  induction chains generalizing sh with
  | nil => exact absurd rfl hne
  | cons chain chains ih =>
    by_cases h : chains = []
    · subst h
      simp [Text.joined]
    · rw [List.foldl_cons, ← ih h, Text.joined_cons _ _ h, List.append_assoc, List.singleton_append,
        Shell.runLine_append_semicolon]

theorem runLine_eq_foldl_eval (line : Text) (sh : Shell) :
    sh.runLine factories line = evalAll factories (ofLine line) sh := by
  have h := runLine_joined factories (splitWhere_ne_nil (· == ';') line) sh
  rw [Text.joined_splitWhere] at h
  rw [h, evalAll, ofLine, List.foldl_map]
  refine List.foldl_ext _ _ _ fun sh chain hc => ?_
  exact (eval_ofChain factories (not_semicolon_mem hc) sh).symm

/-- Running a line is evaluating its trees. Whatever is skipped or has no words leaves no trace: the
shell at the end is reached through some of the leaves, in their order and each at most once. -/
theorem runLine_eq_evalAll (factories : List Factory) (line : Text) (sh : Shell) :
    Reading line (ofLine line) ∧
      sh.runLine factories line = evalAll factories (ofLine line) sh ∧
      ∃ texts : List Text, texts.Sublist ((ofLine line).flatMap leaves) ∧
        Shell.Runs factories texts sh (sh.runLine factories line) := by
  have hr := reading_ofLine line
  refine ⟨hr, runLine_eq_foldl_eval factories line sh, ?_⟩
  rw [hr.leaves]
  exact Shell.exists_runs factories (Segment.ofLine line) sh

example : ofLine "a&&b||c;d".toList =
    [or (and (command ['a']) (command ['b'])) (command ['c']), command ['d']] := by decide

end AndOr
end LineShell
