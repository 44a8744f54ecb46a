import Mathlib
import QueryTemplate.Compile
import QueryTemplate.Proofs.Merging

/-!
The expressions of texts. Seams are dropped once from the pieces of a text, and once more from the
texts of a later branch, so what the pieces are merged to has to come through a second time. A
literal that is lost at first is not made up for.
-/

namespace QueryTemplate

namespace Piece

variable {quoted : Bool} {content : List Char}

open Text

/-! ## Two passes -/

theorem run_flatMap_merge (quoted : Bool) (body : List (List Piece)) :
    run quoted (body.flatMap merge) = run quoted body.flatten ∧
      endsQuoted quoted (body.flatMap merge) = endsQuoted quoted body.flatten := by
  induction body generalizing quoted with
  | nil => exact ⟨rfl, rfl⟩
  | cons ps body ih =>
    rw [List.flatMap_cons, List.flatten_cons, run_append, run_append, endsQuoted_append,
      endsQuoted_append, (run_merge quoted ps).1, (run_merge quoted ps).2]
    exact ⟨congrArg _ (ih _).1, (ih _).2⟩

/-- The first literal that is not kept. -/
theorem exists_of_not_kept {ps : List Piece} (h : ¬ Kept quoted ps) :
    ∃ front content back, ps = front ++ literal content :: back ∧ Kept quoted front ∧
      ['"', '+'] <:+ opened (endsQuoted quoted front) content := by
  induction ps generalizing quoted with
  | nil => exact absurd trivial h
  | cons p ps ih =>
    cases p with
    | literal content =>
      by_cases broken : ['"', '+'] <:+ opened quoted content
      · exact ⟨[], content, ps, rfl, trivial, broken⟩
      · obtain ⟨front, other, back, rfl, kept, suffix⟩ := ih fun kept => h ⟨broken, kept⟩
        exact ⟨literal content :: front, other, back, rfl, ⟨broken, kept⟩, suffix⟩
    | word spelling =>
      obtain ⟨front, other, back, rfl, kept, suffix⟩ := ih h
      exact ⟨word spelling :: front, other, back, rfl, kept, suffix⟩

theorem exists_concat_of_endsQuoted {ps : List Piece} (h : endsQuoted false ps = true) :
    ∃ front content, ps = front ++ [literal content] := by
  induction ps using List.reverseRecOn with
  | nil => cases h
  | append_singleton front p =>
    cases p with
    | literal content => exact ⟨front, content, rfl⟩
    | word spelling =>
      rw [endsQuoted_append] at h
      cases h

theorem run_merge_append (quoted : Bool) (ps qs : List Piece) :
    run quoted (merge ps ++ qs) = run quoted (ps ++ qs) := by
  rw [run_append, run_append, (run_merge quoted ps).1, (run_merge quoted ps).2]

/-- In front of a literal the pieces are merged to further pieces and the start of the literal. -/
structure Absorbs (ps front : List Piece) (a : List Char) : Prop where
  formed : ∀ p ∈ front, p.WellFormed
  joined : (literal a).WellFormed
  same : ∀ quoted content, run quoted (ps ++ [literal content]) =
    run quoted (front ++ [literal (a ++ content)])
  written : ∀ content, run false (ps ++ [literal content]) =
    behind front ++ '+' :: '"' :: (a ++ content)
  longer : ∀ content, opened (endsQuoted false ps) content <:+ '"' :: (a ++ content)

theorem absorbs_of_unquoted {ps : List Piece} (formed : ∀ p ∈ ps, p.WellFormed)
    (last : endsQuoted false ps = false) : Absorbs ps (merge ps) [] where
  formed := wellFormed_merge formed
  joined := .last (by decide)
  same := fun quoted _ => (run_merge_append quoted ps _).symm
  written := by
    intro content
    rw [run_append, behind_merge, last]
    simp [run, pending, separator, opened]
  longer := by
    intro content
    rw [last]
    exact List.suffix_refl _

theorem absorbs_of_quoted {ps front : List Piece} {a : List Char}
    (formed : ∀ p ∈ ps, p.WellFormed) (last : endsQuoted false ps = true)
    (whole : merge ps = front ++ [literal a]) : Absorbs ps front a := by
  have each := wellFormed_merge formed
  rw [whole, List.forall_mem_append, List.forall_mem_singleton] at each
  refine ⟨each.1, each.2, fun quoted content => ?_, fun content => ?_, fun content => ?_⟩
  · have joined := run_attach (endsQuoted quoted front) (literal a) [literal content]
    rw [← run_merge_append, whole, List.append_assoc, run_append, run_append quoted front]
    exact congrArg _ joined.symm
  · have written := behind_merge ps
    rw [whole, last, behind_append] at written
    have closed : run false ps ++ ['"'] = (behind front ++ '+' :: '"' :: a) ++ ['"'] := by
      simpa [behind, text, pending] using written.symm
    rw [run_append, last, List.append_cancel_right closed]
    simp [run, separator, opened]
  · rw [last]
    exact ⟨'"' :: a, rfl⟩

theorem exists_absorbs {ps : List Piece} (formed : ∀ p ∈ ps, p.WellFormed) :
    ∃ front a, Absorbs ps front a := by
  cases last : endsQuoted false ps with
  | false => exact ⟨_, _, absorbs_of_unquoted formed last⟩
  | true =>
    obtain ⟨front, a, whole⟩ :=
      exists_concat_of_endsQuoted ((run_merge false ps).2.trans last)
    exact ⟨front, a, absorbs_of_quoted formed last whole⟩

/-- A literal that ends in a quote and a plus has lost them, and its last quote, when it comes
behind other pieces a second time. -/
theorem dropSeams_stump_ne (formed : (literal content).WellFormed) {stump : List Char}
    (broken : stump ++ ['"', '+'] = '"' :: content) {t : List Char} (follows : Follows t)
    (quoted : Bool) (e : List Char) : dropSeams (pending quoted ++ '+' :: (stump ++ t)) ≠
      separator quoted ++ (opened quoted content ++ e) := by
  have next := follows.dropSeams
  cases stump with
  | nil =>
    obtain ⟨-, rfl⟩ := List.cons.inj broken
    cases quoted with
    | true =>
      have apart : ∀ v, '"' :: '+' :: t ≠ '"' :: '+' :: '"' :: v := by
        intro v whole
        simp only [List.cons.injEq, true_and] at whole
        exact follows.ne_quote v whole
      have dropped : dropSeams ('"' :: '+' :: t) = '"' :: dropSeams ('+' :: t) :=
        dropSeams_cons apart
      intro same
      exact absurd (List.cons.inj (dropped.symm.trans same)).1 (by decide)
    | false =>
      have dropped : dropSeams ('+' :: t) = '+' :: dropSeams t := dropSeams_cons_of_ne (by decide) t
      intro same
      exact next.ne_quote _ (List.cons.inj (dropped.symm.trans same)).2
  | cons c stump =>
    obtain ⟨rfl, spelled⟩ := List.cons.inj broken
    have whole : opened quoted content = opened quoted stump ++ ['"', '+'] := by
      cases quoted <;> simp [opened, ← spelled]
    have dropped : dropSeams (opened quoted stump ++ t) = opened quoted stump ++ dropSeams t := by
      obtain ⟨before, closing⟩ := closing_opened formed quoted
      rw [whole, List.append_assoc] at closing
      exact dropSeams_append_of_escaped closing (by simp) t
    rw [List.cons_append, dropSeams_literal, dropped, whole, ne_eq, List.append_cancel_left_eq,
      List.append_assoc, List.append_cancel_left_eq]
    exact next.ne_quote _

/-- The pieces would come out as some pieces with a literal among them, but of the literal only a
stump is left, and its last quote is gone. -/
structure Loses (ps front : List Piece) (content : List Char) (back : List Piece)
    (stump t : List Char) : Prop where
  formed : ∀ p ∈ front, p.WellFormed
  joined : (literal content).WellFormed
  ends : stump ++ ['"', '+'] = '"' :: content
  same : ∀ quoted, run quoted ps = run quoted (front ++ literal content :: back)
  follows : Follows t
  dropped : dropSeams (behind ps) = behind front ++ '+' :: (stump ++ t)

theorem exists_loses {ps : List Piece} (formed : ∀ p ∈ ps, p.WellFormed) (h : ¬ Kept false ps) :
    ∃ front content back stump t, Loses ps front content back stump t := by
  obtain ⟨first, content, back, rfl, kept, suffix⟩ := exists_of_not_kept h
  rw [List.forall_mem_append, List.forall_mem_cons] at formed
  obtain ⟨formed, literal_formed, -⟩ := formed
  obtain ⟨front, a, absorbs⟩ := exists_absorbs formed
  obtain ⟨stump, broken⟩ := suffix.trans (absorbs.longer content)
  obtain ⟨part, ends⟩ := suffix
  refine ⟨front, a ++ content, back, stump, dropSeams (behind back), absorbs.formed,
    closing_join absorbs.joined literal_formed, broken, fun quoted => ?_,
    (follows_behind back).dropSeams, ?_⟩
  · rw [run_append_literal, run_append_literal quoted front, absorbs.same]
  have dropped := (dropSeams_behind_eq_iff formed (follows_behind (literal content :: back)) false
    _).2 ⟨kept, rfl⟩
  have next : behind (literal content :: back) =
      '+' :: '"' :: (content ++ '"' :: behind back) := by
    simp [behind_cons, join, text]
  have stumps : (run false first ++ (separator (endsQuoted false first) ++ part)) ++ ['"', '+'] =
      (behind front ++ '+' :: stump) ++ ['"', '+'] := by
    rw [List.append_assoc, List.append_assoc, ends, List.append_assoc, List.cons_append, broken,
      ← absorbs.written, run_append, run, run, List.append_nil]
  rw [behind_append, ← List.nil_append (behind first ++ _)]
  refine dropped.trans ?_
  rw [next, dropSeams_literal, dropSeams_broken literal_formed ends]
  simpa using congrArg (· ++ dropSeams (behind back)) (List.append_cancel_right stumps)

/-- A second pass does not make up for a literal that is lost, whatever is in front and behind. -/
theorem Loses.dropSeams_ne {ps first back : List Piece} {stump t : List Char}
    (h : Loses ps first content back stump t) {front : List Piece}
    (formed : ∀ p ∈ front, p.WellFormed) {u : List Char} (follows : Follows u) (qs : List Piece)
    (e : List Char) : dropSeams (behind front ++ (dropSeams (behind ps) ++ u)) ≠
      run false (front ++ (ps ++ qs)) ++ e := by
  have all := List.forall_mem_append.2 ⟨formed, h.formed⟩
  have expected : run false (front ++ (ps ++ qs)) ++ e =
      run false (front ++ first) ++ (separator (endsQuoted false (front ++ first)) ++
        (opened (endsQuoted false (front ++ first)) content ++ (run true back ++
          (run (endsQuoted (endsQuoted false front) ps) qs ++ e)))) := by
    rw [run_append, run_append _ ps, h.same, run_append _ first, run_append false front,
      endsQuoted_append, run]
    simp only [List.append_assoc]
  intro whole
  rw [h.dropped, expected, ← List.append_assoc, ← List.append_assoc, ← behind_append,
    List.append_assoc, List.cons_append, List.append_assoc] at whole
  have twice := (dropSeams_behind_eq_iff all (.inr ⟨_, rfl⟩) false _).1 whole
  exact dropSeams_stump_ne h.joined h.ends (h.follows.append follows) _ _ twice.2

theorem follows_flatMap (body : List (List Piece)) :
    Follows (body.flatMap fun ps => dropSeams (behind ps)) := by
  induction body with
  | nil => exact .inl rfl
  | cons ps body ih => exact (follows_behind ps).dropSeams.append ih

/-- What has lost a literal once does not come out as merged pieces. -/
theorem dropSeams_flatMap_ne {body : List (List Piece)}
    (formed : ∀ ps ∈ body, ∀ p ∈ ps, p.WellFormed) (broken : ¬ ∀ ps ∈ body, Kept false ps)
    {front : List Piece} (formed' : ∀ p ∈ front, p.WellFormed) (e : List Char) :
    dropSeams (behind front ++ body.flatMap fun ps => dropSeams (behind ps)) ≠
      run false (front ++ body.flatten) ++ e := by
  induction body generalizing front with
  | nil => exact absurd (List.forall_mem_nil _) broken
  | cons ps body ih =>
    rw [List.forall_mem_cons] at formed broken
    rw [List.flatMap_cons, List.flatten_cons]
    by_cases kept : Kept false ps
    · have others : ¬ ∀ qs ∈ body, Kept false qs := fun all => broken ⟨kept, all⟩
      have merged := List.forall_mem_append.2 ⟨formed', wellFormed_merge formed.1⟩
      have further := ih formed.2 others merged
      have same : run false (front ++ (merge ps ++ body.flatten)) =
          run false (front ++ (ps ++ body.flatten)) := by
        rw [run_append, run_merge_append, ← run_append]
      rw [(dropSeams_behind_eq_merge_iff formed.1).2 kept, ← List.append_assoc, ← behind_append,
        ← same, ← List.append_assoc front]
      exact further
    · obtain ⟨first, content, back, stump, t, loses⟩ := exists_loses formed.1 kept
      exact loses.dropSeams_ne formed' (follows_flatMap body) body.flatten e

/-- Texts come out with all their pieces merged just if every text does on its own and so does what
they are merged to. -/
theorem dropSeams_flatMap_eq_iff {body : List (List Piece)}
    (formed : ∀ ps ∈ body, ∀ p ∈ ps, p.WellFormed) :
    dropSeams (body.flatMap fun ps => dropSeams (behind ps)) = behind (merge body.flatten) ↔
      (∀ ps ∈ body, Kept false ps) ∧ Kept false (body.flatMap merge) := by
  by_cases kept : ∀ ps ∈ body, Kept false ps
  · have merged : (body.flatMap fun ps => dropSeams (behind ps)) = behind (body.flatMap merge) := by
      rw [behind, List.flatMap_assoc]
      exact List.flatMap_congr fun ps hps =>
        (dropSeams_behind_eq_merge_iff (formed ps hps)).2 (kept ps hps)
    have formed' : ∀ p ∈ body.flatMap merge, p.WellFormed := by
      intro p hp
      obtain ⟨ps, hps, hp⟩ := List.mem_flatMap.1 hp
      exact wellFormed_merge (formed ps hps) p hp
    have same : behind (merge body.flatten) = behind (merge (body.flatMap merge)) := by
      rw [behind_merge, behind_merge, (run_flatMap_merge false body).1,
        (run_flatMap_merge false body).2]
    rw [merged, same, and_iff_right kept]
    exact dropSeams_behind_eq_merge_iff formed'
  · refine iff_of_false (fun whole => ?_) fun h => kept h.1
    rw [behind_merge] at whole
    exact dropSeams_flatMap_ne formed kept (List.forall_mem_nil _) _ whole

/-! ## Expressions -/

def spelled (p : Piece) : String :=
  String.ofList p.text

theorem toList_concatenation_spelled {ps : List Piece} (nonempty : ps ≠ []) :
    '+' :: (concatenation (ps.map spelled)).toList = dropSeams (behind ps) := by
  rw [toList_concatenation (by simpa using nonempty), List.flatMap_map]
  simp only [spelled, String.toList_ofList, behind]

theorem merge_ne_nil {ps : List Piece} (nonempty : ps ≠ []) : merge ps ≠ [] := by
  cases ps with
  | nil => exact absurd rfl nonempty
  | cons p ps =>
    have first : merge (p :: ps) = attach p (merge ps) := rfl
    rw [first]
    unfold attach
    split <;> simp

/-- An expression is read as merged pieces just if it is written as them. -/
theorem read_eq_merge_iff {ps : List Piece} (formed : ∀ p ∈ ps, p.WellFormed) (nonempty : ps ≠ [])
    (cs : List Char) : read cs = some (merge ps) ↔ '+' :: cs = behind (merge ps) := by
  rw [read_eq_some_iff, and_iff_left (wellFormed_merge formed), behind_eq (merge_ne_nil nonempty),
    List.cons_inj_right]

theorem read_concatenation_iff {ps : List Piece} (formed : ∀ p ∈ ps, p.WellFormed) :
    read (concatenation (ps.map spelled)).toList = some (merge ps) ↔ Kept false ps := by
  by_cases nonempty : ps = []
  · subst nonempty
    exact iff_of_true rfl trivial
  · rw [read_eq_merge_iff formed nonempty, toList_concatenation_spelled nonempty]
    exact dropSeams_behind_eq_merge_iff formed

theorem read_concatenations_iff {body : List (List Piece)} (nonempty : ∀ ps ∈ body, ps ≠ [])
    (formed : ∀ ps ∈ body, ∀ p ∈ ps, p.WellFormed) :
    read (concatenation (body.map fun ps => concatenation (ps.map spelled))).toList =
        some (merge body.flatten) ↔
      (∀ ps ∈ body, Kept false ps) ∧ Kept false (body.flatMap merge) := by
  by_cases empty : body = []
  · subst empty
    exact iff_of_true rfl ⟨List.forall_mem_nil _, trivial⟩
  have pieces : body.flatten ≠ [] := by
    obtain ⟨ps, others, rfl⟩ := List.exists_cons_of_ne_nil empty
    exact fun none => nonempty ps (.head _) (List.append_eq_nil_iff.1 none).1
  have all : ∀ p ∈ body.flatten, p.WellFormed := by
    intro p hp
    obtain ⟨ps, hps, hp⟩ := List.mem_flatten.1 hp
    exact formed ps hps p hp
  have each : (body.map fun ps => concatenation (ps.map spelled)).flatMap
      (fun s => '+' :: s.toList) = body.flatMap fun ps => dropSeams (behind ps) := by
    rw [List.flatMap_map]
    exact List.flatMap_congr fun ps hps => toList_concatenation_spelled (nonempty ps hps)
  rw [read_eq_merge_iff all pieces, toList_concatenation (by simpa using empty), each]
  exact dropSeams_flatMap_eq_iff formed

theorem exists_spelled {texts : List String}
    (each : ∀ s ∈ texts, ∃ p : Piece, p.WellFormed ∧ p.text = s.toList) :
    ∃ ps : List Piece, (∀ p ∈ ps, p.WellFormed) ∧ ps.map spelled = texts := by
  induction texts with
  | nil => exact ⟨[], List.forall_mem_nil _, rfl⟩
  | cons s texts ih =>
    rw [List.forall_mem_cons] at each
    obtain ⟨p, formed, text⟩ := each.1
    obtain ⟨ps, others, texts⟩ := ih each.2
    have first : p.spelled = s := by rw [spelled, text, String.ofList_toList]
    exact ⟨p :: ps, List.forall_mem_cons.2 ⟨formed, others⟩, by rw [List.map_cons, first, texts]⟩

/-- The operands of a template are pieces, where names are identifiers and no word is glued to a
quote, so the expression of a text made of them is read as they are just if they are kept. -/
theorem read_operands_iff {params : List Param} (identifiers : ∀ p ∈ params, p.IsIdentifier)
    {template : String} {ts : List Token} (h : Token.ofText params template = .ok ts)
    {texts : List String} (operands : ∀ s ∈ texts, ∃ t ∈ ts, t.isOperand = true ∧ t.text = s ∧
      (t.kind = .quoted → t.text.toList.head? = some '"')) (target : Target) :
    ∃ ps : List Piece, (∀ p ∈ ps, p.WellFormed) ∧ ps.map spelled = texts ∧
      (read (Step.payloadText target (.one (Clause.sql texts).operand)).toList =
        some (merge ps) ↔ Kept false ps) := by
  obtain ⟨ps, formed, rfl⟩ := exists_spelled fun s hs => by
    obtain ⟨t, ht, operand, rfl, quoted⟩ := operands s hs
    exact exists_of_ofText identifiers h ht operand quoted
  exact ⟨ps, formed, rfl, read_concatenation_iff formed⟩

/-- The expression of a text is read as its pieces, with adjacent literals merged, just if no
literal ends in a quote and a plus; that of a later branch with nothing but texts, just if no
literal of them does and none of those that each text is merged to. -/
theorem payloadText_kept_iff (target : Target) :
    (∀ ps : List Piece, (∀ p ∈ ps, p.WellFormed) →
      (read (Step.payloadText target (.one (Clause.sql (ps.map spelled)).operand)).toList =
        some (merge ps) ↔ Kept false ps)) ∧
    ∀ body : List (List Piece), (∀ ps ∈ body, ps ≠ [] ∧ ∀ p ∈ ps, p.WellFormed) →
      (read (Step.payloadText target
          (.all (body.map fun ps => (Clause.sql (ps.map spelled)).operand))).toList =
        some (merge body.flatten) ↔
          (∀ ps ∈ body, Kept false ps) ∧ Kept false (body.flatMap merge)) := by
  refine ⟨fun ps formed => read_concatenation_iff formed, fun body texts => ?_⟩
  have written : Step.payloadText target
      (.all (body.map fun ps => (Clause.sql (ps.map spelled)).operand)) =
        concatenation (body.map fun ps => concatenation (ps.map spelled)) := by
    simp only [Step.payloadText, Payload.map, Payload.text, List.map_map]
    rfl
  rw [written]
  exact read_concatenations_iff (fun ps hps => (texts ps hps).1) fun ps hps => (texts ps hps).2

/-- Neighbouring literals are merged, also where one of them is a plus sign. -/
theorem payloadText_kept_sum :
    read (Step.payloadText {} (.one (Clause.sql
        ["\"a \"", "\"+\"", "\" b = \"", "A"]).operand)).toList =
      some [.literal "a + b = ".toList, .word ['A']] ∧
    read (Step.payloadText {} (.all
        [(Clause.sql ["\"a \"", "\"+\"", "\" b = \""]).operand,
          (Clause.sql ["A"]).operand])).toList =
      some [.literal "a + b = ".toList, .word ['A']] := by
  have formed : ∀ p ∈ [literal "a ".toList, literal ['+'], literal " b = ".toList, word ['A']],
      p.WellFormed := by decide
  have texts : ∀ ps ∈ [[literal "a ".toList, literal ['+'], literal " b = ".toList], [word ['A']]],
      ps ≠ [] ∧ ∀ p ∈ ps, p.WellFormed := by decide
  exact ⟨((payloadText_kept_iff {}).1 _ formed).2 (by decide),
    ((payloadText_kept_iff {}).2 _ texts).2 (by decide)⟩

/-- A template with one literal, which is a plus sign. Nothing of it is left in the expression. -/
theorem not_read_plus :
    (literal ['+']).WellFormed ∧
    Token.ofText [] "\"+\"" = .ok [⟨.quoted, spelled (literal ['+']), false⟩] ∧
    (compile [] "\"+\"").map (·.assembly {}) = .ok ["", "generateSQL+="] ∧
    read (Step.payloadText {} (.one (Clause.sql [spelled (literal ['+'])]).operand)).toList ≠
      some (merge [literal ['+']]) := by
  refine ⟨by decide, by cbv, by cbv, by decide⟩

end Piece

end QueryTemplate
