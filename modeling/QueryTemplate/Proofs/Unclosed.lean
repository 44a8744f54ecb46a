import Mathlib
import QueryTemplate.Proofs.Drafting
import QueryTemplate.Proofs.OpenBlocks

/-!
Statements that go on. A list of statements is rejected for one of two reasons. Blocks are open at
its end: then as many ends as there are open blocks make a template of it, further ends do no harm,
and fewer leave a block open. Or one of the statements cannot stand where it does: then the fault is
the same whatever follows.
-/

namespace QueryTemplate

namespace Statement

/-- The blocks that are open after a statement, as far as its kind tells, the innermost first. -/
def opened (blocks : List BlockKind) (s : Statement) : List BlockKind :=
  match s.kind with
  | .ifOpen => .choice :: blocks
  | .whereOpen => .whereList :: blocks
  | .setOpen => .setList :: blocks
  | .close => blocks.tail
  | .literal | .elseIf | .otherwise => blocks

def openBlocks (ss : List Statement) : List BlockKind :=
  ss.foldl opened []

end Statement

/-- A type that does not fit is no matter of blocks. -/
theorem Condition.check_ne_unclosed {c : Condition} {fault : Fault} (h : c.check = .error fault)
    (block : BlockKind) : fault ≠ .unclosed block := by
  have tokens (whole ts : List Token) (h : checkTokens whole ts = .error fault) :
      fault ≠ .unclosed block := by
    fun_induction checkTokens whole ts <;> grind
  exact tokens c.tokens c.tokens.tail h

namespace OpenBlock

variable {blocks inner : List OpenBlock} {s : Statement} {ss : List Statement} {fault : Fault}

theorem map_block_after (h : after blocks s = .ok inner) :
    inner.map block = Statement.opened (blocks.map block) s := by
  unfold after at h
  split at h
  -- the two kinds with a condition
  case h_2 opening | h_7 opening =>
    obtain ⟨_, -, h⟩ := except_bind_eq_ok.1 h
    cases h
    simp [Statement.opened, opening, block]
  all_goals cases h
  all_goals simp [Statement.opened, block, ListKind.block, *]

theorem map_block_foldlM (h : ss.foldlM after blocks = .ok inner) :
    inner.map block = ss.foldl Statement.opened (blocks.map block) := by
  induction ss generalizing blocks with
  | nil =>
    cases h
    rfl
  | cons s ss ih =>
    rw [List.foldlM_cons] at h
    obtain ⟨next, first, others⟩ := except_bind_eq_ok.1 h
    rw [ih others, map_block_after first, List.foldl_cons]

theorem after_ne_unclosed (h : after blocks s = .error fault) (b : BlockKind) :
    fault ≠ .unclosed b := by
  unfold after at h
  split at h
  -- only the check of a condition gives a fault from elsewhere
  case h_2 | h_7 =>
    cases check : s.condition.check with
    | error found =>
      rw [check] at h
      cases h
      exact Condition.check_ne_unclosed check b
    | ok _ =>
      rw [check] at h
      cases h
  all_goals cases h
  all_goals simp

theorem foldlM_ne_unclosed (h : ss.foldlM after blocks = .error fault) (b : BlockKind) :
    fault ≠ .unclosed b := by
  induction ss generalizing blocks with
  | nil => cases h
  | cons s ss ih =>
    rw [List.foldlM_cons] at h
    cases first : after blocks s with
    | error found =>
      rw [first] at h
      cases h
      exact after_ne_unclosed first b
    | ok next =>
      rw [first] at h
      exact ih h

theorem closed_eq_ok_iff : closed blocks = .ok () ↔ blocks = [] := by
  cases blocks <;> simp [closed]

theorem closed_eq_unclosed (h : blocks ≠ []) : ∃ b, closed blocks = .error (.unclosed b) := by
  obtain ⟨b, outer, rfl⟩ := List.exists_cons_of_ne_nil h
  exact ⟨b.block, rfl⟩

/-- Every end closes the innermost block, or nothing where none is open. -/
theorem foldlM_closes {es : List Statement} (closes : ∀ e ∈ es, e.kind = .close)
    (blocks : List OpenBlock) : es.foldlM after blocks = .ok (blocks.drop es.length) := by
  induction es generalizing blocks with
  | nil => rfl
  | cons e es ih =>
    rw [List.forall_mem_cons] at closes
    have first : after blocks e = .ok blocks.tail := by simp [after, closes.1]
    rw [List.foldlM_cons, first]
    show es.foldlM after blocks.tail = _
    rw [ih closes.2, List.drop_tail, List.length_cons]

end OpenBlock

namespace Compiled

open OpenBlock

variable {ss : List Statement}

theorem verdict_eq (nonempty : ss ≠ []) : verdict [] ss = ofStatements ss >>= fun _ => .ok () := by
  rw [Node.verdict_takeAll, ofStatements_eq, Node.ofStatements, if_neg nonempty]
  cases Node.takeAll ss <;> rfl

theorem ofStatements_eq_error_iff (nonempty : ss ≠ []) (fault : Fault) :
    ofStatements ss = .error fault ↔ verdict [] ss = .error fault := by
  rw [verdict_eq nonempty]
  cases ofStatements ss <;> simp [bind, Except.bind]

theorem exists_ofStatements_iff (nonempty : ss ≠ []) :
    (∃ c, ofStatements ss = .ok c) ↔ verdict [] ss = .ok () := by
  rw [verdict_eq nonempty]
  cases ofStatements ss <;> simp [bind, Except.bind]

/-- Statements that are rejected because blocks are open at their end are a template with as many
ends behind them as there are open blocks, and with more, but not with fewer, and the message names
the innermost of the open blocks. Statements that are rejected for another reason are rejected for
it with any statements behind them. -/
theorem ofStatements_error_append (nonempty : ss ≠ []) {fault : Fault}
    (h : ofStatements ss = .error fault) :
    (∃ block outer, fault = .unclosed block ∧ Statement.openBlocks ss = block :: outer ∧
        (∀ template, fault.message template = "incomplete SQL, " ++ block.word ++ " not end") ∧
        ∀ es, (∀ e ∈ es, e.kind = .close) →
          ((∃ c, ofStatements (ss ++ es) = .ok c) ↔ outer.length < es.length) ∧
          (es.length ≤ outer.length → ∃ b, ofStatements (ss ++ es) = .error (.unclosed b))) ∨
      (∀ block, fault ≠ .unclosed block) ∧
        ∀ more, ofStatements (ss ++ more) = .error fault := by
  have longer (more : List Statement) : ss ++ more ≠ [] := by simp [nonempty]
  have found := (ofStatements_eq_error_iff nonempty fault).1 h
  unfold verdict at found
  cases run : ss.foldlM after [] with
  | error refused =>
    rw [run] at found
    cases found
    refine .inr ⟨foldlM_ne_unclosed run, fun more => ?_⟩
    rw [ofStatements_eq_error_iff (longer more), verdict_append, run]
    rfl
  | ok blocks =>
    rw [run] at found
    cases blocks with
    | nil => cases found
    | cons b outer =>
      cases found
      refine .inl ⟨b.block, outer.map block, rfl, (map_block_foldlM run).symm, fun _ => rfl, ?_⟩
      intro es closes
      have closed : verdict [] (ss ++ es) = closed ((b :: outer).drop es.length) := by
        rw [verdict_append, run]
        show verdict (b :: outer) es = _
        rw [verdict, foldlM_closes closes]
        rfl
      rw [exists_ofStatements_iff (longer es), closed, closed_eq_ok_iff, List.drop_eq_nil_iff,
        List.length_cons, List.length_map]
      refine ⟨Nat.succ_le_iff, fun fewer => ?_⟩
      have open' : (b :: outer).drop es.length ≠ [] := by
        rw [Ne, List.drop_eq_nil_iff, List.length_cons]
        omega
      obtain ⟨innermost, unclosed⟩ := closed_eq_unclosed open'
      exact ⟨innermost, (ofStatements_eq_error_iff (longer es) _).2 (closed.trans unclosed)⟩

/-- A where in the else of an if, both of them open. -/
def openWhere : List Statement :=
  let word (k : Keyword) : Token := ⟨.keyword k, k.name, false⟩
  [.guarded .ifOpen [word .ifOpen] [⟨.param .bool, "A", false⟩],
    .literal ⟨.quoted, "\"a\"", false⟩,
    .bare .otherwise (word .otherwise),
    .bare .whereOpen (word .whereOpen),
    .literal ⟨.quoted, "\"b\"", false⟩]

/-- A set in the same place as the text in the where. -/
def setInWhere : List Statement :=
  openWhere ++ [.bare .setOpen ⟨.keyword .setOpen, "SET", false⟩]

theorem ofStatements_openWhere :
    ofStatements openWhere = .error (.unclosed .whereList) ∧
      Statement.openBlocks openWhere = [.whereList, .choice] ∧
      (∀ es, (∀ e ∈ es, e.kind = .close) →
        ((∃ c, ofStatements (openWhere ++ es) = .ok c) ↔ 1 < es.length) ∧
        (es.length ≤ 1 → ∃ b, ofStatements (openWhere ++ es) = .error (.unclosed b))) ∧
      ∀ more, ofStatements (setInWhere ++ more) = .error (.misplaced "SET") := by
  have unclosed : ofStatements openWhere = .error (.unclosed .whereList) := by cbv
  have misplaced : ofStatements setInWhere = .error (.misplaced "SET") := by cbv
  have blocks : Statement.openBlocks openWhere = [.whereList, .choice] := by decide
  refine ⟨unclosed, blocks, ?_, ?_⟩
  · rcases ofStatements_error_append (by decide) unclosed with
      ⟨block, outer, -, stack, -, ends⟩ | ⟨other, -⟩
    · cases blocks.symm.trans stack
      exact ends
    · exact absurd rfl (other .whereList)
  · rcases ofStatements_error_append (by decide) misplaced with
      ⟨block, outer, same, -⟩ | ⟨-, persists⟩
    · cases same
    · exact persists

end Compiled

end QueryTemplate
