import QueryTemplate.Proofs.Evaluation
import QueryTemplate.Proofs.GuardText

/-!
Which branch of an if its guards select. The text of every guard is read as an expression. If no
token of the conditions has a parenthesis outside of its quotes, the guards select the first branch
whose own condition holds, and otherwise one of them cannot be read.
-/

namespace QueryTemplate

namespace Guard

variable {P : Condition → Prop} {v : Atom → Bool} {prior : List Condition} {gs : List Guard}

/-- The guards of later branches, behind branches with the prior conditions. Every own condition
has the property. -/
inductive Later (P : Condition → Prop) : List Condition → List Guard → Prop
  | nil (prior : List Condition) : Later P prior []
  | otherwise (prior : List Condition) : Later P prior [.otherwise prior]
  | elseIf {prior : List Condition} {c : Condition} {gs : List Guard} (own : P c)
      (others : Later P (prior ++ [c]) gs) : Later P prior (.elseIf prior c :: gs)

inductive IsChain (P : Condition → Prop) : List Guard → Prop
  | first {c : Condition} {gs : List Guard} (own : P c) (others : Later P [c] gs) :
      IsChain P (.first c :: gs)

def Reads (g : Guard) (v : Atom → Bool) (a : Bool) : Prop :=
  ∃ s, Symbol.ofText g.text = some s ∧ Symbol.Reads v .disjunction s a

def ownHolds (v : Atom → Bool) (g : Guard) : Bool :=
  g.own.all (Condition.holds v)

/-- Each guard has one value, at most one is true, one is if the last branch has no condition, and
the one that is true is that of the first branch whose own condition holds. -/
structure Selects (v : Atom → Bool) (gs : List Guard) : Prop where
  readable : ∀ g ∈ gs, ∃ a, ∀ b, g.Reads v b ↔ b = a
  exclusive : gs.Pairwise fun g g' => ¬ (g.Reads v true ∧ g'.Reads v true)
  exhaustive : ∀ prior, gs.getLast? = some (.otherwise prior) → ∃ g ∈ gs, g.Reads v true
  chosen : ∀ before g after, gs = before ++ g :: after →
    (g.Reads v true ↔ g.ownHolds v = true ∧ ∀ g' ∈ before, g'.ownHolds v = false)

/-- What is asked of a condition: it has the shape of one, and its tokens have texts of tokens. -/
def Written (c : Condition) : Prop :=
  c.Chained ∧ ∀ t ∈ c.tokens, t.Formed

@[simp] theorem ownHolds_first (v : Atom → Bool) (c : Condition) :
    (Guard.first c).ownHolds v = c.holds v :=
  rfl

@[simp] theorem ownHolds_elseIf (v : Atom → Bool) (prior : List Condition) (c : Condition) :
    (Guard.elseIf prior c).ownHolds v = c.holds v :=
  rfl

@[simp] theorem ownHolds_otherwise (v : Atom → Bool) (prior : List Condition) :
    (Guard.otherwise prior).ownHolds v = true :=
  rfl

theorem Later.holds_iff (h : Later P prior gs) (v : Atom → Bool) {before after : List Guard}
    {g : Guard} (at' : gs = before ++ g :: after) :
    g.holds v = true ↔ (∀ c ∈ prior, c.holds v = false) ∧ g.ownHolds v = true ∧
      ∀ g' ∈ before, g'.ownHolds v = false := by
  induction h generalizing before with
  | nil => simp at at'
  | otherwise prior =>
    obtain ⟨rfl, rfl, -⟩ : before = [] ∧ g = .otherwise prior ∧ _ := by
      simpa [eq_comm, List.append_eq_singleton_iff] using at'
    simp [holds]
  | @elseIf prior c gs _ _ ih =>
    rcases before with _ | ⟨first, before⟩
    · rw [List.nil_append, List.cons.injEq] at at'
      obtain ⟨rfl, -⟩ := at'
      simp [holds]
    · rw [List.cons_append, List.cons.injEq] at at'
      obtain ⟨rfl, at'⟩ := at'
      rw [ih at', List.forall_mem_append, List.forall_mem_singleton, List.forall_mem_cons,
        ownHolds_elseIf]
      exact ⟨fun ⟨⟨prior, c⟩, own, others⟩ => ⟨prior, own, c, others⟩,
        fun ⟨prior, own, c, others⟩ => ⟨⟨prior, c⟩, own, others⟩⟩

/-- The guard that holds is that of the first branch whose own condition does. -/
theorem IsChain.holds_iff (h : IsChain P gs) (v : Atom → Bool) {before after : List Guard}
    {g : Guard} (at' : gs = before ++ g :: after) :
    g.holds v = true ↔ g.ownHolds v = true ∧ ∀ g' ∈ before, g'.ownHolds v = false := by
  cases h with
  | @first c gs _ others =>
    rcases before with _ | ⟨first, before⟩
    · rw [List.nil_append, List.cons.injEq] at at'
      obtain ⟨rfl, -⟩ := at'
      simp [holds]
    · rw [List.cons_append, List.cons.injEq] at at'
      obtain ⟨rfl, at'⟩ := at'
      rw [others.holds_iff v at', List.forall_mem_singleton, List.forall_mem_cons, ownHolds_first]
      exact ⟨fun ⟨c, own, others⟩ => ⟨own, c, others⟩, fun ⟨own, c, others⟩ => ⟨c, own, others⟩⟩

/-- Where the guards read as what they say, they select. -/
theorem IsChain.selects (h : IsChain P gs) (reads : ∀ g ∈ gs, ∀ b, g.Reads v b ↔ b = g.holds v) :
    Selects v gs where
  readable g hg := ⟨g.holds v, reads g hg⟩
  exclusive := by
    rw [List.pairwise_iff_getElem]
    rintro i j hi hj less ⟨left, right⟩
    rw [reads _ (List.getElem_mem hi), eq_comm] at left
    rw [reads _ (List.getElem_mem hj), eq_comm] at right
    have split (k : Nat) (hk : k < gs.length) : gs = gs.take k ++ gs[k] :: gs.drop (k + 1) := by
      rw [List.getElem_cons_drop, List.take_append_drop]
    have earlier := ((h.holds_iff v (split i hi)).1 left).1
    have later := ((h.holds_iff v (split j hj)).1 right).2 gs[i]
      (List.mem_take_iff_getElem.2 ⟨i, by omega, rfl⟩)
    rw [earlier] at later
    cases later
  exhaustive prior last := by
    have mem := List.mem_of_getLast? last
    obtain ⟨g, found⟩ : ∃ g, gs.find? (ownHolds v) = some g :=
      Option.isSome_iff_exists.1 (List.find?_isSome.2 ⟨_, mem, rfl⟩)
    obtain ⟨own, before, after, at', others⟩ := List.find?_eq_some_iff_append.1 found
    have holds := (h.holds_iff v at').2 ⟨own, by simpa using others⟩
    exact ⟨g, List.mem_of_find?_eq_some found,
      (reads g (List.mem_of_find?_eq_some found) true).2 holds.symm⟩
  chosen before g after at' := by
    have mem : g ∈ gs := by simp [at']
    rw [reads g mem, eq_comm]
    exact h.holds_iff v at'

/-! ## Guards that can be read -/

theorem Later.and {Q : Condition → Prop} (h : Later P prior gs)
    (owns : ∀ g ∈ gs, ∀ c ∈ g.own, Q c) : Later (fun c => P c ∧ Q c) prior gs := by
  induction h with
  | nil => exact .nil _
  | otherwise => exact .otherwise _
  | elseIf own _ ih =>
    rw [List.forall_mem_cons] at owns
    exact .elseIf ⟨own, owns.1 _ rfl⟩ (ih owns.2)

theorem Later.conditions (h : Later P prior gs) (priors : ∀ c ∈ prior, P c) :
    ∀ g ∈ gs, ∀ c ∈ g.conditions, P c := by
  induction h with
  | nil => simp
  | otherwise => simpa [Guard.conditions] using priors
  | @elseIf prior c gs own _ ih =>
    have both : ∀ d ∈ prior ++ [c], P d := by
      rw [List.forall_mem_append, List.forall_mem_singleton]
      exact ⟨priors, own⟩
    exact List.forall_mem_cons.2 ⟨both, ih both⟩

theorem Later.chained (h : Later P prior gs) (nonempty : prior ≠ []) (priors : ∀ c ∈ prior, P c)
    (chained : ∀ c, P c → c.Chained) : ∀ g ∈ gs, g.Chained := by
  induction h with
  | nil => simp
  | otherwise prior =>
    rw [List.forall_mem_singleton]
    exact ⟨nonempty, fun c hc => chained c (priors c hc)⟩
  | @elseIf prior c gs own _ ih =>
    refine List.forall_mem_cons.2 ⟨⟨nonempty, fun d hd => chained d (priors d hd),
      chained c own⟩, ih (by simp) ?_⟩
    rw [List.forall_mem_append, List.forall_mem_singleton]
    exact ⟨priors, own⟩

theorem IsChain.conditions (h : IsChain P gs) : ∀ g ∈ gs, ∀ c ∈ g.conditions, P c := by
  cases h with
  | first own others =>
    have single : ∀ c ∈ [_], P c := List.forall_mem_singleton.2 own
    exact List.forall_mem_cons.2 ⟨single, others.conditions single⟩

theorem IsChain.chained (h : IsChain P gs) (chained : ∀ c, P c → c.Chained) :
    ∀ g ∈ gs, g.Chained := by
  cases h with
  | first own others =>
    refine List.forall_mem_cons.2 ⟨chained _ own, others.chained (by simp) ?_ chained⟩
    exact List.forall_mem_singleton.2 own

/-- The text of a guard has no other symbols than those of its tokens. -/
theorem reads_iff_spelling {g : Guard} (chained : g.Chained)
    (formed : ∀ c ∈ g.conditions, ∀ t ∈ c.tokens, t.Formed) (v : Atom → Bool) (b : Bool) :
    g.Reads v b ↔ Symbol.Reads v .disjunction (g.symbols Condition.spelling) b := by
  have text := (chained.spells formed).ofText
  constructor
  · rintro ⟨s, has, reads⟩
    rw [text, Option.some.injEq] at has
    exact has ▸ reads
  · exact fun reads => ⟨_, text, reads⟩

/-- A guard without parentheses outside of quotes is read as what it says. -/
theorem reads_iff {g : Guard} (chained : g.Chained)
    (conditions : ∀ c ∈ g.conditions, Written c ∧ c.Clear) (v : Atom → Bool) (b : Bool) :
    g.Reads v b ↔ b = g.holds v := by
  have formed : ∀ c ∈ g.conditions, ∀ t ∈ c.tokens, t.Formed := fun c hc => (conditions c hc).1.2
  have same : g.symbols Condition.spelling = g.symbols Condition.symbols :=
    symbols_congr fun c hc => Condition.spelling_of_clear (formed c hc) (conditions c hc).2
  rw [reads_iff_spelling chained formed, same]
  exact ⟨fun reads => reads.unique (chained.reads v), fun value => value ▸ chained.reads v⟩

/-- Prior conditions are those of earlier branches, so all of them are clear by the time a later
guard is read. -/
theorem Later.clear (h : Later Written prior gs) (nonempty : prior ≠ [])
    (priors : ∀ c ∈ prior, Written c ∧ c.Clear) (readable : ∀ g ∈ gs, ∃ a, g.Reads v a) :
    ∀ g ∈ gs, ∀ c ∈ g.own, c.Clear := by
  induction h with
  | nil => simp
  | otherwise => simp [own]
  | @elseIf prior c gs written _ ih =>
    rw [List.forall_mem_cons] at readable
    have chained : (Guard.elseIf prior c).Chained :=
      ⟨nonempty, fun d hd => (priors d hd).1.1, written.1⟩
    have formed : ∀ d ∈ prior ++ [c], ∀ t ∈ d.tokens, t.Formed := by
      rw [List.forall_mem_append, List.forall_mem_singleton]
      exact ⟨fun d hd => (priors d hd).1.2, written.2⟩
    obtain ⟨a, reads⟩ := readable.1
    rw [reads_iff_spelling chained formed] at reads
    have clear := clear_of_reads_elseIf chained formed (fun d hd => (priors d hd).2) reads
    refine List.forall_mem_cons.2 ⟨by simpa [own] using clear, ih (by simp) ?_ readable.2⟩
    rw [List.forall_mem_append, List.forall_mem_singleton]
    exact ⟨priors, written, clear⟩

/-- The guards of an if select exactly if no token of its conditions has a parenthesis outside of
its quotes. -/
theorem IsChain.selects_iff (h : IsChain Written gs) (v : Atom → Bool) :
    Selects v gs ↔ ∀ g ∈ gs, ∀ c ∈ g.own, c.Clear := by
  constructor
  · intro selects
    have readable : ∀ g ∈ gs, ∃ a, g.Reads v a := fun g hg =>
      have ⟨a, value⟩ := selects.readable g hg
      ⟨a, (value a).2 rfl⟩
    cases h with
    | @first c gs written others =>
      rw [List.forall_mem_cons] at readable
      obtain ⟨a, reads⟩ := readable.1
      have formed : ∀ d ∈ [c], ∀ t ∈ d.tokens, t.Formed := List.forall_mem_singleton.2 written.2
      rw [reads_iff_spelling (g := Guard.first c) written.1 formed] at reads
      have clear := clear_of_reads_first written.2 reads
      refine List.forall_mem_cons.2 ⟨by simpa [own] using clear, ?_⟩
      exact others.clear (by simp) (List.forall_mem_singleton.2 ⟨written, clear⟩) readable.2
  · intro clear
    have both : IsChain (fun c => Written c ∧ c.Clear) gs := by
      cases h with
      | first written others =>
        rw [List.forall_mem_cons] at clear
        exact .first ⟨written, clear.1 _ rfl⟩ (others.and clear.2)
    exact h.selects fun g hg =>
      reads_iff (h.chained (fun c written => written.1) g hg) (both.conditions g hg) v

end Guard

end QueryTemplate
