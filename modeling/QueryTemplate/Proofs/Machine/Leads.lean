import Mathlib.Data.List.Forall2
import QueryTemplate.Proofs.Machine
import QueryTemplate.Proofs.Slots

/-!
What steps leave as it was. The name of a variable determines the block and the number of its list,
so a list that is declared under a number that is not in use yet is a new one, and a step changes
one list only.
-/

namespace QueryTemplate

namespace Machine

variable {rt : Runtime} {m m' m'' : Machine} {next mid next' : Numbers} {own : Option Slot}
  {o : Operand Nat} {text : String}

def held (m : Machine) (s : Slot) : Option Collected :=
  m.lists s.name

theorem at_put (m : Machine) (s t : Slot) (list : Collected) :
    (m.put s.name list).held t = if t = s then some list else m.held t := by
  unfold held put
  split
  · next same =>
    subst same
    exact Function.update_self ..
  · next other => exact Function.update_of_ne (fun name => other (Slot.name_injective name)) _ _

/-- No list is declared under a number that is not in use yet. -/
def Fresh (m : Machine) (next : Numbers) : Prop :=
  ∀ s : Slot, next s.block ≤ s.index → m.held s = none

/-- Steps that take up the numbers from the first ones to the second ones leave the query as it is,
and so they do every list that was declared before, but for one. -/
structure Leads (own : Option Slot) (next next' : Numbers) (m m' : Machine) : Prop where
  query : m'.query = m.query
  kept : ∀ s : Slot, s.index < next s.block → some s ≠ own → m'.held s = m.held s
  fresh : m'.Fresh next'
  le : ∀ b, next b ≤ next' b

theorem Leads.refl (own : Option Slot) (fresh : m.Fresh next) : Leads own next next m m :=
  ⟨rfl, fun _ _ _ => rfl, fresh, fun _ => Nat.le_refl _⟩

theorem Leads.trans (first : Leads own next mid m m') (second : Leads own mid next' m' m'') :
    Leads own next next' m m'' where
  query := second.query.trans first.query
  kept s inUse other :=
    (second.kept s (Nat.lt_of_lt_of_le inUse (first.le _)) other).trans (first.kept s inUse other)
  fresh := second.fresh
  le b := Nat.le_trans (first.le b) (second.le b)

theorem Leads.weaken (h : Leads none next next' m m') (own : Option Slot) :
    Leads own next next' m m' where
  query := h.query
  kept s inUse _ := h.kept s inUse nofun
  fresh := h.fresh
  le := h.le

/-- A list in use is the only one that changes when a part is appended to it. -/
theorem Leads.put {s : Slot} (fresh : m.Fresh next) (inUse : s.index < next s.block)
    (list : Collected) : Leads (some s) next next m (m.put s.name list) where
  query := rfl
  kept t _ other := by rw [at_put, if_neg fun same => other (congrArg some same)]
  fresh t unused := by
    rw [at_put, if_neg ?_, fresh t unused]
    rintro rfl
    omega
  le _ := Nat.le_refl _

/-- Steps that start with the declaration of a list change no other list in use. -/
theorem Leads.of_declare {block : BlockKind} {list : Collected}
    (h : Leads (some ⟨block, next block⟩) (next.bump block) next'
      (m.put (Slot.name ⟨block, next block⟩) list) m') : Leads none next next' m m' where
  query := h.query
  kept s inUse _ := by
    have other : s ≠ ⟨block, next block⟩ := by
      rintro rfl
      exact Nat.lt_irrefl _ inUse
    rw [h.kept s (Nat.lt_of_lt_of_le inUse (next.le_bump block _)) (by simpa using other), at_put,
      if_neg other]
  fresh := h.fresh
  le b := Nat.le_trans (next.le_bump block b) (h.le b)

theorem Fresh.declare (fresh : m.Fresh next) (block : BlockKind) (list : Collected) :
    (m.put (Slot.name ⟨block, next block⟩) list).Fresh (next.bump block) := by
  intro s unused
  rw [at_put, if_neg ?_]
  · exact fresh s (Nat.le_trans (next.le_bump block _) unused)
  · rintro rfl
    rw [Numbers.bump_self] at unused
    exact Nat.not_succ_le_self _ unused

/-- The operand has a text, and it refers to no list that is not in use. -/
structure Shows (rt : Runtime) (m : Machine) (next : Numbers) (o : Operand Nat) (text : String) :
    Prop where
  inUse : ∀ block index, o = .read block index → index < next block
  shows : m.operand rt (o.map BlockKind.listName) = some text

theorem Shows.leads (h : Shows rt m next o text) (leads : Leads none next next' m m') :
    Shows rt m' next' o text where
  inUse block index is := Nat.lt_of_lt_of_le (h.inUse block index is) (leads.le block)
  shows := by
    cases o with
    | pieces texts => exact h.shows
    | read block index =>
      have kept := leads.kept ⟨block, index⟩ (h.inUse block index rfl) nofun
      have shows := h.shows
      simp only [held, Slot.name] at kept
      simp only [Operand.map, operand] at shows ⊢
      rwa [kept]

theorem payload_one (shows : Shows rt m next o text) :
    m.payload rt ((Payload.one o).map BlockKind.listName) = some text :=
  shows.shows

theorem payload_all {os : List (Operand Nat)} {texts : List String}
    (shows : List.Forall₂ (Shows rt m next) os texts) :
    m.payload rt ((Payload.all os).map BlockKind.listName) = some (String.join texts) := by
  show m.operands rt (os.map (·.map BlockKind.listName)) = some (String.join texts)
  induction shows with
  | nil => rfl
  | cons first _ ih =>
    rw [List.map_cons, operands, first.shows, ih, String.join_cons]
    rfl

theorem step_declare (fresh : m.Fresh next) (block : BlockKind) :
    m.step rt (.declare ⟨block, next block⟩) =
      some (m.put (Slot.name ⟨block, next block⟩) (.empty block)) := by
  have unused := fresh ⟨block, next block⟩ (Nat.le_refl _)
  rw [held] at unused
  rw [step, if_pos unused]

theorem step_appendGuarded {index : Nat} {guard : Guard} {payload : Payload Nat} {b : Bool}
    {parts : List (Bool × String)} (value : guard.value? rt.atom = some b)
    (shows : m.payload rt (payload.map BlockKind.listName) = some text)
    (list : m.held ⟨.choice, index⟩ = some (.guarded parts)) :
    m.step rt (.appendGuarded index guard payload) =
      some (m.put (Slot.name ⟨.choice, index⟩) (.guarded (parts ++ [(b, text)]))) := by
  rw [held, Slot.name] at list
  simp only [step, value, shows, Option.bind_eq_bind, Option.bind_some, Machine.appendGuarded, list]
  rfl

theorem step_append {kind : ListKind} {index : Nat} {payload : Payload Nat} {parts : List String}
    (shows : m.payload rt (payload.map BlockKind.listName) = some text)
    (list : m.held ⟨kind.block, index⟩ = some (.plain parts)) :
    m.step rt (.append kind index payload) =
      some (m.put (Slot.name ⟨kind.block, index⟩) (.plain (parts ++ [text]))) := by
  rw [held, Slot.name] at list
  simp only [step, shows, Option.bind_eq_bind, Option.bind_some, Machine.append, list]
  rfl

theorem step_accumulate {payload : Payload Nat}
    (shows : m.payload rt (payload.map BlockKind.listName) = some text) :
    m.step rt (.accumulate payload) = some { m with query := m.query ++ text } := by
  simp only [step, shows, Option.bind_eq_bind, Option.bind_some]
  rfl

theorem shows_choice {index : Nat} {parts : List (Bool × String)} (inUse : index < next .choice)
    (list : m.held ⟨.choice, index⟩ = some (.guarded parts)) :
    Shows rt m next (.read .choice index) (rt.choose parts) where
  inUse := by
    rintro _ _ ⟨⟩
    exact inUse
  shows := by
    rw [held, Slot.name] at list
    simp only [Operand.map, operand, list]

theorem shows_collection {kind : ListKind} {index : Nat} {parts : List String}
    (inUse : index < next kind.block) (list : m.held ⟨kind.block, index⟩ = some (.plain parts)) :
    Shows rt m next (.read kind.block index) (rt.collect kind parts) where
  inUse := by
    rintro _ _ ⟨⟩
    exact inUse
  shows := by
    rw [held, Slot.name] at list
    cases kind <;> simp only [ListKind.block] at list <;>
      simp only [Operand.map, operand, ListKind.block, list]

theorem held_put_self (m : Machine) (s : Slot) (list : Collected) :
    (m.put s.name list).held s = some list := by
  rw [at_put, if_pos rfl]

end Machine

end QueryTemplate
