import Mathlib.Data.List.Nodup
import Mathlib.Data.List.Pairwise
import QueryTemplate.Proofs.Slots

/-!
Clauses at any depth. A clause is listed before the clauses of its body, and these before the
clauses of its later branches. What is collected from clauses in that order comes from the members
of this list, one after the other.
-/

namespace QueryTemplate

namespace Clause

mutual

def parts : Clause → List Clause
  | .sql pieces => [.sql pieces]
  | .choice index condition body branches =>
    .choice index condition body branches :: (partsList body ++ partsBranches branches)
  | .collection kind index body => .collection kind index body :: partsList body

def partsList : List Clause → List Clause
  | [] => []
  | c :: cs => c.parts ++ partsList cs

def partsBranches : List Branch → List Clause
  | [] => []
  | ⟨_, body⟩ :: branches => partsList body ++ partsBranches branches

end

theorem self_mem_parts (c : Clause) : c ∈ c.parts := by
  cases c <;> simp [parts]

theorem mem_partsList {d : Clause} {cs : List Clause} :
    d ∈ partsList cs ↔ ∃ c ∈ cs, d ∈ c.parts := by
  induction cs with
  | nil => simp [partsList]
  | cons c cs ih => simp [partsList, ih]

theorem mem_partsBranches {d : Clause} {branches : List Branch} :
    d ∈ partsBranches branches ↔ ∃ b ∈ branches, d ∈ partsList b.body := by
  induction branches with
  | nil => simp [partsBranches]
  | cons b branches ih =>
    obtain ⟨guard, body⟩ := b
    simp [partsBranches, ih]

mutual

theorem mem_parts_trans {c d e : Clause} (hd : d ∈ c.parts) (he : e ∈ d.parts) :
    e ∈ c.parts := by
  match c with
  | .sql pieces =>
    rw [parts, List.mem_singleton] at hd
    exact hd ▸ he
  | .choice index condition body branches =>
    rw [parts, List.mem_cons, List.mem_append] at hd
    rcases hd with rfl | inBody | inBranches
    · exact he
    · exact .tail _ (List.mem_append_left _ (mem_partsList_trans inBody he))
    · exact .tail _ (List.mem_append_right _ (mem_partsBranches_trans inBranches he))
  | .collection kind index body =>
    rw [parts, List.mem_cons] at hd
    rcases hd with rfl | inBody
    · exact he
    · exact .tail _ (mem_partsList_trans inBody he)

theorem mem_partsList_trans {cs : List Clause} {d e : Clause} (hd : d ∈ partsList cs)
    (he : e ∈ d.parts) : e ∈ partsList cs := by
  match cs with
  | [] => cases hd
  | c :: cs =>
    rw [partsList, List.mem_append] at hd ⊢
    exact hd.imp (mem_parts_trans · he) (mem_partsList_trans · he)

theorem mem_partsBranches_trans {branches : List Branch} {d e : Clause}
    (hd : d ∈ partsBranches branches) (he : e ∈ d.parts) : e ∈ partsBranches branches := by
  match branches with
  | [] => cases hd
  | ⟨_, body⟩ :: branches =>
    rw [partsBranches, List.mem_append] at hd ⊢
    exact hd.imp (mem_partsList_trans · he) (mem_partsBranches_trans · he)

end

/-- The functions collect what each clause has of its own, from the clause to the clauses inside. -/
structure Collects {α : Type} (own : Clause → List α) (inClause : Clause → List α)
    (inList : List Clause → List α) (inBranches : List Branch → List α) : Prop where
  sql : ∀ pieces, inClause (.sql pieces) = own (.sql pieces)
  choice : ∀ index condition body branches, inClause (.choice index condition body branches) =
    own (.choice index condition body branches) ++ (inList body ++ inBranches branches)
  collection : ∀ kind index body,
    inClause (.collection kind index body) = own (.collection kind index body) ++ inList body
  nil : inList [] = []
  cons : ∀ c cs, inList (c :: cs) = inClause c ++ inList cs
  close : inBranches [] = []
  branch : ∀ guard body branches,
    inBranches (⟨guard, body⟩ :: branches) = inList body ++ inBranches branches

namespace Collects

variable {α : Type} {own inClause : Clause → List α} {inList : List Clause → List α}
  {inBranches : List Branch → List α}

mutual

theorem flatMap_parts (h : Collects own inClause inList inBranches) (c : Clause) :
    c.parts.flatMap own = inClause c := by
  match c with
  | .sql pieces => rw [parts, List.flatMap_singleton, h.sql]
  | .choice index condition body branches =>
    rw [parts, List.flatMap_cons, List.flatMap_append, flatMap_partsList h,
      flatMap_partsBranches h, h.choice]
  | .collection kind index body =>
    rw [parts, List.flatMap_cons, flatMap_partsList h, h.collection]

theorem flatMap_partsList (h : Collects own inClause inList inBranches) (cs : List Clause) :
    (partsList cs).flatMap own = inList cs := by
  match cs with
  | [] => rw [partsList, List.flatMap_nil, h.nil]
  | c :: cs =>
    rw [partsList, List.flatMap_append, flatMap_parts h c, flatMap_partsList h cs, h.cons]

theorem flatMap_partsBranches (h : Collects own inClause inList inBranches)
    (branches : List Branch) : (partsBranches branches).flatMap own = inBranches branches := by
  match branches with
  | [] => rw [partsBranches, List.flatMap_nil, h.close]
  | ⟨guard, body⟩ :: branches =>
    rw [partsBranches, List.flatMap_append, flatMap_partsList h body,
      flatMap_partsBranches h branches, h.branch]

end

theorem mem_of_mem_parts (h : Collects own inClause inList inBranches) {cs : List Clause}
    {d : Clause} (hd : d ∈ partsList cs) {a : α} (ha : a ∈ own d) : a ∈ inList cs := by
  rw [← h.flatMap_partsList]
  exact List.mem_flatMap.2 ⟨d, hd, ha⟩

end Collects

def ownSlots : Clause → List Slot
  | .sql _ => []
  | .choice index _ _ _ => [⟨.choice, index⟩]
  | .collection kind index _ => [⟨kind.block, index⟩]

theorem collects_slots : Collects ownSlots slots slotsList slotsBranches where
  sql _ := rfl
  choice _ _ _ _ := rfl
  collection _ _ _ := rfl
  nil := rfl
  cons _ _ := rfl
  close := rfl
  branch _ _ _ := rfl

/-- Where lists are distinct, a list belongs to one clause. -/
theorem eq_of_mem_ownSlots {cs : List Clause} (distinct : (slotsList cs).Nodup) {c d : Clause}
    (hc : c ∈ partsList cs) (hd : d ∈ partsList cs) {s : Slot} (ofC : s ∈ c.ownSlots)
    (ofD : s ∈ d.ownSlots) : c = d := by
  rw [← collects_slots.flatMap_partsList, List.nodup_flatMap] at distinct
  have symmetric : Std.Symm (Function.onFun List.Disjoint ownSlots) :=
    ⟨fun _ _ h _ hd hc => h hc hd⟩
  by_contra other
  exact distinct.2.forall hc hd other ofC ofD

end Clause

end QueryTemplate
