import Mathlib
import QueryTemplate.Json.OfCompiled
import QueryTemplate.Proofs.Json.Text

/-!
What a JSON library has to do, and what can be said of objects that are put together with any such
library. For each key there is one entry, with the value that the key was given last, so an object
whose keys are distinct only has its fields put into another order.
-/

namespace QueryTemplate

namespace Json

/-- A map has one entry for each key. An insertion puts the key to its value and leaves the entries
of other keys alone. What is printed for a value is a text of it. -/
structure Library.Lawful (lib : Library) : Prop where
  entries_empty : lib.entries lib.empty = []
  nodup (m : lib.Map) : ((lib.entries m).map Prod.fst).Nodup
  mem_insert (m : lib.Map) (key k : String) (value v : Json) :
    (k, v) ∈ lib.entries (lib.insert m key value) ↔
      (k = key ∧ v = value) ∨ (k ≠ key ∧ (k, v) ∈ lib.entries m)
  pretty (j : Json) : IsText (lib.pretty j) j

/-! ## Entries that are collected -/

namespace Library.Lawful

variable {lib : Library} (lawful : lib.Lawful) {fields : List (String × Json)} {k : String}
  {v : Json}
include lawful

theorem mem_collect_concat (fields : List (String × Json)) (key : String) (value : Json) :
    (k, v) ∈ lib.collect (fields ++ [(key, value)]) ↔
      (k = key ∧ v = value) ∨ (k ≠ key ∧ (k, v) ∈ lib.collect fields) := by
  rw [collect, List.foldl_append, List.foldl_cons, List.foldl_nil, lawful.mem_insert]
  rfl

/-- An entry is the last of the fields with its key. -/
theorem mem_collect_iff :
    (k, v) ∈ lib.collect fields ↔
      ∃ before after, fields = before ++ (k, v) :: after ∧ k ∉ after.map Prod.fst := by
  induction fields using List.reverseRecOn with
  | nil => simp [collect, lawful.entries_empty]
  | append_singleton fields field ih =>
    rw [lawful.mem_collect_concat, ih]
    constructor
    · rintro (⟨rfl, rfl⟩ | ⟨other, before, after, rfl, last⟩)
      · exact ⟨fields, [], rfl, List.not_mem_nil⟩
      · exact ⟨before, after ++ [field], by simp, by simpa using ⟨by simpa using last, other⟩⟩
    · rintro ⟨before, after, split, last⟩
      rcases List.eq_nil_or_concat after with rfl | ⟨after, final, rfl⟩
      · obtain ⟨-, same⟩ := List.append_inj' split rfl
        obtain ⟨rfl, rfl⟩ := Prod.mk.inj (List.cons.inj same).1
        exact .inl ⟨rfl, rfl⟩
      · rw [List.concat_eq_append, ← List.cons_append, ← List.append_assoc] at split
        obtain ⟨rfl, same⟩ := List.append_inj' split rfl
        obtain rfl := (List.cons.inj same).1
        rw [List.concat_eq_append, List.map_append, List.mem_append, not_or] at last
        exact .inr ⟨by simpa using last.2, before, after, rfl, last.1⟩

theorem exists_mem_collect_iff :
    (∃ v, (k, v) ∈ lib.collect fields) ↔ ∃ v, (k, v) ∈ fields := by
  induction fields using List.reverseRecOn with
  | nil => simp [collect, lawful.entries_empty]
  | append_singleton fields field ih =>
    have split : (∃ v, (k, v) ∈ lib.collect (fields ++ [field])) ↔
        k = field.1 ∨ ∃ v, (k, v) ∈ lib.collect fields := by
      simp only [lawful.mem_collect_concat]
      constructor
      · rintro ⟨v, ⟨same, -⟩ | ⟨-, mem⟩⟩
        · exact .inl same
        · exact .inr ⟨v, mem⟩
      · rintro (same | ⟨v, mem⟩)
        · exact ⟨_, .inl ⟨same, rfl⟩⟩
        · by_cases same : k = field.1
          · exact ⟨_, .inl ⟨same, rfl⟩⟩
          · exact ⟨v, .inr ⟨same, mem⟩⟩
    rw [split, ih]
    simp only [List.mem_append, List.mem_singleton, exists_or, Prod.ext_iff]
    simp [or_comm]

theorem mem_keys_collect :
    k ∈ (lib.collect fields).map Prod.fst ↔ k ∈ fields.map Prod.fst := by
  simpa using lawful.exists_mem_collect_iff

theorem nodup_collect (fields : List (String × Json)) :
    ((lib.collect fields).map Prod.fst).Nodup :=
  lawful.nodup _

/-- Fields with keys of their own are only put into another order. -/
theorem perm_collect (distinct : (fields.map Prod.fst).Nodup) :
    fields.Perm (lib.collect fields) := by
  refine (List.perm_ext_iff_of_nodup distinct.of_map (lawful.nodup_collect fields).of_map).2 ?_
  rintro ⟨k, v⟩
  rw [lawful.mem_collect_iff]
  constructor
  · intro mem
    obtain ⟨before, after, rfl⟩ := List.append_of_mem mem
    rw [List.map_append, List.map_cons] at distinct
    exact ⟨before, after, rfl, (List.nodup_cons.1 distinct.of_append_right).1⟩
  · rintro ⟨before, after, rfl, -⟩
    simp

end Library.Lawful

/-! ## Values up to the order of fields -/

mutual

/-- The second value has the fields of the first one in some order, at any depth. -/
def Reordered : Json → Json → Prop
  | .string s, .string t => s = t
  | .array js, .array ks => ReorderedItems js ks
  | .object fs, .object gs => ∃ hs, ReorderedFields fs hs ∧ hs.Perm gs
  | _, _ => False

def ReorderedItems : List Json → List Json → Prop
  | [], [] => True
  | j :: js, k :: ks => Reordered j k ∧ ReorderedItems js ks
  | _, _ => False

def ReorderedFields : List (String × Json) → List (String × Json) → Prop
  | [], [] => True
  | (key, j) :: fs, (key', k) :: gs => key = key' ∧ Reordered j k ∧ ReorderedFields fs gs
  | _, _ => False

end

mutual

/-- No object has two fields with one key. -/
def Keyed : Json → Prop
  | .string _ => True
  | .array items => KeyedItems items
  | .object fields => (fields.map Prod.fst).Nodup ∧ KeyedFields fields

def KeyedItems : List Json → Prop
  | [] => True
  | item :: items => Keyed item ∧ KeyedItems items

def KeyedFields : List (String × Json) → Prop
  | [] => True
  | (_, value) :: fields => Keyed value ∧ KeyedFields fields

end

namespace Library

theorem fieldsOf_eq (lib : Library) (fields : List (String × Json)) :
    lib.fieldsOf fields = fields.map fun field => (field.1, lib.valueOf field.2) := by
  induction fields with
  | nil => rfl
  | cons field fields ih => rw [fieldsOf, ih, List.map_cons]

variable {lib : Library}

mutual

/-- A value that is put together in maps is itself, up to the order of fields. -/
theorem Lawful.reordered_valueOf (lawful : lib.Lawful) {j : Json} (keyed : j.Keyed) :
    j.Reordered (lib.valueOf j) := by
  match j with
  | .string _ => rfl
  | .array items => exact lawful.reordered_valuesOf keyed
  | .object fields =>
    refine ⟨lib.fieldsOf fields, lawful.reordered_fieldsOf keyed.2, lawful.perm_collect ?_⟩
    rw [fieldsOf_eq, List.map_map]
    exact keyed.1

theorem Lawful.reordered_valuesOf (lawful : lib.Lawful) {items : List Json}
    (keyed : KeyedItems items) : ReorderedItems items (lib.valuesOf items) := by
  match items with
  | [] => trivial
  | item :: items => exact ⟨lawful.reordered_valueOf keyed.1, lawful.reordered_valuesOf keyed.2⟩

theorem Lawful.reordered_fieldsOf (lawful : lib.Lawful) {fields : List (String × Json)}
    (keyed : KeyedFields fields) : ReorderedFields fields (lib.fieldsOf fields) := by
  match fields with
  | [] => trivial
  | (key, value) :: fields =>
    exact ⟨rfl, lawful.reordered_valueOf keyed.1, lawful.reordered_fieldsOf keyed.2⟩

end

end Library

theorem keyedItems_map_string (texts : List String) : KeyedItems (texts.map .string) := by
  induction texts with
  | nil => trivial
  | cons _ _ ih => exact ⟨trivial, ih⟩

end Json

/-! ## Templates as values -/

namespace Clause

open Json

mutual

theorem keyed_toJson (c : Clause) : c.toJson.Keyed := by
  match c with
  | .sql pieces => exact ⟨by simp, trivial, keyedItems_map_string pieces, trivial⟩
  | .choice _ _ body branches =>
    exact ⟨by simp, trivial, trivial, trivial, keyed_listToJson body,
      keyed_branchesToJson branches, trivial⟩
  | .collection _ _ body =>
    exact ⟨by simp, trivial, trivial, keyed_listToJson body, trivial⟩

theorem keyed_listToJson (cs : List Clause) : KeyedItems (listToJson cs) := by
  match cs with
  | [] => trivial
  | c :: cs => exact ⟨keyed_toJson c, keyed_listToJson cs⟩

theorem keyed_branchesToJson (branches : List Branch) : KeyedItems (branchesToJson branches) := by
  match branches with
  | [] => trivial
  | ⟨_, body⟩ :: branches =>
    exact ⟨⟨by simp, trivial, keyed_listToJson body, trivial⟩, keyed_branchesToJson branches⟩

end

end Clause

theorem Compiled.keyed_toJson (target : Target) (c : Compiled) : (c.toJson target).Keyed :=
  ⟨by simp, Clause.keyed_listToJson c.clauses, Json.keyedItems_map_string _, trivial⟩

end QueryTemplate
