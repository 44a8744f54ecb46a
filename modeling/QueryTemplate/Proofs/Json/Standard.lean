import QueryTemplate.Json.Standard
import QueryTemplate.Proofs.Json.Library

/-!
The library that the program is run with does what a library has to. A field that is inserted takes
its place among the fields and drives out the one that has its key, and what is written for a value
is read as that value: whatever stands behind it, the text of a part is a text of the part.
-/

namespace QueryTemplate.Json

/-! ## Maps -/

section Maps

variable {key k : String} {value v : Json} {fields : List (String × Json)}

theorem mem_insertField_iff (ascends : Ascends fields) :
    (k, v) ∈ insertField key value fields ↔
      (k = key ∧ v = value) ∨ (k ≠ key ∧ (k, v) ∈ fields) := by
  induction fields with
  | nil => simp [insertField]
  | cons field fields ih =>
    obtain ⟨k', v'⟩ := field
    obtain ⟨least, others⟩ := List.pairwise_cons.1 ascends
    have behind (further : (k, v) ∈ fields) : k' < k := least k (List.mem_map_of_mem further)
    rw [insertField]
    split
    · next before =>
      rw [List.mem_cons, Prod.mk.injEq]
      refine or_congr_right (iff_and_self.2 ?_)
      rintro mem rfl
      rcases List.mem_cons.1 mem with first | further
      · obtain ⟨rfl, -⟩ := Prod.mk.inj first
        exact String.lt_irrefl _ before
      · exact String.lt_irrefl _ (String.lt_trans before (behind further))
    split
    · next same =>
      subst same
      rw [List.mem_cons, Prod.mk.injEq, List.mem_cons, Prod.mk.injEq]
      refine or_congr_right ⟨fun further => ⟨?_, .inr further⟩, ?_⟩
      · rintro rfl
        exact String.lt_irrefl _ (behind further)
      · rintro ⟨other, ⟨same, -⟩ | further⟩
        · exact absurd same other
        · exact further
    · next other =>
      rw [List.mem_cons, ih others, List.mem_cons, Prod.mk.injEq]
      constructor
      · rintro (⟨rfl, rfl⟩ | inserted | ⟨different, further⟩)
        · exact .inr ⟨Ne.symm other, .inl ⟨rfl, rfl⟩⟩
        · exact .inl inserted
        · exact .inr ⟨different, .inr further⟩
      · rintro (inserted | ⟨different, first | further⟩)
        · exact .inr (.inl inserted)
        · exact .inl first
        · exact .inr (.inr ⟨different, further⟩)

theorem SortedFields.nodup (m : SortedFields) : (m.fields.map Prod.fst).Nodup :=
  m.ascends.imp fun before => ne_of_lt before

end Maps

/-! ## Quoted texts -/

theorem unit?_hexDigits : ∀ n < 0x20,
    unit? '0' '0' (hexDigit (n / 16)) (hexDigit (n % 16)) = some n := by
  decide

theorem letter_escape (c : Char) (rest : List Char) : Letter c (escape c ++ rest) rest := by
  unfold escape
  iterate 7
    split
    · next is =>
      subst is
      exact .mark (by simp [marks])
  split
  · next control =>
    have digits := unit?_hexDigits c.toNat control
    have unit : Letter (Char.ofNat c.toNat) _ rest :=
      .unit digits (fun high => by have := high.1; omega) (fun low => by have := low.1; omega)
    rwa [Char.ofNat_toNat] at unit
  · next quote backslash _ _ _ _ _ visible =>
    exact .plain (Nat.le_of_not_lt visible) quote backslash

theorem quoted_escape (content rest : List Char) :
    Quoted content (content.flatMap escape ++ '"' :: rest) rest := by
  induction content with
  | nil => exact .close
  | cons c content ih =>
    rw [List.flatMap_cons, List.append_assoc]
    exact .cons (letter_escape c _) ih

/-! ## What is written -/

variable {cs rest : List Char}

theorem skip_newLine (depth : Nat) (cs : List Char) :
    skip ((newLine depth).toList ++ cs) = skip cs := by
  have blank : ∀ c ∈ (newLine depth).toList, isBlank c = true := by
    simp [newLine, isBlank]
  exact List.dropWhile_append_of_pos blank

theorem Spells.skip {j : Json} (h : Spells j cs rest) : Json.skip cs = cs := by
  cases h <;> rfl

theorem SpellsField.skip {key : String} {j : Json} (h : SpellsField key j cs rest) :
    Json.skip cs = cs := by
  cases h
  rfl

theorem spells_quote (value : String) (rest : List Char) :
    Spells (.string value) ((quote value).toList ++ rest) rest := by
  have spells := Spells.string (quoted_escape value.toList rest)
  rw [String.ofList_toList] at spells
  simpa [quote] using spells

/-- A key and a value with a colon and a blank between them are a field. -/
theorem spellsField_quote (key : String) {j : Json} {text : List Char}
    (h : Spells j (text ++ rest) rest) :
    SpellsField key j ((quote key ++ ": ").toList ++ (text ++ rest)) rest := by
  have skipped : skip (' ' :: (text ++ rest)) = text ++ rest := h.skip
  have spells := SpellsField.mk (quoted_escape key.toList (':' :: ' ' :: (text ++ rest))) rfl
    (skipped ▸ h)
  rw [String.ofList_toList] at spells
  simpa [quote] using spells

mutual

/-- What is written for a value is a text of it, whatever stands behind. -/
theorem exists_write (j : Json) (depth : Nat) (out : String) :
    ∃ text, (write depth out j).toList = out.toList ++ text ∧
      ∀ rest, Spells j (text ++ rest) rest := by
  match j with
  | .string value =>
    exact ⟨(quote value).toList, by rw [write, String.toList_append], spells_quote value⟩
  | .array [] =>
    exact ⟨['[', ']'], by rw [write, String.toList_append]; rfl, fun rest => .emptyArray rfl⟩
  | .object [] =>
    refine ⟨['\x7b', '\x7d'], ?_, fun rest => .emptyObject rfl⟩
    rw [write, String.toList_append]
    rfl
  | .array (item :: items) =>
    obtain ⟨first, written, spells⟩ :=
      exists_write item (depth + 1) (out ++ "[" ++ newLine (depth + 1))
    obtain ⟨others, more, further⟩ := exists_writeItems items (depth + 1)
      (write (depth + 1) (out ++ "[" ++ newLine (depth + 1)) item)
    let closing := (newLine depth).toList ++ [']']
    refine ⟨'[' :: ((newLine (depth + 1)).toList ++ (first ++ (others ++ closing))), ?_, ?_⟩
    · simp [write, more, written, closing]
    · intro rest
      have head := spells (others ++ (closing ++ rest))
      have ends : skip (closing ++ rest) = ']' :: rest := by
        rw [List.append_assoc, skip_newLine]
        rfl
      have tail := further (closing ++ rest) rest ends
      simp only [List.cons_append, List.append_assoc]
      refine .array ?_ tail
      rw [skip_newLine, head.skip]
      exact head
  | .object ((key, value) :: fields) =>
    let start := out ++ "\x7b" ++ newLine (depth + 1) ++ quote key ++ ": "
    obtain ⟨first, written, spells⟩ := exists_write value (depth + 1) start
    obtain ⟨others, more, further⟩ :=
      exists_writeFields fields (depth + 1) (write (depth + 1) start value)
    let closing := (newLine depth).toList ++ ['\x7d']
    refine ⟨'\x7b' :: ((newLine (depth + 1)).toList ++
      ((quote key ++ ": ").toList ++ (first ++ (others ++ closing)))), ?_, ?_⟩
    · simp [write, more, written, closing, start]
    · intro rest
      have head := spellsField_quote key (spells (others ++ (closing ++ rest)))
      have ends : skip (closing ++ rest) = '\x7d' :: rest := by
        rw [List.append_assoc, skip_newLine]
        rfl
      have tail := further (closing ++ rest) rest ends
      simp only [List.cons_append, List.append_assoc]
      refine .object ?_ tail
      rw [skip_newLine, head.skip]
      exact head

theorem exists_writeItems (items : List Json) (depth : Nat) (out : String) :
    ∃ text, (writeItems depth out items).toList = out.toList ++ text ∧
      ∀ tail rest, skip tail = ']' :: rest → SpellsItems items (skip (text ++ tail)) rest := by
  match items with
  | [] => exact ⟨[], by rw [writeItems, List.append_nil], fun tail rest ends => ends ▸ .close⟩
  | item :: items =>
    obtain ⟨first, written, spells⟩ := exists_write item depth (out ++ "," ++ newLine depth)
    obtain ⟨others, more, further⟩ :=
      exists_writeItems items depth (write depth (out ++ "," ++ newLine depth) item)
    refine ⟨',' :: ((newLine depth).toList ++ (first ++ others)), ?_, ?_⟩
    · simp [writeItems, more, written]
    · intro tail rest ends
      have head := spells (others ++ tail)
      simp only [List.cons_append, List.append_assoc]
      refine .cons ?_ (further tail rest ends)
      rw [skip_newLine, head.skip]
      exact head

theorem exists_writeFields (fields : List (String × Json)) (depth : Nat) (out : String) :
    ∃ text, (writeFields depth out fields).toList = out.toList ++ text ∧
      ∀ tail rest, skip tail = '\x7d' :: rest → SpellsFields fields (skip (text ++ tail)) rest := by
  match fields with
  | [] => exact ⟨[], by rw [writeFields, List.append_nil], fun tail rest ends => ends ▸ .close⟩
  | (key, value) :: fields =>
    let start := out ++ "," ++ newLine depth ++ quote key ++ ": "
    obtain ⟨first, written, spells⟩ := exists_write value depth start
    obtain ⟨others, more, further⟩ := exists_writeFields fields depth (write depth start value)
    refine ⟨',' :: ((newLine depth).toList ++
      ((quote key ++ ": ").toList ++ (first ++ others))), ?_, ?_⟩
    · simp [writeFields, more, written, start]
    · intro tail rest ends
      have head := spellsField_quote key (spells (others ++ tail))
      simp only [List.cons_append, List.append_assoc]
      refine .cons ?_ (further tail rest ends)
      rw [skip_newLine, head.skip]
      exact head

end

theorem isText_pretty (j : Json) : IsText j.pretty j := by
  obtain ⟨text, written, spells⟩ := exists_write j 0 ""
  have whole := spells []
  rw [List.append_nil] at whole
  have same : j.pretty.toList = text := written
  exact ⟨[], same ▸ whole.skip.symm ▸ whole, rfl⟩

theorem Library.lawful_standard : Library.standard.Lawful where
  entries_empty := rfl
  nodup := SortedFields.nodup
  mem_insert m _ _ _ _ := mem_insertField_iff m.ascends
  pretty := isText_pretty

end QueryTemplate.Json
