import QueryTemplate.Json

/-!
The texts of a JSON value. Every part of the grammar relates a value to what is read and to what is
left behind it; a number, a truth value or null is the text of no value here. Blanks may stand
around brackets, braces, colons and commas, and a character of a quoted text may be escaped by a
mark or by the numbers of its code units, so a value has many texts. A text, though, is that of one
value only.
-/

namespace QueryTemplate.Json

/-! ## Quoted texts -/

def marks : List (Char × Char) :=
  [('"', '"'), ('\\', '\\'), ('/', '/'), ('b', '\x08'), ('f', '\x0C'), ('n', '\n'), ('r', '\r'),
    ('t', '\t')]

def digitValue? (c : Char) : Option Nat :=
  if '0' ≤ c ∧ c ≤ '9' then some (c.toNat - '0'.toNat)
  else if 'a' ≤ c ∧ c ≤ 'f' then some (c.toNat - 'a'.toNat + 10)
  else if 'A' ≤ c ∧ c ≤ 'F' then some (c.toNat - 'A'.toNat + 10)
  else none

def unit? (a b c d : Char) : Option Nat := do
  return ((← digitValue? a) * 16 + (← digitValue? b)) * 256 +
    ((← digitValue? c) * 16 + (← digitValue? d))

def IsHigh (n : Nat) : Prop :=
  0xD800 ≤ n ∧ n < 0xDC00

def IsLow (n : Nat) : Prop :=
  0xDC00 ≤ n ∧ n < 0xE000

inductive Letter : Char → List Char → List Char → Prop
  | plain {c : Char} {rest : List Char} (visible : 0x20 ≤ c.toNat) (quote : c ≠ '"')
      (backslash : c ≠ '\\') : Letter c (c :: rest) rest
  | mark {m c : Char} {rest : List Char} (listed : (m, c) ∈ marks) :
      Letter c ('\\' :: m :: rest) rest
  | unit {a b c d : Char} {n : Nat} {rest : List Char} (digits : unit? a b c d = some n)
      (high : ¬ IsHigh n) (low : ¬ IsLow n) :
      Letter (Char.ofNat n) ('\\' :: 'u' :: a :: b :: c :: d :: rest) rest
  /-- A character that takes two code units. -/
  | pair {a b c d e f g h : Char} {m n : Nat} {rest : List Char}
      (first : unit? a b c d = some m) (high : IsHigh m) (second : unit? e f g h = some n)
      (low : IsLow n) :
      Letter (Char.ofNat (0x10000 + (m - 0xD800) * 0x400 + (n - 0xDC00)))
        ('\\' :: 'u' :: a :: b :: c :: d :: '\\' :: 'u' :: e :: f :: g :: h :: rest) rest

/-- The characters of a quoted text, behind its first quote. -/
inductive Quoted : List Char → List Char → List Char → Prop
  | close {rest : List Char} : Quoted [] ('"' :: rest) rest
  | cons {c : Char} {content cs after rest : List Char} (first : Letter c cs after)
      (others : Quoted content after rest) : Quoted (c :: content) cs rest

/-! ## Values -/

def isBlank (c : Char) : Bool :=
  c = ' ' || c = '\t' || c = '\n' || c = '\r'

def skip (cs : List Char) : List Char :=
  cs.dropWhile isBlank

mutual

inductive Spells : Json → List Char → List Char → Prop
  | string {content cs rest : List Char} (h : Quoted content cs rest) :
      Spells (.string (String.ofList content)) ('"' :: cs) rest
  | emptyArray {cs rest : List Char} (closing : skip cs = ']' :: rest) :
      Spells (.array []) ('[' :: cs) rest
  | array {j : Json} {items : List Json} {cs after rest : List Char}
      (first : Spells j (skip cs) after) (others : SpellsItems items (skip after) rest) :
      Spells (.array (j :: items)) ('[' :: cs) rest
  | emptyObject {cs rest : List Char} (closing : skip cs = '\x7d' :: rest) :
      Spells (.object []) ('\x7b' :: cs) rest
  | object {key : String} {j : Json} {fields : List (String × Json)} {cs after rest : List Char}
      (first : SpellsField key j (skip cs) after) (others : SpellsFields fields (skip after) rest) :
      Spells (.object ((key, j) :: fields)) ('\x7b' :: cs) rest

/-- The items of an array behind the first one. -/
inductive SpellsItems : List Json → List Char → List Char → Prop
  | close {rest : List Char} : SpellsItems [] (']' :: rest) rest
  | cons {j : Json} {items : List Json} {cs after rest : List Char}
      (first : Spells j (skip cs) after) (others : SpellsItems items (skip after) rest) :
      SpellsItems (j :: items) (',' :: cs) rest

inductive SpellsField : String → Json → List Char → List Char → Prop
  | mk {content cs after value rest : List Char} {j : Json} (key : Quoted content cs after)
      (colon : skip after = ':' :: value) (h : Spells j (skip value) rest) :
      SpellsField (String.ofList content) j ('"' :: cs) rest

/-- The fields of an object behind the first one. -/
inductive SpellsFields : List (String × Json) → List Char → List Char → Prop
  | close {rest : List Char} : SpellsFields [] ('\x7d' :: rest) rest
  | cons {key : String} {j : Json} {fields : List (String × Json)} {cs after rest : List Char}
      (first : SpellsField key j (skip cs) after) (others : SpellsFields fields (skip after) rest) :
      SpellsFields ((key, j) :: fields) (',' :: cs) rest

end

/-- The text is one of the value, with nothing but blanks around it. -/
def IsText (text : String) (j : Json) : Prop :=
  ∃ rest, Spells j (skip text.toList) rest ∧ skip rest = []

/-! ## A text has one value -/

theorem marks_unique {m c c' : Char} (h : (m, c) ∈ marks) (h' : (m, c') ∈ marks) : c = c' := by
  simp only [marks, List.mem_cons, Prod.mk.injEq, List.not_mem_nil, or_false] at h h'
  rcases h with ⟨rfl, rfl⟩ | ⟨rfl, rfl⟩ | ⟨rfl, rfl⟩ | ⟨rfl, rfl⟩ | ⟨rfl, rfl⟩ | ⟨rfl, rfl⟩ |
    ⟨rfl, rfl⟩ | ⟨rfl, rfl⟩
  all_goals simpa [eq_comm] using h'

/-- A mark is not the one of a code unit. -/
theorem not_mem_marks_unit (c : Char) : ('u', c) ∉ marks := by
  simp [marks]

variable {cs rest rest' : List Char}

theorem Letter.unique {c c' : Char} (h : Letter c cs rest) (h' : Letter c' cs rest') :
    c = c' ∧ rest = rest' := by
  cases h with
  | plain _ _ backslash =>
    cases h' with
    | plain => exact ⟨rfl, rfl⟩
    | mark | unit | pair => exact absurd rfl backslash
  | mark listed =>
    cases h' with
    | plain _ _ backslash => exact absurd rfl backslash
    | mark listed' => exact ⟨marks_unique listed listed', rfl⟩
    | unit | pair => exact absurd listed (not_mem_marks_unit _)
  | unit digits high =>
    cases h' with
    | plain _ _ backslash => exact absurd rfl backslash
    | mark listed => exact absurd listed (not_mem_marks_unit _)
    | unit digits' =>
      obtain rfl := Option.some.inj (digits.symm.trans digits')
      exact ⟨rfl, rfl⟩
    | pair first high' =>
      obtain rfl := Option.some.inj (digits.symm.trans first)
      exact absurd high' high
  | pair first high second =>
    cases h' with
    | plain _ _ backslash => exact absurd rfl backslash
    | mark listed => exact absurd listed (not_mem_marks_unit _)
    | unit digits other =>
      obtain rfl := Option.some.inj (digits.symm.trans first)
      exact absurd high other
    | pair first' _ second' =>
      obtain rfl := Option.some.inj (first.symm.trans first')
      obtain rfl := Option.some.inj (second.symm.trans second')
      exact ⟨rfl, rfl⟩

theorem not_letter_quote {c : Char} : ¬ Letter c ('"' :: cs) rest := by
  intro h
  cases h with
  | plain _ quote => exact quote rfl

theorem Quoted.unique {content content' : List Char} (h : Quoted content cs rest)
    (h' : Quoted content' cs rest') : content = content' ∧ rest = rest' := by
  induction h generalizing content' with
  | close =>
    cases h' with
    | close => exact ⟨rfl, rfl⟩
    | cons first => exact absurd first not_letter_quote
  | cons first _ ih =>
    cases h' with
    | close => exact absurd first not_letter_quote
    | cons first' others' =>
      obtain ⟨rfl, rfl⟩ := first.unique first'
      obtain ⟨rfl, rfl⟩ := ih others'
      exact ⟨rfl, rfl⟩

theorem not_spells_bracket {j : Json} : ¬ Spells j (']' :: cs) rest := by
  rintro ⟨⟩

theorem not_spellsField_brace {key : String} {j : Json} :
    ¬ SpellsField key j ('\x7d' :: cs) rest := by
  rintro ⟨⟩

theorem spells_bracket_cases {j : Json} (h : Spells j ('[' :: cs) rest) :
    (j = .array [] ∧ skip cs = ']' :: rest) ∨
      ∃ item items after, j = .array (item :: items) ∧ Spells item (skip cs) after ∧
        SpellsItems items (skip after) rest := by
  cases h with
  | emptyArray closing => exact .inl ⟨rfl, closing⟩
  | array first others => exact .inr ⟨_, _, _, rfl, first, others⟩

theorem spells_brace_cases {j : Json} (h : Spells j ('\x7b' :: cs) rest) :
    (j = .object [] ∧ skip cs = '\x7d' :: rest) ∨
      ∃ key value fields after, j = .object ((key, value) :: fields) ∧
        SpellsField key value (skip cs) after ∧ SpellsFields fields (skip after) rest := by
  cases h with
  | emptyObject closing => exact .inl ⟨rfl, closing⟩
  | object first others => exact .inr ⟨_, _, _, _, rfl, first, others⟩

theorem spells_quote_cases {j : Json} (h : Spells j ('"' :: cs) rest) :
    ∃ content, j = .string (String.ofList content) ∧ Quoted content cs rest := by
  cases h with
  | string content => exact ⟨_, rfl, content⟩

theorem spellsItems_comma_cases {items : List Json} (h : SpellsItems items (',' :: cs) rest) :
    ∃ item others after, items = item :: others ∧ Spells item (skip cs) after ∧
      SpellsItems others (skip after) rest := by
  cases h with
  | cons first others => exact ⟨_, _, _, rfl, first, others⟩

theorem spellsFields_comma_cases {fields : List (String × Json)}
    (h : SpellsFields fields (',' :: cs) rest) :
    ∃ key value others after, fields = (key, value) :: others ∧
      SpellsField key value (skip cs) after ∧ SpellsFields others (skip after) rest := by
  cases h with
  | cons first others => exact ⟨_, _, _, _, rfl, first, others⟩

theorem spellsField_quote_cases {key : String} {j : Json}
    (h : SpellsField key j ('"' :: cs) rest) :
    ∃ content after value, key = String.ofList content ∧ Quoted content cs after ∧
      skip after = ':' :: value ∧ Spells j (skip value) rest := by
  cases h with
  | mk content colon value => exact ⟨_, _, _, rfl, content, colon, value⟩

mutual

theorem Spells.unique {j j' : Json} {cs rest rest' : List Char} (h : Spells j cs rest)
    (h' : Spells j' cs rest') : j = j' ∧ rest = rest' := by
  match h with
  | .string content =>
    obtain ⟨content', rfl, quoted⟩ := spells_quote_cases h'
    obtain ⟨same, behind⟩ := content.unique quoted
    exact ⟨by rw [same], behind⟩
  | .emptyArray closing =>
    rcases spells_bracket_cases h' with ⟨rfl, closing'⟩ | ⟨_, _, _, _, first, _⟩
    · exact ⟨rfl, (List.cons.inj (closing.symm.trans closing')).2⟩
    · rw [closing] at first
      exact absurd first not_spells_bracket
  | .array first others =>
    rcases spells_bracket_cases h' with ⟨_, closing⟩ | ⟨_, _, _, rfl, first', others'⟩
    · exact absurd (closing ▸ first) not_spells_bracket
    · obtain ⟨item, after⟩ := first.unique first'
      obtain ⟨items, behind⟩ := others.unique (after ▸ others')
      exact ⟨by rw [item, items], behind⟩
  | .emptyObject closing =>
    rcases spells_brace_cases h' with ⟨rfl, closing'⟩ | ⟨_, _, _, _, _, first, _⟩
    · exact ⟨rfl, (List.cons.inj (closing.symm.trans closing')).2⟩
    · rw [closing] at first
      exact absurd first not_spellsField_brace
  | .object first others =>
    rcases spells_brace_cases h' with ⟨_, closing⟩ | ⟨_, _, _, _, rfl, first', others'⟩
    · exact absurd (closing ▸ first) not_spellsField_brace
    · obtain ⟨key, value, after⟩ := first.unique first'
      obtain ⟨fields, behind⟩ := others.unique (after ▸ others')
      exact ⟨by rw [key, value, fields], behind⟩
termination_by structural h

theorem SpellsItems.unique {items items' : List Json} {cs rest rest' : List Char}
    (h : SpellsItems items cs rest) (h' : SpellsItems items' cs rest') :
    items = items' ∧ rest = rest' := by
  match h with
  | .close =>
    cases h' with
    | close => exact ⟨rfl, rfl⟩
  | .cons first others =>
    obtain ⟨_, _, _, rfl, first', others'⟩ := spellsItems_comma_cases h'
    obtain ⟨item, after⟩ := first.unique first'
    obtain ⟨items, behind⟩ := others.unique (after ▸ others')
    exact ⟨by rw [item, items], behind⟩
termination_by structural h

theorem SpellsField.unique {key key' : String} {j j' : Json} {cs rest rest' : List Char}
    (h : SpellsField key j cs rest) (h' : SpellsField key' j' cs rest') :
    key = key' ∧ j = j' ∧ rest = rest' := by
  match h with
  | .mk content colon value =>
    obtain ⟨_, _, _, rfl, content', colon', value'⟩ := spellsField_quote_cases h'
    obtain ⟨key, after⟩ := content.unique content'
    rw [← after, colon] at colon'
    obtain ⟨same, behind⟩ := value.unique ((List.cons.inj colon').2 ▸ value')
    exact ⟨by rw [key], same, behind⟩
termination_by structural h

theorem SpellsFields.unique {fields fields' : List (String × Json)} {cs rest rest' : List Char}
    (h : SpellsFields fields cs rest) (h' : SpellsFields fields' cs rest') :
    fields = fields' ∧ rest = rest' := by
  match h with
  | .close =>
    cases h' with
    | close => exact ⟨rfl, rfl⟩
  | .cons first others =>
    obtain ⟨_, _, _, _, rfl, first', others'⟩ := spellsFields_comma_cases h'
    obtain ⟨key, value, after⟩ := first.unique first'
    obtain ⟨fields, behind⟩ := others.unique (after ▸ others')
    exact ⟨by rw [key, value, fields], behind⟩
termination_by structural h

end

/-- A text is that of one value only. -/
theorem IsText.unique {text : String} {j j' : Json} (h : IsText text j) (h' : IsText text j') :
    j = j' := by
  obtain ⟨_, spells, -⟩ := h
  obtain ⟨_, spells', -⟩ := h'
  exact (spells.unique spells').1

end QueryTemplate.Json
