import Mathlib
import QueryTemplate.Proofs.GuardText
import QueryTemplate.Proofs.Respelling
import QueryTemplate.Proofs.Shown

/-!
Reserved words in other letter case. A word is looked up in small letters, but its token keeps it as
it is written. Keywords get into no output, so their case makes no difference; the words true,
false and nil are copied into conditions and queries as they are.
-/

namespace QueryTemplate

/-! ## Lexemes -/

namespace Lexeme

def keywords : List String :=
  ["if", "else", "elseif", "end", "where", "set"]

/-- The words in small letters that no parameter can have as its name. -/
def reserved : List String :=
  keywords ++ ["true", "false", "nil"]

/-- The second lexeme is the first one, or both are the same one of the given words but for the
case of letters. -/
inductive Recased (names : List String) : Lexeme → Lexeme → Prop
  | same (l : Lexeme) : Recased names l l
  | word {cs ds : List Char} (name : String.ofList (cs.map Char.toLower) ∈ names)
      (letters : cs.map Char.toLower = ds.map Char.toLower) : Recased names (.word cs) (.word ds)

theorem Recased.toReserved {l m : Lexeme} (h : l.Recased keywords m) : l.Recased reserved m := by
  cases h with
  | same => exact .same l
  | word name letters => exact .word (List.mem_append_left _ name) letters

end Lexeme

namespace TokenKind

theorem toLower_of_isDigit {c : Char} (digit : c.isDigit = true) : c.toLower = c := by
  simp only [Char.isDigit, Bool.and_eq_true, decide_eq_true_eq] at digit
  rw [Char.toLower, dif_neg]
  exact fun capital => absurd (UInt32.le_trans capital.1 digit.2) (by decide)

/-- No reserved word is a number. -/
theorem not_isDigit_of_reserved {cs : List Char}
    (name : String.ofList (cs.map Char.toLower) ∈ Lexeme.reserved) :
    ¬ (cs ≠ [] ∧ cs.all Char.isDigit) := by
  rintro ⟨-, digits⟩
  have small : cs.map Char.toLower = cs :=
    (List.map_congr_left fun c hc => toLower_of_isDigit (List.all_eq_true.1 digits c hc)).trans
      (List.map_id cs)
  have letters : ∀ word ∈ Lexeme.reserved, ¬ word.toList.all Char.isDigit := by decide
  exact letters _ name (by rw [small, String.toList_ofList, digits])

/-- A reserved word is looked up in small letters. -/
theorem ofReserved?_of_reserved {cs ds : List Char}
    (name : String.ofList (cs.map Char.toLower) ∈ Lexeme.reserved)
    (letters : cs.map Char.toLower = ds.map Char.toLower) : ofReserved? ds = ofReserved? cs := by
  rw [ofReserved?, ofReserved?, if_neg (not_isDigit_of_reserved name),
    if_neg (not_isDigit_of_reserved (letters ▸ name)), letters]

theorem ofReserved?_keyword {cs : List Char}
    (name : String.ofList (cs.map Char.toLower) ∈ Lexeme.keywords) :
    ∃ k, ofReserved? cs = some (.keyword k) := by
  rw [ofReserved?, if_neg (not_isDigit_of_reserved (List.mem_append_left _ name))]
  generalize String.ofList (cs.map Char.toLower) = word at name
  fin_cases name <;> exact ⟨_, rfl⟩

/-- The other reserved words are operands. -/
theorem ofReserved?_constant {cs : List Char}
    (name : String.ofList (cs.map Char.toLower) ∈ Lexeme.reserved)
    (other : String.ofList (cs.map Char.toLower) ∉ Lexeme.keywords) :
    ∃ kind, ofReserved? cs = some kind ∧ (kind = .boolean ∨ kind = .nil) := by
  rw [ofReserved?, if_neg (not_isDigit_of_reserved name)]
  have constant := (List.mem_append.1 name).resolve_left other
  generalize String.ofList (cs.map Char.toLower) = word at constant
  fin_cases constant <;> exact ⟨_, rfl, by decide⟩

end TokenKind

/-! ## Tokens -/

namespace Token

open Lexeme

/-- The tokens differ in letter case at most. -/
structure Recased (t u : Token) : Prop extends t.Alike u where
  letters : t.text.toList.map Char.toLower = u.text.toList.map Char.toLower

/-- The texts are the same, unless they are those of keywords. -/
def Kept (t u : Token) : Prop :=
  t.keyword? = none → t.text = u.text

theorem Recased.refl (t : Token) : t.Recased t :=
  ⟨.refl t, rfl⟩

theorem recased_word {kind : TokenKind} {cs ds : List Char} (other : kind ≠ .logical)
    (letters : cs.map Char.toLower = ds.map Char.toLower) :
    Recased ⟨kind, String.ofList cs, false⟩ ⟨kind, String.ofList ds, false⟩ where
  kind := rfl
  isArray := rfl
  isDisjunction := by simp [isDisjunction, other]
  letters := by simpa using letters

/-- The tokens of a lexeme and of the same one in other letter case. Their texts tell whether more
than a keyword has changed. -/
theorem ofLexeme_recased (params : List Param) {l m : Lexeme} (h : l.Recased reserved m) :
    Agree (fun ts us => List.Forall₂ Recased ts us ∧
        (List.Forall₂ Kept ts us ↔ l.Recased keywords m))
      (ofLexeme params l) (ofLexeme params m) := by
  cases h with
  | same =>
    cases classified : ofLexeme params l with
    | error f => exact .error f f
    | ok ts =>
      exact .ok ⟨List.forall₂_same.2 fun t _ => .refl t,
        iff_of_true (List.forall₂_same.2 fun _ _ _ => rfl) (.same l)⟩
  | @word cs ds name letters =>
    rw [ofLexeme, ofLexeme, TokenKind.ofReserved?_of_reserved name letters]
    by_cases keyword : String.ofList (cs.map Char.toLower) ∈ keywords
    · obtain ⟨k, found⟩ := TokenKind.ofReserved?_keyword keyword
      rw [found]
      refine .ok ⟨.cons (recased_word (by simp) letters) .nil,
        iff_of_true (.cons (fun other => by cases other) .nil) (.word keyword letters)⟩
    · obtain ⟨kind, found, constant⟩ := TokenKind.ofReserved?_constant name keyword
      have operand : kind ≠ .logical ∧ keyword? ⟨kind, String.ofList cs, false⟩ = none := by
        rcases constant with rfl | rfl <;> exact ⟨by decide, rfl⟩
      rw [found]
      refine .ok ⟨.cons (recased_word operand.1 letters) .nil, fun kept => ?_, fun recased => ?_⟩
      · cases kept with
        | cons first =>
          obtain rfl : cs = ds := String.ofList_injective (first operand.2)
          exact .same _
      · cases recased with
        | same => exact .cons (fun _ => rfl) .nil
        | word listed => exact absurd listed keyword

theorem forall₂_append_iff {α β : Type} {R : α → β → Prop} {as bs : List α} {cs ds : List β}
    (lengths : as.length = cs.length) :
    List.Forall₂ R (as ++ bs) (cs ++ ds) ↔ List.Forall₂ R as cs ∧ List.Forall₂ R bs ds := by
  refine ⟨fun h => ?_, fun ⟨front, back⟩ => List.rel_append front back⟩
  obtain ⟨cs', ds', same, front, back⟩ := forall₂_append_left h
  obtain ⟨rfl, rfl⟩ := List.append_inj same (lengths.symm.trans front.length_eq)
  exact ⟨front, back⟩

theorem ofLexemes_recased (params : List Param) {ls ms : List Lexeme}
    (h : List.Forall₂ (Lexeme.Recased reserved) ls ms) :
    Agree (fun ts us => List.Forall₂ Recased ts us ∧
        (List.Forall₂ Kept ts us ↔ List.Forall₂ (Lexeme.Recased keywords) ls ms))
      (ofLexemes params ls) (ofLexemes params ms) := by
  induction h with
  | nil => exact .ok ⟨.nil, iff_of_true .nil .nil⟩
  | cons first _ ih =>
    rw [ofLexemes, ofLexemes]
    refine (ofLexeme_recased params first).bind fun ts us _ ⟨recased, kept⟩ =>
      ih.bind fun ts' us' _ ⟨recased', kept'⟩ => .ok ⟨List.rel_append recased recased', ?_⟩
    rw [forall₂_append_iff recased.length_eq, kept, kept', List.forall₂_cons]

theorem join_cons_cons (t u : Token) (ts : List Token) :
    join (t :: u :: ts) = t.text ++ " " ++ join (u :: ts) := by
  have first : join [t] = t.text := by simp [join]
  rw [← first]
  exact join_append (List.cons_ne_nil t []) (List.cons_ne_nil u ts)

/-- Texts of known lengths can be told apart when they are joined. -/
theorem map_text_of_join {ts us : List Token} (recased : List.Forall₂ Recased ts us)
    (same : join ts = join us) : ts.map text = us.map text := by
  induction recased with
  | nil => rfl
  | @cons t u ts us first others ih =>
    have lengths : t.text.toList.length = u.text.toList.length := by
      simpa using congrArg List.length first.letters
    cases others with
    | nil => simpa [join] using same
    | cons second more =>
      rw [join_cons_cons, join_cons_cons, ← String.toList_inj] at same
      simp only [String.toList_append, List.append_assoc] at same
      obtain ⟨texts, rest⟩ := List.append_inj same lengths
      rw [List.map_cons, String.toList_inj.1 texts, List.map_cons (a := u),
        ih (String.toList_inj.1 (List.append_cancel_left rest))]

/-! ## Statements -/

def freeTexts (ts : List Token) : List String :=
  (ts.filter fun t => t.keyword?.isNone).map text

theorem freeTexts_append (ts us : List Token) :
    freeTexts (ts ++ us) = freeTexts ts ++ freeTexts us := by
  simp [freeTexts]

theorem freeTexts_cons_free {t : Token} (free : t.keyword? = none) (ts : List Token) :
    freeTexts (t :: ts) = t.text :: freeTexts ts := by
  simp [freeTexts, free]

theorem freeTexts_cons_keyword {t : Token} (keyword : t.keyword?.isSome) (ts : List Token) :
    freeTexts (t :: ts) = freeTexts ts := by
  simp [freeTexts, Option.isSome_iff_ne_none.1 keyword]

theorem freeTexts_keywords {ts : List Token} (keywords : ∀ t ∈ ts, t.keyword?.isSome) :
    freeTexts ts = [] := by
  induction ts with
  | nil => rfl
  | cons t ts ih =>
    rw [List.forall_mem_cons] at keywords
    rw [freeTexts_cons_keyword keywords.1, ih keywords.2]

theorem freeTexts_free {ts : List Token} (free : ∀ t ∈ ts, t.keyword? = none) :
    freeTexts ts = ts.map text := by
  induction ts with
  | nil => rfl
  | cons t ts ih =>
    rw [List.forall_mem_cons] at free
    rw [freeTexts_cons_free free.1, ih free.2, List.map_cons]

/-- Tokens of the same kinds keep their texts if all texts of tokens that are no keywords do. -/
theorem kept_of_freeTexts {ts us : List Token} (recased : List.Forall₂ Recased ts us)
    (same : freeTexts ts = freeTexts us) : List.Forall₂ Kept ts us := by
  induction recased with
  | nil => exact .nil
  | @cons t u ts us first _ ih =>
    have words := keyword?_congr first.kind
    cases word : t.keyword? with
    | none =>
      rw [freeTexts_cons_free word, freeTexts_cons_free (words ▸ word)] at same
      obtain ⟨text, others⟩ := List.cons_eq_cons.1 same
      exact .cons (fun _ => text) (ih others)
    | some k =>
      rw [freeTexts_cons_keyword (by simp [word]),
        freeTexts_cons_keyword (by simp [← words, word])] at same
      exact .cons (fun free => by simp [word] at free) (ih same)

theorem free_of_recased {ts us : List Token} (recased : List.Forall₂ Recased ts us)
    (free : ∀ t ∈ ts, t.keyword? = none) : ∀ u ∈ us, u.keyword? = none := by
  induction recased with
  | nil => exact free
  | cons first _ ih =>
    rw [List.forall_mem_cons] at free ⊢
    exact ⟨keyword?_congr first.kind ▸ free.1, ih free.2⟩

theorem freeTexts_of_told {s t : Statement} (h : Statement.Over Recased s t) (told : s.Told t) :
    freeTexts s.tokens = freeTexts t.tokens := by
  cases h with
  | @literal t u other same =>
    have other' : u.keyword? = none := keyword?_congr same.kind ▸ other
    have text : t.text = u.text := told (.inl rfl)
    simp [Statement.literal, freeTexts, other, other', text]
  | bare _ keyword keyword' =>
    rw [Statement.bare, Statement.bare, freeTexts_keywords (by simpa using keyword),
      freeTexts_keywords (by simpa using keyword')]
  | @guarded kind opening opening' body body' announces words words' free same =>
    have content : join body = join body' := told (.inr announces)
    rw [Statement.guarded, Statement.guarded, freeTexts_append, freeTexts_append,
      freeTexts_keywords words.keywords, freeTexts_keywords words'.keywords, freeTexts_free free,
      freeTexts_free (free_of_recased same free), map_text_of_join same content]

theorem freeTexts_flatMap {ss tt : List Statement}
    (alike : List.Forall₂ (Statement.Over Recased) ss tt)
    (told : List.Forall₂ Statement.Told ss tt) :
    freeTexts (ss.flatMap Statement.tokens) = freeTexts (tt.flatMap Statement.tokens) := by
  induction alike with
  | nil => rfl
  | cons first _ ih =>
    cases told with
    | cons text others =>
      rw [List.flatMap_cons, List.flatMap_cons, freeTexts_append, freeTexts_append,
        freeTexts_of_told first text, ih others]

theorem shaped_of_recased {s t : Statement} (h : Statement.Over Recased s t) : s.Shaped t := by
  cases h with
  | literal other same => exact ⟨rfl, by simp [Statement.literal, same.isDisjunction]⟩
  | bare _ keyword keyword' =>
    refine ⟨rfl, ?_⟩
    simp [Statement.bare, Condition.isDisjunction_keyword keyword,
      Condition.isDisjunction_keyword keyword']
  | guarded announces words words' free same =>
    refine ⟨rfl, ?_⟩
    rw [Statement.guarded, Statement.guarded, Condition.any_isDisjunction_opening words,
      Condition.any_isDisjunction_opening words']
    exact Condition.any_isDisjunction_alike (same.imp fun _ _ recased => recased.toAlike)

end Token

/-! ## Templates -/

namespace Compiled

open Token

section Recased

variable {ts us : List Token} (recased : List.Forall₂ Recased ts us) {c d : Compiled}
  (compiled : ofTokens ts = .ok c) (compiled' : ofTokens us = .ok d)
include recased compiled compiled'

theorem kept_of_same (same : c.Same d) : List.Forall₂ Kept ts us := by
  obtain ⟨ss, grouped, parsed⟩ := except_bind_eq_ok.1 compiled
  obtain ⟨tt, grouped', parsed'⟩ := except_bind_eq_ok.1 compiled'
  have statements : Agree (List.Forall₂ (Statement.Over Recased)) (.ok ss) (.ok tt) := by
    rw [← grouped, ← grouped']
    exact Statement.ofTokens_respelled (fun _ _ h => h.toAlike) (respelled_of_forall₂ recased)
  obtain ⟨alike⟩ := statements
  have told : List.Forall₂ Statement.Told ss tt :=
    told_of_listToJson parsed parsed' (alike.imp fun _ _ => shaped_of_recased) same.clauses
  refine kept_of_freeTexts recased ?_
  rw [← Statement.flatMap_tokens grouped, ← Statement.flatMap_tokens grouped']
  exact freeTexts_flatMap alike told

theorem same_of_kept (kept : List.Forall₂ Kept ts us) : c.Same d := by
  have both : List.Forall₂ (fun t u => Recased t u ∧ Kept t u) ts us := by
    clear compiled compiled'
    induction recased with
    | nil => exact .nil
    | cons first _ ih =>
      cases kept with
      | cons text others => exact .cons ⟨first, text⟩ (ih others)
  have same := same_respelled (fun _ _ h => h.1.toAlike) (fun _ _ other h => h.2 other)
    (respelled_of_forall₂ both)
  rw [compiled, compiled'] at same
  cases same with
  | ok same => exact same

end Recased

/-- Keywords can be written in any case. Of every other word the output has the letters as they
are written. -/
theorem ofTokens_recased {ts us : List Token} (recased : List.Forall₂ Recased ts us) :
    Agree (fun c d => c.Same d ↔ List.Forall₂ Kept ts us) (ofTokens ts) (ofTokens us) :=
  (agree_respelled (fun _ _ h => h.toAlike) (respelled_of_forall₂ recased)).imp
    fun _ _ compiled compiled' _ =>
      ⟨kept_of_same recased compiled compiled', same_of_kept recased compiled compiled'⟩

end Compiled

/-- If the words of two templates differ in the letter case of reserved words only, both templates
compile or neither does. They come to the same just when they differ in keywords only: of the words
true, false and nil the letters are copied. -/
theorem compile_recased (params : List Param) {a b : String}
    (h : List.Forall₂ (Lexeme.Recased Lexeme.reserved) (Lexeme.ofText a) (Lexeme.ofText b)) :
    Agree (fun c d => c.Same d ↔
        List.Forall₂ (Lexeme.Recased Lexeme.keywords) (Lexeme.ofText a) (Lexeme.ofText b))
      (compile params a) (compile params b) := by
  rw [Compiled.compile_eq_bind, Compiled.compile_eq_bind]
  refine (Token.ofLexemes_recased params h).bind fun ts us _ ⟨recased, kept⟩ => ?_
  exact (Compiled.ofTokens_recased recased).imp fun c d _ _ same => same.trans kept

/-- The keywords are in capital letters, and the words true and nil are left as they are. -/
theorem same_capitalKeywords :
    List.Forall₂ (Lexeme.Recased Lexeme.reserved) (Lexeme.ofText "IF A true ELSE nil END")
        (Lexeme.ofText "if A true else nil end") ∧
      ∃ c d, compile [⟨"A", .bool, false⟩] "IF A true ELSE nil END" = .ok c ∧
        compile [⟨"A", .bool, false⟩] "if A true else nil end" = .ok d ∧ c.Same d := by
  have capitals : Lexeme.ofText "IF A true ELSE nil END" =
      ["IF", "A", "true", "ELSE", "nil", "END"].map fun word => .word word.toList := by cbv
  have small : Lexeme.ofText "if A true else nil end" =
      ["if", "A", "true", "else", "nil", "end"].map fun word => .word word.toList := by cbv
  have keywords : List.Forall₂ (Lexeme.Recased Lexeme.keywords)
      (Lexeme.ofText "IF A true ELSE nil END") (Lexeme.ofText "if A true else nil end") := by
    rw [capitals, small]
    exact .cons (.word (by decide) (by decide)) <| .cons (.same _) <| .cons (.same _) <|
      .cons (.word (by decide) (by decide)) <| .cons (.same _) <|
      .cons (.word (by decide) (by decide)) .nil
  have reserved := keywords.imp fun _ _ h => h.toReserved
  have compiles : (compile [⟨"A", .bool, false⟩] "if A true else nil end").map (fun _ => ()) =
      .ok () := by cbv
  obtain ⟨d, h', -⟩ := except_map_eq_ok.1 compiles
  have both := compile_recased [⟨"A", .bool, false⟩] reserved
  rw [h'] at both
  obtain ⟨c, h, same⟩ := both.of_ok
  exact ⟨reserved, c, d, h, h', same.2 keywords⟩

/-- The word true in capital letters is the condition and the text as it is. -/
theorem not_same_capitalTrue :
    List.Forall₂ (Lexeme.Recased Lexeme.reserved) (Lexeme.ofText "if TRUE \"a\" end")
        (Lexeme.ofText "if true \"a\" end") ∧
      ∃ c d, compile [] "if TRUE \"a\" end" = .ok c ∧ compile [] "if true \"a\" end" = .ok d ∧
        ¬ c.Same d := by
  have capitals : Lexeme.ofText "if TRUE \"a\" end" = [.word "if".toList, .word "TRUE".toList,
      .quoted "\"a\"".toList, .word "end".toList] := by cbv
  have small : Lexeme.ofText "if true \"a\" end" = [.word "if".toList, .word "true".toList,
      .quoted "\"a\"".toList, .word "end".toList] := by cbv
  have line : (compile [] "if TRUE \"a\" end").map (fun c => (c.assembly {})[2]?) =
      .ok (some "ifCond0 = append(ifCond0, helper.Cond\x7bTRUE, \"a\"\x7d)") := by cbv
  have line' : (compile [] "if true \"a\" end").map (fun c => (c.assembly {})[2]?) =
      .ok (some "ifCond0 = append(ifCond0, helper.Cond\x7btrue, \"a\"\x7d)") := by cbv
  obtain ⟨c, h, written⟩ := except_map_eq_ok.1 line
  obtain ⟨d, h', written'⟩ := except_map_eq_ok.1 line'
  refine ⟨?_, c, d, h, h', fun same => ?_⟩
  · rw [capitals, small]
    exact .cons (.same _) <| .cons (.word (by decide) (by decide)) <| .cons (.same _) <|
      .cons (.same _) .nil
  · rw [same.assembly] at written
    exact absurd (written.symm.trans written') (by decide)

end QueryTemplate
