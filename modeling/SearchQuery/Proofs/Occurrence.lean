import SearchQuery.Proofs.Evaluation
import SearchQuery.Proofs.Text.FinalSigma

/-!
# Documents in which a term stands

A document is found by the terms that stand in its name or in its content, with one exception.
The letter case of a term is folded apart from that of the document, and a capital sigma is
folded by the letters around it. A term is not found where a sigma of it ends a word in the
document but not in the term, or the other way round, unless it stands at another place too.
Terms whose sigmas cannot be affected in this way, above all those without any, are found
wherever they stand.
-/

namespace SearchQuery

open Text

section Occurrence

variable {term text : String}

/-- A term is found where the text around it keeps its sigmas. -/
theorem occursFolded_of_keepsSigmas {before after : List Char}
    (stands : text.toList = before ++ (term.toList ++ after))
    (keeps : KeepsSigmas before term.toList after) : occursFolded term text = true := by
  rw [occursFolded, occursIn_iff, stands]
  exact lowercase_infix_of_keepsSigmas keeps

/-- A term is found wherever it stands if and only if no text around it affects its sigmas. -/
theorem forall_occursFolded_iff :
    (∀ text : String, term.toList <:+: text.toList → occursFolded term text = true) ↔
      ∀ before after, KeepsSigmas before term.toList after := by
  rw [← forall_lowercase_infix_iff]
  constructor
  · intro found before after
    have stands : term.toList <:+: (String.ofList (before ++ (term.toList ++ after))).toList := by
      rw [String.toList_ofList, ← List.append_assoc]
      exact List.infix_append before term.toList after
    have folded := found _ stands
    rwa [occursFolded, occursIn_iff, String.toList_ofList] at folded
  · rintro found text ⟨before, after, split⟩
    rw [occursFolded, occursIn_iff, ← split, List.append_assoc]
    exact found before after

end Occurrence

namespace Expression

/-- A value finds a document if the name or the content of it has a property: a search for the
value matches then, and so does a filter on the field. -/
structure FindsIf (value : String) (property : String → Prop) (document : Document) : Prop where
  name : property document.name → matchesDocument (.text value) document = true ∧
    matchesDocument (.filter .name .equal value) document = true
  content : property document.content → matchesDocument (.text value) document = true ∧
    matchesDocument (.filter .content .equal value) document = true

section Search

variable {value term : String} (isTerm : searchTerm? value = some term)
include isTerm

theorem matchesDocument_text (document : Document) :
    matchesDocument (.text value) document =
      (occursFolded term document.name || occursFolded term document.content) := by
  rw [matchesDocument, predicate_text, Criterion.test_predicate, Criterion.holds, isTerm]
  rfl

theorem matchesDocument_name (document : Document) :
    matchesDocument (.filter .name .equal value) document = occursFolded term document.name := by
  have valid : Criterion.ofFilter .name .equal value = .ok (.contains .name value) := rfl
  rw [matchesDocument_filter valid, Criterion.holds, isTerm]
  rfl

theorem matchesDocument_content (document : Document) :
    matchesDocument (.filter .content .equal value) document =
      occursFolded term document.content := by
  have valid : Criterion.ofFilter .content .equal value = .ok (.contains .content value) := rfl
  rw [matchesDocument_filter valid, Criterion.holds, isTerm]
  rfl

theorem findsIf_of_occursFolded {property : String → Prop}
    (occurs : ∀ text, property text → occursFolded term text = true) (document : Document) :
    FindsIf value property document := by
  constructor
  · intro has
    rw [matchesDocument_text isTerm, matchesDocument_name isTerm, occurs _ has]
    exact ⟨rfl, rfl⟩
  · intro has
    rw [matchesDocument_text isTerm, matchesDocument_content isTerm, occurs _ has, Bool.or_true]
    exact ⟨rfl, rfl⟩

/-- A value finds the documents in which its term stands where the sigmas of the term are kept.
It finds all documents in which its term stands if and only if they are kept everywhere. -/
theorem finds_term :
    (∀ before after, KeepsSigmas before term.toList after → ∀ document,
        FindsIf value (·.toList = before ++ (term.toList ++ after)) document) ∧
      ((∀ document, FindsIf value (term.toList <:+: ·.toList) document) ↔
        ∀ before after, KeepsSigmas before term.toList after) := by
  constructor
  · intro before after keeps
    exact findsIf_of_occursFolded isTerm fun _ stands => occursFolded_of_keepsSigmas stands keeps
  · rw [← forall_occursFolded_iff]
    constructor
    · intro found text stands
      have inName := (found ⟨"", text, "", [], ⟨0, 0, by decide⟩⟩).name stands
      rw [matchesDocument_name isTerm] at inName
      exact inName.2
    · intro found
      exact findsIf_of_occursFolded isTerm found

end Search

/-- A quoted word that ends in a sigma finds a name in which it stands as a word. -/
theorem finds_term_among_words :
    let document : Document := ⟨"doc", "7 ΟΔΟΣ (Β)", "", [], ⟨1704067200, 0, by decide⟩⟩
    searchTerm? "\"ΟΔΟΣ\"" = some "ΟΔΟΣ" ∧
      document.name.toList = ['7', ' '] ++ ("ΟΔΟΣ".toList ++ [' ', '(', 'Β', ')']) ∧
      matchesDocument (.text "\"ΟΔΟΣ\"") document = true ∧
      matchesDocument (.filter .name .equal "\"ΟΔΟΣ\"") document = true := by
  intro document
  have isTerm : searchTerm? "\"ΟΔΟΣ\"" = some "ΟΔΟΣ" := by decide +kernel
  have keeps : KeepsSigmas ['7', ' '] "ΟΔΟΣ".toList [' ', '(', 'Β', ')'] := by decide +kernel
  have stands : document.name.toList = ['7', ' '] ++ ("ΟΔΟΣ".toList ++ [' ', '(', 'Β', ')']) := by
    decide
  exact ⟨isTerm, stands, ((finds_term isTerm).1 _ _ keeps document).name stands⟩

/-- A term that ends in a sigma does not find a name in which it begins a longer word. -/
theorem term_is_missed_in_longer_word :
    let document : Document := ⟨"doc", "ΑΣΑ", "", [], ⟨1704067200, 0, by decide⟩⟩
    searchTerm? "ΑΣ" = some "ΑΣ" ∧ "ΑΣ".toList <:+: document.name.toList ∧
      matchesDocument (.text "ΑΣ") document = false ∧
      matchesDocument (.filter .name .equal "ΑΣ") document = false := by
  intro document
  have isTerm : searchTerm? "ΑΣ" = some "ΑΣ" := by decide +kernel
  have stands : "ΑΣ".toList <:+: document.name.toList := ⟨[], ['Α'], by decide⟩
  refine ⟨isTerm, stands, ?_, ?_⟩
  · rw [matchesDocument_text isTerm]
    decide +kernel
  · rw [matchesDocument_name isTerm]
    decide +kernel

/-- A term without a capital sigma finds all documents in which it stands. -/
theorem findsIf_of_notMem_sigma {value term : String} (isTerm : searchTerm? value = some term)
    (noSigma : 'Σ' ∉ term.toList) (document : Document) :
    FindsIf value (term.toList <:+: ·.toList) document :=
  findsIf_of_occursFolded isTerm (forall_occursFolded_iff.mpr (keepsSigmas_of_notMem noSigma))
    document

end Expression

end SearchQuery
