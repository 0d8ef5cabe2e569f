import Mathlib.Data.List.Forall2
import Mathlib.Data.List.Infix
import QueryBinding.Converter
import QueryBinding.Proofs.Run
import QueryBinding.Proofs.Text.Separated
import QueryBinding.Proofs.Text.Trimmed
/-!
The grammar of filters on variables. A text of filters is read piece by piece: what counts are the
first two underscores of a piece, and it is read if it spells a filter. Filters that were read can
be written down as one text, from which the same filters are read again.
-/
namespace QueryBinding

open Text

/-! ### One filter -/

/-- A text of three parts with underscores between them. The first part is not empty, and the first
two hold no underscore. -/
structure InParts (cs name word value : List Char) : Prop where
  joined : cs = name ++ '_' :: (word ++ '_' :: value)
  named : name ≠ []
  name_whole : '_' ∉ name
  word_whole : '_' ∉ word

namespace VariableFilter

/-- A text is the filter's name, its operator and its value with underscores between them; the name
is not empty and holds no underscore. -/
def SpelledBy (v : VariableFilter) (cs : List Char) : Prop :=
  cs = v.text.toList ∧ v.name ≠ "" ∧ '_' ∉ v.name.toList

end VariableFilter

/-- Why a text spells no filter. -/
inductive Misspelled (cs : List Char) : Reason → Prop
  | format (unparted : ∀ name word value, ¬InParts cs name word value) :
    Misspelled cs .variableFormat
  | operator {name word value : List Char} (parts : InParts cs name word value)
      (unknown : ∀ op : VariableOperator, op.symbol.toList ≠ word) :
    Misspelled cs (.variableOperator (String.ofList word))

/-- Up to its first underscore a text is its first part. -/
theorem takeWhile_ne_append {c : Char} {part : List Char} (whole : c ∉ part) (rest : List Char) :
    (part ++ c :: rest).takeWhile (· != c) = part ∧
      (part ++ c :: rest).dropWhile (· != c) = c :: rest := by
  have others : ∀ d ∈ part, (d != c) = true := by
    intro d mem
    exact bne_iff_ne.2 fun same => whole (same ▸ mem)
  rw [List.takeWhile_append_of_pos others, List.dropWhile_append_of_pos others]
  simp

theorem mem_takeWhile_ne {c : Char} {cs : List Char} : c ∉ cs.takeWhile (· != c) := by
  intro mem
  simpa using List.mem_takeWhile_imp mem

theorem eq_of_dropWhile_ne {c d : Char} {cs rest : List Char}
    (h : cs.dropWhile (· != c) = d :: rest) : d = c := by
  have kept := List.head?_dropWhile_not (· != c) cs
  rw [h] at kept
  simpa using kept

namespace InParts

open Converter

variable {cs name word value : List Char}

theorem readVariable_eq (parts : InParts cs name word value) :
    readVariable cs =
      match VariableOperator.ofSymbol? (String.ofList word) with
      | some operator => .ok ⟨String.ofList name, operator, String.ofList value⟩
      | none => .error (.variableOperator (String.ofList word)) := by
  obtain ⟨rfl, named, name_whole, word_whole⟩ := parts
  have first := takeWhile_ne_append name_whole (word ++ '_' :: value)
  have second := takeWhile_ne_append word_whole value
  have filled : name.isEmpty = false := List.isEmpty_eq_false_iff.2 named
  simp only [readVariable, first.1, first.2, second.1, second.2, filled]
  rfl

theorem readVariable_eq_error (unparted : ∀ name word value, ¬InParts cs name word value) :
    readVariable cs = .error .variableFormat := by
  unfold readVariable
  dsimp only
  split
  · rfl
  · rename_i c rest first
    obtain rfl := eq_of_dropWhile_ne first
    split
    · rfl
    · rename_i d value second
      obtain rfl := eq_of_dropWhile_ne second
      split
      · rfl
      · rename_i filled
        refine absurd ?_ (unparted (cs.takeWhile (· != '_')) (rest.takeWhile (· != '_')) value)
        exact {
          joined := by
            rw [← second, List.takeWhile_append_dropWhile, ← first,
              List.takeWhile_append_dropWhile]
          named := fun empty => filled (List.isEmpty_iff.2 empty)
          name_whole := mem_takeWhile_ne
          word_whole := mem_takeWhile_ne }

end InParts

theorem VariableOperator.ofSymbol?_eq_some {s : String} {op : VariableOperator} :
    ofSymbol? s = some op ↔ op.symbol = s := by
  constructor
  · intro found
    have same := List.find?_some (p := fun op : VariableOperator => op.symbol == s) found
    exact beq_iff_eq.1 same
  · rintro rfl
    exact ofSymbol?_symbol op

theorem VariableOperator.not_mem_symbol (op : VariableOperator) :
    '_' ∉ op.symbol.toList ∧ ',' ∉ op.symbol.toList := by
  cases op <;> decide +kernel

namespace VariableFilter

open Converter

variable {v : VariableFilter} {cs : List Char}

theorem toList_text (v : VariableFilter) :
    v.text.toList =
      v.name.toList ++ '_' :: (v.operator.symbol.toList ++ '_' :: v.value.toList) := by
  simp [text]

theorem spelledBy_iff :
    v.SpelledBy cs ↔ InParts cs v.name.toList v.operator.symbol.toList v.value.toList := by
  rw [SpelledBy, toList_text]
  constructor
  · rintro ⟨joined, named, whole⟩
    exact ⟨joined, fun empty => named (String.toList_eq_nil_iff.1 empty), whole,
      v.operator.not_mem_symbol.1⟩
  · rintro ⟨joined, named, whole, _⟩
    exact ⟨joined, fun empty => named (String.toList_eq_nil_iff.2 empty), whole⟩

/-- A text is read as the filter that it spells. -/
theorem readVariable_eq_ok : readVariable cs = .ok v ↔ v.SpelledBy cs := by
  rw [spelledBy_iff]
  constructor
  · intro reads
    by_cases parted : ∃ name word value, InParts cs name word value
    · obtain ⟨name, word, value, parts⟩ := parted
      rw [parts.readVariable_eq] at reads
      split at reads
      · rename_i operator found
        cases reads
        have symbol := congrArg String.toList (VariableOperator.ofSymbol?_eq_some.1 found)
        rw [String.toList_ofList] at symbol
        simpa only [String.toList_ofList, symbol] using parts
      · cases reads
    · rw [InParts.readVariable_eq_error (by simpa using parted)] at reads
      cases reads
  · intro parts
    rw [parts.readVariable_eq]
    simp only [String.ofList_toList, VariableOperator.ofSymbol?_symbol]

/-- A text that spells no filter is refused for what is wrong with it. -/
theorem readVariable_eq_error {reason : Reason} :
    readVariable cs = .error reason ↔ Misspelled cs reason := by
  constructor
  · intro refused
    by_cases parted : ∃ name word value, InParts cs name word value
    · obtain ⟨name, word, value, parts⟩ := parted
      rw [parts.readVariable_eq] at refused
      split at refused
      · cases refused
      · rename_i unknown
        cases refused
        refine .operator parts fun op same => ?_
        rw [← same, String.ofList_toList, VariableOperator.ofSymbol?_symbol] at unknown
        cases unknown
    · have unparted : ∀ name word value, ¬InParts cs name word value := by simpa using parted
      rw [InParts.readVariable_eq_error unparted] at refused
      cases refused
      exact .format unparted
  · rintro (unparted | ⟨parts, unknown⟩)
    · exact InParts.readVariable_eq_error unparted
    · rename_i name word value
      rw [parts.readVariable_eq]
      cases found : VariableOperator.ofSymbol? (String.ofList word) with
      | none => rfl
      | some op =>
        have symbol := congrArg String.toList (VariableOperator.ofSymbol?_eq_some.1 found)
        rw [String.toList_ofList] at symbol
        exact absurd symbol (unknown op)

end VariableFilter

/-! ### Several filters -/

namespace Converter

variable {s : String} {filters : List VariableFilter}

/-- The filters that the pieces of a text spell, or what is wrong with the first one that spells
none. -/
def readPieces (s : String) : Except Reason (List VariableFilter) :=
  (split comma s.toList).mapM (readVariable ∘ trim)

theorem readVariables_eq (s : String) :
    readVariables s = (readPieces s).mapError fun reason => .conversion (.text s) reason := by
  unfold readVariables readPieces
  split <;> rename_i result <;> rw [result] <;> rfl

theorem readPieces_eq_ok :
    readPieces s = .ok filters ↔
      List.Forall₂ (fun piece v => VariableFilter.SpelledBy v (trim piece))
        (split comma s.toList) filters := by
  rw [readPieces, mapM_eq_ok_iff_forall₂]
  simp only [Function.comp_apply, VariableFilter.readVariable_eq_ok]

theorem readPieces_eq_error {reason : Reason} :
    readPieces s = .error reason ↔
      ∃ before piece after, split comma s.toList = before ++ piece :: after ∧
        (∀ p ∈ before, ∃ v : VariableFilter, v.SpelledBy (trim p)) ∧
        Misspelled (trim piece) reason := by
  rw [readPieces, mapM_eq_error]
  simp only [Function.comp_apply, VariableFilter.readVariable_eq_ok,
    VariableFilter.readVariable_eq_error]

theorem readVariables_eq_ok :
    readVariables s = .ok filters ↔
      List.Forall₂ (fun piece v => VariableFilter.SpelledBy v (trim piece))
        (split comma s.toList) filters := by
  rw [readVariables_eq, mapError_eq_ok, readPieces_eq_ok]

theorem readVariables_eq_error {failure : Failure} :
    readVariables s = .error failure ↔
      ∃ before piece after reason, split comma s.toList = before ++ piece :: after ∧
        (∀ p ∈ before, ∃ v : VariableFilter, v.SpelledBy (trim p)) ∧
        Misspelled (trim piece) reason ∧ failure = .conversion (.text s) reason := by
  simp only [readVariables_eq, mapError_eq_error, readPieces_eq_error]
  constructor
  · rintro ⟨reason, ⟨before, piece, after, cut, good, bad⟩, rfl⟩
    exact ⟨before, piece, after, reason, cut, good, bad, rfl⟩
  · rintro ⟨before, piece, after, reason, cut, good, bad, rfl⟩
    exact ⟨reason, ⟨before, piece, after, cut, good, bad⟩, rfl⟩

end Converter

/-! ### Writing filters -/

namespace VariableFilter

/-- A filter that can stand in a list of filters as it is: its name is not empty, holds no comma and
no underscore and does not begin with a blank; its value holds no comma and does not end with a
blank. -/
structure Plain (v : VariableFilter) : Prop where
  named : v.name ≠ ""
  name_comma : ',' ∉ v.name.toList
  name_underscore : '_' ∉ v.name.toList
  name_front : ∀ c ∈ v.name.toList.head?, isBlank c = false
  value_comma : ',' ∉ v.value.toList
  value_back : ∀ c ∈ v.value.toList.getLast?, isBlank c = false

/-- The filters as one text, with commas between them. -/
def listText (filters : List VariableFilter) : String :=
  String.ofList (join Converter.comma (filters.map (·.text.toList)))

variable {v : VariableFilter}

theorem comma_not_mem_text :
    ',' ∉ v.text.toList ↔ ',' ∉ v.name.toList ∧ ',' ∉ v.value.toList := by
  have symbol := v.operator.not_mem_symbol.2
  simp [toList_text, symbol]

theorem trimmed_text (named : v.name ≠ "") :
    Trimmed v.text.toList ↔ (∀ c ∈ v.name.toList.head?, isBlank c = false) ∧
      ∀ c ∈ v.value.toList.getLast?, isBlank c = false := by
  obtain ⟨d, name, begins⟩ : ∃ d name, v.name.toList = d :: name :=
    List.exists_cons_of_ne_nil fun empty => named (String.toList_eq_nil_iff.1 empty)
  have first : v.text.toList.head? = v.name.toList.head? := by
    rw [toList_text, begins]
    rfl
  have last : v.text.toList.getLast? = some (v.value.toList.getLast?.getD '_') := by
    simp [toList_text, List.getLast?_cons]
  constructor
  · rintro ⟨front, back⟩
    refine ⟨first ▸ front, fun c ends => back c ?_⟩
    rw [last, Option.mem_def.1 ends, Option.getD_some, Option.mem_def]
  · rintro ⟨front, back⟩
    refine ⟨first ▸ front, fun c ends => ?_⟩
    rw [last] at ends
    cases value : v.value.toList.getLast? with
    | none =>
      rw [value] at ends
      cases ends
      decide
    | some d =>
      rw [value] at ends
      cases ends
      exact back d value

/-- A filter is plain if its own text spells it, also among others and with blanks around it. -/
theorem plain_iff :
    v.Plain ↔ v.SpelledBy v.text.toList ∧ ',' ∉ v.text.toList ∧ Trimmed v.text.toList := by
  rw [comma_not_mem_text]
  constructor
  · rintro ⟨named, name_comma, underscore, front, value_comma, back⟩
    exact ⟨⟨rfl, named, underscore⟩, ⟨name_comma, value_comma⟩, (trimmed_text named).2 ⟨front, back⟩⟩
  · rintro ⟨⟨-, named, underscore⟩, ⟨name_comma, value_comma⟩, trimmed⟩
    obtain ⟨front, back⟩ := (trimmed_text named).1 trimmed
    exact ⟨named, name_comma, underscore, front, value_comma, back⟩

end VariableFilter

namespace Converter

/-- Plain filters are read back from their text. -/
theorem readVariables_listText {filters : List VariableFilter} (filled : filters ≠ [])
    (plain : ∀ v ∈ filters, v.Plain) :
    readVariables (VariableFilter.listText filters) = .ok filters := by
  have separates : Separates comma (VariableFilter.listText filters).toList
      (filters.map (·.text.toList)) := {
    joined := by rw [VariableFilter.listText, String.toList_ofList]
    nonempty := fun empty => filled (List.map_eq_nil_iff.1 empty)
    whole := by
      intro piece mem
      obtain ⟨v, known, rfl⟩ := List.mem_map.1 mem
      obtain ⟨-, whole, -⟩ := VariableFilter.plain_iff.1 (plain v known)
      exact fun inside => whole ((List.singleton_infix_iff _ _).1 inside) }
  have cut := separates.eq_split (borderless_singleton ',')
  rw [readVariables_eq_ok, comma, ← cut, List.forall₂_map_left_iff, List.forall₂_same]
  intro v known
  obtain ⟨spelled, -, trimmed⟩ := VariableFilter.plain_iff.1 (plain v known)
  rwa [trim_of_trimmed trimmed]

theorem exists_of_forall₂ {R : α → β → Prop} {as : List α} {bs : List β} {b : β}
    (related : List.Forall₂ R as bs) (mem : b ∈ bs) : ∃ a ∈ as, R a b := by
  induction related with
  | nil => cases mem
  | @cons a _ _ _ head _ ih =>
    rcases List.mem_cons.1 mem with rfl | mem
    · exact ⟨a, List.mem_cons_self, head⟩
    · obtain ⟨c, known, tail⟩ := ih mem
      exact ⟨c, List.mem_cons_of_mem _ known, tail⟩

/-- Filters that were read are plain, and there is at least one. -/
theorem plain_of_readVariables {s : String} {filters : List VariableFilter}
    (reads : readVariables s = .ok filters) : filters ≠ [] ∧ ∀ v ∈ filters, v.Plain := by
  rw [readVariables_eq_ok] at reads
  constructor
  · rintro rfl
    exact split_ne_nil comma s.toList (List.forall₂_nil_right_iff.1 reads)
  · intro v known
    obtain ⟨piece, mem, spelled⟩ := exists_of_forall₂ reads known
    have text : trim piece = v.text.toList := spelled.1
    have whole : ',' ∉ trim piece := by
      intro inside
      have inPiece : [','] <:+: piece :=
        (List.singleton_infix_iff _ _).2 ((isInfix_trim piece).subset inside)
      exact not_infix_of_mem_split mem inPiece
    rw [VariableFilter.plain_iff, ← text]
    exact ⟨spelled, whole, trimmed_trim piece⟩

/-! ### The converter -/

theorem ofFilters_inj {filters others : List VariableFilter}
    (same : ofFilters filters = ofFilters others) : filters = others := by
  have injective : Function.Injective Datum.filter := fun _ _ => Datum.filter.inj
  exact injective.list_map (Datum.list.inj same)

/-- The grammar of the converter, in both directions. A text is converted if and only if each of its
pieces between commas spells a filter, blanks around it aside; otherwise the first piece that does
not is the reason why the text as a whole is refused. Every list of plain filters is converted from
its own text, and only such lists come out. -/
theorem variableList_grammar :
    (∀ s, ∃ pieces, Separates comma s.toList pieces ∧
      (∀ d, variableList.convert s = .ok d ↔ ∃ filters, d = ofFilters filters ∧
        List.Forall₂ (fun piece v => VariableFilter.SpelledBy v (trim piece)) pieces filters) ∧
      (∀ failure, variableList.convert s = .error failure ↔
        ∃ before piece after reason, pieces = before ++ piece :: after ∧
          (∀ p ∈ before, ∃ v : VariableFilter, v.SpelledBy (trim p)) ∧
          Misspelled (trim piece) reason ∧ failure = .conversion (.text s) reason)) ∧
    (∀ filters : List VariableFilter, filters ≠ [] → (∀ v ∈ filters, v.Plain) →
      variableList.convert (VariableFilter.listText filters) = .ok (ofFilters filters)) ∧
    ∀ s filters, variableList.convert s = .ok (ofFilters filters) →
      filters ≠ [] ∧ (∀ v ∈ filters, v.Plain) ∧
        variableList.convert (VariableFilter.listText filters) = .ok (ofFilters filters) := by
  have converts (s : String) (d : Datum) : variableList.convert s = .ok d ↔
      ∃ filters, readVariables s = .ok filters ∧ ofFilters filters = d := map_eq_ok
  refine ⟨fun s => ⟨split comma s.toList, separates_split comma s.toList, ?_, ?_⟩, ?_, ?_⟩
  · intro d
    simp only [converts, readVariables_eq_ok]
    constructor
    · rintro ⟨filters, reads, same⟩
      exact ⟨filters, same.symm, reads⟩
    · rintro ⟨filters, same, reads⟩
      exact ⟨filters, reads, same.symm⟩
  · intro failure
    exact map_eq_error.trans readVariables_eq_error
  · intro filters filled plain
    exact (converts _ _).2 ⟨filters, readVariables_listText filled plain, rfl⟩
  · intro s filters converted
    obtain ⟨read, reads, same⟩ := (converts s _).1 converted
    obtain rfl := ofFilters_inj same
    obtain ⟨filled, plain⟩ := plain_of_readVariables reads
    exact ⟨filled, plain, (converts _ _).2 ⟨read, readVariables_listText filled plain, rfl⟩⟩

theorem variableList_grammar_underscores :
    ∃ filters : List VariableFilter,
      filters = [⟨"a b", .like, "x_y"⟩, ⟨"c", .equals, ""⟩] ∧ (∀ v ∈ filters, v.Plain) ∧
        variableList.convert "a b_like_x_y,c_eq_" = .ok (ofFilters filters) := by
  have plain : ∀ v ∈ ([⟨"a b", .like, "x_y"⟩, ⟨"c", .equals, ""⟩] : List VariableFilter),
      v.Plain := by
    intro v mem
    simp only [List.mem_cons, List.not_mem_nil, or_false] at mem
    rcases mem with rfl | rfl
    · exact ⟨by decide, by decide, by decide, by simp; decide, by decide, by simp; decide⟩
    · exact ⟨by decide, by decide, by decide, by simp; decide, by decide, by simp⟩
  have text : VariableFilter.listText [⟨"a b", .like, "x_y"⟩, ⟨"c", .equals, ""⟩] =
      "a b_like_x_y,c_eq_" := by decide +kernel
  refine ⟨_, rfl, plain, ?_⟩
  rw [← text]
  exact variableList_grammar.2.1 _ (by simp) plain

end Converter
end QueryBinding
