import QueryBinding.Proofs.Catalog.Calls
import QueryBinding.Proofs.Converter.Variables
import QueryBinding.Proofs.Duplicates
import QueryBinding.Proofs.Query.Binding
import QueryBinding.Proofs.Query.Fitting
/-!
What the parameters of a request contribute to a query. The filter calls of a query that was made
from request parameters are the contributions of its facets in their order, and what a facet
contributes is told by the texts of its own parameter: by the first one, or by the pieces of all of
them between commas. The proof follows one facet on its way: its texts are converted, bound to its
field, read and turned into calls.
-/
namespace QueryBinding

def VariableFilter.call (v : VariableFilter) : Call :=
  ⟨v.operator.call, [.text v.name, .text v.value]⟩

namespace Restriction

/-- The filters on variables that a text spells out. -/
def filtersOf (text : String) : List VariableFilter :=
  (Converter.readVariables text).toOption.getD []

/-- One call with all items, if there are any. -/
def callWithItems (call : String) (items : List String) : List Call :=
  if items.isEmpty then [] else [⟨call, items.map .text⟩]

/-- The calls that the texts of a parameter stand for. -/
def contribution : Restriction → List String → List Call
  | _, [] => []
  | argument call, text :: _ => [⟨call, [.text text]⟩]
  | marker call, text :: _ => if text = "true" then [⟨call, []⟩] else []
  | arguments call, texts => callWithItems call (Text.itemsOfAll Converter.comma texts)
  | distinctArguments call, texts =>
    callWithItems call (Text.itemsOfAll Converter.comma texts).eraseDups
  | comparisons, texts => (texts.flatMap filtersOf).map VariableFilter.call

/-- The pieces of texts between commas, without the blanks around them. -/
inductive Pieces : List String → List (List Char) → Prop
  | nil : Pieces [] []
  | cons (separates : Text.Separates Converter.comma s.toList cut) (rest : Pieces texts pieces) :
    Pieces (s :: texts) (cut.map Text.trim ++ pieces)

/-- The pieces that are not empty, as texts. -/
def filled (pieces : List (List Char)) : List String :=
  (pieces.filter (!·.isEmpty)).map String.ofList

/-- What the texts of a parameter stand for: the first one as a whole, or all of them piece by
piece. -/
inductive Contributes : Restriction → List String → List Call → Prop
  | absent : Contributes r [] []
  | argument : Contributes (argument call) (text :: more) [⟨call, [.text text]⟩]
  | marked (word : text = "true") : Contributes (marker call) (text :: more) [⟨call, []⟩]
  | unmarked (word : text = "false") : Contributes (marker call) (text :: more) []
  | items (given : texts ≠ []) (cut : Pieces texts pieces) :
    Contributes (arguments call) texts (callWithItems call (filled pieces))
  | distinctItems (given : texts ≠ []) (cut : Pieces texts pieces)
      (once : WithoutRepetitions (filled pieces) kept) :
    Contributes (distinctArguments call) texts (callWithItems call kept)
  | comparisons (given : texts ≠ []) (cut : Pieces texts pieces)
      (spelled : List.Forall₂ (fun piece v => VariableFilter.SpelledBy v piece) pieces filters) :
    Contributes .comparisons texts (filters.map VariableFilter.call)

theorem contribution_nil (r : Restriction) : r.contribution [] = [] := by
  cases r <;> rfl

theorem contribution_arguments (call : String) (texts : List String) :
    (arguments call).contribution texts =
      callWithItems call (Text.itemsOfAll Converter.comma texts) := by
  cases texts <;> rfl

theorem contribution_distinctArguments (call : String) (texts : List String) :
    (distinctArguments call).contribution texts =
      callWithItems call (Text.itemsOfAll Converter.comma texts).eraseDups := by
  cases texts <;> rfl

theorem contribution_comparisons (texts : List String) :
    comparisons.contribution texts = (texts.flatMap filtersOf).map VariableFilter.call := by
  cases texts <;> rfl

/-! ### Pieces -/

theorem pieces_split (texts : List String) :
    Pieces texts (texts.flatMap fun s => (Text.split Converter.comma s.toList).map Text.trim) := by
  induction texts with
  | nil => exact .nil
  | cons s texts ih => exact .cons (Text.separates_split Converter.comma s.toList) ih

/-- All texts are cut, each in one way. -/
theorem pieces_iff {texts : List String} {pieces : List (List Char)} :
    Pieces texts pieces ↔
      pieces = texts.flatMap fun s => (Text.split Converter.comma s.toList).map Text.trim := by
  constructor
  · intro cut
    induction cut with
    | nil => rfl
    | cons separates _ ih =>
      rw [separates.eq_split (Text.borderless_singleton ','), ih, List.flatMap_cons]
      rfl
  · rintro rfl
    exact pieces_split texts

theorem filled_of_pieces {texts : List String} {pieces : List (List Char)}
    (cut : Pieces texts pieces) : filled pieces = Text.itemsOfAll Converter.comma texts := by
  rw [pieces_iff.1 cut, filled, List.filter_flatMap, List.map_flatMap]
  rfl

/-- Pieces spell at most one list of filters. -/
theorem spelled_unique {pieces : List (List Char)} {filters others : List VariableFilter}
    (spelled : List.Forall₂ (fun piece v => VariableFilter.SpelledBy v piece) pieces filters)
    (spelled' : List.Forall₂ (fun piece v => VariableFilter.SpelledBy v piece) pieces others) :
    filters = others := by
  simp only [← VariableFilter.readVariable_eq_ok, ← mapM_eq_ok_iff_forall₂] at spelled spelled'
  exact Except.ok.inj (spelled.symm.trans spelled')

theorem spelled_of_reads {texts : List String} {filters : List (List VariableFilter)}
    (reads : texts.mapM Converter.readVariables = .ok filters) {pieces : List (List Char)}
    (cut : Pieces texts pieces) :
    List.Forall₂ (fun piece v => VariableFilter.SpelledBy v piece) pieces filters.flatten := by
  rw [pieces_iff.1 cut, List.flatMap_def]
  refine List.rel_flatten (List.forall₂_map_left_iff.2 ?_)
  refine (mapM_eq_ok_iff_forall₂.1 reads).imp fun s read known => ?_
  exact List.forall₂_map_left_iff.2 (Converter.readVariables_eq_ok.1 known)

theorem Contributes.unique {r : Restriction} {texts : List String} {calls others : List Call}
    (h : r.Contributes texts calls) (h' : r.Contributes texts others) : calls = others := by
  cases h with
  | absent => cases h' <;> first | rfl | contradiction
  | argument =>
    cases h'
    rfl
  | marked word =>
    cases h' with
    | marked _ => rfl
    | unmarked word' => exact absurd (word.symm.trans word') (by decide)
  | unmarked word =>
    cases h' with
    | marked word' => exact absurd (word.symm.trans word') (by decide)
    | unmarked _ => rfl
  | items given cut =>
    cases h' with
    | absent => contradiction
    | items _ cut' => rw [filled_of_pieces cut, filled_of_pieces cut']
  | distinctItems given cut once =>
    cases h' with
    | absent => contradiction
    | distinctItems _ cut' once' =>
      rw [filled_of_pieces cut, withoutRepetitions_iff] at once
      rw [filled_of_pieces cut', withoutRepetitions_iff] at once'
      rw [once, once']
  | comparisons given cut spelled =>
    cases h' with
    | absent => contradiction
    | comparisons _ cut' spelled' =>
      rw [pieces_iff.1 cut] at spelled
      rw [pieces_iff.1 cut'] at spelled'
      rw [spelled_unique spelled spelled']

theorem contributes_nil_iff {r : Restriction} {calls : List Call} :
    r.Contributes [] calls ↔ calls = [] :=
  ⟨fun h => h.unique .absent, fun same => same ▸ .absent⟩

end Restriction

open Restriction

/-! ### From texts to a value -/

theorem Converter.readFlagWord_eq_ok {s : String} {b : Bool} (h : readFlagWord s = .ok b) :
    (s = "true" ∧ b = true) ∨ (s = "false" ∧ b = false) := by
  unfold readFlagWord at h
  split at h
  · cases h
    exact .inl ⟨‹_›, rfl⟩
  · split at h
    · cases h
      exact .inr ⟨‹_›, rfl⟩
    · cases h

theorem flatMap_filtersOf {texts : List String} {filters : List (List VariableFilter)}
    (h : texts.mapM Converter.readVariables = .ok filters) :
    texts.flatMap filtersOf = filters.flatten := by
  induction texts generalizing filters with
  | nil =>
    cases h
    rfl
  | cons text texts ih =>
    simp only [List.mapM_cons, bind_eq_ok] at h
    obtain ⟨first, reads, rest, others, same⟩ := h
    cases same
    have head : filtersOf text = first := by
      rw [filtersOf, reads]
      rfl
    rw [List.flatMap_cons, head, ih others, List.flatten_cons]

namespace FilterRule

theorem argumentsCalls_texts (call : String) (items : List String) :
    argumentsCalls call (.list (items.map .text)) = callWithItems call items := by
  cases items <;> rfl

theorem filterMap_variableCall? (filters : List VariableFilter) :
    (filters.map Datum.filter).filterMap variableCall? = filters.map VariableFilter.call := by
  have each : variableCall? ∘ Datum.filter = some ∘ VariableFilter.call := rfl
  rw [List.filterMap_map, each, List.filterMap_eq_map]

end FilterRule

namespace Facet

open FilterRule

variable {f : Facet} {texts : List String} {d : Datum}

/-- Converted texts are a value of the field's type, and the filter makes of it what the texts
contribute. -/
theorem calls_of_converted (given : texts ≠ []) (converts : f.toParameter.converted texts = .ok d) :
    f.fieldType.Holds d ∧ f.toRule.callsFor d = f.restriction.contribution texts := by
  obtain ⟨parameter, field, restriction⟩ := f
  obtain ⟨text, more, rfl⟩ := List.exists_cons_of_ne_nil given
  cases restriction with
  | argument call =>
    cases converts
    exact ⟨⟨text, rfl⟩, rfl⟩
  | marker call =>
    obtain ⟨b, word, rfl⟩ := map_eq_ok.1 converts
    rcases Converter.readFlagWord_eq_ok word with ⟨rfl, rfl⟩ | ⟨rfl, rfl⟩
    · exact ⟨⟨true, rfl⟩, rfl⟩
    · exact ⟨⟨false, rfl⟩, rfl⟩
  | arguments call =>
    cases converts
    exact ⟨⟨_, rfl⟩, argumentsCalls_texts call _⟩
  | distinctArguments call =>
    cases converts
    refine ⟨⟨_, rfl⟩, (argumentsCalls_texts call _).trans ?_⟩
    rw [eraseDups_flatMap_eraseDups]
    rfl
  | comparisons =>
    obtain ⟨filters, reads, rfl⟩ := map_eq_ok.1 converts
    refine ⟨⟨filters.flatten, rfl⟩, (filterMap_variableCall? filters.flatten).trans ?_⟩
    rw [← flatMap_filtersOf reads]
    rfl

/-- Texts that are converted contribute what they stand for, piece by piece. -/
theorem contributes_iff (given : texts ≠ []) (converts : f.toParameter.converted texts = .ok d)
    (calls : List Call) :
    f.restriction.Contributes texts calls ↔ calls = f.restriction.contribution texts := by
  have contributes : f.restriction.Contributes texts (f.restriction.contribution texts) := by
    obtain ⟨parameter, field, restriction⟩ := f
    obtain ⟨text, more, rfl⟩ := List.exists_cons_of_ne_nil given
    cases restriction with
    | argument call => exact .argument
    | marker call =>
      obtain ⟨b, word, rfl⟩ := map_eq_ok.1 converts
      rcases Converter.readFlagWord_eq_ok word with ⟨rfl, rfl⟩ | ⟨rfl, rfl⟩
      · exact .marked rfl
      · exact .unmarked rfl
    | arguments call =>
      have cut := pieces_split (text :: more)
      rw [contribution_arguments, ← filled_of_pieces cut]
      exact .items given cut
    | distinctArguments call =>
      have cut := pieces_split (text :: more)
      rw [contribution_distinctArguments, ← filled_of_pieces cut]
      exact .distinctItems given cut (withoutRepetitions_iff.2 rfl)
    | comparisons =>
      obtain ⟨filters, reads, rfl⟩ := map_eq_ok.1 converts
      have cut := pieces_split (text :: more)
      rw [contribution_comparisons, flatMap_filtersOf reads]
      exact .comparisons given cut (spelled_of_reads reads cut)
  exact ⟨fun h => h.unique contributes, fun same => same ▸ contributes⟩

end Facet

/-! ### From a request to calls -/

/-- The values that request parameters bind are of the types of their fields. -/
theorem Facet.fits_of_bindAll {facets : List Facet} {raw : RawParameters}
    {values : List (String × Datum)}
    (bound : Parameter.bindAll (facets.map Facet.toParameter) raw = .ok values) :
    Field.Fits (facets.map Facet.toField) values := by
  induction facets generalizing values with
  | nil =>
    cases bound
    exact .nil
  | cons f facets ih =>
    rw [List.map_cons] at bound
    rcases Parameter.bindAll_cons_eq_ok bound with ⟨_, binds⟩ | ⟨d, rest, given, converts, binds, rfl⟩
    · exact .skip rfl (ih binds)
    · have holds := (calls_of_converted given (Parameter.convert_eq_ok.1 converts)).1
      rw [toParameter_field]
      exact .take holds (ih binds)

namespace QueryType.HasFacets

variable {type : QueryType} {facets : List Facet} {q : Query} {raw : RawParameters}

/-- Request parameters whose texts can be converted are never refused by their fields, and criteria
that were paired are never refused again. -/
theorem fromParameters_eq (h : type.HasFacets facets) (visible : type.replacesSorting = false)
    (raw : RawParameters) :
    type.fromParameters raw = (do
      let values ← type.parameters.bind raw
      let criteria ← type.criteriaOf (raw.values SortCriterion.byKey)
        (raw.values SortCriterion.orderKey)
      return ⟨type, values, sortingOf criteria⟩) := by
  unfold fromParameters
  cases bound : type.parameters.bind raw with
  | error failure => rfl
  | ok values =>
    cases paired : type.criteriaOf (raw.values SortCriterion.byKey)
        (raw.values SortCriterion.orderKey) with
    | error failure => rfl
    | ok criteria =>
      rw [ParameterTable.bind, h.parameters] at bound
      have fits : Field.Fits type.fields values := h.fields ▸ Facet.fits_of_bindAll bound
      have self : ∀ c, readCriterion (.criterion c) = .ok c := fun _ => rfl
      have isRead := read_of_fits id fits h.nodup_fields visible
        (fun _ _ _ holds => Field.read_of_holds (.inr holds)) (readItems_map self criteria)
      simp only [id, List.map_id'] at isRead
      have listed := forall_listed_of_criteriaOf paired
      exact construct_eq_ok.2 ⟨isRead, accept_sortingOf visible listed⟩

/-- A field has the value that the texts of its parameter are converted to, whatever else a request
gives. -/
theorem value_of_fromParameters (h : type.HasFacets facets) (visible : type.replacesSorting = false)
    (made : type.fromParameters raw = .ok q) {f : Facet} (mem : f ∈ facets) :
    (raw.values f.parameter = [] ∧ q.value f.field = .null) ∨
      raw.values f.parameter ≠ [] ∧
        f.toParameter.converted (raw.values f.parameter) = .ok (q.value f.field) := by
  rw [h.fromParameters_eq visible] at made
  simp only [bind_eq_ok] at made
  obtain ⟨values, bound, criteria, _, same⟩ := made
  cases same
  have binding := Parameter.lookup_bindAll type.parameters.nodup_fields bound (h.toParameter_mem mem)
  simp only [Facet.toParameter_name, Facet.toParameter_field] at binding
  unfold Query.value
  rcases binding with ⟨empty, unbound⟩ | ⟨d, given, converts, isBound⟩
  · rw [unbound]
    exact .inl ⟨empty, rfl⟩
  · rw [isBound]
    exact .inr ⟨given, Parameter.convert_eq_ok.1 converts⟩

/-- A facet makes the calls that the texts of its parameter contribute. -/
theorem callsFor_value (h : type.HasFacets facets) (visible : type.replacesSorting = false)
    (made : type.fromParameters raw = .ok q) {f : Facet} (mem : f ∈ facets) :
    f.toRule.callsFor (q.value f.field) = f.restriction.contribution (raw.values f.parameter) := by
  rcases h.value_of_fromParameters visible made mem with ⟨empty, unset⟩ | ⟨given, converts⟩
  · rw [unset, empty, contribution_nil]
    exact FilterRule.callsFor_null _
  · exact (Facet.calls_of_converted given converts).2

theorem contributes_value (h : type.HasFacets facets) (visible : type.replacesSorting = false)
    (made : type.fromParameters raw = .ok q) {f : Facet} (mem : f ∈ facets) (calls : List Call) :
    f.restriction.Contributes (raw.values f.parameter) calls ↔
      calls = f.restriction.contribution (raw.values f.parameter) := by
  rcases h.value_of_fromParameters visible made mem with ⟨empty, _⟩ | ⟨given, converts⟩
  · rw [empty, contribution_nil]
    exact contributes_nil_iff
  · exact Facet.contributes_iff given converts calls

end QueryType.HasFacets

namespace Catalog

open RawParameters

variable {t : Catalog}

end Catalog
end QueryBinding
