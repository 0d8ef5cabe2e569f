import QueryBinding.Proofs.Query.Binding
import QueryBinding.Proofs.Query.Source
/-!
The keys of a body. What stands under the keys by which it sorts gives texts or items, and
everything else is refused under the name of its key; what stands under the name of a parameter is
the value of its field.
-/
namespace QueryBinding

/-- A value under a key gives the texts: a text gives itself, null and no value give none. -/
inductive GivesTexts : Option Datum → List String → Prop
  | absent : GivesTexts none []
  | null : GivesTexts (some .null) []
  | one (s : String) : GivesTexts (some (.text s)) [s]
  | list (texts : List String) : GivesTexts (some (.list (texts.map .text))) texts

/-- A value under a key gives the items: null and no value give none. -/
inductive GivesItems : Option Datum → List Datum → Prop
  | absent : GivesItems none []
  | null : GivesItems (some .null) []
  | list (items : List Datum) : GivesItems (some (.list items)) items

namespace QueryType

variable {type : QueryType} {body : List (String × Datum)} {key : String}

theorem texts?_eq_some {items : List Datum} {texts : List String} :
    texts? items = some texts ↔ items = texts.map .text := by
  induction items generalizing texts with
  | nil => cases texts <;> simp [texts?]
  | cons d items ih =>
    cases d with
    | text s =>
      cases texts with
      | nil => simp [texts?]
      | cons t texts =>
        simp only [texts?, Option.map_eq_some_iff, List.cons.injEq, ih, List.map_cons,
          Datum.text.injEq]
        constructor
        · rintro ⟨_, rfl, rfl, rfl⟩
          exact ⟨rfl, rfl⟩
        · rintro ⟨rfl, rfl⟩
          exact ⟨texts, rfl, rfl, rfl⟩
    | _ => cases texts <;> simp [texts?]

theorem filter_list (items : List Datum) :
    (some (Datum.list items)).filter (!·.isNull) = some (.list items) := rfl

theorem sortValues_eq_ok {texts : List String} :
    sortValues body key = .ok texts ↔ GivesTexts (body.lookup key) texts := by
  unfold sortValues bodyValue?
  generalize body.lookup key = held
  constructor
  · intro gives
    cases held with
    | none =>
      cases gives
      exact .absent
    | some d =>
      cases d with
      | null =>
        cases gives
        exact .null
      | text s =>
        cases gives
        exact .one s
      | list items =>
        rw [filter_list] at gives
        dsimp only at gives
        split at gives
        · rename_i found isTexts
          cases gives
          rw [texts?_eq_some.1 isTexts]
          exact .list texts
        · cases gives
      | _ => cases gives
  · intro gives
    cases gives with
    | list =>
      rw [filter_list]
      dsimp only
      rw [texts?_eq_some.2 rfl]
    | _ => rfl

theorem sortingItems_eq_ok {items : List Datum} :
    sortingItems body = .ok items ↔ GivesItems (body.lookup sortingField) items := by
  unfold sortingItems bodyValue?
  generalize body.lookup sortingField = held
  constructor
  · intro gives
    cases held with
    | none =>
      cases gives
      exact .absent
    | some d =>
      cases d with
      | null =>
        cases gives
        exact .null
      | list =>
        cases gives
        exact .list items
      | _ => cases gives
  · intro gives
    cases gives <;> rfl

/-! ### Values of fields -/

theorem mem_names_of_bodyValues (type : QueryType) (body : List (String × Datum)) :
    ∀ entry ∈ type.bodyValues body, entry.1 ∈ type.fields.map (·.name) := by
  intro entry mem
  obtain ⟨p, known, same⟩ := List.mem_map.1 (Parameter.mem_fields_of_filterMap mem)
  exact same ▸ mem_names_of_parameter known

theorem bodyValues_congr {other : List (String × Datum)}
    (agree : ∀ p ∈ type.parameters.toList, bodyValue? body p.name = bodyValue? other p.name) :
    type.bodyValues body = type.bodyValues other :=
  List.filterMap_congr fun p mem => by rw [agree p mem]

theorem lookup_bodyValues_of_mem (body : List (String × Datum)) {p : Parameter}
    (mem : p ∈ type.parameters.toList) :
    (type.bodyValues body).lookup p.field = bodyValue? body p.name :=
  Parameter.lookup_filterMap type.parameters.nodup_fields mem

theorem exists_parameter_of_lookup {name : String} {d : Datum}
    (found : (type.bodyValues body).lookup name = some d) :
    ∃ p ∈ type.parameters.toList, p.field = name ∧ bodyValue? body p.name = some d := by
  obtain ⟨p, described, held⟩ := List.mem_filterMap.1 (Entries.mem_of_lookup found)
  obtain ⟨e, held, same⟩ := Option.map_eq_some_iff.1 held
  cases same
  exact ⟨p, described, rfl, held⟩

end QueryType
end QueryBinding
