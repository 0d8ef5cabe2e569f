import QueryBinding.Proofs.Entries
import QueryBinding.Proofs.Run
import QueryBinding.Validation.Record
/-!
Readings that succeed. What is read has the type that it was read as, and a value that has a type is
read as itself. The fields that an object gives are exactly its entries under their names.
-/
namespace QueryBinding
namespace Reading

theorem inside_eq_ok {step : PathStep} {x : Reading α} {a : α} :
    inside step x = .ok a ↔ x = .ok a := by
  cases x <;> simp [inside]

theorem both_eq_ok {x : Reading α} {y : Reading β} {a : α} {b : β} :
    both x y = .ok (a, b) ↔ x = .ok a ∧ y = .ok b := by
  cases x <;> cases y <;> simp [both]

theorem gather_eq_ok {read : α → Reading β} {as : List α} {bs : List β} :
    gather read as = .ok bs ↔ as.map read = bs.map .ok := by
  induction as generalizing bs with
  | nil =>
    simp only [gather, Except.ok.injEq, List.map_nil]
    rw [eq_comm, eq_comm (a := []), List.map_eq_nil_iff]
  | cons a as ih =>
    simp only [gather, map_eq_ok, Prod.exists, both_eq_ok, ih, List.map_cons]
    constructor
    · rintro ⟨b, rest, ⟨head, tail⟩, rfl⟩
      rw [head, tail, List.map_cons]
    · intro h
      obtain ⟨b, rest, rfl, head, tail⟩ := List.map_eq_cons_iff.1 h.symm
      exact ⟨b, rest, ⟨head.symm, tail.symm⟩, rfl⟩

end Reading

open Reading

theorem readItems_eq_ok {read : Datum → Reading α} {items : List Datum} {as : List α} :
    readItems read items = .ok as ↔ items.map read = as.map .ok := by
  have steps : ∀ n, (items.zipIdx n).map (fun pair => inside (.index pair.2) (read pair.1)) =
      as.map .ok ↔ items.map read = as.map .ok := by
    induction items generalizing as with
    | nil => simp
    | cons d items ih =>
      intro n
      cases as with
      | nil => simp
      | cons a as =>
        simp only [List.zipIdx_cons, List.map_cons, List.cons.injEq, inside_eq_ok, ih (n + 1)]
  rw [readItems, gather_eq_ok]
  exact steps 0

theorem exists_readItems {read : Datum → Reading α} {items : List Datum}
    (reads : ∀ d ∈ items, ∃ a, read d = .ok a) : ∃ as, readItems read items = .ok as := by
  simp only [readItems_eq_ok, ← mapM_eq_ok, mapM_eq_ok_iff_forall₂]
  exact exists_forall₂_iff.2 reads

/-- Items that are read as themselves. -/
theorem readItems_map {read : Datum → Reading α} {make : α → Datum}
    (self : ∀ a, read (make a) = .ok a) (as : List α) : readItems read (as.map make) = .ok as := by
  rw [readItems_eq_ok, List.map_map]
  exact List.map_congr_left fun a _ => self a

/-- Every item of a list that is read is read itself. -/
theorem exists_of_readItems {read : Datum → Reading α} {items : List Datum} {as : List α}
    (h : readItems read items = .ok as) {d : Datum} (mem : d ∈ items) :
    ∃ a ∈ as, read d = .ok a := by
  have image : read d ∈ as.map Except.ok := readItems_eq_ok.1 h ▸ List.mem_map_of_mem mem
  obtain ⟨a, found, same⟩ := List.mem_map.1 image
  exact ⟨a, found, same.symm⟩

/-! ### Types of values -/

/-- Whether a value is of a type as it stands. -/
def FieldType.Holds : FieldType → Datum → Prop
  | text, d => ∃ s, d = .text s
  | strictFlag, d | flag, d => ∃ b, d = .flag b
  | integer, d => ∃ n, d = .number n
  | moment, d => ∃ m, d = .moment m
  | texts, d => ∃ items : List String, d = .list (items.map .text)
  | filters, d => ∃ items : List VariableFilter, d = .list (items.map .filter)

theorem FieldType.holds_of_read {type : FieldType} {d v : Datum} (h : type.read d = .ok v) :
    type.Holds v := by
  cases type <;> simp only [FieldType.read, map_eq_ok] at h <;> obtain ⟨a, _, rfl⟩ := h
  all_goals exact ⟨a, rfl⟩

theorem FieldType.read_of_holds {type : FieldType} {v : Datum} (h : type.Holds v) :
    type.read v = .ok v := by
  cases type <;> obtain ⟨a, rfl⟩ := h
  case texts =>
    have self : ∀ s, readText (.text s) = .ok s := fun _ => rfl
    simp only [FieldType.read, readList, readItems_map self, Except.map]
  case filters =>
    have self : ∀ v, readFilter (.filter v) = .ok v := fun _ => rfl
    simp only [FieldType.read, readList, readItems_map self, Except.map]
  all_goals rfl

/-- Null is of no type. -/
theorem FieldType.isNull_of_holds {type : FieldType} {v : Datum} (h : type.Holds v) :
    v.isNull = false := by
  cases type <;> obtain ⟨a, rfl⟩ := h <;> rfl

/-! ### Fields -/

namespace Field

/-- Whether a value can be that of a field. -/
def Holds (field : Field) (v : Datum) : Prop :=
  (field.nullable = true ∧ v = .null) ∨ field.type.Holds v

theorem holds_of_read {field : Field} {d v : Datum} (h : field.read d = .ok v) : field.Holds v := by
  unfold Field.read at h
  split at h
  · rename_i null
    cases h
    exact .inl ⟨(Bool.and_eq_true_iff.1 null).1, rfl⟩
  · exact .inr (FieldType.holds_of_read h)

theorem read_of_holds {field : Field} {v : Datum} (h : field.Holds v) : field.read v = .ok v := by
  rcases h with ⟨nullable, rfl⟩ | typed
  · simp [Field.read, nullable, Datum.isNull]
  · simp only [Field.read, FieldType.isNull_of_holds typed, Bool.and_false]
    exact FieldType.read_of_holds typed

theorem readFrom_eq_ok {field : Field} {whole : Datum} {entry : Option (String × Datum)}
    (h : field.readFrom whole = .ok entry) :
    (∃ d v, whole.get? field.name = some d ∧ field.read d = .ok v ∧
        entry = some (field.name, v)) ∨
      (whole.get? field.name = none ∧ entry = none) := by
  rw [readFrom, inside_eq_ok] at h
  cases found : whole.get? field.name with
  | some d =>
    simp only [found, map_eq_ok] at h
    obtain ⟨v, reads, rfl⟩ := h
    exact .inl ⟨d, v, rfl, reads, rfl⟩
  | none =>
    simp only [found] at h
    split at h
    · cases h
      exact .inr ⟨rfl, rfl⟩
    · cases h

theorem readFrom_eq_none {field : Field} {whole : Datum} (optional : field.default.isSome = true)
    (missing : whole.get? field.name = none) : field.readFrom whole = .ok none := by
  simp only [readFrom, missing, optional, if_true, inside]

/-- What a field is read as depends on nothing but its own entry. -/
theorem readFrom_of_get? {field : Field} {whole other : Datum} {entry : Option (String × Datum)}
    (same : other.get? field.name = whole.get? field.name)
    (h : field.readFrom whole = .ok entry) : field.readFrom other = .ok entry := by
  rw [readFrom, inside_eq_ok] at h ⊢
  rw [same]
  cases found : whole.get? field.name with
  | some d => simpa only [found] using h
  | none =>
    simp only [found] at h
    split at h
    · rw [if_pos ‹_›]
      exact h
    · cases h

/-- The step of `readGiven`: the first field, then the others. -/
theorem readGiven_cons (field : Field) (fields : List Field) (whole : Datum) :
    readGiven (field :: fields) whole =
      (both (field.readFrom whole) (readGiven fields whole)).map
        fun (entry, rest) => entry.toList ++ rest := by
  simp only [readGiven, gather]
  rcases field.readFrom whole with issues | entry <;>
    rcases gather (readFrom whole) fields with more | entries
  case ok.ok => cases entry <;> rfl
  all_goals rfl

theorem readGiven_cons_eq_ok {field : Field} {fields : List Field} {whole : Datum}
    {given : List (String × Datum)} :
    readGiven (field :: fields) whole = .ok given ↔
      ∃ entry rest, field.readFrom whole = .ok entry ∧ readGiven fields whole = .ok rest ∧
        given = entry.toList ++ rest := by
  simp only [readGiven_cons, map_eq_ok, Prod.exists, both_eq_ok, and_assoc, eq_comm (a := given)]

theorem readGiven_of_get? {fields : List Field} {whole other : Datum}
    {given : List (String × Datum)}
    (same : ∀ field ∈ fields, other.get? field.name = whole.get? field.name)
    (h : readGiven fields whole = .ok given) : readGiven fields other = .ok given := by
  induction fields generalizing given with
  | nil => exact h
  | cons field fields ih =>
    obtain ⟨first, others⟩ := List.forall_mem_cons.1 same
    obtain ⟨entry, rest, head, tail, rfl⟩ := readGiven_cons_eq_ok.1 h
    exact readGiven_cons_eq_ok.2 ⟨entry, rest, readFrom_of_get? first head, ih others tail, rfl⟩

theorem exists_readGiven_iff {fields : List Field} {whole : Datum} :
    (∃ given, readGiven fields whole = .ok given) ↔
      ∀ field ∈ fields, ∃ entry, field.readFrom whole = .ok entry := by
  induction fields with
  | nil => exact ⟨fun _ => List.forall_mem_nil _, fun _ => ⟨[], rfl⟩⟩
  | cons field fields ih =>
    simp only [readGiven_cons_eq_ok, List.forall_mem_cons, ← ih]
    constructor
    · rintro ⟨_, entry, rest, head, tail, _⟩
      exact ⟨⟨entry, head⟩, rest, tail⟩
    · rintro ⟨⟨entry, head⟩, rest, tail⟩
      exact ⟨_, entry, rest, head, tail, rfl⟩

theorem mem_names_of_readGiven {fields : List Field} {whole : Datum}
    {given : List (String × Datum)} (h : readGiven fields whole = .ok given) :
    ∀ entry ∈ given, entry.1 ∈ fields.map (·.name) := by
  induction fields generalizing given with
  | nil =>
    cases h
    simp
  | cons field fields ih =>
    obtain ⟨entry, rest, head, tail, rfl⟩ := readGiven_cons_eq_ok.1 h
    intro pair mem
    rcases List.mem_append.1 mem with mem | mem
    · rcases readFrom_eq_ok head with ⟨_, v, _, _, rfl⟩ | ⟨_, rfl⟩
      · obtain rfl := List.mem_singleton.1 mem
        exact List.mem_cons_self
      · cases mem
    · exact List.mem_cons_of_mem _ (ih tail pair mem)

theorem lookup_eq_none_of_readGiven {fields : List Field} {whole : Datum}
    {given : List (String × Datum)} (h : readGiven fields whole = .ok given) {name : String}
    (other : name ∉ fields.map (·.name)) : given.lookup name = none :=
  Entries.lookup_eq_none (mem_names_of_readGiven h) other

/-- Without an entry no field of that name gets a value. -/
theorem lookup_eq_none_of_missing {fields : List Field} {whole : Datum}
    {given : List (String × Datum)} {name : String} (h : readGiven fields whole = .ok given)
    (missing : whole.get? name = none) : given.lookup name = none := by
  induction fields generalizing given with
  | nil =>
    cases h
    rfl
  | cons field fields ih =>
    obtain ⟨entry, rest, head, tail, rfl⟩ := readGiven_cons_eq_ok.1 h
    rcases readFrom_eq_ok head with ⟨d, v, found, _, rfl⟩ | ⟨_, rfl⟩
    · have differs : name ≠ field.name := by
        rintro rfl
        cases missing.symm.trans found
      rw [Option.toList_some, List.singleton_append, List.lookup_cons,
        beq_eq_false_iff_ne.2 differs]
      exact ih tail
    · exact ih tail

/-- Fields that may be left out and are left out make no difference. -/
theorem readGiven_append {more : List Field} {whole : Datum} (fields : List Field)
    (optional : ∀ field ∈ more, field.default.isSome = true)
    (missing : ∀ field ∈ more, whole.get? field.name = none) :
    readGiven (fields ++ more) whole = readGiven fields whole := by
  have nothing : readGiven more whole = .ok [] := by
    induction more with
    | nil => rfl
    | cons field more ih =>
      obtain ⟨optional, others⟩ := List.forall_mem_cons.1 optional
      obtain ⟨missing, rest⟩ := List.forall_mem_cons.1 missing
      have head := readFrom_eq_none optional missing
      exact readGiven_cons_eq_ok.2 ⟨none, [], head, ih others rest, rfl⟩
  induction fields with
  | nil => exact nothing
  | cons field fields ih => rw [List.cons_append, readGiven_cons, readGiven_cons, ih]

/-- An entry under the name of some field gives the value that one of that name is read as. -/
theorem exists_lookup_readGiven {fields : List Field} {whole : Datum}
    {given : List (String × Datum)} {name : String} {d : Datum}
    (h : readGiven fields whole = .ok given) (found : whole.get? name = some d)
    (known : name ∈ fields.map (·.name)) :
    ∃ (field : Field) (v : Datum), field.read d = .ok v ∧ given.lookup name = some v := by
  induction fields generalizing given with
  | nil => cases known
  | cons field fields ih =>
    obtain ⟨entry, rest, head, tail, rfl⟩ := readGiven_cons_eq_ok.1 h
    by_cases same : field.name = name
    · subst same
      rcases readFrom_eq_ok head with ⟨e, v, held, reads, rfl⟩ | ⟨missing, _⟩
      · rw [found] at held
        cases held
        exact ⟨field, v, reads, List.lookup_cons_self⟩
      · rw [found] at missing
        cases missing
    · have others : name ∈ fields.map (·.name) :=
        (List.mem_cons.1 known).resolve_left fun first => same first.symm
      obtain ⟨other, v, reads, held⟩ := ih tail others
      refine ⟨other, v, reads, ?_⟩
      rw [← held]
      rcases readFrom_eq_ok head with ⟨_, w, _, _, rfl⟩ | ⟨_, rfl⟩
      · simp [List.lookup_cons, beq_eq_false_iff_ne.2 fun first => same first.symm]
      · rfl

theorem mem_keys_readGiven {fields : List Field} {whole : Datum}
    {given : List (String × Datum)} (gives : readGiven fields whole = .ok given) {name : String} :
    name ∈ Entries.keys given ↔
      name ∈ fields.map (·.name) ∧ ∃ d, whole.get? name = some d := by
  rw [Entries.mem_keys_iff]
  constructor
  · rintro ⟨v, held⟩
    have known := mem_names_of_readGiven gives _ (Entries.mem_of_lookup held)
    cases found : whole.get? name with
    | some d => exact ⟨known, d, rfl⟩
    | none => cases held.symm.trans (lookup_eq_none_of_missing gives found)
  · rintro ⟨known, d, found⟩
    obtain ⟨_, v, _, held⟩ := exists_lookup_readGiven gives found known
    exact ⟨v, held⟩

/-- A field has the value that its entry is read as, and none without an entry. -/
theorem lookup_readGiven {fields : List Field} {whole : Datum} {given : List (String × Datum)}
    (nodup : (fields.map (·.name)).Nodup) (h : readGiven fields whole = .ok given) {field : Field}
    (mem : field ∈ fields) :
    (∃ d v, whole.get? field.name = some d ∧ field.read d = .ok v ∧
        given.lookup field.name = some v) ∨
      (whole.get? field.name = none ∧ given.lookup field.name = none) := by
  induction fields generalizing given with
  | nil => cases mem
  | cons first fields ih =>
    obtain ⟨entry, rest, head, tail, rfl⟩ := readGiven_cons_eq_ok.1 h
    rw [List.map_cons, List.nodup_cons] at nodup
    rcases List.mem_cons.1 mem with rfl | mem
    · have absent := lookup_eq_none_of_readGiven tail nodup.1
      rcases readFrom_eq_ok head with ⟨d, v, found, reads, rfl⟩ | ⟨missing, rfl⟩
      · exact .inl ⟨d, v, found, reads, by simp⟩
      · exact .inr ⟨missing, absent⟩
    · have differs : field.name ≠ first.name := fun same =>
        nodup.1 (same ▸ List.mem_map_of_mem mem)
      have skips : (entry.toList ++ rest).lookup field.name = rest.lookup field.name := by
        rcases readFrom_eq_ok head with ⟨_, v, _, _, rfl⟩ | ⟨_, rfl⟩
        · simp [List.lookup_cons, beq_eq_false_iff_ne.2 differs]
        · rfl
      rw [skips]
      exact ih nodup.2 tail mem

end Field
end QueryBinding
