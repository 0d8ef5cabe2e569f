import QueryBinding.Page
import QueryBinding.Proofs.Converter.Integers
import QueryBinding.Proofs.Query.Binding
/-!
Pages from values and from texts. A bound is null or an integer in its range, and a page is made
exactly of two bounds; of values that are no bounds the first one is reported as it was given.
Numerals in a request give the same page, or the same failure, as the integers that they denote.
-/
namespace QueryBinding.Page

open Reading

/-! ### Bounds -/

/-- What a value tells of a bound: null that there is none, and anything else must be an integer in
range. -/
inductive IsBound (bound : IntBound) : Datum → Option Int → Prop
  | absent : IsBound bound .null none
  | given {d : Datum} {n : Int} (reads : readInteger d = .ok n) (admitted : bound.Admits n) :
    IsBound bound d (some n)

/-- Why a value tells nothing of a bound. -/
inductive BoundFault (bound : IntBound) (d : Datum) : Fault → Prop
  | unread {fault : Fault} (filled : d ≠ .null) (reads : readInteger d = refuse fault d) :
    BoundFault bound d fault
  | outside {n : Int} (reads : readInteger d = .ok n) (refused : ¬bound.Admits n) :
    BoundFault bound d (.outOfBounds bound)

variable {bound : IntBound} {d : Datum}

theorem readInteger_or_refuse (d : Datum) :
    (∃ n, readInteger d = .ok n) ∨ ∃ fault, readInteger d = refuse fault d := by
  cases d with
  | number n => exact .inl ⟨n, rfl⟩
  | flag b => exact .inl ⟨_, rfl⟩
  | real x =>
    rw [readInteger]
    split
    · exact .inl ⟨_, rfl⟩
    · exact .inr ⟨_, rfl⟩
  | text s =>
    rw [readInteger]
    split
    · exact .inl ⟨_, rfl⟩
    · exact .inr ⟨_, rfl⟩
    · exact .inr ⟨_, rfl⟩
  | _ => exact .inr ⟨.notInteger, rfl⟩

theorem IsBound.unique {a b : Option Int} (ha : IsBound bound d a) (hb : IsBound bound d b) :
    a = b := by
  cases ha with
  | absent =>
    cases hb with
    | absent => rfl
    | given reads _ => cases reads
  | given reads _ =>
    cases hb with
    | absent => cases reads
    | given reads' _ => rw [Except.ok.inj (reads.symm.trans reads')]

theorem IsBound.exists_read {b : Option Int} (holds : IsBound bound d b) :
    ∃ read : Option { n : Int // bound.Admits n }, read.map (·.val) = b := by
  cases holds with
  | absent => exact ⟨none, rfl⟩
  | given reads admitted => exact ⟨some ⟨_, admitted⟩, rfl⟩

theorem BoundFault.not_isBound {fault : Fault} (wrong : BoundFault bound d fault)
    (n : Option Int) : ¬IsBound bound d n := by
  intro holds
  cases wrong with
  | unread filled reads =>
    cases holds with
    | absent => exact filled rfl
    | given reads' _ => cases reads.symm.trans reads'
  | outside reads refused =>
    cases holds with
    | absent => cases reads
    | given reads' admitted =>
      cases reads.symm.trans reads'
      exact refused admitted

/-- A bound is read, or what is wrong with the value as a whole is told. -/
theorem readOptional_cases (bound : IntBound) (d : Datum) :
    (∃ read, readOptional bound d = .ok read ∧ IsBound bound d (read.map (·.val))) ∨
      ∃ fault, BoundFault bound d fault ∧ readOptional bound d = refuse fault d := by
  by_cases null : d = .null
  · subst null
    exact .inl ⟨none, rfl, .absent⟩
  · have filled : d.isNull = false := by
      cases d <;> first | rfl | contradiction
    have optional : readOptional bound d = (readBounded bound d).map some := by
      simp only [readOptional, filled, Bool.false_eq_true, if_false]
    rw [optional, readBounded]
    rcases readInteger_or_refuse d with ⟨n, reads⟩ | ⟨fault, refused⟩
    · rw [reads]
      by_cases admitted : bound.Admits n
      · refine .inl ⟨some ⟨n, admitted⟩, ?_, .given reads admitted⟩
        exact congrArg (Except.map some) (dif_pos admitted)
      · refine .inr ⟨_, .outside reads admitted, ?_⟩
        exact congrArg (Except.map some) (dif_neg admitted)
    · rw [refused]
      exact .inr ⟨fault, .unread null refused, rfl⟩

theorem bindBound_eq_ok {name : String} {read : Option { n : Int // bound.Admits n }} :
    bindBound name bound d = .ok read ↔ IsBound bound d (read.map (·.val)) := by
  unfold bindBound
  rcases readOptional_cases bound d with ⟨value, reads, holds⟩ | ⟨fault, wrong, refused⟩
  · rw [reads]
    constructor
    · intro same
      cases same
      exact holds
    · intro holds'
      have injective : Function.Injective (Subtype.val : { n // bound.Admits n } → Int) :=
        Subtype.val_injective
      rw [Option.map_injective injective (holds.unique holds')]
  · rw [refused]
    constructor
    · intro same
      cases same
    · intro holds
      exact absurd holds (wrong.not_isBound _)

theorem bindBound_of_not_isBound (name : String) (none : ∀ n, ¬IsBound bound d n) :
    ∃ fault, BoundFault bound d fault ∧
      bindBound name bound d = .error (.binding name d (.fault fault)) := by
  unfold bindBound
  rcases readOptional_cases bound d with ⟨value, _, holds⟩ | ⟨fault, wrong, refused⟩
  · exact absurd holds (none _)
  · exact ⟨fault, wrong, by rw [refused]; rfl⟩

/-! ### Pages from values -/

variable {first max : Datum}

theorem of_eq_ok {page : Page} :
    Page.of first max = .ok page ↔
      IsBound (.atLeast 0) first page.first ∧ IsBound (.above 0) max page.max := by
  simp only [Page.of, bind_eq_ok, bindBound_eq_ok]
  constructor
  · rintro ⟨low, starts, high, asks, same⟩
    cases same
    exact ⟨starts, asks⟩
  · rintro ⟨starts, asks⟩
    obtain ⟨low, isFirst⟩ := starts.exists_read
    obtain ⟨high, isMax⟩ := asks.exists_read
    refine ⟨low, isFirst ▸ starts, high, isMax ▸ asks, ?_⟩
    cases page
    cases isFirst
    cases isMax
    rfl

theorem exists_of {a b : Option Int} (starts : IsBound (.atLeast 0) first a)
    (asks : IsBound (.above 0) max b) :
    ∃ page, Page.of first max = .ok page ∧ page.first = a ∧ page.max = b := by
  obtain ⟨low, rfl⟩ := starts.exists_read
  obtain ⟨high, rfl⟩ := asks.exists_read
  exact ⟨⟨low.map (·.val), high.map (·.val), forall_mem_val low, forall_mem_val high⟩,
    of_eq_ok.2 ⟨starts, asks⟩, rfl, rfl⟩

/-- A first bound that is none is reported, whatever the other one is. -/
theorem of_of_not_first (none : ∀ n, ¬IsBound (.atLeast 0) first n) (max : Datum) :
    ∃ fault, BoundFault (.atLeast 0) first fault ∧
      Page.of first max = .error (.binding firstName first (.fault fault)) := by
  obtain ⟨fault, wrong, fails⟩ := bindBound_of_not_isBound firstName none
  exact ⟨fault, wrong, bind_eq_error.2 (.inl fails)⟩

theorem of_of_not_max {a : Option Int} (starts : IsBound (.atLeast 0) first a)
    (none : ∀ n, ¬IsBound (.above 0) max n) :
    ∃ fault, BoundFault (.above 0) max fault ∧
      Page.of first max = .error (.binding maxName max (.fault fault)) := by
  obtain ⟨fault, wrong, fails⟩ := bindBound_of_not_isBound maxName none
  obtain ⟨low, rfl⟩ := starts.exists_read
  refine ⟨fault, wrong, bind_eq_error.2 (.inr ⟨low, bindBound_eq_ok.2 starts, ?_⟩)⟩
  exact bind_eq_error.2 (.inl fails)

/-! ### Pages from texts -/

/-- What a request gives for a parameter: nothing, or the integer that the first of its texts
denotes, if that is a numeral of at most 4300 digits. -/
inductive Gives (raw : RawParameters) (name : String) : Datum → Prop
  | nothing (absent : raw.values name = []) : Gives raw name .null
  | integer {s : String} {more : List String} {n : Int} (given : raw.values name = s :: more)
    (denotes : Numeral.Denotes s.toList n) (short : s.toList.countP Char.isDigit ≤ 4300) :
    Gives raw name (.number n)

/-- The entry of a field, if there is a value for it. -/
def entry (field : String) (d : Datum) : List (String × Datum) :=
  if d.isNull then [] else [(field, d)]

theorem getD_lookup_entry {field : String} {others : List (String × Datum)}
    (new : others.lookup field = none) (d : Datum) :
    ((entry field d ++ others).lookup field).getD .null = d := by
  unfold entry
  split
  · rename_i null
    rw [List.nil_append, new]
    cases d <;> first | rfl | contradiction
  · rw [List.cons_append, List.lookup_cons_self]
    rfl

theorem lookup_entry_of_ne {field key : String} (other : key ≠ field) (d : Datum)
    (others : List (String × Datum)) :
    (entry field d ++ others).lookup key = others.lookup key := by
  unfold entry
  split
  · rfl
  · rw [List.cons_append, List.lookup_cons, beq_eq_false_iff_ne.2 other]
    rfl

theorem bindAll_gives {raw : RawParameters} {p : Parameter} {d : Datum} {ps : List Parameter}
    (integer : p.converter = .integer) (single : p.multiValued = false)
    (gives : Gives raw p.name d) :
    Parameter.bindAll (p :: ps) raw =
      (Parameter.bindAll ps raw).map fun values => entry p.field d ++ values := by
  rw [Parameter.bindAll]
  cases gives with
  | nothing absent =>
    rw [absent]
    cases Parameter.bindAll ps raw <;> rfl
  | @integer s more n given denotes short =>
    rw [given]
    have converts : p.convert (s :: more) = .ok (.number n) := by
      rw [Parameter.convert_eq_ok, Parameter.converted, single, integer]
      exact Converter.integer_eq_ok.2 ⟨n, Converter.readNumeral_of_denotes denotes short, rfl⟩
    dsimp only
    rw [converts]
    cases Parameter.bindAll ps raw <;> rfl

/-- A request gives the page that the integers in it give. -/
theorem fromParameters_eq_of {raw : RawParameters} (starts : Gives raw firstName first)
    (asks : Gives raw maxName max) : fromParameters raw = Page.of first max := by
  have bound : parameters.bind raw =
      .ok (entry "first_result" first ++ (entry "max_results" max ++ [])) := by
    rw [ParameterTable.bind, parameters, bindAll_gives rfl rfl starts, bindAll_gives rfl rfl asks]
    rfl
  have low : ((entry "first_result" first ++ (entry "max_results" max ++ [])).lookup
      "first_result").getD .null = first :=
    getD_lookup_entry (lookup_entry_of_ne (by decide) max []) first
  have high : ((entry "first_result" first ++ (entry "max_results" max ++ [])).lookup
      "max_results").getD .null = max := by
    have other : "max_results" ≠ "first_result" := by decide
    rw [lookup_entry_of_ne other]
    exact getD_lookup_entry rfl max
  unfold fromParameters
  rw [bound]
  exact congrArg₂ Page.of low high

theorem gives_of_head {raw : RawParameters} {name : String} {n : Int}
    (given : (raw.values name).head? = some (String.ofList (Numeral.ofInt n)))
    (short : (Numeral.digits n.natAbs).length ≤ 4300) : Gives raw name (.number n) := by
  obtain ⟨more, values⟩ := List.head?_eq_some_iff.1 given
  have text : (String.ofList (Numeral.ofInt n)).toList = Numeral.ofInt n := String.toList_ofList
  refine .integer values ?_ ?_
  · rw [text]
    exact Numeral.denotes_ofInt n
  · rw [text, Numeral.countP_ofInt]
    exact short

end QueryBinding.Page
