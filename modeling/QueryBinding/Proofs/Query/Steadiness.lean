import QueryBinding.Proofs.Engine.Memoryless
import QueryBinding.Proofs.Query.Confinement
/-!
Queries that leave the handle of the engine as it was set up. Whether a query does so depends on the
names of its type's calls; if it does, building it is the same to an engine whatever was asked of it
before.
-/
namespace QueryBinding

open Engine

/-! ### Types -/

namespace QueryType

/-- No query of the type changes the handle while it is built: no filter is named like a member that
can change it, and no ordering is named like the only one that does so without arguments. -/
structure Steady (type : QueryType) : Prop where
  filters : ∀ rule ∈ type.filters, ∀ name ∈ rule.callNames, name ∉ Handle.changers
  orderings : ∀ entry ∈ type.sortFields.orderings, entry.2 ≠ "__init__"

variable {type : QueryType}

/-- What changes a handle is a member of it. -/
theorem CallsApart.not_mem_changers (apart : type.CallsApart) {name : String}
    (named : name ∈ type.callNames) : name ∉ Handle.changers := by
  have members : ∀ name ∈ Handle.changers, isMember name = true := by decide +kernel
  intro changes
  have member := members name changes
  rw [apart name named] at member
  cases member

theorem CallsApart.steady (apart : type.CallsApart) : type.Steady where
  filters := by
    intro rule known name mem
    have own : name ∈ type.filters.flatMap (·.callNames) := List.mem_flatMap.2 ⟨rule, known, mem⟩
    exact apart.not_mem_changers (by simp [callNames, own])
  orderings := by
    intro entry known renews
    have own : entry.2 ∈ type.sortFields.orderings.map (·.2) := List.mem_map.2 ⟨entry, known, rfl⟩
    have named : entry.2 ∈ type.callNames := by simp [callNames, own]
    rw [renews] at named
    exact apart.not_mem_changers named (by simp [Handle.changers])

theorem Steady.harmless_of_rule (steady : type.Steady) {rule : FilterRule} {d : Datum} {c : Call}
    (known : rule ∈ type.filters) (mem : c ∈ rule.callsFor d) : c.Harmless := by
  intro changes
  exact absurd changes (steady.filters rule known _ (FilterRule.name_mem_callNames mem))

end QueryType

theorem SortOrder.harmless_symbol (order : SortOrder) : (⟨order.symbol, []⟩ : Call).Harmless := by
  cases order <;> exact fun _ => ⟨by decide, rfl⟩

/-! ### Building -/

namespace Query

variable {q : Query}

theorem memoryless_applyFilter (steady : q.type.Steady) {rule : FilterRule}
    (known : rule ∈ q.type.filters) : Memoryless (q.applyFilter rule) := by
  unfold applyFilter
  dsimp only
  split
  · exact .throw _
  · exact memoryless_callAll fun c mem => steady.harmless_of_rule known mem

theorem memoryless_apply (steady : q.type.Steady) (criterion : SortCriterion) :
    Memoryless (q.type.sortFields.apply criterion) := by
  unfold SortWhitelist.apply
  refine .lift_bind fun name found => ?_
  have ordering : (⟨name, []⟩ : Call).Harmless := by
    intro _
    refine ⟨?_, rfl⟩
    unfold SortWhitelist.ordering at found
    split at found
    · rename_i call listed
      cases found
      exact steady.orderings _ (Entries.mem_of_lookup listed)
    · cases found
  exact (memoryless_call ordering).bind fun _ => memoryless_call criterion.order.harmless_symbol

theorem memoryless_applySort (steady : q.type.Steady) (criterion : SortCriterion) :
    Memoryless (q.applySort criterion) := by
  unfold applySort
  refine .lift_bind fun _ _ => .lift_bind fun _ _ => .lift_bind fun _ _ => ?_
  unfold Query.sortFields
  split
  · exact .throw _
  · exact memoryless_apply steady criterion

/-- What building a query gives and adds does not depend on what was asked of the engine before. -/
theorem memoryless_build (steady : q.type.Steady) : Memoryless q.build := by
  rw [build_eq_prepared_then_arrange]
  refine .lift_bind fun criteria _ => (memoryless_create _ _).bind fun _ => ?_
  unfold arrange
  refine .lift_bind fun _ _ => ?_
  have filters : Memoryless (q.type.filters.forM q.applyFilter) :=
    .forM fun rule known => memoryless_applyFilter steady known
  exact filters.bind fun _ => .forM fun criterion _ => memoryless_applySort steady criterion

end Query
end QueryBinding
