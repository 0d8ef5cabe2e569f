import QueryBinding.Query.Type
/-!
Tasks: a query type that is given by its declaration alone, and declarations that extend it.
-/
namespace QueryBinding.Task

def declaration : Declaration where
  name := "TaskQueryDto"
  parameters :=
    [{ name := "name", field := "name" },
      { name := "assigned", field := "assigned", converter := .boolean },
      { name := "priority", field := "priority", converter := .integer },
      { name := "candidateGroups", field := "candidate_groups", converter := .stringList },
      { name := "dueBefore", field := "due_before", converter := .date }]
  fields :=
    [("name", .text), ("assigned", .strictFlag), ("priority", .integer),
      ("candidate_groups", .texts), ("due_before", .moment)]
  sortFields := [("name", "order_by_name"), ("priority", "order_by_priority")]

def parameters : ParameterTable where
  toList := declaration.parameters
  nodup_names := by decide +kernel
  nodup_fields := by decide +kernel

def sortFields : SortWhitelist where
  orderings := declaration.sortFields
  nodup := by decide +kernel

/-- The query type that the declaration describes. -/
def queryType : QueryType where
  name := "TaskQueryDto"
  parameters
  fields := declaration.fields.map fun field => { name := field.1, type := field.2 }
  sortFields
  factory := Declaration.customFactory
  filters := declaration.fields.map fun field => .named field.1
  declares_field := by decide +kernel

theorem toQueryType_declaration : declaration.toQueryType = .ok queryType := rfl

/-- Tasks that have an owner. -/
def owned : Declaration where
  name := "OwnedTask"
  base := some queryType
  parameters := [{ name := "owner", field := "owner" }]
  fields := [("owner", .text)]
  sortFields := [("owner", "order_by_owner")]

/-- Tasks with a field that is named like the operation by which results are ordered. -/
def unsortable : Declaration where
  name := "UnsortableTask"
  base := some queryType
  fields := [("apply_sort", .text)]

end QueryBinding.Task
