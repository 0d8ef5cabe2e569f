import QueryBinding.Catalog.HistoricIncident
import QueryBinding.Catalog.ProcessInstance
import QueryBinding.Proofs.Query.Building
/-!
The facets of the catalogue's query types. A facet is one way to restrict a query: a parameter, the
field that it sets and the calls that the field stands for. A type `HasFacets` if its three tables
say the same facet by facet, in one order.
-/
namespace QueryBinding

/-- How a facet restricts a query. -/
inductive Restriction where
  /-- The text is the argument of a call. -/
  | argument (call : String)
  /-- A yes stands for a call without arguments. -/
  | marker (call : String)
  /-- The items are the arguments of a call. -/
  | arguments (call : String)
  /-- The items without repetitions are the arguments of a call. -/
  | distinctArguments (call : String)
  /-- Each filter on a variable stands for a call of its own. -/
  | comparisons
deriving DecidableEq

structure Facet where
  parameter : String
  field : String
  restriction : Restriction
deriving DecidableEq

namespace Facet

def toParameter (f : Facet) : Parameter :=
  match f.restriction with
  | .argument _ => { name := f.parameter, field := f.field }
  | .marker _ => { name := f.parameter, field := f.field, converter := .boolean }
  | .arguments _ =>
    { name := f.parameter, field := f.field, converter := .stringList, multiValued := true }
  | .distinctArguments _ =>
    { name := f.parameter, field := f.field, converter := .stringSet, multiValued := true }
  | .comparisons =>
    { name := f.parameter, field := f.field, converter := .variableList, multiValued := true }

def fieldType (f : Facet) : FieldType :=
  match f.restriction with
  | .argument _ => .text
  | .marker _ => .strictFlag
  | .arguments _ | .distinctArguments _ => .texts
  | .comparisons => .filters

def toField (f : Facet) : Field := { name := f.field, type := f.fieldType }

def toRule (f : Facet) : FilterRule :=
  match f.restriction with
  | .argument call => .argument f.field call
  | .marker call => .marker f.field call
  | .arguments call | .distinctArguments call => .arguments f.field call
  | .comparisons => .comparisons f.field

@[simp] theorem toParameter_name (f : Facet) : f.toParameter.name = f.parameter := by
  unfold toParameter
  split <;> rfl

@[simp] theorem toParameter_field (f : Facet) : f.toParameter.field = f.field := by
  unfold toParameter
  split <;> rfl

@[simp] theorem toField_name (f : Facet) : f.toField.name = f.field := rfl

@[simp] theorem toRule_field (f : Facet) : f.toRule.field = f.field := by
  unfold toRule
  split <;> rfl

end Facet

/-- The parameters, the fields and the filters of a type are those of the facets. -/
structure QueryType.HasFacets (type : QueryType) (facets : List Facet) : Prop where
  parameters : type.parameters.toList = facets.map Facet.toParameter
  fields : type.fields = facets.map Facet.toField
  filters : type.filters = facets.map Facet.toRule

namespace QueryType.HasFacets

variable {type : QueryType} {facets : List Facet}

theorem nodup_fields (h : type.HasFacets facets) : (type.fields.map (·.name)).Nodup := by
  have same : type.fields.map (·.name) = type.parameters.toList.map (·.field) := by
    rw [h.fields, h.parameters, List.map_map, List.map_map]
    exact List.map_congr_left fun f _ => (f.toParameter_field).symm
  rw [same]
  exact type.parameters.nodup_fields

theorem toField_mem (h : type.HasFacets facets) {f : Facet} (mem : f ∈ facets) :
    f.toField ∈ type.fields := h.fields ▸ List.mem_map_of_mem mem

theorem toParameter_mem (h : type.HasFacets facets) {f : Facet} (mem : f ∈ facets) :
    f.toParameter ∈ type.parameters.toList := h.parameters ▸ List.mem_map_of_mem mem

theorem filterCalls_eq {q : Query} (h : q.type.HasFacets facets) :
    q.filterCalls = facets.flatMap fun f => f.toRule.callsFor (q.value f.field) := by
  rw [Query.filterCalls, h.filters, List.flatMap_map]
  simp only [Facet.toRule_field]

end QueryType.HasFacets

/-! ### The catalogue -/

/-- The query types of the engine. -/
inductive Catalog where
  | historicIncident
  | processInstance
deriving DecidableEq

def HistoricIncident.facets : List Facet :=
  [⟨"incidentId", "incident_id", .argument "incident_id"⟩,
    ⟨"incidentType", "incident_type", .argument "incident_type"⟩,
    ⟨"incidentMessage", "incident_message", .argument "incident_message"⟩,
    ⟨"processDefinitionId", "process_definition_id", .argument "process_definition_id"⟩,
    ⟨"processInstanceId", "process_instance_id", .argument "process_instance_id"⟩,
    ⟨"executionId", "execution_id", .argument "execution_id"⟩,
    ⟨"activityId", "activity_id", .argument "activity_id"⟩,
    ⟨"causeIncidentId", "cause_incident_id", .argument "cause_incident_id"⟩,
    ⟨"rootCauseIncidentId", "root_cause_incident_id", .argument "root_cause_incident_id"⟩,
    ⟨"configuration", "configuration", .argument "configuration"⟩,
    ⟨"open", "open", .marker "open"⟩,
    ⟨"resolved", "resolved", .marker "resolved"⟩,
    ⟨"deleted", "deleted", .marker "deleted"⟩,
    ⟨"tenantIdIn", "tenant_ids", .arguments "tenant_id_in"⟩,
    ⟨"jobDefinitionIdIn", "job_definition_ids", .arguments "job_definition_id_in"⟩]

def ProcessInstance.facets : List Facet :=
  [⟨"processInstanceIds", "process_instance_ids", .distinctArguments "process_instance_ids"⟩,
    ⟨"businessKey", "business_key", .argument "process_instance_business_key"⟩,
    ⟨"processDefinitionId", "process_definition_id", .argument "process_definition_id"⟩,
    ⟨"processDefinitionKey", "process_definition_key", .argument "process_definition_key"⟩,
    ⟨"superProcessInstance", "super_process_instance", .argument "super_process_instance_id"⟩,
    ⟨"subProcessInstance", "sub_process_instance", .argument "sub_process_instance_id"⟩,
    ⟨"incidentId", "incident_id", .argument "incident_id"⟩,
    ⟨"incidentType", "incident_type", .argument "incident_type"⟩,
    ⟨"incidentMessage", "incident_message", .argument "incident_message"⟩,
    ⟨"active", "active", .marker "active"⟩,
    ⟨"suspended", "suspended", .marker "suspended"⟩,
    ⟨"withIncident", "with_incident", .marker "with_incident"⟩,
    ⟨"withoutTenantId", "without_tenant_id", .marker "without_tenant_id"⟩,
    ⟨"tenantIdIn", "tenant_ids", .arguments "tenant_id_in"⟩,
    ⟨"variables", "variables", .comparisons⟩]

namespace Catalog

def queryType : Catalog → QueryType
  | historicIncident => HistoricIncident.queryType
  | processInstance => ProcessInstance.queryType

def facets : Catalog → List Facet
  | historicIncident => HistoricIncident.facets
  | processInstance => ProcessInstance.facets

theorem hasFacets (t : Catalog) : t.queryType.HasFacets t.facets := by
  cases t <;> exact ⟨rfl, rfl, rfl⟩

theorem visible (t : Catalog) :
    ∀ name ∈ QueryType.operationNames, t.queryType.hides name = false := by
  cases t <;> decide +kernel

theorem sorting_visible (t : Catalog) : t.queryType.replacesSorting = false :=
  t.visible sortingField List.mem_cons_self

theorem direct (t : Catalog) : t.queryType.Direct where
  visible := t.visible
  service := by cases t <;> decide +kernel
  factory := by cases t <;> decide +kernel
  filters := by cases t <;> decide +kernel
  orderings := by cases t <;> decide +kernel

end Catalog
end QueryBinding
