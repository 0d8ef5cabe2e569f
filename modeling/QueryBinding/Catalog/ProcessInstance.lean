import QueryBinding.Query.Type
/-!
Running process instances: the query type, and the record that shows one instance. The markers
`active`, `suspended`, `withIncident` and `withoutTenantId` restrict a query only when they are
true. Variables are compared by filters of their own, one call for each.
-/
namespace QueryBinding.ProcessInstance

def parameterList : List Parameter :=
  [{ name := "processInstanceIds", field := "process_instance_ids", converter := .stringSet
     multiValued := true },
    { name := "businessKey", field := "business_key" },
    { name := "processDefinitionId", field := "process_definition_id" },
    { name := "processDefinitionKey", field := "process_definition_key" },
    { name := "superProcessInstance", field := "super_process_instance" },
    { name := "subProcessInstance", field := "sub_process_instance" },
    { name := "incidentId", field := "incident_id" },
    { name := "incidentType", field := "incident_type" },
    { name := "incidentMessage", field := "incident_message" },
    { name := "active", field := "active", converter := .boolean },
    { name := "suspended", field := "suspended", converter := .boolean },
    { name := "withIncident", field := "with_incident", converter := .boolean },
    { name := "withoutTenantId", field := "without_tenant_id", converter := .boolean },
    { name := "tenantIdIn", field := "tenant_ids", converter := .stringList, multiValued := true },
    { name := "variables", field := "variables", converter := .variableList
      multiValued := true }]

def parameters : ParameterTable where
  toList := parameterList
  nodup_names := by decide +kernel
  nodup_fields := by decide +kernel

def fields : List Field :=
  [{ name := "process_instance_ids", type := .texts },
    { name := "business_key", type := .text },
    { name := "process_definition_id", type := .text },
    { name := "process_definition_key", type := .text },
    { name := "super_process_instance", type := .text },
    { name := "sub_process_instance", type := .text },
    { name := "incident_id", type := .text },
    { name := "incident_type", type := .text },
    { name := "incident_message", type := .text },
    { name := "active", type := .strictFlag },
    { name := "suspended", type := .strictFlag },
    { name := "with_incident", type := .strictFlag },
    { name := "without_tenant_id", type := .strictFlag },
    { name := "tenant_ids", type := .texts },
    { name := "variables", type := .filters }]

def sortFields : SortWhitelist where
  orderings :=
    [("instanceId", "order_by_process_instance_id"),
      ("definitionKey", "order_by_process_definition_key"),
      ("definitionId", "order_by_process_definition_id"),
      ("tenantId", "order_by_tenant_id"),
      ("businessKey", "order_by_business_key")]
  nodup := by decide +kernel

def filters : List FilterRule :=
  [.arguments "process_instance_ids" "process_instance_ids",
    .argument "business_key" "process_instance_business_key",
    .argument "process_definition_id" "process_definition_id",
    .argument "process_definition_key" "process_definition_key",
    .argument "super_process_instance" "super_process_instance_id",
    .argument "sub_process_instance" "sub_process_instance_id",
    .argument "incident_id" "incident_id",
    .argument "incident_type" "incident_type",
    .argument "incident_message" "incident_message",
    .marker "active" "active",
    .marker "suspended" "suspended",
    .marker "with_incident" "with_incident",
    .marker "without_tenant_id" "without_tenant_id",
    .arguments "tenant_ids" "tenant_id_in",
    .comparisons "variables"]

def queryType : QueryType where
  name := "ProcessInstanceQueryDto"
  parameters
  fields
  sortFields
  factory := ⟨"runtime_service", "create_process_instance_query"⟩
  filters
  declares_field := by decide +kernel

/-- One process instance, as results show it. -/
def recordType : RecordType where
  name := "ProcessInstanceDto"
  fields :=
    [{ name := "id", type := .text, nullable := false, default := none },
      { name := "process_definition_id", type := .text },
      { name := "business_key", type := .text },
      { name := "case_instance_id", type := .text },
      { name := "ended", type := .flag, nullable := false, default := some (.flag false) },
      { name := "suspended", type := .flag, nullable := false, default := some (.flag false) },
      { name := "tenant_id", type := .text }]

end QueryBinding.ProcessInstance
