import QueryBinding.Query.Type
/-!
Historic incidents: the query type, and the record that shows one incident. The markers `open`,
`resolved` and `deleted` restrict a query only when they are true.
-/
namespace QueryBinding.HistoricIncident

def parameterList : List Parameter :=
  [{ name := "incidentId", field := "incident_id" },
    { name := "incidentType", field := "incident_type" },
    { name := "incidentMessage", field := "incident_message" },
    { name := "processDefinitionId", field := "process_definition_id" },
    { name := "processInstanceId", field := "process_instance_id" },
    { name := "executionId", field := "execution_id" },
    { name := "activityId", field := "activity_id" },
    { name := "causeIncidentId", field := "cause_incident_id" },
    { name := "rootCauseIncidentId", field := "root_cause_incident_id" },
    { name := "configuration", field := "configuration" },
    { name := "open", field := "open", converter := .boolean },
    { name := "resolved", field := "resolved", converter := .boolean },
    { name := "deleted", field := "deleted", converter := .boolean },
    { name := "tenantIdIn", field := "tenant_ids", converter := .stringList, multiValued := true },
    { name := "jobDefinitionIdIn", field := "job_definition_ids", converter := .stringList
      multiValued := true }]

def parameters : ParameterTable where
  toList := parameterList
  nodup_names := by decide +kernel
  nodup_fields := by decide +kernel

def fields : List Field :=
  [{ name := "incident_id", type := .text },
    { name := "incident_type", type := .text },
    { name := "incident_message", type := .text },
    { name := "process_definition_id", type := .text },
    { name := "process_instance_id", type := .text },
    { name := "execution_id", type := .text },
    { name := "activity_id", type := .text },
    { name := "cause_incident_id", type := .text },
    { name := "root_cause_incident_id", type := .text },
    { name := "configuration", type := .text },
    { name := "open", type := .strictFlag },
    { name := "resolved", type := .strictFlag },
    { name := "deleted", type := .strictFlag },
    { name := "tenant_ids", type := .texts },
    { name := "job_definition_ids", type := .texts }]

def sortFields : SortWhitelist where
  orderings :=
    [("incidentId", "order_by_incident_id"),
      ("incidentMessage", "order_by_incident_message"),
      ("createTime", "order_by_create_time"),
      ("endTime", "order_by_end_time"),
      ("incidentType", "order_by_incident_type"),
      ("executionId", "order_by_execution_id"),
      ("activityId", "order_by_activity_id"),
      ("processInstanceId", "order_by_process_instance_id"),
      ("processDefinitionId", "order_by_process_definition_id"),
      ("causeIncidentId", "order_by_cause_incident_id"),
      ("rootCauseIncidentId", "order_by_root_cause_incident_id"),
      ("configuration", "order_by_configuration"),
      ("tenantId", "order_by_tenant_id"),
      ("incidentState", "order_by_incident_state")]
  nodup := by decide +kernel

def filters : List FilterRule :=
  [.argument "incident_id" "incident_id",
    .argument "incident_type" "incident_type",
    .argument "incident_message" "incident_message",
    .argument "process_definition_id" "process_definition_id",
    .argument "process_instance_id" "process_instance_id",
    .argument "execution_id" "execution_id",
    .argument "activity_id" "activity_id",
    .argument "cause_incident_id" "cause_incident_id",
    .argument "root_cause_incident_id" "root_cause_incident_id",
    .argument "configuration" "configuration",
    .marker "open" "open",
    .marker "resolved" "resolved",
    .marker "deleted" "deleted",
    .arguments "tenant_ids" "tenant_id_in",
    .arguments "job_definition_ids" "job_definition_id_in"]

def queryType : QueryType where
  name := "HistoricIncidentQueryDto"
  parameters
  fields
  sortFields
  factory := ⟨"history_service", "create_historic_incident_query"⟩
  filters
  declares_field := by decide +kernel

/-- One incident, as results show it. -/
def recordType : RecordType where
  name := "HistoricIncidentDto"
  fields :=
    [{ name := "id", type := .text, nullable := false, default := none },
      { name := "process_definition_key", type := .text },
      { name := "process_definition_id", type := .text },
      { name := "process_instance_id", type := .text },
      { name := "execution_id", type := .text },
      { name := "root_process_instance_id", type := .text },
      { name := "create_time", type := .moment },
      { name := "end_time", type := .moment },
      { name := "removal_time", type := .moment },
      { name := "incident_type", type := .text },
      { name := "activity_id", type := .text },
      { name := "cause_incident_id", type := .text },
      { name := "root_cause_incident_id", type := .text },
      { name := "configuration", type := .text },
      { name := "incident_message", type := .text },
      { name := "tenant_id", type := .text },
      { name := "job_definition_id", type := .text },
      { name := "open", type := .flag, nullable := false, default := some (.flag false) },
      { name := "deleted", type := .flag, nullable := false, default := some (.flag false) },
      { name := "resolved", type := .flag, nullable := false, default := some (.flag false) }]

end QueryBinding.HistoricIncident
