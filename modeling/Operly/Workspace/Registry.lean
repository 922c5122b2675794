import Operly.Workspace.Schema

/-! The record types of a workspace: the model behind each, what may be read and written of it, and the
options that the field catalogue declares. -/

namespace Operly.Workspace.Records

structure RecordConfig where
  model : Model
  module : String
  readPermission : String
  writePermission : String
  fields : List String
  required : List String := []
  searchFields : List String := []
  references : List (String × Model) := []
  defaultSort : String := "created_at"
  mutable : Bool := true

structure ModuleManifest where
  name : String
  defaultEnabled : Bool
  locked : Bool

def entityRegistry : List (String × RecordConfig) := [
  ("organizations", {
      model := .businessAccount, module := "crm", readPermission := "crm:read",
      writePermission := "crm:write"
      fields := ["name", "account_type", "industry", "website", "email", "phone", "status", "owner",
        "billing_address", "shipping_address", "notes"]
      required := ["name"]
      searchFields := ["name", "industry", "email", "phone", "status", "owner"] }),
  ("contacts", {
      model := .contact, module := "crm", readPermission := "crm:read", writePermission := "crm:write"
      fields := ["name", "email", "phone", "company", "source", "status", "notes"]
      required := ["name"]
      searchFields := ["name", "email", "phone", "company", "status"] }),
  ("leads", {
      model := .lead, module := "crm", readPermission := "crm:read", writePermission := "crm:write"
      fields := ["contact_id", "title", "stage", "value", "assigned_to", "next_action",
        "last_contacted_at", "next_action_at"]
      required := ["title"]
      searchFields := ["title", "stage", "assigned_to"]
      references := [("contact_id", .contact)] }),
  ("interactions", {
      model := .crmInteraction, module := "crm", readPermission := "crm:read",
      writePermission := "crm:write"
      fields := ["contact_id", "account_id", "lead_id", "interaction_type", "channel", "subject",
        "body", "owner", "occurred_at", "next_action_at"]
      required := ["subject"]
      searchFields := ["subject", "interaction_type", "channel", "owner"]
      references := [("contact_id", .contact), ("account_id", .businessAccount), ("lead_id", .lead)]
      defaultSort := "occurred_at" }),
  ("catalog", {
      model := .catalogItem, module := "catalog", readPermission := "catalog:read",
      writePermission := "catalog:write"
      fields := ["name", "item_type", "sku", "price", "cost", "stock_qty", "reorder_level", "active"]
      required := ["name"]
      searchFields := ["name", "sku", "item_type"] }),
  ("warehouses", {
      model := .warehouse, module := "inventory", readPermission := "inventory:read",
      writePermission := "inventory:write"
      fields := ["name", "code", "location", "active", "notes"]
      required := ["name", "code"]
      searchFields := ["name", "code", "location"] }),
  ("stock-transfers", {
      model := .inventoryTransfer, module := "inventory", readPermission := "inventory:read",
      writePermission := "inventory:write"
      fields := ["item_id", "from_warehouse_id", "to_warehouse_id", "quantity", "status",
        "requested_at", "completed_at", "notes"]
      required := ["item_id", "quantity"]
      searchFields := ["status", "notes"]
      references := [("item_id", .catalogItem), ("from_warehouse_id", .warehouse), ("to_warehouse_id", .warehouse)]
      defaultSort := "requested_at" }),
  ("quotes", {
      model := .quote, module := "sales", readPermission := "quotes:read",
      writePermission := "quotes:write"
      fields := ["contact_id", "title", "status", "total", "valid_until", "notes"]
      required := ["title"]
      searchFields := ["title", "status", "notes"]
      references := [("contact_id", .contact)] }),
  ("quote-items", {
      model := .quoteItem, module := "sales", readPermission := "quotes:read",
      writePermission := "quotes:write"
      fields := ["quote_id", "catalog_item_id", "description", "quantity", "unit_price", "discount",
        "tax_rate"]
      required := ["quote_id", "description"]
      searchFields := ["description"]
      references := [("quote_id", .quote), ("catalog_item_id", .catalogItem)] }),
  ("orders", {
      model := .businessOrder, module := "sales", readPermission := "orders:read",
      writePermission := "orders:write"
      fields := ["contact_id", "status", "total", "notes"]
      searchFields := ["status", "notes"]
      references := [("contact_id", .contact)] }),
  ("order-items", {
      model := .orderItem, module := "sales", readPermission := "orders:read",
      writePermission := "orders:write"
      fields := ["order_id", "catalog_item_id", "description", "quantity", "unit_price"]
      required := ["order_id", "description"]
      searchFields := ["description"]
      references := [("order_id", .businessOrder), ("catalog_item_id", .catalogItem)] }),
  ("contracts", {
      model := .salesContract, module := "sales", readPermission := "orders:read",
      writePermission := "orders:write"
      fields := ["contact_id", "account_id", "title", "status", "value", "currency", "starts_at",
        "ends_at", "renewal_at", "terms"]
      required := ["title"]
      searchFields := ["title", "status"]
      references := [("contact_id", .contact), ("account_id", .businessAccount)] }),
  ("subscriptions", {
      model := .subscription, module := "sales", readPermission := "orders:read",
      writePermission := "orders:write"
      fields := ["contact_id", "account_id", "catalog_item_id", "status", "quantity", "unit_price",
        "currency", "billing_interval", "started_at", "next_billing_at", "cancelled_at", "notes"]
      searchFields := ["status", "billing_interval"]
      references := [("contact_id", .contact), ("account_id", .businessAccount), ("catalog_item_id", .catalogItem)]
      defaultSort := "started_at" }),
  ("invoices", {
      model := .invoice, module := "finance", readPermission := "finance:read",
      writePermission := "finance:write"
      fields := ["contact_id", "order_id", "number", "status", "currency", "subtotal", "tax", "total",
        "due_at", "paid_at", "notes"]
      required := ["number"]
      searchFields := ["number", "status", "notes"]
      references := [("contact_id", .contact), ("order_id", .businessOrder)] }),
  ("invoice-items", {
      model := .invoiceItem, module := "finance", readPermission := "finance:read",
      writePermission := "finance:write"
      fields := ["invoice_id", "catalog_item_id", "description", "quantity", "unit_price", "discount",
        "tax_rate"]
      required := ["invoice_id", "description"]
      searchFields := ["description"]
      references := [("invoice_id", .invoice), ("catalog_item_id", .catalogItem)] }),
  ("payments", {
      model := .payment, module := "finance", readPermission := "finance:read",
      writePermission := "finance:write"
      fields := ["contact_id", "invoice_id", "order_id", "direction", "method", "provider", "reference",
        "status", "amount", "currency", "paid_at", "notes"]
      searchFields := ["method", "provider", "reference", "status"]
      references := [("contact_id", .contact), ("invoice_id", .invoice), ("order_id", .businessOrder)]
      defaultSort := "paid_at" }),
  ("expenses", {
      model := .expense, module := "finance", readPermission := "finance:read",
      writePermission := "finance:write"
      fields := ["vendor", "category", "amount", "currency", "status", "incurred_at", "notes"]
      required := ["vendor"]
      searchFields := ["vendor", "category", "status"]
      defaultSort := "incurred_at" }),
  ("financial-accounts", {
      model := .financialAccount, module := "finance", readPermission := "finance:read",
      writePermission := "finance:write"
      fields := ["code", "name", "account_type", "currency", "opening_balance", "active", "notes"]
      required := ["name"]
      searchFields := ["code", "name", "account_type"] }),
  ("ledger", {
      model := .ledgerEntry, module := "finance", readPermission := "finance:read",
      writePermission := "finance:write"
      fields := ["financial_account_id", "counterparty", "category", "debit", "credit", "currency",
        "occurred_at", "source_type", "source_id", "memo"]
      searchFields := ["counterparty", "category", "source_type", "memo"]
      references := [("financial_account_id", .financialAccount)]
      defaultSort := "occurred_at" }),
  ("budgets", {
      model := .budget, module := "finance", readPermission := "finance:read",
      writePermission := "finance:write"
      fields := ["name", "category", "period_start", "period_end", "amount", "spent", "currency",
        "status", "notes"]
      required := ["name", "period_start", "period_end"]
      searchFields := ["name", "category", "status"]
      defaultSort := "period_start" }),
  ("suppliers", {
      model := .supplier, module := "suppliers", readPermission := "suppliers:read",
      writePermission := "suppliers:write"
      fields := ["name", "email", "phone", "website", "status", "lead_time_days", "minimum_order_value",
        "currency", "notes"]
      required := ["name"]
      searchFields := ["name", "email", "status"] }),
  ("purchase-orders", {
      model := .purchaseOrder, module := "suppliers", readPermission := "suppliers:read",
      writePermission := "suppliers:write"
      fields := ["supplier_id", "reference", "status", "currency", "subtotal", "shipping_cost", "total",
        "expected_at", "received_at", "notes"]
      required := ["reference"]
      searchFields := ["reference", "status"]
      references := [("supplier_id", .supplier)] }),
  ("purchase-order-items", {
      model := .purchaseOrderItem, module := "suppliers", readPermission := "suppliers:read",
      writePermission := "suppliers:write"
      fields := ["purchase_order_id", "catalog_item_id", "description", "quantity", "unit_cost",
        "tax_rate", "received_quantity"]
      required := ["purchase_order_id", "description"]
      searchFields := ["description"]
      references := [("purchase_order_id", .purchaseOrder), ("catalog_item_id", .catalogItem)] }),
  ("fulfillments", {
      model := .fulfillment, module := "fulfillment", readPermission := "fulfillment:read",
      writePermission := "fulfillment:write"
      fields := ["order_id", "supplier_id", "method", "status", "carrier", "tracking_number",
        "fulfillment_cost", "shipped_at", "delivered_at", "notes"]
      required := ["order_id"]
      searchFields := ["status", "carrier", "tracking_number", "method"]
      references := [("order_id", .businessOrder), ("supplier_id", .supplier)] }),
  ("returns", {
      model := .returnRecord, module := "fulfillment", readPermission := "fulfillment:read",
      writePermission := "fulfillment:write"
      fields := ["order_id", "fulfillment_id", "status", "reason", "refund_amount", "currency",
        "received_back", "notes"]
      required := ["order_id"]
      searchFields := ["status", "reason"]
      references := [("order_id", .businessOrder), ("fulfillment_id", .fulfillment)] }),
  ("projects", {
      model := .project, module := "projects", readPermission := "projects:read",
      writePermission := "projects:write"
      fields := ["contact_id", "code", "name", "project_type", "status", "owner", "starts_at", "due_at",
        "budget", "spent", "description"]
      required := ["name"]
      searchFields := ["code", "name", "project_type", "status", "owner"]
      references := [("contact_id", .contact)] }),
  ("milestones", {
      model := .milestone, module := "projects", readPermission := "projects:read",
      writePermission := "projects:write"
      fields := ["project_id", "title", "status", "owner", "due_at", "completed_at", "description"]
      required := ["project_id", "title"]
      searchFields := ["title", "status", "owner"]
      references := [("project_id", .project)] }),
  ("time-entries", {
      model := .timeEntry, module := "projects", readPermission := "projects:read",
      writePermission := "projects:write"
      fields := ["project_id", "team_member_id", "work_date", "hours", "billable", "hourly_rate",
        "description"]
      searchFields := ["description"]
      references := [("project_id", .project), ("team_member_id", .teamMember)]
      defaultSort := "work_date" }),
  ("assets", {
      model := .asset, module := "operations", readPermission := "operations:read",
      writePermission := "operations:write"
      fields := ["tag", "name", "asset_type", "status", "serial_number", "location", "owner",
        "acquired_at", "acquisition_cost", "next_maintenance_at", "notes"]
      required := ["name"]
      searchFields := ["tag", "name", "asset_type", "status", "serial_number", "location"] }),
  ("maintenance", {
      model := .maintenanceRecord, module := "operations", readPermission := "operations:read",
      writePermission := "operations:write"
      fields := ["asset_id", "title", "status", "scheduled_at", "completed_at", "cost", "vendor",
        "notes"]
      required := ["asset_id", "title"]
      searchFields := ["title", "status", "vendor"]
      references := [("asset_id", .asset)]
      defaultSort := "scheduled_at" }),
  ("work-orders", {
      model := .workOrder, module := "operations", readPermission := "operations:read",
      writePermission := "operations:write"
      fields := ["project_id", "contact_id", "asset_id", "reference", "title", "status", "priority",
        "assigned_to", "scheduled_start", "scheduled_end", "estimated_cost", "actual_cost", "description"]
      required := ["reference", "title"]
      searchFields := ["reference", "title", "status", "priority", "assigned_to"]
      references := [("project_id", .project), ("contact_id", .contact), ("asset_id", .asset)]
      defaultSort := "scheduled_start" }),
  ("tickets", {
      model := .supportTicket, module := "support", readPermission := "support:read",
      writePermission := "support:write"
      fields := ["contact_id", "subject", "status", "priority", "channel", "assigned_to", "description",
        "resolution", "resolved_at"]
      required := ["subject"]
      searchFields := ["subject", "status", "priority", "channel", "assigned_to"]
      references := [("contact_id", .contact)]
      defaultSort := "opened_at" }),
  ("appointments", {
      model := .appointment, module := "scheduling", readPermission := "appointments:read",
      writePermission := "appointments:write"
      fields := ["contact_id", "title", "starts_at", "ends_at", "status", "assigned_to", "notes"]
      required := ["title", "starts_at"]
      searchFields := ["title", "status", "assigned_to"]
      references := [("contact_id", .contact)]
      defaultSort := "starts_at" }),
  ("tasks", {
      model := .task, module := "tasks", readPermission := "tasks:read",
      writePermission := "tasks:write"
      fields := ["title", "status", "due_at"]
      required := ["title"]
      searchFields := ["title", "status"] }),
  ("team", {
      model := .teamMember, module := "team", readPermission := "team:read",
      writePermission := "team:write"
      fields := ["name", "email", "role", "active"]
      required := ["name"]
      searchFields := ["name", "email", "role"] }),
  ("leave-requests", {
      model := .leaveRequest, module := "team", readPermission := "team:read",
      writePermission := "team:write"
      fields := ["team_member_id", "leave_type", "status", "starts_at", "ends_at", "reason",
        "approved_by"]
      required := ["team_member_id", "starts_at", "ends_at"]
      searchFields := ["leave_type", "status", "approved_by"]
      references := [("team_member_id", .teamMember)]
      defaultSort := "starts_at" }),
  ("documents", {
      model := .businessDocument, module := "documents", readPermission := "documents:read",
      writePermission := "documents:write"
      fields := ["title", "document_type", "content", "status"]
      required := ["title"]
      searchFields := ["title", "document_type", "status"] }),
  ("campaigns", {
      model := .marketingCampaign, module := "marketing", readPermission := "marketing:read",
      writePermission := "marketing:write"
      fields := ["name", "channel", "status", "budget", "spent", "attributed_revenue", "starts_at",
        "ends_at", "notes"]
      required := ["name"]
      searchFields := ["name", "channel", "status"] }),
  ("marketing-content", {
      model := .marketingContent, module := "marketing", readPermission := "marketing:read",
      writePermission := "marketing:write"
      fields := ["campaign_id", "title", "content_type", "channel", "status", "body", "publish_at",
        "external_url", "notes"]
      required := ["title"]
      searchFields := ["title", "content_type", "channel", "status"]
      references := [("campaign_id", .marketingCampaign)]
      defaultSort := "publish_at" }),
  ("risks", {
      model := .riskRecord, module := "compliance", readPermission := "compliance:read",
      writePermission := "compliance:write"
      fields := ["title", "category", "likelihood", "impact", "status", "owner", "mitigation", "due_at"]
      required := ["title"]
      searchFields := ["title", "category", "status", "owner"] }),
  ("incidents", {
      model := .incidentRecord, module := "compliance", readPermission := "compliance:read",
      writePermission := "compliance:write"
      fields := ["title", "incident_type", "severity", "status", "occurred_at", "reported_by", "owner",
        "description", "resolution"]
      required := ["title"]
      searchFields := ["title", "incident_type", "severity", "status", "owner"]
      defaultSort := "occurred_at" }),
  ("audits", {
      model := .auditRecord, module := "compliance", readPermission := "compliance:read",
      writePermission := "compliance:write"
      fields := ["title", "audit_type", "status", "owner", "scheduled_at", "completed_at", "score",
        "findings", "corrective_actions"]
      required := ["title"]
      searchFields := ["title", "audit_type", "status", "owner"]
      defaultSort := "scheduled_at" }),
  ("research-projects", {
      model := .researchProject, module := "research", readPermission := "research:read",
      writePermission := "research:write"
      fields := ["code", "title", "field", "status", "principal_investigator", "starts_at", "ends_at",
        "ethics_status", "funding_source", "objective"]
      required := ["title"]
      searchFields := ["code", "title", "field", "status", "principal_investigator", "ethics_status"] }),
  ("experiments", {
      model := .experiment, module := "research", readPermission := "research:read",
      writePermission := "research:write"
      fields := ["research_project_id", "name", "status", "owner", "started_at", "completed_at",
        "hypothesis", "protocol", "result_summary"]
      required := ["research_project_id", "name"]
      searchFields := ["name", "status", "owner"]
      references := [("research_project_id", .researchProject)] }),
  ("samples", {
      model := .researchSample, module := "research", readPermission := "research:read",
      writePermission := "research:write"
      fields := ["research_project_id", "experiment_id", "sample_code", "sample_type", "status",
        "storage_location", "collected_at", "metadata_json", "notes"]
      required := ["research_project_id", "sample_code"]
      searchFields := ["sample_code", "sample_type", "status", "storage_location"]
      references := [("research_project_id", .researchProject), ("experiment_id", .experiment)] }),
  ("datasets", {
      model := .researchDataset, module := "research", readPermission := "research:read",
      writePermission := "research:write"
      fields := ["research_project_id", "experiment_id", "name", "version", "status", "storage_uri",
        "license", "checksum", "description"]
      required := ["research_project_id", "name"]
      searchFields := ["name", "version", "status", "license"]
      references := [("research_project_id", .researchProject), ("experiment_id", .experiment)] }),
  ("grants", {
      model := .grantRecord, module := "grants", readPermission := "grants:read",
      writePermission := "grants:write"
      fields := ["project_id", "research_project_id", "funder", "program", "reference", "status",
        "amount", "currency", "submitted_at", "awarded_at", "starts_at", "ends_at", "notes"]
      required := ["funder"]
      searchFields := ["funder", "program", "reference", "status"]
      references := [("project_id", .project), ("research_project_id", .researchProject)] }),
  ("integrations", {
      model := .tenantConnector, module := "integrations", readPermission := "integrations:read",
      writePermission := "integrations:manage"
      fields := ["connector_type", "provider", "display_name", "status", "enabled",
        "provider_account_id", "granted_scopes_json", "configuration_json", "health_status",
        "last_health_check", "last_error"]
      required := ["connector_type", "provider", "display_name"]
      searchFields := ["provider", "display_name", "status", "health_status"]
      mutable := false })]

def fieldOptions : List (String × String × List String) := [
  ("organizations", "account_type", ["customer", "prospect", "partner", "vendor", "other"]),
  ("organizations", "status", ["active", "inactive"]),
  ("contacts", "status", ["active", "inactive"]),
  ("leads", "stage", ["new", "qualified", "proposal", "negotiation", "won", "lost"]),
  ("interactions", "interaction_type", ["note", "call", "email", "meeting", "message", "task", "other"]),
  ("catalog", "item_type", ["product", "service", "subscription", "bundle"]),
  ("stock-transfers", "status", ["requested", "approved", "in_transit", "completed", "cancelled"]),
  ("quotes", "status", ["draft", "sent", "accepted", "rejected", "expired"]),
  ("orders", "status", ["draft", "pending", "confirmed", "paid", "fulfilled", "cancelled"]),
  ("contracts", "status", ["draft", "sent", "active", "expired", "terminated"]),
  ("subscriptions", "status", ["trial", "active", "past_due", "paused", "cancelled"]),
  ("subscriptions", "billing_interval", ["weekly", "monthly", "quarterly", "annual", "custom"]),
  ("invoices", "status", ["draft", "sent", "due", "paid", "overdue", "void"]),
  ("payments", "direction", ["incoming", "outgoing"]),
  ("payments", "status", ["pending", "completed", "failed", "refunded", "void"]),
  ("expenses", "status", ["posted", "pending", "void"]),
  ("financial-accounts", "account_type", ["bank", "cash", "receivable", "payable", "income", "expense",
    "asset", "liability", "equity"]),
  ("budgets", "status", ["draft", "active", "closed"]),
  ("suppliers", "status", ["active", "inactive"]),
  ("purchase-orders", "status", ["draft", "approved", "ordered", "partially_received", "received",
    "cancelled"]),
  ("fulfillments", "method", ["in_house", "dropship", "3pl"]),
  ("fulfillments", "status", ["pending", "processing", "shipped", "delivered", "cancelled"]),
  ("returns", "status", ["requested", "approved", "in_transit", "received", "refunded", "rejected"]),
  ("projects", "status", ["planning", "active", "on_hold", "completed", "cancelled"]),
  ("milestones", "status", ["open", "in_progress", "blocked", "done", "cancelled"]),
  ("assets", "status", ["active", "maintenance", "retired", "lost"]),
  ("maintenance", "status", ["scheduled", "in_progress", "completed", "cancelled"]),
  ("work-orders", "status", ["open", "scheduled", "in_progress", "completed", "cancelled"]),
  ("work-orders", "priority", ["low", "normal", "high", "urgent"]),
  ("tickets", "status", ["open", "pending", "resolved", "closed"]),
  ("tickets", "priority", ["low", "normal", "high", "urgent"]),
  ("tickets", "channel", ["manual", "email", "phone", "chat", "social"]),
  ("appointments", "status", ["scheduled", "confirmed", "completed", "cancelled", "no_show"]),
  ("tasks", "status", ["open", "in_progress", "blocked", "done", "cancelled"]),
  ("leave-requests", "status", ["requested", "approved", "rejected", "cancelled"]),
  ("documents", "document_type", ["note", "sop", "policy", "procedure", "contract", "research_protocol",
    "template", "other"]),
  ("documents", "status", ["draft", "active", "archived"]),
  ("campaigns", "status", ["draft", "scheduled", "active", "paused", "completed", "cancelled"]),
  ("marketing-content", "content_type", ["post", "email", "ad", "video", "article", "landing_page",
    "other"]),
  ("marketing-content", "status", ["idea", "draft", "review", "scheduled", "published", "archived"]),
  ("risks", "likelihood", ["low", "medium", "high", "critical"]),
  ("risks", "impact", ["low", "medium", "high", "critical"]),
  ("risks", "status", ["open", "mitigating", "accepted", "closed"]),
  ("incidents", "severity", ["low", "medium", "high", "critical"]),
  ("incidents", "status", ["open", "investigating", "contained", "resolved", "closed"]),
  ("audits", "status", ["planned", "in_progress", "completed", "cancelled"]),
  ("research-projects", "status", ["planning", "active", "paused", "completed", "archived"]),
  ("research-projects", "ethics_status", ["not_required", "pending", "approved", "expired"]),
  ("experiments", "status", ["planned", "running", "paused", "completed", "failed", "archived"]),
  ("samples", "status", ["active", "consumed", "disposed", "lost", "archived"]),
  ("datasets", "status", ["active", "frozen", "published", "archived"]),
  ("grants", "status", ["prospect", "preparing", "submitted", "under_review", "awarded", "declined",
    "closed"])]

def moduleCatalog : List (String × ModuleManifest) := [
  ("dashboard", ⟨"Overview", true, true⟩),
  ("crm", ⟨"CRM", true, false⟩),
  ("catalog", ⟨"Products & Services", true, false⟩),
  ("inventory", ⟨"Inventory & Warehouses", true, false⟩),
  ("sales", ⟨"Sales", true, false⟩),
  ("finance", ⟨"Finance", true, false⟩),
  ("suppliers", ⟨"Procurement", false, false⟩),
  ("fulfillment", ⟨"Fulfillment & Returns", false, false⟩),
  ("projects", ⟨"Projects & Time", true, false⟩),
  ("operations", ⟨"Operations & Assets", false, false⟩),
  ("support", ⟨"Customer Support", false, false⟩),
  ("scheduling", ⟨"Scheduling", true, false⟩),
  ("tasks", ⟨"Tasks", true, false⟩),
  ("team", ⟨"People & Time Off", true, false⟩),
  ("documents", ⟨"Documents & SOPs", true, false⟩),
  ("marketing", ⟨"Marketing", false, false⟩),
  ("compliance", ⟨"Risk & Compliance", false, false⟩),
  ("research", ⟨"Research Lab", false, false⟩),
  ("grants", ⟨"Grants & Funding", false, false⟩),
  ("integrations", ⟨"Integrations", true, false⟩)]

namespace RecordConfig

def find (entity : String) : Option RecordConfig := (entityRegistry.find? (·.1 = entity)).map (·.2)

end RecordConfig

end Operly.Workspace.Records
