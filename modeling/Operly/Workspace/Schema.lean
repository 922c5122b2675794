import Mathlib.Data.Fintype.Defs
import Operly.Relational.Tenants

/-! The tables behind the business records of a workspace, as their models declare them. -/

namespace Operly.Workspace.Records
open Relational

/-- The models of the record types, and the two others that refer to one of them. -/
inductive Model where
  | businessAccount | contact | lead | crmInteraction | catalogItem | warehouse | inventoryTransfer
  | quote | quoteItem | businessOrder | orderItem | salesContract | subscription | invoice | invoiceItem
  | payment | expense | financialAccount | ledgerEntry | budget | supplier | purchaseOrder
  | purchaseOrderItem | fulfillment | returnRecord | project | milestone | timeEntry | asset
  | maintenanceRecord | workOrder | supportTicket | appointment | task | teamMember | leaveRequest
  | businessDocument | marketingCampaign | marketingContent | riskRecord | incidentRecord | auditRecord
  | researchProject | experiment | researchSample | researchDataset | grantRecord | tenantConnector
  | inventoryMovement | scheduledJob
  deriving DecidableEq

def models : List Model := [
    .businessAccount, .contact, .lead, .crmInteraction, .catalogItem, .warehouse, .inventoryTransfer,
    .quote, .quoteItem, .businessOrder, .orderItem, .salesContract, .subscription, .invoice,
    .invoiceItem, .payment, .expense, .financialAccount, .ledgerEntry, .budget, .supplier,
    .purchaseOrder, .purchaseOrderItem, .fulfillment, .returnRecord, .project, .milestone, .timeEntry,
    .asset, .maintenanceRecord, .workOrder, .supportTicket, .appointment, .task, .teamMember,
    .leaveRequest, .businessDocument, .marketingCampaign, .marketingContent, .riskRecord,
    .incidentRecord, .auditRecord, .researchProject, .experiment, .researchSample, .researchDataset,
    .grantRecord, .tenantConnector, .inventoryMovement, .scheduledJob]

theorem mem_models (model : Model) : model ∈ models := by
  cases model <;> decide

instance : Fintype Model := ⟨⟨models, by decide⟩, mem_models⟩

inductive ColumnType where
  | boolean
  | integer
  | float
  | dateTime
  | text
  | string (length : Nat)
  deriving DecidableEq

/-- `default=` -/
inductive Initial where
  | nothing
  | value (value : Cell)
  | utcnow
  deriving DecidableEq

structure Column where
  name : String
  type : ColumnType
  nullable : Bool
  initial : Initial

namespace Column

def needed (name : String) (type : ColumnType) : Column := ⟨name, type, false, .nothing⟩

def optional (name : String) (type : ColumnType) : Column := ⟨name, type, true, .nothing⟩

def given (name : String) (type : ColumnType) (value : Cell) : Column := ⟨name, type, false, .value value⟩

def stamped (name : String) : Column := ⟨name, .dateTime, false, .utcnow⟩

def initially (column : Column) (now : Int) : Cell :=
  match column.initial with
  | .nothing => .null
  | .value value => value
  | .utcnow => .moment now

end Column

def columns : Model → List Column
  | .businessAccount => [
      .needed "name" (.string 240), .given "account_type" (.string 60) (.text "customer"),
      .optional "industry" (.string 120), .optional "website" (.string 1000),
      .optional "email" (.string 320), .optional "phone" (.string 80),
      .given "status" (.string 40) (.text "active"), .optional "owner" (.string 200),
      .given "billing_address" .text (.text ""), .given "shipping_address" .text (.text ""),
      .given "notes" .text (.text ""), .stamped "created_at", .stamped "updated_at"]
  | .contact => [
      .needed "name" (.string 200), .optional "email" (.string 320), .optional "phone" (.string 80),
      .optional "company" (.string 200), .given "source" (.string 80) (.text "manual"),
      .given "status" (.string 50) (.text "active"), .given "notes" .text (.text ""), .stamped "created_at"]
  | .lead => [
      .optional "contact_id" (.string 36), .needed "title" (.string 300),
      .given "stage" (.string 50) (.text "new"), .given "value" .float (.float (.finite 0)),
      .optional "assigned_to" (.string 200), .optional "next_action" .text, .stamped "created_at",
      .optional "last_activity_at" .dateTime, .optional "last_contacted_at" .dateTime,
      .optional "next_action_at" .dateTime, .stamped "stage_changed_at"]
  | .crmInteraction => [
      .optional "contact_id" (.string 36), .optional "account_id" (.string 36),
      .optional "lead_id" (.string 36), .given "interaction_type" (.string 60) (.text "note"),
      .given "channel" (.string 60) (.text "manual"), .needed "subject" (.string 300),
      .given "body" .text (.text ""), .optional "owner" (.string 200), .stamped "occurred_at",
      .optional "next_action_at" .dateTime, .stamped "created_at"]
  | .catalogItem => [
      .needed "name" (.string 250), .given "item_type" (.string 30) (.text "product"),
      .optional "sku" (.string 100), .given "price" .float (.float (.finite 0)),
      .given "cost" .float (.float (.finite 0)), .given "stock_qty" .integer (.integer 0),
      .given "reorder_level" .integer (.integer 0), .given "active" .boolean (.boolean true),
      .stamped "created_at"]
  | .warehouse => [
      .needed "name" (.string 220), .needed "code" (.string 60), .given "location" .text (.text ""),
      .given "active" .boolean (.boolean true), .given "notes" .text (.text ""), .stamped "created_at"]
  | .inventoryTransfer => [
      .needed "item_id" (.string 36), .optional "from_warehouse_id" (.string 36),
      .optional "to_warehouse_id" (.string 36), .given "quantity" .float (.float (.finite 0)),
      .given "status" (.string 40) (.text "requested"), .stamped "requested_at",
      .optional "completed_at" .dateTime, .given "notes" .text (.text ""), .stamped "created_at"]
  | .quote => [
      .optional "contact_id" (.string 36), .needed "title" (.string 300),
      .given "status" (.string 50) (.text "draft"), .given "total" .float (.float (.finite 0)),
      .optional "valid_until" .dateTime, .given "notes" .text (.text ""), .stamped "created_at"]
  | .quoteItem => [
      .needed "quote_id" (.string 36), .optional "catalog_item_id" (.string 36),
      .needed "description" (.string 300), .given "quantity" .float (.float (.finite 1)),
      .given "unit_price" .float (.float (.finite 0)), .given "discount" .float (.float (.finite 0)),
      .given "tax_rate" .float (.float (.finite 0)), .stamped "created_at"]
  | .businessOrder => [
      .optional "contact_id" (.string 36), .given "status" (.string 50) (.text "draft"),
      .given "total" .float (.float (.finite 0)), .given "notes" .text (.text ""), .stamped "created_at"]
  | .orderItem => [
      .needed "order_id" (.string 36), .optional "catalog_item_id" (.string 36),
      .needed "description" (.string 300), .given "quantity" .integer (.integer 1),
      .given "unit_price" .float (.float (.finite 0))]
  | .salesContract => [
      .optional "contact_id" (.string 36), .optional "account_id" (.string 36),
      .needed "title" (.string 300), .given "status" (.string 40) (.text "draft"),
      .given "value" .float (.float (.finite 0)), .given "currency" (.string 3) (.text "USD"),
      .optional "starts_at" .dateTime, .optional "ends_at" .dateTime, .optional "renewal_at" .dateTime,
      .given "terms" .text (.text ""), .stamped "created_at", .stamped "updated_at"]
  | .subscription => [
      .optional "contact_id" (.string 36), .optional "account_id" (.string 36),
      .optional "catalog_item_id" (.string 36), .given "status" (.string 40) (.text "active"),
      .given "quantity" .float (.float (.finite 1)), .given "unit_price" .float (.float (.finite 0)),
      .given "currency" (.string 3) (.text "USD"),
      .given "billing_interval" (.string 40) (.text "monthly"), .stamped "started_at",
      .optional "next_billing_at" .dateTime, .optional "cancelled_at" .dateTime,
      .given "notes" .text (.text ""), .stamped "created_at"]
  | .invoice => [
      .optional "contact_id" (.string 36), .optional "order_id" (.string 36),
      .needed "number" (.string 120), .given "status" (.string 40) (.text "draft"),
      .given "currency" (.string 3) (.text "USD"), .given "subtotal" .float (.float (.finite 0)),
      .given "tax" .float (.float (.finite 0)), .given "total" .float (.float (.finite 0)),
      .optional "due_at" .dateTime, .optional "paid_at" .dateTime, .given "notes" .text (.text ""),
      .stamped "created_at", .stamped "updated_at"]
  | .invoiceItem => [
      .needed "invoice_id" (.string 36), .optional "catalog_item_id" (.string 36),
      .needed "description" (.string 300), .given "quantity" .float (.float (.finite 1)),
      .given "unit_price" .float (.float (.finite 0)), .given "discount" .float (.float (.finite 0)),
      .given "tax_rate" .float (.float (.finite 0)), .stamped "created_at"]
  | .payment => [
      .optional "contact_id" (.string 36), .optional "invoice_id" (.string 36),
      .optional "order_id" (.string 36), .given "direction" (.string 20) (.text "incoming"),
      .given "method" (.string 60) (.text "manual"), .optional "provider" (.string 80),
      .optional "reference" (.string 200), .given "status" (.string 40) (.text "completed"),
      .given "amount" .float (.float (.finite 0)), .given "currency" (.string 3) (.text "USD"),
      .stamped "paid_at", .given "notes" .text (.text ""), .stamped "created_at"]
  | .expense => [
      .needed "vendor" (.string 220), .given "category" (.string 100) (.text "general"),
      .given "amount" .float (.float (.finite 0)), .given "currency" (.string 3) (.text "USD"),
      .given "status" (.string 40) (.text "posted"), .stamped "incurred_at",
      .given "notes" .text (.text ""), .stamped "created_at", .stamped "updated_at"]
  | .financialAccount => [
      .optional "code" (.string 40), .needed "name" (.string 220),
      .given "account_type" (.string 60) (.text "bank"), .given "currency" (.string 3) (.text "USD"),
      .given "opening_balance" .float (.float (.finite 0)), .given "active" .boolean (.boolean true),
      .given "notes" .text (.text ""), .stamped "created_at"]
  | .ledgerEntry => [
      .optional "financial_account_id" (.string 36), .optional "counterparty" (.string 240),
      .given "category" (.string 100) (.text "general"), .given "debit" .float (.float (.finite 0)),
      .given "credit" .float (.float (.finite 0)), .given "currency" (.string 3) (.text "USD"),
      .stamped "occurred_at", .optional "source_type" (.string 60), .optional "source_id" (.string 80),
      .given "memo" .text (.text ""), .stamped "created_at"]
  | .budget => [
      .needed "name" (.string 220), .given "category" (.string 100) (.text "general"),
      .needed "period_start" .dateTime, .needed "period_end" .dateTime,
      .given "amount" .float (.float (.finite 0)), .given "spent" .float (.float (.finite 0)),
      .given "currency" (.string 3) (.text "USD"), .given "status" (.string 40) (.text "active"),
      .given "notes" .text (.text ""), .stamped "created_at"]
  | .supplier => [
      .needed "name" (.string 220), .optional "email" (.string 320), .optional "phone" (.string 80),
      .optional "website" (.string 1000), .given "status" (.string 40) (.text "active"),
      .given "lead_time_days" .integer (.integer 0),
      .given "minimum_order_value" .float (.float (.finite 0)),
      .given "currency" (.string 3) (.text "USD"), .given "notes" .text (.text ""), .stamped "created_at",
      .stamped "updated_at"]
  | .purchaseOrder => [
      .optional "supplier_id" (.string 36), .needed "reference" (.string 120),
      .given "status" (.string 40) (.text "draft"), .given "currency" (.string 3) (.text "USD"),
      .given "subtotal" .float (.float (.finite 0)), .given "shipping_cost" .float (.float (.finite 0)),
      .given "total" .float (.float (.finite 0)), .optional "expected_at" .dateTime,
      .optional "received_at" .dateTime, .given "notes" .text (.text ""), .stamped "created_at",
      .stamped "updated_at"]
  | .purchaseOrderItem => [
      .needed "purchase_order_id" (.string 36), .optional "catalog_item_id" (.string 36),
      .needed "description" (.string 300), .given "quantity" .float (.float (.finite 1)),
      .given "unit_cost" .float (.float (.finite 0)), .given "tax_rate" .float (.float (.finite 0)),
      .given "received_quantity" .float (.float (.finite 0)), .stamped "created_at"]
  | .fulfillment => [
      .needed "order_id" (.string 36), .optional "supplier_id" (.string 36),
      .given "method" (.string 40) (.text "in_house"), .given "status" (.string 40) (.text "pending"),
      .optional "carrier" (.string 120), .optional "tracking_number" (.string 200),
      .given "fulfillment_cost" .float (.float (.finite 0)), .optional "shipped_at" .dateTime,
      .optional "delivered_at" .dateTime, .given "notes" .text (.text ""), .stamped "created_at",
      .stamped "updated_at"]
  | .returnRecord => [
      .needed "order_id" (.string 36), .optional "fulfillment_id" (.string 36),
      .given "status" (.string 40) (.text "requested"), .given "reason" (.string 220) (.text ""),
      .given "refund_amount" .float (.float (.finite 0)), .given "currency" (.string 3) (.text "USD"),
      .given "received_back" .boolean (.boolean false), .given "notes" .text (.text ""),
      .stamped "created_at", .stamped "updated_at"]
  | .project => [
      .optional "contact_id" (.string 36), .optional "code" (.string 80), .needed "name" (.string 260),
      .given "project_type" (.string 80) (.text "general"),
      .given "status" (.string 40) (.text "planning"), .optional "owner" (.string 200),
      .optional "starts_at" .dateTime, .optional "due_at" .dateTime,
      .given "budget" .float (.float (.finite 0)), .given "spent" .float (.float (.finite 0)),
      .given "description" .text (.text ""), .stamped "created_at", .stamped "updated_at"]
  | .milestone => [
      .needed "project_id" (.string 36), .needed "title" (.string 260),
      .given "status" (.string 40) (.text "open"), .optional "owner" (.string 200),
      .optional "due_at" .dateTime, .optional "completed_at" .dateTime,
      .given "description" .text (.text ""), .stamped "created_at"]
  | .timeEntry => [
      .optional "project_id" (.string 36), .optional "team_member_id" (.string 36), .stamped "work_date",
      .given "hours" .float (.float (.finite 0)), .given "billable" .boolean (.boolean false),
      .given "hourly_rate" .float (.float (.finite 0)), .given "description" .text (.text ""),
      .stamped "created_at"]
  | .asset => [
      .optional "tag" (.string 100), .needed "name" (.string 240),
      .given "asset_type" (.string 80) (.text "equipment"), .given "status" (.string 40) (.text "active"),
      .optional "serial_number" (.string 160), .optional "location" (.string 240),
      .optional "owner" (.string 200), .optional "acquired_at" .dateTime,
      .given "acquisition_cost" .float (.float (.finite 0)), .optional "next_maintenance_at" .dateTime,
      .given "notes" .text (.text ""), .stamped "created_at"]
  | .maintenanceRecord => [
      .needed "asset_id" (.string 36), .needed "title" (.string 260),
      .given "status" (.string 40) (.text "scheduled"), .optional "scheduled_at" .dateTime,
      .optional "completed_at" .dateTime, .given "cost" .float (.float (.finite 0)),
      .optional "vendor" (.string 220), .given "notes" .text (.text ""), .stamped "created_at"]
  | .workOrder => [
      .optional "project_id" (.string 36), .optional "contact_id" (.string 36),
      .optional "asset_id" (.string 36), .needed "reference" (.string 120), .needed "title" (.string 260),
      .given "status" (.string 40) (.text "open"), .given "priority" (.string 20) (.text "normal"),
      .optional "assigned_to" (.string 200), .optional "scheduled_start" .dateTime,
      .optional "scheduled_end" .dateTime, .given "estimated_cost" .float (.float (.finite 0)),
      .given "actual_cost" .float (.float (.finite 0)), .given "description" .text (.text ""),
      .stamped "created_at"]
  | .supportTicket => [
      .optional "contact_id" (.string 36), .needed "subject" (.string 300),
      .given "status" (.string 40) (.text "open"), .given "priority" (.string 20) (.text "normal"),
      .given "channel" (.string 40) (.text "manual"), .optional "assigned_to" (.string 200),
      .given "description" .text (.text ""), .given "resolution" .text (.text ""), .stamped "opened_at",
      .optional "resolved_at" .dateTime, .stamped "updated_at"]
  | .appointment => [
      .optional "contact_id" (.string 36), .needed "title" (.string 300), .needed "starts_at" .dateTime,
      .optional "ends_at" .dateTime, .given "status" (.string 50) (.text "scheduled"),
      .optional "assigned_to" (.string 200), .given "notes" .text (.text ""), .stamped "created_at"]
  | .task => [
      .optional "owner_user_id" (.string 36), .optional "guild_id" .integer,
      .optional "channel_id" .integer, .optional "creator_id" .integer, .optional "assignee_id" .integer,
      .needed "title" (.string 500), .given "status" (.string 30) (.text "open"),
      .optional "due_at" .dateTime, .stamped "created_at"]
  | .teamMember => [
      .needed "name" (.string 200), .optional "email" (.string 320),
      .given "role" (.string 100) (.text "employee"), .given "active" .boolean (.boolean true),
      .stamped "created_at"]
  | .leaveRequest => [
      .needed "team_member_id" (.string 36), .given "leave_type" (.string 60) (.text "time_off"),
      .given "status" (.string 40) (.text "requested"), .needed "starts_at" .dateTime,
      .needed "ends_at" .dateTime, .given "reason" .text (.text ""), .optional "approved_by" (.string 200),
      .stamped "created_at"]
  | .businessDocument => [
      .needed "title" (.string 300), .given "document_type" (.string 80) (.text "note"),
      .given "content" .text (.text ""), .given "status" (.string 50) (.text "active"),
      .stamped "created_at"]
  | .marketingCampaign => [
      .needed "name" (.string 240), .given "channel" (.string 80) (.text "other"),
      .given "status" (.string 40) (.text "draft"), .given "budget" .float (.float (.finite 0)),
      .given "spent" .float (.float (.finite 0)), .given "attributed_revenue" .float (.float (.finite 0)),
      .optional "starts_at" .dateTime, .optional "ends_at" .dateTime, .given "notes" .text (.text ""),
      .stamped "created_at", .stamped "updated_at"]
  | .marketingContent => [
      .optional "campaign_id" (.string 36), .needed "title" (.string 300),
      .given "content_type" (.string 60) (.text "post"), .given "channel" (.string 80) (.text "other"),
      .given "status" (.string 40) (.text "draft"), .given "body" .text (.text ""),
      .optional "publish_at" .dateTime, .optional "external_url" (.string 1000),
      .given "notes" .text (.text ""), .stamped "created_at", .stamped "updated_at"]
  | .riskRecord => [
      .needed "title" (.string 300), .given "category" (.string 100) (.text "operational"),
      .given "likelihood" (.string 30) (.text "medium"), .given "impact" (.string 30) (.text "medium"),
      .given "status" (.string 40) (.text "open"), .optional "owner" (.string 200),
      .given "mitigation" .text (.text ""), .optional "due_at" .dateTime, .stamped "created_at",
      .stamped "updated_at"]
  | .incidentRecord => [
      .needed "title" (.string 300), .given "incident_type" (.string 100) (.text "operational"),
      .given "severity" (.string 30) (.text "medium"), .given "status" (.string 40) (.text "open"),
      .stamped "occurred_at", .optional "reported_by" (.string 200), .optional "owner" (.string 200),
      .given "description" .text (.text ""), .given "resolution" .text (.text ""), .stamped "created_at",
      .stamped "updated_at"]
  | .auditRecord => [
      .needed "title" (.string 300), .given "audit_type" (.string 100) (.text "internal"),
      .given "status" (.string 40) (.text "planned"), .optional "owner" (.string 200),
      .optional "scheduled_at" .dateTime, .optional "completed_at" .dateTime,
      .given "score" .float (.float (.finite 0)), .given "findings" .text (.text ""),
      .given "corrective_actions" .text (.text ""), .stamped "created_at"]
  | .researchProject => [
      .optional "code" (.string 100), .needed "title" (.string 300), .optional "field" (.string 160),
      .given "status" (.string 40) (.text "planning"), .optional "principal_investigator" (.string 220),
      .optional "starts_at" .dateTime, .optional "ends_at" .dateTime,
      .given "ethics_status" (.string 60) (.text "not_required"),
      .optional "funding_source" (.string 240), .given "objective" .text (.text ""), .stamped "created_at",
      .stamped "updated_at"]
  | .experiment => [
      .needed "research_project_id" (.string 36), .needed "name" (.string 300),
      .given "status" (.string 40) (.text "planned"), .optional "owner" (.string 200),
      .optional "started_at" .dateTime, .optional "completed_at" .dateTime,
      .given "hypothesis" .text (.text ""), .given "protocol" .text (.text ""),
      .given "result_summary" .text (.text ""), .stamped "created_at"]
  | .researchSample => [
      .needed "research_project_id" (.string 36), .optional "experiment_id" (.string 36),
      .needed "sample_code" (.string 120), .given "sample_type" (.string 100) (.text "general"),
      .given "status" (.string 40) (.text "active"), .optional "storage_location" (.string 240),
      .optional "collected_at" .dateTime, .given "metadata_json" .text (.text "\x7b\x7d"),
      .given "notes" .text (.text ""), .stamped "created_at"]
  | .researchDataset => [
      .needed "research_project_id" (.string 36), .optional "experiment_id" (.string 36),
      .needed "name" (.string 300), .given "version" (.string 80) (.text "1"),
      .given "status" (.string 40) (.text "active"), .optional "storage_uri" (.string 1000),
      .optional "license" (.string 120), .optional "checksum" (.string 160),
      .given "description" .text (.text ""), .stamped "created_at"]
  | .grantRecord => [
      .optional "project_id" (.string 36), .optional "research_project_id" (.string 36),
      .needed "funder" (.string 260), .optional "program" (.string 260),
      .optional "reference" (.string 140), .given "status" (.string 40) (.text "prospect"),
      .given "amount" .float (.float (.finite 0)), .given "currency" (.string 3) (.text "USD"),
      .optional "submitted_at" .dateTime, .optional "awarded_at" .dateTime,
      .optional "starts_at" .dateTime, .optional "ends_at" .dateTime, .given "notes" .text (.text ""),
      .stamped "created_at"]
  | .tenantConnector => [
      .needed "connector_type" (.string 60), .needed "provider" (.string 60),
      .needed "display_name" (.string 200), .given "status" (.string 40) (.text "connected"),
      .given "enabled" .boolean (.boolean true), .optional "credential_reference" (.string 36),
      .optional "provider_account_id" (.string 320), .given "granted_scopes_json" .text (.text "[]"),
      .given "configuration_json" .text (.text "\x7b\x7d"),
      .given "health_status" (.string 40) (.text "unknown"), .optional "last_health_check" .dateTime,
      .optional "last_error" .text, .stamped "created_at", .stamped "updated_at"]
  | .inventoryMovement => [
      .needed "item_id" (.string 36), .needed "quantity_change" .integer,
      .given "reason" (.string 200) (.text "adjustment"), .stamped "created_at"]
  | .scheduledJob => [
      .optional "task_id" (.string 36)]

def foreignKeys : Model → List (ForeignKey Model)
  | .lead => [⟨"contact_id", .contact, .noAction⟩]
  | .crmInteraction => [
      ⟨"contact_id", .contact, .setNull⟩, ⟨"account_id", .businessAccount, .setNull⟩,
      ⟨"lead_id", .lead, .setNull⟩]
  | .inventoryTransfer => [
      ⟨"item_id", .catalogItem, .cascade⟩, ⟨"from_warehouse_id", .warehouse, .setNull⟩,
      ⟨"to_warehouse_id", .warehouse, .setNull⟩]
  | .quote => [⟨"contact_id", .contact, .noAction⟩]
  | .quoteItem => [⟨"quote_id", .quote, .cascade⟩, ⟨"catalog_item_id", .catalogItem, .setNull⟩]
  | .businessOrder => [⟨"contact_id", .contact, .noAction⟩]
  | .orderItem => [⟨"order_id", .businessOrder, .noAction⟩, ⟨"catalog_item_id", .catalogItem, .noAction⟩]
  | .salesContract => [⟨"contact_id", .contact, .setNull⟩, ⟨"account_id", .businessAccount, .setNull⟩]
  | .subscription => [
      ⟨"contact_id", .contact, .setNull⟩, ⟨"account_id", .businessAccount, .setNull⟩,
      ⟨"catalog_item_id", .catalogItem, .setNull⟩]
  | .invoice => [⟨"contact_id", .contact, .setNull⟩, ⟨"order_id", .businessOrder, .setNull⟩]
  | .invoiceItem => [⟨"invoice_id", .invoice, .cascade⟩, ⟨"catalog_item_id", .catalogItem, .setNull⟩]
  | .payment => [
      ⟨"contact_id", .contact, .setNull⟩, ⟨"invoice_id", .invoice, .setNull⟩,
      ⟨"order_id", .businessOrder, .setNull⟩]
  | .ledgerEntry => [⟨"financial_account_id", .financialAccount, .setNull⟩]
  | .purchaseOrder => [⟨"supplier_id", .supplier, .setNull⟩]
  | .purchaseOrderItem => [
      ⟨"purchase_order_id", .purchaseOrder, .cascade⟩, ⟨"catalog_item_id", .catalogItem, .setNull⟩]
  | .fulfillment => [⟨"order_id", .businessOrder, .cascade⟩, ⟨"supplier_id", .supplier, .setNull⟩]
  | .returnRecord => [⟨"order_id", .businessOrder, .cascade⟩, ⟨"fulfillment_id", .fulfillment, .setNull⟩]
  | .project => [⟨"contact_id", .contact, .setNull⟩]
  | .milestone => [⟨"project_id", .project, .cascade⟩]
  | .timeEntry => [⟨"project_id", .project, .setNull⟩, ⟨"team_member_id", .teamMember, .setNull⟩]
  | .maintenanceRecord => [⟨"asset_id", .asset, .cascade⟩]
  | .workOrder => [
      ⟨"project_id", .project, .setNull⟩, ⟨"contact_id", .contact, .setNull⟩,
      ⟨"asset_id", .asset, .setNull⟩]
  | .supportTicket => [⟨"contact_id", .contact, .setNull⟩]
  | .appointment => [⟨"contact_id", .contact, .noAction⟩]
  | .leaveRequest => [⟨"team_member_id", .teamMember, .cascade⟩]
  | .marketingContent => [⟨"campaign_id", .marketingCampaign, .setNull⟩]
  | .experiment => [⟨"research_project_id", .researchProject, .cascade⟩]
  | .researchSample => [
      ⟨"research_project_id", .researchProject, .cascade⟩, ⟨"experiment_id", .experiment, .setNull⟩]
  | .researchDataset => [
      ⟨"research_project_id", .researchProject, .cascade⟩, ⟨"experiment_id", .experiment, .setNull⟩]
  | .grantRecord => [
      ⟨"project_id", .project, .setNull⟩, ⟨"research_project_id", .researchProject, .setNull⟩]
  | .inventoryMovement => [⟨"item_id", .catalogItem, .noAction⟩]
  | .scheduledJob => [⟨"task_id", .task, .cascade⟩]
  | _ => []

/-- The columns of each unique constraint besides `tenant_id`, which stands first in all of them. -/
def uniqueConstraints : Model → List (List String)
  | .warehouse => [["code"]]
  | .invoice => [["number"]]
  | .financialAccount => [["code"]]
  | .purchaseOrder => [["reference"]]
  | .project => [["code"]]
  | .asset => [["tag"]]
  | .workOrder => [["reference"]]
  | .researchProject => [["code"]]
  | .researchSample => [["sample_code"]]
  | .researchDataset => [["research_project_id", "name", "version"]]
  | .tenantConnector => [["provider", "provider_account_id"]]
  | _ => []

def requiredColumns (model : Model) : List String :=
  ((columns model).filter fun column => !column.nullable).map Column.name

def schema : Schema Model where
  models := models
  complete := mem_models
  required := requiredColumns
  foreignKeys := foreignKeys
  uniqueConstraints := uniqueConstraints
  shallow := by decide
  nullable := by decide

end Operly.Workspace.Records
