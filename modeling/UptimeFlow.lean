import UptimeFlow.Runs
import UptimeFlow.Chains
import UptimeFlow.Redelivery
import UptimeFlow.Overwrites
import UptimeFlow.Reconcile
import UptimeFlow.Readings
import UptimeFlow.Tables
import UptimeFlow.Effects
import UptimeFlow.Attempts
import UptimeFlow.Js
import UptimeFlow.Bitwise
import UptimeFlow.Numerals
import UptimeFlow.Json
import UptimeFlow.StateMachine
import UptimeFlow.Monitoring.Schema
import UptimeFlow.Monitoring.Dispatch
import UptimeFlow.Monitoring.Pipeline
import UptimeFlow.Monitoring.Incidents
import UptimeFlow.Monitoring.Health
import UptimeFlow.Monitoring.Maintenance
import UptimeFlow.Monitoring.Announce
import UptimeFlow.Monitoring.Retries
import UptimeFlow.Monitoring.Pairing
import UptimeFlow.Monitoring.Interleaving
import UptimeFlow.Monitoring.Pausing
import UptimeFlow.Monitoring.Replays
import UptimeFlow.Alerting.Processor
import UptimeFlow.Integrations.Processor
import UptimeFlow.Scheduling.Scheduler
import UptimeFlow.Scheduling.Deployments
import UptimeFlow.Security.Ssrf
import UptimeFlow.Security.Probes
import UptimeFlow.Security.Quads
import UptimeFlow.Security.Groups
import UptimeFlow.Security.Embedded
import UptimeFlow.StatusPages.Store
import UptimeFlow.StatusPages.Isolation
import UptimeFlow.StatusPages.Domains
import UptimeFlow.Access.Roles
import UptimeFlow.Access.ApiKeys
import UptimeFlow.Billing.Webhook
import UptimeFlow.Billing.Delivery
import UptimeFlow.Billing.Supersession
import UptimeFlow.Billing.Orders
import UptimeFlow.Billing.Plans
import UptimeFlow.Billing.Checkout
import UptimeFlow.Billing.Customers
import UptimeFlow.Billing.Entitlements
import UptimeFlow.Billing.Creations
import UptimeFlow.Billing.Seats
import UptimeFlow.OnCall.Resolve
import UptimeFlow.Turns
import UptimeFlow.OnCall.Rotation
import UptimeFlow.Escalation.Engine
import UptimeFlow.Escalation.Steps
import UptimeFlow.Escalation.Jobs
import UptimeFlow.Escalation.System
import UptimeFlow.Escalation.Halts
import UptimeFlow.Escalation.Termination
import UptimeFlow.Escalation.Rounds
import UptimeFlow.Escalation.Pages
import UptimeFlow.Escalation.Replays
import UptimeFlow.Escalation.Stages
import UptimeFlow.Escalation.Teams
import UptimeFlow.Escalation.Reliance
import UptimeFlow.Escalation.Members
import UptimeFlow.OnCall.Overrides
import UptimeFlow.Past
import UptimeFlow.StatusPages.Hosts
import UptimeFlow.StatusPages.Subscribers
import UptimeFlow.Keyset
import UptimeFlow.Base64url
import UptimeFlow.JsonText
import UptimeFlow.JsonWriting
import UptimeFlow.IsoDate
import UptimeFlow.Shared.Pagination
import UptimeFlow.Monitoring.Listings
import UptimeFlow.Upserts
import UptimeFlow.Grouping
import UptimeFlow.WeightedMeans
import UptimeFlow.Analytics.Days
import UptimeFlow.Analytics.Rollup
import UptimeFlow.Analytics.Reports
import UptimeFlow.Analytics.Agreement
import UptimeFlow.Analytics.Latency
import UptimeFlow.Writes
import UptimeFlow.Trimming
import UptimeFlow.Splitting
import UptimeFlow.Monitors.Schema
import UptimeFlow.Monitors.Service
import UptimeFlow.Monitors.Requests
import UptimeFlow.Monitors.Atomicity
import UptimeFlow.Monitors.Validations
import UptimeFlow.Monitors.Leftovers
import UptimeFlow.Monitors.Headers
import UptimeFlow.Monitors.Form
import UptimeFlow.Monitors.Editing
import UptimeFlow.Monitors.Creating
import UptimeFlow.StatusPages.Form
import UptimeFlow.Organizations.Settings
import UptimeFlow.Security.Requests
import UptimeFlow.Shared.Cursors
import UptimeFlow.Access.Scopes
import UptimeFlow.StatusPages.Hostnames
import UptimeFlow.Monitors.Execution
import UptimeFlow.Monitors.Expiry
import UptimeFlow.Monitors.Registrations
import UptimeFlow.Monitors.Bootstrap
import UptimeFlow.Rfc4180
import UptimeFlow.Exports.Csv
import UptimeFlow.Joining
import UptimeFlow.Monitors.Lookups
import UptimeFlow.Latest
import UptimeFlow.Monitors.Heartbeats
import UptimeFlow.Replacing
import UptimeFlow.JsonEscaping
import UptimeFlow.StatusPages.JsonLd
import UptimeFlow.StatusPages.Ordering
import UptimeFlow.Markup
import UptimeFlow.Notifications.Email
import UptimeFlow.Notifications.Telegram
import UptimeFlow.Weeks
import UptimeFlow.Analytics.Buckets
import UptimeFlow.Handlers
import UptimeFlow.Alerting.Channels
import UptimeFlow.Alerting.Tenancy
import UptimeFlow.Alerting.Deliverable
import UptimeFlow.Retrying
import UptimeFlow.Notifications.Ses
import UptimeFlow.Alerting.Secrecy
import UptimeFlow.Commits
import UptimeFlow.Access.KeyLife
import UptimeFlow.Exclusion
import UptimeFlow.StatusPages.Timeline
import UptimeFlow.Notifications.Webhooks
import UptimeFlow.StatusPages.Edge
import UptimeFlow.Sorting
import UptimeFlow.Analytics.IncidentReport
import UptimeFlow.Analytics.Sla
import UptimeFlow.StatusPages.Editor
