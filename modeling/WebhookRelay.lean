import WebhookRelay.Interleaving
import WebhookRelay.Main
import WebhookRelay.Memory.World
import WebhookRelay.Proofs.Acceptance
import WebhookRelay.Proofs.Change
import WebhookRelay.Proofs.Delivery.FanOut
import WebhookRelay.Proofs.Delivery.Gate
import WebhookRelay.Proofs.Delivery.Notices
import WebhookRelay.Proofs.Delivery.Orphans
import WebhookRelay.Proofs.Delivery.Subscription
import WebhookRelay.Proofs.Forms
import WebhookRelay.Proofs.Http.Accounts
import WebhookRelay.Proofs.Http.Callback
import WebhookRelay.Proofs.Http.Registered
import WebhookRelay.Proofs.Names
import WebhookRelay.Proofs.Order.Outcomes
import WebhookRelay.Proofs.Rest.Addresses
import WebhookRelay.Proofs.Rest.Endings
import WebhookRelay.Proofs.Rest.Links
import WebhookRelay.Proofs.Rest.Origins
import WebhookRelay.Proofs.Rest.Refusals
import WebhookRelay.Proofs.SettingsFile
import WebhookRelay.Proofs.Sync.Abort
import WebhookRelay.Proofs.Sync.Drift
import WebhookRelay.Proofs.Sync.Exclusion
import WebhookRelay.Proofs.Sync.Independence
import WebhookRelay.Proofs.Sync.Installation
import WebhookRelay.Proofs.Sync.Presence
import WebhookRelay.Proofs.Sync.Retry
import WebhookRelay.Proofs.Sync.Secrets
import WebhookRelay.Proofs.Sync.Teardown
import WebhookRelay.Proofs.Tokens
import WebhookRelay.Proofs.Traffic.Commuting
import WebhookRelay.Proofs.Traffic.Isolation
import WebhookRelay.Sessions
import WebhookRelay.Sync.Turns
