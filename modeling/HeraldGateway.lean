import HeraldGateway.Intake.Proofs.ScannerProofs
import HeraldGateway.Intake.Proofs.GuaranteesProofs
import HeraldGateway.Gateway.Proofs.IsolationProofs
import HeraldGateway.Gateway.Proofs.UnsubscribingProofs
import HeraldGateway.Delivery.Proofs.DigestsProofs
import HeraldGateway.Delivery.Proofs.FlushingProofs
import HeraldGateway.Delivery.Proofs.DigestPrivacyProofs
import HeraldGateway.Delivery.Proofs.DigestModeProofs
import HeraldGateway.Delivery.Proofs.ProducersProofs
import HeraldGateway.Delivery.Proofs.HardBouncesProofs
import HeraldGateway.Delivery.Proofs.SoftBouncesProofs
import HeraldGateway.Delivery.Proofs.SqsConsumerProofs
import HeraldGateway.Delivery.Proofs.ChannelsProofs
import HeraldGateway.Scheduling.Proofs.CancellationProofs
import HeraldGateway.Scheduling.Proofs.FiringProofs
import HeraldGateway.Scheduling.Proofs.CronProofs
import HeraldGateway.Campaigns.Proofs.LaunchingProofs
import HeraldGateway.Limits.Proofs.OverageProofs
import HeraldGateway.Limits.Proofs.WindowsProofs
import HeraldGateway.Limits.Proofs.BroadcastQuotaProofs
import HeraldGateway.Limits.Proofs.SandboxQuotaProofs
import HeraldGateway.Billing.Proofs.PeriodsProofs
import HeraldGateway.Billing.Proofs.EventsProofs
import HeraldGateway.Billing.Proofs.GuardProofs
import HeraldGateway.Billing.Proofs.ExpiryProofs
import HeraldGateway.Billing.Proofs.CoherenceProofs
import HeraldGateway.Billing.Proofs.ActivationProofs
import HeraldGateway.Auth.Proofs.RevocationProofs
import HeraldGateway.Auth.Proofs.IssuingProofs
import HeraldGateway.Tokens.Proofs.SingleUseProofs
import HeraldGateway.Enclave.Proofs.NotificationKeysProofs
import HeraldGateway.Enclave.Proofs.FramingProofs
import HeraldGateway.Identity.Proofs.CacheProofs
import HeraldGateway.Identity.Proofs.FailoverProofs
import HeraldGateway.Identity.Proofs.BreakerProofs
import HeraldGateway.Webhooks.Proofs.DeliveryProofs
import HeraldGateway.Webhooks.Proofs.ReenablingProofs
import HeraldGateway.Webhooks.Proofs.TerminalProofs
import HeraldGateway.Domains.Proofs.DkimProofs
import HeraldGateway.Domains.Proofs.DnsProofs
import HeraldGateway.Domains.Proofs.ProvisioningProofs
import HeraldGateway.Domains.Proofs.LogosProofs
import HeraldGateway.Domains.Proofs.SelectorProofs
import HeraldGateway.Templates.Proofs.CompiledProofs
import HeraldGateway.Templates.Proofs.FooterProofs
import HeraldGateway.Templates.Proofs.ReviewProofs
import HeraldGateway.Templates.Proofs.MessagesProofs
import HeraldGateway.Templates.Proofs.DefaultsProofs
import HeraldGateway.Templates.Proofs.InertnessProofs
import HeraldGateway.Templates.Proofs.InjectionProofs
import HeraldGateway.Templates.Proofs.VersionsProofs
import HeraldGateway.Templates.Proofs.WaterfallProofs
import HeraldGateway.Receipts.Proofs.ProgressProofs
import HeraldGateway.Tracking.Proofs.ClicksProofs
import HeraldGateway.Telegram.Proofs.BlocksProofs
import HeraldGateway.Telegram.Proofs.MutesProofs
import HeraldGateway.Telegram.Proofs.GroupSetupProofs
import HeraldGateway.Telegram.Proofs.PartsProofs
import HeraldGateway.Telegram.Proofs.ChunksProofs
import HeraldGateway.Formatting.Proofs.LinksProofs
import HeraldGateway.Formatting.Proofs.EscapingProofs
import HeraldGateway.Formatting.Proofs.PlainTextProofs
import HeraldGateway.Formatting.Proofs.SmsProofs
import HeraldGateway.Formatting.Proofs.PreviewsProofs
import HeraldGateway.Logging.Proofs.SanitizingProofs
import HeraldGateway.Templates.Proofs.UrlPolicyProofs
import HeraldGateway.Subscriptions.Proofs.AudienceProofs
