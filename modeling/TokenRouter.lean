import TokenRouter.ForStd.Table
import TokenRouter.ForStd.Run
import TokenRouter.Common
import TokenRouter.Model.Tenant
import TokenRouter.Model.UsageLedger
import TokenRouter.Relay.Info
import TokenRouter.Model.DB
import TokenRouter.Service.TenantCredit
import TokenRouter.Service.TenantStatement
import TokenRouter.Model.UsageRecord
import TokenRouter.Service.UsageRecord
import TokenRouter.Spec.TenantCases
import TokenRouter.Spec.UsageCases
import TokenRouter.Spec.TenantRuns
import TokenRouter.Spec.CreditBuckets
import TokenRouter.Spec.BilledOnce
import TokenRouter.Spec.UnbilledExact
import TokenRouter.Model.Quota
import TokenRouter.Service.BillingSession
import TokenRouter.Spec.FundingDebit
import TokenRouter.Spec.SessionSteps
import TokenRouter.Spec.SessionOpen
import TokenRouter.Spec.BillingConservation
import TokenRouter.Service.TenantBillingSession
import TokenRouter.Spec.TenantSessionCases
import TokenRouter.Spec.MixedSplit
import TokenRouter.Spec.CreditMoves
import TokenRouter.Spec.SessionCredit
import TokenRouter.Spec.CreditPool
import TokenRouter.Spec.UsageAggregate
import TokenRouter.Service.UsageOutbox
import TokenRouter.Spec.UsageExactlyOnce
import TokenRouter.Spec.UsageKeys
import TokenRouter.Spec.StatementLifecycle
import TokenRouter.Service.TenantConfig
import TokenRouter.Spec.ConfigRace
import TokenRouter.Service.SubscriptionRefund
import TokenRouter.Spec.RefundOnce
import TokenRouter.Service.SubscriptionRace
import TokenRouter.Spec.SubscriptionUsage
import TokenRouter.Model.Subscription
import TokenRouter.Spec.GroupCases
import TokenRouter.Spec.GroupElevation
import TokenRouter.Model.PaymentOrder
import TokenRouter.Model.BatchUpdate
import TokenRouter.Spec.PaymentOnce
import TokenRouter.Spec.BatchRefinement
import TokenRouter.Service.TextQuota
import TokenRouter.Spec.SellCost
import TokenRouter.Model.Task
import TokenRouter.Service.TaskPolling
import TokenRouter.Spec.TaskBillingOnce
import TokenRouter.Spec.TaskRefund
import TokenRouter.Model.SupplyDecision
import TokenRouter.Model.SupplyActionPlan
import TokenRouter.Model.Supplier
import TokenRouter.Model.SupplierReview
import TokenRouter.Model.SupplierPosture
import TokenRouter.Model.SupplierEvaluation
import TokenRouter.Spec.SupplyReview
import TokenRouter.Spec.PlanLifecycle
import TokenRouter.Spec.SupplierApply
import TokenRouter.Types
import TokenRouter.Model.Channel
import TokenRouter.Model.ChannelCache
import TokenRouter.Service.Channel
import TokenRouter.Spec.KeyStatus
import TokenRouter.Spec.OperatorDecision
import TokenRouter.Spec.DisableStands
import TokenRouter.Model.Ability
import TokenRouter.Spec.AbilityProjection
import TokenRouter.ForStd.Window
import TokenRouter.Common.RateLimit
import TokenRouter.Spec.SlidingWindow
import TokenRouter.Middleware.ModelRateLimit
import TokenRouter.Spec.RateLimitHandlers
import TokenRouter.ForStd.RefreshRace
import TokenRouter.Model.SupplyCapacity
import TokenRouter.Model.SupplyPrepaidLot
import TokenRouter.Spec.DerivedColumns
import TokenRouter.Model.SettlementStatement
import TokenRouter.Spec.SettlementReconcile
import TokenRouter.Service.ChannelSelect
import TokenRouter.Middleware.Distributor
import TokenRouter.Relay.ChannelMeta
import TokenRouter.Relay.HeaderOverride
import TokenRouter.Controller.Relay
import TokenRouter.Spec.GroupBilling
import TokenRouter.Spec.AttemptIsolation
import TokenRouter.Spec.RetryWalk
import TokenRouter.Spec.HeaderIsolation
import TokenRouter.Dto
import TokenRouter.ForStd.Keyed
import TokenRouter.Relay.ClaudeToOpenAI
import TokenRouter.Spec.ClaudeCompletion
import TokenRouter.Model.TokenRow
import TokenRouter.Spec.TokenEdits
import TokenRouter.Service.Convert
import TokenRouter.Spec.UsageConversion
import TokenRouter.Spec.GeminiCompletion
import TokenRouter.Model.Redemption
import TokenRouter.Spec.RedeemOnce
import TokenRouter.Model.UseData
import TokenRouter.Spec.UseDataSums
import TokenRouter.Service.Quota
import TokenRouter.Service.ViolationFee
import TokenRouter.Spec.SideCharge
import TokenRouter.Service.RealtimeQuota
import TokenRouter.Spec.BillingSettled
import TokenRouter.Spec.RealtimeOnce
import TokenRouter.Model.TokenCache
import TokenRouter.Spec.TokenRevocation
import TokenRouter.Spec.ManualTopUp
import TokenRouter.Relay.ChatViaResponses
import TokenRouter.Spec.SubscriptionCharge
import TokenRouter.Spec.RequestCharge
import TokenRouter.Service.SessionFaults
import TokenRouter.Spec.SessionAtomic
import TokenRouter.Model.SupplyActionExecution
import TokenRouter.Spec.ActionExecution
import TokenRouter.Spec.TenantSessionFaults
import TokenRouter.ForStd.Civil
import TokenRouter.Model.ResetSchedule
import TokenRouter.Spec.ResetTermination
import TokenRouter.Spec.ResetIndependence
import TokenRouter.ForStd.Split
import TokenRouter.Setting.StatusCodeRanges
import TokenRouter.Web.HttpStatusCodeRules
import TokenRouter.Spec.StatusCodeRules
import TokenRouter.Common.Json
import TokenRouter.Model.Option
import TokenRouter.Spec.OptionRejection
import TokenRouter.ForStd.WeightedPick
import TokenRouter.Model.AbilityQuery
import TokenRouter.Model.RouteCache
import TokenRouter.Spec.WeightedDraws
import TokenRouter.Spec.CacheIndex
import TokenRouter.Model.RoutePreference
import TokenRouter.Spec.PreferenceActivation
import TokenRouter.ForStd.FirstRanked
import TokenRouter.Model.SupplyRoutingPolicy
import TokenRouter.Spec.RoutingPolicy
import TokenRouter.Service.TieredSettle
import TokenRouter.Spec.TieredTokens
import TokenRouter.Spec.TextConsume
import TokenRouter.ForStd.FloorScale
import TokenRouter.Spec.TaskRatios
import TokenRouter.Service.TaskBilling
import TokenRouter.Spec.SourceMoves
import TokenRouter.Spec.TaskAdjustment
import TokenRouter.Spec.KeyPolling
import TokenRouter.Relay.UpstreamBody
import TokenRouter.Spec.ContentLength
import TokenRouter.ForStd.GroupFold
import TokenRouter.Model.TrafficProfile
import TokenRouter.Spec.TrafficPartition
import TokenRouter.Spec.TelemetryOrder
import TokenRouter.Service.TextCharge
import TokenRouter.Spec.SaneCharge
import TokenRouter.Relay.ParamOverride
import TokenRouter.Spec.PathSyntax
import TokenRouter.Spec.LegacyOverride
import TokenRouter.Spec.PruneObjects
import TokenRouter.Spec.WildcardPaths
import TokenRouter.Pkg.BillingExpr
import TokenRouter.Spec.ExprCache
import TokenRouter.ForStd.Chain
import TokenRouter.Relay.ModelMapped
import TokenRouter.Spec.ModelRedirect
import TokenRouter.Pkg.Cachex
import TokenRouter.Service.ChannelAffinity
import TokenRouter.Spec.AffinityKeys
import TokenRouter.Relay.OaiStream
import TokenRouter.Spec.OaiDelivery
import TokenRouter.Service.ClaudeRequest
import TokenRouter.Spec.ClaudeConversation
import TokenRouter.Service.GeminiRequest
import TokenRouter.Spec.GeminiConversation
import TokenRouter.Spec.ThinkToContent
import TokenRouter.Setting.ToolPrices
import TokenRouter.Spec.ToolPricePrefix
import TokenRouter.Service.EnterpriseApiKey
import TokenRouter.Spec.EnterpriseKeyStatus
import TokenRouter.Pkg.PerfMetrics
import TokenRouter.Spec.PerfConservation
import TokenRouter.Web.Flow
import TokenRouter.Spec.FlowFacets
import TokenRouter.Spec.FlowBalance
import TokenRouter.Spec.FlowMasking
import TokenRouter.Common.SsrfProtection
import TokenRouter.Spec.SsrfSpelling
import TokenRouter.Spec.LoginPolicy
import TokenRouter.Spec.TwoFactorLockout
import TokenRouter.Spec.ResponsesStream
