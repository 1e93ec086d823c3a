import Clawbernetes.Library.Runs
import Clawbernetes.Library.FiniteTable
import Clawbernetes.MoltToken.Escrow
import Clawbernetes.MoltToken.Client
import Clawbernetes.MoltMarket.EscrowAccount
import Clawbernetes.MoltToken.Ledger
import Clawbernetes.MoltToken.Interleaving
import Clawbernetes.Library.Bytes
import Clawbernetes.MoltP2p.Announcement
import Clawbernetes.MoltP2p.Message
import Clawbernetes.MoltP2p.RateLimit
import Clawbernetes.MoltP2p.RateWindow
import Clawbernetes.MoltP2p.Broadcast
import Clawbernetes.MoltP2p.SeenCache
import Clawbernetes.MoltP2p.AnnouncementCache
import Clawbernetes.MoltP2p.GossipNode
import Clawbernetes.MoltP2p.GossipNetwork
import Clawbernetes.MoltP2p.Diversity
import Clawbernetes.MoltP2p.ConnectionPool
import Clawbernetes.MoltP2p.DiversityAccount
import Clawbernetes.Library.Addresses
import Clawbernetes.MoltP2p.Tunnel
import Clawbernetes.ClawProto.WorkloadStatus
import Clawbernetes.Library.SortedInsert
import Clawbernetes.ClawMetrics.MetricStore
import Clawbernetes.ClawNetwork.IpAllocator
import Clawbernetes.ClawNetwork.WireGuardMesh
import Clawbernetes.Library.MachineWords
import Clawbernetes.Library.WindowLedger
import Clawbernetes.MoltAgent.SpendingTracker
import Clawbernetes.MoltAgent.BuyerState
import Clawbernetes.MoltAgent.Autonomy
import Clawbernetes.MoltAgent.Provider
import Clawbernetes.MoltAgent.Negotiation
import Clawbernetes.MoltAttestation.Signing
import Clawbernetes.MoltAttestation.Hardware
import Clawbernetes.MoltAttestation.Execution
import Clawbernetes.MoltAttestation.Verification
import Clawbernetes.Library.RecentHistory
import Clawbernetes.MoltAttestation.Challenge
import Clawbernetes.Library.HashChain
import Clawbernetes.MoltAttestation.AttestationChain
import Clawbernetes.ClawProto.WorkloadSpec
import Clawbernetes.ClawNode.NetPolicy
import Clawbernetes.ClawNode.NetPolicyVerdicts
import Clawbernetes.ClawNode.NetworkCommands
import Clawbernetes.ClawNode.NodeState
import Clawbernetes.ClawNode.Runtime
import Clawbernetes.ClawNode.Handlers
import Clawbernetes.ClawNode.WorkloadNet
import Clawbernetes.ClawNode.WorkloadCommands
import Clawbernetes.ClawNode.DnatRules
import Clawbernetes.ClawNode.ServiceDiscovery
import Clawbernetes.ClawNode.ServiceRouting
import Clawbernetes.ClawNode.Stores
import Clawbernetes.ClawNode.Autoscale
import Clawbernetes.Library.Interleaving
import Clawbernetes.ClawNode.Volumes
import Clawbernetes.ClawNode.Secrets
import Clawbernetes.ClawNode.Deploy
import Clawbernetes.ClawNode.DeployRecords
import Clawbernetes.ClawNode.DeployPaused
import Clawbernetes.Library.Custody
import Clawbernetes.ClawNode.DeployInterleaving
import Clawbernetes.ClawNode.DeployOrphans
import Clawbernetes.MoltMarket.Payment
import Clawbernetes.MoltMarket.EscrowGuards
import Clawbernetes.MoltMarket.OrderBook
import Clawbernetes.ClawPersist.JsonStore
import Clawbernetes.ClawScheduler.SnapshotStore
import Clawbernetes.ClawScheduler.Alerts
import Clawbernetes.ClawScheduler.Stores
import Clawbernetes.ClawNode.SchedulerCommands
import Clawbernetes.ClawCompute.ContainerConfig
import Clawbernetes.ClawCompute.DockerRuntime
import Clawbernetes.ClawNode.DockerContainers
import Clawbernetes.ClawNode.DockerDaemon
import Clawbernetes.ClawNode.ContainerSettings
import Clawbernetes.ClawNode.FailedLaunches
import Clawbernetes.Library.Rounding
import Clawbernetes.Library.CheckedWords
import Clawbernetes.MoltMarket.Settlement
import Clawbernetes.Library.Decimals
import Clawbernetes.MoltToken.FeeSplit
import Clawbernetes.MoltMarket.OrderRanking
import Clawbernetes.Library.Results
import Clawbernetes.MoltCore.Amount
import Clawbernetes.MoltP2p.AnnounceChecks
import Clawbernetes.MoltP2p.CacheQuery
import Clawbernetes.MoltP2p.WireFormat
import Clawbernetes.ClawProto.Selector
import Clawbernetes.Library.LastMaximum
import Clawbernetes.ClawMetrics.PushOrder
import Clawbernetes.ClawNetwork.PoolExhaustion
import Clawbernetes.MoltP2p.ProviderSearch
import Clawbernetes.MoltAgent.PolicyEvaluator
import Clawbernetes.MoltAgent.ExactArithmetic
import Clawbernetes.MoltAgent.CounterOffers
import Clawbernetes.MoltAgent.OfferSelection
import Clawbernetes.MoltAgent.BidSelection
import Clawbernetes.ClawProto.CelExpression
import Clawbernetes.Library.TextSearch
import Clawbernetes.ClawProto.SelectorReading
import Clawbernetes.ClawProto.SelectorPieces
import Clawbernetes.ClawProto.SelectorMeaning
import Clawbernetes.MoltAttestation.CheckpointChain
import Clawbernetes.MoltAttestation.RateLimits
import Clawbernetes.Library.WeightedShare
import Clawbernetes.MoltAttestation.TrustScore
import Clawbernetes.ClawNode.GpuDemand
import Clawbernetes.Library.NthCounters
import Clawbernetes.ClawNode.RoundRobin
import Clawbernetes.ClawNode.PolicyCompilation
import Clawbernetes.ClawNode.GeneratedRules
import Clawbernetes.ClawNode.Mesh
import Clawbernetes.ClawNode.RollingUpdate
import Clawbernetes.ClawNode.Policies
import Clawbernetes.ClawNode.MemoryText
import Clawbernetes.ClawCompute.ResourceLimits
import Clawbernetes.Library.ByteReads
import Clawbernetes.MoltP2p.Stun
import Clawbernetes.ClawCompute.Shape
import Clawbernetes.OpenClaw.Placement
import Clawbernetes.ClawMetrics.LookBack
import Clawbernetes.ClawProto.QuotedText
import Clawbernetes.Library.Flooding
import Clawbernetes.MoltP2p.Dissemination
import Clawbernetes.Library.Traces
import Clawbernetes.MoltP2p.NetworkLifecycle
import Clawbernetes.Library.Fields
import Clawbernetes.Library.TextEncodings
import Clawbernetes.ClawIdentity.DeviceIdentity
import Clawbernetes.ClawNode.GatewayHandshake
import Clawbernetes.Library.Backlog
import Clawbernetes.ClawNode.GatewayLoop
import Clawbernetes.ClawNode.ApiKeys
import Clawbernetes.Library.Checkpoints
import Clawbernetes.ClawNode.Configs
import Clawbernetes.ClawNode.IngressProxy
import Clawbernetes.OpenClaw.HealthMonitor
import Clawbernetes.Library.RowMajor
import Clawbernetes.ClawCompute.Tensor
import Clawbernetes.Library.Pipelining
import Clawbernetes.ClawCli.GatewayConnection
import Clawbernetes.ClawCli.RunCommand
import Clawbernetes.Library.Separators
import Clawbernetes.ClawNode.NvidiaSmi
import Clawbernetes.Library.Mailbox
import Clawbernetes.MoltP2p.StunDiscovery
import Clawbernetes.Library.FanOut
import Clawbernetes.OpenClaw.MultiInvoke
