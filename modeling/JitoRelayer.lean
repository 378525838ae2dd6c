import JitoRelayer.Basic
import JitoRelayer.Ofac
import JitoRelayer.Rpc.LoadBalancer
import JitoRelayer.Rpc.Selection
import JitoRelayer.Relayer.ScheduleCache
import JitoRelayer.Relayer.ScheduleRefresh
import JitoRelayer.Relayer.Forward
import JitoRelayer.Relayer.HealthManager
import JitoRelayer.Relayer.EventLoop
import JitoRelayer.Relayer.Routing
import JitoRelayer.Relayer.Delivery
import JitoRelayer.Relayer.Fanout
import JitoRelayer.Relayer.Metrics
import JitoRelayer.Relayer.Provenance
import JitoRelayer.Relayer.Counters
import JitoRelayer.SlotPipeline
import JitoRelayer.Auth.Challenges
import JitoRelayer.Auth.Service
import JitoRelayer.Auth.Soundness
import JitoRelayer.Auth.Lifecycle
import JitoRelayer.Auth.Capacity
import JitoRelayer.Relayer.TpuConfigs
import JitoRelayer.LookupTables
import JitoRelayer.StakedNodes
import JitoRelayer.FetchStage
import JitoRelayer.Auth.Calls
