import Tryorama.Model.Value
import Tryorama.Analysis.Records
import Tryorama.Model.Request
import Tryorama.Model.TaggedCodec
import Tryorama.Model.Wire
import Tryorama.Model.Client
import Tryorama.Analysis.Correlation
import Tryorama.Analysis.PendingMap
import Tryorama.Model.LegacyClient
import Tryorama.Analysis.FrameRobustness
import Tryorama.Analysis.Close
import Tryorama.Model.AgentSharing
import Tryorama.Analysis.AgentSharing
import Tryorama.Analysis.WireRoundTrip
import Tryorama.Model.Player
import Tryorama.Analysis.PlayerLifecycle
import Tryorama.Analysis.SignalRouting
import Tryorama.Model.ConductorCalls
import Tryorama.Model.Conductor
import Tryorama.Analysis.AppInterface
import Tryorama.Model.TryCpPlayer
import Tryorama.Analysis.RequestReuse
import Tryorama.Model.InitializeApps
import Tryorama.Analysis.AppInstallation
import Tryorama.Model.EnableApp
import Tryorama.Analysis.CellResolution
import Tryorama.Model.InstallAgentsApps
import Tryorama.Analysis.AgentsApps
import Tryorama.Analysis.InstallPaths
import Tryorama.Analysis.LegacyProtocol
import Tryorama.Analysis.RequestIds
import Tryorama.Model.Orchestrator
import Tryorama.Analysis.ScenarioRun
import Tryorama.Model.ScenarioApi
import Tryorama.Analysis.Players
import Tryorama.Analysis.ConductorAnswers
import Tryorama.Model.ConductorConfigs
import Tryorama.Analysis.Networks
import Tryorama.Model.SignalingServer
import Tryorama.Analysis.SignalingUrl
