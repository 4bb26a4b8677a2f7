import Workbench.Config.ContentHash
import Workbench.Config.LayerPolicy
import Workbench.Storage.KeyRotation
import Workbench.Sqlite.CreationSafety
import Workbench.Sqlite.ExportOnce
import Workbench.Sqlite.Idempotency
import Workbench.Daemon.CorrectionLoop
import Workbench.Daemon.Decisions
import Workbench.Daemon.Delivery
import Workbench.Daemon.Hub
import Workbench.Daemon.RecoveryExact
import Workbench.Daemon.Replay
import Workbench.Daemon.SessionLock
import Workbench.Daemon.Startup
import Workbench.Acp.Turns
import Workbench.Mcp.Correlation
import Workbench.Mcp.PinnedCode
import Workbench.Mcp.Responses
import Workbench.Openrouter.Charges
import Workbench.Openrouter.Responses
import Workbench.Protocol.RoundTrip
