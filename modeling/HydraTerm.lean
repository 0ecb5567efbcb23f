import HydraTerm.Browser.AttachRegistry
import HydraTerm.Browser.ChunkReassembler
import HydraTerm.Browser.LayoutCloud
import HydraTerm.Browser.PasteLaws
import HydraTerm.Browser.SendQueueLaws
import HydraTerm.Browser.SyncAgreement
import HydraTerm.Daemon.AttachmentLaws
import HydraTerm.Daemon.OutboundLaws
import HydraTerm.Daemon.SessionMapLaws
import HydraTerm.Daemon.StartLaws
import HydraTerm.Exit.Delivery
import HydraTerm.Extension.LeaseBook
import HydraTerm.Grid.RowStamps
import HydraTerm.Mirror.Attached
import HydraTerm.Remote.ControlAuthority
import HydraTerm.Remote.InputLaws
import HydraTerm.Remote.OutputModes
import HydraTerm.Renderer.Acceptance
import HydraTerm.Renderer.NativePaste
import HydraTerm.Shell.AgentTasks
import HydraTerm.Shell.PaneRegions
import HydraTerm.Shell.Redact
import HydraTerm.Shell.ReleaseLaws
import HydraTerm.Shell.StoredLayouts
import HydraTerm.Shell.TilingLaws
import HydraTerm.Signaling.TerminalStates
