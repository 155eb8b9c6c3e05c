import KiCore.Team.Coordinator.McpRefresh
import KiCore.Team.Coordinator.RestartGate
import KiCore.Team.Coordinator.Selection
import KiCore.Team.Coordinator.Acknowledge
import KiCore.Team.Coordinator.RetryBudget
import KiCore.Team.Run.Leases
import KiCore.Team.Task.Consistency
import KiCore.Session.Subagents
import KiCore.Session.Flush
import KiCore.Session.LastTerminal
import KiCore.Session.SuspendController
import KiCore.SessionMessage.Delivery
import KiCore.Cron.Fencing
import KiCore.Cron.Exclusive
import KiCore.Cron.Agreement
import KiCore.Cron.Jobs.Update
import KiCore.Sidebar.Pins
import KiCore.Sidebar.Partition
import KiCore.Project.Runtime.Replica
import KiCore.Project.Scm.Convergence
import KiCore.Conversation.Ownership
import KiCore.Agent.Orphans
import KiCore.Agent.TerminalLaw
import KiCore.Agent.TokenValidity
import KiCore.Conversation.ExtraWrites
import KiCore.Conversation.Transcript
import KiCore.Conversation.TurnAccount
import KiCore.Conversation.TurnCancel
import KiCore.Channel.OneConversation
import KiCore.Channel.Answers
import KiCore.Channel.PairingLaw
import KiCore.Channel.PluginLife
import KiCore.Channel.ReconnectLaw
import KiCore.Session.Claude.SubagentFrames
import KiCore.Session.Claude.PendingPerms
import KiCore.Session.Claude.ConfigLaw
import KiCore.Session.Claude.TurnEpochs
import KiCore.Session.Claude.CostLedger
import KiCore.Session.Claude.TitleGen
import KiCore.Session.Codex.SettleOnce
import KiCore.Session.Codex.BlockingRequests
import KiCore.Session.Codex.DispatchLaw
import KiCore.Session.Codex.SettingsLaw
import KiCore.Session.Codex.Permissions
import KiCore.Conversation.ForkLaw
import KiCore.Realtime.ClosedLaw
import KiCore.Auth.TokenLaw
import KiCore.Auth.RootLaw
import KiCore.Auth.AdoptionLaw
import KiCore.Project.Roots.RootsLaw
import KiCore.Extension.BuiltinSkills
import KiCore.Extension.ReloadLaw
import KiCore.Extension.Skills.CatalogLaw
import KiCore.Agent.Acp.ReconcileLaw
import KiCore.Agent.Acp.PermissionLaw
import KiCore.Agent.Aionrs.Content
import KiCore.SessionMessage.RateLimit
import KiCore.SessionMessage.Targets
import KiCore.Project.Containment
import KiCore.Project.Scm.Watch
import KiCore.Sidebar.Reorder
import KiCore.Project.Runtime.Rescan
import KiCore.Messages.PageLaw
import KiCore.Messages.Convergence
import KiCore.Messages.Recovered
import KiCore.Conversation.SendMessageLaw
import KiCore.Session.Apart
import KiCore.Project.FreeName
