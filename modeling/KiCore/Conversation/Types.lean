import Mathlib.Tactic

/-!
# Types that the conversation's modules share
-/

namespace KiCore.Conversation

inductive AgentType where
  | acp
  | openclawGateway
  | nanobot
  | remote
  | aionrs
  | antigravity
  | gemini
  | codex
  deriving DecidableEq

inductive AgentErrorOwnership where
  | aionui
  | userAgent
  | userLlmProvider
  | unknownUpstream
  deriving DecidableEq

inductive AgentErrorCode where
  | aionuiConversationBusy
  | aionuiStreamBroken
  | aionuiStateInconsistent
  | aionuiPermissionError
  | aionuiInternalError
  | workspacePathRuntimeUnavailable
  | userAgentHandshakeFailed
  | userAgentHandshakeTimeout
  | userAgentAcpInitFailed
  | userAgentProtocolMismatch
  | userAgentNotInstalled
  | userAgentStartupFailed
  | userAgentOpenClawGatewayUnreachable
  | userAgentDisconnected
  | userAgentAuthRequired
  | userAgentSessionNotFound
  | userAgentNoPreviousSession
  | userAgentProtocolParseError
  | userAgentInvalidRequest
  | userAgentResourceNotFound
  | userAgentProtocolError
  | userAgentCommandNotFound
  | userAgentMissingEnv
  | userAgentUnsupportedMethod
  | userAgentInvalidParams
  | userLlmProviderAuthFailed
  | userLlmProviderAwsSsoExpired
  | userLlmProviderPermissionDenied
  | userLlmProviderBillingRequired
  | userLlmProviderConfigError
  | userLlmProviderModelNotFound
  | userLlmProviderUnsupportedModel
  | userLlmProviderEndpointNotFound
  | userLlmProviderInvalidRequest
  | userLlmProviderInvalidToolSchema
  | userLlmProviderContextTooLarge
  | userLlmProviderRateLimited
  | userLlmProviderTimeout
  | userLlmProviderNetworkError
  | userLlmProviderEmptyResponse
  | userLlmProviderGatewayError
  | unknownUpstreamError
  deriving DecidableEq

structure AgentStreamErrorData where
  message : String
  code : Option AgentErrorCode
  ownership : Option AgentErrorOwnership
  detail : Option String
  retryable : Option Bool
  deriving DecidableEq

inductive TipType where
  | error
  | info
  | success
  | warning
  deriving DecidableEq

/-- The events of an agent, with the data that the relay reads. `forwarded` stands for those that
the relay passes on and does nothing else with. -/
inductive StreamRelay.AgentStreamEvent where
  | text (content : String)
  | tips (tipType : TipType) (code : Option String)
  | toolCall
  | acpToolCall
  | toolGroup
  | thinking (content : String) (subject : Option String) (status : Option String)
  | plan
  | permission
  | acpPermission
  | ask
  | cronTrigger
  | acpSessionInfo
  | finish
  | error (data : AgentStreamErrorData)
  | segmentBreak
  | backendTurnBound (id : String)
  | workflowProgress (settleOnly : Bool)
  | messageLifecycle
  | acpDialectSignal
  | forwarded
  deriving DecidableEq

end KiCore.Conversation
