import KiroProxy.Proxy.FollowupPayloads

/-!
# Flattening a structured tool history

`flattenStructuredToolHistory` of `proxy/tool_history.go`, which narrates the tool turns of a
payload that was built with structured ones.
-/

namespace KiroProxy.FlattenedHistory

open FollowupPayloads GoStrings KiroTypes ToolHistory
open ToolNames (NameMap)

set_option autoImplicit false

def currentPayloadToolResultIDs (payload : KiroPayload) : List GoString :=
  collectToolResultIDs (currentResults payload)

/-- A structured turn beyond the active call that the current message answers. -/
def payloadHasStructuredToolHistory (payload : KiroPayload) : Bool :=
  let lastActive :=
    currentToolResultsMatchLastAssistant payload.history (currentPayloadToolResultIDs payload)
  payload.history.zipIdx.any fun (msg, index) =>
    (hasToolUses msg && !(lastActive && index + 1 == payload.history.length)) ||
      !(toolResults msg).isEmpty

/-- Narration names the tool the way the client knows it. -/
def clientNamed (nameMap : NameMap) (msg : KiroHistoryMessage) : KiroHistoryMessage :=
  { msg with
    assistantResponseMessage := msg.assistantResponseMessage.map fun assistant =>
      { assistant with
        toolUses := assistant.toolUses.map fun use =>
          { use with name := (nameMap.lookup use.name).getD use.name } } }

/-- The payload with narrated tool turns; none where there is nothing to flatten. -/
def flattenStructuredToolHistory (payload : KiroPayload) : Option KiroPayload :=
  if !payloadHasStructuredToolHistory payload then none
  else
    some { payload with
      history := sanitizeKiroHistory (payload.history.map (clientNamed payload.toolNameMap))
        (currentPayloadToolResultIDs payload) }

end KiroProxy.FlattenedHistory
