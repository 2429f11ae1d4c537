import KiroProxy.Json

/-!
# The Kiro payload

The request types of `proxy/kiro.go`. Fields the upstream request does not carry
are kept where the translator reads them.
-/

namespace KiroProxy.KiroTypes

set_option autoImplicit false

structure KiroToolUse where
  toolUseID : GoString
  name : GoString
  input : JsonFields

structure KiroResultContent where
  text : GoString
  deriving DecidableEq

structure KiroToolResult where
  toolUseID : GoString
  content : List KiroResultContent
  status : GoString
  deriving DecidableEq

structure KiroImage where
  format : GoString
  bytes : GoString
  deriving DecidableEq

structure KiroDocument where
  format : GoString
  name : GoString
  bytes : GoString
  deriving DecidableEq

structure KiroToolWrapper where
  name : GoString
  description : GoString
  inputSchema : Json

structure UserInputMessageContext where
  tools : List KiroToolWrapper
  toolResults : List KiroToolResult

structure KiroUserInputMessage where
  content : GoString
  modelID : GoString
  origin : GoString
  images : List KiroImage
  documents : List KiroDocument
  userInputMessageContext : Option UserInputMessageContext

structure KiroAssistantResponseMessage where
  content : GoString
  toolUses : List KiroToolUse

structure KiroHistoryMessage where
  userInputMessage : Option KiroUserInputMessage
  assistantResponseMessage : Option KiroAssistantResponseMessage

end KiroProxy.KiroTypes
