import CyberNetizen.Cognition.Context
import CyberNetizen.Lib.JsonText

namespace CyberNetizen.Cognition

inductive UntrustedContentSource
  | userMessage | retrievedContext | attachment
  deriving DecidableEq

def UntrustedContentSource.value : UntrustedContentSource → String
  | .userMessage => "user_message"
  | .retrievedContext => "retrieved_context"
  | .attachment => "attachment"

def escapeMarkup (c : Char) : List Char :=
  if c = '&' then "\\u0026".toList
  else if c = '<' then "\\u003c".toList
  else if c = '>' then "\\u003e".toList
  else [c]

def serializeUntrustedContent (content : String) (source : UntrustedContentSource) : String :=
  let payload := JsonText.text (.dict [("source", .str source.value), ("content", .str content)])
  String.ofList ("<untrusted_context>".toList ++ payload.flatMap escapeMarkup ++
    "</untrusted_context>".toList)

/-- The text under `content` in an object. -/
def contentOf (payload : JsonText.Value) : Option String :=
  match payload.get "content" with
  | some (.str content) => some content
  | _ => none

def inner (chars : List Char) : List Char :=
  (chars.take (chars.length - "</untrusted_context>".length)).drop "<untrusted_context>".length

/-- `read_untrusted_content`: what is no envelope is given back as it is. -/
def readUntrustedContent (repr : JsonText.Repr) (value : String) : String :=
  if "<untrusted_context>".toList <+: value.toList ∧ "</untrusted_context>".toList <:+ value.toList
  then ((JsonText.loads repr (inner value.toList)).bind contentOf).getD value
  else value

end CyberNetizen.Cognition
