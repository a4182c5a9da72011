import FlowLint.Json.Value
import FlowLint.Log
import FlowLint.Text.Class

/-!
# Posting messages to a webhook

A message is posted to an address. Without an address, or when delivery fails, the message is
handed over to whoever asked for that instead. What the network does is given from outside, as a
`Delivery`.
-/

namespace FlowLint

/-- What becomes of a request. -/
inductive Delivery where
  | delivered
  /-- The network or the request is at fault. -/
  | failed (text : String)
  /-- Something else is at fault. -/
  | broken (text : String)
  deriving Repr, DecidableEq, Inhabited

/-- A request to a webhook. -/
structure WebRequest where
  url : String
  timeout : Json
  body : Json

/-- Why a message was neither posted nor refused. -/
inductive SendError where
  | unknownAddress (url : String)
  | broken (text : String)
  deriving Repr, DecidableEq, Inhabited

/-- What to tell about such an error. -/
def SendError.message : SendError → String
  | unknownAddress url => "unknown url type: " ++ Json.quotedString url
  | broken text => text

/-- What sending a message did. -/
structure Sending where
  /-- Was the message delivered? -/
  sent : Except SendError Bool
  requests : List WebRequest := []
  notes : List LogEntry := []
  /-- Is the message to be handed over? -/
  handedOver : Bool := false

namespace WebRequest

/-- Without blanks at both ends. -/
def stripped (url : List Char) : List Char :=
  Text.trim url

/-- An address as it is written in a text: in angle brackets or after a mark, blanks around. -/
def unwrapped (url : List Char) : List Char :=
  let url := stripped url
  let url :=
    if url.head? = some '<' && url.getLast? = some '>' then stripped (url.drop 1).dropLast else url
  if url.take 4 = "URL:".toList then stripped (url.drop 4) else url

/-- The address without an empty fragment at its end. -/
def address (url : String) : List Char :=
  let url := unwrapped url.toList
  if url.getLast? = some '#' then url.dropLast else url

/-- Does an address name its scheme? -/
def hasScheme (url : List Char) : Bool :=
  let scheme := url.takeWhile fun c => c != '/' && c != ':'
  !scheme.isEmpty && (url.drop scheme.length).head? = some ':'

/-- The content of a request that posts a message. -/
def content (message : String) : Json :=
  .object [("text", .string message), ("username", .string "Node-RED Queue Monitor"),
    ("icon_emoji", .string ":warning:")]

end WebRequest

/-- A webhook; without an address nothing is posted. -/
structure Webhook where
  url : String := ""
  timeout : Json := .int 10

/-- Post a message. -/
def Webhook.send (w : Webhook) (delivery : Delivery) (message : String) : Sending :=
  if w.url = "" then
    { sent := .ok false, notes := [⟨.info, "No Slack webhook configured; alert not sent"⟩],
      handedOver := true }
  else
    let address := WebRequest.address w.url
    if !WebRequest.hasScheme address then
      { sent := .error (.unknownAddress (String.ofList address)) }
    else
      let requests : List WebRequest :=
        [{ url := String.ofList address, timeout := w.timeout,
           body := WebRequest.content message }]
      match delivery with
      | .delivered => { sent := .ok true, requests }
      | .failed text =>
        { sent := .ok false, requests,
          notes := [⟨.error, "Failed to send Slack message: " ++ text⟩], handedOver := true }
      | .broken text => { sent := .error (.broken text), requests }

end FlowLint
