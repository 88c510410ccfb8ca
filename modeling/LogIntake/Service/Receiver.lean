import LogIntake.Record.Decoder
import LogIntake.Service.Basic

/-!
# Receivers for services

* `ConnectError`: why a service cannot be connected.
* `ReceiverKind`: how the lines of a service are received.
* `Service.receiver`: the receiver for a service, with the connection it is to use.
* `knownTypes`: the types of services that are looked for.
-/

namespace LogIntake

/-- Why a service cannot be connected or disconnected. -/
inductive ConnectError where
  | alreadyConnected (key : ServiceKey)
  | notConnected (key : ServiceKey)
  | format (e : FormatError)
  | unsupportedDecoder (name : String)
  | invalidService (reason : String)
deriving DecidableEq, Repr

/-- The wording of a refusal. -/
def ConnectError.message : ConnectError → String
  | .alreadyConnected key => key.text ++ " is already connected"
  | .notConnected key => key.text ++ " is not connected"
  | .format e => "invalid log format: " ++ e.message
  | .unsupportedDecoder name =>
    "unsupported decoder '" ++ name ++ "': only line-oriented text is supported"
  | .invalidService reason => "invalid service descriptor: " ++ reason

/-! ## Types of services -/

/-- Lines come in datagrams to a group. -/
def multicastType : String := "_log4j-mcast._udp.local."

/-- Lines come in datagrams. -/
def datagramType : String := "_log4j-udp._udp.local."

/-- The service connects to its receivers and sends markup. -/
def markupType : String := "_log4j-xml._tcp.local."

/-- The service connects to its receivers. -/
def appenderType : String := "_log4j-sock._tcp.local."

/-- Receivers connect to a hub of services. -/
def hubType : String := "_log4j-hub._tcp.local."

/-- Receivers connect to the service. -/
def streamType : String := "_log4j._tcp.local."

/-- Lines come in datagrams, from a service of no special kind. -/
def plainDatagramType : String := "_log4j._udp.local."

/-- The types of services that are looked for, in the order in which this begins. -/
def knownTypes : List String :=
  [multicastType, datagramType, markupType, appenderType, hubType, streamType, plainDatagramType]

/-! ## Properties with a meaning -/

/-- The name of what writes the lines. -/
def decoderProperty : String := "decoder"

/-- The media type of the lines. -/
def mediaTypeProperty : String := "contentType"

/-- The address of the file that holds the lines. -/
def fileProperty : String := "fileURI"

/-- The template of the lines. -/
def templateProperty : String := "format"

/-- The group to which datagrams are sent. -/
def groupProperty : String := "multicastAddress"

/-- The timestamp pattern of the lines. -/
def timestampProperty : String := "timestampFormat"

/-! ## Choosing a receiver -/

/-- How the lines of a service are received. -/
inductive ReceiverKind where
  /-- From a file. -/
  | file
  | multicast (group : IpAddress) (port : Nat)
  | datagrams (port : Nat)
  | listen (port : Nat)
  | hub (host : String) (port : Nat)
  | stream (host : String) (port : Nat)
deriving DecidableEq, Repr

/-- The socket of a receiver; a file needs none. -/
def ReceiverKind.socket? : ReceiverKind → Option Socket
  | .file => none
  | .multicast group port => some (.multicast group port)
  | .datagrams port => some (.datagrams port)
  | .listen port => some (.listen port)
  | .hub host port | .stream host port => some (.connect host port)

/-- A receiver and the connection it is to use. -/
structure ReceiverPlan where
  kind : ReceiverKind
  connection : Connection
deriving DecidableEq, Repr

/-- A text with its ASCII letters in lower case. -/
def lowered (s : String) : List Char := s.toList.map Text.asciiLower

/-- The media types of lines of text start so. -/
def plainText : List Char := "text/plain".toList

/-- The name of a decoder of lines holds one of these. -/
def lineMarks : List (List Char) := ["pattern", "line", "text"].map String.toList

namespace Service

/-- Refuses a service that says that it does not send lines of text. -/
def checkDecoder (service : Service) : Except ConnectError Unit := do
  if let some media := service.property? mediaTypeProperty then
    if !plainText.isPrefixOf (lowered media) then throw (.unsupportedDecoder media)
  if let some decoder := service.property? decoderProperty then
    if !lineMarks.any fun mark => Text.hasInfix mark (lowered decoder) then
      throw (.unsupportedDecoder decoder)

/-- How the lines of a service without a file are received. -/
def socketKind (service : Service) : Except ConnectError ReceiverKind :=
  let type := service.key.type
  if type = multicastType then
    match service.property? groupProperty with
    | none => .error (.invalidService (service.key.name ++ " has no " ++ groupProperty))
    | some text =>
      match IpAddress.parse? text with
      | none => .error (.invalidService "multicast address: invalid IP address syntax")
      | some group => .ok (.multicast group service.port)
  else if type = datagramType || type = plainDatagramType then .ok (.datagrams service.port)
  else if type = appenderType || type = markupType then .ok (.listen service.port)
  else if type = hubType then .ok (.hub service.host service.port)
  else if type = streamType then .ok (.stream service.host service.port)
  else .error (.invalidService ("unknown service type '" ++ type ++ "' and no " ++ fileProperty))

/-- The receiver for a service. A file that it names goes before its type; the user may be asked for
the credentials of that file. -/
def receiver (service : Service) : Except ConnectError ReceiverPlan := do
  service.checkDecoder
  let plain : Connection := {}
  let connection : Connection :=
    { logFormat := (service.property? templateProperty).getD plain.logFormat
      timestampFormat := (service.property? timestampProperty).getD plain.timestampFormat }
  match service.property? fileProperty with
  | some uri => return ⟨.file, { connection with uri, promptForUser := true }⟩
  | none =>
    let kind ← service.socketKind
    return ⟨kind, { connection with uri := (kind.socket?.map Socket.text).getD "" }⟩

end Service

end LogIntake
