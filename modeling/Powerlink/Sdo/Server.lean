import Powerlink.Sdo.SequenceHandler

/-! # The SDO server

The model of `sdo/server.rs`: a table of connections keyed by client, and one command handler
for the delegated services.  A request creates the connection of its client if there is none,
runs it, and prunes it if it is closed afterwards; when the connection returns an error the
pruning step is skipped.  `tick` runs the connections in key order until one of them has
something to send. -/

namespace Powerlink

/-- `SdoServer`. -/
structure SdoServer (η : Type) where
  connections : SortedMap SdoClientInfo SdoSequenceHandler
  handler : η

namespace SdoServer

variable {σ η : Type}

/-- `SdoServer::with_handler`. -/
def withHandler (handler : η) : SdoServer η := ⟨.empty, handler⟩

/-- `SdoServer::new`. -/
def new : SdoServer DefaultSdoHandler := withHandler {}

/-- One round of the loop of `SdoServer::tick`: the response found so far and the clients to
prune are threaded through the connections. -/
def tickConnection (currentTimeUs : ℕ) (od : ObjectDictionary σ) (clientInfo : SdoClientInfo)
    (handler : SdoSequenceHandler) (acc : Option SdoResponseData × List SdoClientInfo) :
    Except PowerlinkError (Option SdoResponseData × List SdoClientInfo) × SdoSequenceHandler :=
  let prune (h : SdoSequenceHandler) :=
    if h.isClosed then acc.2 ++ [clientInfo] else acc.2
  match acc.1 with
  | some response => (.ok (some response, prune handler), handler)
  | none =>
      match handler.tick currentTimeUs od with
      | (.error e, handler') => (.error e, handler')
      | (.ok response, handler') => (.ok (response, prune handler'), handler')

/-- `SdoServer::tick`. -/
def tick (server : SdoServer η) (currentTimeUs : ℕ) (od : ObjectDictionary σ) :
    Except PowerlinkError (Option SdoResponseData) × SdoServer η :=
  match server.connections.visit (tickConnection currentTimeUs od) (none, []) with
  | (.error e, connections) => (.error e, { server with connections := connections })
  | (.ok (response, clientsToPrune), connections) =>
      (.ok response, { server with connections := connections.eraseAll clientsToPrune })

/-- The connection of a client, new if there is none. -/
def connection (server : SdoServer η) (clientInfo : SdoClientInfo) : SdoSequenceHandler :=
  (server.connections.get? clientInfo).getD (SdoSequenceHandler.new clientInfo)

variable [ObjectDictionaryStorage σ] [SdoCommandHandler σ η]

/-- `SdoServer::handle_request`. -/
def handleRequest (server : SdoServer η) (requestSdoPayload : List UInt8)
    (clientInfo : SdoClientInfo) (od : ObjectDictionary σ) (currentTimeUs : ℕ) :
    Except PowerlinkError SdoResponseData × SdoServer η × ObjectDictionary σ :=
  if requestSdoPayload.length < 4 then (.error .bufferTooShort, server, od)
  else
    let r := (server.connection clientInfo).handleRequest requestSdoPayload od currentTimeUs
      server.handler
    let connections := server.connections.insert clientInfo r.handler
    match r.result with
    | .error e => (.error e, ⟨connections, r.commandHandler⟩, r.od)
    | .ok response =>
        (.ok response,
          ⟨if r.handler.isClosed then connections.erase clientInfo else connections,
            r.commandHandler⟩, r.od)

end SdoServer

end Powerlink
