import KeyValueServer.Proofs.Server.Placement
import KeyValueServer.Proofs.Session

/-!
# Turns of a session

A turn takes a session from one place to another. `Turn` lists them all: the passages of an
unchanged session through the loop and the queues, and what each kind of job makes of its session,
of the socket, of the store and of the counters. What else happens to a session is that its
connection ends.

The rules only mention the session and what it meets. That the steps of a server take its sessions
through such turns, and through nothing else, is proved where the steps are.
-/

namespace KeyValueServer

/-- What a session meets in its turns. -/
structure Scene where
  /-- The socket of its connection. -/
  socket : Socket
  store : Store
  traffic : Traffic

/-- What the session of a connection meets in a server. -/
def Server.scene (server : Server) (id : ConnId) : Scene :=
  ⟨server.socket id, server.store, server.traffic⟩

/-- The passages of a session that stays as it is. -/
inductive Passage (session : Session) : Place → Place → Prop
  | admitted : Passage session .added .parkedRead
  | wantsMore : Passage session .readMore .parkedRead
  | wantsNext (empty : session.input = []) : Passage session .rearm .parkedRead
  | hasNext (filled : session.input ≠ []) : Passage session .rearm (.queued .readRegistered)
  | wantsRoom : Passage session .awaitWritable .parkedWrite
  | readable : Passage session .parkedRead (.queued .readRegistered)
  | writable : Passage session .parkedWrite (.queued .writePending)
  | started (stage : Stage) : Passage session (.queued stage) (.running stage)

/-- The turns of a session on a server whose requests have at most `limit` bytes. -/
inductive Turn (limit : Nat) : Holding → Scene → Holding → Scene → Prop
  /-- The session goes on unchanged. -/
  | passed (session : Session) (scene : Scene) (before after : Place)
      (passage : Passage session before after) :
      Turn limit (before, session) scene (after, session) scene
  /-- Reading shows that the connection is of no further use. -/
  | lost (session filled : Session) (scene : Scene) (error : ConnectionError) (socket : Socket)
      (read : session.fill (limit + 1) scene.socket = (.error error, filled, socket)) :
      Turn limit (.running .readRegistered, session) scene (.removed, filled)
        { scene with socket := socket }
  /-- The request at the front of the input is incomplete. -/
  | short (session filled : Session) (scene : Scene) (count : Nat) (socket : Socket)
      (read : session.fill (limit + 1) scene.socket = (.ok count, filled, socket))
      (incomplete : Request.decode limit filled.input = .incomplete)
      (small : filled.input.length ≤ limit) :
      Turn limit (.running .readRegistered, session) scene (.readMore, filled)
        { scene with socket := socket, traffic := scene.traffic.received count.toUInt64 }
  /-- The request at the front of the input is incomplete and already too large. -/
  | oversized (session filled : Session) (scene : Scene) (count : Nat) (socket : Socket)
      (read : session.fill (limit + 1) scene.socket = (.ok count, filled, socket))
      (incomplete : Request.decode limit filled.input = .incomplete)
      (large : limit < filled.input.length) :
      Turn limit (.running .readRegistered, session) scene
        (.queued .processing, filled.reject (.tooLarge filled.input.length limit))
        { scene with socket := socket, traffic := scene.traffic.received count.toUInt64 }
  /-- The input does not begin with a request. -/
  | malformed (session filled : Session) (scene : Scene) (count : Nat) (socket : Socket)
      (error : Request.Error)
      (read : session.fill (limit + 1) scene.socket = (.ok count, filled, socket))
      (refused : Request.decode limit filled.input = .refused error) :
      Turn limit (.running .readRegistered, session) scene
        (.queued .processing, filled.reject error)
        { scene with socket := socket, traffic := scene.traffic.received count.toUInt64 }
  /-- A request is taken from the front of the input. -/
  | decoded (session filled : Session) (scene : Scene) (count : Nat) (socket : Socket)
      (request : Value) (next : Request.Cursor)
      (read : session.fill (limit + 1) scene.socket = (.ok count, filled, socket))
      (complete : Request.decode limit filled.input = .complete request next) :
      Turn limit (.running .readRegistered, session) scene
        (.queued .processing, { filled with input := next.ahead, command := some (.ok request) })
        { scene with socket := socket, traffic := scene.traffic.received count.toUInt64 }
  /-- A request is executed and answered. -/
  | executed (session : Session) (scene : Scene) (request : Value)
      (stored : session.command = some (.ok request)) :
      Turn limit (.running .processing, session) scene
        (.queued .writePending,
          { session with command := none }.queueReply (Command.execute scene.store request).1)
        { scene with
          store := (Command.execute scene.store request).2
          traffic := scene.traffic.executed 1 }
  /-- Input that is no request is answered. -/
  | refused (session : Session) (scene : Scene) (error : Request.Error)
      (stored : session.command = some (.error error)) :
      Turn limit (.running .processing, session) scene
        (.queued .writePending,
          (if error.isFatal then
            { session with command := none }.discardInput.closeWhenWritten
          else { session with command := none }.discardInput).queueReply (Server.refusal error))
        { scene with traffic := scene.traffic.refused 1 }
  /-- Writing shows that the connection is of no further use. -/
  | broken (session flushed : Session) (scene : Scene) (error : ConnectionError) (socket : Socket)
      (written : session.flush scene.socket = (.error error, flushed, socket)) :
      Turn limit (.running .writePending, session) scene (.removed, flushed)
        { scene with socket := socket }
  /-- The socket takes no more output for now. -/
  | blocked (session flushed : Session) (scene : Scene) (count : Nat) (socket : Socket)
      (written : session.flush scene.socket = (.ok (.blocked count), flushed, socket)) :
      Turn limit (.running .writePending, session) scene (.awaitWritable, flushed)
        { scene with socket := socket, traffic := scene.traffic.sent count.toUInt64 }
  /-- The last output of a connection is written. -/
  | ended (session flushed : Session) (scene : Scene) (count : Nat) (socket : Socket)
      (written : session.flush scene.socket = (.ok (.done count), flushed, socket))
      (closing : flushed.closeAfterWrite = true) :
      Turn limit (.running .writePending, session) scene (.removed, flushed)
        { scene with socket := socket, traffic := scene.traffic.sent count.toUInt64 }
  /-- All output is written, and the connection goes on. -/
  | answered (session flushed : Session) (scene : Scene) (count : Nat) (socket : Socket)
      (written : session.flush scene.socket = (.ok (.done count), flushed, socket))
      (goesOn : flushed.closeAfterWrite = false) :
      Turn limit (.running .writePending, session) scene (.rearm, flushed)
        { scene with socket := socket, traffic := scene.traffic.sent count.toUInt64 }

end KeyValueServer
