import KeyValueServer.Proofs.Server.Delivery
import KeyValueServer.Proofs.Server.Replies

/-!
# Replies to refused input

A session whose input was refused holds the reason until a job makes the reply of it. The reply
stands behind all output before it and takes the input with it. From there the session goes through
the places in which it is written for. When the reply is written, a fatal reason closes the
connection, and behind any other one the session is read for again, with nothing left of what it
held.
-/

namespace KeyValueServer

/-- The places of a session that comes back to none of those in which it is read for. -/
def Place.leaves : Place → Bool
  | .removed | .awaitWritable | .parkedWrite | .queued .writePending | .running .writePending =>
    true
  | _ => false

/-- Where a session can be behind the reply to refused input, by the output that is left of it.
`failed` says whether its socket failed. -/
def Place.Follows (error : Request.Error) (failed : Prop) (output : List UInt8) : Place → Prop
  | .queued .writePending | .running .writePending | .awaitWritable | .parkedWrite => output ≠ []
  | .removed => failed ∧ output ≠ [] ∨ error.isFatal = true ∧ output = []
  | .rearm | .parkedRead | .queued .readRegistered | .running .readRegistered =>
    error.isFatal = false ∧ output = []
  | .added | .readMore | .queued .processing | .running .processing => False

namespace Session

variable {limit : Nat} {error : Request.Error} {base gone : List UInt8} {session : Session}

/-- The input of a session was refused, and the reply is still to come. What was sent on the
connection and what is to be sent are `base`. -/
structure Refused (session : Session) (error : Request.Error) (base sent : List UInt8) : Prop where
  command : session.command = some (.error error)
  goesOn : session.closeAfterWrite = false
  total : sent ++ session.output = base

/-- The reply to refused input was made. It stands behind all that was sent or to be sent before,
and nothing stands behind it. -/
structure Replied (session : Session) (error : Request.Error) (base sent : List UInt8) : Prop where
  command : session.command = none
  input : session.input = []
  closing : session.closeAfterWrite = error.isFatal
  total : sent ++ session.output = base ++ (Server.refusal error).encode

/-- A reply to refused input has bytes. -/
theorem encode_refusal_ne_nil (error : Request.Error) : (Server.refusal error).encode ≠ [] := by
  simp [Server.refusal, Value.encode, Value.appendTo, Value.line]

/-- The job that finds refused input makes the reply. -/
theorem Refused.turn {scene later : Scene} {next : Holding}
    (refused : session.Refused error base (gone ++ scene.socket.delivered))
    (turn : Turn limit (.running .processing, session) scene next later) :
    next.2.Replied error base (gone ++ later.socket.delivered) ∧
      next.1 = .queued .writePending ∧ next.2.output ≠ [] ∧ later.store = scene.store := by
  cases turn with
  | passed _ _ _ _ passage => cases passage
  | executed _ _ request stored => cases stored.symm.trans refused.command
  | refused _ _ other stored =>
    obtain rfl : other = error :=
      Except.error.inj (Option.some.inj (stored.symm.trans refused.command))
    have total : gone ++ scene.socket.delivered ++
        (session.output ++ (Server.refusal other).encode) =
          base ++ (Server.refusal other).encode := by
      rw [← List.append_assoc, refused.total]
    have something : session.output ++ (Server.refusal other).encode ≠ [] :=
      List.append_ne_nil_of_right_ne_nil _ (encode_refusal_ne_nil other)
    cases fatal : other.isFatal with
    | true => exact ⟨⟨rfl, rfl, fatal.symm, total⟩, rfl, something, rfl⟩
    | false => exact ⟨⟨rfl, rfl, refused.goesOn.trans fatal.symm, total⟩, rfl, something, rfl⟩

/-- Flushing sends the reply or a part of it. -/
theorem Replied.flushed {flushed : Session} {socket left : Socket}
    {answer : Except ConnectionError Flush}
    (replied : session.Replied error base (gone ++ socket.delivered))
    (written : session.flush socket = (answer, flushed, left)) :
    flushed.Replied error base (gone ++ left.delivered) := by
  have conserved := flush_conserves written
  obtain ⟨rfl, _⟩ := eq_of_flush written
  refine ⟨replied.command, replied.input, replied.closing, ?_⟩
  rw [List.append_assoc, conserved, ← List.append_assoc]
  exact replied.total

/-- A job that writes the reply hands its session on to where it belongs with what is left. -/
theorem Replied.turn {scene later : Scene} {next : Holding}
    (replied : session.Replied error base (gone ++ scene.socket.delivered))
    (turn : Turn limit (.running .writePending, session) scene next later) :
    next.2.Replied error base (gone ++ later.socket.delivered) ∧
      next.1.Follows error
        (∃ failure flushed left, session.flush scene.socket = (.error failure, flushed, left))
        next.2.output ∧ later.store = scene.store := by
  cases turn with
  | passed _ _ _ _ passage => cases passage
  | broken _ flushed _ failure socket written =>
    refine ⟨replied.flushed written, .inl ⟨⟨_, _, _, written⟩, ?_⟩, rfl⟩
    intro nothing
    obtain ⟨count, done⟩ := (flush_done_iff written).mpr nothing
    cases done
  | blocked _ flushed _ count socket written =>
    refine ⟨replied.flushed written, ?_, rfl⟩
    intro nothing
    obtain ⟨count, done⟩ := (flush_done_iff written).mpr nothing
    cases done
  | ended _ flushed _ count socket written closing =>
    have repliedThen := replied.flushed written
    have nothing := (flush_done_iff written).mp ⟨count, rfl⟩
    exact ⟨repliedThen, .inr ⟨repliedThen.closing.symm.trans closing, nothing⟩, rfl⟩
  | answered _ flushed _ count socket written goesOn =>
    have repliedThen := replied.flushed written
    have nothing := (flush_done_iff written).mp ⟨count, rfl⟩
    exact ⟨repliedThen, ⟨repliedThen.closing.symm.trans goesOn, nothing⟩, rfl⟩

/-- What a session reads behind the reply to refused input is judged by itself. -/
theorem Replied.turn_read {scene later : Scene} {next : Holding} {sent : List UInt8}
    (replied : session.Replied error base sent)
    (turn : Turn limit (.running .readRegistered, session) scene next later) :
    next.2.output = session.output ∧ next.2.closeAfterWrite = session.closeAfterWrite ∧
      (next.1 = .removed ∧ next.2.input = (scene.socket.read (limit + 1)).1 ∨
        next.1 = (judge limit (scene.socket.read (limit + 1)).1).place ∧
          (judge limit (scene.socket.read (limit + 1)).1).Made (scene.socket.read (limit + 1)).1
            next.2) := by
  rcases read : session.fill (limit + 1) scene.socket with ⟨answer, filled, left⟩
  have input : filled.input = (scene.socket.read (limit + 1)).1 := by
    rw [(eq_of_fill read).1, replied.input]
    rfl
  have command : filled.command = none := by
    rw [(eq_of_fill read).1]
    exact replied.command
  have output : filled.output = session.output := output_of_fill read
  have closing : filled.closeAfterWrite = session.closeAfterWrite := by
    rw [(eq_of_fill read).1]
  cases answer with
  | error failure =>
    cases turn with
    | passed _ _ _ _ passage => cases passage
    | lost _ _ _ _ _ lost =>
      cases lost.symm.trans read
      exact ⟨output, closing, .inl ⟨rfl, input⟩⟩
    | short _ _ _ _ _ same | oversized _ _ _ _ _ same | malformed _ _ _ _ _ _ same
    | decoded _ _ _ _ _ _ _ same => cases same.symm.trans read
  | ok count =>
    obtain ⟨place, made, sameOutput, sameClosing, _⟩ := turn.judged read command
    rw [input] at place made
    exact ⟨sameOutput.trans output, sameClosing.trans closing, .inr ⟨place, made⟩⟩

end Session

section Places

variable {limit : Nat} {error : Request.Error} {failed later : Prop} {output : List UInt8}
  {session : Session}

/-- No session on its way out is on its way to execution. -/
theorem Place.waits_of_leaves {place : Place} (leaves : place.leaves = true) :
    place.executes = false := by
  cases place with
  | queued stage | running stage =>
    cases stage with
    | processing => cases leaves
    | readRegistered | writePending => rfl
  | added | readMore | rearm | awaitWritable | removed | parkedRead | parkedWrite => rfl

/-- A session that goes on as it is stays among the places that follow. -/
theorem Place.Follows.passage {before after : Place}
    (follows : before.Follows error failed session.output)
    (passage : Passage session before after) : after.Follows error failed session.output := by
  cases passage with
  | admitted | wantsMore => exact follows.elim
  | started stage => cases stage <;> exact follows
  | wantsNext | hasNext | wantsRoom | readable | writable => exact follows

/-- A socket that failed has failed for good. -/
theorem Place.Follows.mono {place : Place} (follows : place.Follows error failed output)
    (implies : failed → later) : place.Follows error later output := by
  cases place with
  | removed => exact follows.imp_left (And.imp_left implies)
  | queued stage => cases stage <;> exact follows
  | running stage => cases stage <;> exact follows
  | added | readMore | rearm | awaitWritable | parkedRead | parkedWrite => exact follows

/-- A session that is to be removed has failed or has nothing left to write. -/
theorem Place.Follows.of_removed {place : Place} (follows : place.Follows error failed output)
    (removed : place = .removed) : failed ∨ error.isFatal = true ∧ output = [] := by
  subst removed
  exact follows.imp_left And.left

/-- Behind a reason that is not fatal a session without output is where it is read for. -/
theorem Place.Follows.awaits {place : Place} (follows : place.Follows error failed output)
    (goesOn : error.isFatal = false) (nothing : output = []) :
    place.expected = some (some .readRegistered) ∧
      place ∈ [.rearm, .parkedRead, .queued .readRegistered, .running .readRegistered] := by
  cases place with
  | rearm | parkedRead => exact ⟨rfl, by decide⟩
  | queued stage =>
    cases stage with
    | readRegistered => exact ⟨rfl, by decide⟩
    | processing => exact follows.elim
    | writePending => exact absurd nothing follows
  | running stage =>
    cases stage with
    | readRegistered => exact ⟨rfl, by decide⟩
    | processing => exact follows.elim
    | writePending => exact absurd nothing follows
  | removed =>
    rcases follows with ⟨_, something⟩ | ⟨fatal, _⟩
    · exact absurd nothing something
    · cases goesOn.symm.trans fatal
  | awaitWritable | parkedWrite => exact absurd nothing follows
  | added | readMore => exact follows.elim

/-- A turn takes a session that is to be closed to none of the places in which it is read for. -/
theorem Turn.leaves {before next : Holding} {scene later : Scene}
    (turn : Turn limit before scene next later)
    (leaves : before.2.closeAfterWrite = true → before.1.leaves = true)
    (closing : next.2.closeAfterWrite = true) : next.1.leaves = true := by
  cases turn with
  | passed session scene before after passage =>
    have left := leaves closing
    cases passage with
    | wantsRoom | writable => rfl
    | started stage => cases stage <;> exact left
    | admitted | wantsMore | wantsNext | hasNext | readable => cases left
  | lost | broken | blocked | ended | executed | refused => rfl
  | short _ _ _ _ _ read | oversized _ _ _ _ _ read | malformed _ _ _ _ _ _ read
  | decoded _ _ _ _ _ _ _ read =>
    obtain ⟨rfl, _⟩ := Session.eq_of_fill read
    cases leaves closing
  | answered _ _ _ _ _ _ goesOn => cases goesOn.symm.trans closing

end Places

namespace Server

variable {server : Server}

/-- What every turn keeps and every new session has holds of all sessions behind a step. -/
theorem Orderly.all_step (orderly : server.Orderly) (property : Holding → Prop)
    (created : ∀ id peer, property (.added, Session.create id peer))
    (turns : ∀ {before next : Holding} {scene later : Scene},
      Turn server.requestLimit before scene next later → property before → property next)
    (all : ∀ holding ∈ server.holdings, property holding) (event : Event) :
    ∀ holding ∈ (server.step event).holdings, property holding := by
  have took {kept : List Holding} {before next : Holding}
      (took : server.Took (server.step event) kept before next) :
      ∀ holding ∈ (server.step event).holdings, property holding := by
    intro holding member
    rcases List.mem_cons.mp (took.arrives.mem_iff.mp member) with rfl | stayed
    · exact turns took.turn (all before (took.leaves.mem_iff.mpr List.mem_cons_self))
    · exact all holding (took.leaves.mem_iff.mpr (List.mem_cons_of_mem _ stayed))
  cases orderly.outcome event with
  | worked _ _ _ _ _ works => exact took works
  | passed _ _ _ _ _ _ passes => exact took passes
  | admitted peer _ arrives =>
    intro holding member
    rcases List.mem_cons.mp (arrives.mem_iff.mp member) with rfl | stayed
    · exact created _ peer
    · exact all holding stayed
  | left _ stays => exact fun holding member => all holding (stays holding member)

/-- A session that is to be closed is in no place in which it is read for, in every run. -/
theorem Orderly.leaves_run (orderly : server.Orderly)
    (leaves : ∀ holding ∈ server.holdings,
      holding.2.closeAfterWrite = true → holding.1.leaves = true) (events : List Event) :
    ∀ holding ∈ (server.run events).holdings,
      holding.2.closeAfterWrite = true → holding.1.leaves = true := by
  induction events generalizing server with
  | nil => exact leaves
  | cons event events inductionHypothesis =>
    have leavesThen := orderly.all_step
      (fun holding => holding.2.closeAfterWrite = true → holding.1.leaves = true)
      (fun _ _ => nofun) Turn.leaves leaves event
    exact inductionHypothesis (orderly.step event) leavesThen

/-- A server that was started has no session that is to be closed. -/
theorem leaves_of_launch {host : Host} {config : Config} {taken : Bool}
    (launched : launch host config taken = .ok server) :
    ∀ holding ∈ server.holdings, holding.2.closeAfterWrite = true → holding.1.leaves = true := by
  obtain ⟨_, store, _, rfl⟩ := eq_fresh_of_launch launched
  exact fun _ member => nomatch member

end Server

end KeyValueServer
