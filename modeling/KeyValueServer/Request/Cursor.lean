import KeyValueServer.Request.Error

/-!
# Reading positions

A decoder walks a buffer that may end before the request does. A cursor is a position in such a
buffer together with the bytes that lie ahead of it; `Progress` says how far a decoder came.
-/

namespace KeyValueServer.Request

/-- A position in a buffer: how many bytes lie behind it, and the bytes ahead of it. -/
structure Cursor where
  position : Nat
  ahead : List UInt8
  deriving DecidableEq, Repr

/-- The start of a buffer. -/
def Cursor.start (buffer : List UInt8) : Cursor := ⟨0, buffer⟩

/-- The position `count` bytes further on. -/
def Cursor.skip (cursor : Cursor) (count : Nat) : Cursor :=
  ⟨cursor.position + count, cursor.ahead.drop count⟩

/-- How far a decoder came. -/
inductive Progress (α : Type) where
  /-- The buffer ends before the decision; more bytes may lead to any outcome. -/
  | incomplete
  /-- The bytes are no request. -/
  | refused (error : Error)
  /-- A value was read, and what follows it starts at `next`. -/
  | complete (value : α) (next : Cursor)
  deriving DecidableEq, Repr

/-- Continues behind a value that was read. -/
def Progress.andThen {α β : Type} (progress : Progress α) (followUp : α → Cursor → Progress β) :
    Progress β :=
  match progress with
  | .incomplete => .incomplete
  | .refused error => .refused error
  | .complete value next => followUp value next

end KeyValueServer.Request
