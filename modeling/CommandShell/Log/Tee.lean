/-!
# Writing to several places at once

A tee hands each buffer to its sinks one after the other. A sink may have room for only so many bytes:
it takes what fits, and refuses a buffer of which it can take nothing. The first sink that does not
take the whole buffer ends the write.
-/

set_option autoImplicit false

namespace CommandShell

/-- What has been written to a sink, and for how many bytes more it has room; `none` is no limit. -/
structure Sink where
  content : List UInt8 := []
  room : Option Nat := none
  deriving DecidableEq, Repr

namespace Sink

/-- Takes what fits, and says whether that was the whole buffer. -/
def writeAll (sink : Sink) (buffer : List UInt8) : Sink × Bool :=
  match sink.room with
  | none => ({ sink with content := sink.content ++ buffer }, true)
  | some room =>
    ({ content := sink.content ++ buffer.take room, room := some (room - buffer.length) },
      buffer.length ≤ room)

end Sink

inductive TeeError where
  | full
  deriving DecidableEq, Repr

def TeeError.message : TeeError → String
  | .full => "full"

namespace Tee

def write (buffer : List UInt8) : List Sink → List Sink × Except TeeError Nat
  | [] => ([], .ok buffer.length)
  | sink :: rest =>
    match sink.writeAll buffer with
    | (sink, true) =>
      let (rest, result) := write buffer rest
      (sink :: rest, result)
    | (sink, false) => (sink :: rest, .error .full)

def writeEach (sinks : List Sink) : List (List UInt8) → List (Except TeeError Nat × List Sink)
  | [] => []
  | buffer :: rest =>
    let (sinks, result) := write buffer sinks
    (result, sinks) :: writeEach sinks rest

end Tee

end CommandShell
