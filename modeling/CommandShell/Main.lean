import CommandShell.Machine.Host
import CommandShell.Shell.Console

/-!
# The command line

The shell on the lines of the standard input. Commands run on a machine of their own, which holds the
system's tools and an empty directory to work in.
-/

set_option autoImplicit false

namespace CommandShell.Main

def environment : Variables := .ofList [("PATH", "/usr/bin:/bin"), ("LC_ALL", "C")]

/-- The exit status, which is the one after a crash if the shell comes to no end; what was written on
the standard output, and on the standard error. -/
def session (input : ByteArray) : UInt32 × ByteArray × ByteArray :=
  let (files, directory) := Host.usualFiles.ensureDirectory FileSystem.rootId "/tmp/work"
  let (status, host) :=
    (Host.start files directory input).run (Console.program environment (input.size + 2))
  let (output, errors) := host.writtenFrom 0 0
  ((status.getD crashStatus).toNat.toUInt32, output, errors)

partial def readAll (stream : IO.FS.Stream) (read : ByteArray) : IO ByteArray := do
  let block ← stream.read 65536
  if block.isEmpty then return read else readAll stream (read ++ block)

end CommandShell.Main

def main : IO UInt32 := do
  let input ← CommandShell.Main.readAll (← IO.getStdin) .empty
  let (status, output, errors) := CommandShell.Main.session input
  (← IO.getStdout).write output
  (← IO.getStderr).write errors
  return status
