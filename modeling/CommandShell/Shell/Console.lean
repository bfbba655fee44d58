import CommandShell.Config.EnvFile
import CommandShell.Shell.Session
import CommandShell.Text.Backspace
import CommandShell.Text.Path
import CommandShell.Text.Utf8

/-!
# The shell on its standard input

Starting up reads the settings, makes the directories for the shell's files, opens the log and reads
the history. Then lines are read from the standard input, which is no terminal, until one says `exit`
or the input ends; at last the history is written.
-/

set_option autoImplicit false

namespace CommandShell

def Errno.kindName (e : Errno) : String :=
  (([(1, "PermissionDenied"), (2, "NotFound"), (4, "Interrupted"), (7, "ArgumentListTooLong"),
      (11, "WouldBlock"), (12, "OutOfMemory"), (13, "PermissionDenied"), (16, "ResourceBusy"),
      (17, "AlreadyExists"), (18, "CrossesDevices"), (20, "NotADirectory"), (21, "IsADirectory"),
      (22, "InvalidInput"), (26, "ExecutableFileBusy"), (27, "FileTooLarge"), (28, "StorageFull"),
      (29, "NotSeekable"), (30, "ReadOnlyFilesystem"), (31, "TooManyLinks"), (32, "BrokenPipe"),
      (35, "Deadlock"), (36, "InvalidFilename"), (38, "Unsupported"), (39, "DirectoryNotEmpty"),
      (40, "FilesystemLoop"), (95, "Unsupported"), (98, "AddrInUse"), (99, "AddrNotAvailable"),
      (100, "NetworkDown"), (101, "NetworkUnreachable"), (103, "ConnectionAborted"),
      (104, "ConnectionReset"), (107, "NotConnected"), (110, "TimedOut"), (111, "ConnectionRefused"),
      (113, "HostUnreachable"), (115, "InProgress"), (116, "StaleNetworkFileHandle"),
      (122, "QuotaExceeded")] : List (Nat × String)).lookup
    e.number).getD "Uncategorized"

def Errno.fileText (e : Errno) : String :=
  e.systemText ++ " (os error " ++ toString e.number ++ ")"

def Errno.startText (e : Errno) : String :=
  "Error: Os \x7b code: " ++ toString e.number ++ ", kind: " ++ e.kindName ++ ", message: \"" ++
    e.systemText ++ "\" \x7d"

namespace Program

def isDirectory (path : String) : Program Bool := do
  match ← perform (.fileInfo path) with
  | .ok info => return info.kind = .directory
  | .error _ => return false

def makeDirectories : String → List String → Program (Except Errno Unit)
  | path, above => do
    if path.isEmpty then return .ok ()
    match ← perform (.makeDirectory path) with
    | .ok () => return .ok ()
    | .error e =>
      if e ≠ .noSuchFile then
        return if ← isDirectory path then .ok () else .error e
      match above with
      | [] => return .error e
      | parent :: rest =>
        match ← makeDirectories parent rest with
        | .error e => return .error e
        | .ok () =>
          match ← perform (.makeDirectory path) with
          | .ok () => return .ok ()
          | .error e => return if ← isDirectory path then .ok () else .error e

def findFile (name : String) : List String → Program (Option String)
  | [] => return none
  | directory :: rest => do
    let path := Path.join directory name
    match ← perform (.fileInfo path) with
    | .ok info => if info.kind = .regular then return some path else findFile name rest
    | .error e => if e = .noSuchFile then findFile name rest else return none

end Program

namespace Console

def envFileName : String := ".env.development"

def loadEnvironment (environment : Variables) : Program Variables := do
  match ← Program.perform .directory with
  | .error _ => return environment
  | .ok directory =>
    match ← Program.findFile envFileName (directory :: Path.above directory) with
    | none => return environment
    | some path =>
      match ← Program.readFile path with
      | .error _ => return environment
      | .ok content => return EnvFile.load environment (Text.readLines content).1

def openLog (config : Config) : Program (Except Errno Logger) := do
  match ← Program.makeDirectories config.logDirectory (Path.above config.logDirectory) with
  | .error e => return .error e
  | .ok () =>
    let today := (Moment.ofSeconds (← Program.perform .now)).date
    let path := Path.join config.logDirectory ("bsh_" ++ today ++ ".log")
    match ← Program.perform (.openFile path .append) with
    | .error e => return .error e
    | .ok file =>
      let _ ← Program.perform (.closeOnExec file)
      return .ok { level := .ofName config.logLevel, file }

def loadHistory (logger : Option Logger) (path : String) : Program History := do
  let failed (reason : String) := Logger.warn logger ("无法加载历史记录: " ++ path ++ " " ++ reason)
  match ← Program.readFile path with
  | .error e =>
    failed e.fileText
    return {}
  | .ok content =>
    let (lines, broken) := Text.readLines content
    let (history, bad) := History.ofLines lines
    bad.forM fun line => Logger.always logger .warn ("bad escaped line: " ++ line)
    if broken then
      failed "stream did not contain valid UTF-8"
      return history
    else return { history with fresh := 0 }

def saveHistory (logger : Option Logger) (path : String) (history : History) : Program Unit := do
  if history.fresh = 0 then return
  match ← Program.writeFile path history.text with
  | .ok () => return
  | .error e => Logger.error logger ("保存历史记录失败: " ++ e.fileText)

def plainTerminals : List String := ["dumb", "cons25", "emacs"]

def showsPrompt (environment : Variables) : Bool :=
  match environment.get? "TERM" with
  | some terminal => plainTerminals.contains terminal.toLower
  | none => false

end Console

structure Console where
  session : Session
  ahead : List UInt8 := []

namespace Console

abbrev Task := StateT Console Program

def onSession {α : Type} (task : Session.Task α) : Task α := fun console => do
  let (result, session) ← task console.session
  return (result, { console with session })

def blockSize : Nat := 8192

inductive Entry where
  | line (text : String)
  | unreadable (reason : String)
  | ended
  deriving DecidableEq, Repr

/-- A line as it counts: without the line end, and with its backspaces applied. -/
def Entry.ofBytes (line : List UInt8) (terminated : Bool) : Entry :=
  match String.fromUTF8? ⟨line.toArray⟩ with
  | none => unreadable "stream did not contain valid UTF-8"
  | some text =>
    let text := if terminated && text.endsWith "\r" then (text.dropEnd 1).toString else text
    .line (Text.applyBackspaces text)

def showPrompt : Task (Option Errno) := do
  let session := (← get).session
  if !showsPrompt session.shell.environment then return none
  match ← (Program.perform (.write 1 session.prompt.toUTF8) : Program _) with
  | .ok () => return none
  | .error e => return if e = .badDescriptor then none else some e

/-- The next line. Blocks are read ahead until one holds a line end. -/
def readLine : Task Entry := do
  if !(← get).ahead.contains Text.newline then
    match ← (Program.perform (.gather 0 (.lines 1 blockSize)) : Program _) with
    | .error e => return .unreadable e.fileText
    | .ok bytes => modify fun console => { console with ahead := console.ahead ++ bytes.toList }
  let ahead := (← get).ahead
  let line := ahead.takeWhile (· != Text.newline)
  match ahead.dropWhile (· != Text.newline) with
  | _ :: rest =>
    modify fun console => { console with ahead := rest }
    return .ofBytes line true
  | [] =>
    modify fun console => { console with ahead := [] }
    return if line.isEmpty then .ended else .ofBytes line false

def readEntry : Task Entry := do
  match ← showPrompt with
  | some e => return .unreadable e.fileText
  | none => readLine

def takeLines : Nat → Task Unit
  | 0 => return
  | rounds + 1 => do
    let _ ← onSession (Session.onShell Shell.reap)
    let session := (← get).session
    let look := session.look
    let logger := session.shell.logger
    match ← readEntry with
    | .ended =>
      Logger.warn logger "接收到 EOF 信号，退出 bsh..."
      Program.printLine ("\n" ++ look.warning (look.message "eof_signal"))
    | .unreadable reason =>
      Logger.error logger ("发生错误: " ++ reason)
      Program.reportLine (look.error (look.message "error") ++ ": " ++ reason)
      takeLines rounds
    | .line text =>
      if Text.trim text = "exit" then
        Program.printLine (look.success (look.message "exit"))
      else
        onSession (Session.enterLine text)
        takeLines rounds

def converse (config : Config) (environment : Variables) (logger : Option Logger) (rounds : Nat) :
    Program Unit := do
  let session := Session.start config environment (wantsColour environment.get?) logger
  let look := session.look
  let _ ← Program.perform (.setDisposition Signal.ofKeys .ignored)
  let history ← loadHistory logger config.historyFile
  Program.printLine (look.success (look.message "welcome"))
  Program.printLine (look.warning (look.message "help"))
  let ((), console) ← takeLines rounds { session := { session with history } }
  saveHistory logger config.historyFile console.session.history
  let pending := console.session.shell.jobs.jobs.length
  if pending > 0 then
    Logger.warn logger ("退出时仍有 " ++ toString pending ++ " 个后台任务未结束")

def makeHistoryDirectory (config : Config) : Program (Except Errno Unit) :=
  match Path.above config.historyFile with
  | [] => return .ok ()
  | parent :: rest => Program.makeDirectories parent rest

def program (environment : Variables) (rounds : Nat) : Program Int := do
  let environment ← loadEnvironment environment
  let config := Config.ofEnvironment environment.get?
  match ← makeHistoryDirectory config with
  | .error e =>
    Program.remark e.startText
    return 1
  | .ok () =>
    match ← openLog config with
    | .error e =>
      Program.remark e.startText
      return 1
    | .ok logger =>
      converse config environment logger rounds
      return 0

end Console

end CommandShell
