import CommandShell.Log.Logger

/-!
# Background jobs

The table lists the children that were started in the background, in the order in which they were
added. A new job gets the lowest index that no listed job has. A job leaves the table when its child is
collected, which is reported, or when the child turns out to be no child any more, which is not.
-/

set_option autoImplicit false

namespace CommandShell

structure Job where
  process : Int
  index : Nat
  command : String
  deriving DecidableEq, Repr

def Job.text (job : Job) : String :=
  "[" ++ toString job.index ++ "] " ++ toString job.process ++ " " ++ job.command

structure Completion where
  process : Int
  status : Int
  deriving DecidableEq, Repr

def backgroundedMessage (process : Int) : String := "Backgrounded: " ++ toString process

def Completion.message (c : Completion) : String :=
  "Completed: " ++ toString c.process ++ " (" ++ toString c.status ++ ")"

structure JobTable where
  jobs : List Job := []
  deriving DecidableEq, Repr

namespace JobTable

/-- The lowest index that no job has. One of the first `length + 1` is free. -/
def freeIndex (table : JobTable) : Nat :=
  ((List.range' 1 (table.jobs.length + 1)).find? fun index =>
    !table.jobs.any fun job => job.index == index).getD 0

def add (table : JobTable) (process : Int) (command : String) : JobTable × Nat :=
  (⟨table.jobs ++ [⟨process, table.freeIndex, command⟩]⟩, table.freeIndex)

def reapEach (logger : Option Logger) : List Job → Program (List Completion × List Job)
  | [] => pure ([], [])
  | job :: rest => do
    match ← Program.perform (.poll job.process) with
    | .ok notice =>
      match notice.status? with
      | some status =>
        Program.reportLine (Completion.message ⟨job.process, status⟩)
        let (completed, running) ← reapEach logger rest
        return (⟨job.process, status⟩ :: completed, running)
      | none =>
        let (completed, running) ← reapEach logger rest
        return (completed, job :: running)
    | .error e =>
      if e = .noChild then
        Logger.warn logger ("后台任务 " ++ job.text ++ " 已不是子进程，移出任务表")
        reapEach logger rest
      else
        Logger.error logger ("回收后台任务 " ++ job.text ++ " 失败: " ++ e.text)
        let (completed, running) ← reapEach logger rest
        return (completed, job :: running)

def reap (logger : Option Logger) (table : JobTable) : Program (List Completion × JobTable) := do
  let (completed, running) ← reapEach logger table.jobs
  return (completed, ⟨running⟩)

def awaitEach (logger : Option Logger) : List Job → Program (List Completion)
  | [] => pure []
  | job :: rest => do
    match ← Program.waitFor job.process with
    | .ok ending =>
      Program.reportLine (Completion.message ⟨job.process, ending.status⟩)
      let completed ← awaitEach logger rest
      return ⟨job.process, ending.status⟩ :: completed
    | .error e =>
      if e = .noChild then
        Logger.warn logger ("后台任务 " ++ job.text ++ " 已不是子进程")
      else
        Logger.error logger ("等待后台任务 " ++ job.text ++ " 失败: waitpid: " ++ e.text)
      awaitEach logger rest

def awaitAll (logger : Option Logger) (table : JobTable) :
    Program (List Completion × JobTable) := do
  let completed ← awaitEach logger table.jobs
  return (completed, {})

end JobTable

end CommandShell
