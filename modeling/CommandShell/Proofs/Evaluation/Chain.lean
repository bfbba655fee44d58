import CommandShell.Shell.Evaluation

/-!
# Chains as loops

A chain of `&&` and `||` nests to the right, and a skipped operand carries the status on to the
next connective. Read along its right spine it is a loop from left to right: each operand is
evaluated if its connective asks for it after the status so far, and otherwise has no effect.
The operands may be any commands, also those that no line spells.
-/

set_option autoImplicit false

namespace CommandShell

namespace Command

/-- The first operand along the right spine, and each later one after its connective. A command
that is no chain is its own only operand. -/
def operands : Command → Command × List (Connective × Command)
  | andOr op left right => (left, (op, right.operands.1) :: right.operands.2)
  | c => (c, [])

def chain : Command → List (Connective × Command) → Command
  | first, [] => first
  | first, (op, next) :: rest => andOr op first (chain next rest)

def isChain : Command → Bool
  | andOr .. => true
  | _ => false

def lastOperand (c : Command) : Command :=
  (c.operands.1 :: c.operands.2.map Prod.snd).getLast (List.cons_ne_nil _ _)

end Command

namespace Shell

/-- The loop over the operands that are left. It starts with what came of the one before; an error
ends it, and the operands after it are not looked at. -/
def runOperands : List (Connective × Command) → Except ShellError Int →
    Task (Except ShellError Int)
  | _, .error e => pure (.error e)
  | [], .ok status => pure (.ok status)
  | (op, operand) :: rest, .ok status =>
    if (op = .and ∧ status = 0) ∨ (op = .or ∧ status ≠ 0) then do
      let outcome ← operand.evaluate.run
      runOperands rest outcome
    else runOperands rest (.ok status)

end Shell

namespace Command
open Shell

theorem chain_operands (c : Command) : chain c.operands.1 c.operands.2 = c := by
  induction c with
  | andOr op left right _ ih => simp [operands, chain, ih]
  | _ => rfl

theorem lastOperand_andOr (op : Connective) (left right : Command) :
    (andOr op left right).lastOperand = right.lastOperand :=
  List.getLast_cons _

theorem isChain_lastOperand (c : Command) : c.lastOperand.isChain = false := by
  induction c with
  | andOr op left right _ ih => rw [lastOperand_andOr, ih]
  | _ => rfl

theorem proceeds_iff (op : Connective) (status : Int) :
    op.proceeds status = true ↔ (op = .and ∧ status = 0) ∨ (op = .or ∧ status ≠ 0) := by
  cases op <;> simp [Connective.proceeds]

@[simp] theorem runOperands_nil (outcome : Except ShellError Int) :
    runOperands [] outcome = pure outcome := by
  cases outcome <;> rfl

@[simp] theorem runOperands_error (rest : List (Connective × Command)) (e : ShellError) :
    runOperands rest (.error e) = pure (.error e) := by
  cases rest <;> rfl

theorem runOperands_cons (op : Connective) (operand : Command)
    (rest : List (Connective × Command)) (status : Int) :
    runOperands ((op, operand) :: rest) (.ok status) =
      if op.proceeds status then operand.evaluate.run >>= runOperands rest
      else runOperands rest (.ok status) := by
  simp only [runOperands, proceeds_iff]

theorem run_evaluateFrom (c : Command) :
    (∀ status, (c.evaluateFrom (some status)).run = runOperands c.operands.2 (.ok status)) ∧
      (c.evaluateFrom none).run = c.operands.1.evaluate.run >>= runOperands c.operands.2 := by
  induction c with
  | andOr op left right _ ih =>
    obtain ⟨carried, evaluated⟩ := ih
    -- The connective chooses between the two halves of the hypothesis about the right side.
    have tail (status : Int) :
        (right.evaluateFrom (if op.proceeds status then none else some status)).run =
          runOperands ((op, right.operands.1) :: right.operands.2) (.ok status) := by
      rw [runOperands_cons]
      cases op.proceeds status with
      | true => exact evaluated
      | false => exact carried status
    constructor
    · intro status
      simpa only [evaluateFrom, pure_bind, operands] using tail status
    · simp only [evaluateFrom, operands, ExceptT.run_bind]
      change left.evaluate.run >>= _ = _
      congr 1
      funext outcome
      cases outcome with
      | error e => simp
      | ok status => exact tail status
  | simple | subshell | pipe | ended | list =>
    refine ⟨fun status => rfl, ?_⟩
    simp only [operands, evaluate]
    exact (bind_pure _).symm.trans (by congr 1; funext outcome; simp)

/-- Evaluating a command runs the loop over the operands along its right spine: the same calls to
the system in the same order, the same shell and the same result, whatever the system replies. The
spine loses nothing, and its last operand is no chain. -/
theorem run_evaluate_eq_loop (c : Command) :
    chain c.operands.1 c.operands.2 = c ∧ c.lastOperand.isChain = false ∧
      c.evaluate.run = (do
        let outcome ← c.operands.1.evaluate.run
        runOperands c.operands.2 outcome) :=
  ⟨chain_operands c, isChain_lastOperand c, (run_evaluateFrom c).2⟩

end Command

end CommandShell
