import CommandShell.Proofs.Command.Completeness
import CommandShell.Shell.Evaluation

/-!
# Lines one after the other

Two token lists make one, with a semicolon between them where the first does not end with a
separator of its own. The command that it spells has the second command at the end of the first
one's list, so its tree contains neither of the two; it is evaluated as the first command and then,
unless that was abandoned, the second.
-/

set_option autoImplicit false

namespace CommandShell

def endsItem (tokens : List Token) : Bool :=
  match tokens.getLast? with
  | some token => token.kind = .semicolon || token.kind = .ampersand
  | none => false

def joinLines (xs ys : List Token) : List Token :=
  if endsItem xs then xs ++ ys else xs ++ [.operator .semicolon] ++ ys

namespace Command
open Shell

def followedBy : Command → Command → Command
  | ended sep left, next => list sep left next
  | list sep left right, next => list sep left (right.followedBy next)
  | c, next => list .sequence c next

/-- A list is evaluated item by item, so it does not matter where it is cut. -/
theorem evaluate_followedBy (c next : Command) :
    (c.followedBy next).evaluate = (do let _ ← c.evaluate; next.evaluate) := by
  induction c with
  | ended sep left =>
    cases sep with
    | sequence => rfl
    | background =>
      simp only [followedBy, evaluate, evaluateFrom, bind_assoc, pure_bind]
  | list sep left right _ ih =>
    simp only [evaluate] at ih
    cases sep <;> simp only [followedBy, evaluate, evaluateFrom, bind_assoc, ih]
  | simple | subshell | pipe | andOr => rfl

end Command

namespace Grammar
open Command

def Closed (tokens : List Token) : Prop :=
  ∃ front last, tokens = front ++ [last] ∧ (last.kind = .word ∨ last.kind = .rightParen)

theorem Closed.append {tokens : List Token} (h : Closed tokens) (front : List Token) :
    Closed (front ++ tokens) := by
  obtain ⟨middle, last, rfl, hk⟩ := h
  exact ⟨front ++ middle, last, by simp, hk⟩

theorem Closed.not_endsItem {tokens : List Token} (h : Closed tokens) :
    endsItem tokens = false := by
  obtain ⟨front, last, rfl, hk⟩ := h
  rcases hk with hk | hk <;> simp [endsItem, hk]

theorem endsItem_separator {sep : Separator} {token : Token}
    (h : Separator.ofKind? token.kind = some sep) (front : List Token) :
    endsItem (front ++ [token]) = true := by
  cases hk : token.kind <;> simp_all [endsItem, Separator.ofKind?]

theorem closed_redirects {tokens : List Token} {r : Redirection} (h : Redirects tokens r) :
    Closed tokens := by
  cases h with
  | @mk op file _ _ hk => exact ⟨[op], file, rfl, .inl hk⟩

theorem closed_suffix {first : Token} {tokens : List Token} {arguments : List String}
    {rs : List Redirection} (hk : first.kind = .word ∨ first.kind = .rightParen)
    (h : Suffix tokens arguments rs) : Closed (first :: tokens) := by
  induction h generalizing first with
  | nil => exact ⟨[], first, rfl, hk⟩
  | word hw _ ih => exact (ih (.inl hw)).append [first]
  | @redirection front tokens _ _ _ hr _ ih =>
    obtain ⟨middle, last, rfl, hl⟩ := closed_redirects hr
    have := (ih hl).append (first :: middle)
    simpa using this

theorem closed_of_derives {level : Level} {tokens : List Token} {c : Command}
    (h : Derives level tokens c) (inner : level ≠ .list) : Closed tokens := by
  induction h with
  | simple _ hk _ hs _ => exact (closed_suffix (.inl hk) hs).append _
  | subshell _ _ _ hr hs _ => exact (closed_suffix (.inr hr) hs).append _
  | stage _ ih | pipeline _ ih => exact ih nofun
  | @pipe front _ bar _ _ _ _ _ _ ih =>
    simpa using (ih nofun).append (front ++ [bar])
  | @andOr front _ token _ _ _ _ _ _ _ ih =>
    simpa using (ih nofun).append (front ++ [token])
  | chain | ended | list => exact absurd rfl inner

theorem followedBy_of_derives {level : Level} {tokens : List Token} {c : Command}
    (h : Derives level tokens c) (inner : level ≠ .list) (next : Command) :
    c.followedBy next = .list .sequence c next := by
  induction h with
  | simple | subshell | pipe | andOr => rfl
  | stage _ ih | pipeline _ ih => exact ih nofun
  | chain | ended | list => exact absurd rfl inner

theorem joinLines_append (front : List Token) {back : List Token} (h : back ≠ [])
    (ys : List Token) : joinLines (front ++ back) ys = front ++ joinLines back ys := by
  have ends : endsItem (front ++ back) = endsItem back := by
    simp [endsItem, List.getLast?_eq_some_getLast h]
  cases hb : endsItem back <;> simp [joinLines, ends, hb]

theorem ne_nil_of_derives {level : Level} {tokens : List Token} {c : Command}
    (h : Derives level tokens c) : tokens ≠ [] := by
  induction h <;> simp_all

theorem derives_joinLines {xs ys : List Token} {c next : Command} (h : Derives .list xs c)
    (k : Derives .list ys next) : Derives .list (joinLines xs ys) (c.followedBy next) := by
  generalize hl : Level.list = level at h
  induction h with
  | simple | subshell | stage | pipe | pipeline | andOr => cases hl
  | @chain tokens c hc =>
    rw [followedBy_of_derives hc nofun]
    have open' := (closed_of_derives hc nofun).not_endsItem
    have separated : Separator.ofKind? (Token.operator .semicolon).kind = some .sequence := rfl
    simpa [joinLines, open'] using Derives.list hc separated k
  | @ended front token sep left hc hs _ =>
    simpa [joinLines, endsItem_separator hs, followedBy] using Derives.list hc hs k
  | @list front back token sep left right hc hs hr _ ih =>
    rw [List.append_cons, joinLines_append _ (ne_nil_of_derives hr), List.append_assoc]
    exact .list hc hs (ih rfl)

/-- Where two token lists spell commands, so do the two joined, and their command is evaluated as
the first and then, unless the first was abandoned, as the second: with the same calls to the system
in the same order, the same jobs under the same indexes and texts, the same shell and the same
result, whatever the system replies. -/
theorem evaluate_parse_joinLines {xs ys : List Token} {x y : Command} (hx : parse xs = .ok x)
    (hy : parse ys = .ok y) :
    ∃ z, parse (joinLines xs ys) = .ok z ∧
      z.evaluate.run = (do
        match ← x.evaluate.run with
        | .ok _ => y.evaluate.run
        | .error e => return .error e) := by
  have h := derives_joinLines (derives_of_parse hx) (derives_of_parse hy)
  refine ⟨x.followedBy y, parse_of_derives h, ?_⟩
  rw [evaluate_followedBy, ExceptT.run_bind]
  congr 1
  funext outcome
  cases outcome <;> rfl

/-- `(a ;) | b &` and `cd || c ;`. -/
theorem evaluate_parse_joinLines_background :
    let xs : List Token := [.operator .leftParen, .word "a", .operator .semicolon,
      .operator .rightParen, .operator .pipe, .word "b", .operator .ampersand]
    let ys : List Token := [.word "cd", .operator .disjunction, .word "c", .operator .semicolon]
    let x := Command.ended .background (.pipe
      (.subshell {} (.ended .sequence (.simple { program := "a" }))) (.simple { program := "b" }))
    let y := Command.ended .sequence
      (.andOr .or (.simple { program := "cd" }) (.simple { program := "c" }))
    parse xs = .ok x ∧ parse ys = .ok y ∧
      ∃ z, parse (joinLines xs ys) = .ok z ∧
        z.evaluate.run = (do
          match ← x.evaluate.run with
          | .ok _ => y.evaluate.run
          | .error e => return .error e) := by
  intro xs ys x y
  have hx : parse xs = .ok x := rfl
  have hy : parse ys = .ok y := rfl
  exact ⟨hx, hy, evaluate_parse_joinLines hx hy⟩

end Grammar

end CommandShell
