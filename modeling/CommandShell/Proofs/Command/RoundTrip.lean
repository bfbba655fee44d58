import CommandShell.Command.Printer
import CommandShell.Proofs.Command.Completeness
import CommandShell.Proofs.Token.Spelling

/-!
# Displayed commands are read back

The display of a command spells a token list of its own: words stand for themselves, redirections
come after the rest of their stage with the input first, and there are no parentheses but those of
subshells. The grammar derives the command from these tokens if it derives it from any, and the
display is read as exactly these tokens if its words can be quoted.
-/

set_option autoImplicit false

namespace CommandShell

def RedirectOp.kind : RedirectOp → TokenKind
  | .input => .redirectIn
  | .output => .redirectOut
  | .append => .redirectAppend

def Connective.kind : Connective → TokenKind
  | .and => .conjunction
  | .or => .disjunction

def Separator.kind : Separator → TokenKind
  | .sequence => .semicolon
  | .background => .ampersand

def Assignment.token (a : Assignment) : Token := .word (a.name ++ "=" ++ a.value)

def Redirection.tokens (r : Redirection) : List Token :=
  [.operator r.operator.kind, .word r.filename]

namespace StageParts

def redirections (parts : StageParts) : List Redirection :=
  parts.input.toList ++ parts.output.toList

def words (parts : StageParts) : List String :=
  parts.locals.map (·.value) ++ parts.redirections.map (·.filename)

def enclose (parts : StageParts) (work : List Token) : List Token :=
  parts.locals.map Assignment.token ++ work ++ parts.redirections.flatMap Redirection.tokens

end StageParts

namespace Command

def tokens : Command → List Token
  | simple c => c.parts.enclose (c.argv.map Token.word)
  | subshell parts body =>
    parts.enclose (.operator .leftParen :: body.tokens ++ [.operator .rightParen])
  | pipe left right => left.tokens ++ .operator .pipe :: right.tokens
  | andOr op left right => left.tokens ++ .operator op.kind :: right.tokens
  | ended sep left => left.tokens ++ [.operator sep.kind]
  | list sep left right => left.tokens ++ .operator sep.kind :: right.tokens

def words : Command → List String
  | simple c => c.parts.words ++ c.argv
  | subshell parts body => parts.words ++ body.words
  | pipe left right => left.words ++ right.words
  | andOr _ left right => left.words ++ right.words
  | ended _ left => left.words
  | list _ left right => left.words ++ right.words

end Command

namespace Grammar
open Command Text Token

/-! ## The grammar derives a command from its own tokens -/

theorem Prefix.isName {tokens : List Token} {locals : List Assignment} {rs : List Redirection}
    (h : Prefix tokens locals rs) : ∀ a ∈ locals, IsName a.name := by
  induction h with
  | nil => simp
  | assignment _ hw _ ih =>
    intro a ha
    rcases List.mem_cons.mp ha with rfl | ha
    · exact hw.2
    · exact ih a ha
  | redirection _ _ ih => exact ih

theorem prefix_locals {locals : List Assignment} (h : ∀ a ∈ locals, IsName a.name) :
    Prefix (locals.map Assignment.token) locals [] := by
  induction locals with
  | nil => exact .nil
  | cons a locals ih =>
    have ha : Assigns a.token.text a := ⟨rfl, h a (by simp)⟩
    exact .assignment rfl ha (ih fun b hb => h b (by simp [hb]))

theorem suffix_words (ws : List String) : Suffix (ws.map Token.word) ws [] := by
  induction ws with
  | nil => exact .nil
  | cons w ws ih => exact @Suffix.word (.word w) _ _ _ rfl ih

theorem ofKind?_kind (op : RedirectOp) : RedirectOp.ofKind? op.kind = some op := by
  cases op <;> rfl

theorem suffix_redirections (rs : List Redirection) :
    Suffix (rs.flatMap Redirection.tokens) [] rs := by
  induction rs with
  | nil => exact .nil
  | cons r rs ih =>
    have hr : Redirects r.tokens r :=
      @Redirects.mk _ (.word r.filename) _ (ofKind?_kind r.operator) rfl
    exact .redirection hr ih

theorem onStream_toList {stream : Stream} {rs : List Redirection} {o : Option Redirection}
    (h : onStream stream rs = o.toList) (other : Stream) :
    onStream other o.toList = if other = stream then o.toList else [] := by
  have hs : ∀ r ∈ o.toList, r.operator.stream = stream := by
    intro r hr
    rw [← h] at hr
    simpa using (List.mem_filter.mp hr).2
  cases o with
  | none => simp [onStream]
  | some r =>
    have hr := hs r (by simp)
    by_cases he : other = stream <;> simp [onStream, hr, he, eq_comm]

theorem Amounts.redirections {locals : List Assignment} {rs : List Redirection}
    {parts : StageParts} (h : Amounts locals rs parts) :
    Amounts locals parts.redirections parts := by
  obtain ⟨hl, hi, ho⟩ := h
  refine ⟨hl, ?_, ?_⟩ <;>
    simp [StageParts.redirections, onStream_append, onStream_toList hi, onStream_toList ho]

theorem derives_tokens {level : Level} {ts : List Token} {c : Command}
    (h : Derives level ts c) : Derives level c.tokens c := by
  induction h with
  | @simple front back program locals before after arguments parts hp hk hn hs ha =>
    have hlocals : parts.locals = locals := ha.1
    have hfront := prefix_locals (hlocals ▸ hp.isName)
    have hback := (suffix_words arguments).append (suffix_redirections parts.redirections)
    rw [List.append_nil] at hback
    have hword : (Token.word program.text).kind = .word := rfl
    have := Derives.simple hfront hword hn hback (hlocals.symm ▸ ha.redirections)
    simpa [tokens, StageParts.enclose, SimpleCommand.argv, Token.word] using this
  | @subshell front inner back left right locals before after body parts hp hl _ hr hs ha ih =>
    have hlocals : parts.locals = locals := ha.1
    have hfront := prefix_locals (hlocals ▸ hp.isName)
    have hleft : (Token.operator .leftParen).kind = .leftParen := rfl
    have hright : (Token.operator .rightParen).kind = .rightParen := rfl
    have hback := suffix_redirections parts.redirections
    have := Derives.subshell hfront hleft ih hright hback (hlocals.symm ▸ ha.redirections)
    simpa [tokens, StageParts.enclose] using this
  | stage _ ih => exact .stage ih
  | pipe _ _ _ ihl ihr =>
    have hbar : (Token.operator .pipe).kind = .pipe := rfl
    exact .pipe ihl hbar ihr
  | pipeline _ ih => exact .pipeline ih
  | @andOr _ _ _ op _ _ _ _ _ ihl ihr =>
    have hkind : Connective.ofKind? (Token.operator op.kind).kind = some op := by cases op <;> rfl
    exact .andOr ihl hkind ihr
  | chain _ ih => exact .chain ih
  | @ended _ _ sep _ _ _ ih =>
    have hkind : Separator.ofKind? (Token.operator sep.kind).kind = some sep := by cases sep <;> rfl
    exact .ended ih hkind
  | @list _ _ _ sep _ _ _ _ _ ihl ihr =>
    have hkind : Separator.ofKind? (Token.operator sep.kind).kind = some sep := by cases sep <;> rfl
    exact .list ihl hkind ihr

/-! ## The display spells these tokens -/

theorem isPlain_of_isNameChar {c : Char} (h : IsLetter c ∨ IsDigit c) : IsPlain c := by
  have hrange : (48 ≤ c.toNat ∧ c.toNat ≤ 57) ∨ (65 ≤ c.toNat ∧ c.toNat ≤ 90) ∨
      (97 ≤ c.toNat ∧ c.toNat ≤ 122) ∨ c.toNat = 95 := by
    rcases h with (⟨h, h'⟩ | ⟨h, h'⟩ | rfl) | ⟨h, h'⟩
    · exact .inr (.inl ⟨h, h'⟩)
    · exact .inr (.inr (.inl ⟨h, h'⟩))
    · exact .inr (.inr (.inr rfl))
    · exact .inl ⟨h, h'⟩
  refine ⟨?_, ?_, ?_⟩
  · simp only [isBlank, Bool.or_eq_false_iff, Bool.and_eq_false_iff, decide_eq_false_iff_not,
      beq_eq_false_iff_ne, ne_eq]
    omega
  · cases hquote : isQuote c with
    | false => rfl
    | true =>
      simp only [isQuote, Bool.or_eq_true, beq_iff_eq] at hquote
      rcases hquote with rfl | rfl <;> simp at hrange
  · unfold TokenKind.ofChar?
    split <;> first | rfl | simp at hrange

theorem spelled_assignment {a : Assignment} (hn : IsName a.name) (hv : IsQuotable a.value) :
    Spelled a.text.toList [a.token] := by
  obtain ⟨first, rest, he, hf, hr⟩ := hn
  have hplain : ∀ c ∈ a.name.toList ++ ['='], IsPlain c := by
    intro c hc
    rw [he, List.cons_append, List.mem_cons, List.mem_append, List.mem_singleton] at hc
    rcases hc with rfl | hc | rfl
    · exact isPlain_of_isNameChar (.inl hf)
    · exact isPlain_of_isNameChar (hr c hc)
    · exact ⟨rfl, rfl, rfl⟩
  have := ((adds_plain (by simp) hplain).append (adds_quote hv)).spelled
  simpa [Assignment.text, Assignment.token] using this

theorem ofChar?_head_quote {w : String} (hw : IsQuotable w) (rest : List Char) :
    ∀ c ∈ ((quote w).toList ++ rest).head?, TokenKind.ofChar? c = none := by
  intro c hc
  by_cases hs : w = "" ∨ ∃ c ∈ w.toList, isSpecial c = true
  · rw [quote_of_special (fun c hc => (hw c hc).1) hs] at hc
    obtain rfl : '\'' = c := by simpa using hc
    rfl
  · simp only [not_or, not_exists, not_and, Bool.not_eq_true] at hs
    rw [quote_of_plain hs.1 hs.2] at hc
    cases hl : w.toList with
    | nil => exact absurd (by simpa using hl) hs.1
    | cons d cs =>
      obtain rfl : d = c := by simpa [hl] using hc
      have hd : d ∈ w.toList := by simp [hl]
      exact (isPlain_of_not_special (hs.2 d hd) (hw d hd).2.2).2.2

theorem spelled_redirection {r : Redirection} (hr : IsQuotable r.filename) :
    Spelled r.text.toList r.tokens := by
  intro rest hrest
  have hspelling : r.operator.spelling = r.operator.kind.spelling := by
    cases r.operator <;> rfl
  have hword := (adds_quote hr).spelled rest hrest
  rw [Redirection.text, hspelling, String.toList_append, List.append_assoc, lexFrom_operator, hword]
  · rfl
  · cases r.operator <;> simp [RedirectOp.kind]
  · intro _ c hc
    simp [ofChar?_head_quote hr rest c hc]

theorem spelled_words {w : String} {ws : List String} (h : ∀ v ∈ w :: ws, IsQuotable v) :
    Spelled (quoteAll (w :: ws)).toList ((w :: ws).map Token.word) := by
  induction ws generalizing w with
  | nil => simpa [quoteAll] using (adds_quote (h w (by simp))).spelled
  | cons v ws ih =>
    have hw := (adds_quote (h w (by simp))).spelled
    have := hw.space (ih (w := v) fun u hu => h u (List.mem_cons_of_mem w hu))
    simpa [quoteAll] using this

theorem spelled_locals {locals : List Assignment} {s : List Char} {ts : List Token}
    (hn : ∀ a ∈ locals, IsName a.name) (hv : ∀ a ∈ locals, IsQuotable a.value)
    (hs : Spelled s ts) :
    Spelled (locals.flatMap (fun a => a.text.toList ++ [' ']) ++ s)
      (locals.map Assignment.token ++ ts) := by
  induction locals with
  | nil => exact hs
  | cons a locals ih =>
    have ha := spelled_assignment (hn a (by simp)) (hv a (by simp))
    have := ha.space (ih (fun b hb => hn b (by simp [hb])) fun b hb => hv b (by simp [hb]))
    simpa using this

theorem spelled_redirections {rs : List Redirection} {s : List Char} {ts : List Token}
    (hr : ∀ r ∈ rs, IsQuotable r.filename) (hs : Spelled s ts) :
    Spelled (s ++ rs.flatMap fun r => ' ' :: r.text.toList)
      (ts ++ rs.flatMap Redirection.tokens) := by
  induction rs generalizing s ts with
  | nil => simpa using hs
  | cons r rs ih =>
    have := ih (fun q hq => hr q (by simp [hq])) (hs.space (spelled_redirection (hr r (by simp))))
    simpa using this

theorem spelled_stage {parts : StageParts} {s : List Char} {ts : List Token}
    (hn : ∀ a ∈ parts.locals, IsName a.name) (hw : ∀ w ∈ parts.words, IsQuotable w)
    (hs : Spelled s ts) :
    Spelled (parts.localsText.toList ++ s ++ parts.redirectionsText.toList) (parts.enclose ts) := by
  have hv : ∀ a ∈ parts.locals, IsQuotable a.value := fun a ha =>
    hw _ (List.mem_append_left _ (List.mem_map_of_mem ha))
  have hr : ∀ r ∈ parts.redirections, IsQuotable r.filename := fun r hr =>
    hw _ (List.mem_append_right _ (List.mem_map_of_mem hr))
  have := spelled_redirections hr (spelled_locals hn hv hs)
  simpa [StageParts.localsText, StageParts.redirectionsText, StageParts.enclose,
    StageParts.redirections, String.toList_join, List.flatMap_map] using this

theorem spelled_parens {s : List Char} {ts : List Token} (hs : Spelled s ts) :
    Spelled ('(' :: s ++ [')']) (.operator .leftParen :: ts ++ [.operator .rightParen]) := by
  intro rest _
  have hopen :
      lexFrom (.bare none) (TokenKind.leftParen.spelling.toList ++ (s ++ ')' :: rest)) = _ :=
    lexFrom_operator (by decide) (by simp [TokenKind.doubled?])
  have hclose : lexFrom (.bare none) (TokenKind.rightParen.spelling.toList ++ rest) = _ :=
    lexFrom_operator (by decide) (by simp [TokenKind.doubled?])
  have hbody := hs (')' :: rest) (ends_rightParen rest)
  rw [hbody] at hopen
  calc lexFrom (.bare none) (('(' :: s ++ [')']) ++ rest)
      = .operator .leftParen :: (ts ++ lexFrom (.bare none) (')' :: rest)) := by
        simpa [TokenKind.spelling] using hopen
    _ = (.operator .leftParen :: ts ++ [.operator .rightParen]) ++ lexFrom (.bare none) rest := by
        have hclose : lexFrom (.bare none) (')' :: rest) = _ := hclose
        simp [hclose]

theorem spelled_between (kind : TokenKind) (hk : kind ≠ .word) {s t : List Char}
    {as bs : List Token} (hs : Spelled s as) (ht : Spelled t bs) :
    Spelled (s ++ ' ' :: kind.spelling.toList ++ ' ' :: t) (as ++ .operator kind :: bs) := by
  simpa using (hs.space (spelled_operator kind hk)).space ht

theorem spelled_text {level : Level} {ts : List Token} {c : Command} (h : Derives level ts c)
    (hw : ∀ w ∈ c.words, IsQuotable w) : Spelled c.text.toList c.tokens := by
  induction h with
  | @simple front back program locals before after arguments parts hp _ _ _ ha =>
    simp only [words, List.mem_append] at hw
    have hargv := spelled_words fun w hm => hw w (.inr hm)
    have hlocals : parts.locals = locals := ha.1
    have := spelled_stage (hlocals ▸ hp.isName) (fun w hm => hw w (.inl hm)) hargv
    simpa [Command.text, SimpleCommand.text, tokens, SimpleCommand.argv] using this
  | @subshell front inner back left right locals before after body parts hp _ _ _ _ ha ih =>
    simp only [words, List.mem_append] at hw
    have hbody := spelled_parens (ih fun w hm => hw w (.inr hm))
    have hlocals : parts.locals = locals := ha.1
    have := spelled_stage (hlocals ▸ hp.isName) (fun w hm => hw w (.inl hm)) hbody
    simpa [Command.text, tokens] using this
  | stage _ ih => exact ih hw
  | pipe _ _ _ ihl ihr =>
    simp only [words, List.mem_append] at hw
    have := spelled_between .pipe (by decide) (ihl fun w hm => hw w (.inl hm))
      (ihr fun w hm => hw w (.inr hm))
    simpa [Command.text, tokens, TokenKind.spelling] using this
  | pipeline _ ih => exact ih hw
  | @andOr _ _ _ op _ _ _ _ _ ihl ihr =>
    simp only [words, List.mem_append] at hw
    have hspelling : op.spelling = op.kind.spelling := by cases op <;> rfl
    have := spelled_between op.kind (by cases op <;> decide)
      (ihl fun w hm => hw w (.inl hm)) (ihr fun w hm => hw w (.inr hm))
    simpa [Command.text, tokens, hspelling] using this
  | chain _ ih => exact ih hw
  | @ended _ _ sep _ _ _ ih =>
    have hspelling : sep.spelling = sep.kind.spelling := by cases sep <;> rfl
    have := (ih hw).space (spelled_operator sep.kind (by cases sep <;> decide))
    simpa [Command.text, tokens, hspelling] using this
  | @list _ _ _ sep _ _ _ _ _ ihl ihr =>
    simp only [words, List.mem_append] at hw
    have hspelling : sep.spelling = sep.kind.spelling := by cases sep <;> rfl
    have := spelled_between sep.kind (by cases sep <;> decide)
      (ihl fun w hm => hw w (.inl hm)) (ihr fun w hm => hw w (.inr hm))
    simpa [Command.text, tokens, hspelling] using this

/-- The display of a command that was read from tokens is read as the same command again, if its
words hold no single quote, no backslash and no blank but space, tab and newline. -/
theorem parse_lex_text {ts : List Token} {c : Command} (hp : parse ts = .ok c)
    (hw : ∀ w ∈ c.words, IsQuotable w) : parse (lex c.text) = .ok c := by
  have h := derives_of_parse hp
  have hlex : lex c.text = c.tokens := by
    have := spelled_text h hw [] ends_nil
    simpa [lex, lexFrom, Mode.flush] using this
  rw [hlex]
  exact parse_of_derives (derives_tokens h)

/-- `X='a b' echo '' 'x|y' <in | (cat &) >>log`, read from tokens in another order. -/
theorem parse_lex_text_pipe :
    let c := Command.pipe
      (.simple ⟨⟨[⟨"X", "a b"⟩], some ⟨.input, "in"⟩, none⟩, "echo", ["", "x|y"]⟩)
      (.subshell { output := some ⟨.append, "log"⟩ }
        (.ended .background (.simple { program := "cat" })))
    parse [.word "X=a b", .word "echo", .operator .redirectIn, .word "in", .word "", .word "x|y",
      .operator .pipe, .operator .leftParen, .word "cat", .operator .ampersand,
      .operator .rightParen, .operator .redirectAppend, .word "log"] = .ok c ∧
    (∀ w ∈ c.words, IsQuotable w) ∧ parse (lex c.text) = .ok c := by
  intro c
  have hp : parse [.word "X=a b", .word "echo", .operator .redirectIn, .word "in", .word "",
      .word "x|y", .operator .pipe, .operator .leftParen, .word "cat", .operator .ampersand,
      .operator .rightParen, .operator .redirectAppend, .word "log"] = .ok c := by rfl
  have hw : ∀ w ∈ c.words, IsQuotable w := by decide +kernel
  exact ⟨hp, hw, parse_lex_text hp hw⟩

end Grammar

end CommandShell
