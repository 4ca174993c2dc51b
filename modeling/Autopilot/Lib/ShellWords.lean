/-
The words that a POSIX shell reads in a command line.

A line is cut into words and operators, and quotes are removed. What the shell would expand, or
would take for a comment or for the number of a descriptor, is not read: a line that has it
outside of quotes gives nothing. So a line that is read means the words it is read as.
-/
import Mathlib.Data.List.Basic
import Mathlib.Data.List.Forall2

set_option autoImplicit false

namespace ShellWords

/-- A word, without its quotes, or an operator. -/
inductive Token where
  | word (text : List UInt16)
  | operator (text : List UInt16)
  deriving DecidableEq

/-- How the next symbol is quoted. -/
inductive Quoting where
  | bare | single | double
  deriving DecidableEq

def quote : UInt16 := 39
def doubleQuote : UInt16 := 34
def backslash : UInt16 := 92
def newline : UInt16 := 10

/-- `[ \t]` -/
def isBlank (c : UInt16) : Bool := c = 32 || c = 9

/-- ``[<>|&;()\n]`` -/
def isOperator (c : UInt16) : Bool :=
  c = 60 || c = 62 || c = 124 || c = 38 || c = 59 || c = 40 || c = 41 || c = newline

/-- What is expanded, begins a comment, or may be a word of the shell's own: ``[$`*?[\]{}~!#]``. -/
def isExpanding (c : UInt16) : Bool :=
  c = 36 || c = 96 || c = 42 || c = 63 || c = 91 || c = 93 || c = 123 || c = 125 || c = 126 ||
    c = 33 || c = 35

/-- How many symbols behind its first one an operator goes on for. -/
def operatorTail : UInt16 → List UInt16 → ℕ
  | 60, 60 :: 45 :: _ => 2
  | 60, c :: _ => if c = 60 || c = 38 || c = 62 then 1 else 0
  | 62, c :: _ => if c = 62 || c = 38 || c = 124 then 1 else 0
  | c, d :: _ => if c = d && (c = 38 || c = 124 || c = 59) then 1 else 0
  | _, [] => 0

/-- The word that was begun, in front of what follows. -/
def emit (begun : Option (List UInt16)) (tokens : List Token) : List Token :=
  match begun with
  | some text => .word text :: tokens
  | none => tokens

/-- The tokens of a line, from a place where a word may have been begun. The first argument
counts the symbols of an operator that are still to be passed over. -/
def read : ℕ → Quoting → Option (List UInt16) → List UInt16 → Option (List Token)
  | _, .bare, begun, [] => some (emit begun [])
  | _, _, _, [] => none
  | n + 1, quoting, begun, _ :: rest => read n quoting begun rest
  | 0, .single, begun, c :: rest =>
    if c = quote then read 0 .bare begun rest
    else read 0 .single (some (begun.getD [] ++ [c])) rest
  | 0, .double, begun, c :: rest =>
    if c = doubleQuote then read 0 .bare begun rest
    else if c = 36 || c = 96 then none
    else if c = backslash then
      match rest with
      | [] => none
      | d :: _ =>
        if d = newline then read 1 .double begun rest
        else if d = doubleQuote || d = backslash || d = 36 || d = 96 then
          read 1 .double (some (begun.getD [] ++ [d])) rest
        else read 0 .double (some (begun.getD [] ++ [c])) rest
    else read 0 .double (some (begun.getD [] ++ [c])) rest
  | 0, .bare, begun, c :: rest =>
    if c = quote then read 0 .single (some (begun.getD [])) rest
    else if c = doubleQuote then read 0 .double (some (begun.getD [])) rest
    else if c = backslash then
      match rest with
      | [] => none
      | d :: _ =>
        if d = newline then read 1 .bare begun rest
        else read 1 .bare (some (begun.getD [] ++ [d])) rest
    else if isBlank c then (read 0 .bare none rest).map (emit begun)
    else if isOperator c then
      -- digits that touch a redirection would be the number of a descriptor
      if (c = 60 || c = 62) && begun.any (fun text => text.all fun d => 48 ≤ d && d ≤ 57) then none
      else
        (read (operatorTail c rest) .bare none rest).map fun tokens =>
          emit begun (.operator (c :: rest.take (operatorTail c rest)) :: tokens)
    else if isExpanding c then none
    else read 0 .bare (some (begun.getD [] ++ [c])) rest

/-- The tokens of a command line. -/
def tokens (line : List UInt16) : Option (List Token) := read 0 .bare none line

/-! ## Pieces of a line -/

section pieces

variable {text rest : List UInt16}

/-- The symbol stands for itself, without quotes. -/
def isPlain (c : UInt16) : Bool :=
  c ≠ quote && c ≠ doubleQuote && c ≠ backslash && !isBlank c && !isOperator c && !isExpanding c

theorem read_bare_cons (begun : Option (List UInt16)) (c : UInt16) (rest : List UInt16) :
    read 0 .bare begun (c :: rest) =
      if c = quote then read 0 .single (some (begun.getD [])) rest
      else if c = doubleQuote then read 0 .double (some (begun.getD [])) rest
      else if c = backslash then
        match rest with
        | [] => none
        | d :: _ =>
          if d = newline then read 1 .bare begun rest
          else read 1 .bare (some (begun.getD [] ++ [d])) rest
      else if isBlank c then (read 0 .bare none rest).map (emit begun)
      else if isOperator c then
        if (c = 60 || c = 62) && begun.any (fun text => text.all fun d => 48 ≤ d && d ≤ 57) then
          none
        else
          (read (operatorTail c rest) .bare none rest).map fun tokens =>
            emit begun (.operator (c :: rest.take (operatorTail c rest)) :: tokens)
      else if isExpanding c then none
      else read 0 .bare (some (begun.getD [] ++ [c])) rest := by
  rw [read.eq_def]

theorem read_single_cons (begun : Option (List UInt16)) (c : UInt16) (rest : List UInt16) :
    read 0 .single begun (c :: rest) =
      if c = quote then read 0 .bare begun rest
      else read 0 .single (some (begun.getD [] ++ [c])) rest := by
  rw [read.eq_def]

theorem read_double_cons (begun : Option (List UInt16)) (c : UInt16) (rest : List UInt16) :
    read 0 .double begun (c :: rest) =
      if c = doubleQuote then read 0 .bare begun rest
      else if c = 36 || c = 96 then none
      else if c = backslash then
        match rest with
        | [] => none
        | d :: _ =>
          if d = newline then read 1 .double begun rest
          else if d = doubleQuote || d = backslash || d = 36 || d = 96 then
            read 1 .double (some (begun.getD [] ++ [d])) rest
          else read 0 .double (some (begun.getD [] ++ [c])) rest
      else read 0 .double (some (begun.getD [] ++ [c])) rest := by
  rw [read.eq_def]

theorem read_pass (n : ℕ) (quoting : Quoting) (begun : Option (List UInt16)) (c : UInt16)
    (rest : List UInt16) : read (n + 1) quoting begun (c :: rest) = read n quoting begun rest := by
  cases quoting <;> rfl

/-- A piece of a line spells a part of a word: it goes on with the word that was begun, or begins
one. -/
def Spells (piece word : List UInt16) : Prop :=
  ∀ begun rest, read 0 .bare begun (piece ++ rest) =
    read 0 .bare (some (begun.getD [] ++ word)) rest

theorem Spells.append {piece piece' word word' : List UInt16} (h : Spells piece word)
    (h' : Spells piece' word') : Spells (piece ++ piece') (word ++ word') := by
  intro begun rest
  rw [List.append_assoc, h, h', Option.getD_some, List.append_assoc]

theorem read_plain {c : UInt16} (h : isPlain c = true) (begun : Option (List UInt16)) :
    read 0 .bare begun (c :: rest) = read 0 .bare (some (begun.getD [] ++ [c])) rest := by
  unfold isPlain at h
  simp only [Bool.and_eq_true, decide_eq_true_eq, Bool.not_eq_true'] at h
  obtain ⟨⟨⟨⟨⟨hquote, hdouble⟩, hbackslash⟩, hblank⟩, hoperator⟩, hexpanding⟩ := h
  rw [read_bare_cons, if_neg hquote, if_neg hdouble, if_neg hbackslash, hblank,
    if_neg Bool.false_ne_true, hoperator, if_neg Bool.false_ne_true, hexpanding,
    if_neg Bool.false_ne_true]

/-- Plain symbols spell themselves. -/
theorem spells_plain (hne : text ≠ []) (h : ∀ c ∈ text, isPlain c = true) : Spells text text := by
  induction text with
  | nil => exact absurd rfl hne
  | cons c text ih =>
    intro begun rest
    rw [List.cons_append, read_plain (h c List.mem_cons_self)]
    cases text with
    | nil => rfl
    | cons d text =>
      rw [ih (List.cons_ne_nil _ _) fun e he => h e (List.mem_cons_of_mem _ he), Option.getD_some,
        List.append_assoc, List.singleton_append]

/-- What a text between double quotes may not have, so that it stands for itself. -/
def isLiteral (c : UInt16) : Bool := c ≠ doubleQuote && c ≠ 36 && c ≠ 96 && c ≠ backslash

/-- A text between double quotes. -/
theorem spells_double (h : ∀ c ∈ text, isLiteral c = true) :
    Spells (doubleQuote :: (text ++ [doubleQuote])) text := by
  have hinside (word rest : List UInt16) :
      read 0 .double (some word) (text ++ doubleQuote :: rest) =
        read 0 .bare (some (word ++ text)) rest := by
    induction text generalizing word with
    | nil => rw [List.nil_append, read_double_cons, if_pos rfl, List.append_nil]
    | cons c text ih =>
      have hc := h c List.mem_cons_self
      unfold isLiteral at hc
      simp only [Bool.and_eq_true, decide_eq_true_eq] at hc
      have hspecial : (decide (c = 36) || decide (c = 96)) = false := by
        simp [hc.1.1.2, hc.1.2]
      rw [List.cons_append, read_double_cons, if_neg hc.1.1.1, hspecial, if_neg Bool.false_ne_true,
        if_neg hc.2, ih fun e he => h e (List.mem_cons_of_mem _ he), Option.getD_some,
        List.append_assoc, List.singleton_append]
  intro begun rest
  have hopen : doubleQuote ≠ quote := by decide
  rw [List.cons_append, List.append_assoc, List.singleton_append, read_bare_cons,
    if_neg hopen, if_pos rfl, hinside]

/-! ### Single quotes -/

/-- A text between single quotes: a quote in it is put behind a backslash, outside of them. -/
def quoteWord (text : List UInt16) : List UInt16 :=
  quote :: (text.flatMap fun c => if c = quote then [quote, backslash, quote, quote] else [c]) ++
    [quote]

theorem read_quoted (word text rest : List UInt16) :
    read 0 .single (some word) ((text.flatMap fun c =>
      if c = quote then [quote, backslash, quote, quote] else [c]) ++ quote :: rest) =
    read 0 .bare (some (word ++ text)) rest := by
  induction text generalizing word with
  | nil => rw [List.flatMap_nil, List.nil_append, read_single_cons, if_pos rfl, List.append_nil]
  | cons c text ih =>
    rw [List.flatMap_cons, List.append_assoc]
    by_cases hc : c = quote
    · subst hc
      -- the quotes are closed, a quote is read behind the backslash, and they are opened again
      have hescaped (rest : List UInt16) :
          read 0 .single (some word) (quote :: backslash :: quote :: quote :: rest) =
            read 0 .single (some (word ++ [quote])) rest := by
        have hbackslash : read 0 .bare (some word) (backslash :: quote :: quote :: rest) =
            read 1 .bare (some (word ++ [quote])) (quote :: quote :: rest) := rfl
        have hquote (n : List UInt16) : read 0 .bare (some n) (quote :: rest) =
            read 0 .single (some n) rest := rfl
        rw [read_single_cons, if_pos rfl, hbackslash, read_pass, hquote]
      rw [if_pos rfl, List.cons_append, List.cons_append, List.cons_append, List.cons_append,
        List.nil_append, hescaped, ih, List.append_assoc, List.singleton_append]
    · rw [if_neg hc, List.singleton_append, read_single_cons, if_neg hc, Option.getD_some, ih,
        List.append_assoc, List.singleton_append]

/-- **Any text comes back from its quotes.** -/
theorem spells_quoteWord (text : List UInt16) : Spells (quoteWord text) text := by
  intro begun rest
  unfold quoteWord
  rw [List.append_assoc, List.cons_append, List.singleton_append, read_bare_cons, if_pos rfl,
    read_quoted]

end pieces

/-! ## Lines -/

/-- A piece that stands between blanks gives one token. -/
structure Yields (piece : List UInt16) (token : Token) : Prop where
  between : ∀ rest, read 0 .bare none (piece ++ 32 :: rest) =
    (read 0 .bare none rest).map (token :: ·)
  last : read 0 .bare none piece = some [token]

theorem Spells.yields {piece word : List UInt16} (h : Spells piece word) :
    Yields piece (.word word) := by
  constructor
  · intro rest
    rw [h, Option.getD_none, List.nil_append, read_bare_cons, if_neg (by decide),
      if_neg (by decide), if_neg (by decide), if_pos (by decide)]
    rfl
  · have hend := h none []
    rw [List.append_nil] at hend
    rw [hend]
    rfl

/-- The operator that redirects the input. -/
theorem yields_input : Yields [60] (.operator [60]) := by
  constructor
  · intro rest
    have hblank : read 0 .bare none (32 :: rest) = read 0 .bare none rest := by
      rw [read_bare_cons, if_neg (by decide), if_neg (by decide), if_neg (by decide),
        if_pos (by decide)]
      cases read 0 .bare none rest with
      | none => rfl
      | some tokens => rfl
    have htail : operatorTail 60 (32 :: rest) = 0 := rfl
    rw [List.singleton_append, read_bare_cons, if_neg (by decide), if_neg (by decide),
      if_neg (by decide), if_neg (by decide), if_pos (by decide), if_neg (by simp), htail, hblank]
    rfl
  · rfl

/-- **Pieces that are joined by blanks give their tokens.** -/
theorem tokens_joined {pieces : List (List UInt16)} {given : List Token}
    (h : List.Forall₂ Yields pieces given) :
    tokens ((pieces.intersperse [32]).flatten) = some given := by
  unfold tokens
  induction h with
  | nil => rfl
  | cons hpiece hrest ih =>
    rename_i piece token pieces given
    cases hrest with
    | nil =>
      rw [List.intersperse_singleton, List.flatten_singleton]
      exact hpiece.last
    | cons hnext hmore =>
      rw [List.intersperse_cons_cons, List.flatten_cons, List.flatten_cons, List.singleton_append,
        hpiece.between, ih]
      rfl

end ShellWords
