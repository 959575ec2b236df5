import Mathlib.Data.List.Basic
import Mathlib.Tactic.SplitIfs

/-!
# Shell words

The part of the POSIX shell command language in which nothing happens but quoting: one simple
command whose words are made of literal characters. A text with an operator, an expansion, a
pattern, a comment, a second line or an open quote is not read at all.

* `step`: the reader is a machine over characters.
* `words_append_word`, `argv`: the words of a text, and the argument vector of a command.
-/

namespace Kubinate.Library.Shell

/-- The characters of a word after quote removal, each with whether it was quoted. -/
abbrev Word := List (Char × Bool)

def Word.value (w : Word) : String := String.ofList (w.map Prod.fst)

/-- Where the reader is: the words it has read, and the characters of the word it is in. -/
inductive State where
  | between (ws : List Word)
  | unquoted (ws : List Word) (w : Word)
  | escaped (ws : List Word) (w : Word)
  | single (ws : List Word) (w : Word)
  | double (ws : List Word) (w : Word)
  | doubleEscaped (ws : List Word) (w : Word)
deriving DecidableEq

def isBlank (c : Char) : Bool := c == ' ' || c == '\t'

/-- Characters that do something if they are not quoted: operators and the end of the line,
expansions, patterns, tildes and braces. -/
def isActive (c : Char) : Bool :=
  ['|', '&', ';', '<', '>', '(', ')', '\n', '$', '\x60', '*', '?', '[', '~', '\x7b',
    '\x7d'].contains c

/-- The characters that a backslash quotes between double quotes. -/
def isDoubleEscape (c : Char) : Bool := ['$', '\x60', '"', '\\'].contains c

/-- A character outside quotes, in the word `w`. -/
def stepUnquoted (ws : List Word) (w : Word) (c : Char) : Option State :=
  if c = '\'' then some (.single ws w)
  else if c = '"' then some (.double ws w)
  else if c = '\\' then some (.escaped ws w)
  else if isActive c then none
  else some (.unquoted ws (w ++ [(c, false)]))

def step : State → Char → Option State
  | .between ws, c =>
    if isBlank c then some (.between ws)
    -- a comment
    else if c = '#' then none
    else stepUnquoted ws [] c
  | .unquoted ws w, c =>
    if isBlank c then some (.between (ws ++ [w])) else stepUnquoted ws w c
  | .escaped ws w, c =>
    -- a line that goes on is not read
    if c = '\n' then none else some (.unquoted ws (w ++ [(c, true)]))
  | .single ws w, c =>
    if c = '\'' then some (.unquoted ws w) else some (.single ws (w ++ [(c, true)]))
  | .double ws w, c =>
    if c = '"' then some (.unquoted ws w)
    else if c = '\\' then some (.doubleEscaped ws w)
    else if c = '$' || c = '\x60' then none
    else some (.double ws (w ++ [(c, true)]))
  | .doubleEscaped ws w, c =>
    if isDoubleEscape c then some (.double ws (w ++ [(c, true)]))
    else if c = '\n' then none
    else some (.double ws (w ++ [('\\', true), (c, true)]))

def run : State → List Char → Option State
  | s, [] => some s
  | s, c :: cs => (step s c).bind fun s => run s cs

/-- The words of a text that ends here. -/
def State.finish : State → Option (List Word)
  | .between ws => some ws
  | .unquoted ws w => some (ws ++ [w])
  | .escaped .. | .single .. | .double .. | .doubleEscaped .. => none

def words (cs : List Char) : Option (List Word) := (run (.between []) cs).bind State.finish

/-- The reserved words, which are recognised where a command begins. -/
def reserved : List String :=
  ["!", "case", "do", "done", "elif", "else", "esac", "fi", "for", "if", "in", "then", "until",
    "while"]

/-- A word that names a command: it is no reserved word and no assignment. -/
def Word.isCommandName (w : Word) : Bool :=
  !w.isEmpty && !(w.all (fun p => !p.2) && reserved.contains w.value) && !w.contains ('=', false)

/-- The argument vector of a simple command. -/
def argv (command : String) : Option (List String) :=
  match words command.toList with
  | some (name :: arguments) =>
    if name.isCommandName then some ((name :: arguments).map Word.value) else none
  | _ => none

/-! ## Reading on -/

/-- The same state, after these words. -/
def State.behind (ws : List Word) : State → State
  | .between ws' => .between (ws ++ ws')
  | .unquoted ws' w => .unquoted (ws ++ ws') w
  | .escaped ws' w => .escaped (ws ++ ws') w
  | .single ws' w => .single (ws ++ ws') w
  | .double ws' w => .double (ws ++ ws') w
  | .doubleEscaped ws' w => .doubleEscaped (ws ++ ws') w

theorem run_append {s s' : State} {as : List Char} (h : run s as = some s') (bs : List Char) :
    run s (as ++ bs) = run s' bs := by
  induction as generalizing s with
  | nil =>
    cases h
    rfl
  | cons c as ih =>
    obtain ⟨next, hstep, hrun⟩ := Option.bind_eq_some_iff.mp h
    rw [List.cons_append, run, hstep, Option.bind_some]
    exact ih hrun

theorem stepUnquoted_behind (ws ws' : List Word) (w : Word) (c : Char) :
    stepUnquoted (ws ++ ws') w c = (stepUnquoted ws' w c).map (State.behind ws) := by
  unfold stepUnquoted
  split_ifs <;> rfl

theorem step_behind (ws : List Word) (s : State) (c : Char) :
    step (s.behind ws) c = (step s c).map (State.behind ws) := by
  cases s with
  | between ws' =>
    simp only [State.behind, step]
    split_ifs
    · rfl
    · rfl
    · exact stepUnquoted_behind ws ws' [] c
  | unquoted ws' w =>
    simp only [State.behind, step]
    split_ifs
    · exact congrArg (some ∘ State.between) (List.append_assoc ws ws' [w])
    · exact stepUnquoted_behind ws ws' w c
  | escaped ws' w =>
    simp only [State.behind, step]
    split_ifs <;> rfl
  | single ws' w =>
    simp only [State.behind, step]
    split_ifs <;> rfl
  | double ws' w =>
    simp only [State.behind, step]
    split_ifs <;> rfl
  | doubleEscaped ws' w =>
    simp only [State.behind, step]
    split_ifs <;> rfl

theorem run_behind (ws : List Word) (s : State) (cs : List Char) :
    run (s.behind ws) cs = (run s cs).map (State.behind ws) := by
  induction cs generalizing s with
  | nil => rfl
  | cons c cs ih =>
    rw [run, step_behind, run]
    cases step s c with
    | none => rfl
    | some next => exact ih next

theorem finish_behind (ws : List Word) (s : State) :
    (s.behind ws).finish = s.finish.map (ws ++ ·) := by
  cases s with
  | between ws' => rfl
  | unquoted ws' w => exact congrArg some (List.append_assoc ws ws' [w])
  | escaped | single | double | doubleEscaped => rfl

/-- What follows a word and a blank is read as if it stood alone. -/
theorem words_append_word {as : List Char} {ws : List Word}
    (h : run (.between []) as = some (.between ws)) (bs : List Char) : words (as ++ bs) = (words bs).map (ws ++ ·) := by
  have hstart : State.between ws = (State.between []).behind ws := by
    rw [State.behind, List.append_nil]
  rw [words, run_append h, hstart, run_behind, words]
  cases run (.between []) bs with
  | none => rfl
  | some s => exact finish_behind ws s

end Kubinate.Library.Shell
