import Mathlib.Algebra.Group.Nat.Even
import Kubinate.Observability.Labels

/-!
# The escaping of label values

`prom_escape` of `crates/observability/src/metrics.rs` is three replacements one after the other,
each over the whole text, and what reads its output goes from left to right once.

* `unescape`, `lexLiteral`: undoing the escapes, and reading one string literal off a text.
* `prom_escape_faithful`: both give the text back, and no quote in the output ends the literal.
-/

namespace Kubinate.Observability

open Platform

/-! ## Reading -/

/-- The character that an escape stands for. -/
def unescapeChar (e : Char) : Option Char :=
  if e = '\\' then some '\\' else if e = '"' then some '"'
  else if e = 'n' then some '\n' else none

def unescape : List Char → Option (List Char)
  | [] => some []
  | [c] => if c = '\\' then none else some [c]
  | c :: e :: cs =>
    if c = '\\' then (unescapeChar e).bind fun d => (unescape cs).map (d :: ·)
    else (unescape (e :: cs)).map (c :: ·)

/-- The rest of a literal after its opening quote: its value, and the text after it. -/
def lexBody : List Char → Option (List Char × List Char)
  | [] => none
  | [c] => if c = '"' then some ([], []) else none
  | c :: e :: cs =>
    if c = '"' then some ([], e :: cs)
    else if c = '\\' then
      (unescapeChar e).bind fun d => (lexBody cs).map fun p => (d :: p.1, p.2)
    else if c = '\n' then none
    else (lexBody (e :: cs)).map fun p => (c :: p.1, p.2)

def lexLiteral : List Char → Option (List Char × List Char)
  | [] => none
  | c :: cs => if c = '"' then lexBody cs else none

/-- The length of the run of backslashes at the end. -/
def trailingBackslashes (cs : List Char) : Nat := (cs.reverse.takeWhile (· == '\\')).length

/-! ## One character -/

section Characters

variable {c e : Char} {cs rest : List Char}

/-- A character is escaped as one that stands for it, or it is plain. -/
theorem escapeChar_cases (c : Char) :
    (∃ e, escapeChar c = ['\\', e] ∧ unescapeChar e = some c) ∨
      escapeChar c = [c] ∧ c ≠ '\\' ∧ c ≠ '"' ∧ c ≠ '\n' := by
  by_cases hbackslash : c = '\\'
  · subst hbackslash
    exact .inl ⟨'\\', rfl, rfl⟩
  by_cases hquote : c = '"'
  · subst hquote
    exact .inl ⟨'"', rfl, rfl⟩
  by_cases hnewline : c = '\n'
  · subst hnewline
    exact .inl ⟨'n', rfl, rfl⟩
  · exact .inr ⟨(if_neg hbackslash).trans ((if_neg hquote).trans (if_neg hnewline)),
      hbackslash, hquote, hnewline⟩

theorem promEscape_cons (c : Char) (cs : List Char) :
    promEscape (c :: cs) = escapeChar c ++ promEscape cs := by
  rw [promEscape_eq, promEscape_eq, List.flatMap_cons]

theorem unescape_escaped (h : unescapeChar e = some c) :
    unescape ('\\' :: e :: cs) = (unescape cs).map (c :: ·) := by
  rw [unescape, if_pos rfl, h, Option.bind_some]

theorem unescape_plain (h : c ≠ '\\') : unescape (c :: cs) = (unescape cs).map (c :: ·) := by
  cases cs with
  | nil => exact if_neg h
  | cons d cs => rw [unescape, if_neg h]

theorem lexBody_quote : lexBody ('"' :: rest) = some ([], rest) := by
  cases rest <;> rfl

theorem lexBody_escaped (h : unescapeChar e = some c) :
    lexBody ('\\' :: e :: cs) = (lexBody cs).map fun p => (c :: p.1, p.2) := by
  rw [lexBody, if_neg (by decide), if_pos rfl, h, Option.bind_some]

theorem lexBody_plain (hquote : c ≠ '"') (hbackslash : c ≠ '\\') (hnewline : c ≠ '\n') :
    lexBody (c :: cs) = (lexBody cs).map fun p => (c :: p.1, p.2) := by
  cases cs with
  | nil => exact if_neg hquote
  | cons d cs => rw [lexBody, if_neg hquote, if_neg hbackslash, if_neg hnewline]

end Characters

/-! ## The whole text -/

theorem unescape_promEscape (s : List Char) : unescape (promEscape s) = some s := by
  induction s with
  | nil => rfl
  | cons c s ih =>
    rw [promEscape_cons]
    rcases escapeChar_cases c with ⟨e, hescape, he⟩ | ⟨hescape, hbackslash, -, -⟩
    · rw [hescape, List.cons_append, List.singleton_append, unescape_escaped he, ih,
        Option.map_some]
    · rw [hescape, List.singleton_append, unescape_plain hbackslash, ih, Option.map_some]

theorem lexBody_promEscape (s rest : List Char) :
    lexBody (promEscape s ++ '"' :: rest) = some (s, rest) := by
  induction s with
  | nil => exact lexBody_quote
  | cons c s ih =>
    rw [promEscape_cons, List.append_assoc]
    rcases escapeChar_cases c with ⟨e, hescape, he⟩ | ⟨hescape, hbackslash, hquote, hnewline⟩
    · rw [hescape, List.cons_append, List.singleton_append, lexBody_escaped he, ih, Option.map_some]
    · rw [hescape, List.singleton_append, lexBody_plain hquote hbackslash hnewline, ih,
        Option.map_some]

theorem newline_notMem_promEscape (s : List Char) : '\n' ∉ promEscape s := by
  induction s with
  | nil => exact List.not_mem_nil
  | cons c s ih =>
    rw [promEscape_cons, List.mem_append, not_or]
    refine ⟨?_, ih⟩
    rcases escapeChar_cases c with ⟨e, hescape, he⟩ | ⟨hescape, -, -, hnewline⟩
    · rw [hescape]
      intro hmem
      rcases List.mem_cons.mp hmem with heq | hmem
      · exact absurd heq (by decide)
      · obtain rfl := List.mem_singleton.mp hmem
        have hnone : unescapeChar '\n' = none := by decide
        rw [hnone] at he
        cases he
    · rw [hescape, List.mem_singleton]
      exact hnewline.symm

theorem promEscape_injective : Function.Injective promEscape := by
  intro s t h
  have hsame := unescape_promEscape s
  rw [h, unescape_promEscape] at hsame
  exact (Option.some.inj hsame).symm

/-! ## Quotes -/

theorem trailingBackslashes_concat (cs : List Char) (c : Char) :
    trailingBackslashes (cs ++ [c]) = if c = '\\' then trailingBackslashes cs + 1 else 0 := by
  rw [trailingBackslashes, List.reverse_concat, List.takeWhile_cons]
  by_cases hc : c = '\\'
  · rw [if_pos hc, if_pos (by simp [hc])]
    rfl
  · rw [if_neg hc, if_neg (by simp [hc])]
    rfl

/-- An even run at the end of a text does not change the parity of the run after it. -/
theorem odd_trailingBackslashes_append {as : List Char} (h : ¬ Odd (trailingBackslashes as))
    (bs : List Char) :
    Odd (trailingBackslashes (as ++ bs)) ↔ Odd (trailingBackslashes bs) := by
  induction bs using List.reverseRecOn with
  | nil =>
    rw [List.append_nil]
    exact iff_of_false h (by decide)
  | append_singleton bs b ih =>
    rw [← List.append_assoc, trailingBackslashes_concat, trailingBackslashes_concat]
    split
    · rw [Nat.odd_add_one, Nat.odd_add_one, ih]
    · rfl

theorem trailingBackslashes_escapeChar (c : Char) : ¬ Odd (trailingBackslashes (escapeChar c)) := by
  rcases escapeChar_cases c with ⟨e, hescape, he⟩ | ⟨hescape, hbackslash, -, -⟩
  · rw [hescape]
    by_cases h : e = '\\'
    · subst h
      decide
    · have hrun := trailingBackslashes_concat ['\\'] e
      rw [if_neg h] at hrun
      rw [show ['\\', e] = ['\\'] ++ [e] from rfl, hrun]
      decide
  · have hrun := trailingBackslashes_concat [] c
    rw [if_neg hbackslash] at hrun
    rw [hescape, ← List.nil_append [c], hrun]
    decide

/-- A quote among the characters that stand for one. -/
theorem odd_before_quote_escapeChar {c : Char} {pre post : List Char}
    (h : escapeChar c = pre ++ '"' :: post) : Odd (trailingBackslashes pre) := by
  rcases escapeChar_cases c with ⟨e, hescape, -⟩ | ⟨hescape, -, hquote, -⟩
  · rw [hescape] at h
    match pre with
    | [] => exact absurd (List.cons.inj h).1 (by decide)
    | [b] =>
      obtain rfl := (List.cons.inj h).1
      decide
    | b :: d :: pre =>
      have hlength := congrArg List.length h
      simp at hlength
  · rw [hescape] at h
    match pre with
    | [] => exact absurd (List.cons.inj h).1 hquote
    | b :: pre =>
      have hlength := congrArg List.length h
      simp at hlength

/-- Every quote is escaped. -/
theorem odd_before_quote {s post : List Char} (pre : List Char)
    (h : promEscape s = pre ++ '"' :: post) : Odd (trailingBackslashes pre) := by
  induction s generalizing pre with
  | nil => exact absurd h (by simp [promEscape, replaceChar])
  | cons c s ih =>
    rw [promEscape_cons] at h
    rcases List.append_eq_append_iff.mp h with ⟨pre', rfl, hrest⟩ | ⟨within, hescape, hrest⟩
    · exact (odd_trailingBackslashes_append (trailingBackslashes_escapeChar c) pre').mpr
        (ih _ hrest)
    · cases within with
      | nil => exact absurd (ih [] hrest.symm) (by decide)
      | cons d within =>
        obtain rfl := (List.cons.inj hrest).1
        exact odd_before_quote_escapeChar hescape

/-- For all texts: undoing the escapes gives the text back, the output has no newline and only
quotes after an odd run of backslashes, different texts are escaped differently, and the output
between quotes is read as one literal whose value is the text, whatever follows. -/
theorem prom_escape_faithful :
    (∀ s, unescape (promEscape s) = some s) ∧ (∀ s, '\n' ∉ promEscape s) ∧
      (∀ s pre post, promEscape s = pre ++ '"' :: post → Odd (trailingBackslashes pre)) ∧
      Function.Injective promEscape ∧
      ∀ s rest, lexLiteral ('"' :: (promEscape s ++ '"' :: rest)) = some (s, rest) :=
  ⟨unescape_promEscape, newline_notMem_promEscape, fun _ pre _ => odd_before_quote pre,
    promEscape_injective, lexBody_promEscape⟩

end Kubinate.Observability
