import Mathlib.Data.List.Basic
import Kubinate.Platform.Text
import Kubinate.Platform.Types

/-!
# Labels as text

The pairs `name="value"` between braces, as `crates/observability/src/metrics.rs` writes
them and as the text exposition format and PromQL read them. The reader is a machine over
characters, so that what it does on a text that was put together from parts is what it does
on one part after the other.

* `scan_parts`: the label list that the code writes reads back as it was, if the names are
  legal.
* `legal_of_step`: every label that is read has a legal name.
-/

namespace Kubinate.Observability

open Platform

structure Label where
  name : String
  value : String
deriving DecidableEq, Repr

/-! ## Writing -/

/-- `prom_escape` -/
def promEscape (s : List Char) : List Char :=
  replaceChar (replaceChar (replaceChar s '\\' ['\\', '\\']) '"' ['\\', '"']) '\n' ['\\', 'n']

/-- `format!("{}=\"{}\"", l.name, prom_escape(&l.value))` -/
def labelText (name value : String) : List Char :=
  name.toList ++ ('=' :: '"' :: (promEscape value.toList ++ ['"']))

/-- What becomes of one character. -/
def escapeChar (c : Char) : List Char :=
  if c = '\\' then ['\\', '\\'] else if c = '"' then ['\\', '"']
  else if c = '\n' then ['\\', 'n'] else [c]

theorem promEscape_eq (s : List Char) : promEscape s = s.flatMap escapeChar := by
  induction s with
  | nil => rfl
  | cons c s ih =>
    have happend : ∀ a b : List Char, promEscape (a ++ b) = promEscape a ++ promEscape b := by
      intro a b
      simp only [promEscape, replaceChar, List.flatMap_append]
    have hchar : promEscape [c] = escapeChar c := by
      by_cases hbackslash : c = '\\'
      · subst hbackslash
        rfl
      · by_cases hquote : c = '"'
        · subst hquote
          rfl
        · by_cases hnewline : c = '\n'
          · subst hnewline
            rfl
          · simp [promEscape, replaceChar, escapeChar, hbackslash, hquote, hnewline]
    rw [List.flatMap_cons, ← ih, ← hchar, ← happend, List.singleton_append]

/-- The text of an id has nothing to escape. -/
theorem promEscape_uuid (u : Uuid) : promEscape u.text.toList = u.text.toList := by
  have hplain : ∀ c ∈ u.text.toList, escapeChar c = [c] := by
    intro c hc
    rw [Uuid.text, String.toList_ofList] at hc
    rcases Uuid.mem_chars hc with rfl | ⟨k, rfl⟩
    · rfl
    · have hall : ∀ n : Fin 16, escapeChar n.val.digitChar = [n.val.digitChar] := by decide
      exact hall ⟨u.toNat / 16 ^ k % 16, Nat.mod_lt _ (by decide)⟩
  rw [promEscape_eq]
  generalize u.text.toList = cs at hplain ⊢
  induction cs with
  | nil => rfl
  | cons c cs ih =>
    rw [List.flatMap_cons, hplain c List.mem_cons_self,
      ih fun c hc => hplain c (List.mem_cons_of_mem _ hc), List.singleton_append]

/-! ## Names -/

def isLabelStart (c : Char) : Bool := c.isAlpha || c == '_'

def isLabelChar (c : Char) : Bool := c.isAlpha || c == '_' || c.isDigit

/-- `[a-zA-Z_][a-zA-Z0-9_]*` -/
def legalLabelName : List Char → Bool
  | [] => false
  | c :: cs => isLabelStart c && cs.all isLabelChar

/-! ## Reading -/

/-- The two languages that have label lists. -/
inductive Dialect where
  | exposition
  | promql
deriving DecidableEq, Repr

/-- The white space between tokens. In the exposition format a line feed ends the sample. -/
def Dialect.blank : Dialect → Char → Bool
  | .exposition, c => c == ' ' || c == '\t'
  | .promql, c => c == ' ' || c == '\t' || c == '\n' || c == '\r'

/-- Whether a label can be compared with `!=`, `=~` and `!~`. -/
def Dialect.comparisons : Dialect → Bool
  | .exposition => false
  | .promql => true

inductive MatchOp where
  | eq
  | ne
  | re
  | nre
deriving DecidableEq, Repr

structure Matcher where
  label : String
  op : MatchOp
  value : String
deriving DecidableEq, Repr

/-- Where the reader is between the braces. `items` are the pairs read so far, and tokens
are collected in reverse. -/
inductive Braces where
  | opened (items : List Matcher)
  | label (items : List Matcher) (rev : List Char)
  | labelled (items : List Matcher) (name : List Char)
  | equals (items : List Matcher) (name : List Char)
  | bang (items : List Matcher) (name : List Char)
  | operand (items : List Matcher) (name : List Char) (op : MatchOp)
  | quoted (items : List Matcher) (name : List Char) (op : MatchOp) (rev : List Char)
  | escaped (items : List Matcher) (name : List Char) (op : MatchOp) (rev : List Char)
  | item (items : List Matcher)
deriving DecidableEq, Repr

inductive Scanned where
  | more (state : Braces)
  | closed (items : List Matcher)
  | bad
deriving DecidableEq, Repr

/-- The character after a label's name. -/
def Braces.afterName (d : Dialect) (items : List Matcher) (name : List Char) (c : Char) :
    Scanned :=
  if d.blank c then .more (.labelled items name)
  else if c = '=' then .more (.equals items name)
  else if c = '!' && d.comparisons then .more (.bang items name)
  else .bad

def Braces.step (d : Dialect) : Braces → Char → Scanned
  | .opened items, c =>
    if d.blank c then .more (.opened items)
    else if c = '}' then .closed items
    else if isLabelStart c then .more (.label items [c])
    else .bad
  | .label items rev, c =>
    if isLabelChar c then .more (.label items (c :: rev))
    else Braces.afterName d items rev.reverse c
  | .labelled items name, c => Braces.afterName d items name c
  | .equals items name, c =>
    if c = '"' then .more (.quoted items name .eq [])
    else if d.blank c then .more (.operand items name .eq)
    else if c = '~' && d.comparisons then .more (.operand items name .re)
    else .bad
  | .bang items name, c =>
    if c = '=' then .more (.operand items name .ne)
    else if c = '~' then .more (.operand items name .nre)
    else .bad
  | .operand items name op, c =>
    if d.blank c then .more (.operand items name op)
    else if c = '"' then .more (.quoted items name op [])
    else .bad
  | .quoted items name op rev, c =>
    if c = '"' then
      .more (.item (items ++ [⟨String.ofList name, op, String.ofList rev.reverse⟩]))
    else if c = '\\' then .more (.escaped items name op rev)
    else if c = '\n' then .bad
    else .more (.quoted items name op (c :: rev))
  | .escaped items name op rev, c =>
    if c = '\\' then .more (.quoted items name op ('\\' :: rev))
    else if c = '"' then .more (.quoted items name op ('"' :: rev))
    else if c = 'n' then .more (.quoted items name op ('\n' :: rev))
    else .bad
  | .item items, c =>
    if d.blank c then .more (.item items)
    else if c = ',' then .more (.opened items)
    else if c = '}' then .closed items
    else .bad

/-- Reads a text that does not go beyond the closing brace. -/
def Braces.scan (d : Dialect) : Braces → List Char → Option Braces
  | b, [] => some b
  | b, c :: cs =>
    match b.step d c with
    | .more b' => b'.scan d cs
    | _ => none

namespace Braces

variable {d : Dialect} {items : List Matcher} {b b' : Braces}

theorem scan_of_step {c : Char} {cs : List Char} (h : b.step d c = .more b') :
    b.scan d (c :: cs) = b'.scan d cs := by
  rw [scan, h]

theorem scan_append {as bs : List Char} (h : b.scan d as = some b') :
    b.scan d (as ++ bs) = b'.scan d bs := by
  induction as generalizing b with
  | nil =>
    cases h
    rfl
  | cons c as ih =>
    rw [scan] at h
    rw [List.cons_append, scan]
    cases hstep : b.step d c with
    | more next =>
      simp only [hstep] at h
      exact ih h
    | closed _ =>
      simp only [hstep] at h
      cases h
    | bad =>
      simp only [hstep] at h
      cases h

theorem not_blank_of_labelStart {c : Char} (h : isLabelStart c = true) : d.blank c = false := by
  have hne : ∀ w : Char, isLabelStart w = false → (c == w) = false := by
    intro w hw
    rw [beq_eq_false_iff_ne]
    rintro rfl
    rw [h] at hw
    cases hw
  cases d with
  | exposition => simp only [Dialect.blank, hne ' ' rfl, hne '\t' rfl, Bool.or_false]
  | promql =>
    simp only [Dialect.blank, hne ' ' rfl, hne '\t' rfl, hne '\n' rfl, hne '\r' rfl, Bool.or_false]

theorem scan_labelChars (name rev : List Char) (h : name.all isLabelChar = true) :
    (Braces.label items rev).scan d name = some (.label items (name.reverse ++ rev)) := by
  induction name generalizing rev with
  | nil => rfl
  | cons c name ih =>
    rw [List.all_cons, Bool.and_eq_true] at h
    have hstep : (Braces.label items rev).step d c = .more (.label items (c :: rev)) :=
      if_pos h.1
    rw [scan_of_step hstep, ih (c :: rev) h.2, List.reverse_cons, List.append_assoc,
      List.singleton_append]

theorem scan_name {name : List Char} (h : legalLabelName name = true) :
    (Braces.opened items).scan d name = some (.label items name.reverse) := by
  cases name with
  | nil => cases h
  | cons c name =>
    rw [legalLabelName, Bool.and_eq_true] at h
    have hbrace : c ≠ '}' := by
      rintro rfl
      exact absurd h.1 (by decide)
    have hblank : ¬ d.blank c = true := by
      rw [not_blank_of_labelStart h.1]
      exact Bool.false_ne_true
    have hstep : (Braces.opened items).step d c = .more (.label items [c]) :=
      (if_neg hblank).trans ((if_neg hbrace).trans (if_pos h.1))
    rw [scan_of_step hstep, scan_labelChars name [c] h.2, List.reverse_cons]

/-- Reading undoes the escaping. -/
theorem scan_promEscape (value : List Char) (name rev : List Char) (op : MatchOp) :
    (Braces.quoted items name op rev).scan d (promEscape value) =
      some (.quoted items name op (value.reverse ++ rev)) := by
  rw [promEscape_eq]
  induction value generalizing rev with
  | nil => rfl
  | cons c value ih =>
    have hchar : (Braces.quoted items name op rev).scan d (escapeChar c) =
        some (.quoted items name op (c :: rev)) := by
      by_cases hbackslash : c = '\\'
      · subst hbackslash
        rfl
      · by_cases hquote : c = '"'
        · subst hquote
          rfl
        · by_cases hnewline : c = '\n'
          · subst hnewline
            rfl
          · have hstep : (Braces.quoted items name op rev).step d c =
                .more (.quoted items name op (c :: rev)) :=
              (if_neg hquote).trans ((if_neg hbackslash).trans (if_neg hnewline))
            rw [escapeChar, if_neg hbackslash, if_neg hquote, if_neg hnewline, scan_of_step hstep]
            rfl
    rw [List.flatMap_cons, scan_append hchar, ih, List.reverse_cons, List.append_assoc,
      List.singleton_append]

/-- One pair of the list. -/
theorem scan_labelText {name value : String} (h : legalLabelName name.toList = true) :
    (Braces.opened items).scan d (labelText name value) =
      some (.item (items ++ [⟨name, .eq, value⟩])) := by
  have hequals : ∀ rest, (Braces.label items name.toList.reverse).scan d ('=' :: '"' :: rest) =
      (Braces.quoted items name.toList .eq []).scan d rest := by
    intro rest
    have hstep : (Braces.label items name.toList.reverse).step d '=' =
        .more (.equals items name.toList.reverse.reverse) := by
      cases d <;> rfl
    rw [scan_of_step hstep, scan_of_step rfl, List.reverse_reverse]
  rw [labelText, scan_append (scan_name h), hequals,
    scan_append (scan_promEscape value.toList name.toList [] .eq), scan_of_step rfl]
  simp [scan]

/-- The pairs with commas between them. -/
theorem scan_cons_parts (l : Label) (ls : List Label)
    (h : ∀ k ∈ l :: ls, legalLabelName k.name.toList = true) :
    (Braces.opened items).scan d
        ([','].intercalate ((l :: ls).map fun k => labelText k.name k.value)) =
      some (.item (items ++ (l :: ls).map fun k => ⟨k.name, .eq, k.value⟩)) := by
  induction ls generalizing l items with
  | nil =>
    simp only [List.map_cons, List.map_nil, List.intercalate_singleton]
    exact scan_labelText (h l List.mem_cons_self)
  | cons l' ls ih =>
    have hcomma : ∀ items rest, (Braces.item items).scan d (',' :: rest) =
        (Braces.opened items).scan d rest := by
      intro items rest
      exact scan_of_step (by cases d <;> rfl)
    have hrest : (Braces.opened (items ++ [⟨l.name, .eq, l.value⟩])).scan d _ = _ :=
      ih l' fun k hk => h k (List.mem_cons_of_mem _ hk)
    rw [List.map_cons, List.map_cons, List.intercalate_cons_cons, List.append_assoc,
      scan_append (scan_labelText (h l List.mem_cons_self)), List.singleton_append, hcomma]
    refine hrest.trans ?_
    rw [List.append_assoc]
    rfl

theorem scan_parts {ls : List Label} (hne : ls ≠ [])
    (h : ∀ l ∈ ls, legalLabelName l.name.toList = true) :
    (Braces.opened []).scan d ([','].intercalate (ls.map fun l => labelText l.name l.value)) =
      some (.item (ls.map fun l => ⟨l.name, .eq, l.value⟩)) := by
  obtain ⟨l, ls, rfl⟩ := List.exists_cons_of_ne_nil hne
  exact scan_cons_parts l ls h

/-! ## What is read is legal -/

def LegalItems (items : List Matcher) : Prop :=
  ∀ m ∈ items, legalLabelName m.label.toList = true

/-- The name that is being read is legal so far, and so are those read before. -/
def Legal : Braces → Prop
  | .opened items => LegalItems items
  | .item items => LegalItems items
  | .label items rev => LegalItems items ∧ legalLabelName rev.reverse = true
  | .labelled items name => LegalItems items ∧ legalLabelName name = true
  | .equals items name => LegalItems items ∧ legalLabelName name = true
  | .bang items name => LegalItems items ∧ legalLabelName name = true
  | .operand items name _ => LegalItems items ∧ legalLabelName name = true
  | .quoted items name _ _ => LegalItems items ∧ legalLabelName name = true
  | .escaped items name _ _ => LegalItems items ∧ legalLabelName name = true

def Scanned.Legal : Scanned → Prop
  | .more b => b.Legal
  | .closed items => LegalItems items
  | .bad => True

theorem legalLabelName_append {name : List Char} {c : Char} (h : legalLabelName name = true)
    (hc : isLabelChar c = true) : legalLabelName (name ++ [c]) = true := by
  cases name with
  | nil => cases h
  | cons start name =>
    rw [legalLabelName, Bool.and_eq_true] at h
    rw [List.cons_append, legalLabelName, h.1, List.all_append, h.2]
    simp [hc]

theorem legal_afterName {name : List Char} {c : Char}
    (h : LegalItems items ∧ legalLabelName name = true) :
    Scanned.Legal (afterName d items name c) := by
  rw [afterName]
  split
  · exact h
  · split
    · exact h
    · split
      · exact h
      · trivial

theorem legal_of_step {c : Char} (h : b.Legal) : Scanned.Legal (b.step d c) := by
  cases b with
  | opened items =>
    rw [step]
    split
    · exact h
    · split
      · exact h
      · split
        · next hstart =>
          refine ⟨h, ?_⟩
          simp [legalLabelName, hstart]
        · trivial
  | label items rev =>
    rw [step]
    split
    · next hchar =>
      refine ⟨h.1, ?_⟩
      rw [List.reverse_cons]
      exact legalLabelName_append h.2 hchar
    · exact legal_afterName h
  | labelled items name => exact legal_afterName h
  | equals items name =>
    rw [step]
    split
    · exact h
    · split
      · exact h
      · split
        · exact h
        · trivial
  | bang items name =>
    rw [step]
    split
    · exact h
    · split
      · exact h
      · trivial
  | operand items name op =>
    rw [step]
    split
    · exact h
    · split
      · exact h
      · trivial
  | quoted items name op rev =>
    rw [step]
    split
    · intro m hm
      rcases List.mem_append.mp hm with hm | hm
      · exact h.1 m hm
      · rw [List.mem_singleton.mp hm]
        simpa using h.2
    · split
      · exact h
      · split
        · trivial
        · exact h
  | escaped items name op rev =>
    rw [step]
    split
    · exact h
    · split
      · exact h
      · split
        · exact h
        · trivial
  | item items =>
    rw [step]
    split
    · exact h
    · split
      · exact h
      · split
        · exact h
        · trivial

end Braces

end Kubinate.Observability
