import Mathlib.Data.List.Basic

/-!
# References that begin with a slash

How the URL standard resolves a reference against a URL with scheme `http` or `https`, as far as the
scheme, the host and the port of the result go. Other references are not read here; what makes a
host out of a text is a parameter.

* `clean`: what is read of a text.
* `authority`: the host and the port that are named behind two slashes.
* `resolve`: a reference with one slash stays with the base.
-/

namespace Kubinate.Library.Url

inductive Scheme where
  | http
  | https
deriving DecidableEq, Repr

def Scheme.defaultPort : Scheme → Nat
  | .http => 80
  | .https => 443

/-- The port is missing if it is the default of the scheme. -/
structure Origin (H : Type) where
  scheme : Scheme
  host : H
  port : Option Nat
deriving DecidableEq, Repr

/-! ## Characters -/

/-- C0 controls and the space, which do not count at the ends of a text. -/
def isC0OrSpace (c : Char) : Bool := c.toNat ≤ 32

/-- Characters that do not count anywhere. -/
def isTabOrNewline (c : Char) : Bool := c == '\t' || c == '\n' || c == '\r'

def isSlash (c : Char) : Bool := c == '/' || c == '\\'

def endsAuthority (c : Char) : Bool := isSlash c || c == '?' || c == '#'

def trimEnd (p : Char → Bool) : List Char → List Char
  | [] => []
  | c :: cs => if (trimEnd p cs).isEmpty && p c then [] else c :: trimEnd p cs

def clean (cs : List Char) : List Char :=
  (trimEnd isC0OrSpace (cs.dropWhile isC0OrSpace)).filter fun c => !isTabOrNewline c

/-! ## The states of the parser -/

/-- The authority state: up to the last `@` are credentials, and then there must be a host. -/
def withoutCredentials (cs : List Char) : Option (List Char) :=
  if cs.contains '@' then
    let host := (cs.reverse.takeWhile (· != '@')).reverse
    if host.isEmpty then none else some host
  else some cs

/-- The host state: a colon ends the host if it is not between brackets. -/
def splitPort : (inBrackets : Bool) → List Char → List Char × Option (List Char)
  | _, [] => ([], none)
  | inBrackets, c :: cs =>
    if c == ':' && !inBrackets then ([], some cs)
    else
      let inBrackets := c == '[' || (inBrackets && c != ']')
      (c :: (splitPort inBrackets cs).1, (splitPort inBrackets cs).2)

/-- The port state. -/
def readPort (scheme : Scheme) (digits : List Char) : Option (Option Nat) :=
  if !digits.all Char.isDigit then none
  else if digits.isEmpty then some none
  else
    let port := Nat.ofDigitChars 10 digits 0
    if 65535 < port then none
    else some (if port = scheme.defaultPort then none else some port)

section Resolve

variable {H : Type} (parseHost : List Char → Option H)

def authority (scheme : Scheme) (cs : List Char) : Option (Origin H) := do
  let text ← withoutCredentials (cs.takeWhile fun c => !endsAuthority c)
  let (host, port) := splitPort false text
  guard (!host.isEmpty)
  let host ← parseHost host
  let port ← (port.map (readPort scheme)).getD (some none)
  return ⟨scheme, host, port⟩

/-- The relative slash state, and the special authority ignore slashes state. -/
def afterSlash (base : Origin H) : List Char → Option (Origin H)
  | [] => some base
  | c :: cs =>
    if isSlash c then authority parseHost base.scheme (cs.dropWhile isSlash) else some base

/-- The relative state. -/
def resolve (base : Origin H) (reference : List Char) : Option (Origin H) :=
  match clean reference with
  | '/' :: cs => afterSlash parseHost base cs
  | _ => none

end Resolve

/-! ## Text that begins with a slash -/

theorem clean_slash (cs : List Char) :
    clean ('/' :: cs) = '/' :: (trimEnd isC0OrSpace cs).filter fun c => !isTabOrNewline c := by
  have hslash : isC0OrSpace '/' = false := rfl
  rw [clean, List.dropWhile_cons_of_neg (by rw [hslash]; exact Bool.false_ne_true), trimEnd, hslash,
    Bool.and_false, if_neg Bool.false_ne_true, List.filter_cons_of_pos (by rfl)]

/-- One slash stays with the base, two do so only if they name it. -/
theorem resolve_slash {H : Type} (parseHost : List Char → Option H) (base : Origin H)
    (cs : List Char) :
    resolve parseHost base ('/' :: cs) = some base ↔
      ∀ c rest, clean ('/' :: cs) = '/' :: c :: rest → isSlash c = true →
        authority parseHost base.scheme (rest.dropWhile isSlash) = some base := by
  rw [resolve, clean_slash]
  generalize (trimEnd isC0OrSpace cs).filter (fun c => !isTabOrNewline c) = ds
  change afterSlash parseHost base ds = some base ↔ _
  cases ds with
  | nil => exact ⟨fun _ c rest h => absurd (List.cons.inj h).2 (List.cons_ne_nil c rest).symm,
      fun _ => rfl⟩
  | cons c rest =>
    rw [afterSlash]
    by_cases hc : isSlash c = true
    · rw [if_pos hc]
      constructor
      · rintro h _ _ ⟨⟩ -
        exact h
      · exact fun h => h c rest rfl hc
    · rw [if_neg hc]
      exact ⟨fun _ c' rest' h hc' => absurd hc' ((List.cons.inj (List.cons.inj h).2).1 ▸ hc),
        fun _ => rfl⟩

end Kubinate.Library.Url
