import Kubinate.Clusters.Model
import Kubinate.Library.Utf8

/-!
# The errors of the Hetzner API

`Client::get_json`, `post_json` and `delete_path` of `crates/integrations/src/hetzner.rs` keep the
body of a response that reports a failure, cut to 512 bytes. Slicing a text in the middle of a
character panics.

* `truncate`: `none` stands for the panic.
* `truncates_iff`: a text is cut as it should be iff it is short or a character ends at the limit.
* `reports_status_iff`: the same for the requests that are answered with a failure.
-/

namespace Kubinate.Integrations

open Platform Clusters Library

/-- `s[..max]`, which panics if `max` is not a character boundary. -/
def sliceTo (s : String) (max : Nat) : Option String :=
  (Utf8.splitAtByte s.toList max).map fun parts => String.ofList parts.1

def truncate (s : String) (max : Nat) : Option String :=
  if (Utf8.encode s.toList).length ≤ max then some s
  else (sliceTo s max).map fun cut => cut ++ "…"

/-! ## Requests -/

inductive Method where
  | get
  | post
  | delete
deriving DecidableEq, Repr

structure HttpRequest where
  method : Method
  url : String
  bearerAuth : String
  json : Option String := none

structure HttpResponse where
  status : Nat
  /-- the text of the body, or why it could not be read -/
  text : Except String String

def HttpResponse.isSuccess (response : HttpResponse) : Bool :=
  200 ≤ response.status && response.status < 300

/-- `response.text().await.unwrap_or_default()` -/
def HttpResponse.body (response : HttpResponse) : String := response.text.toOption.getD ""

def hetznerApiBase : String := "https://api.hetzner.cloud/v1"

/-- The client with its secret store and what the API answers. -/
structure Client where
  resolveToken : Except String String
  send : HttpRequest → Except String HttpResponse

namespace Client

variable (client : Client)

/-- What the three requests share. `none` if the task panics. -/
def request {T : Type} (method : Method) (path : String) (json : Option String)
    (read : HttpResponse → Except String T) : Option (Except HetznerError T) :=
  match client.resolveToken with
  | .error e => some (.error (.credential e))
  | .ok token =>
    match client.send ⟨method, hetznerApiBase ++ path, token, json⟩ with
    | .error e => some (.error (.transport e))
    | .ok response =>
      if response.isSuccess then
        match read response with
        | .error e => some (.error (.transport e))
        | .ok value => some (.ok value)
      else
        (truncate response.body 512).map fun body =>
          .error (.status response.status body)

def getJson {T : Type} (decode : String → Except String T) (path : String) :
    Option (Except HetznerError T) :=
  client.request .get path none fun response => response.text.bind decode

def postJson {T : Type} (decode : String → Except String T) (path body : String) :
    Option (Except HetznerError T) :=
  client.request .post path (some body) fun response => response.text.bind decode

def deletePath (path : String) : Option (Except HetznerError Unit) :=
  client.request .delete path none fun _ => .ok ()

end Client

/-! ## Cutting a text -/

/-- What `truncate` is for: a short text stays, and of a long one a prefix that fits. -/
def Truncates (s : String) (max : Nat) : Prop :=
  ∃ r, truncate s max = some r ∧
    ((Utf8.encode s.toList).length ≤ max → r = s) ∧
    (max < (Utf8.encode s.toList).length → ∃ p, p <+: s.toList ∧ (Utf8.encode p).length ≤ max ∧
      r = String.ofList p ++ "…")

/-- No character straddles the limit. -/
def Cuts (s : String) (max : Nat) : Prop :=
  (Utf8.encode s.toList).length ≤ max ∨ Utf8.isCharBoundary (Utf8.encode s.toList) max = true

instance (s : String) (max : Nat) : Decidable (Cuts s max) := inferInstanceAs (Decidable (_ ∨ _))

section Truncating

variable {s : String} {max : Nat}

theorem truncate_isSome : (truncate s max).isSome = true ↔ Cuts s max := by
  unfold truncate Cuts
  split
  · next hle => exact iff_of_true rfl (.inl hle)
  · next hlong =>
    rw [Option.isSome_map, sliceTo, Option.isSome_map, Utf8.isCharBoundary_encode]
    exact (or_iff_right hlong).symm

theorem truncates_of_cuts (h : Cuts s max) : Truncates s max := by
  obtain ⟨r, hr⟩ := Option.isSome_iff_exists.mp (truncate_isSome.mpr h)
  refine ⟨r, hr, ?_, ?_⟩
  · intro hle
    rw [truncate, if_pos hle] at hr
    exact (Option.some.inj hr).symm
  · intro hlong
    rw [truncate, if_neg (Nat.not_le.mpr hlong)] at hr
    obtain ⟨cut, hcut, rfl⟩ := Option.map_eq_some_iff.mp hr
    obtain ⟨⟨p, rest⟩, hsplit, rfl⟩ := Option.map_eq_some_iff.mp hcut
    obtain ⟨hparts, hlength⟩ := Utf8.eq_append_of_splitAtByte hsplit
    exact ⟨p, ⟨rest, hparts.symm⟩, hlength.le, rfl⟩

theorem truncates_iff : Truncates s max ↔ Cuts s max := by
  refine ⟨?_, truncates_of_cuts⟩
  rintro ⟨r, hr, -⟩
  exact truncate_isSome.mp (Option.isSome_iff_exists.mpr ⟨r, hr⟩)

end Truncating

/-! ## Reporting a failure -/

section Reporting

variable {T : Type} {client : Client} {method : Method} {path : String} {json : Option String}
  {response : HttpResponse}

/-- The response that a request receives, if it gets that far and the response is a failure. -/
def Client.failure (client : Client) (method : Method) (path : String) (json : Option String) :
    Option HttpResponse :=
  match client.resolveToken with
  | .error _ => none
  | .ok token =>
    match client.send ⟨method, hetznerApiBase ++ path, token, json⟩ with
    | .error _ => none
    | .ok response => if response.isSuccess then none else some response

/-- The request ends with the status of the response. -/
def ReportsStatus (result : Option (Except HetznerError T)) (status : Nat) : Prop :=
  ∃ body, result = some (.error (.status status body))

theorem request_of_failure {read : HttpResponse → Except String T}
    (h : client.failure method path json = some response) :
    client.request method path json read =
      (truncate response.body 512).map fun body => .error (.status response.status body) := by
  unfold Client.failure at h
  unfold Client.request
  cases htoken : client.resolveToken with
  | error e =>
    rw [htoken] at h
    cases h
  | ok token =>
    simp only [htoken] at h ⊢
    cases hsend : client.send ⟨method, hetznerApiBase ++ path, token, json⟩ with
    | error e =>
      rw [hsend] at h
      cases h
    | ok received =>
      simp only [hsend] at h ⊢
      split at h
      · cases h
      · next hfailed =>
        cases h
        rw [if_neg hfailed]

theorem reports_status_iff {read : HttpResponse → Except String T}
    (h : client.failure method path json = some response) :
    ReportsStatus (client.request method path json read) response.status ↔
      Cuts response.body 512 := by
  rw [← truncate_isSome, Option.isSome_iff_exists, ReportsStatus, request_of_failure h]
  constructor
  · rintro ⟨body, hbody⟩
    obtain ⟨cut, hcut, -⟩ := Option.map_eq_some_iff.mp hbody
    exact ⟨cut, hcut⟩
  · rintro ⟨cut, hcut⟩
    exact ⟨cut, by rw [hcut, Option.map_some]⟩

end Reporting

/-- For every text and limit, and every request that is answered with a failure: the text is
cut and the status reported iff no character straddles the limit. -/
theorem error_bodies_truncated_iff {T : Type} (client : Client) (decode : String → Except String T)
    (path json s : String) (max : Nat) :
    (Truncates s max ↔ Cuts s max) ∧
      (∀ response, client.failure .get path none = some response →
        (ReportsStatus (client.getJson decode path) response.status ↔ Cuts response.body 512)) ∧
      (∀ response, client.failure .post path (some json) = some response →
        (ReportsStatus (client.postJson decode path json) response.status ↔
          Cuts response.body 512)) ∧
      ∀ response, client.failure .delete path none = some response →
        (ReportsStatus (client.deletePath path) response.status ↔ Cuts response.body 512) :=
  ⟨truncates_iff, fun _ => reports_status_iff, fun _ => reports_status_iff,
    fun _ => reports_status_iff⟩

/-- A client whose requests are all answered in the same way. -/
def answering (status : Nat) (text : String) : Client :=
  ⟨.ok "token", fun _ => .ok ⟨status, .ok text⟩⟩

theorem error_bodies_truncated_iff_notFound :
    Truncates "not found" 3 ∧
      ReportsStatus ((answering 404 "not found").getJson (T := String) .ok "/servers/7") 404 ∧
      ReportsStatus ((answering 404 "not found").postJson (T := String) .ok "/servers" "") 404 ∧
      ReportsStatus ((answering 404 "not found").deletePath "/servers/7") 404 := by
  have hcuts : Cuts "not found" 3 ∧ Cuts "not found" 512 := by decide +kernel
  obtain ⟨htruncates, hget, -, hdelete⟩ := error_bodies_truncated_iff (answering 404 "not found")
    (.ok : String → Except String String) "/servers/7" "" "not found" 3
  obtain ⟨-, -, hpost, -⟩ := error_bodies_truncated_iff (answering 404 "not found")
    (.ok : String → Except String String) "/servers" "" "not found" 3
  exact ⟨htruncates.mpr hcuts.1, (hget _ rfl).mpr hcuts.2, (hpost _ rfl).mpr hcuts.2,
    (hdelete _ rfl).mpr hcuts.2⟩

/-- A body in which the 512th byte is the first of a letter with two. -/
def straddlingBody : String := String.ofList (List.replicate 511 'a' ++ ['é'])

/-- The limit of `n + 1` bytes falls into the letter that stands after `n` others. -/
theorem splitAtByte_straddling (n : Nat) :
    Utf8.splitAtByte (List.replicate n 'a' ++ ['é']) (n + 1) = none := by
  induction n with
  | zero => rfl
  | succ n ih =>
    have hsize : 'a'.utf8Size = 1 := rfl
    rw [List.replicate_succ, List.cons_append, Utf8.splitAtByte, if_neg (Nat.succ_ne_zero _), hsize,
      if_pos (by omega), Nat.add_sub_cancel, ih, Option.map_none]

theorem length_straddling (n : Nat) :
    (Utf8.encode (List.replicate n 'a' ++ ['é'])).length = n + 2 := by
  induction n with
  | zero => rfl
  | succ n ih =>
    have hlength : (String.utf8EncodeChar 'a').length = 1 := rfl
    rw [List.replicate_succ, List.cons_append, Utf8.encode_cons, List.length_append, ih]
    omega

theorem not_cuts_straddlingBody : ¬ Cuts straddlingBody 512 := by
  have hlist : straddlingBody.toList = List.replicate 511 'a' ++ ['é'] := String.toList_ofList
  rw [Cuts, hlist]
  rintro (hshort | hboundary)
  · have hlength := length_straddling 511
    omega
  · have hsplit := splitAtByte_straddling 511
    rw [Utf8.isCharBoundary_encode, hsplit] at hboundary
    cases hboundary

theorem not_error_bodies_truncated :
    (¬ ∀ (s : String) (max : Nat), Truncates s max) ∧
      ¬ ∀ (client : Client) (path : String) (response : HttpResponse),
        client.failure .delete path none = some response →
          ReportsStatus (client.deletePath path) response.status := by
  constructor
  · intro h
    exact not_cuts_straddlingBody (truncates_iff.mp (h straddlingBody 512))
  · intro h
    have hfailure : (answering 404 straddlingBody).failure .delete "/servers/7" none =
        some ⟨404, .ok straddlingBody⟩ := rfl
    exact not_cuts_straddlingBody
      ((reports_status_iff hfailure).mp (h _ "/servers/7" _ hfailure))

end Kubinate.Integrations
