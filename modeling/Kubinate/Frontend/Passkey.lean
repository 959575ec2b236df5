import Kubinate.Frontend.Base64Url

/-!
# Passkey ceremonies in the browser

The conversions of WebAuthn JSON of `frontend/src/lib/api/passkey.ts`, and what the page of the
security settings does with them between the two requests of a ceremony.

* `confirmRegister_urlText`, `assert_urlText`: the authenticator is shown the bytes of the server,
  and the server is sent the bytes of the authenticator.
* `assert_id_listed`: a listed credential that answers is sent under the id in the list.
-/

namespace Kubinate.Frontend

open Library Platform

/-! ## What is converted

`β` is the type of binary members, and `M` that of the other members of an object, which are
copied. -/

structure Descriptor (β M : Type) where
  id : β
  type : String
  rest : M

structure User (β M : Type) where
  id : β
  rest : M

structure CreationOptions (β M : Type) where
  challenge : β
  user : User β M
  excludeCredentials : Option (List (Descriptor β M))
  rest : M

structure RequestOptions (β M : Type) where
  challenge : β
  allowCredentials : Option (List (Descriptor β M))
  rest : M

inductive AuthenticatorResponse (β : Type) where
  | attestation (clientDataJSON attestationObject : β)
  | assertion (clientDataJSON authenticatorData signature : β) (userHandle : Option β)

structure Credential (β M : Type) where
  id : JsString
  rawId : β
  type : String
  clientExtensionResults : M
  response : AuthenticatorResponse β

variable {β γ M : Type}

def Descriptor.map (f : β → γ) (c : Descriptor β M) : Descriptor γ M := ⟨f c.id, c.type, c.rest⟩

def CreationOptions.map (f : β → γ) (pk : CreationOptions β M) : CreationOptions γ M :=
  ⟨f pk.challenge, ⟨f pk.user.id, pk.user.rest⟩,
    pk.excludeCredentials.map (List.map (Descriptor.map f)), pk.rest⟩

def RequestOptions.map (f : β → γ) (pk : RequestOptions β M) : RequestOptions γ M :=
  ⟨f pk.challenge, pk.allowCredentials.map (List.map (Descriptor.map f)), pk.rest⟩

def AuthenticatorResponse.map (f : β → γ) : AuthenticatorResponse β → AuthenticatorResponse γ
  | .attestation clientDataJSON attestationObject =>
    .attestation (f clientDataJSON) (f attestationObject)
  | .assertion clientDataJSON authenticatorData signature userHandle =>
    .assertion (f clientDataJSON) (f authenticatorData) (f signature) (userHandle.map f)

def Credential.map (f : β → γ) (credential : Credential β M) : Credential γ M :=
  ⟨credential.id, f credential.rawId, credential.type, credential.clientExtensionResults,
    credential.response.map f⟩

def Descriptor.toBuffer (c : Descriptor JsString M) :
    Except DOMException (Descriptor (List UInt8) M) := do
  return ⟨← base64UrlToBuffer c.id, c.type, c.rest⟩

def webauthnJsonToCreate (pk : CreationOptions JsString M) :
    Except DOMException (CreationOptions (List UInt8) M) := do
  let challenge ← base64UrlToBuffer pk.challenge
  let id ← base64UrlToBuffer pk.user.id
  let excludeCredentials ← (pk.excludeCredentials.getD []).mapM Descriptor.toBuffer
  return ⟨challenge, ⟨id, pk.user.rest⟩, some excludeCredentials, pk.rest⟩

def webauthnJsonToGet (pk : RequestOptions JsString M) :
    Except DOMException (RequestOptions (List UInt8) M) := do
  let challenge ← base64UrlToBuffer pk.challenge
  let allowCredentials ← (pk.allowCredentials.getD []).mapM Descriptor.toBuffer
  return ⟨challenge, some allowCredentials, pk.rest⟩

def credentialToJson (credential : Credential (List UInt8) M) :
    Except DOMException (Credential JsString M) := do
  let rawId ← bufferToBase64Url credential.rawId
  let response ← match credential.response with
    | .attestation clientDataJSON attestationObject => do
      let clientDataJSON ← bufferToBase64Url clientDataJSON
      let attestationObject ← bufferToBase64Url attestationObject
      pure (.attestation clientDataJSON attestationObject)
    | .assertion clientDataJSON authenticatorData signature userHandle => do
      let clientDataJSON ← bufferToBase64Url clientDataJSON
      let authenticatorData ← bufferToBase64Url authenticatorData
      let signature ← bufferToBase64Url signature
      let userHandle ← match userHandle with
        | some userHandle => some <$> bufferToBase64Url userHandle
        | none => pure none
      pure (.assertion clientDataJSON authenticatorData signature userHandle)
  return ⟨credential.id, rawId, credential.type, credential.clientExtensionResults, response⟩

/-- What is sent for the answer of the authenticator, which may give no credential. -/
def answerToJson : Option (Credential (List UInt8) M) →
    Except DOMException (Option (Credential JsString M))
  | none => return none
  | some credential => do return some (← credentialToJson credential)

/-- What the page does between the two requests of a registration. -/
def confirmRegister
    (create : CreationOptions (List UInt8) M → Option (Credential (List UInt8) M))
    (challenge : CreationOptions JsString M) :
    Except DOMException (Option (Credential JsString M)) := do
  let options ← webauthnJsonToCreate challenge
  answerToJson (create options)

/-- What the page does between the two requests of an assertion. -/
def assert (get : RequestOptions (List UInt8) M → Option (Credential (List UInt8) M))
    (challenge : RequestOptions JsString M) :
    Except DOMException (Option (Credential JsString M)) := do
  let options ← webauthnJsonToGet challenge
  answerToJson (get options)

section Ceremonies

theorem bufferToBase64Url_urlText (b : List UInt8) : bufferToBase64Url b = .ok (urlText b) :=
  bufferToBase64Url_eq_server b

theorem mapM_toBuffer (cs : List (Descriptor (List UInt8) M)) :
    (cs.map (Descriptor.map urlText)).mapM Descriptor.toBuffer = .ok cs := by
  induction cs with
  | nil => rfl
  | cons c cs ih =>
    have hc : (c.map urlText).toBuffer = .ok c := by
      rw [Descriptor.toBuffer, Descriptor.map, base64UrlToBuffer_urlText]
      rfl
    rw [List.map_cons, List.mapM_cons, hc, ih]
    rfl

theorem getD_map_nil (f : β → γ) (o : Option (List β)) :
    (o.map (List.map f)).getD [] = (o.getD []).map f := by
  cases o with
  | none => rfl
  | some l => rfl

/-- The authenticator is shown the bytes of the server. -/
theorem webauthnJsonToCreate_urlText (pk : CreationOptions (List UInt8) M) :
    webauthnJsonToCreate (pk.map urlText) =
      .ok { pk with excludeCredentials := some (pk.excludeCredentials.getD []) } := by
  simp only [webauthnJsonToCreate, CreationOptions.map, base64UrlToBuffer_urlText, getD_map_nil,
    mapM_toBuffer]
  rfl

theorem webauthnJsonToGet_urlText (pk : RequestOptions (List UInt8) M) :
    webauthnJsonToGet (pk.map urlText) =
      .ok { pk with allowCredentials := some (pk.allowCredentials.getD []) } := by
  simp only [webauthnJsonToGet, RequestOptions.map, base64UrlToBuffer_urlText, getD_map_nil,
    mapM_toBuffer]
  rfl

/-- The server is sent the bytes of the authenticator. -/
theorem credentialToJson_eq (credential : Credential (List UInt8) M) :
    credentialToJson credential = .ok (credential.map urlText) := by
  obtain ⟨id, rawId, type, extensions, response⟩ := credential
  cases response with
  | attestation clientDataJSON attestationObject =>
    simp only [credentialToJson, bufferToBase64Url_urlText]
    rfl
  | assertion clientDataJSON authenticatorData signature userHandle =>
    cases userHandle with
    | none =>
      simp only [credentialToJson, bufferToBase64Url_urlText]
      rfl
    | some userHandle =>
      simp only [credentialToJson, bufferToBase64Url_urlText]
      rfl

theorem answerToJson_eq (answer : Option (Credential (List UInt8) M)) :
    answerToJson answer = .ok (answer.map (Credential.map urlText)) := by
  cases answer with
  | none => rfl
  | some credential =>
    rw [answerToJson, credentialToJson_eq]
    rfl

/-- A registration never fails for the bytes that are in it: the authenticator answers what the
server has sent, and the server gets what the authenticator has answered. -/
theorem confirmRegister_urlText
    (create : CreationOptions (List UInt8) M → Option (Credential (List UInt8) M))
    (pk : CreationOptions (List UInt8) M) :
    confirmRegister create (pk.map urlText) =
      .ok ((create { pk with excludeCredentials := some (pk.excludeCredentials.getD []) }).map
        (Credential.map urlText)) := by
  rw [confirmRegister, webauthnJsonToCreate_urlText]
  exact answerToJson_eq _

theorem assert_urlText (get : RequestOptions (List UInt8) M → Option (Credential (List UInt8) M))
    (pk : RequestOptions (List UInt8) M) :
    assert get (pk.map urlText) =
      .ok ((get { pk with allowCredentials := some (pk.allowCredentials.getD []) }).map
        (Credential.map urlText)) := by
  rw [assert, webauthnJsonToGet_urlText]
  exact answerToJson_eq _

end Ceremonies

/-! ## The id of the answer -/

section Listed

variable {α ε : Type}

theorem bind_eq_ok_iff {x : Except ε α} {f : α → Except ε β} {b : β} :
    (x >>= f) = .ok b ↔ ∃ a, x = .ok a ∧ f a = .ok b := by
  cases x with
  | error e => simp [bind, Except.bind]
  | ok a => simp [bind, Except.bind]

theorem mem_of_mapM {f : α → Except ε β} {l : List α} {r : List β} (h : l.mapM f = .ok r) {b : β}
    (hb : b ∈ r) : ∃ a ∈ l, f a = .ok b := by
  induction l generalizing r with
  | nil =>
    cases h
    cases hb
  | cons a l ih =>
    rw [List.mapM_cons, bind_eq_ok_iff] at h
    obtain ⟨b₀, hhead, h⟩ := h
    obtain ⟨r₀, htail, heq⟩ := bind_eq_ok_iff.mp h
    cases heq
    rcases List.mem_cons.mp hb with rfl | hb
    · exact ⟨a, List.mem_cons_self, hhead⟩
    · obtain ⟨a', ha', hread⟩ := ih htail hb
      exact ⟨a', List.mem_cons_of_mem a ha', hread⟩

/-- A canonical text is the one that the server writes for its bytes. -/
theorem eq_urlText_of_canonical {s : JsString} (h : Canonical s) {b : List UInt8}
    (hread : base64UrlToBuffer s = .ok b) : s = urlText b := by
  obtain ⟨b', hread', hwritten⟩ := written_back_of_canonical h
  obtain rfl : b = b' := Except.ok.inj (hread.symm.trans hread')
  exact Except.ok.inj (hwritten.symm.trans (bufferToBase64Url_urlText b))

/-- Where all listed ids are canonical and a listed credential answers, the id that is sent is one
of the list. -/
theorem assert_id_listed {pk : RequestOptions JsString M}
    {get : RequestOptions (List UInt8) M → Option (Credential (List UInt8) M)}
    {json : Credential JsString M}
    (hcanonical : ∀ c ∈ pk.allowCredentials.getD [], Canonical c.id)
    (hget : ∀ options credential, get options = some credential →
      ∃ c ∈ options.allowCredentials.getD [], c.id = credential.rawId)
    (h : assert get pk = .ok (some json)) :
    ∃ c ∈ pk.allowCredentials.getD [], c.id = json.rawId := by
  obtain ⟨options, hoptions, hanswer⟩ := bind_eq_ok_iff.mp h
  rw [answerToJson_eq] at hanswer
  obtain ⟨credential, hcredential, rfl⟩ := Option.map_eq_some_iff.mp (Except.ok.inj hanswer)
  obtain ⟨d, hd, hrawId⟩ := hget options credential hcredential
  obtain ⟨challenge, -, hoptions⟩ := bind_eq_ok_iff.mp hoptions
  obtain ⟨listed, hlisted, heq⟩ := bind_eq_ok_iff.mp hoptions
  cases heq
  obtain ⟨c, hc, hread⟩ := mem_of_mapM hlisted hd
  obtain ⟨b, hb, heq⟩ := bind_eq_ok_iff.mp hread
  cases heq
  refine ⟨c, hc, ?_⟩
  rw [eq_urlText_of_canonical (hcanonical c hc) hb]
  exact congrArg urlText hrawId

end Listed

end Kubinate.Frontend
