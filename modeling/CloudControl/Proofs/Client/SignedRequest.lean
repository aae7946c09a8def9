import CloudControl.Proofs.Auth.Expiry
import CloudControl.Proofs.Form
import CloudControl.Simulator.Link

/-!
# A signed request reaches the server as it was signed

What a client sends in the query or in the body is what the server reads (`params_ofRequest`), so
the verdict on a signed request is the one on its parameters before they travelled. With the keys
of the server, `authorize_signed_request` says that the server accepts every request of a client,
whatever its parameters are, for as long as its signature is valid.
-/

namespace CloudControl

open Auth Simulator

/-- The signer with the keys of a server. -/
def Simulator.Settings.signer (settings : Settings) (ttl : Option Duration) : Signer :=
  ⟨settings.apiKey, settings.secretKey, ttl⟩

/-- A request that is signed at one time is valid at another. With a time to live the second of
the expiry must be a date, and the request is valid up to it; without one the request must not
name a version of signatures. -/
def IsValidAt (ttl : Option Duration) (params : List Param) (sentAt receivedAt : Instant) :
    Prop :=
  match ttl with
  | none => ∀ p ∈ params, isNamed versionParam p = false
  | some ttl => (sentAt.add ttl).isSupported = true ∧
      receivedAt.after (sentAt.add ttl).wholeSecond = false

/-! ## On the way -/

/-- The server reads the parameters that the client sends. -/
theorem params_ofRequest {client : Client} (h : client.endpoint.query = none) (verb : Verb)
    (pairs : List Param) (cookie : Option String) :
    (Incoming.ofRequest (client.requestOf verb pairs cookie)).params = pairs := by
  cases verb with
  | get =>
    show Form.parse (Form.encodePairs pairs) = pairs
    exact Form.parse_encodePairs pairs
  | post =>
    show Form.parse (client.endpoint.query.getD "") ++ Form.parse (Form.encodePairs pairs) = pairs
    rw [h, Form.parse_encodePairs]
    rfl

/-! ## At the server -/

/-- A request that carries a signature is judged by its key and its signature alone. -/
theorem authorize_of_signature {settings : Settings} {params : List Param} {signature : String}
    (hsignature : lookup? signatureParam params = some signature)
    (hkey : lookup? apiKeyParam params = some settings.apiKey) (s : State) (now : Instant)
    (cookies : List String) (hverify : verify params settings.secretKey now = .ok ()) :
    authorize settings s now params cookies = .ok () := by
  rw [authorize, if_pos (by rw [hsignature]; rfl), authorizeSigned, if_pos hkey, hverify]

/-- The check of the expiry passes while a request is valid. -/
theorem checkExpiry_of_valid {signer : Signer} {params : List Param} {sentAt receivedAt : Instant}
    (h : IsValidAt signer.timeToLive params sentAt receivedAt) :
    checkExpiry (signer.sign sentAt params) receivedAt = .ok () := by
  cases httl : signer.timeToLive with
  | none =>
    rw [httl] at h
    have hversion : lookup? versionParam params = none := lookup?_eq_none_iff.mpr h
    refine signer.checkExpiry_sign_of_none sentAt params httl ?_ receivedAt
    rw [hversion]
    exact nofun
  | some ttl =>
    rw [httl] at h
    obtain ⟨hsupported, hbefore⟩ := h
    rw [signer.checkExpiry_sign_of_some sentAt params httl hsupported, hbefore]
    rfl

/-- A signer can sign what is valid. -/
theorem canSign_of_valid {signer : Signer} {params : List Param} {sentAt receivedAt : Instant}
    (h : IsValidAt signer.timeToLive params sentAt receivedAt) : signer.canSign sentAt = true := by
  unfold Signer.canSign
  cases httl : signer.timeToLive with
  | none => rfl
  | some ttl =>
    rw [httl] at h
    exact h.1

/-- The server accepts every request of a client that has its keys, while the signature is valid:
the client has something to send, the server reads just that, and finds the signature right. -/
theorem authorize_signed_request (settings : Settings) (s : State) (client : Client) (verb : Verb)
    (command : String) (params : Params) (sentAt receivedAt : Instant) (ttl : Option Duration)
    (cookies : List String) (hclient : client.credentials = some (.signed (settings.signer ttl)))
    (hendpoint : client.endpoint.query = none)
    (hvalid : IsValidAt ttl params.entries sentAt receivedAt) :
    ∃ pairs, client.authenticate sentAt command params = .ok (pairs, none) ∧
      (Incoming.ofRequest (client.requestOf verb pairs none)).params = pairs ∧
      authorize settings s receivedAt
        (Incoming.ofRequest (client.requestOf verb pairs none)).params cookies = .ok () := by
  let signer := settings.signer ttl
  have hread := params_ofRequest hendpoint verb (signer.sign sentAt params.entries) none
  refine ⟨signer.sign sentAt params.entries, ?_, hread, ?_⟩
  · rw [Client.authenticate, hclient]
    exact if_pos (canSign_of_valid hvalid)
  · rw [hread]
    refine authorize_of_signature (signer.lookup?_signature_sign sentAt params.entries)
      (signer.lookup?_apiKey_sign sentAt params.entries) s receivedAt cookies ?_
    -- The secret of the server is the one of the signer.
    show verify (signer.sign sentAt params.entries) signer.secret receivedAt = .ok ()
    rw [signer.verify_sign_eq sentAt params.entries receivedAt]
    exact checkExpiry_of_valid hvalid

/-- Parameters that imitate the form encoding and bring keys and signatures of their own are
accepted from the query at any time, and from the body up to the second of their expiry. -/
theorem authorize_signed_request_imitation :
    let params : Params := ⟨[("APIKEY", "forged"), ("Signature", "old"), ("a&b=c", "x y+z%26é"),
      ("command", "listZones")], by decide⟩
    let client (ttl : Option Duration) : Client := ⟨⟨"http", "", "", some (.domain "localhost"),
      some 8080, .segments ["client", "api"], none, none⟩,
      some (.signed (Settings.usual.signer ttl))⟩
    let isAccepted (ttl : Option Duration) (verb : Verb) (receivedAt : Instant)
        (cookies : List String) : Prop :=
      ∃ pairs, (client ttl).authenticate ⟨1772366400, 5⟩ "listZones" params = .ok (pairs, none) ∧
        (Incoming.ofRequest ((client ttl).requestOf verb pairs none)).params = pairs ∧
        authorize Settings.usual .initial receivedAt
          (Incoming.ofRequest ((client ttl).requestOf verb pairs none)).params cookies = .ok ()
    isAccepted none .get ⟨0, 0⟩ [] ∧
      isAccepted (some (.ofSeconds 300)) .post ⟨1772366700, 0⟩ ["JSESSIONID=other"] := by
  intro params client isAccepted
  have hnone : ∀ p ∈ params.entries, isNamed versionParam p = false := by decide
  constructor
  · exact authorize_signed_request Settings.usual .initial (client none) .get "listZones" params
      ⟨1772366400, 5⟩ ⟨0, 0⟩ none [] rfl rfl hnone
  · exact authorize_signed_request Settings.usual .initial (client (some (.ofSeconds 300))) .post
      "listZones" params ⟨1772366400, 5⟩ ⟨1772366700, 0⟩ (some (.ofSeconds 300))
      ["JSESSIONID=other"] rfl rfl ⟨by decide, by decide⟩

end CloudControl
