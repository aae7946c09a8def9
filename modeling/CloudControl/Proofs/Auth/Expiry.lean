import CloudControl.Proofs.Auth.Parameters
import CloudControl.Proofs.Calendar.Instant

/-!
# The expiry of a signed request

A signer with a time to live writes down the whole second in which its signatures expire, and
the verifier reads that second back: `verify_sign` says that the request is accepted up to it and
refused as expired after it. A signer without one leaves the parameters of the expiry to the
caller, and these alone decide the verdict.
-/

namespace CloudControl.Auth

/-! ## The check of the expiry, case by case -/

section

variable {params : List Param}

/-- A request that announces no expiry passes. -/
theorem checkExpiry_of_no_version (h : lookup? versionParam params ≠ some expiringVersion)
    (t : Instant) : checkExpiry params t = .ok () := by
  rw [checkExpiry, if_neg h]

variable (hversion : lookup? versionParam params = some expiringVersion)
include hversion

/-- An expiry that is announced must be given. -/
theorem checkExpiry_of_missing (h : lookup? expiresParam params = none) (t : Instant) :
    checkExpiry params t = .error .missingExpiry := by
  rw [checkExpiry, if_pos hversion, h]

/-- An expiry that is announced must be a timestamp. -/
theorem checkExpiry_of_malformed {expires : String} (h : lookup? expiresParam params = some expires)
    (hread : Timestamp.ofText? expires = none) (t : Instant) :
    checkExpiry params t = .error (.malformedExpiry expires) := by
  simp only [checkExpiry, if_pos hversion, h, hread]

/-- A request passes up to the instant of its expiry. -/
theorem checkExpiry_of_deadline {expires : String} {deadline : Timestamp}
    (h : lookup? expiresParam params = some expires)
    (hread : Timestamp.ofText? expires = some deadline) (t : Instant) :
    checkExpiry params t =
      if t.after deadline.instant then .error (.expired expires) else .ok () := by
  simp only [checkExpiry, if_pos hversion, h, hread]

end

namespace Signer

variable (s : Signer) (now : Instant) (params : List Param)

/-- A signer with a time to live announces an expiry. -/
theorem lookup?_version_sign {ttl : Duration} (h : s.timeToLive = some ttl) :
    lookup? versionParam (s.sign now params) = some expiringVersion := by
  rw [lookup?_sign_of_ne s now params (by decide), prepare_of_some s now params h,
    lookup?_version_withExpiry]

/-- A signer with a time to live gives the expiry that it announces. -/
theorem lookup?_expires_sign {ttl : Duration} (h : s.timeToLive = some ttl) :
    lookup? expiresParam (s.sign now params) = some (expiryText now ttl) := by
  rw [lookup?_sign_of_ne s now params (by decide), prepare_of_some s now params h,
    lookup?_expires_withExpiry]

/-- A signer without a time to live leaves a parameter of the expiry to the caller. -/
theorem lookup?_sign_of_none {name : String} (h : s.timeToLive = none)
    (hsignature : Text.eqFolded name signatureParam = false)
    (hkey : Text.eqFolded name apiKeyParam = false) :
    lookup? name (s.sign now params) = lookup? name params := by
  rw [lookup?_sign_of_ne s now params (by rw [Text.eqFolded_comm, hsignature]),
    prepare_of_none s now params h, lookup?_own_of_ne s params hsignature hkey]

/-- A request that is signed with a time to live passes up to the whole second in which its
signature expires. -/
theorem checkExpiry_sign_of_some {ttl : Duration} (h : s.timeToLive = some ttl)
    (hsupported : (now.add ttl).isSupported = true) (t : Instant) :
    checkExpiry (s.sign now params) t =
      if t.after (now.add ttl).wholeSecond then .error (.expired (expiryText now ttl))
      else .ok () := by
  obtain ⟨deadline, hread, hinstant⟩ :=
    Option.map_eq_some_iff.mp (Instant.ofText?_instant hsupported)
  rw [checkExpiry_of_deadline (s.lookup?_version_sign now params h)
    (s.lookup?_expires_sign now params h) hread, hinstant]

/-- A request that is signed without a time to live passes if the caller announces no expiry. -/
theorem checkExpiry_sign_of_none (h : s.timeToLive = none)
    (hversion : lookup? versionParam params ≠ some expiringVersion) (t : Instant) :
    checkExpiry (s.sign now params) t = .ok () := by
  rw [← s.lookup?_sign_of_none now params h (by decide) (by decide)] at hversion
  exact checkExpiry_of_no_version hversion t

end Signer

/-- The verdict on a request under the secret that it was signed with. With a time to live, the
request is accepted up to the whole second in which the signature expires, and refused as expired
after it. Without one, it is accepted unless the caller announced an expiry, and then the first
expiry of the caller decides. -/
theorem verify_sign (s : Signer) (now t : Instant) (params : List Param) :
    (∀ ttl, s.timeToLive = some ttl → (now.add ttl).isSupported = true →
      verify (s.sign now params) s.secret t =
        if t.after (now.add ttl).wholeSecond then .error (.expired (Signer.expiryText now ttl))
        else .ok ()) ∧
    (s.timeToLive = none → lookup? versionParam params ≠ some expiringVersion →
      verify (s.sign now params) s.secret t = .ok ()) ∧
    (s.timeToLive = none → lookup? versionParam params = some expiringVersion →
      (lookup? expiresParam params = none →
        verify (s.sign now params) s.secret t = .error .missingExpiry) ∧
      (∀ expires, lookup? expiresParam params = some expires →
        (Timestamp.ofText? expires = none →
          verify (s.sign now params) s.secret t = .error (.malformedExpiry expires)) ∧
        (∀ deadline, Timestamp.ofText? expires = some deadline →
          verify (s.sign now params) s.secret t =
            if t.after deadline.instant then .error (.expired expires) else .ok ()))) := by
  rw [Signer.verify_sign_eq]
  refine ⟨?_, ?_, ?_⟩
  · intro ttl httl hsupported
    exact s.checkExpiry_sign_of_some now params httl hsupported t
  · intro hnone hversion
    exact s.checkExpiry_sign_of_none now params hnone hversion t
  · intro hnone hversion
    rw [← s.lookup?_sign_of_none now params hnone (by decide) (by decide)] at hversion
    have hexpires : lookup? expiresParam (s.sign now params) = lookup? expiresParam params :=
      s.lookup?_sign_of_none now params hnone (by decide) (by decide)
    rw [← hexpires]
    refine ⟨fun hmissing ↦ checkExpiry_of_missing hversion hmissing t, fun expires hexpires ↦ ?_⟩
    exact ⟨fun hread ↦ checkExpiry_of_malformed hversion hexpires hread t,
      fun deadline hread ↦ checkExpiry_of_deadline hversion hexpires hread t⟩

/-- A request that is signed half a second past noon for five minutes is accepted at five past
noon and refused a nanosecond later, whatever the caller said about its expiry. A caller who
announces an expiry to a signer without a time to live is held to it. -/
theorem verify_sign_past_noon :
    (⟨1772366400, 500000000⟩ : Instant).add (.ofSeconds 300) = ⟨1772366700, 500000000⟩ ∧
    (⟨1772366700, 500000000⟩ : Instant).isSupported = true ∧
    verify (Signer.sign ⟨"key", "secret", some (.ofSeconds 300)⟩ ⟨1772366400, 500000000⟩
      [("command", "listZones"), ("EXPIRES", "never")]) "secret" ⟨1772366700, 0⟩ = .ok () ∧
    verify (Signer.sign ⟨"key", "secret", some (.ofSeconds 300)⟩ ⟨1772366400, 500000000⟩
      [("command", "listZones"), ("EXPIRES", "never")]) "secret" ⟨1772366700, 1⟩ =
        .error (.expired "2026-03-01T12:05:00+0000") ∧
    verify (Signer.sign ⟨"key", "secret", none⟩ ⟨1772366400, 0⟩
      [("SIGNATUREVERSION", "3"), ("Expires", "2026-03-01T12:05:00+0530")]) "secret"
        ⟨1772366400, 0⟩ = .error (.expired "2026-03-01T12:05:00+0530") ∧
    verify (Signer.sign ⟨"key", "secret", none⟩ ⟨1772366400, 0⟩
      [("signatureVersion", "2"), ("signatureVersion", "3")]) "secret" ⟨1772366400, 0⟩ =
        .ok () := by
  refine ⟨by decide, by decide, ?_, ?_, ?_, ?_⟩
  · exact (verify_sign _ _ ⟨1772366700, 0⟩ _).1 (.ofSeconds 300) rfl (by decide)
  · exact (verify_sign _ _ ⟨1772366700, 1⟩ _).1 (.ofSeconds 300) rfl (by decide)
  · exact ((verify_sign _ _ ⟨1772366400, 0⟩ _).2.2 rfl (by decide)).2
      "2026-03-01T12:05:00+0530" (by decide) |>.2
      ⟨⟨2026, 3, 1⟩, 12, 5, 0, 0, 19800⟩ (by decide)
  · exact (verify_sign _ _ ⟨1772366400, 0⟩ _).2.1 rfl (by decide)

end CloudControl.Auth
