import WebhookRelay.Proofs.Memory.Hazards
import WebhookRelay.Proofs.Operations
import WebhookRelay.Proofs.Signatures

/-!
# Only signed deliveries are let in

A service that has a secret does nothing about a request that is not signed with it. The check comes
before anything else is done, so a request that does not pass makes the whole program end at once in
an answer without a report (`Delivery.handle_of_not_signedWith`); what a run of it can do is then
read off (`Delivery.handle_gated`).

Which header counts as the signature is said by `Delivery.Request.header?_withHeaders`: the last one
whose name is that of the signature in whatever letter case.
-/

namespace WebhookRelay.Delivery

open Program

variable {C σ : Type} {conduct : Conduct C σ} {credentials : Credentials C} {s : Service}
  {r : Request} {secret : String} {st st' : σ} {trace : List (Exchange C)} {response : Response}

/-! ## Signed requests -/

namespace Request

/-- Whether a request carries a signature of exactly its body that holds for a secret. -/
def SignedWith (secret : String) (r : Request) : Prop :=
  ∃ value, r.headers.get? signatureHeader = some value ∧
    Signature.check secret value r.body = .ok ()

/-- The name of the header is written in lower case. -/
theorem lower_signatureHeader : Text.lower signatureHeader = signatureHeader := by decide

theorem header?_signatureHeader (r : Request) :
    r.header? signatureHeader = r.headers.get? signatureHeader := by
  rw [header?, lower_signatureHeader]

theorem checkSignature_eq_ok_iff : r.checkSignature (some secret) = .ok () ↔ r.SignedWith secret := by
  rw [checkSignature, SignedWith, header?_signatureHeader]
  rcases r.headers.get? signatureHeader with _ | value
  · simp
  · rcases hc : Signature.check secret value r.body with (_ | _) | ⟨⟩
    · simp [hc]
    · simp [hc]
    · simp [hc]

/-- A signature that is missing or does not hold is answered with one of two statuses. -/
theorem exists_checkSignature_eq_error (h : ¬r.SignedWith secret) :
    ∃ status message, (status = 400 ∨ status = 403) ∧
      r.checkSignature (some secret) = .error (.rejected status message) := by
  rcases hc : r.checkSignature (some secret) with e | ⟨⟩
  · rw [checkSignature] at hc
    split at hc
    · cases hc
      exact ⟨_, _, .inl rfl, rfl⟩
    · split at hc
      · cases hc
      · cases hc
        exact ⟨_, _, .inl rfl, rfl⟩
      · cases hc
        exact ⟨_, _, .inr rfl, rfl⟩
  · exact absurd (checkSignature_eq_ok_iff.mp hc) h

/-- A request that is not signed is not verified, whatever it carries besides. -/
theorem exists_verify_eq_error (h : ¬r.SignedWith secret) :
    ∃ status message, (status = 400 ∨ status = 403) ∧
      r.verify (some secret) = .error (.rejected status message) := by
  rcases hk : r.eventKind with e | kind
  · have he : e = .rejected 400 "Missing event type header" := by
      rw [eventKind] at hk
      split at hk
      · split at hk
        · exact (Except.error.inj hk).symm
        · cases hk
      · exact (Except.error.inj hk).symm
    refine ⟨400, "Missing event type header", .inl rfl, ?_⟩
    rw [verify, hk, he]
    rfl
  · obtain ⟨status, message, hstatus, hc⟩ := exists_checkSignature_eq_error h
    refine ⟨status, message, hstatus, ?_⟩
    rw [verify, hk]
    show (do r.checkSignature (some secret); _ : Except Failure Verified) = _
    rw [hc]
    rfl

/-! ### Requests as they come in -/

@[simp] theorem body_withHeaders (headers : List (String × String)) :
    (r.withHeaders headers).body = r.body := by
  induction headers generalizing r with
  | nil => rfl
  | cons h rest ih => exact ih

/-- Of the headers that come in under one name, in whatever letter case, the last one counts. -/
theorem header?_withHeaders (headers : List (String × String)) (name : String) :
    (r.withHeaders headers).header? name =
      ((headers.reverse.find? fun h => Text.lower h.1 = Text.lower name).map Prod.snd).or
        (r.header? name) := by
  induction headers generalizing r with
  | nil => rfl
  | cons h rest ih =>
    rw [withHeaders, List.foldl_cons, ← withHeaders, ih, List.reverse_cons, List.find?_append]
    rcases hlast : rest.reverse.find? fun h => Text.lower h.1 = Text.lower name with _ | last
    · by_cases hn : Text.lower h.1 = Text.lower name
      · simp [withHeader, header?, hlast, hn]
      · simp [withHeader, header?, hlast, Table.get?_insert, hn]
    · simp [hlast]

/-- A request is signed if the last of its signatures holds. -/
theorem signedWith_withHeaders {headers : List (String × String)} {body : Bytes} :
    (({ body := body } : Request).withHeaders headers).SignedWith secret ↔
      ∃ h, (headers.reverse.find? fun h => Text.lower h.1 = signatureHeader) = some h ∧
        Signature.check secret h.2 body = .ok () := by
  rw [SignedWith, ← header?_signatureHeader, header?_withHeaders, lower_signatureHeader,
    body_withHeaders]
  have hnone : ({ body := body } : Request).header? signatureHeader = none := rfl
  rw [hnone, Option.or_none]
  simp only [Option.map_eq_some_iff]
  constructor
  · rintro ⟨value, ⟨h, hfind, rfl⟩, hcheck⟩
    exact ⟨h, hfind, hcheck⟩
  · rintro ⟨h, hfind, hcheck⟩
    exact ⟨h.2, ⟨h, hfind, rfl⟩, hcheck⟩

end Request

/-! ## The gate -/

theorem secret_of_ne_empty (hsecret : s.secretToken ≠ "") : s.secret = some s.secretToken := by
  rw [Service.secret, if_neg]
  simpa using hsecret

/-- To a request that is not signed a service with a secret answers at once. -/
theorem handle_of_not_signedWith (hsecret : s.secretToken ≠ "")
    (h : ¬r.SignedWith s.secretToken) :
    ∃ status, (status = 400 ∨ status = 403) ∧ handle credentials s r = .done ⟨status, {}⟩ := by
  obtain ⟨status, message, hstatus, hv⟩ := Request.exists_verify_eq_error h
  refine ⟨status, hstatus, ?_⟩
  rw [handle, secret_of_ne_empty hsecret, hv]
  rfl

/-- **Only signed deliveries are let in.** A service has a secret and a request comes in, with any
headers and any body. If anything is asked of the chat server or the provider, or the answer says
that all is well, then the request carries a signature of its body that holds for the secret. If it
carries none, the answer is an error without a report, and nothing was asked of anybody. -/
theorem handle_gated (hsecret : s.secretToken ≠ "")
    (hr : Runs conduct (handle credentials s r) st trace response st') :
    (trace ≠ [] ∨ response.status = 200 → r.SignedWith s.secretToken) ∧
      (¬r.SignedWith s.secretToken → (response.status = 400 ∨ response.status = 403) ∧
        response.report = {} ∧ trace = [] ∧ st' = st) := by
  have hout : ¬r.SignedWith s.secretToken → (response.status = 400 ∨ response.status = 403) ∧
      response.report = {} ∧ trace = [] ∧ st' = st := by
    intro h
    obtain ⟨status, hstatus, hdone⟩ : ∃ status, (status = 400 ∨ status = 403) ∧
        handle credentials s r = .done ⟨status, {}⟩ := handle_of_not_signedWith hsecret h
    rw [hdone] at hr
    obtain ⟨rfl, rfl, rfl⟩ := runs_done.mp hr
    exact ⟨hstatus, rfl, rfl, rfl⟩
  refine ⟨fun hin => ?_, hout⟩
  by_contra h
  obtain ⟨hstatus, -, htrace, -⟩ := hout h
  rcases hin with hin | hin
  · exact hin htrace
  · omega

/-! ### A push that is signed, and one that is not -/

/-- A service with a secret. -/
def guarded : Service := { Memory.watching "svc" "u" ["acme/a"] with secretToken := "s3cret" }

/-- What the provider says of a push to a repository. -/
def pushed (repo : String) : Bytes :=
  Utf8.encode ("\x7b\"repository\": \x7b\"full_name\": \"" ++ repo ++ "\"\x7d\x7d")

/-- A push to a repository, with a signature if there is one. -/
def pushOf (repo : String) (signature : List (String × String)) : Request :=
  ({ body := pushed repo } : Request).withHeaders (("X-GitHub-Event", "push") :: signature)

/-- The signature of a push to a repository. -/
def signatureOf (secret repo : String) : String × String :=
  ("X-Hub-Signature-256", Signature.header secret (pushed repo))

/-- The signed push is told to the room, so it is signed; the other one is not, so it is turned
away. -/
theorem handle_gated_push :
    (∃ trace response w', Runs (Handler.conduct Memory.World.answer) (handle Memory.soleUser guarded
        (pushOf "Acme/A" [signatureOf "s3cret" "Acme/A"])) {} trace response w' ∧ trace ≠ [] ∧
      (pushOf "Acme/A" [signatureOf "s3cret" "Acme/A"]).SignedWith "s3cret") ∧
    ∃ response w', Runs (Handler.conduct Memory.World.answer) (handle Memory.soleUser guarded
        (pushOf "Acme/A" [])) {} [] response w' ∧
      (response.status = 400 ∨ response.status = 403) := by
  have hsecret : guarded.secretToken ≠ "" := by decide
  constructor
  · have hr := runs_run Memory.World.answer (handle Memory.soleUser guarded
      (pushOf "Acme/A" [signatureOf "s3cret" "Acme/A"])) {}
    have hcalls : (exchanges Memory.World.answer (handle Memory.soleUser guarded
        (pushOf "Acme/A" [signatureOf "s3cret" "Acme/A"])) {}).isEmpty = false := by
      decide +kernel
    have hne := fun h => Bool.false_ne_true (hcalls.symm.trans (List.isEmpty_iff.mpr h))
    exact ⟨_, _, _, hr, hne, (handle_gated hsecret hr).1 (.inl hne)⟩
  · have hr := runs_run Memory.World.answer (handle Memory.soleUser guarded (pushOf "Acme/A" [])) {}
    have hunsigned : ¬(pushOf "Acme/A" []).SignedWith guarded.secretToken := by
      rw [pushOf, Request.signedWith_withHeaders]
      rintro ⟨h, hfind, -⟩
      have hnone : ([("X-GitHub-Event", "push")].reverse.find? fun h =>
          Text.lower h.1 = signatureHeader).isSome = false := by decide +kernel
      rw [hfind] at hnone
      cases hnone
    obtain ⟨hstatus, -, htrace, -⟩ := (handle_gated hsecret hr).2 hunsigned
    rw [htrace] at hr
    exact ⟨_, _, hr, hstatus⟩

end WebhookRelay.Delivery
