import WebhookRelay.Proofs.Hooks
import WebhookRelay.Proofs.Operations

/-!
# Which hooks are deleted

A program is told in listings which hooks there are, and what it deletes afterwards should be what
it was shown as its own. `Program.Aims` says so of a program and of what it has been answered so
far: every delete call that can come names a number that a listing showed for the URL, on the same
repository of the same provider. When the call is made the listing may be out of date; what holds of
it then is another matter.

Declarations aim at their own URL (`Service.aims_configure`), and deliveries at that of the service
they were looked up for (`Delivery.aims_handle`).
-/

namespace WebhookRelay

open Program

variable {C α β : Type} {url : String} {past : List (Exchange C)}

/-- Whether an exchange is a listing that shows a hook for a URL under a number. -/
def Exchange.Shows (url : String) (client : C) (repo : RepoName) (id : UInt64) :
    Exchange C → Prop
  | ⟨.listHooks c r, .ok hooks⟩ =>
    c = client ∧ r = repo ∧ ∃ h ∈ hooks, h.id = id ∧ h.callbackUrl? = some url
  | _ => False

/-- Whether a call deletes nothing but what the exchanges so far have shown for a URL. -/
def Call.Aims (url : String) (past : List (Exchange C)) : Call C → Prop
  | deleteHook client repo id => ∃ x ∈ past, x.Shows url client repo id
  | _ => True

namespace Program

/-- Whether a program that has made some exchanges only deletes what it is shown for a URL. -/
def Aims (url : String) : Program C α → List (Exchange C) → Prop
  | .done _, _ => True
  | .call c next, past =>
    c.Aims url past ∧ ∀ reply, Aims url (next reply) (past ++ [⟨c, reply⟩])

/-- A program that deletes nothing aims at any URL. -/
theorem aims_of_makes {p : Program C α} (hp : p.Makes fun c => c.isDelete = false) :
    p.Aims url past := by
  induction p generalizing past with
  | done a => trivial
  | call c next ih =>
    refine ⟨?_, fun reply => ih reply (hp.2 reply)⟩
    cases c with
    | deleteHook => cases hp.1
    | _ => trivial

theorem aims_bind {p : Program C α} {f : α → Program C β} (hp : p.Aims url past)
    (hf : ∀ a past, (f a).Aims url past) : (p.bind f).Aims url past := by
  induction p generalizing past with
  | done a => exact hf a past
  | call c next ih => exact ⟨hp.1, fun reply => ih reply (hp.2 reply)⟩

end Program

/-! ## Operations -/

variable {credentials : Credentials C}

namespace Service

variable {service new : Service} {old : Option Service}

/-- What is uninstalled was just listed. -/
theorem aims_uninstall (repo : RepoName) :
    (service.uninstall credentials repo).Aims service.callbackUrl past := by
  unfold uninstall
  split
  · trivial
  · next client hc =>
    refine ⟨trivial, fun reply => ?_⟩
    rcases reply with e | hooks
    · trivial
    · dsimp only
      split
      · trivial
      · next hook hf =>
        refine ⟨⟨_, List.mem_append_right _ List.mem_cons_self, rfl, rfl, hook,
          List.mem_of_find?_eq_some hf, rfl, ?_⟩, fun reply => ?_⟩
        · simpa using List.find?_some hf
        · rcases reply with e | u
          · trivial
          · trivial

theorem aims_settle : (Reconcile.settle credentials new old).Aims new.callbackUrl past := by
  refine aims_bind ?_ fun removals past => ?_
  · generalize ([] : List Reconcile.Removal) = done
    induction (Reconcile.change new old).removed.toList generalizing done past with
    | nil => trivial
    | cons repo rest ih =>
      refine aims_bind ?_ fun result past => ih _
      unfold Reconcile.uninstallNamed
      split
      · exact aims_uninstall _
      · trivial
  · split
    · exact ⟨trivial, fun reply => trivial⟩
    · trivial

/-- A declaration aims at its own URL. -/
theorem aims_configure : (new.configure credentials).Aims new.callbackUrl past := by
  refine ⟨trivial, fun reply => ?_⟩
  rcases reply with e | old
  · trivial
  · refine aims_bind (aims_of_makes (Reconcile.makes_prepare.mono ?_)) fun prepared past => ?_
    · exact fun c hc => hc.isDelete
    · rcases prepared with e | prepared
      · trivial
      · refine ⟨trivial, fun reply => ?_⟩
        rcases reply with e | u
        · trivial
        · exact aims_bind aims_settle fun settled past => trivial

end Service

/-- What is done about a delivery to a service aims at the URL of the service. -/
theorem Delivery.aims_handle {service : Service} {request : Request} :
    (handle credentials service request).Aims service.callbackUrl past := by
  unfold handle
  split
  · trivial
  · trivial
  · unfold route
    dsimp only
    split
    · split
      · trivial
      · exact aims_bind (Service.aims_uninstall _) fun result past => trivial
    · refine aims_bind (aims_of_makes (makes_sendAll (fun room m => rfl) _ _ _)) fun sent past => ?_
      trivial

end WebhookRelay
