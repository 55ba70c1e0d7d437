import WebhookRelay.Sync.Reconcile

/-!
# Configuring a service

A declaration takes effect in four steps: look up what is stored under its id, run the first phase,
store the declaration, run the second phase. A failure of one of the first three ends it there.

Two declarations of one id must not take effect at the same time; declarations of different ids may.
-/

namespace WebhookRelay

variable {C : Type}

/-- What became of a declaration. -/
structure Configured where
  /-- what was stored before -/
  old : Option Service
  /-- what was declared -/
  new : Service
  /-- the first phase -/
  prepared : Reconcile.Prepared
  /-- the second phase -/
  settled : Reconcile.Settled

/-- Has a declaration take effect. -/
def Service.configure (credentials : Credentials C) (new : Service) :
    Program C (Except Failure Configured) :=
  .call (.load new.id) fun
    | .error e => .done (.error e)
    | .ok old =>
      (Reconcile.prepare credentials new old).onSuccess fun prepared =>
        .call (.save new) fun
          | .error e => .done (.error e)
          | .ok () =>
            (Reconcile.settle credentials new old).bind fun settled =>
              .done (.ok ⟨old, new, prepared, settled⟩)

end WebhookRelay
