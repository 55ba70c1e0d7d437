import WebhookRelay.Program

/-!
# Sessions

Credentials that were entered one by one. A client for a realm that is not known yet makes the
realm known as one of GitHub's; a kind that is set explicitly replaces what was there.
-/

namespace WebhookRelay

/-- The realms and clients entered so far. -/
structure Sessions (C : Type) where
  /-- the kind of each realm -/
  realms : Table String := ∅
  /-- the clients, by realm and user, newest first -/
  clients : List ((String × String) × C) := []

namespace Sessions

variable {C : Type}

/-- Sets the kind of a realm. -/
def withRealm (s : Sessions C) (realm kind : String) : Sessions C :=
  { s with realms := s.realms.insert realm kind }

/-- Signs a user in. -/
def withClient (s : Sessions C) (realm user : String) (client : C) : Sessions C where
  realms := s.realms.alter realm (·.getD githubRealm)
  clients := ((realm, user), client) :: s.clients

/-- The credentials that were entered. -/
def credentials (s : Sessions C) : Credentials C where
  realmType := s.realms.get?
  client realm user := s.clients.lookup (realm, user)

end Sessions

end WebhookRelay
