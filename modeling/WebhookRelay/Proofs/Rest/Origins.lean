import WebhookRelay.Proofs.Rest.Pages

/-!
# Where the token goes

Every request of a client carries the token of its user, and goes to the server that the interface is
said to be on (`HookClient.token_stays_home`). What the other side answers changes nothing of that: a
page is fetched only from where the first one was (`Trail.origin?_eq`), and a URL that can be sent is
of the server that it names itself (`HookClient.server?_of_sendable`); one with another URL in it, which
would be of the server of that one, cannot be sent.
-/

namespace WebhookRelay

/-- The scheme, the host and the port of a URL of the web. -/
def Url.server? (u : Url) : Option Url.Origin :=
  match defaultPort? u.scheme, u.site with
  | some p, some s => some ⟨u.scheme, s.host, s.port.getD p⟩
  | _, _ => none

/-- A URL is of the server that it names, unless there is another one in it. -/
theorem Url.origin?_eq_server? {u : Url} (h : u.scheme ≠ wrapper) : u.origin? = u.server? := by
  rw [origin?, originWithin, if_neg h]
  rfl

theorem Url.server?_withoutLogin (u : Url) : u.withoutLogin.server? = u.server? := by
  obtain ⟨scheme, site, path, query, fragment⟩ := u
  cases site with
  | none => rfl
  | some s =>
    simp only [withoutLogin, server?, Option.map_some]
    cases defaultPort? scheme with
    | none => rfl
    | some p => cases (plainLogin? s.login).isSome <;> rfl

namespace Rest

open Listing

variable {σ : Type} {c : HookClient} {repo : RepoName} {url : Url}

/-! ## Requests that can be sent -/

/-- A request that can be sent is to a URL of the web. -/
theorem Request.scheme_of_sendable {r : Request} (h : r.obstacle? = none) :
    (r.url.scheme = "http".toList ∨ r.url.scheme = "https".toList) ∧ r.url.site.isSome = true := by
  rw [obstacle?] at h
  split at h
  · cases h
  · next hhost =>
    split at h
    · cases h
    · split at h
      · cases h
      · next haddress =>
        constructor
        · simp only [addressable, Bool.and_eq_true, Bool.or_eq_true, decide_eq_true_eq,
            Bool.not_eq_true', Bool.not_eq_false] at haddress
          exact haddress.1.1
        · rw [Url.hasHost] at hhost
          rcases hs : r.url.site with _ | site
          · simp [hs] at hhost
          · rfl

namespace HookClient

/-- A request of a client that can be sent goes to the server of its URL. -/
theorem server?_of_sendable {method : String} {body : Option Json.Value}
    (h : (c.request method url body).obstacle? = none) :
    ∃ server, url.server? = some server ∧ url.origin? = some server ∧
      (c.request method url body).url.server? = some server := by
  obtain ⟨hscheme, hsite⟩ := Request.scheme_of_sendable h
  have hweb : url.scheme = "http".toList ∨ url.scheme = "https".toList := hscheme
  obtain ⟨site, hsite⟩ : ∃ site, url.site = some site := by
    rcases hs : url.site with _ | site
    · rw [request, Url.withoutLogin, hs] at hsite
      cases hsite
    · exact ⟨site, rfl⟩
  have hport : (Url.defaultPort? url.scheme).isSome = true := by
    rcases hweb with hs | hs <;> rw [hs] <;> decide
  obtain ⟨p, hport⟩ := Option.isSome_iff_exists.mp hport
  have hserver : url.server? = some ⟨url.scheme, site.host, site.port.getD p⟩ := by
    rw [Url.server?, hport, hsite]
  have hwrapper : url.scheme ≠ Url.wrapper := by
    rcases hweb with hs | hs <;> rw [hs] <;> decide
  refine ⟨_, hserver, ?_, ?_⟩
  · rw [Url.origin?_eq_server? hwrapper, hserver]
  · exact url.server?_withoutLogin.trans hserver

/-- Whether a request carries the token of a client and goes to the server of its interface. -/
structure Homebound (c : HookClient) (r : Request) : Prop where
  token : ("authorization", s!"token {c.token}") ∈ r.headers
  server : ∃ base server, Url.read c.apiUrl.toList = .ok base ∧ base.server? = some server ∧
    r.url.server? = some server

/-- The URLs of hooks are on the server of the interface. -/
theorem server?_of_url {id : Option UInt64} (h : c.url repo id = .ok url) :
    ∃ base, Url.read c.apiUrl.toList = .ok base ∧ base.server? = url.server? := by
  rw [HookClient.url] at h
  split at h
  · cases h
  · next base hbase =>
    refine ⟨base, hbase, ?_⟩
    dsimp only at h
    split at h
    · next url' hextend =>
      cases h
      rw [Url.extend] at hextend
      split at hextend
      · cases hextend
      · cases hextend
        rfl
    · cases h

/-- A request that can be sent is homebound if its URL is on the server of the URL of some hooks. -/
theorem homebound_of_server? {id : Option UInt64} {method : String} {body : Option Json.Value}
    {target : Url} (h : c.url repo id = .ok url)
    (hs : (c.request method target body).obstacle? = none)
    (htarget : target.server? = url.server?) : c.Homebound (c.request method target body) := by
  obtain ⟨base, hbase, hserver⟩ := server?_of_url h
  obtain ⟨server, ht, -, hr⟩ := server?_of_sendable hs
  have htoken : ("authorization", s!"token {c.token}") ∈ (c.request method target body).headers :=
    List.mem_append_left _ (List.mem_append_right _ List.mem_cons_self)
  exact ⟨htoken, base, server, hbase, hserver.trans (htarget ▸ ht), hr⟩

end HookClient

/-! ## Pages -/

/-- Each page that is fetched is on the server of the first, which could be asked for if any other
is. -/
theorem Trail.origin?_eq {origin : Option Url.Origin} {ps : List (Page c)} {next : Option Url}
    (ht : Trail c origin url ps next) :
    ∀ u, u ∈ ps.map (·.url) ∨ next = some u →
      u = url ∨ (u.origin? = origin ∧ (c.request "GET" url none).obstacle? = none) := by
  induction ht with
  | start url =>
    rintro u (hu | hu)
    · cases hu
    · exact .inl (Option.some.inj hu).symm
  | last p =>
    rintro u (hu | hu)
    · exact .inl (by simpa using hu)
    · cases hu
  | page p h ht ih =>
    obtain ⟨-, -, horigin⟩ := onward?_eq_some_iff.mp h
    intro u hu
    rw [List.map_cons, List.mem_cons, or_assoc] at hu
    rcases hu with rfl | hu
    · exact .inl rfl
    · rcases ih u hu with rfl | ⟨hu, -⟩
      · exact .inr ⟨horigin, p.sent⟩
      · exact .inr ⟨hu, p.sent⟩

/-- Pages were asked for by requests that could be sent. -/
theorem request_of_mem_pages {ps : List (Page c)} {x : Request × Reply}
    (hx : x ∈ ps.map (·.exchange)) :
    ∃ u ∈ ps.map (·.url), x.1 = c.request "GET" u none ∧ x.1.obstacle? = none := by
  obtain ⟨p, hp, rfl⟩ := List.mem_map.mp hx
  exact ⟨p.url, List.mem_map_of_mem hp, rfl, p.sent⟩

/-- What is on the record of a listing are requests for URLs of its trail, which could be sent. -/
theorem Listing.Stands.request_of_mem {l : Listing} {rounds : Nat}
    {result : Option (Except Failure (List Hook))} {record : List (Request × Reply)}
    (h : l.Stands rounds result record) {x : Request × Reply} (hx : x ∈ record) :
    ∃ (ps : List (Page l.client)) (next : Option Url) (u : Url),
      Trail l.client l.origin l.next ps next ∧ (u ∈ ps.map (·.url) ∨ next = some u) ∧
      x.1 = l.client.request "GET" u none ∧ x.1.obstacle? = none := by
  cases h with
  | whole ht | unsent ht | underWay ht =>
    obtain ⟨u, hu, hrequest⟩ := request_of_mem_pages hx
    exact ⟨_, _, u, ht, .inl hu, hrequest⟩
  | broken ht hs =>
    rcases List.mem_append.mp hx with hx | hx
    · obtain ⟨u, hu, hrequest⟩ := request_of_mem_pages hx
      exact ⟨_, _, u, ht, .inl hu, hrequest⟩
    · obtain rfl := List.mem_singleton.mp hx
      exact ⟨_, _, _, ht, .inr rfl, rfl, hs⟩

/-! ## The token -/

namespace HookClient

/-- A listing asks for pages on the server of the interface only. -/
theorem homebound_of_stands {n : Nat} {result : Option (Except Failure (List Hook))}
    {record : List (Request × Reply)} (hurl : c.url repo none = .ok url)
    (h : (begun c url).Stands n result record) {x : Request × Reply} (hx : x ∈ record) :
    c.Homebound x.1 := by
  obtain ⟨ps, next, u, ht, hu, hrequest, hs⟩ := h.request_of_mem hx
  rw [hrequest] at hs ⊢
  refine homebound_of_server? hurl hs ?_
  rcases ht.origin?_eq u hu with rfl | ⟨horigin, hfirst⟩
  · rfl
  · -- the first page could be asked for, so its server is the one that the listing keeps to
    obtain ⟨server, hserver, hfirst, -⟩ := server?_of_sendable hfirst
    obtain ⟨server', hu, hu', -⟩ := server?_of_sendable hs
    have hsame : some server' = some server := hu'.symm.trans (horigin.trans hfirst)
    exact hu.trans (hsame.trans hserver.symm)

variable {peer : Peer σ} {s : σ}

/-- A request that is sent by itself is on the record, if it can be sent. -/
theorem request_of_mem_send {r : Request} {x : Request × Reply}
    (hx : x ∈ (send peer.recorded r (s, [])).2.2) : x.1 = r ∧ r.obstacle? = none := by
  rcases ho : r.obstacle? with _ | o
  · rw [send_of_sendable _ _ ho] at hx
    exact ⟨congrArg Prod.fst (List.mem_singleton.mp hx), rfl⟩
  · rw [send_of_obstacle _ _ ho] at hx
    cases hx

/-- **The token stays home.** Whatever the other side answers, and however long it is listened to:
each request that a client makes to list, to create or to delete hooks carries its token, and goes to
the scheme, the host and the port of its interface. -/
theorem token_stays_home (c : HookClient) (peer : Peer σ) (repo : RepoName) (spec : HookSpec)
    (id : UInt64) (pages : Nat) (s : σ) :
    (∀ x ∈ (c.list peer.recorded pages repo (s, [])).2.2, c.Homebound x.1) ∧
    (∀ x ∈ (c.create peer.recorded repo spec (s, [])).2.2, c.Homebound x.1) ∧
    (∀ x ∈ (c.delete peer.recorded repo id (s, [])).2.2, c.Homebound x.1) := by
  refine ⟨fun x hx => ?_, fun x hx => ?_, fun x hx => ?_⟩
  · rw [list_eq] at hx
    rcases hurl : c.url repo none with e | url
    · rw [listWithin_of_error hurl] at hx
      cases hx
    · exact homebound_of_stands hurl (stands_listWithin hurl rfl) hx
  · rw [create] at hx
    split at hx
    · cases hx
    · next url hurl =>
      obtain ⟨hrequest, hs⟩ := request_of_mem_send hx
      exact hrequest ▸ homebound_of_server? hurl hs rfl
  · rw [delete] at hx
    split at hx
    · cases hx
    · next url hurl =>
      obtain ⟨hrequest, hs⟩ := request_of_mem_send hx
      exact hrequest ▸ homebound_of_server? hurl hs rfl

end HookClient

/-- A page that leads on to another, which leads to one on another server. -/
def leadingAway : Peer Unit := .serving [
  (pageOf "a" "per_page=100", leadingTo (pageOf "a" "per_page=100&page=2") "[]"),
  (pageOf "a" "per_page=100&page=2",
    leadingTo { pageOf "a" "page=3" with site := some ⟨[], "example.com".toList, none⟩ } "[]")]

/-- The page on another server is not asked for. -/
theorem token_stays_home_of_leadingAway :
    ((Server.hookClient settings "main").list leadingAway.recorded 3 ⟨"acme", "a"⟩
      ((), [])).2.2.length = 2 ∧
    ∀ x ∈ ((Server.hookClient settings "main").list leadingAway.recorded 3 ⟨"acme", "a"⟩
      ((), [])).2.2, (Server.hookClient settings "main").Homebound x.1 :=
  ⟨by decide +kernel,
    (HookClient.token_stays_home _ leadingAway ⟨"acme", "a"⟩ ⟨"web", true, [], .empty⟩ 0 3 ()).1⟩

end Rest

end WebhookRelay
