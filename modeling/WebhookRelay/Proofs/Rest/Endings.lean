import Mathlib.Data.List.Perm.Subperm
import WebhookRelay.Proofs.Rest.Pages

/-!
# Where a listing ends

A listing goes on as long as it is led on. Of a website, with finitely many pages that are always the
same, it is over after as many requests as there are pages and one more, unless it is led back to a page
it has been to: then it goes on forever (`HookClient.over_or_led_back`).

What a website does with a listing is a walk over URLs (`Website.onward`, `Website.after`,
`Website.visited`), and a run of the listing is that walk (`Website.run_serves`). A walk that comes back
to an address goes round from there on (`Website.isSome_after_of_not_nodup`); one that does not can be
no longer than the website is large (`Website.length_visited`).
-/

namespace WebhookRelay.Rest

open Listing

variable {σ : Type}

/-! ## Websites -/

/-- Pages that are always the same. -/
structure Website where
  /-- the addresses of the pages -/
  known : List Url
  /-- what is said at each address -/
  reply : Url → Reply
  /-- there is nothing at any other address -/
  refused : ∀ u ∉ known, ∀ a, reply u = .answer a → a.isSuccess = false

/-- Whether the other side gives a website to those who fetch pages. -/
def Peer.Serves (peer : Peer σ) (w : Website) : Prop :=
  ∀ r s, r.method = "GET" → (peer r s).1 = w.reply r.address

/-- The website of some answers. -/
def Website.ofAnswers (pages : List (Url × Answer)) : Website where
  known := pages.map (·.1)
  reply u := .answer ((pages.lookup u).getD { status := 404 })
  refused u hu a ha := by
    have hnone : pages.lookup u = none :=
      List.lookup_eq_none_iff.mpr fun p hp => bne_iff_ne.mpr fun h =>
        hu (h ▸ List.mem_map_of_mem hp)
    rw [hnone] at ha
    cases ha
    rfl

theorem Peer.serves_serving (pages : List (Url × Answer)) :
    (Peer.serving pages).Serves (.ofAnswers pages) := fun _ _ _ => rfl

namespace Website

/-! ## Walks -/

variable (w : Website) (c : HookClient) (origin : Option Url.Origin)

/-- Where the page at a URL leads. -/
def onward (u : Url) : Option Url :=
  let r := c.request "GET" u none
  match r.obstacle? with
  | some _ => none
  | none => (pageIn r (w.reply r.address)).toOption.bind fun page => onward? origin page.1

/-- The URL that is come to after some pages. -/
def after : Nat → Url → Option Url
  | 0, u => some u
  | n + 1, u => (w.onward c origin u).bind (after n)

/-- The addresses that are asked for in some rounds. -/
def visited : Nat → Url → List Url
  | 0, _ => []
  | n + 1, u =>
    match (c.request "GET" u none).obstacle? with
    | some _ => []
    | none =>
      (c.request "GET" u none).address :: ((w.onward c origin u).map (visited n)).getD []

variable {w c origin} {u v : Url}

theorem onward_of_obstacle {o : Outage} (h : (c.request "GET" u none).obstacle? = some o) :
    w.onward c origin u = none := by
  simp only [onward, h]

theorem onward_of_sendable (h : (c.request "GET" u none).obstacle? = none) :
    w.onward c origin u =
      (pageIn (c.request "GET" u none) (w.reply (c.request "GET" u none).address)).toOption.bind
        fun page => onward? origin page.1 := by
  simp only [onward, h]

theorem onward_eq_some_iff :
    w.onward c origin u = some v ↔ (c.request "GET" u none).obstacle? = none ∧
      ∃ next hooks, pageIn (c.request "GET" u none) (w.reply (c.request "GET" u none).address) =
        .ok (next, hooks) ∧ onward? origin next = some v := by
  rcases ho : (c.request "GET" u none).obstacle? with _ | o
  · simp only [onward_of_sendable ho, Option.bind_eq_some_iff, true_and]
    rcases pageIn (c.request "GET" u none) (w.reply (c.request "GET" u none).address) with e | page
    · exact iff_of_false nofun nofun
    · constructor
      · rintro ⟨_, ⟨⟩, h⟩
        exact ⟨page.1, page.2, rfl, h⟩
      · rintro ⟨next, hooks, ⟨⟩, h⟩
        exact ⟨_, rfl, h⟩
  · rw [onward_of_obstacle ho]
    exact iff_of_false nofun nofun

/-- Pages of one address lead to one URL. -/
theorem onward_of_address (h : w.onward c origin u = some v) {u' : Url}
    (hs : (c.request "GET" u' none).obstacle? = none)
    (ha : (c.request "GET" u' none).address = (c.request "GET" u none).address) :
    w.onward c origin u' = some v := by
  obtain ⟨-, next, hooks, hp, hn⟩ := onward_eq_some_iff.mp h
  refine onward_eq_some_iff.mpr ⟨hs, next, hooks, ?_, hn⟩
  rw [ha]
  exact pageIn_eq_ok_iff.mpr (pageIn_eq_ok_iff.mp hp)

/-- A page that leads on is one of the website. -/
theorem address_mem_known (h : w.onward c origin u = some v) :
    (c.request "GET" u none).address ∈ w.known := by
  obtain ⟨-, next, hooks, hp, -⟩ := onward_eq_some_iff.mp h
  obtain ⟨a, hreply, hsuccess, -⟩ := pageIn_eq_ok_iff.mp hp
  by_contra hu
  exact absurd hsuccess (by simp [w.refused _ hu a hreply])

theorem after_add (m n : Nat) (u : Url) :
    w.after c origin (m + n) u = (w.after c origin m u).bind (w.after c origin n) := by
  induction m generalizing u with
  | zero => rw [Nat.zero_add, after, Option.bind_some]
  | succ m ih =>
    rw [Nat.succ_add, after, after]
    cases w.onward c origin u with
    | none => rfl
    | some v => exact ih v

theorem isSome_after_of_le {m n : Nat} (hmn : m ≤ n) (h : (w.after c origin n u).isSome) :
    (w.after c origin m u).isSome := by
  obtain ⟨k, rfl⟩ := Nat.exists_eq_add_of_le hmn
  rw [after_add, Option.isSome_bind] at h
  exact Option.isSome_of_any h

/-- A walk that comes back to where it started goes on forever. -/
theorem isSome_after_of_return {k : Nat} (h : w.after c origin (k + 1) v = some v) (n : Nat) :
    (w.after c origin n v).isSome := by
  have hround : ∀ m, w.after c origin (m * (k + 1)) v = some v := by
    intro m
    induction m with
    | zero => rw [Nat.zero_mul, after]
    | succ m ih => rw [Nat.succ_mul, after_add, ih, Option.bind_some, h]
  refine isSome_after_of_le (Nat.le_mul_of_pos_right n k.succ_pos) ?_
  rw [hround n, Option.isSome_some]

theorem visited_of_obstacle {o : Outage} (h : (c.request "GET" u none).obstacle? = some o)
    (n : Nat) : w.visited c origin (n + 1) u = [] := by
  simp only [visited, h]

theorem visited_of_sendable (h : (c.request "GET" u none).obstacle? = none) (n : Nat) :
    w.visited c origin (n + 1) u =
      (c.request "GET" u none).address ::
        ((w.onward c origin u).map (w.visited c origin n)).getD [] := by
  simp only [visited, h]

/-- What is asked for is the address of a URL that the walk comes to. -/
theorem after_of_mem_visited {n : Nat} {a : Url} (h : a ∈ w.visited c origin n u) :
    ∃ k u', w.after c origin k u = some u' ∧ (c.request "GET" u' none).obstacle? = none ∧
      (c.request "GET" u' none).address = a := by
  induction n generalizing u with
  | zero => cases h
  | succ n ih =>
    rcases ho : (c.request "GET" u none).obstacle? with _ | o
    · rw [visited_of_sendable ho] at h
      rcases List.mem_cons.mp h with rfl | h
      · exact ⟨0, u, rfl, ho, rfl⟩
      · rcases hv : w.onward c origin u with _ | v
        · simp [hv] at h
        · simp only [hv, Option.map_some, Option.getD_some] at h
          obtain ⟨k, u', hk, hu'⟩ := ih h
          refine ⟨k + 1, u', ?_, hu'⟩
          rw [after, hv, Option.bind_some, hk]
    · rw [visited_of_obstacle ho] at h
      cases h

/-- A walk that asks for an address a second time goes on forever. -/
theorem isSome_after_of_not_nodup {n : Nat} (h : ¬ (w.visited c origin n u).Nodup) (m : Nat) :
    (w.after c origin m u).isSome := by
  induction n generalizing u m with
  | zero => exact absurd List.nodup_nil h
  | succ n ih =>
    rcases ho : (c.request "GET" u none).obstacle? with _ | o
    · rw [visited_of_sendable ho] at h
      rcases hv : w.onward c origin u with _ | v
      · simp [hv] at h
      · simp only [hv, Option.map_some, Option.getD_some, List.nodup_cons, not_and_or,
          not_not] at h
        have hv_forever : ∀ m, (w.after c origin m v).isSome := by
          rcases h with hmem | hdup
          · -- the page that is come back to leads to the page that comes after it
            obtain ⟨k, u', hk, hs, ha⟩ := after_of_mem_visited hmem
            refine isSome_after_of_return (k := k) ?_
            rw [after_add, hk, Option.bind_some, after, onward_of_address hv hs ha]
            rfl
          · exact ih hdup
        cases m with
        | zero => rfl
        | succ m =>
          rw [after, hv]
          exact hv_forever m
    · rw [visited_of_obstacle ho] at h
      exact absurd List.nodup_nil h

/-- A walk that goes on asks for one address in each round, and all of them are of the website. -/
theorem length_visited {n : Nat} (h : (w.after c origin n u).isSome) :
    (w.visited c origin n u).length = n ∧ w.visited c origin n u ⊆ w.known := by
  induction n generalizing u with
  | zero => exact ⟨rfl, List.nil_subset _⟩
  | succ n ih =>
    rcases hv : w.onward c origin u with _ | v
    · rw [after, hv] at h
      cases h
    · rw [after, hv] at h
      obtain ⟨hlength, hknown⟩ := ih h
      rw [visited_of_sendable (onward_eq_some_iff.mp hv).1, hv]
      exact ⟨congrArg Nat.succ hlength, List.cons_subset.mpr ⟨address_mem_known hv, hknown⟩⟩

theorem length_visited_le (n : Nat) (u : Url) : (w.visited c origin n u).length ≤ n := by
  induction n generalizing u with
  | zero => exact Nat.le_refl 0
  | succ n ih =>
    rcases ho : (c.request "GET" u none).obstacle? with _ | o
    · rw [visited_of_sendable ho]
      refine Nat.succ_le_succ ?_
      cases w.onward c origin u with
      | none => exact n.zero_le
      | some v => exact ih v
    · rw [visited_of_obstacle ho]
      exact (n + 1).zero_le

/-- A walk over more pages than there are comes back to one. -/
theorem not_nodup_visited {n : Nat} (hn : w.known.length < n)
    (h : (w.after c origin n u).isSome) : ¬ (w.visited c origin n u).Nodup := by
  intro hnodup
  obtain ⟨hlength, hknown⟩ := length_visited h
  have := (hnodup.subperm hknown).length_le
  omega

end Website

/-! ## Runs -/

/-- A run of a listing is a walk: it has no result as long as the walk goes on, and it asks for what
the walk asks for. -/
theorem Website.run_serves {w : Website} {peer : Peer σ} (h : peer.Serves w) (n : Nat)
    (l : Listing) (s : σ) (log : List (Request × Reply)) :
    (l.run peer.recorded n (s, log)).1.isNone = (w.after l.client l.origin n l.next).isSome ∧
    (l.run peer.recorded n (s, log)).2.2.map (·.1.address) =
      log.map (·.1.address) ++ w.visited l.client l.origin n l.next := by
  induction n generalizing l s log with
  | zero => exact ⟨rfl, (List.append_nil _).symm⟩
  | succ n ih =>
    have hreply : (peer.recorded l.request (s, log)).1 = w.reply l.request.address := h _ _ rfl
    have hlog : (log ++ [(l.request, (peer l.request s).1)]).map (·.1.address) =
        log.map (·.1.address) ++ [l.request.address] := List.map_append
    rcases ho : l.request.obstacle? with _ | o
    · have honward : w.onward l.client l.origin l.next =
          (pageIn l.request (w.reply l.request.address)).toOption.bind fun page =>
            onward? l.origin page.1 := onward_of_sendable ho
      rw [after, visited_of_sendable ho]
      rcases hp : pageIn l.request (w.reply l.request.address) with e | ⟨next, hooks⟩
      · replace honward : w.onward l.client l.origin l.next = none := by
          rw [honward, hp]
          rfl
        rw [run_of_error ho (hreply ▸ hp), honward]
        exact ⟨rfl, hlog⟩
      · replace honward : w.onward l.client l.origin l.next = onward? l.origin next := by
          rw [honward, hp]
          rfl
        rcases hn : onward? l.origin next with _ | url
        · rw [run_of_last ho (hreply ▸ hp) hn, honward, hn]
          exact ⟨rfl, hlog⟩
        · rw [run_of_more ho (hreply ▸ hp) hn, honward, hn]
          obtain ⟨hnone, hrecord⟩ := ih { l with next := url, hooks := l.hooks ++ hooks }
            (peer l.request s).2 (log ++ [(l.request, (peer l.request s).1)])
          refine ⟨hnone, hrecord.trans ?_⟩
          rw [hlog, List.append_assoc]
          rfl
    · rw [run_of_obstacle ho, after, onward_of_obstacle ho, visited_of_obstacle ho]
      exact ⟨rfl, (List.append_nil _).symm⟩

namespace HookClient

/-- The addresses that are asked for in a listing of the hooks on a repository, in some rounds. -/
def asked (c : HookClient) (peer : Peer σ) (rounds : Nat) (repo : RepoName) (s : σ) : List Url :=
  (c.listWithin peer.recorded rounds repo (s, [])).2.2.map (·.1.address)

variable {c : HookClient} {peer : Peer σ} {w : Website} {repo : RepoName} {s : σ}

/-- A listing either has no URL to start from, or it is a walk. -/
theorem walk_listWithin (h : peer.Serves w) (c : HookClient) (repo : RepoName) (s : σ) :
    (∃ e, ∀ n, c.listWithin peer.recorded n repo (s, []) = (some (.error e), (s, []))) ∨
    ∃ origin u, ∀ n,
      (c.listWithin peer.recorded n repo (s, [])).1.isNone = (w.after c origin n u).isSome ∧
      c.asked peer n repo s = w.visited c origin n u := by
  rcases hurl : c.url repo none with e | url
  · exact .inl ⟨e, fun n => listWithin_of_error hurl n _⟩
  · refine .inr ⟨url.origin?, url.addToQuery pageSize, fun n => ?_⟩
    rw [asked, listWithin_of_url hurl]
    exact w.run_serves h n (begun c url) s []

/-- A listing that asks for an address a second time goes on forever. -/
theorem unending_of_not_nodup (h : peer.Serves w) {m : Nat} (hm : ¬ (c.asked peer m repo s).Nodup)
    (n : Nat) :
    (c.listWithin peer.recorded n repo (s, [])).1 = none ∧ (c.asked peer n repo s).length = n := by
  rcases walk_listWithin h c repo s with ⟨e, he⟩ | ⟨origin, u, hwalk⟩
  · rw [asked, he] at hm
    exact absurd List.nodup_nil hm
  · rw [(hwalk m).2] at hm
    have hforever := Website.isSome_after_of_not_nodup hm n
    obtain ⟨hnone, hasked⟩ := hwalk n
    rw [hforever, Option.isNone_iff_eq_none] at hnone
    exact ⟨hnone, hasked ▸ (Website.length_visited hforever).1⟩

/-- A listing that asks for no address a second time is over after as many requests as there are
pages and one more. -/
theorem over_of_nodup (h : peer.Serves w)
    (hnodup : (c.asked peer (w.known.length + 1) repo s).Nodup) :
    (c.listWithin peer.recorded (w.known.length + 1) repo (s, [])).1.isSome ∧
      (c.asked peer (w.known.length + 1) repo s).length ≤ w.known.length + 1 := by
  rcases walk_listWithin h c repo s with ⟨e, he⟩ | ⟨origin, u, hwalk⟩
  · rw [asked, he]
    exact ⟨rfl, Nat.zero_le _⟩
  · obtain ⟨hnone, hasked⟩ := hwalk (w.known.length + 1)
    have hstop : (w.after c origin (w.known.length + 1) u).isSome = false := by
      by_contra hgoes
      rw [Bool.not_eq_false] at hgoes
      exact Website.not_nodup_visited w.known.length.lt_succ_self hgoes (hasked ▸ hnodup)
    rw [hstop, Option.isNone_eq_false_iff] at hnone
    exact ⟨hnone, hasked ▸ Website.length_visited_le _ _⟩

/-- **A listing is over, or it is led back.** Of a website that is always the same, a listing of hooks
is over after as many requests as there are pages and one more, however long it is let run, if it has
not asked for any address a second time by then. If it has, it never has a result: however long it is
let run, it goes on asking. -/
theorem over_or_led_back (h : peer.Serves w) (c : HookClient) (repo : RepoName) (s : σ) :
    ((c.asked peer (w.known.length + 1) repo s).Nodup →
      ∃ result x, x.2.length ≤ w.known.length + 1 ∧ ∀ n > w.known.length,
        c.listWithin peer.recorded n repo (s, []) = (some result, x)) ∧
    (¬ (c.asked peer (w.known.length + 1) repo s).Nodup →
      ∀ n, (c.listWithin peer.recorded n repo (s, [])).1 = none ∧
        (c.asked peer n repo s).length = n) := by
  refine ⟨fun hnodup => ?_, fun hback => unending_of_not_nodup h hback⟩
  obtain ⟨hover, hlength⟩ := over_of_nodup h hnodup
  obtain ⟨result, hresult⟩ := Option.isSome_iff_exists.mp hover
  refine ⟨result, _, by simpa [asked] using hlength, fun n hn => ?_⟩
  exact listWithin_of_le hn (Prod.ext hresult rfl)

end HookClient

/-- Two pages are all that is asked for, however long the listing is let run. -/
theorem over_after_two_pages :
    ∃ w : Website, twoPages.Serves w ∧ w.known.length = 2 ∧
      ((Server.hookClient settings "main").asked twoPages 3 ⟨"acme", "a"⟩ ()).length = 2 ∧
      ∃ result x, x.2.length ≤ 3 ∧ ∀ n > 2,
        (Server.hookClient settings "main").listWithin twoPages.recorded n ⟨"acme", "a"⟩ ((), []) =
          (some result, x) := by
  have hserves : twoPages.Serves (.ofAnswers _) := Peer.serves_serving _
  refine ⟨_, hserves, rfl, by decide +kernel, ?_⟩
  exact (HookClient.over_or_led_back hserves _ _ _).1 (by decide +kernel)

/-- A page that leads to itself. -/
def circle : Peer Unit :=
  .serving [(pageOf "a" "per_page=100", leadingTo (pageOf "a" "per_page=100") "[]")]

/-- A listing of one page that leads to itself is never over. -/
theorem led_in_a_circle :
    ∃ w : Website, circle.Serves w ∧ w.known.length = 1 ∧ ∀ n,
      ((Server.hookClient settings "main").listWithin circle.recorded n
        ⟨"acme", "a"⟩ ((), [])).1 = none ∧
      ((Server.hookClient settings "main").asked circle n ⟨"acme", "a"⟩ ()).length = n :=
  ⟨_, Peer.serves_serving _, rfl, HookClient.unending_of_not_nodup (Peer.serves_serving _)
    (m := 2) (by decide +kernel)⟩

end WebhookRelay.Rest
