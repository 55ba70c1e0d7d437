import WebhookRelay.Interleaving
import WebhookRelay.Proofs.Runs

/-!
# Side by side, and one after the other

`Program.Interleaves` is everything that may come of programs that are run side by side on one state,
with the record of their calls: a schedule makes one of these runs (`Program.interleaves_interleave`).
Running programs one after the other (`Program.inOrder`) is among them, since a program may have all
turns until it has ended (`Program.interleaves_inOrder`).
-/

namespace WebhookRelay.Program

variable {C α σ : Type} {handler : Handler C σ} {p : Program C α} {ps qs rs : List (Program C α)}
  {s s₁ s' : σ} {log log' : List (Exchange C)}

/-- What may come of programs that are run side by side, one call of one of them at a time. -/
inductive Interleaves (handler : Handler C σ) :
    List (Program C α) → σ → List (Exchange C) → List (Program C α) → σ → Prop where
  /-- no program has another turn -/
  | rest (ps : List (Program C α)) (s : σ) : Interleaves handler ps s [] ps s
  /-- one of the programs makes its next call -/
  | turn {i : Nat} {c : Call C} {next : c.Reply → Program C α} {ps qs : List (Program C α)}
      {s s' : σ} {log : List (Exchange C)} (hp : ps[i]? = some (.call c next))
      (hr : Interleaves handler (ps.set i (next (handler c s).1)) (handler c s).2 log qs s') :
      Interleaves handler ps s (⟨c, (handler c s).1⟩ :: log) qs s'

/-- Putting an element where it is changes nothing. -/
theorem set_eq_self {β : Type} {l : List β} {i : Nat} {b : β} (h : l[i]? = some b) :
    l.set i b = l := by
  obtain ⟨hi, rfl⟩ := List.getElem?_eq_some_iff.mp h
  exact List.set_getElem_self hi

namespace Interleaves

theorem length_eq (h : Interleaves handler ps s log qs s') : qs.length = ps.length := by
  induction h with
  | rest => rfl
  | turn _ _ ih => rw [ih, List.length_set]

theorem trans (h : Interleaves handler ps s log qs s₁) (h' : Interleaves handler qs s₁ log' rs s') :
    Interleaves handler ps s (log ++ log') rs s' := by
  induction h with
  | rest => exact h'
  | turn hp _ ih => exact .turn hp (ih h')

/-- A program that has no turn changes nothing. -/
theorem cons (p : Program C α) (h : Interleaves handler ps s log qs s') :
    Interleaves handler (p :: ps) s log (p :: qs) s' := by
  induction h with
  | rest ps s => exact .rest _ s
  | @turn i c next ps qs s s' log hp hr ih =>
    have hp' : (p :: ps)[i + 1]? = some (.call c next) := hp
    exact .turn hp' ih

end Interleaves

/-- One program may have all turns. -/
theorem interleaves_of_runs {a : α} {trace : List (Exchange C)}
    (hr : Runs handler.conduct p s trace a s') (ps : List (Program C α)) :
    Interleaves handler (p :: ps) s trace (.done a :: ps) s' := by
  induction hr with
  | done a s => exact .rest _ s
  | @call c next reply s s₁ s' trace a hc _ ih =>
    obtain ⟨rfl, rfl⟩ : (handler c s).1 = reply ∧ (handler c s).2 = s₁ :=
      ⟨congrArg Prod.fst hc, congrArg Prod.snd hc⟩
    have hp : (Program.call c next :: ps)[0]? = some (.call c next) := rfl
    exact .turn hp ih

/-- What a schedule makes of programs. -/
theorem interleaves_interleave (handler : Handler C σ) (schedule : List Nat)
    (ps : List (Program C α)) (s : σ) :
    ∃ log, Interleaves handler ps s log (interleave handler schedule ps s).1
      (interleave handler schedule ps s).2 ∧ log.length ≤ schedule.length := by
  induction schedule generalizing ps s with
  | nil => exact ⟨[], .rest ps s, Nat.le_refl _⟩
  | cons i schedule ih =>
    rw [interleave]
    split
    · obtain ⟨log, h, hlen⟩ := ih ps s
      exact ⟨log, h, Nat.le_succ_of_le hlen⟩
    · next p hp =>
      rcases p with a | ⟨c, next⟩
      · obtain ⟨log, h, hlen⟩ := ih ps s
        refine ⟨log, ?_, Nat.le_succ_of_le hlen⟩
        simp only [advance, set_eq_self hp]
        exact h
      · obtain ⟨log, h, hlen⟩ := ih (ps.set i (next (handler c s).1)) (handler c s).2
        exact ⟨_, .turn hp h, Nat.succ_le_succ hlen⟩

/-- Programs that have all ended have each ended in something. -/
theorem exists_eq_map_done (h : ps.all isDone = true) : ∃ as : List α, ps = as.map .done := by
  induction ps with
  | nil => exact ⟨[], rfl⟩
  | cons p ps ih =>
    rw [List.all_cons, Bool.and_eq_true] at h
    obtain ⟨as, rfl⟩ := ih h.2
    cases p with
    | done a => exact ⟨a :: as, rfl⟩
    | call c next => cases h.1

/-! ## One after the other -/

/-- Runs programs one after the other, and says what each has ended in. -/
def inOrder : List (Program C α) → Program C (List α)
  | [] => done []
  | p :: ps => p.bind fun a => (inOrder ps).bind fun as => done (a :: as)

/-- Programs that are run one after the other are run side by side in a way. -/
theorem interleaves_inOrder {as : List α} {trace : List (Exchange C)}
    (hr : Runs handler.conduct (inOrder ps) s trace as s') :
    Interleaves handler ps s trace (as.map .done) s' := by
  induction ps generalizing s trace as with
  | nil =>
    obtain ⟨rfl, rfl, rfl⟩ := runs_done.mp hr
    exact .rest [] _
  | cons p ps ih =>
    obtain ⟨before, a, s₁, after, hp, hps, rfl⟩ := runs_bind.mp hr
    obtain ⟨between, as, s₂, last, hps, hd, rfl⟩ := runs_bind.mp hps
    obtain ⟨rfl, rfl, rfl⟩ := runs_done.mp hd
    rw [List.append_nil]
    exact (interleaves_of_runs hp ps).trans ((ih hps).cons (.done a))

end WebhookRelay.Program
