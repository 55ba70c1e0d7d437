import WebhookRelay.Program

/-!
# Programs side by side

Several programs may be under way at a time, on one state. `Program.advance` makes the next call of
a program and nothing else; a schedule says whose turn it is, and `Program.interleave` runs the
programs that way.
-/

namespace WebhookRelay.Program

variable {C α σ : Type}

/-- Makes the next call of a program, if it has one. -/
def advance (handler : Handler C σ) : Program C α → σ → Program C α × σ
  | done a, s => (done a, s)
  | call c next, s =>
    let (reply, s) := handler c s
    (next reply, s)

/-- Whether a program has ended. -/
def isDone : Program C α → Bool
  | done _ => true
  | call .. => false

/-- Runs programs side by side. The schedule names the program whose turn it is; a turn of none that
exists passes. -/
def interleave (handler : Handler C σ) :
    List Nat → List (Program C α) → σ → List (Program C α) × σ
  | [], ps, s => (ps, s)
  | i :: schedule, ps, s =>
    match ps[i]? with
    | none => interleave handler schedule ps s
    | some p =>
      let (p, s) := p.advance handler s
      interleave handler schedule (ps.set i p) s

end WebhookRelay.Program
