import SheaSymphony.Interrupted

/-!
# Programs that log what they are answered

A program asks for answers and logs each of them; an answer may depend on everything that
has been logged before it. `Ends program T` says `T` of what the program comes to and what it
adds to the log, wherever it starts.
-/

namespace Logged

open Interrupted (Program)

variable {α ε δ β γ : Type}

/-- An answer is logged, and an error among the answers stops the program. -/
def ask (event : Except ε β → α) (answer : List α → Except ε β) : Program (List α) ε β := fun log =>
  (answer log, log ++ [event (answer log)])

/-- What has come to be known is logged. -/
def note (event : α) : Program (List α) ε Unit := fun log => (.ok (), log ++ [event])

/-- A `match` on the result of a program: the caller goes on either way. -/
def attempt (program : Program (List α) δ β) : Program (List α) ε (Except δ β) := fun log =>
  (.ok (program log).1, (program log).2)

/-- A program whose errors are read in another way. -/
def mapError (f : δ → ε) (program : Program (List α) δ β) : Program (List α) ε β := fun log =>
  ((program log).1.mapError f, (program log).2)

def Ends (program : Program (List α) ε β) (T : Except ε β → List α → Prop) : Prop :=
  ∀ log, ∃ more, (program log).2 = log ++ more ∧ T (program log).1 more

namespace Ends

variable {program : Program (List α) ε β} {T : Except ε β → List α → Prop}

theorem mono {S : Except ε β → List α → Prop} (h : Ends program S)
    (hmono : ∀ result more, S result more → T result more) : Ends program T := by
  intro log
  obtain ⟨more, hlog, hmore⟩ := h log
  exact ⟨more, hlog, hmono _ _ hmore⟩

theorem pure {b : β} (h : T (.ok b) []) : Ends (Pure.pure b : Program (List α) ε β) T :=
  fun _ => ⟨[], (List.append_nil _).symm, h⟩

theorem stop {e : ε} (h : T (.error e) []) : Ends (Program.stop e : Program (List α) ε β) T :=
  fun _ => ⟨[], (List.append_nil _).symm, h⟩

theorem ask {event : Except ε β → α} {answer : List α → Except ε β}
    (h : ∀ result, T result [event result]) : Ends (ask event answer) T :=
  fun log => ⟨[event (answer log)], rfl, h _⟩

theorem note {event : α} {T : Except ε Unit → List α → Prop} (h : T (.ok ()) [event]) :
    Ends (note event : Program (List α) ε Unit) T :=
  fun _ => ⟨[event], rfl, h⟩

theorem attempt {program : Program (List α) δ β} {T : Except ε (Except δ β) → List α → Prop}
    (h : Ends program fun result more => T (.ok result) more) :
    Ends (attempt program : Program (List α) ε (Except δ β)) T := h

theorem mapError {f : δ → ε} {program : Program (List α) δ β}
    (h : Ends program fun result more => T (result.mapError f) more) :
    Ends (mapError f program) T := h

theorem bind {S : Except ε β → List α → Prop} {rest : β → Program (List α) ε γ}
    {T : Except ε γ → List α → Prop} (h : Ends program S)
    (hstop : ∀ e first, S (.error e) first → T (.error e) first)
    (hrest : ∀ b first, S (.ok b) first →
      Ends (rest b) fun result second => T result (first ++ second)) :
    Ends (program >>= rest) T := by
  intro log
  obtain ⟨first, hlog, hfirst⟩ := h log
  cases hrun : program log with
  | mk result next =>
      rw [hrun] at hlog hfirst
      cases result with
      | error e =>
          rw [Program.bind_error hrun]
          exact ⟨first, hlog, hstop e first hfirst⟩
      | ok b =>
          rw [Program.bind_ok hrun]
          have hnext : next = log ++ first := hlog
          obtain ⟨second, hsecond, hmore⟩ := hrest b first hfirst next
          exact ⟨first ++ second, by rw [hsecond, hnext, List.append_assoc], hmore⟩

theorem ask_bind {event : Except ε β → α} {answer : List α → Except ε β}
    {rest : β → Program (List α) ε γ} {T : Except ε γ → List α → Prop}
    (hstop : ∀ e, T (.error e) [event (.error e)])
    (hrest : ∀ b, Ends (rest b) fun result more => T result (event (.ok b) :: more)) :
    Ends (Logged.ask event answer >>= rest) T := by
  refine bind (S := fun result more => more = [event result]) (ask fun _ => rfl) ?_ ?_
  · rintro e _ rfl
    exact hstop e
  · rintro b _ rfl
    exact hrest b

theorem attempt_bind {program : Program (List α) δ β} {rest : Except δ β → Program (List α) ε γ}
    {S : Except δ β → List α → Prop} {T : Except ε γ → List α → Prop} (h : Ends program S)
    (hrest : ∀ result first, S result first →
      Ends (rest result) fun result second => T result (first ++ second)) :
    Ends (Logged.attempt program >>= rest) T := by
  refine bind (S := fun result more => ∃ inner, result = .ok inner ∧ S inner more)
    (attempt (h.mono fun result more hmore => ⟨result, rfl, hmore⟩)) ?_ ?_
  · rintro e first ⟨inner, hinner, -⟩
    cases hinner
  · rintro b first ⟨inner, hinner, hfirst⟩
    obtain rfl := Except.ok.inj hinner
    exact hrest b first hfirst

end Ends

end Logged
