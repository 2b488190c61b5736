import Mathlib.Logic.Basic

/-!
# Programs that may stop

A program on a world returns a value or stops with an error; what it has done to
the world by then stays done. A triple says what holds when it returns and what
holds when it stops, so that an assertion about stopping is one about every
place the program can be cut off at.
-/

namespace Interrupted

/-- A program on worlds `ω` that returns an `α` or stops with an `ε`. -/
def Program (ω ε α : Type) := ω → Except ε α × ω

variable {ω ε α β : Type} {e : ε} {a : α} {condition : Bool} {after : β → ω → Prop}
  {result : Except ε α}

namespace Program

instance : Monad (Program ω ε) where
  pure a := fun world => (.ok a, world)
  bind program rest := fun world =>
    match program world with
    | (.ok a, after) => rest a after
    | (.error e, after) => (.error e, after)

/-- Stop here. -/
def stop (e : ε) : Program ω ε α := fun world => (.error e, world)

/-- A step that gives a value and leaves a world. -/
def step (f : ω → α × ω) : Program ω ε α := fun world => (.ok (f world).1, (f world).2)

/-- `?` on a result at hand. -/
def ofExcept (result : Except ε α) : Program ω ε α := fun world => (result, world)

/-- A `match` on the result of a program: the caller goes on either way. -/
def outcome (program : Program ω ε α) : Program ω ε (Except ε α) := fun world =>
  (.ok (program world).1, (program world).2)

/-- Stop unless the condition holds. -/
def require (condition : Bool) (e : ε) : Program ω ε Unit :=
  if condition then Pure.pure () else stop e

variable {program : Program ω ε α} {rest : α → Program ω ε β} {world next : ω}

theorem bind_ok (h : program world = (.ok a, next)) :
    (program >>= rest) world = rest a next := by
  show (match program world with
    | (.ok a, next) => rest a next
    | (.error e, next) => (.error e, next)) = rest a next
  rw [h]

theorem bind_error (h : program world = (.error e, next)) :
    (program >>= rest) world = (.error e, next) := by
  show (match program world with
    | (.ok a, next) => rest a next
    | (.error e, next) => (.error e, next)) = (.error e, next)
  rw [h]

theorem bind_assoc {γ : Type} {next : β → Program ω ε γ} :
    ((program >>= rest) >>= next) = program >>= fun a => rest a >>= next := by
  funext world
  cases hrun : program world with
  | mk result after =>
      cases result with
      | ok a =>
          rw [bind_ok hrun]
          show (match (program >>= rest) world with
            | (.ok b, after) => next b after
            | (.error e, after) => (.error e, after)) = _
          rw [bind_ok hrun]
          rfl
      | error e =>
          rw [bind_error hrun]
          exact bind_error (bind_error hrun)

theorem bind_eq_ok_iff {b : β} {after : ω} :
    (program >>= rest) world = (.ok b, after)
      ↔ ∃ a middle, program world = (.ok a, middle) ∧ rest a middle = (.ok b, after) := by
  cases hrun : program world with
  | mk result middle =>
      cases result with
      | error e =>
          rw [bind_error hrun]
          constructor
          · intro h
            cases h
          · rintro ⟨a, next, h, -⟩
            cases h
      | ok a =>
          rw [bind_ok hrun]
          constructor
          · exact fun h => ⟨a, middle, rfl, h⟩
          · rintro ⟨other, next, h, hrest⟩
            cases h
            exact hrest

theorem ofExcept_eq_ok_iff {after : ω} :
    ofExcept result world = (.ok a, after) ↔ result = .ok a ∧ after = world := by
  constructor
  · intro h
    exact ⟨congrArg Prod.fst h, (congrArg Prod.snd h).symm⟩
  · rintro ⟨rfl, rfl⟩
    rfl

theorem pure_eq_ok_iff {a b : α} {after : ω} :
    (Pure.pure a : Program ω ε α) world = (.ok b, after) ↔ b = a ∧ after = world := by
  constructor
  · intro h
    have hresult : (Except.ok a : Except ε α) = .ok b := congrArg Prod.fst h
    exact ⟨(Except.ok.inj hresult).symm, (congrArg Prod.snd h).symm⟩
  · rintro ⟨rfl, rfl⟩
    rfl

theorem require_eq_ok_iff {u : Unit} {after : ω} :
    require condition e world = (.ok u, after) ↔ condition = true ∧ after = world := by
  cases condition with
  | true =>
      rw [require, if_pos rfl, pure_eq_ok_iff]
      exact ⟨fun h => ⟨rfl, h.2⟩, fun h => ⟨rfl, h.2⟩⟩
  | false =>
      constructor
      · intro h
        have hfst := congrArg Prod.fst h
        cases hfst
      · intro h
        cases h.1

theorem pure_bind : ((Pure.pure a : Program ω ε α) >>= rest) = rest a := rfl

theorem ofExcept_ok_bind : (ofExcept (.ok a) >>= rest) = rest a := rfl

theorem ofExcept_error_bind : (ofExcept (.error e : Except ε α) >>= rest) = stop e := rfl

theorem require_true_bind {rest : Unit → Program ω ε β} :
    (require true e >>= rest) = rest () := rfl

theorem require_false_bind {rest : Unit → Program ω ε β} :
    (require false e >>= rest) = stop e := rfl

end Program

def Triple (pre : ω → Prop) (program : Program ω ε α) (post : α → ω → Prop) (stop : ω → Prop) :
    Prop :=
  ∀ world, pre world →
    match program world with
    | (.ok a, after) => post a after
    | (.error _, after) => stop after

namespace Triple

variable {pre pre' : ω → Prop} {post post' : α → ω → Prop} {stop stop' : ω → Prop}
  {program : Program ω ε α}

theorem run (h : Triple pre program post stop) {world : ω} (hpre : pre world) :
    match program world with
    | (.ok a, after) => post a after
    | (.error _, after) => stop after :=
  h world hpre

theorem of_run (h : ∀ world, pre world →
    match program world with
    | (.ok a, after) => post a after
    | (.error _, after) => stop after) : Triple pre program post stop := h

theorem pure (h : ∀ world, pre world → post a world) :
    Triple pre (Pure.pure a : Program ω ε α) post stop := h

theorem halt (h : ∀ world, pre world → stop world) :
    Triple pre (Program.stop e : Program ω ε α) post stop := h

theorem bind {m : α → ω → Prop} {rest : α → Program ω ε β} (hprogram : Triple pre program m stop)
    (hrest : ∀ a, Triple (m a) (rest a) after stop) :
    Triple pre (program >>= rest) after stop := by
  intro world hpre
  have hmiddle := hprogram world hpre
  cases hrun : program world with
  | mk result next =>
      rw [hrun] at hmiddle
      cases result with
      | error e =>
          rw [Program.bind_error hrun]
          exact hmiddle
      | ok a =>
          rw [Program.bind_ok hrun]
          exact hrest a next hmiddle

theorem step {f : ω → α × ω} (h : ∀ world, pre world → post (f world).1 (f world).2) :
    Triple pre (Program.step f : Program ω ε α) post stop := h

theorem ofExcept (hok : ∀ a, result = .ok a → ∀ world, pre world → post a world)
    (hstop : ∀ world, pre world → stop world) :
    Triple pre (Program.ofExcept result) post stop := by
  intro world hpre
  cases result with
  | error e => exact hstop world hpre
  | ok a => exact hok a rfl world hpre

theorem require_known {post : Unit → ω → Prop}
    (hok : condition = true → ∀ world, pre world → post () world)
    (hstop : condition = false → ∀ world, pre world → stop world) :
    Triple pre (Program.require condition e) post stop := by
  cases condition with
  | true => exact pure (hok rfl)
  | false => exact halt (hstop rfl)

theorem require {post : Unit → ω → Prop}
    (hok : condition = true → ∀ world, pre world → post () world)
    (hstop : ∀ world, pre world → stop world) :
    Triple pre (Program.require condition e) post stop :=
  require_known hok fun _ => hstop

theorem bind_known {value : α} {fact : Prop} {middle : ω → Prop} {rest : α → Program ω ε β}
    (hprogram : Triple pre program (fun a world => a = value ∧ fact ∧ middle world) stop)
    (hrest : fact → Triple middle (rest value) after stop) :
    Triple pre (program >>= rest) after stop := by
  refine bind hprogram fun a world hworld => ?_
  obtain ⟨rfl, hfact, hmiddle⟩ := hworld
  exact hrest hfact world hmiddle

theorem require_bind_known {rest : Unit → Program ω ε β}
    (hrest : condition = true → Triple pre (rest ()) after stop)
    (hstop : condition = false → ∀ world, pre world → stop world) :
    Triple pre (Program.require condition e >>= rest) after stop := by
  cases condition with
  | true => exact hrest rfl
  | false => exact hstop rfl

theorem require_bind {rest : Unit → Program ω ε β}
    (hrest : condition = true → Triple pre (rest ()) after stop)
    (hstop : ∀ world, pre world → stop world) :
    Triple pre (Program.require condition e >>= rest) after stop :=
  require_bind_known hrest fun _ => hstop

theorem weaken (h : Triple pre program post stop) (hpre : ∀ world, pre' world → pre world)
    (hpost : ∀ a world, post a world → post' a world) (hstop : ∀ world, stop world → stop' world) :
    Triple pre' program post' stop' := by
  intro world hworld
  have hrun := h world (hpre world hworld)
  cases hprogram : program world with
  | mk result next =>
      rw [hprogram] at hrun
      cases result with
      | error e => exact hstop next hrun
      | ok a => exact hpost a next hrun

theorem of_fact {fact : Prop} (hfact : ∀ world, pre world → fact)
    (h : fact → Triple pre program post stop) : Triple pre program post stop :=
  fun world hpre => h (hfact world hpre) world hpre

end Triple

-- a statement about a program is not one to compute with
attribute [irreducible] Triple

/-! ## What a program returns

A fact about the values a program returns, whatever the worlds do. -/

/-- Every value the program returns satisfies `post`. -/
def Returns (program : Program ω ε α) (post : α → Prop) : Prop :=
  ∀ world a after, program world = (.ok a, after) → post a

namespace Returns

variable {program : Program ω ε α} {post post' : α → Prop} {rest : α → Program ω ε β}

theorem any : Returns program fun _ => True := fun _ _ _ _ => trivial

theorem pure (h : post a) : Returns (Pure.pure a : Program ω ε α) post := by
  intro world b after hrun
  obtain rfl : a = b := Except.ok.inj (congrArg Prod.fst hrun)
  exact h

theorem stop : Returns (Program.stop e : Program ω ε α) post := by
  intro world a after hrun
  cases congrArg Prod.fst hrun

theorem mono (h : Returns program post) (hpost : ∀ a, post a → post' a) :
    Returns program post' :=
  fun world a after hrun => hpost a (h world a after hrun)

theorem bind {after : β → Prop} (hprogram : Returns program post)
    (hrest : ∀ a, post a → Returns (rest a) after) : Returns (program >>= rest) after := by
  intro world b next hrun
  cases hprogram' : program world with
  | mk result middle =>
      cases result with
      | error e =>
          rw [Program.bind_error hprogram'] at hrun
          cases congrArg Prod.fst hrun
      | ok a =>
          rw [Program.bind_ok hprogram'] at hrun
          exact hrest a (hprogram world a middle hprogram') middle b next hrun

theorem seq {after : β → Prop} (hrest : ∀ a, Returns (rest a) after) :
    Returns (program >>= rest) after :=
  bind any fun a _ => hrest a

theorem outcome (h : Returns program post) :
    Returns program.outcome fun result => ∀ a, result = .ok a → post a := by
  intro world result after hrun a hresult
  have hfst : (program world).1 = result := Except.ok.inj (congrArg Prod.fst hrun)
  exact h world a (program world).2 (Prod.ext (hfst.trans hresult) rfl)

end Returns

/-- The program returns `a` in some world. -/
def MayReturn (program : Program ω ε α) (a : α) : Prop :=
  ∃ world after, program world = (.ok a, after)

theorem Returns.mayReturn {program : Program ω ε α} : Returns program (MayReturn program) :=
  fun world _ after hrun => ⟨world, after, hrun⟩

theorem Returns.of_mayReturn {program : Program ω ε α} {post : α → Prop}
    (h : Returns program post) (hreturn : MayReturn program a) : post a := by
  obtain ⟨world, after, hrun⟩ := hreturn
  exact h world a after hrun

/-! ## What a program answers

The result of a program, when it is the same in every world. -/

/-- The program gives `result` in every world. -/
def Answers (program : Program ω ε α) (result : Except ε α) : Prop :=
  ∀ world, (program world).1 = result

namespace Answers

variable {program : Program ω ε α} {rest : α → Program ω ε β}

theorem pure : Answers (Pure.pure a : Program ω ε α) (.ok a) := fun _ => rfl

theorem ofExcept :
    Answers (Program.ofExcept result : Program ω ε α) result := fun _ => rfl

theorem bind {result : Except ε β} (hprogram : Answers program (.ok a))
    (hrest : Answers (rest a) result) : Answers (program >>= rest) result := by
  intro world
  have hbind : (program >>= rest) world = rest a (program world).2 :=
    Program.bind_ok (Prod.ext (hprogram world) rfl)
  rw [hbind]
  exact hrest _

theorem bind_error (hprogram : Answers program (.error e)) :
    Answers (program >>= rest) (.error e) := by
  intro world
  have hbind : (program >>= rest) world = (.error e, (program world).2) :=
    Program.bind_error (Prod.ext (hprogram world) rfl)
  rw [hbind]

theorem outcome (h : Answers program result) :
    Answers program.outcome (.ok result) := fun world => congrArg Except.ok (h world)

theorem returns (h : Answers program (.ok a)) : Returns program (· = a) := by
  intro world b after hrun
  have hfst := h world
  rw [hrun] at hfst
  exact Except.ok.inj hfst

theorem exists_run (h : Answers program (.ok a)) (world : ω) :
    ∃ after, program world = (.ok a, after) :=
  ⟨(program world).2, Prod.ext (h world) rfl⟩

end Answers

/-! ## Two programs in step

Two programs that do the same to every world, and whose values are related. -/

/-- How the results of two programs in step belong together. -/
def Related (related : α → β → Prop) : Except ε α → Except ε β → Prop
  | .ok a, .ok b => related a b
  | .error e, .error e' => e = e'
  | _, _ => False

def Mirrors (related : α → β → Prop) (program : Program ω ε α) (mirror : Program ω ε β) : Prop :=
  ∀ world, (program world).2 = (mirror world).2
    ∧ Related related (program world).1 (mirror world).1

namespace Mirrors

variable {γ δ : Type} {related : α → β → Prop} {final : γ → δ → Prop} {program : Program ω ε α}
  {mirror : Program ω ε β}

theorem pure {b : β} (h : related a b) :
    Mirrors related (Pure.pure a : Program ω ε α) (Pure.pure b) := fun _ => ⟨rfl, h⟩

theorem bind {rest : α → Program ω ε γ} {mirrorRest : β → Program ω ε δ}
    (h : Mirrors related program mirror)
    (hrest : ∀ a b, related a b → Mirrors final (rest a) (mirrorRest b)) :
    Mirrors final (program >>= rest) (mirror >>= mirrorRest) := by
  intro world
  obtain ⟨hworld, hresult⟩ := h world
  cases hleft : program world with
  | mk left next =>
      cases hright : mirror world with
      | mk right other =>
          rw [hleft, hright] at hworld hresult
          obtain rfl : next = other := hworld
          cases left with
          | error e =>
              cases right with
              | error e' =>
                  rw [Program.bind_error hleft, Program.bind_error hright]
                  exact ⟨rfl, hresult⟩
              | ok b => exact hresult.elim
          | ok a =>
              cases right with
              | error e' => exact hresult.elim
              | ok b =>
                  rw [Program.bind_ok hleft, Program.bind_ok hright]
                  exact hrest a b hresult next

theorem of_returns {program : Program ω ε α} {post : α → Prop} (h : Returns program post) :
    Mirrors (fun a b => a = b ∧ post a) program program := by
  refine fun world => ⟨rfl, ?_⟩
  cases hrun : program world with
  | mk result after =>
      cases result with
      | error e => exact rfl
      | ok a => exact ⟨rfl, h world a after hrun⟩

theorem seq {rest : α → Program ω ε γ} {mirrorRest : α → Program ω ε δ}
    (h : ∀ a, Mirrors final (rest a) (mirrorRest a)) :
    Mirrors final (program >>= rest) (program >>= mirrorRest) := by
  intro world
  cases hrun : program world with
  | mk result next =>
      cases result with
      | error e =>
          rw [Program.bind_error hrun, Program.bind_error hrun]
          exact ⟨rfl, rfl⟩
      | ok a =>
          rw [Program.bind_ok hrun, Program.bind_ok hrun]
          exact h a next

end Mirrors

end Interrupted
