import Ftp.Request

/-!
# Programs

A `Program` computes a value by asking requests one after the other, each of which may depend on the
answers to those before it. What the server does is written as programs, so that it can be run
against any platform (`Program.run`) and every run of it can be reasoned about.
-/

namespace Ftp

inductive Program (α : Type) where
  | done (value : α)
  | ask (request : Request) (resume : request.Answer → Program α)

namespace Program

variable {α β γ : Type}

def bind (program : Program α) (next : α → Program β) : Program β :=
  match program with
  | .done value => next value
  | .ask request resume => .ask request fun answer => (resume answer).bind next

instance : Monad Program where
  pure := .done
  bind := bind

/-- Asks one request. -/
def request (r : Request) : Program r.Answer :=
  .ask r .done

@[simp] theorem pure_eq (value : α) : (pure value : Program α) = .done value := rfl

@[simp] theorem done_bind (value : α) (next : α → Program β) :
    Program.done value >>= next = next value := rfl

@[simp] theorem ask_bind (r : Request) (resume : r.Answer → Program α) (next : α → Program β) :
    Program.ask r resume >>= next = .ask r fun answer => resume answer >>= next := rfl

@[simp] theorem request_bind (r : Request) (next : r.Answer → Program β) :
    request r >>= next = .ask r next := rfl

theorem bind_done (program : Program α) : program >>= Program.done = program := by
  induction program with
  | done value => rfl
  | ask r resume ih => simp [ih]

theorem bind_bind (program : Program α) (f : α → Program β) (g : β → Program γ) :
    program >>= f >>= g = program >>= fun value => f value >>= g := by
  induction program with
  | done value => rfl
  | ask r resume ih => simp [ih]

instance : LawfulMonad Program :=
  LawfulMonad.mk' Program
    (fun program => bind_done program)
    (fun _ _ => rfl)
    (fun program f g => bind_bind program f g)

/-- Runs the program on a platform that answers requests from a state of its own. -/
def run {World : Type} (answer : (r : Request) → World → r.Answer × World) :
    Program α → World → α × World
  | .done value, world => (value, world)
  | .ask r resume, world =>
    let (reply, world) := answer r world
    (resume reply).run answer world

theorem run_bind {World : Type} (answer : (r : Request) → World → r.Answer × World)
    (program : Program α) (next : α → Program β) (world : World) :
    (program >>= next).run answer world =
      let (value, world) := program.run answer world
      (next value).run answer world := by
  induction program generalizing world with
  | done value => rfl
  | ask r resume ih => simp [run, ih]

end Program

end Ftp
