/-!
# Acts

An act runs in a world and ends with a value or with a cause of failure. The world is what
the act has left behind, in both cases.
-/

namespace PartnerRecords

def Act (ω ε α : Type) : Type :=
  ω → Except ε α × ω

namespace Act

variable {ω σ ε δ α β : Type}

def done (value : α) : Act ω ε α :=
  fun world => (.ok value, world)

def fail (cause : ε) : Act ω ε α :=
  fun world => (.error cause, world)

/-- Goes on with the value of an act; a failure is the end. -/
def andThen (act : Act ω ε α) (next : α → Act ω ε β) : Act ω ε β :=
  fun world => match act world with
    | (.ok value, world) => next value world
    | (.error cause, world) => (.error cause, world)

instance : Monad (Act ω ε) where
  pure := done
  bind := andThen

def ofExcept : Except ε α → Act ω ε α
  | .ok value => done value
  | .error cause => fail cause

def get : Act ω ε ω :=
  fun world => (.ok world, world)

def update (f : ω → ω) : Act ω ε Unit :=
  fun world => (.ok (), f world)

/-- Keeps the outcome of an act, whether it fails or not. -/
def attempt (act : Act ω ε α) : Act ω δ (Except ε α) :=
  fun world => (.ok (act world).1, (act world).2)

/-- Names the cause of a failure in the terms of the caller. -/
def orFail (act : Act ω δ α) (cause : δ → ε) : Act ω ε α :=
  fun world => match act world with
    | (.ok value, world) => (.ok value, world)
    | (.error reason, world) => (.error (cause reason), world)

/-- Runs an act in the second part of a larger world. -/
def inside (act : Act ω ε α) : Act (σ × ω) ε α :=
  fun world => match act world.2 with
    | (result, inner) => (result, (world.1, inner))

/-- Updates the first part of a world. -/
def updateFirst (f : σ → σ) : Act (σ × ω) ε Unit :=
  update fun world => (f world.1, world.2)

/-- Does something with each item, in order, until the first failure. -/
def each (act : α → Act ω ε Unit) : List α → Act ω ε Unit
  | [] => done ()
  | item :: rest => andThen (act item) fun _ => each act rest

@[simp] theorem pure_apply (value : α) (world : ω) :
    (pure value : Act ω ε α) world = (.ok value, world) := rfl

@[simp] theorem done_apply (value : α) (world : ω) :
    (done value : Act ω ε α) world = (.ok value, world) := rfl

@[simp] theorem fail_apply (cause : ε) (world : ω) :
    (fail cause : Act ω ε α) world = (.error cause, world) := rfl

@[simp] theorem update_apply (f : ω → ω) (world : ω) :
    (update f : Act ω ε Unit) world = (.ok (), f world) := rfl

theorem bind_apply (act : Act ω ε α) (next : α → Act ω ε β) (world : ω) :
    (act >>= next) world = match act world with
      | (.ok value, world) => next value world
      | (.error cause, world) => (.error cause, world) := rfl

theorem inside_apply (act : Act ω ε α) (first : σ) (world : ω) :
    act.inside (first, world) = ((act world).1, (first, (act world).2)) := rfl

end Act

end PartnerRecords
