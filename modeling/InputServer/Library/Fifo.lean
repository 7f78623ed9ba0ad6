import InputServer.Library.Run

set_option autoImplicit true

/-- What happens to a queue: it is given entries, some are taken from it, or it is emptied. -/
inductive FifoEvent (α : Type) where
  | push (xs : List α)
  | pop (xs : List α)
  | clear

/-- The meaning of a queue: what is taken is what was given first and not taken since. -/
inductive FifoStep {α : Type} : FifoEvent α → List α → List α → Prop where
  | push : FifoStep (.push xs) s (s ++ xs)
  | pop : FifoStep (.pop xs) (xs ++ s) s
  | clear : FifoStep .clear s []

/-- A queue that was empty goes through `es`, and holds `s` then. -/
abbrev Fifo {α : Type} (es : List (FifoEvent α)) (s : List α) : Prop :=
  Run FifoStep [] es s

namespace Fifo

variable {α : Type} {es : List (FifoEvent α)} {s xs : List α}

/-- What was given since the queue was emptied last. -/
def given (es : List (FifoEvent α)) : List α :=
  es.foldl (fun past e =>
    match e with
    | .push xs => past ++ xs
    | .pop _ => past
    | .clear => []) []

/-- What was taken since the queue was emptied last. -/
def taken (es : List (FifoEvent α)) : List α :=
  es.foldl (fun past e =>
    match e with
    | .push _ => past
    | .pop xs => past ++ xs
    | .clear => []) []

theorem given_push (es : List (FifoEvent α)) (xs : List α) :
    given (es ++ [.push xs]) = given es ++ xs := by
  rw [given, List.foldl_append]
  rfl

theorem given_pop (es : List (FifoEvent α)) (xs : List α) : given (es ++ [.pop xs]) = given es := by
  rw [given, List.foldl_append]
  rfl

theorem push (h : Fifo es s) (xs : List α) : Fifo (es ++ [.push xs]) (s ++ xs) :=
  h.snoc .push

theorem pop (h : Fifo es (xs ++ s)) : Fifo (es ++ [.pop xs]) s :=
  h.snoc .pop

theorem clear (h : Fifo es s) : Fifo (es ++ [.clear]) [] :=
  h.snoc .clear

/-- What is given to a queue and not taken is what it holds, in order. -/
theorem conserved (h : Fifo es s) : given es = taken es ++ s := by
  apply h.invariant (I := fun es s => given es = taken es ++ s) rfl
  intro es e s s' ih hstep
  rw [given, taken, List.foldl_append, List.foldl_append]
  cases hstep with
  | push =>
    change given es ++ _ = taken es ++ (s ++ _)
    rw [ih, List.append_assoc]
  | pop =>
    change given es = taken es ++ _ ++ s'
    rw [ih, List.append_assoc]
  | clear => rfl

/-- What is taken is a part of what was given, from its start on. -/
theorem taken_prefix (h : Fifo es s) : taken es <+: given es :=
  ⟨s, h.conserved.symm⟩

end Fifo
