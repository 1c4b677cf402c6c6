/-!
# Locks

A lock that is released goes to whoever has waited longest. It is theirs from then on, although
they take it up only when they are next run; nobody who comes later overtakes them.
-/

namespace Inspector

/-- Stands for one who waits. -/
abbrev Ticket := Nat

/-- A lock and those who wait for it, in the order of arrival. -/
inductive Lock where
  | free
  | held (waiting : List Ticket)
  /-- Released to one who has not taken it up yet. -/
  | handed (next : Ticket) (waiting : List Ticket)
deriving DecidableEq, Repr

namespace Lock

/-- Takes the lock if it is free, and else waits; says whether it was taken. -/
def acquire (lock : Lock) (ticket : Ticket) : Bool × Lock :=
  match lock with
  | free => (true, held [])
  | held waiting => (false, held (waiting ++ [ticket]))
  | handed next waiting => (false, handed next (waiting ++ [ticket]))

/-- Takes up a lock that was handed over; says whether it was. -/
def takeUp (lock : Lock) (ticket : Ticket) : Bool × Lock :=
  match lock with
  | handed next waiting => if next = ticket then (true, held waiting) else (false, lock)
  | _ => (false, lock)

/-- Gives the lock to the first who waits. -/
def release : Lock → Lock
  | held (next :: waiting) => handed next waiting
  | held [] => free
  | other => other

end Lock

end Inspector
