import FramedLink.Error

namespace FramedLink

/-- An endpoint's receive queue. -/
structure Inbox (α : Type) where
  items : List α
  disposed : Bool
deriving Repr

/-- What taking from an inbox gives. -/
inductive Taken (α : Type) where
  | item (x : α) (rest : Inbox α)
  | failed (e : Error)
  | waiting

namespace Inbox

variable {α : Type}

/-- An open inbox with nothing in it. -/
def empty : Inbox α := ⟨[], false⟩

/-- Appends an item; `none` once the inbox is disposed. -/
def push (q : Inbox α) (x : α) : Option (Inbox α) :=
  if q.disposed then none else some { q with items := q.items ++ [x] }

/-- Empties the inbox for good. -/
def dispose (_q : Inbox α) : Inbox α := ⟨[], true⟩

/-- Takes the first item, failing once disposed and waiting while empty. -/
def take (q : Inbox α) : Taken α :=
  if q.disposed then .failed .endpointDisposed
  else
    match q.items with
    | x :: rest => .item x { q with items := rest }
    | [] => .waiting

/-- Takes the first item without waiting. -/
def poll (q : Inbox α) : Except Error (α × Inbox α) :=
  match q.take with
  | .item x rest => .ok (x, rest)
  | .failed e => .error e
  | .waiting => .error .canceled

/-- Takes every waiting item without waiting for more, with the failure that the next take
would meet: `endpointDisposed` once disposed, `canceled` otherwise. -/
def drain (q : Inbox α) : List α × Error × Inbox α :=
  if q.disposed then ([], .endpointDisposed, q) else (q.items, .canceled, { q with items := [] })

/-- Whether items are waiting. -/
def hasData (q : Inbox α) : Bool := !q.items.isEmpty

@[simp] theorem push_items {q r : Inbox α} {x : α} (h : q.push x = some r) :
    r.items = q.items ++ [x] := by
  unfold push at h
  split at h
  · cases h
  · cases h; rfl

@[simp] theorem push_disposed {q r : Inbox α} {x : α} (h : q.push x = some r) :
    r.disposed = q.disposed := by
  unfold push at h
  split at h
  · cases h
  · cases h; rfl

@[simp] theorem take_disposed {q r : Inbox α} {x : α} (h : q.take = .item x r) :
    r.disposed = q.disposed := by
  unfold take at h
  split at h
  · cases h
  · split at h
    · cases h; rfl
    · cases h

theorem exists_push {q : Inbox α} (h : q.disposed = false) (x : α) : ∃ r, q.push x = some r :=
  ⟨{ q with items := q.items ++ [x] }, by simp [push, h]⟩

theorem disposed_of_push {q r : Inbox α} {x : α} (h : q.push x = some r) : q.disposed = false := by
  unfold push at h
  split at h
  · cases h
  · simpa using ‹¬q.disposed = true›

theorem push_eq_none_iff {q : Inbox α} {x : α} : q.push x = none ↔ q.disposed = true := by
  unfold push
  split <;> simp_all

end Inbox
end FramedLink
