import Casebook.Cache.Requests

/-!
# Steps of calls

A call of a mapped store works in steps, and each of them may fail: the file may be full or in trouble.
What a call writes is a draft until it is committed.
-/

namespace Casebook.Cache

/-! ### Work on a mapped store -/

/-- A part of a call. It may stop with a fault; a draft that was not committed by then is forgotten. -/
structure Work (α : Type) where
  run : Mapped → Except CacheFault α × Mapped

namespace Work

variable {α β : Type}

instance : Monad Work where
  pure a := ⟨fun m => (.ok a, m)⟩
  bind w next := ⟨fun m =>
    match w.run m with
    | (.ok a, m) => (next a).run m
    | (.error f, m) => (.error f, m)⟩

def fail (f : CacheFault) : Work α := ⟨fun m => (.error f, m)⟩

def look (view : Mapped → α) : Work α := ⟨fun m => (.ok (view m), m)⟩

def update (change : Mapped → Mapped) : Work Unit := ⟨fun m => (.ok (), change m)⟩

/-- Goes on whether the work stops or not. -/
def tolerated (w : Work α) : Work Unit := ⟨fun m => (.ok (), (w.run m).2)⟩

def orNoRoom : Option α → Work α
  | some a => pure a
  | none => fail Mapped.noRoom

variable {w : Work α} {next : α → Work β} {m m' : Mapped}

theorem run_bind : (w >>= next).run m = match w.run m with
    | (.ok a, m) => (next a).run m
    | (.error f, m) => (.error f, m) := rfl

theorem run_of_ok {a : α} (h : w.run m = (.ok a, m')) : (w >>= next).run m = (next a).run m' := by
  rw [run_bind, h]

theorem run_of_error {f : CacheFault} (h : w.run m = (.error f, m')) :
    (w >>= next).run m = (.error f, m') := by
  rw [run_bind, h]

end Work

/-! ### The steps of calls -/

open Work

/-- Where a call may meet with trouble. -/
inductive Stage where
  | openRead
  | read
  | openWrite
  | write
  | commit

/-- The faults that a file has for reasons of its own, at each stage of a call. -/
abbrev Troubles := Stage → Option CacheFault

def Troubles.none : Troubles := fun _ => Option.none

def Troubles.pass (t : Troubles) (s : Stage) : Work Unit :=
  match t s with
  | some f => fail f
  | .none => pure ()

/-- What a write would leave in place of what the store has. -/
structure Draft where
  values : List (String × Bytes)
  file : Pages.Writing
  changed : Bool

namespace Draft

def ofStore (m : Mapped) : Draft := ⟨m.values, m.file.start, false⟩

def put (t : Troubles) (key : String) (stored : Bytes) (d : Draft) : Work Draft := do
  t.pass .write
  let file ← orNoRoom (d.file.put? key stored.length)
  return ⟨Keyed.insert key stored d.values, file, true⟩

def delete (t : Troubles) (key : String) (d : Draft) : Work (Bool × Draft) := do
  t.pass .write
  match Keyed.find? key d.values with
  | none => return (false, d)
  | some _ =>
    let file ← orNoRoom (d.file.delete? key)
    return (true, ⟨Keyed.erase key d.values, file, true⟩)

def commit (t : Troubles) (d : Draft) : Work Unit := do
  t.pass .commit
  if d.changed then
    let file ← orNoRoom d.file.finish?
    update fun m => { m with values := d.values, file }

end Draft

section
variable (t : Troubles) (now : Clock) (key : String)

def removing : Work Bool := do
  t.pass .openWrite
  let d ← look Draft.ofStore
  let (existed, d) ← d.delete t key
  d.commit t
  return existed

def writing (stored : Bytes) : Work Unit := do
  t.pass .openWrite
  let d ← look Draft.ofStore
  let d ← d.put t key stored
  d.commit t

def Mapped.countHit (m : Mapped) : Mapped := { m with hits := m.hits + 1 }

def Mapped.countMiss (m : Mapped) : Mapped := { m with misses := m.misses + 1 }

/-- Counts what was asked for. A value whose time has passed is deleted if that is possible. -/
def answering (stored : Option Bytes) : Work (Option Bytes) :=
  match stored with
  | none => do
    update Mapped.countMiss
    return none
  | some stored =>
    match splitDeadline? stored with
    | none => fail (.corrupt key .short)
    | some (deadline, b) =>
      if deadline ≤ now.wallMillis then do
        update Mapped.countMiss
        (removing t key).tolerated
        return none
      else do
        update Mapped.countHit
        return some b

def reading : Work (Option Bytes) := do
  t.pass .openRead
  t.pass .read
  let stored ← look fun m => Keyed.find? key m.values
  answering t now key stored

def summing : Work Stats := do
  t.pass .openRead
  t.pass .read
  look Mapped.stats

/-- Opens a store again: what it holds was committed, and the write that makes sure of its database has
nothing to change. -/
def opening : Work Unit := do
  t.pass .openWrite
  let d ← look Draft.ofStore
  d.commit t
  update fun m => { m with hits := 0, misses := 0 }

end

def Work.reply {α : Type} (form : α → Reply) (w : Work α) (m : Mapped) : Reply × Mapped :=
  (.of form (w.run m).1, (w.run m).2)

/-- A call of a mapped store whose file may be in trouble. -/
def Mapped.attempt (t : Troubles) (now : Clock) (m : Mapped) : Request → Reply × Mapped
  | .set c b ttl =>
    (writing t (keyOf c) (withDeadline (deadlineAfter now ttl) b)).reply (fun _ => .done) m
  | .get c => (reading t now (keyOf c)).reply .found m
  | .delete c => (removing t (keyOf c)).reply .existed m
  | .ping => (t.pass .openRead).reply (fun _ => .done) m
  | .stats => (summing t).reply .counts m

end Casebook.Cache
