import Casebook.Cache.Steps
import Casebook.Proofs.Cache.Agreement

/-!
# Steps of a mapped store

Main statement: if the file of a mapped store is in no trouble, the steps of a call are the call.
-/

namespace Casebook.Cache

open Work

/-! ### Calls without trouble -/

theorem Draft.run_put (key : String) (stored : Bytes) (d : Draft) (m : Mapped) :
    (d.put .none key stored).run m = match d.file.put? key stored.length with
      | some file => (.ok ⟨Keyed.insert key stored d.values, file, true⟩, m)
      | none => (.error Mapped.noRoom, m) := by
  unfold Draft.put
  rw [run_of_ok rfl]
  cases d.file.put? key stored.length <;> rfl

theorem Draft.run_delete (key : String) (d : Draft) (m : Mapped) :
    (d.delete .none key).run m = match Keyed.find? key d.values with
      | none => (.ok (false, d), m)
      | some _ => match d.file.delete? key with
        | some file => (.ok (true, ⟨Keyed.erase key d.values, file, true⟩), m)
        | none => (.error Mapped.noRoom, m) := by
  unfold Draft.delete
  rw [run_of_ok rfl]
  cases Keyed.find? key d.values with
  | none => rfl
  | some _ => cases d.file.delete? key <;> rfl

theorem Draft.run_commit (values : List (String × Bytes)) (file : Pages.Writing) (m : Mapped) :
    (Draft.commit .none ⟨values, file, true⟩).run m = match file.finish? with
      | some file => (.ok (), { m with values, file })
      | none => (.error Mapped.noRoom, m) := by
  unfold Draft.commit
  rw [run_of_ok rfl, if_pos rfl]
  cases file.finish? <;> rfl

theorem removing_none (key : String) (m : Mapped) : (removing .none key).run m = m.delete key := by
  unfold removing Mapped.delete Pages.delete?
  rw [run_of_ok rfl, run_of_ok rfl, run_bind, Draft.run_delete]
  unfold Draft.ofStore
  cases Keyed.find? key m.values with
  | none => rfl
  | some stored =>
    cases m.file.start.delete? key with
    | none => rfl
    | some file =>
      simp only [Option.bind_eq_bind, Option.bind_some, run_bind, Draft.run_commit]
      cases file.finish? <;> rfl

theorem writing_none (now : Clock) (key : String) (b : Bytes) (ttl : Span) (m : Mapped) :
    (writing .none key (withDeadline (deadlineAfter now ttl) b)).run m = m.set now key b ttl := by
  unfold writing Mapped.set Pages.put?
  rw [run_of_ok rfl, run_of_ok rfl, run_bind, Draft.run_put]
  unfold Draft.ofStore
  dsimp only
  cases m.file.start.put? key (withDeadline (deadlineAfter now ttl) b).length with
  | none => rfl
  | some file => exact Draft.run_commit _ file m

theorem delete_countMiss (m : Mapped) (key : String) :
    (m.countMiss.delete key).2 = { (m.delete key).2 with misses := m.misses + 1 } := by
  unfold Mapped.countMiss Mapped.delete
  cases Keyed.find? key m.values with
  | none => rfl
  | some stored => cases m.file.delete? key <;> rfl

theorem reading_none (now : Clock) (key : String) (m : Mapped) :
    (reading .none now key).run m = m.get now key := by
  unfold reading answering Mapped.get
  rw [run_of_ok rfl, run_of_ok rfl, run_of_ok rfl]
  dsimp only
  cases Keyed.find? key m.values with
  | none => rfl
  | some stored =>
    dsimp only
    cases splitDeadline? stored with
    | none => rfl
    | some p =>
      dsimp only
      split
      next =>
        rw [run_of_ok rfl, run_of_ok rfl]
        show (_, ((removing .none key).run _).2) = _
        rw [removing_none, delete_countMiss]
      next => rfl

theorem handle_mapped (now : Clock) (m : Mapped) (q : Request) :
    (Store.mapped m).handle now q =
      ((m.attempt .none now q).1, .mapped (m.attempt .none now q).2) := by
  unfold Mapped.attempt Work.reply
  cases q with
  | set c b ttl => simp only [writing_none, Store.handle, Store.set]
  | get c => simp only [reading_none, Store.handle, Store.get]
  | delete c => simp only [removing_none, Store.handle, Store.delete]
  | ping => rfl
  | stats => rfl

end Casebook.Cache
