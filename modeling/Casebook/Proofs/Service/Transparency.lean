import Casebook.Proofs.Service.Contents
import Casebook.Samples

/-!
# Transparency of the cache

While the clients behave as they did at the start, a cache that starts empty never shows: whatever is
asked, refreshed and invalidated, however the clocks move and whichever calls of the store fail, every
timeline is the merge of one table of outcomes. The invariant is about everything the store can hold:
each value is the bytes of an entry with that timeline.
-/

namespace Casebook

open Cache (Store)
open Collection (Client)

namespace Service

/-- A service gives and keeps no other timeline than the one that another service would collect. -/
structure Faithful (start s : Service) : Prop where
  settings : s.settings = start.settings
  scripts : s.clients.map Client.script = start.clients.map Client.script
  kept : s.store.Shelves fun e => e.timeline = start.merged

theorem Faithful.merged {start s : Service} (h : Faithful start s) : s.merged = start.merged :=
  merged_congr h.settings h.scripts

theorem lasting_faithful (start : Service) :
    Lasting (fun x => ∀ place behaviour, x ≠ .script place behaviour)
      (fun _ s => Faithful start s) := by
  have split : (fun (_ : List Act) s => Faithful start s) = fun _ s =>
      (s.settings = start.settings ∧
        s.clients.map Client.script = start.clients.map Client.script) ∧
      s.store.Shelves fun e => e.timeline = start.merged := by
    funext past s
    exact propext ⟨fun h => ⟨⟨h.settings, h.scripts⟩, h.kept⟩, fun h => ⟨h.1.1, h.1.2, h.2⟩⟩
  rw [split]
  refine @lasting_shelves _ (fun settings scripts => settings = start.settings ∧
    scripts = start.clients.map Client.script) _ ?_ ?_
  · rintro s c ⟨settings, scripts⟩
    exact merged_congr settings scripts
  · rintro s x fixed ⟨settings, scripts⟩
    cases x with
    | script place behaviour => exact absurd rfl (fixed place behaviour)
    | _ => exact ⟨settings, scripts⟩

theorem faithful_after {start : Service} {xs : List Step} (empty : start.store.IsEmpty)
    (fixed : ∀ place behaviour, .change (.script place behaviour) ∉ xs) :
    Faithful start (start.after xs) := by
  have allowed : ∀ y, .change y ∈ xs → ∀ place behaviour, y ≠ .script place behaviour := by
    intro y hy place behaviour he
    exact fixed place behaviour (he ▸ hy)
  have init : Faithful start start := ⟨rfl, rfl, Store.shelves_of_isEmpty empty⟩
  exact @Lasting.run _ _ [] _ (lasting_faithful start) xs allowed init

/-- Every timeline of a run from an empty cache is the merge of the outcomes that the clients' scripts
have under the budget of the settings, and has the bytes of that timeline. -/
theorem answers_transparent {start : Service} {xs : List Step} (empty : start.store.IsEmpty)
    (fixed : ∀ place behaviour, .change (.script place behaviour) ∉ xs) {t : Timeline}
    (answered : .timeline t ∈ start.answers xs) :
    let outcomes := Client.outcomes
      (.of start.settings.perSourceTimeout start.settings.aggregationDeadline) start.clients
    t = Timeline.merge outcomes ∧
      Bytes.ofText t.toJson.text = Bytes.ofText (Timeline.merge outcomes).toJson.text := by
  have one : t = start.merged := by
    obtain ⟨ys, x, zs, rfl, ht⟩ := exists_of_mem_answers answered
    have fixedBefore : ∀ place behaviour, .change (.script place behaviour) ∉ ys :=
      fun place behaviour hy => fixed place behaviour (List.mem_append_left _ hy)
    have faithful := faithful_after empty fixedBefore
    rcases step_timeline _ ht with ⟨c, e, he, rfl⟩ | rfl
    · exact (Store.entry_of_load faithful.kept (look_of_served _ c he).1).1
    · exact faithful.merged
  rw [merged_eq] at one
  exact ⟨one, congrArg (fun t : Timeline => Bytes.ofText t.toJson.text) one⟩

/-- An order that is placed, and payments of which nothing is heard. -/
def halfHeard : Service :=
  .new .default [.new .order (.answers (.success [⟨.order, Samples.epoch, "order.placed", .empty⟩])),
    .new .payment .hangs] (.memory .empty) ⟨.zero, 0⟩ Samples.epoch

def placedOnly : Timeline := ⟨[⟨.order, Samples.epoch, "order.placed", .empty⟩], true, .ofList [.payment]⟩

/-- The second time the timeline is served from the cache. -/
theorem lookAct_halfHeard : (halfHeard.after [.get true someCase]).lookAct someCase =
    .served (.keep someCase placedOnly Samples.epoch (.ofSeconds 30)) := by
  have loaded : ((halfHeard.after [.get true someCase]).store.load
      (halfHeard.after [.get true someCase]).storeClock someCase).1 =
        .ok (some (.keep someCase placedOnly Samples.epoch (.ofSeconds 30))) := by decide +kernel
  rw [lookAct, loaded]
  exact if_pos (by decide +kernel)

theorem answers_transparent_halfHeard :
    let xs : List Step := [.get true someCase, .get false someCase]
    halfHeard.store.IsEmpty ∧ .timeline placedOnly ∈ halfHeard.answers xs ∧
      (halfHeard.after xs).clients.map (·.calls) = [1, 1] ∧
      placedOnly = Timeline.merge (Client.outcomes
        (.of halfHeard.settings.perSourceTimeout halfHeard.settings.aggregationDeadline)
        halfHeard.clients) := by
  intro xs
  have empty : halfHeard.store.IsEmpty := rfl
  have again : ((halfHeard.after [.get true someCase]).step (.get false someCase)).1 =
      .timeline placedOnly := by rw [step_of_served _ _ lookAct_halfHeard]; rfl
  have answered : .timeline placedOnly ∈ halfHeard.answers xs :=
    List.mem_cons_of_mem _ (List.mem_singleton.2 again.symm)
  have fixed : ∀ place behaviour, Step.change (.script place behaviour) ∉ xs := by
    intro place behaviour h
    simp [xs] at h
  exact ⟨empty, answered, by decide +kernel, (answers_transparent empty fixed answered).1⟩

end Service
end Casebook
