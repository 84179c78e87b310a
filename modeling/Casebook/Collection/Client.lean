import Casebook.Outcome
import Casebook.Time.Span

/-!
# Clients

Those that ask a source for its events: how one behaves, how often it was asked and until when it was
given time. Clients are enlisted one by one, and of several clients of one source only the first is ever
asked.
-/

namespace Casebook.Collection

inductive Behaviour where
  | answers (o : Outcome)
  | answersAfter (wait : Span) (o : Outcome)
  | hangs
  /-- Breaks down while it works. -/
  | breaks
  /-- Breaks down before it starts to work, so that all trace of it is lost. -/
  | vanishes
  deriving DecidableEq

structure Client where
  source : Source
  behaviour : Behaviour
  /-- How often it was asked. -/
  calls : Nat
  /-- When it was last asked to be done, on the clock of the service. -/
  deadline : Option Span
  deriving DecidableEq

namespace Client

def new (source : Source) (behaviour : Behaviour) : Client := ⟨source, behaviour, 0, none⟩

def ask (deadline : Span) (c : Client) : Client :=
  { c with calls := c.calls + 1, deadline := some deadline }

/-- Asks the first client of each source that is not among the given ones. -/
def askFirst (deadline : Span) : List Source → List Client → List Client
  | _, [] => []
  | done, c :: r =>
    if c.source ∈ done then c :: askFirst deadline done r
    else c.ask deadline :: askFirst deadline (c.source :: done) r

def askAll (deadline : Span) (cs : List Client) : List Client := askFirst deadline [] cs

/-- The first client of each source, in the order of precedence of their sources. -/
def registered (cs : List Client) : List Client :=
  Source.all.filterMap fun s => cs.find? fun c => c.source = s

/-- Puts a client where its source belongs in the order of precedence; one of this source gives way. -/
def insert (c : Client) : List Client → List Client
  | [] => [c]
  | d :: r =>
    if c.source.rank < d.source.rank then c :: d :: r
    else if c.source = d.source then c :: r
    else d :: insert c r

/-- Enlists a client unless its source has one. -/
def enlist (roster : List Client) (c : Client) : List Client :=
  if roster.any fun d => d.source = c.source then roster else insert c roster

def sources (cs : List Client) : List Source :=
  (registered cs).map (·.source)

theorem source_of_mem_registered {cs : List Client} {c : Client} (h : c ∈ registered cs) :
    cs.find? (fun d => d.source = c.source) = some c := by
  obtain ⟨s, _, hs⟩ := List.mem_filterMap.1 h
  have : c.source = s := by simpa using List.find?_some hs
  rw [this, hs]

theorem mem_sources {cs : List Client} {s : Source} : s ∈ sources cs ↔ ∃ c ∈ cs, c.source = s := by
  simp only [sources, registered, List.mem_map, List.mem_filterMap]
  constructor
  · rintro ⟨c, ⟨t, _, ht⟩, rfl⟩
    exact ⟨c, List.mem_of_find?_eq_some ht, rfl⟩
  · rintro ⟨c, hc, rfl⟩
    have hex : (cs.find? fun d => d.source = c.source).isSome := by
      rw [List.find?_isSome]
      exact ⟨c, hc, by simp⟩
    obtain ⟨d, hd⟩ := Option.isSome_iff_exists.1 hex
    exact ⟨d, ⟨c.source, Source.mem_all _, hd⟩, by simpa using List.find?_some hd⟩

end Client
end Casebook.Collection
