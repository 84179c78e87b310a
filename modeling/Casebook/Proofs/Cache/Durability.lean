import Casebook.Proofs.Cache.Steps

/-!
# Durability

What a call of a mapped store leaves is planned from what is committed, and only committing carries the
plan out; nothing can fail after that. So a call that fails leaves no trace, and one that is done is done
whole. What was committed outlives the process; only the counts start anew.
-/

namespace Casebook.Cache

/-! ### What is committed and what is counted -/

structure Committed where
  values : List (String × Bytes)
  file : Pages

namespace Mapped

def committed (m : Mapped) : Committed := ⟨m.values, m.file⟩

/-- The counts of hits and of misses. -/
def counts (m : Mapped) : Nat × Nat := (m.hits, m.misses)

def of (c : Committed) (n : Nat × Nat) : Mapped := ⟨c.values, n.1, n.2, c.file⟩

end Mapped

/-- The counts after a reply. -/
def Reply.counted : Reply → Nat × Nat → Nat × Nat
  | .found (some _), n => (n.1 + 1, n.2)
  | .found none, n => (n.1, n.2 + 1)
  | _, n => n

/-! ### Work that follows a plan -/

namespace Work

variable {α β : Type}

/-- Work that changes nothing, and does not depend on the counts. -/
def Consults (w : Work α) : Prop :=
  ∃ answer : Committed → Except CacheFault α, ∀ m, w.run m = (answer m.committed, m)

/-- Carries out a plan for a store and counts what it gives; the store stays if the plan is to stop. -/
def settle (count : α → Nat × Nat → Nat × Nat) (m : Mapped) :
    Except CacheFault (α × Committed) → Except CacheFault α × Mapped
  | .ok (a, c) => (.ok a, .of c (count a m.counts))
  | .error f => (.error f, m)

/-- Work with a plan that does not depend on the counts. -/
def Follows (count : α → Nat × Nat → Nat × Nat) (w : Work α) : Prop :=
  ∃ plan : Committed → Except CacheFault (α × Committed), ∀ m,
    w.run m = settle count m (plan m.committed)

abbrev uncounted : α → Nat × Nat → Nat × Nat := fun _ n => n

section
variable {w : Work α} {next : α → Work β} {count : β → Nat × Nat → Nat × Nat} {m m' : Mapped}

theorem consults_pure (a : α) : (pure a : Work α).Consults := ⟨fun _ => .ok a, fun _ => rfl⟩

theorem consults_fail (f : CacheFault) : (fail f : Work α).Consults :=
  ⟨fun _ => .error f, fun _ => rfl⟩

theorem consults_look (view : Committed → α) : (look fun m => view m.committed).Consults :=
  ⟨fun c => .ok (view c), fun _ => rfl⟩

theorem consults_orNoRoom (o : Option α) : (orNoRoom o).Consults := by
  cases o with
  | none => exact consults_fail _
  | some a => exact consults_pure a

theorem Consults.bind (h : w.Consults) (hn : ∀ a, (next a).Consults) : (w >>= next).Consults := by
  obtain ⟨answer, run⟩ := h
  choose later runs using hn
  refine ⟨fun c => answer c >>= fun a => later a c, fun m => ?_⟩
  rw [run_bind, run]
  show _ = (answer m.committed >>= fun a => later a m.committed, m)
  cases answer m.committed with
  | error f => rfl
  | ok a => exact runs a m

theorem Consults.bind_follows (h : w.Consults) (hn : ∀ a, (next a).Follows count) :
    (w >>= next).Follows count := by
  obtain ⟨answer, run⟩ := h
  choose plan runs using hn
  refine ⟨fun c => answer c >>= fun a => plan a c, fun m => ?_⟩
  rw [run_bind, run]
  show _ = settle count m (answer m.committed >>= fun a => plan a m.committed)
  cases answer m.committed with
  | error f => rfl
  | ok a => exact runs a m

theorem Consults.follows (h : w.Consults) : w.Follows uncounted := by
  obtain ⟨answer, run⟩ := h
  refine ⟨fun c => (answer c).map fun a => (a, c), fun m => ?_⟩
  rw [run]
  show _ = settle uncounted m ((answer m.committed).map fun a => (a, m.committed))
  cases answer m.committed with
  | error f => rfl
  | ok a => rfl

theorem Follows.map (h : w.Follows uncounted) (form : α → β) :
    (w >>= fun a => pure (form a)).Follows uncounted := by
  obtain ⟨plan, run⟩ := h
  refine ⟨fun c => (plan c).map fun x => (form x.1, x.2), fun m => ?_⟩
  rw [run_bind, run]
  show _ = settle uncounted m ((plan m.committed).map fun x => (form x.1, x.2))
  cases plan m.committed with
  | error f => rfl
  | ok x => rfl

theorem Consults.keeps (h : w.Consults) (m : Mapped) : (w.run m).2 = m := by
  obtain ⟨answer, run⟩ := h
  rw [run]

theorem Consults.exists_of_ok {b : β} (h : w.Consults) (done : ((w >>= next).run m).1 = .ok b) :
    ∃ a, (w.run m).1 = .ok a ∧ (w >>= next).run m = (next a).run m := by
  obtain ⟨answer, run⟩ := h
  rw [run_bind, run] at done ⊢
  cases given : answer m.committed with
  | error f =>
    rw [given] at done
    cases done
  | ok a => exact ⟨a, rfl, rfl⟩

end

section
variable {w : Work α} {count : α → Nat × Nat → Nat × Nat} {m m' : Mapped}

theorem Follows.of_error {f : CacheFault} (h : w.Follows count) (stopped : (w.run m).1 = .error f) :
    (w.run m).2 = m := by
  obtain ⟨plan, run⟩ := h
  rw [run] at stopped ⊢
  cases given : plan m.committed with
  | error f => rfl
  | ok x =>
    rw [given] at stopped
    cases stopped

theorem Follows.counts_of_ok {a : α} (h : w.Follows count) (done : (w.run m).1 = .ok a) :
    (w.run m).2.counts = count a m.counts := by
  obtain ⟨plan, run⟩ := h
  rw [run] at done ⊢
  cases given : plan m.committed with
  | error f =>
    rw [given] at done
    cases done
  | ok x =>
    rw [given] at done
    cases done
    rfl

theorem Follows.congr (h : w.Follows count) (same : m.committed = m'.committed) :
    (w.run m).2.committed = (w.run m').2.committed := by
  obtain ⟨plan, run⟩ := h
  rw [run, run, same]
  cases plan m'.committed with
  | error f => exact same
  | ok x => rfl

end
end Work

/-! ### Calls that follow a plan -/

open Work

theorem consults_pass (t : Troubles) (s : Stage) : (t.pass s).Consults := by
  unfold Troubles.pass
  split
  next f _ => exact consults_fail f
  next => exact consults_pure ()

namespace Draft

theorem consults_ofStore : (look ofStore).Consults :=
  consults_look fun c => (⟨c.values, c.file.start, false⟩ : Draft)

variable (t : Troubles) (key : String) (d : Draft)

theorem consults_put (stored : Bytes) : (d.put t key stored).Consults :=
  (consults_pass t _).bind fun _ => (consults_orNoRoom _).bind fun _ => consults_pure _

theorem consults_delete : (d.delete t key).Consults := by
  refine (consults_pass t _).bind fun _ => ?_
  split
  next => exact consults_pure _
  next => exact (consults_orNoRoom _).bind fun _ => consults_pure _

theorem follows_commit : (d.commit t).Follows uncounted := by
  refine (consults_pass t _).bind_follows fun _ => ?_
  split
  next =>
    refine (consults_orNoRoom _).bind_follows fun file => ?_
    exact ⟨fun _ => .ok ((), ⟨d.values, file⟩), fun _ => rfl⟩
  next => exact (consults_pure ()).follows

end Draft

section
variable (t : Troubles) (now : Clock) (key : String)

theorem follows_removing : (removing t key).Follows uncounted := by
  refine (consults_pass t _).bind_follows fun _ => Draft.consults_ofStore.bind_follows fun d => ?_
  refine (d.consults_delete t key).bind_follows fun written => ?_
  exact (written.2.follows_commit t).map fun _ => written.1

theorem follows_writing (stored : Bytes) : (writing t key stored).Follows uncounted := by
  refine (consults_pass t _).bind_follows fun _ => Draft.consults_ofStore.bind_follows fun d => ?_
  exact (d.consults_put t key stored).bind_follows fun d => d.follows_commit t

theorem follows_answering (stored : Option Bytes) :
    (answering t now key stored).Follows fun b => (Reply.found b).counted := by
  unfold answering
  split
  next => exact ⟨fun c => .ok (none, c), fun _ => rfl⟩
  next =>
    split
    next => exact ⟨fun _ => .error _, fun _ => rfl⟩
    next b _ =>
      split
      next =>
        -- That deleting fails is no fault of the answer: what is committed stays then.
        obtain ⟨plan, run⟩ := follows_removing t key
        refine ⟨fun c => .ok (none, ((plan c).toOption.map (·.2)).getD c), fun m => ?_⟩
        rw [run_of_ok rfl, run_of_ok rfl]
        show (_, ((removing t key).run m.countMiss).2) = (_, _)
        rw [run]
        show (_, (settle _ _ (plan m.committed)).2) =
          (_, Mapped.of (((plan m.committed).toOption.map (·.2)).getD m.committed) _)
        cases plan m.committed <;> rfl
      next => exact ⟨fun c => .ok (some b, c), fun _ => rfl⟩

theorem follows_reading : (reading t now key).Follows fun b => (Reply.found b).counted := by
  refine (consults_pass t _).bind_follows fun _ => (consults_pass t _).bind_follows fun _ => ?_
  exact (consults_look fun c => Keyed.find? key c.values).bind_follows fun stored =>
    follows_answering t now key stored

theorem run_summing (m : Mapped) : ((summing t).run m).2 = m := by
  unfold summing Troubles.pass
  cases t .openRead <;> cases t .read <;> rfl

end

section
variable {α : Type} {w : Work α} {count : α → Nat × Nat → Nat × Nat} {form : α → Reply} {m m' : Mapped}

theorem Reply.eq_error_of_failed {r : Except CacheFault α} {f : CacheFault}
    (formed : ∀ a, form a ≠ .failed f) (h : Reply.of form r = .failed f) : r = .error f := by
  cases r with
  | error g =>
    cases h
    rfl
  | ok a => exact absurd h (formed a)

theorem Work.Follows.of_failed (h : w.Follows count) {f : CacheFault} (formed : ∀ a, form a ≠ .failed f)
    (failed : (w.reply form m).1 = .failed f) : (w.reply form m).2 = m :=
  h.of_error (Reply.eq_error_of_failed formed failed)

theorem Work.Follows.counts_reply (h : w.Follows count)
    (counted : ∀ a n, count a n = (form a).counted n) (m : Mapped) :
    (w.reply form m).2.counts = (w.reply form m).1.counted m.counts := by
  show (w.run m).2.counts = (Reply.of form (w.run m).1).counted m.counts
  cases given : (w.run m).1 with
  | error f =>
    rw [h.of_error given]
    rfl
  | ok a => exact (h.counts_of_ok given).trans (counted a m.counts)

end

section
variable {t : Troubles} {now : Clock} {m m' : Mapped} {q : Request}

theorem attempt_of_failed {f : CacheFault} (failed : (m.attempt t now q).1 = .failed f) :
    (m.attempt t now q).2 = m := by
  cases q with
  | set c b ttl => exact (follows_writing t _ _).of_failed nofun failed
  | get c => exact (follows_reading t now _).of_failed nofun failed
  | delete c => exact (follows_removing t _).of_failed nofun failed
  | ping => exact (consults_pass t _).follows.of_failed nofun failed
  | stats => exact run_summing t m

example :
    let m : Mapped := ⟨[(keyOf Store.oneLetter, [0x61, 0x62, 0x63])], 4, 2, .empty 256⟩
    (m.attempt .none ⟨.zero, 0⟩ (.get Store.oneLetter)).1 =
      .failed (.corrupt (keyOf Store.oneLetter) .short) := by
  decide +kernel

theorem counts_attempt (t : Troubles) (now : Clock) (m : Mapped) (q : Request) :
    (m.attempt t now q).2.counts = (m.attempt t now q).1.counted m.counts := by
  cases q with
  | set c b ttl => exact (follows_writing t _ _).counts_reply (fun _ _ => rfl) m
  | get c => exact (follows_reading t now _).counts_reply (fun _ _ => rfl) m
  | delete c => exact (follows_removing t _).counts_reply (fun _ _ => rfl) m
  | ping => exact (consults_pass t _).follows.counts_reply (fun _ _ => rfl) m
  | stats =>
    show ((summing t).run m).2.counts = (Reply.of .counts ((summing t).run m).1).counted _
    rw [run_summing t m]
    cases ((summing t).run m).1 <;> rfl

theorem committed_attempt (same : m.committed = m'.committed) :
    (m.attempt t now q).2.committed = (m'.attempt t now q).2.committed := by
  cases q with
  | set c b ttl => exact (follows_writing t _ _).congr same
  | get c => exact (follows_reading t now _).congr same
  | delete c => exact (follows_removing t _).congr same
  | ping => exact (consults_pass t _).follows.congr same
  | stats =>
    show ((summing t).run m).2.committed = ((summing t).run m').2.committed
    rw [run_summing, run_summing, same]

end

/-! ### Calls that are done -/

namespace Draft

variable {t : Troubles} {key : String} {stored : Bytes} {d d' : Draft} {m : Mapped}

theorem eq_of_put (done : ((d.put t key stored).run m).1 = .ok d') :
    d'.changed = true ∧ d'.values = Keyed.insert key stored d.values := by
  obtain ⟨-, -, run⟩ := (consults_pass t _).exists_of_ok done
  rw [Draft.put, run] at done
  obtain ⟨file, -, run⟩ := (consults_orNoRoom _).exists_of_ok done
  rw [run] at done
  cases done
  exact ⟨rfl, rfl⟩

theorem eq_of_delete {existed : Bool} (done : ((d.delete t key).run m).1 = .ok (existed, d')) :
    (d'.changed = true ∨ d'.values = d.values) ∧ d'.values = Keyed.erase key d.values := by
  obtain ⟨-, -, run⟩ := (consults_pass t _).exists_of_ok done
  rw [Draft.delete, run] at done
  split at done
  next absent =>
    cases done
    exact ⟨.inr rfl, (Keyed.erase_of_find?_none absent).symm⟩
  next =>
    obtain ⟨file, -, run⟩ := (consults_orNoRoom _).exists_of_ok done
    rw [run] at done
    cases done
    exact ⟨.inl rfl, rfl⟩

theorem values_of_commit (done : ((d.commit t).run m).1 = .ok ())
    (same : d.changed = true ∨ d.values = m.values) :
    ((d.commit t).run m).2.values = d.values := by
  obtain ⟨-, -, run⟩ := (consults_pass t _).exists_of_ok done
  rw [Draft.commit, run] at done ⊢
  split at done
  next changed =>
    obtain ⟨file, -, run⟩ := (consults_orNoRoom _).exists_of_ok done
    rw [if_pos changed, run]
    rfl
  next unchanged =>
    rw [if_neg unchanged]
    exact (same.resolve_left unchanged).symm

end Draft

section
variable {t : Troubles} {now : Clock} {key : String} {m : Mapped}

theorem values_of_writing {stored : Bytes} (done : ((writing t key stored).run m).1 = .ok ()) :
    ((writing t key stored).run m).2.values = Keyed.insert key stored m.values := by
  obtain ⟨-, -, run⟩ := (consults_pass t _).exists_of_ok done
  rw [writing, run, run_of_ok rfl] at done ⊢
  obtain ⟨d, drafted, run⟩ := (Draft.consults_put t key _ stored).exists_of_ok done
  rw [run] at done ⊢
  obtain ⟨changed, values⟩ := Draft.eq_of_put drafted
  rw [Draft.values_of_commit done (.inl changed), values]
  rfl

theorem values_of_removing {existed : Bool} (done : ((removing t key).run m).1 = .ok existed) :
    ((removing t key).run m).2.values = Keyed.erase key m.values := by
  obtain ⟨-, -, run⟩ := (consults_pass t _).exists_of_ok done
  rw [removing, run, run_of_ok rfl] at done ⊢
  obtain ⟨⟨was, d⟩, drafted, run⟩ := (Draft.consults_delete t key _).exists_of_ok done
  rw [run] at done ⊢
  obtain ⟨changed, values⟩ := Draft.eq_of_delete drafted
  change (((d.commit t) >>= fun _ => pure was).run m).1 = _ at done
  show (((d.commit t) >>= fun _ => pure was).run m).2.values = _
  rcases committed : (d.commit t).run m with ⟨f | ⟨⟩, m'⟩
  · rw [run_of_error committed] at done
    cases done
  · have left := Draft.values_of_commit (congrArg Prod.fst committed) changed
    rw [committed] at left
    rw [run_of_ok committed]
    exact left.trans values

/-- The time of the value under a key has passed. -/
def HasExpired (now : Clock) (values : List (String × Bytes)) (key : String) : Prop :=
  ∃ stored deadline b, Keyed.find? key values = some stored ∧
    splitDeadline? stored = some (deadline, b) ∧ deadline ≤ now.wallMillis

theorem values_tolerated_removing (m : Mapped) :
    ((removing t key).tolerated.run m).2.values = m.values ∨
      ((removing t key).tolerated.run m).2.values = Keyed.erase key m.values := by
  show ((removing t key).run m).2.values = _ ∨ ((removing t key).run m).2.values = _
  cases done : ((removing t key).run m).1 with
  | error f => exact .inl (congrArg Mapped.values ((follows_removing t key).of_error done))
  | ok existed => exact .inr (values_of_removing done)

theorem values_of_answering :
    ((answering t now key (Keyed.find? key m.values)).run m).2.values = m.values ∨
      HasExpired now m.values key ∧
        ((answering t now key (Keyed.find? key m.values)).run m).2.values =
          Keyed.erase key m.values := by
  cases found : Keyed.find? key m.values with
  | none => exact .inl rfl
  | some stored =>
    unfold answering
    dsimp only
    split
    next => exact .inl rfl
    next deadline b parts =>
      split
      next late =>
        exact (values_tolerated_removing m.countMiss).imp_right
          fun erased => ⟨⟨stored, deadline, b, found, parts, late⟩, erased⟩
      next => exact .inl rfl

theorem values_of_reading {b : Option Bytes} (done : ((reading t now key).run m).1 = .ok b) :
    ((reading t now key).run m).2.values = m.values ∨ HasExpired now m.values key ∧
      ((reading t now key).run m).2.values = Keyed.erase key m.values := by
  obtain ⟨-, -, run⟩ := (consults_pass t _).exists_of_ok done
  rw [reading, run] at done ⊢
  obtain ⟨-, -, run⟩ := (consults_pass t _).exists_of_ok done
  rw [run, run_of_ok rfl]
  exact values_of_answering

end

/-- What a call does to the values if it is done. What has expired may be deleted by asking for it. -/
def Request.Effect (now : Clock) (before after : List (String × Bytes)) : Request → Prop
  | .set c b ttl =>
    after = Keyed.insert (keyOf c) (withDeadline (deadlineAfter now ttl) b) before
  | .get c => after = before ∨
    HasExpired now before (keyOf c) ∧ after = Keyed.erase (keyOf c) before
  | .delete c => after = Keyed.erase (keyOf c) before
  | .ping => after = before
  | .stats => after = before

theorem Work.exists_of_done {α : Type} {w : Work α} {form : α → Reply} {m : Mapped}
    (done : ∀ f, (w.reply form m).1 ≠ .failed f) : ∃ a, (w.run m).1 = .ok a := by
  cases given : (w.run m).1 with
  | ok a => exact ⟨a, rfl⟩
  | error f => exact absurd (congrArg (Reply.of form) given) (done f)

theorem effect_of_done {t : Troubles} {now : Clock} {m : Mapped} {q : Request}
    (done : ∀ f, (m.attempt t now q).1 ≠ .failed f) :
    q.Effect now m.values (m.attempt t now q).2.values := by
  cases q with
  | set c b ttl =>
    obtain ⟨⟨⟩, given⟩ := exists_of_done done
    exact values_of_writing given
  | get c =>
    obtain ⟨b, given⟩ := exists_of_done done
    exact values_of_reading given
  | delete c =>
    obtain ⟨existed, given⟩ := exists_of_done done
    exact values_of_removing given
  | ping => exact congrArg Mapped.values ((consults_pass t _).keeps m)
  | stats => exact congrArg Mapped.values (run_summing t m)

/-! ### Runs -/

/-- What happens to a mapped store: calls, and that it is closed and opened again. -/
inductive Act where
  | call (t : Troubles) (now : Clock) (q : Request)
  | reopen

namespace Mapped

def act (m : Mapped) : Act → Option Reply × Mapped
  | .call t now q => (some (m.attempt t now q).1, (m.attempt t now q).2)
  | .reopen => (none, m.reopen)

def after (m : Mapped) : List Act → Mapped
  | [] => m
  | a :: acts => (m.act a).2.after acts

/-- The replies, none where the store is opened again. -/
def seen (m : Mapped) : List Act → List (Option Reply)
  | [] => []
  | a :: acts => (m.act a).1 :: (m.act a).2.seen acts

/-- The counts after what was seen: those since the store was opened. -/
def recounted (n : Nat × Nat) : Option Reply → Nat × Nat
  | some r => r.counted n
  | none => (0, 0)

def lasts : Option Reply → Bool
  | none => false
  | some (.failed _) => false
  | some _ => true

/-- The calls that are done. -/
def lasting (m : Mapped) : List Act → List Act
  | [] => []
  | a :: acts =>
    let rest := (m.act a).2.lasting acts
    if lasts (m.act a).1 then a :: rest else rest

theorem counts_act (m : Mapped) (a : Act) : (m.act a).2.counts = recounted m.counts (m.act a).1 := by
  cases a with
  | call t now q => exact counts_attempt t now m q
  | reopen => rfl

theorem counts_after (m : Mapped) (acts : List Act) :
    (m.after acts).counts = (m.seen acts).foldl recounted m.counts := by
  induction acts generalizing m with
  | nil => rfl
  | cons a acts ih => rw [after, seen, List.foldl_cons, ih, counts_act]

theorem committed_act_of_not_lasts {m : Mapped} {a : Act} (h : ¬lasts (m.act a).1 = true) :
    (m.act a).2.committed = m.committed := by
  cases a with
  | reopen => rfl
  | call t now q =>
    have failed : ∃ f, (m.attempt t now q).1 = .failed f := by
      change ¬lasts (some (m.attempt t now q).1) = true at h
      cases given : (m.attempt t now q).1 with
      | failed f => exact ⟨f, rfl⟩
      | _ =>
        rw [given] at h
        exact absurd rfl h
    obtain ⟨f, failed⟩ := failed
    exact congrArg committed (attempt_of_failed failed)

theorem opening_none (m : Mapped) : (opening .none).run m = (.ok (), m.reopen) := rfl

theorem committed_opening (t : Troubles) (m : Mapped) :
    ((opening t).run m).2.committed = m.committed := by
  unfold opening Draft.commit Troubles.pass
  cases t .openWrite <;> cases t .commit <;> rfl

theorem committed_act {m m' : Mapped} (same : m.committed = m'.committed) (a : Act) :
    (m.act a).2.committed = (m'.act a).2.committed := by
  cases a with
  | call t now q => exact committed_attempt same
  | reopen => exact same

theorem committed_after {m m' : Mapped} (same : m.committed = m'.committed) (acts : List Act) :
    (m.after acts).committed = (m'.after (m.lasting acts)).committed := by
  -- On the acts: the two stores differ in their counts only.
  induction acts generalizing m m' with
  | nil => exact same
  | cons a acts ih =>
    rw [after, lasting]
    split
    next done => exact ih (committed_act same a)
    next undone => exact ih ((committed_act_of_not_lasts undone).trans same)

/-- All that calls and reopening do to a store: what they leave depends only on the calls that were
done, and each of these is done whole. -/
structure IsDurable (m : Mapped) : Prop where
  refused : ∀ now q f, ((Store.mapped m).handle now q).1 = .failed f →
    ((Store.mapped m).handle now q).2 = .mapped m
  plain : ∀ now q, (Store.mapped m).handle now q =
    ((m.attempt .none now q).1, .mapped (m.attempt .none now q).2)
  failed : ∀ t now q f, (m.attempt t now q).1 = .failed f → (m.attempt t now q).2 = m
  done : ∀ t now q, (∀ f, (m.attempt t now q).1 ≠ .failed f) →
    q.Effect now m.values (m.attempt t now q).2.values
  reopened : (opening .none).run m = (.ok (), m.reopen) ∧ m.reopen.committed = m.committed ∧
    m.reopen.counts = (0, 0)
  unopened : ∀ t, ((opening t).run m).2.committed = m.committed
  kept : ∀ acts, (m.after acts).committed = (m.after (m.lasting acts)).committed
  counted : ∀ acts, (m.after acts).counts = (m.seen acts).foldl recounted m.counts

theorem isDurable (m : Mapped) : m.IsDurable where
  refused := by
    intro now q f failed
    rw [handle_mapped] at failed ⊢
    exact congrArg Store.mapped (attempt_of_failed failed)
  plain := fun now q => handle_mapped now m q
  failed := fun _ _ _ _ => attempt_of_failed
  done := fun _ _ _ => effect_of_done
  reopened := ⟨opening_none m, rfl, rfl⟩
  unopened := fun t => committed_opening t m
  kept := committed_after rfl
  counted := m.counts_after

end Mapped
end Casebook.Cache
