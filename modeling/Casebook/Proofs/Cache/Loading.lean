import Casebook.Proofs.Cache.Shelf
import Casebook.Proofs.Cache.Slots

/-!
# Loading entries

What loading a case comes to, by what the store gives out for it. An entry that was accepted is loaded
again as it was, whatever stood in its place. Damage is thrown away, so that nothing is left to load and
every other slot is as before; only a value that is too short to hold a deadline stays where it is, since
the store reports it before it is read.
-/

namespace Casebook.Cache

theorem Entry.millis_ttl_pos {e : Entry} (h : 0 < e.ttlSeconds) : 0 < e.ttl.millis := by
  show 0 < (e.ttlSeconds * 1000000000 + 0) / 1000000
  omega

/-- Reading bytes for a case finds no damage that a store itself could find. -/
theorem readEntry_ne_short {c : CaseId} {b : Bytes} {d : Damage} (h : readEntry c b = .error d) :
    d ≠ .short := by
  rintro rfl
  rw [readEntry] at h
  split at h
  next => cases h
  next => split at h <;> cases h

theorem readEntry_eq_ok_iff {c : CaseId} {b : Bytes} {e : Entry} :
    readEntry c b = .ok e ↔ Entry.ofBytes? b = some e ∧ e.caseId = c := by
  rw [readEntry]
  cases Entry.ofBytes? b with
  | none =>
    constructor
    · intro h
      cases h
    · rintro ⟨h, -⟩
      cases h
  | some e' =>
    constructor
    · intro h
      simp only at h
      split at h
      next same =>
        cases h
        exact ⟨rfl, same⟩
      next => cases h
    · rintro ⟨he, hc⟩
      cases he
      exact if_pos hc

namespace Store

variable {s : Store} {now : Clock} {c : CaseId}

/-! ### Loading by what is given out -/

theorem load_of_error {f : CacheFault} (h : (s.get now (keyOf c)).1 = .error f) :
    s.load now c = (.error f, (s.get now (keyOf c)).2) := by
  rw [load]
  rcases hg : s.get now (keyOf c) with ⟨found, t⟩
  rw [hg] at h
  cases h
  rfl

theorem load_of_none (h : (s.get now (keyOf c)).1 = .ok none) :
    s.load now c = (.ok none, (s.get now (keyOf c)).2) := by
  rw [load]
  rcases hg : s.get now (keyOf c) with ⟨found, t⟩
  rw [hg] at h
  cases h
  rfl

theorem load_of_some {b : Bytes} (h : (s.get now (keyOf c)).1 = .ok (some b)) :
    s.load now c = match readEntry c b with
      | .ok e => (.ok (some e), s.hit)
      | .error damage => (.error (.corrupt (keyOf c) damage), (s.hit.delete (keyOf c)).2) := by
  have left := get_of_some h
  rw [load]
  rcases hg : s.get now (keyOf c) with ⟨found, t⟩
  rw [hg] at h left
  cases h
  cases left
  rfl

@[simp] theorem allows_load (s : Store) (now : Clock) (c : CaseId) (call : Call) :
    (s.load now c).2.allows call = s.allows call := by
  rcases hg : (s.get now (keyOf c)).1 with f | _ | b
  · rw [load_of_error hg, allows_get]
  · rw [load_of_none hg, allows_get]
  · rw [load_of_some hg]
    split
    next => exact allows_hit s call
    next => rw [allows_delete, allows_hit]

theorem load_eq_entry_iff {e : Entry} : (s.load now c).1 = .ok (some e) ↔
    ∃ b, (s.get now (keyOf c)).1 = .ok (some b) ∧ Entry.ofBytes? b = some e ∧ e.caseId = c := by
  constructor
  · intro h
    rcases hg : (s.get now (keyOf c)).1 with f | _ | b
    · rw [load_of_error hg] at h
      cases h
    · rw [load_of_none hg] at h
      cases h
    · rw [load_of_some hg] at h
      split at h
      next e' he =>
        cases h
        exact ⟨b, rfl, readEntry_eq_ok_iff.1 he⟩
      next => cases h
  · rintro ⟨b, hg, he⟩
    rw [load_of_some hg, readEntry_eq_ok_iff.2 he]

theorem load_of_entry {e : Entry} (h : (s.load now c).1 = .ok (some e)) :
    (s.load now c).2 = s.hit := by
  obtain ⟨b, hg, he⟩ := load_eq_entry_iff.1 h
  rw [load_of_some hg, readEntry_eq_ok_iff.2 he]

/-- What was loaded once is loaded again. -/
theorem load_again {e : Entry} (h : (s.load now c).1 = .ok (some e)) :
    ((s.load now c).2.load now c).1 = .ok (some e) := by
  obtain ⟨b, hg, he⟩ := load_eq_entry_iff.1 h
  rw [load_of_entry h]
  exact load_eq_entry_iff.2 ⟨b, get_hit hg, he⟩

/-! ### Kept entries -/

/-- A store takes an entry, and can be asked for it. -/
structure Accepts (s : Store) (now : Clock) (e : Entry) : Prop where
  asked : s.allows .get = true
  kept : (s.keep now e).1 = .ok ()

theorem load_keep {e : Entry} (accepts : s.Accepts now e) (counted : now.IsCounted)
    (lasting : 0 < e.ttlSeconds) : ((s.keep now e).2.load now e.caseId).1 = .ok (some e) := by
  have given := get_set accepts.asked counted (Entry.millis_ttl_pos lasting) accepts.kept
  exact load_eq_entry_iff.2 ⟨e.toBytes, given, Entry.ofBytes?_toBytes e, rfl⟩

/-- Every record is read back from its written form, so an accepted entry is loaded as it was. -/
theorem records_lossless :
    (∀ e : Entry, Entry.ofBytes? e.toBytes = some e) ∧
      (∀ v : CaseView,
        (Json.outline? (Bytes.ofText v.toJson.text)).bind CaseView.ofJson? = some v) ∧
      ∀ (s : Store) (now : Clock) (e : Entry), s.Accepts now e → now.IsCounted →
        0 < e.ttlSeconds → ((s.keep now e).2.load now e.caseId).1 = .ok (some e) :=
  ⟨Entry.ofBytes?_toBytes, CaseView.outline?_text,
    fun _ _ _ accepts counted lasting => load_keep accepts counted lasting⟩

def oneLetter : CaseId :=
  ⟨"a", by decide, by decide,
    List.all_eq_true.1 (by decide : "a".toList.all CaseId.isLegalChar = true)⟩

/-- An entry of the last leap second before the year 0 that is kept for as long as can be written. -/
def leapEntry : Entry :=
  ⟨oneLetter,
    ⟨[⟨.payment, ⟨-62167219201, 1999999999, by decide⟩, "a\"b\\c\n",
        .ofList [("", "\x00"), ("é", "😀")]⟩], true, .ofList [.order]⟩,
    ⟨-62167219201, 1999999999, by decide⟩, Decimal.max64, Nat.le_refl _⟩

def littered : Store :=
  .refusing [.delete] (Memory.empty.set ⟨.zero, 0⟩ (keyOf oneLetter) [0x78] (.ofSeconds 1))

theorem records_lossless_leapEntry :
    littered.Accepts ⟨.zero, 0⟩ leapEntry ∧
      ((littered.keep ⟨.zero, 0⟩ leapEntry).2.load ⟨.zero, 0⟩ oneLetter).1 = .ok (some leapEntry) := by
  have accepts : littered.Accepts ⟨.zero, 0⟩ leapEntry := ⟨by decide, rfl⟩
  exact ⟨accepts, records_lossless.2.2 littered ⟨.zero, 0⟩ leapEntry accepts (by decide) (by decide)⟩

/-! ### Damage -/

/-- Loading leaves nothing for a case and everything else as it was. -/
structure Discards (s : Store) (now : Clock) (c : CaseId) : Prop where
  gone : (s.load now c).2.slot? (keyOf c) = none
  next : ∀ later, ((s.load now c).2.load later c).1 = .ok none
  others : ∀ key, key ≠ keyOf c → (s.load now c).2.slot? key = s.slot? key

theorem load_of_slot_none (reached : s.allows .get = true) (h : s.slot? (keyOf c) = none)
    (now : Clock) : (s.load now c).1 = .ok none := by
  have nothing : (s.get now (keyOf c)).1 = .ok none := by
    rw [get_eq_answer reached, h]
    rfl
  rw [load_of_none nothing]

theorem discards_of_damage {b : Bytes} {d : Damage} {existed : Bool}
    (h : (s.get now (keyOf c)).1 = .ok (some b)) (damage : readEntry c b = .error d)
    (deletes : (s.drop c).1 = .ok existed) : s.Discards now c := by
  have left : (s.load now c).2 = (s.hit.delete (keyOf c)).2 := by
    rw [load_of_some h, damage]
  have deleted : (s.hit.delete (keyOf c)).1 = .ok existed := (delete_hit s (keyOf c)).trans deletes
  have gone : (s.load now c).2.slot? (keyOf c) = none := by
    rw [left, slot?_delete deleted, if_pos rfl]
  have reached : (s.load now c).2.allows .get = true := by
    rw [allows_load]
    exact allows_of_get_ok h
  exact {
    gone := gone
    next := load_of_slot_none reached gone
    others := by
      intro key other
      rw [left, slot?_delete deleted, if_neg other, slot?_hit] }

/-- A damaged value is thrown away, unless it is too short to hold a deadline. -/
theorem damaged_load {k : String} {d : Damage} (damaged : (s.load now c).1 = .error (.corrupt k d))
    {existed : Bool} (deletes : (s.drop c).1 = .ok existed) :
    k = keyOf c ∧
      (d = .short ↔ ∃ x, s.slot? (keyOf c) = some x ∧ x.isShort = true) ∧
      (d = .short → (s.load now c).2 = s) ∧
      (d ≠ .short → s.Discards now c) := by
  rcases hg : (s.get now (keyOf c)).1 with f | _ | b
  · rw [load_of_error hg] at damaged
    cases damaged
    obtain ⟨rfl, rfl, short, same⟩ := short_of_get_corrupt hg
    refine ⟨rfl, ⟨fun _ => short, fun _ => rfl⟩, ?_, fun long => absurd rfl long⟩
    intro _
    rw [load_of_error hg]
    exact same
  · rw [load_of_none hg] at damaged
    cases damaged
  · rw [load_of_some hg] at damaged
    split at damaged
    next => cases damaged
    next damage hd =>
      cases damaged
      have long : d ≠ .short := readEntry_ne_short hd
      obtain ⟨-, live⟩ := get_eq_ok_some_iff.1 hg
      obtain ⟨x, hx, hb⟩ := Option.bind_eq_some_iff.1 live
      refine ⟨rfl, ⟨fun short => absurd short long, ?_⟩, fun short => absurd short long,
        fun _ => discards_of_damage hg hd deletes⟩
      rintro ⟨y, hy, short⟩
      rw [hx] at hy
      cases hy
      rw [Slot.isShort_of_live? hb] at short
      cases short

def mappedWith (stored : Bytes) : Store :=
  .mapped (.ofValues [(keyOf oneLetter, stored)] (Pages.countOf 1))

theorem damaged_load_unreadable :
    let s := mappedWith (withDeadline latestDeadline [0x78])
    (s.load ⟨.zero, 0⟩ oneLetter).1 = .error (.corrupt (keyOf oneLetter) .unreadable) ∧
      s.Discards ⟨.zero, 0⟩ oneLetter := by
  intro s
  have damaged : (s.load ⟨.zero, 0⟩ oneLetter).1 =
      .error (.corrupt (keyOf oneLetter) .unreadable) := rfl
  have deletes : (s.drop oneLetter).1 = .ok true := rfl
  obtain ⟨-, -, -, discards⟩ := damaged_load damaged deletes
  exact ⟨damaged, discards (by decide)⟩

/-- Not all damage is thrown away: bytes that hold no deadline are found again. -/
theorem short_value_stays :
    ¬∀ (s : Store) (now : Clock) (c : CaseId) (k : String) (d : Damage) (existed : Bool),
      (s.load now c).1 = .error (.corrupt k d) → (s.drop c).1 = .ok existed →
        ((s.load now c).2.load now c).1 = .ok none := by
  intro all
  have damaged : ((mappedWith [0x61, 0x62, 0x63]).load ⟨.zero, 0⟩ oneLetter).1 =
      .error (.corrupt (keyOf oneLetter) .short) := rfl
  have deletes : ((mappedWith [0x61, 0x62, 0x63]).drop oneLetter).1 = .ok true := rfl
  have healed := all _ _ _ _ _ _ damaged deletes
  cases healed

end Store
end Casebook.Cache
