import Casebook.Feed.Timing
import Casebook.Proofs.Feed.Splicing

/-!
# Asking once

What a source is asked, and what its answer counts as. A response that is no redirect is told by its
status and its body, once all of it has come in time, and only one request is sent for it. None is sent
where no connection stands in time, or none that is secured for an address that asks for it. A redirect
that refers to some place is not told by its status: its place is asked in turn, so that more than one
request is sent, or asking fails without a status.
-/

namespace Casebook.Feed

open Http (isHeaderValue)
open Net (Uri)

/-! ### One exchange -/

/-- A connection for a target stands in time, and it is secured if the target asks for that. -/
structure Connects (cap left : Nat) (u : Uri) (x : Exchange) : Prop where
  known : isBefore left (x.connectAt cap) = true
  link : x.link ≠ .refused
  secured : mustBeSecured u = true → x.link = .secured

/-- A head came in time, and it is one of a response. -/
structure IsHeaded (cap left : Nat) (x : Exchange) (p : Response) : Prop where
  head : isBefore left (x.headAt cap) = true
  response : x.response = some p
  status : isStatus p.status = true
  location : p.location.all isHeaderValue = true

/-- A response came in time, as far as its head. What only announces one is none. -/
structure Responds (cap left : Nat) (x : Exchange) (p : Response) : Prop extends
    IsHeaded cap left x p where
  final : isInterim p.status = false

/-- The content of a response of which all came in time. -/
inductive Delivers (cap left : Nat) (x : Exchange) (p : Response) : Bytes → Prop where
  | nothing (bodiless : isBodiless p.status = true) : Delivers cap left x p []
  | whole (bodied : isBodiless p.status = false) (ends : isBefore left (x.endAt cap) = true)
      (uncut : p.isCut = false) : Delivers cap left x p p.body

/-- What a client makes of one exchange. -/
inductive Tells (source : Source) (cap left : Nat) (x : Exchange) : Outcome → Prop where
  | headLate (late : isBefore left (x.headAt cap) = false) : Tells source cap left x .timeout
  | nothing (head : isBefore left (x.headAt cap) = true) (nothing : x.response = none) :
      Tells source cap left x (.failed none)
  | illegal {p : Response} (head : isBefore left (x.headAt cap) = true) (response : x.response = some p)
      (illegal : (isStatus p.status && p.location.all isHeaderValue) = false) :
      Tells source cap left x (.failed none)
  | announced {p : Response} (headed : IsHeaded cap left x p) (interim : isInterim p.status = true)
      (ends : isBefore left (x.endAt cap) = true) : Tells source cap left x (.failed none)
  | announcedLate {p : Response} (headed : IsHeaded cap left x p) (interim : isInterim p.status = true)
      (late : isBefore left (x.endAt cap) = false) : Tells source cap left x .timeout
  | declined {p : Response} (responds : Responds cap left x p) (bad : isGood p.status = false) :
      Tells source cap left x (.failed (some p.status))
  | cut {p : Response} (responds : Responds cap left x p) (good : isGood p.status = true)
      (bodied : isBodiless p.status = false) (ends : isBefore left (x.endAt cap) = true)
      (cut : p.isCut = true) : Tells source cap left x (.failed (some p.status))
  | bodyLate {p : Response} (responds : Responds cap left x p) (good : isGood p.status = true)
      (bodied : isBodiless p.status = false) (late : isBefore left (x.endAt cap) = false) :
      Tells source cap left x .timeout
  | success {p : Response} {content : Bytes} {es : List Event} (responds : Responds cap left x p)
      (good : isGood p.status = true) (delivers : Delivers cap left x p content)
      (decodes : decode source content = .ok es) : Tells source cap left x (.success es)
  | undecodable {p : Response} {content : Bytes} {fault : Fault} (responds : Responds cap left x p)
      (good : isGood p.status = true) (delivers : Delivers cap left x p content)
      (faulty : decode source content = .error fault) : Tells source cap left x .undecodable

/-- A response refers its client to another place. -/
inductive Redirects (cap left : Nat) (u : Uri) (x : Exchange) (next : Uri) : Prop where
  | to {p : Response} {location : String} (connects : Connects cap left u x)
      (responds : Responds cap left x p) (status : isRedirect p.status = true)
      (given : p.location = some location)
      (refers : u.refer? (headerValue location) = some next) : Redirects cap left u x next

section
variable {source : Source} {cap left hops : Nat} {u next : Uri} {x : Exchange} {p : Response}
  {replies : Replies} {o : Outcome}

theorem first_of_late (late : isBefore left (x.connectAt cap) = false) :
    Replies.first u (x.seen cap left :: replies) = .pending := by
  have pending : x.reply cap left = .pending := by
    rw [Exchange.reply, late]
    rfl
  show Contact.replyFor u (x.seen cap left) = .pending
  rw [Contact.replyFor, Exchange.seen, pending]

theorem reply_of_known (known : isBefore left (x.connectAt cap) = true) (link : x.link ≠ .refused) :
    x.reply cap left = if isBefore left (x.headAt cap) then
      match x.response with
      | none => .nonsense
      | some p => .response p.status p.location (x.arrival cap left p) p.body
    else .silence := by
  rw [Exchange.reply, known, if_neg link]
  rfl

/-- There is no connection, or none that the target could do with. -/
theorem first_of_barred (known : isBefore left (x.connectAt cap) = true)
    (barred : x.link = .refused ∨ mustBeSecured u = true ∧ x.link = .plain) :
    Replies.first u (x.seen cap left :: replies) = .refused := by
  show Contact.replyFor u (x.seen cap left) = .refused
  rcases barred with refused | ⟨secured, plain⟩
  · have reply : x.reply cap left = .refused := by
      rw [Exchange.reply, known, if_pos refused]
      rfl
    simp only [Contact.replyFor, Exchange.seen, reply, ite_self]
  · have link : x.link ≠ .refused := fun h => nomatch plain.symm.trans h
    have notPending : x.reply cap left ≠ .pending := by
      rw [reply_of_known known link]
      repeat' split
      all_goals exact nofun
    have unsecured : (x.seen cap left).isSecured = false := by
      rw [Exchange.seen, plain]
      rfl
    rw [Contact.replyFor, unsecured, secured]
    split
    next pending => exact absurd pending notPending
    next => rfl

theorem first_of_connects (connects : Connects cap left u x) :
    Replies.first u (x.seen cap left :: replies) = if isBefore left (x.headAt cap) then
      match x.response with
      | none => .nonsense
      | some p => .response p.status p.location (x.arrival cap left p) p.body
    else .silence := by
  have usable : (mustBeSecured u && !(x.seen cap left).isSecured) = false := by
    cases secured : mustBeSecured u with
    | false => rfl
    | true => rw [Exchange.seen, decide_eq_true (connects.secured secured)]; rfl
  rw [← reply_of_known connects.known connects.link]
  show Contact.replyFor u (x.seen cap left) = x.reply cap left
  rw [Contact.replyFor, usable]
  split
  next pending => exact pending.symm
  next => rfl

theorem first_of_response (connects : Connects cap left u x)
    (head : isBefore left (x.headAt cap) = true) (response : x.response = some p) :
    Replies.first u (x.seen cap left :: replies) =
      .response p.status p.location (x.arrival cap left p) p.body := by
  rw [first_of_connects connects, if_pos head, response]

theorem visit_of_response (connects : Connects cap left u x)
    (head : isBefore left (x.headAt cap) = true) (response : x.response = some p) :
    visit source hops u (x.seen cap left :: replies) =
      if !isStatus p.status || !p.location.all isHeaderValue then ⟨.failed none, [u.target]⟩
      else if isInterim p.status then
        ⟨if x.arrival cap left p = .stalled then .timeout else .failed none, [u.target]⟩
      else
        match redirect? u p.status p.location, hops with
        | none, _ => ⟨ofResponse source p.status (x.arrival cap left p) p.body, [u.target]⟩
        | some _, 0 => ⟨.failed none, [u.target]⟩
        | some next, hops + 1 =>
          if isOnWeb next then
            (visit source hops next (Replies.next (x.seen cap left :: replies))).after u.target
          else ⟨.failed none, [u.target]⟩ := by
  have unfolded := visit.eq_def source hops u (x.seen cap left :: replies)
  rw [first_of_response connects head response] at unfolded
  exact unfolded

theorem arrival_late (late : isBefore left (x.endAt cap) = false) :
    x.arrival cap left p = .stalled := by
  rw [Exchange.arrival, late]
  rfl

theorem arrival_ends (ends : isBefore left (x.endAt cap) = true) :
    x.arrival cap left p = if p.isCut then .broken else .whole := by
  rw [Exchange.arrival, ends]
  rfl

theorem redirect?_eq_some_iff {status : Nat} {location : Option String} :
    redirect? u status location = some next ↔
      isRedirect status = true ∧ ∃ l, location = some l ∧ u.refer? (headerValue l) = some next := by
  rw [redirect?]
  split
  next redirect => simp only [redirect, true_and, Option.bind_eq_some_iff]
  next other => exact ⟨fun h => (nomatch h), fun h => absurd h.1 other⟩

theorem redirects_iff (connects : Connects cap left u x) (responds : Responds cap left x p) :
    redirect? u p.status p.location = some next ↔ Redirects cap left u x next := by
  rw [redirect?_eq_some_iff]
  constructor
  · rintro ⟨status, l, given, refers⟩
    exact .to connects responds status given refers
  · rintro ⟨-, responds', status, given, refers⟩
    cases responds.response.symm.trans responds'.response
    exact ⟨status, _, given, refers⟩

/-! ### What one exchange comes to -/

theorem visit_of_illegal (connects : Connects cap left u x)
    (head : isBefore left (x.headAt cap) = true) (response : x.response = some p)
    (illegal : (isStatus p.status && p.location.all isHeaderValue) = false) :
    visit source hops u (x.seen cap left :: replies) = ⟨.failed none, [u.target]⟩ := by
  rw [visit_of_response connects head response, if_pos]
  rw [← Bool.not_and, illegal]
  rfl

theorem visit_of_announced (connects : Connects cap left u x) (headed : IsHeaded cap left x p)
    (interim : isInterim p.status = true) :
    visit source hops u (x.seen cap left :: replies) =
      ⟨if x.arrival cap left p = .stalled then .timeout else .failed none, [u.target]⟩ := by
  rw [visit_of_response connects headed.head headed.response, headed.status, headed.location, interim]
  rfl

theorem visit_of_responds (connects : Connects cap left u x) (responds : Responds cap left x p) :
    visit source hops u (x.seen cap left :: replies) =
      match redirect? u p.status p.location, hops with
      | none, _ => ⟨ofResponse source p.status (x.arrival cap left p) p.body, [u.target]⟩
      | some _, 0 => ⟨.failed none, [u.target]⟩
      | some next, hops + 1 =>
        if isOnWeb next then
          (visit source hops next (Replies.next (x.seen cap left :: replies))).after u.target
        else ⟨.failed none, [u.target]⟩ := by
  rw [visit_of_response connects responds.head responds.response, responds.status, responds.location,
    responds.final]
  rfl

theorem visit_of_stays (connects : Connects cap left u x) (responds : Responds cap left x p)
    (stays : ∀ next, ¬Redirects cap left u x next) :
    visit source hops u (x.seen cap left :: replies) =
      ⟨ofResponse source p.status (x.arrival cap left p) p.body, [u.target]⟩ := by
  have none : redirect? u p.status p.location = none :=
    Option.eq_none_iff_forall_ne_some.2 fun next h =>
      stays next ((redirects_iff connects responds).1 h)
  rw [visit_of_responds connects responds, none]

theorem ofResponse_of_bad {status : Nat} {arrival : Arrival} {body : Bytes} (bad : isGood status = false) :
    ofResponse source status arrival body = .failed (some status) := by
  simp only [ofResponse, bad, Bool.not_false, if_true]

theorem ofResponse_of_bodied {status : Nat} {arrival : Arrival} {body : Bytes}
    (good : isGood status = true) (bodied : isBodiless status = false) :
    ofResponse source status arrival body =
      match arrival with
      | .whole => ofBody source body
      | .broken => .failed (some status)
      | .stalled => .timeout := by
  cases arrival <;> simp only [ofResponse, good, bodied, Bool.not_true, Bool.false_eq_true, if_false]

theorem ofResponse_of_delivers {content : Bytes} (good : isGood p.status = true)
    (delivers : Delivers cap left x p content) :
    ofResponse source p.status (x.arrival cap left p) p.body = ofBody source content := by
  cases delivers with
  | nothing bodiless =>
    simp only [ofResponse, good, bodiless, Bool.not_true, Bool.false_eq_true, if_false, if_true]
  | whole bodied ends uncut =>
    rw [ofResponse_of_bodied good bodied, arrival_ends ends, uncut]
    rfl

theorem visit_of_tells (connects : Connects cap left u x) (tells : Tells source cap left x o)
    (stays : ∀ next, ¬Redirects cap left u x next) :
    visit source hops u (x.seen cap left :: replies) = ⟨o, [u.target]⟩ := by
  cases tells with
  | headLate late =>
    rw [visit.eq_def, first_of_connects connects, late]
    rfl
  | nothing head nothing =>
    rw [visit.eq_def, first_of_connects connects, if_pos head, nothing]
  | illegal head response illegal => exact visit_of_illegal connects head response illegal
  | announced headed interim ends =>
    rw [visit_of_announced connects headed interim, arrival_ends ends]
    split <;> rfl
  | announcedLate headed interim late =>
    rw [visit_of_announced connects headed interim, arrival_late late]
    rfl
  | declined responds bad => rw [visit_of_stays connects responds stays, ofResponse_of_bad bad]
  | cut responds good bodied ends cut =>
    rw [visit_of_stays connects responds stays, ofResponse_of_bodied good bodied, arrival_ends ends, cut]
    rfl
  | bodyLate responds good bodied late =>
    rw [visit_of_stays connects responds stays, ofResponse_of_bodied good bodied, arrival_late late]
  | success responds good delivers decodes =>
    rw [visit_of_stays connects responds stays, ofResponse_of_delivers good delivers, ofBody, decodes]
  | undecodable responds good delivers faulty =>
    rw [visit_of_stays connects responds stays, ofResponse_of_delivers good delivers, ofBody, faulty]

theorem exists_tells_of_delivers {content : Bytes} (responds : Responds cap left x p)
    (good : isGood p.status = true) (delivers : Delivers cap left x p content) :
    ∃ o, Tells source cap left x o := by
  cases decoded : decode source content with
  | ok es => exact ⟨_, .success responds good delivers decoded⟩
  | error fault => exact ⟨_, .undecodable responds good delivers decoded⟩

theorem exists_tells (source : Source) (cap left : Nat) (x : Exchange) : ∃ o, Tells source cap left x o := by
  by_cases late : isBefore left (x.headAt cap) = false
  · exact ⟨_, .headLate late⟩
  rw [Bool.not_eq_false] at late
  rcases response : x.response with _ | p
  · exact ⟨_, .nothing late response⟩
  by_cases illegal : (isStatus p.status && p.location.all isHeaderValue) = false
  · exact ⟨_, .illegal late response illegal⟩
  rw [Bool.not_eq_false, Bool.and_eq_true] at illegal
  have headed : IsHeaded cap left x p := ⟨late, response, illegal.1, illegal.2⟩
  cases interim : isInterim p.status with
  | true =>
    cases ends : isBefore left (x.endAt cap) with
    | true => exact ⟨_, .announced headed interim ends⟩
    | false => exact ⟨_, .announcedLate headed interim ends⟩
  | false =>
    have responds : Responds cap left x p := ⟨headed, interim⟩
    cases good : isGood p.status with
    | false => exact ⟨_, .declined responds good⟩
    | true =>
      cases bodied : isBodiless p.status with
      | true => exact exists_tells_of_delivers responds good (.nothing bodied)
      | false =>
        cases ends : isBefore left (x.endAt cap) with
        | false => exact ⟨_, .bodyLate responds good bodied ends⟩
        | true =>
          cases cut : p.isCut with
          | true => exact ⟨_, .cut responds good bodied ends cut⟩
          | false => exact exists_tells_of_delivers responds good (.whole bodied ends cut)

end

/-! ### One exchange after another -/

/-- What a client does that follows at most `hops` redirects: where it is told something, it is done. -/
inductive Reads (source : Source) (cap : Nat) : Nat → Nat → Uri → List Exchange → Visit → Prop where
  | refused (hops left : Nat) (u : Uri) : Reads source cap hops left u [] ⟨.failed none, []⟩
  | pending (hops : Nat) {left : Nat} (u : Uri) {x : Exchange} (xs : List Exchange)
      (late : isBefore left (x.connectAt cap) = false) :
      Reads source cap hops left u (x :: xs) ⟨.timeout, []⟩
  | barred (hops : Nat) {left : Nat} {u : Uri} {x : Exchange} (xs : List Exchange)
      (known : isBefore left (x.connectAt cap) = true)
      (barred : x.link = .refused ∨ mustBeSecured u = true ∧ x.link = .plain) :
      Reads source cap hops left u (x :: xs) ⟨.failed none, []⟩
  | ends (hops : Nat) {left : Nat} {u : Uri} {x : Exchange} (xs : List Exchange) {o : Outcome}
      (connects : Connects cap left u x) (stays : ∀ next, ¬Redirects cap left u x next)
      (tells : Tells source cap left x o) :
      Reads source cap hops left u (x :: xs) ⟨o, [u.target]⟩
  | stops {hops left : Nat} {u next : Uri} {x : Exchange} (xs : List Exchange)
      (redirects : Redirects cap left u x next) (unable : hops = 0 ∨ isOnWeb next = false) :
      Reads source cap hops left u (x :: xs) ⟨.failed none, [u.target]⟩
  | follows {hops left t : Nat} {u next : Uri} {x : Exchange} {xs : List Exchange} {v : Visit}
      (redirects : Redirects cap left u x next) (web : isOnWeb next = true)
      (headed : x.headAt cap = some t) (rest : Reads source cap hops (left - t) next (later x xs) v) :
      Reads source cap (hops + 1) left u (x :: xs) (v.after u.target)

/-- What is claimed of asking: one request if there is a connection for it, and what its exchange tells. -/
inductive ReadsOnce (source : Source) (cap left : Nat) (u : Uri) : List Exchange → Visit → Prop where
  | refused : ReadsOnce source cap left u [] ⟨.failed none, []⟩
  | pending {x : Exchange} (xs : List Exchange) (late : isBefore left (x.connectAt cap) = false) :
      ReadsOnce source cap left u (x :: xs) ⟨.timeout, []⟩
  | barred {x : Exchange} (xs : List Exchange) (known : isBefore left (x.connectAt cap) = true)
      (barred : x.link = .refused ∨ mustBeSecured u = true ∧ x.link = .plain) :
      ReadsOnce source cap left u (x :: xs) ⟨.failed none, []⟩
  | asked {x : Exchange} (xs : List Exchange) {o : Outcome} (connects : Connects cap left u x)
      (tells : Tells source cap left x o) : ReadsOnce source cap left u (x :: xs) ⟨o, [u.target]⟩

section
variable {source : Source} {cap left hops : Nat} {u next : Uri} {x : Exchange} {xs : List Exchange}
  {v : Visit} {o : Outcome}

theorem exists_headAt (h : Redirects cap left u x next) : ∃ t, x.headAt cap = some t := by
  obtain ⟨-, responds, -, -, -⟩ := h
  have head := responds.head
  rw [isBefore, Option.any_eq_true] at head
  obtain ⟨t, headed, -⟩ := head
  exact ⟨t, headed⟩

theorem seenOn_cons (connections left : Nat) {t : Nat} (headed : x.headAt cap = some t) :
    seenOn cap (connections + 1) left (x :: xs) =
      x.seen cap left :: seenOn cap connections (left - t) (later x xs) := by
  rw [seenOn, headed]
  rfl

theorem exists_later (x : Exchange) (xs : List Exchange) : ∃ y ys, later x xs = y :: ys := by
  cases xs with
  | nil => exact ⟨x, [], rfl⟩
  | cons y ys => exact ⟨y, ys, rfl⟩

theorem next_seenOn (contact : Contact) (connections left : Nat) :
    Replies.next (contact :: seenOn cap (connections + 1) left (later x xs)) =
      seenOn cap (connections + 1) left (later x xs) := by
  obtain ⟨y, ys, same⟩ := exists_later x xs
  rw [same, seenOn]
  rfl

theorem visit_of_follows (redirects : Redirects cap left u x next) (web : isOnWeb next = true)
    {replies : Replies} : visit source (hops + 1) u (x.seen cap left :: replies) =
      (visit source hops next (Replies.next (x.seen cap left :: replies))).after u.target := by
  obtain ⟨connects, responds, status, given, refers⟩ := redirects
  rw [visit_of_responds connects responds, redirect?_eq_some_iff.2 ⟨status, _, given, refers⟩]
  exact if_pos web

theorem visit_of_stops (redirects : Redirects cap left u x next)
    (unable : hops = 0 ∨ isOnWeb next = false) {replies : Replies} :
    visit source hops u (x.seen cap left :: replies) = ⟨.failed none, [u.target]⟩ := by
  obtain ⟨connects, responds, status, given, refers⟩ := redirects
  rw [visit_of_responds connects responds, redirect?_eq_some_iff.2 ⟨status, _, given, refers⟩]
  cases hops with
  | zero => rfl
  | succ hops =>
    rcases unable with none | other
    · cases none
    · exact if_neg (Bool.eq_false_iff.1 other)

theorem visit_of_reads (reads : Reads source cap hops left u xs v) :
    visit source hops u (seenOn cap (hops + 1) left xs) = v := by
  -- Each redirect that is followed takes one connection and one of the redirects that may be followed.
  induction reads with
  | refused hops left u =>
    rw [seenOn, visit.eq_def]
    rfl
  | pending hops u xs late =>
    rw [seenOn, visit.eq_def, first_of_late late]
  | barred hops xs known barred =>
    rw [seenOn, visit.eq_def, first_of_barred known barred]
  | ends hops xs connects stays tells =>
    rw [seenOn]
    exact visit_of_tells connects tells stays
  | stops xs redirects unable =>
    rw [seenOn]
    exact visit_of_stops redirects unable
  | follows redirects web headed rest ih =>
    rw [seenOn_cons _ _ headed, visit_of_follows redirects web, next_seenOn, ih]

theorem connects_cases (cap left : Nat) (u : Uri) (x : Exchange) :
    isBefore left (x.connectAt cap) = false ∨
      isBefore left (x.connectAt cap) = true ∧
        (x.link = .refused ∨ mustBeSecured u = true ∧ x.link = .plain) ∨
      Connects cap left u x := by
  cases known : isBefore left (x.connectAt cap) with
  | false => exact .inl rfl
  | true =>
    cases link : x.link with
    | refused => exact .inr (.inl ⟨rfl, .inl rfl⟩)
    | secured => exact .inr (.inr ⟨known, by simp [link], fun _ => link⟩)
    | plain =>
      cases secured : mustBeSecured u with
      | true => exact .inr (.inl ⟨rfl, .inr ⟨rfl, rfl⟩⟩)
      | false => exact .inr (.inr ⟨known, by simp [link], fun h => nomatch secured.symm.trans h⟩)

theorem exists_reads_of_stays (source : Source) (hops : Nat) (xs : List Exchange)
    (stays : ∀ next, ¬Redirects cap left u x next) : ∃ v, Reads source cap hops left u (x :: xs) v := by
  rcases connects_cases cap left u x with late | ⟨known, barred⟩ | connects
  · exact ⟨_, .pending hops u xs late⟩
  · exact ⟨_, .barred hops xs known barred⟩
  · obtain ⟨o, tells⟩ := exists_tells source cap left x
    exact ⟨_, .ends hops xs connects stays tells⟩

theorem exists_reads (source : Source) (cap hops left : Nat) (u : Uri) (xs : List Exchange) :
    ∃ v, Reads source cap hops left u xs v := by
  induction hops generalizing left u xs with
  | zero =>
    rcases xs with _ | ⟨x, xs⟩
    · exact ⟨_, .refused 0 left u⟩
    by_cases redirects : ∃ next, Redirects cap left u x next
    · obtain ⟨next, redirects⟩ := redirects
      exact ⟨_, .stops xs redirects (.inl rfl)⟩
    · exact exists_reads_of_stays source 0 xs (not_exists.1 redirects)
  | succ hops ih =>
    rcases xs with _ | ⟨x, xs⟩
    · exact ⟨_, .refused _ left u⟩
    by_cases redirects : ∃ next, Redirects cap left u x next
    · obtain ⟨next, redirects⟩ := redirects
      cases web : isOnWeb next with
      | false => exact ⟨_, .stops xs redirects (.inr web)⟩
      | true =>
        obtain ⟨t, headed⟩ := exists_headAt redirects
        obtain ⟨v, rest⟩ := ih (left - t) next (later x xs)
        exact ⟨_, .follows redirects web headed rest⟩
    · exact exists_reads_of_stays source _ xs (not_exists.1 redirects)

theorem visit_eq_iff_reads : visit source hops u (seenOn cap (hops + 1) left xs) = v ↔
    Reads source cap hops left u xs v := by
  refine ⟨fun same => ?_, visit_of_reads⟩
  obtain ⟨w, reads⟩ := exists_reads source cap hops left u xs
  rw [← same, visit_of_reads reads]
  exact reads

theorem Reads.length_targets_le (reads : Reads source cap hops left u xs v) :
    v.targets.length ≤ hops + 1 := by
  induction reads with
  | refused | pending | barred => exact Nat.zero_le _
  | ends => exact Nat.succ_le_succ (Nat.zero_le _)
  | stops => exact Nat.succ_le_succ (Nat.zero_le _)
  | follows _ _ _ _ ih => exact Nat.succ_le_succ ih

/-- Where nothing was sent no status is told. -/
theorem Reads.outcome_of_unsent (reads : Reads source cap hops left u xs v) (unsent : v.targets = []) :
    v.outcome = .timeout ∨ v.outcome = .failed none := by
  cases reads with
  | refused | barred => exact .inr rfl
  | pending => exact .inl rfl
  | ends | stops | follows => cases unsent

theorem bad_of_isRedirect {status : Nat} (redirect : isRedirect status = true) : isGood status = false := by
  simp only [isRedirect, List.mem_cons, List.not_mem_nil, or_false, decide_eq_true_eq] at redirect
  rcases redirect with rfl | rfl | rfl | rfl | rfl <;> rfl

/-- A response that is no success tells its status, redirect or not. -/
theorem Tells.eq_of_bad (tells : Tells source cap left x o) {p : Response}
    (responds : Responds cap left x p) (bad : isGood p.status = false) : o = .failed (some p.status) := by
  have legal : (isStatus p.status && p.location.all isHeaderValue) = true := by
    rw [responds.status, responds.location]
    rfl
  have same : ∀ {q}, x.response = some q → q = p := fun h => by
    cases h.symm.trans responds.response
    rfl
  cases tells with
  | headLate late => cases responds.head.symm.trans late
  | nothing _ nothing => cases responds.response.symm.trans nothing
  | illegal _ response illegal => cases same response; cases legal.symm.trans illegal
  | announced headed interim => cases same headed.response; cases responds.final.symm.trans interim
  | announcedLate headed interim => cases same headed.response; cases responds.final.symm.trans interim
  | declined responds' => rw [same responds'.response]
  | cut responds' good => cases same responds'.response; cases bad.symm.trans good
  | bodyLate responds' good => cases same responds'.response; cases bad.symm.trans good
  | success responds' good => cases same responds'.response; cases bad.symm.trans good
  | undecodable responds' good => cases same responds'.response; cases bad.symm.trans good

theorem ReadsOnce.length_targets_le (once : ReadsOnce source cap left u xs v) :
    v.targets.length ≤ 1 := by
  cases once with
  | refused | pending | barred => exact Nat.zero_le _
  | asked => exact Nat.le_refl _

theorem Redirects.connects (h : Redirects cap left u x next) : Connects cap left u x := by
  obtain ⟨connects, -, -, -, -⟩ := h
  exact connects

theorem not_redirects_of_late (late : isBefore left (x.connectAt cap) = false) :
    ¬Redirects cap left u x next := by
  intro h
  cases late.symm.trans h.connects.known

theorem not_redirects_of_barred (barred : x.link = .refused ∨ mustBeSecured u = true ∧ x.link = .plain) :
    ¬Redirects cap left u x next := by
  intro h
  rcases barred with refused | ⟨secured, plain⟩
  · exact h.connects.link refused
  · cases plain.symm.trans (h.connects.secured secured)

/-- What a redirect comes to is not told by its status. -/
theorem not_readsOnce_of_redirects (redirects : Redirects cap left u x next)
    (untold : ∀ status, v ≠ ⟨.failed (some status), [u.target]⟩) :
    ¬ReadsOnce source cap left u (x :: xs) v := by
  intro once
  cases once with
  | pending _ late => exact not_redirects_of_late late redirects
  | barred _ _ barred => exact not_redirects_of_barred barred redirects
  | asked _ _ tells =>
    obtain ⟨-, responds, status, -, -⟩ := redirects
    exact untold _ (by rw [tells.eq_of_bad responds (bad_of_isRedirect status)])

/-- Only where no redirect refers to some place it is one request and what its exchange tells. -/
theorem readsOnce_iff (reads : Reads source cap hops left u xs v) :
    ReadsOnce source cap left u xs v ↔ ∀ x ∈ xs.head?, ∀ next, ¬Redirects cap left u x next := by
  cases reads with
  | refused => exact ⟨fun _ _ h => (nomatch h), fun _ => .refused⟩
  | pending _ _ xs late =>
    refine ⟨fun _ y first _ => ?_, fun _ => .pending xs late⟩
    cases first
    exact not_redirects_of_late late
  | barred _ xs known barred =>
    refine ⟨fun _ y first _ => ?_, fun _ => .barred xs known barred⟩
    cases first
    exact not_redirects_of_barred barred
  | ends _ xs connects stays tells =>
    refine ⟨fun _ y first => ?_, fun _ => .asked xs connects tells⟩
    cases first
    exact stays
  | stops xs redirects _ =>
    refine ⟨fun once => ?_, fun stays => absurd redirects (stays _ rfl _)⟩
    exact absurd once (not_readsOnce_of_redirects redirects nofun)
  | @follows _ _ _ _ _ _ _ v redirects web headed rest =>
    refine ⟨fun once => ?_, fun stays => absurd redirects (stays _ rfl _)⟩
    refine absurd once (not_readsOnce_of_redirects redirects fun status told => ?_)
    -- If the place that is referred to was asked, there are two requests; else no status was told.
    obtain ⟨outcome, targets⟩ := Visit.mk.inj told
    have unsent : v.targets = [] := (List.cons.inj targets).2
    rcases rest.outcome_of_unsent unsent with late | untold
    · cases late.symm.trans outcome
    · cases untold.symm.trans outcome

end

/-! ### Asking for a case -/

/-- What comes of asking a source for the events of a case. -/
structure Bounded (e : Endpoint) (cap : Nat) (c : CaseId) (deadline : Nat) (xs : List Exchange) :
    Prop where
  late : deadline = 0 → fetchBy e cap c deadline xs = ⟨.timeout, []⟩
  unaddressed : 0 < deadline →
    (∀ u, Uri.ofAddress? (e.urlFor c) = some u → isOnWeb u = false) →
    fetchBy e cap c deadline xs = ⟨.failed none, []⟩
  reads : 0 < deadline → ∀ u, Uri.ofAddress? (e.urlFor c) = some u → isOnWeb u = true →
    ∀ v, fetchBy e cap c deadline xs = v ↔ Reads e.source cap maxRedirects deadline u xs v
  few : (fetchBy e cap c deadline xs).targets.length ≤ maxRedirects + 1
  once : 0 < deadline → ∀ u, Uri.ofAddress? (e.urlFor c) = some u → isOnWeb u = true →
    (ReadsOnce e.source cap deadline u xs (fetchBy e cap c deadline xs) ↔
      ∀ x ∈ xs.head?, ∀ next, ¬Redirects cap deadline u x next)

theorem fetchBy_of_address {e : Endpoint} {c : CaseId} {u : Uri}
    (address : Uri.ofAddress? (e.urlFor c) = some u) (web : isOnWeb u = true) (cap : Nat)
    {deadline : Nat} (early : 0 < deadline) (xs : List Exchange) :
    fetchBy e cap c deadline xs =
      visit e.source maxRedirects u (seenOn cap (maxRedirects + 1) deadline xs) := by
  rw [fetchBy, fetch, decide_eq_false (Nat.ne_of_gt early), address]
  simp only [web, Bool.false_eq_true, if_false, if_true]

theorem fetchBy_of_unaddressed {e : Endpoint} {c : CaseId}
    (unaddressed : ∀ u, Uri.ofAddress? (e.urlFor c) = some u → isOnWeb u = false) (cap : Nat)
    {deadline : Nat} (early : 0 < deadline) (xs : List Exchange) :
    fetchBy e cap c deadline xs = ⟨.failed none, []⟩ := by
  rw [fetchBy, fetch, decide_eq_false (Nat.ne_of_gt early)]
  cases address : Uri.ofAddress? (e.urlFor c) with
  | none => rfl
  | some u => simp only [unaddressed u address, Bool.false_eq_true, if_false]

theorem fetchBy_bounded (e : Endpoint) (cap : Nat) (c : CaseId) (deadline : Nat) (xs : List Exchange) :
    Bounded e cap c deadline xs := by
  have late : deadline = 0 → fetchBy e cap c deadline xs = ⟨.timeout, []⟩ := by
    rintro rfl
    rfl
  have reads : 0 < deadline → ∀ u, Uri.ofAddress? (e.urlFor c) = some u → isOnWeb u = true →
      ∀ v, fetchBy e cap c deadline xs = v ↔ Reads e.source cap maxRedirects deadline u xs v := by
    intro early u address web v
    rw [fetchBy_of_address address web cap early]
    exact visit_eq_iff_reads
  refine ⟨late, fun early unaddressed => fetchBy_of_unaddressed unaddressed cap early xs, reads, ?_,
    fun early u address web => readsOnce_iff ((reads early u address web _).1 rfl)⟩
  rcases Nat.eq_zero_or_pos deadline with none | early
  · rw [late none]
    exact Nat.zero_le _
  by_cases addressed : ∃ u, Uri.ofAddress? (e.urlFor c) = some u ∧ isOnWeb u = true
  · obtain ⟨u, address, web⟩ := addressed
    exact ((reads early u address web _).1 rfl).length_targets_le
  · rw [fetchBy_of_unaddressed (fun u address => Bool.eq_false_iff.2 fun web =>
      addressed ⟨u, address, web⟩) cap early]
    exact Nat.zero_le _

def answered (status : Nat) (location : Option String) (body : String) : Exchange :=
  ⟨some 1, .secured, some 20, some ⟨status, location, Bytes.ofText body, false⟩, some 5⟩

def eventsUri : Uri := ⟨some "http", some "[::1]:8081", "/api/cases/case_1.a-b/events", none⟩

/-- Where orders are asked for over secured connections. -/
def securedOrders : Endpoint := .ofBase .order "https://[::1]:443/api/" TimelineSettings.default.path

def securedUri : Uri := ⟨some "https", some "[::1]", "/api/cases/case_1.a-b/events", none⟩

/-- A status that offers other places is told like any other, and without a secured connection nothing is
sent. -/
theorem fetchBy_bounded_choices : Uri.ofAddress? (securedOrders.urlFor pointed) = some securedUri ∧
    isOnWeb securedUri = true ∧ 0 < 2000 ∧
    ReadsOnce .order 1000 2000 securedUri [answered 300 (some "/moved") "choose"]
      (fetchBy securedOrders 1000 pointed 2000 [answered 300 (some "/moved") "choose"]) ∧
    fetchBy securedOrders 1000 pointed 2000 [answered 300 (some "/moved") "choose"] =
      ⟨.failed (some 300), ["/api/cases/case_1.a-b/events"]⟩ ∧
    ReadsOnce .order 1000 2000 securedUri [{ answered 300 none "choose" with link := .plain }]
      ⟨.failed none, []⟩ := by
  have address : Uri.ofAddress? (securedOrders.urlFor pointed) = some securedUri := by decide +kernel
  have stays : ∀ x ∈ [answered 300 (some "/moved") "choose"].head?,
      ∀ next, ¬Redirects 1000 2000 securedUri x next := by
    rintro x first next ⟨-, responds, status, -, -⟩
    cases first
    cases responds.response
    cases status
  have bounded := fetchBy_bounded securedOrders 1000 pointed 2000 [answered 300 (some "/moved") "choose"]
  exact ⟨address, rfl, by decide, (bounded.once (by decide) _ address rfl).2 stays, by decide +kernel,
    .barred [] (by decide) (.inr ⟨by decide, rfl⟩)⟩

/-- A redirect is followed, and its status is not told. -/
theorem reads_again_moved : Uri.ofAddress? (orders.urlFor pointed) = some eventsUri ∧
    isOnWeb eventsUri = true ∧
    fetchBy orders 1000 pointed 2000 [answered 302 (some "/moved") "", answered 200 none "[]"] =
      ⟨.success [], ["/api/cases/case_1.a-b/events", "/moved"]⟩ ∧
    ¬ReadsOnce .order 1000 2000 eventsUri [answered 302 (some "/moved") "", answered 200 none "[]"]
      (fetchBy orders 1000 pointed 2000 [answered 302 (some "/moved") "", answered 200 none "[]"]) := by
  have twice : fetchBy orders 1000 pointed 2000
      [answered 302 (some "/moved") "", answered 200 none "[]"] =
        ⟨.success [], ["/api/cases/case_1.a-b/events", "/moved"]⟩ := by decide +kernel
  refine ⟨by decide +kernel, rfl, twice, fun once => ?_⟩
  have few := once.length_targets_le
  rw [twice] at few
  exact absurd few (by decide)

end Casebook.Feed
