import Casebook.CaseId
import Casebook.Event
import Casebook.Fault

/-!
# Samples

A small case on which everything goes well, for trying the service out: an order, its payment and its
shipment, at instants counted from the start of 2024.
-/

namespace Casebook.Samples

def epoch : Instant := ⟨1704067200, 0, by decide⟩

/-- The most seconds that can be added at once, either way. -/
def maxShift : Int := 9223372036854775

/-- The instant a number of seconds after the epoch, or the complaint that there is none. -/
def at? (seconds : Int) : Except String Instant :=
  if seconds < -maxShift || maxShift < seconds then .error "TimeDelta::seconds out of bounds"
  else
    match Instant.of? (epoch.seconds + seconds) 0 with
    | some t => .ok t
    | none => .error "`DateTime + TimeDelta` overflowed"

def event? (source : Source) (seconds : Int) (kind : String) : Except String Event :=
  (at? seconds).map fun t => ⟨source, t, kind, Payload.empty⟩

def happyPath : List (Source × List Event) :=
  [(.order, [⟨.order, epoch, "order.placed", Payload.ofList [("total", "42.00")]⟩]),
    (.payment, [⟨.payment, ⟨1704067205, 0, by decide⟩, "payment.captured",
      Payload.ofList [("amount", "42.00")]⟩]),
    (.fulfillment, [⟨.fulfillment, ⟨1704067260, 0, by decide⟩, "shipment.dispatched",
      Payload.ofList [("carrier", "ups")]⟩])]

def caseIdComplaint (raw : String) (f : InputFault) : String :=
  s!"invalid fixture case id {Text.quoted raw}: {f.message}"

end Casebook.Samples
