import RecordSink.Credential.MetadataServer
import RecordSink.Emulator
import RecordSink.Program
import RecordSink.Rehearsal.VirtualTime
import RecordSink.Rehearsal.Wiretap
import RecordSink.Sink

/-!
# Rehearsals

A world in which a sink can be tried: an emulated store behind a tapped link, a clock that moves
only when someone waits, and a place for a token. Tokens age by a clock of their own that does
not move, so a token is either never kept or kept to the end.
-/

namespace RecordSink

/-- A world for trials. -/
structure Rehearsal where
  emulator : Emulator
  tap : Wiretap
  time : VirtualTime
  token : Option KeptCredential

namespace Rehearsal

/-- A rehearsal with a given store. -/
def withStore (emulator : Emulator) : Rehearsal :=
  { emulator, tap := .empty, time := .start, token := none }

instance : Inhabited Rehearsal := ⟨withStore .empty⟩

/-- The tapped link to the store. -/
def tappedLink : Link Rehearsal := ⟨fun request world =>
  let (outcome, tap, emulator) := world.tap.send Emulator.exchange request world.emulator
  (outcome, { world with tap, emulator })⟩

/-- The link to the store past the tap. -/
def directLink : Link Rehearsal := ⟨fun request world =>
  let (outcome, emulator) := world.emulator.exchange request
  (outcome, { world with emulator })⟩

/-- A link to nowhere: every connection is refused. -/
def deadLink : Link Rehearsal := ⟨fun _ world => (.error (.connect "connection refused"), world)⟩

/-- The clock of the rehearsal. -/
def clock : Clock Rehearsal := VirtualTime.clock (·.time) fun time world => { world with time }

/-- Keeps a token. The moments of its clock have 63 bits for their seconds. -/
def keep (kept : KeptCredential) (world : Rehearsal) : Rehearsal :=
  if kept.refreshAt.wholeSeconds < Nat.pow 2 63 then { world with token := some kept }
  else { world with time := { world.time with undefinedSpan := true } }

/-- A metadata server behind a link. The clock of its tokens has run for a day. -/
def metadataServer (link : Link Rehearsal) (tokenUrl : Url) : MetadataServer Rehearsal :=
  { link, tokenUrl
    now := pure (.ofSeconds 86400)
    kept := fun world => (world.token, world)
    keep := fun kept world => ((), world.keep kept) }

/-- What the program meets in a rehearsal with a link. -/
def surroundings (link : Link Rehearsal) : Program.Surroundings Rehearsal :=
  { link, clock, metadataServer := metadataServer link }

/-- The exchanges that passed the tap since it was last emptied, in order. -/
def takeExchanges (world : Rehearsal) : List Wiretap.Exchange × Rehearsal :=
  (world.tap.exchanges.reverse, { world with tap := { world.tap with exchanges := [] } })

/-- The world after a change of its store. -/
def onStore (change : Emulator → Emulator) (world : Rehearsal) : Rehearsal :=
  { world with emulator := change world.emulator }

/-- The world after a change of its tap. -/
def onTap (change : Wiretap → Wiretap) (world : Rehearsal) : Rehearsal :=
  { world with tap := change world.tap }

end Rehearsal

end RecordSink
