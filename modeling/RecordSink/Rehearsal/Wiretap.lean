import RecordSink.Credential
import RecordSink.Json.Reader

/-!
# Wiretaps

A link in front of another one that keeps what passes. It can answer requests itself, from
answers given in advance, and it can edit the resources in the answers that pass.
-/

namespace RecordSink

/-- A request and what came of it. -/
structure Wiretap.Exchange where
  request : Http.Request
  outcome : Http.Outcome

/-- What a tapped link keeps and does. -/
structure Wiretap where
  /-- What passed, the last exchange first. -/
  exchanges : List Wiretap.Exchange
  /-- Answers for the next requests. -/
  canned : List Http.Outcome
  /-- Members that are put into passing resources, or removed where there is no value. -/
  edits : List (Bytes × Option Json)

namespace Wiretap

/-- A tap that only listens. -/
def empty : Wiretap := { exchanges := [], canned := [], edits := [] }

instance : Inhabited Wiretap := ⟨empty⟩

/-- The tap with more answers for the next requests. -/
def withAnswers (outcomes : List Http.Outcome) (tap : Wiretap) : Wiretap :=
  { tap with canned := tap.canned ++ outcomes }

/-- The members with one of them put in or removed. -/
def edited (members : List (Bytes × Json)) (name : Bytes) (value : Option Json) : List (Bytes × Json) :=
  let others := members.filter (·.1 != name)
  match value with
  | none => others
  | some value => others ++ [(name, value)]

/-- A passing answer: a resource in a successful one is edited. -/
def pass (tap : Wiretap) (outcome : Http.Outcome) : Http.Outcome :=
  match outcome with
  | .error cause => .error cause
  | .ok response =>
      if tap.edits.isEmpty || !response.isSuccess then .ok response
      else
        match Json.read? response.body with
        | some (.object members) =>
            let members := tap.edits.foldl (fun members (name, value) => edited members name value) members
            .ok { response with body := (Json.object members).render }
        | _ => .ok response

/-- Sends a request over a tapped link. -/
def send {W : Type} (tap : Wiretap) (beyond : Http.Request → W → Http.Outcome × W)
    (request : Http.Request) (world : W) : Http.Outcome × Wiretap × W :=
  let kept (outcome : Http.Outcome) : Wiretap :=
    { tap with exchanges := { request, outcome } :: tap.exchanges }
  match tap.canned with
  | outcome :: rest => (outcome, { kept outcome with canned := rest }, world)
  | [] =>
      let (outcome, world) := beyond request world
      let outcome := tap.pass outcome
      (outcome, kept outcome, world)

end Wiretap

end RecordSink
