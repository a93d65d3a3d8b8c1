import RecordSink.Proofs.Stream.Splitting
import RecordSink.Proofs.Stream.Writing
import RecordSink.Stream.Draft

/-!
# What drafts stand for

A record that no block can hold stops an append. Main statement: drafts are appended as their records are.
-/

namespace RecordSink

open RecordSink.Stream

namespace Stream.Encoder

variable {σ : Type} [ByteSink σ] {record : Bytes} {front rest : List Bytes}

/-- A record that no block can hold stops an append, behind the blocks of the records in front of it. -/
theorem append_long (long : lengthBound ≤ frameSize record) (encoder : Encoder σ) :
    encoder.append (front ++ record :: rest) =
      match encoder.append front with
      | (.error cause, after) => (.error cause, after)
      | (.ok _, after) => (.error (.longPayload (frameSize record)), after) := by
  have limit : payloadLimit < frameSize record := Nat.lt_of_lt_of_le (by decide) long
  have size : payloadSize [record] = frameSize record := by
    rw [payloadSize, sumOver_cons, sumOver_nil, Nat.add_zero]
  have stopped (between : Encoder σ) : between.writeBlocks ([record] :: runs rest) =
      (.error (.longPayload (frameSize record)), between) := by
    rw [writeBlocks, writeBlock_of_not_fits (by rw [Fits, size]; exact Nat.not_lt.mpr long), size]
  rw [append, append, runs_append_long limit, writeBlocks_append]
  rcases encoder.writeBlocks (runs front) with ⟨cause | count, after⟩
  · rfl
  · simp only [stopped]

end Stream.Encoder

namespace Draft

/-- A draft is one of a record. -/
def Drafts : Draft → Bytes → Prop
  | .whole record _, other => record = other
  | .oversize first, other => other.length = first.size

theorem drafts_of (record : Bytes) : (of record).Drafts record := by
  rw [of]
  split <;> rfl

theorem drafts_sized {size : Nat} {record : Unit → Bytes} (known : (record ()).length = size) :
    (sized size record).Drafts (record ()) := by
  rw [sized]
  split
  · exact known
  · exact drafts_of _

variable {pairs : List (Draft × Bytes)}

/-- All records are known, or those in front of one whose size is. -/
theorem front_cases (drafted : ∀ pair ∈ pairs, pair.1.Drafts pair.2) :
    front (pairs.map Prod.fst) = (pairs.map Prod.snd, none) ∨
    ∃ records record rest first, pairs.map Prod.snd = records ++ record :: rest ∧
      record.length = first.size ∧ front (pairs.map Prod.fst) = (records, some first) := by
  induction pairs with
  | nil => exact .inl rfl
  | cons pair pairs ih =>
      obtain ⟨draft, other⟩ := pair
      rw [List.forall_mem_cons] at drafted
      obtain ⟨first, later⟩ := drafted
      rw [List.map_cons, List.map_cons]
      cases draft with
      | whole record short =>
        obtain rfl : record = other := first
        rw [front]
        rcases ih later with all | ⟨records, long, rest, size, split, known, cut⟩
        · exact .inl (by rw [all])
        · exact .inr ⟨record :: records, long, rest, size, by rw [split, List.cons_append], known, by rw [cut]⟩
      | oversize size => exact .inr ⟨[], other, pairs.map Prod.snd, size, rfl, first, rfl⟩

end Draft

/-- Drafts are appended as their records are. -/
theorem Stream.Encoder.appendDrafts_eq {σ : Type} [ByteSink σ] {pairs : List (Draft × Bytes)}
    (drafted : ∀ pair ∈ pairs, pair.1.Drafts pair.2) (encoder : Encoder σ) :
    encoder.appendDrafts (pairs.map Prod.fst) = encoder.append (pairs.map Prod.snd) := by
  rcases Draft.front_cases drafted with all | ⟨records, record, rest, first, split, size, cut⟩
  · rw [appendDrafts, all]
  · have long : lengthBound ≤ frameSize record := by
      rw [frameSize, size]
      exact first.bound
    rw [split, append_long long, frameSize, size]
    rcases appended : encoder.append records with ⟨cause | count, after⟩ <;>
      simp only [appendDrafts, cut, appended]

end RecordSink
