import RecordSink.Proofs.Stream.Written

/-!
# Splitting records over blocks

The blocks that the records of a batch take: how large they are, and where they end.
-/

namespace RecordSink.Stream

/-! ## Sizes -/

/-- What is taken behind some bytes of a payload stays below the limit, if anything is. -/
theorem payloadSize_fitting_le (used : Nat) (records : List Bytes) :
    used + payloadSize (fitting used records).1 ≤ max used payloadLimit := by
  induction records generalizing used with
  | nil => exact Nat.le_max_left used payloadLimit
  | cons record rest ih =>
      rw [fitting]
      split
      · next room =>
          have behind := ih (used + frameSize record)
          rw [Nat.max_eq_right room] at behind
          calc
            used + payloadSize (record :: (fitting (used + frameSize record) rest).1)
                = used + frameSize record + payloadSize (fitting (used + frameSize record) rest).1 :=
              (Nat.add_assoc ..).symm
            _ ≤ payloadLimit := behind
            _ ≤ max used payloadLimit := Nat.le_max_right ..
      · exact Nat.le_max_left used payloadLimit

/-- A block fits where its first record does. -/
theorem fits_fitting {record : Bytes} (short : frameSize record < lengthBound) (rest : List Bytes) :
    Fits (record :: (fitting (frameSize record) rest).1) := by
  have bound := payloadSize_fitting_le (frameSize record) rest
  have limit : payloadLimit < lengthBound := by decide
  calc
    payloadSize (record :: (fitting (frameSize record) rest).1)
        = frameSize record + payloadSize (fitting (frameSize record) rest).1 := rfl
    _ ≤ max (frameSize record) payloadLimit := bound
    _ < lengthBound := Nat.max_lt.mpr ⟨short, limit⟩

/-- Blocks of records that each fit a block fit, too. -/
theorem fits_of_mem_runs {records : List Bytes}
    (short : ∀ record ∈ records, frameSize record < lengthBound) : ∀ run ∈ runs records, Fits run := by
  induction records using runs.induct with
  | case1 =>
      intro run none
      rw [runs] at none
      cases none
  | case2 record rest ih =>
      have whole := fitting_append (frameSize record) rest
      rw [runs, List.forall_mem_cons]
      constructor
      · exact fits_fitting (short record (List.mem_cons_self ..)) rest
      · apply ih
        intro other inside
        apply short other
        rw [← whole]
        exact List.mem_cons_of_mem _ (List.mem_append_right _ inside)

/-- Records that are too long for a block are those that no run of blocks can hold. -/
theorem fits_runs_iff {records : List Bytes} :
    (∀ run ∈ runs records, Fits run) ↔ ∀ record ∈ records, frameSize record < lengthBound := by
  constructor
  · intro fits record inside
    rw [← flatten_runs records] at inside
    obtain ⟨run, among, member⟩ := List.mem_flatten.mp inside
    exact Nat.lt_of_le_of_lt (frameSize_le_payloadSize member) (fits run among)
  · exact fits_of_mem_runs

/-! ## Ends of blocks -/

variable {record : Bytes} {front rest : List Bytes}

/-- Behind a full block nothing fits. -/
theorem fitting_of_full {used : Nat} (full : payloadLimit < used) (records : List Bytes) :
    fitting used records = ([], records) := by
  cases records with
  | nil => rfl
  | cons record rest => rw [fitting, if_neg (by omega)]

/-- A record that is too long for a common block ends the block before it. -/
theorem fitting_append_long (used : Nat) (long : payloadLimit < frameSize record) :
    fitting used (front ++ record :: rest) =
      ((fitting used front).1, (fitting used front).2 ++ record :: rest) := by
  induction front generalizing used with
  | nil =>
      have full : ¬ used + frameSize record ≤ payloadLimit := by omega
      simp only [List.nil_append, fitting, if_neg full]
  | cons other front ih =>
      rw [List.cons_append, fitting, fitting]
      split
      · rw [ih]
      · rfl

/-- A record that is too long for a common block has a block of its own. -/
theorem runs_append_long (long : payloadLimit < frameSize record) :
    runs (front ++ record :: rest) = runs front ++ [record] :: runs rest := by
  induction front using runs.induct with
  | case1 => simp only [List.nil_append, runs, fitting_of_full long]
  | case2 other front ih =>
      rw [List.cons_append, runs, fitting_append_long _ long, ih, runs, List.cons_append]

/-- With fewer of the records that did not fit, the same records fit. -/
theorem fitting_append_of_isPrefix {used : Nat} {records more : List Bytes}
    (front : more <+: (fitting used records).2) :
    fitting used ((fitting used records).1 ++ more) = ((fitting used records).1, more) := by
  induction records generalizing used with
  | nil =>
      obtain rfl : more = [] := List.prefix_nil.mp front
      rfl
  | cons record rest ih =>
      rw [fitting] at front ⊢
      split
      · next fits =>
        rw [if_pos fits] at front
        rw [List.cons_append, fitting, if_pos fits, ih front]
      · next full =>
        rw [if_neg full] at front
        cases more with
        | nil => rfl
        | cons first others =>
            obtain ⟨rfl, -⟩ := List.cons_prefix_cons.mp front
            rw [List.nil_append, fitting, if_neg full]

/-- The records of the first blocks take these blocks again. -/
theorem runs_flatten_take (records : List Bytes) (count : Nat) :
    runs ((runs records).take count).flatten = (runs records).take count := by
  induction records using runs.induct generalizing count with
  | case1 => simp [runs]
  | case2 record rest ih =>
      cases count with
      | zero => simp [runs]
      | succ count =>
          have front : ((runs (fitting (frameSize record) rest).2).take count).flatten <+:
              (fitting (frameSize record) rest).2 := by
            obtain ⟨back, whole⟩ := List.take_prefix count (runs (fitting (frameSize record) rest).2)
            refine ⟨back.flatten, ?_⟩
            rw [← List.flatten_append, whole, flatten_runs]
          rw [runs, List.take_succ_cons, List.flatten_cons, List.cons_append, runs,
            fitting_append_of_isPrefix front, ih]

end RecordSink.Stream
