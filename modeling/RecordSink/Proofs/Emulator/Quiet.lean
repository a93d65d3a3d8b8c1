import Mathlib
import RecordSink.Proofs.Emulator.Requests

/-!
# Stores without pending faults

A store whose script is empty and whose rates are zero meets no fault: the rolls of its random source are
not negative. Whatever it is asked, it stays such a store.
-/

namespace RecordSink

open Float.Model Float.Model.UnpackedFloat

/-! ## Rolls are not negative -/

namespace Random

/-- A number is not negative: its sign, where it has one, is positive. -/
def Unsigned : UnpackedFloat → Prop
  | .infinity sign => sign = .positive
  | .notANumber => True
  | .zero sign => sign = .positive
  | .finite sign _ _ _ => sign = .positive

theorem unpackSign_pack {format : Format} {number : UnpackedFloat} (unsigned : Unsigned number) :
    unpackSign (UnpackedFloat.pack format number) = 0#1 := by
  cases number with
  | infinity sign =>
      cases unsigned
      exact unpackSign_packComponents ..
  | notANumber => exact unpackSign_packComponents ..
  | zero sign =>
      cases unsigned
      exact unpackSign_packComponents ..
  | finite sign mantissa exponent positive =>
      cases unsigned
      dsimp only [UnpackedFloat.pack]
      split
      · exact unpackSign_packComponents ..
      split
      · exact unpackSign_packComponents ..
      · exact unpackSign_packComponents ..

theorem unsigned_unpack {format : Format} {bits : BitVec format.numBits} (unsigned : unpackSign bits = 0#1) :
    Unsigned (UnpackedFloat.unpack format bits) := by
  have sign : Sign.ofBitVec (unpackSign bits) = .positive := by
    rw [unsigned]
    rfl
  dsimp only [UnpackedFloat.unpack]
  split
  · split
    · exact sign
    · trivial
  split
  · split <;> exact sign
  · exact sign

theorem unsigned_roundWithAccuracy (format : Format) (mantissa : Nat) (exponent : Int) (accuracy : Accuracy) :
    Unsigned (roundWithAccuracy format .positive mantissa exponent accuracy) := by
  dsimp only [roundWithAccuracy]
  split <;> rfl

theorem unsigned_ofNat (format : Format) (number : Nat) : Unsigned (UnpackedFloat.ofNat format number) := by
  rw [UnpackedFloat.ofNat, UnpackedFloat.ofInt, UnpackedFloat.normalize]
  have order : compare (number : Int) 0 ≠ .lt := by
    rw [Ne, Int.compare_eq_lt]
    omega
  split
  · contradiction
  · rfl
  · exact unsigned_roundWithAccuracy ..

theorem unsigned_div {format : Format} {first second : UnpackedFloat} (one : Unsigned first)
    (other : Unsigned second) : Unsigned (UnpackedFloat.div format first second) := by
  cases first <;> cases second <;> cases one <;> cases other <;>
    first
    | trivial
    | exact unsigned_roundWithAccuracy ..

theorem not_lt_zero {number : UnpackedFloat} (unsigned : Unsigned number) :
    number.lt (.zero .positive) = false := by
  cases number <;> cases unsigned <;> rfl

/-- A roll of the unit interval is not below zero. -/
theorem not_unit_lt_zero (source : Random) : ¬ source.unit.1 < 0.0 := by
  rw [unit]
  dsimp only
  generalize (source.wide.1 >>> 11) = drawn
  have dividend : Unsigned drawn.toFloat.toModel.unpack :=
    unsigned_unpack (unpackSign_pack (unsigned_ofNat _ _))
  have divisor : Unsigned (9007199254740992 : Float).toModel.unpack :=
    unsigned_unpack (by decide +kernel)
  have quotient : Unsigned (drawn.toFloat / 9007199254740992 : Float).toModel.unpack :=
    unsigned_unpack (unpackSign_pack (unsigned_div dividend divisor))
  have zero : (0.0 : Float).toModel.unpack = .zero .positive := by
    rfl
  intro below
  have less : (drawn.toFloat / 9007199254740992 : Float).toModel.unpack.lt
      (0.0 : Float).toModel.unpack = true := of_decide_eq_true below
  rw [zero, not_lt_zero quotient] at less
  cases less

end Random

namespace Emulator

/-! ## Requests without a fault -/

/-- No fault is pending: none is in the script, and no roll draws one. -/
structure IsQuiet (store : Emulator) : Prop where
  script : store.script = []
  rates : ∀ source : Random, store.rates.faultOf source.unit.1 = none

variable {store after : Emulator}

/-- Without rates no roll draws a fault. -/
theorem faultOf_none (source : Random) : FaultRates.none.faultOf source.unit.1 = none := by
  have sums : (0.0 + 0.0 : Float) = 0.0 := by decide +kernel
  have roll := source.not_unit_lt_zero
  rw [FaultRates.faultOf, FaultRates.none]
  dsimp only
  rw [sums, sums, if_neg roll, if_neg roll, if_neg roll]

theorem isQuiet_withBucket (bucket : String) : (withBucket bucket).IsQuiet :=
  ⟨rfl, faultOf_none⟩

theorem IsQuiet.congr (quiet : store.IsQuiet) (script : after.script = store.script)
    (rates : after.rates = store.rates) : after.IsQuiet := by
  refine ⟨script.trans quiet.script, ?_⟩
  rw [rates]
  exact quiet.rates

/-- In a quiet store a request meets no fault; only the random source moves on. -/
theorem IsQuiet.nextFault (quiet : store.IsQuiet) (operation : Operation) :
    ∃ random, store.nextFault operation = (none, { store with random }) := by
  have unscripted : store.script.take? operation = none := by
    rw [quiet.script]
    rfl
  rw [Emulator.nextFault, unscripted]
  dsimp only
  split
  · exact ⟨store.random, rfl⟩
  · refine ⟨store.random.unit.2, ?_⟩
    rw [quiet.rates store.random]
    rfl

theorem IsQuiet.apply (quiet : store.IsQuiet) (route : Route) (body : Bytes) :
    (store.apply route body).2.IsQuiet := by
  obtain ⟨stats, same | ⟨_, _, _, same⟩ | ⟨_, same⟩⟩ := apply_cases route body store
  all_goals
    rw [same]
    exact quiet.congr rfl rfl

theorem IsQuiet.settle (quiet : store.IsQuiet) (route : Route) (body : Bytes) :
    (store.settle none route body).2.IsQuiet := by
  dsimp only [Emulator.settle, counted]
  split
  · exact (quiet.apply route body).congr rfl rfl
  · exact quiet.apply route body

/-- A request that is authorized is settled without a fault, in a store that has only recorded it. -/
theorem IsQuiet.exchange_eq (quiet : store.IsQuiet) {request : Http.Request} {route : Route}
    (authorized : store.isAuthorized request = true)
    (routed : Route.ofRequest request.method request.url = route) (known : route.operation?.isSome) :
    ∃ reached : Emulator, reached.IsQuiet ∧ reached.objects = store.objects ∧
      reached.nextGeneration = store.nextGeneration ∧ reached.buckets = store.buckets ∧
      reached.requiredToken = store.requiredToken ∧
      store.exchange request = reached.settle none route (request.body.getD []) := by
  obtain ⟨operation, operated⟩ := Option.isSome_iff_exists.mp known
  have passed : (store.record request route).isAuthorized request = true := authorized
  have recorded : (store.record request route).IsQuiet := quiet.congr rfl rfl
  obtain ⟨random, drawn⟩ := recorded.nextFault operation
  refine ⟨{ store.record request route with random }, recorded.congr rfl rfl, rfl, rfl, rfl, rfl, ?_⟩
  dsimp only [Emulator.exchange, exchangeWith]
  rw [routed, if_neg (by rw [passed]; decide), operated]
  dsimp only
  rw [drawn]

end Emulator

end RecordSink
