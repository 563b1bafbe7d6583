import DistinctCount.Image.Decode
import DistinctCount.Image.Encode
import DistinctCount.Sketch.Answers
import DistinctCount.Union

/-! Aggregates over images, for a query that may meet absent values. Absent inputs
are passed over, and where every input is absent so is the answer, before anything
else is looked at. -/
namespace DistinctCount.Aggregate

structure Config where
  lgK : Nat
  seed : UInt64
deriving DecidableEq, Repr

def Config.standard : Config := ⟨Precision.standard.lgK, Hash.defaultSeed⟩

def Config.precision (config : Config) : Except Error Precision := Precision.ofNat config.lgK

/-- Counts items one after the other. -/
def updateAll (items : List (List UInt8)) (s : Sketch) : Except Fault Sketch :=
  items.foldlM Sketch.update s

/-- The image of a counter of items, given as their bytes. -/
def build (config : Config) (items : List (Option (List UInt8))) :
    Except Failure (Option (List UInt8)) :=
  match items.filterMap id with
  | [] => .ok none
  | items => do
    let p ← Failure.ofError config.precision
    let s ← Failure.ofFault (updateAll items (Sketch.new p config.seed))
    return some (← Failure.ofFault s.toImage)

/-- Merges the counters of images, one after the other. -/
def mergeAll (seed : UInt64) (images : List (List UInt8)) (u : Union) : Except Failure Union :=
  images.foldlM (fun u image => Sketch.ofImage seed image >>= u.update) u

/-- The image of the union of counters, given as images. -/
def merge (config : Config) (images : List (Option (List UInt8))) :
    Except Failure (Option (List UInt8)) :=
  match images.filterMap id with
  | [] => .ok none
  | images => do
    let p ← Failure.ofError config.precision
    let u ← mergeAll config.seed images (Union.new p config.seed)
    let s ← Failure.ofFault u.toSketch
    return some (← Failure.ofFault s.toImage)

def union (config : Config) (a b : Option (List UInt8)) : Except Failure (Option (List UInt8)) :=
  merge config [a, b]

/-- The answer of a question to the counter of an image. -/
def ask {α : Type} (config : Config) (question : Sketch → α) :
    Option (List UInt8) → Except Failure (Option α)
  | none => .ok none
  | some image => do
    let s ← Sketch.ofImage config.seed image
    return some (question s)

def estimate (config : Config) (image : Option (List UInt8)) : Except Failure (Option Float) :=
  ask config Sketch.estimate image

structure Interval where
  estimate : Float
  lower : Float
  upper : Float

/-- The estimate with bounds at a number of standard deviations. -/
def bounds (config : Config) (deviations : Nat) :
    Option (List UInt8) → Except Failure (Option Interval)
  | none => .ok none
  | some image => do
    let kappa ← Failure.ofError (Deviations.ofNumber deviations)
    ask config (fun s => ⟨s.estimate, s.lowerBound kappa, s.upperBound kappa⟩) (some image)

def summary (config : Config) (image : Option (List UInt8)) : Except Failure (Option String) :=
  ask config Sketch.summary image

end DistinctCount.Aggregate
