import CertaintyFactor.Session.Store

/-!
# Recorders

Where finished diagnoses are kept: in memory, or in a store. A recorder in memory may be down, and
then refuses to record and to count.
-/

set_option autoImplicit false

namespace CertaintyFactor.Session

/-- Records kept in memory, in the order they were made. -/
structure Memory where
  records : List Record := []
  isDown : Bool := false
deriving DecidableEq

namespace Memory

def refusal : Error :=
  .unavailable "database offline"

def add (m : Memory) (r : Record) : Except Error Record × Memory :=
  if m.isDown then (.error refusal, m) else (.ok r, { m with records := m.records ++ [r] })

def count (m : Memory) : Except Error Nat :=
  if m.isDown then .error refusal else .ok m.records.length

def clear (m : Memory) : Memory :=
  { m with records := [] }

end Memory

/-- A place for records. -/
inductive Recorder where
  | memory (kept : Memory)
  | store (kept : Store)
deriving DecidableEq

namespace Recorder

/-- Records a summary under a stamp. -/
def record {m : Type → Type} [Monad m] [Disk m] (recorder : Recorder) (stamp : Stamp)
    (summary : Summary Binary64) : m (Except Error Record × Recorder) := do
  let r := Record.ofStamp stamp summary
  match recorder with
  | memory kept =>
    let (result, kept) := kept.add r
    return (result, memory kept)
  | store kept =>
    let (result, kept) ← kept.add r
    return (result, store kept)

def count : Recorder → Except Error Nat
  | memory kept => kept.count
  | store kept => .ok kept.count

def inMemory : Recorder → List Record
  | memory kept => kept.records
  | store _ => []

def mapMemory (f : Memory → Memory) : Recorder → Recorder
  | memory kept => memory (f kept)
  | store kept => store kept

end Recorder

end CertaintyFactor.Session
